import SafetyConfig.Entity.Kind
import SafetyConfig.Json.Value

/-!
# Safety sources, groups and configurations

Plain records. Which of them are valid is the matter of the drafts they are built
from. A resource identifier of zero means that there is no resource.
-/

namespace SafetyConfig

abbrev ResourceId := Int

structure Source where
  kind : SourceKind
  id : String
  packageName : Option String
  title : ResourceId
  titleForWork : ResourceId
  summary : ResourceId
  intentAction : Option String
  profile : Profile
  displayState : DisplayState
  maxSeverity : Option Int
  searchTerms : ResourceId
  receiver : Option String
  disallowLogging : Bool
  refreshOnOpen : Bool
  deriving DecidableEq, Repr

/-- The fields of a source under their published names, in their published order. -/
def Source.toJson (s : Source) : Json :=
  Json.record [
    ("type", .ofString s.kind.label),
    ("id", .ofString s.id),
    ("package_name", .ofOption .ofString s.packageName),
    ("title_res_id", .int s.title),
    ("title_for_work_res_id", .int s.titleForWork),
    ("summary_res_id", .int s.summary),
    ("intent_action", .ofOption .ofString s.intentAction),
    ("profile", .ofString s.profile.label),
    ("initial_display_state", .ofString s.displayState.label),
    ("max_severity_level", .ofOption .int s.maxSeverity),
    ("search_terms_res_id", .int s.searchTerms),
    ("broadcast_receiver_class_name", .ofOption .ofString s.receiver),
    ("disallow_logging", .bool s.disallowLogging),
    ("allow_refresh_on_page_open", .bool s.refreshOnOpen)]

structure Group where
  id : String
  title : ResourceId
  summary : ResourceId
  icon : IconKind
  sources : List Source
  deriving DecidableEq, Repr

def Group.toJson (g : Group) : Json :=
  Json.record [
    ("id", .ofString g.id),
    ("title_res_id", .int g.title),
    ("summary_res_id", .int g.summary),
    ("stateless_icon_type", .ofString g.icon.label),
    ("safety_sources", .array (g.sources.map Source.toJson))]

structure Config where
  groups : List Group
  deriving DecidableEq, Repr

namespace Config

def toJson (c : Config) : Json :=
  Json.record [("safety_sources_groups", .array (c.groups.map Group.toJson))]

/-- The sources of all groups, in document order. -/
def sources (c : Config) : List Source :=
  c.groups.flatMap (·.sources)

/-- The first group with an id; ids may repeat. -/
def findGroup? (c : Config) (id : String) : Option Group :=
  c.groups.find? (·.id == id)

def findSource? (c : Config) (id : String) : Option Source :=
  c.sources.find? (·.id == id)

end Config

end SafetyConfig
