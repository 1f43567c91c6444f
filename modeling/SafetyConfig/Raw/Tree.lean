import SafetyConfig.Entity.Basic

/-!
# Raw configuration trees

What a document says before any of it is checked: enumerations are codes, references are
texts, and an element that could not be made sense of is missing from its list.
-/

namespace SafetyConfig

structure RawSource where
  kind : Int := 0
  id : Option String := none
  packageName : Option String := none
  title : Option String := none
  titleForWork : Option String := none
  summary : Option String := none
  intentAction : Option String := none
  profile : Int := 0
  displayState : Int := 0
  maxSeverity : Option Int := none
  searchTerms : Option String := none
  receiver : Option String := none
  disallowLogging : Bool := false
  refreshOnOpen : Bool := false
  deriving DecidableEq, Repr

structure RawGroup where
  id : Option String := none
  title : Option String := none
  summary : Option String := none
  icon : Int := 0
  sources : List (Option RawSource) := []
  deriving DecidableEq, Repr

/-- No list at all stands for a malformed element, as opposed to an empty one. -/
structure RawSourcesConfig where
  groups : Option (List (Option RawGroup)) := some []
  deriving DecidableEq, Repr

structure RawConfig where
  sourcesConfig : Option RawSourcesConfig := none
  deriving DecidableEq, Repr

namespace RawSource

def toJson (s : RawSource) : Json :=
  Json.record [
    ("type", .int s.kind),
    ("id", .ofOption .ofString s.id),
    ("package_name", .ofOption .ofString s.packageName),
    ("title", .ofOption .ofString s.title),
    ("title_for_work", .ofOption .ofString s.titleForWork),
    ("summary", .ofOption .ofString s.summary),
    ("intent_action", .ofOption .ofString s.intentAction),
    ("profile", .int s.profile),
    ("initial_display_state", .int s.displayState),
    ("max_severity_level", .ofOption .int s.maxSeverity),
    ("search_terms", .ofOption .ofString s.searchTerms),
    ("broadcast_receiver_class_name", .ofOption .ofString s.receiver),
    ("disallow_logging", .bool s.disallowLogging),
    ("allow_refresh_on_page_open", .bool s.refreshOnOpen)]

end RawSource

def RawGroup.toJson (g : RawGroup) : Json :=
  Json.record [
    ("id", .ofOption .ofString g.id),
    ("title", .ofOption .ofString g.title),
    ("summary", .ofOption .ofString g.summary),
    ("stateless_icon_type", .int g.icon),
    ("safety_sources", .array (g.sources.map (Json.ofOption RawSource.toJson)))]

def RawSourcesConfig.toJson (c : RawSourcesConfig) : Json :=
  Json.record [
    ("safety_sources_groups",
      .ofOption (fun gs => .array (gs.map (Json.ofOption RawGroup.toJson))) c.groups)]

def RawConfig.toJson (c : RawConfig) : Json :=
  Json.record [("safety_sources_config", .ofOption RawSourcesConfig.toJson c.sourcesConfig)]

end SafetyConfig
