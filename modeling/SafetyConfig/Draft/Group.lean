import SafetyConfig.Draft.Source

/-!
# Drafts of groups and configurations
-/

namespace SafetyConfig

structure GroupDraft where
  id : Option String := none
  title : ResourceId := 0
  summary : ResourceId := 0
  icon : EnumValue := 0
  sources : List Source := []
  deriving DecidableEq, Repr

namespace GroupDraft

def rules (d : GroupDraft) : List Rule := [
  ⟨.id, .required, isFilled d.id⟩,
  ⟨.icon, .unknownValue d.icon, (IconKind.ofCode? d.icon.code).isSome⟩,
  ⟨.child .source, .noSource, !d.sources.isEmpty⟩]

/-- An unspecified icon is no icon. -/
def settledIcon (d : GroupDraft) : IconKind :=
  match IconKind.ofCode? d.icon.code with
  | some .privacy => .privacy
  | _ => .none

def settled (d : GroupDraft) : Group where
  id := d.id.getD ""
  title := d.title
  summary := d.summary
  icon := d.settledIcon
  sources := d.sources

def build (d : GroupDraft) : Except BuildError Group :=
  Rule.check .sourcesGroup d.rules d.settled

def addSource (d : GroupDraft) (s : Source) : GroupDraft :=
  { d with sources := d.sources ++ [s] }

end GroupDraft

def Group.toDraft (g : Group) : GroupDraft where
  id := some g.id
  title := g.title
  summary := g.summary
  icon := g.icon.code
  sources := g.sources

inductive GroupEdit where
  | id (text : Option String)
  | title (n : ResourceId)
  | summary (n : ResourceId)
  | icon (value : EnumValue)
  deriving DecidableEq, Repr

def GroupDraft.edit (d : GroupDraft) : GroupEdit → GroupDraft
  | .id text => { d with id := text }
  | .title n => { d with title := n }
  | .summary n => { d with summary := n }
  | .icon value => { d with icon := value }

structure ConfigDraft where
  groups : List Group := []
  deriving DecidableEq, Repr

namespace ConfigDraft

def rules (d : ConfigDraft) : List Rule := [
  ⟨.child .sourcesGroup, .noGroup, !d.groups.isEmpty⟩]

def build (d : ConfigDraft) : Except BuildError Config :=
  Rule.check .sourcesConfig d.rules ⟨d.groups⟩

def addGroup (d : ConfigDraft) (g : Group) : ConfigDraft :=
  ⟨d.groups ++ [g]⟩

end ConfigDraft

def Config.toDraft (c : Config) : ConfigDraft :=
  ⟨c.groups⟩

end SafetyConfig
