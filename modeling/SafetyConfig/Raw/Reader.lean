import SafetyConfig.Markup.Document
import SafetyConfig.Raw.Attribute
import SafetyConfig.Raw.Tree

/-!
# Reading raw trees

Elements and attributes that are not known are passed over. The first value that has not
the right form ends the reading.
-/

namespace SafetyConfig

namespace RawSource

def ofElement (e : Element) : Except AttributeFault RawSource := do
  let kind ← readCode .kind SourceKind.named (e.attribute? "type")
  let profile ← readCode .profile Profile.named (e.attribute? "profile")
  let displayState ← readCode .displayState DisplayState.named
    (e.attribute? "initialDisplayState")
  let maxSeverity ← readInteger .maxSeverity (e.attribute? "maxSeverityLevel")
  let disallowLogging ← readBoolean .disallowLogging (e.attribute? "disallowLogging")
  let refreshOnOpen ← readBoolean .refreshOnOpen (e.attribute? "allowRefreshOnPageOpen")
  return {
    kind := kind
    id := e.attribute? "id"
    packageName := e.attribute? "packageName"
    title := e.attribute? "title"
    titleForWork := e.attribute? "titleForWork"
    summary := e.attribute? "summary"
    intentAction := e.attribute? "intentAction"
    profile := profile
    displayState := displayState
    maxSeverity := maxSeverity
    searchTerms := e.attribute? "searchTerms"
    receiver := e.attribute? "broadcastReceiverClassName"
    disallowLogging := disallowLogging
    refreshOnOpen := refreshOnOpen }

end RawSource

def RawGroup.ofElement (e : Element) : Except AttributeFault RawGroup := do
  let icon ← readCode .icon IconKind.named (e.attribute? "statelessIconType")
  let sources ← (e.childrenTagged ElementName.source.label).mapM RawSource.ofElement
  return ⟨e.attribute? "id", e.attribute? "title", e.attribute? "summary", icon, sources.map some⟩

/-- The raw tree below the root; only its first child with the right tag counts. -/
def RawConfig.ofElement (e : Element) : Except AttributeFault RawConfig :=
  match e.childTagged? ElementName.sourcesConfig.label with
  | none => .ok ⟨none⟩
  | some s => do
    let groups ← (s.childrenTagged ElementName.sourcesGroup.label).mapM RawGroup.ofElement
    return ⟨some ⟨some (groups.map some)⟩⟩

inductive ReadFault where
  | markup (e : MarkupError)
  | value (f : AttributeFault)
  deriving DecidableEq, Repr

/-- The messages of a fault and of what it comes from, outermost first. -/
def ReadFault.messages : ReadFault → List String
  | .markup e => e.messages
  | .value f => [f.message]

/-- The raw tree of a document; none if it has another root. -/
def readRaw (bytes : Bytes) : Except ReadFault (Option RawConfig) :=
  match Markup.readDocument bytes with
  | .error e => .error (.markup e)
  | .ok root =>
    if root.tag = ElementName.centerConfig.label then
      match RawConfig.ofElement root with
      | .ok r => .ok (some r)
      | .error f => .error (.value f)
    else .ok none

end SafetyConfig
