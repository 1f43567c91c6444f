import SafetyConfig.Convert.Error
import SafetyConfig.Draft.Group
import SafetyConfig.Raw.Tree
import SafetyConfig.Resource.Table

/-!
# From raw trees to configurations

Conversion walks the tree in document order and stops at the first thing that is missing,
does not resolve or breaks a rule.
-/

namespace SafetyConfig

/-- The package and table in which references are looked up. -/
structure ResourceScope where
  package : Option Text
  table : ResourceTable
  deriving DecidableEq, Repr

def referenceStart : Text := Text.ofString "@string/"

/-- What a reference names, if it is one: the text after its first character. -/
def referencedName? (reference : Text) : Option Text :=
  if referenceStart.isPrefixOf reference then some (reference.drop 1) else none

namespace ResourceScope

/-- A reference is looked up as it is, also where it is no string and cannot be shown. -/
def resolveText (scope : ResourceScope) (place : Place) (reference : Text) :
    Except ConversionError ResourceId :=
  match referencedName? reference with
  | none => .error (.notAReference (Text.toString reference) place)
  | some name =>
    let id := scope.table.getIdentifier name none scope.package
    if id = 0 then .error (.referenceMissing (Text.toString reference) place) else .ok id

def resolve (scope : ResourceScope) (place : Place) (reference : String) :
    Except ConversionError ResourceId :=
  scope.resolveText place (Text.ofString reference)

/-- An absent reference is no resource. -/
def resolveOptional (scope : ResourceScope) (element : ElementName) (field : Field) :
    Option String → Except ConversionError ResourceId
  | none => .ok 0
  | some reference => scope.resolve ⟨element.label, field.label⟩ reference

end ResourceScope

/-- A violation makes its element invalid; any other failure of a draft passes as it is. -/
def BuildError.invalid (element : ElementName) : BuildError → ConversionError
  | .violation v => .invalidElement element (some v)
  | .unshowable => .unshowable

def orInvalid {α : Type} (element : ElementName) : Except BuildError α → Except ConversionError α
  | .ok a => .ok a
  | .error e => .error (e.invalid element)

theorem orInvalid_eq_ok_iff {α : Type} {element : ElementName} {x : Except BuildError α} {a : α} :
    orInvalid element x = .ok a ↔ x = .ok a := by
  cases x <;> simp [orInvalid]

theorem orInvalid_eq_error_iff {α : Type} {element : ElementName} {x : Except BuildError α}
    {e : ConversionError} :
    orInvalid element x = .error e ↔ ∃ b, x = .error b ∧ e = b.invalid element := by
  cases x with
  | ok a => simp [orInvalid]
  | error b => simp [orInvalid, eq_comm]

namespace RawSource

def toDraft (r : RawSource) (title titleForWork summary searchTerms : ResourceId) :
    SourceDraft where
  kind := r.kind
  id := r.id
  packageName := r.packageName
  title := title
  titleForWork := titleForWork
  summary := summary
  intentAction := r.intentAction
  profile := r.profile
  displayState := r.displayState
  maxSeverity := r.maxSeverity
  searchTerms := searchTerms
  receiver := r.receiver
  disallowLogging := r.disallowLogging
  refreshOnOpen := r.refreshOnOpen

def convert (scope : ResourceScope) (r : RawSource) : Except ConversionError Source := do
  let title ← scope.resolveOptional .source .title r.title
  let titleForWork ← scope.resolveOptional .source .titleForWork r.titleForWork
  let summary ← scope.resolveOptional .source .summary r.summary
  let searchTerms ← scope.resolveOptional .source .searchTerms r.searchTerms
  orInvalid .source (r.toDraft title titleForWork summary searchTerms).build

end RawSource

def convertSource (scope : ResourceScope) : Option RawSource → Except ConversionError Source
  | none => .error (.invalidElement .source none)
  | some r => r.convert scope

namespace RawGroup

def convert (scope : ResourceScope) (r : RawGroup) : Except ConversionError Group := do
  let title ← scope.resolveOptional .sourcesGroup .title r.title
  let summary ← scope.resolveOptional .sourcesGroup .summary r.summary
  let sources ← r.sources.mapM (convertSource scope)
  let draft : GroupDraft := ⟨r.id, title, summary, r.icon, sources⟩
  orInvalid .sourcesGroup draft.build

end RawGroup

def convertGroup (scope : ResourceScope) : Option RawGroup → Except ConversionError Group
  | none => .error (.invalidElement .sourcesGroup none)
  | some r => r.convert scope

namespace RawConfig

def convert (scope : ResourceScope) (r : RawConfig) : Except ConversionError Config :=
  match r.sourcesConfig with
  | none => .error (.missingElement .sourcesConfig)
  | some ⟨none⟩ => .error (.invalidElement .sourcesConfig none)
  | some ⟨some groups⟩ => do
    let groups ← groups.mapM (convertGroup scope)
    orInvalid .sourcesConfig (ConfigDraft.mk groups).build

end RawConfig

def convertConfig (scope : ResourceScope) : Option RawConfig → Except ConversionError Config
  | none => .error (.missingElement .centerConfig)
  | some r => r.convert scope

end SafetyConfig
