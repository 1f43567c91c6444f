import SafetyConfig.Draft.Rule
import SafetyConfig.Entity.Basic

/-!
# Drafts of safety sources

A draft takes any values, also for its enumerations. Building it checks the rules for
its kind and fills in the defaults.
-/

namespace SafetyConfig

structure SourceDraft where
  kind : EnumValue := 0
  id : Option String := none
  packageName : Option String := none
  title : ResourceId := 0
  titleForWork : ResourceId := 0
  summary : ResourceId := 0
  intentAction : Option String := none
  profile : EnumValue := 0
  displayState : EnumValue := 0
  maxSeverity : Option Int := none
  searchTerms : ResourceId := 0
  receiver : Option String := none
  disallowLogging : Bool := false
  refreshOnOpen : Bool := false
  deriving DecidableEq, Repr

/-- A text that is there and not empty. -/
def isFilled (text : Option String) : Bool :=
  match text with
  | some s => s != ""
  | none => false

namespace SourceDraft

def staticRules (d : SourceDraft) : List Rule := [
  ⟨.intentAction, .required, isFilled d.intentAction⟩,
  ⟨.receiver, .prohibitedForStatic, d.receiver.isNone⟩,
  ⟨.displayState, .prohibitedForStatic, d.displayState.code == 0⟩,
  ⟨.maxSeverity, .prohibitedForStatic, d.maxSeverity.isNone⟩,
  ⟨.disallowLogging, .prohibitedForStatic, !d.disallowLogging⟩,
  ⟨.refreshOnOpen, .prohibitedForStatic, !d.refreshOnOpen⟩]

def dynamicRules (d : SourceDraft) : List Rule := [
  ⟨.packageName, .required, isFilled d.packageName⟩,
  ⟨.intentAction, .required,
    d.displayState.code == DisplayState.hidden.code || isFilled d.intentAction⟩]

def issueOnlyRules (d : SourceDraft) : List Rule := [
  ⟨.packageName, .required, isFilled d.packageName⟩,
  ⟨.title, .prohibitedForIssueOnly, d.title == 0⟩,
  ⟨.titleForWork, .prohibitedForIssueOnly, d.titleForWork == 0⟩,
  ⟨.summary, .prohibitedForIssueOnly, d.summary == 0⟩,
  ⟨.searchTerms, .prohibitedForIssueOnly, d.searchTerms == 0⟩,
  ⟨.intentAction, .prohibitedForIssueOnly, d.intentAction.isNone⟩,
  ⟨.displayState, .prohibitedForIssueOnly, d.displayState.code == 0⟩]

def kindRules (d : SourceDraft) : List Rule :=
  match SourceKind.ofCode? d.kind.code with
  | some .static => d.staticRules
  | some .dynamic => d.dynamicRules
  | some .issueOnly => d.issueOnlyRules
  | _ => []

/-- The rules of a draft, in the order in which they are reported. -/
def rules (d : SourceDraft) : List Rule :=
  [⟨.kind, .unknownValue d.kind, (SourceKind.ofCode? d.kind.code).isSome⟩,
   ⟨.kind, .required, d.kind.code != 0⟩,
   ⟨.id, .required, isFilled d.id⟩,
   ⟨.profile, .unknownValue d.profile, (Profile.ofCode? d.profile.code).isSome⟩,
   ⟨.displayState, .unknownValue d.displayState,
    (DisplayState.ofCode? d.displayState.code).isSome⟩,
   ⟨.maxSeverity, .negative, d.maxSeverity.all (0 ≤ ·)⟩] ++
  d.kindRules ++
  [⟨.titleForWork, .onlyForAllProfiles,
    d.titleForWork == 0 || d.profile.code == Profile.all.code⟩]

/-- An unspecified profile is the primary one. -/
def settledProfile (d : SourceDraft) : Profile :=
  match Profile.ofCode? d.profile.code with
  | some .all => .all
  | _ => .primary

/-- A dynamic source without a display state is enabled. -/
def settledDisplayState (d : SourceDraft) : DisplayState :=
  match SourceKind.ofCode? d.kind.code, DisplayState.ofCode? d.displayState.code with
  | some .dynamic, some .unspecified => .enabled
  | _, state => state.getD .unspecified

/-- The source a draft describes once its rules hold. -/
def settled (d : SourceDraft) : Source where
  kind := (SourceKind.ofCode? d.kind.code).getD .unspecified
  id := d.id.getD ""
  packageName := d.packageName
  title := d.title
  titleForWork := d.titleForWork
  summary := d.summary
  intentAction := d.intentAction
  profile := d.settledProfile
  displayState := d.settledDisplayState
  maxSeverity := d.maxSeverity
  searchTerms := d.searchTerms
  receiver := d.receiver
  disallowLogging := d.disallowLogging
  refreshOnOpen := d.refreshOnOpen

def build (d : SourceDraft) : Except BuildError Source :=
  Rule.check .source d.rules d.settled

end SourceDraft

/-- A draft that holds what the source holds. Its members are known ones, so that only their codes
are ever looked at. -/
def Source.toDraft (s : Source) : SourceDraft where
  kind := s.kind.code
  id := some s.id
  packageName := s.packageName
  title := s.title
  titleForWork := s.titleForWork
  summary := s.summary
  intentAction := s.intentAction
  profile := s.profile.code
  displayState := s.displayState.code
  maxSeverity := s.maxSeverity
  searchTerms := s.searchTerms
  receiver := s.receiver
  disallowLogging := s.disallowLogging
  refreshOnOpen := s.refreshOnOpen

/-- One field of a source draft set to a value. -/
inductive SourceEdit where
  | kind (value : EnumValue)
  | id (text : Option String)
  | packageName (text : Option String)
  | title (n : ResourceId)
  | titleForWork (n : ResourceId)
  | summary (n : ResourceId)
  | intentAction (text : Option String)
  | profile (value : EnumValue)
  | displayState (value : EnumValue)
  | maxSeverity (level : Option Int)
  | searchTerms (n : ResourceId)
  | receiver (text : Option String)
  | disallowLogging (b : Bool)
  | refreshOnOpen (b : Bool)
  deriving DecidableEq, Repr

def SourceDraft.edit (d : SourceDraft) : SourceEdit → SourceDraft
  | .kind value => { d with kind := value }
  | .id text => { d with id := text }
  | .packageName text => { d with packageName := text }
  | .title n => { d with title := n }
  | .titleForWork n => { d with titleForWork := n }
  | .summary n => { d with summary := n }
  | .intentAction text => { d with intentAction := text }
  | .profile value => { d with profile := value }
  | .displayState value => { d with displayState := value }
  | .maxSeverity level => { d with maxSeverity := level }
  | .searchTerms n => { d with searchTerms := n }
  | .receiver text => { d with receiver := text }
  | .disallowLogging b => { d with disallowLogging := b }
  | .refreshOnOpen b => { d with refreshOnOpen := b }

end SafetyConfig
