import SafetyConfig.Draft.Value
import SafetyConfig.Entity.Vocabulary

/-!
# Rules and violations

A draft lists its rules in the order in which they are reported; only the first broken
one is. A violation says what is wrong, which for an unknown value takes its number: there is
no violation where that number is too long to be written out, but a failure all the same.
-/

namespace SafetyConfig

inductive Reason where
  | required
  | unknownValue (value : EnumValue)
  | negative
  | prohibitedForStatic
  | prohibitedForIssueOnly
  | onlyForAllProfiles
  | noSource
  | noGroup
  deriving DecidableEq, Repr

def Reason.message : Reason → String
  | .required => "required"
  | .unknownValue value => "unknown value " ++ value.shown
  | .negative => "must not be negative"
  | .prohibitedForStatic => "prohibited for static sources"
  | .prohibitedForIssueOnly => "prohibited for issue-only sources"
  | .onlyForAllProfiles => "only allowed for sources shown on all profiles"
  | .noSource => "at least one safety source required"
  | .noGroup => "at least one safety sources group required"

/-- What a reason says can be written out if its number is short. -/
def Reason.Showable : Reason → Prop
  | .unknownValue value => Numeral.Short value.code
  | _ => True

instance : DecidablePred Reason.Showable
  | .unknownValue value => inferInstanceAs (Decidable (Numeral.Short value.code))
  | .required | .negative | .prohibitedForStatic | .prohibitedForIssueOnly
  | .onlyForAllProfiles | .noSource | .noGroup => inferInstanceAs (Decidable True)

structure Violation where
  entity : ElementName
  field : Field
  reason : Reason
  deriving DecidableEq, Repr

def Violation.message (v : Violation) : String :=
  v.entity.label ++ "." ++ v.field.label ++ ": " ++ v.reason.message

/-- Why a draft is not built. -/
inductive BuildError where
  | violation (v : Violation)
  /-- A rule is broken for a reason that cannot be written out. -/
  | unshowable
  deriving DecidableEq, Repr

def BuildError.message : BuildError → String
  | .violation v => v.message
  | .unshowable => Numeral.unwritableMessage

/-- What comes of a broken rule. -/
def Violation.raised (v : Violation) : BuildError :=
  if v.reason.Showable then .violation v else .unshowable

theorem Violation.raised_eq_violation_iff {v w : Violation} :
    v.raised = .violation w ↔ v = w ∧ w.reason.Showable := by
  unfold raised
  split
  · rename_i hshowable
    rw [BuildError.violation.injEq]
    exact ⟨fun h => ⟨h, h ▸ hshowable⟩, And.left⟩
  · rename_i hshowable
    constructor
    · rintro ⟨⟩
    · rintro ⟨rfl, h⟩
      exact absurd h hshowable

theorem Violation.raised_eq_unshowable_iff {v : Violation} :
    v.raised = .unshowable ↔ ¬ v.reason.Showable := by
  unfold raised
  split
  · rename_i hshowable
    simp [hshowable]
  · rename_i hshowable
    simp [hshowable]

structure Rule where
  field : Field
  reason : Reason
  holds : Bool
  deriving DecidableEq, Repr

namespace Rule

/-- The first rule that does not hold, as a violation of the entity's rules. -/
def firstBroken (entity : ElementName) (rules : List Rule) : Option Violation :=
  (rules.find? fun r => !r.holds).map fun r => ⟨entity, r.field, r.reason⟩

theorem firstBroken_eq_none_iff {entity : ElementName} {rules : List Rule} :
    firstBroken entity rules = none ↔ ∀ r ∈ rules, r.holds = true := by
  simp [firstBroken]

/-- What a draft settles on, if all of its rules hold. -/
def check {α : Type} (entity : ElementName) (rules : List Rule) (settled : α) :
    Except BuildError α :=
  match firstBroken entity rules with
  | some v => .error v.raised
  | none => .ok settled

theorem check_eq_ok_iff {α : Type} {entity : ElementName} {rules : List Rule} {settled a : α} :
    check entity rules settled = .ok a ↔ (∀ r ∈ rules, r.holds = true) ∧ a = settled := by
  have hnone : firstBroken entity rules = none ↔ ∀ r ∈ rules, r.holds = true :=
    firstBroken_eq_none_iff
  rw [← hnone, check]
  cases firstBroken entity rules with
  | none => simp [eq_comm]
  | some v => simp

theorem check_eq_error_iff_firstBroken {α : Type} {entity : ElementName} {rules : List Rule}
    {settled : α} {e : BuildError} :
    check entity rules settled = .error e ↔
      ∃ v, firstBroken entity rules = some v ∧ e = v.raised := by
  rw [check]
  cases firstBroken entity rules with
  | none => simp
  | some v => simp [eq_comm]

/-- What is raised is the violation of a rule that does not hold. -/
theorem exists_broken_of_check {α : Type} {entity : ElementName} {rules : List Rule} {settled : α}
    {e : BuildError} (h : check entity rules settled = .error e) :
    ∃ r ∈ rules, r.holds = false ∧ e = Violation.raised ⟨entity, r.field, r.reason⟩ := by
  obtain ⟨v, hv, rfl⟩ := check_eq_error_iff_firstBroken.mp h
  obtain ⟨r, hr, rfl⟩ := Option.map_eq_some_iff.mp hv
  refine ⟨r, List.mem_of_find?_eq_some hr, ?_, rfl⟩
  simpa using List.find?_some hr

end Rule

end SafetyConfig
