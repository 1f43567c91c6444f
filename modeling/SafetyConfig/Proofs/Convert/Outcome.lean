import SafetyConfig.Convert.Parse
import SafetyConfig.Proofs.Convert.Rejection

/-!
# How parsing ends

Parsing ends with a configuration or an error that accounts for itself: it comes from what
went wrong, and what it names stands in the document.
-/

namespace SafetyConfig

namespace ParseError

/-- What an error comes from directly. -/
inductive Cause where
  | fault (f : ReadFault)
  | violation (v : Violation)
  deriving DecidableEq, Repr

def Cause.messages : Cause → List String
  | .fault f => f.messages
  | .violation v => [v.message]

def cause? : ParseError → Option Cause
  | .unreadable fault => some (.fault fault)
  | .rejected (.invalidElement _ v) => v.map .violation
  | .rejected _ => none

/-- What an error says itself, before its cause is heard. -/
def headline : ParseError → String
  | .unreadable _ => "Exception while reading XML"
  | .rejected error => error.message

/-- An error is reported with its cause and nothing else behind it. -/
theorem messages_eq (e : ParseError) :
    e.messages = e.headline :: (e.cause?.map Cause.messages).getD [] := by
  match e with
  | .unreadable _ => rfl
  | .rejected (.invalidElement _ (some _)) => rfl
  | .rejected (.invalidElement _ none) => rfl
  | .rejected (.missingElement _) => rfl
  | .rejected (.notAReference _ _) => rfl
  | .rejected (.referenceMissing _ _) => rfl
  | .rejected .unshowable => rfl

/-- What has to be so for an error of a document to be right. No document has a number that cannot
be written out. -/
def Accurate (bytes : Bytes) (e : ParseError) : Prop :=
  match e with
  | .unreadable fault => e.cause? = some (.fault fault) ∧ readRaw bytes = .error fault
  | .rejected (.missingElement _) => e.cause? = none
  | .rejected (.invalidElement element _) =>
    ∃ v, e.cause? = some (.violation v) ∧ v.entity = element ∧ v.reason.Showable
  | .rejected (.notAReference text place) | .rejected (.referenceMissing text place) =>
    e.cause? = none ∧
      ∃ root, Markup.readDocument bytes = .ok root ∧ root.HoldsReference place text
  | .rejected .unshowable => False

end ParseError

theorem readRaw_eq_none_iff {bytes : Bytes} :
    readRaw bytes = .ok none ↔
      ∃ root, Markup.readDocument bytes = .ok root ∧ root.tag ≠ "safety-center-config" := by
  unfold readRaw
  cases Markup.readDocument bytes with
  | error e => simp
  | ok root =>
    by_cases htag : root.tag = ElementName.centerConfig.label
    · simp only [htag, if_true]
      cases RawConfig.ofElement root <;> simp [htag, ElementName.label]
    · simp only [htag, if_false, true_iff]
      exact ⟨root, rfl, htag⟩

/-- Everything that parsing a document can come to. -/
inductive ParseCourse (scope : ResourceScope) (bytes : Bytes) : Except ParseError Config → Prop
  | unreadable {fault : ReadFault} (h : readRaw bytes = .error fault) :
      ParseCourse scope bytes (.error (.unreadable fault))
  | otherRoot {root : Element} (h : Markup.readDocument bytes = .ok root)
      (htag : root.tag ≠ ElementName.centerConfig.label) (hraw : readRaw bytes = .ok none) :
      ParseCourse scope bytes (.error (.rejected (.missingElement .centerConfig)))
  | rejected {root : Element} {raw : RawConfig} {e : ConversionError}
      (h : Markup.readDocument bytes = .ok root)
      (htag : root.tag = ElementName.centerConfig.label) (hraw : readRaw bytes = .ok (some raw))
      (hrejection : Rejection scope root e) : ParseCourse scope bytes (.error (.rejected e))
  | config {root : Element} {raw : RawConfig} (c : Config)
      (h : Markup.readDocument bytes = .ok root)
      (htag : root.tag = ElementName.centerConfig.label) (hraw : readRaw bytes = .ok (some raw)) :
      ParseCourse scope bytes (.ok c)

theorem course_of_parse (scope : ResourceScope) (bytes : Bytes) :
    ParseCourse scope bytes (parse scope bytes) := by
  cases hdocument : Markup.readDocument bytes with
  | error e =>
    have hraw : readRaw bytes = .error (.markup e) := by
      rw [readRaw, hdocument]
    rw [parse, hraw]
    exact .unreadable hraw
  | ok root =>
    by_cases htag : root.tag = ElementName.centerConfig.label
    · cases hread : RawConfig.ofElement root with
      | error f =>
        have hraw : readRaw bytes = .error (.value f) := by
          simp only [readRaw, hdocument, htag, if_true, hread]
        rw [parse, hraw]
        exact .unreadable hraw
      | ok raw =>
        have hraw : readRaw bytes = .ok (some raw) := by
          simp only [readRaw, hdocument, htag, if_true, hread]
        cases hconvert : convertConfig scope (some raw) with
        | error e =>
          simp only [parse, hraw, hconvert]
          exact .rejected hdocument htag hraw (.of_config hread hconvert)
        | ok c =>
          simp only [parse, hraw, hconvert]
          exact .config c hdocument htag hraw
    · have hraw : readRaw bytes = .ok none := by
        simp only [readRaw, hdocument, htag, if_false]
      rw [parse, hraw]
      exact .otherRoot hdocument htag hraw

namespace Rejection

variable {scope : ResourceScope} {root : Element} {e : ConversionError}

theorem ne_centerConfig (h : Rejection scope root e) : e ≠ .missingElement .centerConfig := by
  rintro rfl
  cases h with
  | unresolved held h => rcases ResourceScope.error_of_resolve h with h | h <;> cases h

theorem accurate {bytes : Bytes} (h : Rejection scope root e)
    (hdocument : Markup.readDocument bytes = .ok root) :
    (ParseError.rejected e).Accurate bytes := by
  cases h with
  | noSources h => rfl
  | broken v h => exact ⟨v, rfl, rfl, h⟩
  | unresolved held h =>
    rcases ResourceScope.error_of_resolve h with rfl | rfl
    · exact ⟨rfl, root, hdocument, held⟩
    · exact ⟨rfl, root, hdocument, held⟩

end Rejection

/-- How parsing ends when all that it needs has been given. -/
structure Outcome (bytes : Bytes) (result : Except ParseFailure Config) : Prop where
  known : (∃ c, result = .ok c) ∨ ∃ e, result = .error (.refused e)
  accurate : ∀ e, result = .error (.refused e) → e.Accurate bytes
  unreadable : ∀ fault,
    result = .error (.refused (.unreadable fault)) ↔ readRaw bytes = .error fault
  otherRoot : result = .error (.refused (.rejected (.missingElement .centerConfig))) ↔
    ∃ root, Markup.readDocument bytes = .ok root ∧ root.tag ≠ "safety-center-config"

theorem outcome_of_course {scope : ResourceScope} {bytes : Bytes}
    {result : Except ParseError Config} (h : ParseCourse scope bytes result) :
    Outcome bytes (result.mapError .refused) := by
  cases h with
  | unreadable h =>
    refine ⟨Or.inr ⟨_, rfl⟩, ?_, ?_, ?_⟩
    · rintro e ⟨⟩
      exact ⟨rfl, h⟩
    · intro fault
      simp [Except.mapError, h]
    · rw [← readRaw_eq_none_iff]
      simp [Except.mapError, h]
  | otherRoot h htag hraw =>
    refine ⟨Or.inr ⟨_, rfl⟩, ?_, ?_, ?_⟩
    · rintro e ⟨⟩
      rfl
    · intro fault
      simp [Except.mapError, hraw]
    · rw [← readRaw_eq_none_iff]
      simp [Except.mapError, hraw]
  | rejected h htag hraw hrejection =>
    refine ⟨Or.inr ⟨_, rfl⟩, ?_, ?_, ?_⟩
    · rintro e ⟨⟩
      exact hrejection.accurate h
    · intro fault
      simp [Except.mapError, hraw]
    · rw [← readRaw_eq_none_iff]
      simp [Except.mapError, hraw, hrejection.ne_centerConfig]
  | config c h htag hraw =>
    refine ⟨Or.inl ⟨c, rfl⟩, ?_, ?_, ?_⟩
    · rintro e ⟨⟩
    · intro fault
      simp [Except.mapError, hraw]
    · rw [← readRaw_eq_none_iff]
      simp [Except.mapError, hraw]

theorem parseGiven_eq (bytes : Bytes) (package : Text) (table : ResourceTable) :
    parseGiven (some bytes) (some package) (some table) =
      (parse ⟨some package, table⟩ bytes).mapError .refused := by
  simp only [parseGiven]
  cases parse ⟨some package, table⟩ bytes <;> rfl

theorem parseGiven_outcome :
    (∀ bytes package table, Outcome bytes (parseGiven (some bytes) (some package) (some table))) ∧
    (∀ package table, parseGiven none package table = .error (.missing .stream)) ∧
    (∀ bytes table, parseGiven (some bytes) none table = .error (.missing .package)) ∧
    ∀ bytes package,
      parseGiven (some bytes) (some package) none = .error (.missing .resources) := by
  refine ⟨?_, fun _ _ => rfl, fun _ _ => rfl, fun _ _ => rfl⟩
  intro bytes package table
  rw [parseGiven_eq]
  exact outcome_of_course (course_of_parse ⟨some package, table⟩ bytes)

end SafetyConfig
