import SafetyConfig.Convert.Basic
import SafetyConfig.Proofs.Sequencing

/-!
# References that resolve

A reference resolves if it is written as one and the table has an identifier for its name.
An absent reference always does, to no resource.
-/

namespace SafetyConfig

/-- The same said of the same reference at another place. -/
def ConversionError.movedTo (other : Place) : ConversionError → ConversionError
  | .notAReference reference _ => .notAReference reference other
  | .referenceMissing reference _ => .referenceMissing reference other
  | e => e

namespace ResourceScope

variable {scope : ResourceScope}

/-- What the table has for the text behind the first character; zero if it has nothing. -/
def identifier (scope : ResourceScope) (reference : String) : ResourceId :=
  scope.table.getIdentifier ((Text.ofString reference).drop 1) none scope.package

structure Resolves (scope : ResourceScope) (reference : String) : Prop where
  start : "@string/".toList <+: reference.toList
  found : scope.identifier reference ≠ 0

def optionalIdentifier (scope : ResourceScope) : Option String → ResourceId
  | none => 0
  | some reference => scope.identifier reference

def OptionalResolves (scope : ResourceScope) (text : Option String) : Prop :=
  ∀ reference, text = some reference → scope.Resolves reference

theorem OptionalResolves.eq_none_iff {text : Option String} (h : scope.OptionalResolves text) :
    scope.optionalIdentifier text = 0 ↔ text = none := by
  cases text with
  | none => simp [optionalIdentifier]
  | some reference => simpa [optionalIdentifier] using (h reference rfl).found

/-! A reference that is any text. -/

section AnyText

variable {place : Place} {reference : Text}

theorem resolveText_of_not_start (h : ¬ referenceStart <+: reference) :
    scope.resolveText place reference =
      .error (.notAReference (Text.toString reference) place) := by
  have hname : referencedName? reference = none := by
    rw [referencedName?, if_neg]
    exact fun hs => h (List.isPrefixOf_iff_prefix.mp hs)
  simp only [resolveText, hname]

theorem resolveText_of_start (h : referenceStart <+: reference) :
    scope.resolveText place reference =
      if scope.table.getIdentifier (reference.drop 1) none scope.package = 0 then
        .error (.referenceMissing (Text.toString reference) place)
      else .ok (scope.table.getIdentifier (reference.drop 1) none scope.package) := by
  have hname : referencedName? reference = some (reference.drop 1) := by
    rw [referencedName?, if_pos]
    exact List.isPrefixOf_iff_prefix.mpr h
  simp only [resolveText, hname]

theorem start_of_resolveText {n : ResourceId} (h : scope.resolveText place reference = .ok n) :
    referenceStart <+: reference := by
  by_contra hstart
  rw [resolveText_of_not_start hstart] at h
  cases h

theorem error_of_resolveText {e : ConversionError}
    (h : scope.resolveText place reference = .error e) :
    e = .notAReference (Text.toString reference) place ∨
      e = .referenceMissing (Text.toString reference) place := by
  by_cases hstart : referenceStart <+: reference
  · rw [resolveText_of_start hstart] at h
    split at h
    · cases h
      exact Or.inr rfl
    · cases h
  · rw [resolveText_of_not_start hstart] at h
    cases h
    exact Or.inl rfl

end AnyText

/-! A reference that is a string. -/

theorem referenceStart_prefix_iff {reference : String} :
    referenceStart <+: Text.ofString reference ↔ "@string/".toList <+: reference.toList :=
  List.prefix_map_iff_of_injective fun _ _ h => CodePoint.ofChar_injective h

theorem resolve_of_not_start {place : Place} {reference : String}
    (h : ¬"@string/".toList <+: reference.toList) :
    scope.resolve place reference = .error (.notAReference reference place) := by
  rw [resolve, resolveText_of_not_start (referenceStart_prefix_iff.not.mpr h),
    Text.toString_ofString]

theorem resolve_of_start {place : Place} {reference : String}
    (h : "@string/".toList <+: reference.toList) :
    scope.resolve place reference =
      if scope.identifier reference = 0 then .error (.referenceMissing reference place)
      else .ok (scope.identifier reference) := by
  rw [resolve, resolveText_of_start (referenceStart_prefix_iff.mpr h), Text.toString_ofString]
  rfl

theorem resolve_eq_ok_iff {place : Place} {reference : String} {n : ResourceId} :
    scope.resolve place reference = .ok n ↔
      scope.Resolves reference ∧ n = scope.identifier reference := by
  by_cases hstart : "@string/".toList <+: reference.toList
  · rw [resolve_of_start hstart]
    split
    · rename_i hzero
      constructor
      · intro h
        cases h
      · rintro ⟨hresolves, _⟩
        exact absurd hzero hresolves.found
    · rename_i hfound
      constructor
      · intro h
        cases h
        exact ⟨⟨hstart, hfound⟩, rfl⟩
      · rintro ⟨_, rfl⟩
        rfl
  · rw [resolve_of_not_start hstart]
    constructor
    · intro h
      cases h
    · rintro ⟨hresolves, _⟩
      exact absurd hresolves.start hstart

theorem error_of_resolve {place : Place} {reference : String} {e : ConversionError}
    (h : scope.resolve place reference = .error e) :
    e = .notAReference reference place ∨ e = .referenceMissing reference place := by
  have herror := error_of_resolveText h
  rwa [Text.toString_ofString] at herror

/-- What is wrong with a reference is wrong with it at any place. -/
theorem resolve_movedTo {place : Place} {reference : String} {e : ConversionError}
    (h : scope.resolve place reference = .error e) (other : Place) :
    scope.resolve other reference = .error (e.movedTo other) := by
  by_cases hstart : "@string/".toList <+: reference.toList
  · rw [resolve_of_start hstart] at h ⊢
    split at h
    · rename_i hzero
      cases h
      rw [if_pos hzero]
      rfl
    · cases h
  · rw [resolve_of_not_start hstart] at h ⊢
    cases h
    rfl

theorem resolveOptional_eq_ok_iff {element : ElementName} {field : Field} {text : Option String}
    {n : ResourceId} :
    scope.resolveOptional element field text = .ok n ↔
      scope.OptionalResolves text ∧ n = scope.optionalIdentifier text := by
  cases text with
  | none => simp [resolveOptional, OptionalResolves, optionalIdentifier, eq_comm]
  | some reference =>
    rw [resolveOptional, resolve_eq_ok_iff]
    simp [OptionalResolves, optionalIdentifier]

end ResourceScope

end SafetyConfig
