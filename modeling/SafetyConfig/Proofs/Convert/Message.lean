import SafetyConfig.Proofs.Convert.Outcome

/-!
# What a message tells

A message about a reference begins as no message about an element does, and ends with the place
of the reference. So the reference can be read off the message, whatever it is made of.
-/

namespace SafetyConfig

/-! How messages begin. -/

/-- What a text begins with, it still begins with when more follows. -/
theorem head?_append {s : String} {c : Char} (hs : s.toList.head? = some c) (rest : String) :
    (s ++ rest).toList.head? = some c := by
  have hne : s.toList ≠ [] := by
    intro hnil
    rw [hnil] at hs
    cases hs
  rw [String.toList_append, List.head?_append_of_ne_nil _ hne, hs]

theorem head?_messageChain {m : String} {c : Char} (hm : m.toList.head? = some c)
    (ms : List String) : (messageChain (m :: ms)).toList.head? = some c := by
  induction ms generalizing m with
  | nil => exact hm
  | cons cause ms ih =>
    have hlonger : (m ++ "\n  caused by: " ++ cause).toList.head? = some c :=
      head?_append (head?_append hm _) _
    exact ih hlonger

namespace ConversionError

/-- The first letter of a message. -/
def initial : ConversionError → Char
  | .missingElement _ => 'E'
  | .invalidElement _ _ => 'E'
  | .notAReference _ _ => 'S'
  | .referenceMissing _ _ => 'R'
  | .unshowable => 'E'

theorem head?_message (e : ConversionError) : e.message.toList.head? = some e.initial := by
  cases e with
  | missingElement element => exact head?_append (head?_append rfl _) _
  | invalidElement element cause => exact head?_append (head?_append rfl _) _
  | notAReference reference place =>
    iterate 6 apply head?_append
    rfl
  | referenceMissing reference place =>
    iterate 6 apply head?_append
    rfl
  | unshowable => decide +kernel

end ConversionError

namespace ParseError

def initial : ParseError → Char
  | .unreadable _ => 'E'
  | .rejected e => e.initial

theorem head?_message (e : ParseError) : e.message.toList.head? = some e.initial := by
  have hheadline : e.headline.toList.head? = some e.initial := by
    cases e with
    | unreadable fault =>
      have hstart : "Exception while reading XML".toList.head? = some 'E' := by decide +kernel
      exact hstart
    | rejected e => exact e.head?_message
  rw [message, messages_eq]
  exact head?_messageChain hheadline _

end ParseError

/-! How messages about references end. -/

/-- What is wrong with a reference, as messages end with it. -/
def referenceVerdicts : List String :=
  [" missing", " is not a reference"]

/-- What stands behind a reference in a message. -/
def Place.ending (p : Place) (verdict : String) : List Char :=
  " in ".toList ++ p.parent.toList ++ ".".toList ++ p.name.toList ++ verdict.toList

/-- No place that is known ends like another one. -/
theorem eq_of_ending_suffix {verdict : String} (hverdict : verdict ∈ referenceVerdicts) :
    ∀ p ∈ referencePlaces, ∀ q ∈ referencePlaces,
      p.ending verdict <:+ q.ending verdict → p = q := by
  revert verdict
  decide +kernel

theorem eq_of_append_ending {verdict r s : String} {p q : Place}
    (hverdict : verdict ∈ referenceVerdicts) (hp : p ∈ referencePlaces) (hq : q ∈ referencePlaces)
    (h : r.toList ++ p.ending verdict = s.toList ++ q.ending verdict) : r = s ∧ p = q := by
  have hsuffix : p.ending verdict <:+ s.toList ++ q.ending verdict := h ▸ List.suffix_append _ _
  have hsame : p = q := by
    rcases List.suffix_or_suffix_of_suffix hsuffix (List.suffix_append _ _) with hpq | hqp
    · exact eq_of_ending_suffix hverdict p hp q hq hpq
    · exact (eq_of_ending_suffix hverdict q hq p hp hqp).symm
  subst hsame
  exact ⟨String.toList_injective (List.append_cancel_right h), rfl⟩

namespace ConversionError

variable {e f : ConversionError} {r s : String} {p q : Place}

theorem toList_message_notAReference (r : String) (p : Place) :
    (notAReference r p).message.toList =
      "String ".toList ++ (r.toList ++ p.ending " is not a reference") := by
  change ("String " ++ r ++ " in " ++ p.parent ++ "." ++ p.name ++ " is not a reference").toList = _
  delta Place.ending
  simp

theorem toList_message_referenceMissing (r : String) (p : Place) :
    (referenceMissing r p).message.toList =
      "Reference ".toList ++ (r.toList ++ p.ending " missing") := by
  change ("Reference " ++ r ++ " in " ++ p.parent ++ "." ++ p.name ++ " missing").toList = _
  delta Place.ending
  simp

/-- A fault that a reference has at a place. -/
def IsAbout (e : ConversionError) (reference : String) (place : Place) : Prop :=
  e = .notAReference reference place ∨ e = .referenceMissing reference place

/-- Messages about references at known places are told apart by their faults. -/
theorem IsAbout.eq_of_message (he : e.IsAbout r p) (hf : f.IsAbout s q)
    (hp : p ∈ referencePlaces) (hq : q ∈ referencePlaces) (h : e.message = f.message) :
    e = f := by
  have hinitial : e.initial = f.initial := by
    have hhead := e.head?_message
    rw [h, f.head?_message] at hhead
    exact (Option.some.inj hhead).symm
  have hlist := congrArg String.toList h
  rcases he with rfl | rfl <;> rcases hf with rfl | rfl
  · rw [toList_message_notAReference, toList_message_notAReference] at hlist
    have hverdict : " is not a reference" ∈ referenceVerdicts := .tail _ (.head _)
    obtain ⟨rfl, rfl⟩ := eq_of_append_ending hverdict hp hq (List.append_cancel_left hlist)
    rfl
  · cases hinitial
  · cases hinitial
  · rw [toList_message_referenceMissing, toList_message_referenceMissing] at hlist
    have hverdict : " missing" ∈ referenceVerdicts := .head _
    obtain ⟨rfl, rfl⟩ := eq_of_append_ending hverdict hp hq (List.append_cancel_left hlist)
    rfl

theorem IsAbout.unique (h : e.IsAbout r p) (h' : e.IsAbout s q) : r = s ∧ p = q := by
  rcases h with rfl | rfl <;> rcases h' with h' | h' <;> cases h' <;> exact ⟨rfl, rfl⟩

theorem IsAbout.initial_ne (h : e.IsAbout r p) : e.initial ≠ 'E' := by
  rcases h with rfl | rfl
  · exact (by decide : 'S' ≠ 'E')
  · exact (by decide : 'R' ≠ 'E')

end ConversionError

/-! What a document was refused for. -/

variable {scope : ResourceScope} {bytes : Bytes}

/-- If parsing ends with a message about a reference, that reference does not resolve. -/
theorem rejected_of_message {e : ParseError} {fault : ConversionError} {reference : String}
    {place : Place} (h : parse scope bytes = .error e) (hplace : place ∈ referencePlaces)
    (hfault : fault.IsAbout reference place) (hmessage : e.message = fault.message) :
    e = .rejected fault ∧ scope.resolve place reference = .error fault := by
  have hinitial : e.initial ≠ 'E' := by
    have hhead := e.head?_message
    rw [hmessage, fault.head?_message] at hhead
    exact Option.some.inj hhead ▸ hfault.initial_ne
  have hcourse := course_of_parse scope bytes
  rw [h] at hcourse
  cases hcourse with
  | unreadable => exact absurd rfl hinitial
  | otherRoot => exact absurd rfl hinitial
  | @rejected root raw found hdocument htag hraw hrejection =>
    cases hrejection with
    | noSources => exact absurd rfl hinitial
    | broken => exact absurd rfl hinitial
    | @unresolved p text _ held hresolve =>
      have hfound : found.IsAbout text p := ResourceScope.error_of_resolve hresolve
      have hsingle : (ParseError.rejected found).message = found.message := by
        rcases hfound with rfl | rfl <;> rfl
      obtain rfl : found = fault :=
        hfound.eq_of_message hfault held.known hplace (hsingle.symm.trans hmessage)
      obtain ⟨rfl, rfl⟩ := hfound.unique hfault
      exact ⟨rfl, hresolve⟩

end SafetyConfig
