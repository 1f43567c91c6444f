import SafetyConfig.Markup.Content
import SafetyConfig.Proofs.Sequencing

/-!
# Open elements, step by step

However content is read, the open elements change in three ways only: text is added to the
innermost one, a start tag opens another inside it, or it is closed and becomes a child of the
next. What these steps preserve holds of the element that is read in the end.
-/

namespace SafetyConfig.Markup

variable {d : Doctype} {fuel : Nat} {top : OpenElement} {outer : List OpenElement}
  {cs rest : List Char} {e : Element}

/-- What each step on open elements preserves, the innermost of them apart from the others. -/
structure Preserved (d : Doctype) (I : OpenElement → List OpenElement → Prop) : Prop where
  text : ∀ top outer chars, I top outer → I (top.addText chars) outer
  start : ∀ top outer written start, startTag d top.start.scope written = .ok start →
    I top outer → I ⟨start, [], []⟩ (top :: outer)
  close : ∀ top next outer, I top (next :: outer) → I (next.addChild top.close) outer

/-- The element read is the outermost one when nothing else is open any more. -/
theorem exists_close_of_readContent {I : OpenElement → List OpenElement → Prop}
    (hI : Preserved d I) (hinit : I top outer)
    (h : readContent d fuel top outer cs = .ok (e, rest)) : ∃ last, I last [] ∧ e = last.close := by
  induction fuel generalizing top outer cs with
  | zero => cases h
  | succ fuel ih =>
    unfold readContent at h
    split at h
    · cases h
    · obtain ⟨afterTag, -, h⟩ := bind_eq_ok_iff.mp h
      cases outer with
      | nil =>
        obtain ⟨rfl, -⟩ := Prod.mk.inj (pure_eq_ok_iff.mp h)
        exact ⟨top, hinit, rfl⟩
      | cons next outer => exact ih (hI.close top next outer hinit) h
    · obtain ⟨afterInstruction, -, h⟩ := bind_eq_ok_iff.mp h
      exact ih hinit h
    · obtain ⟨afterComment, -, h⟩ := bind_eq_ok_iff.mp h
      exact ih hinit h
    · split at h
      · obtain ⟨⟨text, afterSection⟩, -, h⟩ := bind_eq_ok_iff.mp h
        exact ih (hI.text top outer text hinit) h
      · cases h
    · obtain ⟨⟨written, afterTag⟩, -, h⟩ := bind_eq_ok_iff.mp h
      obtain ⟨start, hstart, h⟩ := bind_eq_ok_iff.mp h
      have hopened := hI.start top outer written start hstart hinit
      -- An element that closes itself is opened and closed in one go.
      by_cases hempty : start.isEmpty = true
      · rw [if_pos hempty] at h
        exact ih (hI.close _ top outer hopened) h
      · rw [if_neg hempty] at h
        exact ih hopened h
    · obtain ⟨⟨reference, afterReference⟩, -, h⟩ := bind_eq_ok_iff.mp h
      cases reference with
      | char c => exact ih (hI.text top outer [c] hinit) h
      | named name => cases h
    · obtain ⟨⟨text, afterText⟩, -, h⟩ := bind_eq_ok_iff.mp h
      exact ih (hI.text top outer text hinit) h

end SafetyConfig.Markup
