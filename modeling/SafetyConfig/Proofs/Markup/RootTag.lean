import SafetyConfig.Markup.Document
import SafetyConfig.Proofs.Markup.Content

/-!
# The root tag and the whole document

The tag of a root is known once its start tag has been read. Reading on either fails or ends
with an element of that tag, whatever is inside it.
-/

namespace SafetyConfig.Markup

variable {d : Doctype} {bytes : Bytes} {fuel : Nat} {top : OpenElement} {outer : List OpenElement}
  {cs rest : List Char} {e : Element}

/-- The start tag of the outermost of the open elements. -/
def outermost (innermost : StartTag) : List OpenElement → StartTag
  | [] => innermost
  | next :: outer => outermost next.start outer

/-- Text, children and inner elements come and go while the outermost element stays open. -/
theorem preserved_outermost_tag (tag : String) :
    Preserved d fun top outer => (outermost top.start outer).tag = tag where
  text _ _ _ h := h
  start _ _ _ _ _ h := h
  close _ _ _ h := h

theorem tag_of_readContent (h : readContent d fuel top outer cs = .ok (e, rest)) :
    e.tag = (outermost top.start outer).tag := by
  obtain ⟨last, hlast, rfl⟩ := exists_close_of_readContent (preserved_outermost_tag _) rfl h
  exact hlast

theorem tag_of_finish {o : Opening} (h : o.finish = .ok e) : e.tag = o.root.tag := by
  unfold Opening.finish at h
  by_cases hempty : o.root.isEmpty = true
  · rw [if_pos hempty, pure_bind] at h
    obtain ⟨-, -, h⟩ := bind_eq_ok_iff.mp h
    obtain rfl := pure_eq_ok_iff.mp h
    rfl
  · rw [if_neg hempty] at h
    obtain ⟨⟨element, afterRoot⟩, hroot, h⟩ := bind_eq_ok_iff.mp h
    obtain ⟨-, -, h⟩ := bind_eq_ok_iff.mp h
    obtain rfl := pure_eq_ok_iff.mp h
    exact tag_of_readContent hroot

theorem readDocument_of_rootTag_error {fault : MarkupError} (h : rootTag bytes = .error fault) :
    readDocument bytes = .error fault := by
  cases hopen : openDocument bytes with
  | error cause =>
    rw [rootTag, hopen] at h
    cases h
    rw [readDocument, hopen]
    rfl
  | ok o =>
    rw [rootTag, hopen] at h
    cases h

theorem rootTag_of_readDocument (h : readDocument bytes = .ok e) :
    rootTag bytes = .ok e.tag := by
  obtain ⟨o, hopen, hfinish⟩ := bind_eq_ok_iff.mp h
  rw [rootTag, hopen, tag_of_finish hfinish]
  rfl

end SafetyConfig.Markup
