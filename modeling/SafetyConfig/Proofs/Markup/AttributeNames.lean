import SafetyConfig.Markup.Document
import SafetyConfig.Proofs.Markup.Content

/-!
# Attributes do not repeat

A start tag that repeats the name of an attribute is not read. So the attributes of an element
in a document all have names of their own, and what they say does not depend on their order.
-/

namespace SafetyConfig

/-- In the element and everywhere below it, no two attributes have the same name. -/
inductive Element.Distinct : Element → Prop
  | mk {tag : String} {attributes : List (String × String)} {text : String}
      {children : List Element} (names : (attributes.map (·.1)).Nodup)
      (below : ∀ child ∈ children, child.Distinct) : Distinct (.mk tag attributes text children)

namespace Markup

variable {d : Doctype} {fuel : Nat} {top next : OpenElement} {outer : List OpenElement}
  {cs rest : List Char} {bytes : Bytes} {e : Element}

theorem nodup_of_resolveAttributes {scope : NameScope} {pairs : List AttributePair}
    {attributes : List (String × String)} (h : resolveAttributes scope pairs = .ok attributes) :
    (attributes.map (·.1)).Nodup := by
  induction pairs generalizing attributes with
  | nil =>
    obtain rfl := Except.ok.inj h
    exact List.nodup_nil
  | cons pair pairs ih =>
    obtain ⟨name, value⟩ := pair
    obtain ⟨written, -, h⟩ := bind_eq_ok_iff.mp h
    obtain ⟨others, hothers, h⟩ := bind_eq_ok_iff.mp h
    split at h
    · cases h
    · rename_i hnew
      obtain rfl := pure_eq_ok_iff.mp h
      rw [List.map_cons, List.nodup_cons]
      refine ⟨?_, ih hothers⟩
      intro hmem
      obtain ⟨other, hother, hname⟩ := List.mem_map.mp hmem
      exact hnew (List.any_eq_true.mpr ⟨other, hother, by simpa using hname⟩)

theorem nodup_of_startTag {scope : NameScope} {written : WrittenTag} {start : StartTag}
    (h : startTag d scope written = .ok start) : (start.attributes.map (·.1)).Nodup := by
  obtain ⟨given, -, h⟩ := bind_eq_ok_iff.mp h
  obtain ⟨⟨inner, attributes⟩, -, h⟩ := bind_eq_ok_iff.mp h
  obtain ⟨tag, -, h⟩ := bind_eq_ok_iff.mp h
  obtain ⟨resolved, hresolved, h⟩ := bind_eq_ok_iff.mp h
  obtain rfl := pure_eq_ok_iff.mp h
  exact nodup_of_resolveAttributes hresolved

/-- The names that an open element has so far. -/
structure OpenElement.Distinct (o : OpenElement) : Prop where
  names : (o.start.attributes.map (·.1)).Nodup
  below : ∀ child ∈ o.children, child.Distinct

theorem OpenElement.Distinct.close (h : top.Distinct) : top.close.Distinct :=
  .mk h.names fun child hchild => h.below child (List.mem_reverse.mp hchild)

theorem OpenElement.Distinct.addChild (h : next.Distinct) (he : e.Distinct) :
    (next.addChild e).Distinct where
  names := h.names
  below := List.forall_mem_cons.mpr ⟨he, h.below⟩

theorem distinct_of_start {start : StartTag} (h : (start.attributes.map (·.1)).Nodup) :
    OpenElement.Distinct ⟨start, [], []⟩ where
  names := h
  below := List.forall_mem_nil _

theorem preserved_distinct :
    Preserved d fun top outer => top.Distinct ∧ ∀ o ∈ outer, o.Distinct where
  text _ _ _ h := ⟨⟨h.1.names, h.1.below⟩, h.2⟩
  start _ _ _ _ hstart h :=
    ⟨distinct_of_start (nodup_of_startTag hstart), List.forall_mem_cons.mpr h⟩
  close _ _ _ h :=
    have houter := List.forall_mem_cons.mp h.2
    ⟨houter.1.addChild h.1.close, houter.2⟩

theorem distinct_of_readContent (htop : top.Distinct)
    (h : readContent d fuel top [] cs = .ok (e, rest)) : e.Distinct := by
  obtain ⟨last, ⟨hlast, -⟩, rfl⟩ :=
    exists_close_of_readContent preserved_distinct ⟨htop, List.forall_mem_nil _⟩ h
  exact hlast.close

theorem nodup_of_openDocument {o : Opening} (h : openDocument bytes = .ok o) :
    (o.root.attributes.map (·.1)).Nodup := by
  obtain ⟨manuscript, -, h⟩ := bind_eq_ok_iff.mp h
  obtain ⟨⟨doctype, afterProlog⟩, -, h⟩ := bind_eq_ok_iff.mp h
  obtain ⟨⟨written, afterTag⟩, -, h⟩ := bind_eq_ok_iff.mp h
  obtain ⟨root, hroot, h⟩ := bind_eq_ok_iff.mp h
  obtain rfl := pure_eq_ok_iff.mp h
  exact nodup_of_startTag hroot

theorem distinct_of_readDocument (h : readDocument bytes = .ok e) : e.Distinct := by
  obtain ⟨o, hopen, h⟩ := bind_eq_ok_iff.mp h
  have hroot : OpenElement.Distinct ⟨o.root, [], []⟩ :=
    distinct_of_start (nodup_of_openDocument hopen)
  unfold Opening.finish at h
  by_cases hempty : o.root.isEmpty = true
  · rw [if_pos hempty, pure_bind] at h
    obtain ⟨-, -, h⟩ := bind_eq_ok_iff.mp h
    obtain rfl := pure_eq_ok_iff.mp h
    exact hroot.close
  · rw [if_neg hempty] at h
    obtain ⟨⟨element, afterRoot⟩, hcontent, h⟩ := bind_eq_ok_iff.mp h
    obtain ⟨-, -, h⟩ := bind_eq_ok_iff.mp h
    obtain rfl := pure_eq_ok_iff.mp h
    exact distinct_of_readContent hroot hcontent

end Markup

end SafetyConfig
