import SafetyConfig.Markup.Scan
import SafetyConfig.Proofs.Encoding.Codes
import SafetyConfig.Proofs.Text.Lowercase

/-!
# Characters and their bytes

The characters of a document end with the mark of a fault, if there is one. So what stands before
another character comes from bytes at the start of the document, and is there whatever follows them.
-/

namespace SafetyConfig.Markup

open Lowercase (Ascii)

variable {e : Encoding} {bs head head' : Bytes} {c : Char} {cs front front' back : List Char}

theorem legalFrom_eq (done : List Char) (faulty : Bool) (cs : List Char) :
    legalFrom done faulty cs = done.reverse ++ legalFrom [] faulty cs := by
  induction cs generalizing done with
  | nil => cases faulty <;> simp [legalFrom]
  | cons c cs ih =>
    simp only [legalFrom]
    split
    · rw [ih (c :: done), ih [c]]
      simp
    · simp

/-- The mark of a fault ends the characters, and all others are those that the bytes stand for. -/
theorem decode_of_characters (h : characters e bs = c :: cs) (hmark : c = faultMark → cs ≠ []) :
    (∃ rest, (e.decode bs).chars = c :: rest) ∧ isLegal c.toNat = true := by
  simp only [characters] at h
  cases hchars : (e.decode bs).chars with
  | nil =>
    rw [hchars] at h
    cases hfaulty : (e.decode bs).faulty <;> rw [hfaulty] at h <;> cases h
    exact absurd rfl (hmark rfl)
  | cons c' rest =>
    simp only [hchars, legalFrom] at h
    split at h
    · rename_i hlegal
      rw [legalFrom_eq] at h
      obtain rfl : c' = c := (List.cons.inj h).1
      exact ⟨⟨rest, rfl⟩, hlegal⟩
    · cases h
      exact absurd rfl (hmark rfl)

theorem characters_nil (e : Encoding) : characters e [] = [] := by
  cases e <;> rfl

theorem eq_nil_of_characters (h : characters e bs = []) : bs = [] := by
  refine e.eq_nil_of_decode ?_
  simp only [characters] at h
  cases hdecode : e.decode bs with
  | mk chars faulty =>
    rw [hdecode] at h
    cases chars with
    | nil =>
      cases faulty with
      | false => rfl
      | true => cases h
    | cons c cs =>
      simp only [legalFrom] at h
      split at h
      · rw [legalFrom_eq] at h
        cases h
      · cases h

/-- Bytes that are read as the given characters, whatever follows them. -/
structure Spells (e : Encoding) (head : Bytes) (front : List Char) : Prop where
  characters_append : ∀ more, characters e (head ++ more) = front ++ characters e more
  length_le : front.length ≤ head.length
  length_eq : Ascii front → head.length = front.length * e.width

theorem Spells.nil (e : Encoding) : Spells e [] [] :=
  ⟨fun _ => rfl, Nat.le_refl 0, fun _ => (Nat.zero_mul _).symm⟩

theorem Spells.append (h : Spells e head front) (h' : Spells e head' front') :
    Spells e (head ++ head') (front ++ front') where
  characters_append more := by
    rw [List.append_assoc, h.characters_append, h'.characters_append, List.append_assoc]
  length_le := by
    rw [List.length_append, List.length_append]
    exact Nat.add_le_add h.length_le h'.length_le
  length_eq hascii := by
    have hfront : Ascii front := fun c hc => hascii c (List.mem_append_left _ hc)
    have hfront' : Ascii front' := fun c hc => hascii c (List.mem_append_right _ hc)
    rw [List.length_append, List.length_append, h.length_eq hfront, h'.length_eq hfront',
      Nat.add_mul]

theorem spells_of_codes (h : Codes e.decode e.width head c) (hlegal : isLegal c.toNat = true) :
    Spells e head [c] where
  characters_append more := by
    simp only [characters, h.decode_append, Decoded.append, List.singleton_append, legalFrom,
      hlegal, if_true]
    exact legalFrom_eq [c] _ _
  length_le := List.length_pos_iff.mpr h.ne_nil
  length_eq hascii := by
    have hzero : c.toNat ≠ 0 := by
      intro hc
      rw [hc] at hlegal
      cases hlegal
    rw [h.length_eq hzero (hascii c List.mem_cons_self)]
    exact (Nat.one_mul _).symm

theorem exists_spells_singleton (h : characters e bs = c :: cs) (hmark : c = faultMark → cs ≠ []) :
    ∃ head tail, bs = head ++ tail ∧ Spells e head [c] ∧ characters e tail = cs := by
  obtain ⟨⟨rest, hchars⟩, hlegal⟩ := decode_of_characters h hmark
  obtain ⟨head, tail, rfl, hcodes⟩ := e.exists_codes hchars
  have hspells := spells_of_codes hcodes hlegal
  rw [hspells.characters_append] at h
  exact ⟨head, tail, rfl, hspells, (List.cons.inj h).2⟩

theorem Spells.characters_append_close {inner : List Char} (h : Spells e head (inner ++ ['>']))
    (more : Bytes) : characters e (head ++ more) = inner ++ '>' :: characters e more := by
  rw [h.characters_append, List.append_assoc, List.singleton_append]

theorem Spells.length_lt {inner : List Char} (h : Spells e head (inner ++ ['>'])) :
    inner.length < head.length := by
  have hle := h.length_le
  rwa [List.length_append] at hle

/-- What comes up to an end of a tag comes from bytes at the start. -/
theorem exists_spells {inner : List Char} (h : characters e bs = inner ++ '>' :: back) :
    ∃ head tail, bs = head ++ tail ∧ Spells e head (inner ++ ['>']) ∧ characters e tail = back := by
  induction inner generalizing bs with
  | nil => exact exists_spells_singleton h fun hmark => absurd hmark (by decide)
  | cons c inner ih =>
    obtain ⟨head, tail, rfl, hhead, htail⟩ :=
      exists_spells_singleton h fun _ => List.append_ne_nil_of_right_ne_nil _ (List.cons_ne_nil _ _)
    obtain ⟨head', tail, rfl, hhead', hback⟩ := ih htail
    exact ⟨head ++ head', tail, (List.append_assoc ..).symm, hhead.append hhead', hback⟩

end SafetyConfig.Markup
