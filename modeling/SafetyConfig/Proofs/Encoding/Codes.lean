import Mathlib.Algebra.Group.Nat.Defs
import Mathlib.Data.List.Induction
import Mathlib.Tactic.SplitIfs
import SafetyConfig.Encoding.Basic

/-!
# The bytes of a character

No decoder looks behind the bytes of a character to tell what it is, and none keeps anything for
the next one. In a character of ASCII there are as many bytes as the encoding has for each of them.
-/

namespace SafetyConfig

namespace Decoded

def append (cs : List Char) (d : Decoded) : Decoded :=
  ⟨cs ++ d.chars, d.faulty⟩

theorem append_append (cs cs' : List Char) (d : Decoded) :
    (d.append cs').append cs = d.append (cs ++ cs') := by
  simp [append]

end Decoded

/-- Bytes that stand for a character, whatever follows them. -/
structure Codes (decode : Bytes → Decoded) (width : Nat) (head : Bytes) (c : Char) : Prop where
  ne_nil : head ≠ []
  decode_append : ∀ more, decode (head ++ more) = (decode more).append [c]
  length_eq : c.toNat ≠ 0 → c.toNat < 0x80 → head.length = width

theorem toNat_ofNat_of_le {n : Nat} (h : 0x80 ≤ n) :
    (Char.ofNat n).toNat = 0 ∨ 0x80 ≤ (Char.ofNat n).toNat := by
  unfold Char.ofNat
  by_cases hvalid : n.isValidChar
  · rw [dif_pos hvalid]
    exact .inr h
  · rw [dif_neg hvalid]
    exact .inl rfl

namespace Utf8

variable {p p' : Partial} {b : Nat} {c : Char} {cs : List Char} {bs : Bytes}

theorem decodeFrom_eq (chars : List Char) (pending : Option Partial) (bs : Bytes) :
    decodeFrom chars pending bs = (decodeFrom [] pending bs).append chars.reverse := by
  induction bs generalizing chars pending with
  | nil => simp [decodeFrom, Decoded.append]
  | cons b bs ih =>
    cases hstep : step pending b with
    | char c =>
      simp only [decodeFrom, hstep]
      rw [ih (c :: chars), ih [c], Decoded.append_append, List.reverse_cons]
      rfl
    | more p =>
      simp only [decodeFrom, hstep]
      exact ih chars (some p)
    | fault => simp [decodeFrom, hstep, Decoded.append]

/-- A character that is not complete will not be one of ASCII: its bits and the least bits that
may follow are too many. -/
def Partial.IsLong (p : Partial) : Prop :=
  0x80 ≤ p.low ∧ 0x80 ≤ (p.bits * 0x40 + (p.low - 0x80)) * 0x40 ^ (p.owed - 1)

theorem isLong_of_first (h : first b = .more p) : p.IsLong := by
  unfold first at h
  split_ifs at h <;> cases h <;> simp only [Partial.IsLong] <;> omega

theorem isLong_of_next (hp : p.IsLong) (h : next p b = .more p') : p'.IsLong := by
  unfold next at h
  split_ifs at h with hrange howed
  cases h
  obtain ⟨hlow, hleast⟩ := hp
  refine ⟨Nat.le_refl _, Nat.le_trans hleast ?_⟩
  obtain ⟨owed, howed⟩ : ∃ n, p.owed = n + 2 := ⟨p.owed - 2, by omega⟩
  simp only [howed, Nat.add_one_sub_one, Nat.sub_self, Nat.add_zero]
  calc (p.bits * 0x40 + (p.low - 0x80)) * 0x40 ^ (owed + 1)
      = (p.bits * 0x40 + (p.low - 0x80)) * 0x40 * 0x40 ^ owed := by
        rw [Nat.pow_succ', Nat.mul_assoc]
    _ ≤ (p.bits * 0x40 + (b - 0x80)) * 0x40 * 0x40 ^ owed :=
        Nat.mul_le_mul_right _ (by omega)

theorem toNat_of_next (hp : p.IsLong) (h : next p b = .char c) : c.toNat = 0 ∨ 0x80 ≤ c.toNat := by
  unfold next at h
  split_ifs at h with hrange howed
  obtain rfl := Progress.char.inj h
  obtain ⟨hlow, hleast⟩ := hp
  rw [show p.owed - 1 = 0 by omega] at hleast
  exact toNat_ofNat_of_le (by omega)

theorem exists_head {pending : Option Partial} (hpending : ∀ p, pending = some p → p.IsLong)
    (h : (decodeFrom [] pending bs).chars = c :: cs) :
    ∃ head tail, bs = head ++ tail ∧ head ≠ [] ∧
      (∀ more, decodeFrom [] pending (head ++ more) = (decode more).append [c]) ∧
      (c.toNat ≠ 0 → c.toNat < 0x80 → pending = none ∧ head.length = 1) := by
  induction bs generalizing pending with
  | nil => cases h
  | cons b bs ih =>
    cases hstep : step pending b with
    | char c' =>
      rw [decodeFrom, hstep] at h
      dsimp only at h
      rw [decodeFrom_eq] at h
      obtain rfl : c' = c := (List.cons.inj h).1
      refine ⟨[b], bs, rfl, List.cons_ne_nil _ _, fun more => ?_, fun hzero hascii => ?_⟩
      · rw [List.singleton_append, decodeFrom, hstep]
        exact decodeFrom_eq [c'] none more
      · cases pending with
        | none => exact ⟨rfl, rfl⟩
        | some p =>
          have := toNat_of_next (hpending p rfl) hstep
          omega
    | more p =>
      rw [decodeFrom, hstep] at h
      have hp : p.IsLong := by
        cases pending with
        | none => exact isLong_of_first hstep
        | some q => exact isLong_of_next (hpending q rfl) hstep
      obtain ⟨head, tail, rfl, -, hhead, hlength⟩ := ih (by rintro _ ⟨⟩; exact hp) h
      refine ⟨b :: head, tail, rfl, List.cons_ne_nil _ _, fun more => ?_, fun hzero hascii => ?_⟩
      · rw [List.cons_append, decodeFrom, hstep]
        exact hhead more
      · cases (hlength hzero hascii).1
    | fault =>
      rw [decodeFrom, hstep] at h
      cases h

theorem exists_codes (h : (decode bs).chars = c :: cs) :
    ∃ head tail, bs = head ++ tail ∧ Codes decode 1 head c := by
  obtain ⟨head, tail, hbs, hne, hhead, hlength⟩ := exists_head (fun _ h => by cases h) h
  exact ⟨head, tail, hbs, hne, hhead, fun hzero hascii => (hlength hzero hascii).2⟩

theorem eq_nil_of_decodeFrom {pending : Option Partial}
    (h : decodeFrom [] pending bs = ⟨[], false⟩) : bs = [] ∧ pending = none := by
  induction bs generalizing pending with
  | nil => simpa [decodeFrom] using h
  | cons b bs ih =>
    rw [decodeFrom] at h
    split at h
    · rw [decodeFrom_eq] at h
      simp [Decoded.append] at h
    · cases (ih h).2
    · cases h

end Utf8

namespace Utf16

variable {order : Order} {c : Char} {cs : List Char} {bs : Bytes}

theorem decodeFrom_eq (chars : List Char) (high : Option Nat) (bs : Bytes) :
    decodeFrom order chars high bs = (decodeFrom order [] high bs).append chars.reverse := by
  induction bs using List.twoStepInduction generalizing chars high with
  | nil => simp [decodeFrom, Decoded.append]
  | singleton a => simp [decodeFrom, Decoded.append]
  | cons_cons a b bs ih =>
    cases high with
    | some h =>
      simp only [decodeFrom]
      rw [ih (joined h (unit order a b) :: chars), ih [joined h (unit order a b)],
        Decoded.append_append, List.reverse_cons]
      rfl
    | none =>
      simp only [decodeFrom]
      split_ifs
      · exact ih chars _
      · simp [Decoded.append]
      · rw [ih (Char.ofNat _ :: chars), ih [Char.ofNat _], Decoded.append_append,
          List.reverse_cons]
        rfl

theorem toNat_joined (h u : Nat) : (joined h u).toNat = 0 ∨ 0x80 ≤ (joined h u).toNat :=
  toNat_ofNat_of_le (by omega)

theorem exists_codes (h : (decode order bs).chars = c :: cs) :
    ∃ head tail, bs = head ++ tail ∧ Codes (decode order) 2 head c := by
  unfold decode at h
  match bs with
  | [] => cases h
  | [_] => cases h
  | a :: b :: bs =>
    simp only [decodeFrom] at h
    split_ifs at h with hhigh hlow
    · match bs with
      | [] => cases h
      | [_] => cases h
      | a' :: b' :: bs =>
        simp only [decodeFrom] at h
        rw [decodeFrom_eq] at h
        obtain rfl := (List.cons.inj h).1
        refine ⟨[a, b, a', b'], bs, rfl, List.cons_ne_nil _ _, fun more => ?_,
          fun hzero hascii => ?_⟩
        · simp only [decode, List.cons_append, List.nil_append, decodeFrom, if_pos hhigh]
          exact decodeFrom_eq _ none more
        · have := toNat_joined (unit order a b) (unit order a' b')
          omega
    · cases h
    · rw [decodeFrom_eq] at h
      obtain rfl := (List.cons.inj h).1
      refine ⟨[a, b], bs, rfl, List.cons_ne_nil _ _, fun more => ?_, fun _ _ => rfl⟩
      simp only [decode, List.cons_append, List.nil_append, decodeFrom, if_neg hhigh, if_neg hlow]
      exact decodeFrom_eq _ none more

theorem eq_nil_of_decode (h : decode order bs = ⟨[], false⟩) : bs = [] := by
  unfold decode at h
  match bs with
  | [] => rfl
  | [_] => cases h
  | a :: b :: bs =>
    simp only [decodeFrom] at h
    split_ifs at h
    · match bs with
      | [] => cases h
      | [_] => cases h
      | a' :: b' :: bs =>
        simp only [decodeFrom] at h
        rw [decodeFrom_eq] at h
        simp [Decoded.append] at h
    · cases h
    · rw [decodeFrom_eq] at h
      simp [Decoded.append] at h

end Utf16

namespace CodePage

variable {page : CodePage} {upper : Array Char} {lost : List Nat} {c : Char} {cs : List Char}
  {bs : Bytes}

theorem decodeFrom_eq (chars : List Char) (bs : Bytes) :
    decodeFrom upper lost chars bs = (decodeFrom upper lost [] bs).append chars.reverse := by
  induction bs generalizing chars with
  | nil => simp [decodeFrom, Decoded.append]
  | cons b bs ih =>
    cases hchar : charAt? upper b.toNat with
    | none => simp [decodeFrom, hchar, Decoded.append]
    | some c =>
      simp only [decodeFrom, hchar]
      split_ifs
      · simp [Decoded.append]
      · rw [ih (c :: chars), ih [c], Decoded.append_append, List.reverse_cons]
        rfl

theorem exists_codes (h : (page.decode bs).chars = c :: cs) :
    ∃ head tail, bs = head ++ tail ∧ Codes page.decode 1 head c := by
  unfold decode at h
  cases bs with
  | nil => cases h
  | cons b bs =>
    cases hchar : charAt? page.upper.toArray b.toNat with
    | none => simp [decodeFrom, hchar] at h
    | some c' =>
      simp only [decodeFrom, hchar] at h
      split_ifs at h with hlost
      · cases h
      · rw [decodeFrom_eq] at h
        obtain rfl : c' = c := (List.cons.inj h).1
        refine ⟨[b], bs, rfl, List.cons_ne_nil _ _, fun more => ?_, fun _ _ => rfl⟩
        simp only [decode, List.singleton_append, decodeFrom, hchar, if_neg hlost]
        exact decodeFrom_eq _ more

theorem eq_nil_of_decode (h : page.decode bs = ⟨[], false⟩) : bs = [] := by
  unfold decode at h
  cases bs with
  | nil => rfl
  | cons b bs =>
    rw [decodeFrom] at h
    split at h
    · split at h
      · cases h
      · rw [decodeFrom_eq] at h
        simp [Decoded.append] at h
    · cases h

end CodePage

/-- What is decoded first is so because of bytes that are at the start. -/
theorem Encoding.exists_codes (e : Encoding) {bs : Bytes} {c : Char} {cs : List Char}
    (h : (e.decode bs).chars = c :: cs) :
    ∃ head tail, bs = head ++ tail ∧ Codes e.decode e.width head c := by
  cases e with
  | utf8 => exact Utf8.exists_codes h
  | utf16 order => exact Utf16.exists_codes h
  | latin1 | ascii | page p => exact CodePage.exists_codes h

/-- Bytes stand for characters, or else there is a fault. -/
theorem Encoding.eq_nil_of_decode (e : Encoding) {bs : Bytes} (h : e.decode bs = ⟨[], false⟩) :
    bs = [] := by
  cases e with
  | utf8 => exact (Utf8.eq_nil_of_decodeFrom h).1
  | utf16 order => exact Utf16.eq_nil_of_decode h
  | latin1 | ascii | page p => exact CodePage.eq_nil_of_decode h

end SafetyConfig
