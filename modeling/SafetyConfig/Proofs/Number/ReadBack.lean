import Mathlib.Algebra.Group.Nat.Defs
import Mathlib.Data.List.Induction
import SafetyConfig.Proofs.Number.Grammar

/-!
# Decimal numerals read back

The decimal text of an integer is a numeral for that integer, unless it has more digits
than numerals may have. No integer that has been read needs more digits than that.
-/

namespace SafetyConfig

namespace Digits

theorem ofNat_ne_nil (base n : Nat) : ofNat base n ≠ [] := by
  unfold ofNat
  split <;> simp

theorem exists_of_mem_decimal {n : Nat} {c : Char} (h : c ∈ decimal n) :
    ∃ d, d < 10 ∧ c = char d := by
  obtain ⟨d, hd, rfl⟩ := List.mem_map.mp h
  exact ⟨d, lt_of_mem_ofNat (by omega) hd, rfl⟩

theorem eq_dash_or_exists_of_mem_signedDecimal {n : Int} {c : Char} (h : c ∈ signedDecimal n) :
    c = '-' ∨ ∃ d, d < 10 ∧ c = char d := by
  cases n with
  | ofNat m => exact Or.inr (exists_of_mem_decimal h)
  | negSucc m =>
    rcases List.mem_cons.mp h with rfl | h
    · exact Or.inl rfl
    · exact Or.inr (exists_of_mem_decimal h)

theorem toNat_lt_pow {ds : List Nat} (h : ∀ d ∈ ds, d < 10) : toNat 10 ds < 10 ^ ds.length := by
  induction ds using List.reverseRecOn with
  | nil => decide
  | append_singleton ds d ih =>
    have hrest := ih fun x hx => h x (List.mem_append_left _ hx)
    have hd : d < 10 := h d (by simp)
    rw [toNat_append_singleton, List.length_append, List.length_singleton, Nat.pow_succ]
    omega

theorem length_ofNat_le {n k : Nat} (hk : 0 < k) (h : n < 10 ^ k) : (ofNat 10 n).length ≤ k := by
  induction k generalizing n with
  | zero => omega
  | succ k ih =>
    unfold ofNat
    split
    · rename_i hn
      have hquotient : n / 10 < 10 ^ k := Nat.div_lt_of_lt_mul (by rw [Nat.pow_succ'] at h; exact h)
      have hpos : 0 < k := by
        rcases Nat.eq_zero_or_pos k with rfl | hpos
        · omega
        · exact hpos
      have := ih hpos hquotient
      simp only [List.length_append, List.length_singleton]
      omega
    · simp

theorem char_eq_digitChar {d : Nat} (h : d < 10) : char d = d.digitChar := by
  revert d
  decide

theorem decimal_eq_toDigits (n : Nat) : decimal n = Nat.toDigits 10 n := by
  unfold decimal
  fun_induction ofNat 10 n with
  | case1 n hbase ih =>
    rw [Nat.toDigits_of_base_le (by decide) hbase.2, List.map_append, ih, List.map_singleton,
      char_eq_digitChar (Nat.mod_lt n (by decide))]
  | case2 n hbase =>
    have hsmall : n < 10 := by omega
    rw [Nat.toDigits_of_lt_base hsmall, List.map_singleton, char_eq_digitChar hsmall]

end Digits

theorem Digit.value?_char {d : Nat} (h : d < 10) : Digit.value? (Digits.char d) = some d := by
  have hall : ∀ d < 10, Digit.value? (Digits.char d) = some d := by decide
  exact hall d h

theorem Blank.trim_eq_self {cs : List Char} (h : ∀ c ∈ cs, isBlank c = false) : trim cs = cs := by
  have hdrop : ∀ xs : List Char, (∀ c ∈ xs, isBlank c = false) → xs.dropWhile isBlank = xs := by
    intro xs hxs
    cases xs with
    | nil => rfl
    | cons x xs => simp [hxs x List.mem_cons_self]
  rw [trim, hdrop cs h, hdrop cs.reverse (fun c hc => h c (List.mem_reverse.mp hc)),
    List.reverse_reverse]

namespace Numeral

theorem short_zero : Short 0 := by
  decide +kernel

/-! A short number is what its decimal text is read as. -/

theorem plain_decimal (n : Nat) : Plain (Digits.decimal n) (Digits.ofNat 10 n) := by
  rw [Plain, Digits.decimal, List.forall₂_map_left_iff, List.forall₂_same]
  intro d hd
  exact Digit.value?_char (Digits.lt_of_mem_ofNat (by omega) hd)

theorem standsFor_ofNat {n : Nat} (h : (Digits.decimal n).length ≤ maxDigits) :
    StandsFor (Digits.ofNat 10 n) n := by
  rw [Digits.decimal, List.length_map] at h
  exact ⟨List.length_pos_iff.mpr (Digits.ofNat_ne_nil 10 n), h, Digits.toNat_ofNat 10 n⟩

theorem code_signedDecimal {n : Int} (h : Short n) : Code (Digits.signedDecimal n) n := by
  cases n with
  | ofNat m => exact .bare (plain_decimal m) (standsFor_ofNat h)
  | negSucc m => exact .minus (plain_decimal (m + 1)) (standsFor_ofNat h)

theorem trim_signedDecimal (n : Int) :
    Blank.trim (Digits.signedDecimal n) = Digits.signedDecimal n := by
  refine Blank.trim_eq_self fun c hc => ?_
  rcases Digits.eq_dash_or_exists_of_mem_signedDecimal hc with rfl | ⟨d, hd, rfl⟩
  · decide
  · have hdecimal := Option.isSome_of_eq_some (Digit.value?_char hd)
    exact Digit.isBlank_of_isDigitSign (Digit.isDigitSign_of_isDecimal hdecimal)

theorem read_signedDecimal {n : Int} (h : Short n) : read (Digits.signedDecimal n) = .ok n := by
  rw [read, trim_signedDecimal]
  exact readSigned_eq_ok_iff.mpr (code_signedDecimal h).signed

/-! The value of a numeral has no more digits than the numeral. -/

theorem Barred.lt_of_mem {cs : List Char} {ds : List Nat} (h : Barred cs ds) :
    ∀ d ∈ ds, d < 10 := by
  induction h with
  | single digit => exact List.forall_mem_singleton.mpr (Digit.value?_lt digit)
  | next digit _ ih => exact List.forall_mem_cons.mpr ⟨Digit.value?_lt digit, ih⟩
  | bar digit _ ih => exact List.forall_mem_cons.mpr ⟨Digit.value?_lt digit, ih⟩

theorem StandsFor.lt_pow {cs : List Char} {ds : List Nat} {n : Nat} (h : StandsFor ds n)
    (hform : Barred cs ds) : n < 10 ^ maxDigits := by
  obtain ⟨-, hlength, rfl⟩ := h
  exact Nat.lt_of_lt_of_le (Digits.toNat_lt_pow hform.lt_of_mem)
    (Nat.pow_le_pow_right (by decide) hlength)

theorem Signed.natAbs_lt_pow {cs : List Char} {n : Int} (h : Signed cs n) :
    n.natAbs < 10 ^ maxDigits := by
  cases h with
  | bare form value => exact value.lt_pow form
  | plus form value => exact value.lt_pow form
  | minus form value =>
    rw [Int.natAbs_neg]
    exact value.lt_pow form

theorem short_iff_lt_pow {n : Int} : Short n ↔ n.natAbs < 10 ^ maxDigits := by
  rw [Short, Digits.decimal, List.length_map]
  constructor
  · intro h
    have hlt : Digits.toNat 10 (Digits.ofNat 10 n.natAbs) < 10 ^ _ :=
      Digits.toNat_lt_pow fun d hd => Digits.lt_of_mem_ofNat (by decide) hd
    rw [Digits.toNat_ofNat] at hlt
    exact Nat.lt_of_lt_of_le hlt (Nat.pow_le_pow_right (by decide) h)
  · exact Digits.length_ofNat_le (by decide)

theorem short_of_read {cs : List Char} {n : Int} (h : read cs = .ok n) : Short n :=
  short_iff_lt_pow.mpr (readSigned_eq_ok_iff.mp h).natAbs_lt_pow

end Numeral

end SafetyConfig
