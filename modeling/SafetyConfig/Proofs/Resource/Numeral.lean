import SafetyConfig.Proofs.Json.ReadBack
import SafetyConfig.Resource.Id

/-!
# Identifiers as they are shown

An identifier is shown as a hexadecimal numeral, with a sign if it is negative and with as many
digits as it needs. As a number the numeral is the identifier, so no two of them are shown alike.
-/

namespace SafetyConfig

theorem Digits.toNat_replicate_append (base k : Nat) (ds : List Nat) :
    toNat base (List.replicate k 0 ++ ds) = toNat base ds := by
  induction k with
  | zero => rfl
  | succ k ih =>
    rw [← ih, List.replicate_succ, List.cons_append]
    simp [toNat]

namespace ResourceId

/-! What a numeral stands for. -/

def hexDigits : List Char := "0123456789abcdef".toList

/-- The value of one or more digits, and of nothing else. -/
def unsignedValue? (cs : List Char) : Option Nat :=
  if cs ≠ [] ∧ cs.all hexDigits.contains then some (Digits.toNat 16 (cs.map hexDigits.idxOf))
  else none

def value? : List Char → Option Int
  | '-' :: cs => (unsignedValue? cs).map fun m => -Int.ofNat m
  | cs => (unsignedValue? cs).map Int.ofNat

def unsigned : List Char → List Char
  | '-' :: cs => cs
  | cs => cs

/-- A numeral for a number that is at least so wide, its sign included. Zeros stand in front of the
digits only to make it that wide. -/
structure IsPaddedHex (width : Nat) (n : Int) (text : List Char) : Prop where
  value : value? text = some n
  width_le : width ≤ text.length
  head?_ne : width < text.length → (unsigned text).head? ≠ some '0'

example : value? "0000007f".toList = some 127 ∧ value? "-000000f".toList = some (-15) ∧
    value? "7F".toList = none ∧ value? "-".toList = none := by decide

/-! How identifiers are shown. -/

variable {n : ResourceId} {ds : List Nat}

theorem hexDigits_char {d : Nat} (h : d < 16) :
    Digits.char d ∈ hexDigits ∧ hexDigits.idxOf (Digits.char d) = d := by
  revert d
  decide

theorem unsignedValue?_map_char (hne : ds ≠ []) (h : ∀ d ∈ ds, d < 16) :
    unsignedValue? (ds.map Digits.char) = some (Digits.toNat 16 ds) := by
  have hdigits : (ds.map Digits.char).all hexDigits.contains := by
    refine List.all_eq_true.mpr (List.forall_mem_map.mpr fun d hd => ?_)
    exact List.contains_iff_mem.mpr (hexDigits_char (h d hd)).1
  have hvalues : (ds.map Digits.char).map hexDigits.idxOf = ds := by
    calc (ds.map Digits.char).map hexDigits.idxOf = ds.map (hexDigits.idxOf ∘ Digits.char) :=
          List.map_map
      _ = ds.map id := List.map_congr_left fun d hd => (hexDigits_char (h d hd)).2
      _ = ds := List.map_id ds
  rw [unsignedValue?, if_pos ⟨by simpa using hne, hdigits⟩, hvalues]

/-- Zeros in front of digits do not change their value. -/
theorem unsignedValue?_padded (k m : Nat) :
    unsignedValue? (List.replicate k '0' ++ Digits.hex m) = some m := by
  have hchars : List.replicate k '0' ++ Digits.hex m =
      (List.replicate k 0 ++ Digits.ofNat 16 m).map Digits.char := by
    rw [List.map_append, List.map_replicate]
    rfl
  have hdigits : ∀ d ∈ List.replicate k 0 ++ Digits.ofNat 16 m, d < 16 := by
    intro d hd
    rcases List.mem_append.mp hd with hd | hd
    · rw [List.eq_of_mem_replicate hd]
      decide
    · exact Digits.lt_of_mem_ofNat (by decide) hd
  rw [hchars, unsignedValue?_map_char (by simp [Digits.ofNat_ne_nil]) hdigits,
    Digits.toNat_replicate_append, Digits.toNat_ofNat]

/-- A sign is no digit. -/
theorem ne_minus_of_unsignedValue? {cs : List Char} {m : Nat} (h : unsignedValue? cs = some m) :
    cs.head? ≠ some '-' := by
  intro hhead
  obtain ⟨cs, rfl⟩ := List.head?_eq_some_iff.mp hhead
  rw [unsignedValue?] at h
  split at h
  · rename_i hdigits
    exact absurd (List.all_eq_true.mp hdigits.2 '-' List.mem_cons_self) (by decide)
  · cases h

theorem value?_of_head? {cs : List Char} (h : cs.head? ≠ some '-') :
    value? cs = (unsignedValue? cs).map Int.ofNat ∧ unsigned cs = cs := by
  cases cs with
  | nil => exact ⟨rfl, rfl⟩
  | cons c cs =>
    have hc : c ≠ '-' := by simpa using h
    constructor
    · unfold value?
      split
      · rename_i heq
        exact absurd (List.cons.inj heq).1 hc
      · rfl
    · unfold unsigned
      split
      · rename_i heq
        exact absurd (List.cons.inj heq).1 hc
      · rfl

theorem hex_head?_ne {m : Nat} (h : m ≠ 0) : (Digits.hex m).head? ≠ some '0' := by
  obtain ⟨d, ds, hds⟩ := List.exists_cons_of_ne_nil (Digits.ofNat_ne_nil 16 m)
  have hd : d < 16 := Digits.lt_of_mem_ofNat (by decide) (hds ▸ List.mem_cons_self)
  have hzero : d ≠ 0 := by
    rintro rfl
    exact h (Digits.eq_zero_of_ofNat hds).1
  have hchar : ∀ d < 16, d ≠ 0 → Digits.char d ≠ '0' := by decide
  rw [Digits.hex, hds]
  simpa using hchar d hd hzero

/-- Without zeros in front, digits start like the number itself. -/
theorem padded_head?_ne {k m : Nat} (hm : m ≠ 0) (hk : k = 0) :
    (List.replicate k '0' ++ Digits.hex m).head? ≠ some '0' := by
  rw [hk, List.replicate_zero, List.nil_append]
  exact hex_head?_ne hm

theorem isPaddedHex_paddedHex (width : Nat) (hn : n ≠ 0) :
    IsPaddedHex width n (paddedHex width n) := by
  have hm : n.natAbs ≠ 0 := Int.natAbs_ne_zero.mpr hn
  by_cases hneg : n < 0
  · have htext : paddedHex width n =
        '-' :: (List.replicate (width - 1 - (Digits.hex n.natAbs).length) '0' ++
          Digits.hex n.natAbs) := by
      simp [paddedHex, hneg]
    rw [htext]
    refine ⟨?_, ?_, fun hlength => padded_head?_ne hm ?_⟩
    · rw [value?, unsignedValue?_padded, Option.map_some]
      exact congrArg some (Int.eq_neg_natAbs_of_nonpos (Int.le_of_lt hneg)).symm
    · simp only [List.length_cons, List.length_append, List.length_replicate]
      omega
    · simp only [List.length_cons, List.length_append, List.length_replicate] at hlength
      omega
  · have htext : paddedHex width n =
        List.replicate (width - (Digits.hex n.natAbs).length) '0' ++ Digits.hex n.natAbs := by
      simp [paddedHex, hneg]
    have hvalue := unsignedValue?_padded (width - (Digits.hex n.natAbs).length) n.natAbs
    obtain ⟨hsigned, hunsigned⟩ := value?_of_head? (ne_minus_of_unsignedValue? hvalue)
    rw [htext]
    refine ⟨?_, ?_, fun hlength => ?_⟩
    · rw [hsigned, hvalue, Option.map_some]
      exact congrArg some (Int.natAbs_of_nonneg (Int.not_lt.mp hneg))
    · simp only [List.length_append, List.length_replicate]
      omega
    · rw [hunsigned]
      refine padded_head?_ne hm ?_
      simp only [List.length_append, List.length_replicate] at hlength
      omega

theorem mem_paddedHex {width : Nat} {c : Char} (h : c ∈ paddedHex width n) :
    c ∈ '-' :: hexDigits := by
  rw [paddedHex, List.append_assoc] at h
  rcases List.mem_append.mp h with hsign | h
  · split at hsign
    · rw [List.mem_singleton.mp hsign]
      exact List.mem_cons_self
    · cases hsign
  refine List.mem_cons_of_mem _ ?_
  rcases List.mem_append.mp h with hzero | hdigit
  · rw [List.eq_of_mem_replicate hzero]
    decide
  · obtain ⟨d, hd, rfl⟩ := List.mem_map.mp hdigit
    exact (hexDigits_char (Digits.lt_of_mem_ofNat (by decide) hd)).1

theorem mem_format {c : Char} (h : c ∈ (format n).toList) : c ∈ 'x' :: '-' :: hexDigits := by
  unfold format at h
  split at h
  · rw [show "-".toList = ['-'] from rfl] at h
    rw [List.mem_singleton.mp h]
    decide
  · rw [String.toList_ofList] at h
    rcases List.mem_cons.mp h with rfl | h
    · decide
    rcases List.mem_cons.mp h with rfl | h
    · decide
    · exact List.mem_cons_of_mem _ (mem_paddedHex h)

theorem format_eq_numeral (hn : n ≠ 0) :
    ∃ text, format n = "0x" ++ String.ofList text ∧ IsPaddedHex 8 n text := by
  refine ⟨paddedHex 8 n, ?_, isPaddedHex_paddedHex 8 hn⟩
  rw [format, if_neg hn]
  exact String.toList_injective (by simp)

/-- Only what is no resource is shown as a dash. -/
theorem format_eq_dash_iff : format n = "-" ↔ n = 0 := by
  constructor
  · intro h
    by_contra hn
    rw [format, if_neg hn] at h
    have hlist := congrArg String.toList h
    rw [String.toList_ofList] at hlist
    cases hlist
  · rintro rfl
    rfl

theorem format_injective : Function.Injective format := by
  intro n m h
  by_cases hn : n = 0
  · rw [format_eq_dash_iff.mpr hn] at h
    rw [hn, format_eq_dash_iff.mp h.symm]
  by_cases hm : m = 0
  · rw [format_eq_dash_iff.mpr hm] at h
    exact absurd (format_eq_dash_iff.mp h) hn
  · rw [format, format, if_neg hn, if_neg hm] at h
    have htext : paddedHex 8 n = paddedHex 8 m := by
      have hlist := String.ofList_injective h
      exact (List.cons.inj (List.cons.inj hlist).2).2
    have hvalue := (isPaddedHex_paddedHex 8 hn).value
    rw [htext, (isPaddedHex_paddedHex 8 hm).value] at hvalue
    exact (Option.some.inj hvalue).symm

end ResourceId

end SafetyConfig
