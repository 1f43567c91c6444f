import Mathlib.Tactic.SplitIfs
import SafetyConfig.Json.Printer
import SafetyConfig.Json.Reader

/-!
# Printed texts

Texts are printed in ASCII. What is escaped is escaped so that reading finds the character again:
by its letter, by its code, or, beyond the basic plane, by the codes of two surrogates.
-/

namespace SafetyConfig

namespace Quoted

theorem hex_of_lt {n : Nat} (h : n < 16) : Digits.hex n = [Digits.char n] := by
  rw [Digits.hex, Digits.ofNat, dif_neg (by omega)]
  rfl

theorem padHex_of_lt {n : Nat} (h : n < 16) : padHex 1 n = [Digits.char n] := by
  rw [padHex, hex_of_lt h]
  rfl

/-- The digits of a code, from the last one to the first. -/
theorem padHex_succ {k n : Nat} (hk : 0 < k) :
    padHex (k + 1) n = padHex k (n / 16) ++ [Digits.char (n % 16)] := by
  by_cases h : n < 16
  · obtain ⟨k, rfl⟩ := Nat.exists_eq_add_one.mpr hk
    have hzero : Digits.char 0 = '0' := by decide
    rw [padHex, padHex, Nat.div_eq_of_lt h, Nat.mod_eq_of_lt h, hex_of_lt h, hex_of_lt (by decide),
      hzero]
    simp [List.replicate_succ']
  · have hdigits : Digits.hex n = Digits.hex (n / 16) ++ [Digits.char (n % 16)] := by
      rw [Digits.hex, Digits.ofNat, dif_pos (by omega), List.map_append]
      rfl
    rw [padHex, padHex, hdigits]
    simp

theorem padHex_four {n : Nat} (h : n < 0x10000) :
    padHex 4 n = [n / 16 / 16 / 16, n / 16 / 16 % 16, n / 16 % 16, n % 16].map Digits.char := by
  rw [padHex_succ (by decide), padHex_succ (by decide), padHex_succ (by decide),
    padHex_of_lt (by omega)]
  rfl

end Quoted

namespace Json

/-! Escaped units. -/

theorem hexValue?_char {d : Nat} (h : d < 16) : hexValue? (Digits.char d) = some d := by
  revert d
  decide

theorem hexUnit?_char {a b c d : Nat} (ha : a < 16) (hb : b < 16) (hc : c < 16) (hd : d < 16) :
    hexUnit? (Digits.char a) (Digits.char b) (Digits.char c) (Digits.char d) =
      some (((a * 16 + b) * 16 + c) * 16 + d) := by
  simp [hexUnit?, hexValue?_char ha, hexValue?_char hb, hexValue?_char hc, hexValue?_char hd]

variable {units : List CodePoint} {cs rest : List Char}

theorem readText_unitEscape (high : Bool) {n : Nat} (h : n < 0x10000) :
    readText high units (unitEscape n ++ cs) =
      readText (isHighSurrogate n) (pushUnit high n units) cs := by
  have hvalue : ((n / 16 / 16 / 16 * 16 + n / 16 / 16 % 16) * 16 + n / 16 % 16) * 16 + n % 16 =
      n := by omega
  rw [unitEscape, Quoted.padHex_four h]
  simp only [List.map_cons, List.map_nil, List.cons_append, List.nil_append]
  rw [readText, hexUnit?_char (by omega) (by omega) (by omega) (by omega), hvalue]

theorem readText_shortEscape {e c : Char} (h : shortEscape? e = some c) :
    readText false units ('\\' :: e :: cs) = readText false (.ofChar c :: units) cs := by
  have he : e ≠ 'u' := by
    rintro rfl
    cases h
  rw [readText, h]
  rintro a b c d cs' rfl
  exact absurd rfl he

theorem readText_bare {c : Char} (hquote : c ≠ '"') (hescape : c ≠ '\\')
    (hcontrol : 0x20 ≤ c.toNat) :
    readText false units (c :: cs) = readText false (.ofChar c :: units) cs := by
  rw [readText, if_neg]
  · rintro (hlow | hc)
    · omega
    · exact hescape hc
  · exact hquote
  · intro _ _ _ _ _ hc
    exact absurd hc hescape
  · intro _ _ hc
    exact absurd hc hescape

theorem codePoint_toNat (c : Char) : codePoint c.toNat = .ofChar c :=
  Fin.ext (Nat.mod_eq_of_lt (CodePoint.toNat_lt c))

theorem pushUnit_of_unpaired (n : Nat) : pushUnit false n units = codePoint n :: units :=
  rfl

theorem pushUnit_of_pair {n : Nat} (h : isLowSurrogate n = true) (p : CodePoint) :
    pushUnit true n (p :: units) =
      codePoint (0x10000 + (p.val - 0xD800) * 0x400 + (n - 0xDC00)) :: units := by
  simp [pushUnit, h]

/-- A character of the basic plane is no surrogate. -/
theorem readText_escapedUnit {c : Char} (h : c.toNat < 0x10000) :
    readText false units (unitEscape c.toNat ++ cs) = readText false (.ofChar c :: units) cs := by
  have hvalid := c.valid
  simp only [UInt32.isValidChar, Nat.isValidChar] at hvalid
  have hlow : isHighSurrogate c.toNat = false := by
    simp only [isHighSurrogate, Char.toNat, Bool.and_eq_false_iff, decide_eq_false_iff_not]
    omega
  rw [readText_unitEscape false h, hlow, pushUnit_of_unpaired, codePoint_toNat]

/-- Beyond it, a character is printed as two surrogates, which are joined again. -/
theorem readText_escapedPair {c : Char} (h : 0x10000 ≤ c.toNat) :
    readText false units (unitEscape (0xD800 + (c.toNat - 0x10000) / 0x400) ++
      unitEscape (0xDC00 + (c.toNat - 0x10000) % 0x400) ++ cs) =
        readText false (.ofChar c :: units) cs := by
  have hlt := CodePoint.toNat_lt c
  have hhigh : isHighSurrogate (0xD800 + (c.toNat - 0x10000) / 0x400) = true := by
    simp only [isHighSurrogate, Bool.and_eq_true, decide_eq_true_eq]
    omega
  have hlow : isHighSurrogate (0xDC00 + (c.toNat - 0x10000) % 0x400) = false := by
    simp only [isHighSurrogate, Bool.and_eq_false_iff, decide_eq_false_iff_not]
    omega
  have hjoin : isLowSurrogate (0xDC00 + (c.toNat - 0x10000) % 0x400) = true := by
    simp only [isLowSurrogate, Bool.and_eq_true, decide_eq_true_eq]
    omega
  have hval : (codePoint (0xD800 + (c.toNat - 0x10000) / 0x400)).val =
      0xD800 + (c.toNat - 0x10000) / 0x400 := Nat.mod_eq_of_lt (by omega)
  have hpair : 0x10000 + (0xD800 + (c.toNat - 0x10000) / 0x400 - 0xD800) * 0x400 +
      (0xDC00 + (c.toNat - 0x10000) % 0x400 - 0xDC00) = c.toNat := by omega
  rw [List.append_assoc, readText_unitEscape false (by omega), hhigh,
    readText_unitEscape true (by omega), hlow, pushUnit_of_unpaired, pushUnit_of_pair hjoin, hval,
    hpair, codePoint_toNat]

/-- Every character is read as it is printed. -/
theorem readText_writeCodePoint (c : Char) :
    readText false units (writeCodePoint (.ofChar c) ++ cs) =
      readText false (.ofChar c :: units) cs := by
  have heq : ∀ d : Char, (CodePoint.ofChar c).val = d.toNat → c = d := by
    intro d h
    exact Char.ext (UInt32.toNat_inj.mp h)
  have hshort : ∀ e d : Char, shortEscape? e = some d → (CodePoint.ofChar c).val = d.toNat →
      readText false units (['\\', e] ++ cs) = readText false (.ofChar c :: units) cs := by
    rintro e d he h
    rw [heq d h]
    exact readText_shortEscape he
  unfold writeCodePoint
  dsimp only
  split_ifs with hquote hescape hbreak hreturn htab hback hfeed hbare hbasic
  · exact hshort _ '"' rfl hquote
  · exact hshort _ '\\' rfl hescape
  · exact hshort _ '\n' rfl hbreak
  · exact hshort _ '\r' rfl hreturn
  · exact hshort _ '\t' rfl htab
  · exact hshort _ '\x08' rfl hback
  · exact hshort _ '\x0c' rfl hfeed
  · have hchar : Char.ofNat (CodePoint.ofChar c).val = c := Char.ofNat_toNat c
    rw [hchar]
    refine readText_bare ?_ ?_ hbare.1
    · rintro rfl
      exact hquote rfl
    · rintro rfl
      exact hescape rfl
  · exact readText_escapedUnit hbasic
  · exact readText_escapedPair (Nat.le_of_not_lt hbasic)

theorem readText_writeText (t : String) :
    readText false units ((Text.ofString t).flatMap writeCodePoint ++ '"' :: rest) =
      .ok (units.reverse ++ Text.ofString t, rest) := by
  rw [Text.ofString]
  induction t.toList generalizing units with
  | nil => rw [List.map_nil, List.append_nil]; rfl
  | cons c cs ih =>
    rw [List.map_cons, List.flatMap_cons, List.append_assoc, readText_writeCodePoint, ih,
      List.reverse_cons, List.append_assoc]
    rfl

example : writeText (Text.ofString (String.ofList ['"', '\n', Char.ofNat 0x1F600])) =
    "\"\\\"\\n\\ud83d\\ude00\"".toList := by decide +kernel

end Json

end SafetyConfig
