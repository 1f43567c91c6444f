/-!
# Texts with unpaired surrogates

An escape in a JSON text may name half of a surrogate pair, which is no character.
Texts that may hold one are lists of code points; every string is such a text.
-/

namespace SafetyConfig

abbrev CodePoint := Fin 0x110000

namespace CodePoint

theorem toNat_lt (c : Char) : c.toNat < 0x110000 := by
  have := c.valid
  simp only [Char.toNat, UInt32.isValidChar, Nat.isValidChar] at *
  omega

def ofChar (c : Char) : CodePoint :=
  ⟨c.toNat, toNat_lt c⟩

/-- The character at a code point, unless it is a surrogate. -/
def toChar? (p : CodePoint) : Option Char :=
  if h : p.val.isValidChar then some (Char.ofNatAux p.val h) else none

theorem ofChar_injective {c d : Char} (h : ofChar c = ofChar d) : c = d := by
  have hv : c.toNat = d.toNat := by simpa [ofChar] using h
  exact Char.ext (UInt32.toNat_inj.mp hv)

@[simp] theorem toChar?_ofChar (c : Char) : toChar? (ofChar c) = some c := by
  have hv : (ofChar c).val.isValidChar := c.valid
  unfold toChar?
  rw [dif_pos hv]
  exact congrArg some (Char.ext (UInt32.toNat_inj.mp rfl))

end CodePoint

abbrev Text := List CodePoint

namespace Text

def ofString (s : String) : Text :=
  s.toList.map CodePoint.ofChar

/-- A surrogate shows as the replacement character. -/
def toString (t : Text) : String :=
  String.ofList (t.map fun p => (CodePoint.toChar? p).getD '\ufffd')

theorem ofString_injective {s t : String} (h : ofString s = ofString t) : s = t := by
  have : s.toList = t.toList :=
    (List.map_inj_right fun _ _ h => CodePoint.ofChar_injective h).mp h
  exact String.toList_injective this

@[simp] theorem toString_ofString (s : String) : toString (ofString s) = s := by
  simp [toString, ofString, List.map_map, Function.comp_def]

/-- The string that a text is, unless there is a surrogate in it. -/
def string? (t : Text) : Option String :=
  if ofString (toString t) = t then some (toString t) else none

@[simp] theorem string?_ofString (s : String) : string? (ofString s) = some s := by
  simp [string?]

theorem string?_eq_some_iff {t : Text} {s : String} : string? t = some s ↔ t = ofString s := by
  constructor
  · intro h
    unfold string? at h
    split at h
    · rename_i ht
      rw [← Option.some.inj h, ht]
    · cases h
  · rintro rfl
    exact string?_ofString s

end Text

end SafetyConfig
