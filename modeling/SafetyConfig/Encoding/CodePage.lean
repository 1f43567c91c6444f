import SafetyConfig.Encoding.Utf8

/-!
# Code pages

In a code page a byte is a character. Bytes below 128 are what they are in ASCII, and a
page says what those above are.
-/

namespace SafetyConfig

structure CodePage where
  /-- What the bytes from 128 on stand for, in their order. Bytes behind the end and those
  at a replacement character stand for nothing. -/
  upper : List Char
  /-- Bytes below 128 that stand for nothing. -/
  lost : List Nat := []
  deriving DecidableEq, Repr

namespace CodePage

def unassigned : Char := '\uFFFD'

def controls : List Char := (List.range 32).map fun n => Char.ofNat (0x80 + n)

def ascii : CodePage := ⟨[], []⟩

/-- Every byte is the character of the same number. -/
def latin1 : CodePage := ⟨(List.range 128).map fun n => Char.ofNat (0x80 + n), []⟩

/-- The character of a byte, where `upper` holds those of the bytes from 128 on. -/
def charAt? (upper : Array Char) (b : Nat) : Option Char :=
  if b < 0x80 then some (Char.ofNat b) else upper[b - 0x80]?.filter (· != unassigned)

def decodeFrom (upper : Array Char) (lost : List Nat) (chars : List Char) : Bytes → Decoded
  | [] => ⟨chars.reverse, false⟩
  | b :: bs =>
    match charAt? upper b.toNat with
    | some c =>
      if lost.contains b.toNat then ⟨chars.reverse, true⟩
      else decodeFrom upper lost (c :: chars) bs
    | none => ⟨chars.reverse, true⟩

def decode (page : CodePage) (bs : Bytes) : Decoded :=
  decodeFrom page.upper.toArray page.lost [] bs

end CodePage

end SafetyConfig
