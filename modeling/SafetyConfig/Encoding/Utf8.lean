/-!
# UTF-8

Decoding goes octet by octet. It stops at the first octet that no character can have at
its place, and at an end inside a character.
-/

namespace SafetyConfig

abbrev Bytes := List UInt8

/-- The characters of a byte sequence up to its first fault, if it has one. -/
structure Decoded where
  chars : List Char
  faulty : Bool
  deriving DecidableEq, Repr

namespace Utf8

/-- A character that is not complete: octets owed, the bits so far, and the range of the
next octet, which keeps out long forms, surrogates and what is above the last plane. -/
structure Partial where
  owed : Nat
  bits : Nat
  low : Nat
  high : Nat
  deriving DecidableEq, Repr

inductive Progress where
  | char (c : Char)
  | more (p : Partial)
  | fault
  deriving DecidableEq, Repr

def first (b : Nat) : Progress :=
  if b < 0x80 then .char (Char.ofNat b)
  else if b < 0xC2 then .fault
  else if b < 0xE0 then .more ⟨1, b - 0xC0, 0x80, 0xBF⟩
  else if b = 0xE0 then .more ⟨2, 0, 0xA0, 0xBF⟩
  else if b = 0xED then .more ⟨2, 0xD, 0x80, 0x9F⟩
  else if b < 0xF0 then .more ⟨2, b - 0xE0, 0x80, 0xBF⟩
  else if b = 0xF0 then .more ⟨3, 0, 0x90, 0xBF⟩
  else if b < 0xF4 then .more ⟨3, b - 0xF0, 0x80, 0xBF⟩
  else if b = 0xF4 then .more ⟨3, 4, 0x80, 0x8F⟩
  else .fault

def next (p : Partial) (b : Nat) : Progress :=
  if p.low ≤ b ∧ b ≤ p.high then
    let bits := p.bits * 0x40 + (b - 0x80)
    if p.owed ≤ 1 then .char (Char.ofNat bits) else .more ⟨p.owed - 1, bits, 0x80, 0xBF⟩
  else .fault

def step (pending : Option Partial) (b : UInt8) : Progress :=
  match pending with
  | none => first b.toNat
  | some p => next p b.toNat

/-- Decode behind `chars`, the characters so far, newest first. -/
def decodeFrom (chars : List Char) (pending : Option Partial) : Bytes → Decoded
  | [] => ⟨chars.reverse, pending.isSome⟩
  | b :: bs =>
    match step pending b with
    | .char c => decodeFrom (c :: chars) none bs
    | .more p => decodeFrom chars (some p) bs
    | .fault => ⟨chars.reverse, true⟩

def decode (bs : Bytes) : Decoded :=
  decodeFrom [] none bs

/-- The text of a byte sequence that is UTF-8 from end to end. -/
def decode? (bs : Bytes) : Option (List Char) :=
  let d := decode bs
  if d.faulty then none else some d.chars

end Utf8

end SafetyConfig
