import SafetyConfig.Encoding.Utf8

/-!
# UTF-16

A high surrogate takes the low ten bits of whatever unit follows it. A low surrogate that
comes first is a fault, and so is an end inside a unit or after a high surrogate.
-/

namespace SafetyConfig.Utf16

inductive Order where
  | little
  | big
  deriving DecidableEq, Repr

def unit : Order → UInt8 → UInt8 → Nat
  | .little, a, b => b.toNat * 0x100 + a.toNat
  | .big, a, b => a.toNat * 0x100 + b.toNat

def joined (high unit : Nat) : Char :=
  Char.ofNat (0x10000 + (high % 0x400) * 0x400 + unit % 0x400)

/-- Decode behind `chars`, the characters so far, newest first; `high` is a high surrogate
that waits for its partner. -/
def decodeFrom (order : Order) (chars : List Char) (high : Option Nat) : Bytes → Decoded
  | [] => ⟨chars.reverse, high.isSome⟩
  | [_] => ⟨chars.reverse, true⟩
  | a :: b :: bs =>
    let u := unit order a b
    match high with
    | some h => decodeFrom order (joined h u :: chars) none bs
    | none =>
      if 0xD800 ≤ u ∧ u ≤ 0xDBFF then decodeFrom order chars (some u) bs
      else if 0xDC00 ≤ u ∧ u ≤ 0xDFFF then ⟨chars.reverse, true⟩
      else decodeFrom order (Char.ofNat u :: chars) none bs

def decode (order : Order) (bs : Bytes) : Decoded :=
  decodeFrom order [] none bs

end SafetyConfig.Utf16
