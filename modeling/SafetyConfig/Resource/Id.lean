import SafetyConfig.Entity.Basic
import SafetyConfig.Number.Digits

/-!
# Showing resource identifiers

Identifiers are shown in hexadecimal, eight characters wide with the sign, and a missing
one as a dash.
-/

namespace SafetyConfig.ResourceId

/-- Hexadecimal digits behind an optional sign, with zeros between them up to the width. -/
def paddedHex (width : Nat) (n : Int) : List Char :=
  let sign := if n < 0 then ['-'] else []
  let ds := Digits.hex n.natAbs
  sign ++ List.replicate (width - sign.length - ds.length) '0' ++ ds

def format (n : ResourceId) : String :=
  if n = 0 then "-" else String.ofList ('0' :: 'x' :: paddedHex 8 n)

end SafetyConfig.ResourceId
