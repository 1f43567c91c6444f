import SafetyConfig.Number.Numeral

/-!
# Values for enumerated fields

A draft takes any number for an enumerated field, and any member of any enumeration, its own or
not. A member counts as its code; only where it is named in a message does it show.
-/

namespace SafetyConfig

inductive EnumValue where
  | number (n : Int)
  | member (enumeration name : String) (n : Int)
  deriving DecidableEq, Repr

namespace EnumValue

instance : Coe Int EnumValue := ⟨.number⟩

instance (n : Nat) : OfNat EnumValue n := ⟨.number (OfNat.ofNat n)⟩

def code : EnumValue → Int
  | .number n => n
  | .member _ _ n => n

/-- A member is shown with its enumeration and its name. -/
def shown : EnumValue → String
  | .number n => String.ofList (Digits.signedDecimal n)
  | .member enumeration name n =>
    "<" ++ enumeration ++ "." ++ name ++ ": " ++ String.ofList (Digits.signedDecimal n) ++ ">"

example : (member "Profile" "ALL" 2).shown = "<Profile.ALL: 2>" := by decide +kernel

@[simp] theorem code_number (n : Int) : (number n).code = n := rfl

end EnumValue

end SafetyConfig
