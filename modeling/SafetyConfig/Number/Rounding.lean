import SafetyConfig.Number.Digits

/-!
# Rounding quotients

A quotient is rounded to the nearest natural number, a tie to the even one.
-/

namespace SafetyConfig.Rounding

def halfEven (num den : Nat) : Nat :=
  let quotient := num / den
  let twice := 2 * (num % den)
  if twice < den then quotient
  else if den < twice then quotient + 1
  else quotient + quotient % 2

/-- A quotient with one digit after the point. -/
def tenths (num den : Nat) : List Char :=
  let n := halfEven (10 * num) den
  Digits.decimal (n / 10) ++ '.' :: Digits.decimal (n % 10)

example : tenths 1310720 1048576 = ['1', '.', '2'] := by decide +kernel

end SafetyConfig.Rounding
