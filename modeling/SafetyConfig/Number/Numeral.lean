import SafetyConfig.Number.Digits
import SafetyConfig.Text.Blank
import SafetyConfig.Text.Digit

/-!
# Integer numerals in texts

A numeral is an optional sign and decimal digits of any script, with single
underscores allowed between digits. Numerals over 4300 digits are refused before
anything after the digits is looked at, and no number that needs more is written out.
-/

namespace SafetyConfig.Numeral

def maxDigits : Nat := 4300

inductive Fault where
  | malformed
  | tooLong (digits : Nat)
  deriving DecidableEq, Repr

/-- The value and number of the digits at the start of a text. The underscore before
the text is pending if `bar` is set; a digit has to follow it. -/
structure Run where
  value : Nat
  digits : Nat
  bar : Bool
  deriving DecidableEq, Repr

/-- Read digits as far as they go, with what follows them; none where an underscore
has no digit on its left. -/
def readDigits (run : Run) : List Char → Option (Run × List Char)
  | [] => some (run, [])
  | c :: cs =>
    if c = '_' then
      if run.bar || run.digits == 0 then none else readDigits { run with bar := true } cs
    else match Digit.value? c with
      | some d => readDigits ⟨run.value * 10 + d, run.digits + 1, false⟩ cs
      | none => some (run, c :: cs)

/-- An unsigned numeral that fills the text. -/
def readUnsigned (cs : List Char) : Except Fault Nat :=
  match readDigits ⟨0, 0, false⟩ cs with
  | none => .error .malformed
  | some (run, rest) =>
    if run.bar || run.digits == 0 then .error .malformed
    else if maxDigits < run.digits then .error (.tooLong run.digits)
    else if rest.isEmpty then .ok run.value
    else .error .malformed

def readSigned : List Char → Except Fault Int
  | '-' :: cs => (readUnsigned cs).map fun n => -(n : Int)
  | '+' :: cs => (readUnsigned cs).map fun n => (n : Int)
  | cs => (readUnsigned cs).map fun n => (n : Int)

/-- Blanks around the numeral are ignored. -/
def read (cs : List Char) : Except Fault Int :=
  readSigned (Blank.trim cs)

def tooLongMessage (digits : String) : String :=
  "Exceeds the limit (4300 digits) for integer string conversion: value has " ++ digits ++
    " digits; use sys.set_int_max_str_digits() to increase the limit"

/-- A number is short if a numeral can have as many digits as it needs. -/
def Short (n : Int) : Prop :=
  (Digits.decimal n.natAbs).length ≤ maxDigits

instance : DecidablePred Short :=
  fun n => inferInstanceAs (Decidable ((Digits.decimal n.natAbs).length ≤ maxDigits))

/-- What is said of a number that is not short instead of writing it out. -/
def unwritableMessage : String :=
  "Exceeds the limit (4300 digits) for integer string conversion; " ++
    "use sys.set_int_max_str_digits() to increase the limit"

example : (read [' ', '-', '1', '_', '0']).toOption = some (-10) := by decide

example : (read ['1', '_', '_', '0']).toOption = none := by decide

end SafetyConfig.Numeral
