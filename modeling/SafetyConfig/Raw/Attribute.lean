import SafetyConfig.Entity.Vocabulary
import SafetyConfig.Number.Numeral
import SafetyConfig.Text.Lowercase
import SafetyConfig.Text.Quoted

/-!
# Values of attributes

Enumerations are given by name or by code, integers and booleans in their usual forms. Case
and surrounding blanks do not matter.
-/

namespace SafetyConfig

inductive AttributeFault where
  | notAmong (field : Field) (text : String) (names : List String)
  /-- A code that looks like digits but is no numeral. -/
  | notANumeral (token : List Char)
  | numeralTooLong (digits : Nat)
  | notAnInteger (field : Field) (text : String)
  | notABoolean (field : Field) (text : String)
  deriving DecidableEq, Repr

/-- A bad numeral is shown in quotes, cut after two hundred characters. -/
def shownNumeral (token : List Char) : String :=
  String.ofList ((Quoted.quote (token.map CodePoint.ofChar)).take 200)

def AttributeFault.message : AttributeFault → String
  | .notAmong field text names =>
    "Invalid value for attribute " ++ field.label ++ ": '" ++ text ++ "'. Valid names: " ++
      ", ".intercalate names
  | .notANumeral token => "invalid literal for int() with base 10: " ++ shownNumeral token
  | .numeralTooLong digits => Numeral.tooLongMessage (String.ofList (Digits.decimal digits))
  | .notAnInteger field text =>
    "Attribute " ++ field.label ++ " is not an integer: '" ++ text ++ "'"
  | .notABoolean field text =>
    "Attribute " ++ field.label ++ " is not a boolean: '" ++ text ++ "'"

/-- What is compared with names: trimmed, in lower case. -/
def attributeToken (text : String) : List Char :=
  Lowercase.lower (Blank.trim text.toList)

/-- Dashes and then digits of any sort, at least one. -/
def looksNumeric (token : List Char) : Bool :=
  let digits := token.dropWhile (· == '-')
  !digits.isEmpty && digits.all Digit.isDigitSign

def readCodeNumeral (token : List Char) : Except AttributeFault Int :=
  match Numeral.read token with
  | .ok n => .ok n
  | .error .malformed => .error (.notANumeral token)
  | .error (.tooLong digits) => .error (.numeralTooLong digits)

/-- The code of an enumerated attribute; zero if it is absent. -/
def readCode (field : Field) (names : List (String × Int)) :
    Option String → Except AttributeFault Int
  | none => .ok 0
  | some text =>
    let token := attributeToken text
    match names.lookup (String.ofList token) with
    | some code => .ok code
    | none =>
      if looksNumeric token then readCodeNumeral token
      else .error (.notAmong field text (names.map (·.1)))

def readInteger (field : Field) : Option String → Except AttributeFault (Option Int)
  | none => .ok none
  | some text =>
    match Numeral.read (Blank.trim text.toList) with
    | .ok n => .ok (some n)
    | .error _ => .error (.notAnInteger field text)

def booleanNames : List (String × Bool) :=
  [("true", true), ("1", true), ("false", false), ("0", false)]

def readBoolean (field : Field) : Option String → Except AttributeFault Bool
  | none => .ok false
  | some text =>
    match booleanNames.lookup (String.ofList (attributeToken text)) with
    | some b => .ok b
    | none => .error (.notABoolean field text)

end SafetyConfig
