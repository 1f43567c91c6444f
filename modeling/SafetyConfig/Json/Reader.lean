import SafetyConfig.Json.Value
import SafetyConfig.Number.Numeral

/-!
# Reading JSON

Besides the standard grammar, the words NaN, Infinity and -Infinity are numbers. A
numeral without fraction and exponent is an integer of any size up to the digit limit.
Containers cannot be nested without end: one that opens too deep ends the reading, whatever
comes after it.
-/

namespace SafetyConfig.Json

inductive Container where
  | array
  | object
  deriving DecidableEq, Repr

inductive Fault where
  | malformed
  | tooManyDigits (digits : Nat)
  | tooDeep (container : Container)
  deriving DecidableEq, Repr

/-- What was read, and the text after it. -/
abbrev Parsed (α : Type) := Except Fault (α × List Char)

def isSpace (c : Char) : Bool :=
  c = ' ' || c = '\t' || c = '\n' || c = '\r'

def skipSpace (cs : List Char) : List Char :=
  cs.dropWhile isSpace

def hexValue? (c : Char) : Option Nat :=
  if '0' ≤ c ∧ c ≤ '9' then some (c.toNat - 48)
  else if 'a' ≤ c ∧ c ≤ 'f' then some (c.toNat - 87)
  else if 'A' ≤ c ∧ c ≤ 'F' then some (c.toNat - 55)
  else none

/-- The number written with four hexadecimal digits. -/
def hexUnit? (a b c d : Char) : Option Nat := do
  return (((← hexValue? a) * 16 + (← hexValue? b)) * 16 + (← hexValue? c)) * 16 + (← hexValue? d)

def codePoint (n : Nat) : CodePoint :=
  Fin.ofNat _ n

def isHighSurrogate (n : Nat) : Bool :=
  0xD800 ≤ n && n ≤ 0xDBFF

def isLowSurrogate (n : Nat) : Bool :=
  0xDC00 ≤ n && n ≤ 0xDFFF

/-- Put an escaped unit in front of the units read so far, newest first. A low surrogate
joins a high one if both were escaped, the high one just before. -/
def pushUnit (high : Bool) (n : Nat) (units : List CodePoint) : List CodePoint :=
  match high && isLowSurrogate n, units with
  | true, p :: ps => codePoint (0x10000 + (p.val - 0xD800) * 0x400 + (n - 0xDC00)) :: ps
  | _, ps => codePoint n :: ps

def shortEscape? (c : Char) : Option Char :=
  if c = '"' ∨ c = '\\' ∨ c = '/' then some c
  else if c = 'b' then some '\x08'
  else if c = 'f' then some '\x0c'
  else if c = 'n' then some '\n'
  else if c = 'r' then some '\r'
  else if c = 't' then some '\t'
  else none

/-- The rest of a text after its opening quote. `units` are the units so far, newest
first; `high` is set if the newest is an escaped high surrogate. -/
def readText (high : Bool) (units : List CodePoint) : List Char → Parsed Text
  | [] => .error .malformed
  | '"' :: cs => .ok (units.reverse, cs)
  | '\\' :: 'u' :: a :: b :: c :: d :: cs =>
    match hexUnit? a b c d with
    | some n => readText (isHighSurrogate n) (pushUnit high n units) cs
    | none => .error .malformed
  | '\\' :: e :: cs =>
    match shortEscape? e with
    | some c => readText false (CodePoint.ofChar c :: units) cs
    | none => .error .malformed
  | c :: cs =>
    if c.toNat < 0x20 ∨ c = '\\' then .error .malformed
    else readText false (CodePoint.ofChar c :: units) cs

def isAsciiDigit (c : Char) : Bool :=
  '0' ≤ c && c ≤ '9'

/-- The value of a list of ASCII digits. -/
def digitsValue (ds : List Char) : Nat :=
  ds.foldl (fun n c => n * 10 + (c.toNat - 48)) 0

/-- The digits before the point: a single zero, or digits that start with another. -/
def readWhole : List Char → Option (List Char × List Char)
  | [] => none
  | c :: cs =>
    if c = '0' then some ([c], cs)
    else if isAsciiDigit c then some ((c :: cs).span isAsciiDigit)
    else none

/-- A point and at least one digit; otherwise the point is left alone. -/
def readFraction : List Char → Option (List Char) × List Char
  | '.' :: cs =>
    match cs.span isAsciiDigit with
    | ([], _) => (none, '.' :: cs)
    | (ds, rest) => (some ds, rest)
  | cs => (none, cs)

/-- The digits of an exponent after its letter and sign. -/
def exponentDigits (negative : Bool) (cs : List Char) : Option (Int × List Char) :=
  match cs.span isAsciiDigit with
  | ([], _) => none
  | (ds, rest) =>
    let e : Int := digitsValue ds
    some (if negative then -e else e, rest)

/-- An exponent with at least one digit; otherwise its letter is left alone. -/
def readExponent (cs : List Char) : Option Int × List Char :=
  let found := match cs with
    | 'e' :: '-' :: r => exponentDigits true r
    | 'E' :: '-' :: r => exponentDigits true r
    | 'e' :: '+' :: r => exponentDigits false r
    | 'E' :: '+' :: r => exponentDigits false r
    | 'e' :: r => exponentDigits false r
    | 'E' :: r => exponentDigits false r
    | _ => none
  match found with
  | some (e, rest) => (some e, rest)
  | none => (none, cs)

/-- A number after its sign. -/
def readNumber (negative : Bool) (cs : List Char) : Parsed Json :=
  match readWhole cs with
  | none => .error .malformed
  | some (whole, rest) =>
    let (fraction, rest) := readFraction rest
    let (exponent, rest) := readExponent rest
    match fraction, exponent with
    | none, none =>
      if Numeral.maxDigits < whole.length then .error (.tooManyDigits whole.length)
      else
        let n : Int := digitsValue whole
        .ok (.int (if negative then -n else n), rest)
    | fraction, exponent =>
      let part := fraction.getD []
      let e : Int := exponent.getD 0 - part.length
      .ok (.real (.ofDecimal negative (digitsValue (whole ++ part)) e), rest)

/-- Values that are neither texts nor containers. -/
def readScalar : List Char → Parsed Json
  | 'n' :: 'u' :: 'l' :: 'l' :: cs => .ok (.null, cs)
  | 't' :: 'r' :: 'u' :: 'e' :: cs => .ok (.bool true, cs)
  | 'f' :: 'a' :: 'l' :: 's' :: 'e' :: cs => .ok (.bool false, cs)
  | 'N' :: 'a' :: 'N' :: cs => .ok (.real .nan, cs)
  | 'I' :: 'n' :: 'f' :: 'i' :: 'n' :: 'i' :: 't' :: 'y' :: cs => .ok (.real (.infinite false), cs)
  | '-' :: 'I' :: 'n' :: 'f' :: 'i' :: 'n' :: 'i' :: 't' :: 'y' :: cs =>
    .ok (.real (.infinite true), cs)
  | '-' :: cs => readNumber true cs
  | cs => readNumber false cs

mutual

/-- A value that starts the text, with room for `room` containers in each other. -/
def readValue : Nat → Nat → List Char → Parsed Json
  | 0, _, _ => .error .malformed
  | fuel + 1, room, cs =>
    match cs with
    | '"' :: r => (readText false [] r).map fun (t, r) => (.text t, r)
    | '[' :: r =>
      match room with
      | 0 => .error (.tooDeep .array)
      | room + 1 =>
        match skipSpace r with
        | ']' :: r => .ok (.array [], r)
        | r => readItems fuel room [] r
    | '{' :: r =>
      match room with
      | 0 => .error (.tooDeep .object)
      | room + 1 =>
        match skipSpace r with
        | '}' :: r => .ok (.object [], r)
        | r => readFields fuel room [] r
    | r => readScalar r

/-- Items of an array up to its end; `items` are those so far, newest first. -/
def readItems : Nat → Nat → List Json → List Char → Parsed Json
  | 0, _, _, _ => .error .malformed
  | fuel + 1, room, items, cs =>
    match readValue fuel room cs with
    | .error e => .error e
    | .ok (v, r) =>
      match skipSpace r with
      | ',' :: r => readItems fuel room (v :: items) (skipSpace r)
      | ']' :: r => .ok (.array (v :: items).reverse, r)
      | _ => .error .malformed

/-- Fields of an object up to its end. -/
def readFields : Nat → Nat → List (Text × Json) → List Char → Parsed Json
  | 0, _, _, _ => .error .malformed
  | fuel + 1, room, fields, cs =>
    match cs with
    | '"' :: r =>
      match readText false [] r with
      | .error e => .error e
      | .ok (name, r) =>
        match skipSpace r with
        | ':' :: r =>
          match readValue fuel room (skipSpace r) with
          | .error e => .error e
          | .ok (v, r) =>
            match skipSpace r with
            | ',' :: r => readFields fuel room (putField name v fields) (skipSpace r)
            | '}' :: r => .ok (.object (putField name v fields), r)
            | _ => .error .malformed
        | _ => .error .malformed
    | _ => .error .malformed

end

/-- How deep containers can be nested. The decoder goes one call deeper with every container, and
1000 calls may be open at a time; this is what is left of them where some ten are open before the
decoder is called. Another caller may leave it a few more or less. -/
def maxDepth : Nat := 990

/-- Every nesting level and every item takes a character, and at most two steps. -/
def read (cs : List Char) : Except Fault Json :=
  match readValue (2 * cs.length + 2) maxDepth (skipSpace cs) with
  | .error e => .error e
  | .ok (v, rest) => if (skipSpace rest).isEmpty then .ok v else .error .malformed

end SafetyConfig.Json
