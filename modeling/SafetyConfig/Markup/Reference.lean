import SafetyConfig.Markup.Scan

/-!
# References and attribute values

A reference gives a character by its number or by one of five names. Other names can only
have been declared outside the document.
-/

namespace SafetyConfig.Markup

inductive Reference where
  | char (c : Char)
  | named (name : List Char)
  deriving DecidableEq, Repr

def predefined? (name : List Char) : Option Char :=
  if name = ['a', 'm', 'p'] then some '&'
  else if name = ['l', 't'] then some '<'
  else if name = ['g', 't'] then some '>'
  else if name = ['q', 'u', 'o', 't'] then some '"'
  else if name = ['a', 'p', 'o', 's'] then some '\''
  else none

def hexDigit? (c : Char) : Option Nat :=
  if '0' ≤ c ∧ c ≤ '9' then some (c.toNat - 48)
  else if 'a' ≤ c ∧ c ≤ 'f' then some (c.toNat - 87)
  else if 'A' ≤ c ∧ c ≤ 'F' then some (c.toNat - 55)
  else none

def decimalDigit? (c : Char) : Option Nat :=
  if '0' ≤ c ∧ c ≤ '9' then some (c.toNat - 48) else none

/-- Digits up to a semicolon, at least one. -/
def readCode (digit? : Char → Option Nat) (base : Nat) (n : Option Nat) :
    List Char → Except MarkupError (Nat × List Char)
  | [] => .error .malformed
  | c :: cs =>
    if c = ';' then
      match n with
      | some n => .ok (n, cs)
      | none => .error .malformed
    else match digit? c with
      | some d => readCode digit? base (some (n.getD 0 * base + d)) cs
      | none => .error .malformed

def legalChar (n : Nat) : Except MarkupError Char :=
  if isLegal n then .ok (Char.ofNat n) else .error .malformed

/-- A reference after its ampersand. -/
def readReference (letters : Alphabet) : List Char → Except MarkupError (Reference × List Char)
  | '#' :: 'x' :: cs => do
    let (n, rest) ← readCode hexDigit? 16 none cs
    return (.char (← legalChar n), rest)
  | '#' :: cs => do
    let (n, rest) ← readCode decimalDigit? 10 none cs
    return (.char (← legalChar n), rest)
  | cs => do
    let (name, rest) ← readName letters cs
    match rest with
    | ';' :: rest =>
      match predefined? name with
      | some c => return (.char c, rest)
      | none => return (.named name, rest)
    | _ => throw .malformed

/-- The value of an attribute as written: references resolved, line ends and tabs turned
into blanks. A reference to an unknown name is dropped if `lenient`. Every character takes
one step of fuel at most. -/
def expandValue (letters : Alphabet) (lenient : Bool) :
    Nat → List Char → List Char → Except MarkupError (List Char)
  | _, done, [] => .ok done.reverse
  | 0, _, _ => .error .malformed
  | fuel + 1, done, c :: cs =>
    if c = '&' then
      match readReference letters cs with
      | .error e => .error e
      | .ok (.char r, rest) => expandValue letters lenient fuel (r :: done) rest
      | .ok (.named _, rest) =>
        if lenient then expandValue letters lenient fuel done rest else .error .malformed
    else if c = '<' ∨ c = faultMark then .error .malformed
    else if c = '\r' then
      match cs with
      | '\n' :: rest => expandValue letters lenient fuel (' ' :: done) rest
      | rest => expandValue letters lenient fuel (' ' :: done) rest
    else if c = '\n' ∨ c = '\t' then expandValue letters lenient fuel (' ' :: done) cs
    else expandValue letters lenient fuel (c :: done) cs

/-- One blank for each run of blanks, and none at the ends. `gap` is set where a blank is
due before the next character. -/
def squeeze (gap started : Bool) : List Char → List Char
  | [] => []
  | c :: cs =>
    if c = ' ' then squeeze true started cs
    else if gap && started then ' ' :: c :: squeeze false true cs
    else c :: squeeze false true cs

/-- The value of an attribute; one declared as tokens has its blanks squeezed. -/
def attributeValue (letters : Alphabet) (lenient tokenized : Bool) (written : List Char) :
    Except MarkupError (List Char) := do
  let value ← expandValue letters lenient written.length [] written
  return if tokenized then squeeze false false value else value

end SafetyConfig.Markup
