import SafetyConfig.Markup.DeclToken
import SafetyConfig.Markup.Doctype
import SafetyConfig.Markup.Reference

/-!
# Attribute list declarations

An attribute has a type, of which only matters whether its values are tokens, and may have a
default.
-/

namespace SafetyConfig.Markup

def cdataType : List Char := "CDATA".toList

def tokenTypes : List (List Char) :=
  ["ID", "IDREF", "IDREFS", "ENTITY", "ENTITIES", "NMTOKEN", "NMTOKENS"].map String.toList

/-- An enumeration after its opening parenthesis. -/
def readChoices (letters : Alphabet) (accepts : DeclToken → Bool) :
    Nat → List Char → Except MarkupError (List Char)
  | 0, _ => .error .malformed
  | fuel + 1, cs => do
    let (token, rest) ← DeclToken.next letters cs
    if !accepts token then throw .malformed
    match ← DeclToken.next letters rest with
    | (.bar, rest) => readChoices letters accepts fuel rest
    | (.closeParen none, rest) => return rest
    | _ => throw .malformed

def isToken : DeclToken → Bool
  | .name _ => true
  | .qualified _ => true
  | .nameToken _ => true
  | _ => false

def isPlainName : DeclToken → Bool
  | .name _ => true
  | _ => false

/-- The type of an attribute: whether its values are tokens. -/
def readAttributeType (letters : Alphabet) (fuel : Nat) (cs : List Char) :
    Except MarkupError (Bool × List Char) := do
  match ← DeclToken.next letters cs with
  | (.openParen, rest) => return (true, ← readChoices letters isToken fuel rest)
  | (.name word, rest) =>
    if word = cdataType then return (false, rest)
    else if tokenTypes.contains word then return (true, rest)
    else if word = "NOTATION".toList then
      match ← DeclToken.next letters rest with
      | (.openParen, rest) => return (true, ← readChoices letters isPlainName fuel rest)
      | _ => throw .malformed
    else throw .malformed
  | _ => throw .malformed

/-- A default value; it is looked into only while declarations are taken in. -/
def defaultValue (d : Doctype) (tokenized : Bool) (written : List Char) :
    Except MarkupError (Option (List Char)) :=
  if d.takesIn then (attributeValue d.letters d.lenient tokenized written).map some else .ok none

def readDefault (d : Doctype) (tokenized : Bool) (cs : List Char) :
    Except MarkupError (Option (List Char) × List Char) := do
  match ← DeclToken.next d.letters cs with
  | (.literal written, rest) => return (← defaultValue d tokenized written, rest)
  | (.word word, rest) =>
    if word = "IMPLIED".toList ∨ word = "REQUIRED".toList then return (none, rest)
    else if word = "FIXED".toList then
      let (written, rest) ← readLiteralToken d.letters rest
      return (← defaultValue d tokenized written, rest)
    else throw .malformed
  | _ => throw .malformed

/-- The attributes of one element, up to the end of the declaration. -/
def readAttributes (element : List Char) : Nat → Doctype → List Char →
    Except MarkupError (Doctype × List Char)
  | 0, _, _ => .error .malformed
  | fuel + 1, d, cs => do
    let (token, rest) ← DeclToken.next d.letters cs
    match token, token.elementName? with
    | .close, _ => return (d, rest)
    | _, some name =>
      let (tokenized, rest) ← readAttributeType d.letters fuel rest
      let (default, rest) ← readDefault d tokenized rest
      let d := if d.takesIn then d.declare ⟨element, name, tokenized, default⟩ else d
      readAttributes element fuel d rest
    | _, none => throw .malformed

def readAttributeList (fuel : Nat) (d : Doctype) (cs : List Char) :
    Except MarkupError (Doctype × List Char) := do
  let (token, rest) ← DeclToken.next d.letters cs
  match token.elementName? with
  | some element => readAttributes element fuel d rest
  | none => throw .malformed

end SafetyConfig.Markup
