import SafetyConfig.Markup.Namespace
import SafetyConfig.Markup.Subset

/-!
# Start tags

A tag is first read as written, then made sense of: values are expanded, defaults from the
document type added, and names resolved in their namespaces.
-/

namespace SafetyConfig.Markup

/-- The name of an attribute, and its value. -/
abbrev AttributePair := List Char × List Char

structure WrittenTag where
  name : List Char
  attributes : List AttributePair
  isEmpty : Bool
  deriving DecidableEq, Repr

/-- What may stand behind an attribute value. -/
def endsAttribute : List Char → Bool
  | c :: _ => isSpace c || c = '/' || c = '>'
  | [] => false

/-- An attribute: its name and its value as written. -/
def readAttribute (letters : Alphabet) (cs : List Char) :
    Except MarkupError (AttributePair × List Char) := do
  let (name, rest) ← readQualified letters cs
  match skipSpace rest with
  | '=' :: rest =>
    match skipSpace rest with
    | quote :: rest =>
      if quote != '"' && quote != '\'' then throw .malformed
      let (value, rest) ← readUntilQuote quote rest
      if endsAttribute rest then return ((name, value), rest) else throw .malformed
    | [] => throw .malformed
  | _ => throw .malformed

/-- The attributes of a tag, newest first in `read`, and whether it closes itself. -/
def readTagEnd (letters : Alphabet) : Nat → List AttributePair → List Char →
    Except MarkupError ((List AttributePair × Bool) × List Char)
  | 0, _, _ => .error .malformed
  | fuel + 1, read, cs =>
    match cs with
    | '>' :: rest => .ok ((read.reverse, false), rest)
    | '/' :: '>' :: rest => .ok ((read.reverse, true), rest)
    | c :: _ =>
      if !isSpace c then .error .malformed
      else match skipSpace cs with
        | '>' :: rest => .ok ((read.reverse, false), rest)
        | '/' :: '>' :: rest => .ok ((read.reverse, true), rest)
        | cs => do
          let (pair, rest) ← readAttribute letters cs
          readTagEnd letters fuel (pair :: read) rest
    | [] => .error .malformed

/-- A start tag after its opening bracket; each attribute takes one step of fuel. -/
def readTag (letters : Alphabet) (fuel : Nat) (cs : List Char) :
    Except MarkupError (WrittenTag × List Char) := do
  let (name, rest) ← readQualified letters cs
  let ((attributes, isEmpty), rest) ← readTagEnd letters fuel [] rest
  return (⟨name, attributes, isEmpty⟩, rest)

/-- A start tag with expanded values and resolved names. -/
structure StartTag where
  written : List Char
  tag : String
  attributes : List (String × String)
  scope : NameScope
  isEmpty : Bool
  deriving DecidableEq, Repr

def isTokenized (d : Doctype) (element name : List Char) : Bool :=
  match d.declared? element name with
  | some a => a.tokenized
  | none => false

/-- The attributes that are written out, with their values. -/
def expandAttributes (d : Doctype) (element : List Char) :
    List AttributePair → Except MarkupError (List AttributePair)
  | [] => .ok []
  | (name, written) :: rest => do
    let value ← attributeValue d.letters d.lenient (isTokenized d element name) written
    let others ← expandAttributes d element rest
    if others.any (·.1 = name) then throw .malformed
    return (name, value) :: others

/-- Declared defaults of attributes that are not written out. -/
def defaultAttributes (d : Doctype) (element : List Char)
    (given : List AttributePair) : List AttributePair :=
  d.attributes.reverse.filterMap fun a =>
    if a.element = element && !given.any (·.1 = a.name) then a.default.map (a.name, ·) else none

/-- The scope inside a tag, and its attributes that bind no prefix. -/
def enterScope (scope : NameScope) :
    List AttributePair → Except MarkupError (NameScope × List AttributePair)
  | [] => .ok (scope, [])
  | (name, value) :: rest =>
    match boundPrefix? name with
    | some mark => do enterScope (← bindNamespace scope mark value) rest
    | none => do
      let (scope, others) ← enterScope scope rest
      return (scope, (name, value) :: others)

/-- Attributes under their written names, which may not repeat. -/
def resolveAttributes (scope : NameScope) :
    List AttributePair → Except MarkupError (List (String × String))
  | [] => .ok []
  | (name, value) :: rest => do
    let written := String.ofList (← resolveAttribute scope name)
    let others ← resolveAttributes scope rest
    if others.any (·.1 = written) then throw .malformed
    return (written, String.ofList value) :: others

def startTag (d : Doctype) (scope : NameScope) (t : WrittenTag) : Except MarkupError StartTag := do
  let given ← expandAttributes d t.name t.attributes
  let (scope, attributes) ← enterScope scope (given ++ defaultAttributes d t.name given)
  let tag ← resolveTag scope t.name
  return ⟨t.name, String.ofList tag, ← resolveAttributes scope attributes, scope, t.isEmpty⟩

end SafetyConfig.Markup
