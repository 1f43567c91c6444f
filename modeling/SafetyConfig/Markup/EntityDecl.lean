import SafetyConfig.Markup.DeclToken
import SafetyConfig.Markup.Doctype
import SafetyConfig.Markup.Reference

/-!
# Declarations of entities and notations

A declaration of an entity ends the reading as soon as its value or its identifiers are
known. Notations are checked for their form.
-/

namespace SafetyConfig.Markup

def isPublicChar (c : Char) : Bool :=
  c.isAlphanum || c = ' ' || c = '\r' || c = '\n' || "-'()+,./:=?;!*#@$_%".toList.contains c

def checkPublicId (chars : List Char) : Except MarkupError Unit :=
  if chars.all isPublicChar then .ok () else .error .malformed

/-- Line ends in a public identifier count as blanks, and blanks are squeezed. -/
def normalizePublicId (chars : List Char) : List Char :=
  squeeze false false (chars.map fun c => if c = '\r' ∨ c = '\n' then ' ' else c)

structure ExternalId where
  publicId : Option (List Char)
  systemId : List Char
  deriving DecidableEq, Repr

/-- Identifiers after the word that introduces them, if it is one of the two words. -/
def readExternalId? (letters : Alphabet) (word cs : List Char) :
    Option (Except MarkupError (ExternalId × List Char)) :=
  if word = "SYSTEM".toList then some do
    let (systemId, rest) ← readLiteralToken letters cs
    return (⟨none, systemId⟩, rest)
  else if word = "PUBLIC".toList then some do
    let (publicId, rest) ← readLiteralToken letters cs
    checkPublicId publicId
    let (systemId, rest) ← readLiteralToken letters rest
    return (⟨some (normalizePublicId publicId), systemId⟩, rest)
  else none

/-- The replacement text of a predefined entity, which alone may be declared. References in
it have to be well-formed and to legal characters; names are not looked up. -/
def checkEntityValue (letters : Alphabet) : Nat → List Char → Except MarkupError Unit
  | _, [] => .ok ()
  | 0, _ => .error .malformed
  | fuel + 1, c :: cs =>
    if c = '%' then .error .malformed
    else if c = '&' then do
      let (_, rest) ← readReference letters cs
      checkEntityValue letters fuel rest
    else checkEntityValue letters fuel cs

/-- A declared entity is refused as soon as its value or its identifiers are complete,
unless it goes by a predefined name or declarations are no longer taken in. -/
def refuse (taken : Bool) (name : List Char) (external : Option ExternalId) :
    Except MarkupError Unit :=
  if taken then
    .error (.entityDeclared (String.ofList name) (external.map fun e => String.ofList e.systemId)
      (external.bind fun e => e.publicId.map String.ofList))
  else .ok ()

/-- An entity declaration after its keyword. Parameter entities have no predefined names and
are never unparsed. -/
def readEntity (d : Doctype) (cs : List Char) : Except MarkupError (List Char) := do
  let (token, rest) ← DeclToken.next d.letters cs
  let (isParameter, name, rest) ← match token with
    | .name chars => pure (false, chars, rest)
    | .percent => do
      match ← DeclToken.next d.letters rest with
      | (.name chars, rest) => pure (true, chars, rest)
      | _ => throw .malformed
    | _ => throw .malformed
  let taken := d.takesIn && (isParameter || (predefined? name).isNone)
  match ← DeclToken.next d.letters rest with
  | (.literal value, rest) =>
    refuse taken name none
    if d.takesIn then checkEntityValue d.letters value.length value
    expect d.letters .close rest
  | (.name word, rest) =>
    match readExternalId? d.letters word rest with
    | none => throw .malformed
    | some scan =>
      let (external, rest) ← scan
      match ← DeclToken.next d.letters rest with
      | (.close, rest) =>
        refuse taken name (some external)
        return rest
      | (.name word, rest) =>
        if isParameter || word != "NDATA".toList then throw .malformed
        match ← DeclToken.next d.letters rest with
        | (.name _, rest) =>
          refuse taken name (some external)
          expect d.letters .close rest
        | _ => throw .malformed
      | _ => throw .malformed
  | _ => throw .malformed

def readNotation (letters : Alphabet) (cs : List Char) : Except MarkupError (List Char) := do
  match ← DeclToken.next letters cs with
  | (.name _, rest) =>
    match ← DeclToken.next letters rest with
    | (.name word, rest) =>
      if word = "SYSTEM".toList then
        let (_, rest) ← readLiteralToken letters rest
        expect letters .close rest
      else if word = "PUBLIC".toList then
        let (publicId, rest) ← readLiteralToken letters rest
        checkPublicId publicId
        match ← DeclToken.next letters rest with
        | (.close, rest) => return rest
        | (.literal _, rest) => expect letters .close rest
        | _ => throw .malformed
      else throw .malformed
    | _ => throw .malformed
  | _ => throw .malformed

end SafetyConfig.Markup
