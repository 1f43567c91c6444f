import SafetyConfig.Markup.AttributeList
import SafetyConfig.Markup.ContentModel
import SafetyConfig.Markup.EntityDecl

/-!
# Document type declarations

The declarations between the brackets are read in order; comments, instructions and
references to declarations outside may stand between them.
-/

namespace SafetyConfig.Markup

/-- The keyword of a declaration after `<!`; a blank has to follow it. -/
def readKeyword (cs : List Char) : Except MarkupError (List Char × List Char) :=
  match cs.span Char.isAlpha with
  | (word, c :: rest) =>
    if isSpace c && !word.isEmpty then .ok (word, c :: rest) else .error .malformed
  | (_, []) => .error .malformed

/-- A declaration after its opening; its parts take at most one step of fuel each. -/
def readDeclaration (fuel : Nat) (d : Doctype) (cs : List Char) :
    Except MarkupError (Doctype × List Char) := do
  let (word, rest) ← readKeyword cs
  if word = "ENTITY".toList then return (d, ← readEntity d rest)
  else if word = "ATTLIST".toList then readAttributeList fuel d rest
  else if word = "ELEMENT".toList then return (d, ← readElement d.letters fuel rest)
  else if word = "NOTATION".toList then return (d, ← readNotation d.letters rest)
  else throw .malformed

/-- Declarations, comments, instructions and references up to the closing bracket. -/
def readSubset : Nat → Doctype → List Char → Except MarkupError (Doctype × List Char)
  | 0, _, _ => .error .malformed
  | fuel + 1, d, cs =>
    match skipSpace cs with
    | ']' :: rest => .ok (d, rest)
    | '<' :: '!' :: '-' :: '-' :: rest => do readSubset fuel d (← skipComment rest)
    | '<' :: '?' :: rest => do readSubset fuel d (← readInstruction d.letters rest)
    | '<' :: '!' :: rest => do
      let (d, rest) ← readDeclaration fuel d rest
      readSubset fuel d rest
    | '%' :: rest => do
      match ← readName d.letters rest with
      | (_, ';' :: rest) => readSubset fuel d.afterReference rest
      | _ => throw .malformed
    | _ => .error .malformed

/-- A document type declaration after its keyword; `d` says what is known before it. -/
def readDoctype (d : Doctype) (cs : List Char) : Except MarkupError (Doctype × List Char) := do
  let (token, rest) ← DeclToken.next d.letters cs
  if token.elementName?.isNone then throw .malformed
  let (token, rest) ← DeclToken.next d.letters rest
  let (d, token, rest) ← match token with
    | .name word =>
      match readExternalId? d.letters word rest with
      | none => throw .malformed
      | some scan => do
        let (_, rest) ← scan
        let (token, rest) ← DeclToken.next d.letters rest
        pure (d.withOutside, token, rest)
    | token => pure (d, token, rest)
  match token with
  | .close => return (d, rest)
  | .openBracket =>
    let (d, rest) ← readSubset rest.length d rest
    return (d, ← expect d.letters .close rest)
  | _ => throw .malformed

end SafetyConfig.Markup
