import SafetyConfig.Markup.Content
import SafetyConfig.Markup.Declaration

/-!
# Documents

A document is opened by reading up to the end of the root's start tag, which is all that
its root tag depends on. Reading the whole goes on from there.
-/

namespace SafetyConfig.Markup

/-- Comments, instructions and at most one document type, up to the root's opening; `base`
says what is known before it, and `doctype` is there once it has been read. -/
def readProlog (base : Doctype) : Nat → Option Doctype → List Char →
    Except MarkupError (Doctype × List Char)
  | 0, _, _ => .error .malformed
  | fuel + 1, doctype, cs =>
    match skipSpace cs with
    | '<' :: '!' :: '-' :: '-' :: rest => do readProlog base fuel doctype (← skipComment rest)
    | '<' :: '?' :: rest => do readProlog base fuel doctype (← readInstruction base.letters rest)
    | '<' :: '!' :: rest => do
      let (word, rest) ← readKeyword rest
      if doctype.isSome || word != "DOCTYPE".toList then throw .malformed
      let (d, rest) ← readDoctype base rest
      readProlog base fuel (some d) rest
    | '<' :: rest => .ok (doctype.getD base, rest)
    | _ => .error .malformed

/-- A document read up to the end of its root's start tag. -/
structure Opening where
  doctype : Doctype
  root : StartTag
  rest : List Char
  deriving DecidableEq, Repr

def openDocument (bytes : Bytes) : Except MarkupError Opening := do
  let m ← Manuscript.ofBytes bytes
  let base : Doctype := { standalone := m.standalone, letters := m.letters }
  let (doctype, rest) ← readProlog base m.chars.length none m.chars
  let (written, rest) ← readTag m.letters rest.length rest
  let root ← startTag doctype outermostScope written
  return ⟨doctype, root, rest⟩

/-- The tag of the root element; nothing after the root's start tag matters. -/
def rootTag (bytes : Bytes) : Except MarkupError String :=
  (openDocument bytes).map (·.root.tag)

/-- Comments and instructions up to the end of the document. -/
def readEpilog (letters : Alphabet) : Nat → List Char → Except MarkupError Unit
  | 0, cs => if (skipSpace cs).isEmpty then .ok () else .error .malformed
  | fuel + 1, cs =>
    match skipSpace cs with
    | [] => .ok ()
    | '<' :: '!' :: '-' :: '-' :: rest => do readEpilog letters fuel (← skipComment rest)
    | '<' :: '?' :: rest => do readEpilog letters fuel (← readInstruction letters rest)
    | _ => .error .malformed

/-- The rest of an opened document: its root element. -/
def Opening.finish (o : Opening) : Except MarkupError Element := do
  let root : OpenElement := ⟨o.root, [], []⟩
  let (element, rest) ←
    if o.root.isEmpty then pure (root.close, o.rest)
    else readContent o.doctype (o.rest.length + 1) root [] o.rest
  readEpilog o.doctype.letters rest.length rest
  return element

def readDocument (bytes : Bytes) : Except MarkupError Element := do
  (← openDocument bytes).finish

end SafetyConfig.Markup
