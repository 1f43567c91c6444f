import SafetyConfig.Markup.Element
import SafetyConfig.Markup.Tag

/-!
# The content of elements

Open elements are kept innermost first; the reading of content ends with the end tag of
the outermost one.
-/

namespace SafetyConfig.Markup

/-- An element whose end tag has not been read. Text and children are newest first. -/
structure OpenElement where
  start : StartTag
  text : List (List Char) := []
  children : List Element := []

namespace OpenElement

def addText (e : OpenElement) (chars : List Char) : OpenElement :=
  { e with text := chars :: e.text }

def addChild (e : OpenElement) (child : Element) : OpenElement :=
  { e with children := child :: e.children }

def close (e : OpenElement) : Element :=
  .mk e.start.tag e.start.attributes (String.ofList e.text.reverse.flatten) e.children.reverse

end OpenElement

/-- Whether text has the mark that ends a character data section. -/
def hasSectionEnd : List Char → Bool
  | ']' :: ']' :: '>' :: _ => true
  | [] => false
  | _ :: cs => hasSectionEnd cs

/-- The inside of a character data section after its opening. -/
def readSection (done : List Char) : List Char → Except MarkupError (List Char × List Char)
  | ']' :: ']' :: '>' :: cs => .ok (done.reverse, cs)
  | [] => .error .malformed
  | c :: cs => if c = faultMark then .error .malformed else readSection (c :: done) cs

def sectionOpening : List Char := "[CDATA[".toList

/-- Text up to the next markup or reference. -/
def readText (cs : List Char) : Except MarkupError (List Char × List Char) :=
  let (text, rest) := cs.span fun c => c != '<' && c != '&'
  if text.contains faultMark || hasSectionEnd text then .error .malformed else .ok (text, rest)

/-- An end tag after its opening; it repeats the name of the start tag. -/
def readEndTag (name cs : List Char) : Except MarkupError (List Char) :=
  match after? name cs with
  | none => .error .malformed
  | some rest =>
    match skipSpace rest with
    | '>' :: rest => .ok rest
    | _ => .error .malformed

/-- Content of the innermost open element `top`, and of the elements around it. Every step
takes a character. -/
def readContent (d : Doctype) : Nat → OpenElement → List OpenElement → List Char →
    Except MarkupError (Element × List Char)
  | 0, _, _, _ => .error .malformed
  | fuel + 1, top, outer, cs =>
    match cs with
    | [] => .error .malformed
    | '<' :: '/' :: rest => do
      let rest ← readEndTag top.start.written rest
      match outer with
      | [] => return (top.close, rest)
      | next :: outer => readContent d fuel (next.addChild top.close) outer rest
    | '<' :: '?' :: rest => do readContent d fuel top outer (← readInstruction d.letters rest)
    | '<' :: '!' :: '-' :: '-' :: rest => do readContent d fuel top outer (← skipComment rest)
    | '<' :: '!' :: rest =>
      match after? sectionOpening rest with
      | some rest => do
        let (text, rest) ← readSection [] rest
        readContent d fuel (top.addText text) outer rest
      | none => .error .malformed
    | '<' :: rest => do
      let (written, rest) ← readTag d.letters fuel rest
      let start ← startTag d top.start.scope written
      if start.isEmpty then
        readContent d fuel (top.addChild (OpenElement.close ⟨start, [], []⟩)) outer rest
      else readContent d fuel ⟨start, [], []⟩ (top :: outer) rest
    | '&' :: rest => do
      match ← readReference d.letters rest with
      | (.char c, rest) => readContent d fuel (top.addText [c]) outer rest
      | (.named _, _) => throw .malformed
    | cs => do
      let (text, rest) ← readText cs
      readContent d fuel (top.addText text) outer rest

end SafetyConfig.Markup
