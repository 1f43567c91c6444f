import SafetyConfig.Markup.Scan

/-!
# The declaration at the start of a document

It gives the version, then the encoding, then whether the document stands alone. Only the
version has to be there, and it may be any version.
-/

namespace SafetyConfig.Markup

structure Declaration where
  encoding : Option (List Char)
  standalone : Bool
  /-- The number of characters of the whole declaration. -/
  length : Nat
  deriving DecidableEq, Repr

namespace Declaration

def opening : List Char := "<?xml".toList

/-- A document has a declaration if it starts with the word `xml` as an instruction. -/
def isAtStart (letters : Alphabet) (cs : List Char) : Bool :=
  match after? opening cs with
  | some (c :: _) => !isNameChar letters c
  | _ => false

/-- The characters before the closing mark. -/
def inside (done : List Char) : List Char → Except MarkupError (List Char)
  | '?' :: '>' :: _ => .ok done.reverse
  | [] => .error .malformed
  | c :: cs => if c = faultMark then .error .malformed else inside (c :: done) cs

def isValueChar (c : Char) : Bool :=
  c.isAlphanum || c = '.' || c = '-' || c = '_'

/-- A name, an equals sign and a quoted value, blanks before it required. None at the end. -/
def readPart (cs : List Char) : Except MarkupError (Option (List Char × List Char) × List Char) :=
  match cs with
  | [] => .ok (none, [])
  | c :: _ =>
    if !isSpace c then .error .malformed
    else match skipSpace cs with
      | [] => .ok (none, [])
      | cs =>
        let (name, rest) := cs.span fun c => c != '=' && !isSpace c
        match skipSpace rest with
        | '=' :: rest =>
          match skipSpace rest with
          | quote :: rest =>
            if name.isEmpty || (quote != '"' && quote != '\'') then .error .malformed
            else match rest.span isValueChar with
              | (value, c :: rest) =>
                if c = quote then .ok (some (name, value), rest) else .error .malformed
              | (_, []) => .error .malformed
          | [] => .error .malformed
        | _ => .error .malformed

def startsWithLetter : List Char → Bool
  | c :: _ => c.isAlpha
  | [] => false

/-- The value of the last part, after which only blanks may follow. -/
def readStandalone (part : List Char × List Char) (rest : List Char) : Except MarkupError Bool :=
  if part.1 != "standalone".toList || !(skipSpace rest).isEmpty then .error .malformed
  else if part.2 = "yes".toList then .ok true
  else if part.2 = "no".toList then .ok false
  else .error .malformed

/-- Read the inside of a declaration. -/
def ofInside (cs : List Char) : Except MarkupError (Option (List Char) × Bool) := do
  let (version, rest) ← readPart cs
  match version with
  | none => throw .malformed
  | some (name, _) => if name != "version".toList then throw .malformed
  let (second, rest) ← readPart rest
  match second with
  | none => return (none, false)
  | some (name, value) =>
    if name = "encoding".toList then
      if !startsWithLetter value then throw .malformed
      let (third, rest) ← readPart rest
      match third with
      | none => return (some value, false)
      | some part => return (some value, ← readStandalone part rest)
    else return (none, ← readStandalone (name, value) rest)

/-- The declaration a document starts with, if any. -/
def read (letters : Alphabet) (cs : List Char) : Except MarkupError (Option Declaration) :=
  if isAtStart letters cs then do
    let text ← inside [] (cs.drop opening.length)
    let (encoding, standalone) ← ofInside text
    return some ⟨encoding, standalone, opening.length + text.length + 2⟩
  else .ok none

end Declaration

/-- The encoding behind a label that the reader does not know by itself. -/
def registeredEncoding (label : List Char) : Except MarkupError Encoding :=
  match Charset.ofLabel? label with
  | none => .error (.unknownEncoding (String.ofList label))
  | some charset =>
    match charset.kind with
    | .page p => .ok (.page p)
    | .foreign => .error .malformed
    | .multiByte => .error .multiByteEncoding
    | .notText => .error (.byteEncoding (String.ofList label))
    | .failing reason => .error (.failingEncoding (String.ofList label) reason)
    | .strictAscii => .error .strictAsciiEncoding

/-- The encoding after a declared label. It has to go with what the bytes have shown. -/
def declaredEncoding (shown : Encoding) (label : List Char) : Except MarkupError Encoding :=
  match Encoding.builtin? label with
  | some (some e) =>
    if e.width != shown.width || (e.width = 2 && e != shown) then .error .malformed else .ok e
  | some none => if shown.width = 2 then .ok shown else .error .malformed
  | none => registeredEncoding label

/-- The letters of names: the wide alphabet goes with Latin-1 and with units of two bytes. -/
def lettersOf : Encoding → Alphabet
  | .latin1 => .wide
  | .utf16 _ => .wide
  | _ => .narrow

/-- A document after its declaration. -/
structure Manuscript where
  letters : Alphabet
  standalone : Bool
  chars : List Char
  deriving DecidableEq, Repr

def Manuscript.ofBytes (bytes : Bytes) : Except MarkupError Manuscript :=
  let (shown, bytes) := Encoding.detect bytes
  let letters := lettersOf shown
  let cs := characters shown bytes
  match Declaration.read letters cs with
  | .error e => .error e
  | .ok none => .ok ⟨letters, false, cs⟩
  | .ok (some d) =>
    match d.encoding with
    | none => .ok ⟨letters, d.standalone, cs.drop d.length⟩
    | some label =>
      match declaredEncoding shown label with
      | .error e => .error e
      | .ok e =>
        let rest := bytes.drop (d.length * shown.width)
        .ok ⟨lettersOf e, d.standalone, characters e rest⟩

end SafetyConfig.Markup
