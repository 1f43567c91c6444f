import SafetyConfig.Encoding.Basic
import SafetyConfig.Markup.Error
import SafetyConfig.Markup.NameChar

/-!
# Characters of a document

A document is read as a list of characters in which the character zero stands where the
bytes cannot be decoded or hold a character that no document may contain. The list ends
there, and no production of the grammar takes that character.
-/

namespace SafetyConfig.Markup

def faultMark : Char := '\x00'

/-- The legal characters at the start, and the mark of a fault if they are not all. -/
def legalFrom (done : List Char) (faulty : Bool) : List Char → List Char
  | [] => if faulty then (faultMark :: done).reverse else done.reverse
  | c :: cs =>
    if isLegal c.toNat then legalFrom (c :: done) faulty cs
    else (faultMark :: done).reverse

def characters (encoding : Encoding) (bytes : Bytes) : List Char :=
  let decoded := encoding.decode bytes
  legalFrom [] decoded.faulty decoded.chars

def skipSpace (cs : List Char) : List Char :=
  cs.dropWhile isSpace

/-- The characters after a given start, if it is there. -/
def after? : List Char → List Char → Option (List Char)
  | [], cs => some cs
  | _ :: _, [] => none
  | a :: as, c :: cs => if a = c then after? as cs else none

def startsName (letters : Alphabet) : List Char → Bool
  | c :: _ => isNameStart letters c
  | [] => false

/-- A name without colons. -/
def readName (letters : Alphabet) (cs : List Char) :
    Except MarkupError (List Char × List Char) :=
  if startsName letters cs then .ok (cs.span (isNameChar letters)) else .error .malformed

/-- A name with at most one colon, which another name has to follow. -/
def readQualified (letters : Alphabet) (cs : List Char) :
    Except MarkupError (List Char × List Char) := do
  let (name, rest) ← readName letters cs
  match rest with
  | ':' :: rest =>
    let (loc, rest) ← readName letters rest
    return (name ++ ':' :: loc, rest)
  | rest => return (name, rest)

/-- The rest after a comment whose opening has been read. Two dashes end it. -/
def skipComment : List Char → Except MarkupError (List Char)
  | '-' :: '-' :: '>' :: cs => .ok cs
  | '-' :: '-' :: _ => .error .malformed
  | [] => .error .malformed
  | c :: cs => if c = faultMark then .error .malformed else skipComment cs

/-- The rest after the end of a processing instruction. -/
def skipInstruction : List Char → Except MarkupError (List Char)
  | '?' :: '>' :: cs => .ok cs
  | [] => .error .malformed
  | c :: cs => if c = faultMark then .error .malformed else skipInstruction cs

/-- A processing instruction after its opening. Its target may not be `xml`, in whatever
case, and a blank or the end follows the target. -/
def readInstruction (letters : Alphabet) (cs : List Char) : Except MarkupError (List Char) := do
  let (target, rest) ← readName letters cs
  if target.map Charset.asciiLower = ['x', 'm', 'l'] then throw .malformed
  match rest with
  | '?' :: '>' :: rest => return rest
  | c :: rest => if isSpace c then skipInstruction rest else throw .malformed
  | [] => throw .malformed

/-- The inside of a quoted literal after its opening quote. -/
def readUntilQuote (quote : Char) (cs : List Char) : Except MarkupError (List Char × List Char) :=
  match cs.span (fun c => c != quote && c != faultMark) with
  | (inside, c :: rest) => if c = quote then .ok (inside, rest) else .error .malformed
  | (_, []) => .error .malformed

end SafetyConfig.Markup
