import SafetyConfig.Markup.Scan

/-!
# Tokens of declarations

A token ends where another can begin: behind most of them only certain characters may
follow. Blanks between tokens are skipped.
-/

namespace SafetyConfig.Markup

/-- Tokens of a declaration. A name is qualified if it has one colon inside; a name token
may start with any name character, or have more colons. -/
inductive DeclToken where
  | name (chars : List Char)
  | qualified (chars : List Char)
  | nameToken (chars : List Char)
  /-- A name with a mark of repetition behind it. -/
  | repeated (chars : List Char)
  | literal (chars : List Char)
  | word (chars : List Char)
  | percent
  | comma
  | bar
  | openParen
  | closeParen (mark : Option Char)
  | openBracket
  | closeBracket
  | close
  deriving DecidableEq, Repr

namespace DeclToken

def endsName : List Char → Bool
  | [] => true
  | c :: _ => c = '>' || c = ')' || c = ',' || c = '|' || c = '[' || c = '%' || isSpace c

def endsWord : List Char → Bool
  | [] => true
  | c :: _ => c = ')' || c = '>' || c = '%' || c = '|' || isSpace c

def endsLiteral : List Char → Bool
  | [] => true
  | c :: _ => c = '>' || c = '%' || c = '[' || isSpace c

def endsGroup : List Char → Bool
  | [] => true
  | c :: _ => c = '>' || c = ',' || c = '|' || c = ')' || isSpace c

def isNameOrColon (letters : Alphabet) (c : Char) : Bool :=
  isNameChar letters c || c = ':'

def isRepetition (c : Char) : Bool :=
  c = '?' || c = '*' || c = '+'

/-- The kind of name that a run of name characters and colons is. -/
def classify (letters : Alphabet) (chars : List Char) : DeclToken :=
  if !startsName letters chars then .nameToken chars
  else match chars.span (isNameChar letters) with
    | (_, []) => .name chars
    | (_, _ :: []) => .nameToken chars
    | (_, _ :: loc) => if loc.contains ':' then .nameToken chars else .qualified chars

def readNameLike (letters : Alphabet) (cs : List Char) :
    Except MarkupError (DeclToken × List Char) :=
  let (chars, rest) := cs.span (isNameOrColon letters)
  let kind := classify letters chars
  if endsName rest then .ok (kind, rest)
  else match kind, rest with
    | .nameToken _, _ => .error .malformed
    | _, c :: rest => if isRepetition c then .ok (.repeated chars, rest) else .error .malformed
    | _, [] => .error .malformed

def readLiteral (quote : Char) (cs : List Char) : Except MarkupError (DeclToken × List Char) := do
  let (chars, rest) ← readUntilQuote quote cs
  if endsLiteral rest then return (.literal chars, rest) else throw .malformed

def readGroupEnd (cs : List Char) : Except MarkupError (DeclToken × List Char) :=
  match cs with
  | c :: rest =>
    if isRepetition c then .ok (.closeParen (some c), rest)
    else if endsGroup cs then .ok (.closeParen none, cs)
    else .error .malformed
  | [] => .ok (.closeParen none, [])

/-- A percent sign that stands alone; a name behind it would make it a reference. -/
def readPercent (cs : List Char) : Except MarkupError (DeclToken × List Char) :=
  match cs with
  | c :: _ => if isSpace c || c = '%' then .ok (.percent, cs) else .error .malformed
  | [] => .ok (.percent, [])

def readWord (letters : Alphabet) (cs : List Char) :
    Except MarkupError (DeclToken × List Char) := do
  let (chars, rest) ← readName letters cs
  if endsWord rest then return (.word chars, rest) else throw .malformed

/-- The next token, blanks before it skipped. -/
def next (letters : Alphabet) (cs : List Char) : Except MarkupError (DeclToken × List Char) :=
  match skipSpace cs with
  | [] => .error .malformed
  | c :: rest =>
    if c = '"' ∨ c = '\'' then readLiteral c rest
    else if c = '%' then readPercent rest
    else if c = '#' then readWord letters rest
    else if c = ',' then .ok (.comma, rest)
    else if c = '|' then .ok (.bar, rest)
    else if c = '(' then .ok (.openParen, rest)
    else if c = ')' then readGroupEnd rest
    else if c = '[' then .ok (.openBracket, rest)
    else if c = ']' then .ok (.closeBracket, rest)
    else if c = '>' then .ok (.close, rest)
    else if isNameOrColon letters c then readNameLike letters (c :: rest)
    else .error .malformed

/-- A name, qualified or not. -/
def elementName? : DeclToken → Option (List Char)
  | .name chars => some chars
  | .qualified chars => some chars
  | _ => none

end DeclToken

def expect (letters : Alphabet) (token : DeclToken) (cs : List Char) :
    Except MarkupError (List Char) := do
  let (t, rest) ← DeclToken.next letters cs
  if t = token then return rest else throw .malformed

def readLiteralToken (letters : Alphabet) (cs : List Char) :
    Except MarkupError (List Char × List Char) := do
  match ← DeclToken.next letters cs with
  | (.literal chars, rest) => return (chars, rest)
  | _ => throw .malformed

end SafetyConfig.Markup
