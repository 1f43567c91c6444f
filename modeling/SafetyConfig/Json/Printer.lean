import SafetyConfig.Json.Value

/-!
# Writing JSON

Texts are written in ASCII: everything else is escaped by its UTF-16 units. Containers
are laid out with one item a line, two blanks further in than the container.
-/

namespace SafetyConfig.Json

def unitEscape (n : Nat) : List Char :=
  ['\\', 'u'] ++ Quoted.padHex 4 n

def writeCodePoint (p : CodePoint) : List Char :=
  let n := p.val
  if n = 0x22 then ['\\', '"']
  else if n = 0x5C then ['\\', '\\']
  else if n = 0x0A then ['\\', 'n']
  else if n = 0x0D then ['\\', 'r']
  else if n = 0x09 then ['\\', 't']
  else if n = 0x08 then ['\\', 'b']
  else if n = 0x0C then ['\\', 'f']
  else if 0x20 ≤ n ∧ n ≤ 0x7E then [Char.ofNat n]
  else if n < 0x10000 then unitEscape n
  else unitEscape (0xD800 + (n - 0x10000) / 0x400) ++ unitEscape (0xDC00 + (n - 0x10000) % 0x400)

def writeText (t : Text) : List Char :=
  '"' :: t.flatMap writeCodePoint ++ ['"']

def writeReal : Binary64 → List Char
  | .nan => ['N', 'a', 'N']
  | .infinite false => ['I', 'n', 'f', 'i', 'n', 'i', 't', 'y']
  | .infinite true => ['-', 'I', 'n', 'f', 'i', 'n', 'i', 't', 'y']
  | x => x.display

def newline (depth : Nat) : List Char :=
  '\n' :: List.replicate (2 * depth) ' '

mutual

/-- A value that stands `depth` levels inside its document. -/
def write (depth : Nat) : Json → List Char
  | .null => ['n', 'u', 'l', 'l']
  | .bool true => ['t', 'r', 'u', 'e']
  | .bool false => ['f', 'a', 'l', 's', 'e']
  | .int n => Digits.signedDecimal n
  | .real x => writeReal x
  | .text t => writeText t
  | .array [] => ['[', ']']
  | .array items => '[' :: writeItems (depth + 1) items ++ newline depth ++ [']']
  | .object [] => ['{', '}']
  | .object fields => '{' :: writeFields (depth + 1) fields ++ newline depth ++ ['}']

def writeItems (depth : Nat) : List Json → List Char
  | [] => []
  | [v] => newline depth ++ v.write depth
  | v :: vs => newline depth ++ v.write depth ++ [','] ++ writeItems depth vs

def writeFields (depth : Nat) : List (Text × Json) → List Char
  | [] => []
  | [(name, v)] => newline depth ++ writeText name ++ [':', ' '] ++ v.write depth
  | (name, v) :: fs =>
    newline depth ++ writeText name ++ [':', ' '] ++ v.write depth ++ [','] ++ writeFields depth fs

end

def toText (v : Json) : String :=
  String.ofList (v.write 0)

end SafetyConfig.Json
