import SafetyConfig.Encoding.CodePage

/-!
# Charsets

A charset is known by names of its own and by aliases. What it is good for in a document
depends on whether a byte is a character in it, and on where it has those of ASCII.
-/

namespace SafetyConfig

/-- What a charset is to a reader that takes every byte for a character. -/
inductive CharsetKind where
  | page (p : CodePage)
  /-- The characters of ASCII have other codes. -/
  | foreign
  | multiByte
  /-- It makes bytes of bytes, not of text. -/
  | notText
  /-- Nothing can be decoded, for a reason of its own. -/
  | failing (reason : String)
  /-- Bytes above 127 cannot be decoded, nor passed over. -/
  | strictAscii
  deriving DecidableEq, Repr

namespace CharsetKind

/-- A page of graphic characters from byte 128 on. -/
def full (upper : String) : CharsetKind :=
  .page ⟨upper.toList, []⟩

/-- A page of graphic characters behind controls, which end at byte 159. -/
def graphic (upper : String) : CharsetKind :=
  .page ⟨CodePage.controls ++ upper.toList, []⟩

end CharsetKind

structure Charset where
  names : List String
  aliases : List String
  kind : CharsetKind
  deriving DecidableEq, Repr

namespace Charset

def asciiLower (c : Char) : Char :=
  if 'A' ≤ c ∧ c ≤ 'Z' then Char.ofNat (c.toNat + 32) else c

/-- Letters in lower case, and one underscore for each run of separators between parts.
Dots are parts of a label. -/
def plainLabel (label : List Char) : String :=
  let isPart := fun c : Char => c.isAlphanum || c == '.'
  let cs := label.foldr (fun c (acc : List Char × Bool) =>
    if isPart c then
      (asciiLower c :: (if acc.2 && !acc.1.isEmpty then '_' :: acc.1 else acc.1), false)
    else (acc.1, true)) ([], false)
  String.ofList cs.1

def undotted (label : String) : String :=
  String.ofList (label.toList.map fun c => if c = '.' then '_' else c)

/-- Whether a plain label is one of a charset. In aliases dots may stand for underscores. -/
def goesBy (c : Charset) (label : String) : Bool :=
  c.names.contains label || c.aliases.contains label || c.aliases.contains (undotted label)

end Charset

end SafetyConfig
