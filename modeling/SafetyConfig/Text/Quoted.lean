import SafetyConfig.Number.Digits
import SafetyConfig.Text.CodePoint
import SafetyConfig.Text.Printable

/-!
# Texts shown in quotes

Messages show a text in single quotes, or in double quotes if it has single quotes
and no double ones. What is not printable is escaped by its code.
-/

namespace SafetyConfig.Quoted

/-- A code in lower case hexadecimal, with zeros in front up to the width. -/
def padHex (width n : Nat) : List Char :=
  let ds := Digits.hex n
  List.replicate (width - ds.length) '0' ++ ds

def escapeCode (n : Nat) : List Char :=
  if n < 0x100 then ['\\', 'x'] ++ padHex 2 n
  else if n < 0x10000 then ['\\', 'u'] ++ padHex 4 n
  else ['\\', 'U'] ++ padHex 8 n

def escape (quote : Char) (p : CodePoint) : List Char :=
  match CodePoint.toChar? p with
  | none => escapeCode p.val
  | some c =>
    if c = quote ∨ c = '\\' then ['\\', c]
    else if c = '\n' then ['\\', 'n']
    else if c = '\r' then ['\\', 'r']
    else if c = '\t' then ['\\', 't']
    else if Printable.isPrintable p.val then [c]
    else escapeCode p.val

def quoteMark (t : Text) : Char :=
  if t.contains (CodePoint.ofChar '\'') && !t.contains (CodePoint.ofChar '"') then '"' else '\''

def quote (t : Text) : List Char :=
  let mark := quoteMark t
  mark :: t.flatMap (escape mark) ++ [mark]

def quoteString (s : String) : String :=
  String.ofList (quote (Text.ofString s))

example : quoteString "it's" = "\"it's\"" := by decide +kernel

example : quoteString "a\u00a0" = "'a\\xa0'" := by decide +kernel

end SafetyConfig.Quoted
