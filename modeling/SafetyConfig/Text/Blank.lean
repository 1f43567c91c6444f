import SafetyConfig.Text.Span

/-!
# Blank characters

The white space of Unicode together with the four information separators. Texts
are trimmed of these and of nothing else.
-/

namespace SafetyConfig.Blank

def spans : List Span := Span.ofPairs
  [(0x9, 0xD), (0x1C, 0x20), (0x85, 0x85), (0xA0, 0xA0), (0x1680, 0x1680),
   (0x2000, 0x200A), (0x2028, 0x2029), (0x202F, 0x202F), (0x205F, 0x205F), (0x3000, 0x3000)]

def isBlank (c : Char) : Bool :=
  Span.anyHas spans c.toNat

/-- Drop blanks at both ends; blanks inside stay. -/
def trim (cs : List Char) : List Char :=
  ((cs.dropWhile isBlank).reverse.dropWhile isBlank).reverse

example : trim [' ', 'a', ' ', 'b', '\u00a0'] = ['a', ' ', 'b'] := by decide

example : isBlank '\u200b' = false := by decide

end SafetyConfig.Blank
