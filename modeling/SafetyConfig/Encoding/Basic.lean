import SafetyConfig.Encoding.Charset.Registry
import SafetyConfig.Encoding.Utf16

/-!
# Encodings and their labels

A document reader knows six labels by itself. The encodings behind the others are code
pages from the registry of charsets, even if the same characters also go by a label that
is known.
-/

namespace SafetyConfig

inductive Encoding where
  | utf8
  | utf16 (order : Utf16.Order)
  | latin1
  | ascii
  | page (p : CodePage)
  deriving DecidableEq, Repr

namespace Encoding

def decode : Encoding → Bytes → Decoded
  | .utf8, bs => Utf8.decode bs
  | .utf16 order, bs => Utf16.decode order bs
  | .latin1, bs => CodePage.latin1.decode bs
  | .ascii, bs => CodePage.ascii.decode bs
  | .page p, bs => p.decode bs

/-- Bytes per ASCII character. -/
def width : Encoding → Nat
  | .utf16 _ => 2
  | _ => 1

/-- The encoding that the first bytes of a document show, and the bytes after a byte order
mark. A zero in the first or second byte gives away UTF-16. -/
def detect : Bytes → Encoding × Bytes
  | 0xFE :: 0xFF :: bs => (.utf16 .big, bs)
  | 0xFF :: 0xFE :: bs => (.utf16 .little, bs)
  | 0xEF :: 0xBB :: 0xBF :: bs => (.utf8, bs)
  | a :: b :: bs =>
    if a = 0 then (.utf16 .big, a :: b :: bs)
    else if b = 0 then (.utf16 .little, a :: b :: bs)
    else (.utf8, a :: b :: bs)
  | bs => (.utf8, bs)

/-- The labels that a document reader knows by itself, whatever their case. UTF-16 without
a byte order is `none` here: it has to be visible already. -/
def builtin? (label : List Char) : Option (Option Encoding) :=
  let name := String.ofList (label.map Charset.asciiLower)
  if name = "utf-8" then some (some .utf8)
  else if name = "iso-8859-1" then some (some .latin1)
  else if name = "us-ascii" then some (some .ascii)
  else if name = "utf-16le" then some (some (.utf16 .little))
  else if name = "utf-16be" then some (some (.utf16 .big))
  else if name = "utf-16" then some none
  else none

end Encoding

end SafetyConfig
