import SafetyConfig.Text.Quoted

/-!
# Why a document cannot be read
-/

namespace SafetyConfig

inductive MarkupError where
  | malformed
  /-- The document declares an entity of its own. -/
  | entityDeclared (name : String) (systemId publicId : Option String)
  | unknownEncoding (label : String)
  /-- The label is that of an encoding of bytes, not of text. -/
  | byteEncoding (label : String)
  | multiByteEncoding
  /-- The encoding decodes nothing. -/
  | failingEncoding (label reason : String)
  /-- The encoding cannot decode bytes above 127, nor pass over them. -/
  | strictAsciiEncoding
  deriving DecidableEq, Repr

namespace MarkupError

def showId : Option String → String
  | none => "None"
  | some s => Quoted.quoteString s

/-- For a malformed document there is one text that stands for those of the parser, which also say
what is wrong and where. -/
def message : MarkupError → String
  | .malformed => "XML syntax error"
  | .entityDeclared name systemId publicId =>
    "EntitiesForbidden(name='" ++ name ++ "', system_id=" ++ showId systemId ++
      ", public_id=" ++ showId publicId ++ ")"
  | .unknownEncoding label => "unknown encoding: " ++ label
  | .byteEncoding label =>
    "'" ++ label ++ "' is not a text encoding; use codecs.decode() to handle arbitrary codecs"
  | .multiByteEncoding => "multi-byte encodings are not supported"
  | .failingEncoding label reason =>
    "decoding with '" ++ label ++ "' codec failed (UnicodeError: " ++ reason ++ ")"
  | .strictAsciiEncoding =>
    "'ascii' codec can't decode byte 0x80 in position 82: ordinal not in range(128)"

/-- The message, and that of the cause if there is one. -/
def messages (e : MarkupError) : List String :=
  match e with
  | .failingEncoding _ reason => [e.message, reason]
  | e => [e.message]

end MarkupError

end SafetyConfig
