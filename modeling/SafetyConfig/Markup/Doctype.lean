import SafetyConfig.Markup.Scan

/-!
# What a document type declares

Only attribute declarations have an effect on the document: they supply defaults and say
which values are tokens. Some declarations may be outside the document, where they are
not read.
-/

namespace SafetyConfig.Markup

structure AttributeDecl where
  element : List Char
  name : List Char
  tokenized : Bool
  default : Option (List Char)
  deriving DecidableEq, Repr

structure Doctype where
  /-- Newest first. -/
  attributes : List AttributeDecl := []
  /-- There may be declarations that are not in the document. -/
  hasOutside : Bool := false
  /-- A reference to declarations outside stops the taking in of later ones, unless the
  document stands alone. -/
  takesIn : Bool := true
  standalone : Bool := false
  /-- The letters of the names in the document. -/
  letters : Alphabet := .narrow
  deriving DecidableEq, Repr

namespace Doctype

/-- Whether a reference to an unknown name may be to something declared elsewhere. -/
def lenient (d : Doctype) : Bool :=
  d.hasOutside && !d.standalone

def withOutside (d : Doctype) : Doctype :=
  { d with hasOutside := true }

def afterReference (d : Doctype) : Doctype :=
  { d with hasOutside := true, takesIn := d.standalone }

def declared? (d : Doctype) (element name : List Char) : Option AttributeDecl :=
  d.attributes.find? fun a => a.element = element ∧ a.name = name

/-- The first declaration of an attribute is the one that counts. -/
def declare (d : Doctype) (a : AttributeDecl) : Doctype :=
  if (d.declared? a.element a.name).isSome then d
  else { d with attributes := a :: d.attributes }

end Doctype

end SafetyConfig.Markup
