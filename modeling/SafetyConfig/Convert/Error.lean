import SafetyConfig.Draft.Rule

/-!
# Why a raw tree is no configuration
-/

namespace SafetyConfig

/-- Where a text stands: an element and one of its attributes, or names a caller gives. -/
structure Place where
  parent : String
  name : String
  deriving DecidableEq, Repr

inductive ConversionError where
  | missingElement (element : ElementName)
  | invalidElement (element : ElementName) (cause : Option Violation)
  | notAReference (reference : String) (place : Place)
  | referenceMissing (reference : String) (place : Place)
  /-- The failure of a draft that is no violation. It passes as it is and names no element. -/
  | unshowable
  deriving DecidableEq, Repr

def ConversionError.message : ConversionError → String
  | .missingElement element => "Element " ++ element.label ++ " missing"
  | .invalidElement element _ => "Element " ++ element.label ++ " invalid"
  | .notAReference reference place =>
    "String " ++ reference ++ " in " ++ place.parent ++ "." ++ place.name ++ " is not a reference"
  | .referenceMissing reference place =>
    "Reference " ++ reference ++ " in " ++ place.parent ++ "." ++ place.name ++ " missing"
  | .unshowable => BuildError.unshowable.message

end SafetyConfig
