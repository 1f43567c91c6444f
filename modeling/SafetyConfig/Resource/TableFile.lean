import SafetyConfig.Encoding.Utf8
import SafetyConfig.Json.Reader
import SafetyConfig.Resource.Table

/-!
# Table files

A table file is a JSON object of packages, each an object of positive identifiers. The
first package or entry that is not right, in the order of the file, is the one reported.
-/

namespace SafetyConfig

inductive TableFault where
  | notUtf8
  | notJson
  | numeralTooLong (digits : Nat)
  | tooDeep (container : Json.Container)
  | notAnObject
  | packageNotAnObject (package : Text)
  | badId (package key : Text) (value : Json)

def containerWords : Json.Container → String
  | .array => "a JSON array"
  | .object => "a JSON object"

/-- For what is no UTF-8 or no JSON there are two texts that stand for those of the decoders, which
also say where in the file they stopped. -/
def TableFault.message : TableFault → String
  | .notUtf8 => "UTF-8 decoding error"
  | .notJson => "JSON syntax error"
  | .numeralTooLong digits => Numeral.tooLongMessage (String.ofList (Digits.decimal digits))
  | .tooDeep container =>
    "maximum recursion depth exceeded while decoding " ++ containerWords container ++
      " from a unicode string"
  | .notAnObject => "Resource table must be a JSON object keyed by package name"
  | .packageNotAnObject package =>
    "Resources for package '" ++ Text.toString package ++ "' must be a JSON object"
  | .badId package key value =>
    "Invalid resource id for '" ++ Text.toString package ++ ":" ++ Text.toString key ++ "': " ++
      value.display

namespace ResourceTable

/-- The identifier a value stands for, if it is a positive integer. -/
def positiveId? : Json → Option ResourceId
  | .int n => if 0 < n then some n else none
  | _ => none

def checkEntry (package : Text) (entry : Text × Json) : Except TableFault (Text × ResourceId) :=
  match positiveId? entry.2 with
  | some id => .ok (entry.1, id)
  | none => .error (.badId package entry.1 entry.2)

def checkPackage (field : Text × Json) : Except TableFault (Text × List (Text × ResourceId)) :=
  match field.2 with
  | .object entries => do
    let ids ← entries.mapM (checkEntry field.1)
    return (field.1, ids)
  | _ => .error (.packageNotAnObject field.1)

def ofJson : Json → Except TableFault ResourceTable
  | .object packages => do
    let packages ← packages.mapM checkPackage
    return ⟨packages⟩
  | _ => .error .notAnObject

def ofCharacters (cs : List Char) : Except TableFault ResourceTable :=
  match Json.read cs with
  | .ok v => ofJson v
  | .error .malformed => .error .notJson
  | .error (.tooManyDigits digits) => .error (.numeralTooLong digits)
  | .error (.tooDeep container) => .error (.tooDeep container)

/-- The table in a file with these bytes. -/
def ofBytes (bytes : Bytes) : Except TableFault ResourceTable :=
  match Utf8.decode? bytes with
  | some cs => ofCharacters cs
  | none => .error .notUtf8

end ResourceTable

end SafetyConfig
