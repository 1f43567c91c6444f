import SafetyConfig.Convert.Basic
import SafetyConfig.Raw.Reader

/-!
# From documents to configurations

A document is read into a raw tree, and the tree is converted. A document that cannot be
read is reported with the fault of the reader as the cause.
-/

namespace SafetyConfig

inductive ParseError where
  | unreadable (fault : ReadFault)
  | rejected (error : ConversionError)
  deriving DecidableEq, Repr

/-- A message and the messages of its causes, outermost first, one a line. -/
def messageChain (messages : List String) : String :=
  "\n  caused by: ".intercalate messages

namespace ParseError

/-- The messages of an error and of its causes, outermost first. -/
def messages : ParseError → List String
  | .unreadable fault => "Exception while reading XML" :: fault.messages
  | .rejected (.invalidElement element (some v)) =>
    [(ConversionError.invalidElement element (some v)).message, v.message]
  | .rejected error => [error.message]

def message (e : ParseError) : String :=
  messageChain e.messages

end ParseError

def parse (scope : ResourceScope) (bytes : Bytes) : Except ParseError Config :=
  match readRaw bytes with
  | .error fault => .error (.unreadable fault)
  | .ok raw =>
    match convertConfig scope raw with
    | .error e => .error (.rejected e)
    | .ok config => .ok config

/-- What a caller has to give. -/
inductive Argument where
  | stream
  | package
  | resources
  deriving DecidableEq, Repr

def Argument.label : Argument → String
  | .stream => "stream"
  | .package => "resource_pkg_name"
  | .resources => "resources"

def Argument.missingMessage (a : Argument) : String :=
  a.label ++ " must not be None"

inductive ParseFailure where
  | missing (argument : Argument)
  | refused (error : ParseError)
  deriving DecidableEq, Repr

/-- Parse, once everything needed is there. -/
def parseGiven (stream : Option Bytes) (package : Option Text) (table : Option ResourceTable) :
    Except ParseFailure Config :=
  match stream, package, table with
  | none, _, _ => .error (.missing .stream)
  | _, none, _ => .error (.missing .package)
  | _, _, none => .error (.missing .resources)
  | some bytes, some package, some table =>
    match parse ⟨some package, table⟩ bytes with
    | .ok config => .ok config
    | .error e => .error (.refused e)

end SafetyConfig
