import SafetyConfig.Convert.Parse
import SafetyConfig.File.Admission
import SafetyConfig.File.Discovery
import SafetyConfig.Resource.TableFile

/-!
# Why a tool fails

Failures that a user can do something about come with a message; the others only show
what kind they are.
-/

namespace SafetyConfig

inductive ToolError where
  | file (refusal : FileRefusal)
  | directory (refusal : DirectoryRefusal)
  | noTable
  | table (fault : TableFault)
  | packageOpen (packages : Nat)
  | config (error : ParseError)
  | groupNotFound (id : String)
  | sourceNotFound (id : String)
  | discovery (fault : DiscoveryFault)
  /-- An argument that has to be there is not. -/
  | argumentMissing
  /-- An argument cannot be used for what it is needed for. -/
  | argumentUnfit
  /-- A reference is no text. -/
  | referenceUnfit

/-- How a failure is reported. -/
inductive FailureReport where
  | notFound (message : String)
  | invalid (message : String)
  /-- Replies of tools leave the message out. -/
  | internal (kind : String) (message : Option String)
  deriving DecidableEq, Repr

namespace ToolError

def fileReport : FileRefusal → FailureReport
  | .notFound path => .notFound (FileRefusal.notFound path).message
  | .unreachable => .internal "OSError" none
  | refusal => .invalid refusal.message

def directoryReport : DirectoryRefusal → FailureReport
  | .unreachable => .internal "OSError" none
  | refusal => .invalid refusal.message

def discoveryReport : DiscoveryFault → FailureReport
  | .unreachable => .internal "OSError" none
  | .markup (.unknownEncoding _) => .internal "LookupError" none
  | .markup (.byteEncoding _) => .internal "LookupError" none
  | .markup e => .invalid (messageChain e.messages)

def tableReport (fault : TableFault) : FailureReport :=
  match fault with
  | .tooDeep _ => .internal "RecursionError" (some fault.message)
  | fault => .invalid fault.message

def report : ToolError → FailureReport
  | .file refusal => fileReport refusal
  | .directory refusal => directoryReport refusal
  | .noTable => .invalid "No resource table given and SAFETY_CENTER_RESOURCES is not set"
  | .table fault => tableReport fault
  | .packageOpen packages =>
    .invalid ("package_name is required when the resource table holds " ++
      String.ofList (Digits.decimal packages) ++ " packages")
  | .config error => .invalid error.message
  | .groupNotFound id => .invalid ("Group not found: " ++ id)
  | .sourceNotFound id => .invalid ("Source not found: " ++ id)
  | .discovery fault => discoveryReport fault
  | .argumentMissing => .internal "KeyError" none
  | .argumentUnfit => .internal "TypeError" none
  | .referenceUnfit => .internal "AttributeError" none

end ToolError

def FailureReport.reply : FailureReport → String
  | .notFound message => "File not found: " ++ message
  | .invalid message => "Validation error: " ++ message
  | .internal kind _ => "Error: " ++ kind

end SafetyConfig
