import SafetyConfig.Convert.Parse
import SafetyConfig.File.Admission

/-!
# Reading configuration files

A path is followed as it is written here, without being admitted first.
-/

namespace SafetyConfig

inductive LoadFailure where
  | path (fault : FileStore.Fault)
  | tooLarge (size : Nat)
  | parse (failure : ParseFailure)
  deriving DecidableEq, Repr

/-- Kilobytes are rounded to whole ones. -/
def oversizeMessage (size : Nat) : String :=
  "Config file exceeds maximum size (" ++
    String.ofList (Digits.decimal (Rounding.halfEven size 1024)) ++ " KB > 1024 KB limit)"

inductive ReadPathFailure where
  | path (fault : FileStore.Fault)
  | document (fault : ReadFault)
  deriving DecidableEq, Repr

namespace FileStore

/-- Parse a file; its size is checked before anything else. -/
def parseFile (s : FileStore) (path : String) (package : Option Text)
    (table : Option ResourceTable) : Except LoadFailure Config :=
  match s.openFile (Path.ofString path).chars with
  | .error e => .error (.path e)
  | .ok bytes =>
    let size := bytes.length
    if maxFileBytes < size then .error (.tooLarge size)
    else
      match parseGiven (some bytes) package table with
      | .ok config => .ok config
      | .error e => .error (.parse e)

/-- The raw tree of the document at a path. -/
def readPath (s : FileStore) (path : String) : Except ReadPathFailure (Option RawConfig) :=
  match s.openFile path.toList with
  | .error e => .error (.path e)
  | .ok bytes =>
    match readRaw bytes with
    | .ok raw => .ok raw
    | .error e => .error (.document e)

end FileStore

end SafetyConfig
