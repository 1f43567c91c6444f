import SafetyConfig.Entity.Vocabulary
import SafetyConfig.File.Store
import SafetyConfig.Markup.Document
import SafetyConfig.Text.Lexical

/-!
# Finding configurations

All files below a directory whose names end in `.xml` are candidates, hidden ones too.
Those whose root tag is that of a configuration are listed, in the order of their names,
compared one by one from the directory down. Malformed files and files that declare
entities are passed over; an encoding that is not supported ends the search. All
directories are gone through before the first file is opened.
-/

namespace SafetyConfig

def configSuffix : List Char := ".xml".toList

def isConfigName (name : PathName) : Bool :=
  configSuffix.isSuffixOf name

/-- A file below a directory: the names from there, and the bytes. -/
structure Candidate where
  names : List PathName
  bytes : Bytes
  deriving DecidableEq, Repr

/-- Order by names from the first on, each compared by code points. -/
def namesLe : List PathName → List PathName → Bool :=
  Lexical.le (Lexical.lt (Lexical.byKey Char.toNat))

/-- Why a search ends early. -/
inductive DiscoveryFault where
  | markup (e : MarkupError)
  | unreachable
  deriving DecidableEq, Repr

/-- Whether a file is one with a certain root; no answer if the search cannot go on. -/
def isConfigFile (bytes : Bytes) : Except MarkupError Bool :=
  match Markup.rootTag bytes with
  | .ok tag => .ok (tag == ElementName.centerConfig.label)
  | .error .malformed => .ok false
  | .error (.entityDeclared _ _ _) => .ok false
  | .error e => .error e

/-- The candidates that are configurations, up to the first that ends the search. -/
def selectConfigs : List Candidate → Except MarkupError (List Candidate)
  | [] => .ok []
  | c :: cs => do
    let found ← isConfigFile c.bytes
    let rest ← selectConfigs cs
    return if found then c :: rest else rest

namespace FileStore

/-- The file at an entry of a store, if it is a candidate below a directory. -/
def candidate? (dir : Location) : Location × FileNode → Option Candidate
  | (_, .directory) => none
  | (l, .file bytes) =>
    if dir.isPrefixOf l && isConfigName (l.getLast?.getD []) then some ⟨l.drop dir.length, bytes⟩
    else none

/-- All candidates below a directory in their order. -/
def candidates (s : FileStore) (dir : Location) : List Candidate :=
  (s.nodes.filterMap (candidate? dir)).mergeSort fun c d => namesLe c.names d.names

/-- A path that is too long cannot be opened. -/
def canOpen (p : Path) : Bool :=
  utf8Length p.chars ≤ maxPathBytes

/-- The directory at an entry of a store, if it is below another: the names from there. -/
def subdirectory? (dir : Location) : Location × FileNode → Option (List PathName)
  | (_, .file _) => none
  | (l, .directory) => if dir.isPrefixOf l then some (l.drop dir.length) else none

/-- Whether all directories below one can be opened. -/
def canSearch (s : FileStore) (dir : Path) : Bool :=
  (s.nodes.filterMap (subdirectory? (dir.locate s.home))).all fun names =>
    canOpen (dir.append names)

/-- The configurations below a directory, as paths that start with the given one. -/
def findConfigs (s : FileStore) (dir : Path) : Except DiscoveryFault (List Path) :=
  match s.follow dir.chars with
  | .ok .directory =>
    if s.canSearch dir = false then .error .unreachable
    else
      let files := (s.candidates (dir.locate s.home)).filter fun c => canOpen (dir.append c.names)
      match selectConfigs files with
      | .ok found => .ok (found.map fun c => dir.append c.names)
      | .error e => .error (.markup e)
  | .error .tooLong => .error .unreachable
  | _ => .ok []

end FileStore

end SafetyConfig
