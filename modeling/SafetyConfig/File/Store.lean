import SafetyConfig.Encoding.Utf8
import SafetyConfig.File.Path

/-!
# File stores

A store holds files and directories at their places below the root, which is always
there. Names tell upper from lower case. There are no symbolic links, so that no place is another
one, and no permissions, so that whatever is there can be listed and read. The bytes of a file are
all that is known about it.
-/

namespace SafetyConfig

inductive FileNode where
  | file (bytes : Bytes)
  | directory
  deriving DecidableEq, Repr

/-- Longest name, and longest path text, in bytes. -/
def maxNameBytes : Nat := 255

def maxPathBytes : Nat := 4095

/-- What can stand between slashes in the path of a file. -/
def IsFileName (n : PathName) : Prop :=
  Path.counts n = true ∧ n ≠ parentName ∧ '/' ∉ n ∧ '\x00' ∉ n ∧ utf8Length n ≤ maxNameBytes

instance (n : PathName) : Decidable (IsFileName n) :=
  inferInstanceAs (Decidable (_ ∧ _ ∧ _ ∧ _ ∧ _))

abbrev FileNodes := List (Location × FileNode)

def FileNodes.at? (nodes : FileNodes) (l : Location) : Option FileNode :=
  if l = [] then some .directory else nodes.lookup l

structure FileStore where
  nodes : FileNodes
  /-- The working directory. -/
  home : Location
  distinct : (nodes.map (·.1)).Nodup
  named : ∀ e ∈ nodes, e.1 ≠ [] ∧ ∀ n ∈ e.1, IsFileName n
  inDirectory : ∀ e ∈ nodes, nodes.at? e.1.dropLast = some .directory
  home_at? : nodes.at? home = some .directory

namespace FileStore

def at? (s : FileStore) (l : Location) : Option FileNode :=
  s.nodes.at? l

/-- Why a path cannot be followed, or its end cannot be read. -/
inductive Fault where
  | missing
  | notDirectory
  | isDirectory
  | tooLong
  | embeddedNul
  deriving DecidableEq, Repr

/-- Follow names one at a time. An empty name, like a dot, stays where it is, but only
at a directory. -/
def walk (s : FileStore) : Location → FileNode → List PathName → Except Fault FileNode
  | _, node, [] => .ok node
  | _, .file _, _ :: _ => .error .notDirectory
  | here, .directory, n :: ns =>
    if Path.counts n = false then walk s here .directory ns
    else if n = parentName then walk s here.dropLast .directory ns
    else if maxNameBytes < utf8Length n then .error .tooLong
    else match s.at? (here ++ [n]) with
      | none => .error .missing
      | some node => walk s (here ++ [n]) node ns

/-- What a path text leads to, followed as it is written. -/
def follow (s : FileStore) (written : List Char) : Except Fault FileNode :=
  if '\x00' ∈ written then .error .embeddedNul
  else if written = [] then .error .missing
  else if maxPathBytes < utf8Length written then .error .tooLong
  else s.walk (if written.head? = some '/' then [] else s.home) .directory (cutAt '/' written)

/-- What is at a place. -/
def status (s : FileStore) (l : Location) : Except Fault FileNode :=
  if maxPathBytes < utf8Length l.chars then .error .tooLong
  else s.walk [] .directory l

def bytesOf : FileNode → Except Fault Bytes
  | .file bytes => .ok bytes
  | .directory => .error .isDirectory

/-- The bytes of the file that a path text leads to. -/
def openFile (s : FileStore) (written : List Char) : Except Fault Bytes :=
  match s.follow written with
  | .ok node => bytesOf node
  | .error e => .error e

end FileStore

end SafetyConfig
