import SafetyConfig.File.Edit

/-!
# Changes at a path

A change goes to the last name of a path text, in the directory that the text before it
leads to. Making directories is a row of single steps: those made before a step that fails
stay.
-/

namespace SafetyConfig

/-- The end of a path text: a name in a directory. -/
structure PathEnd where
  directory : Location
  /-- None where the text ends in dots or is the root, which always lead to a directory. -/
  name : Option PathName
  /-- There are slashes behind the name. -/
  slashed : Bool
  deriving DecidableEq, Repr

inductive ChangeFault where
  | path (fault : FileStore.Fault)
  /-- Something is there already. -/
  | taken
  deriving DecidableEq, Repr

/-- A store after a change, or after the part of it that went before a fault. -/
structure Changed where
  store : FileStore
  fault : Option ChangeFault := none

/-- A directory that is there already does not keep others from being made in it. -/
def Changed.isStopped (c : Changed) : Bool :=
  match c.fault with
  | none => false
  | some .taken => false
  | some _ => true

/-- A path text up to its last slash, without the slashes there, and what comes after. A
text of nothing but slashes before the last name is left as it is. -/
def splitPathText (written : List Char) : List Char × List Char :=
  let (last, before) := written.reverse.span (· != '/')
  let head := before.dropWhile (· = '/')
  (if head.isEmpty then before.reverse else head.reverse, last.reverse)

/-- As `splitPathText`, with slashes at the end left out. -/
def splitPathEnd (written : List Char) : List Char × List Char :=
  match splitPathText written with
  | (head, []) => splitPathText head
  | parts => parts

namespace FileStore

def pathEnd (s : FileStore) (written : List Char) : Except Fault PathEnd :=
  if '\x00' ∈ written then .error .embeddedNul
  else if written = [] then .error .missing
  else if maxPathBytes < utf8Length written then .error .tooLong
  else
    let start := if written.head? = some '/' then [] else s.home
    match (cutAt '/' written).reverse.dropWhile List.isEmpty with
    | [] => .ok ⟨[], none, true⟩
    | last :: before =>
      match s.walk start .directory before.reverse with
      | .error e => .error e
      | .ok (.file _) => .error .notDirectory
      | .ok .directory =>
        let directory := Path.descend start (before.reverse.filter Path.counts)
        let isName := Path.counts last && last != parentName
        .ok ⟨directory, if isName then some last else none, written.getLast? = some '/'⟩

def isThere (s : FileStore) (written : List Char) : Bool :=
  match s.follow written with
  | .ok _ => true
  | .error _ => false

def isDirectory (s : FileStore) (written : List Char) : Bool :=
  match s.follow written with
  | .ok .directory => true
  | _ => false

def atPath {α : Type} : Except Fault α → Except ChangeFault α
  | .ok a => .ok a
  | .error fault => .error (.path fault)

/-- Make one directory in another. -/
def makeOne (s : FileStore) (written : List Char) : Except ChangeFault FileStore :=
  match s.pathEnd written with
  | .error fault => .error (.path fault)
  | .ok ⟨_, none, _⟩ => .error .taken
  | .ok ⟨directory, some name, _⟩ =>
    if (s.at? (directory ++ [name])).isSome then .error .taken
    else atPath (s.addAt (directory ++ [name]) .directory)

/-- Make a directory, unless there is one and that is `fine`. -/
def makeLast (s : FileStore) (fine : Bool) (written : List Char) : Changed :=
  match s.makeOne written with
  | .ok s => ⟨s, none⟩
  | .error fault => ⟨s, if fine && s.isDirectory written then none else some fault⟩

/-- Make a directory and those that it is in, as far as they are missing. `fine` says that it
may be there itself. Each directory takes a step of fuel. -/
def makeAll (fine : Bool) : Nat → FileStore → List Char → Changed
  | 0, s, _ => ⟨s, some (.path .missing)⟩
  | fuel + 1, s, written =>
    let (head, name) := splitPathEnd written
    if head.isEmpty || name.isEmpty || s.isThere head then s.makeLast fine written
    else
      let made := makeAll fine fuel s head
      if made.isStopped then made
      else if name = ['.'] then ⟨made.store, none⟩
      else made.store.makeLast fine written

def makeDirectory (s : FileStore) (written : List Char) : Changed :=
  makeAll false (written.length + 1) s written

/-- Give a file its bytes; it is made if it is missing. -/
def writeFile (s : FileStore) (written : List Char) (bytes : Bytes) : Except Fault FileStore :=
  match s.pathEnd written with
  | .error fault => .error fault
  | .ok ⟨_, none, _⟩ => .error .isDirectory
  | .ok ⟨directory, some name, slashed⟩ =>
    if slashed then .error .isDirectory
    else
      match h : s.at? (directory ++ [name]) with
      | some (.file old) => .ok (s.replace _ old bytes h)
      | some .directory => .error .isDirectory
      | none => s.addAt (directory ++ [name]) (.file bytes)

/-- Write a file, and make the directories that it is in. -/
def write (s : FileStore) (written : List Char) (bytes : Bytes) : Changed :=
  let head := (splitPathText written).1
  let made : Changed := if head.isEmpty then ⟨s, none⟩ else makeAll true (head.length + 1) s head
  match made with
  | ⟨s, none⟩ =>
    match s.writeFile written bytes with
    | .ok s => ⟨s, none⟩
    | .error fault => ⟨s, some (.path fault)⟩
  | failed => failed

def removeFile (s : FileStore) (written : List Char) : Except ChangeFault FileStore :=
  match s.pathEnd written with
  | .error fault => .error (.path fault)
  | .ok ⟨_, none, _⟩ => .error (.path .isDirectory)
  | .ok ⟨directory, some name, slashed⟩ =>
    if maxNameBytes < utf8Length name then .error (.path .tooLong)
    else
      match h : s.at? (directory ++ [name]) with
      | some (.file old) =>
        if slashed then .error (.path .notDirectory) else .ok (s.erase _ old h)
      | some .directory => .error (.path .isDirectory)
      | none => .error (.path .missing)

def remove (s : FileStore) (written : List Char) : Changed :=
  match s.removeFile written with
  | .ok s => ⟨s, none⟩
  | .error fault => ⟨s, some fault⟩

end FileStore

end SafetyConfig
