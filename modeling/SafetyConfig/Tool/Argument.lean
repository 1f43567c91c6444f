import SafetyConfig.Tool.Error

/-!
# Arguments of tools

Arguments are JSON values. The table and the package have defaults, which stand in for
values that are null, empty, zero or false as well as for absent ones.
-/

namespace SafetyConfig

structure Settings where
  configDir : String
  defaultResources : String
  defaultPackage : String
  deriving DecidableEq, Repr

/-- Where tools are called: the files they see and the settings. -/
structure Workspace where
  files : FileStore
  settings : Settings

/-- The arguments of a call by name. -/
structure Arguments where
  value : Json

namespace Arguments

def get? (a : Arguments) (name : String) : Option Json :=
  a.value.field? name

def need (a : Arguments) (name : String) : Except ToolError Json :=
  match a.get? name with
  | some v => .ok v
  | none => .error .argumentMissing

/-- An argument that counts as given, or else its default. -/
def given (a : Arguments) (name : String) (default : String) : Json :=
  match a.get? name with
  | some v => if v.isGiven then v else .ofString default
  | none => .ofString default

end Arguments

def nulText : Text := [CodePoint.ofChar '\x00']

def isNulText : Json → Bool
  | .text t => t == nulText
  | _ => false

/-- A path has to be a text. A list or an object is searched for a lone zero character
before it is refused. -/
def pathText (nulFound : ToolError) : Json → Except ToolError Text
  | .text t => .ok t
  | .array items => .error (if items.any isNulText then nulFound else .argumentUnfit)
  | .object fields =>
    .error (if fields.any fun f => f.1 == nulText then nulFound else .argumentUnfit)
  | _ => .error .argumentUnfit

namespace Workspace

def admitFile (w : Workspace) (path : Json) (allowed : List String) :
    Except ToolError AdmittedFile := do
  let text ← pathText (.file .embeddedNul) path
  match w.files.admitFileText text allowed with
  | .ok file => .ok file
  | .error refusal => .error (.file refusal)

def admitDirectory (w : Workspace) (path : Json) : Except ToolError Location := do
  let text ← pathText (.directory .embeddedNul) path
  match w.files.admitDirectoryText text with
  | .ok l => .ok l
  | .error refusal => .error (.directory refusal)

end Workspace

/-- The package and table a call works with. A package that is no text is in no table. -/
structure TableChoice where
  package : Json
  table : ResourceTable

namespace TableChoice

def scope (c : TableChoice) : ResourceScope :=
  ⟨match c.package with | .text t => some t | _ => none, c.table⟩

/-- Lists and objects cannot even be looked for in a table. -/
def unfit (c : TableChoice) : Bool :=
  match c.package with
  | .array _ => true
  | .object _ => true
  | _ => false

/-- Whether a reference leaves its package to the call. -/
def leavesPackage (reference : String) : Bool :=
  match (referencedName? (Text.ofString reference)).map fun name =>
      Resource.Name.split name none none with
  | some ⟨none, some _, entry⟩ => !entry.isEmpty
  | _ => false

/-- A missing reference may be due to the package. -/
def explain (c : TableChoice) : ConversionError → ToolError
  | .referenceMissing reference place =>
    if c.unfit && leavesPackage reference then .argumentUnfit
    else .config (.rejected (.referenceMissing reference place))
  | e => .config (.rejected e)

/-- The configuration in a file, under the table and package of a call. -/
def parseConfig (c : TableChoice) (bytes : Bytes) : Except ToolError Config :=
  match parse c.scope bytes with
  | .ok config => .ok config
  | .error (.rejected e) => .error (c.explain e)
  | .error e => .error (.config e)

end TableChoice

namespace Workspace

/-- The package: the one given, the default, or the only one of the table. -/
def choosePackage (w : Workspace) (a : Arguments) (table : ResourceTable) :
    Except ToolError Json :=
  let package := a.given "package_name" w.settings.defaultPackage
  if package.isGiven then .ok package
  else match table.packageNames with
    | [only] => .ok (.text only)
    | names => .error (.packageOpen names.length)

def loadTable (w : Workspace) (a : Arguments) : Except ToolError TableChoice := do
  let path := a.given "resources" w.settings.defaultResources
  if path.isGiven = false then throw .noTable
  let file ← w.admitFile path [".json"]
  match ResourceTable.ofBytes file.bytes with
  | .error fault => .error (.table fault)
  | .ok table => do
    let package ← w.choosePackage a table
    return ⟨package, table⟩

/-- The configuration that a call names. -/
def loadConfig (w : Workspace) (a : Arguments) : Except ToolError Config := do
  let path ← a.need "filepath"
  let file ← w.admitFile path [".xml"]
  let choice ← w.loadTable a
  choice.parseConfig file.bytes

end Workspace

end SafetyConfig
