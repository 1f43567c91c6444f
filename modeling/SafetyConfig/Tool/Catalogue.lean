import SafetyConfig.Json.Value

/-!
# The tools on offer

Each tool has a name, a description and a schema of its arguments.
-/

namespace SafetyConfig

inductive Tool where
  | listConfigs
  | validateConfig
  | listGroups
  | listSources
  | describeSource
  | resolveReference
  deriving DecidableEq, Repr

namespace Tool

def all : List Tool :=
  [.listConfigs, .validateConfig, .listGroups, .listSources, .describeSource, .resolveReference]

def name : Tool → String
  | .listConfigs => "list_configs"
  | .validateConfig => "validate_config"
  | .listGroups => "list_groups"
  | .listSources => "list_sources"
  | .describeSource => "describe_source"
  | .resolveReference => "resolve_reference"

def ofName? (s : String) : Option Tool :=
  all.find? (·.name == s)

theorem ofName?_name (t : Tool) : ofName? t.name = some t := by
  cases t <;> rfl

def description : Tool → String
  | .listConfigs => "List Safety Center config XML files in a directory"
  | .validateConfig =>
    "Parse and validate a Safety Center config, reporting the first error and its causes"
  | .listGroups => "List the safety sources groups of a config in display order"
  | .listSources => "List all safety sources with their type, package and profile"
  | .describeSource => "Show every field of one safety source as JSON"
  | .resolveReference => "Resolve a single @string/ reference against a resource table"

/-- An argument: its name, and what it is for where that needs saying. -/
structure Parameter where
  name : String
  about : Option String
  deriving DecidableEq, Repr

def Parameter.toJson (p : Parameter) : String × Json :=
  let kind := ("type", Json.ofString "string")
  (p.name, Json.record (match p.about with
    | some about => [kind, ("description", .ofString about)]
    | none => [kind]))

def filepath : Parameter := ⟨"filepath", some "Path to the Safety Center config XML"⟩

def resources : Parameter :=
  ⟨"resources", some "Path to the resource table JSON (default: $SAFETY_CENTER_RESOURCES)"⟩

def packageName : Parameter := ⟨"package_name", some "Package holding the config's resources"⟩

def parameters : Tool → List Parameter
  | .listConfigs =>
    [⟨"directory", some "Directory to search (default: $SAFETY_CENTER_CONFIG_DIR)"⟩]
  | .validateConfig => [filepath, resources, packageName]
  | .listGroups => [filepath, resources, packageName]
  | .listSources =>
    [filepath, resources, packageName, ⟨"group_id", some "Only list sources of this group"⟩]
  | .describeSource => [filepath, resources, packageName, ⟨"source_id", none⟩]
  | .resolveReference =>
    [⟨"reference", some "e.g. @string/lock_screen_title"⟩, resources, packageName]

/-- The names of the arguments that have to be given. -/
def required : Tool → List String
  | .listConfigs => []
  | .validateConfig => ["filepath"]
  | .listGroups => ["filepath"]
  | .listSources => ["filepath"]
  | .describeSource => ["filepath", "source_id"]
  | .resolveReference => ["reference"]

def schema (t : Tool) : Json :=
  let fields := [("type", Json.ofString "object"),
    ("properties", Json.record (t.parameters.map Parameter.toJson))]
  Json.record (if t.required.isEmpty then fields
    else fields ++ [("required", .array (t.required.map Json.ofString))])

def toJson (t : Tool) : Json :=
  Json.record [("name", .ofString t.name), ("description", .ofString t.description),
    ("inputSchema", t.schema)]

end Tool

end SafetyConfig
