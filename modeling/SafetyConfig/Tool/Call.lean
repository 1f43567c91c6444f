import SafetyConfig.Json.Printer
import SafetyConfig.Tool.Argument
import SafetyConfig.Tool.Catalogue
import SafetyConfig.Tool.Listing

/-!
# Calling tools

A call always has a reply: what the tool found, or a report of its failure.
-/

namespace SafetyConfig

namespace Workspace

def listConfigs (w : Workspace) (a : Arguments) : Except ToolError String := do
  let directory := (a.get? "directory").getD (.ofString w.settings.configDir)
  let l ← w.admitDirectory directory
  match w.files.findConfigs ⟨.root, l⟩ with
  | .error fault => .error (.discovery fault)
  | .ok files => .ok (Listing.configs directory.plain files)

/-- A configuration that is not valid is a finding of this tool, and no failure. -/
def validateConfig (w : Workspace) (a : Arguments) : Except ToolError String :=
  match w.loadConfig a with
  | .ok config => .ok (Listing.summary config)
  | .error (.config e) => .ok ("Invalid config: " ++ e.message)
  | .error e => .error e

def listGroups (w : Workspace) (a : Arguments) : Except ToolError String := do
  let config ← w.loadConfig a
  return Listing.groups config

/-- The id that a JSON value names, if it is a text. -/
def idText? : Json → Option String
  | .text t => Text.string? t
  | _ => none

/-- The groups to list: all, or the first with the id given. -/
def chosenGroups (config : Config) (a : Arguments) : Except ToolError (List Group) :=
  match a.get? "group_id" with
  | none => .ok config.groups
  | some id =>
    if id.isGiven = false then .ok config.groups
    else match (idText? id).bind config.findGroup? with
      | some g => .ok [g]
      | none => .error (.groupNotFound id.plain)

def listSources (w : Workspace) (a : Arguments) : Except ToolError String := do
  let config ← w.loadConfig a
  let groups ← chosenGroups config a
  return Listing.sources groups

def describeSource (w : Workspace) (a : Arguments) : Except ToolError String := do
  let config ← w.loadConfig a
  let id ← a.need "source_id"
  match (idText? id).bind config.findSource? with
  | some s => .ok s.toJson.toText
  | none => .error (.sourceNotFound id.plain)

/-- The place that messages about a reference by itself name. -/
def referencePlace : Place := ⟨"reference", "value"⟩

/-- A reference that does not resolve is a finding of this tool, and no failure. -/
def resolveReference (w : Workspace) (a : Arguments) : Except ToolError String := do
  let choice ← w.loadTable a
  match ← a.need "reference" with
  | .text t =>
    match choice.scope.resolveText referencePlace t with
    | .ok id =>
      return Text.toString t ++ " -> " ++ ResourceId.format id ++ " (" ++
        choice.package.plain ++ ")"
    | .error e =>
      match choice.explain e with
      | .config _ => return e.message
      | unfit => .error unfit
  | _ => .error .referenceUnfit

def run (w : Workspace) : Tool → Arguments → Except ToolError String
  | .listConfigs => w.listConfigs
  | .validateConfig => w.validateConfig
  | .listGroups => w.listGroups
  | .listSources => w.listSources
  | .describeSource => w.describeSource
  | .resolveReference => w.resolveReference

def call (w : Workspace) (name : String) (a : Arguments) : String :=
  match Tool.ofName? name with
  | none => "Unknown tool: " ++ name
  | some t =>
    match w.run t a with
    | .ok reply => reply
    | .error e => e.report.reply

end Workspace

end SafetyConfig
