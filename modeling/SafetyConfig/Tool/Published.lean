import SafetyConfig.Tool.Call

/-!
# Published configurations

Every configuration below the configured directory is published under an address, at
which a summary of it can be read.
-/

namespace SafetyConfig

def addressStart : List Char := "file://".toList

structure Publication where
  uri : String
  name : String
  description : String
  deriving DecidableEq, Repr

def Publication.toJson (p : Publication) : Json :=
  Json.record [("uri", .ofString p.uri), ("name", .ofString p.name),
    ("description", .ofString p.description), ("mimeType", .ofString "application/xml")]

def publish (p : Path) : Publication where
  uri := String.ofList (addressStart ++ p.chars)
  name := String.ofList (PathName.stem p.name)
  description := "Safety Center config: " ++ String.ofList p.name

theorem uri_publish (p : Path) : (publish p).uri = "file://" ++ p.toString :=
  String.ofList_append

/-- A text without any occurrence of a word, looked for from left to right. `skip`
characters belong to an occurrence that has begun. -/
def withoutWord (word : List Char) (skip : Nat) : List Char → List Char
  | [] => []
  | c :: cs =>
    match skip with
    | n + 1 => withoutWord word n cs
    | 0 =>
      if !word.isEmpty && word.isPrefixOf (c :: cs) then withoutWord word (word.length - 1) cs
      else c :: withoutWord word 0 cs

/-- The path in an address. -/
def addressedPath (uri : String) : String :=
  String.ofList (withoutWord addressStart 0 uri.toList)

namespace Workspace

def publications (w : Workspace) : Except DiscoveryFault (List Publication) :=
  match w.files.findConfigs (Path.ofString w.settings.configDir) with
  | .ok files => .ok (files.map publish)
  | .error fault => .error fault

theorem publications_eq_ok_iff {w : Workspace} {pubs : List Publication} :
    w.publications = .ok pubs ↔
      ∃ found, w.files.findConfigs (Path.ofString w.settings.configDir) = .ok found ∧
        pubs = found.map publish := by
  unfold publications
  cases w.files.findConfigs (Path.ofString w.settings.configDir) with
  | ok found => simp [eq_comm]
  | error fault => simp

/-- The summary of a configuration at a path. -/
def configSummary (path : String) (c : Config) : String :=
  "Safety Center Config: " ++ String.ofList (Path.ofString path).name ++
    "\nGroups: " ++ Listing.count c.groups.length ++
    "\nSources: " ++ Listing.count c.sources.length ++
    "\nPath: " ++ path

/-- A summary, or why there is none. -/
def answer (path : String) : Except ToolError Config → Except ToolError String
  | .ok config => .ok (configSummary path config)
  | .error e =>
    match e.report with
    | .notFound message => .ok message
    | .invalid message => .ok message
    | .internal _ _ => .error e

/-- What is read at an address. -/
def readAddress (w : Workspace) (uri : String) : Except ToolError String :=
  let path := addressedPath uri
  answer path (w.loadConfig ⟨Json.record [("filepath", .ofString path)]⟩)

end Workspace

end SafetyConfig
