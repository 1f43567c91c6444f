import SafetyConfig.Entity.Basic
import SafetyConfig.File.Path
import SafetyConfig.Resource.Id

/-!
# Listings

Groups and sources are listed in tables, one a row. Cells are written as they are. Files
are listed one a line.
-/

namespace SafetyConfig.Listing

def count (n : Nat) : String :=
  String.ofList (Digits.decimal n)

/-- Cells between bars. -/
def row (cells : List String) : String :=
  "| " ++ " | ".intercalate cells ++ " |\n"

/-- A missing or empty text is shown as a dash. -/
def cell : Option String → String
  | some s => if s.isEmpty then "-" else s
  | none => "-"

def groupRow (position : Nat) (g : Group) : String :=
  row [count position, g.id, ResourceId.format g.title, ResourceId.format g.summary,
    g.icon.label, count g.sources.length]

def groupsHeader : String :=
  "# Safety Sources Groups\n\n| # | Id | Title | Summary | Icon | Sources |\n" ++
    "|---|----|-------|---------|------|---------|\n"

/-- Groups are numbered from one on. -/
def groups (c : Config) : String :=
  groupsHeader ++ String.join (c.groups.mapIdx fun i g => groupRow (i + 1) g)

def sourceRow (g : Group) (s : Source) : String :=
  row [g.id, s.id, s.kind.label, cell s.packageName, s.profile.label, cell s.intentAction]

def sourcesHeader : String :=
  "# Safety Sources\n\n| Group | Id | Type | Package | Profile | Intent Action |\n" ++
    "|-------|----|------|---------|---------|---------------|\n"

def sources (gs : List Group) : String :=
  sourcesHeader ++ String.join (gs.flatMap fun g => g.sources.map (sourceRow g))

/-- The configurations found in a directory. -/
def configs (directory : String) : List Path → String
  | [] => "No Safety Center configs found in " ++ directory
  | files =>
    "Found " ++ count files.length ++ " config(s):\n" ++
      "\n".intercalate (files.map fun f => "  - " ++ f.toString)

/-- Numbers of groups and sources. -/
def summary (c : Config) : String :=
  "Config valid: " ++ count c.groups.length ++ " group(s), " ++ count c.sources.length ++
    " source(s)"

end SafetyConfig.Listing
