import SafetyConfig.Entity.Basic
import SafetyConfig.Resource.Name
import SafetyConfig.Text.Lexical

/-!
# Resource tables

A table holds, package by package, the identifiers of resources under their
`type/entry` keys.
-/

namespace SafetyConfig

structure ResourceTable where
  packages : List (Text × List (Text × ResourceId))
  deriving DecidableEq, Repr

namespace ResourceTable

/-- The identifier stored in a package under a key; zero if there is none. -/
def entry (t : ResourceTable) (package key : Text) : ResourceId :=
  (((t.packages.lookup package).getD []).lookup key).getD 0

/-- The identifier a name stands for; zero if it stands for none. A name needs a
package, a type and an entry that is not empty. -/
def getIdentifier (t : ResourceTable) (name : Text) (type package : Option Text) : ResourceId :=
  match Resource.Name.split name type package with
  | ⟨some p, some ty, e⟩ =>
    if e.isEmpty then 0 else t.entry p (ty ++ Resource.slash :: e)
  | _ => 0

/-- Order of texts by code points. -/
def nameLe : Text → Text → Bool :=
  Lexical.le (Lexical.byKey Fin.val)

/-- The packages in order of their names. -/
def packageNames (t : ResourceTable) : List Text :=
  (t.packages.map (·.1)).mergeSort nameLe

end ResourceTable

end SafetyConfig
