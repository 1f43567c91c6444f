import Mathlib.Data.List.Basic
import SafetyConfig.File.Admission
import SafetyConfig.Proofs.File.Discovery

/-!
# Giving a file other bytes

Paths lead to the same places whatever is in the files, so a search goes through the same
directories and opens the same files. It treats each of them by its own bytes alone.
-/

namespace SafetyConfig

def FileNode.isDirectory : FileNode → Bool
  | .file _ => false
  | .directory => true

/-- How large a file is if it is too large to be admitted; nothing for a directory. -/
def FileNode.excess : FileNode → Option (Option Nat)
  | .file bytes => some (if bytes.length ≤ maxFileBytes then none else some bytes.length)
  | .directory => none

/-- The same candidate, but with other bytes if it is the file at a place. -/
def Candidate.rewrite (dir l : Location) (bytes : Bytes) (c : Candidate) : Candidate :=
  if dir ++ c.names = l then ⟨c.names, bytes⟩ else c

@[simp]
theorem Candidate.rewrite_names (dir l : Location) (bytes : Bytes) (c : Candidate) :
    (c.rewrite dir l bytes).names = c.names := by
  unfold Candidate.rewrite
  split <;> rfl

namespace FileStore

variable {s : FileStore} {l : Location} {old new : Bytes} (h : s.at? l = some (.file old))

@[simp]
theorem home_replace : (s.replace l old new h).home = s.home := rfl

section View

/-! A view of nodes that tells directories from files, and does not tell the bytes apart. -/

variable {α : Type} {view : FileNode → α}
  (hdirectory : ∀ node node', view node' = view node → node'.isDirectory = node.isDirectory)
  (hview : view (.file new) = view (.file old))

include hview in
theorem map_at?_replace (k : Location) :
    ((s.replace l old new h).at? k).map view = (s.at? k).map view := by
  by_cases hk : k = l
  · subst hk
    rw [at?_replace_self, h, Option.map_some, Option.map_some, hview]
  · rw [at?_replace_of_ne s h hk]

include hdirectory hview in
/-- A walk that starts at a file or goes past one ends in the same view, whatever its bytes are. -/
theorem map_walk_replace {here : Location} {node node' : FileNode}
    (hnode : view node' = view node) (names : List PathName) :
    ((s.replace l old new h).walk here node' names).map view =
      (s.walk here node names).map view := by
  induction names generalizing here node node' with
  | nil => simp [walk, Except.map, hnode]
  | cons n ns ih =>
    have hkind := hdirectory node node' hnode
    cases node <;> cases node' <;> simp only [FileNode.isDirectory, Bool.false_eq_true,
      Bool.true_eq_false] at hkind
    · rfl
    · simp only [walk]
      split
      · exact ih rfl
      split
      · exact ih rfl
      split
      · rfl
      -- The nodes at the next name are the same in view, which is what the induction is on.
      have hchild : ((s.replace l old new h).at? (here ++ [n])).map view =
          (s.at? (here ++ [n])).map view := map_at?_replace h hview _
      cases hat : s.at? (here ++ [n]) <;>
        cases hat' : (s.replace l old new h).at? (here ++ [n]) <;>
        simp only [hat, hat', Option.map_none, Option.map_some, reduceCtorEq,
          Option.some.injEq] at hchild
      · rfl
      · exact ih hchild

include hdirectory hview in
theorem map_status_replace (k : Location) :
    ((s.replace l old new h).status k).map view = (s.status k).map view := by
  unfold status
  split
  · rfl
  · exact map_walk_replace h hdirectory hview rfl _

end View

theorem map_isDirectory_follow_replace (written : List Char) :
    ((s.replace l old new h).follow written).map FileNode.isDirectory =
      (s.follow written).map FileNode.isDirectory := by
  unfold follow
  split
  · rfl
  split
  · rfl
  split
  · rfl
  · have hview : (FileNode.file new).isDirectory = (FileNode.file old).isDirectory := rfl
    exact map_walk_replace h (fun _ _ hkind => hkind) hview rfl _

theorem map_isDirectory_status_replace (k : Location) :
    ((s.replace l old new h).status k).map FileNode.isDirectory =
      (s.status k).map FileNode.isDirectory := by
  have hview : (FileNode.file new).isDirectory = (FileNode.file old).isDirectory := rfl
  exact map_status_replace h (fun _ _ hkind => hkind) hview k

end FileStore

/-! A result that is known up to the bytes of files still tells directories and faults. -/

section UpToBytes

variable {x y : Except FileStore.Fault FileNode}

theorem map_isDirectory_eq_ok_true_iff :
    x.map FileNode.isDirectory = .ok true ↔ x = .ok .directory := by
  rcases x with _ | (_ | _) <;> simp [Except.map, FileNode.isDirectory]

theorem eq_directory_iff_of_map_isDirectory
    (hxy : x.map FileNode.isDirectory = y.map FileNode.isDirectory) :
    x = .ok .directory ↔ y = .ok .directory := by
  rw [← map_isDirectory_eq_ok_true_iff, hxy, map_isDirectory_eq_ok_true_iff]

theorem eq_error_iff_of_map_isDirectory {fault : FileStore.Fault}
    (hxy : x.map FileNode.isDirectory = y.map FileNode.isDirectory) :
    x = .error fault ↔ y = .error fault := by
  cases x <;> cases y <;> simp_all [Except.map]

end UpToBytes

namespace FileStore

variable {s : FileStore} {l : Location} {old new : Bytes} (h : s.at? l = some (.file old))

theorem follow_replace_eq_directory_iff (written : List Char) :
    (s.replace l old new h).follow written = .ok .directory ↔ s.follow written = .ok .directory :=
  eq_directory_iff_of_map_isDirectory (map_isDirectory_follow_replace h written)

include h in
theorem eq_file_of_mem_nodes {node : FileNode} (hmem : (l, node) ∈ s.nodes) :
    node = .file old := by
  have hat : s.at? l = some node := (mem_nodes_iff.mp hmem).2
  exact Option.some.inj (hat.symm.trans h)

/-- What is gathered from the entries of a store, where the entry of the file may change. -/
theorem filterMap_replace {α : Type} {f g : Location × FileNode → Option α}
    (hself : f (l, .file new) = g (l, .file old)) (hother : ∀ e, e.1 ≠ l → f e = g e) :
    (s.replace l old new h).nodes.filterMap f = s.nodes.filterMap g := by
  simp only [replace, FileNodes.replace, List.filterMap_map]
  refine List.filterMap_congr fun e he => ?_
  obtain ⟨k, node⟩ := e
  by_cases hk : k = l
  · subst hk
    simp [hself, eq_file_of_mem_nodes h he]
  · simp [hk, hother]

theorem canSearch_replace (dir : Path) :
    (s.replace l old new h).canSearch dir = s.canSearch dir := by
  have hsame : (s.replace l old new h).nodes.filterMap (subdirectory? (dir.locate s.home)) =
      s.nodes.filterMap (subdirectory? (dir.locate s.home)) :=
    filterMap_replace h rfl fun _ _ => rfl
  rw [canSearch, home_replace, hsame, canSearch]

theorem searchable_replace_iff (dir : Path) :
    (s.replace l old new h).Searchable dir ↔ s.Searchable dir := by
  have hlong : (s.replace l old new h).follow dir.chars = .error .tooLong ↔
      s.follow dir.chars = .error .tooLong :=
    eq_error_iff_of_map_isDirectory (map_isDirectory_follow_replace h dir.chars)
  rw [Searchable, Searchable, ne_eq, ne_eq, hlong, follow_replace_eq_directory_iff,
    canSearch_replace]

theorem visits_replace_iff (dir : Path) (k : Location) :
    (s.replace l old new h).Visits dir k ↔ s.Visits dir k := by
  rw [Visits, Visits, follow_replace_eq_directory_iff]
  rfl

theorem candidates_replace (place : Location) :
    (s.replace l old new h).candidates place =
      (s.candidates place).map (Candidate.rewrite place l new) := by
  unfold candidates
  rw [List.map_mergeSort (s := fun c d => namesLe c.names d.names) (by simp), List.map_filterMap]
  congr 1
  refine filterMap_replace h ?_ ?_
  · simp only [candidate?]
    split
    · rename_i hcond
      have hl : place ++ l.drop place.length = l := by
        have hstarts := (Bool.and_eq_true_iff.mp hcond).1
        exact (List.prefix_iff_eq_append.mp (List.isPrefixOf_iff_prefix.mp hstarts))
      simp [Candidate.rewrite, hl]
    · rfl
  · rintro ⟨k, node⟩ hk
    cases hc : candidate? place (k, node) with
    | none => rfl
    | some c =>
      obtain ⟨-, rfl, -⟩ := candidate?_eq_some_iff.mp hc
      simp [Candidate.rewrite, hk]

theorem admitDirectoryAt_replace (p : Path) :
    (s.replace l old new h).admitDirectoryAt p = s.admitDirectoryAt p := by
  have hkind : ((s.replace l old new h).status (p.locate s.home)).map FileNode.isDirectory =
      (s.status (p.locate s.home)).map FileNode.isDirectory :=
    map_isDirectory_status_replace h _
  funext shown
  unfold admitDirectoryAt
  simp only [home_replace]
  generalize s.status _ = x, (s.replace l old new h).status _ = y at hkind
  rcases x with fault | (_ | _) <;> rcases y with fault' | (_ | _) <;>
    simp_all [Except.map, FileNode.isDirectory]

theorem admitDirectoryText_replace (path : Text) :
    (s.replace l old new h).admitDirectoryText path = s.admitDirectoryText path := by
  rw [admitDirectoryText, admitDirectoryText, funext (admitDirectoryAt_replace h)]

/-- Whether bytes are admitted is up to their number, and that only if it is too large. -/
theorem map_location_admitBytes {bytes bytes' : Bytes}
    (hexcess : (FileNode.file bytes').excess = (FileNode.file bytes).excess) (k : Location)
    (allowed : List String) :
    (admitBytes k allowed bytes').map AdmittedFile.location =
      (admitBytes k allowed bytes).map AdmittedFile.location := by
  simp only [FileNode.excess, Option.some.injEq] at hexcess
  simp only [admitBytes]
  split
  · rfl
  · by_cases hsize : bytes.length ≤ maxFileBytes <;>
      by_cases hsize' : bytes'.length ≤ maxFileBytes <;>
      simp_all [Nat.not_lt.mpr, Except.map]

/-- Files are admitted at the same places if those that are given other bytes stay small enough. -/
theorem map_location_admitFileAt_replace (hold : old.length ≤ maxFileBytes)
    (hnew : new.length ≤ maxFileBytes) (p : Path) (shown : String) (allowed : List String) :
    ((s.replace l old new h).admitFileAt p shown allowed).map AdmittedFile.location =
      (s.admitFileAt p shown allowed).map AdmittedFile.location := by
  have hdirectory : ∀ node node' : FileNode, node'.excess = node.excess →
      node'.isDirectory = node.isDirectory := by
    intro node node' hexcess
    cases node <;> cases node' <;> simp_all [FileNode.excess, FileNode.isDirectory]
  have hview : (FileNode.file new).excess = (FileNode.file old).excess := by
    simp [FileNode.excess, hold, hnew]
  have hstatus := map_status_replace h hdirectory hview (p.locate s.home)
  unfold admitFileAt
  simp only [home_replace]
  generalize s.status _ = x, (s.replace l old new h).status _ = y at hstatus
  rcases x with fault | (bytes | _) <;> rcases y with fault' | (bytes' | _) <;>
    simp only [Except.map, FileNode.excess, Except.error.injEq, Except.ok.injEq,
      reduceCtorEq] at hstatus
  · rw [hstatus]
  · exact map_location_admitBytes hstatus _ _
  · rfl

theorem map_location_admitFileText_replace (hold : old.length ≤ maxFileBytes)
    (hnew : new.length ≤ maxFileBytes) (path : Text) (allowed : List String) :
    ((s.replace l old new h).admitFileText path allowed).map AdmittedFile.location =
      (s.admitFileText path allowed).map AdmittedFile.location := by
  unfold admitFileText
  split
  · exact map_location_admitFileAt_replace h hold hnew _ _ allowed
  · rfl
  · rfl

/-- The same files are opened, each with the bytes that it has. -/
theorem visited_replace (dir : Path) :
    (s.replace l old new h).visited dir =
      (s.visited dir).map (Candidate.rewrite (dir.locate s.home) l new) := by
  by_cases hfollow : s.follow dir.chars = .ok .directory
  · rw [visited_of_directory hfollow,
      visited_of_directory ((follow_replace_eq_directory_iff h _).mpr hfollow), home_replace,
      candidates_replace, List.filter_map]
    simp [Function.comp_def]
  · rw [visited_of_not_directory hfollow,
      visited_of_not_directory fun hf => hfollow ((follow_replace_eq_directory_iff h _).mp hf),
      List.map_nil]

end FileStore

end SafetyConfig
