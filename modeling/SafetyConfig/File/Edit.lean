import SafetyConfig.File.Store

/-!
# Changing a file store

New nodes go into directories that are there; only files are replaced and removed.
-/

namespace SafetyConfig

namespace FileNodes

theorem lookup_append_of_some {nodes : FileNodes} {l : Location} {n : FileNode} (more : FileNodes)
    (h : nodes.lookup l = some n) : (nodes ++ more).lookup l = some n := by
  rw [List.lookup_append, h, Option.some_or]

theorem at?_append {nodes : FileNodes} {l : Location} {n : FileNode} (more : FileNodes)
    (h : nodes.at? l = some n) : FileNodes.at? (nodes ++ more) l = some n := by
  unfold at? at *
  split at h
  · simp_all
  · rename_i hl
    simp [hl, lookup_append_of_some more h]

/-- Give the file at a place other bytes. -/
def replace (nodes : FileNodes) (l : Location) (bytes : Bytes) : FileNodes :=
  nodes.map fun e => if e.1 = l then (e.1, .file bytes) else e

theorem map_fst_replace (nodes : FileNodes) (l : Location) (bytes : Bytes) :
    (replace nodes l bytes).map (·.1) = nodes.map (·.1) := by
  simp only [replace, List.map_map]
  refine List.map_congr_left fun e _ => ?_
  by_cases h : e.1 = l <;> simp [h]

theorem lookup_replace_self {nodes : FileNodes} {l : Location} {n : FileNode} (bytes : Bytes)
    (h : nodes.lookup l = some n) : (replace nodes l bytes).lookup l = some (.file bytes) := by
  induction nodes with
  | nil => simp at h
  | cons e es ih =>
    obtain ⟨j, m⟩ := e
    simp only [replace, List.map_cons] at *
    by_cases hj : j = l
    · simp [hj]
    · have hl : (l == j) = false := beq_eq_false_iff_ne.mpr (Ne.symm hj)
      rw [List.lookup_cons, hl] at h
      simp only [hj, if_false, List.lookup_cons, hl]
      exact ih h

theorem lookup_replace_of_ne {nodes : FileNodes} {l k : Location} (bytes : Bytes) (h : k ≠ l) :
    (replace nodes l bytes).lookup k = nodes.lookup k := by
  induction nodes with
  | nil => rfl
  | cons e es ih =>
    obtain ⟨j, n⟩ := e
    simp only [replace, List.map_cons] at *
    by_cases hj : j = l
    · have hk : (k == l) = false := beq_eq_false_iff_ne.mpr h
      simp only [hj, if_true, List.lookup_cons, hk, ih]
    · simp only [hj, if_false, List.lookup_cons, ih]

def erase (nodes : FileNodes) (l : Location) : FileNodes :=
  nodes.filter fun e => e.1 ≠ l

theorem lookup_erase_of_ne {nodes : FileNodes} {l k : Location} (h : k ≠ l) :
    (erase nodes l).lookup k = nodes.lookup k := by
  induction nodes with
  | nil => rfl
  | cons e es ih =>
    obtain ⟨j, n⟩ := e
    simp only [erase] at *
    by_cases hj : j = l
    · have hk : (k == l) = false := beq_eq_false_iff_ne.mpr h
      rw [List.filter_cons_of_neg (by simp [hj]), ih, List.lookup_cons, hj, hk]
    · rw [List.filter_cons_of_pos (by simp [hj]), List.lookup_cons, List.lookup_cons, ih]

end FileNodes

namespace FileStore

/-- Whether a new node can go to a place. -/
def Fits (s : FileStore) (l : Location) : Prop :=
  l ≠ [] ∧ s.at? l = none ∧ s.at? l.dropLast = some .directory ∧ ∀ n ∈ l, IsFileName n

instance (s : FileStore) (l : Location) : Decidable (s.Fits l) :=
  inferInstanceAs (Decidable (_ ∧ _ ∧ _ ∧ _))

def add (s : FileStore) (l : Location) (node : FileNode) (h : s.Fits l) : FileStore where
  nodes := s.nodes ++ [(l, node)]
  home := s.home
  distinct := by
    have hn : l ∉ s.nodes.map (·.1) := by
      have := h.2.1
      simp only [at?, FileNodes.at?, h.1, if_false] at this
      intro hm
      obtain ⟨e, he, rfl⟩ := List.mem_map.mp hm
      simpa using List.lookup_eq_none_iff.mp this e he
    simp only [List.map_append, List.map_cons, List.map_nil]
    exact List.nodup_append.mpr ⟨s.distinct, by simp, fun a ha b hb => by
      simp only [List.mem_singleton] at hb
      rintro rfl
      exact hn (hb ▸ ha)⟩
  named := by
    intro e he
    rcases List.mem_append.mp he with he | he
    · exact s.named e he
    · simp only [List.mem_singleton] at he
      exact he ▸ ⟨h.1, h.2.2.2⟩
  inDirectory := by
    intro e he
    rcases List.mem_append.mp he with he | he
    · exact FileNodes.at?_append _ (s.inDirectory e he)
    · simp only [List.mem_singleton] at he
      subst he
      exact FileNodes.at?_append _ h.2.2.1
  home_at? := FileNodes.at?_append _ s.home_at?

theorem lookup_of_mem {nodes : FileNodes} (h : (nodes.map (·.1)).Nodup) {e : Location × FileNode}
    (he : e ∈ nodes) : nodes.lookup e.1 = some e.2 := by
  induction nodes with
  | nil => simp at he
  | cons f fs ih =>
    obtain ⟨j, n⟩ := f
    simp only [List.map_cons, List.nodup_cons] at h
    rcases List.mem_cons.mp he with rfl | he
    · simp
    · have hj : (e.1 == j) = false :=
        beq_eq_false_iff_ne.mpr fun hj => h.1 (hj ▸ List.mem_map_of_mem he)
      rw [List.lookup_cons, hj, ih h.2 he]

theorem at?_of_ne_file {nodes more : FileNodes} {l k : Location} {bytes : Bytes}
    (hl : nodes.at? l = some (.file bytes)) (hk : nodes.at? k = some .directory)
    (same : ∀ k, k ≠ l → more.lookup k = nodes.lookup k) : more.at? k = some .directory := by
  have hkl : k ≠ l := by
    rintro rfl
    rw [hl] at hk
    simp at hk
  unfold FileNodes.at? at *
  split at hk
  · simp_all
  · rename_i h
    simp [h, same k hkl, hk]

/-- Give a file other bytes. -/
def replace (s : FileStore) (l : Location) (old new : Bytes) (h : s.at? l = some (.file old)) :
    FileStore where
  nodes := s.nodes.replace l new
  home := s.home
  distinct := by rw [FileNodes.map_fst_replace]; exact s.distinct
  named := by
    intro e he
    have hm : e.1 ∈ (s.nodes.replace l new).map (·.1) := List.mem_map_of_mem he
    rw [FileNodes.map_fst_replace] at hm
    obtain ⟨f, hf, hfe⟩ := List.mem_map.mp hm
    exact hfe ▸ s.named f hf
  inDirectory := by
    intro e he
    have hm : e.1 ∈ (s.nodes.replace l new).map (·.1) := List.mem_map_of_mem he
    rw [FileNodes.map_fst_replace] at hm
    obtain ⟨f, hf, hfe⟩ := List.mem_map.mp hm
    exact at?_of_ne_file h (hfe ▸ s.inDirectory f hf) fun _ => FileNodes.lookup_replace_of_ne new
  home_at? := at?_of_ne_file h s.home_at? fun _ => FileNodes.lookup_replace_of_ne new

/-- Take a file away. -/
def erase (s : FileStore) (l : Location) (old : Bytes) (h : s.at? l = some (.file old)) :
    FileStore where
  nodes := s.nodes.erase l
  home := s.home
  distinct := s.distinct.sublist (List.filter_sublist.map _)
  named := fun e he => s.named e (List.mem_filter.mp he).1
  inDirectory := fun e he =>
    at?_of_ne_file h (s.inDirectory e (List.mem_filter.mp he).1) fun _ =>
      FileNodes.lookup_erase_of_ne
  home_at? := at?_of_ne_file h s.home_at? fun _ => FileNodes.lookup_erase_of_ne

theorem ne_nil_of_file {s : FileStore} {l : Location} {bytes : Bytes}
    (h : s.at? l = some (.file bytes)) : l ≠ [] := by
  rintro rfl
  simp [at?, FileNodes.at?] at h

theorem at?_replace_self (s : FileStore) {l : Location} {old new : Bytes}
    (h : s.at? l = some (.file old)) : (s.replace l old new h).at? l = some (.file new) := by
  have hl : s.nodes.lookup l = some (.file old) := by
    simpa [at?, FileNodes.at?, ne_nil_of_file h] using h
  simp [at?, FileNodes.at?, replace, ne_nil_of_file h, FileNodes.lookup_replace_self new hl]

theorem at?_replace_of_ne (s : FileStore) {l k : Location} {old new : Bytes}
    (h : s.at? l = some (.file old)) (hk : k ≠ l) : (s.replace l old new h).at? k = s.at? k := by
  simp [at?, FileNodes.at?, replace, FileNodes.lookup_replace_of_ne new hk]

/-- Add a node below a directory that is there. -/
def addAt (s : FileStore) (l : Location) (node : FileNode) : Except Fault FileStore :=
  if h : s.Fits l then .ok (s.add l node h)
  else if l.any fun n => maxNameBytes < utf8Length n then .error .tooLong
  else .error .missing

/-- The directory `here` and those below it, as far as they are missing. -/
def ensureFrom (s : FileStore) (here : Location) : List PathName → Except Fault FileStore
  | [] => .ok s
  | n :: ns =>
    match s.at? (here ++ [n]) with
    | some .directory => ensureFrom s (here ++ [n]) ns
    | some (.file _) => .error .notDirectory
    | none =>
      match s.addAt (here ++ [n]) .directory with
      | .ok s => ensureFrom s (here ++ [n]) ns
      | .error e => .error e

/-- A store with nothing but the root, which is the working directory. -/
def empty : FileStore where
  nodes := []
  home := []
  distinct := List.nodup_nil
  named := by simp
  inDirectory := by simp
  home_at? := rfl

/-- Work in a directory, which is made if it is missing. -/
def enter (s : FileStore) (l : Location) : Except Fault FileStore :=
  match s.ensureFrom [] l with
  | .error e => .error e
  | .ok s =>
    if h : s.at? l = some .directory then
      .ok ⟨s.nodes, l, s.distinct, s.named, s.inDirectory, h⟩
    else .error .notDirectory

end FileStore

end SafetyConfig
