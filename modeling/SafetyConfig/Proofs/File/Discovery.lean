import SafetyConfig.File.Discovery
import SafetyConfig.Proofs.File.Place
import SafetyConfig.Proofs.Sequencing

/-!
# What a search finds

A search ends early only where a path is too long or where a file that it opens declares an
encoding that is not supported. Else it finds the files that it opens and that have the root
of a configuration.
-/

namespace SafetyConfig

namespace MarkupError

/-- The failures that come from the encoding a document declares. -/
def isEncodingFault : MarkupError → Bool
  | .malformed => false
  | .entityDeclared _ _ _ => false
  | .unknownEncoding _ => true
  | .byteEncoding _ => true
  | .multiByteEncoding => true
  | .failingEncoding _ _ => true
  | .strictAsciiEncoding => true

end MarkupError

def asciiBytes (text : String) : Bytes :=
  text.toList.map fun c => UInt8.ofNat c.toNat

/-- A document that is nothing but the root of a configuration. -/
def emptyConfigBytes : Bytes :=
  asciiBytes "<safety-center-config/>"

/-- Bytes that no search gets past. -/
def EndsSearch (bytes : Bytes) : Prop :=
  ∃ e, Markup.rootTag bytes = .error e ∧ e.isEncodingFault = true

def hasConfigRoot (bytes : Bytes) : Bool :=
  match Markup.rootTag bytes with
  | .ok tag => tag == ElementName.centerConfig.label
  | .error _ => false

theorem hasConfigRoot_iff {bytes : Bytes} :
    hasConfigRoot bytes = true ↔ Markup.rootTag bytes = .ok ElementName.centerConfig.label := by
  unfold hasConfigRoot
  cases Markup.rootTag bytes <;> simp

theorem isConfigFile_of_endsSearch {bytes : Bytes} (h : EndsSearch bytes) :
    ∃ e, isConfigFile bytes = .error e := by
  obtain ⟨e, htag, hfault⟩ := h
  refine ⟨e, ?_⟩
  cases e <;> simp_all [isConfigFile, MarkupError.isEncodingFault]

theorem isConfigFile_of_not_endsSearch {bytes : Bytes} (h : ¬ EndsSearch bytes) :
    isConfigFile bytes = .ok (hasConfigRoot bytes) := by
  unfold isConfigFile hasConfigRoot
  cases htag : Markup.rootTag bytes with
  | ok tag => rfl
  | error e =>
    have hfault : e.isEncodingFault = false := by
      simpa using fun hfault => h ⟨e, htag, hfault⟩
    cases e <;> simp_all [MarkupError.isEncodingFault]

theorem selectConfigs_eq_ok_iff {cs found : List Candidate} :
    selectConfigs cs = .ok found ↔
      (∀ c ∈ cs, ¬ EndsSearch c.bytes) ∧ found = cs.filter fun c => hasConfigRoot c.bytes := by
  induction cs generalizing found with
  | nil => simp [selectConfigs, eq_comm]
  | cons c cs ih =>
    rw [selectConfigs]
    by_cases hc : EndsSearch c.bytes
    · obtain ⟨e, he⟩ := isConfigFile_of_endsSearch hc
      simp [he, bind, Except.bind, hc]
    · simp only [isConfigFile_of_not_endsSearch hc, bind_eq_ok_iff, pure_eq_ok_iff,
        Except.ok.injEq, exists_eq_left', ih]
      constructor
      · rintro ⟨rest, ⟨hpassed, rfl⟩, rfl⟩
        refine ⟨?_, by rw [List.filter_cons]⟩
        rintro d (_ | ⟨_, hd⟩)
        exacts [hc, hpassed d hd]
      · rintro ⟨hpassed, rfl⟩
        exact ⟨_, ⟨fun d hd => hpassed d (List.mem_cons_of_mem c hd), rfl⟩,
          by rw [List.filter_cons]⟩

namespace FileStore

variable {s : FileStore} {dir : Path} {found : List Path} {c : Candidate}

theorem openFile_eq_ok_iff {written : List Char} {bytes : Bytes} :
    s.openFile written = .ok bytes ↔ s.follow written = .ok (.file bytes) := by
  unfold openFile
  cases s.follow written with
  | error fault => simp
  | ok node => cases node <;> simp [bytesOf]

theorem canOpen_of_follow {p : Path} {node : FileNode} (h : s.follow p.chars = .ok node) :
    canOpen p = true := by
  obtain ⟨-, -, hlength, -⟩ := follow_eq_ok_iff.mp h
  rw [canOpen, decide_eq_true_eq]
  exact hlength

/-- The files that a search opens; there are none below what is no directory. -/
def visited (s : FileStore) (dir : Path) : List Candidate :=
  match s.follow dir.chars with
  | .ok .directory =>
    (s.candidates (dir.locate s.home)).filter fun c => canOpen (dir.append c.names)
  | _ => []

theorem visited_of_directory (h : s.follow dir.chars = .ok .directory) :
    s.visited dir =
      (s.candidates (dir.locate s.home)).filter fun c => canOpen (dir.append c.names) := by
  simp [visited, h]

theorem visited_of_not_directory (h : s.follow dir.chars ≠ .ok .directory) :
    s.visited dir = [] := by
  unfold visited
  split
  · rename_i hfollow
    exact absurd hfollow h
  · rfl

/-- Those of them that are configurations, as paths. -/
def listing (s : FileStore) (dir : Path) : List Path :=
  ((s.visited dir).filter fun c => hasConfigRoot c.bytes).map fun c => dir.append c.names

/-- No path that a search follows to a directory is too long. -/
def Searchable (s : FileStore) (dir : Path) : Prop :=
  s.follow dir.chars ≠ .error .tooLong ∧
    (s.follow dir.chars = .ok .directory → s.canSearch dir = true)

theorem findConfigs_of_directory (hfollow : s.follow dir.chars = .ok .directory)
    (hsearch : s.canSearch dir = true) :
    s.findConfigs dir = match selectConfigs (s.visited dir) with
      | .ok cs => .ok (cs.map fun c => dir.append c.names)
      | .error e => .error (.markup e) := by
  cases hselect : selectConfigs (s.visited dir) <;>
    rw [visited_of_directory hfollow] at hselect <;>
    simp only [findConfigs, hfollow, hsearch, hselect, Bool.true_eq_false, if_false]

theorem findConfigs_eq_ok_iff : s.findConfigs dir = .ok found ↔
    s.Searchable dir ∧ (∀ c ∈ s.visited dir, ¬ EndsSearch c.bytes) ∧ found = s.listing dir := by
  unfold Searchable
  -- Files are opened only where the path leads to a directory; elsewhere both sides are empty.
  cases hfollow : s.follow dir.chars with
  | error fault => cases fault <;> simp [findConfigs, listing, visited, hfollow]
  | ok node =>
    cases node with
    | file bytes => simp [findConfigs, listing, visited, hfollow]
    | directory =>
      cases hsearch : s.canSearch dir with
      | false => simp [findConfigs, hfollow, hsearch]
      | true =>
        rw [findConfigs_of_directory hfollow hsearch]
        cases hselect : selectConfigs (s.visited dir) with
        | ok cs =>
          obtain ⟨hpassed, rfl⟩ := selectConfigs_eq_ok_iff.mp hselect
          constructor
          · intro h
            exact ⟨⟨by simp, fun _ => rfl⟩, hpassed, (Except.ok.inj h).symm⟩
          · rintro ⟨-, -, rfl⟩
            rfl
        | error e =>
          simp only [reduceCtorEq, false_iff]
          rintro ⟨-, hpassed, -⟩
          rw [selectConfigs_eq_ok_iff.mpr ⟨hpassed, rfl⟩] at hselect
          cases hselect

theorem candidate?_eq_some_iff {place l : Location} {node : FileNode} :
    candidate? place (l, node) = some c ↔
      node = .file c.bytes ∧ l = place ++ c.names ∧ isConfigName (l.getLast?.getD []) = true := by
  cases node with
  | directory => simp [candidate?]
  | file bytes =>
    simp only [candidate?, FileNode.file.injEq, Option.ite_none_right_eq_some, Bool.and_eq_true,
      List.isPrefixOf_iff_prefix, Option.some.injEq]
    constructor
    · rintro ⟨⟨hstarts, hname⟩, rfl⟩
      exact ⟨rfl, List.prefix_iff_eq_append.mp hstarts |>.symm, hname⟩
    · rintro ⟨rfl, rfl, hname⟩
      exact ⟨⟨List.prefix_append _ _, hname⟩, by simp⟩

theorem mem_candidates_iff {place : Location} :
    c ∈ s.candidates place ↔
      s.at? (place ++ c.names) = some (.file c.bytes) ∧
        isConfigName ((place ++ c.names).getLast?.getD []) = true := by
  rw [candidates, (List.mergeSort_perm _ _).mem_iff, List.mem_filterMap]
  constructor
  · rintro ⟨⟨l, node⟩, hmem, hc⟩
    obtain ⟨rfl, rfl, hname⟩ := candidate?_eq_some_iff.mp hc
    exact ⟨(mem_nodes_iff.mp hmem).2, hname⟩
  · rintro ⟨hat, hname⟩
    have hmem := mem_nodes_iff.mpr ⟨ne_nil_of_file hat, hat⟩
    exact ⟨_, hmem, candidate?_eq_some_iff.mpr ⟨rfl, rfl, hname⟩⟩

/-- Candidates that are stored in order stay where they are. -/
theorem candidates_of_sorted {place : Location} {cs : List Candidate}
    (h : s.nodes.filterMap (candidate? place) = cs)
    (hsorted : cs.Pairwise fun c d => namesLe c.names d.names) : s.candidates place = cs := by
  rw [candidates, h, List.mergeSort_of_pairwise hsorted]

/-- Whether a search opens the file at a place, if there is one. -/
def Visits (s : FileStore) (dir : Path) (l : Location) : Prop :=
  s.follow dir.chars = .ok .directory ∧
    ∃ names, l = dir.locate s.home ++ names ∧ isConfigName (l.getLast?.getD []) = true ∧
      canOpen (dir.append names) = true

theorem mem_visited_iff : c ∈ s.visited dir ↔
    s.follow dir.chars = .ok .directory ∧
      s.at? (dir.locate s.home ++ c.names) = some (.file c.bytes) ∧
        isConfigName ((dir.locate s.home ++ c.names).getLast?.getD []) = true ∧
          canOpen (dir.append c.names) = true := by
  by_cases hfollow : s.follow dir.chars = .ok .directory
  · rw [visited_of_directory hfollow, List.mem_filter, mem_candidates_iff, and_assoc]
    simp [hfollow]
  · simp [visited_of_not_directory hfollow, hfollow]

theorem locate_of_mem_visited {c : Candidate} (hc : c ∈ s.visited dir) :
    (dir.append c.names).locate s.home = dir.locate s.home ++ c.names := by
  obtain ⟨-, hat, -, -⟩ := mem_visited_iff.mp hc
  refine Path.locate_append s.home fun n hn => ?_
  obtain ⟨-, hparent, -⟩ := isFileName_of_at? hat n (List.mem_append_right _ hn)
  exact hparent

/-- A search gives a list just where all files that it opens let it go on. -/
theorem exists_findConfigs_iff : (∃ found, s.findConfigs dir = .ok found) ↔
    s.Searchable dir ∧
      ∀ l bytes, s.at? l = some (.file bytes) → s.Visits dir l → ¬ EndsSearch bytes := by
  simp only [findConfigs_eq_ok_iff, exists_and_left, exists_eq, and_true]
  refine and_congr_right fun _ => ?_
  constructor
  · rintro hpassed l bytes hat ⟨hfollow, names, rfl, hname, hopen⟩
    exact hpassed ⟨names, bytes⟩ (mem_visited_iff.mpr ⟨hfollow, hat, hname, hopen⟩)
  · intro hpassed c hc
    obtain ⟨hfollow, hat, hname, hopen⟩ := mem_visited_iff.mp hc
    exact hpassed _ c.bytes hat ⟨hfollow, c.names, rfl, hname, hopen⟩

theorem mem_listing_iff {p : Path} : p ∈ s.listing dir ↔
    ∃ c ∈ s.visited dir, hasConfigRoot c.bytes = true ∧ dir.append c.names = p := by
  simp [listing, and_assoc]

end FileStore

end SafetyConfig
