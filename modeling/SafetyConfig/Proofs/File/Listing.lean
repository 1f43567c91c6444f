import Mathlib.Data.List.Lex
import SafetyConfig.Proofs.File.Discovery
import SafetyConfig.Proofs.Text.Order

/-!
# What a search lists

A search lists just the files below its directory that have the ending and the root of a
configuration and can be opened by their paths, each of them once. Paths come in the order of their
names, compared one by one: so a file in a directory can come before one beside the directory whose
whole path would be the lesser text.
-/

namespace SafetyConfig

/-- A path goes on from a directory, and not up again. -/
def Path.Below (dir p : Path) : Prop :=
  ∃ names, names ≠ [] ∧ Path.Plain names ∧ parentName ∉ names ∧ p = dir.append names

theorem Path.name_append {dir : Path} {names : List PathName} (h : names ≠ []) :
    (dir.append names).name = names.getLast?.getD [] := by
  rw [Path.name, Path.append, List.getLast?_append_of_ne_nil _ h]

namespace FileStore

variable {s : FileStore} {dir p : Path} {found : List Path} {bytes : Bytes} {names : List PathName}

/-! Order. -/

theorem nodup_map_names (s : FileStore) (place : Location) :
    ((s.nodes.filterMap (candidate? place)).map Candidate.names).Nodup := by
  have hplaces : s.nodes.Pairwise fun e f => e.1 ≠ f.1 := List.pairwise_map.mp s.distinct
  rw [List.Nodup, List.pairwise_map, List.pairwise_filterMap]
  refine hplaces.imp fun {e f} hne c hc d hd hnames => hne ?_
  obtain ⟨-, he, -⟩ := candidate?_eq_some_iff.mp hc
  obtain ⟨-, hf, -⟩ := candidate?_eq_some_iff.mp hd
  rw [he, hf, hnames]

theorem pairwise_candidates (s : FileStore) (place : Location) :
    (s.candidates place).Pairwise fun c d => c.names < d.names := by
  have hsorted := Lexical.pairwise_lex_mergeSort (Lexical.strict_lt strict_byKey_toNat)
    (s.nodup_map_names place)
  simp only [Lexical.lt_iff_lex strict_byKey_toNat, byKey_toNat_iff] at hsorted
  exact hsorted

theorem pairwise_listing (s : FileStore) (dir : Path) :
    (s.listing dir).Pairwise fun p q => p.names < q.names := by
  rw [listing, List.pairwise_map]
  have hvisited : (s.visited dir).Pairwise fun c d => c.names < d.names := by
    unfold visited
    split
    · exact (s.pairwise_candidates _).filter _
    · exact .nil
  exact (hvisited.filter _).imp fun {c d} h => List.Lex.append_left _ h dir.names

/-! Membership. -/

/-- A file below a directory is opened by its path just if the path leads to the directory, the file
is there, and the path is not too long. -/
theorem openFile_append_iff (hplain : Path.Plain dir.names) (hne : names ≠ [])
    (hnames : Path.Plain names) (hdown : parentName ∉ names) :
    s.openFile (dir.append names).chars = .ok bytes ↔ s.follow dir.chars = .ok .directory ∧
      s.at? (dir.locate s.home ++ names) = some (.file bytes) ∧
        canOpen (dir.append names) = true := by
  have hplace : (dir.append names).locate s.home = dir.locate s.home ++ names :=
    Path.locate_append s.home fun n hn hparent => hdown (hparent ▸ hn)
  rw [openFile_eq_ok_iff]
  constructor
  · intro h
    exact ⟨follow_of_append hplain hne h, hplace ▸ at?_locate_of_follow (hplain.append hnames) h,
      canOpen_of_follow h⟩
  · rintro ⟨hfollow, hat, hopen⟩
    rw [canOpen, decide_eq_true_eq] at hopen
    refine follow_append hplain hfollow (fun n hn => ?_) hopen
      (walk_of_at? (at?_locate_of_follow hplain hfollow) hat)
    exact isFileName_of_at? hat n (List.mem_append_right _ hn)

theorem mem_findConfigs_iff (hplain : Path.Plain dir.names)
    (hfound : s.findConfigs dir = .ok found) :
    p ∈ found ↔ dir.Below p ∧ configSuffix <:+ p.name ∧ ∃ bytes,
      s.openFile p.chars = .ok bytes ∧
        Markup.rootTag bytes = .ok ElementName.centerConfig.label := by
  obtain ⟨-, -, rfl⟩ := findConfigs_eq_ok_iff.mp hfound
  rw [mem_listing_iff]
  constructor
  · rintro ⟨c, hc, hroot, rfl⟩
    obtain ⟨hfollow, hat, hname, hopen⟩ := mem_visited_iff.mp hc
    have hfile : ∀ n ∈ c.names, IsFileName n :=
      fun n hn => isFileName_of_at? hat n (List.mem_append_right _ hn)
    -- The start is a directory, so the file has a name of its own below it.
    have hne : c.names ≠ [] := by
      intro hnil
      rw [hnil, List.append_nil, at?_locate_of_follow hplain hfollow] at hat
      cases hat
    have hdown : parentName ∉ c.names := fun hmem => (hfile _ hmem).2.1 rfl
    have hbelow := Path.plain_of_isFileName hfile
    rw [List.getLast?_append_of_ne_nil _ hne, isConfigName, List.isSuffixOf_iff_suffix] at hname
    refine ⟨⟨c.names, hne, hbelow, hdown, rfl⟩, ?_, c.bytes, ?_, hasConfigRoot_iff.mp hroot⟩
    · rwa [Path.name_append hne]
    · exact (openFile_append_iff hplain hne hbelow hdown).mpr ⟨hfollow, hat, hopen⟩
  · rintro ⟨⟨names, hne, hbelow, hdown, rfl⟩, hname, bytes, hopens, hroot⟩
    obtain ⟨hfollow, hat, hopen⟩ := (openFile_append_iff hplain hne hbelow hdown).mp hopens
    refine ⟨⟨names, bytes⟩, mem_visited_iff.mpr ⟨hfollow, hat, ?_, hopen⟩,
      hasConfigRoot_iff.mpr hroot, rfl⟩
    rw [List.getLast?_append_of_ne_nil _ hne, isConfigName, List.isSuffixOf_iff_suffix]
    rwa [Path.name_append hne] at hname

end FileStore

end SafetyConfig
