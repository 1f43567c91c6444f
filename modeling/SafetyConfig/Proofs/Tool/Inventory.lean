import SafetyConfig.Proofs.File.Listing
import SafetyConfig.Proofs.Number.ReadBack
import SafetyConfig.Proofs.Tool.Isolation

/-!
# The two lists of configurations

The tool that lists configurations and the publications go through the same directory if none is
asked for: the tool settles where the path leads, while the publications go by the path as it is
set. Where that path is in its normal form already, both come to the same files in the same order.
-/

namespace SafetyConfig

theorem Listing.count_eq_repr (n : Nat) : count n = n.repr := by
  rw [count, Digits.decimal_eq_toDigits, Nat.repr_eq_ofList_toDigits]

theorem Listing.configs_eq (directory : String) (found : List Path) :
    configs directory found =
      if found = [] then "No Safety Center configs found in " ++ directory
      else "Found " ++ found.length.repr ++ " config(s):\n" ++
        "\n".intercalate (found.map fun p => "  - " ++ p.toString) := by
  cases found with
  | nil => rfl
  | cons p ps =>
    rw [if_neg (List.cons_ne_nil p ps), ← count_eq_repr]
    rfl

/-! A directory given by the text of its place. -/

namespace FileStore

variable {s : FileStore} {l : Location} {found : List Path}

/-- A search that ends has a directory whose path can be followed. -/
theorem length_le_of_findConfigs (h : s.at? l = some .directory)
    (hfound : s.findConfigs ⟨.root, l⟩ = .ok found) : utf8Length l.chars ≤ maxPathBytes := by
  obtain ⟨⟨hshort, -⟩, -⟩ := findConfigs_eq_ok_iff.mp hfound
  by_contra hlong
  refine hshort ?_
  rw [Path.chars_root, follow, if_neg (nul_not_mem_chars h), if_neg nofun,
    if_pos (Nat.lt_of_not_le hlong)]

theorem admitDirectory_location (h : s.at? l = some .directory)
    (hlength : utf8Length l.chars ≤ maxPathBytes) : s.admitDirectory l.toString = .ok l := by
  have htext : l.toString.toList = l.chars := String.toList_ofList
  rw [admitDirectory, htext, if_neg (nul_not_mem_chars h),
    Path.ofString_location (Path.plain_of_isFileName (isFileName_of_at? h)), admitDirectoryAt]
  simp only [locate_location h, status_of_at? h hlength]

theorem eq_of_admitDirectory_location {d : Location} (h : s.at? l = some .directory)
    (hadmitted : s.admitDirectory l.toString = .ok d) : d = l := by
  rw [admitDirectory, Path.ofString_location (Path.plain_of_isFileName (isFileName_of_at? h))]
    at hadmitted
  simp only [admitDirectoryAt, locate_location h] at hadmitted
  split at hadmitted
  · cases hadmitted
  · split at hadmitted <;> cases hadmitted
    rfl

end FileStore

namespace Workspace

variable {w : Workspace} {a : Arguments} {l : Location}

theorem admitDirectory_ofString (path : String) :
    w.admitDirectory (.ofString path) = (w.files.admitDirectory path).mapError .directory := by
  simp only [admitDirectory, Json.ofString, pathText, FileStore.admitDirectoryText_ofString,
    ok_bind]
  cases w.files.admitDirectory path <;> rfl

/-- Without a directory, the tool lists what a search from the configured place finds. -/
theorem listConfigs_location_eq_ok_iff (hdir : w.settings.configDir = l.toString)
    (hat : w.files.at? l = some .directory) (hnone : a.get? "directory" = none) {text : String} :
    w.listConfigs a = .ok text ↔ ∃ found, w.files.findConfigs ⟨.root, l⟩ = .ok found ∧
      text = Listing.configs l.toString found := by
  have hdirectory : w.directoryOf a = .ofString l.toString := by
    rw [directoryOf, hnone, hdir, Option.getD_none]
  have hplain : (Json.ofString l.toString).plain = l.toString := Text.toString_ofString _
  rw [listConfigs_eq_ok_iff, hdirectory, hplain]
  simp only [admitDirectory_ofString, mapError_eq_ok_iff]
  constructor
  · rintro ⟨d, found, hadmitted, hfound, rfl⟩
    obtain rfl := FileStore.eq_of_admitDirectory_location hat hadmitted
    exact ⟨found, hfound, rfl⟩
  · rintro ⟨found, hfound, rfl⟩
    have hlength := FileStore.length_le_of_findConfigs hat hfound
    exact ⟨l, found, FileStore.admitDirectory_location hat hlength, hfound, rfl⟩

/-- A search that ends lists, in strict order of the names in their paths, just the files below its
directory with the ending and the root of a configuration. So where the configured directory is
given by the text of its place, the publications and the tool that is asked for no directory list
the same paths in the same order, and the tool says how many; if one of them fails, so does the
other. A store has no links: of a directory that is one, the tool would list the place it leads to
instead. -/
theorem searches_list_just_the_configurations :
    (∀ (s : FileStore) (directory : String) (found : List Path),
      s.findConfigs (Path.ofString directory) = .ok found →
        (found.Pairwise fun p q => p.names < q.names) ∧ found.Nodup ∧
        ∀ p, p ∈ found ↔ (Path.ofString directory).Below p ∧ ".xml".toList <:+ p.name ∧
          ∃ bytes, s.openFile p.chars = .ok bytes ∧
            Markup.rootTag bytes = .ok "safety-center-config") ∧
    ∀ (w : Workspace) (l : Location) (a : Arguments), w.settings.configDir = l.toString →
      w.files.at? l = some .directory → a.get? "directory" = none →
        (∀ found, w.files.findConfigs (Path.ofString w.settings.configDir) = .ok found →
          (∃ pubs, w.publications = .ok pubs ∧
            pubs.map (·.uri) = found.map fun p => "file://" ++ p.toString) ∧
          w.listConfigs a = .ok (
            if found = [] then "No Safety Center configs found in " ++ l.toString
            else "Found " ++ found.length.repr ++ " config(s):\n" ++
              "\n".intercalate (found.map fun p => "  - " ++ p.toString))) ∧
        ((∃ pubs, w.publications = .ok pubs) ↔ ∃ text, w.listConfigs a = .ok text) := by
  constructor
  · intro s directory found hfound
    have hsorted : found.Pairwise fun p q => p.names < q.names := by
      obtain ⟨-, -, rfl⟩ := FileStore.findConfigs_eq_ok_iff.mp hfound
      exact s.pairwise_listing _
    refine ⟨hsorted, hsorted.imp fun {p q} hless hsame => ?_, fun p =>
      FileStore.mem_findConfigs_iff (Path.plain_ofString directory) hfound⟩
    exact List.lt_irrefl p.names (hsame ▸ hless)
  · intro w l a hdir hat hnone
    have hread : Path.ofString w.settings.configDir = ⟨.root, l⟩ := by
      rw [hdir, Path.ofString_location (Path.plain_of_isFileName (FileStore.isFileName_of_at? hat))]
    have htext (text : String) : w.listConfigs a = .ok text ↔ _ :=
      listConfigs_location_eq_ok_iff hdir hat hnone
    constructor
    · intro found hfound
      refine ⟨⟨_, publications_eq_ok_iff.mpr ⟨found, hfound, rfl⟩, ?_⟩, ?_⟩
      · rw [List.map_map]
        exact List.map_congr_left fun p _ => uri_publish p
      · rw [← Listing.configs_eq]
        exact (htext _).mpr ⟨found, hread ▸ hfound, rfl⟩
    · simp only [publications_eq_ok_iff, htext, hread]
      constructor
      · rintro ⟨_, found, hfound, -⟩
        exact ⟨_, found, hfound, rfl⟩
      · rintro ⟨_, found, hfound, -⟩
        exact ⟨_, found, hfound, rfl⟩

/-! Two configurations whose order by names is not that of their texts. -/

private def gardenFiles : FileStore :=
  let garden : FileStore := FileStore.add .empty ["c".toList] .directory (by decide +kernel)
  let shed := garden.add ["c".toList, "a".toList] .directory (by decide +kernel)
  let inner := shed.add ["c".toList, "a".toList, "b.xml".toList] (.file emptyConfigBytes)
    (by decide +kernel)
  inner.add ["c".toList, "a-b.xml".toList] (.file emptyConfigBytes) (by decide +kernel)

private def gardenPaths : List Path :=
  [⟨.root, ["c".toList, "a".toList, "b.xml".toList]⟩, ⟨.root, ["c".toList, "a-b.xml".toList]⟩]

private def garden : Workspace := ⟨gardenFiles, ⟨"/c", "", ""⟩⟩

theorem findConfigs_garden :
    gardenFiles.findConfigs (Path.ofString "/c") = .ok gardenPaths := by
  have hcandidates : gardenFiles.candidates ((Path.ofString "/c").locate gardenFiles.home) =
      [⟨["a".toList, "b.xml".toList], emptyConfigBytes⟩, ⟨["a-b.xml".toList], emptyConfigBytes⟩] :=
    FileStore.candidates_of_sorted rfl (by decide +kernel)
  simp only [FileStore.findConfigs, hcandidates]
  decide +kernel

/-- Both lists have the file in the inner directory first. -/
theorem inner_file_listed_first :
    (gardenPaths.Pairwise fun p q => p.names < q.names) ∧
    (∃ pubs, garden.publications = .ok pubs ∧
      pubs.map (·.uri) = ["file:///c/a/b.xml", "file:///c/a-b.xml"]) ∧
    garden.listConfigs ⟨Json.record []⟩ =
      .ok "Found 2 config(s):\n  - /c/a/b.xml\n  - /c/a-b.xml" := by
  obtain ⟨hsearch, hlists⟩ := searches_list_just_the_configurations
  obtain ⟨hsorted, -, -⟩ := hsearch gardenFiles "/c" gardenPaths findConfigs_garden
  obtain ⟨hboth, -⟩ := hlists garden ["c".toList] ⟨Json.record []⟩ (by decide +kernel)
    (by decide +kernel) rfl
  obtain ⟨⟨pubs, hpubs, huris⟩, htext⟩ := hboth gardenPaths findConfigs_garden
  refine ⟨hsorted, ⟨pubs, hpubs, huris.trans (by decide +kernel)⟩,
    htext.trans (congrArg Except.ok ?_)⟩
  decide +kernel

end Workspace

end SafetyConfig
