import SafetyConfig.File.Load
import SafetyConfig.Proofs.Convert.DocumentOrder
import SafetyConfig.Proofs.Convert.Outcome
import SafetyConfig.Proofs.File.Listing
import SafetyConfig.Proofs.Markup.RootTag

/-!
# The root check against the reader

A search looks at the root tag of a file and no further, while the reader takes in the whole
document. What the reader accepts has the root that the search looks for, so a search from a
directory above leaves no accepted file out, and no file that it lists is refused for its
root.
-/

namespace SafetyConfig

section Content

variable {bytes : Bytes}

theorem readRaw_of_rootTag_error {fault : MarkupError} (h : Markup.rootTag bytes = .error fault) :
    readRaw bytes = .error (.markup fault) := by
  rw [readRaw, Markup.readDocument_of_rootTag_error h]

/-- What can be read at all is a raw tree just where the root tag is the right one. -/
theorem isSome_iff_of_readRaw {raw : Option RawConfig} {tag : String}
    (htag : Markup.rootTag bytes = .ok tag) (h : readRaw bytes = .ok raw) :
    raw.isSome = true ↔ tag = "safety-center-config" := by
  have hroot : ∀ root, Markup.readDocument bytes = .ok root → root.tag = tag := by
    intro root hdocument
    exact Except.ok.inj ((Markup.rootTag_of_readDocument hdocument).symm.trans htag)
  cases raw with
  | none =>
    obtain ⟨root, hdocument, hother⟩ := readRaw_eq_none_iff.mp h
    rw [hroot root hdocument] at hother
    simp [hother]
  | some raw =>
    obtain ⟨root, hdocument, -⟩ := exists_root_of_readRaw h
    have hcenter : root.tag = "safety-center-config" := by
      by_contra hother
      rw [readRaw_eq_none_iff.mpr ⟨root, hdocument, hother⟩] at h
      cases h
    rw [hroot root hdocument] at hcenter
    simp [hcenter]

theorem hasConfigRoot_of_parse {scope : ResourceScope} {config : Config}
    (h : parse scope bytes = .ok config) : hasConfigRoot bytes = true := by
  have hcourse := course_of_parse scope bytes
  rw [h] at hcourse
  cases hcourse with
  | config _ hdocument htag hraw =>
    rw [hasConfigRoot_iff, Markup.rootTag_of_readDocument hdocument, htag]

theorem hasConfigRoot_of_parseGiven {package : Option Text} {table : Option ResourceTable}
    {config : Config} (h : parseGiven (some bytes) package table = .ok config) :
    hasConfigRoot bytes = true := by
  cases package with
  | none => cases h
  | some package =>
    cases table with
    | none => cases h
    | some table =>
      rw [parseGiven_eq] at h
      cases hparse : parse ⟨some package, table⟩ bytes with
      | error e => simp [hparse, Except.mapError] at h
      | ok c => exact hasConfigRoot_of_parse hparse

/-- Only another root is reported as a missing root. -/
theorem not_hasConfigRoot_of_parseGiven {package : Option Text} {table : Option ResourceTable}
    (h : parseGiven (some bytes) package table =
      .error (.refused (.rejected (.missingElement .centerConfig)))) :
    hasConfigRoot bytes = false := by
  cases package with
  | none => cases h
  | some package =>
    cases table with
    | none => cases h
    | some table =>
      rw [parseGiven_eq] at h
      have houtcome := outcome_of_course (course_of_parse ⟨some package, table⟩ bytes)
      obtain ⟨root, hdocument, htag⟩ := houtcome.otherRoot.mp h
      rw [Bool.eq_false_iff, ne_eq, hasConfigRoot_iff,
        Markup.rootTag_of_readDocument hdocument]
      intro hroot
      exact htag (Except.ok.inj hroot)

end Content

namespace FileStore

variable {s : FileStore} {dir p : Path} {path : String} {package : Option Text}
  {table : Option ResourceTable} {config : Config} {bytes : Bytes} {found : List Path}

theorem parseFile_of_openFile (hopen : s.openFile (Path.ofString path).chars = .ok bytes)
    (hsize : bytes.length ≤ maxFileBytes) :
    s.parseFile path package table = (parseGiven (some bytes) package table).mapError .parse := by
  rw [parseFile, hopen]
  simp only [if_neg (show ¬ maxFileBytes < bytes.length by omega)]
  cases parseGiven (some bytes) package table <;> rfl

/-- A file that is parsed has been opened; its content decides from there. -/
theorem exists_bytes_of_parseFile (result : Except ParseFailure Config)
    (h : s.parseFile path package table = result.mapError .parse) :
    ∃ bytes, s.follow (Path.ofString path).chars = .ok (.file bytes) ∧
      parseGiven (some bytes) package table = result := by
  cases hopen : s.openFile (Path.ofString path).chars with
  | error fault =>
    rw [parseFile, hopen] at h
    cases result <;> cases h
  | ok bytes =>
    refine ⟨bytes, openFile_eq_ok_iff.mp hopen, ?_⟩
    by_cases hsize : bytes.length ≤ maxFileBytes
    · rw [parseFile_of_openFile hopen hsize] at h
      cases hparse : parseGiven (some bytes) package table <;> rw [hparse] at h <;>
        cases result <;> cases h <;> rfl
    · simp only [parseFile, hopen, if_pos (show maxFileBytes < bytes.length by omega)] at h
      cases result <;> cases h

/-- Whatever a search opens, it lists if that has the right root. -/
theorem mem_of_visits {names : List PathName} (hfound : s.findConfigs dir = .ok found)
    (hfollow : s.follow dir.chars = .ok .directory)
    (hat : s.at? (dir.locate s.home ++ names) = some (.file bytes))
    (hname : isConfigName ((dir.locate s.home ++ names).getLast?.getD []) = true)
    (hopen : canOpen (dir.append names) = true) (hroot : hasConfigRoot bytes = true) :
    dir.append names ∈ found := by
  obtain ⟨-, -, rfl⟩ := findConfigs_eq_ok_iff.mp hfound
  have hvisited : ⟨names, bytes⟩ ∈ s.visited dir :=
    mem_visited_iff.mpr ⟨hfollow, hat, hname, hopen⟩
  exact mem_listing_iff.mpr ⟨_, hvisited, hroot, rfl⟩

/-- A file below a directory, taken by the path through it. -/
theorem mem_of_parseFile_append {names : List PathName} (hplain : Path.Plain dir.names)
    (hfound : s.findConfigs dir = .ok found) (hnames : ∀ n ∈ names, IsFileName n)
    (hname : isConfigName (names.getLast?.getD []) = true)
    (h : s.parseFile (dir.append names).toString package table = .ok config) :
    dir.append names ∈ found := by
  have hne : names ≠ [] := by
    rintro rfl
    exact absurd hname (by decide)
  have hpath : Path.ofString (dir.append names).toString = dir.append names :=
    Path.ofString_toString (hplain.append (Path.plain_of_isFileName hnames))
  obtain ⟨bytes, hfollow, hparse⟩ := exists_bytes_of_parseFile (.ok config) h
  rw [hpath] at hfollow
  rw [mem_findConfigs_iff hplain hfound]
  refine ⟨⟨names, hne, Path.plain_of_isFileName hnames, fun hmem => ?_, rfl⟩, ?_, bytes,
    openFile_eq_ok_iff.mpr hfollow, hasConfigRoot_iff.mp (hasConfigRoot_of_parseGiven hparse)⟩
  · obtain ⟨-, hparent, -⟩ := hnames _ hmem
    exact hparent rfl
  · rw [Path.name_append hne]
    exact List.isSuffixOf_iff_suffix.mp hname

/-- A file that a search opens, taken by whatever path. -/
theorem exists_mem_of_parseFile (hfound : s.findConfigs dir = .ok found)
    (hvisits : s.Visits dir ((Path.ofString path).locate s.home))
    (h : s.parseFile path package table = .ok config) :
    ∃ p ∈ found, p.locate s.home = (Path.ofString path).locate s.home := by
  obtain ⟨hfollow, names, hlocate, hname, hopen⟩ := hvisits
  obtain ⟨bytes, hpath, hparse⟩ := exists_bytes_of_parseFile (.ok config) h
  have hat := at?_locate_of_follow (Path.plain_ofString path) hpath
  rw [hlocate] at hat hname
  refine ⟨dir.append names, mem_of_visits hfound hfollow hat hname hopen
    (hasConfigRoot_of_parseGiven hparse), ?_⟩
  have hvisited : ⟨names, bytes⟩ ∈ s.visited dir :=
    mem_visited_iff.mpr ⟨hfollow, hat, hname, hopen⟩
  rw [hlocate]
  exact locate_of_mem_visited hvisited

theorem parseFile_ne_missing_root (hfound : s.findConfigs dir = .ok found) (hp : p ∈ found)
    (hpath : (Path.ofString path).locate s.home = p.locate s.home) :
    s.parseFile path package table ≠
      .error (.parse (.refused (.rejected (.missingElement .centerConfig)))) := by
  intro h
  obtain ⟨-, -, rfl⟩ := findConfigs_eq_ok_iff.mp hfound
  obtain ⟨c, hc, hroot, rfl⟩ := mem_listing_iff.mp hp
  obtain ⟨-, hat, -, -⟩ := mem_visited_iff.mp hc
  obtain ⟨bytes, hfollow, hparse⟩ := exists_bytes_of_parseFile (.error _) h
  have hat' := at?_locate_of_follow (Path.plain_ofString path) hfollow
  have hlocate := hpath.trans (locate_of_mem_visited hc)
  have hbytes : bytes = c.bytes := by
    have hsame : some (FileNode.file bytes) = some (.file c.bytes) := by
      rw [← hat, ← hlocate]
      exact hat'.symm
    exact FileNode.file.inj (Option.some.inj hsame)
  rw [hbytes] at hparse
  rw [not_hasConfigRoot_of_parseGiven hparse] at hroot
  cases hroot

end FileStore

/-- What the root check refuses, reading refuses for the same reason; where reading ends well,
there is a tree just if the root tag is the right one. So every configuration with a name in
`.xml` that can be parsed is found from a directory above it, by the path through that directory
or by any other that leads to a file which the search opens. What is found may be refused for
much, but not for its root. A store has no links: a search would not go through a directory that
is one, and what is behind it would be parsed without being found. -/
theorem root_check_agrees_with_reading :
    (∀ bytes fault, Markup.rootTag bytes = .error fault → readRaw bytes = .error (.markup fault)) ∧
    (∀ bytes tag raw, Markup.rootTag bytes = .ok tag → readRaw bytes = .ok raw →
      (raw.isSome = true ↔ tag = "safety-center-config")) ∧
    ∀ (s : FileStore) (directory : String) (found : List Path),
      s.findConfigs (Path.ofString directory) = .ok found →
      (∀ names package table config, (∀ n ∈ names, IsFileName n) →
        isConfigName (names.getLast?.getD []) = true →
        s.parseFile ((Path.ofString directory).append names).toString package table = .ok config →
        (Path.ofString directory).append names ∈ found) ∧
      (∀ path package table config, s.parseFile path package table = .ok config →
        s.Visits (Path.ofString directory) ((Path.ofString path).locate s.home) →
        ∃ p ∈ found, p.locate s.home = (Path.ofString path).locate s.home) ∧
      ∀ p ∈ found, ∀ path package table,
        (Path.ofString path).locate s.home = p.locate s.home →
        s.parseFile path package table ≠
          .error (.parse (.refused (.rejected (.missingElement .centerConfig)))) := by
  refine ⟨?_, ?_, ?_⟩
  · intro bytes fault h
    exact readRaw_of_rootTag_error h
  · intro bytes tag raw htag h
    exact isSome_iff_of_readRaw htag h
  · intro s directory found hfound
    refine ⟨?_, ?_, ?_⟩
    · intro names package table config hnames hname h
      exact FileStore.mem_of_parseFile_append (Path.plain_ofString directory) hfound hnames hname h
    · intro path package table config h hvisits
      exact FileStore.exists_mem_of_parseFile hfound hvisits h
    · intro p hp path package table hpath
      exact FileStore.parseFile_ne_missing_root hfound hp hpath

/-! A configuration two directories down, beside a document of another kind. -/

def lockBytes : Bytes := List.flatMap asciiBytes [
  "<!-- locks --><safety-center-config>", "<safety-sources-config><safety-sources-group id='g'>",
  "<safety-source type='static' id='lock'", " profile='primary' intentAction='open'/>",
  "</safety-sources-group></safety-sources-config>", "</safety-center-config>"]

def nestedFiles : FileStore :=
  let root : FileStore :=
    FileStore.add .empty ["configs".toList] .directory (by decide +kernel)
  let old := root.add ["configs".toList, "old".toList] .directory (by decide +kernel)
  let menu := old.add ["configs".toList, "menu.xml".toList] (.file (asciiBytes "<menu/>"))
    (by decide +kernel)
  menu.add ["configs".toList, "old".toList, "lock.xml".toList] (.file lockBytes)
    (by decide +kernel)

def lockPath : Path := ⟨.working, ["configs".toList, "old".toList, "lock.xml".toList]⟩

theorem findConfigs_nested :
    nestedFiles.findConfigs (Path.ofString "configs") = .ok [lockPath] := by
  have hcandidates :
      nestedFiles.candidates ((Path.ofString "configs").locate nestedFiles.home) =
        [⟨["menu.xml".toList], asciiBytes "<menu/>"⟩,
          ⟨["old".toList, "lock.xml".toList], lockBytes⟩] :=
    FileStore.candidates_of_sorted rfl (by decide +kernel)
  simp only [FileStore.findConfigs, hcandidates]
  decide +kernel

/-- The configuration is found by both of its paths, the other document by none. -/
theorem nested_lock_is_listed :
    let table : ResourceTable := ⟨[]⟩
    let config : Config :=
      ⟨[⟨"g", 0, 0, .none, [⟨.static, "lock", none, 0, 0, 0, some "open", .primary,
        .unspecified, none, 0, none, false, false⟩]⟩]⟩
    let parsed (path : String) := nestedFiles.parseFile path (some []) (some table)
    readRaw (asciiBytes "<menu") = .error (.markup .malformed) ∧
    Markup.rootTag (asciiBytes "<menu/>") = .ok "menu" ∧
    readRaw (asciiBytes "<menu/>") = .ok none ∧
    ((none : Option RawConfig).isSome = true ↔ "menu" = "safety-center-config") ∧
    parsed "configs/old/lock.xml" = .ok config ∧ parsed "/configs/old/lock.xml" = .ok config ∧
    (∃ found, nestedFiles.findConfigs (Path.ofString "configs") = .ok found ∧ lockPath ∈ found ∧
      ∃ p ∈ found, p.locate nestedFiles.home = lockPath.names) ∧
    parsed "/configs/old/lock.xml" ≠
      .error (.parse (.refused (.rejected (.missingElement .centerConfig)))) := by
  intro table config parsed
  obtain ⟨hrefused, htree, hlisted⟩ := root_check_agrees_with_reading
  have hfault : Markup.rootTag (asciiBytes "<menu") = .error .malformed := by decide +kernel
  have hmenu : Markup.rootTag (asciiBytes "<menu/>") = .ok "menu" := by decide +kernel
  have hother : readRaw (asciiBytes "<menu/>") = .ok none := by decide +kernel
  have hparse : parseGiven (some lockBytes) (some []) (some table) = .ok config := by
    decide +kernel
  have hparsed : ∀ path, nestedFiles.openFile (Path.ofString path).chars = .ok lockBytes →
      parsed path = .ok config := by
    intro path hopen
    have hread : parsed path =
        (parseGiven (some lockBytes) (some []) (some table)).mapError .parse :=
      FileStore.parseFile_of_openFile hopen (by decide +kernel)
    rw [hread, hparse]
    rfl
  have hbelow := hparsed "configs/old/lock.xml" (by decide +kernel)
  have habsolute := hparsed "/configs/old/lock.xml" (by decide +kernel)
  have hvisits : nestedFiles.Visits (Path.ofString "configs")
      ((Path.ofString "/configs/old/lock.xml").locate nestedFiles.home) :=
    ⟨by decide +kernel, ["old".toList, "lock.xml".toList], by decide +kernel, by decide +kernel,
      by decide +kernel⟩
  have hsame : (Path.ofString "/configs/old/lock.xml").locate nestedFiles.home =
      lockPath.locate nestedFiles.home := by decide +kernel
  obtain ⟨hnames, hpaths, hnever⟩ := hlisted nestedFiles "configs" [lockPath] findConfigs_nested
  have hmem : lockPath ∈ [lockPath] :=
    hnames ["old".toList, "lock.xml".toList] (some []) (some table) config (by decide +kernel)
      (by decide +kernel) hbelow
  refine ⟨hrefused _ _ hfault, hmenu, hother, htree _ _ _ hmenu hother, hbelow, habsolute, ?_, ?_⟩
  · exact ⟨_, findConfigs_nested, hmem, hpaths _ _ _ _ habsolute hvisits⟩
  · exact hnever _ hmem _ _ _ hsame

end SafetyConfig
