import SafetyConfig.Proofs.File.Admission
import SafetyConfig.Proofs.File.Listing
import SafetyConfig.Tool.Published

/-!
# What is published can be read

An address gives back the path it was made from, and at that path the file is admitted that
was published there. What is read is then up to the resource table and the bytes of that
file. The one exception is a file whose name is the bare ending: it is published, and
reading it is refused for its type.
-/

namespace SafetyConfig

section Deletion

variable {word : List Char}

theorem withoutWord_skip (front cs : List Char) :
    withoutWord word front.length (front ++ cs) = withoutWord word 0 cs := by
  induction front with
  | nil => rfl
  | cons c front ih => exact ih

theorem withoutWord_append (hne : word ≠ []) (cs : List Char) :
    withoutWord word 0 (word ++ cs) = withoutWord word 0 cs := by
  obtain ⟨c, rest, rfl⟩ := List.exists_cons_of_ne_nil hne
  have hstarts : (c :: rest).isPrefixOf (c :: (rest ++ cs)) = true :=
    List.isPrefixOf_iff_prefix.mpr (List.prefix_append (c :: rest) cs)
  rw [List.cons_append, withoutWord, if_pos (by simp [hstarts])]
  exact withoutWord_skip rest cs

theorem withoutWord_of_not_infix {cs : List Char} (h : ¬ word <:+: cs) :
    withoutWord word 0 cs = cs := by
  induction cs with
  | nil => rfl
  | cons c cs ih =>
    rw [List.infix_cons_iff, not_or] at h
    have hstarts : word.isPrefixOf (c :: cs) = false := by
      simpa [← List.isPrefixOf_iff_prefix] using h.1
    rw [withoutWord, if_neg (by simp [hstarts]), ih h.2]

end Deletion

/-- The address of an absolute path holds that path, even where the path itself spells out
the start of an address but for its second slash. -/
theorem addressedPath_publish {p : Path} (habsolute : p.start ≠ .working)
    (hplain : Path.Plain p.names) : addressedPath (publish p).uri = p.toString := by
  have hwithin : ¬ addressStart <:+: p.chars :=
    Path.not_infix_chars habsolute hplain (by decide) (by decide) (by decide)
  rw [addressedPath, publish, String.toList_ofList, withoutWord_append (by decide),
    withoutWord_of_not_infix hwithin, Path.toString]

namespace FileStore

variable {s : FileStore} {dir p : Path} {found : List Path}

/-- What a search from an absolute path finds, it can open by the path it gives. -/
structure Listed (s : FileStore) (p : Path) (bytes : Bytes) : Prop where
  absolute : p.start ≠ .working
  plain : Path.Plain p.names
  noNul : '\x00' ∉ p.chars
  opens : canOpen p = true
  at? : s.at? (p.locate s.home) = some (.file bytes)
  name_eq : (p.locate s.home).getLast?.getD [] = p.name
  named : isConfigName p.name = true

theorem listed_of_mem_findConfigs (habsolute : dir.start ≠ .working)
    (hplain : Path.Plain dir.names) (hfound : s.findConfigs dir = .ok found) (hp : p ∈ found) :
    ∃ bytes, s.Listed p bytes := by
  obtain ⟨⟨names, hne, hbelow, hdown, rfl⟩, hname, bytes, hopen, -⟩ :=
    (mem_findConfigs_iff hplain hfound).mp hp
  have hfollow := openFile_eq_ok_iff.mp hopen
  have hnames := hplain.append hbelow
  have hplace : (dir.append names).locate s.home = dir.locate s.home ++ names :=
    Path.locate_append s.home fun n hn hparent => hdown (hparent ▸ hn)
  refine ⟨bytes, habsolute, hnames, not_mem_nul_of_follow hfollow, canOpen_of_follow hfollow,
    at?_locate_of_follow hnames hfollow, ?_, List.isSuffixOf_iff_suffix.mpr hname⟩
  rw [hplace, Path.name_append hne, List.getLast?_append_of_ne_nil _ hne]

theorem Listed.admitFile {bytes : Bytes} (h : s.Listed p bytes)
    (hsize : bytes.length ≤ maxFileBytes) : s.admitFile p.toString [".xml"] =
      if p.name = configSuffix then .error (.wrongType "" [".xml"])
      else .ok ⟨p.locate s.home, bytes⟩ := by
  rw [admitFile_of_at? h.absolute h.plain h.noNul h.opens h.at?,
    admitBytes_of_isConfigName (h.name_eq ▸ h.named) hsize, h.name_eq]

end FileStore

namespace Workspace

variable {w : Workspace}

/-- What can be read at a path where a file with these bytes is admitted. -/
inductive Reading (w : Workspace) (path : String) (bytes : Bytes) : Except ToolError String → Prop
  | summary {choice : TableChoice} {config : Config}
      (table : w.loadTable ⟨Json.record []⟩ = .ok choice)
      (content : choice.parseConfig bytes = .ok config) :
      Reading w path bytes (.ok (configSummary path config))
  | tableFailure {e : ToolError} (table : w.loadTable ⟨Json.record []⟩ = .error e) :
      Reading w path bytes (answer path (.error e))
  | contentFailure {choice : TableChoice} {e : ToolError}
      (table : w.loadTable ⟨Json.record []⟩ = .ok choice)
      (content : choice.parseConfig bytes = .error e) :
      Reading w path bytes (answer path (.error e))

/-! A path among the arguments has no say in the table and the package. -/

theorem given_filepath (path : Json) {name : String} (hname : name ≠ "filepath")
    (default : String) : Arguments.given ⟨Json.record [("filepath", path)]⟩ name default =
      Arguments.given ⟨Json.record []⟩ name default := by
  have hfield : (Json.record [("filepath", path)]).field? name = (Json.record []).field? name := by
    rw [Json.field?_record, Json.field?_record, List.lookup_cons, beq_eq_false_iff_ne.mpr hname]
  rw [Arguments.given, Arguments.given, Arguments.get?, Arguments.get?, hfield]

/-- Two arguments, or what stands in for them, settle the table and the package. -/
theorem loadTable_eq_of_given {w' : Workspace} {a b : Arguments} (hfiles : w'.files = w.files)
    (hresources : b.given "resources" w'.settings.defaultResources =
      a.given "resources" w.settings.defaultResources)
    (hpackage : b.given "package_name" w'.settings.defaultPackage =
      a.given "package_name" w.settings.defaultPackage) : w'.loadTable b = w.loadTable a := by
  have hchoose : w'.choosePackage b = w.choosePackage a := by
    funext table
    rw [choosePackage, choosePackage, hpackage]
  have hadmitted : w'.admitFile = w.admitFile := by
    funext path allowed
    rw [admitFile, admitFile, hfiles]
  rw [loadTable, loadTable, hresources, hchoose, hadmitted]

theorem loadTable_filepath (path : Json) :
    w.loadTable ⟨Json.record [("filepath", path)]⟩ = w.loadTable ⟨Json.record []⟩ :=
  loadTable_eq_of_given rfl (given_filepath path (by decide) _)
    (given_filepath path (by decide) _)

theorem admitFile_text (path : Text) (allowed : List String) :
    w.admitFile (.text path) allowed =
      (w.files.admitFileText path allowed).mapError .file := by
  rw [admitFile, pathText, ok_bind]
  cases w.files.admitFileText path allowed <;> rfl

theorem admitFile_ofString (path : String) (allowed : List String) :
    w.admitFile (.ofString path) allowed = (w.files.admitFile path allowed).mapError .file := by
  rw [Json.ofString, admitFile_text, FileStore.admitFileText_ofString]

theorem loadConfig_filepath (path : String) :
    w.loadConfig ⟨Json.record [("filepath", .ofString path)]⟩ =
      match w.files.admitFile path [".xml"] with
      | .ok file => w.loadTable ⟨Json.record []⟩ >>= fun choice => choice.parseConfig file.bytes
      | .error refusal => .error (.file refusal) := by
  have hneed : Arguments.need ⟨Json.record [("filepath", .ofString path)]⟩ "filepath" =
      .ok (.ofString path) := by
    rw [Arguments.need, Arguments.get?, Json.field?_record]
    rfl
  rw [loadConfig, hneed, loadTable_filepath, ok_bind, admitFile_ofString]
  cases w.files.admitFile path [".xml"] <;> rfl

/-- Once the file is admitted, table and content decide. -/
theorem reading_of_admitFile {uri path : String} {file : AdmittedFile}
    (huri : addressedPath uri = path) (hadmitted : w.files.admitFile path [".xml"] = .ok file) :
    w.Reading path file.bytes (w.readAddress uri) := by
  rw [readAddress, huri, loadConfig_filepath, hadmitted]
  cases htable : w.loadTable ⟨Json.record []⟩ with
  | error e => exact .tableFailure htable
  | ok choice =>
    simp only [ok_bind]
    cases hcontent : choice.parseConfig file.bytes with
    | error e => exact .contentFailure htable hcontent
    | ok config => exact .summary htable hcontent

theorem readAddress_of_wrongType {uri path suffix : String} (huri : addressedPath uri = path)
    (hrefuse : w.files.admitFile path [".xml"] = .error (.wrongType suffix [".xml"])) :
    w.readAddress uri = .ok (FileRefusal.wrongType suffix [".xml"]).message := by
  rw [readAddress, huri, loadConfig_filepath, hrefuse]
  rfl

/-- Every publication is that of a file. If it has no more than a megabyte, reading at the
address comes to exactly that file, unless its name is the bare ending: then the type of the
file is found to be wrong. A store has no links: one in its place would be read as the file it leads
to, whose name need not have the ending. -/
theorem publication_leads_to_its_file
    (habsolute : (Path.ofString w.settings.configDir).start ≠ .working)
    {pubs : List Publication} (hpubs : w.publications = .ok pubs) {pub : Publication}
    (hpub : pub ∈ pubs) :
    ∃ found p bytes, w.files.findConfigs (Path.ofString w.settings.configDir) = .ok found ∧
      p ∈ found ∧ pub = publish p ∧ pub.uri = "file://" ++ p.toString ∧ p.start ≠ .working ∧
      addressedPath pub.uri = p.toString ∧
      w.files.at? (p.locate w.files.home) = some (.file bytes) ∧
      (bytes.length ≤ maxFileBytes →
        (p.name ≠ configSuffix →
          w.files.admitFile p.toString [".xml"] = .ok ⟨p.locate w.files.home, bytes⟩ ∧
            w.Reading p.toString bytes (w.readAddress pub.uri)) ∧
        (p.name = configSuffix →
          w.files.admitFile p.toString [".xml"] = .error (.wrongType "" [".xml"]) ∧
            w.readAddress pub.uri = .ok "Invalid file type ''. Allowed: .xml")) := by
  obtain ⟨found, hfound, rfl⟩ := publications_eq_ok_iff.mp hpubs
  obtain ⟨p, hp, rfl⟩ := List.mem_map.mp hpub
  obtain ⟨bytes, hlisted⟩ :=
    FileStore.listed_of_mem_findConfigs habsolute (Path.plain_read _) hfound hp
  have huri : (publish p).uri = "file://" ++ p.toString := uri_publish p
  have haddress := addressedPath_publish hlisted.absolute hlisted.plain
  refine ⟨found, p, bytes, hfound, hp, rfl, huri, hlisted.absolute, haddress, hlisted.at?,
    fun hsize => ⟨?_, ?_⟩⟩
  · intro hname
    have hadmitted := hlisted.admitFile hsize
    rw [if_neg hname] at hadmitted
    exact ⟨hadmitted, reading_of_admitFile haddress hadmitted⟩
  · intro hname
    have hrefuse := hlisted.admitFile hsize
    rw [if_pos hname] at hrefuse
    exact ⟨hrefuse, readAddress_of_wrongType haddress hrefuse⟩

/-! A configuration whose name is the bare ending, and the same under another name. -/

def barePath : Path := ⟨.root, [configSuffix]⟩

def shieldPath : Path := ⟨.root, ["shield.xml".toList]⟩

def shieldBytes : Bytes := List.flatMap asciiBytes [
  "<safety-center-config>", "<safety-sources-config>", "<safety-sources-group id='g'>",
  "<safety-source type='static'", " id='shield' profile='primary'", " intentAction='open'/>",
  "</safety-sources-group>", "</safety-sources-config>", "</safety-center-config>"]

def bareFiles : FileStore :=
  let table : FileStore :=
    FileStore.add .empty ["table.json".toList] (.file (asciiBytes "\x7b\"app\": \x7b\x7d\x7d"))
      (by decide +kernel)
  let bare := table.add barePath.names (.file emptyConfigBytes) (by decide +kernel)
  bare.add shieldPath.names (.file shieldBytes) (by decide +kernel)

def bare : Workspace := ⟨bareFiles, ⟨"/", "/table.json", ""⟩⟩

theorem findConfigs_bare :
    bare.files.findConfigs (Path.ofString bare.settings.configDir) =
      .ok [barePath, shieldPath] := by
  have hcandidates :
      bare.files.candidates ((Path.ofString bare.settings.configDir).locate bare.files.home) =
        [⟨barePath.names, emptyConfigBytes⟩, ⟨shieldPath.names, shieldBytes⟩] :=
    FileStore.candidates_of_sorted rfl (by decide +kernel)
  simp only [FileStore.findConfigs, hcandidates]
  decide +kernel

theorem publications_bare : bare.publications = .ok [publish barePath, publish shieldPath] :=
  publications_eq_ok_iff.mpr ⟨_, findConfigs_bare, rfl⟩

theorem shield_publication_is_read :
    bare.files.admitFile "/shield.xml" [".xml"] = .ok ⟨shieldPath.names, shieldBytes⟩ ∧
      bare.Reading "/shield.xml" shieldBytes (bare.readAddress (publish shieldPath).uri) ∧
        (bare.readAddress (publish shieldPath).uri).toOption =
          some "Safety Center Config: shield.xml\nGroups: 1\nSources: 1\nPath: /shield.xml" := by
  have hpub : publish shieldPath ∈ [publish barePath, publish shieldPath] := by simp
  obtain ⟨found, p, bytes, hfound, hp, hpublish, -, -, -, hat, hread⟩ :=
    publication_leads_to_its_file (by decide +kernel) publications_bare hpub
  obtain rfl := Except.ok.inj (findConfigs_bare.symm.trans hfound)
  have hshield : p = shieldPath := by
    rcases List.mem_cons.mp hp with rfl | hp
    · exact absurd hpublish (by decide +kernel)
    · exact List.mem_singleton.mp hp
  subst hshield
  have hbytes : bare.files.at? (shieldPath.locate bare.files.home) =
      some (.file shieldBytes) := rfl
  obtain rfl : shieldBytes = bytes := by simpa [hbytes] using hat
  obtain ⟨hadmitted, hreading⟩ := (hread (by decide +kernel)).1 (by decide +kernel)
  exact ⟨hadmitted, hreading, by decide +kernel⟩

/-- The bare ending is published as any other configuration, and refused when it is read. -/
theorem bare_publication_is_refused :
    bare.publications = .ok [publish barePath, publish shieldPath] ∧
      (publish barePath).uri = "file:///.xml" ∧
        bare.readAddress "file:///.xml" = .ok "Invalid file type ''. Allowed: .xml" := by
  have haddress : addressedPath "file:///.xml" = "/.xml" := by decide +kernel
  have hrefuse : bare.files.admitFile "/.xml" [".xml"] = .error (.wrongType "" [".xml"]) := by
    decide +kernel
  exact ⟨publications_bare, by decide +kernel, readAddress_of_wrongType haddress hrefuse⟩

end Workspace

end SafetyConfig
