import SafetyConfig.Proofs.Resource.TableFile
import SafetyConfig.Proofs.Tool.Agreement

/-!
# Failures that are explained

A call that meets the schema of its tool gives texts and leaves out nothing that is required. If
then the system looks up the paths and decodes the table, whatever goes wrong has a message of
its own, and the reply that shows nothing but a kind of failure is never given.
-/

namespace SafetyConfig

/-- The arguments of a call are as the schema of its tool wants them. -/
structure Arguments.MeetsSchema (a : Arguments) (t : Tool) : Prop where
  required : ∀ name ∈ t.required, ∃ v, a.get? name = some v
  texts : ∀ p ∈ t.parameters, ∀ v, a.get? p.name = some v → ∃ text, v = .text text

/-- A failure with a message that is shown. -/
def ToolError.Reported (e : ToolError) : Prop :=
  ∀ kind message, e.report ≠ .internal kind message

/-- Whatever goes wrong in a step is reported. -/
def FailsOpenly {α : Type} (x : Except ToolError α) : Prop :=
  ∀ e, x = .error e → e.Reported

theorem FailsOpenly.bind {α β : Type} {x : Except ToolError α} {f : α → Except ToolError β}
    (hx : FailsOpenly x) (hf : ∀ v, x = .ok v → FailsOpenly (f v)) : FailsOpenly (x >>= f) := by
  intro e h
  rcases bind_eq_error_iff.mp h with hfault | ⟨v, hv, hfault⟩
  · exact hx e hfault
  · exact hf v hv e hfault

theorem failsOpenly_ok {α : Type} (v : α) : FailsOpenly (.ok v) := by
  intro e h
  cases h

theorem failsOpenly_error {α : Type} {e : ToolError} (h : e.Reported) :
    FailsOpenly (.error e : Except ToolError α) := by
  intro e' he
  cases he
  exact h

/-! Which failures are reported. -/

namespace ToolError

theorem reported_file {refusal : FileRefusal} (h : refusal ≠ .unreachable) :
    (ToolError.file refusal).Reported := by
  intro kind message
  cases refusal <;> simp_all [report, fileReport]

theorem reported_table {fault : TableFault} (h : ∀ container, fault ≠ .tooDeep container) :
    (ToolError.table fault).Reported := by
  intro kind message
  cases fault <;> simp_all [report, tableReport]

theorem reported_config (e : ParseError) : (ToolError.config e).Reported := by
  intro kind message
  simp [report]

end ToolError

namespace Workspace

variable {w : Workspace} {t : Tool} {a : Arguments} {config : Config} {reply : String}

/-- The system can tell what is at a path, if it is asked. -/
def LooksUp (w : Workspace) (path : Text) : Prop :=
  ∀ p, PathText.ofText path = .path p → w.files.status (p.locate w.files.home) ≠ .error .tooLong

/-- What a call leaves to the system works: paths are looked up, and a table that is decoded has
no values nested deeper than the decoder goes. -/
structure SystemServes (w : Workspace) (t : Tool) (a : Arguments) : Prop where
  filepath : Tool.filepath ∈ t.parameters →
    ∀ path, a.get? "filepath" = some (.text path) → w.LooksUp path
  resources : ∀ path, a.given "resources" w.settings.defaultResources = .text path →
    path ≠ [] → w.LooksUp path
  decoding : ∀ path file cs container,
    a.given "resources" w.settings.defaultResources = .text path →
      w.files.admitFileText path [".json"] = .ok file →
        Utf8.decode? file.bytes = some cs → Json.read cs ≠ .error (.tooDeep container)

/-- The texts that tools reply with when nothing goes wrong. -/
inductive Answers (w : Workspace) (a : Arguments) : Tool → String → Prop
  | summary {config : Config} (load : w.loadConfig a = .ok config) :
      Answers w a .validateConfig (Listing.summary config)
  | groups {config : Config} (load : w.loadConfig a = .ok config) :
      Answers w a .listGroups (Listing.groups config)
  | sources {config : Config} {groups : List Group} (load : w.loadConfig a = .ok config)
      (chosen : ∀ g ∈ groups, g ∈ config.groups) :
      Answers w a .listSources (Listing.sources groups)
  | source {config : Config} {s : Source} (load : w.loadConfig a = .ok config)
      (found : s ∈ config.sources) : Answers w a .describeSource s.toJson.toText
  | identifier {choice : TableChoice} {reference : Text} {n : ResourceId}
      (load : w.loadTable a = .ok choice) (given : a.get? "reference" = some (.text reference))
      (resolves : choice.scope.resolveText referencePlace reference = .ok n) :
      Answers w a .resolveReference
        (Text.toString reference ++ " -> " ++ ResourceId.format n ++ " (" ++
          choice.package.plain ++ ")")

/-- The texts that explain why there is no answer: a failure of the tool with its message, or a
finding about the configuration or the reference. -/
inductive Explains (w : Workspace) (a : Arguments) : Tool → String → Prop
  | notFound {t : Tool} {e : ToolError} {message : String} (fails : w.run t a = .error e)
      (report : e.report = .notFound message) : Explains w a t ("File not found: " ++ message)
  | invalid {t : Tool} {e : ToolError} {message : String} (fails : w.run t a = .error e)
      (report : e.report = .invalid message) : Explains w a t ("Validation error: " ++ message)
  | invalidConfig {e : ParseError} (load : w.loadConfig a = .error (.config e)) :
      Explains w a .validateConfig ("Invalid config: " ++ e.message)
  | unresolved {choice : TableChoice} {reference : Text} {e : ConversionError}
      (load : w.loadTable a = .ok choice) (given : a.get? "reference" = some (.text reference))
      (fails : choice.scope.resolveText referencePlace reference = .error e) :
      Explains w a .resolveReference e.message

/-! The steps of a call, up to the configuration. -/

theorem failsOpenly_admitFile {path : Text} (h : w.LooksUp path) (allowed : List String) :
    FailsOpenly (w.admitFile (.text path) allowed) := by
  intro e he
  rw [admitFile_text, mapError_eq_error_iff] at he
  obtain ⟨refusal, hadmitted, rfl⟩ := he
  apply ToolError.reported_file
  rintro rfl
  unfold FileStore.admitFileText at hadmitted
  split at hadmitted
  · rename_i p hp
    exact h p hp (FileStore.admitFileAt_eq_unreachable_iff.mp hadmitted)
  · cases hadmitted
  · cases hadmitted

theorem resources_mem_parameters (ht : t ≠ .listConfigs) : Tool.resources ∈ t.parameters := by
  cases t <;> simp_all [Tool.parameters]

theorem packageName_mem_parameters (ht : t ≠ .listConfigs) :
    Tool.packageName ∈ t.parameters := by
  cases t <;> simp_all [Tool.parameters]

theorem exists_text_need (ha : a.MeetsSchema t) {p : Tool.Parameter} (hp : p ∈ t.parameters)
    (hrequired : p.name ∈ t.required) :
    ∃ text, a.get? p.name = some (.text text) ∧ a.need p.name = .ok (.text text) := by
  obtain ⟨v, hv⟩ := ha.required p.name hrequired
  obtain ⟨text, rfl⟩ := ha.texts p hp v hv
  refine ⟨text, hv, ?_⟩
  rw [Arguments.need, hv]

theorem exists_text_given (ha : a.MeetsSchema t) {p : Tool.Parameter} (hp : p ∈ t.parameters)
    (default : String) : ∃ text, a.given p.name default = .text text := by
  unfold Arguments.given
  split
  · rename_i v hv
    obtain ⟨text, rfl⟩ := ha.texts p hp v hv
    split
    · exact ⟨text, rfl⟩
    · exact ⟨_, rfl⟩
  · exact ⟨_, rfl⟩

theorem exists_text_choosePackage (ht : t ≠ .listConfigs) (ha : a.MeetsSchema t)
    {table : ResourceTable} {package : Json} (h : w.choosePackage a table = .ok package) :
    ∃ text, package = .text text := by
  obtain ⟨text, hgiven⟩ := exists_text_given ha (packageName_mem_parameters ht)
    w.settings.defaultPackage
  rw [show Tool.packageName.name = "package_name" from rfl] at hgiven
  unfold choosePackage at h
  simp only [hgiven] at h
  split at h
  · exact ⟨text, (Except.ok.inj h).symm⟩
  · split at h
    · exact ⟨_, (Except.ok.inj h).symm⟩
    · cases h

theorem failsOpenly_choosePackage (table : ResourceTable) :
    FailsOpenly (w.choosePackage a table) := by
  intro e h kind message hreport
  simp only [choosePackage] at h
  split at h
  · cases h
  · split at h
    · cases h
    · cases h
      cases hreport

theorem failsOpenly_ofBytes {file : AdmittedFile} {k : ResourceTable → Except ToolError TableChoice}
    (hdecode : ∀ cs container, Utf8.decode? file.bytes = some cs →
      Json.read cs ≠ .error (.tooDeep container))
    (hk : ∀ table, ResourceTable.ofBytes file.bytes = .ok table → FailsOpenly (k table)) :
    FailsOpenly (match ResourceTable.ofBytes file.bytes with
      | .error fault => .error (.table fault)
      | .ok table => k table) := by
  cases htable : ResourceTable.ofBytes file.bytes with
  | ok table => exact hk table htable
  | error fault =>
    apply failsOpenly_error
    apply ToolError.reported_table
    rintro container rfl
    obtain ⟨cs, hcs, hread⟩ := ResourceTable.read_of_ofBytes_tooDeep htable
    exact hdecode cs container hcs hread

theorem failsOpenly_loadTable (ht : t ≠ .listConfigs) (ha : a.MeetsSchema t)
    (hs : w.SystemServes t a) : FailsOpenly (w.loadTable a) := by
  obtain ⟨path, hpath⟩ := exists_text_given ha (resources_mem_parameters ht)
    w.settings.defaultResources
  rw [show Tool.resources.name = "resources" from rfl] at hpath
  rw [loadTable, hpath]
  by_cases hgiven : (Json.text path).isGiven = false
  · rw [if_pos hgiven]
    apply failsOpenly_error
    intro kind message
    simp [ToolError.report]
  · have hne : path ≠ [] := by
      rintro rfl
      exact hgiven rfl
    rw [if_neg hgiven]
    refine (failsOpenly_admitFile (hs.resources path hpath hne) _).bind fun file hfile => ?_
    rw [admitFile_text, mapError_eq_ok_iff] at hfile
    refine failsOpenly_ofBytes ?_ fun table _ => ?_
    · intro cs container
      exact hs.decoding path file cs container hpath hfile
    · exact (failsOpenly_choosePackage table).bind fun package _ => failsOpenly_ok _

/-- Any text can be looked for in a table, and is missing at worst. -/
theorem explain_eq_config_of_loadTable (ht : t ≠ .listConfigs) (ha : a.MeetsSchema t)
    {choice : TableChoice} (h : w.loadTable a = .ok choice) (e : ConversionError) :
    choice.explain e = .config (.rejected e) := by
  obtain ⟨package, hpackage⟩ := exists_text_choosePackage ht ha (loadTable_eq_ok_iff.mp h).2
  have hfit : choice.unfit = false := by
    rw [TableChoice.unfit, hpackage]
  cases e <;> simp [TableChoice.explain, hfit]

theorem failsOpenly_loadConfig (ht : Tool.filepath ∈ t.parameters) (ha : a.MeetsSchema t)
    (hs : w.SystemServes t a) : FailsOpenly (w.loadConfig a) := by
  have hother : t ≠ .listConfigs := by
    rintro rfl
    simp [Tool.parameters, Tool.filepath] at ht
  have hrequired : Tool.filepath.name ∈ t.required := by
    cases t <;> simp_all [Tool.parameters, Tool.filepath, Tool.required, Tool.resources,
      Tool.packageName]
  obtain ⟨path, hpath, hneed⟩ := exists_text_need ha ht hrequired
  rw [loadConfig, show a.need "filepath" = .ok (.text path) from hneed, ok_bind]
  refine (failsOpenly_admitFile (hs.filepath ht path hpath) _).bind fun file _ => ?_
  refine (failsOpenly_loadTable hother ha hs).bind fun choice hchoice => ?_
  intro e h
  unfold TableChoice.parseConfig at h
  split at h
  · cases h
  · cases h
    rw [explain_eq_config_of_loadTable hother ha hchoice]
    exact ToolError.reported_config _
  · cases h
    exact ToolError.reported_config _

/-! What each tool comes to. -/

theorem failsOpenly_chosenGroups : FailsOpenly (chosenGroups config a) := by
  intro e h kind message
  unfold chosenGroups at h
  split at h
  · cases h
  · split at h
    · cases h
    · split at h
      · cases h
      · cases h
        simp [ToolError.report]

theorem mem_of_chosenGroups {groups : List Group} (h : chosenGroups config a = .ok groups) :
    ∀ g ∈ groups, g ∈ config.groups := by
  unfold chosenGroups at h
  split at h
  · cases h
    exact fun g hg => hg
  · split at h
    · cases h
      exact fun g hg => hg
    · split at h
      · rename_i g hfound
        cases h
        obtain ⟨name, -, hname⟩ := Option.bind_eq_some_iff.mp hfound
        simpa using List.mem_of_find?_eq_some hname
      · cases h

theorem failsOpenly_run (ht : t ≠ .listConfigs) (ha : a.MeetsSchema t)
    (hs : w.SystemServes t a) : FailsOpenly (w.run t a) := by
  cases t with
  | listConfigs => exact absurd rfl ht
  | validateConfig =>
    have hload := failsOpenly_loadConfig (by simp [Tool.parameters]) ha hs
    intro e h
    rw [run, validateConfig] at h
    split at h
    · cases h
    · cases h
    · rename_i fault _ hfault
      cases h
      exact hload e hfault
  | listGroups =>
    have hload := failsOpenly_loadConfig (by simp [Tool.parameters]) ha hs
    exact hload.bind fun config _ => failsOpenly_ok _
  | listSources =>
    have hload := failsOpenly_loadConfig (by simp [Tool.parameters]) ha hs
    exact hload.bind fun config _ =>
      failsOpenly_chosenGroups.bind fun groups _ => failsOpenly_ok _
  | describeSource =>
    have hload := failsOpenly_loadConfig (by simp [Tool.parameters]) ha hs
    refine hload.bind fun config _ => ?_
    obtain ⟨id, -, hneed⟩ := exists_text_need ha (p := ⟨"source_id", none⟩)
      (by simp [Tool.parameters]) (by simp [Tool.required])
    rw [hneed, ok_bind]
    split
    · exact failsOpenly_ok _
    · apply failsOpenly_error
      intro kind message
      simp [ToolError.report]
  | resolveReference =>
    refine (failsOpenly_loadTable ht ha hs).bind fun choice hchoice => ?_
    obtain ⟨reference, -, hneed⟩ := exists_text_need ha
      (p := ⟨"reference", some "e.g. @string/lock_screen_title"⟩)
      (by simp [Tool.parameters]) (by simp [Tool.required])
    rw [hneed, ok_bind]
    dsimp only
    split
    · exact failsOpenly_ok _
    · rw [explain_eq_config_of_loadTable ht ha hchoice]
      exact failsOpenly_ok _

theorem answers_or_explains_of_run (ht : t ≠ .listConfigs) (h : w.run t a = .ok reply) :
    w.Answers a t reply ∨ w.Explains a t reply := by
  cases t with
  | listConfigs => exact absurd rfl ht
  | validateConfig =>
    rw [run, validateConfig] at h
    split at h
    · rename_i hload
      cases h
      exact Or.inl (.summary hload)
    · rename_i hload
      cases h
      exact Or.inr (.invalidConfig hload)
    · cases h
  | listGroups =>
    obtain ⟨config, hload, h⟩ := bind_eq_ok_iff.mp h
    cases h
    exact Or.inl (.groups hload)
  | listSources =>
    obtain ⟨config, hload, h⟩ := bind_eq_ok_iff.mp h
    obtain ⟨groups, hchosen, h⟩ := bind_eq_ok_iff.mp h
    cases h
    exact Or.inl (.sources hload (mem_of_chosenGroups hchosen))
  | describeSource =>
    obtain ⟨config, hload, h⟩ := bind_eq_ok_iff.mp h
    obtain ⟨id, -, h⟩ := bind_eq_ok_iff.mp h
    split at h
    · rename_i s hfound
      obtain rfl := Except.ok.inj h
      obtain ⟨name, -, hname⟩ := Option.bind_eq_some_iff.mp hfound
      exact Or.inl (.source hload (List.mem_of_find?_eq_some hname))
    · cases h
  | resolveReference =>
    obtain ⟨choice, hload, h⟩ := bind_eq_ok_iff.mp h
    obtain ⟨value, hneed, h⟩ := bind_eq_ok_iff.mp h
    have hgiven : a.get? "reference" = some value := by
      unfold Arguments.need at hneed
      split at hneed
      · cases hneed
        assumption
      · cases hneed
    split at h
    · rename_i reference
      split at h
      · rename_i n hresolve
        cases h
        exact Or.inl (.identifier hload hgiven hresolve)
      · rename_i e hresolve
        split at h
        · cases h
          exact Or.inr (.unresolved hload hgiven hresolve)
        · cases h
    · cases h

theorem explains_of_run_error {e : ToolError} (h : w.run t a = .error e) (he : e.Reported) :
    w.Explains a t (w.call t.name a) := by
  rw [call_name, h]
  dsimp only
  cases hreport : e.report with
  | notFound message => exact .notFound h hreport
  | invalid message => exact .invalid h hreport
  | internal kind message => exact absurd hreport (he kind message)

/-! A reply shows by its first character that it is not the bare kind of a failure. -/

theorem head?_of_answers (h : w.Answers a t reply) :
    ∃ c ∈ ['C', '#', '\x7b', '@'], reply.toList.head? = some c := by
  cases h with
  | summary load =>
    refine ⟨'C', by simp, ?_⟩
    iterate 4 apply head?_append
    rfl
  | groups load =>
    have hheader : Listing.groupsHeader.toList.head? = some '#' := by decide +kernel
    exact ⟨'#', by simp, head?_append hheader _⟩
  | sources load chosen =>
    have hheader : Listing.sourcesHeader.toList.head? = some '#' := by decide +kernel
    exact ⟨'#', by simp, head?_append hheader _⟩
  | source load found =>
    refine ⟨'\x7b', by simp, ?_⟩
    rw [Json.toText, String.toList_ofList]
    rfl
  | @identifier choice reference n load given resolves =>
    obtain ⟨rest, rfl⟩ := ResourceScope.start_of_resolveText resolves
    have hstart : (Text.toString (referenceStart ++ rest)).toList.head? = some '@' := by
      rw [Text.toString, String.toList_ofList]
      rfl
    refine ⟨'@', by simp, ?_⟩
    iterate 5 apply head?_append
    exact hstart

theorem head?_of_explains (h : w.Explains a t reply) :
    ∃ c ∈ ['F', 'V', 'I', 'S', 'R'], reply.toList.head? = some c := by
  cases h with
  | notFound fails report => exact ⟨'F', by simp, head?_append rfl _⟩
  | invalid fails report => exact ⟨'V', by simp, head?_append rfl _⟩
  | invalidConfig load => exact ⟨'I', by simp, head?_append rfl _⟩
  | unresolved load given fails =>
    rcases ResourceScope.error_of_resolveText fails with rfl | rfl
    · exact ⟨'S', by simp, ConversionError.head?_message _⟩
    · exact ⟨'R', by simp, ConversionError.head?_message _⟩

theorem ne_bare_of_head? {cs : List Char} (hcs : 'E' ∉ cs)
    (h : ∃ c ∈ cs, reply.toList.head? = some c) (kind : String) : reply ≠ "Error: " ++ kind := by
  rintro rfl
  obtain ⟨c, hc, hhead⟩ := h
  have hstart : ("Error: " ++ kind).toList.head? = some 'E' := head?_append rfl kind
  obtain rfl := Option.some.inj (hhead.symm.trans hstart)
  exact hcs hc

end Workspace

open Workspace in
/-- A call that meets its schema is answered or explained, whatever the files hold and the
settings are. It is never met with the bare kind of a failure. -/
theorem schema_valid_call_is_explained (w : Workspace) (t : Tool) (a : Arguments)
    (ht : t ≠ .listConfigs) (ha : a.MeetsSchema t) (hs : w.SystemServes t a) :
    (w.Answers a t (w.call t.name a) ∨ w.Explains a t (w.call t.name a)) ∧
      ∀ kind, w.call t.name a ≠ "Error: " ++ kind := by
  have hreply : w.Answers a t (w.call t.name a) ∨ w.Explains a t (w.call t.name a) := by
    cases hrun : w.run t a with
    | ok reply =>
      rw [call_name, hrun]
      exact answers_or_explains_of_run ht hrun
    | error e => exact Or.inr (explains_of_run_error hrun (failsOpenly_run ht ha hs e hrun))
  refine ⟨hreply, ?_⟩
  rcases hreply with hanswers | hexplains
  · exact ne_bare_of_head? (by decide) (head?_of_answers hanswers)
  · exact ne_bare_of_head? (by decide) (head?_of_explains hexplains)

namespace Workspace

/-- A document without sources is called invalid, by a call that the system serves. -/
theorem empty_document_is_explained :
    let a := Arguments.ofPath "/empty.xml"
    a.MeetsSchema .validateConfig ∧ shieldAndEmpty.SystemServes .validateConfig a ∧
      shieldAndEmpty.Explains a .validateConfig
        ("Invalid config: " ++ "Element safety-sources-config missing") ∧
      ∀ kind, shieldAndEmpty.call "validate_config" a ≠ "Error: " ++ kind := by
  intro a
  have hget : ∀ name, a.get? name =
      [("filepath", Json.ofString "/empty.xml")].lookup name := Arguments.get?_ofPath _
  have hschema : a.MeetsSchema .validateConfig := by
    refine ⟨?_, ?_⟩
    · intro name hname
      obtain rfl := List.mem_singleton.mp hname
      exact ⟨_, hget "filepath"⟩
    · intro p hp v hv
      rw [hget, List.lookup_cons] at hv
      split at hv
      · cases hv
        exact ⟨_, rfl⟩
      · cases hv
  have hserves : shieldAndEmpty.SystemServes .validateConfig a := by
    refine ⟨?_, ?_, ?_⟩
    · intro _ path hpath p hp
      obtain rfl : Text.ofString "/empty.xml" = path := by
        rw [hget] at hpath
        cases hpath
        rfl
      rw [PathText.ofText_ofString, PathText.ofString, if_neg (by decide)] at hp
      cases hp
      decide +kernel
    · intro path hpath _ p hp
      obtain rfl : Text.ofString "/table.json" = path := Json.text.inj hpath
      rw [PathText.ofText_ofString, PathText.ofString, if_neg (by decide)] at hp
      cases hp
      decide +kernel
    · intro path file cs container hpath hfile hdecode hread
      obtain rfl : Text.ofString "/table.json" = path := Json.text.inj hpath
      rw [FileStore.admitFileText_ofString, admitFile_table_shieldAndEmpty] at hfile
      cases hfile
      have hcharacters : Utf8.decode? (asciiBytes "\x7b\"app\": \x7b\x7d\x7d") =
          some "\x7b\"app\": \x7b\x7d\x7d".toList := by decide +kernel
      rw [hcharacters] at hdecode
      cases hdecode
      have hshallow : (Json.read "\x7b\"app\": \x7b\x7d\x7d".toList).isOk = true := by
        decide +kernel
      rw [hread] at hshallow
      cases hshallow
  obtain ⟨hreply, hbare⟩ :=
    schema_valid_call_is_explained shieldAndEmpty .validateConfig a (by decide) hschema hserves
  have hinvalid : shieldAndEmpty.call "validate_config" a =
      "Invalid config: " ++ "Element safety-sources-config missing" := by decide +kernel
  refine ⟨hschema, hserves, ?_, hbare⟩
  have hnoAnswer : ¬ shieldAndEmpty.Answers a .validateConfig
      (shieldAndEmpty.call "validate_config" a) := by
    intro hanswers
    obtain ⟨c, hc, hhead⟩ := head?_of_answers hanswers
    rw [hinvalid, head?_append rfl] at hhead
    obtain rfl := Option.some.inj hhead
    exact absurd hc (by decide)
  exact hinvalid ▸ hreply.resolve_left hnoAnswer

end Workspace

end SafetyConfig
