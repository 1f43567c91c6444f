import SafetyConfig.Proofs.Convert.Message
import SafetyConfig.Proofs.Tool.Loading

/-!
# Tools that agree on a file

Four tools work on the configuration that a call names. Whether it can be loaded is settled
before they part, so they have to agree on it: they count and list the same groups and
sources, or they show the same message, or the same failure. A published summary goes by the
same configuration.
-/

namespace SafetyConfig

/-- The arguments of a call that names a file and nothing else. -/
def Arguments.ofPath (path : String) : Arguments :=
  ⟨Json.record [("filepath", .ofString path)]⟩

theorem Arguments.get?_ofPath (path name : String) :
    (ofPath path).get? name = [("filepath", Json.ofString path)].lookup name :=
  Json.field?_record _ _

/-- The numbers of sources in the groups, added up. -/
def Config.sourceTotal (config : Config) : Nat :=
  config.groups.foldr (fun g total => g.sources.length + total) 0

theorem Config.length_sources (config : Config) : config.sources.length = config.sourceTotal := by
  obtain ⟨groups⟩ := config
  simp only [Config.sources, sourceTotal]
  induction groups with
  | nil => rfl
  | cons g groups ih => rw [List.flatMap_cons, List.length_append, ih, List.foldr_cons]

namespace Workspace

variable {w : Workspace} {a b : Arguments} {config : Config} {fault : ToolError}

/-! What the tools answer with, by how loading ends. -/

/-- The tools count the groups and sources of a configuration, and list each of them in a row
of its own, groups with their numbers and those of their sources. -/
structure ShowsConfig (w : Workspace) (a : Arguments) (config : Config) : Prop where
  validate : w.call "validate_config" a =
    "Config valid: " ++ Listing.count config.groups.length ++ " group(s), " ++
      Listing.count config.sourceTotal ++ " source(s)"
  groups : ∃ rows : List String, rows.length = config.groups.length ∧
    w.call "list_groups" a = Listing.groupsHeader ++ String.join rows ∧
    ∀ i g, config.groups[i]? = some g →
      rows[i]? = some (Listing.row [Listing.count (i + 1), g.id, ResourceId.format g.title,
        ResourceId.format g.summary, g.icon.label, Listing.count g.sources.length])
  sources : ∀ b, a.SameConfig b → (∀ id, b.get? "group_id" = some id → id.isGiven = false) →
    ∃ rows : List String, rows.length = config.sourceTotal ∧
      w.call "list_sources" b = Listing.sourcesHeader ++ String.join rows ∧
      rows = config.groups.flatMap fun g => g.sources.map (Listing.sourceRow g)

/-- One tool calls the configuration invalid, and the others fail over the same message. -/
structure ShowsRejection (w : Workspace) (a : Arguments) (message : String) : Prop where
  validate : w.call "validate_config" a = "Invalid config: " ++ message
  others : ∀ b, a.SameConfig b → ∀ name ∈ ["list_groups", "list_sources", "describe_source"],
    w.call name b = "Validation error: " ++ message

/-- All of the tools fail alike. -/
structure ShowsFailure (w : Workspace) (a : Arguments) (text : String) : Prop where
  start : ∃ start ∈ ["File not found: ", "Validation error: ", "Error: "],
    ∃ rest, text = start ++ rest
  replies : ∀ b, a.SameConfig b →
    ∀ name ∈ ["validate_config", "list_groups", "list_sources", "describe_source"],
      w.call name b = text

/-! What each tool says. -/

theorem call_name (w : Workspace) (t : Tool) (a : Arguments) :
    w.call t.name a = match w.run t a with
      | .ok reply => reply
      | .error e => e.report.reply := by
  cases hrun : w.run t a with
  | ok reply => simp only [call, Tool.ofName?_name, hrun]
  | error fault => simp only [call, Tool.ofName?_name, hrun]

/-- The tools that take a failure to load as their own. -/
theorem call_of_error (h : w.loadConfig b = .error fault) :
    ∀ name ∈ ["list_groups", "list_sources", "describe_source"],
      w.call name b = fault.report.reply := by
  intro name hname
  have hrun : ∀ t : Tool, w.run t b = .error fault → w.call t.name b = fault.report.reply := by
    intro t ht
    rw [call_name, ht]
  simp only [List.mem_cons, List.not_mem_nil, or_false] at hname
  rcases hname with rfl | rfl | rfl
  · refine hrun .listGroups ?_
    rw [run, listGroups, h]
    rfl
  · refine hrun .listSources ?_
    rw [run, listSources, h]
    rfl
  · refine hrun .describeSource ?_
    rw [run, describeSource, h]
    rfl

theorem call_validateConfig (a : Arguments) :
    w.call "validate_config" a = match w.loadConfig a with
      | .ok config => Listing.summary config
      | .error (.config e) => "Invalid config: " ++ e.message
      | .error fault => fault.report.reply := by
  have hcall := call_name w .validateConfig a
  rw [run, validateConfig] at hcall
  cases hload : w.loadConfig a with
  | ok config =>
    rw [hload] at hcall
    exact hcall
  | error fault =>
    rw [hload] at hcall
    cases fault <;> exact hcall

/-- Without an id, all groups are listed. -/
theorem chosenGroups_all (h : ∀ id, a.get? "group_id" = some id → id.isGiven = false) :
    chosenGroups config a = .ok config.groups := by
  unfold chosenGroups
  split
  · rfl
  · rename_i id hget
    rw [if_pos (h id hget)]

theorem showsConfig_of_loadConfig (h : w.loadConfig a = .ok config) : w.ShowsConfig a config := by
  refine ⟨?_, ?_, ?_⟩
  · rw [call_validateConfig, h, ← Config.length_sources]
    rfl
  · refine ⟨config.groups.mapIdx fun i g => Listing.groupRow (i + 1) g, by simp, ?_, ?_⟩
    · have hcall := call_name w .listGroups a
      rw [run, listGroups, h] at hcall
      exact hcall
    · intro i g hg
      rw [List.getElem?_mapIdx, hg]
      rfl
  · intro b hsame hid
    refine ⟨config.groups.flatMap fun g => g.sources.map (Listing.sourceRow g), ?_, ?_, rfl⟩
    · rw [← Config.length_sources, Config.sources]
      simp only [List.length_flatMap, List.length_map]
    · have hcall := call_name w .listSources b
      rw [run, listSources, loadConfig_of_sameConfig hsame, h, ok_bind, chosenGroups_all hid]
        at hcall
      exact hcall

theorem showsRejection_of_loadConfig {e : ParseError} (h : w.loadConfig a = .error (.config e)) :
    w.ShowsRejection a e.message := by
  refine ⟨?_, ?_⟩
  · rw [call_validateConfig, h]
  · intro b hsame
    rw [← loadConfig_of_sameConfig hsame] at h
    exact call_of_error h

theorem exists_start_of_reply (report : FailureReport) :
    ∃ start ∈ ["File not found: ", "Validation error: ", "Error: "],
      ∃ rest, report.reply = start ++ rest := by
  cases report with
  | notFound message => exact ⟨_, by simp, message, rfl⟩
  | invalid message => exact ⟨_, by simp, message, rfl⟩
  | internal kind message => exact ⟨_, by simp, kind, rfl⟩

theorem showsFailure_of_loadConfig (h : w.loadConfig a = .error fault)
    (hfault : ∀ e, fault ≠ .config e) : w.ShowsFailure a fault.report.reply := by
  refine ⟨exists_start_of_reply _, ?_⟩
  intro b hsame name hname
  rw [← loadConfig_of_sameConfig hsame] at h
  rcases List.mem_cons.mp hname with rfl | hname
  · rw [call_validateConfig, h]
    cases fault with
    | config e => exact absurd rfl (hfault e)
    | _ => rfl
  · exact call_of_error h name hname

/-! The three stories start with different letters. -/

theorem ShowsConfig.head? (h : w.ShowsConfig a config) :
    (w.call "validate_config" a).toList.head? = some 'C' := by
  rw [h.validate]
  iterate 4 apply head?_append
  rfl

theorem ShowsRejection.head? {message : String} (h : w.ShowsRejection a message) :
    (w.call "validate_config" a).toList.head? = some 'I' := by
  rw [h.validate]
  exact head?_append rfl _

theorem ShowsFailure.head? {text : String} (h : w.ShowsFailure a text) :
    ∃ c ∈ ['F', 'V', 'E'], (w.call "validate_config" a).toList.head? = some c := by
  obtain ⟨start, hstart, rest, rfl⟩ := h.start
  rw [h.replies a (Arguments.SameConfig.refl a) _ (by simp)]
  simp only [List.mem_cons, List.not_mem_nil, or_false] at hstart
  rcases hstart with rfl | rfl | rfl
  · exact ⟨'F', by simp, head?_append rfl _⟩
  · exact ⟨'V', by simp, head?_append rfl _⟩
  · exact ⟨'E', by simp, head?_append rfl _⟩

theorem not_showsRejection_of_showsConfig {message : String} (h : w.ShowsConfig a config) :
    ¬ w.ShowsRejection a message := by
  intro hrejection
  have hsame := h.head?.symm.trans hrejection.head?
  exact absurd hsame (by decide)

theorem not_showsFailure_of_showsConfig {text : String} (h : w.ShowsConfig a config) :
    ¬ w.ShowsFailure a text := by
  intro hfailure
  obtain ⟨c, hc, hhead⟩ := hfailure.head?
  have hsame : c = 'C' := Option.some.inj (hhead.symm.trans h.head?)
  rw [hsame] at hc
  exact absurd hc (by decide)

theorem not_showsFailure_of_showsRejection {message text : String}
    (h : w.ShowsRejection a message) : ¬ w.ShowsFailure a text := by
  intro hfailure
  obtain ⟨c, hc, hhead⟩ := hfailure.head?
  have hsame : c = 'I' := Option.some.inj (hhead.symm.trans h.head?)
  rw [hsame] at hc
  exact absurd hc (by decide)

/-! The published summary of the same file. -/

theorem addressedPath_of_path {path : String} (h : ¬ addressStart <:+: path.toList) :
    addressedPath ("file://" ++ path) = path := by
  have hstart : ("file://" ++ path).toList = addressStart ++ path.toList := String.toList_append
  rw [addressedPath, hstart, withoutWord_append (by decide), withoutWord_of_not_infix h,
    String.ofList_toList]

theorem readAddress_of_path {path : String} (h : ¬ addressStart <:+: path.toList) :
    w.readAddress ("file://" ++ path) = answer path (w.loadConfig (.ofPath path)) := by
  rw [readAddress, addressedPath_of_path h]
  rfl

theorem readAddress_of_loads {path : String} (hpath : ¬ addressStart <:+: path.toList)
    (h : w.Loads (.ofPath path) config) :
    w.readAddress ("file://" ++ path) = .ok (
      "Safety Center Config: " ++ String.ofList (Path.ofString path).name ++
        "\nGroups: " ++ Listing.count config.groups.length ++
        "\nSources: " ++ Listing.count config.sourceTotal ++ "\nPath: " ++ path) := by
  rw [readAddress_of_path hpath, loadConfig_of_loads h, ← Config.length_sources]
  rfl

/-- Only a fault of the configuration makes it invalid. -/
theorem exists_config_fault_of_validate {message : String}
    (h : w.call "validate_config" a = "Invalid config: " ++ message) :
    ∃ e, w.loadConfig a = .error (.config e) ∧ e.message = message := by
  have hhead : (w.call "validate_config" a).toList.head? = some 'I' := by
    rw [h]
    exact head?_append rfl _
  cases loadCourse w a with
  | config c hload =>
    rw [(showsConfig_of_loadConfig hload).head?] at hhead
    exact absurd hhead (by decide)
  | refused e hload =>
    have hsame := (showsRejection_of_loadConfig hload).validate.symm.trans h
    exact ⟨e, hload, (String.append_right_inj "Invalid config: ").mp hsame⟩
  | failed fault hload hfault =>
    obtain ⟨c, hc, hother⟩ := (showsFailure_of_loadConfig hload hfault).head?
    rw [hhead] at hother
    obtain rfl := Option.some.inj hother
    exact absurd hc (by decide)

theorem readAddress_of_showsRejection {path message : String}
    (hpath : ¬ addressStart <:+: path.toList) (h : w.ShowsRejection (.ofPath path) message) :
    w.readAddress ("file://" ++ path) = .ok message := by
  obtain ⟨e, hload, rfl⟩ := exists_config_fault_of_validate h.validate
  rw [readAddress_of_path hpath, hload]
  rfl

end Workspace

open Workspace in
/-- Exactly one of three stories is told about a file, and by all tools. Either there is a
configuration that follows its document, and its groups and sources are counted and listed; or
the document is refused, and all show why; or all of them fail, and show the same. What is read
at the address of the file has the same numbers in the first case, and in the second the same
message and nothing else. -/
theorem tools_tell_one_story (w : Workspace) (a : Arguments) :
    (((∃ config, w.Loads a config ∧ w.ShowsConfig a config) ∧
        (∀ message, ¬ w.ShowsRejection a message) ∧ ∀ text, ¬ w.ShowsFailure a text) ∨
      ((∃ e, w.Refuses a e ∧ w.ShowsRejection a (messageChain e.messages)) ∧
        (∀ config, ¬ w.ShowsConfig a config) ∧ ∀ text, ¬ w.ShowsFailure a text) ∨
      ((∃ text, w.ShowsFailure a text) ∧
        (∀ config, ¬ w.ShowsConfig a config) ∧ ∀ message, ¬ w.ShowsRejection a message)) ∧
    ∀ path : String, ¬ addressStart <:+: path.toList → a = .ofPath path →
      (∀ config, w.Loads a config → w.readAddress ("file://" ++ path) = .ok (
        "Safety Center Config: " ++ String.ofList (Path.ofString path).name ++
          "\nGroups: " ++ Listing.count config.groups.length ++
          "\nSources: " ++ Listing.count config.sourceTotal ++ "\nPath: " ++ path)) ∧
      ∀ message, w.ShowsRejection a message → w.readAddress ("file://" ++ path) = .ok message := by
  constructor
  · cases loadCourse w a with
    | config config hload =>
      have hshows := showsConfig_of_loadConfig hload
      refine Or.inl ⟨⟨config, loads_of_loadConfig hload, hshows⟩, ?_, ?_⟩
      · intro message
        exact not_showsRejection_of_showsConfig hshows
      · intro text
        exact not_showsFailure_of_showsConfig hshows
    | refused e hload =>
      have hshows := showsRejection_of_loadConfig hload
      refine Or.inr (Or.inl ⟨⟨e, refuses_of_loadConfig hload, hshows⟩, ?_, ?_⟩)
      · intro config hconfig
        exact not_showsRejection_of_showsConfig hconfig hshows
      · intro text
        exact not_showsFailure_of_showsRejection hshows
    | failed fault hload hfault =>
      have hshows := showsFailure_of_loadConfig hload hfault
      refine Or.inr (Or.inr ⟨⟨_, hshows⟩, ?_, ?_⟩)
      · intro config hconfig
        exact not_showsFailure_of_showsConfig hconfig hshows
      · intro message hrejection
        exact not_showsFailure_of_showsRejection hrejection hshows
  · rintro path hpath rfl
    constructor
    · intro config hloads
      exact readAddress_of_loads hpath hloads
    · intro message hshows
      exact readAddress_of_showsRejection hpath hshows

namespace Workspace

/-- Beside a configuration with one source stands a document that has none. -/
def shieldAndEmpty : Workspace :=
  ⟨bareFiles.add ["empty.xml".toList] (.file emptyConfigBytes) (by decide +kernel),
    ⟨"/", "/table.json", ""⟩⟩

theorem admitFile_table_shieldAndEmpty :
    shieldAndEmpty.files.admitFile "/table.json" [".json"] =
      .ok ⟨["table.json".toList], asciiBytes "\x7b\"app\": \x7b\x7d\x7d"⟩ := by
  decide +kernel

/-- The source is counted and published; the other document is refused with one message. -/
theorem shield_and_empty_tell_one_story :
    let config : Config :=
      ⟨[⟨"g", 0, 0, .none, [⟨.static, "shield", none, 0, 0, 0, some "open", .primary,
        .unspecified, none, 0, none, false, false⟩]⟩]⟩
    let missing := "Element safety-sources-config missing"
    shieldAndEmpty.Loads (.ofPath "/shield.xml") config ∧
    shieldAndEmpty.readAddress ("file://" ++ "/shield.xml") =
      .ok "Safety Center Config: shield.xml\nGroups: 1\nSources: 1\nPath: /shield.xml" ∧
    shieldAndEmpty.ShowsRejection (.ofPath "/empty.xml") missing ∧
    shieldAndEmpty.readAddress ("file://" ++ "/empty.xml") = .ok missing := by
  intro config missing
  have hshield : shieldAndEmpty.loadConfig (.ofPath "/shield.xml") = .ok config := by
    have hsome : (shieldAndEmpty.loadConfig (.ofPath "/shield.xml")).toOption = some config := by
      decide +kernel
    exact eq_ok_of_toOption hsome
  have hloads := loads_of_loadConfig hshield
  have hempty : shieldAndEmpty.call "validate_config" (.ofPath "/empty.xml") =
      "Invalid config: " ++ missing := by decide +kernel
  obtain ⟨e, hfault, hmissing⟩ := exists_config_fault_of_validate hempty
  have hrejection : shieldAndEmpty.ShowsRejection (.ofPath "/empty.xml") missing :=
    hmissing ▸ showsRejection_of_loadConfig hfault
  obtain ⟨-, hsummary⟩ := tools_tell_one_story shieldAndEmpty (.ofPath "/shield.xml")
  obtain ⟨-, hmessage⟩ := tools_tell_one_story shieldAndEmpty (.ofPath "/empty.xml")
  refine ⟨hloads, ?_, hrejection, ?_⟩
  · have hread := (hsummary "/shield.xml" (by decide +kernel) rfl).1 config hloads
    rw [hread]
    exact congrArg Except.ok (by decide +kernel)
  · exact (hmessage "/empty.xml" (by decide +kernel) rfl).2 missing hrejection

end Workspace

end SafetyConfig
