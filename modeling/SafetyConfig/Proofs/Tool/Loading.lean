import SafetyConfig.Proofs.Convert.DocumentOrder
import SafetyConfig.Proofs.Tool.Published

/-!
# Loading the configuration of a call

A call names a file, a table and a package. If the document in the file is parsed, loading ends
as parsing does; before that it fails for reasons that are no faults of the configuration.
-/

namespace SafetyConfig

/-- The calls name the same file, table and package; they may differ in all else. -/
def Arguments.SameConfig (a b : Arguments) : Prop :=
  ∀ name ∈ ["filepath", "resources", "package_name"], b.get? name = a.get? name

theorem Arguments.SameConfig.refl (a : Arguments) : a.SameConfig a :=
  fun _ _ => rfl

namespace Workspace

variable {w : Workspace} {a b : Arguments} {config : Config}

/-- The table that a call comes to, and from which its package is chosen. -/
def ChoosesTable (w : Workspace) (a : Arguments) (table : ResourceTable) : Prop :=
  ∃ file, (a.given "resources" w.settings.defaultResources).isGiven = true ∧
    w.admitFile (a.given "resources" w.settings.defaultResources) [".json"] = .ok file ∧
    ResourceTable.ofBytes file.bytes = .ok table

/-- The file, the table and the package that a call works with. -/
structure Admits (w : Workspace) (a : Arguments) (file : AdmittedFile) (choice : TableChoice) :
    Prop where
  file : ∃ path, a.need "filepath" = .ok path ∧ w.admitFile path [".xml"] = .ok file
  table : w.loadTable a = .ok choice

/-- The configuration of the document that a call names. -/
def Loads (w : Workspace) (a : Arguments) (config : Config) : Prop :=
  ∃ file choice root, w.Admits a file choice ∧ parse choice.scope file.bytes = .ok config ∧
    Markup.readDocument file.bytes = .ok root ∧ config.Follows choice.scope root

/-- Why there is none. -/
def Refuses (w : Workspace) (a : Arguments) (e : ParseError) : Prop :=
  ∃ file choice, w.Admits a file choice ∧ parse choice.scope file.bytes = .error e

/-- The package is chosen once the table is there. -/
theorem loadTable_of_choosesTable {table : ResourceTable} (h : w.ChoosesTable a table) :
    w.loadTable a = (w.choosePackage a table).map fun package => ⟨package, table⟩ := by
  obtain ⟨file, hgiven, hadmitted, htable⟩ := h
  rw [loadTable, if_neg (by simp [hgiven]), hadmitted, ok_bind, htable]
  dsimp only
  cases w.choosePackage a table <;> rfl

theorem loadTable_eq_ok_iff {choice : TableChoice} :
    w.loadTable a = .ok choice ↔
      w.ChoosesTable a choice.table ∧ w.choosePackage a choice.table = .ok choice.package := by
  constructor
  · intro h
    unfold loadTable at h
    by_cases hgiven : (a.given "resources" w.settings.defaultResources).isGiven = false
    · rw [if_pos hgiven] at h
      cases h
    · rw [if_neg hgiven] at h
      obtain ⟨file, hfile, h⟩ := bind_eq_ok_iff.mp h
      cases htable : ResourceTable.ofBytes file.bytes with
      | error fault =>
        rw [htable] at h
        cases h
      | ok table =>
        rw [htable] at h
        obtain ⟨package, hpackage, h⟩ := bind_eq_ok_iff.mp h
        cases h
        exact ⟨⟨file, by simpa using hgiven, hfile, htable⟩, hpackage⟩
  · rintro ⟨htable, hpackage⟩
    rw [loadTable_of_choosesTable htable, hpackage]
    rfl

theorem loadConfig_of_sameConfig (h : a.SameConfig b) : w.loadConfig b = w.loadConfig a := by
  have hneed : b.need "filepath" = a.need "filepath" := by
    rw [Arguments.need, Arguments.need, h _ (by simp)]
  have hgiven : ∀ name ∈ ["resources", "package_name"], ∀ default,
      b.given name default = a.given name default := by
    intro name hname default
    rw [Arguments.given, Arguments.given, h _ (List.mem_cons_of_mem _ hname)]
  have htable : w.loadTable b = w.loadTable a :=
    loadTable_eq_of_given rfl (hgiven _ (by simp) _) (hgiven _ (by simp) _)
  rw [loadConfig, loadConfig, hneed, htable]

theorem loadConfig_of_admits {file : AdmittedFile} {choice : TableChoice}
    (h : w.Admits a file choice) : w.loadConfig a = choice.parseConfig file.bytes := by
  obtain ⟨⟨path, hpath, hfile⟩, htable⟩ := h
  rw [loadConfig, hpath, ok_bind, hfile, ok_bind, htable, ok_bind]

/-! Only parsing gives a fault of the configuration: what comes before it fails otherwise. -/

/-- No fault of a configuration has been found. -/
def BeforeParsing {α : Type} (x : Except ToolError α) : Prop :=
  ∀ e, x ≠ .error (.config e)

theorem BeforeParsing.bind {α β : Type} {x : Except ToolError α} {f : α → Except ToolError β}
    (hx : BeforeParsing x) (hf : ∀ v, BeforeParsing (f v)) : BeforeParsing (x >>= f) := by
  intro e h
  rcases bind_eq_error_iff.mp h with hfault | ⟨v, -, hfault⟩
  · exact hx e hfault
  · exact hf v e hfault

theorem beforeParsing_need (name : String) : BeforeParsing (a.need name) := by
  unfold Arguments.need
  split <;> simp [BeforeParsing]

theorem beforeParsing_admitFile (path : Json) (allowed : List String) :
    BeforeParsing (w.admitFile path allowed) := by
  have htext : BeforeParsing (pathText (.file .embeddedNul) path) := by
    intro e
    unfold pathText
    split
    · simp
    · split <;> simp
    · split <;> simp
    · simp
  refine htext.bind fun text => ?_
  intro e
  split <;> simp

theorem beforeParsing_choosePackage (table : ResourceTable) :
    BeforeParsing (w.choosePackage a table) := by
  intro e
  simp only [choosePackage]
  by_cases hgiven : (a.given "package_name" w.settings.defaultPackage).isGiven = true
  · rw [if_pos hgiven]
    simp
  · rw [if_neg hgiven]
    split <;> simp

theorem beforeParsing_loadTable : BeforeParsing (w.loadTable a) := by
  unfold loadTable
  by_cases hgiven : (a.given "resources" w.settings.defaultResources).isGiven = false
  · rw [if_pos hgiven]
    intro e h
    cases h
  · rw [if_neg hgiven]
    refine (beforeParsing_admitFile _ _).bind fun file => ?_
    split
    · intro e
      simp
    · refine (beforeParsing_choosePackage _).bind fun package => ?_
      intro e
      exact pure_ne_error

theorem exists_admits_of_loadConfig_ok (h : w.loadConfig a = .ok config) :
    ∃ file choice, w.Admits a file choice ∧ choice.parseConfig file.bytes = .ok config := by
  obtain ⟨path, hpath, h⟩ := bind_eq_ok_iff.mp h
  obtain ⟨file, hfile, h⟩ := bind_eq_ok_iff.mp h
  obtain ⟨choice, htable, h⟩ := bind_eq_ok_iff.mp h
  exact ⟨file, choice, ⟨⟨path, hpath, hfile⟩, htable⟩, h⟩

theorem exists_admits_of_loadConfig_error {e : ParseError}
    (h : w.loadConfig a = .error (.config e)) :
    ∃ file choice, w.Admits a file choice ∧
      choice.parseConfig file.bytes = .error (.config e) := by
  rcases bind_eq_error_iff.mp h with hfault | ⟨path, hpath, h⟩
  · exact absurd hfault (beforeParsing_need _ e)
  rcases bind_eq_error_iff.mp h with hfault | ⟨file, hfile, h⟩
  · exact absurd hfault (beforeParsing_admitFile _ _ e)
  rcases bind_eq_error_iff.mp h with hfault | ⟨choice, htable, h⟩
  · exact absurd hfault (beforeParsing_loadTable e)
  · exact ⟨file, choice, ⟨⟨path, hpath, hfile⟩, htable⟩, h⟩

end Workspace

namespace TableChoice

variable {choice : TableChoice} {bytes : Bytes} {config : Config}

theorem parseConfig_eq_ok_iff :
    choice.parseConfig bytes = .ok config ↔ parse choice.scope bytes = .ok config := by
  unfold parseConfig
  cases parse choice.scope bytes with
  | ok c => simp
  | error e => cases e <;> simp

theorem explain_eq_config {e : ConversionError} {fault : ParseError}
    (h : choice.explain e = .config fault) : fault = .rejected e := by
  unfold explain at h
  split at h
  · split at h
    · cases h
    · cases h
      rfl
  · cases h
    rfl

theorem parse_of_parseConfig {e : ParseError}
    (h : choice.parseConfig bytes = .error (.config e)) :
    parse choice.scope bytes = .error e := by
  unfold parseConfig at h
  cases hparse : parse choice.scope bytes with
  | ok c => simp [hparse] at h
  | error fault =>
    cases fault with
    | unreadable fault =>
      simp only [hparse, Except.error.injEq, ToolError.config.injEq] at h
      rw [h]
    | rejected fault =>
      simp only [hparse, Except.error.injEq] at h
      rw [explain_eq_config h]

end TableChoice

namespace Workspace

variable {w : Workspace} {a b : Arguments} {config : Config} {fault : ToolError}

theorem loads_of_loadConfig (h : w.loadConfig a = .ok config) : w.Loads a config := by
  obtain ⟨file, choice, hadmits, hparse⟩ := exists_admits_of_loadConfig_ok h
  rw [TableChoice.parseConfig_eq_ok_iff] at hparse
  obtain ⟨root, hdocument, hfollows⟩ := follows_of_parse hparse
  exact ⟨file, choice, root, hadmits, hparse, hdocument, hfollows⟩

theorem loadConfig_of_loads (h : w.Loads a config) : w.loadConfig a = .ok config := by
  obtain ⟨file, choice, -, hadmits, hparse, -⟩ := h
  rw [loadConfig_of_admits hadmits, TableChoice.parseConfig_eq_ok_iff]
  exact hparse

theorem refuses_of_loadConfig {e : ParseError} (h : w.loadConfig a = .error (.config e)) :
    w.Refuses a e := by
  obtain ⟨file, choice, hadmits, hparse⟩ := exists_admits_of_loadConfig_error h
  exact ⟨file, choice, hadmits, TableChoice.parse_of_parseConfig hparse⟩

/-- All that loading can come to: a configuration, a fault of it, or another failure. -/
inductive LoadCourse (w : Workspace) (a : Arguments) : Prop
  | config (c : Config) (h : w.loadConfig a = .ok c)
  | refused (e : ParseError) (h : w.loadConfig a = .error (.config e))
  | failed (fault : ToolError) (h : w.loadConfig a = .error fault)
      (hfault : ∀ e, fault ≠ .config e)

theorem loadCourse (w : Workspace) (a : Arguments) : LoadCourse w a := by
  cases h : w.loadConfig a with
  | ok c => exact .config c h
  | error fault =>
    by_cases hfault : ∃ e, fault = .config e
    · obtain ⟨e, rfl⟩ := hfault
      exact .refused e h
    · exact .failed fault h fun e he => hfault ⟨e, he⟩

end Workspace

end SafetyConfig
