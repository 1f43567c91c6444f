import SafetyConfig.Proofs.Tool.Agreement
import SafetyConfig.Proofs.Tool.Isolation

/-!
# Defaults are explicit arguments

What the settings stand in for could as well have been given with the call, and the only package
of a table as well. If both are given, the settings have no say; if the package is open, no
configuration is looked into.
-/

namespace SafetyConfig

namespace Arguments

variable {a b : Arguments} {name other : String} {v : Json}

/-- The arguments with one of them set. -/
def put (a : Arguments) (name : String) (v : Json) : Arguments :=
  match a.value with
  | .object fields => ⟨.object (Json.putField (Text.ofString name) v fields)⟩
  | _ => ⟨Json.record [(name, v)]⟩

theorem get?_put_self : (a.put name v).get? name = some v := by
  unfold put
  split
  · exact Json.lookup_putField_self _ _ _
  · simp [get?, Json.field?_record]

theorem get?_put_of_ne (h : other ≠ name) : (a.put name v).get? other = a.get? other := by
  have htext : Text.ofString other ≠ Text.ofString name := fun he => h (Text.ofString_injective he)
  unfold put
  split
  · rename_i fields hfields
    rw [get?, get?, hfields]
    exact Json.lookup_putField_of_ne v fields htext
  · rename_i hno
    have hnone : a.get? other = none := by
      unfold get? Json.field?
      split
      · rename_i fields hfields
        exact absurd hfields (hno fields)
      · rfl
    rw [hnone, get?, Json.field?_record, List.lookup_cons, beq_eq_false_iff_ne.mpr h]
    rfl

/-- An argument is absent, or it counts as not given. -/
def Leaves (a : Arguments) (name : String) : Prop :=
  ∀ v, a.get? name = some v → v.isGiven = false

theorem leaves_ofPath (path : String) (h : name ≠ "filepath") : (ofPath path).Leaves name := by
  intro v hv
  rw [get?_ofPath, List.lookup_cons, beq_eq_false_iff_ne.mpr h] at hv
  cases hv

/-- An argument is there and counts as given. -/
def Gives (a : Arguments) (name : String) : Prop :=
  ∃ v, a.get? name = some v ∧ v.isGiven = true

theorem given_of_leaves (h : a.Leaves name) (default : String) :
    a.given name default = .ofString default := by
  unfold given
  split
  · rename_i v hv
    rw [if_neg (by simp [h v hv])]
  · rfl

theorem given_put_self (hv : v.isGiven = true) (default : String) :
    (a.put name v).given name default = v := by
  rw [given, get?_put_self]
  exact if_pos hv

theorem given_put_of_ne (h : other ≠ name) (default : String) :
    (a.put name v).given other default = a.given other default := by
  rw [given, given, get?_put_of_ne h]

/-- What is given is given whatever the default is. -/
theorem given_of_gives (h : a.Gives name) (default default' : String) :
    a.given name default = a.given name default' := by
  obtain ⟨v, hv, hgiven⟩ := h
  simp only [given, hv, hgiven, if_true]

/-- The calls ask for the same; they may differ in their tables and packages. -/
def SameRequest (a b : Arguments) : Prop :=
  ∀ name, name ≠ "resources" → name ≠ "package_name" → b.get? name = a.get? name

theorem sameRequest_put_resources (v : Json) :
    a.SameRequest (a.put "resources" v) :=
  fun _ hresources _ => get?_put_of_ne hresources

theorem sameRequest_put_package (v : Json) :
    a.SameRequest (a.put "package_name" v) :=
  fun _ _ hpackage => get?_put_of_ne hpackage

end Arguments

theorem isGiven_ofString {s : String} (h : s ≠ "") : (Json.ofString s).isGiven = true := by
  have hne : s.toList ≠ [] := by simpa using h
  simpa [Json.ofString, Json.isGiven, Text.ofString] using hne

namespace Workspace

variable {w w' : Workspace} {t : Tool} {a b : Arguments} {table : ResourceTable}

/-- The workspaces refuse the same paths, and alike. What is in the files they admit may differ. -/
def AdmitsLike (w w' : Workspace) : Prop :=
  ∀ path, (w'.admitFile path [".xml"]).map (·.location) =
    (w.admitFile path [".xml"]).map (·.location)

/-- Other bytes in a file are not noticed by admitting alone, as long as there are not too many. -/
theorem admitsLike_rewrite {l : Location} {old new : Bytes}
    (h : w.files.at? l = some (.file old)) (hold : old.length ≤ maxFileBytes)
    (hnew : new.length ≤ maxFileBytes) : w.AdmitsLike (w.rewrite h new) := by
  intro path
  simp only [admitFile]
  cases pathText (.file .embeddedNul) path with
  | error e => rfl
  | ok text =>
    have hsame := FileStore.map_location_admitFileText_replace h hold hnew text [".xml"]
    rw [ok_bind, ok_bind, rewrite]
    generalize w.files.admitFileText text [".xml"] = x,
      (w.files.replace l old new h).admitFileText text [".xml"] = y at hsame
    cases x <;> cases y <;> simp_all [Except.map]

/-! A call is its request, the table and what the files are. -/

theorem need_of_sameRequest {name : String} (h : a.SameRequest b) (hresources : name ≠ "resources")
    (hpackage : name ≠ "package_name") : b.need name = a.need name := by
  rw [Arguments.need, Arguments.need, h name hresources hpackage]

theorem run_congr (ht : t ≠ .listConfigs) (h : a.SameRequest b)
    (hload : w'.loadConfig b = w.loadConfig a) (htable : w'.loadTable b = w.loadTable a) :
    w'.run t b = w.run t a := by
  cases t with
  | listConfigs => exact absurd rfl ht
  | validateConfig => rw [run, run, validateConfig, validateConfig, hload]
  | listGroups => rw [run, run, listGroups, listGroups, hload]
  | listSources =>
    have hgroups : ∀ config, chosenGroups config b = chosenGroups config a := by
      intro config
      rw [chosenGroups, chosenGroups, h "group_id" (by decide) (by decide)]
    simp only [run, listSources, hload, hgroups]
  | describeSource =>
    have hneed : b.need "source_id" = a.need "source_id" :=
      need_of_sameRequest h (by decide) (by decide)
    rw [run, run, describeSource, describeSource, hload, hneed]
  | resolveReference =>
    have hneed : b.need "reference" = a.need "reference" :=
      need_of_sameRequest h (by decide) (by decide)
    rw [run, run, resolveReference, resolveReference, htable, hneed]

theorem loadConfig_congr (hfiles : w'.files = w.files) (h : a.SameRequest b)
    (htable : w'.loadTable b = w.loadTable a) : w'.loadConfig b = w.loadConfig a := by
  have hneed : b.need "filepath" = a.need "filepath" :=
    need_of_sameRequest h (by decide) (by decide)
  have hadmitted : ∀ path, w'.admitFile path [".xml"] = w.admitFile path [".xml"] := by
    intro path
    rw [admitFile, admitFile, hfiles]
  simp only [loadConfig, hneed, hadmitted, htable]

theorem call_congr (ht : t ≠ .listConfigs) (hfiles : w'.files = w.files) (h : a.SameRequest b)
    (htable : w'.loadTable b = w.loadTable a) : w'.call t.name b = w.call t.name a := by
  rw [call_name, call_name, run_congr ht h (loadConfig_congr hfiles h htable) htable]

/-! What a table leaves open. -/

theorem choosePackage_of_gives {package : Json}
    (h : a.given "package_name" w.settings.defaultPackage = package)
    (hgiven : package.isGiven = true) : w.choosePackage a table = .ok package := by
  simp only [choosePackage, h, hgiven, if_true]

theorem choosePackage_of_leaves (h : a.Leaves "package_name")
    (hdefault : w.settings.defaultPackage = "") :
    w.choosePackage a table =
      match table.packageNames with
      | [only] => .ok (.text only)
      | names => .error (.packageOpen names.length) := by
  have hempty : a.given "package_name" w.settings.defaultPackage = .text [] := by
    rw [Arguments.given_of_leaves h, hdefault]
    rfl
  simp only [choosePackage, hempty]
  rfl

theorem loadTable_eq_packageOpen (h : w.ChoosesTable a table) (hleaves : a.Leaves "package_name")
    (hdefault : w.settings.defaultPackage = "") (hmany : table.packageNames.length ≠ 1) :
    w.loadTable a = .error (.packageOpen table.packageNames.length) := by
  rw [loadTable_of_choosesTable h, choosePackage_of_leaves hleaves hdefault]
  split
  · rename_i only honly
    rw [honly] at hmany
    exact absurd rfl hmany
  · rfl

theorem choosesTable_of_leaves {file : AdmittedFile} (hleaves : a.Leaves "resources")
    (hdefault : w.settings.defaultResources ≠ "")
    (hfile : w.files.admitFile w.settings.defaultResources [".json"] = .ok file)
    (htable : ResourceTable.ofBytes file.bytes = .ok table) : w.ChoosesTable a table := by
  refine ⟨file, ?_, ?_, htable⟩
  · rw [Arguments.given_of_leaves hleaves]
    exact isGiven_ofString hdefault
  · rw [Arguments.given_of_leaves hleaves, admitFile_ofString, mapError_eq_ok_iff]
    exact hfile

/-- If the table cannot be loaded, only admission is left for a file to decide. -/
theorem loadConfig_of_admitsLike {e : ToolError} (h : w.AdmitsLike w')
    (htable : w.loadTable a = .error e) (htable' : w'.loadTable a = .error e) :
    w'.loadConfig a = w.loadConfig a := by
  rw [loadConfig, loadConfig, htable, htable']
  cases a.need "filepath" with
  | error fault => rfl
  | ok path =>
    rw [ok_bind, ok_bind]
    have hsame := h path
    generalize w.admitFile path [".xml"] = x, w'.admitFile path [".xml"] = y at hsame ⊢
    cases x <;> cases y <;> simp only [Except.map, Except.error.injEq, reduceCtorEq] at hsame
    · rw [hsame]
    · rfl

theorem run_of_loadTable_error (ht : t ≠ .listConfigs)
    (hfile : Tool.filepath ∈ t.parameters → ∃ path file, a.get? "filepath" = some path ∧
      w.admitFile path [".xml"] = .ok file)
    {packages : Nat} (h : w.loadTable a = .error (.packageOpen packages)) :
    w.run t a = .error (.packageOpen packages) := by
  have hload : Tool.filepath ∈ t.parameters →
      w.loadConfig a = .error (.packageOpen packages) := by
    intro hp
    obtain ⟨path, file, hpath, hadmitted⟩ := hfile hp
    have hneed : a.need "filepath" = .ok path := by
      rw [Arguments.need, hpath]
    rw [loadConfig, hneed, ok_bind, hadmitted, ok_bind, h]
    rfl
  cases t with
  | listConfigs => exact absurd rfl ht
  | validateConfig => rw [run, validateConfig, hload (.head _)]
  | listGroups =>
    rw [run, listGroups, hload (.head _)]
    rfl
  | listSources =>
    rw [run, listSources, hload (.head _)]
    rfl
  | describeSource =>
    rw [run, describeSource, hload (.head _)]
    rfl
  | resolveReference =>
    rw [run, resolveReference, h]
    rfl

end Workspace

open Workspace in
/-- A call comes to the same if what stands in for its arguments is given with it: the default
table, the default package, or the only package of the table. If there are other numbers of
packages to choose from, that is what the call fails over, whatever is in the configuration. If
table and package are given, all settings give the same answer. -/
theorem defaults_are_explicit_arguments (w : Workspace) (t : Tool) (a : Arguments)
    (ht : t ≠ .listConfigs) :
    (a.Leaves "resources" → w.settings.defaultResources ≠ "" →
      w.call t.name a =
        w.call t.name (a.put "resources" (.ofString w.settings.defaultResources))) ∧
    (a.Leaves "package_name" → w.settings.defaultPackage ≠ "" →
      w.call t.name a =
        w.call t.name (a.put "package_name" (.ofString w.settings.defaultPackage))) ∧
    (∀ table, w.ChoosesTable a table → a.Leaves "package_name" → w.settings.defaultPackage = "" →
      (∀ package, table.packageNames = [package] → package ≠ [] →
        w.call t.name a = w.call t.name (a.put "package_name" (.text package))) ∧
      (table.packageNames.length ≠ 1 →
        (∀ w' : Workspace, w'.settings = w.settings → w.AdmitsLike w' → w'.ChoosesTable a table →
          w'.call t.name a = w.call t.name a) ∧
        ((Tool.filepath ∈ t.parameters → ∃ path file, a.get? "filepath" = some path ∧
            w.admitFile path [".xml"] = .ok file) →
          w.call t.name a = "Validation error: " ++
            ("package_name is required when the resource table holds " ++
              Listing.count table.packageNames.length ++ " packages")))) ∧
    (a.Gives "resources" → a.Gives "package_name" →
      ∀ w' : Workspace, w'.files = w.files → w'.call t.name a = w.call t.name a) := by
  refine ⟨?_, ?_, ?_, ?_⟩
  · intro hleaves hdefault
    refine (call_congr ht rfl (Arguments.sameRequest_put_resources _) ?_).symm
    refine loadTable_eq_of_given rfl ?_ (Arguments.given_put_of_ne (by decide) _)
    rw [Arguments.given_put_self (isGiven_ofString hdefault), Arguments.given_of_leaves hleaves]
  · intro hleaves hdefault
    refine (call_congr ht rfl (Arguments.sameRequest_put_package _) ?_).symm
    refine loadTable_eq_of_given rfl (Arguments.given_put_of_ne (by decide) _) ?_
    rw [Arguments.given_put_self (isGiven_ofString hdefault), Arguments.given_of_leaves hleaves]
  · intro table hchooses hleaves hdefault
    refine ⟨?_, ?_⟩
    · intro package honly hpackage
      refine (call_congr ht rfl (Arguments.sameRequest_put_package _) ?_).symm
      have hgiven : (Json.text package).isGiven = true := by
        simpa [Json.isGiven] using hpackage
      have hchooses' : w.ChoosesTable (a.put "package_name" (.text package)) table := by
        rw [ChoosesTable, Arguments.given_put_of_ne (by decide)]
        exact hchooses
      rw [loadTable_of_choosesTable hchooses', loadTable_of_choosesTable hchooses,
        choosePackage_of_gives (Arguments.given_put_self hgiven _) hgiven,
        choosePackage_of_leaves hleaves hdefault, honly]
    · intro hmany
      have hopen := loadTable_eq_packageOpen hchooses hleaves hdefault hmany
      refine ⟨?_, ?_⟩
      · intro w' hsettings hlike hchooses'
        have hdefault' : w'.settings.defaultPackage = "" := by rw [hsettings, hdefault]
        have hopen' := loadTable_eq_packageOpen hchooses' hleaves hdefault' hmany
        have hload := loadConfig_of_admitsLike hlike hopen hopen'
        have hrun : w'.run t a = w.run t a :=
          run_congr ht (fun _ _ _ => rfl) hload (hopen'.trans hopen.symm)
        rw [call_name, call_name, hrun]
      · intro hfile
        rw [call_name, run_of_loadTable_error ht hfile hopen]
        rfl
  · intro hresources hpackage w' hfiles
    refine call_congr ht hfiles (fun _ _ _ => rfl) (loadTable_eq_of_given hfiles ?_ ?_)
    · exact Arguments.given_of_gives hresources _ _
    · exact Arguments.given_of_gives hpackage _ _

namespace Workspace

def packagesBytes : Bytes :=
  asciiBytes "\x7b\"app\": \x7b\x7d, \"lib\": \x7b\x7d\x7d"

/-- A configuration beside a table of two packages. -/
def twoPackages : Workspace :=
  let table : FileStore := FileStore.add .empty ["packages.json".toList]
    (.file packagesBytes) (by decide +kernel)
  ⟨table.add ["empty.xml".toList] (.file emptyConfigBytes) (by decide +kernel),
    ⟨"/", "/packages.json", ""⟩⟩

theorem at?_empty_twoPackages :
    twoPackages.files.at? ["empty.xml".toList] = some (.file emptyConfigBytes) := by
  decide +kernel

/-- The only package could have been given. Between two of them a call fails, and with anything
else in the file it fails alike. -/
theorem packages_of_tables_are_arguments :
    let a := Arguments.ofPath "/empty.xml"
    let given := (a.put "resources" (.ofString "/table.json")).put "package_name" (.ofString "app")
    let named : Workspace := ⟨shieldAndEmpty.files, ⟨"/", "/table.json", "app"⟩⟩
    let malformed : Workspace := twoPackages.rewrite at?_empty_twoPackages (asciiBytes "<a")
    a.Leaves "resources" ∧ a.Leaves "package_name" ∧
    shieldAndEmpty.call "list_groups" a =
      shieldAndEmpty.call "list_groups" (a.put "resources" (.ofString "/table.json")) ∧
    named.call "list_groups" a =
      named.call "list_groups" (a.put "package_name" (.ofString "app")) ∧
    shieldAndEmpty.call "list_groups" a =
      shieldAndEmpty.call "list_groups" (a.put "package_name" (.ofString "app")) ∧
    given.Gives "resources" ∧ given.Gives "package_name" ∧
    Workspace.call ⟨shieldAndEmpty.files, ⟨"/", "", "lib"⟩⟩ "list_groups" given =
      shieldAndEmpty.call "list_groups" given ∧
    malformed.call "list_groups" a = twoPackages.call "list_groups" a ∧
    twoPackages.call "list_groups" a = "Validation error: " ++
      ("package_name is required when the resource table holds " ++ "2" ++ " packages") := by
  intro a given named malformed
  have hresources : a.Leaves "resources" := Arguments.leaves_ofPath _ (by decide)
  have hpackage : a.Leaves "package_name" := Arguments.leaves_ofPath _ (by decide)
  have happ : (Json.ofString "app").isGiven = true := isGiven_ofString (by decide)
  have hgivesResources : given.Gives "resources" := by
    refine ⟨.ofString "/table.json", ?_, isGiven_ofString (by decide)⟩
    exact (Arguments.get?_put_of_ne (by decide)).trans Arguments.get?_put_self
  have hgivesPackage : given.Gives "package_name" := ⟨_, Arguments.get?_put_self, happ⟩
  have honly : shieldAndEmpty.ChoosesTable a ⟨[(Text.ofString "app", [])]⟩ :=
    choosesTable_of_leaves hresources (by decide) admitFile_table_shieldAndEmpty
      (eq_ok_of_toOption (by decide +kernel))
  let two : ResourceTable := ⟨[(Text.ofString "app", []), (Text.ofString "lib", [])]⟩
  have hbytes : ResourceTable.ofBytes packagesBytes = .ok two :=
    eq_ok_of_toOption (by decide +kernel)
  have htwo : twoPackages.ChoosesTable a two := by
    have hfile : twoPackages.files.admitFile "/packages.json" [".json"] =
        .ok ⟨["packages.json".toList], packagesBytes⟩ := by decide +kernel
    exact choosesTable_of_leaves hresources (by decide +kernel) hfile hbytes
  have htwo' : malformed.ChoosesTable a two := by
    have hfile : malformed.files.admitFile "/packages.json" [".json"] =
        .ok ⟨["packages.json".toList], packagesBytes⟩ := by decide +kernel
    exact choosesTable_of_leaves hresources (by decide +kernel) hfile hbytes
  have hlength : two.packageNames.length = 2 := by
    rw [ResourceTable.packageNames, List.length_mergeSort]
    rfl
  have happNames : (⟨[(Text.ofString "app", [])]⟩ : ResourceTable).packageNames =
      [Text.ofString "app"] := by
    simp [ResourceTable.packageNames]
  have hconfig : ∃ path file, a.get? "filepath" = some path ∧
      twoPackages.admitFile path [".xml"] = .ok file := by
    refine ⟨.ofString "/empty.xml", ⟨["empty.xml".toList], emptyConfigBytes⟩,
      Arguments.get?_ofPath _ _, ?_⟩
    rw [admitFile_ofString, mapError_eq_ok_iff]
    decide +kernel
  obtain ⟨hresource, -, htable, -⟩ :=
    defaults_are_explicit_arguments shieldAndEmpty .listGroups a (by decide)
  obtain ⟨-, hdefault, -⟩ := defaults_are_explicit_arguments named .listGroups a (by decide)
  obtain ⟨-, -, -, hindependent⟩ :=
    defaults_are_explicit_arguments shieldAndEmpty .listGroups given (by decide)
  obtain ⟨-, -, hopen, -⟩ := defaults_are_explicit_arguments twoPackages .listGroups a (by decide)
  obtain ⟨hblind, hanswer⟩ := (hopen two htwo hpackage rfl).2 (by rw [hlength]; decide)
  have hcount : Listing.count 2 = "2" := by decide +kernel
  rw [hlength, hcount] at hanswer
  refine ⟨hresources, hpackage, hresource hresources (by decide), hdefault hpackage (by decide),
    ?_, hgivesResources, hgivesPackage, hindependent hgivesResources hgivesPackage _ rfl, ?_,
    hanswer fun _ => hconfig⟩
  · exact (htable _ honly hpackage rfl).1 _ happNames (by decide)
  · exact hblind malformed rfl
      (admitsLike_rewrite at?_empty_twoPackages (by decide +kernel) (by decide +kernel)) htwo'

end Workspace

end SafetyConfig
