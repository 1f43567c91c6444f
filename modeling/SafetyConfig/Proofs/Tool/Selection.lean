import SafetyConfig.Proofs.Convert.Acceptance
import SafetyConfig.Proofs.Tool.Agreement

/-!
# Selection of a group

Ids may repeat. A listing that is asked for a group shows the first group with its id, and no other:
these are rows of the whole listing, in their order, but not all the rows with that id if a later
group has it too.
-/

namespace SafetyConfig

/-- A source and the group that it is listed under. -/
structure Entry where
  group : Group
  source : Source

/-- The sources of groups in the order of their rows. -/
def entries (groups : List Group) : List Entry :=
  groups.flatMap fun g => g.sources.map (Entry.mk g)

namespace Listing

def entryRow (e : Entry) : String :=
  sourceRow e.group e.source

def ofEntries (es : List Entry) : String :=
  sourcesHeader ++ String.join (es.map entryRow)

theorem sources_eq_ofEntries (groups : List Group) :
    sources groups = ofEntries (entries groups) := by
  rw [sources, ofEntries, entries, List.map_flatMap]
  simp only [List.map_map]
  rfl

theorem head?_ofEntries (es : List Entry) : (ofEntries es).toList.head? = some '#' := by
  refine head?_append ?_ _
  exact head?_append rfl _

theorem entryRow_ne_empty (e : Entry) : entryRow e ≠ "" := by
  intro h
  have hlist := congrArg String.toList h
  simp [entryRow, sourceRow, row] at hlist

/-- No row is empty, so that a listing that has rows to add is another one. -/
theorem ofEntries_append_eq_iff {es fs : List Entry} :
    ofEntries (es ++ fs) = ofEntries es ↔ fs = [] := by
  constructor
  · intro h
    have hjoin := congrArg String.toList ((String.append_right_inj _).mp h)
    rw [List.map_append, String.toList_join, String.toList_join, List.flatMap_append] at hjoin
    have hrows := List.flatMap_eq_nil_iff.mp (List.append_right_eq_self.mp hjoin)
    refine List.eq_nil_iff_forall_not_mem.mpr fun e he => entryRow_ne_empty e ?_
    exact String.toList_eq_nil_iff.mp (hrows _ (List.mem_map_of_mem he))
  · rintro rfl
    rw [List.append_nil]

end Listing

theorem entries_append (groups others : List Group) :
    entries (groups ++ others) = entries groups ++ entries others :=
  List.flatMap_append

theorem mem_entries_iff {groups : List Group} {e : Entry} :
    e ∈ entries groups ↔ e.group ∈ groups ∧ e.source ∈ e.group.sources := by
  obtain ⟨g, s⟩ := e
  simp only [entries, List.mem_flatMap, List.mem_map, Entry.mk.injEq]
  constructor
  · rintro ⟨h, hh, s', hs', rfl, rfl⟩
    exact ⟨hh, hs'⟩
  · rintro ⟨hg, hs⟩
    exact ⟨g, hg, s, hs, rfl, rfl⟩

/-! The rows with an id. -/

/-- The entries of the groups with an id. -/
def entriesOf (id : Text) (groups : List Group) : List Entry :=
  (entries groups).filter fun e => Text.ofString e.group.id = id

variable {t : Text} {before after groups : List Group} {g : Group}

theorem entriesOf_eq_nil_iff (hsources : ∀ g ∈ groups, g.sources ≠ []) :
    entriesOf t groups = [] ↔ ∀ g ∈ groups, Text.ofString g.id ≠ t := by
  simp only [entriesOf, List.filter_eq_nil_iff, decide_eq_true_eq, mem_entries_iff]
  constructor
  · intro h g hg
    obtain ⟨s, hs⟩ := List.exists_mem_of_ne_nil _ (hsources g hg)
    exact h ⟨g, s⟩ ⟨hg, hs⟩
  · rintro h e ⟨hg, -⟩
    exact h e.group hg

theorem entriesOf_singleton (hg : Text.ofString g.id = t) : entriesOf t [g] = entries [g] := by
  rw [entriesOf, List.filter_eq_self]
  intro e he
  obtain ⟨hgroup, -⟩ := mem_entries_iff.mp he
  rw [List.mem_singleton.mp hgroup, decide_eq_true hg]

theorem entriesOf_of_first (hsources : ∀ h ∈ before, h.sources ≠ [])
    (hbefore : ∀ h ∈ before, Text.ofString h.id ≠ t) (hg : Text.ofString g.id = t) :
    entriesOf t (before ++ g :: after) = entries [g] ++ entriesOf t after := by
  have hnone : entriesOf t before = [] := (entriesOf_eq_nil_iff hsources).mpr hbefore
  rw [← List.singleton_append, entriesOf, entries_append, entries_append, List.filter_append,
    List.filter_append]
  change entriesOf t before ++ (entriesOf t [g] ++ entriesOf t after) = _
  rw [hnone, List.nil_append, entriesOf_singleton hg]

/-! Ids that are texts. -/

/-- A text that is no string is the id of nothing. -/
theorem find?_idText {α : Type} (id : α → String) (xs : List α) (t : Text) :
    ((Workspace.idText? (.text t)).bind fun n => xs.find? fun x => id x == n) =
      xs.find? fun x => Text.ofString (id x) == t := by
  unfold Workspace.idText?
  dsimp only
  cases hstring : Text.string? t with
  | some s =>
    obtain rfl := Text.string?_eq_some_iff.mp hstring
    rw [Option.bind_some]
    congr 1
    funext x
    rw [Bool.eq_iff_iff, beq_iff_eq, beq_iff_eq]
    exact ⟨congrArg Text.ofString, Text.ofString_injective⟩
  | none =>
    refine (List.find?_eq_none.mpr fun x _ => ?_).symm
    rw [beq_iff_eq]
    rintro rfl
    rw [Text.string?_ofString] at hstring
    cases hstring

theorem find?_eq_none_iff_idText {α : Type} {id : α → String} {xs : List α} :
    (xs.find? fun x => Text.ofString (id x) == t) = none ↔ ∀ x ∈ xs, Text.ofString (id x) ≠ t := by
  simp only [List.find?_eq_none, beq_iff_eq, ne_eq]

theorem find?_of_first {α : Type} {id : α → String} {front back : List α} {x : α}
    (hfront : ∀ y ∈ front, Text.ofString (id y) ≠ t) (hx : Text.ofString (id x) = t) :
    ((front ++ x :: back).find? fun y => Text.ofString (id y) == t) = some x := by
  rw [List.find?_append, find?_eq_none_iff_idText.mpr hfront, Option.none_or]
  exact List.find?_cons_of_pos (beq_iff_eq.mpr hx)

namespace Workspace

variable {w : Workspace} {a b : Arguments} {config : Config}

/-- Every group of a configuration that is loaded has sources. -/
theorem Loads.sources_ne_nil (h : w.Loads a config) : ∀ g ∈ config.groups, g.sources ≠ [] := by
  intro g hg
  obtain ⟨_, choice, root, -, -, -, hfollows⟩ := h
  obtain ⟨e, -, hbecomes⟩ := exists_mem_of_forall₂ hfollows hg
  obtain ⟨raw, -, hconvert⟩ := hbecomes.converted
  simp only [RawGroup.convert, bind_eq_ok_iff, orInvalid_eq_ok_iff, GroupDraft.build_eq_ok_iff]
    at hconvert
  obtain ⟨_, -, _, -, _, -, hlawful, rfl⟩ := hconvert
  exact hlawful.sources

theorem call_listSources (h : w.loadConfig a = .ok config) :
    w.call "list_sources" a = match chosenGroups config a with
      | .ok groups => Listing.ofEntries (entries groups)
      | .error e => e.report.reply := by
  have hcall := call_name w .listSources a
  rw [run, listSources, h, ok_bind] at hcall
  cases hchosen : chosenGroups config a with
  | ok groups =>
    rw [hchosen] at hcall
    dsimp only
    rw [← Listing.sources_eq_ofEntries]
    exact hcall
  | error e =>
    rw [hchosen] at hcall
    exact hcall

theorem call_listSources_all (h : w.Loads a config) (hsame : a.SameConfig b)
    (hall : ∀ id, b.get? "group_id" = some id → id.isGiven = false) :
    w.call "list_sources" b = Listing.ofEntries (entries config.groups) := by
  have hload := loadConfig_of_loads h
  rw [← loadConfig_of_sameConfig hsame] at hload
  rw [call_listSources hload, chosenGroups_all hall]

theorem chosenGroups_text (h : a.get? "group_id" = some (.text t)) (ht : t ≠ []) :
    chosenGroups config a = match config.groups.find? fun g => Text.ofString g.id == t with
      | some g => .ok [g]
      | none => .error (.groupNotFound (Text.toString t)) := by
  have hgiven : (Json.text t).isGiven = true := by simpa [Json.isGiven] using ht
  rw [← find?_idText, chosenGroups, h]
  dsimp only
  rw [if_neg (by simp [hgiven])]
  rfl

theorem call_of_first_group (hload : w.loadConfig a = .ok config)
    (hid : a.get? "group_id" = some (.text t)) (ht : t ≠ [])
    (hgroups : config.groups = before ++ g :: after)
    (hbefore : ∀ h ∈ before, Text.ofString h.id ≠ t) (hg : Text.ofString g.id = t) :
    w.call "list_sources" a = Listing.ofEntries (entries [g]) := by
  rw [call_listSources hload, chosenGroups_text hid ht, hgroups, find?_of_first hbefore hg]

theorem call_eq_groupNotFound_iff (hload : w.loadConfig a = .ok config)
    (hid : a.get? "group_id" = some (.text t)) (ht : t ≠ []) :
    w.call "list_sources" a = "Validation error: Group not found: " ++ Text.toString t ↔
      ∀ g ∈ config.groups, Text.ofString g.id ≠ t := by
  rw [call_listSources hload, chosenGroups_text hid ht, ← find?_eq_none_iff_idText]
  cases config.groups.find? fun g => Text.ofString g.id == t with
  | none => exact iff_of_true rfl rfl
  | some g =>
    -- A listing starts with its title, a failure with another letter.
    refine iff_of_false (fun hcall => ?_) nofun
    have hhead := Listing.head?_ofEntries (entries [g])
    dsimp only at hcall
    rw [hcall, head?_append rfl] at hhead
    exact absurd hhead (by decide)

end Workspace

/-- A listing that is asked for an id shows the rows of the first group with it, which stand
together in the whole listing, and it says that there is none just where no group has the id. The
rows are all those with the id, unless a later group has it again. -/
theorem asked_group_is_first_with_id {w : Workspace} {a b : Arguments} {config : Config} {t : Text}
    (hloads : w.Loads a config) (hsame : a.SameConfig b)
    (hid : a.get? "group_id" = some (.text t)) (ht : t ≠ [])
    (hall : ∀ id, b.get? "group_id" = some id → id.isGiven = false) :
    w.call "list_sources" b = Listing.ofEntries (entries config.groups) ∧
    (w.call "list_sources" a = "Validation error: Group not found: " ++ Text.toString t ↔
      ∀ g ∈ config.groups, Text.ofString g.id ≠ t) ∧
    ∀ before g after, config.groups = before ++ g :: after →
      (∀ h ∈ before, Text.ofString h.id ≠ t) → Text.ofString g.id = t →
        w.call "list_sources" a = Listing.ofEntries (entries [g]) ∧
        entries config.groups = entries before ++ entries [g] ++ entries after ∧
        (w.call "list_sources" a = Listing.ofEntries (entriesOf t config.groups) ↔
          ∀ h ∈ after, Text.ofString h.id ≠ t) := by
  have hload := Workspace.loadConfig_of_loads hloads
  have hsources := hloads.sources_ne_nil
  refine ⟨Workspace.call_listSources_all hloads hsame hall,
    Workspace.call_eq_groupNotFound_iff hload hid ht, ?_⟩
  intro before g after hgroups hbefore hg
  have hcall := Workspace.call_of_first_group hload hid ht hgroups hbefore hg
  rw [hgroups] at hsources ⊢
  refine ⟨hcall, ?_, ?_⟩
  · rw [← entries_append, ← entries_append, List.append_assoc, List.singleton_append]
  · have hearlier : ∀ h ∈ before, h.sources ≠ [] := fun h hh => hsources h (by simp [hh])
    have hlater : ∀ h ∈ after, h.sources ≠ [] := fun h hh => hsources h (by simp [hh])
    rw [hcall, entriesOf_of_first hearlier hbefore hg, eq_comm, Listing.ofEntries_append_eq_iff,
      entriesOf_eq_nil_iff hlater]

/-! Two groups with one id, and another one between them. -/

/-- The arguments of a call that names a file, with one argument more. -/
def Arguments.asking (path name value : String) : Arguments :=
  ⟨Json.record [("filepath", .ofString path), (name, .ofString value)]⟩

theorem Arguments.sameConfig_asking (path value : String) {name : String}
    (h : name ∉ ["resources", "package_name"]) :
    (asking path name value).SameConfig (ofPath path) := by
  simp only [List.mem_cons, List.not_mem_nil, or_false, not_or] at h
  intro other hother
  simp only [List.mem_cons, List.not_mem_nil, or_false] at hother
  simp only [asking, ofPath, get?, Json.field?_record]
  rcases hother with rfl | rfl | rfl
  · rfl
  · simp [List.lookup_cons, beq_eq_false_iff_ne.mpr (Ne.symm h.1)]
  · simp [List.lookup_cons, beq_eq_false_iff_ne.mpr (Ne.symm h.2)]

namespace Workspace

/-- What is loaded without an argument more is loaded with it. -/
theorem loads_asking {w : Workspace} {config : Config} {path name : String}
    (hload : (w.loadConfig (.ofPath path)).toOption = some config) (value : String)
    (hname : name ∉ ["resources", "package_name"]) : w.Loads (.asking path name value) config := by
  refine loads_of_loadConfig ?_
  rw [← loadConfig_of_sameConfig (Arguments.sameConfig_asking path value hname)]
  exact eq_ok_of_toOption hload

def twinBytes : Bytes :=
  let source (id : String) : List String :=
    ["<safety-source type='static' id='", id, "' profile='primary'", " intentAction='open'/>"]
  let group (id other : String) : List String :=
    ["<safety-sources-group id='", id, "'>"] ++ source other ++ ["</safety-sources-group>"]
  List.flatMap asciiBytes (["<safety-center-config><safety-sources-config>"] ++
    group "g" "a" ++ group "h" "b" ++ group "g" "c" ++
    ["</safety-sources-config></safety-center-config>"])

def twins : Workspace :=
  ⟨bareFiles.add ["twins.xml".toList] (.file twinBytes) (by decide +kernel),
    ⟨"/", "/table.json", ""⟩⟩

def twinConfig : Config :=
  let source (id : String) : Source :=
    ⟨.static, id, none, 0, 0, 0, some "open", .primary, .unspecified, none, 0, none, false, false⟩
  ⟨[⟨"g", 0, 0, .none, [source "a"]⟩, ⟨"h", 0, 0, .none, [source "b"]⟩,
    ⟨"g", 0, 0, .none, [source "c"]⟩]⟩

theorem loads_twins (id : String) :
    twins.Loads (.asking "/twins.xml" "group_id" id) twinConfig :=
  loads_asking (by decide +kernel) id (by decide)

theorem ungrouped_ofPath (path : String) (id : Json)
    (h : (Arguments.ofPath path).get? "group_id" = some id) : id.isGiven = false := by
  rw [Arguments.get?_ofPath] at h
  cases h

/-- An id that one group has, and one that no group has. -/
theorem single_group_is_listed :
    twins.call "list_sources" (.asking "/twins.xml" "group_id" "h") =
        Listing.ofEntries (entriesOf (Text.ofString "h") twinConfig.groups) ∧
      (entriesOf (Text.ofString "h") twinConfig.groups).map Listing.entryRow =
        ["| h | b | static | - | primary | open |\n"] ∧
      twins.call "list_sources" (.asking "/twins.xml" "group_id" "x") =
        "Validation error: Group not found: x" := by
  have hall := ungrouped_ofPath "/twins.xml"
  have hsame (id : String) : (Arguments.asking "/twins.xml" "group_id" id).SameConfig
      (.ofPath "/twins.xml") := Arguments.sameConfig_asking "/twins.xml" id (by decide)
  obtain ⟨-, -, hfirst⟩ := asked_group_is_first_with_id (loads_twins "h") (hsame "h")
    (t := Text.ofString "h") rfl (by decide) hall
  obtain ⟨-, hmissing, -⟩ := asked_group_is_first_with_id (loads_twins "x") (hsame "x")
    (t := Text.ofString "x") rfl (by decide) hall
  obtain ⟨-, -, hrows⟩ := hfirst [twinConfig.groups[0]] twinConfig.groups[1]
    [twinConfig.groups[2]] rfl (by decide) rfl
  exact ⟨hrows.mpr (by decide), by decide +kernel, hmissing.mpr (by decide)⟩

/-- Of two groups with one id, the second one is not listed. -/
theorem second_twin_is_not_listed :
    twins.Loads (.asking "/twins.xml" "group_id" "g") twinConfig ∧
      twins.call "list_sources" (.ofPath "/twins.xml") =
        Listing.ofEntries (entries twinConfig.groups) ∧
      twins.call "list_sources" (.asking "/twins.xml" "group_id" "g") ≠
        Listing.ofEntries (entriesOf (Text.ofString "g") twinConfig.groups) := by
  have hload := loadConfig_of_loads (loads_twins "g")
  have hfirst : twinConfig.groups = [] ++ twinConfig.groups[0] :: twinConfig.groups.tail := rfl
  refine ⟨loads_twins "g", call_listSources_all (loads_twins "g")
    (Arguments.sameConfig_asking "/twins.xml" "g" (by decide)) (ungrouped_ofPath "/twins.xml"), ?_⟩
  rw [call_of_first_group hload (t := Text.ofString "g") rfl (by decide) hfirst nofun rfl]
  decide +kernel

end Workspace

end SafetyConfig
