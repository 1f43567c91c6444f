import SafetyConfig.Proofs.Convert.Acceptance
import SafetyConfig.Proofs.Convert.ReadBack
import SafetyConfig.Proofs.Json.ReadBack
import SafetyConfig.Proofs.Raw.Binding
import SafetyConfig.Proofs.Resource.TableFile
import SafetyConfig.Proofs.Tool.Selection

/-!
# Descriptions of sources

The description of a source is JSON with its fields. What is printed reads back, since the numbers
of a configuration have all been read themselves, from its document or from the table, and so are
not too long. So no two sources have the same description.
-/

namespace SafetyConfig

/-! Different sources have different fields. -/

theorem SourceKind.label_injective {k k' : SourceKind} (h : k.label = k'.label) : k = k' := by
  revert h
  cases k <;> cases k' <;> decide

theorem Profile.label_injective {p p' : Profile} (h : p.label = p'.label) : p = p' := by
  revert h
  cases p <;> cases p' <;> decide

theorem DisplayState.label_injective {s s' : DisplayState} (h : s.label = s'.label) : s = s' := by
  revert h
  cases s <;> cases s' <;> decide

theorem Json.ofString_injective {s t : String} (h : Json.ofString s = .ofString t) : s = t :=
  Text.ofString_injective (Json.text.inj h)

theorem Json.ofOption_injective {α : Type} {f : α → Json} (hf : ∀ a b, f a = f b → a = b)
    (hnull : ∀ a, f a ≠ .null) {x y : Option α} (h : Json.ofOption f x = .ofOption f y) :
    x = y := by
  cases x with
  | none =>
    cases y with
    | none => rfl
    | some b => exact absurd h.symm (hnull b)
  | some a =>
    cases y with
    | none => exact absurd h (hnull a)
    | some b => rw [hf a b h]

theorem Json.ofOption_ofString_injective {x y : Option String}
    (h : Json.ofOption .ofString x = .ofOption .ofString y) : x = y :=
  Json.ofOption_injective (fun _ _ => Json.ofString_injective) (fun _ => Json.noConfusion) h

theorem Source.toJson_injective {s t : Source} (h : s.toJson = t.toJson) : s = t := by
  cases s
  cases t
  simp only [toJson, Json.record, List.map_cons, List.map_nil, Json.object.injEq, List.cons.injEq,
    Prod.mk.injEq, true_and, and_true, Json.int.injEq, Json.bool.injEq] at h
  obtain ⟨hkind, hid, hpackage, htitle, hwork, hsummary, hintent, hprofile, hstate, hseverity,
    hterms, hreceiver, hlog, hrefresh⟩ := h
  simp only [Source.mk.injEq]
  exact ⟨SourceKind.label_injective (Json.ofString_injective hkind), Json.ofString_injective hid,
    Json.ofOption_ofString_injective hpackage, htitle, hwork, hsummary,
    Json.ofOption_ofString_injective hintent,
    Profile.label_injective (Json.ofString_injective hprofile),
    DisplayState.label_injective (Json.ofString_injective hstate),
    Json.ofOption_injective (fun _ _ => Json.int.inj) (fun _ => Json.noConfusion) hseverity, hterms,
    Json.ofOption_ofString_injective hreceiver, hlog, hrefresh⟩

/-- All numbers of a source are short. -/
structure Source.Printable (s : Source) : Prop where
  title : Numeral.Short s.title
  titleForWork : Numeral.Short s.titleForWork
  summary : Numeral.Short s.summary
  maxSeverity : s.Short
  searchTerms : Numeral.Short s.searchTerms

namespace Json.Readable

variable {room : Nat}

theorem ofOption {α : Type} {f : α → Json} {x : Option α}
    (h : ∀ a, x = some a → (f a).Readable room) : (Json.ofOption f x).Readable room := by
  cases x with
  | none => exact .null
  | some a => exact h a rfl

end Json.Readable

theorem Source.Printable.readable {s : Source} (h : s.Printable) :
    s.toJson.Readable Json.maxDepth := by
  have htext : ∀ x : Option String, (Json.ofOption .ofString x).Readable 989 :=
    fun x => .ofOption fun t _ => .text t
  refine .record ?_ ?_
  · simp only [List.map_cons, List.map_nil]
    decide
  simp only [List.forall_mem_cons]
  exact ⟨.text _, .text _, htext _, .int h.title, .int h.titleForWork, .int h.summary, htext _,
    .text _, .text _, .ofOption fun n hn => .int (h.maxSeverity n hn), .int h.searchTerms, htext _,
    .bool _, .bool _, List.forall_mem_nil _⟩

/-- The description of a source reads as its fields. -/
theorem Source.Printable.read_toText {s : Source} (h : s.Printable) :
    Json.read s.toJson.toText.toList = .ok s.toJson := by
  rw [Json.toText, String.toList_ofList]
  exact Json.read_write h.readable

theorem Source.Printable.eq_of_toText {s t : Source} (hs : s.Printable) (ht : t.Printable)
    (h : s.toJson.toText = t.toJson.toText) : s = t := by
  have hread := hs.read_toText
  rw [h, ht.read_toText] at hread
  exact Source.toJson_injective (Except.ok.inj hread).symm

/-! Numbers that have been read. -/

/-- The identifiers that a table file gives are short. -/
theorem ResourceTable.short_of_holds {bytes : Bytes} {table : ResourceTable} {package key : Text}
    {id : ResourceId} (htable : ResourceTable.ofBytes bytes = .ok table)
    (h : table.Holds package key id) : Numeral.Short id := by
  obtain ⟨_, w, -, ⟨_, hspells, -⟩, hread⟩ := writes_of_ofBytes htable
  obtain ⟨hvalue, -⟩ := ofJson_eq_ok_iff.mp hread
  obtain ⟨_, hpackage, hentry⟩ := (holds_iff_of_decoded hvalue).mp h
  obtain ⟨_, _, _, hspells⟩ := hspells.exists_spells_of_hasMember hpackage
  obtain ⟨_, _, _, hspells⟩ := hspells.exists_spells_of_hasMember hentry
  exact Json.short_of_spells hspells

/-- A reference resolves to a short identifier. -/
def ResourceScope.Short (scope : ResourceScope) : Prop :=
  ∀ reference, Numeral.Short (scope.identifier reference)

theorem ResourceScope.short_of_ofBytes {bytes : Bytes} {scope : ResourceScope}
    (htable : ResourceTable.ofBytes bytes = .ok scope.table) : scope.Short := by
  intro reference
  by_cases hzero : scope.identifier reference = 0
  · rw [hzero]
    exact Numeral.short_zero
  · obtain ⟨_, _, -, hholds⟩ := ResourceTable.holds_of_getIdentifier_ne_zero hzero
    exact ResourceTable.short_of_holds htable hholds

theorem ResourceScope.Short.optionalIdentifier {scope : ResourceScope} (h : scope.Short)
    (text : Option String) : Numeral.Short (scope.optionalIdentifier text) := by
  cases text with
  | none => exact Numeral.short_zero
  | some reference => exact h reference

theorem short_of_readInteger {field : Field} {text : Option String} {n : Int}
    (h : readInteger field text = .ok (some n)) : Numeral.Short n := by
  cases text with
  | none => cases h
  | some text =>
    simp only [readInteger] at h
    split at h
    · rename_i hread
      cases h
      exact Numeral.short_of_read hread
    · cases h

theorem Element.BecomesSource.printable {scope : ResourceScope} {e : Element} {s : Source}
    (h : e.BecomesSource scope s) (hshort : scope.Short) : s.Printable := by
  obtain ⟨raw, hread, hconvert⟩ := h
  obtain ⟨-, rfl⟩ := RawSource.convert_eq_ok_iff.mp hconvert
  have hseverity := (RawSource.ofElement_eq_ok_iff.mp hread).maxSeverity
  refine ⟨hshort.optionalIdentifier _, hshort.optionalIdentifier _, hshort.optionalIdentifier _, ?_,
    hshort.optionalIdentifier _⟩
  intro n hn
  rw [show raw.maxSeverity = some n from hn] at hseverity
  exact short_of_readInteger hseverity

namespace Workspace

variable {w : Workspace} {a : Arguments} {config : Config} {t : Text}

theorem Loads.printable (h : w.Loads a config) : ∀ s ∈ config.sources, s.Printable := by
  intro s hs
  obtain ⟨_, choice, _, hadmits, -, -, hfollows⟩ := h
  obtain ⟨⟨_, -, -, htable⟩, -⟩ := loadTable_eq_ok_iff.mp hadmits.table
  obtain ⟨g, hg, hsg⟩ := List.mem_flatMap.mp hs
  obtain ⟨_, -, hgroup⟩ := exists_mem_of_forall₂ hfollows hg
  obtain ⟨_, -, hsource⟩ := exists_mem_of_forall₂ hgroup.sources hsg
  have hshort : choice.scope.Short := ResourceScope.short_of_ofBytes htable
  exact hsource.printable hshort

theorem call_describeSource (h : w.loadConfig a = .ok config)
    (hid : a.get? "source_id" = some (.text t)) :
    w.call "describe_source" a =
      match config.sources.find? fun s => Text.ofString s.id == t with
      | some s => s.toJson.toText
      | none => "Validation error: Source not found: " ++ Text.toString t := by
  have hcall := call_name w .describeSource a
  have hneed : a.need "source_id" = .ok (.text t) := by
    rw [Arguments.need, hid]
  rw [run, describeSource, h, ok_bind, hneed, ok_bind] at hcall
  rw [← find?_idText]
  change _ = match (idText? (.text t)).bind config.findSource? with
    | some s => s.toJson.toText
    | none => "Validation error: Source not found: " ++ Text.toString t
  cases hfound : (idText? (.text t)).bind config.findSource? with
  | some s =>
    rw [hfound] at hcall
    exact hcall
  | none =>
    rw [hfound] at hcall
    exact hcall

theorem call_eq_sourceNotFound_iff (h : w.loadConfig a = .ok config)
    (hid : a.get? "source_id" = some (.text t)) :
    w.call "describe_source" a = "Validation error: Source not found: " ++ Text.toString t ↔
      ∀ s ∈ config.sources, Text.ofString s.id ≠ t := by
  rw [call_describeSource h hid, ← find?_eq_none_iff_idText]
  cases config.sources.find? fun s => Text.ofString s.id == t with
  | none => exact iff_of_true rfl rfl
  | some s =>
    -- A description starts with the mark of an object, a failure with a letter.
    refine iff_of_false (fun hcall => ?_) nofun
    have hhead : s.toJson.toText.toList.head? = some '\x7b' := by
      rw [Json.toText, String.toList_ofList]
      rfl
    dsimp only at hcall
    rw [hcall, head?_append rfl] at hhead
    exact absurd hhead (by decide)

/-- The sources in the order of their rows. -/
theorem sources_eq_map_entries (config : Config) :
    config.sources = (entries config.groups).map Entry.source := by
  rw [Config.sources, entries, List.map_flatMap]
  exact List.flatMap_congr fun g _ => by simp [Function.comp_def]

theorem call_of_first_source (h : w.loadConfig a = .ok config)
    (hid : a.get? "source_id" = some (.text t)) {before after : List Entry} {e : Entry}
    (hentries : entries config.groups = before ++ e :: after)
    (hbefore : ∀ f ∈ before, Text.ofString f.source.id ≠ t) (he : Text.ofString e.source.id = t) :
    w.call "describe_source" a = e.source.toJson.toText := by
  rw [call_describeSource h hid, sources_eq_map_entries, hentries, List.map_append, List.map_cons,
    find?_of_first (List.forall_mem_map.mpr hbefore) he]

end Workspace

/-- A call for a description says that there is no source just where none has the id. Otherwise it
describes the first source with it, in the order of the listing, and what it says is JSON with the
fields of that source. No other source that is loaded from anywhere has this description. -/
theorem description_is_first_with_id {w : Workspace} {a : Arguments} {config : Config} {t : Text}
    (hloads : w.Loads a config) (hid : a.get? "source_id" = some (.text t)) :
    (w.call "describe_source" a = "Validation error: Source not found: " ++ Text.toString t ↔
      ∀ g ∈ config.groups, ∀ s ∈ g.sources, Text.ofString s.id ≠ t) ∧
    (∀ b, a.SameConfig b → (∀ id, b.get? "group_id" = some id → id.isGiven = false) →
      w.call "list_sources" b = Listing.ofEntries (entries config.groups)) ∧
    ∀ before e after, entries config.groups = before ++ e :: after →
      (∀ f ∈ before, Text.ofString f.source.id ≠ t) → Text.ofString e.source.id = t →
        Json.read (w.call "describe_source" a).toList = .ok e.source.toJson ∧
        ∀ (v : Workspace) (b : Arguments) (other : Config), v.Loads b other →
          ∀ s ∈ other.sources, s.toJson.toText = w.call "describe_source" a → s = e.source := by
  have hload := Workspace.loadConfig_of_loads hloads
  refine ⟨?_, fun b hsame hall => Workspace.call_listSources_all hloads hsame hall, ?_⟩
  · rw [Workspace.call_eq_sourceNotFound_iff hload hid, Config.sources]
    simp only [List.mem_flatMap, forall_exists_index, and_imp]
    exact ⟨fun h g hg s hs => h s g hg hs, fun h s g hg hs => h g hg s hs⟩
  · intro before e after hentries hbefore he
    have hmem : e.source ∈ config.sources := by
      rw [Workspace.sources_eq_map_entries, hentries]
      exact List.mem_map_of_mem (by simp)
    have hprintable := hloads.printable e.source hmem
    rw [Workspace.call_of_first_source hload hid hentries hbefore he]
    exact ⟨hprintable.read_toText, fun v b other hother s hs htext =>
      (hother.printable s hs).eq_of_toText hprintable htext⟩

/-! A source whose action has to be escaped. -/

namespace Workspace

def starBytes : Bytes := List.flatMap asciiBytes [
  "<safety-center-config><safety-sources-config>", "<safety-sources-group id='g'>",
  "<safety-source type='static' id='lock' profile='primary'",
  " intentAction='&quot;\\&#10;&#x1F600;'/>",
  "</safety-sources-group></safety-sources-config>", "</safety-center-config>"]

def starred : Workspace :=
  ⟨bareFiles.add ["star.xml".toList] (.file starBytes) (by decide +kernel),
    ⟨"/", "/table.json", ""⟩⟩

def starAction : String :=
  String.ofList ['"', '\\', '\n', Char.ofNat 0x1F600]

def starredLock : Source :=
  ⟨.static, "lock", none, 0, 0, 0, some starAction, .primary, .unspecified, none, 0, none, false,
    false⟩

def starConfig : Config :=
  ⟨[⟨"g", 0, 0, .none, [starredLock]⟩]⟩

theorem loads_starred (id : String) :
    starred.Loads (.asking "/star.xml" "source_id" id) starConfig :=
  loads_asking (by decide +kernel) id (by decide)

/-- The action is escaped in the description, and read again as it is. -/
theorem escaped_action_is_described :
    Json.read (starred.call "describe_source" (.asking "/star.xml" "source_id" "lock")).toList =
        .ok starredLock.toJson ∧
      starred.call "describe_source" (.asking "/star.xml" "source_id" "star") =
        "Validation error: Source not found: " ++ "star" := by
  obtain ⟨-, -, hfirst⟩ := description_is_first_with_id (loads_starred "lock")
    (t := Text.ofString "lock") rfl
  obtain ⟨hmissing, -⟩ := description_is_first_with_id (loads_starred "star")
    (t := Text.ofString "star") rfl
  rw [Text.toString_ofString] at hmissing
  obtain ⟨hread, -⟩ := hfirst [] _ [] rfl (List.forall_mem_nil _) rfl
  exact ⟨hread, hmissing.mpr (by decide)⟩

end Workspace

end SafetyConfig
