import SafetyConfig.Proofs.Convert.Spelling
import SafetyConfig.Proofs.Draft.Session
import SafetyConfig.Proofs.Number.ReadBack
import SafetyConfig.Proofs.Resource.Reference
import SafetyConfig.Raw.Reader

/-!
# Published configurations read back

Reading and converting a tree that spells a built configuration gives the configuration
back, provided that its numbers are not too long to be read. Each form of value is read as
what was published; building again changes nothing because a built entity is valid.
-/

namespace SafetyConfig

theorem Element.Carries.column {scope : ResourceScope} {columns : List Column} {e : Element}
    {fields : List (String × Json)} (h : e.Carries scope columns (Json.record fields))
    {c : Column} (hc : c ∈ columns) {value : Json}
    (hvalue : fields.lookup c.published = some value) :
    c.form.Carries scope value (e.attribute? c.written) := by
  obtain ⟨v, hv, hcarries⟩ := h c hc
  rw [Json.field?_record, hvalue] at hv
  cases hv
  exact hcarries

/-! What each form is read as. -/

namespace Form

variable {scope : ResourceScope} {a : Option String}

theorem text_some {s : String} (h : Form.text.Carries scope (.ofString s) a) : a = some s := by
  simpa [Carries, Json.ofString] using h

theorem text_option {s : Option String} (h : Form.text.Carries scope (.ofOption .ofString s) a) :
    a = s := by
  cases s with
  | none => exact h
  | some s => exact text_some h

theorem readCode_name {field : Field} {names : List (String × Int)} {label : String} {n : Int}
    (h : Form.name.Carries scope (.ofString label) a) (hzero : label = "unspecified" → n = 0)
    (hnamed : label ≠ "unspecified" →
      names.lookup (String.ofList (attributeToken label)) = some n) :
    readCode field names a = .ok n := by
  simp only [Carries, Json.ofString, Text.toString_ofString] at h
  by_cases hlabel : label = "unspecified"
  · rw [h, if_pos hlabel, hzero hlabel]
    rfl
  · rw [h, if_neg hlabel]
    simp only [readCode, hnamed hlabel]

theorem readInteger_number {field : Field} {m : Option Int}
    (h : Form.number.Carries scope (.ofOption .int m) a)
    (hshort : ∀ n, m = some n → Numeral.Short n) :
    readInteger field a = .ok m := by
  cases m with
  | none =>
    subst h
    rfl
  | some n =>
    subst h
    have hread := Numeral.read_signedDecimal (hshort n rfl)
    simp only [readInteger, String.toList_ofList, Numeral.trim_signedDecimal, hread]

theorem readBoolean_flag {field : Field} {b : Bool} (h : Form.flag.Carries scope (.bool b) a) :
    readBoolean field a = .ok b := by
  cases b <;> (subst h; rfl)

theorem resolveOptional_reference {element : ElementName} {field : Field} {n : ResourceId}
    (h : Form.reference.Carries scope (.int n) a) :
    scope.resolveOptional element field a = .ok n := by
  simp only [Carries] at h
  split at h
  · rename_i hzero
    subst h
    rw [hzero]
    rfl
  · obtain ⟨reference, place, rfl, hresolve⟩ := h
    exact ResourceScope.resolve_eq_ok_iff.mpr (ResourceScope.resolve_eq_ok_iff.mp hresolve)

end Form

/-! From attributes to elements, and on to lists of them. -/

/-- What an element that spells a source is read as: references are still texts. -/
def Source.asRead (s : Source) (e : Element) : RawSource where
  kind := s.kind.code
  id := s.id
  packageName := s.packageName
  title := e.attribute? "title"
  titleForWork := e.attribute? "titleForWork"
  summary := e.attribute? "summary"
  intentAction := s.intentAction
  profile := s.profile.code
  displayState := s.displayState.code
  maxSeverity := s.maxSeverity
  searchTerms := e.attribute? "searchTerms"
  receiver := s.receiver
  disallowLogging := s.disallowLogging
  refreshOnOpen := s.refreshOnOpen

/-- The numbers of a source are short enough to be read. -/
def Source.Short (s : Source) : Prop :=
  ∀ n, s.maxSeverity = some n → Numeral.Short n

namespace SpellsSource

variable {scope : ResourceScope} {e : Element} {s : Source}

theorem ofElement_eq (h : SpellsSource scope e s.toJson) (hshort : s.Short) :
    RawSource.ofElement e = .ok (s.asRead e) := by
  have hkind : readCode .kind SourceKind.named (e.attribute? "type") = .ok s.kind.code :=
    Form.readCode_name (h.attributes.column (c := ⟨"type", "type", .name⟩) (by decide) rfl)
      (by cases s.kind <;> decide) (by cases s.kind <;> decide)
  have hprofile : readCode .profile Profile.named (e.attribute? "profile") = .ok s.profile.code :=
    Form.readCode_name
      (h.attributes.column (c := ⟨"profile", "profile", .name⟩) (by decide) rfl)
      (by cases s.profile <;> decide) (by cases s.profile <;> decide)
  have hstate : readCode .displayState DisplayState.named (e.attribute? "initialDisplayState") =
      .ok s.displayState.code :=
    Form.readCode_name (h.attributes.column
      (c := ⟨"initial_display_state", "initialDisplayState", .name⟩) (by decide) rfl)
      (by cases s.displayState <;> decide) (by cases s.displayState <;> decide)
  have hseverity : readInteger .maxSeverity (e.attribute? "maxSeverityLevel") = .ok s.maxSeverity :=
    Form.readInteger_number (h.attributes.column
      (c := ⟨"max_severity_level", "maxSeverityLevel", .number⟩) (by decide) rfl) hshort
  have hlog : readBoolean .disallowLogging (e.attribute? "disallowLogging") =
      .ok s.disallowLogging :=
    Form.readBoolean_flag (h.attributes.column
      (c := ⟨"disallow_logging", "disallowLogging", .flag⟩) (by decide) rfl)
  have hrefresh : readBoolean .refreshOnOpen (e.attribute? "allowRefreshOnPageOpen") =
      .ok s.refreshOnOpen :=
    Form.readBoolean_flag (h.attributes.column
      (c := ⟨"allow_refresh_on_page_open", "allowRefreshOnPageOpen", .flag⟩) (by decide) rfl)
  have hid : e.attribute? "id" = some s.id :=
    Form.text_some (h.attributes.column (c := ⟨"id", "id", .text⟩) (by decide) rfl)
  have hpackage : e.attribute? "packageName" = s.packageName :=
    Form.text_option
      (h.attributes.column (c := ⟨"package_name", "packageName", .text⟩) (by decide) rfl)
  have hintent : e.attribute? "intentAction" = s.intentAction :=
    Form.text_option
      (h.attributes.column (c := ⟨"intent_action", "intentAction", .text⟩) (by decide) rfl)
  have hreceiver : e.attribute? "broadcastReceiverClassName" = s.receiver :=
    Form.text_option (h.attributes.column
      (c := ⟨"broadcast_receiver_class_name", "broadcastReceiverClassName", .text⟩)
      (by decide) rfl)
  rw [RawSource.ofElement, hkind, hprofile, hstate, hseverity, hlog, hrefresh, hid, hpackage,
    hintent, hreceiver]
  rfl

theorem convert_asRead (h : SpellsSource scope e s.toJson) (hs : s.Valid) :
    convertSource scope (some (s.asRead e)) = .ok s := by
  have htitle : scope.resolveOptional .source .title (e.attribute? "title") = .ok s.title :=
    Form.resolveOptional_reference
      (h.attributes.column (c := ⟨"title_res_id", "title", .reference⟩) (by decide) rfl)
  have hwork : scope.resolveOptional .source .titleForWork (e.attribute? "titleForWork") =
      .ok s.titleForWork :=
    Form.resolveOptional_reference (h.attributes.column
      (c := ⟨"title_for_work_res_id", "titleForWork", .reference⟩) (by decide) rfl)
  have hsummary : scope.resolveOptional .source .summary (e.attribute? "summary") = .ok s.summary :=
    Form.resolveOptional_reference
      (h.attributes.column (c := ⟨"summary_res_id", "summary", .reference⟩) (by decide) rfl)
  have hterms : scope.resolveOptional .source .searchTerms (e.attribute? "searchTerms") =
      .ok s.searchTerms :=
    Form.resolveOptional_reference (h.attributes.column
      (c := ⟨"search_terms_res_id", "searchTerms", .reference⟩) (by decide) rfl)
  have hdraft : (s.asRead e).toDraft s.title s.titleForWork s.summary s.searchTerms = s.toDraft :=
    rfl
  simp only [convertSource, RawSource.convert, bind_eq_ok_iff]
  refine ⟨_, htitle, _, hwork, _, hsummary, _, hterms, ?_⟩
  rw [hdraft, Source.build_toDraft hs]
  rfl

end SpellsSource

theorem mapM_reads_back {α β γ ε ε' : Type} {read : α → Except ε β}
    {convert : Option β → Except ε' γ} {spells : α → γ → Prop} {p : γ → Prop}
    (hback : ∀ a c, spells a c → p c → ∃ b, read a = .ok b ∧ convert (some b) = .ok c)
    {as : List α} {cs : List γ} (h : List.Forall₂ spells as cs) (hp : ∀ c ∈ cs, p c) :
    ∃ bs, as.mapM read = .ok bs ∧ (bs.map some).mapM convert = .ok cs := by
  simp only [mapM_eq_ok_iff, List.forall₂_map_left_iff]
  induction h with
  | nil => exact ⟨[], .nil, .nil⟩
  | cons hac _ ih =>
    obtain ⟨hpc, hpcs⟩ := List.forall_mem_cons.mp hp
    obtain ⟨b, hread, hconvert⟩ := hback _ _ hac hpc
    obtain ⟨bs, hreads, hconverts⟩ := ih hpcs
    exact ⟨b :: bs, .cons hread hreads, .cons hconvert hconverts⟩

theorem Element.childrenTagged_eq_children {α : Type} {e : Element} {tag : String}
    {spells : Element → α → Prop} (htag : ∀ child a, spells child a → child.tag = tag)
    {items : List α} (h : List.Forall₂ spells e.children items) :
    e.childrenTagged tag = e.children := by
  have htagged : List.Forall₂ (fun child a => child.tag = tag ∧ spells child a) e.children items :=
    h.imp fun child a ha => ⟨htag child a ha, ha⟩
  rw [childrenTagged, List.filter_eq_self]
  intro child hchild
  exact beq_iff_eq.mpr ((List.forall₂_and_left _ _).mp htagged |>.1 child hchild)

theorem SpellsGroup.reads_back {scope : ResourceScope} {e : Element} {g : Group}
    (h : SpellsGroup scope e g.toJson) (hg : g.Valid) (hshort : ∀ s ∈ g.sources, s.Short) :
    ∃ r, RawGroup.ofElement e = .ok r ∧ convertGroup scope (some r) = .ok g := by
  have hicon : readCode .icon IconKind.named (e.attribute? "statelessIconType") = .ok g.icon.code :=
    Form.readCode_name (h.attributes.column
      (c := ⟨"stateless_icon_type", "statelessIconType", .name⟩) (by decide) rfl)
      (by cases g.icon <;> decide) (by cases g.icon <;> decide)
  have hid : e.attribute? "id" = some g.id :=
    Form.text_some (h.attributes.column (c := ⟨"id", "id", .text⟩) (by decide) rfl)
  have htitle : scope.resolveOptional .sourcesGroup .title (e.attribute? "title") = .ok g.title :=
    Form.resolveOptional_reference
      (h.attributes.column (c := ⟨"title_res_id", "title", .reference⟩) (by decide) rfl)
  have hsummary : scope.resolveOptional .sourcesGroup .summary (e.attribute? "summary") =
      .ok g.summary :=
    Form.resolveOptional_reference
      (h.attributes.column (c := ⟨"summary_res_id", "summary", .reference⟩) (by decide) rfl)
  obtain ⟨items, hitems, hspelled⟩ := h.sources
  have hfield : g.toJson.field? "safety_sources" = some (.array (g.sources.map Source.toJson)) :=
    Json.field?_record _ _
  rw [hfield] at hitems
  cases hitems
  have htagged : e.childrenTagged "safety-source" = e.children :=
    Element.childrenTagged_eq_children (fun _ _ hs => hs.tag) hspelled
  rw [List.forall₂_map_right_iff] at hspelled
  obtain ⟨sources, hreads, hconverts⟩ := mapM_reads_back
    (fun child s hs hp => ⟨s.asRead child, hs.ofElement_eq hp.2, hs.convert_asRead hp.1⟩)
    hspelled (p := fun s => s.Valid ∧ s.Short)
    (fun s hs => ⟨hg.sourcesValid s hs, hshort s hs⟩)
  refine ⟨⟨some g.id, e.attribute? "title", e.attribute? "summary", g.icon.code,
    sources.map some⟩, ?_, ?_⟩
  · simp only [RawGroup.ofElement, bind_eq_ok_iff, ElementName.label, htagged]
    exact ⟨_, hicon, _, hreads, by rw [hid]; rfl⟩
  · simp only [convertGroup, RawGroup.convert, bind_eq_ok_iff]
    refine ⟨_, htitle, _, hsummary, _, hconverts, ?_⟩
    have hdraft : GroupDraft.mk (some g.id) g.title g.summary g.icon.code g.sources = g.toDraft :=
      rfl
    rw [hdraft, Group.build_toDraft hg.toComplete]
    rfl

theorem SpellsConfig.reads_back {scope : ResourceScope} {e : Element} {c : Config}
    (h : SpellsConfig scope e c.toJson) (hc : c.Valid) (hshort : ∀ s ∈ c.sources, s.Short) :
    ∃ raw, RawConfig.ofElement e = .ok raw ∧ convertConfig scope (some raw) = .ok c := by
  obtain ⟨s, items, hchildren, htag, hitems, hspelled⟩ := h.groups
  have hfield : c.toJson.field? "safety_sources_groups" =
      some (.array (c.groups.map Group.toJson)) :=
    Json.field?_record _ _
  rw [hfield] at hitems
  cases hitems
  have hchild : e.childTagged? "safety-sources-config" = some s := by
    rw [Element.childTagged?, hchildren, List.find?_cons_of_pos]
    exact beq_iff_eq.mpr htag
  have htagged : s.childrenTagged "safety-sources-group" = s.children :=
    Element.childrenTagged_eq_children (fun _ _ hg => hg.tag) hspelled
  rw [List.forall₂_map_right_iff] at hspelled
  obtain ⟨groups, hreads, hconverts⟩ := mapM_reads_back
    (fun child g hg hp => hg.reads_back hp.1 hp.2)
    hspelled (p := fun g => g.Valid ∧ ∀ s ∈ g.sources, s.Short)
    (fun g hg => ⟨hc.groupsValid g hg,
      fun s hs => hshort s (List.mem_flatMap.mpr ⟨g, hg, hs⟩)⟩)
  refine ⟨⟨some ⟨some (groups.map some)⟩⟩, ?_, ?_⟩
  · simp only [RawConfig.ofElement, ElementName.label, hchild, htagged, bind_eq_ok_iff]
    exact ⟨_, hreads, rfl⟩
  · simp only [convertConfig, RawConfig.convert, bind_eq_ok_iff]
    refine ⟨_, hconverts, ?_⟩
    have hbuild : (ConfigDraft.mk c.groups).build = .ok c := Config.build_toDraft hc.groups
    rw [hbuild]
    rfl

/-- Whatever references a tree uses for the resources, it reads back as what it spells. -/
theorem built_config_reads_back (scope : ResourceScope) (steps : List Step) (c : Config)
    (hbuilt : Except.ok (Reply.entity (some (.config c))) ∈ (Session.run {} steps).1)
    (hshort : ∀ s ∈ c.sources, s.Short) (e : Element) (h : SpellsConfig scope e c.toJson) :
    ∃ raw, RawConfig.ofElement e = .ok raw ∧ convertConfig scope (some raw) = .ok c := by
  have hvalid : (Entity.config c).Valid :=
    (Session.sound_run Session.sound_empty steps).2 _ hbuilt _ rfl
  exact h.reads_back hvalid hshort

/-- A source with a title and a severity, alone in its group. -/
private def shieldSteps : List Step := [
  .new "s" .source none,
  .set "s" (.source (.kind 2)),
  .set "s" (.source (.id (some "lock"))),
  .set "s" (.source (.packageName (some "app"))),
  .set "s" (.source (.intentAction (some "open"))),
  .set "s" (.source (.title 7)),
  .set "s" (.source (.maxSeverity (some 400))),
  .build "s" (some "lock"),
  .new "g" .group none,
  .set "g" (.group (.id (some "device"))),
  .add "g" "lock",
  .build "g" (some "device"),
  .new "c" .config none,
  .add "c" "device",
  .build "c" none]

private def shieldConfig : Config :=
  ⟨[⟨"device", 0, 0, .none, [⟨.dynamic, "lock", some "app", 7, 0, 0, some "open", .primary,
    .enabled, some 400, 0, none, false, false⟩]⟩]⟩

private def shieldScope : ResourceScope :=
  ⟨some (Text.ofString "app"),
    ⟨[(Text.ofString "app", [(Text.ofString "string/lock", 7)])]⟩⟩

theorem shield_reads_back :
    SpellsConfig shieldScope (shieldConfig.spell fun _ => "@string/lock") shieldConfig.toJson ∧
    ∃ raw, RawConfig.ofElement (shieldConfig.spell fun _ => "@string/lock") = .ok raw ∧
      convertConfig shieldScope (some raw) = .ok shieldConfig := by
  have hspells : SpellsConfig shieldScope (shieldConfig.spell fun _ => "@string/lock")
      shieldConfig.toJson := by
    refine Config.spells_spell fun n hn hne => ⟨⟨"", ""⟩, ?_⟩
    have hseven : n = 7 := by
      revert n
      decide
    rw [hseven]
    decide +kernel
  refine ⟨hspells, built_config_reads_back shieldScope shieldSteps shieldConfig ?_ ?_ _ hspells⟩
  · exact List.mem_of_getElem? (i := 14) rfl
  · intro s hs n hn
    obtain rfl := List.mem_singleton.mp hs
    cases hn
    decide +kernel

end SafetyConfig
