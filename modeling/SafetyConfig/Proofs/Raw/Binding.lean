import SafetyConfig.Proofs.Raw.AttributeFault

/-!
# What a tree is read as

A tree is read unless one of its values is malformed, and then the first malformed value decides
what is reported: groups come in document order, a group before the sources in it, and the values of
an element in an order of their own, wherever its attributes stand. Otherwise each field of the raw
tree is the text of an attribute, or the value that this text is read as.
-/

namespace SafetyConfig

/-! Malformed values. -/

/-- The attribute is there, and its text is no value of the form that it should have. -/
def ValuePlace.Malformed (p : ValuePlace) : Prop :=
  ∃ text, p.text? = some text ∧ ¬ p.form.Accepts text

/-- One of these attributes of the element is malformed. -/
def Element.HasMalformed (e : Element) (forms : List (Field × ValueForm)) : Prop :=
  ∃ entry ∈ forms, ValuePlace.Malformed ⟨e, entry.1, entry.2⟩

theorem ValueForm.accepts_of_fault? {form : ValueForm} {field : Field} {text : String}
    (hform : (field, form) ∈ valueForms) (h : form.fault? field (some text) = none) :
    form.Accepts text := by
  cases form with
  | code names =>
    obtain ⟨n, hn⟩ := failure?_eq_none_iff.mp h
    exact ⟨n, (readCode_eq_ok_iff (unambiguous_of_mem hform)).mp hn⟩
  | integer =>
    obtain ⟨value, hvalue⟩ := failure?_eq_none_iff.mp h
    obtain ⟨n, -, hn⟩ := readInteger_eq_ok_iff.mp hvalue
    exact ⟨n, hn⟩
  | boolean =>
    obtain ⟨b, hb⟩ := failure?_eq_none_iff.mp h
    exact ⟨b, readBoolean_eq_ok_iff.mp hb⟩

namespace ValuePlace

variable {p : ValuePlace}

/-- A place is malformed just where its reader finds a fault. -/
theorem malformed_iff (hform : (p.field, p.form) ∈ valueForms) :
    p.Malformed ↔ ∃ f, p.fault? = some f := by
  rw [Malformed, fault?]
  cases p.text? with
  | none => simp [ValueForm.fault?_none]
  | some text =>
    simp only [Option.some.injEq, exists_eq_left']
    constructor
    · intro h
      rw [← Option.isSome_iff_exists, Option.isSome_iff_ne_none]
      exact fun hnone => h (ValueForm.accepts_of_fault? hform hnone)
    · rintro ⟨f, hf⟩
      exact ValueForm.not_accepts_of_fault? hform hf

theorem fault?_eq_none_iff (hform : (p.field, p.form) ∈ valueForms) :
    p.fault? = none ↔ ¬ p.Malformed := by
  rw [malformed_iff hform, ← Option.isSome_iff_exists, Bool.not_eq_true, Option.isSome_eq_false_iff,
    Option.isNone_iff_eq_none]

end ValuePlace

namespace Element

variable {root : Element}

theorem mem_sourcePlaces_iff {e : Element} {p : ValuePlace} :
    p ∈ e.sourcePlaces ↔ ∃ entry ∈ RawSource.forms, ⟨e, entry.1, entry.2⟩ = p := by
  rw [sourcePlaces, List.mem_map]

theorem mem_groupPlaces_iff {e : Element} {p : ValuePlace} :
    p ∈ e.groupPlaces ↔ (∃ entry ∈ RawGroup.forms, ⟨e, entry.1, entry.2⟩ = p) ∨
      ∃ s ∈ e.childrenTagged "safety-source", p ∈ s.sourcePlaces := by
  rw [groupPlaces, List.mem_append, List.mem_map, List.mem_flatMap]
  rfl

theorem mem_groupElements_iff {g : Element} :
    g ∈ root.groupElements ↔ ∃ list, root.childTagged? "safety-sources-config" = some list ∧
      g ∈ list.childrenTagged "safety-sources-group" := by
  have hlist : ElementName.sourcesConfig.label = "safety-sources-config" := rfl
  have hgroup : ElementName.sourcesGroup.label = "safety-sources-group" := rfl
  rw [groupElements, hlist]
  cases root.childTagged? "safety-sources-config" <;> simp [hgroup]

/-- The malformed values, level by level. -/
theorem exists_malformed_iff :
    (∃ p ∈ root.valuePlaces, p.Malformed) ↔ ∃ g ∈ root.groupElements,
      g.HasMalformed RawGroup.forms ∨
        ∃ s ∈ g.childrenTagged "safety-source", s.HasMalformed RawSource.forms := by
  constructor
  · rintro ⟨p, hp, hmalformed⟩
    obtain ⟨g, hg, hplace⟩ := List.mem_flatMap.mp hp
    refine ⟨g, hg, ?_⟩
    rcases mem_groupPlaces_iff.mp hplace with ⟨entry, hentry, rfl⟩ | ⟨s, hs, hsource⟩
    · exact Or.inl ⟨entry, hentry, hmalformed⟩
    · obtain ⟨entry, hentry, rfl⟩ := mem_sourcePlaces_iff.mp hsource
      exact Or.inr ⟨s, hs, entry, hentry, hmalformed⟩
  · rintro ⟨g, hg, ⟨entry, hentry, hmalformed⟩ | ⟨s, hs, entry, hentry, hmalformed⟩⟩
    · exact ⟨_, List.mem_flatMap.mpr ⟨g, hg, mem_groupPlaces_iff.mpr (Or.inl ⟨entry, hentry, rfl⟩)⟩,
        hmalformed⟩
    · have hsource : ⟨s, entry.1, entry.2⟩ ∈ s.sourcePlaces :=
        mem_sourcePlaces_iff.mpr ⟨entry, hentry, rfl⟩
      exact ⟨_, List.mem_flatMap.mpr ⟨g, hg, mem_groupPlaces_iff.mpr (Or.inr ⟨s, hs, hsource⟩)⟩,
        hmalformed⟩

end Element

/-! What is recorded of an element. -/

/-- Texts are taken over as they are, absent ones too; the other fields are what their attributes
are read as. -/
structure RawSource.Records (s : RawSource) (e : Element) : Prop where
  kind : readCode .kind SourceKind.named (e.attribute? "type") = .ok s.kind
  id : s.id = e.attribute? "id"
  packageName : s.packageName = e.attribute? "packageName"
  title : s.title = e.attribute? "title"
  titleForWork : s.titleForWork = e.attribute? "titleForWork"
  summary : s.summary = e.attribute? "summary"
  intentAction : s.intentAction = e.attribute? "intentAction"
  profile : readCode .profile Profile.named (e.attribute? "profile") = .ok s.profile
  displayState :
    readCode .displayState DisplayState.named (e.attribute? "initialDisplayState") =
      .ok s.displayState
  maxSeverity : readInteger .maxSeverity (e.attribute? "maxSeverityLevel") = .ok s.maxSeverity
  searchTerms : s.searchTerms = e.attribute? "searchTerms"
  receiver : s.receiver = e.attribute? "broadcastReceiverClassName"
  disallowLogging :
    readBoolean .disallowLogging (e.attribute? "disallowLogging") = .ok s.disallowLogging
  refreshOnOpen :
    readBoolean .refreshOnOpen (e.attribute? "allowRefreshOnPageOpen") = .ok s.refreshOnOpen

structure RawGroup.Records (g : RawGroup) (e : Element) : Prop where
  id : g.id = e.attribute? "id"
  title : g.title = e.attribute? "title"
  summary : g.summary = e.attribute? "summary"
  icon : readCode .icon IconKind.named (e.attribute? "statelessIconType") = .ok g.icon
  sources : ∃ sources : List RawSource, g.sources = sources.map some ∧
    List.Forall₂ (fun child s => s.Records child) (e.childrenTagged "safety-source") sources

/-- The groups are those of the first list of sources; without one there is nothing to record. -/
def RawConfig.Records (raw : RawConfig) (root : Element) : Prop :=
  match root.childTagged? "safety-sources-config" with
  | none => raw = ⟨none⟩
  | some list => ∃ groups : List RawGroup, raw = ⟨some ⟨some (groups.map some)⟩⟩ ∧
    List.Forall₂ (fun e g => g.Records e) (list.childrenTagged "safety-sources-group") groups

theorem RawSource.ofElement_eq_ok_iff {e : Element} {s : RawSource} :
    ofElement e = .ok s ↔ s.Records e := by
  simp only [ofElement, bind_eq_ok_iff, pure_eq_ok_iff]
  constructor
  · rintro ⟨kind, hkind, profile, hprofile, state, hstate, severity, hseverity, logging, hlogging,
      refresh, hrefresh, rfl⟩
    exact ⟨hkind, rfl, rfl, rfl, rfl, rfl, rfl, hprofile, hstate, hseverity, rfl, rfl, hlogging,
      hrefresh⟩
  · intro h
    refine ⟨_, h.kind, _, h.profile, _, h.displayState, _, h.maxSeverity, _, h.disallowLogging, _,
      h.refreshOnOpen, ?_⟩
    rw [← h.id, ← h.packageName, ← h.title, ← h.titleForWork, ← h.summary, ← h.intentAction,
      ← h.searchTerms, ← h.receiver]

theorem RawGroup.ofElement_eq_ok_iff {e : Element} {g : RawGroup} :
    ofElement e = .ok g ↔ g.Records e := by
  simp only [ofElement, bind_eq_ok_iff, pure_eq_ok_iff, mapM_eq_ok_iff,
    RawSource.ofElement_eq_ok_iff]
  constructor
  · rintro ⟨icon, hicon, sources, hsources, rfl⟩
    exact ⟨rfl, rfl, rfl, hicon, sources, rfl, hsources⟩
  · intro h
    obtain ⟨sources, hmap, hsources⟩ := h.sources
    refine ⟨_, h.icon, sources, hsources, ?_⟩
    rw [← h.id, ← h.title, ← h.summary, ← hmap]

theorem RawConfig.ofElement_eq_ok_iff {root : Element} {raw : RawConfig} :
    ofElement root = .ok raw ↔ raw.Records root := by
  have hlabel : ElementName.sourcesConfig.label = "safety-sources-config" := rfl
  rw [ofElement, Records, hlabel]
  cases root.childTagged? "safety-sources-config" with
  | none => simp [eq_comm]
  | some list =>
    simp only [bind_eq_ok_iff, pure_eq_ok_iff, mapM_eq_ok_iff, RawGroup.ofElement_eq_ok_iff]
    constructor
    · rintro ⟨groups, hgroups, rfl⟩
      exact ⟨groups, rfl, hgroups⟩
    · rintro ⟨groups, rfl, hgroups⟩
      exact ⟨groups, hgroups, rfl⟩

/-- The fault reported is that of the first malformed value. -/
theorem RawConfig.ofElement_eq_error_iff {root : Element} {f : AttributeFault} :
    ofElement root = .error f ↔ ∃ before p after, root.valuePlaces = before ++ p :: after ∧
      (∀ q ∈ before, ¬ q.Malformed) ∧ p.Malformed ∧ p.fault? = some f := by
  rw [← failure?_eq_some_iff, failure?_config, List.findSome?_eq_some_iff]
  have hform : ∀ q ∈ root.valuePlaces, (q.field, q.form) ∈ valueForms :=
    fun q hq => Element.form_mem_of_mem_valuePlaces hq
  constructor
  · rintro ⟨before, p, after, heq, hfault, hpassed⟩
    rw [heq] at hform
    refine ⟨before, p, after, heq, fun q hq => ?_, ?_, hfault⟩
    · exact (ValuePlace.fault?_eq_none_iff (hform q (by simp [hq]))).mp (hpassed q hq)
    · exact (ValuePlace.malformed_iff (hform p (by simp))).mpr ⟨f, hfault⟩
  · rintro ⟨before, p, after, heq, hpassed, -, hfault⟩
    rw [heq] at hform
    refine ⟨before, p, after, heq, hfault, fun q hq => ?_⟩
    exact (ValuePlace.fault?_eq_none_iff (hform q (by simp [hq]))).mpr (hpassed q hq)

theorem RawConfig.exists_ofElement_eq_error_iff {root : Element} :
    (∃ f, ofElement root = .error f) ↔ ∃ p ∈ root.valuePlaces, p.Malformed := by
  simp only [← failure?_eq_some_iff, failure?_config, ← Option.isSome_iff_exists,
    List.findSome?_isSome_iff]
  refine exists_congr fun p => and_congr_right fun hp => ?_
  rw [ValuePlace.malformed_iff (Element.form_mem_of_mem_valuePlaces hp),
    Option.isSome_iff_exists]

/-- Reading a tree fails just where a value that is read is malformed, in a group of the first list
of sources or in a source of such a group. What is reported is the fault of the first malformed
value. Without one there is a raw tree, and that is the record of the elements, every text in it
being that of its attribute. -/
theorem first_malformed_value_ends_reading (root : Element) :
    ((∃ f, RawConfig.ofElement root = .error f) ↔
      ∃ list g, root.childTagged? "safety-sources-config" = some list ∧
        g ∈ list.childrenTagged "safety-sources-group" ∧
          (g.HasMalformed [(.icon, .code IconKind.named)] ∨
            ∃ s ∈ g.childrenTagged "safety-source", s.HasMalformed
              [(.kind, .code SourceKind.named), (.profile, .code Profile.named),
                (.displayState, .code DisplayState.named), (.maxSeverity, .integer),
                (.disallowLogging, .boolean), (.refreshOnOpen, .boolean)])) ∧
    (∀ f, RawConfig.ofElement root = .error f ↔
      ∃ before p after, root.valuePlaces = before ++ p :: after ∧
        (∀ q ∈ before, ¬ q.Malformed) ∧ p.Malformed ∧ p.fault? = some f) ∧
    ∀ raw, RawConfig.ofElement root = .ok raw ↔ raw.Records root := by
  refine ⟨?_, fun f => RawConfig.ofElement_eq_error_iff, fun raw => RawConfig.ofElement_eq_ok_iff⟩
  rw [RawConfig.exists_ofElement_eq_error_iff, Element.exists_malformed_iff]
  constructor
  · rintro ⟨g, hg, hmalformed⟩
    obtain ⟨list, hlist, hmem⟩ := Element.mem_groupElements_iff.mp hg
    exact ⟨list, g, hlist, hmem, hmalformed⟩
  · rintro ⟨list, g, hlist, hmem, hmalformed⟩
    exact ⟨g, Element.mem_groupElements_iff.mpr ⟨list, hlist, hmem⟩, hmalformed⟩

/-- The kind is looked at before the flag, which is written before it. -/
example : RawConfig.ofElement (rootOf (groupOf [lockElement
    [("disallowLogging", "maybe"), ("type", "bogus")]])) =
      .error (.notAmong .kind "bogus" ["static", "dynamic", "issue_only"]) := by rfl

end SafetyConfig
