import SafetyConfig.Proofs.Number.ReadBack
import SafetyConfig.Proofs.Resource.Reference
import SafetyConfig.Raw.Reader

/-!
# What a document is rejected for

Reading leaves no element out, so conversion has only three things to report: a document
without sources, a rule that an element breaks and a reference that does not resolve. The
numbers and texts in a report are those of the document.
-/

namespace SafetyConfig

namespace Element

/-- The groups of a document with this root. -/
def groupElements (root : Element) : List Element :=
  match root.childTagged? ElementName.sourcesConfig.label with
  | none => []
  | some s => s.childrenTagged ElementName.sourcesGroup.label

def sourceElements (root : Element) : List Element :=
  root.groupElements.flatMap (·.childrenTagged ElementName.source.label)

theorem tag_of_mem_groupElements {root e : Element} (h : e ∈ root.groupElements) :
    e.tag = ElementName.sourcesGroup.label := by
  unfold groupElements at h
  split at h
  · cases h
  · exact tag_of_mem_childrenTagged h

theorem tag_of_mem_sourceElements {root e : Element} (h : e ∈ root.sourceElements) :
    e.tag = ElementName.source.label := by
  obtain ⟨g, _, hg⟩ := List.mem_flatMap.mp h
  exact tag_of_mem_childrenTagged hg

end Element

/-- The attributes that hold references, with the elements they belong to. -/
def referencePlaces : List Place := [
  ⟨"safety-sources-group", "title"⟩,
  ⟨"safety-sources-group", "summary"⟩,
  ⟨"safety-source", "title"⟩,
  ⟨"safety-source", "titleForWork"⟩,
  ⟨"safety-source", "summary"⟩,
  ⟨"safety-source", "searchTerms"⟩]

/-- Some element of the document has a text where a reference belongs. -/
structure Element.HoldsReference (root : Element) (place : Place) (text : String) : Prop where
  known : place ∈ referencePlaces
  held : ∃ e ∈ root.groupElements ++ root.sourceElements,
    e.tag = place.parent ∧ e.attribute? place.name = some text

/-- Everything that the conversion of a document can report. -/
inductive Rejection (scope : ResourceScope) (root : Element) : ConversionError → Prop
  | noSources (h : root.childTagged? ElementName.sourcesConfig.label = none) :
      Rejection scope root (.missingElement .sourcesConfig)
  | broken (v : Violation) (h : v.reason.Showable) :
      Rejection scope root (.invalidElement v.entity (some v))
  | unresolved {place : Place} {text : String} {e : ConversionError}
      (held : root.HoldsReference place text) (h : scope.resolve place text = .error e) :
      Rejection scope root e

/-! What reading makes of the elements. -/

theorem short_of_readCode {field : Field} {names : List (String × Int)} {text : Option String}
    {n : Int} (hnames : ∀ p ∈ names, Numeral.Short p.2) (h : readCode field names text = .ok n) :
    Numeral.Short n := by
  cases text with
  | none =>
    cases h
    decide +kernel
  | some text =>
    simp only [readCode] at h
    split at h
    · rename_i code hcode
      cases h
      obtain ⟨before, after, rfl, _⟩ := List.lookup_eq_some_iff.mp hcode
      exact hnames _ (List.mem_append_right _ List.mem_cons_self)
    · split at h
      · unfold readCodeNumeral at h
        split at h
        · rename_i hread
          cases h
          exact Numeral.short_of_read hread
        · cases h
        · cases h
      · cases h

theorem named_short :
    (∀ p ∈ SourceKind.named, Numeral.Short p.2) ∧ (∀ p ∈ Profile.named, Numeral.Short p.2) ∧
    (∀ p ∈ DisplayState.named, Numeral.Short p.2) ∧ ∀ p ∈ IconKind.named, Numeral.Short p.2 := by
  decide +kernel

structure RawSource.ReadFrom (r : RawSource) (e : Element) : Prop where
  kind : Numeral.Short r.kind
  profile : Numeral.Short r.profile
  displayState : Numeral.Short r.displayState
  title : r.title = e.attribute? Field.title.label
  titleForWork : r.titleForWork = e.attribute? Field.titleForWork.label
  summary : r.summary = e.attribute? Field.summary.label
  searchTerms : r.searchTerms = e.attribute? Field.searchTerms.label

theorem RawSource.readFrom_of_ofElement {e : Element} {r : RawSource}
    (h : RawSource.ofElement e = .ok r) : r.ReadFrom e := by
  simp only [ofElement, bind_eq_ok_iff, pure_eq_ok_iff] at h
  obtain ⟨kind, hkind, profile, hprofile, state, hstate, _, _, _, _, _, _, rfl⟩ := h
  obtain ⟨hkinds, hprofiles, hstates, _⟩ := named_short
  exact {
    kind := short_of_readCode hkinds hkind
    profile := short_of_readCode hprofiles hprofile
    displayState := short_of_readCode hstates hstate
    title := rfl
    titleForWork := rfl
    summary := rfl
    searchTerms := rfl }

/-- No source is left out, and none is there that was not read. -/
structure RawGroup.ReadFrom (r : RawGroup) (e : Element) : Prop where
  icon : Numeral.Short r.icon
  title : r.title = e.attribute? Field.title.label
  summary : r.summary = e.attribute? Field.summary.label
  sources : ∀ item ∈ r.sources, ∃ s, item = some s ∧
    ∃ child ∈ e.childrenTagged ElementName.source.label, s.ReadFrom child

theorem RawGroup.readFrom_of_ofElement {e : Element} {r : RawGroup}
    (h : RawGroup.ofElement e = .ok r) : r.ReadFrom e := by
  simp only [ofElement, bind_eq_ok_iff, pure_eq_ok_iff] at h
  obtain ⟨icon, hicon, sources, hsources, rfl⟩ := h
  obtain ⟨_, _, _, hicons⟩ := named_short
  refine ⟨short_of_readCode hicons hicon, rfl, rfl, ?_⟩
  intro item hitem
  obtain ⟨s, hs, rfl⟩ := List.mem_map.mp hitem
  obtain ⟨child, hchild, hread⟩ := exists_mem_of_mapM_eq_ok hsources hs
  exact ⟨s, rfl, child, hchild, RawSource.readFrom_of_ofElement hread⟩

/-- Sources are missing as a whole, or there is a list of groups that are all there. -/
theorem RawConfig.eq_of_ofElement {root : Element} {r : RawConfig}
    (h : RawConfig.ofElement root = .ok r) :
    (r = ⟨none⟩ ∧ root.childTagged? ElementName.sourcesConfig.label = none) ∨
    ∃ groups, r = ⟨some ⟨some groups⟩⟩ ∧ ∀ item ∈ groups, ∃ g, item = some g ∧
      ∃ child ∈ root.groupElements, g.ReadFrom child := by
  unfold ofElement at h
  cases hchild : root.childTagged? ElementName.sourcesConfig.label with
  | none =>
    simp only [hchild] at h
    cases h
    exact Or.inl ⟨rfl, rfl⟩
  | some s =>
    simp only [hchild, bind_eq_ok_iff, pure_eq_ok_iff] at h
    obtain ⟨groups, hgroups, rfl⟩ := h
    refine Or.inr ⟨_, rfl, ?_⟩
    intro item hitem
    obtain ⟨g, hg, rfl⟩ := List.mem_map.mp hitem
    obtain ⟨child, hmem, hread⟩ := exists_mem_of_mapM_eq_ok hgroups hg
    refine ⟨g, rfl, child, ?_, RawGroup.readFrom_of_ofElement hread⟩
    rw [Element.groupElements, hchild]
    exact hmem

/-! What each part of the conversion reports. -/

theorem SourceDraft.rules_showable {d : SourceDraft} (hkind : Numeral.Short d.kind.code)
    (hprofile : Numeral.Short d.profile.code) (hstate : Numeral.Short d.displayState.code) :
    ∀ q ∈ d.rules, q.reason.Showable := by
  have hkindRules : ∀ q ∈ d.kindRules, q.reason.Showable := by
    unfold kindRules
    split <;> simp [staticRules, dynamicRules, issueOnlyRules, Reason.Showable]
  simp only [rules, List.forall_mem_append, List.forall_mem_cons]
  exact ⟨⟨⟨hkind, trivial, trivial, hprofile, hstate, trivial, List.forall_mem_nil _⟩, hkindRules⟩,
    trivial, List.forall_mem_nil _⟩

theorem GroupDraft.rules_showable {d : GroupDraft} (hicon : Numeral.Short d.icon.code) :
    ∀ q ∈ d.rules, q.reason.Showable := by
  simp only [rules, List.forall_mem_cons]
  exact ⟨trivial, hicon, trivial, List.forall_mem_nil _⟩

theorem RawSource.ReadFrom.rules_showable {r : RawSource} {e : Element} (hr : r.ReadFrom e)
    {title titleForWork summary searchTerms : ResourceId} :
    ∀ q ∈ (r.toDraft title titleForWork summary searchTerms).rules, q.reason.Showable :=
  SourceDraft.rules_showable hr.kind hr.profile hr.displayState

theorem RawGroup.ReadFrom.rules_showable {r : RawGroup} {e : Element} (hr : r.ReadFrom e)
    {title summary : ResourceId} {sources : List Source} :
    ∀ q ∈ (GroupDraft.mk r.id title summary r.icon sources).rules, q.reason.Showable :=
  GroupDraft.rules_showable hr.icon

theorem ConfigDraft.rules_showable {d : ConfigDraft} : ∀ q ∈ d.rules, q.reason.Showable := by
  simp only [rules, List.forall_mem_cons]
  exact ⟨trivial, List.forall_mem_nil _⟩

namespace Rejection

variable {scope : ResourceScope} {root : Element} {err : ConversionError}

theorem of_check {α : Type} {element : ElementName} {rules : List Rule} {settled : α}
    (hrules : ∀ q ∈ rules, q.reason.Showable)
    (h : orInvalid element (Rule.check element rules settled) = .error err) :
    Rejection scope root err := by
  obtain ⟨b, hb, rfl⟩ := orInvalid_eq_error_iff.mp h
  obtain ⟨q, hq, _, rfl⟩ := Rule.exists_broken_of_check hb
  have hshowable : q.reason.Showable := hrules q hq
  rw [Violation.raised, if_pos hshowable]
  exact .broken ⟨element, q.field, q.reason⟩ hshowable

theorem of_resolveOptional {e : Element} {element : ElementName} {field : Field}
    (hplace : ⟨element.label, field.label⟩ ∈ referencePlaces)
    (he : e ∈ root.groupElements ++ root.sourceElements) (htag : e.tag = element.label)
    (h : scope.resolveOptional element field (e.attribute? field.label) = .error err) :
    Rejection scope root err := by
  cases htext : e.attribute? field.label with
  | none =>
    rw [htext] at h
    cases h
  | some text =>
    rw [htext] at h
    exact .unresolved ⟨hplace, e, he, htag, htext⟩ h

theorem of_source {r : RawSource} {e : Element} (hr : r.ReadFrom e)
    (he : e ∈ root.sourceElements) (h : r.convert scope = .error err) :
    Rejection scope root err := by
  have hmem : e ∈ root.groupElements ++ root.sourceElements := List.mem_append_right _ he
  have htag : e.tag = ElementName.source.label := Element.tag_of_mem_sourceElements he
  simp only [RawSource.convert, bind_eq_error_iff, hr.title, hr.titleForWork, hr.summary,
    hr.searchTerms] at h
  rcases h with htitle | ⟨_, _, hwork | ⟨_, _, hsummary | ⟨_, _, hterms | ⟨_, _, hbuild⟩⟩⟩⟩
  · exact of_resolveOptional (by decide) hmem htag htitle
  · exact of_resolveOptional (by decide) hmem htag hwork
  · exact of_resolveOptional (by decide) hmem htag hsummary
  · exact of_resolveOptional (by decide) hmem htag hterms
  · exact of_check hr.rules_showable hbuild

theorem of_group {r : RawGroup} {e : Element} (hr : r.ReadFrom e)
    (he : e ∈ root.groupElements) (h : r.convert scope = .error err) :
    Rejection scope root err := by
  have hmem : e ∈ root.groupElements ++ root.sourceElements := List.mem_append_left _ he
  have htag : e.tag = ElementName.sourcesGroup.label := Element.tag_of_mem_groupElements he
  simp only [RawGroup.convert, bind_eq_error_iff, hr.title, hr.summary] at h
  rcases h with htitle | ⟨_, _, hsummary | ⟨_, _, hsources | ⟨_, _, hbuild⟩⟩⟩
  · exact of_resolveOptional (by decide) hmem htag htitle
  · exact of_resolveOptional (by decide) hmem htag hsummary
  · obtain ⟨item, hitem, hconvert⟩ := exists_mem_of_mapM_eq_error hsources
    obtain ⟨s, rfl, child, hchild, hs⟩ := hr.sources item hitem
    exact of_source hs (List.mem_flatMap.mpr ⟨e, he, hchild⟩) hconvert
  · exact of_check hr.rules_showable hbuild

theorem of_config {r : RawConfig} (hr : RawConfig.ofElement root = .ok r)
    (h : convertConfig scope (some r) = .error err) : Rejection scope root err := by
  rcases RawConfig.eq_of_ofElement hr with ⟨rfl, hnone⟩ | ⟨groups, rfl, hgroups⟩
  · cases h
    exact .noSources hnone
  · simp only [convertConfig, RawConfig.convert, bind_eq_error_iff] at h
    rcases h with hconvert | ⟨_, _, hbuild⟩
    · obtain ⟨item, hitem, hgroup⟩ := exists_mem_of_mapM_eq_error hconvert
      obtain ⟨g, rfl, child, hchild, hg⟩ := hgroups item hitem
      exact of_group hg hchild hgroup
    · exact of_check ConfigDraft.rules_showable hbuild

end Rejection

end SafetyConfig
