import SafetyConfig.Proofs.Draft.Build
import SafetyConfig.Proofs.Resource.Reference

/-!
# Which raw trees are configurations

A raw tree is acceptable if its elements are there and each of them keeps the rules below,
which speak of codes, of texts as they are written, and of what references resolve to.
Conversion succeeds on these trees and on no others, and gives the image of the tree: the
same tree with codes and references replaced by what they stand for.
-/

namespace SafetyConfig

namespace RawSource

structure FitsStatic (r : RawSource) : Prop where
  intentAction : Filled r.intentAction
  receiver : r.receiver = none
  displayState : r.displayState = 0
  maxSeverity : r.maxSeverity = none
  disallowLogging : r.disallowLogging = false
  refreshOnOpen : r.refreshOnOpen = false

structure FitsDynamic (r : RawSource) : Prop where
  packageName : Filled r.packageName
  intentAction : r.displayState ≠ 3 → Filled r.intentAction

structure FitsIssueOnly (r : RawSource) : Prop where
  packageName : Filled r.packageName
  title : r.title = none
  titleForWork : r.titleForWork = none
  summary : r.summary = none
  searchTerms : r.searchTerms = none
  intentAction : r.intentAction = none
  displayState : r.displayState = 0

structure Resolved (scope : ResourceScope) (r : RawSource) : Prop where
  title : scope.OptionalResolves r.title
  titleForWork : scope.OptionalResolves r.titleForWork
  summary : scope.OptionalResolves r.summary
  searchTerms : scope.OptionalResolves r.searchTerms

structure Acceptable (scope : ResourceScope) (r : RawSource) : Prop extends r.Resolved scope where
  kind : r.kind = 1 ∨ r.kind = 2 ∨ r.kind = 3
  id : Filled r.id
  profile : r.profile = 0 ∨ r.profile = 1 ∨ r.profile = 2
  displayState : r.displayState = 0 ∨ r.displayState = 1 ∨ r.displayState = 2 ∨ r.displayState = 3
  maxSeverity : ∀ n, r.maxSeverity = some n → 0 ≤ n
  workProfile : r.titleForWork ≠ none → r.profile = 2
  static : r.kind = 1 → r.FitsStatic
  dynamic : r.kind = 2 → r.FitsDynamic
  issueOnly : r.kind = 3 → r.FitsIssueOnly

def image (scope : ResourceScope) (r : RawSource) : Source where
  kind := if r.kind = 1 then .static else if r.kind = 2 then .dynamic else .issueOnly
  id := r.id.getD ""
  packageName := r.packageName
  title := scope.optionalIdentifier r.title
  titleForWork := scope.optionalIdentifier r.titleForWork
  summary := scope.optionalIdentifier r.summary
  intentAction := r.intentAction
  profile := if r.profile = 2 then .all else .primary
  displayState :=
    if r.displayState = 1 then .enabled
    else if r.displayState = 2 then .disabled
    else if r.displayState = 3 then .hidden
    else if r.kind = 2 then .enabled
    else .unspecified
  maxSeverity := r.maxSeverity
  searchTerms := scope.optionalIdentifier r.searchTerms
  receiver := r.receiver
  disallowLogging := r.disallowLogging
  refreshOnOpen := r.refreshOnOpen

variable {scope : ResourceScope} {r : RawSource}

/-- The draft that conversion builds, once the references are resolved. -/
def draft (scope : ResourceScope) (r : RawSource) : SourceDraft :=
  r.toDraft (scope.optionalIdentifier r.title) (scope.optionalIdentifier r.titleForWork)
    (scope.optionalIdentifier r.summary) (scope.optionalIdentifier r.searchTerms)

theorem fitsStatic_draft_iff : (r.draft scope).FitsStatic ↔ r.FitsStatic := by
  constructor
  · rintro ⟨hintent, hreceiver, hstate, hseverity, hlog, hrefresh⟩
    exact ⟨hintent, hreceiver, hstate, hseverity, hlog, hrefresh⟩
  · rintro ⟨hintent, hreceiver, hstate, hseverity, hlog, hrefresh⟩
    exact ⟨hintent, hreceiver, hstate, hseverity, hlog, hrefresh⟩

theorem fitsDynamic_draft_iff : (r.draft scope).FitsDynamic ↔ r.FitsDynamic := by
  constructor
  · rintro ⟨hpackage, hintent⟩
    exact ⟨hpackage, hintent⟩
  · rintro ⟨hpackage, hintent⟩
    exact ⟨hpackage, hintent⟩

/-- A reference that resolves is never to no resource, so the texts must be absent. -/
theorem fitsIssueOnly_draft_iff (h : r.Resolved scope) :
    (r.draft scope).FitsIssueOnly ↔ r.FitsIssueOnly := by
  constructor
  · rintro ⟨hpackage, htitle, hwork, hsummary, hterms, hintent, hstate⟩
    exact ⟨hpackage, h.title.eq_none_iff.mp htitle, h.titleForWork.eq_none_iff.mp hwork,
      h.summary.eq_none_iff.mp hsummary, h.searchTerms.eq_none_iff.mp hterms, hintent, hstate⟩
  · rintro ⟨hpackage, htitle, hwork, hsummary, hterms, hintent, hstate⟩
    exact ⟨hpackage, h.title.eq_none_iff.mpr htitle, h.titleForWork.eq_none_iff.mpr hwork,
      h.summary.eq_none_iff.mpr hsummary, h.searchTerms.eq_none_iff.mpr hterms, hintent, hstate⟩

theorem acceptable_iff :
    r.Acceptable scope ↔ r.Resolved scope ∧ (r.draft scope).Lawful := by
  constructor
  · intro h
    refine ⟨h.toResolved, ?_⟩
    exact {
      kind := h.kind
      id := h.id
      profile := h.profile
      displayState := h.displayState
      maxSeverity := h.maxSeverity
      workProfile := fun hne =>
        h.workProfile (fun hnone => hne (h.titleForWork.eq_none_iff.mpr hnone))
      static := fun hk => fitsStatic_draft_iff.mpr (h.static hk)
      dynamic := fun hk => fitsDynamic_draft_iff.mpr (h.dynamic hk)
      issueOnly := fun hk => (fitsIssueOnly_draft_iff h.toResolved).mpr (h.issueOnly hk) }
  · rintro ⟨hresolved, h⟩
    exact {
      toResolved := hresolved
      kind := h.kind
      id := h.id
      profile := h.profile
      displayState := h.displayState
      maxSeverity := h.maxSeverity
      workProfile := fun hne =>
        h.workProfile (fun hzero => hne (hresolved.titleForWork.eq_none_iff.mp hzero))
      static := fun hk => fitsStatic_draft_iff.mp (h.static hk)
      dynamic := fun hk => fitsDynamic_draft_iff.mp (h.dynamic hk)
      issueOnly := fun hk => (fitsIssueOnly_draft_iff hresolved).mp (h.issueOnly hk) }

theorem settled_draft (h : (r.draft scope).Lawful) : (r.draft scope).settled = r.image scope :=
  calc (r.draft scope).settled
      = { r.image scope with
          kind := (r.draft scope).settled.kind
          profile := (r.draft scope).settled.profile
          displayState := (r.draft scope).settled.displayState } := rfl
    _ = r.image scope := by
      rw [h.settled_kind, h.settled_profile, h.settled_displayState]
      rfl

theorem convert_eq_ok_iff {s : Source} :
    r.convert scope = .ok s ↔ r.Acceptable scope ∧ s = r.image scope := by
  simp only [convert, bind_eq_ok_iff, ResourceScope.resolveOptional_eq_ok_iff,
    orInvalid_eq_ok_iff, SourceDraft.build_eq_ok_iff, acceptable_iff]
  constructor
  · rintro ⟨_, ⟨htitle, rfl⟩, _, ⟨hwork, rfl⟩, _, ⟨hsummary, rfl⟩, _, ⟨hterms, rfl⟩, hlawful, rfl⟩
    exact ⟨⟨⟨htitle, hwork, hsummary, hterms⟩, hlawful⟩, settled_draft hlawful⟩
  · rintro ⟨⟨h, hlawful⟩, rfl⟩
    exact ⟨_, ⟨h.title, rfl⟩, _, ⟨h.titleForWork, rfl⟩, _, ⟨h.summary, rfl⟩, _,
      ⟨h.searchTerms, rfl⟩, hlawful, (settled_draft hlawful).symm⟩

end RawSource

/-! Lists of elements. One that could not be made sense of is acceptable nowhere. -/

theorem mapM_optional_eq_ok_iff {α β : Type} {convert : Option α → Except ConversionError β}
    {p : α → Prop} {g : α → β} (hnone : ∀ b, convert none ≠ .ok b)
    (hsome : ∀ a b, convert (some a) = .ok b ↔ p a ∧ b = g a)
    {items : List (Option α)} {bs : List β} :
    items.mapM convert = .ok bs ↔
      (∀ item ∈ items, ∃ a, item = some a ∧ p a) ∧ bs = items.filterMap (·.map g) := by
  rw [mapM_eq_ok_iff]
  induction items generalizing bs with
  | nil => simp
  | cons item items ih =>
    rw [List.forall₂_cons_left_iff, List.forall_mem_cons]
    cases item with
    | none => simp [hnone]
    | some a =>
      simp only [hsome, ih, Option.some.injEq, exists_eq_left', Option.map_some,
        List.filterMap_cons]
      constructor
      · rintro ⟨b, rest, ⟨ha, rfl⟩, ⟨hitems, rfl⟩, rfl⟩
        exact ⟨⟨ha, hitems⟩, rfl⟩
      · rintro ⟨⟨ha, hitems⟩, rfl⟩
        exact ⟨_, _, ⟨ha, rfl⟩, ⟨hitems, rfl⟩, rfl⟩

theorem filterMap_ne_nil_iff {α β : Type} {p : α → Prop} {g : α → β} {items : List (Option α)}
    (h : ∀ item ∈ items, ∃ a, item = some a ∧ p a) :
    items.filterMap (·.map g) ≠ [] ↔ items ≠ [] := by
  cases items with
  | nil => simp
  | cons item items =>
    obtain ⟨a, rfl, _⟩ := h item List.mem_cons_self
    simp

theorem convertSource_none_ne_ok {scope : ResourceScope} (s : Source) :
    convertSource scope none ≠ .ok s := by
  simp [convertSource]

namespace RawGroup

structure Acceptable (scope : ResourceScope) (r : RawGroup) : Prop where
  id : Filled r.id
  icon : r.icon = 0 ∨ r.icon = 1 ∨ r.icon = 2
  title : scope.OptionalResolves r.title
  summary : scope.OptionalResolves r.summary
  sources : r.sources ≠ []
  sourcesAcceptable : ∀ item ∈ r.sources, ∃ s, item = some s ∧ s.Acceptable scope

def image (scope : ResourceScope) (r : RawGroup) : Group where
  id := r.id.getD ""
  title := scope.optionalIdentifier r.title
  summary := scope.optionalIdentifier r.summary
  icon := if r.icon = 2 then .privacy else .none
  sources := r.sources.filterMap (·.map (RawSource.image scope))

variable {scope : ResourceScope} {r : RawGroup}

theorem settled_draft {sources : List Source} {title summary : ResourceId}
    (h : (GroupDraft.mk r.id title summary r.icon sources).Lawful) :
    (GroupDraft.mk r.id title summary r.icon sources).settled =
      ⟨r.id.getD "", title, summary, if r.icon = 2 then .privacy else .none, sources⟩ := by
  have hicon : (GroupDraft.mk r.id title summary r.icon sources).settled.icon =
      if r.icon = 2 then .privacy else .none := h.settled_icon
  rw [← hicon]
  rfl

theorem convert_eq_ok_iff {g : Group} :
    r.convert scope = .ok g ↔ r.Acceptable scope ∧ g = r.image scope := by
  have hsome : ∀ a s, convertSource scope (some a) = .ok s ↔
      a.Acceptable scope ∧ s = a.image scope := fun a s => RawSource.convert_eq_ok_iff
  simp only [convert, bind_eq_ok_iff, ResourceScope.resolveOptional_eq_ok_iff,
    mapM_optional_eq_ok_iff convertSource_none_ne_ok hsome, orInvalid_eq_ok_iff,
    GroupDraft.build_eq_ok_iff]
  constructor
  · rintro ⟨_, ⟨htitle, rfl⟩, _, ⟨hsummary, rfl⟩, _, ⟨hsources, rfl⟩, hlawful, rfl⟩
    have hne := (filterMap_ne_nil_iff hsources).mp hlawful.sources
    exact ⟨⟨hlawful.id, hlawful.icon, htitle, hsummary, hne, hsources⟩, settled_draft hlawful⟩
  · rintro ⟨h, rfl⟩
    have hne : r.sources.filterMap (·.map (RawSource.image scope)) ≠ [] :=
      (filterMap_ne_nil_iff h.sourcesAcceptable).mpr h.sources
    have hlawful : (GroupDraft.mk r.id (scope.optionalIdentifier r.title)
        (scope.optionalIdentifier r.summary) r.icon
        (r.sources.filterMap (·.map (RawSource.image scope)))).Lawful := ⟨h.id, h.icon, hne⟩
    exact ⟨_, ⟨h.title, rfl⟩, _, ⟨h.summary, rfl⟩, _, ⟨h.sourcesAcceptable, rfl⟩, hlawful,
      (settled_draft hlawful).symm⟩

end RawGroup

theorem convertGroup_none_ne_ok {scope : ResourceScope} (g : Group) :
    convertGroup scope none ≠ .ok g := by
  simp [convertGroup]

/-- A tree has a root, a sources element below it and a list of groups in that. -/
def AcceptableTree (scope : ResourceScope) : Option RawConfig → Prop
  | some ⟨some ⟨some groups⟩⟩ =>
    groups ≠ [] ∧ ∀ item ∈ groups, ∃ g, item = some g ∧ RawGroup.Acceptable scope g
  | _ => False

def imageOfTree (scope : ResourceScope) : Option RawConfig → Config
  | some ⟨some ⟨some groups⟩⟩ => ⟨groups.filterMap (·.map (RawGroup.image scope))⟩
  | _ => ⟨[]⟩

theorem convertConfig_eq_ok_iff (scope : ResourceScope) (raw : Option RawConfig) (c : Config) :
    convertConfig scope raw = .ok c ↔ AcceptableTree scope raw ∧ c = imageOfTree scope raw := by
  match raw with
  | none => simp [convertConfig, AcceptableTree]
  | some ⟨none⟩ => simp [convertConfig, RawConfig.convert, AcceptableTree]
  | some ⟨some ⟨none⟩⟩ => simp [convertConfig, RawConfig.convert, AcceptableTree]
  | some ⟨some ⟨some groups⟩⟩ =>
    have hsome : ∀ a g, convertGroup scope (some a) = .ok g ↔
        a.Acceptable scope ∧ g = a.image scope := fun a g => RawGroup.convert_eq_ok_iff
    simp only [convertConfig, RawConfig.convert, bind_eq_ok_iff, orInvalid_eq_ok_iff,
      mapM_optional_eq_ok_iff convertGroup_none_ne_ok hsome, ConfigDraft.build_eq_ok_iff,
      AcceptableTree, imageOfTree]
    constructor
    · rintro ⟨_, ⟨hgroups, rfl⟩, rfl, hne⟩
      exact ⟨⟨(filterMap_ne_nil_iff hgroups).mp hne, hgroups⟩, rfl⟩
    · rintro ⟨⟨hne, hgroups⟩, rfl⟩
      exact ⟨_, ⟨hgroups, rfl⟩, rfl, (filterMap_ne_nil_iff hgroups).mpr hne⟩

end SafetyConfig
