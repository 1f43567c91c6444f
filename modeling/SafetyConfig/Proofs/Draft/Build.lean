import SafetyConfig.Proofs.Entity.Validity

/-!
# What building gives

A draft is built exactly when it is lawful: its codes stand for something, what it needs is
filled in and what its kind forbids is left out. What it settles on is valid then. A copy of
a valid entity is lawful in turn and settles on that entity.
-/

namespace SafetyConfig

/-! Codes that stand for something. -/

theorem SourceKind.exists_ofCode?_iff {n : Int} :
    (∃ k, ofCode? n = some k) ↔ n = 0 ∨ n = 1 ∨ n = 2 ∨ n = 3 := by
  simp only [ofCode?_eq_some_iff]
  constructor
  · rintro ⟨k, rfl⟩
    cases k <;> simp [code]
  · rintro (rfl | rfl | rfl | rfl)
    · exact ⟨.unspecified, rfl⟩
    · exact ⟨.static, rfl⟩
    · exact ⟨.dynamic, rfl⟩
    · exact ⟨.issueOnly, rfl⟩

theorem SourceKind.code_injective {k k' : SourceKind} (h : k.code = k'.code) : k = k' := by
  have hsome : ofCode? k.code = some k' := by rw [h, ofCode?_code]
  exact Option.some.inj ((ofCode?_code k).symm.trans hsome)

theorem Profile.code_injective {p p' : Profile} (h : p.code = p'.code) : p = p' := by
  have hsome : ofCode? p.code = some p' := by rw [h, ofCode?_code]
  exact Option.some.inj ((ofCode?_code p).symm.trans hsome)

theorem DisplayState.code_injective {s s' : DisplayState} (h : s.code = s'.code) : s = s' := by
  have hsome : ofCode? s.code = some s' := by rw [h, ofCode?_code]
  exact Option.some.inj ((ofCode?_code s).symm.trans hsome)

theorem Profile.exists_ofCode?_iff {n : Int} :
    (∃ p, ofCode? n = some p) ↔ n = 0 ∨ n = 1 ∨ n = 2 := by
  simp only [ofCode?_eq_some_iff]
  constructor
  · rintro ⟨p, rfl⟩
    cases p <;> simp [code]
  · rintro (rfl | rfl | rfl)
    · exact ⟨.unspecified, rfl⟩
    · exact ⟨.primary, rfl⟩
    · exact ⟨.all, rfl⟩

theorem DisplayState.exists_ofCode?_iff {n : Int} :
    (∃ s, ofCode? n = some s) ↔ n = 0 ∨ n = 1 ∨ n = 2 ∨ n = 3 := by
  simp only [ofCode?_eq_some_iff]
  constructor
  · rintro ⟨s, rfl⟩
    cases s <;> simp [code]
  · rintro (rfl | rfl | rfl | rfl)
    · exact ⟨.unspecified, rfl⟩
    · exact ⟨.enabled, rfl⟩
    · exact ⟨.disabled, rfl⟩
    · exact ⟨.hidden, rfl⟩

theorem IconKind.exists_ofCode?_iff {n : Int} :
    (∃ i, ofCode? n = some i) ↔ n = 0 ∨ n = 1 ∨ n = 2 := by
  simp only [ofCode?_eq_some_iff]
  constructor
  · rintro ⟨i, rfl⟩
    cases i <;> simp [code]
  · rintro (rfl | rfl | rfl)
    · exact ⟨.unspecified, rfl⟩
    · exact ⟨.none, rfl⟩
    · exact ⟨.privacy, rfl⟩

namespace SourceDraft

structure FitsStatic (d : SourceDraft) : Prop where
  intentAction : Filled d.intentAction
  receiver : d.receiver = none
  displayState : d.displayState.code = 0
  maxSeverity : d.maxSeverity = none
  disallowLogging : d.disallowLogging = false
  refreshOnOpen : d.refreshOnOpen = false

structure FitsDynamic (d : SourceDraft) : Prop where
  packageName : Filled d.packageName
  intentAction : d.displayState.code ≠ 3 → Filled d.intentAction

structure FitsIssueOnly (d : SourceDraft) : Prop where
  packageName : Filled d.packageName
  title : d.title = 0
  titleForWork : d.titleForWork = 0
  summary : d.summary = 0
  searchTerms : d.searchTerms = 0
  intentAction : d.intentAction = none
  displayState : d.displayState.code = 0

/-- The rules of a draft without their order. -/
structure Lawful (d : SourceDraft) : Prop where
  kind : d.kind.code = 1 ∨ d.kind.code = 2 ∨ d.kind.code = 3
  id : Filled d.id
  profile : d.profile.code = 0 ∨ d.profile.code = 1 ∨ d.profile.code = 2
  displayState : d.displayState.code = 0 ∨ d.displayState.code = 1 ∨ d.displayState.code = 2 ∨
    d.displayState.code = 3
  maxSeverity : ∀ n, d.maxSeverity = some n → 0 ≤ n
  workProfile : d.titleForWork ≠ 0 → d.profile.code = 2
  static : d.kind.code = 1 → d.FitsStatic
  dynamic : d.kind.code = 2 → d.FitsDynamic
  issueOnly : d.kind.code = 3 → d.FitsIssueOnly

variable {d : SourceDraft}

theorem staticRules_hold_iff : (∀ r ∈ d.staticRules, r.holds = true) ↔ d.FitsStatic := by
  simp only [staticRules, List.forall_mem_cons, isFilled_iff, beq_iff_eq,
    Option.isNone_iff_eq_none, Bool.not_eq_true']
  constructor
  · rintro ⟨hintent, hreceiver, hstate, hseverity, hlog, hrefresh, _⟩
    exact ⟨hintent, hreceiver, hstate, hseverity, hlog, hrefresh⟩
  · intro h
    exact ⟨h.intentAction, h.receiver, h.displayState, h.maxSeverity, h.disallowLogging,
      h.refreshOnOpen, List.forall_mem_nil _⟩

theorem dynamicRules_hold_iff : (∀ r ∈ d.dynamicRules, r.holds = true) ↔ d.FitsDynamic := by
  simp only [dynamicRules, List.forall_mem_cons, isFilled_iff, Bool.or_eq_true, beq_iff_eq]
  constructor
  · rintro ⟨hpackage, hintent, _⟩
    exact ⟨hpackage, fun hne => hintent.resolve_left hne⟩
  · intro h
    refine ⟨h.packageName, ?_, List.forall_mem_nil _⟩
    by_cases hhidden : d.displayState.code = 3
    · exact Or.inl hhidden
    · exact Or.inr (h.intentAction hhidden)

theorem issueOnlyRules_hold_iff : (∀ r ∈ d.issueOnlyRules, r.holds = true) ↔ d.FitsIssueOnly := by
  simp only [issueOnlyRules, List.forall_mem_cons, isFilled_iff, beq_iff_eq,
    Option.isNone_iff_eq_none]
  constructor
  · rintro ⟨hpackage, htitle, hwork, hsummary, hterms, hintent, hstate, _⟩
    exact ⟨hpackage, htitle, hwork, hsummary, hterms, hintent, hstate⟩
  · intro h
    exact ⟨h.packageName, h.title, h.titleForWork, h.summary, h.searchTerms, h.intentAction,
      h.displayState, List.forall_mem_nil _⟩

/-- The rules of the kind, once the kind is one that a source can have. -/
theorem kindRules_hold_iff (hkind : d.kind.code = 1 ∨ d.kind.code = 2 ∨ d.kind.code = 3) :
    (∀ r ∈ d.kindRules, r.holds = true) ↔
      (d.kind.code = 1 → d.FitsStatic) ∧ (d.kind.code = 2 → d.FitsDynamic) ∧
      (d.kind.code = 3 → d.FitsIssueOnly) := by
  rcases hkind with h | h | h
  · have hrules : d.kindRules = d.staticRules := by
      simp only [kindRules, h]
      rfl
    rw [hrules, staticRules_hold_iff]
    simp [h]
  · have hrules : d.kindRules = d.dynamicRules := by
      simp only [kindRules, h]
      rfl
    rw [hrules, dynamicRules_hold_iff]
    simp [h]
  · have hrules : d.kindRules = d.issueOnlyRules := by
      simp only [kindRules, h]
      rfl
    rw [hrules, issueOnlyRules_hold_iff]
    simp [h]

theorem rules_hold_iff : (∀ r ∈ d.rules, r.holds = true) ↔ d.Lawful := by
  simp only [rules, List.forall_mem_append, List.forall_mem_cons, Option.isSome_iff_exists,
    bne_iff_ne, isFilled_iff, Bool.or_eq_true, beq_iff_eq, Option.all_eq_true, decide_eq_true_eq]
  constructor
  · rintro ⟨⟨⟨hcode, hne, hid, hprofile, hstate, hseverity, _⟩, hrules⟩, hall, _⟩
    have hkind : d.kind.code = 1 ∨ d.kind.code = 2 ∨ d.kind.code = 3 :=
      (SourceKind.exists_ofCode?_iff.mp hcode).resolve_left hne
    obtain ⟨hstatic, hdynamic, hissue⟩ := (kindRules_hold_iff hkind).mp hrules
    exact {
      kind := hkind
      id := hid
      profile := Profile.exists_ofCode?_iff.mp hprofile
      displayState := DisplayState.exists_ofCode?_iff.mp hstate
      maxSeverity := hseverity
      workProfile := fun h => hall.resolve_left h
      static := hstatic
      dynamic := hdynamic
      issueOnly := hissue }
  · intro h
    have hne : d.kind.code ≠ 0 := by
      have := h.kind
      omega
    refine ⟨⟨⟨SourceKind.exists_ofCode?_iff.mpr (Or.inr h.kind), hne, h.id,
      Profile.exists_ofCode?_iff.mpr h.profile, DisplayState.exists_ofCode?_iff.mpr h.displayState,
      h.maxSeverity, List.forall_mem_nil _⟩, ?_⟩, ?_, List.forall_mem_nil _⟩
    · exact (kindRules_hold_iff h.kind).mpr ⟨h.static, h.dynamic, h.issueOnly⟩
    · by_cases hwork : d.titleForWork = 0
      · exact Or.inl hwork
      · exact Or.inr (h.workProfile hwork)

theorem build_eq_ok_iff {s : Source} : d.build = .ok s ↔ d.Lawful ∧ s = d.settled := by
  rw [build, Rule.check_eq_ok_iff, rules_hold_iff]

/-! What a lawful draft settles on. -/

namespace Lawful

theorem settled_kind (h : d.Lawful) :
    d.settled.kind =
      if d.kind.code = 1 then .static else if d.kind.code = 2 then .dynamic else .issueOnly := by
  rcases h.kind with hk | hk | hk <;> simp only [settled, hk] <;> rfl

theorem kind_eq_code (h : d.Lawful) : d.kind.code = d.settled.kind.code := by
  rw [h.settled_kind]
  rcases h.kind with hk | hk | hk <;> simp [hk, SourceKind.code]

theorem settled_profile (h : d.Lawful) :
    d.settled.profile = if d.profile.code = 2 then .all else .primary := by
  rcases h.profile with hp | hp | hp <;> simp only [settled, settledProfile, hp] <;> rfl

/-- Only the state of a dynamic source has a default. -/
theorem settled_displayState (h : d.Lawful) :
    d.settled.displayState =
      if d.displayState.code = 1 then .enabled
      else if d.displayState.code = 2 then .disabled
      else if d.displayState.code = 3 then .hidden
      else if d.kind.code = 2 then .enabled
      else .unspecified := by
  simp only [settled, settledDisplayState]
  rcases h.kind with hk | hk | hk <;> rcases h.displayState with hd | hd | hd | hd <;>
    simp only [hk, hd] <;> rfl

theorem settled_valid (h : d.Lawful) : d.settled.Valid where
  kind := by
    rw [h.settled_kind]
    split
    · simp
    · split <;> simp
  id := filled_iff_getD.mp h.id
  profile := by
    rw [h.settled_profile]
    split <;> simp
  maxSeverity := h.maxSeverity
  titleForWork := fun hne => by rw [h.settled_profile, if_pos (h.workProfile hne)]
  static := by
    intro hs
    have hkind : d.kind.code = 1 := by rw [h.kind_eq_code, hs, SourceKind.code]
    have hfits := h.static hkind
    refine ⟨hfits.intentAction, hfits.receiver, ?_, hfits.maxSeverity, hfits.disallowLogging,
      hfits.refreshOnOpen⟩
    simp [h.settled_displayState, hfits.displayState, hkind]
  dynamic := by
    intro hs
    have hkind : d.kind.code = 2 := by rw [h.kind_eq_code, hs, SourceKind.code]
    have hfits := h.dynamic hkind
    refine ⟨hfits.packageName, ?_, fun hne => hfits.intentAction fun hd => hne ?_⟩
    · rcases h.displayState with hd | hd | hd | hd <;> simp [h.settled_displayState, hd, hkind]
    · simp [h.settled_displayState, hd]
  issueOnly := by
    intro hs
    have hkind : d.kind.code = 3 := by rw [h.kind_eq_code, hs, SourceKind.code]
    have hfits := h.issueOnly hkind
    refine ⟨hfits.packageName, hfits.title, hfits.titleForWork, hfits.summary, hfits.searchTerms,
      hfits.intentAction, ?_⟩
    simp [h.settled_displayState, hfits.displayState, hkind]

end Lawful

end SourceDraft

namespace GroupDraft

structure Lawful (d : GroupDraft) : Prop where
  id : Filled d.id
  icon : d.icon.code = 0 ∨ d.icon.code = 1 ∨ d.icon.code = 2
  sources : d.sources ≠ []

variable {d : GroupDraft}

theorem rules_hold_iff : (∀ r ∈ d.rules, r.holds = true) ↔ d.Lawful := by
  simp only [rules, List.forall_mem_cons, isFilled_iff, Option.isSome_iff_exists,
    IconKind.exists_ofCode?_iff, Bool.not_eq_true', List.isEmpty_eq_false_iff]
  constructor
  · rintro ⟨hid, hicon, hsources, _⟩
    exact ⟨hid, hicon, hsources⟩
  · intro h
    exact ⟨h.id, h.icon, h.sources, List.forall_mem_nil _⟩

theorem build_eq_ok_iff {g : Group} : d.build = .ok g ↔ d.Lawful ∧ g = d.settled := by
  rw [build, Rule.check_eq_ok_iff, rules_hold_iff]

theorem Lawful.settled_icon (h : d.Lawful) :
    d.settled.icon = if d.icon.code = 2 then .privacy else .none := by
  rcases h.icon with hi | hi | hi <;> simp only [settled, settledIcon, hi] <;> rfl

theorem Lawful.settled_complete (h : d.Lawful) : d.settled.Complete where
  id := filled_iff_getD.mp h.id
  icon := by
    rw [h.settled_icon]
    split <;> simp
  sources := h.sources

end GroupDraft

theorem ConfigDraft.build_eq_ok_iff {d : ConfigDraft} {c : Config} :
    d.build = .ok c ↔ c = ⟨d.groups⟩ ∧ c.groups ≠ [] := by
  rw [build, Rule.check_eq_ok_iff]
  simp only [rules, List.forall_mem_cons, Bool.not_eq_true', List.isEmpty_eq_false_iff]
  constructor
  · rintro ⟨⟨hne, _⟩, rfl⟩
    exact ⟨rfl, hne⟩
  · rintro ⟨rfl, hne⟩
    exact ⟨⟨hne, List.forall_mem_nil _⟩, rfl⟩

/-! A copied entity fills a draft with what its codes stand for. -/

theorem Source.lawful_toDraft {s : Source} (h : s.Valid) : s.toDraft.Lawful where
  kind := by
    have hne := h.kind
    cases hk : s.kind <;> simp [hk, toDraft, SourceKind.code] at hne ⊢
  id := filled_iff_getD.mpr h.id
  profile := by
    cases hp : s.profile <;> simp [hp, toDraft, Profile.code]
  displayState := by
    cases hd : s.displayState <;> simp [hd, toDraft, DisplayState.code]
  maxSeverity := h.maxSeverity
  workProfile := by
    intro hne
    simp only [toDraft, h.titleForWork hne]
    rfl
  static := by
    intro hcode
    have hfits := h.static (SourceKind.code_injective hcode)
    refine ⟨hfits.intentAction, hfits.receiver, ?_, hfits.maxSeverity, hfits.disallowLogging,
      hfits.refreshOnOpen⟩
    simp [toDraft, hfits.displayState, DisplayState.code]
  dynamic := by
    intro hcode
    have hfits := h.dynamic (SourceKind.code_injective hcode)
    refine ⟨hfits.packageName, fun hne => hfits.intentAction fun hd => hne ?_⟩
    simp [toDraft, hd, DisplayState.code]
  issueOnly := by
    intro hcode
    have hfits := h.issueOnly (SourceKind.code_injective hcode)
    refine ⟨hfits.packageName, hfits.title, hfits.titleForWork, hfits.summary, hfits.searchTerms,
      hfits.intentAction, ?_⟩
    simp [toDraft, hfits.displayState, DisplayState.code]

theorem Source.settled_toDraft {s : Source} (h : s.Valid) : s.toDraft.settled = s := by
  have hkind : s.toDraft.settled.kind = s.kind := by
    simp [SourceDraft.settled, toDraft, SourceKind.ofCode?_code]
  have hprofile : s.toDraft.settled.profile = s.profile := by
    simp only [SourceDraft.settled, SourceDraft.settledProfile, toDraft, EnumValue.code_number,
      Profile.ofCode?_code]
    cases hp : s.profile with
    | unspecified => exact absurd hp h.profile
    | primary => rfl
    | all => rfl
  have hstate : s.toDraft.settled.displayState = s.displayState := by
    simp only [SourceDraft.settled, SourceDraft.settledDisplayState, toDraft,
      EnumValue.code_number, SourceKind.ofCode?_code, DisplayState.ofCode?_code]
    split
    · rename_i hk hd
      exact absurd (Option.some.inj hd) (h.dynamic (Option.some.inj hk)).displayState
    · rfl
  calc s.toDraft.settled
      = { s with
          kind := s.toDraft.settled.kind
          profile := s.toDraft.settled.profile
          displayState := s.toDraft.settled.displayState } := rfl
    _ = s := by rw [hkind, hprofile, hstate]

theorem Source.build_toDraft {s : Source} (h : s.Valid) : s.toDraft.build = .ok s :=
  SourceDraft.build_eq_ok_iff.mpr ⟨lawful_toDraft h, (settled_toDraft h).symm⟩

theorem Group.lawful_toDraft {g : Group} (h : g.Complete) : g.toDraft.Lawful where
  id := filled_iff_getD.mpr h.id
  icon := by
    cases hi : g.icon <;> simp [hi, toDraft, IconKind.code]
  sources := h.sources

theorem Group.settled_toDraft {g : Group} (h : g.icon ≠ .unspecified) : g.toDraft.settled = g := by
  have hicon : g.toDraft.settledIcon = g.icon := by
    simp only [GroupDraft.settledIcon, toDraft, EnumValue.code_number, IconKind.ofCode?_code]
    cases hi : g.icon with
    | unspecified => exact absurd hi h
    | none => rfl
    | privacy => rfl
  calc g.toDraft.settled = { g with icon := g.toDraft.settledIcon } := rfl
    _ = g := by rw [hicon]

theorem Group.build_toDraft {g : Group} (h : g.Complete) : g.toDraft.build = .ok g :=
  GroupDraft.build_eq_ok_iff.mpr ⟨lawful_toDraft h, (settled_toDraft h.icon).symm⟩

theorem Config.build_toDraft {c : Config} (h : c.groups ≠ []) : c.toDraft.build = .ok c :=
  ConfigDraft.build_eq_ok_iff.mpr ⟨rfl, h⟩

end SafetyConfig
