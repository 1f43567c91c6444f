import SafetyConfig.Proofs.Draft.LastValue

/-!
# Editing a copy in one field

A copy of a built source with one field set anew is built into that source with that field set,
and with no other change: nothing is left to a default that the source had not already settled.
Only the kind is different. It can change in a single way, from a static to a dynamic source, and
the display state, which a static source leaves open, is settled then.
-/

namespace SafetyConfig

/-- The field that an edit sets. -/
def SourceEdit.field : SourceEdit → Field
  | .kind _ => .kind
  | .id _ => .id
  | .packageName _ => .packageName
  | .title _ => .title
  | .titleForWork _ => .titleForWork
  | .summary _ => .summary
  | .intentAction _ => .intentAction
  | .profile _ => .profile
  | .displayState _ => .displayState
  | .maxSeverity _ => .maxSeverity
  | .searchTerms _ => .searchTerms
  | .receiver _ => .receiver
  | .disallowLogging _ => .disallowLogging
  | .refreshOnOpen _ => .refreshOnOpen

/-- What an edit comes to in a source of a kind: an open profile is the primary one, and the open
display state of a dynamic source is enabled. -/
def SourceEdit.settled (kind : SourceKind) : SourceEdit → SourceEdit
  | .profile value => .profile (if value.code = 0 then Profile.primary.code else value.code)
  | .displayState value =>
    .displayState
      (if kind = .dynamic ∧ value.code = 0 then DisplayState.enabled.code else value.code)
  | e => e

/-! What is filled in. -/

namespace SourceDraft

variable {d : SourceDraft}

theorem completed_of_given (hprofile : d.profile.code ≠ 0)
    (hstate : d.kind.code = 2 → d.displayState.code ≠ 0) : d.completed = d.numbered := by
  rw [completed, if_neg hprofile, if_neg fun hopen => hstate hopen.1 hopen.2]
  rfl

theorem completed_of_openProfile (hprofile : d.profile.code = 0)
    (hstate : d.kind.code = 2 → d.displayState.code ≠ 0) :
    d.completed = { d.numbered with profile := 1 } := by
  rw [completed, if_pos hprofile, if_neg fun hopen => hstate hopen.1 hopen.2]
  rfl

theorem completed_of_openState (hprofile : d.profile.code ≠ 0) (hkind : d.kind.code = 2)
    (hstate : d.displayState.code = 0) : d.completed = { d.numbered with displayState := 1 } := by
  rw [completed, if_neg hprofile, if_pos ⟨hkind, hstate⟩]
  rfl

end SourceDraft

namespace Source

variable {s s' : Source}

theorem code_profile_ne_zero (h : s.Valid) : s.profile.code ≠ 0 := by
  have hne := h.profile
  cases hp : s.profile with
  | unspecified => exact absurd hp hne
  | primary => decide
  | all => decide

theorem code_displayState_ne_zero (h : s.Valid) (hkind : s.kind.code = 2) :
    s.displayState.code ≠ 0 := by
  have hdynamic : s.kind = .dynamic := SourceKind.code_injective hkind
  exact fun hzero => (h.dynamic hdynamic).displayState (DisplayState.code_injective hzero)

/-- Nothing is open in what a valid source fills a draft with, but for what is set anew. -/
theorem completed_edit (h : s.Valid) {e : SourceEdit} (hfield : e.field ≠ .kind) :
    (s.toDraft.edit e).completed = s.toDraft.edit (e.settled s.kind) := by
  have hprofile := code_profile_ne_zero h
  have hstate := code_displayState_ne_zero h
  cases e with
  | kind value => exact absurd rfl hfield
  | profile value =>
    by_cases hopen : value.code = 0
    · rw [SourceEdit.settled, if_pos hopen]
      exact SourceDraft.completed_of_openProfile hopen hstate
    · rw [SourceEdit.settled, if_neg hopen]
      exact SourceDraft.completed_of_given hopen hstate
  | displayState value =>
    by_cases hopen : s.kind = .dynamic ∧ value.code = 0
    · rw [SourceEdit.settled, if_pos hopen]
      obtain ⟨hkind, hzero⟩ := hopen
      exact SourceDraft.completed_of_openState hprofile (congrArg SourceKind.code hkind) hzero
    · rw [SourceEdit.settled, if_neg hopen]
      refine SourceDraft.completed_of_given hprofile fun hkind hzero => hopen ⟨?_, hzero⟩
      exact SourceKind.code_injective hkind
  | _ => exact SourceDraft.completed_of_given hprofile hstate

theorem toDraft_of_build_edit (h : s.Valid) {e : SourceEdit} (hfield : e.field ≠ .kind)
    (hbuild : (s.toDraft.edit e).build = .ok s') :
    s'.toDraft = s.toDraft.edit (e.settled s.kind) := by
  obtain ⟨-, hcompleted⟩ := SourceDraft.build_eq_ok_iff_completed.mp hbuild
  rw [hcompleted, completed_edit h hfield]

/-! Changes of kind. -/

theorem lawful_edit_dynamic (h : s.Valid) (hkind : s.kind = .static)
    (hpackage : Filled s.packageName) : (s.toDraft.edit (.kind (.number 2))).Lawful where
  kind := Or.inr (Or.inl rfl)
  id := (lawful_toDraft h).id
  profile := (lawful_toDraft h).profile
  displayState := (lawful_toDraft h).displayState
  maxSeverity := h.maxSeverity
  workProfile := (lawful_toDraft h).workProfile
  static := by
    intro hcode
    cases hcode
  dynamic := fun _ => ⟨hpackage, fun _ => (h.static hkind).intentAction⟩
  issueOnly := by
    intro hcode
    cases hcode

/-- A static source has no display state, and a dynamic one is enabled unless it has. -/
theorem build_edit_dynamic (h : s.Valid) (hkind : s.kind = .static)
    (hpackage : Filled s.packageName) :
    (s.toDraft.edit (.kind (.number 2))).build =
      .ok { s with kind := .dynamic, displayState := .enabled } := by
  have hlawful := lawful_edit_dynamic h hkind hpackage
  have hopen : s.displayState.code = 0 := by
    rw [(h.static hkind).displayState]
    rfl
  refine SourceDraft.build_eq_ok_iff_completed.mpr
    ⟨SourceDraft.lawful_iff_forall_met.mp hlawful, ?_⟩
  exact (SourceDraft.completed_of_openState (d := s.toDraft.edit (.kind (.number 2)))
    (code_profile_ne_zero h) rfl hopen).symm

/-- A static source opens something and has no display state, a dynamic one has a display state,
and an issue-only one has neither: only one of the six changes is left. -/
theorem kind_of_build_edit (h : s.Valid) {code : Int}
    (hbuild : (s.toDraft.edit (.kind code)).build = .ok s') :
    code = s.kind.code ∨ s.kind = .static ∧ code = 2 ∧ Filled s.packageName := by
  obtain ⟨hlawful, -⟩ := SourceDraft.build_eq_ok_iff.mp hbuild
  cases hkind : s.kind with
  | unspecified => exact absurd hkind h.kind
  | static =>
    rcases hlawful.kind with hcode | hcode | hcode
    · exact Or.inl hcode
    · exact Or.inr ⟨rfl, hcode, (hlawful.dynamic hcode).packageName⟩
    · obtain ⟨intent, hintent, -⟩ := (h.static hkind).intentAction
      have hnone : s.intentAction = none := (hlawful.issueOnly hcode).intentAction
      rw [hintent] at hnone
      cases hnone
  | dynamic =>
    have hstate : s.displayState.code ≠ 0 :=
      code_displayState_ne_zero h (congrArg SourceKind.code hkind)
    rcases hlawful.kind with hcode | hcode | hcode
    · exact absurd (hlawful.static hcode).displayState hstate
    · exact Or.inl hcode
    · exact absurd (hlawful.issueOnly hcode).displayState hstate
  | issueOnly =>
    have hfits := h.issueOnly hkind
    have hvisible : s.displayState.code ≠ 3 := by
      rw [hfits.displayState]
      decide
    have hunfilled : ¬ Filled s.intentAction := by
      rw [hfits.intentAction]
      rintro ⟨intent, hintent, -⟩
      cases hintent
    rcases hlawful.kind with hcode | hcode | hcode
    · exact absurd (hlawful.static hcode).intentAction hunfilled
    · exact absurd ((hlawful.dynamic hcode).intentAction hvisible) hunfilled
    · exact Or.inl hcode

theorem build_edit_kind_iff (h : s.Valid) {code : Int} :
    (s.toDraft.edit (.kind code)).build = .ok s' ↔
      code = s.kind.code ∧ s' = s ∨
      s.kind = .static ∧ code = 2 ∧ Filled s.packageName ∧
        s' = { s with kind := .dynamic, displayState := .enabled } := by
  have hsame : (s.toDraft.edit (.kind s.kind.code)).build = .ok s := build_toDraft h
  constructor
  · intro hbuild
    rcases kind_of_build_edit h hbuild with rfl | ⟨hkind, rfl, hpackage⟩
    · rw [hsame] at hbuild
      exact Or.inl ⟨rfl, (Except.ok.inj hbuild).symm⟩
    · rw [build_edit_dynamic h hkind hpackage] at hbuild
      exact Or.inr ⟨hkind, rfl, hpackage, (Except.ok.inj hbuild).symm⟩
  · rintro (⟨rfl, rfl⟩ | ⟨hkind, rfl, hpackage, rfl⟩)
    · exact hsame
    · exact build_edit_dynamic h hkind hpackage

end Source

/-- In a copy of a built source one field is set and the copy is built. If that succeeds and the
field is not the kind, it has the value it was set to, and all others are as they were. The kind
can be set to what it was, or from static to dynamic where there is a package name. -/
theorem edited_copy_differs_in_one_field {d : SourceDraft} {s : Source} (hs : d.build = .ok s) :
    (∀ e s', e.field ≠ .kind → (s.toDraft.edit e).build = .ok s' →
      s'.toDraft = s.toDraft.edit (e.settled s.kind)) ∧
    ∀ value s', (s.toDraft.edit (.kind value)).build = .ok s' ↔
      value.code = s.kind.code ∧ s' = s ∨
      s.kind = .static ∧ value.code = SourceKind.dynamic.code ∧ Filled s.packageName ∧
        s' = { s with kind := .dynamic, displayState := .enabled } := by
  obtain ⟨hlawful, rfl⟩ := SourceDraft.build_eq_ok_iff.mp hs
  have hvalid := hlawful.settled_valid
  refine ⟨?_, ?_⟩
  · intro e s' hfield hbuild
    exact Source.toDraft_of_build_edit hvalid hfield hbuild
  · intro value s'
    rw [← SourceDraft.build_numbered_eq_ok_iff]
    exact Source.build_edit_kind_iff hvalid

/-- A static source for all profiles, with its profile left open and then as a dynamic source. -/
theorem static_lock_edited :
    let draft : SourceDraft :=
      { kind := 1, id := some "lock", packageName := some "app", intentAction := some "open",
        profile := 2, title := 7 }
    let lock : Source := ⟨.static, "lock", some "app", 7, 0, 0, some "open", .all, .unspecified,
      none, 0, none, false, false⟩
    let primary : Source := { lock with profile := .primary }
    draft.build = .ok lock ∧ (SourceEdit.profile 0).field ≠ .kind ∧
    (lock.toDraft.edit (.profile 0)).build = .ok primary ∧
    primary.toDraft = lock.toDraft.edit (.profile 1) ∧
    (lock.toDraft.edit (.kind 2)).build =
      .ok { lock with kind := .dynamic, displayState := .enabled } := by
  intro draft lock primary
  have hlock : draft.build = .ok lock := by decide
  have hprofile : (lock.toDraft.edit (.profile 0)).build = .ok primary := by decide
  obtain ⟨hfields, hkinds⟩ := edited_copy_differs_in_one_field hlock
  refine ⟨hlock, by decide, hprofile, hfields _ _ (by decide) hprofile, ?_⟩
  exact (hkinds _ _).mpr (Or.inr ⟨rfl, rfl, ⟨"app", rfl, by decide⟩, rfl⟩)

end SafetyConfig
