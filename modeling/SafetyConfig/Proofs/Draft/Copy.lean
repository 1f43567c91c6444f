import SafetyConfig.Draft.Session
import SafetyConfig.Proofs.Draft.Build
import SafetyConfig.Proofs.Sequencing

/-!
# Copies of entities

A copy is a draft that holds what an entity holds, and building it gives the entity back
exactly when the entity is valid. What is put together by hand, without a draft, may also
hold codes that stand for nothing, or members of any enumeration, and have no id. It is then no
`Source` or `Group`, but what it holds fits into a draft, and building that draft is compared with
it as a draft.
-/

namespace SafetyConfig

/-! What a draft holds, with a number for every member of an enumeration. A member equals its
number, so that this is all there is to compare. -/

def EnumValue.numbered (v : EnumValue) : EnumValue :=
  .number v.code

def SourceDraft.numbered (d : SourceDraft) : SourceDraft :=
  { d with
    kind := d.kind.numbered
    profile := d.profile.numbered
    displayState := d.displayState.numbered }

def GroupDraft.numbered (d : GroupDraft) : GroupDraft :=
  { d with icon := d.icon.numbered }

/-! What building makes of a draft, as a draft again. -/

theorem some_getD_of_filled {text : Option String} (h : Filled text) :
    some (text.getD "") = text := by
  obtain ⟨s, rfl, -⟩ := h
  rfl

namespace SourceDraft

variable {d : SourceDraft}

/-- A lawful draft that leaves nothing to a default. -/
structure Explicit (d : SourceDraft) : Prop extends d.Lawful where
  profileGiven : d.profile.code ≠ 0
  stateGiven : d.kind.code = 2 → d.displayState.code ≠ 0

theorem Lawful.code_settled_profile (h : d.Lawful) :
    d.settled.profile.code = d.profile.code ↔ d.profile.code ≠ 0 := by
  rw [h.settled_profile]
  rcases h.profile with hp | hp | hp <;> simp [hp, Profile.code]

theorem Lawful.code_settled_displayState (h : d.Lawful) :
    d.settled.displayState.code = d.displayState.code ↔
      (d.kind.code = 2 → d.displayState.code ≠ 0) := by
  rw [h.settled_displayState]
  rcases h.displayState with hd | hd | hd | hd
  · by_cases hkind : d.kind.code = 2 <;> simp [hd, hkind, DisplayState.code]
  · simp [hd, DisplayState.code]
  · simp [hd, DisplayState.code]
  · simp [hd, DisplayState.code]

/-- Building changes no field but the two that have defaults. -/
theorem Lawful.toDraft_settled (h : d.Lawful) :
    d.settled.toDraft = { d.numbered with
      profile := d.settled.profile.code
      displayState := d.settled.displayState.code } := by
  have hkind : d.settled.kind.code = d.kind.code := h.kind_eq_code.symm
  have hid : some d.settled.id = d.id := some_getD_of_filled h.id
  rw [Source.toDraft, hkind, hid]
  rfl

theorem Lawful.toDraft_settled_eq_iff (h : d.Lawful) :
    d.settled.toDraft = d.numbered ↔ d.Explicit := by
  constructor
  · intro heq
    have hprofile : d.settled.profile.code = d.profile.code :=
      EnumValue.number.inj (congrArg SourceDraft.profile heq)
    have hstate : d.settled.displayState.code = d.displayState.code :=
      EnumValue.number.inj (congrArg SourceDraft.displayState heq)
    exact ⟨h, h.code_settled_profile.mp hprofile, h.code_settled_displayState.mp hstate⟩
  · intro hexplicit
    rw [h.toDraft_settled, h.code_settled_profile.mpr hexplicit.profileGiven,
      h.code_settled_displayState.mpr hexplicit.stateGiven]
    rfl

theorem build_toDraft_eq_iff : (∃ s, d.build = .ok s ∧ s.toDraft = d.numbered) ↔ d.Explicit := by
  simp only [build_eq_ok_iff]
  constructor
  · rintro ⟨s, ⟨hlawful, rfl⟩, heq⟩
    exact hlawful.toDraft_settled_eq_iff.mp heq
  · intro hexplicit
    exact ⟨d.settled, ⟨hexplicit.toLawful, rfl⟩,
      hexplicit.toLawful.toDraft_settled_eq_iff.mpr hexplicit⟩

end SourceDraft

namespace GroupDraft

variable {d : GroupDraft}

structure Explicit (d : GroupDraft) : Prop extends d.Lawful where
  iconGiven : d.icon.code ≠ 0

theorem Lawful.code_settled_icon (h : d.Lawful) :
    d.settled.icon.code = d.icon.code ↔ d.icon.code ≠ 0 := by
  rw [h.settled_icon]
  rcases h.icon with hi | hi | hi <;> simp [hi, IconKind.code]

theorem Lawful.toDraft_settled (h : d.Lawful) :
    d.settled.toDraft = { d with icon := d.settled.icon.code } := by
  have hid : some d.settled.id = d.id := some_getD_of_filled h.id
  rw [Group.toDraft, hid]
  rfl

theorem build_toDraft_eq_iff : (∃ g, d.build = .ok g ∧ g.toDraft = d.numbered) ↔ d.Explicit := by
  simp only [build_eq_ok_iff]
  constructor
  · rintro ⟨g, ⟨hlawful, rfl⟩, heq⟩
    have hicon : d.settled.icon.code = d.icon.code :=
      EnumValue.number.inj (congrArg GroupDraft.icon heq)
    exact ⟨hlawful, hlawful.code_settled_icon.mp hicon⟩
  · intro hexplicit
    have hlawful := hexplicit.toLawful
    refine ⟨d.settled, ⟨hlawful, rfl⟩, ?_⟩
    rw [hlawful.toDraft_settled, hlawful.code_settled_icon.mpr hexplicit.iconGiven]
    rfl

end GroupDraft

/-! Copies of what is already an entity. -/

theorem Source.build_toDraft_iff {s : Source} : s.toDraft.build = .ok s ↔ s.Valid := by
  constructor
  · intro h
    obtain ⟨hlawful, hs⟩ := SourceDraft.build_eq_ok_iff.mp h
    rw [hs]
    exact hlawful.settled_valid
  · exact build_toDraft

theorem Group.build_toDraft_iff {g : Group} : g.toDraft.build = .ok g ↔ g.Complete := by
  constructor
  · intro h
    obtain ⟨hlawful, hg⟩ := GroupDraft.build_eq_ok_iff.mp h
    rw [hg]
    exact hlawful.settled_complete
  · exact build_toDraft

theorem Config.build_toDraft_iff {c : Config} : c.toDraft.build = .ok c ↔ c.groups ≠ [] := by
  constructor
  · intro h
    exact (ConfigDraft.build_eq_ok_iff.mp h).2
  · exact build_toDraft

/-- Building once more changes nothing. -/
theorem Draft.build_toDraft {d : Draft} {e : Entity} (h : d.build = .ok e) :
    e.toDraft.build = .ok e := by
  cases d with
  | source d =>
    obtain ⟨s, hs, rfl⟩ := map_eq_ok_iff.mp h
    obtain ⟨hlawful, rfl⟩ := SourceDraft.build_eq_ok_iff.mp hs
    exact map_eq_ok_iff.mpr ⟨_, Source.build_toDraft hlawful.settled_valid, rfl⟩
  | group d =>
    obtain ⟨g, hg, rfl⟩ := map_eq_ok_iff.mp h
    obtain ⟨hlawful, rfl⟩ := GroupDraft.build_eq_ok_iff.mp hg
    exact map_eq_ok_iff.mpr ⟨_, Group.build_toDraft hlawful.settled_complete, rfl⟩
  | config d =>
    obtain ⟨c, hc, rfl⟩ := map_eq_ok_iff.mp h
    obtain ⟨-, hne⟩ := ConfigDraft.build_eq_ok_iff.mp hc
    exact map_eq_ok_iff.mpr ⟨_, Config.build_toDraft hne, rfl⟩

/-- A copy is built into the very entity it was taken from, the sources of a group in their
order and as often as they are there, exactly when that entity keeps the rules, with no
default left to be filled in. Every entity that was built does. -/
theorem copy_is_identity_iff_valid :
    (∀ s : Source, s.toDraft.build = .ok s ↔ s.Valid) ∧
    (∀ g : Group, g.toDraft.build = .ok g ↔ g.Complete) ∧
    (∀ c : Config, c.toDraft.build = .ok c ↔ c.groups ≠ []) ∧
    (∀ d : SourceDraft, (∃ s, d.build = .ok s ∧ s.toDraft = d.numbered) ↔ d.Explicit) ∧
    (∀ d : GroupDraft, (∃ g, d.build = .ok g ∧ g.toDraft = d.numbered) ↔ d.Explicit) ∧
    ∀ (d : Draft) (e : Entity), d.build = .ok e → e.toDraft.build = .ok e := by
  refine ⟨?_, ?_, ?_, ?_, ?_, ?_⟩
  · intro s
    exact Source.build_toDraft_iff
  · intro g
    exact Group.build_toDraft_iff
  · intro c
    exact Config.build_toDraft_iff
  · intro d
    exact SourceDraft.build_toDraft_eq_iff
  · intro d
    exact GroupDraft.build_toDraft_eq_iff
  · intro d e
    exact Draft.build_toDraft

/-- A dynamic source that leaves its profile and its display state open, twice in one group. -/
theorem open_lock_is_copied :
    let draft : SourceDraft :=
      { kind := 2, id := some "lock", packageName := some "app", intentAction := some "open" }
    let lock : Source := ⟨.dynamic, "lock", some "app", 0, 0, 0, some "open", .primary, .enabled,
      none, 0, none, false, false⟩
    let device : Group := ⟨"device", 0, 0, .privacy, [lock, lock]⟩
    (Draft.source draft).build = .ok (.source lock) ∧ lock.toDraft ≠ draft ∧
    (Entity.source lock).toDraft.build = .ok (.source lock) ∧
    (Draft.group ⟨some "device", 0, 0, 2, [lock, lock]⟩).build = .ok (.group device) ∧
    (Entity.group device).toDraft.build = .ok (.group device) := by
  intro draft lock device
  have hlock : (Draft.source draft).build = .ok (.source lock) := by decide +kernel
  have hdevice : (Draft.group ⟨some "device", 0, 0, 2, [lock, lock]⟩).build =
      .ok (.group device) := by decide +kernel
  obtain ⟨-, -, -, -, -, hagain⟩ := copy_is_identity_iff_valid
  exact ⟨hlock, by decide, hagain _ _ hlock, hdevice, hagain _ _ hdevice⟩

end SafetyConfig
