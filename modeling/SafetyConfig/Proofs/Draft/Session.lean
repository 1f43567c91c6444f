import SafetyConfig.Draft.Session
import SafetyConfig.Proofs.Draft.Build
import SafetyConfig.Proofs.Sequencing

/-!
# Sessions build nothing invalid

Whatever is done to drafts, in whatever order, every entity that a session ever shows is
valid. Drafts themselves may hold anything; only the entities added to them matter.
Building takes nothing away: drafts stay as they are, and an entity stays what it is until
its name is given to another one.
-/

namespace SafetyConfig

def Entity.Valid : Entity → Prop
  | .source s => s.Valid
  | .group g => g.Valid
  | .config c => c.Valid

/-- The entity in a reply, if there is one, is valid. -/
def Reply.Valid (r : Reply) : Prop :=
  ∀ e, r = .entity (some e) → e.Valid

/-- The entities that a draft has taken in are valid; its own fields are free. -/
def Draft.Sound : Draft → Prop
  | .source _ => True
  | .group d => ∀ s ∈ d.sources, s.Valid
  | .config d => ∀ g ∈ d.groups, g.Valid

theorem Draft.sound_empty (kind : EntityKind) : (Draft.empty kind).Sound := by
  cases kind with
  | source => exact trivial
  | group => exact List.forall_mem_nil _
  | config => exact List.forall_mem_nil _

theorem Entity.sound_toDraft {e : Entity} (h : e.Valid) : e.toDraft.Sound := by
  cases e with
  | source s => exact trivial
  | group g => exact h.sourcesValid
  | config c => exact h.groupsValid

theorem Draft.valid_of_build {d : Draft} {e : Entity} (hd : d.Sound) (h : d.build = .ok e) :
    e.Valid := by
  cases d with
  | source d =>
    obtain ⟨s, hs, rfl⟩ := map_eq_ok_iff.mp h
    obtain ⟨hlawful, rfl⟩ := SourceDraft.build_eq_ok_iff.mp hs
    exact hlawful.settled_valid
  | group d =>
    obtain ⟨g, hg, rfl⟩ := map_eq_ok_iff.mp h
    obtain ⟨hlawful, rfl⟩ := GroupDraft.build_eq_ok_iff.mp hg
    exact ⟨hlawful.settled_complete, hd⟩
  | config d =>
    obtain ⟨c, hc, rfl⟩ := map_eq_ok_iff.mp h
    obtain ⟨rfl, hne⟩ := ConfigDraft.build_eq_ok_iff.mp hc
    exact ⟨hne, hd⟩

namespace Session

variable {s s' : Session}

theorem sound_of_edited {d d' : Draft} {edit : Edit} (hd : d.Sound)
    (h : edited d edit = .ok d') : d'.Sound := by
  cases d with
  | source d =>
    cases edit with
    | source e =>
      cases h
      exact trivial
    | group e => cases h
  | group d =>
    cases edit with
    | source e => cases h
    | group e =>
      cases h
      cases e <;> exact hd
  | config d => cases edit <;> cases h

theorem sound_of_extended {d d' : Draft} {e : Entity} (hd : d.Sound) (he : e.Valid)
    (h : extended d e = .ok d') : d'.Sound := by
  cases d with
  | source d => cases e <;> cases h
  | group d =>
    cases e with
    | source s =>
      cases h
      exact List.forall_mem_append.mpr ⟨hd, List.forall_mem_singleton.mpr he⟩
    | group g => cases h
    | config c => cases h
  | config d =>
    cases e with
    | source s => cases h
    | group g =>
      cases h
      exact List.forall_mem_append.mpr ⟨hd, List.forall_mem_singleton.mpr he⟩
    | config c => cases h

/-! What a name stands for after something has been stored. -/

theorem draft_eq_ok_iff {name : String} {d : Draft} :
    s.draft name = .ok d ↔ s.drafts.lookup name = some d := by
  unfold draft
  cases s.drafts.lookup name <;> simp

theorem config_eq_ok_iff {name : String} {c : Config} :
    s.config name = .ok c ↔ s.entity name = .ok (.config c) := by
  unfold config
  cases s.entity name with
  | error e => simp
  | ok e => cases e <;> simp

theorem draft_putDraft {name other : String} {d : Draft} :
    (s.putDraft name d).draft other = if other = name then .ok d else s.draft other := by
  by_cases h : other = name
  · simp [draft, putDraft, h]
  · have hb : (other == name) = false := beq_eq_false_iff_ne.mpr h
    simp [draft, putDraft, h, List.lookup_cons, hb]

@[simp] theorem drafts_putEntity {result : Option String} {e : Entity} :
    (s.putEntity result e).drafts = s.drafts := by
  cases result <;> rfl

theorem entity_putEntity {result : Option String} {e : Entity} {other : String} :
    (s.putEntity result e).entity other =
      if result = some other then .ok e else s.entity other := by
  cases result with
  | none => simp [putEntity]
  | some name =>
    by_cases h : other = name
    · simp [entity, putEntity, h]
    · have hb : (other == name) = false := beq_eq_false_iff_ne.mpr h
      simp [entity, putEntity, Ne.symm h, List.lookup_cons, hb]

/-! Everything that a step can do. -/

/-- A step that does not fail starts or changes a draft, builds one, or only looks. -/
inductive Move (s : Session) : Step → Reply → Session → Prop
  | start (name : String) (kind : EntityKind) :
      Move s (.new name kind none) .done (s.putDraft name (.empty kind))
  | copy (name : String) (kind : EntityKind) {copied : String} {e : Entity}
      (he : s.entity copied = .ok e) (hkind : e.toDraft.kind = kind) :
      Move s (.new name kind (some copied)) .done (s.putDraft name e.toDraft)
  | set (name : String) {edit : Edit} {d d' : Draft} (hd : s.draft name = .ok d)
      (h : edited d edit = .ok d') : Move s (.set name edit) .changed (s.putDraft name d')
  | add (name : String) {added : String} {d d' : Draft} {e : Entity}
      (hd : s.draft name = .ok d) (he : s.entity added = .ok e)
      (h : extended d e = .ok d') : Move s (.add name added) .changed (s.putDraft name d')
  | build {name : String} (result : Option String) {d : Draft} {e : Entity}
      (hd : s.draft name = .ok d) (h : d.build = .ok e) :
      Move s (.build name result) (.entity (some e)) (s.putEntity result e)
  | describe {name : String} {e : Entity} (he : s.entity name = .ok e) :
      Move s (.describe name) (.entity (some e)) s
  | compare {name other : String} {e e' : Entity} (he : s.entity name = .ok e)
      (he' : s.entity other = .ok e') : Move s (.compare name other) (.truth (e = e')) s
  | listSources {name : String} {c : Config} (hc : s.entity name = .ok (.config c)) :
      Move s (.listSources name) (.ids (c.sources.map (·.id))) s
  | findGroup {name id : String} {c : Config} (hc : s.entity name = .ok (.config c)) :
      Move s (.findGroup name id) (.entity ((c.findGroup? id).map .group)) s
  | findSource {name id : String} {c : Config} (hc : s.entity name = .ok (.config c)) :
      Move s (.findSource name id) (.entity ((c.findSource? id).map .source)) s

theorem move_of_step {st : Step} {r : Reply} (h : s.step st = .ok (r, s')) : s.Move st r s' := by
  cases st with
  | new name kind copied =>
    obtain ⟨d, hd, h⟩ := bind_eq_ok_iff.mp h
    obtain ⟨rfl, rfl⟩ := Prod.mk.inj (pure_eq_ok_iff.mp h)
    cases copied with
    | none =>
      cases hd
      exact .start name kind
    | some copied =>
      unfold newDraft at hd
      cases he : s.entity copied with
      | error e => simp [he] at hd
      | ok e =>
        simp only [he] at hd
        split at hd
        · rename_i hkind
          cases hd
          exact .copy name kind he hkind
        · cases hd
  | set name edit =>
    obtain ⟨d, hd, h⟩ := bind_eq_ok_iff.mp h
    obtain ⟨d', hd', h⟩ := bind_eq_ok_iff.mp h
    obtain ⟨rfl, rfl⟩ := Prod.mk.inj (pure_eq_ok_iff.mp h)
    exact .set name hd hd'
  | add name added =>
    obtain ⟨d, hd, h⟩ := bind_eq_ok_iff.mp h
    obtain ⟨e, he, h⟩ := bind_eq_ok_iff.mp h
    obtain ⟨d', hd', h⟩ := bind_eq_ok_iff.mp h
    obtain ⟨rfl, rfl⟩ := Prod.mk.inj (pure_eq_ok_iff.mp h)
    exact .add name hd he hd'
  | build name result =>
    obtain ⟨d, hd, h⟩ := bind_eq_ok_iff.mp h
    cases hb : d.build with
    | error v => simp [hb, throw, throwThe, MonadExceptOf.throw] at h
    | ok e =>
      simp only [hb] at h
      obtain ⟨rfl, rfl⟩ := Prod.mk.inj (pure_eq_ok_iff.mp h)
      exact .build result hd hb
  | describe name =>
    obtain ⟨e, he, h⟩ := bind_eq_ok_iff.mp h
    obtain ⟨rfl, rfl⟩ := Prod.mk.inj (pure_eq_ok_iff.mp h)
    exact .describe he
  | compare name other =>
    obtain ⟨e, he, h⟩ := bind_eq_ok_iff.mp h
    obtain ⟨e', he', h⟩ := bind_eq_ok_iff.mp h
    obtain ⟨rfl, rfl⟩ := Prod.mk.inj (pure_eq_ok_iff.mp h)
    exact .compare he he'
  | listSources name =>
    obtain ⟨c, hc, h⟩ := bind_eq_ok_iff.mp h
    obtain ⟨rfl, rfl⟩ := Prod.mk.inj (pure_eq_ok_iff.mp h)
    exact .listSources (config_eq_ok_iff.mp hc)
  | findGroup name id =>
    obtain ⟨c, hc, h⟩ := bind_eq_ok_iff.mp h
    obtain ⟨rfl, rfl⟩ := Prod.mk.inj (pure_eq_ok_iff.mp h)
    exact .findGroup (config_eq_ok_iff.mp hc)
  | findSource name id =>
    obtain ⟨c, hc, h⟩ := bind_eq_ok_iff.mp h
    obtain ⟨rfl, rfl⟩ := Prod.mk.inj (pure_eq_ok_iff.mp h)
    exact .findSource (config_eq_ok_iff.mp hc)

/-! What every step keeps. -/

structure Sound (s : Session) : Prop where
  drafts : ∀ name d, s.draft name = .ok d → d.Sound
  entities : ∀ name e, s.entity name = .ok e → e.Valid

theorem sound_empty : Sound {} where
  drafts := by
    intro name d h
    cases h
  entities := by
    intro name e h
    cases h

theorem Sound.putDraft (hs : s.Sound) {name : String} {d : Draft} (hd : d.Sound) :
    (s.putDraft name d).Sound where
  drafts := by
    intro other d' h
    rw [draft_putDraft] at h
    split at h
    · cases h
      exact hd
    · exact hs.drafts other d' h
  entities := hs.entities

theorem Sound.putEntity (hs : s.Sound) {result : Option String} {e : Entity} (he : e.Valid) :
    (s.putEntity result e).Sound where
  drafts := by
    intro name d h
    rw [draft_eq_ok_iff, drafts_putEntity] at h
    exact hs.drafts name d (draft_eq_ok_iff.mpr h)
  entities := by
    intro other e' h
    rw [entity_putEntity] at h
    split at h
    · cases h
      exact he
    · exact hs.entities other e' h

theorem sound_of_move {st : Step} {r : Reply} (hs : s.Sound) (h : s.Move st r s') :
    s'.Sound ∧ r.Valid := by
  cases h with
  | start name kind => exact ⟨hs.putDraft (Draft.sound_empty kind), by rintro e ⟨⟩⟩
  | copy name kind he _ =>
    exact ⟨hs.putDraft (Entity.sound_toDraft (hs.entities _ _ he)), by rintro e ⟨⟩⟩
  | set name hd h =>
    exact ⟨hs.putDraft (sound_of_edited (hs.drafts _ _ hd) h), by rintro e ⟨⟩⟩
  | add name hd he h =>
    exact ⟨hs.putDraft (sound_of_extended (hs.drafts _ _ hd) (hs.entities _ _ he) h),
      by rintro e ⟨⟩⟩
  | build result hd h =>
    have hvalid := Draft.valid_of_build (hs.drafts _ _ hd) h
    refine ⟨hs.putEntity hvalid, ?_⟩
    rintro e ⟨⟩
    exact hvalid
  | describe he =>
    refine ⟨hs, ?_⟩
    rintro e ⟨⟩
    exact hs.entities _ _ he
  | compare _ _ => exact ⟨hs, by rintro e ⟨⟩⟩
  | listSources _ => exact ⟨hs, by rintro e ⟨⟩⟩
  | findGroup hc =>
    refine ⟨hs, ?_⟩
    intro e he
    obtain ⟨g, hg, rfl⟩ := Option.map_eq_some_iff.mp (Reply.entity.inj he)
    exact Config.Valid.findGroup (hs.entities _ _ hc) hg
  | findSource hc =>
    refine ⟨hs, ?_⟩
    intro e he
    obtain ⟨s, hsource, rfl⟩ := Option.map_eq_some_iff.mp (Reply.entity.inj he)
    exact Config.Valid.findSource (hs.entities _ _ hc) hsource

/-! From one step to all of them. A step that fails is passed over. -/

theorem run_cons_ok {st : Step} {sts : List Step} {r : Reply} (h : s.step st = .ok (r, s')) :
    s.run (st :: sts) = (.ok r :: (s'.run sts).1, (s'.run sts).2) := by
  simp only [run, h]

theorem run_cons_error {st : Step} {sts : List Step} {e : StepError} (h : s.step st = .error e) :
    s.run (st :: sts) = (.error e :: (s.run sts).1, (s.run sts).2) := by
  simp only [run, h]

theorem sound_run (hs : s.Sound) (steps : List Step) :
    (s.run steps).2.Sound ∧ ∀ r, Except.ok r ∈ (s.run steps).1 → r.Valid := by
  induction steps generalizing s with
  | nil => exact ⟨hs, fun r hr => absurd hr List.not_mem_nil⟩
  | cons st sts ih =>
    cases hstep : s.step st with
    | error e =>
      rw [run_cons_error hstep]
      refine ⟨(ih hs).1, fun r hr => (ih hs).2 r ?_⟩
      simpa using hr
    | ok result =>
      obtain ⟨reply, next⟩ := result
      rw [run_cons_ok hstep]
      obtain ⟨hnext, hreply⟩ := sound_of_move hs (move_of_step hstep)
      refine ⟨(ih hnext).1, fun r hr => ?_⟩
      rcases List.mem_cons.mp hr with heq | hrest
      · cases heq
        exact hreply
      · exact (ih hnext).2 r hrest

theorem drafts_run_build (s : Session) (name : String) (result : Option String) :
    (s.run [.build name result]).2.drafts = s.drafts := by
  cases hstep : s.step (.build name result) with
  | error e => rw [run_cons_error hstep, run]
  | ok moved =>
    obtain ⟨reply, next⟩ := moved
    rw [run_cons_ok hstep, run]
    cases move_of_step hstep with
    | build _ _ _ => exact drafts_putEntity

theorem entity_of_move {st : Step} {r : Reply} {name : String} (h : s.Move st r s')
    (hname : ∀ d, st ≠ .build d (some name)) : s'.entity name = s.entity name := by
  cases h with
  | build result _ _ =>
    rw [entity_putEntity, if_neg]
    rintro rfl
    exact hname _ rfl
  | _ => rfl

theorem entity_run {name : String} {steps : List Step}
    (h : ∀ d, Step.build d (some name) ∉ steps) : (s.run steps).2.entity name = s.entity name := by
  induction steps generalizing s with
  | nil => rfl
  | cons st sts ih =>
    have hrest : ∀ d, Step.build d (some name) ∉ sts :=
      fun d hd => h d (List.mem_cons_of_mem _ hd)
    cases hstep : s.step st with
    | error e => rw [run_cons_error hstep, ih hrest]
    | ok result =>
      obtain ⟨reply, next⟩ := result
      rw [run_cons_ok hstep, ih hrest]
      refine entity_of_move (move_of_step hstep) ?_
      rintro d rfl
      exact h d List.mem_cons_self

/-- The session after a list of steps from the start. -/
def after (steps : List Step) : Session :=
  (run {} steps).2

theorem every_entity_valid (steps : List Step) :
    (∀ e, Except.ok (Reply.entity (some e)) ∈ (run {} steps).1 → e.Valid) ∧
    (∀ name e, (after steps).entity name = .ok e → e.Valid) ∧
    (∀ name result, ((after steps).run [.build name result]).2.drafts = (after steps).drafts) ∧
    ∀ name later, (∀ d, Step.build d (some name) ∉ later) →
      ((after steps).run later).2.entity name = (after steps).entity name := by
  obtain ⟨hsound, hreplies⟩ := sound_run sound_empty steps
  refine ⟨?_, hsound.entities, drafts_run_build _, fun name later => entity_run⟩
  intro e he
  exact hreplies _ he e rfl

/-- A source with an unknown kind, mended, put in a group, and copied as a static one. -/
private def sampleSteps : List Step := [
  .new "s" .source none,
  .set "s" (.source (.kind 9)),
  .build "s" (some "lock"),
  .set "s" (.source (.kind 2)),
  .set "s" (.source (.id (some "lock"))),
  .set "s" (.source (.packageName (some "app"))),
  .set "s" (.source (.displayState 3)),
  .build "s" (some "lock"),
  .new "g" .group none,
  .set "g" (.group (.id (some "device"))),
  .add "g" "lock",
  .build "g" (some "device"),
  .new "s" .source (some "lock"),
  .set "s" (.source (.kind 1)),
  .build "s" (some "lock")]

private def sampleSource : Source :=
  ⟨.dynamic, "lock", some "app", 0, 0, 0, none, .primary, .hidden, none, 0, none, false, false⟩

private def sampleGroup : Group := ⟨"device", 0, 0, .none, [sampleSource]⟩

theorem sample_entities_valid :
    Except.ok (Reply.entity (some (.group sampleGroup))) ∈ (run {} sampleSteps).1 ∧
    (Entity.group sampleGroup).Valid ∧
    (after sampleSteps).entity "lock" = .ok (.source sampleSource) ∧
    (Entity.source sampleSource).Valid ∧
    (∀ d, Step.build d (some "lock") ∉ [.build "g" (some "device")]) ∧
    ((after sampleSteps).run [.build "g" (some "device")]).2.entity "lock" =
      (after sampleSteps).entity "lock" := by
  have hgroup : Except.ok (Reply.entity (some (.group sampleGroup))) ∈ (run {} sampleSteps).1 :=
    List.mem_of_getElem? (i := 11) rfl
  have hsource : (after sampleSteps).entity "lock" = .ok (.source sampleSource) := rfl
  have hlater : ∀ d, Step.build d (some "lock") ∉ [Step.build "g" (some "device")] := by
    intro d
    simp
  obtain ⟨hreplied, hstored, _, hkept⟩ := every_entity_valid sampleSteps
  exact ⟨hgroup, hreplied _ hgroup, hsource, hstored _ _ hsource, hlater, hkept _ _ hlater⟩

end Session

end SafetyConfig
