import Mathlib.Data.List.Forall2
import Mathlib.Data.List.Induction
import SafetyConfig.Proofs.Draft.Copy
import SafetyConfig.Proofs.Draft.Session

/-!
# What a draft is built from

Of all the values that a field was set to, only the last one counts, whatever was set before it
and in whichever order. On the last values a source owes a list of demands; the first one that is
not met is reported, and where all are met they make up the source, but for two defaults.
-/

namespace SafetyConfig

/-- Something owed. If it is not met, its field is reported for its reason. -/
structure Demand where
  field : Field
  reason : Reason
  Met : Prop

/-- A demand is not met, all those before it being met, and the violation is of that demand. -/
def FirstUnmet (entity : ElementName) (demands : List Demand) (v : Violation) : Prop :=
  ∃ before demand after, demands = before ++ demand :: after ∧ (∀ p ∈ before, p.Met) ∧
    ¬ demand.Met ∧ v = ⟨entity, demand.field, demand.reason⟩

theorem firstUnmet_cons_iff {entity : ElementName} {p : Demand} {demands : List Demand}
    {v : Violation} : FirstUnmet entity (p :: demands) v ↔
      ¬ p.Met ∧ v = ⟨entity, p.field, p.reason⟩ ∨ p.Met ∧ FirstUnmet entity demands v := by
  constructor
  · rintro ⟨before, demand, after, heq, hbefore, hunmet, hv⟩
    cases before with
    | nil =>
      obtain ⟨rfl, rfl⟩ := List.cons.inj heq
      exact Or.inl ⟨hunmet, hv⟩
    | cons q before =>
      obtain ⟨rfl, rfl⟩ := List.cons.inj heq
      obtain ⟨hp, hrest⟩ := List.forall_mem_cons.mp hbefore
      exact Or.inr ⟨hp, before, demand, after, rfl, hrest, hunmet, hv⟩
  · rintro (⟨hunmet, hv⟩ | ⟨hp, before, demand, after, rfl, hbefore, hunmet, hv⟩)
    · exact ⟨[], p, demands, rfl, List.forall_mem_nil _, hunmet, hv⟩
    · exact ⟨p :: before, demand, after, rfl, List.forall_mem_cons.mpr ⟨hp, hbefore⟩, hunmet, hv⟩

namespace Rule

/-- A rule that holds exactly if the demand is met, and reports it otherwise. -/
structure Checks (r : Rule) (p : Demand) : Prop where
  field : r.field = p.field
  reason : r.reason = p.reason
  holds : r.holds = true ↔ p.Met

variable {entity : ElementName} {rules : List Rule} {demands : List Demand}

theorem forall_met_iff (h : List.Forall₂ Checks rules demands) :
    (∀ p ∈ demands, p.Met) ↔ ∀ r ∈ rules, r.holds = true := by
  induction h with
  | nil => simp
  | cons hp _ ih => rw [List.forall_mem_cons, List.forall_mem_cons, hp.holds, ih]

theorem firstBroken_eq_some_iff {v : Violation} (h : List.Forall₂ Checks rules demands) :
    firstBroken entity rules = some v ↔ FirstUnmet entity demands v := by
  induction h with
  | nil => simp [firstBroken, FirstUnmet]
  | @cons r p rules demands hp _ ih =>
    rw [firstUnmet_cons_iff, ← hp.holds, ← hp.field, ← hp.reason]
    cases hr : r.holds with
    | true => simpa [firstBroken, hr] using ih
    | false => simp [firstBroken, hr, eq_comm]

variable {α : Type} {settled : α}

theorem check_eq_violation_iff {v : Violation} (h : List.Forall₂ Checks rules demands) :
    check entity rules settled = .error (.violation v) ↔
      FirstUnmet entity demands v ∧ v.reason.Showable := by
  rw [check_eq_error_iff_firstBroken]
  constructor
  · rintro ⟨w, hw, heq⟩
    obtain ⟨rfl, hshowable⟩ := Violation.raised_eq_violation_iff.mp heq.symm
    exact ⟨(firstBroken_eq_some_iff h).mp hw, hshowable⟩
  · rintro ⟨hfirst, hshowable⟩
    exact ⟨v, (firstBroken_eq_some_iff h).mpr hfirst,
      (Violation.raised_eq_violation_iff.mpr ⟨rfl, hshowable⟩).symm⟩

theorem check_eq_unshowable_iff (h : List.Forall₂ Checks rules demands) :
    check entity rules settled = .error .unshowable ↔
      ∃ v, FirstUnmet entity demands v ∧ ¬ v.reason.Showable := by
  rw [check_eq_error_iff_firstBroken]
  refine exists_congr fun v => ?_
  rw [firstBroken_eq_some_iff h, eq_comm, Violation.raised_eq_unshowable_iff]

end Rule

namespace SourceDraft

/-! The last value of each field. -/

/-- The value set last, or the one that there is at the start. -/
def lastSet {α : Type} (value? : SourceEdit → Option α) (start : α) (edits : List SourceEdit) : α :=
  (edits.reverse.findSome? value?).getD start

def lastValues (edits : List SourceEdit) : SourceDraft where
  kind := lastSet (fun | .kind value => some value | _ => none) 0 edits
  id := lastSet (fun | .id text => some text | _ => none) none edits
  packageName := lastSet (fun | .packageName text => some text | _ => none) none edits
  title := lastSet (fun | .title n => some n | _ => none) 0 edits
  titleForWork := lastSet (fun | .titleForWork n => some n | _ => none) 0 edits
  summary := lastSet (fun | .summary n => some n | _ => none) 0 edits
  intentAction := lastSet (fun | .intentAction text => some text | _ => none) none edits
  profile := lastSet (fun | .profile value => some value | _ => none) 0 edits
  displayState := lastSet (fun | .displayState value => some value | _ => none) 0 edits
  maxSeverity := lastSet (fun | .maxSeverity level => some level | _ => none) none edits
  searchTerms := lastSet (fun | .searchTerms n => some n | _ => none) 0 edits
  receiver := lastSet (fun | .receiver text => some text | _ => none) none edits
  disallowLogging := lastSet (fun | .disallowLogging b => some b | _ => none) false edits
  refreshOnOpen := lastSet (fun | .refreshOnOpen b => some b | _ => none) false edits

theorem lastSet_append_singleton {α : Type} (value? : SourceEdit → Option α) (start : α)
    (edits : List SourceEdit) (e : SourceEdit) :
    lastSet value? start (edits ++ [e]) = (value? e).getD (lastSet value? start edits) := by
  rw [lastSet, List.reverse_append, List.reverse_singleton, List.singleton_append,
    List.findSome?_cons]
  cases value? e <;> rfl

theorem lastValues_append_singleton (edits : List SourceEdit) (e : SourceEdit) :
    lastValues (edits ++ [e]) = (lastValues edits).edit e := by
  cases e <;> simp only [lastValues, lastSet_append_singleton, edit, Option.getD_some,
    Option.getD_none]

theorem foldl_edit (edits : List SourceEdit) : edits.foldl edit {} = lastValues edits := by
  induction edits using List.reverseRecOn with
  | nil => rfl
  | append_singleton edits e ih =>
    rw [List.foldl_append, ih, lastValues_append_singleton, List.foldl_cons, List.foldl_nil]

/-! What is owed, in the order in which it is asked for. -/

def staticDemands (d : SourceDraft) : List Demand := [
  ⟨.intentAction, .required, Filled d.intentAction⟩,
  ⟨.receiver, .prohibitedForStatic, d.receiver = none⟩,
  ⟨.displayState, .prohibitedForStatic, d.displayState.code = 0⟩,
  ⟨.maxSeverity, .prohibitedForStatic, d.maxSeverity = none⟩,
  ⟨.disallowLogging, .prohibitedForStatic, d.disallowLogging = false⟩,
  ⟨.refreshOnOpen, .prohibitedForStatic, d.refreshOnOpen = false⟩]

def dynamicDemands (d : SourceDraft) : List Demand := [
  ⟨.packageName, .required, Filled d.packageName⟩,
  ⟨.intentAction, .required, d.displayState.code ≠ 3 → Filled d.intentAction⟩]

def issueOnlyDemands (d : SourceDraft) : List Demand := [
  ⟨.packageName, .required, Filled d.packageName⟩,
  ⟨.title, .prohibitedForIssueOnly, d.title = 0⟩,
  ⟨.titleForWork, .prohibitedForIssueOnly, d.titleForWork = 0⟩,
  ⟨.summary, .prohibitedForIssueOnly, d.summary = 0⟩,
  ⟨.searchTerms, .prohibitedForIssueOnly, d.searchTerms = 0⟩,
  ⟨.intentAction, .prohibitedForIssueOnly, d.intentAction = none⟩,
  ⟨.displayState, .prohibitedForIssueOnly, d.displayState.code = 0⟩]

def kindDemands (d : SourceDraft) : List Demand :=
  if d.kind.code = 1 then d.staticDemands
  else if d.kind.code = 2 then d.dynamicDemands
  else if d.kind.code = 3 then d.issueOnlyDemands
  else []

def demands (d : SourceDraft) : List Demand :=
  [⟨.kind, .unknownValue d.kind, 0 ≤ d.kind.code ∧ d.kind.code ≤ 3⟩,
   ⟨.kind, .required, d.kind.code ≠ 0⟩,
   ⟨.id, .required, Filled d.id⟩,
   ⟨.profile, .unknownValue d.profile, 0 ≤ d.profile.code ∧ d.profile.code ≤ 2⟩,
   ⟨.displayState, .unknownValue d.displayState,
    0 ≤ d.displayState.code ∧ d.displayState.code ≤ 3⟩,
   ⟨.maxSeverity, .negative, ∀ level, d.maxSeverity = some level → 0 ≤ level⟩] ++
  d.kindDemands ++
  [⟨.titleForWork, .onlyForAllProfiles, d.titleForWork ≠ 0 → d.profile.code = 2⟩]

/-- The values as numbers, with both defaults filled in. -/
def completed (d : SourceDraft) : SourceDraft :=
  { d.numbered with
    profile := if d.profile.code = 0 then 1 else d.profile.numbered
    displayState :=
      if d.kind.code = 2 ∧ d.displayState.code = 0 then 1 else d.displayState.numbered }

variable {d : SourceDraft}

theorem checks_static : List.Forall₂ Rule.Checks d.staticRules d.staticDemands := by
  have hunset : ∀ b : Bool, (!b) = true ↔ b = false := by decide
  exact .cons ⟨rfl, rfl, isFilled_iff⟩ (.cons ⟨rfl, rfl, Option.isNone_iff_eq_none⟩
    (.cons ⟨rfl, rfl, beq_iff_eq⟩ (.cons ⟨rfl, rfl, Option.isNone_iff_eq_none⟩
    (.cons ⟨rfl, rfl, hunset _⟩ (.cons ⟨rfl, rfl, hunset _⟩ .nil)))))

theorem checks_dynamic : List.Forall₂ Rule.Checks d.dynamicRules d.dynamicDemands := by
  refine .cons ⟨rfl, rfl, isFilled_iff⟩ (.cons ⟨rfl, rfl, ?_⟩ .nil)
  rw [Bool.or_eq_true, beq_iff_eq, isFilled_iff, or_iff_not_imp_left]
  rfl

theorem checks_issueOnly : List.Forall₂ Rule.Checks d.issueOnlyRules d.issueOnlyDemands :=
  .cons ⟨rfl, rfl, isFilled_iff⟩ (.cons ⟨rfl, rfl, beq_iff_eq⟩ (.cons ⟨rfl, rfl, beq_iff_eq⟩
    (.cons ⟨rfl, rfl, beq_iff_eq⟩ (.cons ⟨rfl, rfl, beq_iff_eq⟩
    (.cons ⟨rfl, rfl, Option.isNone_iff_eq_none⟩ (.cons ⟨rfl, rfl, beq_iff_eq⟩ .nil))))))

theorem checks_kind : List.Forall₂ Rule.Checks d.kindRules d.kindDemands := by
  rw [kindRules, kindDemands]
  by_cases hstatic : d.kind.code = 1
  · rw [if_pos hstatic, hstatic]
    exact checks_static
  · rw [if_neg hstatic]
    by_cases hdynamic : d.kind.code = 2
    · rw [if_pos hdynamic, hdynamic]
      exact checks_dynamic
    · rw [if_neg hdynamic]
      by_cases hissue : d.kind.code = 3
      · rw [if_pos hissue, hissue]
        exact checks_issueOnly
      · rw [if_neg hissue]
        split
        · rename_i h
          exact absurd (SourceKind.ofCode?_eq_some_iff.mp h) hstatic
        · rename_i h
          exact absurd (SourceKind.ofCode?_eq_some_iff.mp h) hdynamic
        · rename_i h
          exact absurd (SourceKind.ofCode?_eq_some_iff.mp h) hissue
        · exact .nil

theorem checks_rules : List.Forall₂ Rule.Checks d.rules d.demands := by
  have hkind : (SourceKind.ofCode? d.kind.code).isSome = true ↔
      0 ≤ d.kind.code ∧ d.kind.code ≤ 3 := by
    rw [Option.isSome_iff_exists, SourceKind.exists_ofCode?_iff]
    omega
  have hprofile : (Profile.ofCode? d.profile.code).isSome = true ↔
      0 ≤ d.profile.code ∧ d.profile.code ≤ 2 := by
    rw [Option.isSome_iff_exists, Profile.exists_ofCode?_iff]
    omega
  have hstate : (DisplayState.ofCode? d.displayState.code).isSome = true ↔
      0 ≤ d.displayState.code ∧ d.displayState.code ≤ 3 := by
    rw [Option.isSome_iff_exists, DisplayState.exists_ofCode?_iff]
    omega
  have hseverity : d.maxSeverity.all (0 ≤ ·) = true ↔
      ∀ level, d.maxSeverity = some level → 0 ≤ level := by
    simp [Option.all_eq_true]
  have hwork : (d.titleForWork == 0 || d.profile.code == Profile.all.code) = true ↔
      (d.titleForWork ≠ 0 → d.profile.code = 2) := by
    rw [Bool.or_eq_true, beq_iff_eq, beq_iff_eq, or_iff_not_imp_left]
    rfl
  refine List.rel_append (List.rel_append ?_ checks_kind) ?_
  · exact .cons ⟨rfl, rfl, hkind⟩ (.cons ⟨rfl, rfl, bne_iff_ne⟩ (.cons ⟨rfl, rfl, isFilled_iff⟩
      (.cons ⟨rfl, rfl, hprofile⟩ (.cons ⟨rfl, rfl, hstate⟩ (.cons ⟨rfl, rfl, hseverity⟩ .nil)))))
  · exact .cons ⟨rfl, rfl, hwork⟩ .nil

end SourceDraft

/-! What is built. -/

theorem Source.toDraft_injective {s s' : Source} (h : s.toDraft = s'.toDraft) : s = s' := by
  cases s
  cases s'
  simp only [toDraft, SourceDraft.mk.injEq, Option.some.injEq, EnumValue.number.injEq] at h
  obtain ⟨hkind, rfl, rfl, rfl, rfl, rfl, rfl, hprofile, hstate, rfl, rfl, rfl, rfl, rfl⟩ := h
  rw [SourceKind.code_injective hkind, Profile.code_injective hprofile,
    DisplayState.code_injective hstate]

namespace SourceDraft

variable {d : SourceDraft}

theorem Lawful.toDraft_settled_eq_completed (h : d.Lawful) : d.settled.toDraft = d.completed := by
  have hprofile : EnumValue.number d.settled.profile.code =
      if d.profile.code = 0 then 1 else d.profile.numbered := by
    by_cases hopen : d.profile.code = 0
    · rw [h.settled_profile, hopen]
      rfl
    · rw [if_neg hopen, h.code_settled_profile.mpr hopen]
      rfl
  have hstate : EnumValue.number d.settled.displayState.code =
      if d.kind.code = 2 ∧ d.displayState.code = 0 then 1 else d.displayState.numbered := by
    by_cases hopen : d.kind.code = 2 ∧ d.displayState.code = 0
    · rw [h.settled_displayState, if_pos hopen, hopen.1, hopen.2]
      rfl
    · rw [if_neg hopen, h.code_settled_displayState.mpr fun hkind hzero => hopen ⟨hkind, hzero⟩]
      rfl
  rw [h.toDraft_settled, hprofile, hstate]
  rfl

theorem lawful_iff_forall_met : d.Lawful ↔ ∀ p ∈ d.demands, p.Met := by
  rw [Rule.forall_met_iff checks_rules, rules_hold_iff]

theorem build_eq_ok_iff_completed {s : Source} :
    d.build = .ok s ↔ (∀ p ∈ d.demands, p.Met) ∧ s.toDraft = d.completed := by
  rw [build_eq_ok_iff, ← lawful_iff_forall_met]
  constructor
  · rintro ⟨hlawful, rfl⟩
    exact ⟨hlawful, hlawful.toDraft_settled_eq_completed⟩
  · rintro ⟨hlawful, heq⟩
    exact ⟨hlawful, Source.toDraft_injective (heq.trans hlawful.toDraft_settled_eq_completed.symm)⟩

theorem met_numbered_iff : (∀ p ∈ d.numbered.demands, p.Met) ↔ ∀ p ∈ d.demands, p.Met := by
  simp only [demands, List.forall_mem_append, List.forall_mem_cons]
  exact Iff.rfl

/-- A member of an enumeration and its number make no difference to what is built. -/
theorem build_numbered_eq_ok_iff {s : Source} : d.numbered.build = .ok s ↔ d.build = .ok s := by
  have hcompleted : d.numbered.completed = d.completed := rfl
  rw [build_eq_ok_iff_completed, build_eq_ok_iff_completed, met_numbered_iff, hcompleted]

theorem exists_build_eq_ok_iff : (∃ s, d.build = .ok s) ↔ ∀ p ∈ d.demands, p.Met := by
  rw [← lawful_iff_forall_met]
  constructor
  · rintro ⟨s, hs⟩
    exact (build_eq_ok_iff.mp hs).1
  · intro hlawful
    exact ⟨d.settled, build_eq_ok_iff.mpr ⟨hlawful, rfl⟩⟩

end SourceDraft

namespace Session

variable {s : Session}

/-- The steps that start a draft of a source and set its fields one after the other. -/
def drafting (name : String) (edits : List SourceEdit) : List Step :=
  .new name .source none :: edits.map fun e => .set name (.source e)

theorem draft_run_sets {name : String} {d : SourceDraft} (hd : s.draft name = .ok (.source d))
    (edits : List SourceEdit) :
    (s.run (edits.map fun e => .set name (.source e))).2.draft name =
      .ok (.source (edits.foldl SourceDraft.edit d)) := by
  induction edits generalizing s d with
  | nil => exact hd
  | cons e edits ih =>
    have hstep : s.step (.set name (.source e)) =
        .ok (.changed, s.putDraft name (.source (d.edit e))) := by
      simp only [step, hd, edited, ok_bind]
      rfl
    rw [List.map_cons, run_cons_ok hstep]
    refine ih (d := d.edit e) ?_
    rw [draft_putDraft, if_pos rfl]

theorem draft_run_drafting (s : Session) (name : String) (edits : List SourceEdit) :
    (s.run (drafting name edits)).2.draft name = .ok (.source (SourceDraft.lastValues edits)) := by
  have hstep : s.step (.new name .source none) =
      .ok (.done, s.putDraft name (.source {})) := rfl
  rw [drafting, run_cons_ok hstep, ← SourceDraft.foldl_edit]
  apply draft_run_sets
  rw [draft_putDraft, if_pos rfl]

end Session

/-- The kind has been mended since, but there still are two things that a static source may not
have. -/
example : (SourceDraft.lastValues [.disallowLogging true, .id (some "lock"), .kind 9,
    .receiver none, .kind 1, .intentAction (some "open"), .receiver (some "")]).build =
      .error (.violation ⟨.source, .receiver, .prohibitedForStatic⟩) := by
  decide

end SafetyConfig
