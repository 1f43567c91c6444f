import SafetyConfig.Proofs.Convert.Acceptance

/-!
# Which fault is reported

A tree is checked in one pass: the root, then every group with its references, its sources
and only then its own rules, and at last that there is a group at all. The checks of that
pass are listed here, and conversion reports the fault of the first one that fails. What
comes after that check in a tree does not matter. The fault of a rule is a violation, unless the
violation would have to write out a number that is too long for that.
-/

namespace SafetyConfig

/-- One thing that is looked at, with what is read of the tree for it. -/
inductive Check where
  | presence (isThere : Bool) (otherwise : ConversionError)
  | reference (element : ElementName) (field : Field) (text : Option String)
  | rule (element : ElementName) (rule : Rule)
  deriving DecidableEq, Repr

namespace ResourceScope

/-- What is wrong with a text where a reference belongs. -/
def referenceFault? (scope : ResourceScope) (place : Place) (reference : String) :
    Option ConversionError :=
  if "@string/".toList <+: reference.toList then
    if scope.identifier reference = 0 then some (.referenceMissing reference place) else none
  else some (.notAReference reference place)

end ResourceScope

namespace Check

def fault? (scope : ResourceScope) : Check → Option ConversionError
  | presence isThere otherwise => if isThere then none else some otherwise
  | reference element field text =>
    text.bind (scope.referenceFault? ⟨element.label, field.label⟩)
  | rule element r =>
    if r.holds then none
    else if r.reason.Showable then
      some (.invalidElement element (some ⟨element, r.field, r.reason⟩))
    else some .unshowable

end Check

/-- The rules of a group in their order; they are looked at after its sources. -/
def RawGroup.rules (r : RawGroup) : List Rule := [
  ⟨.id, .required, isFilled r.id⟩,
  ⟨.icon, .unknownValue r.icon, r.icon == 0 || r.icon == 1 || r.icon == 2⟩,
  ⟨.child .source, .noSource, !r.sources.isEmpty⟩]

def sourceChecks (scope : ResourceScope) (item : Option RawSource) : List Check :=
  .presence item.isSome (.invalidElement .source none) ::
    match item with
    | none => []
    | some r =>
      .reference .source .title r.title ::
      .reference .source .titleForWork r.titleForWork ::
      .reference .source .summary r.summary ::
      .reference .source .searchTerms r.searchTerms ::
      (r.draft scope).rules.map (.rule .source)

def groupChecks (scope : ResourceScope) (item : Option RawGroup) : List Check :=
  .presence item.isSome (.invalidElement .sourcesGroup none) ::
    match item with
    | none => []
    | some r =>
      .reference .sourcesGroup .title r.title ::
      .reference .sourcesGroup .summary r.summary ::
      (r.sources.flatMap (sourceChecks scope) ++ r.rules.map (.rule .sourcesGroup))

/-- All checks of a tree in their order, as far as there is something to look at. -/
def treeChecks (scope : ResourceScope) (raw : Option RawConfig) : List Check :=
  .presence raw.isSome (.missingElement .centerConfig) ::
    match raw with
    | none => []
    | some config =>
      .presence config.sourcesConfig.isSome (.missingElement .sourcesConfig) ::
        match config.sourcesConfig with
        | none => []
        | some ⟨groups⟩ =>
          .presence groups.isSome (.invalidElement .sourcesConfig none) ::
            match groups with
            | none => []
            | some groups =>
              groups.flatMap (groupChecks scope) ++
              [.rule .sourcesConfig ⟨.child .sourcesGroup, .noGroup, !groups.isEmpty⟩]

/-- A fault of some check, all checks before it being passed. -/
def FirstFault (scope : ResourceScope) (checks : List Check) (e : ConversionError) : Prop :=
  ∃ before check after, checks = before ++ check :: after ∧
    (∀ c ∈ before, c.fault? scope = none) ∧ check.fault? scope = some e

variable {scope : ResourceScope}

theorem firstFault_iff_findSome? {checks : List Check} {e : ConversionError} :
    FirstFault scope checks e ↔ checks.findSome? (Check.fault? scope) = some e := by
  rw [List.findSome?_eq_some_iff]
  constructor
  · rintro ⟨before, check, after, heq, hpassed, hfault⟩
    exact ⟨before, check, after, heq, hfault, hpassed⟩
  · rintro ⟨before, check, after, heq, hfault, hpassed⟩
    exact ⟨before, check, after, heq, hpassed, hfault⟩

/-! Steps in sequence have their checks in sequence. -/

/-- A step that fails with the first fault of its checks and succeeds if there is none. -/
def FailsBy {α : Type} (scope : ResourceScope) (checks : List Check)
    (x : Except ConversionError α) : Prop :=
  ∀ e, x = .error e ↔ checks.findSome? (Check.fault? scope) = some e

namespace FailsBy

variable {α β : Type}

theorem iff_failure? {checks : List Check} {x : Except ConversionError α} :
    FailsBy scope checks x ↔ failure? x = checks.findSome? (Check.fault? scope) := by
  simp only [FailsBy, ← failure?_eq_some_iff]
  exact ⟨fun h => Option.ext h, fun h e => by rw [h]⟩

theorem bind {checks more : List Check} {x : Except ConversionError α}
    {f : α → Except ConversionError β} (h : FailsBy scope checks x)
    (hf : ∀ a, x = .ok a → FailsBy scope more (f a)) :
    FailsBy scope (checks ++ more) (x >>= f) := by
  rw [iff_failure?, List.findSome?_append, failure?_bind fun a ha => iff_failure?.mp (hf a ha),
    iff_failure?.mp h]

theorem mapM {f : α → Except ConversionError β} {checks : α → List Check}
    (h : ∀ a, FailsBy scope (checks a) (f a)) (as : List α) :
    FailsBy scope (as.flatMap checks) (as.mapM f) :=
  iff_failure?.mpr (failure?_mapM (fun a => iff_failure?.mp (h a)) as)

end FailsBy

/-! What each step checks. -/

theorem failsBy_presence {α : Type} {fault : ConversionError} :
    FailsBy scope [.presence false fault] (.error fault : Except ConversionError α) := by
  intro e
  simp [Check.fault?]

/-- Once something is there, it says by itself what else is checked. -/
theorem failsBy_there {α : Type} {fault : ConversionError} {checks : List Check}
    {x : Except ConversionError α} (h : FailsBy scope checks x) :
    FailsBy scope (.presence true fault :: checks) x := by
  intro e
  rw [h e, List.findSome?_cons]
  simp [Check.fault?]

theorem failsBy_reference (element : ElementName) (field : Field) (text : Option String) :
    FailsBy scope [.reference element field text] (scope.resolveOptional element field text) := by
  intro e
  rw [List.findSome?_singleton]
  cases text with
  | none => simp [ResourceScope.resolveOptional, Check.fault?]
  | some reference =>
    simp only [ResourceScope.resolveOptional, Check.fault?, Option.bind_some,
      ResourceScope.referenceFault?]
    by_cases hstart : "@string/".toList <+: reference.toList
    · rw [ResourceScope.resolve_of_start hstart, if_pos hstart]
      split <;> simp
    · rw [ResourceScope.resolve_of_not_start hstart, if_neg hstart]
      simp

theorem fault?_rule_of_broken {element : ElementName} {r : Rule} (h : r.holds = false) :
    (Check.rule element r).fault? scope =
      some ((Violation.raised ⟨element, r.field, r.reason⟩).invalid element) := by
  rw [Check.fault?, h, Violation.raised]
  by_cases hshowable : r.reason.Showable
  · simp [hshowable, BuildError.invalid]
  · simp [hshowable, BuildError.invalid]

theorem failsBy_rules {α : Type} (element : ElementName) (rules : List Rule) (settled : α) :
    FailsBy scope (rules.map (.rule element))
      (orInvalid element (Rule.check element rules settled)) := by
  intro e
  rw [orInvalid_eq_error_iff, List.findSome?_map]
  simp only [Rule.check, Rule.firstBroken]
  induction rules with
  | nil => simp
  | cons r rules ih =>
    cases hr : r.holds with
    | true => simpa [hr, Check.fault?] using ih
    | false => simp [hr, fault?_rule_of_broken hr, eq_comm]

theorem failsBy_source (item : Option RawSource) :
    FailsBy scope (sourceChecks scope item) (convertSource scope item) := by
  cases item with
  | none => exact failsBy_presence
  | some r =>
    refine failsBy_there ?_
    have hrules : ∀ title work summary terms,
        title = scope.optionalIdentifier r.title → work = scope.optionalIdentifier r.titleForWork →
        summary = scope.optionalIdentifier r.summary →
        terms = scope.optionalIdentifier r.searchTerms →
        FailsBy scope ((r.draft scope).rules.map (.rule .source))
          (orInvalid .source (r.toDraft title work summary terms).build) := by
      rintro _ _ _ _ rfl rfl rfl rfl
      exact failsBy_rules .source _ _
    refine (failsBy_reference .source .title r.title).bind fun title htitle => ?_
    refine (failsBy_reference .source .titleForWork r.titleForWork).bind fun work hwork => ?_
    refine (failsBy_reference .source .summary r.summary).bind fun summary hsummary => ?_
    refine (failsBy_reference .source .searchTerms r.searchTerms).bind fun terms hterms => ?_
    exact hrules title work summary terms (ResourceScope.resolveOptional_eq_ok_iff.mp htitle).2
      (ResourceScope.resolveOptional_eq_ok_iff.mp hwork).2
      (ResourceScope.resolveOptional_eq_ok_iff.mp hsummary).2
      (ResourceScope.resolveOptional_eq_ok_iff.mp hterms).2

/-- The rules of a draft are those of the raw group, whatever its sources have become. -/
theorem rules_groupDraft {r : RawGroup} {title summary : ResourceId} {sources : List Source}
    (h : r.sources.mapM (convertSource scope) = .ok sources) :
    (GroupDraft.mk r.id title summary r.icon sources).rules = r.rules := by
  have hicon : (IconKind.ofCode? r.icon).isSome = (r.icon == 0 || r.icon == 1 || r.icon == 2) := by
    rw [Bool.eq_iff_iff, Option.isSome_iff_exists, IconKind.exists_ofCode?_iff]
    simp [or_assoc]
  have hempty : sources.isEmpty = r.sources.isEmpty := by
    have hlength := (mapM_eq_ok_iff.mp h).length_eq
    cases hs : r.sources <;> cases sources <;> simp_all
  simp only [GroupDraft.rules, RawGroup.rules, EnumValue.code_number, hicon, hempty]

theorem failsBy_group (item : Option RawGroup) :
    FailsBy scope (groupChecks scope item) (convertGroup scope item) := by
  cases item with
  | none => exact failsBy_presence
  | some r =>
    refine failsBy_there ?_
    refine (failsBy_reference .sourcesGroup .title r.title).bind fun title _ => ?_
    refine (failsBy_reference .sourcesGroup .summary r.summary).bind fun summary _ => ?_
    refine (FailsBy.mapM failsBy_source r.sources).bind fun sources hsources => ?_
    rw [← rules_groupDraft hsources]
    exact failsBy_rules .sourcesGroup _ _

theorem failsBy_tree (raw : Option RawConfig) :
    FailsBy scope (treeChecks scope raw) (convertConfig scope raw) := by
  match raw with
  | none => exact failsBy_presence
  | some ⟨none⟩ => exact failsBy_there failsBy_presence
  | some ⟨some ⟨none⟩⟩ => exact failsBy_there (failsBy_there failsBy_presence)
  | some ⟨some ⟨some groups⟩⟩ =>
    refine failsBy_there (failsBy_there (failsBy_there ?_))
    refine (FailsBy.mapM failsBy_group groups).bind fun converted hconverted => ?_
    have hempty : converted.isEmpty = groups.isEmpty := by
      have hlength := (mapM_eq_ok_iff.mp hconverted).length_eq
      cases hs : groups <;> cases converted <;> simp_all
    rw [← hempty]
    exact failsBy_rules .sourcesConfig _ _

/-- The same is read of two trees up to a check, the first that fails in either. -/
def AgreeToFault (scope : ResourceScope) (raw other : Option RawConfig) (e : ConversionError) :
    Prop :=
  ∃ before check after after', treeChecks scope raw = before ++ check :: after ∧
    treeChecks scope other = before ++ check :: after' ∧
    (∀ c ∈ before, c.fault? scope = none) ∧ check.fault? scope = some e

theorem convertConfig_eq_error_iff {raw : Option RawConfig} {e : ConversionError} :
    convertConfig scope raw = .error e ↔ FirstFault scope (treeChecks scope raw) e := by
  rw [firstFault_iff_findSome?]
  exact failsBy_tree raw e

/-- A failure in one group, those before it being converted, is that of the whole tree. -/
theorem convertConfig_eq_error_of_group {before after : List (Option RawGroup)}
    {item : Option RawGroup} {e : ConversionError}
    (hbefore : ∀ g ∈ before, ∃ c, convertGroup scope g = .ok c)
    (hitem : convertGroup scope item = .error e) :
    convertConfig scope (some ⟨some ⟨some (before ++ item :: after)⟩⟩) = .error e := by
  have hfails : (before ++ item :: after).mapM (convertGroup scope) = .error e :=
    mapM_eq_error_iff.mpr ⟨before, item, after, rfl, exists_mapM_eq_ok_iff.mpr hbefore, hitem⟩
  simp only [convertConfig, RawConfig.convert, bind_eq_error_iff]
  exact Or.inl hfails

/-- What a group says of itself besides its references is looked at after its sources. -/
theorem convertGroup_eq_error_of_source {r : RawGroup} {before after : List (Option RawSource)}
    {item : Option RawSource} {e : ConversionError} (hsources : r.sources = before ++ item :: after)
    (htitle : scope.OptionalResolves r.title) (hsummary : scope.OptionalResolves r.summary)
    (hbefore : ∀ s ∈ before, ∃ c, convertSource scope s = .ok c)
    (hitem : convertSource scope item = .error e) :
    convertGroup scope (some r) = .error e := by
  have hfails : r.sources.mapM (convertSource scope) = .error e :=
    mapM_eq_error_iff.mpr ⟨before, item, after, hsources, exists_mapM_eq_ok_iff.mpr hbefore, hitem⟩
  simp only [convertGroup, RawGroup.convert, bind_eq_error_iff,
    ResourceScope.resolveOptional_eq_ok_iff]
  exact Or.inr ⟨_, ⟨htitle, rfl⟩, Or.inr ⟨_, ⟨hsummary, rfl⟩, Or.inl hfails⟩⟩

private def plainScope : ResourceScope :=
  ⟨some (Text.ofString "app"),
    ⟨[(Text.ofString "app", [(Text.ofString "string/shield", 7)])]⟩⟩

/-- A group without an id, of an unknown icon, around a source whose title is no reference. -/
private def plainTitleGroup (source : RawSource) : RawGroup where
  title := some "@string/shield"
  icon := 9
  sources := [some source, none]

end SafetyConfig
