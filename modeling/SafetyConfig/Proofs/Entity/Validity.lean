import SafetyConfig.Draft.Group

/-!
# Valid entities

What every built source, group and configuration satisfies, said of the entities alone
and not of the drafts they come from.
-/

namespace SafetyConfig

/-- A text that is there and not empty. -/
def Filled (text : Option String) : Prop :=
  ∃ s, text = some s ∧ s ≠ ""

theorem isFilled_iff {text : Option String} : isFilled text = true ↔ Filled text := by
  cases text with
  | none => simp [isFilled, Filled]
  | some s => simp [isFilled, Filled]

/-- Every text but an absent one and an empty one is filled. -/
theorem filled_iff_getD {text : Option String} : Filled text ↔ text.getD "" ≠ "" := by
  cases text with
  | none => simp [Filled]
  | some s => simp [Filled]

namespace Source

/-- A static entry is all there is from the start: nothing may update it. -/
structure FitsStatic (s : Source) : Prop where
  intentAction : Filled s.intentAction
  receiver : s.receiver = none
  displayState : s.displayState = .unspecified
  maxSeverity : s.maxSeverity = none
  disallowLogging : s.disallowLogging = false
  refreshOnOpen : s.refreshOnOpen = false

/-- A dynamic entry has an owner, and leads somewhere unless it is hidden. -/
structure FitsDynamic (s : Source) : Prop where
  packageName : Filled s.packageName
  displayState : s.displayState ≠ .unspecified
  intentAction : s.displayState ≠ .hidden → Filled s.intentAction

/-- Without an entry there is nothing to show, name or open. -/
structure FitsIssueOnly (s : Source) : Prop where
  packageName : Filled s.packageName
  title : s.title = 0
  titleForWork : s.titleForWork = 0
  summary : s.summary = 0
  searchTerms : s.searchTerms = 0
  intentAction : s.intentAction = none
  displayState : s.displayState = .unspecified

structure Valid (s : Source) : Prop where
  kind : s.kind ≠ .unspecified
  id : s.id ≠ ""
  profile : s.profile ≠ .unspecified
  maxSeverity : ∀ n, s.maxSeverity = some n → 0 ≤ n
  titleForWork : s.titleForWork ≠ 0 → s.profile = .all
  static : s.kind = .static → s.FitsStatic
  dynamic : s.kind = .dynamic → s.FitsDynamic
  issueOnly : s.kind = .issueOnly → s.FitsIssueOnly

end Source

namespace Group

/-- What a group owes of its own, whatever its sources are. -/
structure Complete (g : Group) : Prop where
  id : g.id ≠ ""
  icon : g.icon ≠ .unspecified
  sources : g.sources ≠ []

structure Valid (g : Group) : Prop extends g.Complete where
  sourcesValid : ∀ s ∈ g.sources, s.Valid

end Group

structure Config.Valid (c : Config) : Prop where
  groups : c.groups ≠ []
  groupsValid : ∀ g ∈ c.groups, g.Valid

namespace Config.Valid

theorem findGroup {c : Config} (h : c.Valid) {id : String} {g : Group}
    (hg : c.findGroup? id = some g) : g.Valid :=
  h.groupsValid g (List.mem_of_find?_eq_some hg)

theorem mem_sources {c : Config} (h : c.Valid) {s : Source} (hs : s ∈ c.sources) : s.Valid := by
  obtain ⟨g, hg, hsg⟩ := List.mem_flatMap.mp hs
  exact (h.groupsValid g hg).sourcesValid s hsg

theorem findSource {c : Config} (h : c.Valid) {id : String} {s : Source}
    (hs : c.findSource? id = some s) : s.Valid :=
  h.mem_sources (List.mem_of_find?_eq_some hs)

end Config.Valid

end SafetyConfig
