import Mathlib.Data.List.Forall2
import SafetyConfig.Convert.Basic
import SafetyConfig.Markup.Element
import SafetyConfig.Number.Digits
import SafetyConfig.Text.CodePoint

/-!
# Published configurations as element trees

An element tree spells a published configuration if its attributes carry the published
fields: names and texts as they are, numbers in decimal, and each resource by any
reference that resolves to it. Where every resource has a reference, there is such a tree.
-/

namespace SafetyConfig

/-- How a published value stands in an attribute. -/
inductive Form where
  | name
  | text
  | number
  | flag
  | reference
  deriving DecidableEq, Repr

/-- What an attribute is when it carries a value. An unspecified name, an absent value and
a missing resource are carried by leaving the attribute out. -/
def Form.Carries (scope : ResourceScope) : Form → Json → Option String → Prop
  | .name, .text t, a =>
    a = if Text.toString t = "unspecified" then none else some (Text.toString t)
  | .text, .text t, a => a = some (Text.toString t)
  | .text, .null, a => a = none
  | .number, .int n, a => a = some (String.ofList (Digits.signedDecimal n))
  | .number, .null, a => a = none
  | .flag, .bool b, a => a = some (if b then "true" else "false")
  | .reference, .int n, a =>
    if n = 0 then a = none
    else ∃ reference place, a = some reference ∧ scope.resolve place reference = .ok n
  | _, _, _ => False

/-- A published field and the attribute that carries it. -/
structure Column where
  published : String
  written : String
  form : Form
  deriving DecidableEq, Repr

def sourceColumns : List Column := [
  ⟨"type", "type", .name⟩,
  ⟨"id", "id", .text⟩,
  ⟨"package_name", "packageName", .text⟩,
  ⟨"title_res_id", "title", .reference⟩,
  ⟨"title_for_work_res_id", "titleForWork", .reference⟩,
  ⟨"summary_res_id", "summary", .reference⟩,
  ⟨"intent_action", "intentAction", .text⟩,
  ⟨"profile", "profile", .name⟩,
  ⟨"initial_display_state", "initialDisplayState", .name⟩,
  ⟨"max_severity_level", "maxSeverityLevel", .number⟩,
  ⟨"search_terms_res_id", "searchTerms", .reference⟩,
  ⟨"broadcast_receiver_class_name", "broadcastReceiverClassName", .text⟩,
  ⟨"disallow_logging", "disallowLogging", .flag⟩,
  ⟨"allow_refresh_on_page_open", "allowRefreshOnPageOpen", .flag⟩]

def groupColumns : List Column := [
  ⟨"id", "id", .text⟩,
  ⟨"title_res_id", "title", .reference⟩,
  ⟨"summary_res_id", "summary", .reference⟩,
  ⟨"stateless_icon_type", "statelessIconType", .name⟩]

def Element.Carries (scope : ResourceScope) (columns : List Column) (e : Element)
    (record : Json) : Prop :=
  ∀ c ∈ columns, ∃ value, record.field? c.published = some value ∧
    c.form.Carries scope value (e.attribute? c.written)

structure SpellsSource (scope : ResourceScope) (e : Element) (source : Json) : Prop where
  tag : e.tag = "safety-source"
  attributes : e.Carries scope sourceColumns source

structure SpellsGroup (scope : ResourceScope) (e : Element) (group : Json) : Prop where
  tag : e.tag = "safety-sources-group"
  attributes : e.Carries scope groupColumns group
  sources : ∃ items, group.field? "safety_sources" = some (.array items) ∧
    List.Forall₂ (SpellsSource scope) e.children items

/-- The groups stand in the only child of the root. -/
structure SpellsConfig (scope : ResourceScope) (e : Element) (config : Json) : Prop where
  tag : e.tag = "safety-center-config"
  groups : ∃ s items, e.children = [s] ∧ s.tag = "safety-sources-config" ∧
    config.field? "safety_sources_groups" = some (.array items) ∧
    List.Forall₂ (SpellsGroup scope) s.children items

/-! Writing a tree. -/

/-- The attribute that carries a value, if one does. -/
def Form.write (refer : ResourceId → String) : Form → Json → Option String
  | .name, .text t => if Text.toString t = "unspecified" then none else some (Text.toString t)
  | .text, .text t => some (Text.toString t)
  | .number, .int n => some (String.ofList (Digits.signedDecimal n))
  | .flag, .bool b => some (if b then "true" else "false")
  | .reference, .int n => if n = 0 then none else some (refer n)
  | _, _ => none

/-- An element with the attributes that carry a published record. -/
def Element.carrying (refer : ResourceId → String) (tag : String) (columns : List Column)
    (record : Json) (children : List Element) : Element :=
  .mk tag (columns.filterMap fun c =>
    ((record.field? c.published).bind (c.form.write refer)).map fun a => (c.written, a)) "" children

def Source.spell (refer : ResourceId → String) (s : Source) : Element :=
  .carrying refer "safety-source" sourceColumns s.toJson []

def Group.spell (refer : ResourceId → String) (g : Group) : Element :=
  .carrying refer "safety-sources-group" groupColumns g.toJson (g.sources.map (Source.spell refer))

def Config.spell (refer : ResourceId → String) (c : Config) : Element :=
  .mk "safety-center-config" [] ""
    [.mk "safety-sources-config" [] "" (c.groups.map (Group.spell refer))]

theorem lookup_filterMap_written {columns : List Column}
    (hdistinct : columns.Pairwise fun c c' => c.written ≠ c'.written) (f : Column → Option String)
    {c : Column} (hc : c ∈ columns) :
    (columns.filterMap fun c => (f c).map fun a => (c.written, a)).lookup c.written = f c := by
  induction hdistinct with
  | nil => cases hc
  | @cons first rest hfirst _ ih =>
    rcases List.mem_cons.mp hc with rfl | hrest
    · cases hf : f c with
      | some a => simp [hf]
      | none =>
        simp only [List.filterMap_cons, hf, Option.map_none, List.lookup_eq_none_iff]
        rintro ⟨key, a⟩ hmem
        obtain ⟨c', hc', ha⟩ := List.mem_filterMap.mp hmem
        obtain ⟨_, _, heq⟩ := Option.map_eq_some_iff.mp ha
        cases heq
        exact bne_iff_ne.mpr (hfirst c' hc')
    · have hne : (c.written == first.written) = false :=
        beq_eq_false_iff_ne.mpr (hfirst c hrest).symm
      cases hf : f first with
      | some a =>
        simp only [List.filterMap_cons, hf, Option.map_some, List.lookup_cons, hne, ih hrest]
      | none => simp only [List.filterMap_cons, hf, Option.map_none, ih hrest]

theorem Element.carrying_carries {scope : ResourceScope} {refer : ResourceId → String}
    {tag : String} {columns : List Column} {record : Json} {children : List Element}
    (hdistinct : columns.Pairwise fun c c' => c.written ≠ c'.written)
    (h : ∀ c ∈ columns, ∃ value, record.field? c.published = some value ∧
      c.form.Carries scope value (c.form.write refer value)) :
    (carrying refer tag columns record children).Carries scope columns record := by
  intro c hc
  obtain ⟨value, hvalue, hcarries⟩ := h c hc
  have hwritten : (carrying refer tag columns record children).attribute? c.written =
      (record.field? c.published).bind (c.form.write refer) :=
    lookup_filterMap_written hdistinct
      (fun c => (record.field? c.published).bind (c.form.write refer)) hc
  refine ⟨value, hvalue, ?_⟩
  rw [hwritten, hvalue]
  exact hcarries

/-- The reference given for an identifier resolves to it, unless there is no resource. -/
def Refers (scope : ResourceScope) (refer : ResourceId → String) (n : ResourceId) : Prop :=
  n ≠ 0 → ∃ place, scope.resolve place (refer n) = .ok n

namespace Form

variable {scope : ResourceScope} {refer : ResourceId → String}

theorem carries_text (s : Option String) :
    Form.text.Carries scope (.ofOption .ofString s)
      (Form.text.write refer (.ofOption .ofString s)) := by
  cases s <;> rfl

theorem carries_number (n : Option Int) :
    Form.number.Carries scope (.ofOption .int n) (Form.number.write refer (.ofOption .int n)) := by
  cases n <;> rfl

theorem carries_reference {n : ResourceId} (h : Refers scope refer n) :
    Form.reference.Carries scope (.int n) (Form.reference.write refer (.int n)) := by
  simp only [Carries, write]
  split
  · rfl
  · rename_i hne
    obtain ⟨place, hplace⟩ := h hne
    exact ⟨_, place, rfl, hplace⟩

end Form

def Source.resources (s : Source) : List ResourceId :=
  [s.title, s.titleForWork, s.summary, s.searchTerms]

def Group.resources (g : Group) : List ResourceId :=
  [g.title, g.summary] ++ g.sources.flatMap Source.resources

def Config.resources (c : Config) : List ResourceId :=
  c.groups.flatMap Group.resources

section Spell

variable {scope : ResourceScope} {refer : ResourceId → String}

theorem Source.spells_spell {s : Source} (h : ∀ n ∈ s.resources, Refers scope refer n) :
    SpellsSource scope (s.spell refer) s.toJson where
  tag := rfl
  attributes := by
    simp only [resources, List.forall_mem_cons] at h
    obtain ⟨htitle, hwork, hsummary, hterms, _⟩ := h
    refine Element.carrying_carries (by decide) ?_
    simp only [sourceColumns, List.forall_mem_cons]
    exact ⟨⟨_, Json.field?_record _ _, rfl⟩,
      ⟨_, Json.field?_record _ _, rfl⟩,
      ⟨_, Json.field?_record _ _, Form.carries_text s.packageName⟩,
      ⟨_, Json.field?_record _ _, Form.carries_reference htitle⟩,
      ⟨_, Json.field?_record _ _, Form.carries_reference hwork⟩,
      ⟨_, Json.field?_record _ _, Form.carries_reference hsummary⟩,
      ⟨_, Json.field?_record _ _, Form.carries_text s.intentAction⟩,
      ⟨_, Json.field?_record _ _, rfl⟩,
      ⟨_, Json.field?_record _ _, rfl⟩,
      ⟨_, Json.field?_record _ _, Form.carries_number s.maxSeverity⟩,
      ⟨_, Json.field?_record _ _, Form.carries_reference hterms⟩,
      ⟨_, Json.field?_record _ _, Form.carries_text s.receiver⟩,
      ⟨_, Json.field?_record _ _, rfl⟩,
      ⟨_, Json.field?_record _ _, rfl⟩, List.forall_mem_nil _⟩

theorem Group.spells_spell {g : Group} (h : ∀ n ∈ g.resources, Refers scope refer n) :
    SpellsGroup scope (g.spell refer) g.toJson where
  tag := rfl
  attributes := by
    have htitle : Refers scope refer g.title := h _ (by simp [resources])
    have hsummary : Refers scope refer g.summary := h _ (by simp [resources])
    refine Element.carrying_carries (by decide) ?_
    simp only [groupColumns, List.forall_mem_cons]
    exact ⟨⟨_, Json.field?_record _ _, rfl⟩,
      ⟨_, Json.field?_record _ _, Form.carries_reference htitle⟩,
      ⟨_, Json.field?_record _ _, Form.carries_reference hsummary⟩,
      ⟨_, Json.field?_record _ _, rfl⟩, List.forall_mem_nil _⟩
  sources := by
    refine ⟨_, Json.field?_record _ _, ?_⟩
    simp only [spell, Element.carrying, Element.children, List.forall₂_map_left_iff,
      List.forall₂_map_right_iff, List.forall₂_same]
    intro s hs
    refine Source.spells_spell fun n hn => h n ?_
    exact List.mem_append_right _ (List.mem_flatMap.mpr ⟨s, hs, hn⟩)

/-- A configuration whose resources all have references is spelled by some tree. -/
theorem Config.spells_spell {c : Config} (h : ∀ n ∈ c.resources, Refers scope refer n) :
    SpellsConfig scope (c.spell refer) c.toJson where
  tag := rfl
  groups := by
    refine ⟨_, _, rfl, rfl, Json.field?_record _ _, ?_⟩
    simp only [Element.children, List.forall₂_map_left_iff, List.forall₂_map_right_iff,
      List.forall₂_same]
    intro g hg
    exact Group.spells_spell fun n hn => h n (List.mem_flatMap.mpr ⟨g, hg, hn⟩)

end Spell

end SafetyConfig
