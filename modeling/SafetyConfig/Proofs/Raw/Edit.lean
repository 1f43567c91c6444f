import Mathlib.Data.List.Perm.Basic
import Mathlib.Logic.Relation
import SafetyConfig.Proofs.Convert.Rejection
import SafetyConfig.Proofs.File.Discovery
import SafetyConfig.Proofs.Markup.AttributeNames
import SafetyConfig.Proofs.Raw.AttributeText

/-!
# Edits that reading takes no notice of

Reading goes from the root down to the sources and looks for one tag, and for certain
attributes, at each of four levels. An edit to anything else leaves the raw tree as it was, and
so does any number of such edits. What is looked for is read completely and in order.
-/

namespace SafetyConfig

/-- The attributes that are read of an element. -/
def ElementName.attributes : ElementName → List String
  | .centerConfig => []
  | .sourcesConfig => []
  | .sourcesGroup => ["id", "title", "summary", "statelessIconType"]
  | .source => ["type", "id", "packageName", "title", "titleForWork", "summary", "intentAction",
      "profile", "initialDisplayState", "maxSeverityLevel", "searchTerms",
      "broadcastReceiverClassName", "disallowLogging", "allowRefreshOnPageOpen"]

/-- What a child is read as inside an element, given the siblings before it. -/
inductive ReadAs : ElementName → List Element → Element → ElementName → Prop
  | sourcesConfig {before : List Element} {child : Element}
      (tag : child.tag = ElementName.sourcesConfig.label)
      (first : ∀ elder ∈ before, elder.tag ≠ ElementName.sourcesConfig.label) :
      ReadAs .centerConfig before child .sourcesConfig
  | sourcesGroup {before : List Element} {child : Element}
      (tag : child.tag = ElementName.sourcesGroup.label) :
      ReadAs .sourcesConfig before child .sourcesGroup
  | source {before : List Element} {child : Element}
      (tag : child.tag = ElementName.source.label) : ReadAs .sourcesGroup before child .source

/-- A child that is not read at all, whatever stands inside it. -/
def PassedOver (parent : ElementName) (before : List Element) (child : Element) : Prop :=
  ∀ kind, ¬ ReadAs parent before child kind

section Levels

variable {before : List Element} {child : Element}

theorem passedOver_centerConfig_iff : PassedOver .centerConfig before child ↔
    child.tag ≠ "safety-sources-config" ∨
      ∃ elder ∈ before, elder.tag = "safety-sources-config" := by
  constructor
  · intro h
    by_contra hread
    push Not at hread
    exact h _ (.sourcesConfig hread.1 hread.2)
  · intro h kind hread
    cases hread with
    | sourcesConfig htag hfirst =>
      rcases h with hother | ⟨elder, helder, hsame⟩
      · exact hother htag
      · exact hfirst elder helder hsame

theorem passedOver_sourcesConfig_iff :
    PassedOver .sourcesConfig before child ↔ child.tag ≠ "safety-sources-group" := by
  constructor
  · intro h htag
    exact h _ (.sourcesGroup htag)
  · intro hother kind hread
    cases hread with
    | sourcesGroup htag => exact hother htag

theorem passedOver_sourcesGroup_iff :
    PassedOver .sourcesGroup before child ↔ child.tag ≠ "safety-source" := by
  constructor
  · intro h htag
    exact h _ (.source htag)
  · intro hother kind hread
    cases hread with
    | source htag => exact hother htag

end Levels

/-- One edit to an element that is read as one of the four, at it or below it. Undone, it is
an edit as well. -/
inductive Element.Edit : ElementName → Element → Element → Prop
  | text {kind : ElementName} {tag : String} {attributes : List (String × String)}
      {children : List Element} (old new : String) :
      Element.Edit kind (.mk tag attributes old children) (.mk tag attributes new children)
  | addAttribute {kind : ElementName} {tag text : String} {children : List Element}
      (before after : List (String × String)) {name : String} (value : String)
      (unknown : name ∉ kind.attributes) :
      Element.Edit kind (.mk tag (before ++ after) text children)
        (.mk tag (before ++ (name, value) :: after) text children)
  | reorder {kind : ElementName} {tag text : String} {children : List Element}
      {attributes others : List (String × String)} (perm : attributes.Perm others)
      (distinct : (attributes.map (·.1)).Nodup) :
      Element.Edit kind (.mk tag attributes text children) (.mk tag others text children)
  | insertChild {kind : ElementName} {tag text : String} {attributes : List (String × String)}
      (before after : List Element) {child : Element} (ignored : PassedOver kind before child) :
      Element.Edit kind (.mk tag attributes text (before ++ after))
        (.mk tag attributes text (before ++ child :: after))
  | inside {kind below : ElementName} {tag text : String} {attributes : List (String × String)}
      (before after : List Element) {child other : Element}
      (read : ReadAs kind before child below) (edit : Element.Edit below child other) :
      Element.Edit kind (.mk tag attributes text (before ++ child :: after))
        (.mk tag attributes text (before ++ other :: after))

/-- Any number of edits to a root, each of them made or undone. An ignored child is altered by
taking it out and putting another in its place. -/
def Element.Edited : Element → Element → Prop :=
  Relation.EqvGen (Element.Edit .centerConfig)

/-! What the reading of an element depends on. -/

def readGroups (e : Element) : Except AttributeFault (List RawGroup) :=
  (e.childrenTagged ElementName.sourcesGroup.label).mapM RawGroup.ofElement

def readSources (e : Element) : Except AttributeFault (List RawSource) :=
  (e.childrenTagged ElementName.source.label).mapM RawSource.ofElement

/-- The children of the two elements are read alike. -/
def SameChildren (e other : Element) : ElementName → Prop
  | .centerConfig => (other.childTagged? ElementName.sourcesConfig.label).map readGroups =
      (e.childTagged? ElementName.sourcesConfig.label).map readGroups
  | .sourcesConfig => readGroups other = readGroups e
  | .sourcesGroup => readSources other = readSources e
  | .source => True

/-- Nothing that is looked for is different in the two elements. -/
structure SameReading (kind : ElementName) (e other : Element) : Prop where
  tag : other.tag = e.tag
  attributes : ∀ name ∈ kind.attributes, other.attribute? name = e.attribute? name
  children : SameChildren e other kind

namespace SameReading

variable {kind : ElementName} {e other : Element}

theorem source (h : SameReading .source e other) :
    RawSource.ofElement other = RawSource.ofElement e := by
  have hattributes := h.attributes
  simp only [ElementName.attributes, List.forall_mem_cons, List.not_mem_nil, false_implies,
    implies_true, and_true] at hattributes
  simp only [RawSource.ofElement, hattributes]

theorem group (h : SameReading .sourcesGroup e other) :
    RawGroup.ofElement other = RawGroup.ofElement e := by
  have hattributes := h.attributes
  have hchildren : readSources other = readSources e := h.children
  simp only [ElementName.attributes, List.forall_mem_cons, List.not_mem_nil, false_implies,
    implies_true, and_true] at hattributes
  rw [readSources, readSources] at hchildren
  simp only [RawGroup.ofElement, hattributes, hchildren]

theorem root (h : SameReading .centerConfig e other) :
    RawConfig.ofElement other = RawConfig.ofElement e := by
  have hread : ∀ root : Element, RawConfig.ofElement root =
      match (root.childTagged? ElementName.sourcesConfig.label).map readGroups with
      | none => .ok ⟨none⟩
      | some groups => groups >>= fun groups => pure ⟨some ⟨some (groups.map some)⟩⟩ := by
    intro root
    rw [RawConfig.ofElement]
    cases root.childTagged? ElementName.sourcesConfig.label <;> rfl
  have hchildren : (other.childTagged? ElementName.sourcesConfig.label).map readGroups =
      (e.childTagged? ElementName.sourcesConfig.label).map readGroups := h.children
  rw [hread, hread, hchildren]

end SameReading

/-! What each edit does to it: nothing. -/

section Attributes

variable {attributes others before after : List (String × String)} {name other value : String}

theorem lookup_insert_of_ne (h : other ≠ name) :
    (before ++ (name, value) :: after).lookup other = (before ++ after).lookup other := by
  have hne : (other == name) = false := beq_eq_false_iff_ne.mpr h
  rw [List.lookup_append, List.lookup_append, List.lookup_cons, hne]

/-- Where names do not repeat, their order does not matter. -/
theorem lookup_eq_of_perm (h : attributes.Perm others) (hdistinct : (attributes.map (·.1)).Nodup) :
    others.lookup name = attributes.lookup name := by
  have hothers : (others.map (·.1)).Nodup := (h.map (·.1)).nodup_iff.mp hdistinct
  apply Option.ext
  intro value
  rw [lookup_eq_some_iff_mem hothers, lookup_eq_some_iff_mem hdistinct, h.mem_iff]

end Attributes

section Children

variable {kind below : ElementName} {tag text : String} {attributes : List (String × String)}
  {before after : List Element} {child other : Element}

theorem sameChildren_of_children {e other : Element} (h : other.children = e.children) :
    ∀ kind, SameChildren e other kind := by
  have htagged : ∀ tag, other.childrenTagged tag = e.childrenTagged tag := by
    intro tag
    rw [Element.childrenTagged, h, Element.childrenTagged]
  intro kind
  cases kind with
  | centerConfig =>
    rw [SameChildren, Element.childTagged?, h, Element.childTagged?]
  | sourcesConfig => rw [SameChildren, readGroups, htagged, readGroups]
  | sourcesGroup => rw [SameChildren, readSources, htagged, readSources]
  | source => trivial

theorem childrenTagged_insert {wanted : String} (h : child.tag ≠ wanted) :
    (Element.mk tag attributes text (before ++ child :: after)).childrenTagged wanted =
      (Element.mk tag attributes text (before ++ after)).childrenTagged wanted := by
  have hne : (child.tag == wanted) = false := beq_eq_false_iff_ne.mpr h
  simp only [Element.childrenTagged, Element.children, List.filter_append, List.filter_cons, hne,
    Bool.false_eq_true, if_false]

theorem sameChildren_of_insert (h : PassedOver kind before child) :
    SameChildren (.mk tag attributes text (before ++ after))
      (.mk tag attributes text (before ++ child :: after)) kind := by
  cases kind with
  | centerConfig =>
    rw [SameChildren]
    simp only [Element.childTagged?, Element.children, List.find?_append]
    rcases passedOver_centerConfig_iff.mp h with htag | ⟨elder, helder, htag⟩
    · have hne : (child.tag == ElementName.sourcesConfig.label) = false :=
        beq_eq_false_iff_ne.mpr htag
      simp only [List.find?_cons, hne]
    · -- The first list of sources stands before the new child.
      have hfound : (before.find? (·.tag == ElementName.sourcesConfig.label)).isSome = true :=
        List.find?_isSome.mpr ⟨elder, helder, beq_iff_eq.mpr htag⟩
      obtain ⟨first, hfirst⟩ := Option.isSome_iff_exists.mp hfound
      rw [hfirst, Option.some_or, Option.some_or]
  | sourcesConfig =>
    have htag := passedOver_sourcesConfig_iff.mp h
    rw [SameChildren, readGroups, readGroups]
    exact congrArg _ (childrenTagged_insert htag)
  | sourcesGroup =>
    have htag := passedOver_sourcesGroup_iff.mp h
    rw [SameChildren, readSources, readSources]
    exact congrArg _ (childrenTagged_insert htag)
  | source => trivial

theorem mapM_childrenTagged_inside {α : Type} {read : Element → Except AttributeFault α}
    {wanted : String} (htag : other.tag = child.tag) (hchild : child.tag = wanted)
    (h : read other = read child) :
    ((Element.mk tag attributes text (before ++ other :: after)).childrenTagged wanted).mapM read =
      ((Element.mk tag attributes text (before ++ child :: after)).childrenTagged wanted).mapM
        read := by
  have hwanted : (child.tag == wanted) = true := beq_iff_eq.mpr hchild
  simp only [Element.childrenTagged, Element.children, List.filter_append, List.filter_cons, htag,
    hwanted, if_true, List.mapM_append, List.mapM_cons, h]

theorem sameChildren_of_inside (hread : ReadAs kind before child below)
    (h : SameReading below child other) :
    SameChildren (.mk tag attributes text (before ++ child :: after))
      (.mk tag attributes text (before ++ other :: after)) kind := by
  cases hread with
  | sourcesConfig htag hfirst =>
    have hbefore : before.find? (fun e => e.tag == ElementName.sourcesConfig.label) = none := by
      simpa using hfirst
    have hchild : (child.tag == ElementName.sourcesConfig.label) = true := by simpa using htag
    have hother : (other.tag == ElementName.sourcesConfig.label) = true := by
      rw [h.tag, hchild]
    have hgroups : readGroups other = readGroups child := h.children
    rw [SameChildren]
    simp only [Element.childTagged?, Element.children, List.find?_append, hbefore, Option.none_or,
      List.find?_cons, hchild, hother, Option.map_some, hgroups]
  | sourcesGroup htag => exact mapM_childrenTagged_inside h.tag htag h.group
  | source htag => exact mapM_childrenTagged_inside h.tag htag h.source

end Children

/-- No edit shows in the reading, at whatever level it is made. -/
theorem sameReading_of_edit {kind : ElementName} {e other : Element}
    (h : Element.Edit kind e other) : SameReading kind e other := by
  induction h with
  | text old new => exact ⟨rfl, fun _ _ => rfl, sameChildren_of_children rfl _⟩
  | addAttribute before after value unknown =>
    refine ⟨rfl, ?_, sameChildren_of_children rfl _⟩
    intro name hname
    exact lookup_insert_of_ne fun hsame => unknown (hsame ▸ hname)
  | reorder perm distinct =>
    refine ⟨rfl, ?_, sameChildren_of_children rfl _⟩
    intro name _
    exact lookup_eq_of_perm perm distinct
  | insertChild before after ignored => exact ⟨rfl, fun _ _ => rfl, sameChildren_of_insert ignored⟩
  | inside before after read edit ih => exact ⟨rfl, fun _ _ => rfl, sameChildren_of_inside read ih⟩

theorem ofElement_of_edited {root other : Element} (h : root.Edited other) :
    other.tag = root.tag ∧ RawConfig.ofElement other = RawConfig.ofElement root := by
  induction h with
  | rel root other edit =>
    have hsame := sameReading_of_edit edit
    exact ⟨hsame.tag, hsame.root⟩
  | refl root => exact ⟨rfl, rfl⟩
  | symm root other _ ih => exact ⟨ih.1.symm, ih.2.symm⟩
  | trans root middle other _ _ first second =>
    exact ⟨second.1.trans first.1, second.2.trans first.2⟩

/-! What is looked for, on the other hand, is all there. -/

/-- A raw group is what reading makes of an element, with a raw source for each source in it. -/
structure RawGroup.Mirrors (g : RawGroup) (e : Element) : Prop where
  read : RawGroup.ofElement e = .ok g
  sources : ∃ sources : List RawSource, g.sources = sources.map some ∧
    List.Forall₂ (fun child s => RawSource.ofElement child = .ok s)
      (e.childrenTagged "safety-source") sources

/-- A raw tree has a raw group for each group in the first list of sources, if there is one. -/
def RawConfig.Mirrors (raw : RawConfig) (root : Element) : Prop :=
  match root.childTagged? "safety-sources-config" with
  | none => raw = ⟨none⟩
  | some s => ∃ groups : List RawGroup, raw = ⟨some ⟨some (groups.map some)⟩⟩ ∧
    List.Forall₂ (fun e g => g.Mirrors e) (s.childrenTagged "safety-sources-group") groups

theorem RawGroup.mirrors_of_ofElement {e : Element} {g : RawGroup}
    (h : RawGroup.ofElement e = .ok g) : g.Mirrors e := by
  refine ⟨h, ?_⟩
  simp only [ofElement, bind_eq_ok_iff, pure_eq_ok_iff] at h
  obtain ⟨icon, -, sources, hsources, rfl⟩ := h
  exact ⟨sources, rfl, mapM_eq_ok_iff.mp hsources⟩

theorem RawConfig.mirrors_of_ofElement {root : Element} {raw : RawConfig}
    (h : RawConfig.ofElement root = .ok raw) : raw.Mirrors root := by
  unfold ofElement at h
  unfold Mirrors
  split at h
  · rename_i hnone
    rw [show root.childTagged? "safety-sources-config" = none from hnone]
    exact (Except.ok.inj h).symm
  · rename_i s hsome
    rw [show root.childTagged? "safety-sources-config" = some s from hsome]
    obtain ⟨groups, hgroups, h⟩ := bind_eq_ok_iff.mp h
    refine ⟨groups, (pure_eq_ok_iff.mp h).symm, ?_⟩
    exact (mapM_eq_ok_iff.mp hgroups).imp fun e g hread => RawGroup.mirrors_of_ofElement hread

/-- However a tree is edited where reading does not look, it is read as the same raw tree or for
the same fault; a raw tree has everything that reading looks for, in order. In a document the
attributes of each element can be reordered as well, so documents whose trees differ by edits are
read alike. -/
theorem reading_passes_over_edits (root : Element) :
    (∀ other, root.Edited other →
      other.tag = root.tag ∧ RawConfig.ofElement other = RawConfig.ofElement root) ∧
    (∀ raw, RawConfig.ofElement root = .ok raw → raw.Mirrors root) ∧
    ∀ document, Markup.readDocument document = .ok root → root.Distinct ∧
      ∀ revised other, Markup.readDocument revised = .ok other → root.Edited other →
        readRaw revised = readRaw document := by
  refine ⟨fun other h => ofElement_of_edited h, fun raw => RawConfig.mirrors_of_ofElement, ?_⟩
  intro document hdocument
  refine ⟨Markup.distinct_of_readDocument hdocument, ?_⟩
  intro revised other hrevised hedited
  obtain ⟨htag, hread⟩ := ofElement_of_edited hedited
  simp only [readRaw, hdocument, hrevised, htag, hread]

/-! A document, and the same with a source where none is looked for and a value in it that is
none. -/

def lockDocument : Bytes := List.flatMap asciiBytes [
  "<safety-center-config>", "<safety-sources-config>", "<safety-sources-group id='g'>",
  "<safety-source type='static' id='lock'/>",
  "</safety-sources-group>", "</safety-sources-config>", "</safety-center-config>"]

def revisedDocument : Bytes := List.flatMap asciiBytes [
  "<safety-center-config>", "<safety-sources-config>", "<safety-sources-group id='g'>",
  "<note><safety-source type='bogus'/></note>", "<safety-source id='lock' type='static'/>",
  "</safety-sources-group>", "</safety-sources-config>", "</safety-center-config>"]

def lockElement (attributes : List (String × String)) : Element :=
  .mk "safety-source" attributes "" []

def noteElement : Element :=
  .mk "note" [] "" [.mk "safety-source" [("type", "bogus")] "" []]

def groupOf (sources : List Element) : Element :=
  .mk "safety-sources-group" [("id", "g")] "" sources

def rootOf (group : Element) : Element :=
  .mk "safety-center-config" [] "" [.mk "safety-sources-config" [] "" [group]]

def lockRoot : Element := rootOf (groupOf [lockElement [("type", "static"), ("id", "lock")]])

def revisedRoot : Element :=
  rootOf (groupOf [noteElement, lockElement [("id", "lock"), ("type", "static")]])

set_option maxRecDepth 2000 in
theorem readDocument_lockDocument : Markup.readDocument lockDocument = .ok lockRoot := by
  rfl

set_option maxRecDepth 2000 in
theorem readDocument_revisedDocument : Markup.readDocument revisedDocument = .ok revisedRoot := by
  rfl

theorem edited_rootOf {group other : Element} (htag : group.tag = ElementName.sourcesGroup.label)
    (h : Element.Edit .sourcesGroup group other) : (rootOf group).Edited (rootOf other) := by
  apply Relation.EqvGen.rel
  refine .inside [] [] (.sourcesConfig rfl (List.forall_mem_nil _)) ?_
  exact .inside [] [] (.sourcesGroup htag) h

theorem edited_lockRoot : lockRoot.Edited revisedRoot := by
  let lock := lockElement [("type", "static"), ("id", "lock")]
  have hnote : lockRoot.Edited (rootOf (groupOf [noteElement, lock])) := by
    apply edited_rootOf rfl
    exact .insertChild [] [lock] (passedOver_sourcesGroup_iff.mpr (by decide))
  have horder : (rootOf (groupOf [noteElement, lock])).Edited revisedRoot := by
    apply edited_rootOf rfl
    exact .inside [noteElement] [] (.source rfl) (.reorder (.swap _ _ _) (by decide))
  exact hnote.trans _ _ _ horder

/-- Neither the value in the wrong place nor the order of the attributes makes a difference. -/
theorem revised_document_reads_alike :
    let raw : RawConfig :=
      ⟨some ⟨some [some { id := some "g", sources := [some { kind := 1, id := some "lock" }] }]⟩⟩
    RawConfig.ofElement revisedRoot = .ok raw ∧ raw.Mirrors lockRoot ∧
      readRaw revisedDocument = readRaw lockDocument := by
  intro raw
  obtain ⟨hsame, hall, hdocuments⟩ := reading_passes_over_edits lockRoot
  have hraw : RawConfig.ofElement lockRoot = .ok raw := by rfl
  obtain ⟨-, hread⟩ := hdocuments lockDocument readDocument_lockDocument
  refine ⟨?_, hall raw hraw, ?_⟩
  · rw [(hsame revisedRoot edited_lockRoot).2, hraw]
  · exact hread revisedDocument revisedRoot readDocument_revisedDocument edited_lockRoot

end SafetyConfig
