import SafetyConfig.Convert.Parse
import SafetyConfig.Proofs.Convert.Rejection
import SafetyConfig.Proofs.Draft.Build

/-!
# Configurations in document order

A configuration has one group for each group element of its document, and each group has one
source for each source element in it, in the order in which they stand there.
-/

namespace SafetyConfig

/-- What an element comes to, read and converted, is a source. -/
def Element.BecomesSource (scope : ResourceScope) (e : Element) (s : Source) : Prop :=
  ∃ raw, RawSource.ofElement e = .ok raw ∧ raw.convert scope = .ok s

/-- An element comes to a group with its id, and its children to the sources in it. -/
structure Element.BecomesGroup (scope : ResourceScope) (e : Element) (g : Group) : Prop where
  converted : ∃ raw, RawGroup.ofElement e = .ok raw ∧ raw.convert scope = .ok g
  id : e.attribute? "id" = some g.id
  sources : List.Forall₂ (Element.BecomesSource scope)
    (e.childrenTagged ElementName.source.label) g.sources

/-- The groups of a configuration are those of a document. -/
def Config.Follows (scope : ResourceScope) (c : Config) (root : Element) : Prop :=
  List.Forall₂ (Element.BecomesGroup scope) root.groupElements c.groups

variable {scope : ResourceScope} {root e : Element} {bytes : Bytes} {config : Config}

theorem becomesGroup_of_convert {raw : RawGroup} {g : Group}
    (hread : RawGroup.ofElement e = .ok raw) (h : raw.convert scope = .ok g) :
    e.BecomesGroup scope g := by
  have hread' := hread
  have h' := h
  simp only [RawGroup.ofElement, bind_eq_ok_iff, pure_eq_ok_iff] at hread'
  obtain ⟨icon, -, rawSources, hsources, rfl⟩ := hread'
  simp only [RawGroup.convert, bind_eq_ok_iff, orInvalid_eq_ok_iff,
    GroupDraft.build_eq_ok_iff, List.mapM_map] at h'
  obtain ⟨title, -, summary, -, sources, hconverted, hlawful, rfl⟩ := h'
  refine ⟨⟨_, hread, h⟩, ?_, ?_⟩
  · obtain ⟨id, hid, -⟩ := hlawful.id
    simp only at hid
    simp [GroupDraft.settled, hid]
  · exact forall₂_of_mapM_mapM hsources hconverted

theorem follows_of_convert {raw : RawConfig} (hread : RawConfig.ofElement root = .ok raw)
    (h : raw.convert scope = .ok config) : config.Follows scope root := by
  unfold RawConfig.ofElement at hread
  cases hchild : root.childTagged? ElementName.sourcesConfig.label with
  | none =>
    simp only [hchild, Except.ok.injEq] at hread
    rw [← hread] at h
    cases h
  | some child =>
    simp only [hchild, bind_eq_ok_iff, pure_eq_ok_iff] at hread
    obtain ⟨rawGroups, hgroups, rfl⟩ := hread
    simp only [RawConfig.convert, bind_eq_ok_iff, orInvalid_eq_ok_iff,
      ConfigDraft.build_eq_ok_iff, List.mapM_map] at h
    obtain ⟨groups, hconverted, rfl, -⟩ := h
    rw [Config.Follows, Element.groupElements, hchild]
    refine (forall₂_of_mapM_mapM hgroups hconverted).imp ?_
    rintro e g ⟨rawGroup, hread, hgroup⟩
    exact becomesGroup_of_convert hread hgroup

theorem exists_root_of_readRaw {raw : RawConfig} (h : readRaw bytes = .ok (some raw)) :
    ∃ root, Markup.readDocument bytes = .ok root ∧ RawConfig.ofElement root = .ok raw := by
  unfold readRaw at h
  cases hdocument : Markup.readDocument bytes with
  | error fault => simp [hdocument] at h
  | ok root =>
    simp only [hdocument] at h
    by_cases htag : root.tag = ElementName.centerConfig.label
    · rw [if_pos htag] at h
      cases hread : RawConfig.ofElement root with
      | error fault => simp [hread] at h
      | ok r =>
        simp only [hread, Except.ok.injEq, Option.some.injEq] at h
        exact ⟨root, rfl, by rw [hread, h]⟩
    · rw [if_neg htag] at h
      cases h

/-- A document that is parsed without an error is followed from its first group to its last. -/
theorem follows_of_parse (h : parse scope bytes = .ok config) :
    ∃ root, Markup.readDocument bytes = .ok root ∧ config.Follows scope root := by
  cases hraw : readRaw bytes with
  | error fault => simp [parse, hraw] at h
  | ok raw =>
    cases hconvert : convertConfig scope raw with
    | error e => simp [parse, hraw, hconvert] at h
    | ok converted =>
      simp only [parse, hraw, hconvert, Except.ok.injEq] at h
      subst h
      cases raw with
      | none => cases hconvert
      | some raw =>
        obtain ⟨root, hdocument, hread⟩ := exists_root_of_readRaw hraw
        exact ⟨root, hdocument, follows_of_convert hread hconvert⟩

end SafetyConfig
