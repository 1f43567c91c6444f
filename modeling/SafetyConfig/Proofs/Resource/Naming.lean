import SafetyConfig.Resource.Table

/-!
# What names stand for

A name stands for one entry of one package, the defaults filling in what it leaves out, or for
none. To look it up is to look that entry up. So an entry can be had by the name that spells out all
of it, if its package has no colon and its key a slash with something behind that, and an entry with
another kind of key cannot be had by any name.
-/

namespace SafetyConfig

namespace ResourceTable

variable {table : ResourceTable} {package key : Text} {id : ResourceId}

/-- The table has an entry in a package under a key. -/
def Holds (table : ResourceTable) (package key : Text) (id : ResourceId) : Prop :=
  ∃ entries, table.packages.lookup package = some entries ∧ entries.lookup key = some id

theorem Holds.entry_eq (h : table.Holds package key id) : table.entry package key = id := by
  obtain ⟨entries, hpackage, hkey⟩ := h
  rw [entry, hpackage, Option.getD_some, hkey, Option.getD_some]

/-- What stands under a key: the identifier of the entry, or zero if there is none. -/
def Stores (table : ResourceTable) (package key : Text) (id : ResourceId) : Prop :=
  table.Holds package key id ∨ id = 0 ∧ ∀ other, ¬ table.Holds package key other

theorem stores_entry (table : ResourceTable) (package key : Text) :
    table.Stores package key (table.entry package key) := by
  by_cases h : ∃ id, table.Holds package key id
  · obtain ⟨id, hid⟩ := h
    exact Or.inl (hid.entry_eq.symm ▸ hid)
  · refine Or.inr ⟨?_, fun id hid => h ⟨id, hid⟩⟩
    cases hpackage : table.packages.lookup package with
    | none => simp [entry, hpackage]
    | some entries =>
      cases hkey : entries.lookup key with
      | none => simp [entry, hpackage, hkey]
      | some id => exact absurd ⟨id, entries, hpackage, hkey⟩ h

theorem Stores.eq_entry (h : table.Stores package key id) : id = table.entry package key := by
  rcases h with hholds | ⟨rfl, hnone⟩
  · exact hholds.entry_eq.symm
  · refine (stores_entry table package key).elim (fun hholds => absurd hholds (hnone _)) ?_
    exact fun hzero => hzero.1.symm

/-- An identifier that is not zero comes from an entry. -/
theorem holds_of_entry_ne_zero (h : table.entry package key ≠ 0) :
    table.Holds package key (table.entry package key) :=
  (stores_entry table package key).resolve_right fun hnone => h hnone.1

end ResourceTable

namespace Resource

variable {type package : Option Text} {name p q key other : Text}

/-! How a name is taken apart. -/

theorem Name.split_qualified {rest : Text} (h : colon ∉ p) :
    Name.split (p ++ colon :: rest) type package =
      match splitAtFirst? slash rest with
      | some (t, e) => ⟨some p, some t, e⟩
      | none => ⟨some p, type, rest⟩ := by
  cases hslash : splitAtFirst? slash rest <;>
    simp only [Name.split, splitAtFirst?_append h, hslash]

theorem Name.split_unqualified {text : Text} (h : colon ∉ text) :
    Name.split text type package =
      match splitAtFirst? slash text with
      | some (t, e) => ⟨package, some t, e⟩
      | none => ⟨package, type, text⟩ := by
  cases hslash : splitAtFirst? slash text <;>
    simp only [Name.split, splitAtFirst?_eq_none_iff.mpr h, hslash]

/-- The package and the key that a name stands for. The defaults stand in for a type and a package
that it does not say; where one of them is needed and there is none, the name stands for nothing. -/
inductive Denotes (type package : Option Text) : Text → Text → Text → Prop
  | qualified {p t e : Text} (unmarked : colon ∉ p) (first : slash ∉ t) (entry : e ≠ []) :
      Denotes type package (p ++ colon :: (t ++ slash :: e)) p (t ++ slash :: e)
  | typed {p t e : Text} (unmarked : colon ∉ t ++ slash :: e) (first : slash ∉ t) (entry : e ≠ [])
      (default : package = some p) :
      Denotes type package (t ++ slash :: e) p (t ++ slash :: e)
  | packaged {p t e : Text} (unmarked : colon ∉ p) (single : slash ∉ e) (entry : e ≠ [])
      (default : type = some t) : Denotes type package (p ++ colon :: e) p (t ++ slash :: e)
  | plain {p t e : Text} (unmarked : colon ∉ e) (single : slash ∉ e) (entry : e ≠ [])
      (typeDefault : type = some t) (packageDefault : package = some p) :
      Denotes type package e p (t ++ slash :: e)

theorem denotes_iff : Denotes type package name p key ↔
    ∃ t e, Name.split name type package = ⟨some p, some t, e⟩ ∧ e ≠ [] ∧
      key = t ++ slash :: e := by
  constructor
  · intro h
    cases h with
    | @qualified _ t e hp ht he =>
      refine ⟨t, e, ?_, he, rfl⟩
      rw [Name.split_qualified hp, splitAtFirst?_append ht]
    | @typed _ t e hcolon ht he hpackage =>
      refine ⟨t, e, ?_, he, rfl⟩
      rw [Name.split_unqualified hcolon, splitAtFirst?_append ht, hpackage]
    | @packaged _ t e hp hslash he htype =>
      refine ⟨t, e, ?_, he, rfl⟩
      rw [Name.split_qualified hp, splitAtFirst?_eq_none_iff.mpr hslash, htype]
    | @plain _ t e hcolon hslash he htype hpackage =>
      refine ⟨t, _, ?_, he, rfl⟩
      rw [Name.split_unqualified hcolon, splitAtFirst?_eq_none_iff.mpr hslash, htype, hpackage]
  · rintro ⟨t, e, hsplit, he, rfl⟩
    cases hcolon : splitAtFirst? colon name with
    | none =>
      have hname : colon ∉ name := splitAtFirst?_eq_none_iff.mp hcolon
      rw [Name.split_unqualified hname] at hsplit
      cases hslash : splitAtFirst? slash name with
      | none =>
        simp only [hslash, Name.mk.injEq] at hsplit
        obtain ⟨hpackage, htype, rfl⟩ := hsplit
        exact .plain hname (splitAtFirst?_eq_none_iff.mp hslash) he htype hpackage
      | some parts =>
        obtain ⟨rfl, ht⟩ := eq_of_splitAtFirst? hslash
        simp only [hslash, Name.mk.injEq, Option.some.injEq] at hsplit
        obtain ⟨hpackage, rfl, rfl⟩ := hsplit
        exact .typed hname ht he hpackage
    | some parts =>
      obtain ⟨rfl, hp⟩ := eq_of_splitAtFirst? hcolon
      rw [Name.split_qualified hp] at hsplit
      cases hslash : splitAtFirst? slash parts.2 with
      | none =>
        simp only [hslash, Name.mk.injEq, Option.some.injEq] at hsplit
        obtain ⟨rfl, htype, rfl⟩ := hsplit
        exact .packaged hp (splitAtFirst?_eq_none_iff.mp hslash) he htype
      | some rest =>
        obtain ⟨hrest, ht⟩ := eq_of_splitAtFirst? hslash
        simp only [hslash, Name.mk.injEq, Option.some.injEq] at hsplit
        obtain ⟨rfl, rfl, rfl⟩ := hsplit
        rw [hrest]
        exact .qualified hp ht he

/-- A name stands for one entry at most. -/
theorem Denotes.unique (h : Denotes type package name p key)
    (hother : Denotes type package name q other) : q = p ∧ other = key := by
  obtain ⟨t, e, hsplit, -, rfl⟩ := denotes_iff.mp h
  obtain ⟨u, f, hsplit', -, rfl⟩ := denotes_iff.mp hother
  rw [hsplit] at hsplit'
  cases hsplit'
  exact ⟨rfl, rfl⟩

/-! Keys. -/

/-- A key that names can spell has a slash and something behind it. -/
def Nameable (key : Text) : Prop :=
  ∃ t e, key = t ++ slash :: e ∧ e ≠ []

theorem Denotes.nameable (h : Denotes type package name p key) : Nameable key := by
  obtain ⟨t, e, -, he, hkey⟩ := denotes_iff.mp h
  exact ⟨t, e, hkey, he⟩

/-- Of the slashes in a key the first can be taken. -/
theorem Nameable.first (h : Nameable key) : ∃ t e, key = t ++ slash :: e ∧ slash ∉ t ∧ e ≠ [] := by
  obtain ⟨u, f, rfl, hf⟩ := h
  cases hslash : splitAtFirst? slash (u ++ slash :: f) with
  | none => exact absurd (by simp) (splitAtFirst?_eq_none_iff.mp hslash)
  | some parts =>
    obtain ⟨heq, hfirst⟩ := eq_of_splitAtFirst? hslash
    refine ⟨parts.1, parts.2, heq, hfirst, fun hnil => ?_⟩
    -- without its last character the key would have no slash, but it has the given one
    have hshort := congrArg List.dropLast heq
    rw [hnil, List.dropLast_concat, List.dropLast_append_of_ne_nil (by simp),
      List.dropLast_cons_of_ne_nil hf] at hshort
    exact hfirst (hshort ▸ by simp)

/-- The other keys have no slash, or one at the end only. -/
theorem not_nameable_iff :
    ¬ Nameable key ↔ slash ∉ key ∨ ∃ t, slash ∉ t ∧ key = t ++ [slash] := by
  constructor
  · intro h
    cases hslash : splitAtFirst? slash key with
    | none => exact Or.inl (splitAtFirst?_eq_none_iff.mp hslash)
    | some parts =>
      obtain ⟨heq, hfirst⟩ := eq_of_splitAtFirst? hslash
      by_cases hend : parts.2 = []
      · exact Or.inr ⟨parts.1, hfirst, hend ▸ heq⟩
      · exact absurd ⟨_, _, heq, hend⟩ h
  · rintro (hnone | ⟨u, hu, rfl⟩) h
    · obtain ⟨t, e, rfl, -⟩ := h
      simp at hnone
    · obtain ⟨t, e, heq, ht, he⟩ := h.first
      have hsplit := splitAtFirst?_append hu []
      rw [heq, splitAtFirst?_append ht] at hsplit
      cases hsplit
      exact he rfl

end Resource

namespace ResourceTable

open Resource

variable {table other : ResourceTable} {type package : Option Text} {name p key : Text}
  {id : ResourceId}

/-! Looking names up. -/

theorem getIdentifier_of_denotes (h : Denotes type package name p key) :
    table.getIdentifier name type package = table.entry p key := by
  obtain ⟨t, e, hsplit, he, rfl⟩ := denotes_iff.mp h
  rw [getIdentifier, hsplit]
  simp only [List.isEmpty_iff, if_neg he]

theorem getIdentifier_of_not_denotes (h : ∀ p key, ¬ Denotes type package name p key) :
    table.getIdentifier name type package = 0 := by
  unfold getIdentifier
  split
  · rename_i p t e hsplit
    by_cases he : e = []
    · simp [he]
    · exact absurd (denotes_iff.mpr ⟨t, e, hsplit, he, rfl⟩) (h p _)
  · rfl

/-- What is looked up is the entry that the name stands for; an identifier that is not zero is that
of an entry. -/
theorem holds_of_getIdentifier_ne_zero (h : table.getIdentifier name type package ≠ 0) :
    ∃ p key, Denotes type package name p key ∧
      table.Holds p key (table.getIdentifier name type package) := by
  by_cases hdenotes : ∃ p key, Denotes type package name p key
  · obtain ⟨p, key, hkey⟩ := hdenotes
    rw [getIdentifier_of_denotes hkey] at h ⊢
    exact ⟨p, key, hkey, holds_of_entry_ne_zero h⟩
  · exact absurd (getIdentifier_of_not_denotes fun p key hkey => hdenotes ⟨p, key, hkey⟩) h

theorem getIdentifier_congr
    (h : ∀ p key, Denotes type package name p key → other.entry p key = table.entry p key) :
    other.getIdentifier name type package = table.getIdentifier name type package := by
  by_cases hdenotes : ∃ p key, Denotes type package name p key
  · obtain ⟨p, key, hkey⟩ := hdenotes
    rw [getIdentifier_of_denotes hkey, getIdentifier_of_denotes hkey, h p key hkey]
  · have hnone : ∀ p key, ¬ Denotes type package name p key :=
      fun p key hkey => hdenotes ⟨p, key, hkey⟩
    rw [getIdentifier_of_not_denotes hnone, getIdentifier_of_not_denotes hnone]

/-- Names and entries. The name that says everything has what is stored there, whatever the
defaults are; the name without its package, and the entry by itself, have the same where the marks
do not make something else of them and the defaults fill them in. So every entry with a nameable key
is found, if its package has no colon. Entries with other keys are never found, and have no say in
any look-up. -/
theorem names_stand_for_entries (table : ResourceTable) :
    (∀ p t e, colon ∉ p → slash ∉ t → e ≠ [] → ∃ id, table.Stores p (t ++ slash :: e) id ∧
      (∀ type package,
        table.getIdentifier (p ++ colon :: (t ++ slash :: e)) type package = id) ∧
      (colon ∉ t → colon ∉ e → ∀ type, table.getIdentifier (t ++ slash :: e) type (some p) = id) ∧
      (colon ∉ e → slash ∉ e → table.getIdentifier e (some t) (some p) = id)) ∧
    (∀ p key id, table.Holds p key id → colon ∉ p → Nameable key → ∀ type package,
      table.getIdentifier (p ++ colon :: key) type package = id) ∧
    (∀ p key id, table.Holds p key id → id ≠ 0 →
      (slash ∉ key ∨ ∃ t, slash ∉ t ∧ key = t ++ [slash]) → ∀ name type package,
        table.getIdentifier name type package = id →
          ∃ q found, found ≠ key ∧ Nameable found ∧ table.Holds q found id ∧
            Denotes type package name q found) ∧
    ∀ other : ResourceTable,
      (∀ p key, Nameable key → other.entry p key = table.entry p key) → ∀ name type package,
        other.getIdentifier name type package = table.getIdentifier name type package := by
  refine ⟨?_, ?_, ?_, ?_⟩
  · intro p t e hp ht he
    refine ⟨_, stores_entry table p (t ++ slash :: e), ?_, ?_, ?_⟩
    · intro type package
      exact getIdentifier_of_denotes (.qualified hp ht he)
    · intro htcolon hecolon type
      have hcolon : colon ∉ t ++ slash :: e := by
        have hmarks : colon ≠ slash := by decide
        simp [htcolon, hecolon, hmarks]
      exact getIdentifier_of_denotes (.typed hcolon ht he rfl)
    · intro hecolon heslash
      exact getIdentifier_of_denotes (.plain hecolon heslash he rfl rfl)
  · intro p key id hholds hp hkey type package
    obtain ⟨t, e, rfl, ht, he⟩ := hkey.first
    rw [getIdentifier_of_denotes (.qualified hp ht he), hholds.entry_eq]
  · intro p key id hholds hid hkey name type package hname
    subst hname
    obtain ⟨q, found, hfound, hholds'⟩ := holds_of_getIdentifier_ne_zero hid
    refine ⟨q, found, ?_, hfound.nameable, hholds', hfound⟩
    rintro rfl
    exact not_nameable_iff.mpr hkey hfound.nameable
  · intro other hsame name type package
    exact getIdentifier_congr fun p key hkey => hsame p key hkey.nameable

/-! A table with marks in keys where they do harm and where they do not. -/

private def marked : ResourceTable :=
  ⟨[(Text.ofString "app", [(Text.ofString "string/a:b/c", 3), (Text.ofString "gap", 5),
    (Text.ofString "dimen/gap", 5)])]⟩

/-- The first key has its marks behind the slash; the second has none, and it is the third that the
identifier comes from. -/
theorem marked_entries_found :
    marked.getIdentifier (Text.ofString "app:string/a:b/c") none (some []) = 3 ∧
    marked.getIdentifier (Text.ofString "gap") (some (Text.ofString "dimen"))
      (some (Text.ofString "app")) = 5 ∧
    marked.Holds (Text.ofString "app") (Text.ofString "gap") 5 ∧
    ∃ q found, found ≠ Text.ofString "gap" ∧ Nameable found ∧ marked.Holds q found 5 ∧
      Denotes none none (Text.ofString "app:dimen/gap") q found := by
  obtain ⟨hspellings, hfound, hlost, -⟩ := names_stand_for_entries marked
  have hnested : marked.Holds (Text.ofString "app") (Text.ofString "string/a:b/c") 3 :=
    ⟨_, rfl, by decide⟩
  have hbare : marked.Holds (Text.ofString "app") (Text.ofString "gap") 5 := ⟨_, rfl, by decide⟩
  refine ⟨?_, ?_, hbare, ?_⟩
  · exact hfound _ _ 3 hnested (by decide)
      ⟨Text.ofString "string", Text.ofString "a:b/c", by decide, by decide⟩ none (some [])
  · obtain ⟨id, hstores, -, -, hid⟩ := hspellings (Text.ofString "app") (Text.ofString "dimen")
      (Text.ofString "gap") (by decide) (by decide) (by decide)
    rw [hid (by decide) (by decide), hstores.eq_entry]
    decide
  · exact hlost _ _ 5 hbare (by decide) (Or.inl (by decide)) _ none none (by decide)

end ResourceTable

end SafetyConfig
