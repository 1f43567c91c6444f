import SafetyConfig.Proofs.Resource.Naming
import SafetyConfig.Proofs.Resource.Reference

/-!
# Where references look

A reference without a colon stands for an entry of the configuration's own package, under the
type `string`. One with a colon names a package itself, and nothing of the configuration's
package is looked at then. Such a name starts with `string/`, as every reference does.
-/

namespace SafetyConfig

open Resource

/-! What a reference says, behind the start that all references have. -/

def stringType : Text := Text.ofString "string"

/-- A reference to an entry, as a text. -/
def referenceText (entry : Text) : Text :=
  Text.ofString "@string/" ++ entry

theorem exists_referenceText_iff {reference : String} :
    (∃ entry, Text.ofString reference = referenceText entry) ↔
      "@string/".toList <+: reference.toList := by
  constructor
  · rintro ⟨entry, h⟩
    obtain ⟨start, rest, hreference, hstart, _⟩ := List.map_eq_append_iff.mp h
    have hsame : start = "@string/".toList :=
      (List.map_inj_right fun _ _ hc => CodePoint.ofChar_injective hc).mp hstart
    exact ⟨rest, by rw [hreference, hsame]⟩
  · rintro ⟨rest, h⟩
    refine ⟨rest.map CodePoint.ofChar, ?_⟩
    rw [Text.ofString, ← h, List.map_append]
    rfl

theorem drop_referenceText (entry : Text) :
    (referenceText entry).drop 1 = stringType ++ slash :: entry := rfl

theorem colon_not_mem_stringType_append {entry : Text} :
    colon ∉ stringType ++ slash :: entry ↔ colon ∉ entry := by
  have hstart : colon ∉ stringType ++ [slash] := by decide
  have happend : stringType ++ slash :: entry = (stringType ++ [slash]) ++ entry := by simp
  rw [happend, List.mem_append, not_or]
  exact and_iff_right hstart

theorem slash_not_mem_stringType : slash ∉ stringType := by decide

namespace ResourceScope

variable {scope : ResourceScope} {reference : String} {n : ResourceId}

/-- The reference names an entry of the configuration's own package, and `n` is stored there. -/
def OwnEntry (scope : ResourceScope) (reference : String) (n : ResourceId) : Prop :=
  ∃ package entry, scope.package = some package ∧
    Text.ofString reference = referenceText entry ∧ colon ∉ entry ∧ entry ≠ [] ∧
    scope.table.entry package (stringType ++ slash :: entry) = n

/-- The reference names a package, with a type and an entry in it, and `n` is stored there. -/
def QualifiedEntry (scope : ResourceScope) (reference : String) (n : ResourceId) : Prop :=
  ∃ lead type entry,
    Text.ofString reference = referenceText (lead ++ colon :: (type ++ slash :: entry)) ∧
    colon ∉ lead ∧ slash ∉ type ∧ entry ≠ [] ∧
    scope.table.entry (stringType ++ slash :: lead) (type ++ slash :: entry) = n

theorem identifier_own {package entry : Text} (hpackage : scope.package = some package)
    (hreference : Text.ofString reference = referenceText entry) (hcolon : colon ∉ entry)
    (hentry : entry ≠ []) :
    scope.identifier reference = scope.table.entry package (stringType ++ slash :: entry) := by
  rw [identifier, hreference, drop_referenceText, hpackage]
  exact ResourceTable.getIdentifier_of_denotes
    (.typed (colon_not_mem_stringType_append.mpr hcolon) slash_not_mem_stringType hentry rfl)

theorem identifier_qualified {lead type entry : Text}
    (hreference :
      Text.ofString reference = referenceText (lead ++ colon :: (type ++ slash :: entry)))
    (hlead : colon ∉ lead) (htype : slash ∉ type) (hentry : entry ≠ []) :
    scope.identifier reference =
      scope.table.entry (stringType ++ slash :: lead) (type ++ slash :: entry) := by
  have happend : stringType ++ slash :: (lead ++ colon :: (type ++ slash :: entry)) =
      (stringType ++ slash :: lead) ++ colon :: (type ++ slash :: entry) := by simp
  rw [identifier, hreference, drop_referenceText, happend]
  exact ResourceTable.getIdentifier_of_denotes
    (.qualified (colon_not_mem_stringType_append.mpr hlead) htype hentry)

/-- A package that a reference spells starts with what all references start with. -/
theorem exists_lead_of_append {p text rest : Text}
    (h : stringType ++ slash :: text = p ++ colon :: rest) :
    ∃ lead, p = stringType ++ slash :: lead ∧ text = lead ++ colon :: rest := by
  have hstart : colon ∉ stringType ++ [slash] := by decide
  have happend : (stringType ++ [slash]) ++ text = p ++ colon :: rest := by simpa using h
  rcases List.append_eq_append_iff.mp happend with ⟨lead, hp, htext⟩ | ⟨back, hfront, hrest⟩
  · exact ⟨lead, by simpa using hp, htext⟩
  · cases back with
    | nil => exact ⟨[], by simpa using hfront.symm, by simpa using hrest.symm⟩
    | cons c back =>
      obtain ⟨rfl, -⟩ := List.cons.inj hrest
      rw [hfront] at hstart
      simp at hstart

/-- Everything that a reference can be: an own entry, a qualified one, or a name of nothing. -/
theorem exists_entry_of_identifier_ne_zero
    (hstart : "@string/".toList <+: reference.toList) (hn : scope.identifier reference ≠ 0) :
    scope.OwnEntry reference (scope.identifier reference) ∨
      scope.QualifiedEntry reference (scope.identifier reference) := by
  obtain ⟨text, hreference⟩ := exists_referenceText_iff.mpr hstart
  obtain ⟨p, key, hdenotes, -⟩ := ResourceTable.holds_of_getIdentifier_ne_zero hn
  rw [hreference, drop_referenceText] at hdenotes
  generalize hname : stringType ++ slash :: text = name at hdenotes
  cases hdenotes with
  | @qualified _ t e hcolon ht he =>
    obtain ⟨lead, rfl, rfl⟩ := exists_lead_of_append hname
    have hlead : colon ∉ lead := colon_not_mem_stringType_append.mp hcolon
    exact Or.inr ⟨lead, t, e, hreference, hlead, ht, he,
      (identifier_qualified hreference hlead ht he).symm⟩
  | @typed _ t e hcolon ht he hpackage =>
    have hsplit := splitAtFirst?_append slash_not_mem_stringType text
    rw [hname, splitAtFirst?_append ht] at hsplit
    cases hsplit
    have hown : colon ∉ text := colon_not_mem_stringType_append.mp hcolon
    exact Or.inl ⟨p, text, hpackage, hreference, hown, he,
      (identifier_own hpackage hreference hown he).symm⟩
  | packaged _ _ _ htype => cases htype
  | plain _ _ _ htype _ => cases htype

theorem identifier_of_entry (h : scope.OwnEntry reference n ∨ scope.QualifiedEntry reference n) :
    "@string/".toList <+: reference.toList ∧ scope.identifier reference = n := by
  rcases h with ⟨package, entry, hpackage, hreference, hcolon, hentry, hid⟩ |
    ⟨lead, type, entry, hreference, hlead, htype, hentry, hid⟩
  · exact ⟨exists_referenceText_iff.mp ⟨_, hreference⟩,
      (identifier_own hpackage hreference hcolon hentry).trans hid⟩
  · exact ⟨exists_referenceText_iff.mp ⟨_, hreference⟩,
      (identifier_qualified hreference hlead htype hentry).trans hid⟩

theorem resolve_eq_ok_iff_entry {place : Place} :
    scope.resolve place reference = .ok n ↔
      n ≠ 0 ∧ (scope.OwnEntry reference n ∨ scope.QualifiedEntry reference n) := by
  rw [resolve_eq_ok_iff]
  constructor
  · rintro ⟨hresolves, rfl⟩
    exact ⟨hresolves.found, exists_entry_of_identifier_ne_zero hresolves.start hresolves.found⟩
  · rintro ⟨hn, hentry⟩
    obtain ⟨hstart, hid⟩ := identifier_of_entry hentry
    exact ⟨⟨hstart, hid.symm ▸ hn⟩, hid.symm⟩

/-! Two tables. -/

/-- The tables hold the same under the type `string` of the package. -/
def AgreeOnStrings (package : Option Text) (table other : ResourceTable) : Prop :=
  ∀ p entry, package = some p →
    table.entry p (stringType ++ slash :: entry) = other.entry p (stringType ++ slash :: entry)

/-- The tables hold the same in packages whose names a reference can spell. -/
def AgreeOnSpelledPackages (table other : ResourceTable) : Prop :=
  ∀ lead key,
    table.entry (stringType ++ slash :: lead) key = other.entry (stringType ++ slash :: lead) key

theorem AgreeOnStrings.symm {package : Option Text} {table other : ResourceTable}
    (h : AgreeOnStrings package table other) : AgreeOnStrings package other table :=
  fun p entry hp => (h p entry hp).symm

theorem AgreeOnSpelledPackages.symm {table other : ResourceTable}
    (h : AgreeOnSpelledPackages table other) : AgreeOnSpelledPackages other table :=
  fun lead key => (h lead key).symm

theorem colon_mem_of_qualifiedEntry (h : scope.QualifiedEntry reference n) :
    ':' ∈ reference.toList := by
  obtain ⟨lead, type, entry, hreference, _⟩ := h
  have hmem : colon ∈ Text.ofString reference := by
    rw [hreference, referenceText]
    simp
  obtain ⟨c, hc, heq⟩ := List.mem_map.mp hmem
  exact CodePoint.ofChar_injective heq ▸ hc

variable {package : Option Text} {table other : ResourceTable}

theorem identifier_eq_of_agree (hown : AgreeOnStrings package table other)
    (hspelled : ':' ∉ reference.toList ∨ AgreeOnSpelledPackages table other)
    (hstart : "@string/".toList <+: reference.toList)
    (hn : identifier ⟨package, table⟩ reference ≠ 0) :
    identifier ⟨package, other⟩ reference = identifier ⟨package, table⟩ reference := by
  refine (identifier_of_entry ?_).2
  rcases exists_entry_of_identifier_ne_zero hstart hn with hentry | hentry
  · obtain ⟨p, entry, hpackage, hreference, hcolon, hentry, hid⟩ := hentry
    exact Or.inl ⟨p, entry, hpackage, hreference, hcolon, hentry,
      (hown p entry hpackage).symm.trans hid⟩
  · have hagree := hspelled.resolve_left fun hnot => hnot (colon_mem_of_qualifiedEntry hentry)
    obtain ⟨lead, type, entry, hreference, hlead, htype, hentry, hid⟩ := hentry
    exact Or.inr ⟨lead, type, entry, hreference, hlead, htype, hentry,
      (hagree lead _).symm.trans hid⟩

theorem resolve_eq_of_agree {place : Place} (hown : AgreeOnStrings package table other)
    (hspelled : ':' ∉ reference.toList ∨ AgreeOnSpelledPackages table other) :
    resolve ⟨package, other⟩ place reference = resolve ⟨package, table⟩ place reference := by
  by_cases hstart : "@string/".toList <+: reference.toList
  · have hsame : identifier ⟨package, other⟩ reference = identifier ⟨package, table⟩ reference := by
      by_cases hn : identifier ⟨package, table⟩ reference = 0
      · by_cases hn' : identifier ⟨package, other⟩ reference = 0
        · rw [hn, hn']
        · exact (identifier_eq_of_agree hown.symm (hspelled.imp_right .symm) hstart hn').symm
      · exact identifier_eq_of_agree hown hspelled hstart hn
    rw [resolve_of_start hstart, resolve_of_start hstart, hsame]
  · rw [resolve_of_not_start hstart, resolve_of_not_start hstart]

/-- A reference stands for an entry of its own package under the type `string`, or else it has
a colon and stands for an entry of a package that it spells itself. What a table holds of other
packages, and of other types in the own one, changes nothing. -/
theorem resolve_within_scope (package : Option Text) (table : ResourceTable) (place : Place)
    (reference : String) :
    (∀ n, resolve ⟨package, table⟩ place reference = .ok n ↔
      n ≠ 0 ∧
        (OwnEntry ⟨package, table⟩ reference n ∨ QualifiedEntry ⟨package, table⟩ reference n)) ∧
    ∀ other, AgreeOnStrings package table other →
      (':' ∉ reference.toList ∨ AgreeOnSpelledPackages table other) →
      resolve ⟨package, other⟩ place reference = resolve ⟨package, table⟩ place reference :=
  ⟨fun _ => resolve_eq_ok_iff_entry, fun _ hown hspelled => resolve_eq_of_agree hown hspelled⟩

private def app : Text := Text.ofString "app"

private def titlePlace : Place := ⟨"safety-source", "title"⟩

/-- Another package and another type stand beside the one string that is asked for. -/
theorem shield_within_scope :
    let string := (Text.ofString "string/shield", (7 : ResourceId))
    let dimen := (Text.ofString "dimen/shield", (8 : ResourceId))
    let table : ResourceTable := ⟨[(app, [string])]⟩
    let other : ResourceTable := ⟨[(Text.ofString "lib", [(string.1, 9)]), (app, [dimen, string])]⟩
    OwnEntry ⟨some app, table⟩ "@string/shield" 7 ∧
    resolve ⟨some app, table⟩ titlePlace "@string/shield" = .ok 7 ∧
    AgreeOnStrings (some app) table other ∧
    resolve ⟨some app, other⟩ titlePlace "@string/shield" = .ok 7 := by
  intro string dimen table other
  have hentry : OwnEntry ⟨some app, table⟩ "@string/shield" 7 :=
    ⟨app, Text.ofString "shield", rfl, rfl, by decide, by decide, by decide⟩
  have hagree : AgreeOnStrings (some app) table other := by
    rintro _ entry ⟨⟩
    have hdimen : (stringType ++ slash :: entry == Text.ofString "dimen/shield") = false := by
      rw [beq_eq_false_iff_ne]
      intro h
      exact absurd (List.cons.inj h).1 (by decide)
    have hlib : (app == Text.ofString "lib") = false := by decide
    simp [ResourceTable.entry, table, other, dimen, List.lookup_cons, hdimen, hlib]
  obtain ⟨hok, hother⟩ :=
    resolve_within_scope (some app) table titlePlace "@string/shield"
  have hresolved := (hok 7).mpr ⟨by decide, Or.inl hentry⟩
  exact ⟨hentry, hresolved, hagree, (hother other hagree (Or.inl (by decide))).trans hresolved⟩

/-- With a colon a reference gets hold of a dimension in another package, of which the own one
knows nothing. A reference that ends with its start is missing, whatever is stored under that. -/
theorem colon_leaves_package :
    let own : ResourceTable := ⟨[(app, [(Text.ofString "string/", 5)])]⟩
    let table : ResourceTable :=
      ⟨own.packages ++ [(Text.ofString "string/lib", [(Text.ofString "dimen/gap", 9)])]⟩
    AgreeOnStrings (some app) table own ∧
    table.entry app (Text.ofString "string/lib:dimen/gap") = 0 ∧
    resolve ⟨some app, table⟩ titlePlace "@string/lib:dimen/gap" = .ok 9 ∧
    resolve ⟨some app, own⟩ titlePlace "@string/lib:dimen/gap" =
      .error (.referenceMissing "@string/lib:dimen/gap" titlePlace) ∧
    table.entry app (Text.ofString "string/") = 5 ∧
    resolve ⟨some app, table⟩ titlePlace "@string/" =
      .error (.referenceMissing "@string/" titlePlace) := by
  intro own table
  refine ⟨?_, by decide +kernel, by decide +kernel, by decide +kernel, by decide +kernel,
    by decide +kernel⟩
  rintro _ entry ⟨⟩
  rfl

end ResourceScope

end SafetyConfig
