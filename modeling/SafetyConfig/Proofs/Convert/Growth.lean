import SafetyConfig.Convert.Parse
import SafetyConfig.Proofs.File.Discovery
import SafetyConfig.Proofs.Resource.Naming
import SafetyConfig.Proofs.Resource.Reference

/-!
# Tables that grow

A table is asked for nothing but the identifiers of names, and of these only the ones that
are not there may change when entries are added. So conversion comes to the same end under
a larger table, unless it ended with a missing reference.
-/

namespace SafetyConfig

namespace ResourceTable

variable {table other : ResourceTable} {package key : Text} {id : ResourceId}

/-- Every entry of the table is in the other one too, with the same identifier. -/
def Within (table other : ResourceTable) : Prop :=
  ∀ package key id, table.Holds package key id → other.Holds package key id

theorem within_of_forall_mem
    (h : ∀ p ∈ table.packages, ∀ e ∈ p.2, ∃ entries ∈ other.packages.lookup p.1,
      entries.lookup e.1 = some e.2) : table.Within other := by
  rintro package key id ⟨entries, hpackage, hkey⟩
  obtain ⟨front, back, hpackages, -⟩ := List.lookup_eq_some_iff.mp hpackage
  obtain ⟨before, after, hentries, -⟩ := List.lookup_eq_some_iff.mp hkey
  have hp : (package, entries) ∈ table.packages := by simp [hpackages]
  have he : (key, id) ∈ entries := by simp [hentries]
  obtain ⟨entries', hpackage', hkey'⟩ := h _ hp _ he
  exact ⟨entries', hpackage', hkey'⟩

theorem Within.entry_eq (hwithin : table.Within other) (h : table.entry package key ≠ 0) :
    other.entry package key = table.entry package key :=
  (hwithin package key _ (holds_of_entry_ne_zero h)).entry_eq

/-- The package a name is looked up in depends on the name and the defaults alone. -/
theorem Within.getIdentifier_eq (hwithin : table.Within other) {name : Text}
    {type package : Option Text} (h : table.getIdentifier name type package ≠ 0) :
    other.getIdentifier name type package = table.getIdentifier name type package := by
  obtain ⟨p, key, hdenotes, -⟩ := holds_of_getIdentifier_ne_zero h
  rw [getIdentifier_of_denotes hdenotes] at h ⊢
  rw [getIdentifier_of_denotes hdenotes]
  exact hwithin.entry_eq h

end ResourceTable

/-! Two runs of the same steps. -/

/-- A result that no larger table can change: anything but a missing reference. -/
def Settled {α : Type} (x : Except ConversionError α) : Prop :=
  ∀ reference place, x ≠ .error (.referenceMissing reference place)

namespace Settled

variable {α β : Type}

theorem of_bind {x : Except ConversionError α} {f : α → Except ConversionError β}
    (h : Settled (x >>= f)) : Settled x := by
  intro reference place hx
  apply h reference place
  rw [hx]
  rfl

/-- If neither step changes a settled result, nor do the two in sequence. -/
theorem bind_eq {x y : Except ConversionError α} {f g : α → Except ConversionError β}
    (hx : Settled x → y = x) (hf : ∀ a, Settled (f a) → g a = f a) (h : Settled (x >>= f)) :
    (y >>= g) = x >>= f := by
  rw [hx h.of_bind]
  cases x with
  | error e => rfl
  | ok a => exact hf a h

theorem mapM_eq {f g : α → Except ConversionError β} (hf : ∀ a, Settled (f a) → g a = f a)
    (as : List α) (h : Settled (as.mapM f)) : as.mapM g = as.mapM f := by
  induction as with
  | nil => rfl
  | cons a as ih =>
    rw [List.mapM_cons] at h
    rw [List.mapM_cons, List.mapM_cons]
    exact bind_eq (hf a) (fun b => bind_eq ih fun _ _ => rfl) h

end Settled

/-! The converters under two tables. -/

section Converters

variable {package : Option Text} {table other : ResourceTable}

theorem identifier_of_within (hwithin : table.Within other) {reference : String}
    (h : ResourceScope.identifier ⟨package, table⟩ reference ≠ 0) :
    ResourceScope.identifier ⟨package, other⟩ reference =
      ResourceScope.identifier ⟨package, table⟩ reference :=
  hwithin.getIdentifier_eq h

theorem resolve_of_within (hwithin : table.Within other) {place : Place} {reference : String}
    (h : Settled (ResourceScope.resolve ⟨package, table⟩ place reference)) :
    ResourceScope.resolve ⟨package, other⟩ place reference =
      ResourceScope.resolve ⟨package, table⟩ place reference := by
  by_cases hstart : "@string/".toList <+: reference.toList
  · have hfound : ResourceScope.identifier ⟨package, table⟩ reference ≠ 0 := by
      intro hzero
      apply h reference place
      rw [ResourceScope.resolve_of_start hstart, if_pos hzero]
    rw [ResourceScope.resolve_of_start hstart, ResourceScope.resolve_of_start hstart,
      identifier_of_within hwithin hfound]
  · rw [ResourceScope.resolve_of_not_start hstart, ResourceScope.resolve_of_not_start hstart]

theorem resolveOptional_of_within (hwithin : table.Within other) {element : ElementName}
    {field : Field} {text : Option String}
    (h : Settled (ResourceScope.resolveOptional ⟨package, table⟩ element field text)) :
    ResourceScope.resolveOptional ⟨package, other⟩ element field text =
      ResourceScope.resolveOptional ⟨package, table⟩ element field text := by
  cases text with
  | none => rfl
  | some reference => exact resolve_of_within hwithin h

theorem convertSource_of_within (hwithin : table.Within other) {item : Option RawSource}
    (h : Settled (convertSource ⟨package, table⟩ item)) :
    convertSource ⟨package, other⟩ item = convertSource ⟨package, table⟩ item := by
  cases item with
  | none => rfl
  | some r =>
    refine Settled.bind_eq (resolveOptional_of_within hwithin) (fun title => ?_) h
    refine Settled.bind_eq (resolveOptional_of_within hwithin) fun titleForWork => ?_
    refine Settled.bind_eq (resolveOptional_of_within hwithin) fun summary => ?_
    refine Settled.bind_eq (resolveOptional_of_within hwithin) fun searchTerms => ?_
    -- The rules look at identifiers only, and these are the same by now.
    exact fun _ => rfl

theorem convertGroup_of_within (hwithin : table.Within other) {item : Option RawGroup}
    (h : Settled (convertGroup ⟨package, table⟩ item)) :
    convertGroup ⟨package, other⟩ item = convertGroup ⟨package, table⟩ item := by
  cases item with
  | none => rfl
  | some r =>
    refine Settled.bind_eq (resolveOptional_of_within hwithin) (fun title => ?_) h
    refine Settled.bind_eq (resolveOptional_of_within hwithin) fun summary => ?_
    refine Settled.bind_eq
      (Settled.mapM_eq (fun _ => convertSource_of_within hwithin) r.sources) fun sources => ?_
    exact fun _ => rfl

theorem convertConfig_of_within (hwithin : table.Within other) {raw : Option RawConfig}
    (h : Settled (convertConfig ⟨package, table⟩ raw)) :
    convertConfig ⟨package, other⟩ raw = convertConfig ⟨package, table⟩ raw := by
  match raw with
  | none => rfl
  | some ⟨none⟩ => rfl
  | some ⟨some ⟨none⟩⟩ => rfl
  | some ⟨some ⟨some groups⟩⟩ =>
    refine Settled.bind_eq
      (Settled.mapM_eq (fun _ => convertGroup_of_within hwithin) groups) (fun _ => ?_) h
    exact fun _ => rfl

theorem parse_of_within (hwithin : table.Within other) {bytes : Bytes}
    (h : ∀ reference place,
      parse ⟨package, table⟩ bytes ≠ .error (.rejected (.referenceMissing reference place))) :
    parse ⟨package, other⟩ bytes = parse ⟨package, table⟩ bytes := by
  cases hraw : readRaw bytes with
  | error fault => simp only [parse, hraw]
  | ok raw =>
    have hsettled : Settled (convertConfig ⟨package, table⟩ raw) := by
      intro reference place hmissing
      apply h reference place
      simp only [parse, hraw, hmissing]
    simp only [parse, hraw, convertConfig_of_within hwithin hsettled]

end Converters

/-- Whatever a larger table holds besides, in this package or in others, a raw tree and a
document come to the same end under it, with the same identifiers, the same error and the same
cause, unless a reference was missing. -/
theorem larger_table_keeps_outcome (package : Option Text) {table other : ResourceTable}
    (hwithin : table.Within other) :
    (∀ raw, (∀ reference place,
        convertConfig ⟨package, table⟩ raw ≠ .error (.referenceMissing reference place)) →
      convertConfig ⟨package, other⟩ raw = convertConfig ⟨package, table⟩ raw) ∧
    ∀ bytes, (∀ reference place,
        parse ⟨package, table⟩ bytes ≠ .error (.rejected (.referenceMissing reference place))) →
      parse ⟨package, other⟩ bytes = parse ⟨package, table⟩ bytes := by
  constructor
  · intro raw h
    exact convertConfig_of_within hwithin h
  · intro bytes h
    exact parse_of_within hwithin h

/-- A title in a package that the reference names, a source that breaks a rule, and a document
without groups: under the larger table each comes to the same end. -/
theorem lock_converts_under_larger_table :
    let app := Text.ofString "app"
    let lib := (Text.ofString "string/lib", [(Text.ofString "dimen/gap", (9 : ResourceId))])
    let table : ResourceTable := ⟨[lib, (app, [(Text.ofString "string/lock", 7)])]⟩
    let other : ResourceTable :=
      ⟨[(Text.ofString "lib", lib.2),
        (app, [(Text.ofString "dimen/lock", 8), (Text.ofString "string/lock", 7)]), lib]⟩
    let raw (kind : Int) : RawConfig :=
      ⟨some ⟨some [some ⟨some "device", some "@string/lock", none, 2,
        [some { kind := kind, id := some "lock", title := some "@string/lib:dimen/gap",
                intentAction := some "open" }]⟩]⟩⟩
    let config : Config :=
      ⟨[⟨"device", 7, 0, .privacy, [⟨.static, "lock", none, 9, 0, 0, some "open", .primary,
        .unspecified, none, 0, none, false, false⟩]⟩]⟩
    let noPackage : ConversionError :=
      .invalidElement .source (some ⟨.source, .packageName, .required⟩)
    table.Within other ∧
    convertConfig ⟨some app, other⟩ (some (raw 1)) = .ok config ∧
    convertConfig ⟨some app, other⟩ (some (raw 2)) = .error noPackage ∧
    parse ⟨some app, other⟩ emptyConfigBytes =
      .error (.rejected (.missingElement .sourcesConfig)) := by
  intro app lib table other raw config noPackage
  have hwithin : table.Within other := ResourceTable.within_of_forall_mem (by decide +kernel)
  obtain ⟨hconvert, hparse⟩ := larger_table_keeps_outcome (some app) hwithin
  have hconfig : convertConfig ⟨some app, table⟩ (some (raw 1)) = .ok config := by decide +kernel
  have hbroken : convertConfig ⟨some app, table⟩ (some (raw 2)) = .error noPackage := by
    decide +kernel
  have hempty : parse ⟨some app, table⟩ emptyConfigBytes =
      .error (.rejected (.missingElement .sourcesConfig)) := by
    decide +kernel
  refine ⟨hwithin, ?_, ?_, ?_⟩
  · exact (hconvert _ (by simp [hconfig])).trans hconfig
  · exact (hconvert _ (by simp [hbroken, noPackage])).trans hbroken
  · exact (hparse _ (by simp [hempty])).trans hempty

end SafetyConfig
