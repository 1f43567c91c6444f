import Mathlib.Data.List.Induction
import SafetyConfig.Proofs.Json.Grammar

/-!
# Members of written objects

A name that an object repeats stands for the last of its members. The fields of the value have each
name once, and they are what the last members have.
-/

namespace SafetyConfig

/-- To look up what a table gives for each key is to look up in a table of that. -/
theorem lookup_map_value {κ α β : Type} [BEq κ] (f : α → β) (key : κ) (table : List (κ × α)) :
    (table.map fun e => (e.1, f e.2)).lookup key = (table.lookup key).map f := by
  induction table with
  | nil => rfl
  | cons e es ih =>
    rw [List.map_cons, List.lookup_cons, List.lookup_cons, ih]
    cases key == e.1 <;> rfl

namespace Json

variable {name : Text} {value v w : Json} {fields members : List (Text × Json)}

/-- A member of a written object, the last one with its name. -/
def HasMember (written : Json) (name : Text) (v : Json) : Prop :=
  ∃ before after, written = .object (before ++ (name, v) :: after) ∧ ∀ m ∈ after, m.1 ≠ name

theorem hasMember_iff : w.HasMember name v ↔
    ∃ members, w = .object members ∧ members.reverse.lookup name = some v := by
  simp only [HasMember, List.lookup_eq_some_iff, bne_iff_ne]
  constructor
  · rintro ⟨before, after, rfl, hlast⟩
    refine ⟨_, rfl, after.reverse, before.reverse, by simp, fun m hm => ?_⟩
    exact (hlast m (List.mem_reverse.mp hm)).symm
  · rintro ⟨members, rfl, front, back, hmembers, hlast⟩
    refine ⟨back.reverse, front.reverse, ?_, fun m hm => (hlast m (List.mem_reverse.mp hm)).symm⟩
    rw [List.reverse_eq_iff.mp hmembers]
    simp

theorem decodedItems_eq_map (items : List Json) : decodedItems items = items.map decoded := by
  induction items with
  | nil => rfl
  | cons v vs ih => rw [decodedItems, ih, List.map_cons]

theorem decodedMembers_eq_map (members : List (Text × Json)) :
    decodedMembers members = members.map fun m => (m.1, m.2.decoded) := by
  induction members with
  | nil => rfl
  | cons m ms ih => rw [decodedMembers, ih, List.map_cons]

theorem decoded_eq_object_iff : w.decoded = .object fields ↔
    ∃ members, w = .object members ∧ fields = putFields [] (decodedMembers members) := by
  cases w <;> simp [decoded, eq_comm]

theorem decoded_eq_int_iff {n : Int} : w.decoded = .int n ↔ w = .int n := by
  cases w <;> simp [decoded]

theorem putFields_concat (fields members : List (Text × Json)) (m : Text × Json) :
    putFields fields (members ++ [m]) = putField m.1 m.2 (putFields fields members) := by
  rw [putFields, List.foldl_append]
  rfl

/-- Later members are looked up before earlier ones. -/
theorem lookup_putFields (members : List (Text × Json)) (name : Text) :
    (putFields [] members).lookup name = members.reverse.lookup name := by
  induction members using List.reverseRecOn with
  | nil => rfl
  | append_singleton ms m ih =>
    rw [putFields_concat, List.reverse_concat, List.lookup_cons]
    by_cases h : name = m.1
    · rw [h, lookup_putField_self, beq_self_eq_true]
    · rw [lookup_putField_of_ne _ _ h, ih, beq_eq_false_iff_ne.mpr h]

/-- Setting a field that is there leaves the names as they are. -/
theorem names_putField_of_mem (h : name ∈ fields.map (·.1)) :
    (putField name value fields).map (·.1) = fields.map (·.1) := by
  induction fields with
  | nil => cases h
  | cons f fs ih =>
    by_cases hname : f.1 = name
    · simp [putField, hname]
    · have hrest := (List.mem_cons.mp h).resolve_left (Ne.symm hname)
      rw [putField, if_neg hname, List.map_cons, List.map_cons, ih hrest]

theorem putField_of_not_mem (h : name ∉ fields.map (·.1)) :
    putField name value fields = fields ++ [(name, value)] := by
  induction fields with
  | nil => rfl
  | cons f fs ih =>
    obtain ⟨hname, hrest⟩ := List.ne_and_not_mem_of_not_mem_cons h
    rw [putField, if_neg (Ne.symm hname), ih hrest, List.cons_append]

theorem names_putField_of_not_mem (h : name ∉ fields.map (·.1)) :
    (putField name value fields).map (·.1) = fields.map (·.1) ++ [name] := by
  rw [putField_of_not_mem h, List.map_append]
  rfl

/-- Members with names of their own are the fields of the value as they stand. -/
theorem putFields_of_nodup (h : ((fields ++ members).map (·.1)).Nodup) :
    putFields fields members = fields ++ members := by
  induction members generalizing fields with
  | nil => rw [List.append_nil]; rfl
  | cons m ms ih =>
    have hname : m.1 ∉ fields.map (·.1) := by
      rw [List.map_append, List.map_cons, List.nodup_append] at h
      exact fun hmem => h.2.2 _ hmem _ List.mem_cons_self rfl
    rw [List.append_cons] at h ⊢
    rw [← ih h, ← putField_of_not_mem hname]
    rfl

theorem nodup_putFields (members : List (Text × Json)) :
    ((putFields [] members).map (·.1)).Nodup := by
  induction members using List.reverseRecOn with
  | nil => exact List.nodup_nil
  | append_singleton ms m ih =>
    rw [putFields_concat]
    by_cases hmem : m.1 ∈ (putFields [] ms).map (·.1)
    · rwa [names_putField_of_mem hmem]
    · rw [names_putField_of_not_mem hmem, List.nodup_append]
      refine ⟨ih, by simp, fun other hother last hlast => ?_⟩
      rw [List.mem_singleton.mp hlast]
      exact ne_of_mem_of_not_mem hother hmem

/-- The fields of the value are the last members. -/
theorem lookup_decoded_iff (h : w.decoded = .object fields) :
    fields.lookup name = some v ↔ ∃ u, w.HasMember name u ∧ v = u.decoded := by
  obtain ⟨members, rfl, rfl⟩ := decoded_eq_object_iff.mp h
  rw [lookup_putFields, decodedMembers_eq_map, ← List.map_reverse, lookup_map_value decoded,
    Option.map_eq_some_iff]
  simp only [hasMember_iff, object.injEq, exists_eq_left', eq_comm]

theorem mem_names_iff (h : w.decoded = .object fields) :
    name ∈ fields.map (·.1) ↔ ∃ v, w.HasMember name v := by
  have hlookup : (∃ v, fields.lookup name = some v) ↔ ∃ u, w.HasMember name u := by
    simp only [lookup_decoded_iff h]
    exact ⟨fun ⟨_, u, hu, _⟩ => ⟨u, hu⟩, fun ⟨u, hu⟩ => ⟨_, u, hu, rfl⟩⟩
  rw [← hlookup, ← Option.isSome_iff_exists, List.lookup_isSome_iff, List.mem_map]
  simp only [beq_iff_eq, eq_comm (a := name)]

theorem nodup_of_decoded (h : w.decoded = .object fields) : (fields.map (·.1)).Nodup := by
  obtain ⟨members, -, rfl⟩ := decoded_eq_object_iff.mp h
  exact nodup_putFields _

end Json

end SafetyConfig
