import SafetyConfig.Text.CodePoint

/-!
# Resource names

A name is `entry`, `type/entry`, `package:entry` or `package:type/entry`. The package
ends at the first colon, the type at the first slash after it.
-/

namespace SafetyConfig

/-- The parts before and after the first occurrence of `mark`. -/
def splitAtFirst? {α : Type} [DecidableEq α] (mark : α) : List α → Option (List α × List α)
  | [] => none
  | x :: xs =>
    if x = mark then some ([], xs)
    else (splitAtFirst? mark xs).map fun (before, after) => (x :: before, after)

theorem splitAtFirst?_eq_none_iff {α : Type} [DecidableEq α] {mark : α} {xs : List α} :
    splitAtFirst? mark xs = none ↔ mark ∉ xs := by
  induction xs with
  | nil => simp [splitAtFirst?]
  | cons x xs ih =>
    by_cases h : x = mark
    · simp [splitAtFirst?, h]
    · simp [splitAtFirst?, h, ih, Ne.symm h]

theorem splitAtFirst?_append {α : Type} [DecidableEq α] {mark : α} {xs : List α}
    (h : mark ∉ xs) (ys : List α) :
    splitAtFirst? mark (xs ++ mark :: ys) = some (xs, ys) := by
  induction xs with
  | nil => simp [splitAtFirst?]
  | cons x xs ih =>
    have hx : x ≠ mark := fun e => h (by simp [e])
    have hxs : mark ∉ xs := fun m => h (List.mem_cons_of_mem _ m)
    simp [splitAtFirst?, hx, ih hxs]

theorem eq_of_splitAtFirst? {α : Type} [DecidableEq α] {mark : α} {xs before after : List α}
    (h : splitAtFirst? mark xs = some (before, after)) :
    xs = before ++ mark :: after ∧ mark ∉ before := by
  induction xs generalizing before with
  | nil => simp [splitAtFirst?] at h
  | cons x xs ih =>
    by_cases hx : x = mark
    · simp only [splitAtFirst?, hx, if_true, Option.some.injEq, Prod.mk.injEq] at h
      obtain ⟨rfl, rfl⟩ := h
      simp [hx]
    · simp only [splitAtFirst?, hx, if_false, Option.map_eq_some_iff] at h
      obtain ⟨⟨b, a⟩, hs, he⟩ := h
      simp only [Prod.mk.injEq] at he
      obtain ⟨rfl, rfl⟩ := he
      obtain ⟨rfl, hb⟩ := ih hs
      exact ⟨rfl, by simp [hb, Ne.symm hx]⟩

namespace Resource

def colon : CodePoint := CodePoint.ofChar ':'

def slash : CodePoint := CodePoint.ofChar '/'

structure Name where
  package : Option Text
  type : Option Text
  entry : Text
  deriving DecidableEq, Repr

/-- Split a name; the defaults stand in for what it leaves out. -/
def Name.split (text : Text) (type package : Option Text) : Name :=
  let (package, text) := match splitAtFirst? colon text with
    | some (p, rest) => (some p, rest)
    | none => (package, text)
  match splitAtFirst? slash text with
  | some (t, rest) => ⟨package, some t, rest⟩
  | none => ⟨package, type, text⟩

end Resource

end SafetyConfig
