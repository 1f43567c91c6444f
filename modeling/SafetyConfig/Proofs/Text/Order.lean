import SafetyConfig.Text.CodePoint
import SafetyConfig.Text.Lexical

/-!
# Lists in lexical order

The order that is decided item by item is the lexical order of lists, and to sort by it leaves no
two items in the wrong order. So where no two items have the same key, each comes strictly before
those after it.
-/

namespace SafetyConfig.Lexical

variable {α β : Type} {less : α → α → Bool}

theorem lt_cons_cons (a b : α) (as bs : List α) :
    lt less (a :: as) (b :: bs) = (!less b a && (less a b || lt less as bs)) := by
  rw [lt, lt, le, Bool.not_or, Bool.not_and, Bool.not_not]

theorem lt_iff_lex (h : Strict less) {as bs : List α} :
    lt less as bs = true ↔ List.Lex (fun a b => less a b = true) as bs := by
  induction as generalizing bs with
  | nil =>
    cases bs with
    | nil => simp [lt, le]
    | cons b bs => simp [lt, le]
  | cons a as ih =>
    cases bs with
    | nil => simp [lt, le]
    | cons b bs =>
      rw [lt_cons_cons, List.cons_lex_cons_iff, ← ih]
      -- Of two items only one can come first, and if none does they are the same.
      cases hab : less a b with
      | true => simp [h.asymm hab]
      | false =>
        cases hba : less b a with
        | true =>
          have hne : a ≠ b := by
            rintro rfl
            rw [hab] at hba
            cases hba
          simp [hne]
        | false => simp [h.same hab hba]

/-- Sorted by keys that are all different, each item has a lesser key than those after it. -/
theorem pairwise_lex_mergeSort (h : Strict less) {key : β → List α} {items : List β}
    (hdistinct : (items.map key).Nodup) :
    (items.mergeSort fun x y => le less (key x) (key y)).Pairwise
      fun x y => List.Lex (fun a b => less a b = true) (key x) (key y) := by
  have htrans (x y z : β) (hxy : le less (key x) (key y) = true)
      (hyz : le less (key y) (key z) = true) : le less (key x) (key z) = true :=
    le_trans h hxy hyz
  have hordered : (items.mergeSort fun x y => le less (key x) (key y)).Pairwise
      fun x y => le less (key x) (key y) = true :=
    List.pairwise_mergeSort htrans (fun x y => le_total less (key x) (key y)) items
  have hkeys : (items.mergeSort fun x y => le less (key x) (key y)).Pairwise
      fun x y => key x ≠ key y :=
    List.pairwise_map.mp (((List.mergeSort_perm items _).map key).nodup_iff.mpr hdistinct)
  refine hordered.imp₂ (fun x y hle hne => (lt_iff_lex h).mp ?_) hkeys
  rw [lt, Bool.not_eq_true', Bool.eq_false_iff]
  exact fun hge => hne (le_antisymm h hle hge)

end SafetyConfig.Lexical

namespace SafetyConfig

/-! The orders of code points and of characters are those of their numbers. -/

theorem CodePoint.strict_byKey : Lexical.Strict (Lexical.byKey (Fin.val : CodePoint → Nat)) :=
  Lexical.strict_byKey Fin.ext

theorem CodePoint.byKey_iff {p q : CodePoint} : Lexical.byKey Fin.val p q = true ↔ p < q := by
  rw [Lexical.byKey, Nat.blt_eq, Fin.lt_def]

theorem strict_byKey_toNat : Lexical.Strict (Lexical.byKey Char.toNat) :=
  Lexical.strict_byKey fun h => Char.ext (UInt32.toNat_inj.mp h)

theorem byKey_toNat_iff {c d : Char} : Lexical.byKey Char.toNat c d = true ↔ c < d := by
  rw [Lexical.byKey, Nat.blt_eq, Char.lt_def, UInt32.lt_iff_toNat_lt]
  rfl

end SafetyConfig
