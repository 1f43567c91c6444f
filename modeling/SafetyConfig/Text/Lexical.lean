/-!
# Lexical order

Lists are compared item by item from the front, and a list comes before those that go on
where it ends.
-/

namespace SafetyConfig.Lexical

variable {α : Type}

/-- Whether a list comes before another or is the same, under an order of items. -/
def le (lt : α → α → Bool) : List α → List α → Bool
  | [], _ => true
  | _ :: _, [] => false
  | a :: as, b :: bs => lt a b || (!lt b a && le lt as bs)

/-- A strict order of items in which items that are not ordered are the same. -/
structure Strict (lt : α → α → Bool) : Prop where
  asymm : ∀ {a b}, lt a b = true → lt b a = false
  trans : ∀ {a b c}, lt a b = true → lt b c = true → lt a c = true
  same : ∀ {a b}, lt a b = false → lt b a = false → a = b

theorem Strict.irrefl {lt : α → α → Bool} (h : Strict lt) (a : α) : lt a a = false := by
  cases ha : lt a a with
  | false => rfl
  | true => exact ha.symm.trans (h.asymm ha)

theorem le_refl {lt : α → α → Bool} (h : Strict lt) (as : List α) : le lt as as = true := by
  induction as with
  | nil => rfl
  | cons a as ih => simp [le, h.irrefl a, ih]

theorem le_total (lt : α → α → Bool) (as bs : List α) :
    (le lt as bs || le lt bs as) = true := by
  induction as generalizing bs with
  | nil => simp [le]
  | cons a as ih =>
    cases bs with
    | nil => simp [le]
    | cons b bs =>
      have := ih bs
      cases hab : lt a b <;> cases hba : lt b a <;> simp_all [le]

theorem le_antisymm {lt : α → α → Bool} (h : Strict lt) {as bs : List α}
    (hab : le lt as bs = true) (hba : le lt bs as = true) : as = bs := by
  induction as generalizing bs with
  | nil =>
    cases bs with
    | nil => rfl
    | cons b bs => simp [le] at hba
  | cons a as ih =>
    cases bs with
    | nil => simp [le] at hab
    | cons b bs =>
      cases h1 : lt a b with
      | true => simp [le, h1, h.asymm h1] at hba
      | false =>
        cases h2 : lt b a with
        | true => simp [le, h1, h2] at hab
        | false =>
          simp only [le, h1, h2, Bool.false_or, Bool.not_false, Bool.true_and] at hab hba
          rw [h.same h1 h2, ih hab hba]

theorem le_trans {lt : α → α → Bool} (h : Strict lt) {as bs cs : List α}
    (hab : le lt as bs = true) (hbc : le lt bs cs = true) : le lt as cs = true := by
  induction as generalizing bs cs with
  | nil => simp [le]
  | cons a as ih =>
    cases bs with
    | nil => simp [le] at hab
    | cons b bs =>
      cases cs with
      | nil => simp [le] at hbc
      | cons c cs =>
        cases h1 : lt a b with
        | true =>
          cases h2 : lt b c with
          | true => simp [le, h.trans h1 h2]
          | false =>
            cases h3 : lt c b with
            | true => simp [le, h2, h3] at hbc
            | false =>
              have hb := h.same h2 h3
              subst hb
              simp [le, h1]
        | false =>
          cases h2 : lt b a with
          | true => simp [le, h1, h2] at hab
          | false =>
            have ha := h.same h1 h2
            subst ha
            simp only [le, h1, Bool.false_or, Bool.not_false, Bool.true_and] at hab
            cases h3 : lt a c with
            | true => simp [le, h3]
            | false =>
              cases h4 : lt c a with
              | true => simp [le, h3, h4] at hbc
              | false =>
                simp only [le, h3, h4, Bool.false_or, Bool.not_false, Bool.true_and] at hbc ⊢
                exact ih hab hbc

/-- The strict order of lists. -/
def lt (less : α → α → Bool) (as bs : List α) : Bool :=
  !le less bs as

theorem strict_lt {less : α → α → Bool} (h : Strict less) : Strict (lt less) where
  asymm := by
    intro as bs hab
    have := le_total less as bs
    simp_all [lt]
  trans := by
    intro as bs cs hab hbc
    simp only [lt, Bool.not_eq_true'] at *
    cases hca : le less cs as with
    | false => rfl
    | true =>
      have hbs : le less as bs = true := by simpa [hab] using le_total less as bs
      rw [← hbc, le_trans h hca hbs]
  same := by
    intro as bs hab hba
    simp only [lt, Bool.not_eq_false'] at *
    exact le_antisymm h hba hab

/-- Order by a number that tells items apart. -/
def byKey (key : α → Nat) (a b : α) : Bool :=
  Nat.blt (key a) (key b)

theorem strict_byKey {key : α → Nat} (h : ∀ {a b}, key a = key b → a = b) :
    Strict (byKey key) where
  asymm := by
    intro a b hab
    simp only [byKey, Nat.blt_eq, Bool.eq_false_iff, ne_eq] at *
    omega
  trans := by
    intro a b c hab hbc
    simp only [byKey, Nat.blt_eq] at *
    omega
  same := by
    intro a b hab hba
    simp only [byKey, Nat.blt_eq, Bool.eq_false_iff, ne_eq] at *
    exact h (by omega)

end SafetyConfig.Lexical
