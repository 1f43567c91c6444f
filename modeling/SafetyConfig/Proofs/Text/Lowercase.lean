import SafetyConfig.Text.Lowercase

/-!
# Texts with an ASCII small form

In an ASCII text the letters A to Z become small and all else stays. Outside ASCII there are two
capitals with an ASCII letter in their small form: the Kelvin sign becomes a k, and the dotted
capital I an i with a dot that is not ASCII. So an ASCII word without a k is the small form of its
own ASCII spellings and of no other text.
-/

namespace SafetyConfig.Lowercase

def Ascii (cs : List Char) : Prop :=
  ∀ c ∈ cs, c.toNat < 128

-- by the characters of the text: a statement about all characters can be decided as well
instance : DecidablePred Ascii :=
  fun cs => List.decidableBAll (fun c : Char => c.toNat < 128) cs

theorem lowerChar_of_ascii {c : Char} (h : c.toNat < 128) : lowerChar c = [c.toLower] := by
  have hall : ∀ n < 128, lowerChar (Char.ofNat n) = [(Char.ofNat n).toLower] := by decide +kernel
  have := hall c.toNat h
  rwa [Char.ofNat_toNat] at this

theorem lowerFrom_of_ascii {cs : List Char} (h : Ascii cs) (before : List Char) :
    lowerFrom before cs = cs.map Char.toLower := by
  induction cs generalizing before with
  | nil => rfl
  | cons c cs ih =>
    have hc : c.toNat < 128 := h c List.mem_cons_self
    have hsigma : c ≠ 'Σ' := by
      rintro rfl
      exact absurd hc (by decide)
    rw [lowerFrom, ih fun x hx => h x (List.mem_cons_of_mem c hx)]
    simp [hsigma, lowerChar_of_ascii hc]

theorem lower_eq_self {cs : List Char} (h : ∀ c ∈ cs, c.toNat < 128 ∧ c.toLower = c) :
    lower cs = cs := by
  rw [lower, lowerFrom_of_ascii fun c hc => (h c hc).1]
  calc cs.map Char.toLower = cs.map id := List.map_congr_left fun c hc => (h c hc).2
    _ = cs := List.map_id cs

theorem toLower_of_not_ascii {c : Char} (h : 128 ≤ c.toNat) : c.toLower = c := by
  have hbeyond : ¬ (c.val ≥ 'A'.val ∧ c.val ≤ 'Z'.val) := by
    rintro ⟨-, hle⟩
    have hz : c.toNat ≤ 'Z'.toNat := UInt32.le_iff_toNat_le.mp hle
    have : 'Z'.toNat = 90 := by decide
    omega
  exact dif_neg hbeyond

theorem Run.bounds_of_has {r : Run} {n : Nat} (h : r.has n = true) :
    r.first ≤ n ∧ n ≤ r.last := by
  simp only [Run.has, Bool.and_eq_true, decide_eq_true_eq] at h
  exact h.1

/-- Of the small letters of capitals outside ASCII, the k of the Kelvin sign alone is in it. -/
theorem small_of_mem_runs {r : Run} (h : r ∈ runs) :
    r.last < 128 ∨ ∀ i < r.last - r.first + 1,
      128 ≤ (Char.ofNat (r.small + i)).toNat ∨ Char.ofNat (r.small + i) = 'k' := by
  have hall : ∀ r ∈ runs, r.last < 128 ∨ ∀ i < r.last - r.first + 1,
      128 ≤ (Char.ofNat (r.small + i)).toNat ∨ Char.ofNat (r.small + i) = 'k' := by
    decide +kernel
  exact hall r h

/-- A character outside ASCII stays outside, in part at least, unless it becomes a k. -/
theorem exists_mem_lowerChar {c : Char} (h : 128 ≤ c.toNat) :
    ∃ x ∈ lowerChar c, 128 ≤ x.toNat ∨ x = 'k' := by
  unfold lowerChar
  split
  · exact ⟨'\u0307', by simp, Or.inl (by decide)⟩
  · split
    · rename_i r hfind
      refine ⟨_, List.mem_singleton_self _, ?_⟩
      have hhas : r.has c.toNat = true := by simpa using List.find?_some hfind
      have hrange := Run.bounds_of_has hhas
      rcases small_of_mem_runs (List.mem_of_find?_eq_some hfind) with hin | hout
      · omega
      · exact hout (c.toNat - r.first) (by omega)
    · exact ⟨c, List.mem_singleton_self c, Or.inl h⟩

theorem exists_mem_lowerFrom {cs : List Char} (h : ¬ Ascii cs) (before : List Char) :
    ∃ x ∈ lowerFrom before cs, 128 ≤ x.toNat ∨ x = 'k' := by
  induction cs generalizing before with
  | nil => exact absurd (fun _ hc => absurd hc (List.not_mem_nil)) h
  | cons c cs ih =>
    by_cases hc : c.toNat < 128
    · have hrest : ¬ Ascii cs := fun hcs => h (List.forall_mem_cons.mpr ⟨hc, hcs⟩)
      obtain ⟨x, hx, hforeign⟩ := ih hrest (c :: before)
      exact ⟨x, List.mem_append_right _ hx, hforeign⟩
    · rw [lowerFrom]
      split
      · -- a sigma at the end of a word
        exact ⟨'ς', by simp, Or.inl (by decide)⟩
      · obtain ⟨x, hx, hforeign⟩ := exists_mem_lowerChar (Nat.le_of_not_lt hc)
        exact ⟨x, List.mem_append_left _ hx, hforeign⟩

theorem ascii_of_map_toLower {cs : List Char} (h : Ascii (cs.map Char.toLower)) : Ascii cs := by
  intro c hc
  rcases Nat.lt_or_ge c.toNat 128 with hin | hout
  · exact hin
  · have hmem : c.toLower ∈ cs.map Char.toLower := List.mem_map_of_mem hc
    rw [toLower_of_not_ascii hout] at hmem
    exact h c hmem

/-- The small form is a word without a k exactly if the text is an ASCII spelling of the word. -/
theorem lower_eq_iff {cs word : List Char} (hword : Ascii word) (hk : 'k' ∉ word) :
    lower cs = word ↔ cs.map Char.toLower = word := by
  constructor
  · rintro rfl
    rcases Decidable.em (Ascii cs) with hcs | hcs
    · exact (lowerFrom_of_ascii hcs []).symm
    · obtain ⟨x, hx, hout | rfl⟩ := exists_mem_lowerFrom hcs []
      · exact absurd (hword x hx) (Nat.not_lt.mpr hout)
      · exact absurd hx hk
  · rintro rfl
    exact lowerFrom_of_ascii (ascii_of_map_toLower hword) []

end SafetyConfig.Lowercase
