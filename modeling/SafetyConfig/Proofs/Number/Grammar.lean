import Mathlib.Data.List.DropRight
import Mathlib.Data.List.Forall2
import SafetyConfig.Number.Digits
import SafetyConfig.Number.Numeral
import SafetyConfig.Proofs.Sequencing

/-!
# What a numeral is

The forms of a numeral, said without the reader: digits of any script, single bars between them
in a numeral but not in a code, and a sign in front. A text is read as an integer exactly when it
has the form and the integer is what its digits stand for.
-/

namespace SafetyConfig

/-! Decimal digits are apart from all other characters of a numeral. -/

namespace Digit

theorem exists_zero_of_value? {c : Char} {d : Nat} (h : value? c = some d) :
    ∃ z ∈ zeros, z ≤ c.toNat ∧ c.toNat < z + 10 := by
  obtain ⟨z, hz, -⟩ := Option.map_eq_some_iff.mp h
  have hrange := List.find?_some hz
  simp only [Bool.and_eq_true, decide_eq_true_eq] at hrange
  exact ⟨z, List.mem_of_find?_eq_some hz, hrange⟩

theorem ne_of_value? {c : Char} {d : Nat} (h : value? c = some d) :
    c ≠ '-' ∧ c ≠ '+' ∧ c ≠ '_' := by
  have hsigns : value? '-' = none ∧ value? '+' = none ∧ value? '_' = none := by decide
  refine ⟨?_, ?_, ?_⟩
  · rintro rfl
    rw [hsigns.1] at h
    cases h
  · rintro rfl
    rw [hsigns.2.1] at h
    cases h
  · rintro rfl
    rw [hsigns.2.2] at h
    cases h

theorem value?_isSome_of_isDecimal {c : Char} (h : isDecimal c = true) :
    ∃ d, value? c = some d :=
  Option.isSome_iff_exists.mp h

/-- No digit sign is a blank, in whatever script. -/
theorem isBlank_of_isDigitSign {c : Char} (h : isDigitSign c = true) :
    Blank.isBlank c = false := by
  have hzeros : ∀ z ∈ zeros, ∀ s ∈ Blank.spans, z + 10 ≤ s.first ∨ s.last < z := by
    decide +kernel
  have hsigns : ∀ g ∈ signSpans, ∀ s ∈ Blank.spans, g.last < s.first ∨ s.last < g.first := by
    decide +kernel
  rw [Bool.eq_false_iff]
  intro hblank
  obtain ⟨s, hs, hfirst, hlast⟩ := Span.anyHas_iff.mp hblank
  rcases Bool.or_eq_true_iff.mp h with hdecimal | hsign
  · obtain ⟨d, hd⟩ := value?_isSome_of_isDecimal hdecimal
    obtain ⟨z, hz, hrange⟩ := exists_zero_of_value? hd
    have := hzeros z hz s hs
    omega
  · obtain ⟨g, hg, hrange⟩ := Span.anyHas_iff.mp hsign
    have := hsigns g hg s hs
    omega

end Digit

theorem Blank.trim_trim (cs : List Char) : trim (trim cs) = trim cs := by
  have hhead : (trim cs).dropWhile isBlank = trim cs := by
    obtain ⟨cut, hcut⟩ := List.rdropWhile_prefix isBlank (cs.dropWhile isBlank)
    change trim cs ++ cut = cs.dropWhile isBlank at hcut
    cases htrim : trim cs with
    | nil => rfl
    | cons c rest =>
      have hfirst := List.head?_dropWhile_not isBlank cs
      rw [← hcut, htrim] at hfirst
      exact List.dropWhile_cons_of_neg (by simpa using hfirst)
  have hlast : (trim cs).reverse.dropWhile isBlank = (trim cs).reverse := by
    rw [trim, List.reverse_reverse, List.dropWhile_idempotent]
  rw [trim, hhead, hlast, List.reverse_reverse]

namespace Numeral

/-! The forms. -/

/-- Characters that are the digits of a number, one for one. -/
def Plain (cs : List Char) (ds : List Nat) : Prop :=
  List.Forall₂ (fun c d => Digit.value? c = some d) cs ds

/-- A digit, and then any number of digits, each of which may have a bar in front of it. -/
inductive Barred : List Char → List Nat → Prop
  | single {c : Char} {d : Nat} (digit : Digit.value? c = some d) : Barred [c] [d]
  | next {c : Char} {d : Nat} {cs : List Char} {ds : List Nat} (digit : Digit.value? c = some d)
      (rest : Barred cs ds) : Barred (c :: cs) (d :: ds)
  | bar {c : Char} {d : Nat} {cs : List Char} {ds : List Nat} (digit : Digit.value? c = some d)
      (rest : Barred cs ds) : Barred (c :: '_' :: cs) (d :: ds)

/-- There are digits, but not too many, and they stand for `n`. -/
def StandsFor (ds : List Nat) (n : Nat) : Prop :=
  1 ≤ ds.length ∧ ds.length ≤ 4300 ∧ Digits.toNat 10 ds = n

/-- Digits with bars between them, and any sign in front. -/
inductive Signed : List Char → Int → Prop
  | bare {cs : List Char} {ds : List Nat} {n : Nat} (form : Barred cs ds) (value : StandsFor ds n) :
      Signed cs n
  | plus {cs : List Char} {ds : List Nat} {n : Nat} (form : Barred cs ds) (value : StandsFor ds n) :
      Signed ('+' :: cs) n
  | minus {cs : List Char} {ds : List Nat} {n : Nat} (form : Barred cs ds)
      (value : StandsFor ds n) : Signed ('-' :: cs) (-n)

/-- Digits alone, and at most one minus sign in front. -/
inductive Code : List Char → Int → Prop
  | bare {cs : List Char} {ds : List Nat} {n : Nat} (form : Plain cs ds) (value : StandsFor ds n) :
      Code cs n
  | minus {cs : List Char} {ds : List Nat} {n : Nat} (form : Plain cs ds) (value : StandsFor ds n) :
      Code ('-' :: cs) (-n)

/-! How they go together. -/

namespace Barred

variable {cs : List Char} {ds : List Nat}

theorem ne_nil (h : Barred cs ds) : ds ≠ [] := by
  cases h <;> simp

/-- A numeral that begins with a digit has no sign. -/
theorem exists_head (h : Barred cs ds) : ∃ c rest, cs = c :: rest ∧ c ≠ '-' ∧ c ≠ '+' := by
  cases h with
  | single digit => exact ⟨_, _, rfl, (Digit.ne_of_value? digit).1, (Digit.ne_of_value? digit).2.1⟩
  | next digit _ => exact ⟨_, _, rfl, (Digit.ne_of_value? digit).1, (Digit.ne_of_value? digit).2.1⟩
  | bar digit _ => exact ⟨_, _, rfl, (Digit.ne_of_value? digit).1, (Digit.ne_of_value? digit).2.1⟩

theorem plain_of_not_mem (h : Barred cs ds) (hbar : '_' ∉ cs) : Plain cs ds := by
  induction h with
  | single digit => exact .cons digit .nil
  | next digit _ ih => exact .cons digit (ih fun hmem => hbar (List.mem_cons_of_mem _ hmem))
  | bar digit _ _ => exact absurd (by simp) hbar

end Barred

theorem Plain.barred {cs : List Char} {ds : List Nat} (h : Plain cs ds) (hne : ds ≠ []) :
    Barred cs ds := by
  induction h with
  | nil => exact absurd rfl hne
  | @cons c d cs ds digit rest ih =>
    cases rest with
    | nil => exact .single digit
    | cons _ _ => exact .next digit (ih (by simp))

theorem Plain.isDigitSign {cs : List Char} {ds : List Nat} (h : Plain cs ds) :
    ∀ c ∈ cs, Digit.isDigitSign c = true := by
  induction h with
  | nil => exact List.forall_mem_nil _
  | cons digit _ ih =>
    have hdecimal := Option.isSome_of_eq_some digit
    exact List.forall_mem_cons.mpr ⟨Digit.isDigitSign_of_isDecimal hdecimal, ih⟩

theorem StandsFor.ne_nil {ds : List Nat} {n : Nat} (h : StandsFor ds n) : ds ≠ [] := by
  rintro rfl
  exact absurd h.1 (by decide)

/-! What the reader makes of digits. -/

/-- The run of digits `run` goes on with the digits `ds`. -/
def Run.append (run : Run) (ds : List Nat) : Run :=
  ⟨ds.foldl (fun n d => n * 10 + d) run.value, run.digits + ds.length, false⟩

theorem Run.append_cons (run : Run) (d : Nat) (ds : List Nat) :
    run.append (d :: ds) = Run.append ⟨run.value * 10 + d, run.digits + 1, false⟩ ds := by
  simp only [append, List.foldl_cons, List.length_cons, Run.mk.injEq, true_and, and_true]
  omega

theorem readDigits_of_barred {cs : List Char} {ds : List Nat} (h : Barred cs ds) (run : Run) :
    readDigits run cs = some (run.append ds, []) := by
  induction h generalizing run with
  | @single c d digit =>
    have hbar := (Digit.ne_of_value? digit).2.2
    rw [readDigits, if_neg hbar, digit]
    rfl
  | @next c d cs ds digit _ ih =>
    have hbar := (Digit.ne_of_value? digit).2.2
    rw [readDigits, if_neg hbar, digit, Run.append_cons]
    exact ih _
  | @bar c d cs ds digit _ ih =>
    have hbar := (Digit.ne_of_value? digit).2.2
    rw [readDigits, if_neg hbar, digit, Run.append_cons]
    simp only [readDigits, if_true]
    exact ih _

/-- Three ways to go on to the end: with nothing, with digits, or with a bar and digits. -/
theorem barred_of_readDigits {run last : Run} {cs : List Char}
    (h : readDigits run cs = some (last, [])) (hlast : last.bar = false) :
    cs = [] ∧ last = run ∨
    (∃ ds, Barred cs ds ∧ last = run.append ds) ∨
    run.bar = false ∧ run.digits ≠ 0 ∧
      ∃ rest ds, cs = '_' :: rest ∧ Barred rest ds ∧ last = run.append ds := by
  induction cs generalizing run with
  | nil =>
    cases h
    exact Or.inl ⟨rfl, rfl⟩
  | cons c cs ih =>
    rw [readDigits] at h
    split at h
    · rename_i hc
      subst hc
      split at h
      · cases h
      · rename_i hfree
        simp only [Bool.or_eq_true, beq_iff_eq, not_or, Bool.not_eq_true] at hfree
        -- a bar is pending now, so the text neither ends here nor goes on with another bar
        rcases ih h with ⟨-, rfl⟩ | ⟨ds, hds, rfl⟩ | ⟨hpending, -⟩
        · cases hlast
        · exact Or.inr (Or.inr ⟨hfree.1, hfree.2, cs, ds, rfl, hds, rfl⟩)
        · cases hpending
    · split at h
      · rename_i d digit
        refine Or.inr (Or.inl ?_)
        rcases ih h with ⟨rfl, rfl⟩ | ⟨ds, hds, rfl⟩ | ⟨-, -, rest, ds, rfl, hds, rfl⟩
        · exact ⟨[d], .single digit, rfl⟩
        · exact ⟨d :: ds, .next digit hds, (Run.append_cons run d ds).symm⟩
        · exact ⟨d :: ds, .bar digit hds, (Run.append_cons run d ds).symm⟩
      · cases h

theorem readUnsigned_eq_ok_iff_run {cs : List Char} {n : Nat} :
    readUnsigned cs = .ok n ↔ ∃ run, readDigits ⟨0, 0, false⟩ cs = some (run, []) ∧
      run.bar = false ∧ 1 ≤ run.digits ∧ run.digits ≤ maxDigits ∧ run.value = n := by
  rw [readUnsigned]
  cases hread : readDigits ⟨0, 0, false⟩ cs with
  | none => simp
  | some result =>
    obtain ⟨run, rest⟩ := result
    simp only [Option.some.injEq, Prod.mk.injEq]
    split
    · rename_i hbad
      simp only [Bool.or_eq_true, beq_iff_eq] at hbad
      constructor
      · intro h
        cases h
      · rintro ⟨run', ⟨rfl, -⟩, hbar, hpos, -⟩
        rcases hbad with hpending | hnone
        · rw [hbar] at hpending
          cases hpending
        · omega
    · rename_i hgood
      simp only [Bool.or_eq_true, beq_iff_eq, not_or, Bool.not_eq_true] at hgood
      have hpos : 1 ≤ run.digits := Nat.one_le_iff_ne_zero.mpr hgood.2
      split
      · rename_i hlong
        constructor
        · intro h
          cases h
        · rintro ⟨run', ⟨rfl, -⟩, -, -, hshort, -⟩
          omega
      · rename_i hshort
        cases rest with
        | nil =>
          constructor
          · intro h
            exact ⟨run, ⟨rfl, rfl⟩, hgood.1, hpos, Nat.not_lt.mp hshort, Except.ok.inj h⟩
          · rintro ⟨run', ⟨rfl, -⟩, -, -, -, rfl⟩
            rfl
        | cons c rest => simp

theorem readUnsigned_eq_ok_iff {cs : List Char} {n : Nat} :
    readUnsigned cs = .ok n ↔ ∃ ds, Barred cs ds ∧ StandsFor ds n := by
  rw [readUnsigned_eq_ok_iff_run]
  constructor
  · rintro ⟨run, hread, hbar, hpos, hlong, rfl⟩
    rcases barred_of_readDigits hread hbar with ⟨-, rfl⟩ | ⟨ds, hds, rfl⟩ | ⟨-, hne, -⟩
    · cases hpos
    · simp only [Run.append, Nat.zero_add] at hpos hlong
      exact ⟨ds, hds, hpos, hlong, rfl⟩
    · exact absurd rfl hne
  · rintro ⟨ds, hds, hpos, hlong, rfl⟩
    refine ⟨_, readDigits_of_barred hds _, rfl, ?_, ?_, rfl⟩
    · simpa only [Run.append, Nat.zero_add] using hpos
    · simpa only [Run.append, Nat.zero_add] using (show ds.length ≤ maxDigits from hlong)

/-- A sign is put to the number as an integer. -/
theorem map_readUnsigned_eq_ok_iff {cs : List Char} {f : Int → Int} {n : Int} :
    (readUnsigned cs >>= fun m => pure (m : Int)).map f = .ok n ↔
      ∃ m : Nat, readUnsigned cs = .ok m ∧ f m = n := by
  constructor
  · intro h
    obtain ⟨_, hm, rfl⟩ := map_eq_ok_iff.mp h
    obtain ⟨m, hread, hcast⟩ := bind_eq_ok_iff.mp hm
    obtain rfl := pure_eq_ok_iff.mp hcast
    exact ⟨m, hread, rfl⟩
  · rintro ⟨m, hread, rfl⟩
    exact map_eq_ok_iff.mpr ⟨m, bind_eq_ok_iff.mpr ⟨m, hread, rfl⟩, rfl⟩

theorem readSigned_eq_ok_iff {cs : List Char} {n : Int} : readSigned cs = .ok n ↔ Signed cs n := by
  constructor
  · intro h
    unfold readSigned at h
    split at h
    · obtain ⟨m, hm, rfl⟩ := map_readUnsigned_eq_ok_iff.mp h
      obtain ⟨ds, hds, hvalue⟩ := readUnsigned_eq_ok_iff.mp hm
      exact .minus hds hvalue
    · obtain ⟨m, hm, rfl⟩ := map_readUnsigned_eq_ok_iff.mp h
      obtain ⟨ds, hds, hvalue⟩ := readUnsigned_eq_ok_iff.mp hm
      exact .plus hds hvalue
    · obtain ⟨m, hm, rfl⟩ := map_readUnsigned_eq_ok_iff.mp h
      obtain ⟨ds, hds, hvalue⟩ := readUnsigned_eq_ok_iff.mp hm
      exact .bare hds hvalue
  · intro h
    cases h with
    | bare form value =>
      have hread := readUnsigned_eq_ok_iff.mpr ⟨_, form, value⟩
      obtain ⟨c, rest, rfl, hminus, hplus⟩ := form.exists_head
      unfold readSigned
      split
      · rename_i heq
        exact absurd (List.cons.inj heq).1 hminus
      · rename_i heq
        exact absurd (List.cons.inj heq).1 hplus
      · exact map_readUnsigned_eq_ok_iff.mpr ⟨_, hread, rfl⟩
    | plus form value =>
      exact map_readUnsigned_eq_ok_iff.mpr ⟨_, readUnsigned_eq_ok_iff.mpr ⟨_, form, value⟩, rfl⟩
    | minus form value =>
      exact map_readUnsigned_eq_ok_iff.mpr ⟨_, readUnsigned_eq_ok_iff.mpr ⟨_, form, value⟩, rfl⟩

/-- Blanks around a numeral do not matter, however often they are taken off. -/
theorem read_trim_eq_ok_iff {cs : List Char} {n : Int} :
    read (Blank.trim cs) = .ok n ↔ Signed (Blank.trim cs) n := by
  rw [read, Blank.trim_trim, readSigned_eq_ok_iff]

/-! A code is a numeral without bars and without a plus sign. -/

theorem Code.signed {cs : List Char} {n : Int} (h : Code cs n) : Signed cs n := by
  cases h with
  | bare form value => exact .bare (form.barred value.ne_nil) value
  | minus form value => exact .minus (form.barred value.ne_nil) value

theorem Signed.code {cs : List Char} {n : Int} (h : Signed cs n) (hplus : '+' ∉ cs)
    (hbar : '_' ∉ cs) : Code cs n := by
  cases h with
  | bare form value => exact .bare (form.plain_of_not_mem hbar) value
  | plus form value => exact absurd List.mem_cons_self hplus
  | minus form value =>
    exact .minus (form.plain_of_not_mem fun hmem => hbar (List.mem_cons_of_mem _ hmem)) value

end Numeral

end SafetyConfig
