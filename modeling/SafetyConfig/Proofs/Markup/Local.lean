import Mathlib.Data.List.TakeDrop
import Mathlib.Data.List.TakeWhile
import SafetyConfig.Markup.Scan
import SafetyConfig.Proofs.Sequencing

/-!
# How far a reader looks

What a reader makes of a text is settled by the characters that it takes and the next one: behind
these the text may go on in any way. Every character that is taken allows for one step of fuel.
-/

namespace SafetyConfig.Markup

/-- Outcomes that leave a text to read on from. -/
class Leaves (β : Type) where
  rest : β → List Char
  withRest : β → List Char → β
  withRest_rest : ∀ b, withRest b (rest b) = b

open Leaves

instance : Leaves (List Char) where
  rest cs := cs
  withRest _ cs := cs
  withRest_rest _ := rfl

instance {α : Type} : Leaves (α × List Char) where
  rest b := b.2
  withRest b cs := (b.1, cs)
  withRest_rest _ := rfl

abbrev Reader (β : Type) := List Char → Except MarkupError β

section Rules

variable {α β γ : Type} [Leaves β] [Leaves γ] {p q spare : Nat} {run : Reader β}
  {read other : Nat → Reader β} {cs rest' : List Char} {b : β}

/-- Reading takes a part of a text, and comes to the same in front of every text that goes on with
the same character. Fuel for each character taken is enough, less the spare. -/
def Takes (spare : Nat) (read : Nat → Reader β) (cs : List Char) (b : β) : Prop :=
  ∃ used, cs = used ++ rest b ∧ spare ≤ used.length ∧
    ∀ fuel, used.length ≤ fuel + spare → ∀ tail, tail.head? = (rest b).head? →
      read fuel (used ++ tail) = .ok (withRest b tail)

/-- A reader that takes a part of every text that it reads; `run` is the reader at one fuel. -/
def Local (spare : Nat) (run : Reader β) (read : Nat → Reader β) : Prop :=
  ∀ cs b, run cs = .ok b → Takes spare read cs b

theorem head?_append_congr {front xs ys : List Char} (h : xs.head? = ys.head?) :
    (front ++ xs).head? = (front ++ ys).head? := by
  cases front with
  | nil => exact h
  | cons c cs => rfl

theorem Takes.nothing (h : ∀ fuel tail, tail.head? = (rest b).head? →
    read fuel tail = .ok (withRest b tail)) : Takes 0 read (rest b) b :=
  ⟨[], rfl, Nat.le_refl 0, fun fuel _ => h fuel⟩

/-- Characters in front that only lead to what is read behind them. -/
theorem Takes.behind (front : List Char) (h : Takes p other rest' b)
    (hspare : spare ≤ front.length + p)
    (hread : ∀ fuel tail, tail.head? = rest'.head? → read fuel (front ++ tail) = other fuel tail) :
    Takes spare read (front ++ rest') b := by
  obtain ⟨used, rfl, hlength, hused⟩ := h
  refine ⟨front ++ used, (List.append_assoc ..).symm, ?_, ?_⟩
  · rw [List.length_append]
    omega
  · intro fuel hfuel tail htail
    rw [List.length_append] at hfuel
    rw [List.append_assoc, hread fuel _ (head?_append_congr htail)]
    exact hused fuel (by omega) tail htail

/-- Characters that are all that is looked at. -/
theorem Takes.only (front : List Char) (hspare : spare ≤ front.length)
    (hread : ∀ fuel tail, read fuel (front ++ tail) = .ok (withRest b tail)) :
    Takes spare read (front ++ rest b) b :=
  ⟨front, rfl, hspare, fun fuel _ tail _ => hread fuel tail⟩

theorem Takes.congr (h : Takes p other cs b) (hspare : spare ≤ p)
    (hread : ∀ fuel tail, tail.head? = cs.head? → read fuel tail = other fuel tail) :
    Takes spare read cs b :=
  h.behind [] (by simpa using hspare) hread

theorem Takes.bind {c : γ} {K : Nat → β → Except MarkupError γ} (hread : Takes p read cs b)
    (hk : Takes q (fun fuel r => K fuel (withRest b r)) (rest b) c) (hspare : spare ≤ p + q) :
    Takes spare (fun fuel cs => read fuel cs >>= K fuel) cs c := by
  obtain ⟨used, rfl, hlength, hused⟩ := hread
  obtain ⟨used', hrest, hlength', hused'⟩ := hk
  refine ⟨used ++ used', ?_, ?_, ?_⟩
  · rw [hrest, List.append_assoc]
  · rw [List.length_append]
    omega
  · intro fuel hfuel tail htail
    rw [List.length_append] at hfuel
    have hhead : (used' ++ tail).head? = (rest b).head? := by
      rw [hrest]
      exact head?_append_congr htail
    have hfirst := hused fuel (by omega) (used' ++ tail) hhead
    simp only [List.append_assoc, hfirst, ok_bind]
    exact hused' fuel (by omega) tail htail

namespace Local

theorem error {e : MarkupError} : Local spare (fun _ => .error e) read :=
  nofun

theorem done (a : α) : Local 0 (fun r => pure (a, r)) fun _ r => pure (a, r) := by
  rintro cs _ ⟨⟩
  exact .nothing (b := (a, cs)) fun _ _ _ => rfl

theorem done_rest : Local 0 (fun r => (pure r : Except MarkupError (List Char)))
    fun _ r => pure r := by
  rintro cs _ ⟨⟩
  exact .nothing (b := cs) fun _ _ _ => rfl

theorem of_eq {run' : Reader β} (h : Local p run' other) (hrun : ∀ cs, run cs = run' cs)
    (hread : ∀ fuel cs, read fuel cs = other fuel cs) : Local p run read := by
  obtain rfl : run = run' := funext hrun
  obtain rfl : read = other := funext fun _ => funext (hread _)
  exact h

theorem ite {run' : Reader β} {c : Prop} [Decidable c] (hpos : c → Local p run read)
    (hneg : ¬ c → Local p run' other) :
    Local p (fun r => if c then run r else run' r)
      fun fuel r => if c then read fuel r else other fuel r := by
  by_cases hc : c
  · simp only [if_pos hc]
    exact hpos hc
  · simp only [if_neg hc]
    exact hneg hc

/-- A check that does not look at the text. -/
theorem check {δ : Type} {x : Except MarkupError δ} {k : δ → Reader β} {K : Nat → δ → Reader β}
    (h : ∀ a, Local p (k a) fun fuel => K fuel a) :
    Local p (fun r => x >>= fun a => k a r) fun fuel r => x >>= fun a => K fuel a r := by
  cases x with
  | error e => exact error
  | ok a => exact h a

/-- A condition on the next character alone. -/
theorem done_if {test : List Char → Bool} {a : α} {e : MarkupError}
    (htest : ∀ {xs ys : List Char}, xs.head? = ys.head? → test xs = test ys) :
    Local 0 (fun r => if test r then pure (a, r) else .error e)
      fun _ r => if test r then pure (a, r) else .error e := by
  intro cs b h
  cases hcs : test cs with
  | false => simp [hcs] at h
  | true =>
    simp only [hcs, if_true] at h
    cases h
    exact .nothing (b := (a, cs)) fun _ tail htail => if_pos ((htest htail).trans hcs)

/-- A step that takes a character and hands the fuel on. -/
theorem of_step (h : Local 1 run fun fuel => read (fuel + 1)) : Local 0 run read := by
  intro cs b hb
  obtain ⟨used, hcs, hlength, hused⟩ := h cs b hb
  refine ⟨used, hcs, Nat.zero_le _, fun fuel hfuel tail htail => ?_⟩
  obtain ⟨fuel, rfl⟩ : ∃ n, fuel = n + 1 := ⟨fuel - 1, by omega⟩
  exact hused fuel hfuel tail htail

theorem of_step_eq {run' : Reader β} (h : Local 1 run' other) (hrun : ∀ cs, run cs = run' cs)
    (hread : ∀ fuel cs, read (fuel + 1) cs = other fuel cs) : Local 0 run read :=
  of_step (h.of_eq hrun hread)

theorem succ (h : Local p run read) : Local p run fun fuel => read (fuel + 1) := by
  intro cs b hb
  obtain ⟨used, hcs, hlength, hused⟩ := h cs b hb
  exact ⟨used, hcs, hlength, fun fuel hfuel => hused (fuel + 1) (by omega)⟩

theorem mono (h : Local p run read) (hspare : spare ≤ p) : Local spare run read :=
  fun cs b hb => (h cs b hb).congr hspare fun _ _ _ => rfl

theorem bind {f : Reader β} {F : Nat → Reader β} {k : β → Except MarkupError γ}
    {K : Nat → β → Except MarkupError γ} (hf : Local p f F)
    (hk : ∀ b, Local q (fun r => k (withRest b r)) (fun fuel r => K fuel (withRest b r))) :
    Local (p + q) (fun cs => f cs >>= k) (fun fuel cs => F fuel cs >>= K fuel) := by
  intro cs c h
  obtain ⟨b, hb, hc⟩ := bind_eq_ok_iff.mp h
  rw [← withRest_rest b] at hc
  exact (hf cs b hb).bind (hk b (rest b) c hc) (Nat.le_refl _)

/-- Where nothing has to be spared, no account is kept of what is taken first. -/
theorem bind_zero {f : Reader β} {F : Nat → Reader β} {k : β → Except MarkupError γ}
    {K : Nat → β → Except MarkupError γ} (hf : Local p f F)
    (hk : ∀ b, Local 0 (fun r => k (withRest b r)) (fun fuel r => K fuel (withRest b r))) :
    Local 0 (fun cs => f cs >>= k) (fun fuel cs => F fuel cs >>= K fuel) :=
  (hf.bind hk).mono (Nat.zero_le _)

end Local

end Rules

/-! Characters of a class. -/

section Spans

variable {p : Char → Bool} {cs front rest tail : List Char}

theorem not_of_head?_dropWhile {c : Char} (h : (cs.dropWhile p).head? = some c) : p c = false := by
  have hfirst := List.head?_dropWhile_not p cs
  rw [h] at hfirst
  exact hfirst

theorem dropWhile_of_head? (h : tail.head? = (cs.dropWhile p).head?) : tail.dropWhile p = tail := by
  cases tail with
  | nil => rfl
  | cons c tail => exact List.dropWhile_cons_of_neg (by simp [not_of_head?_dropWhile h.symm])

theorem takeWhile_of_head? (h : tail.head? = (cs.dropWhile p).head?) : tail.takeWhile p = [] := by
  cases tail with
  | nil => rfl
  | cons c tail => exact List.takeWhile_cons_of_neg (by simp [not_of_head?_dropWhile h.symm])

theorem mem_of_span (h : cs.span p = (front, rest)) : ∀ c ∈ front, p c = true := by
  rw [List.span_eq_takeWhile_dropWhile] at h
  cases h
  exact fun c hc => List.mem_takeWhile_imp hc

/-- A run of characters ends where it did before any text that goes on with the same character. -/
theorem span_append (h : cs.span p = (front, rest)) (htail : tail.head? = rest.head?) :
    (front ++ tail).span p = (front, tail) := by
  have hfront := mem_of_span h
  rw [List.span_eq_takeWhile_dropWhile] at h
  cases h
  rw [List.span_eq_takeWhile_dropWhile, List.takeWhile_append_of_pos hfront,
    List.dropWhile_append_of_pos hfront, takeWhile_of_head? htail, dropWhile_of_head? htail,
    List.append_nil]

theorem append_of_span (h : cs.span p = (front, rest)) : cs = front ++ rest := by
  rw [List.span_eq_takeWhile_dropWhile] at h
  cases h
  exact List.takeWhile_append_dropWhile.symm

end Spans

section Space

variable {β : Type} [Leaves β] {p spare : Nat} {run : Reader β} {read : Nat → Reader β}
  {cs tail : List Char}

theorem skipSpace_skipSpace (cs : List Char) : skipSpace (skipSpace cs) = skipSpace cs :=
  dropWhile_of_head? rfl

theorem skipSpace_cons {c : Char} (h : isSpace c = false) (cs : List Char) :
    skipSpace (c :: cs) = c :: cs :=
  List.dropWhile_cons_of_neg (by simp [h])

theorem exists_space (cs : List Char) : ∃ space, cs = space ++ skipSpace cs ∧
    ∀ tail, tail.head? = (skipSpace cs).head? → skipSpace (space ++ tail) = tail := by
  refine ⟨cs.takeWhile isSpace, List.takeWhile_append_dropWhile.symm, fun tail htail => ?_⟩
  have hspace : ∀ c ∈ cs.takeWhile isSpace, isSpace c = true :=
    fun c hc => List.mem_takeWhile_imp hc
  exact (List.dropWhile_append_of_pos hspace).trans (dropWhile_of_head? htail)

/-- Blanks that are skipped anyway are taken with what is read behind them. -/
theorem Takes.of_skipSpace {b : β} (hread : ∀ fuel cs, read fuel (skipSpace cs) = read fuel cs)
    (h : Takes spare read (skipSpace cs) b) : Takes spare read cs b := by
  obtain ⟨space, hcs, hspace⟩ := exists_space cs
  rw [hcs]
  refine h.behind space (Nat.le_add_left _ _) fun fuel tail htail => ?_
  rw [← hread, hspace tail htail]

/-- A reader that skips blanks before it looks at the first character. -/
theorem Local.of_space (hrun : ∀ cs, run (skipSpace cs) = run cs)
    (hread : ∀ fuel cs, read fuel (skipSpace cs) = read fuel cs) (hnil : ∀ b, run [] ≠ .ok b)
    (h : ∀ c, isSpace c = false →
      Local p (fun r => run (c :: r)) fun fuel r => read fuel (c :: r)) :
    Local (p + 1) run read := by
  intro cs b hb
  refine .of_skipSpace hread ?_
  rw [← hrun] at hb
  cases hskip : skipSpace cs with
  | nil =>
    rw [hskip] at hb
    exact absurd hb (hnil b)
  | cons c r =>
    rw [hskip] at hb
    have hc : isSpace c = false := not_of_head?_dropWhile (congrArg List.head? hskip)
    exact (h c hc r b hb).behind [c] (by simp [Nat.add_comm]) fun _ _ _ => rfl

end Space

/-! What all parts of a document are made of. -/

section Scan

variable {letters : Alphabet} {cs rest : List Char}

theorem startsName_congr {xs ys : List Char} (h : xs.head? = ys.head?) :
    startsName letters xs = startsName letters ys := by
  cases xs <;> cases ys <;> simp_all [startsName]

theorem ne_nil_of_span {p : Char → Bool} {c : Char} (hc : p c = true) {front rest : List Char}
    (h : (c :: cs).span p = (front, rest)) : front ≠ [] := by
  rw [List.span_eq_takeWhile_dropWhile, List.takeWhile_cons_of_pos hc] at h
  cases h
  exact List.cons_ne_nil _ _

theorem local_readName (letters : Alphabet) :
    Local 1 (readName letters) fun _ => readName letters := by
  rintro cs ⟨name, rest⟩ h
  cases cs with
  | nil => cases h
  | cons c cs =>
    rw [readName] at h
    split at h
    · rename_i hstart
      have hspan := Except.ok.inj h
      have hcs := append_of_span hspan
      have hc : isNameStart letters c = true := hstart
      have hname : name ≠ [] := ne_nil_of_span (by simp [isNameChar, hc]) hspan
      refine ⟨name, hcs, List.length_pos_iff.mpr hname, fun _ _ tail htail => ?_⟩
      have hhead : (name ++ tail).head? = (c :: cs).head? := by
        rw [hcs]
        exact head?_append_congr htail
      simp only [readName, startsName_congr hhead, if_pos hstart, span_append hspan htail, withRest]
    · cases h

theorem local_readQualified (letters : Alphabet) :
    Local 1 (readQualified letters) fun _ => readQualified letters := by
  unfold readQualified
  refine .bind (local_readName letters) (q := 0) fun ⟨name, _⟩ cs b h => ?_
  dsimp only [withRest] at h ⊢
  split at h
  · have hlocal : Local 0 (fun r => readName letters r >>= fun x => pure (name ++ ':' :: x.1, x.2))
        fun _ r => readName letters r >>= fun x => pure (name ++ ':' :: x.1, x.2) :=
      .bind_zero (local_readName letters) fun ⟨loc, _⟩ => .done (name ++ ':' :: loc)
    exact (hlocal _ _ h).behind [':'] (by simp) fun _ _ _ => rfl
  · rename_i hcolon
    cases h
    refine Takes.nothing (b := (name, cs)) fun _ tail htail => ?_
    split
    · obtain ⟨r, hr⟩ := List.head?_eq_some_iff.mp htail.symm
      exact absurd hr (hcolon r)
    · rfl

theorem skipComment_cons {c : Char} (h : c = '-' → cs.head? ≠ some '-') :
    skipComment (c :: cs) = if c = faultMark then .error .malformed else skipComment cs := by
  rw [skipComment.eq_def]
  split <;> simp_all

theorem local_skipComment : Local 0 skipComment fun _ => skipComment := by
  intro cs b h
  induction cs with
  | nil => cases h
  | cons c cs ih =>
    by_cases hdashes : c = '-' → cs.head? ≠ some '-'
    · rw [skipComment_cons hdashes] at h
      split at h
      · cases h
      · rename_i hmark
        refine (ih h).behind [c] (Nat.zero_le _) fun _ tail htail => ?_
        rw [List.singleton_append, skipComment_cons (htail ▸ hdashes), if_neg hmark]
    · -- Two dashes: they end the comment, or nothing does.
      obtain ⟨rfl, hhead⟩ : c = '-' ∧ cs.head? = some '-' := by simpa using hdashes
      obtain ⟨cs, rfl⟩ := List.head?_eq_some_iff.mp hhead
      cases cs with
      | nil => cases h
      | cons c cs =>
        by_cases hc : c = '>'
        · subst hc
          cases h
          exact .only ['-', '-', '>'] (Nat.zero_le _) fun _ _ => rfl
        · simp [skipComment, hc] at h

theorem skipInstruction_cons {c : Char} (h : c = '?' → cs.head? ≠ some '>') :
    skipInstruction (c :: cs) =
      if c = faultMark then .error .malformed else skipInstruction cs := by
  rw [skipInstruction.eq_def]
  split <;> simp_all

theorem local_skipInstruction : Local 0 skipInstruction fun _ => skipInstruction := by
  intro cs b h
  induction cs with
  | nil => cases h
  | cons c cs ih =>
    by_cases hend : c = '?' → cs.head? ≠ some '>'
    · rw [skipInstruction_cons hend] at h
      split at h
      · cases h
      · rename_i hmark
        refine (ih h).behind [c] (Nat.zero_le _) fun _ tail htail => ?_
        rw [List.singleton_append, skipInstruction_cons (htail ▸ hend), if_neg hmark]
    · obtain ⟨rfl, hhead⟩ : c = '?' ∧ cs.head? = some '>' := by simpa using hend
      obtain ⟨cs, rfl⟩ := List.head?_eq_some_iff.mp hhead
      cases h
      exact .only ['?', '>'] (Nat.zero_le _) fun _ _ => rfl

theorem local_readInstruction (letters : Alphabet) :
    Local 1 (readInstruction letters) fun _ => readInstruction letters := by
  unfold readInstruction
  refine .bind (local_readName letters) (q := 0) fun ⟨target, _⟩ => ?_
  dsimp only [withRest]
  split
  · exact .error
  · intro cs b h
    dsimp only at h
    split at h
    · cases h
      exact .only ['?', '>'] (Nat.zero_le _) fun _ _ => rfl
    · rename_i c cs hend
      split at h
      · rename_i hspace
        refine (local_skipInstruction cs b h).behind [c] (Nat.zero_le _) fun _ tail _ => ?_
        have hc : c ≠ '?' := by
          rintro rfl
          cases hspace
        simp [hspace, hc]
      · cases h
    · cases h

theorem local_readUntilQuote (quote : Char) :
    Local 1 (readUntilQuote quote) fun _ => readUntilQuote quote := by
  rintro cs ⟨inside, rest⟩ h
  rw [readUntilQuote] at h
  split at h
  · rename_i c r hspan
    split at h
    · rename_i hc
      cases h
      obtain rfl : quote = c := hc.symm
      have hcs : cs = (inside ++ [quote]) ++ rest := by simp [append_of_span hspan]
      rw [hcs]
      refine .only (b := (inside, rest)) (inside ++ [quote]) (by simp) fun _ tail => ?_
      have hspan' := span_append hspan (show (quote :: tail).head? = _ from rfl)
      simp only [readUntilQuote, List.append_assoc, List.singleton_append, hspan', if_true,
        withRest]
    · cases h
  · cases h

end Scan

end SafetyConfig.Markup
