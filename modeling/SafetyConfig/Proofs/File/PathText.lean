import Mathlib.Data.List.Chain
import SafetyConfig.File.Store

/-!
# Paths as texts

The text of a path reads back as that path. Between its names stands one slash, and the
place that an absolute path leads to has no longer text than the path.
-/

namespace SafetyConfig

theorem mem_joinWith_iff {α : Type} {mark x : α} {parts : List (List α)} (hx : x ≠ mark) :
    x ∈ joinWith mark parts ↔ ∃ part ∈ parts, x ∈ part := by
  fun_induction joinWith mark parts with
  | case1 => simp
  | case2 => simp
  | case3 part parts _ ih => simp [hx, ih]

section Cut

variable {α : Type} [DecidableEq α] {mark : α}

theorem cutAt_of_not_mem {xs : List α} (h : mark ∉ xs) : cutAt mark xs = [xs] := by
  induction xs with
  | nil => rfl
  | cons x xs ih =>
    simp only [List.mem_cons, not_or] at h
    rw [cutAt, if_neg (Ne.symm h.1), ih h.2]

/-- What stands on the two sides of a mark is cut apart by itself. -/
theorem cutAt_append (xs ys : List α) :
    cutAt mark (xs ++ mark :: ys) = cutAt mark xs ++ cutAt mark ys := by
  induction xs with
  | nil => simp [cutAt]
  | cons x xs ih =>
    by_cases hx : x = mark
    · simp [cutAt, hx, ih]
    · obtain ⟨part, parts, hparts⟩ := List.exists_cons_of_ne_nil (cutAt_ne_nil mark xs)
      simp [cutAt, hx, ih, hparts]

theorem cutAt_append_cons {part : List α} (h : mark ∉ part) (xs : List α) :
    cutAt mark (part ++ mark :: xs) = part :: cutAt mark xs := by
  rw [cutAt_append, cutAt_of_not_mem h, List.singleton_append]

theorem cutAt_joinWith {parts : List (List α)} (hne : parts ≠ [])
    (h : ∀ part ∈ parts, mark ∉ part) : cutAt mark (joinWith mark parts) = parts := by
  induction parts with
  | nil => exact absurd rfl hne
  | cons part parts ih =>
    cases parts with
    | nil => exact cutAt_of_not_mem (h part (by simp))
    | cons next rest =>
      rw [joinWith, cutAt_append_cons (h part (by simp)),
        ih (by simp) fun p hp => h p (List.mem_cons_of_mem part hp)]
      simp

end Cut

theorem joinWith_append {α : Type} {mark : α} {front back : List (List α)} (hfront : front ≠ [])
    (hback : back ≠ []) :
    joinWith mark (front ++ back) = joinWith mark front ++ mark :: joinWith mark back := by
  induction front with
  | nil => exact absurd rfl hfront
  | cons part parts ih =>
    cases parts with
    | nil =>
      obtain ⟨next, rest, rfl⟩ := List.exists_cons_of_ne_nil hback
      rfl
    | cons next rest =>
      have hrest := ih (List.cons_ne_nil next rest)
      change part ++ mark :: joinWith mark (next :: rest ++ back) = _
      rw [hrest]
      exact (List.append_assoc part (mark :: joinWith mark (next :: rest)) _).symm

theorem utf8Length_append (xs ys : List Char) :
    utf8Length (xs ++ ys) = utf8Length xs + utf8Length ys := by
  induction xs with
  | nil => simp [utf8Length]
  | cons x xs ih =>
    rw [List.cons_append, utf8Length, utf8Length, ih]
    omega

namespace Path

/-- Names that say something and have no slash. -/
def Plain (names : List PathName) : Prop :=
  ∀ n ∈ names, counts n = true ∧ '/' ∉ n

variable {names : List PathName} {p : Path}

theorem plain_of_isFileName (h : ∀ n ∈ names, IsFileName n) : Plain names := by
  intro n hn
  obtain ⟨hcounts, -, hslash, -, -⟩ := h n hn
  exact ⟨hcounts, hslash⟩

theorem Plain.append {more : List PathName} (h : Plain names) (hmore : Plain more) :
    Plain (names ++ more) := by
  intro n hn
  rcases List.mem_append.mp hn with hn | hn
  exacts [h n hn, hmore n hn]

theorem plain_read (cs : List Char) : Plain (read cs).names := by
  intro n hn
  obtain ⟨hmem, hcounts⟩ := List.mem_filter.mp hn
  exact ⟨hcounts, not_mem_of_mem_cutAt hmem⟩

theorem plain_ofString (s : String) : Plain (ofString s).names :=
  plain_read s.toList

theorem Plain.ne_nil {n : PathName} (h : Plain names) (hn : n ∈ names) : n ≠ [] := by
  rintro rfl
  simpa [counts] using (h [] hn).1

theorem Plain.head?_joinWith (h : Plain names) : (joinWith '/' names).head? ≠ some '/' := by
  cases names with
  | nil => simp [joinWith]
  | cons n ns =>
    obtain ⟨c, cs, rfl⟩ := List.exists_cons_of_ne_nil (h.ne_nil List.mem_cons_self)
    have hslash : c ≠ '/' := by
      rintro rfl
      exact (h _ List.mem_cons_self).2 List.mem_cons_self
    cases ns <;> simpa [joinWith] using hslash

theorem Plain.filter_counts (h : Plain names) : names.filter counts = names :=
  List.filter_eq_self.mpr fun n hn => (h n hn).1

theorem Plain.cutAt_joinWith (h : Plain names) :
    (cutAt '/' (joinWith '/' names)).filter counts = names := by
  by_cases hne : names = []
  · subst hne
    rfl
  · rw [SafetyConfig.cutAt_joinWith hne fun n hn => (h n hn).2, h.filter_counts]

/-- Slashes in front add nothing but empty names. -/
theorem filter_cutAt_slash (cs : List Char) :
    (cutAt '/' ('/' :: cs)).filter counts = (cutAt '/' cs).filter counts := by
  rw [cutAt, if_pos rfl]
  rfl

theorem chars_eq_or (p : Path) :
    (p = ⟨.working, []⟩ ∧ p.chars = ['.']) ∨ p.chars = p.start.chars ++ joinWith '/' p.names := by
  unfold chars
  split
  · exact .inl ⟨rfl, rfl⟩
  · exact .inr rfl

theorem names_of_chars (h : Plain p.names) : (cutAt '/' p.chars).filter counts = p.names := by
  obtain ⟨rfl, hchars⟩ | hchars := chars_eq_or p
  · decide
  · rw [hchars]
    cases p.start with
    | working => exact h.cutAt_joinWith
    | root => exact (filter_cutAt_slash _).trans h.cutAt_joinWith
    | doubleRoot =>
      exact (filter_cutAt_slash _).trans ((filter_cutAt_slash _).trans h.cutAt_joinWith)

theorem readStart_chars (h : Plain p.names) : readStart p.chars = p.start := by
  obtain ⟨rfl, hchars⟩ | hchars := chars_eq_or p
  · rfl
  · have hhead := h.head?_joinWith
    rw [hchars]
    generalize joinWith '/' p.names = cs at hhead
    cases cs <;> cases p.start <;> simp_all [PathStart.chars, readStart]

theorem read_chars (h : Plain p.names) : read p.chars = p := by
  rw [read, readStart_chars h, names_of_chars h]

theorem ofString_toString (h : Plain p.names) : ofString p.toString = p := by
  rw [ofString, toString, String.toList_ofList, read_chars h]

theorem chars_root (l : Location) : chars ⟨.root, l⟩ = l.chars := rfl

theorem ofString_location {l : Location} (h : Plain l) : ofString l.toString = ⟨.root, l⟩ :=
  ofString_toString (p := ⟨.root, l⟩) h

theorem Plain.chars_ne_nil (h : Plain p.names) : p.chars ≠ [] := by
  intro hnil
  have hread := read_chars h
  rw [hnil] at hread
  rw [← hread] at hnil
  cases hnil

/-- A path text starts with a slash if it does not start at the working directory. -/
theorem head?_chars_iff (h : Plain p.names) : p.chars.head? = some '/' ↔ p.start ≠ .working := by
  obtain ⟨rfl, hchars⟩ | hchars := chars_eq_or p
  · simp [hchars]
  · have hhead := h.head?_joinWith
    rw [hchars]
    cases p.start <;> simp_all [PathStart.chars]

theorem chars_append (hp : p.names ≠ []) (hnames : names ≠ []) :
    (p.append names).chars = p.chars ++ '/' :: joinWith '/' names := by
  obtain ⟨start, front⟩ := p
  have happend : front ++ names ≠ [] := by simp [hnames]
  have hchars : ∀ ns : List PathName, ns ≠ [] →
      chars ⟨start, ns⟩ = start.chars ++ joinWith '/' ns := by
    intro ns hns
    rcases chars_eq_or ⟨start, ns⟩ with ⟨hdot, -⟩ | h
    · cases hdot
      exact absurd rfl hns
    · exact h
  rw [append, hchars _ happend, hchars _ hp, joinWith_append hp hnames, List.append_assoc]

/-! Where a path leads to. -/

theorem locate_of_working (hworking : p.start = .working) (home : Location) :
    p.locate home = descend home p.names := by
  rw [locate, hworking]

theorem locate_of_absolute (habsolute : p.start ≠ .working) (home : Location) :
    p.locate home = descend [] p.names := by
  unfold locate
  split
  · contradiction
  · rfl

theorem locate_eq_descend (p : Path) (home : Location) :
    p.locate home = descend (if p.start = .working then home else []) p.names := by
  by_cases hworking : p.start = .working
  · rw [if_pos hworking, locate_of_working hworking]
  · rw [if_neg hworking, locate_of_absolute hworking]

theorem chars_of_absolute (habsolute : p.start ≠ .working) :
    p.chars = '/' :: joinWith '/' p.names ∨ p.chars = '/' :: '/' :: joinWith '/' p.names := by
  obtain ⟨start, names⟩ := p
  cases start with
  | working => exact absurd rfl habsolute
  | root => exact .inl rfl
  | doubleRoot => exact .inr rfl

theorem nul_mem_chars_iff : '\x00' ∈ p.chars ↔ ∃ n ∈ p.names, '\x00' ∈ n := by
  obtain ⟨rfl, hchars⟩ | hchars := chars_eq_or p
  · rw [hchars]
    decide
  · have hstart : '\x00' ∉ p.start.chars := by cases p.start <;> decide
    rw [hchars, List.mem_append, or_iff_right hstart, mem_joinWith_iff (by decide)]

theorem descend_of_ne_parent {here : Location} (h : ∀ n ∈ names, n ≠ parentName) :
    descend here names = here ++ names := by
  induction names generalizing here with
  | nil => simp [descend]
  | cons n ns ih =>
    rw [descend, if_neg (h n List.mem_cons_self), ih fun m hm => h m (List.mem_cons_of_mem n hm)]
    simp

theorem locate_append (home : Location) (h : ∀ n ∈ names, n ≠ parentName) :
    (p.append names).locate home = p.locate home ++ names := by
  obtain ⟨start, front⟩ := p
  cases start <;> simp only [locate, append, descend_append, descend_of_ne_parent h]

/-- Bytes of names with a slash each. -/
def extent : List PathName → Nat
  | [] => 0
  | n :: ns => utf8Length n + 1 + extent ns

theorem extent_append (ms ns : List PathName) : extent (ms ++ ns) = extent ms + extent ns := by
  induction ms with
  | nil => simp [extent]
  | cons m ms ih =>
    rw [List.cons_append, extent, extent, ih]
    omega

theorem extent_dropLast_le (ns : List PathName) : extent ns.dropLast ≤ extent ns := by
  rcases ns.eq_nil_or_concat with rfl | ⟨ms, m, rfl⟩
  · simp
  · simp [extent_append]

theorem extent_descend_le (here : Location) (names : List PathName) :
    extent (descend here names) ≤ extent here + extent names := by
  induction names generalizing here with
  | nil => simp [descend]
  | cons n ns ih =>
    rw [descend, extent]
    split
    · have hup := extent_dropLast_le here
      have hrest := ih here.dropLast
      omega
    · have hdown : extent (here ++ [n]) = extent here + (utf8Length n + 1) := by
        simp [extent_append, extent]
      have hrest := ih (here ++ [n])
      omega

theorem utf8Length_joinWith (hne : names ≠ []) :
    utf8Length (joinWith '/' names) + 1 = extent names := by
  induction names with
  | nil => exact absurd rfl hne
  | cons n ns ih =>
    cases ns with
    | nil => simp [joinWith, extent]
    | cons m ms =>
      have hrest := ih (by simp)
      have hslash : ('/').utf8Size = 1 := by decide
      have hjoin : joinWith '/' (n :: m :: ms) = n ++ '/' :: joinWith '/' (m :: ms) := rfl
      rw [hjoin, utf8Length_append, utf8Length, extent]
      omega

theorem utf8Length_chars_locate_le {home : Location} (habsolute : p.start ≠ .working)
    (hne : p.locate home ≠ []) : utf8Length (p.locate home).chars ≤ utf8Length p.chars := by
  rw [locate_of_absolute habsolute] at hne ⊢
  have hnames : p.names ≠ [] := by
    intro hnil
    rw [hnil] at hne
    exact hne rfl
  have hslash : ('/').utf8Size = 1 := by decide
  have hplace : utf8Length (Location.chars (descend [] p.names)) = extent (descend [] p.names) := by
    rw [Location.chars, utf8Length, hslash, Nat.add_comm, utf8Length_joinWith hne]
  have hpath : extent p.names ≤ utf8Length p.chars := by
    rw [← utf8Length_joinWith hnames]
    rcases chars_of_absolute habsolute with hchars | hchars <;>
      rw [hchars] <;> simp only [utf8Length] <;> omega
  calc utf8Length (Location.chars (descend [] p.names))
      = extent (descend [] p.names) := hplace
    _ ≤ extent [] + extent p.names := extent_descend_le [] p.names
    _ = extent p.names := Nat.zero_add _
    _ ≤ utf8Length p.chars := hpath

/-! Slashes in a path text stand alone, but for two in front. -/

def Apart (a b : Char) : Prop :=
  ¬ (a = '/' ∧ b = '/')

instance : DecidableRel Apart :=
  fun _ _ => inferInstanceAs (Decidable (¬ _))

theorem isChain_apart_of_not_mem {cs : List Char} (h : '/' ∉ cs) : cs.IsChain Apart := by
  induction cs with
  | nil => exact .nil
  | cons c cs ih =>
    simp only [List.mem_cons, not_or] at h
    exact List.isChain_cons.mpr ⟨fun _ _ hslash => h.1 hslash.1.symm, ih h.2⟩

theorem isChain_apart_slash {cs : List Char} (hhead : cs.head? ≠ some '/') (h : cs.IsChain Apart) :
    ('/' :: cs).IsChain Apart := by
  refine List.isChain_cons.mpr ⟨?_, h⟩
  rintro c hc ⟨-, rfl⟩
  exact hhead hc

theorem Plain.isChain_joinWith (h : Plain names) : (joinWith '/' names).IsChain Apart := by
  induction names with
  | nil => exact .nil
  | cons n ns ih =>
    have hrest : Plain ns := fun m hm => h m (List.mem_cons_of_mem n hm)
    have hslash : '/' ∉ n := (h n List.mem_cons_self).2
    cases ns with
    | nil => exact isChain_apart_of_not_mem hslash
    | cons m ms =>
      refine List.isChain_append.mpr ⟨isChain_apart_of_not_mem hslash,
        isChain_apart_slash hrest.head?_joinWith (ih hrest), ?_⟩
      rintro c hc d - ⟨rfl, -⟩
      exact hslash (List.mem_of_getLast? hc)

/-- A path text has its double slash in front, if there is one: what stands before a double
slash elsewhere is in no path text. -/
theorem not_infix_chars (habsolute : p.start ≠ .working) (h : Plain p.names) {word : List Char}
    (hword : ¬ word.IsChain Apart) (hhead : word.head? ≠ some '/') (hne : word ≠ []) :
    ¬ word <:+: p.chars := by
  have hnames : ('/' :: joinWith '/' p.names).IsChain Apart :=
    isChain_apart_slash h.head?_joinWith h.isChain_joinWith
  have hapart : ¬ word <:+: '/' :: joinWith '/' p.names := by
    intro hwithin
    have hchain : word.IsChain Apart := List.IsChain.infix hnames hwithin
    exact hword hchain
  -- With two slashes in front, a word that starts otherwise is behind the first of them.
  rcases chars_of_absolute habsolute with hchars | hchars <;> rw [hchars]
  · exact hapart
  · rw [List.infix_cons_iff]
    rintro (hstarts | hwithin)
    · obtain ⟨c, cs, rfl⟩ := List.exists_cons_of_ne_nil hne
      have hc : c = '/' := (List.cons_prefix_cons.mp hstarts).1
      exact hhead (congrArg some hc)
    · exact hapart hwithin

end Path

end SafetyConfig
