import Mathlib.Logic.Relation
import SafetyConfig.Proofs.File.Place

/-!
# Normal forms of path texts

A path text is brought into normal form by striking out: names that say nothing, names with double
dots behind them, and double dots at the root. In whatever order that is done, the same names are
left over, and they are the place that the path leads to.
-/

namespace SafetyConfig

/-- A name that stands for something below the place it is said at. -/
def IsProperName (n : PathName) : Prop :=
  n ≠ [] ∧ n ≠ ['.'] ∧ n ≠ parentName

namespace Path

variable {home l : Location} {n : PathName} {names rest : List PathName} {written : List Char}

/-- The names of a path text from the root on, before anything is struck out. -/
def namesFromRoot (home : Location) (written : List Char) : List PathName :=
  if written.head? = some '/' then cutAt '/' written else home ++ cutAt '/' written

/-- One thing is struck out. -/
inductive StrikesOut : List PathName → List PathName → Prop
  | blank (front back : List PathName) {n : PathName} (h : n = [] ∨ n = ['.']) :
      StrikesOut (front ++ n :: back) (front ++ back)
  | parent (front back : List PathName) {n : PathName} (h : IsProperName n) :
      StrikesOut (front ++ n :: parentName :: back) (front ++ back)
  | atRoot (back : List PathName) : StrikesOut (parentName :: back) back

/-- What is left over of a path text when there is nothing more to strike out. -/
def NormalForm (home : Location) (written : List Char) (l : Location) : Prop :=
  Relation.ReflTransGen StrikesOut (namesFromRoot home written) l ∧ ∀ n ∈ l, IsProperName n

theorem counts_eq_false_iff : counts n = false ↔ n = [] ∨ n = ['.'] := by
  simp [counts, or_iff_not_imp_left]

theorem isProperName_iff : IsProperName n ↔ counts n = true ∧ n ≠ parentName := by
  rw [← Bool.not_eq_false, counts_eq_false_iff, not_or, IsProperName, and_assoc]

theorem isProperName_of_isFileName (h : IsFileName n) : IsProperName n :=
  isProperName_iff.mpr ⟨h.1, h.2.1⟩

theorem filter_counts_of_proper (h : ∀ n ∈ l, IsProperName n) : l.filter counts = l :=
  List.filter_eq_self.mpr fun n hn => (isProperName_iff.mp (h n hn)).1

theorem proper_concat (h : ∀ m ∈ l, IsProperName m) (hn : IsProperName n) :
    ∀ m ∈ l ++ [n], IsProperName m :=
  List.forall_mem_append.mpr ⟨h, List.forall_mem_singleton.mpr hn⟩

theorem descend_of_proper (h : ∀ n ∈ l, IsProperName n) : descend [] l = l :=
  descend_of_ne_parent fun n hn => (h n hn).2.2

/-! What is struck out does not matter for where the names lead. -/

theorem descend_eq_of_strikesOut (h : StrikesOut names rest) :
    descend [] (names.filter counts) = descend [] (rest.filter counts) := by
  cases h with
  | blank front back h =>
    have hblank := counts_eq_false_iff.mpr h
    rw [List.filter_append, List.filter_append, List.filter_cons_of_neg (by simp [hblank])]
  | parent front back h =>
    obtain ⟨hcounts, hdown⟩ := isProperName_iff.mp h
    have hparent : counts parentName = true := by decide
    rw [List.filter_append, List.filter_append, List.filter_cons_of_pos hcounts,
      List.filter_cons_of_pos hparent, descend_append, descend_append, descend, if_neg hdown,
      descend, if_pos rfl, List.dropLast_concat]
  | atRoot => rfl

theorem descend_eq_of_reflTransGen (h : Relation.ReflTransGen StrikesOut names rest) :
    descend [] (names.filter counts) = descend [] (rest.filter counts) := by
  induction h with
  | refl => rfl
  | tail _ hstep ih => exact ih.trans (descend_eq_of_strikesOut hstep)

/-! All that has to go can be struck out, from left to right. -/

theorem proper_descend {here : Location} (hhere : ∀ n ∈ here, IsProperName n) :
    ∀ n ∈ descend here (names.filter counts), IsProperName n := by
  induction names generalizing here with
  | nil => exact hhere
  | cons m ms ih =>
    by_cases hcounts : counts m = true
    · rw [List.filter_cons_of_pos hcounts, descend]
      apply ih
      split
      · intro n hn
        exact hhere n (here.dropLast_subset hn)
      · rename_i hdown
        exact proper_concat hhere (isProperName_iff.mpr ⟨hcounts, hdown⟩)
    · rw [List.filter_cons_of_neg hcounts]
      exact ih hhere

theorem strikesOut_descend {here : Location} (hhere : ∀ n ∈ here, IsProperName n) :
    Relation.ReflTransGen StrikesOut (here ++ names) (descend here (names.filter counts)) := by
  induction names generalizing here with
  | nil =>
    rw [List.append_nil]
    exact .refl
  | cons m ms ih =>
    by_cases hcounts : counts m = true
    · rw [List.filter_cons_of_pos hcounts, descend]
      by_cases hparent : m = parentName
      · subst hparent
        rw [if_pos rfl]
        -- Double dots take the name before them along, if there is one.
        rcases here.eq_nil_or_concat with rfl | ⟨front, last, rfl⟩
        · exact .head (.atRoot ms) (ih hhere)
        · have hlast : IsProperName last := hhere last (by simp)
          have hfront : ∀ n ∈ front, IsProperName n := fun n hn => hhere n (by simp [hn])
          rw [List.concat_eq_append, List.dropLast_concat, List.append_assoc]
          exact .head (.parent front ms hlast) (ih hfront)
      · rw [if_neg hparent, List.append_cons]
        exact ih (proper_concat hhere (isProperName_iff.mpr ⟨hcounts, hparent⟩))
    · rw [List.filter_cons_of_neg hcounts]
      have hblank := counts_eq_false_iff.mp (Bool.not_eq_true _ ▸ hcounts)
      exact .head (.blank here ms hblank) (ih hhere)

theorem start_read_eq_working_iff : (read written).start = .working ↔ written.head? ≠ some '/' := by
  change readStart written = .working ↔ _
  cases written with
  | nil => simp [readStart]
  | cons c cs =>
    by_cases hslash : c = '/'
    · subst hslash
      unfold readStart
      split <;> simp_all
    · simp [readStart, hslash]

theorem descend_namesFromRoot (hhome : ∀ n ∈ home, IsProperName n) :
    descend [] ((namesFromRoot home written).filter counts) = (read written).locate home := by
  rw [locate_eq_descend, namesFromRoot]
  by_cases habsolute : written.head? = some '/'
  · rw [if_pos habsolute, if_neg fun hworking => start_read_eq_working_iff.mp hworking habsolute]
    rfl
  · rw [if_neg habsolute, if_pos (start_read_eq_working_iff.mpr habsolute), List.filter_append,
      filter_counts_of_proper hhome, descend_append, descend_of_proper hhome]
    rfl

/-- A path text has one normal form, and that is the place it leads to. -/
theorem normalForm_iff (hhome : ∀ n ∈ home, IsProperName n) :
    NormalForm home written l ↔ l = (read written).locate home := by
  rw [← descend_namesFromRoot hhome]
  constructor
  · rintro ⟨hstrikes, hproper⟩
    rw [descend_eq_of_reflTransGen hstrikes, filter_counts_of_proper hproper,
      descend_of_proper hproper]
  · rintro rfl
    have hroot : ∀ n ∈ ([] : Location), IsProperName n := nofun
    exact ⟨strikesOut_descend hroot, proper_descend hroot⟩

end Path

namespace FileStore

variable {s : FileStore} {l : Location}

theorem proper_home (s : FileStore) : ∀ n ∈ s.home, IsProperName n := fun n hn =>
  Path.isProperName_of_isFileName (isFileName_of_at? s.home_at? n hn)

theorem normalForm_iff {path : String} : Path.NormalForm s.home path.toList l ↔
    l = (Path.ofString path).locate s.home :=
  Path.normalForm_iff s.proper_home

end FileStore

end SafetyConfig
