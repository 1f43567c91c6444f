import Mathlib.Data.List.Induction
import SafetyConfig.File.Edit
import SafetyConfig.Proofs.File.PathText

/-!
# Places in a store

What is stored can be looked at as entries, by place, and by walking there from the root.
The three views agree, and everything above a place in use is a directory.
-/

namespace SafetyConfig.FileStore

variable {s : FileStore} {here l : Location} {node : FileNode}

theorem mem_nodes_iff : (l, node) ∈ s.nodes ↔ l ≠ [] ∧ s.at? l = some node := by
  constructor
  · intro hmem
    have hl : l ≠ [] := (s.named _ hmem).1
    have hlookup : s.nodes.lookup l = some node := lookup_of_mem s.distinct hmem
    exact ⟨hl, by simpa [at?, FileNodes.at?, hl] using hlookup⟩
  · rintro ⟨hl, hat⟩
    have hlookup : s.nodes.lookup l = some node := by simpa [at?, FileNodes.at?, hl] using hat
    obtain ⟨before, after, heq, -⟩ := List.lookup_eq_some_iff.mp hlookup
    simp [heq]

theorem isFileName_of_at? (h : s.at? l = some node) : ∀ n ∈ l, IsFileName n := by
  intro n hn
  have hl : l ≠ [] := List.ne_nil_of_mem hn
  exact (s.named _ (mem_nodes_iff.mpr ⟨hl, h⟩)).2 n hn

@[simp]
theorem at?_nil : s.at? [] = some .directory := rfl

theorem at?_dropLast (h : s.at? l = some node) : s.at? l.dropLast = some .directory := by
  by_cases hl : l = []
  · subst hl
    exact at?_nil
  · exact s.inDirectory _ (mem_nodes_iff.mpr ⟨hl, h⟩)

/-- Only directories have something below them. -/
theorem at?_of_append {n : PathName} {ns : List PathName}
    (h : s.at? (here ++ n :: ns) = some node) : s.at? here = some .directory := by
  induction ns using List.reverseRecOn generalizing node with
  | nil => simpa using at?_dropLast h
  | append_singleton ns m ih =>
    have habove := at?_dropLast h
    rw [← List.cons_append, ← List.append_assoc, List.dropLast_concat] at habove
    exact ih habove

/-! Walking. -/

theorem walk_of_at? {names : List PathName} (hhere : s.at? here = some .directory)
    (h : s.at? (here ++ names) = some node) : s.walk here .directory names = .ok node := by
  induction names generalizing here with
  | nil =>
    rw [List.append_nil, hhere] at h
    rw [walk, Option.some.inj h]
  | cons n ns ih =>
    obtain ⟨hcounts, hparent, -, -, hlength⟩ := isFileName_of_at? h n (by simp)
    rw [walk, if_neg (by simp [hcounts]), if_neg hparent, if_neg (by omega)]
    rw [← List.singleton_append, ← List.append_assoc] at h
    cases ns with
    | nil => simp only [List.append_nil] at h; simp only [h, walk]
    | cons m ms =>
      have hchild : s.at? (here ++ [n]) = some .directory := at?_of_append h
      simp only [hchild]
      exact ih hchild h

theorem at?_of_walk {names : List PathName} {start : FileNode} (hhere : s.at? here = some start)
    (h : s.walk here start names = .ok node) :
    s.at? (Path.descend here (names.filter Path.counts)) = some node := by
  fun_induction walk s here start names with
  | case1 here start =>
    cases h
    exact hhere
  | case2 => cases h
  | case3 here n ns hcounts ih =>
    rw [List.filter_cons_of_neg (by simp [hcounts])]
    exact ih hhere h
  | case4 here ns hcounts ih =>
    rw [List.filter_cons_of_pos (by simpa using hcounts), Path.descend, if_pos rfl]
    exact ih (at?_dropLast hhere) h
  | case5 => cases h
  | case6 => cases h
  | case7 here n ns hcounts hparent hlength child hchild ih =>
    rw [List.filter_cons_of_pos (by simpa using hcounts), Path.descend, if_neg hparent]
    exact ih hchild h

/-- A walk goes on from where it has come to. -/
theorem walk_append {start : FileNode} {front : List PathName} (back : List PathName)
    (h : s.walk here start front = .ok node) :
    s.walk here start (front ++ back) =
      s.walk (Path.descend here (front.filter Path.counts)) node back := by
  fun_induction walk s here start front with
  | case1 here start =>
    cases h
    rfl
  | case2 => cases h
  | case3 here n ns hcounts ih =>
    rw [List.cons_append, walk, if_pos hcounts, List.filter_cons_of_neg (by simp [hcounts])]
    exact ih h
  | case4 here ns hcounts ih =>
    rw [List.cons_append, walk, if_neg hcounts, if_pos rfl,
      List.filter_cons_of_pos (by simpa using hcounts), Path.descend, if_pos rfl]
    exact ih h
  | case5 => cases h
  | case6 => cases h
  | case7 here n ns hcounts hparent hlength child hchild ih =>
    rw [List.cons_append, walk, if_neg hcounts, if_neg hparent, if_neg hlength,
      List.filter_cons_of_pos (by simpa using hcounts), Path.descend, if_neg hparent]
    simp only [hchild]
    exact ih h

/-- A walk that goes on has come to a directory. -/
theorem walk_front {start : FileNode} {front : List PathName} {n : PathName} {ns : List PathName}
    (h : s.walk here start (front ++ n :: ns) = .ok node) :
    s.walk here start front = .ok .directory := by
  induction front generalizing here start with
  | nil =>
    cases start with
    | file bytes => cases h
    | directory => rfl
  | cons m front ih =>
    cases start with
    | file bytes => cases h
    | directory =>
      rw [List.cons_append, walk] at h
      rw [walk]
      by_cases hcounts : Path.counts m = false
      · rw [if_pos hcounts] at h ⊢
        exact ih h
      rw [if_neg hcounts] at h ⊢
      by_cases hparent : m = parentName
      · rw [if_pos hparent] at h ⊢
        exact ih h
      rw [if_neg hparent] at h ⊢
      by_cases hlength : maxNameBytes < utf8Length m
      · rw [if_pos hlength] at h
        cases h
      rw [if_neg hlength] at h ⊢
      cases hchild : s.at? (here ++ [m]) with
      | none => simp [hchild] at h
      | some child =>
        simp only [hchild] at h
        exact ih h

theorem follow_eq_ok_iff {written : List Char} : s.follow written = .ok node ↔
    '\x00' ∉ written ∧ written ≠ [] ∧ utf8Length written ≤ maxPathBytes ∧
      s.walk (if written.head? = some '/' then [] else s.home) .directory (cutAt '/' written) =
        .ok node := by
  unfold follow
  by_cases hnul : '\x00' ∈ written
  · simp [hnul]
  by_cases hempty : written = []
  · simp [hempty]
  by_cases hlong : maxPathBytes < utf8Length written
  · simp [hnul, hempty, hlong]
  · simp [hnul, hempty, hlong, Nat.not_lt.mp hlong]

/-- What stands before a slash in a path text leads to a directory, if the text leads anywhere. -/
theorem follow_front {front back : List Char} (hfront : front ≠ [])
    (h : s.follow (front ++ '/' :: back) = .ok node) : s.follow front = .ok .directory := by
  have hhead : (front ++ '/' :: back).head? = front.head? := List.head?_append_of_ne_nil _ hfront
  obtain ⟨hnul, -, hlength, hwalk⟩ := follow_eq_ok_iff.mp h
  rw [utf8Length_append] at hlength
  rw [hhead, cutAt_append] at hwalk
  obtain ⟨part, parts, hparts⟩ := List.exists_cons_of_ne_nil (cutAt_ne_nil '/' back)
  rw [hparts] at hwalk
  exact follow_eq_ok_iff.mpr ⟨fun hmem => hnul (List.mem_append_left _ hmem), hfront, by omega,
    walk_front hwalk⟩

/-- A path without names leads to where paths start. -/
theorem follow_start (s : FileStore) (start : PathStart) :
    s.follow (Path.chars ⟨start, []⟩) = .ok .directory := by
  cases start <;> rfl

/-- A path that leads somewhere goes through a directory at each of its names but the last. -/
theorem follow_of_append {p : Path} {names : List PathName} (hplain : Path.Plain p.names)
    (hnames : names ≠ [])
    (h : s.follow (p.append names).chars = .ok node) : s.follow p.chars = .ok .directory := by
  by_cases hp : p.names = []
  · obtain ⟨start, front⟩ := p
    subst hp
    exact follow_start s start
  · rw [Path.chars_append hp hnames] at h
    exact follow_front hplain.chars_ne_nil h

theorem not_mem_nul_of_follow {written : List Char} (h : s.follow written = .ok node) :
    '\x00' ∉ written :=
  (follow_eq_ok_iff.mp h).1

/-- The text of a path is followed name by name. -/
theorem walk_cutAt_chars {p : Path} (hplain : Path.Plain p.names) (here : Location) :
    s.walk here .directory (cutAt '/' p.chars) = s.walk here .directory p.names := by
  obtain ⟨start, names⟩ := p
  by_cases hnames : names = []
  · subst hnames
    cases start <;> rfl
  · have hcut : cutAt '/' (joinWith '/' names) = names :=
      cutAt_joinWith hnames fun n hn => (hplain n hn).2
    have hchars : Path.chars ⟨start, names⟩ = start.chars ++ joinWith '/' names :=
      (Path.chars_eq_or _).resolve_left fun hdot => hnames (congrArg Path.names hdot.1)
    rw [hchars]
    -- Slashes in front cut off empty names, at which a walk stays where it is.
    cases start with
    | working => exact congrArg _ hcut
    | root => simp [PathStart.chars, cutAt, hcut, walk, Path.counts]
    | doubleRoot => simp [PathStart.chars, cutAt, hcut, walk, Path.counts]

theorem follow_chars_eq_ok_iff {p : Path} (hplain : Path.Plain p.names) :
    s.follow p.chars = .ok node ↔ '\x00' ∉ p.chars ∧ utf8Length p.chars ≤ maxPathBytes ∧
      s.walk (if p.start = .working then s.home else []) .directory p.names = .ok node := by
  have hstart : (if p.chars.head? = some '/' then [] else s.home) =
      if p.start = .working then s.home else [] := by
    simp only [Path.head?_chars_iff hplain, ne_eq, ite_not]
  rw [follow_eq_ok_iff, hstart, walk_cutAt_chars hplain]
  simp [hplain.chars_ne_nil]

/-- A path text leads to the place that its path leads to. -/
theorem at?_locate_of_follow {p : Path} (hplain : Path.Plain p.names)
    (h : s.follow p.chars = .ok node) : s.at? (p.locate s.home) = some node := by
  obtain ⟨-, -, hwalk⟩ := (follow_chars_eq_ok_iff hplain).mp h
  rw [Path.locate_eq_descend, ← hplain.filter_counts]
  refine at?_of_walk ?_ hwalk
  split
  exacts [s.home_at?, at?_nil]

/-- Names behind a path lead on from where it leads to. -/
theorem follow_append {p : Path} {names : List PathName} {start : FileNode}
    (hplain : Path.Plain p.names) (h : s.follow p.chars = .ok start)
    (hnames : ∀ n ∈ names, IsFileName n)
    (hlength : utf8Length (p.append names).chars ≤ maxPathBytes)
    (hwalk : s.walk (p.locate s.home) start names = .ok node) :
    s.follow (p.append names).chars = .ok node := by
  obtain ⟨hnul, -, hstart⟩ := (follow_chars_eq_ok_iff hplain).mp h
  rw [follow_chars_eq_ok_iff (hplain.append (Path.plain_of_isFileName hnames))]
  refine ⟨?_, hlength, ?_⟩
  · rw [Path.nul_mem_chars_iff] at hnul ⊢
    rintro ⟨n, hn, hmem⟩
    rcases List.mem_append.mp hn with hn | hn
    · exact hnul ⟨n, hn, hmem⟩
    · obtain ⟨-, -, -, hnone, -⟩ := hnames n hn
      exact hnone hmem
  · rw [Path.append, walk_append names hstart, hplain.filter_counts, ← Path.locate_eq_descend]
    exact hwalk

theorem locate_location (h : s.at? l = some node) : Path.locate s.home ⟨.root, l⟩ = l := by
  have hdown : ∀ n ∈ l, n ≠ parentName := fun n hn => (isFileName_of_at? h n hn).2.1
  exact Path.descend_of_ne_parent hdown

theorem nul_not_mem_chars (h : s.at? l = some node) : '\x00' ∉ l.chars := by
  rw [← Path.chars_root, Path.nul_mem_chars_iff]
  rintro ⟨n, hn, hmem⟩
  obtain ⟨-, -, -, hnone, -⟩ := isFileName_of_at? h n hn
  exact hnone hmem

theorem status_of_at? (h : s.at? l = some node) (hlength : utf8Length l.chars ≤ maxPathBytes) :
    s.status l = .ok node := by
  rw [status, if_neg (by omega)]
  exact walk_of_at? at?_nil h

end SafetyConfig.FileStore
