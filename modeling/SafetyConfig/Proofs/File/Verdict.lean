import SafetyConfig.Proofs.File.NormalForm
import SafetyConfig.Proofs.File.RootCheck
import SafetyConfig.Tool.Error

/-!
# What an admission comes to

A path is admitted or refused by the normal form of its text: by what is at that place, and only for
the zero character by the text itself. Every other spelling with the same normal form is treated
alike. A place is out of reach if its path or a name that has to be looked up is too long for the
system; then an admission ends without a message, whether something is there or not.
-/

namespace SafetyConfig.FileStore

variable {s : FileStore} {here l : Location} {node : FileNode} {path other : String}
  {allowed : List String} {file : AdmittedFile} {bytes : Bytes} {report : FailureReport}

/-- The way to a place is too long as a whole, or has a name that is too long for the directory in
which it is looked up. -/
def OutOfReach (s : FileStore) (l : Location) : Prop :=
  maxPathBytes < utf8Length l.chars ∨
    ∃ above n below, l = above ++ n :: below ∧ s.at? above = some .directory ∧
      maxNameBytes < utf8Length n

/-- What a path leads to by its normal form. -/
structure Finds (s : FileStore) (path : String) (l : Location) (found : Option FileNode) :
    Prop where
  noNul : '\x00' ∉ path.toList
  inReach : ¬ s.OutOfReach l
  at? : s.at? l = found

/-- The type of the file at a place is allowed. -/
def TypeAllowed (allowed : List String) (l : Location) : Prop :=
  allowed = [] ∨
    String.ofList (Lowercase.lower (PathName.suffix (l.getLast?.getD []))) ∈ allowed

structure Accepts (s : FileStore) (path : String) (allowed : List String) (l : Location)
    (file : AdmittedFile) : Prop where
  location : file.location = l
  found : s.Finds path l (some (.file file.bytes))
  type : TypeAllowed allowed l
  size : file.bytes.length ≤ 1048576

/-- The reports of refusals; each of them is given if the checks before it are passed. -/
inductive Refuses (s : FileStore) (path : String) (allowed : List String) (l : Location) :
    FailureReport → Prop
  | embeddedNul (nul : '\x00' ∈ path.toList) :
      Refuses s path allowed l (.invalid "Invalid file path: null byte detected")
  | outOfReach (noNul : '\x00' ∉ path.toList) (far : s.OutOfReach l) :
      Refuses s path allowed l (.internal "OSError" none)
  | missing (found : s.Finds path l none) :
      Refuses s path allowed l (.notFound ("File not found: " ++ path))
  | directory (found : s.Finds path l (some .directory)) :
      Refuses s path allowed l (.invalid ("Not a regular file: " ++ path))
  | type {bytes : Bytes} (found : s.Finds path l (some (.file bytes)))
      (type : ¬ TypeAllowed allowed l) :
      Refuses s path allowed l (.invalid ("Invalid file type '" ++
        String.ofList (PathName.suffix (l.getLast?.getD [])) ++ "'. Allowed: " ++
        ", ".intercalate allowed))
  | size {bytes : Bytes} (found : s.Finds path l (some (.file bytes)))
      (type : TypeAllowed allowed l) (size : 1048576 < bytes.length) :
      Refuses s path allowed l (.invalid (FileRefusal.tooLarge bytes.length).message)

/-! What the system says about a place. -/

/-- What stands above a directory is one. -/
theorem directory_of_append {names : List PathName}
    (h : s.at? (here ++ names) = some .directory) : s.at? here = some .directory := by
  cases names with
  | nil => rwa [List.append_nil] at h
  | cons n ns => exact at?_of_append h

theorem walk_eq_tooLong_iff {names : List PathName} (hhere : s.at? here = some .directory)
    (hnames : ∀ n ∈ names, IsProperName n) :
    s.walk here .directory names = .error .tooLong ↔
      ∃ above n below, names = above ++ n :: below ∧ s.at? (here ++ above) = some .directory ∧
        maxNameBytes < utf8Length n := by
  induction names generalizing here with
  | nil => simp [walk]
  | cons n ns ih =>
    obtain ⟨hn, hns⟩ := List.forall_mem_cons.mp hnames
    obtain ⟨hcounts, hparent⟩ := Path.isProperName_iff.mp hn
    rw [walk, if_neg (by simp [hcounts]), if_neg hparent]
    by_cases hlong : maxNameBytes < utf8Length n
    · rw [if_pos hlong]
      exact iff_of_true rfl ⟨[], n, ns, rfl, by simpa using hhere, hlong⟩
    rw [if_neg hlong]
    -- A long name cannot be the first one: it stands below what has the first name.
    have hbelow : (∃ above m below, n :: ns = above ++ m :: below ∧
        s.at? (here ++ above) = some .directory ∧ maxNameBytes < utf8Length m) ↔
        ∃ above m below, ns = above ++ m :: below ∧
          s.at? (here ++ [n] ++ above) = some .directory ∧ maxNameBytes < utf8Length m := by
      constructor
      · rintro ⟨above, m, below, heq, hat, hm⟩
        cases above with
        | nil =>
          obtain ⟨rfl, -⟩ := List.cons.inj heq
          exact absurd hm hlong
        | cons a above =>
          obtain ⟨rfl, rfl⟩ := List.cons.inj heq
          exact ⟨above, m, below, rfl, by simpa using hat, hm⟩
      · rintro ⟨above, m, below, rfl, hat, hm⟩
        exact ⟨n :: above, m, below, rfl, by simpa using hat, hm⟩
    rw [hbelow]
    by_cases hchild : s.at? (here ++ [n]) = some .directory
    · simp only [hchild]
      exact ih hchild hns
    · -- Nothing is looked up below what is no directory.
      have hnone : ¬ ∃ above m below, ns = above ++ m :: below ∧
          s.at? (here ++ [n] ++ above) = some .directory ∧ maxNameBytes < utf8Length m := by
        rintro ⟨above, m, below, -, hat, -⟩
        exact hchild (directory_of_append hat)
      refine iff_of_false ?_ hnone
      split
      · intro h
        cases h
      · rename_i child hat
        cases child with
        | directory => exact absurd hat hchild
        | file bytes => cases ns <;> simp [walk]

theorem status_eq_tooLong_iff (hl : ∀ n ∈ l, IsProperName n) :
    s.status l = .error .tooLong ↔ s.OutOfReach l := by
  rw [status, OutOfReach]
  by_cases hlength : maxPathBytes < utf8Length l.chars
  · simp [hlength]
  · rw [if_neg hlength, walk_eq_tooLong_iff at?_nil hl, or_iff_right hlength]
    rfl

theorem status_of_inReach (h : ¬ s.OutOfReach l) (hat : s.at? l = some node) :
    s.status l = .ok node :=
  status_of_at? hat (Nat.not_lt.mp (not_or.mp h).1)

theorem at?_of_status (hl : ∀ n ∈ l, IsProperName n) (h : s.status l = .ok node) :
    s.at? l = some node := by
  rw [status] at h
  split at h
  · cases h
  · have hat := at?_of_walk at?_nil h
    rwa [Path.filter_counts_of_proper hl, Path.descend_of_proper hl] at hat

/-! Verdicts. -/

theorem typeAllowed_iff :
    TypeAllowed allowed l ↔ allowsType allowed (PathName.suffix (l.getLast?.getD [])) = true := by
  simp [TypeAllowed, allowsType]

theorem admitBytes_of_typeAllowed (h : TypeAllowed allowed l) :
    admitBytes l allowed bytes =
      if 1048576 < bytes.length then .error (.tooLarge bytes.length) else .ok ⟨l, bytes⟩ := by
  rw [admitBytes, if_neg (by simpa using typeAllowed_iff.mp h)]
  rfl

theorem admitBytes_of_not_typeAllowed (h : ¬ TypeAllowed allowed l) :
    admitBytes l allowed bytes =
      .error (.wrongType (String.ofList (PathName.suffix (l.getLast?.getD []))) allowed) := by
  rw [admitBytes, if_pos (by simpa using typeAllowed_iff.not.mp h)]

theorem admitFile_of_finds {found : Option FileNode} (hl : Path.NormalForm s.home path.toList l)
    (h : s.Finds path l found) :
    s.admitFile path allowed = match found with
      | some (.file bytes) => admitBytes l allowed bytes
      | some .directory => .error (.notRegular path)
      | none => .error (.notFound path) := by
  rw [admitFile, if_neg h.noNul, admitFileAt, ← normalForm_iff.mp hl]
  cases hstatus : s.status l with
  | ok node =>
    have hfound : some node = found := (at?_of_status hl.2 hstatus).symm.trans h.at?
    subst hfound
    cases node <;> rfl
  | error fault =>
    have hnone : found = none := by
      rw [← h.at?, Option.eq_none_iff_forall_ne_some]
      intro node hat
      rw [status_of_inReach h.inReach hat] at hstatus
      cases hstatus
    subst hnone
    cases fault with
    | tooLong => exact absurd ((status_eq_tooLong_iff hl.2).mp hstatus) h.inReach
    | _ => rfl

theorem admitFile_of_accepts (hl : Path.NormalForm s.home path.toList l)
    (h : s.Accepts path allowed l file) : s.admitFile path allowed = .ok file := by
  obtain ⟨location, bytes⟩ := file
  obtain ⟨rfl, hfound, htype, hsize⟩ := h
  rw [admitFile_of_finds hl hfound]
  dsimp only at hsize ⊢
  rw [admitBytes_of_typeAllowed htype, if_neg (Nat.not_lt.mpr hsize)]

theorem exists_admitFile_of_refuses (hl : Path.NormalForm s.home path.toList l)
    (h : s.Refuses path allowed l report) :
    ∃ refusal, s.admitFile path allowed = .error refusal ∧
      ToolError.fileReport refusal = report := by
  cases h with
  | embeddedNul nul => exact ⟨.embeddedNul, by rw [admitFile, if_pos nul], rfl⟩
  | outOfReach noNul far =>
    have hstatus := (status_eq_tooLong_iff hl.2).mpr far
    refine ⟨.unreachable, ?_, rfl⟩
    rw [admitFile, if_neg noNul, admitFileAt, ← normalForm_iff.mp hl]
    simp only [hstatus]
  | missing found => exact ⟨.notFound path, admitFile_of_finds hl found, rfl⟩
  | directory found => exact ⟨.notRegular path, admitFile_of_finds hl found, rfl⟩
  | type found type =>
    refine ⟨.wrongType _ allowed, ?_, rfl⟩
    rw [admitFile_of_finds hl found]
    exact admitBytes_of_not_typeAllowed type
  | @size bytes found type size =>
    refine ⟨.tooLarge bytes.length, ?_, rfl⟩
    rw [admitFile_of_finds hl found]
    dsimp only
    rw [admitBytes_of_typeAllowed type, if_pos size]

/-- Every path is accepted or refused. -/
theorem accepts_or_refuses (s : FileStore) (path : String) (allowed : List String) (l : Location) :
    (∃ file, s.Accepts path allowed l file) ∨ ∃ report, s.Refuses path allowed l report := by
  by_cases hnul : '\x00' ∈ path.toList
  · exact .inr ⟨_, .embeddedNul hnul⟩
  by_cases hfar : s.OutOfReach l
  · exact .inr ⟨_, .outOfReach hnul hfar⟩
  have hfinds : s.Finds path l (s.at? l) := ⟨hnul, hfar, rfl⟩
  cases hat : s.at? l with
  | none => exact .inr ⟨_, .missing (hat ▸ hfinds)⟩
  | some node =>
    rw [hat] at hfinds
    cases node with
    | directory => exact .inr ⟨_, .directory hfinds⟩
    | file bytes =>
      by_cases htype : TypeAllowed allowed l
      · by_cases hsize : bytes.length ≤ 1048576
        · exact .inl ⟨⟨l, bytes⟩, rfl, hfinds, htype, hsize⟩
        · exact .inr ⟨_, .size hfinds htype (Nat.lt_of_not_le hsize)⟩
      · exact .inr ⟨_, .type hfinds htype⟩

theorem admitFile_eq_ok_iff (hl : Path.NormalForm s.home path.toList l) :
    s.admitFile path allowed = .ok file ↔ s.Accepts path allowed l file := by
  refine ⟨fun h => ?_, admitFile_of_accepts hl⟩
  rcases s.accepts_or_refuses path allowed l with ⟨other, haccepts⟩ | ⟨report, hrefuses⟩
  · rw [admitFile_of_accepts hl haccepts] at h
    exact Except.ok.inj h ▸ haccepts
  · obtain ⟨refusal, hrefused, -⟩ := exists_admitFile_of_refuses hl hrefuses
    rw [hrefused] at h
    cases h

theorem exists_admitFile_eq_error_iff (hl : Path.NormalForm s.home path.toList l) :
    (∃ refusal, s.admitFile path allowed = .error refusal ∧
      ToolError.fileReport refusal = report) ↔ s.Refuses path allowed l report := by
  refine ⟨?_, exists_admitFile_of_refuses hl⟩
  rintro ⟨refusal, h, rfl⟩
  rcases s.accepts_or_refuses path allowed l with ⟨file, haccepts⟩ | ⟨report, hrefuses⟩
  · rw [admitFile_of_accepts hl haccepts] at h
    cases h
  · obtain ⟨other, hrefused, rfl⟩ := exists_admitFile_of_refuses hl hrefuses
    rw [hrefused] at h
    exact Except.error.inj h ▸ hrefuses

/-! Other spellings of an accepted path. -/

theorem Accepts.respelled (h : s.Accepts path allowed l file) (hother : '\x00' ∉ other.toList) :
    s.Accepts other allowed l file :=
  ⟨h.location, ⟨hother, h.found.inReach, h.found.at?⟩, h.type, h.size⟩

/-- The text of a place in use is in normal form. -/
theorem normalForm_location (h : s.at? l = some node) :
    Path.NormalForm s.home l.toString.toList l := by
  rw [normalForm_iff, Path.ofString_location (Path.plain_of_isFileName (isFileName_of_at? h)),
    locate_location h]

theorem nul_not_mem_location (h : s.at? l = some node) : '\x00' ∉ l.toString.toList := by
  rw [Location.toString, String.toList_ofList]
  exact nul_not_mem_chars h

theorem openFile_location (h : s.at? l = some (.file bytes))
    (hlength : utf8Length l.chars ≤ maxPathBytes) :
    s.openFile (Path.ofString l.toString).chars = .ok bytes := by
  have hplain := Path.plain_of_isFileName (isFileName_of_at? h)
  rw [Path.ofString_location hplain, openFile_eq_ok_iff, follow_chars_eq_ok_iff hplain]
  exact ⟨nul_not_mem_chars h, hlength, walk_of_at? at?_nil h⟩

theorem parseFile_ne_tooLarge (hl : Path.NormalForm s.home path.toList l)
    (hat : s.at? l = some (.file bytes)) (hsize : bytes.length ≤ 1048576) (package : Option Text)
    (table : Option ResourceTable) (size : Nat) :
    s.parseFile path package table ≠ .error (.tooLarge size) := by
  cases hopen : s.openFile (Path.ofString path).chars with
  | error fault => simp [parseFile, hopen]
  | ok opened =>
    -- A path that is followed as it is written comes to the place of its normal form.
    have hplace := at?_locate_of_follow (Path.plain_ofString path) (openFile_eq_ok_iff.mp hopen)
    rw [← normalForm_iff.mp hl, hat] at hplace
    obtain rfl : bytes = opened := by simpa using hplace
    rw [parseFile_of_openFile hopen hsize]
    cases parseGiven (some bytes) package table <;> simp [Except.mapError]

/-- A path has one normal form, and by it the path is accepted or refused with the report of the
first check that fails. The place of an accepted path is its normal form, and its text and all other
spellings are accepted alike. Parsing finds no accepted file too large, and at the text of the place
it parses just the accepted bytes. -/
theorem admission_goes_by_normal_form (s : FileStore) (path : String) (allowed : List String) :
    ∃ l : Location, (∀ l', Path.NormalForm s.home path.toList l' ↔ l' = l) ∧
      (∀ file, s.admitFile path allowed = .ok file ↔ s.Accepts path allowed l file) ∧
      (∀ report, (∃ refusal, s.admitFile path allowed = .error refusal ∧
        ToolError.fileReport refusal = report) ↔ s.Refuses path allowed l report) ∧
      ∀ file, s.admitFile path allowed = .ok file →
        Path.ofString l.toString = ⟨.root, l⟩ ∧
        s.admitFile l.toString allowed = .ok file ∧
        (∀ other, Path.NormalForm s.home other.toList l →
          ('\x00' ∉ other.toList → s.admitFile other allowed = .ok file) ∧
          ∀ package table size, s.parseFile other package table ≠ .error (.tooLarge size)) ∧
        ∀ package table, s.parseFile l.toString package table =
          (parseGiven (some file.bytes) package table).mapError .parse := by
  have hl : Path.NormalForm s.home path.toList ((Path.ofString path).locate s.home) :=
    normalForm_iff.mpr rfl
  refine ⟨_, fun _ => normalForm_iff, fun _ => admitFile_eq_ok_iff hl,
    fun _ => exists_admitFile_eq_error_iff hl, ?_⟩
  intro file hfile
  have haccepts := (admitFile_eq_ok_iff hl).mp hfile
  have hat := haccepts.found.at?
  have hlength := Nat.not_lt.mp (not_or.mp haccepts.found.inReach).1
  refine ⟨Path.ofString_location (Path.plain_of_isFileName (isFileName_of_at? hat)), ?_, ?_, ?_⟩
  · exact admitFile_of_accepts (normalForm_location hat)
      (haccepts.respelled (nul_not_mem_location hat))
  · intro other hother
    exact ⟨fun hnul => admitFile_of_accepts hother (haccepts.respelled hnul),
      parseFile_ne_tooLarge hother hat haccepts.size⟩
  · intro package table
    exact parseFile_of_openFile (openFile_location hat hlength) haccepts.size

/-! A file in a directory. -/

private def drawer : FileStore :=
  let directory : FileStore := FileStore.add .empty ["d".toList] .directory (by decide +kernel)
  directory.add ["d".toList, "a.XML".toList] (.file emptyConfigBytes) (by decide +kernel)

private def filed : Location := ["d".toList, "a.XML".toList]

/-- A detour through what is not there is admitted like the shortest way. -/
theorem detour_is_admitted :
    let detour := "d/./gone/..//a.XML"
    Path.NormalForm drawer.home detour.toList filed ∧
      drawer.Accepts detour [".xml"] filed ⟨filed, emptyConfigBytes⟩ ∧
      drawer.admitFile "/d/a.XML" [".xml"] = .ok ⟨filed, emptyConfigBytes⟩ ∧
      drawer.Refuses detour [".json"] filed
        (.invalid "Invalid file type '.XML'. Allowed: .json") := by
  intro detour
  have hadmitted : drawer.admitFile detour [".xml"] = .ok ⟨filed, emptyConfigBytes⟩ := by
    decide +kernel
  have hrefused : drawer.admitFile detour [".json"] = .error (.wrongType ".XML" [".json"]) := by
    decide +kernel
  obtain ⟨l, hnormal, haccepts, -, hfile⟩ :=
    admission_goes_by_normal_form drawer detour [".xml"]
  obtain ⟨l', hnormal', -, hrefuses, -⟩ := admission_goes_by_normal_form drawer detour [".json"]
  have hplace := (haccepts _).mp hadmitted
  obtain rfl : filed = l := hplace.location
  have hform := (hnormal filed).mpr rfl
  obtain rfl : filed = l' := (hnormal' filed).mp hform
  obtain ⟨-, htext, -⟩ := hfile _ hadmitted
  exact ⟨hform, hplace, htext, (hrefuses _).mp ⟨_, hrefused, by decide +kernel⟩⟩

/-- A name that is longer than any file name stands for no file, and that is not what is said. -/
theorem long_name_is_not_reported_missing :
    let name := List.replicate 256 'a'
    Path.NormalForm drawer.home name [name] ∧ drawer.at? [name] = none ∧
      drawer.admitFile (String.ofList name) [] = .error .unreachable ∧
      ToolError.fileReport .unreachable = .internal "OSError" none ∧
      ¬ ∃ refusal, drawer.admitFile (String.ofList name) [] = .error refusal ∧
        ToolError.fileReport refusal = .notFound ("File not found: " ++ String.ofList name) := by
  intro name
  have hrefused : drawer.admitFile (String.ofList name) [] = .error .unreachable := by
    decide +kernel
  have hform : Path.NormalForm drawer.home name [name] := by
    rw [Path.normalForm_iff drawer.proper_home]
    decide +kernel
  refine ⟨hform, by decide +kernel, hrefused, rfl, ?_⟩
  rintro ⟨refusal, hother, hreport⟩
  rw [hrefused] at hother
  cases hother
  cases hreport

end SafetyConfig.FileStore
