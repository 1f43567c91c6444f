import SafetyConfig.Proofs.Json.Member
import SafetyConfig.Proofs.Resource.Naming
import SafetyConfig.Proofs.Sequencing
import SafetyConfig.Proofs.Text.Order
import SafetyConfig.Resource.TableFile

/-!
# What table files hold

A table is read from a JSON object of objects of positive integers, and from nothing else. It holds
what is written there and no more, the last member where a name is repeated, so that zero is left
for names that stand for nothing. In other JSON values the first package that is not right is
reported, or in a package the first entry that is not.
-/

namespace SafetyConfig

namespace Json

/-- A positive integer, and nothing that only looks like one. -/
def IsIdentifier (v : Json) : Prop :=
  ∃ n, v = .int n ∧ 0 < n

def IsPackage (v : Json) : Prop :=
  ∃ entries, v = .object entries ∧ ∀ e ∈ entries, e.2.IsIdentifier

def IsTable (v : Json) : Prop :=
  ∃ packages, v = .object packages ∧ ∀ p ∈ packages, p.2.IsPackage

/-- What is wrong with a package: it is no object, or the first of its entries that is wrong. -/
inductive PackageOffence (package : Text) : Json → TableFault → Prop
  | notAnObject {v : Json} (h : ∀ entries, v ≠ .object entries) :
      PackageOffence package v (.packageNotAnObject package)
  | badId {before after : List (Text × Json)} {key : Text} {v : Json}
      (sound : ∀ e ∈ before, e.2.IsIdentifier) (bad : ¬ v.IsIdentifier) :
      PackageOffence package (.object (before ++ (key, v) :: after)) (.badId package key v)

/-- What is wrong with a value: it is no object, or the first of its packages that is wrong. -/
inductive TableOffence : Json → TableFault → Prop
  | notAnObject {v : Json} (h : ∀ packages, v ≠ .object packages) : TableOffence v .notAnObject
  | package {before after : List (Text × Json)} {package : Text} {v : Json} {fault : TableFault}
      (sound : ∀ p ∈ before, p.2.IsPackage) (bad : PackageOffence package v fault) :
      TableOffence (.object (before ++ (package, v) :: after)) fault

end Json

/-- What a fault names: a package, or an entry with its package. -/
def TableFault.offender? : TableFault → Option String
  | .packageNotAnObject package => some (Text.toString package)
  | .badId package key _ => some (Text.toString package ++ ":" ++ Text.toString key)
  | _ => none

/-- The message has the name in quotes. -/
theorem TableFault.message_names {fault : TableFault} {place : String}
    (h : fault.offender? = some place) :
    ∃ front back, fault.message = front ++ ("'" ++ place ++ "'") ++ back := by
  cases fault with
  | packageNotAnObject package =>
    simp only [offender?, Option.some.injEq] at h
    subst h
    refine ⟨"Resources for package ", " must be a JSON object", String.toList_injective ?_⟩
    change ("Resources for package '" ++ Text.toString package ++
      "' must be a JSON object").toList = _
    simp
  | badId package key value =>
    simp only [offender?, Option.some.injEq] at h
    subst h
    refine ⟨"Invalid resource id for ", ": " ++ value.display, String.toList_injective ?_⟩
    change ("Invalid resource id for '" ++ Text.toString package ++ ":" ++ Text.toString key ++
      "': " ++ value.display).toList = _
    simp
  | _ => simp [offender?] at h

namespace ResourceTable

variable {table : ResourceTable} {package key : Text} {entry field : Text × Json}
  {fault : TableFault} {v w : Json} {id : ResourceId}

/-! Values that are read. -/

/-- A package as it stands in a file. -/
def packageJson (ids : List (Text × ResourceId)) : Json :=
  .object (ids.map fun e => (e.1, .int e.2))

/-- A table as it stands in a file. -/
def toJson (t : ResourceTable) : Json :=
  .object (t.packages.map fun p => (p.1, packageJson p.2))

theorem positiveId?_eq_some_iff : positiveId? v = some id ↔ v = .int id ∧ 0 < id := by
  cases v with
  | int n =>
    simp only [positiveId?, Option.ite_none_right_eq_some, Option.some.injEq, Json.int.injEq]
    constructor
    · rintro ⟨hpositive, rfl⟩
      exact ⟨rfl, hpositive⟩
    · rintro ⟨rfl, hpositive⟩
      exact ⟨hpositive, rfl⟩
  | _ => simp [positiveId?]

theorem checkEntry_eq_ok_iff {read : Text × ResourceId} :
    checkEntry package entry = .ok read ↔ entry = (read.1, .int read.2) ∧ 0 < read.2 := by
  obtain ⟨name, value⟩ := entry
  obtain ⟨key, id⟩ := read
  rw [checkEntry, Prod.mk.injEq, and_assoc, ← positiveId?_eq_some_iff]
  cases positiveId? value <;> simp

theorem checkPackage_eq_ok_iff {read : Text × List (Text × ResourceId)} :
    checkPackage field = .ok read ↔
      field = (read.1, packageJson read.2) ∧ ∀ e ∈ read.2, 0 < e.2 := by
  obtain ⟨name, value⟩ := field
  obtain ⟨package, ids⟩ := read
  rw [checkPackage, packageJson, Prod.mk.injEq]
  cases value with
  | object entries =>
    simp only [bind_eq_ok_iff, pure_eq_ok_iff, Prod.mk.injEq, Json.object.injEq,
      mapM_eq_ok_iff_eq_map fun _ _ => checkEntry_eq_ok_iff]
    constructor
    · rintro ⟨read, ⟨hread, hpositive⟩, rfl, rfl⟩
      exact ⟨⟨rfl, hread⟩, hpositive⟩
    · rintro ⟨⟨rfl, hread⟩, hpositive⟩
      exact ⟨_, ⟨hread, hpositive⟩, rfl, rfl⟩
  | _ => simp

theorem ofJson_eq_ok_iff : ofJson v = .ok table ↔
    v = table.toJson ∧ ∀ p ∈ table.packages, ∀ e ∈ p.2, 0 < e.2 := by
  obtain ⟨packages⟩ := table
  rw [toJson]
  cases v with
  | object fields =>
    simp only [ofJson, bind_eq_ok_iff, pure_eq_ok_iff, mk.injEq, Json.object.injEq, exists_eq_right,
      mapM_eq_ok_iff_eq_map fun _ _ => checkPackage_eq_ok_iff]
  | _ => simp [ofJson]

theorem exists_checkEntry_iff (package : Text) :
    (∃ read, checkEntry package entry = .ok read) ↔ entry.2.IsIdentifier := by
  simp only [checkEntry_eq_ok_iff]
  constructor
  · rintro ⟨read, rfl, hpositive⟩
    exact ⟨_, rfl, hpositive⟩
  · rintro ⟨n, hn, hpositive⟩
    exact ⟨(entry.1, n), by rw [← hn], hpositive⟩

theorem exists_checkPackage_iff :
    (∃ read, checkPackage field = .ok read) ↔ field.2.IsPackage := by
  obtain ⟨name, value⟩ := field
  simp only [checkPackage, Json.IsPackage, ← exists_checkEntry_iff name]
  cases value with
  | object entries =>
    simp only [exists_bind_pure_eq_ok_iff, exists_mapM_eq_ok_iff, Json.object.injEq,
      exists_eq_left']
  | _ => simp

theorem exists_ofJson_iff : (∃ table, ofJson v = .ok table) ↔ v.IsTable := by
  simp only [Json.IsTable, ← exists_checkPackage_iff]
  cases v with
  | object packages =>
    simp only [ofJson, exists_bind_pure_eq_ok_iff, exists_mapM_eq_ok_iff, Json.object.injEq,
      exists_eq_left']
  | _ => simp [ofJson]

/-! Values that are refused. -/

theorem checkEntry_eq_error_iff : checkEntry package entry = .error fault ↔
    ¬ entry.2.IsIdentifier ∧ fault = .badId package entry.1 entry.2 := by
  rw [← exists_checkEntry_iff package, checkEntry]
  cases positiveId? entry.2 <;> simp [eq_comm]

theorem checkPackage_eq_error_iff :
    checkPackage field = .error fault ↔ Json.PackageOffence field.1 field.2 fault := by
  obtain ⟨package, value⟩ := field
  cases value with
  | object entries =>
    simp only [checkPackage, bind_pure_eq_error_iff, mapM_eq_error_iff, exists_mapM_eq_ok_iff,
      exists_checkEntry_iff, checkEntry_eq_error_iff]
    constructor
    · rintro ⟨before, ⟨key, v⟩, after, rfl, sound, bad, rfl⟩
      exact .badId sound bad
    · intro h
      cases h with
      | notAnObject h => exact absurd rfl (h _)
      | badId sound bad => exact ⟨_, _, _, rfl, sound, bad, rfl⟩
  | _ =>
    constructor
    · rintro ⟨⟩
      exact .notAnObject nofun
    · rintro ⟨⟩
      rfl

theorem ofJson_eq_error_iff : ofJson v = .error fault ↔ v.TableOffence fault := by
  cases v with
  | object packages =>
    simp only [ofJson, bind_pure_eq_error_iff, mapM_eq_error_iff, exists_mapM_eq_ok_iff,
      exists_checkPackage_iff, checkPackage_eq_error_iff]
    constructor
    · rintro ⟨before, ⟨package, v⟩, after, rfl, sound, bad⟩
      exact .package sound bad
    · intro h
      cases h with
      | notAnObject h => exact absurd rfl (h _)
      | package sound bad => exact ⟨_, _, _, rfl, sound, bad⟩
  | _ =>
    constructor
    · rintro ⟨⟩
      exact .notAnObject nofun
    · rintro ⟨⟩
      rfl

/-- A value that has been decoded is refused for what it holds: for values nested too deep, a file
is refused while it is decoded. -/
theorem read_of_ofBytes_tooDeep {bytes : Bytes} {container : Json.Container}
    (h : ofBytes bytes = .error (.tooDeep container)) :
    ∃ cs, Utf8.decode? bytes = some cs ∧ Json.read cs = .error (.tooDeep container) := by
  unfold ofBytes at h
  split at h
  · rename_i cs hdecode
    refine ⟨cs, hdecode, ?_⟩
    unfold ofCharacters at h
    cases hread : Json.read cs with
    | ok value =>
      rw [hread] at h
      cases ofJson_eq_error_iff.mp h with
      | package _ bad => cases bad
    | error fault =>
      rw [hread] at h
      cases fault <;> cases h
      rfl
  · cases h

/-! Tables and what is written. -/

theorem holds_iff_of_decoded (h : w.decoded = table.toJson) : table.Holds package key id ↔
    ∃ entries, w.HasMember package entries ∧ entries.HasMember key (.int id) := by
  have hpackage (v : Json) :
      (table.packages.lookup package).map packageJson = some v ↔
        ∃ u, w.HasMember package u ∧ v = u.decoded := by
    rw [← lookup_map_value, Json.lookup_decoded_iff h]
  have hentry {u : Json} {ids : List (Text × ResourceId)} (hu : u.decoded = packageJson ids) :
      ids.lookup key = some id ↔ u.HasMember key (.int id) := by
    have hlookup : (ids.lookup key).map Json.int = some (.int id) ↔
        ∃ x, u.HasMember key x ∧ .int id = x.decoded := by
      rw [← lookup_map_value, Json.lookup_decoded_iff hu]
    simpa [eq_comm, Json.decoded_eq_int_iff] using hlookup
  constructor
  · rintro ⟨ids, hids, hkey⟩
    obtain ⟨u, hu, hdecoded⟩ := (hpackage (packageJson ids)).mp (by rw [hids, Option.map_some])
    exact ⟨u, hu, (hentry hdecoded.symm).mp hkey⟩
  · rintro ⟨u, hu, hkey⟩
    obtain ⟨ids, hids, hdecoded⟩ :=
      Option.map_eq_some_iff.mp ((hpackage u.decoded).mpr ⟨u, hu, rfl⟩)
    exact ⟨ids, hids, (hentry hdecoded.symm).mpr hkey⟩

theorem names_of_decoded (h : w.decoded = table.toJson) :
    (table.packages.map (·.1)).Nodup ∧
      ∀ p, p ∈ table.packages.map (·.1) ↔ ∃ v, w.HasMember p v := by
  have hnames : (table.packages.map fun p => (p.1, packageJson p.2)).map (·.1) =
      table.packages.map (·.1) := by
    rw [List.map_map]
    rfl
  rw [← hnames]
  exact ⟨Json.nodup_of_decoded h, fun p => Json.mem_names_iff h⟩

/-- Names that are all different come out in strict order. -/
theorem pairwise_packageNames (h : (table.packages.map (·.1)).Nodup) :
    table.packageNames.Pairwise (· < ·) := by
  rw [← List.map_id (table.packages.map (·.1))] at h
  have hsorted := Lexical.pairwise_lex_mergeSort CodePoint.strict_byKey h
  simp only [CodePoint.byKey_iff] at hsorted
  exact hsorted

theorem positive_of_holds (hpositive : ∀ p ∈ table.packages, ∀ e ∈ p.2, 0 < e.2)
    (h : table.Holds package key id) : 0 < id := by
  obtain ⟨ids, hpackage, hkey⟩ := h
  obtain ⟨before, after, hpackages, -⟩ := List.lookup_eq_some_iff.mp hpackage
  obtain ⟨front, back, hids, -⟩ := List.lookup_eq_some_iff.mp hkey
  exact hpositive (package, ids) (by simp [hpackages]) (key, id) (by simp [hids])

/-- In a table of positive identifiers zero stands for nothing else than that there is none. -/
theorem getIdentifier_of_positive (hpositive : ∀ p key id, table.Holds p key id → 0 < id)
    (name : Text) (type package : Option Text) :
    (table.getIdentifier name type package = 0 ∨ 0 < table.getIdentifier name type package) ∧
      (table.getIdentifier name type package = 0 ↔
        ∀ p key id, Resource.Denotes type package name p key → ¬ table.Holds p key id) := by
  by_cases hzero : table.getIdentifier name type package = 0
  · refine ⟨Or.inl hzero, iff_of_true hzero fun p key id hdenotes hholds => ?_⟩
    rw [getIdentifier_of_denotes hdenotes, hholds.entry_eq] at hzero
    exact Int.ne_of_gt (hpositive p key id hholds) hzero
  · obtain ⟨p, key, hdenotes, hholds⟩ := holds_of_getIdentifier_ne_zero hzero
    exact ⟨Or.inr (hpositive p key _ hholds),
      iff_of_false hzero fun hnone => hnone p key _ hdenotes hholds⟩

theorem ofBytes_of_writes {bytes : Bytes} {cs : List Char} (hdecode : Utf8.decode? bytes = some cs)
    (hw : Json.Writes cs w) : ofBytes bytes = ofJson w.decoded := by
  rw [ofBytes, hdecode]
  simp only [ofCharacters, Json.read_eq_ok_iff.mpr ⟨w, hw, rfl⟩]

theorem writes_of_ofBytes {bytes : Bytes} (h : ofBytes bytes = .ok table) :
    ∃ cs w, Utf8.decode? bytes = some cs ∧ Json.Writes cs w ∧ ofJson w.decoded = .ok table := by
  unfold ofBytes ofCharacters at h
  split at h
  · rename_i cs hdecode
    split at h
    · rename_i v hread
      obtain ⟨w, hw, rfl⟩ := Json.read_eq_ok_iff.mp hread
      exact ⟨cs, w, hdecode, hw, h⟩
    all_goals cases h
  · cases h

/-- A file gives a table just if it is JSON and its value is a table. Then the entries are the last
members with their names, the packages are the names of all members, in strict order, and an
identifier that is looked up is positive, or zero where the name stands for no entry. Where the
value is no table, the file is refused for the first thing in it that is not right, and the message
names that. -/
theorem tables_are_as_written (bytes : Bytes) :
    ((∃ table, ofBytes bytes = .ok table) ↔
      ∃ cs w, Utf8.decode? bytes = some cs ∧ Json.Writes cs w ∧ w.decoded.IsTable) ∧
    ∀ cs w, Utf8.decode? bytes = some cs → Json.Writes cs w →
      (∀ table, ofBytes bytes = .ok table →
        (∀ p key id, table.Holds p key id ↔
          ∃ entries, w.HasMember p entries ∧ entries.HasMember key (.int id)) ∧
        table.packageNames.Pairwise (· < ·) ∧
        (∀ p, p ∈ table.packageNames ↔ ∃ v, w.HasMember p v) ∧
        ∀ name type package,
          (table.getIdentifier name type package = 0 ∨
            0 < table.getIdentifier name type package) ∧
          (table.getIdentifier name type package = 0 ↔
            ∀ p key id, Resource.Denotes type package name p key → ¬ table.Holds p key id)) ∧
      ∀ fault, (ofBytes bytes = .error fault ↔ w.decoded.TableOffence fault) ∧
        ∀ place, ofBytes bytes = .error fault → fault.offender? = some place →
          ∃ front back, fault.message = front ++ ("'" ++ place ++ "'") ++ back := by
  refine ⟨⟨?_, ?_⟩, ?_⟩
  · rintro ⟨table, htable⟩
    obtain ⟨cs, w, hdecode, hw, hread⟩ := writes_of_ofBytes htable
    exact ⟨cs, w, hdecode, hw, exists_ofJson_iff.mp ⟨table, hread⟩⟩
  · rintro ⟨cs, w, hdecode, hw, hvalue⟩
    rw [ofBytes_of_writes hdecode hw]
    exact exists_ofJson_iff.mpr hvalue
  · intro cs w hdecode hw
    rw [ofBytes_of_writes hdecode hw]
    constructor
    · intro table htable
      obtain ⟨hvalue, hpositive⟩ := ofJson_eq_ok_iff.mp htable
      obtain ⟨hdistinct, hnames⟩ := names_of_decoded hvalue
      refine ⟨fun p key id => holds_iff_of_decoded hvalue, pairwise_packageNames hdistinct,
        fun p => ?_, fun name type package => ?_⟩
      · rw [packageNames, List.mem_mergeSort]
        exact hnames p
      · exact getIdentifier_of_positive (fun p key id => positive_of_holds hpositive)
          name type package
    · exact fun fault => ⟨ofJson_eq_error_iff, fun place _ => TableFault.message_names⟩

/-! A file that gives an entry twice, and one with a wrong entry before a wrong package. -/

private def repeatedText : List Char :=
  "\x7b\"app\": \x7b\"a/b\": 0, \"a/b\": 7\x7d\x7d".toList

private def wrongText : List Char :=
  "\x7b\"app\": \x7b\"a/b\": true\x7d, \"lib\": 3\x7d".toList

private def bytesOf (text : List Char) : Bytes :=
  text.map fun c => UInt8.ofNat c.toNat

/-- The first file gives a table, though the first of its entries is none. -/
theorem last_entries_held :
    (∃ table, ofBytes (bytesOf repeatedText) = .ok table ∧
      table.Holds (Text.ofString "app") (Text.ofString "a/b") 7 ∧
      Text.ofString "app" ∈ table.packageNames ∧
      0 < table.getIdentifier (Text.ofString "a/b") none (some (Text.ofString "app"))) ∧
    ofBytes (bytesOf wrongText) =
      .error (.badId (Text.ofString "app") (Text.ofString "a/b") (.bool true)) := by
  let entries : Json := .object [(Text.ofString "a/b", .int 0), (Text.ofString "a/b", .int 7)]
  have hrepeated : Json.Writes repeatedText (.object [(Text.ofString "app", entries)]) :=
    ⟨[], .object (.last rfl rfl (.object (.more rfl rfl (.scalar rfl) rfl
      (.last rfl rfl (.scalar rfl) rfl))) rfl), rfl⟩
  have hwrong : Json.Writes wrongText (.object
      [(Text.ofString "app", .object [(Text.ofString "a/b", .bool true)]),
        (Text.ofString "lib", .int 3)]) :=
    ⟨[], .object (.more rfl rfl (.object (.last rfl rfl (.scalar rfl) rfl)) rfl
      (.last rfl rfl (.scalar rfl) rfl)), rfl⟩
  have hdecodeRepeated : Utf8.decode? (bytesOf repeatedText) = some repeatedText := by
    decide +kernel
  have hdecodeWrong : Utf8.decode? (bytesOf wrongText) = some wrongText := by decide +kernel
  constructor
  · obtain ⟨haccepted, hwritten⟩ := tables_are_as_written (bytesOf repeatedText)
    obtain ⟨table, htable⟩ := haccepted.mpr ⟨_, _, hdecodeRepeated, hrepeated,
      [(Text.ofString "app", .object [(Text.ofString "a/b", .int 7)])], rfl, by
        simp [Json.IsPackage, Json.IsIdentifier]⟩
    obtain ⟨hholds, -, hnames, hlookup⟩ := (hwritten _ _ hdecodeRepeated hrepeated).1 table htable
    have hmember : Json.HasMember (.object [(Text.ofString "app", entries)])
        (Text.ofString "app") entries := ⟨[], [], rfl, nofun⟩
    have hheld : table.Holds (Text.ofString "app") (Text.ofString "a/b") 7 :=
      (hholds _ _ _).mpr ⟨entries, hmember, [(Text.ofString "a/b", .int 0)], [], rfl, nofun⟩
    have hdenotes : Resource.Denotes none (some (Text.ofString "app")) (Text.ofString "a/b")
        (Text.ofString "app") (Text.ofString "a/b") :=
      .typed (t := Text.ofString "a") (e := Text.ofString "b") (by decide) (by decide) (by decide)
        rfl
    obtain ⟨hsign, hzero⟩ := hlookup (Text.ofString "a/b") none (some (Text.ofString "app"))
    exact ⟨table, htable, hheld, (hnames _).mpr ⟨entries, hmember⟩,
      hsign.resolve_left fun h => hzero.mp h _ _ _ hdenotes hheld⟩
  · obtain ⟨-, hwritten⟩ := tables_are_as_written (bytesOf wrongText)
    obtain ⟨hoffence, -⟩ := (hwritten _ _ hdecodeWrong hwrong).2
      (.badId (Text.ofString "app") (Text.ofString "a/b") (.bool true))
    have hpackage : Json.PackageOffence (Text.ofString "app")
        (.object ([] ++ (Text.ofString "a/b", .bool true) :: [])) _ :=
      .badId nofun (by simp [Json.IsIdentifier])
    have htable : Json.TableOffence (.object ([] ++ (Text.ofString "app", _) ::
        [(Text.ofString "lib", .int 3)])) _ := .package nofun hpackage
    exact hoffence.mpr htable

end ResourceTable

end SafetyConfig
