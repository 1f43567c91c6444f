import SafetyConfig.Proofs.Number.ReadBack
import SafetyConfig.Proofs.Text.Lowercase
import SafetyConfig.Raw.Reader

/-!
# The texts of attributes

Which texts an attribute can have and what they mean, for each form of value: a code or one of the
names that stand for codes, an integer, a boolean. The forms speak of trimmed texts, and for codes
and booleans of their small letters. No text has two meanings, since no name looks like a number.
-/

namespace SafetyConfig

section Tables

variable {α β : Type} [BEq α] [LawfulBEq α] {table : List (α × β)} {key : α} {value : β}

/-- In a table without repeated keys everything can be looked up. -/
theorem lookup_eq_some_iff_mem (h : (table.map (·.1)).Nodup) :
    table.lookup key = some value ↔ (key, value) ∈ table := by
  constructor
  · intro hlookup
    obtain ⟨front, back, rfl, -⟩ := List.lookup_eq_some_iff.mp hlookup
    exact List.mem_append_right _ List.mem_cons_self
  · intro hmem
    obtain ⟨front, back, rfl⟩ := List.append_of_mem hmem
    rw [List.map_append, List.map_cons, List.nodup_append] at h
    refine List.lookup_eq_some_iff.mpr ⟨front, back, rfl, ?_⟩
    intro pair hpair
    have hapart := h.2.2 pair.1 (List.mem_map_of_mem hpair) key List.mem_cons_self
    exact bne_iff_ne.mpr hapart.symm

end Tables

/-! The forms. -/

/-- The text is a name of the number or a numeral for it. -/
def CodeText (names : List (String × Int)) (text : String) (n : Int) : Prop :=
  (∃ name, (name, n) ∈ names ∧ attributeToken text = name.toList) ∨
    Numeral.Code (attributeToken text) n

def IntegerText (text : String) (n : Int) : Prop :=
  Numeral.Signed (Blank.trim text.toList) n

def BooleanText (text : String) : Bool → Prop
  | true => attributeToken text = "true".toList ∨ attributeToken text = "1".toList
  | false => attributeToken text = "false".toList ∨ attributeToken text = "0".toList

inductive ValueForm where
  | code (names : List (String × Int))
  | integer
  | boolean
  deriving DecidableEq, Repr

namespace ValueForm

/-- The words that a value of this form may be. -/
def names : ValueForm → List String
  | .code names => names.map (·.1)
  | .integer => []
  | .boolean => booleanNames.map (·.1)

/-- The text is a value of this form. -/
def Accepts (form : ValueForm) (text : String) : Prop :=
  match form with
  | .code names => ∃ n, CodeText names text n
  | .integer => ∃ n, IntegerText text n
  | .boolean => ∃ b, BooleanText text b

end ValueForm

/-- The attributes of a source that are more than texts, in the order they are read in. -/
def RawSource.forms : List (Field × ValueForm) :=
  [(.kind, .code SourceKind.named), (.profile, .code Profile.named),
    (.displayState, .code DisplayState.named), (.maxSeverity, .integer),
    (.disallowLogging, .boolean), (.refreshOnOpen, .boolean)]

def RawGroup.forms : List (Field × ValueForm) :=
  [(.icon, .code IconKind.named)]

/-- All attributes that are more than texts. -/
def valueForms : List (Field × ValueForm) :=
  RawGroup.forms ++ RawSource.forms

/-! Words are ASCII, and none of them looks like a number. -/

theorem ascii_of_mem_names {field : Field} {form : ValueForm} {name : String}
    (h : (field, form) ∈ valueForms) (hname : name ∈ form.names) :
    Lowercase.Ascii name.toList ∧ 'k' ∉ name.toList := by
  have hall : ∀ entry ∈ valueForms, ∀ name ∈ entry.2.names,
      Lowercase.Ascii name.toList ∧ 'k' ∉ name.toList := by decide +kernel
  exact hall (field, form) h name hname

theorem attributeToken_eq_name_iff {field : Field} {form : ValueForm} {name text : String}
    (h : (field, form) ∈ valueForms) (hname : name ∈ form.names) :
    attributeToken text = name.toList ↔
      (Blank.trim text.toList).map Char.toLower = name.toList :=
  Lowercase.lower_eq_iff (ascii_of_mem_names h hname).1 (ascii_of_mem_names h hname).2

/-- Names are told apart from each other and from numerals. -/
structure Unambiguous (names : List (String × Int)) : Prop where
  distinct : (names.map (·.1)).Nodup
  wordy : ∀ entry ∈ names, looksNumeric entry.1.toList = false

theorem unambiguous_of_mem {field : Field} {names : List (String × Int)}
    (h : (field, ValueForm.code names) ∈ valueForms) : Unambiguous names := by
  have hall : ∀ names ∈ [IconKind.named, SourceKind.named, Profile.named, DisplayState.named],
      (names.map (·.1)).Nodup ∧ ∀ entry ∈ names, looksNumeric entry.1.toList = false := by
    decide +kernel
  have hmem : names ∈ [IconKind.named, SourceKind.named, Profile.named, DisplayState.named] := by
    simp only [valueForms, RawGroup.forms, RawSource.forms, List.mem_append, List.mem_cons,
      Prod.mk.injEq, ValueForm.code.injEq, reduceCtorEq] at h ⊢
    tauto
  exact ⟨(hall names hmem).1, (hall names hmem).2⟩

/-! Tokens that look numeric. -/

theorem looksNumeric_iff {token : List Char} : looksNumeric token = true ↔
    token.dropWhile (· == '-') ≠ [] ∧
      ∀ c ∈ token.dropWhile (· == '-'), Digit.isDigitSign c = true := by
  simp [looksNumeric]

theorem of_mem_of_looksNumeric {token : List Char} {c : Char} (h : looksNumeric token = true)
    (hc : c ∈ token) : c = '-' ∨ Digit.isDigitSign c = true := by
  rw [← List.takeWhile_append_dropWhile (p := (· == '-')) (l := token)] at hc
  rcases List.mem_append.mp hc with hdash | hdigit
  · exact Or.inl (beq_iff_eq.mp (List.all_eq_true.mp List.all_takeWhile c hdash))
  · exact Or.inr ((looksNumeric_iff.mp h).2 c hdigit)

theorem looksNumeric_of_plain {cs : List Char} {ds : List Nat} (h : Numeral.Plain cs ds)
    (hne : ds ≠ []) : looksNumeric cs = true := by
  have hdrop : cs.dropWhile (· == '-') = cs := by
    cases h with
    | nil => rfl
    | cons digit _ => simp [(Digit.ne_of_value? digit).1]
  rw [looksNumeric_iff, hdrop]
  refine ⟨?_, h.isDigitSign⟩
  rintro rfl
  cases h
  exact hne rfl

theorem looksNumeric_of_code {token : List Char} {n : Int} (h : Numeral.Code token n) :
    looksNumeric token = true := by
  cases h with
  | bare form value => exact looksNumeric_of_plain form value.ne_nil
  | minus form value =>
    have := looksNumeric_of_plain form value.ne_nil
    simpa [looksNumeric] using this

theorem read_eq_ok_iff_of_looksNumeric {token : List Char} {n : Int}
    (h : looksNumeric token = true) : Numeral.read token = .ok n ↔ Numeral.Code token n := by
  have hblank : ∀ c ∈ token, Blank.isBlank c = false := by
    intro c hc
    rcases of_mem_of_looksNumeric h hc with rfl | hsign
    · decide
    · exact Digit.isBlank_of_isDigitSign hsign
  have hplus : '+' ∉ token := fun hc => absurd (of_mem_of_looksNumeric h hc) (by decide)
  have hbar : '_' ∉ token := fun hc => absurd (of_mem_of_looksNumeric h hc) (by decide)
  rw [Numeral.read, Blank.trim_eq_self hblank, Numeral.readSigned_eq_ok_iff]
  exact ⟨fun hsigned => hsigned.code hplus hbar, Numeral.Code.signed⟩

/-! The readers go by the forms. -/

section Readers

variable {field : Field} {names : List (String × Int)} {text : String}

theorem readCode_eq_ok_iff {n : Int} (hnames : Unambiguous names) :
    readCode field names (some text) = .ok n ↔ CodeText names text n := by
  simp only [readCode]
  cases hlookup : names.lookup (String.ofList (attributeToken text)) with
  | some code =>
    have hmem := (lookup_eq_some_iff_mem hnames.distinct).mp hlookup
    constructor
    · rintro ⟨⟩
      exact Or.inl ⟨_, hmem, by simp⟩
    · rintro (⟨name, hname, htoken⟩ | hcode)
      · have hsame : String.ofList (attributeToken text) = name := by
          rw [htoken, String.ofList_toList]
        rw [hsame, (lookup_eq_some_iff_mem hnames.distinct).mpr hname] at hlookup
        rw [Option.some.inj hlookup]
      · -- the token is a name, and no name looks like a number
        have hwordy := hnames.wordy _ hmem
        rw [String.toList_ofList, looksNumeric_of_code hcode] at hwordy
        cases hwordy
  | none =>
    have hnone : ¬ ∃ name, (name, n) ∈ names ∧ attributeToken text = name.toList := by
      rintro ⟨name, hname, htoken⟩
      rw [htoken, String.ofList_toList, (lookup_eq_some_iff_mem hnames.distinct).mpr hname]
        at hlookup
      cases hlookup
    rw [CodeText, or_iff_right hnone]
    cases hlooks : looksNumeric (attributeToken text) with
    | true =>
      rw [← read_eq_ok_iff_of_looksNumeric hlooks, readCodeNumeral]
      cases Numeral.read (attributeToken text) with
      | ok m => simp
      | error fault => cases fault <;> simp
    | false =>
      simp only [Bool.false_eq_true, if_false, reduceCtorEq, false_iff]
      intro hcode
      rw [looksNumeric_of_code hcode] at hlooks
      cases hlooks

theorem readInteger_eq_ok_iff {value : Option Int} :
    readInteger field (some text) = .ok value ↔ ∃ n, value = some n ∧ IntegerText text n := by
  simp only [readInteger, IntegerText, ← Numeral.read_trim_eq_ok_iff]
  cases Numeral.read (Blank.trim text.toList) with
  | ok m => simp [eq_comm]
  | error fault => simp

theorem readBoolean_eq_ok_iff {b : Bool} :
    readBoolean field (some text) = .ok b ↔ BooleanText text b := by
  have hmem : booleanNames.lookup (String.ofList (attributeToken text)) = some b ↔
      BooleanText text b := by
    rw [lookup_eq_some_iff_mem (by decide)]
    cases b <;> simp [booleanNames, BooleanText, ← String.toList_inj]
  rw [← hmem]
  simp only [readBoolean]
  cases booleanNames.lookup (String.ofList (attributeToken text)) with
  | some b' => simp
  | none => simp

end Readers

/-! The decimal text of an integer is a value of it wherever an integer can stand. -/

theorem attributeToken_signedDecimal (n : Int) :
    attributeToken (String.ofList (Digits.signedDecimal n)) = Digits.signedDecimal n := by
  rw [attributeToken, String.toList_ofList, Numeral.trim_signedDecimal]
  refine Lowercase.lower_eq_self fun c hc => ?_
  rcases Digits.eq_dash_or_exists_of_mem_signedDecimal hc with rfl | ⟨d, hd, rfl⟩
  · decide
  · have hall : ∀ d < 10,
        (Digits.char d).toNat < 128 ∧ (Digits.char d).toLower = Digits.char d := by
      decide
    exact hall d hd

theorem codeText_signedDecimal {n : Int} (h : Numeral.Short n) (names : List (String × Int)) :
    CodeText names (String.ofList (Digits.signedDecimal n)) n := by
  right
  rw [attributeToken_signedDecimal]
  exact Numeral.code_signedDecimal h

theorem integerText_signedDecimal {n : Int} (h : Numeral.Short n) :
    IntegerText (String.ofList (Digits.signedDecimal n)) n := by
  rw [IntegerText, String.toList_ofList, Numeral.trim_signedDecimal]
  exact (Numeral.code_signedDecimal h).signed

/-- What the texts of attributes mean: those of the right form have the value that they are the
form of, and there are no others. An absent attribute has the value that stands for none. -/
theorem attribute_texts_mean_their_forms :
    (∀ field names, (field, ValueForm.code names) ∈ valueForms → ∀ text n,
      readCode field names (some text) = .ok n ↔ CodeText names text n) ∧
    (∀ field text value,
      readInteger field (some text) = .ok value ↔ ∃ n, value = some n ∧ IntegerText text n) ∧
    (∀ field text b, readBoolean field (some text) = .ok b ↔ BooleanText text b) ∧
    (∀ field names, readCode field names none = .ok 0 ∧ readInteger field none = .ok none ∧
      readBoolean field none = .ok false) ∧
    (∀ n, Numeral.Short n →
      (∀ field names, (field, ValueForm.code names) ∈ valueForms →
        readCode field names (some (String.ofList (Digits.signedDecimal n))) = .ok n) ∧
      ∀ field, readInteger field (some (String.ofList (Digits.signedDecimal n))) = .ok (some n)) ∧
    (∀ field form, (field, form) ∈ valueForms → ∀ name ∈ form.names, ∀ text,
      attributeToken text = name.toList ↔
        (Blank.trim text.toList).map Char.toLower = name.toList) := by
  refine ⟨?_, ?_, ?_, ?_, ?_, ?_⟩
  · intro field names h text n
    exact readCode_eq_ok_iff (unambiguous_of_mem h)
  · intro field text value
    exact readInteger_eq_ok_iff
  · intro field text b
    exact readBoolean_eq_ok_iff
  · intro field names
    exact ⟨rfl, rfl, rfl⟩
  · intro n hn
    constructor
    · intro field names h
      exact (readCode_eq_ok_iff (unambiguous_of_mem h)).mpr (codeText_signedDecimal hn names)
    · intro field
      exact readInteger_eq_ok_iff.mpr ⟨n, rfl, integerText_signedDecimal hn⟩
  · intro field form h name hname text
    exact attributeToken_eq_name_iff h hname

theorem capitals_and_decimals_are_read :
    readCode .kind SourceKind.named (some " DYnamic\n") = .ok 2 ∧
    readCode .icon IconKind.named (some (String.ofList (Digits.signedDecimal (-12)))) = .ok (-12) ∧
    attributeToken "AlL" = "all".toList := by
  obtain ⟨hcode, -, -, -, hdecimal, hname⟩ := attribute_texts_mean_their_forms
  refine ⟨?_, ?_, ?_⟩
  · exact (hcode .kind _ (by decide) _ 2).mpr (Or.inl ⟨"dynamic", by decide, by decide +kernel⟩)
  · exact (hdecimal (-12) (by decide +kernel)).1 .icon _ (by decide)
  · exact (hname .profile (.code Profile.named) (by decide) "all" (by decide) "AlL").mpr (by decide)

end SafetyConfig
