import Mathlib.Data.List.Nodup
import Mathlib.Tactic.SplitIfs
import SafetyConfig.Proofs.Json.Member
import SafetyConfig.Proofs.Json.PrintedText
import SafetyConfig.Proofs.Number.ReadBack

/-!
# Reading what is printed

A printed value is read as that value, if its texts are strings, its numbers are integers that are
not too long, its objects have each name once, and its containers do not stand too deep in each
other.
-/

namespace SafetyConfig

namespace Digits

/-- Only zero has a numeral that starts with a zero. -/
theorem eq_zero_of_ofNat {base n : Nat} {ds : List Nat} (h : ofNat base n = 0 :: ds) :
    n = 0 ∧ ds = [] := by
  fun_induction ofNat base n generalizing ds with
  | case1 n hn ih =>
    obtain ⟨e, es, hes⟩ := List.exists_cons_of_ne_nil (ofNat_ne_nil base (n / base))
    rw [hes, List.cons_append] at h
    obtain ⟨rfl, -⟩ := List.cons.inj h
    obtain ⟨hzero, -⟩ := ih hes
    have hpos := Nat.div_pos hn.2 (by omega)
    omega
  | case2 n _ =>
    obtain ⟨rfl, rfl⟩ := List.cons.inj h
    exact ⟨rfl, rfl⟩

end Digits

namespace Json

variable {cs rest : List Char}

/-! Numbers. -/

/-- What is printed behind a value: nothing, a comma or a line break. -/
def EndsValue (rest : List Char) : Prop :=
  rest = [] ∨ ∃ tail, rest = ',' :: tail ∨ rest = '\n' :: tail

theorem isAsciiDigit_char {d : Nat} (h : d < 10) : isAsciiDigit (Digits.char d) = true := by
  revert d
  decide

theorem digitsValue_decimal (n : Nat) : digitsValue (Digits.decimal n) = n := by
  have hdigit : ∀ d < 10, (Digits.char d).toNat - 48 = d := by decide
  have hvalue : ∀ ds : List Nat, (∀ d ∈ ds, d < 10) →
      digitsValue (ds.map Digits.char) = Digits.toNat 10 ds := by
    intro ds
    induction ds using List.reverseRecOn with
    | nil => exact fun _ => rfl
    | append_singleton ds d ih =>
      intro h
      rw [Digits.toNat_append_singleton, ← ih fun e he => h e (List.mem_append_left _ he)]
      simp [digitsValue, hdigit d (h d (by simp))]
  rw [Digits.decimal, hvalue _ fun d hd => Digits.lt_of_mem_ofNat (by decide) hd,
    Digits.toNat_ofNat]

theorem span_decimal (n : Nat) (h : EndsValue rest) :
    (Digits.decimal n ++ rest).span isAsciiDigit = (Digits.decimal n, rest) := by
  have hdigits : ∀ c ∈ Digits.decimal n, isAsciiDigit c = true := by
    intro c hc
    obtain ⟨d, hd, rfl⟩ := Digits.exists_of_mem_decimal hc
    exact isAsciiDigit_char hd
  have hrest : rest.takeWhile isAsciiDigit = [] ∧ rest.dropWhile isAsciiDigit = rest := by
    rcases h with rfl | ⟨tail, rfl | rfl⟩ <;> exact ⟨rfl, rfl⟩
  rw [List.span_eq_takeWhile_dropWhile, List.takeWhile_append_of_pos hdigits,
    List.dropWhile_append_of_pos hdigits, hrest.1, hrest.2, List.append_nil]

theorem readWhole_decimal (n : Nat) (h : EndsValue rest) :
    readWhole (Digits.decimal n ++ rest) = some (Digits.decimal n, rest) := by
  have hspan := span_decimal n h
  obtain ⟨d, ds, hds⟩ := List.exists_cons_of_ne_nil (Digits.ofNat_ne_nil 10 n)
  have hd : d < 10 := Digits.lt_of_mem_ofNat (by decide) (hds ▸ List.mem_cons_self)
  rw [Digits.decimal, hds, List.map_cons, List.cons_append] at hspan ⊢
  rw [readWhole]
  by_cases hzero : d = 0
  · subst hzero
    obtain ⟨-, rfl⟩ := Digits.eq_zero_of_ofNat hds
    rfl
  · have hchar : ∀ d < 10, d ≠ 0 → Digits.char d ≠ '0' := by decide
    rw [if_neg (hchar d hd hzero), if_pos (isAsciiDigit_char hd), hspan]

theorem readNumber_decimal {n : Nat} (negative : Bool)
    (hshort : (Digits.decimal n).length ≤ Numeral.maxDigits) (h : EndsValue rest) :
    readNumber negative (Digits.decimal n ++ rest) =
      .ok (.int (if negative then -n else n), rest) := by
  have hfraction : readFraction rest = (none, rest) := by
    rcases h with rfl | ⟨tail, rfl | rfl⟩ <;> rfl
  have hexponent : readExponent rest = (none, rest) := by
    rcases h with rfl | ⟨tail, rfl | rfl⟩ <;> rfl
  rw [readNumber, readWhole_decimal n h]
  simp only [hfraction, hexponent]
  rw [if_neg (Nat.not_lt.mpr hshort), digitsValue_decimal]

/-- A digit starts no word. -/
theorem readScalar_digit {c : Char} (h : isAsciiDigit c = true) :
    readScalar (c :: cs) = readNumber false (c :: cs) := by
  unfold readScalar
  split
  case h_8 => rfl
  all_goals
    rename_i heq
    obtain ⟨rfl, -⟩ := List.cons.inj heq
    exact absurd h (by decide)

theorem readScalar_minus {c : Char} (h : isAsciiDigit c = true) :
    readScalar ('-' :: c :: cs) = readNumber true (c :: cs) := by
  rw [readScalar]
  rintro tail heq
  obtain ⟨rfl, -⟩ := List.cons.inj heq
  exact absurd h (by decide)

theorem readScalar_signedDecimal {n : Int} (hshort : Numeral.Short n) (h : EndsValue rest) :
    readScalar (Digits.signedDecimal n ++ rest) = .ok (.int n, rest) := by
  have hstart : ∀ m : Nat, ∃ c tail, Digits.decimal m = c :: tail ∧ isAsciiDigit c = true := by
    intro m
    obtain ⟨d, ds, hds⟩ := List.exists_cons_of_ne_nil (Digits.ofNat_ne_nil 10 m)
    have hd : d < 10 := Digits.lt_of_mem_ofNat (by decide) (hds ▸ List.mem_cons_self)
    exact ⟨_, _, by rw [Digits.decimal, hds, List.map_cons], isAsciiDigit_char hd⟩
  cases n with
  | ofNat m =>
    obtain ⟨c, tail, hm, hc⟩ := hstart m
    have hnumber := readNumber_decimal (n := m) false hshort h
    rw [hm] at hnumber
    rw [Digits.signedDecimal, hm, List.cons_append, readScalar_digit hc, ← List.cons_append,
      hnumber]
    rfl
  | negSucc m =>
    obtain ⟨c, tail, hm, hc⟩ := hstart (m + 1)
    have hnumber := readNumber_decimal (n := m + 1) true hshort h
    rw [hm] at hnumber
    rw [Digits.signedDecimal, hm, List.cons_append, List.cons_append, readScalar_minus hc,
      ← List.cons_append, hnumber]
    rfl

/-! Values. -/

/-- Values that are printed so that they can be read: their texts are strings, their numbers are
short integers, no object repeats a name, and there is room for so many containers in each other. -/
inductive Readable : Nat → Json → Prop
  | null {room : Nat} : Readable room .null
  | bool {room : Nat} (b : Bool) : Readable room (.bool b)
  | int {room : Nat} {n : Int} (short : Numeral.Short n) : Readable room (.int n)
  | text {room : Nat} (s : String) : Readable room (.ofString s)
  | array {room : Nat} {items : List Json} (items_readable : ∀ v ∈ items, Readable room v) :
      Readable (room + 1) (.array items)
  | record {room : Nat} {fields : List (String × Json)} (distinct : (fields.map (·.1)).Nodup)
      (fields_readable : ∀ f ∈ fields, Readable room f.2) : Readable (room + 1) (.record fields)

theorem decoded_of_readable {room : Nat} {v : Json} (h : Readable room v) : v.decoded = v := by
  induction h with
  | null => rfl
  | bool b => rfl
  | int short => rfl
  | text s => rfl
  | array _ ih =>
    rw [decoded, decodedItems_eq_map, List.map_congr_left ih, List.map_id']
  | @record _ fields distinct _ ih =>
    have hmembers : decodedMembers (fields.map fun f => (Text.ofString f.1, f.2)) =
        fields.map fun f => (Text.ofString f.1, f.2) := by
      rw [decodedMembers_eq_map, List.map_map]
      exact List.map_congr_left fun f hf => by simp [ih f hf]
    have hnames : ((fields.map fun f => (Text.ofString f.1, f.2)).map (·.1)).Nodup := by
      have hinjective : Function.Injective Text.ofString := fun _ _ => Text.ofString_injective
      have hmap := List.Nodup.map hinjective distinct
      rwa [List.map_map] at hmap ⊢
    rw [record, decoded, hmembers, putFields_of_nodup hnames, List.nil_append]

/-! White space. -/

theorem skipSpace_newline (depth : Nat) (cs : List Char) :
    skipSpace (newline depth ++ cs) = skipSpace cs := by
  rw [newline, List.cons_append, skipSpace, List.dropWhile_cons_of_pos (by decide)]
  exact List.dropWhile_append_of_pos fun c hc => by rw [List.eq_of_mem_replicate hc]; decide

theorem skipSpace_cons {c : Char} (h : isSpace c = false) : skipSpace (c :: cs) = c :: cs :=
  List.dropWhile_cons_of_neg (by simp [h])

theorem readScalar_space_ne_ok {c : Char} (h : isSpace c = true) {v : Json} :
    readScalar (c :: cs) ≠ .ok (v, rest) := by
  simp only [isSpace, Bool.or_eq_true, decide_eq_true_eq] at h
  have hmalformed : readScalar (c :: cs) = .error .malformed := by
    rcases h with ((rfl | rfl) | rfl) | rfl <;> rfl
  simp [hmalformed]

/-- No value starts with white space. -/
theorem Spells.skipSpace_eq {room : Nat} {v : Json} (h : Spells room v cs rest) :
    skipSpace cs = cs := by
  cases h with
  | scalar word =>
    cases cs with
    | nil => rfl
    | cons c cs =>
      refine skipSpace_cons ?_
      rw [Bool.eq_false_iff]
      exact fun hspace => readScalar_space_ne_ok hspace word
  | _ => exact skipSpace_cons (by decide)

theorem Spells.after_blank {room : Nat} {v : Json} (h : Spells room v cs rest) :
    Spells room v (skipSpace (' ' :: cs)) rest := by
  rwa [skipSpace, List.dropWhile_cons_of_pos (by decide), ← skipSpace, h.skipSpace_eq]

/-! Texts as they are printed. -/

theorem endsValue_comma (tail : List Char) : EndsValue (',' :: tail) :=
  .inr ⟨tail, .inl rfl⟩

theorem endsValue_newline (depth : Nat) (tail : List Char) : EndsValue (newline depth ++ tail) :=
  .inr ⟨_, .inr rfl⟩

/-- A value is written so that it is read wherever a value may end. -/
def ReadsBack (room : Nat) (v : Json) : Prop :=
  ∀ depth rest, EndsValue rest → Spells room v (v.write depth ++ rest) rest

theorem spellsItems_writeItems {room : Nat} {items : List Json} (hne : items ≠ [])
    (h : ∀ v ∈ items, ReadsBack room v) (depth outer : Nat) (rest : List Char) :
    SpellsItems room items
      (skipSpace (writeItems depth items ++ (newline outer ++ ']' :: rest))) rest := by
  induction items with
  | nil => exact absurd rfl hne
  | cons v vs ih =>
    obtain ⟨hv, hvs⟩ := List.forall_mem_cons.mp h
    cases vs with
    | nil =>
      have hitem := hv depth _ (endsValue_newline outer (']' :: rest))
      rw [writeItems, List.append_assoc, skipSpace_newline, hitem.skipSpace_eq]
      refine .last hitem ?_
      rw [skipSpace_newline]
      rfl
    | cons next vs =>
      have hitem := hv depth _ (endsValue_comma
        (writeItems depth (next :: vs) ++ (newline outer ++ ']' :: rest)))
      have hbody := ih (List.cons_ne_nil _ _) hvs
      rw [writeItems]
      · simp only [List.append_assoc, List.cons_append, List.nil_append]
        rw [skipSpace_newline, hitem.skipSpace_eq]
        exact .more hitem rfl hbody
      · exact List.cons_ne_nil _ _

theorem readText_member (name : String) (rest : List Char) :
    readText false [] ((Text.ofString name).flatMap writeCodePoint ++ '"' :: rest) =
      .ok (Text.ofString name, rest) := by
  rw [readText_writeText]
  rfl

theorem spellsMembers_writeFields {room : Nat} {fields : List (String × Json)} (hne : fields ≠ [])
    (h : ∀ f ∈ fields, ReadsBack room f.2) (depth outer : Nat) (rest : List Char) :
    SpellsMembers room (fields.map fun f => (Text.ofString f.1, f.2))
      (skipSpace (writeFields depth (fields.map fun f => (Text.ofString f.1, f.2)) ++
        (newline outer ++ '}' :: rest))) rest := by
  induction fields with
  | nil => exact absurd rfl hne
  | cons f fs ih =>
    obtain ⟨hf, hfs⟩ := List.forall_mem_cons.mp h
    cases fs with
    | nil =>
      have hitem := hf depth _ (endsValue_newline outer ('}' :: rest))
      rw [List.map_singleton, writeFields, writeText]
      simp only [List.append_assoc, List.cons_append, List.nil_append]
      rw [skipSpace_newline, skipSpace_cons (by decide)]
      refine .last (readText_member f.1 _) (skipSpace_cons (by decide)) (hitem.after_blank) ?_
      rw [skipSpace_newline]
      exact skipSpace_cons (by decide)
    | cons next fs =>
      have hitem := hf depth _ (endsValue_comma
        (writeFields depth ((next :: fs).map fun f => (Text.ofString f.1, f.2)) ++
          (newline outer ++ '}' :: rest)))
      have hbody := ih (List.cons_ne_nil _ _) hfs
      rw [List.map_cons, writeFields, writeText]
      · simp only [List.append_assoc, List.cons_append, List.nil_append]
        rw [skipSpace_newline, skipSpace_cons (by decide)]
        exact .more (readText_member f.1 _) (skipSpace_cons (by decide)) hitem.after_blank
          (skipSpace_cons (by decide)) hbody
      · simp

theorem spells_write {room : Nat} {v : Json} (h : Readable room v) : ReadsBack room v := by
  induction h with
  | null => exact fun _ _ _ => .scalar rfl
  | bool b => cases b <;> exact fun _ _ _ => .scalar rfl
  | int short => exact fun _ _ hrest => .scalar (readScalar_signedDecimal short hrest)
  | text s =>
    intro depth rest _
    rw [ofString, write, writeText]
    simp only [List.append_assoc, List.cons_append, List.nil_append]
    exact .text (readText_member s rest)
  | @array _ items _ ih =>
    intro depth rest _
    by_cases hne : items = []
    · subst hne
      exact .emptyArray rfl
    · rw [write]
      · simp only [List.append_assoc, List.cons_append, List.nil_append]
        exact .array (spellsItems_writeItems hne ih _ _ _)
      · exact hne
  | @record _ fields _ _ ih =>
    intro depth rest _
    by_cases hne : fields = []
    · subst hne
      exact .emptyObject rfl
    · rw [record, write]
      · simp only [List.append_assoc, List.cons_append, List.nil_append]
        exact .object (spellsMembers_writeFields hne ih _ _ _)
      · simpa using hne

/-- What is printed is read as the value that it was printed from. -/
theorem read_write {v : Json} (h : Readable maxDepth v) : read (v.write 0) = .ok v := by
  have hspells := spells_write h 0 [] (.inl rfl)
  rw [List.append_nil] at hspells
  refine read_eq_ok_iff.mpr ⟨v, ⟨[], ?_, rfl⟩, (decoded_of_readable h).symm⟩
  rwa [hspells.skipSpace_eq]

/-! No number that is read is too long to be printed. -/

theorem digitsValue_lt_pow {ds : List Char} (h : ∀ c ∈ ds, isAsciiDigit c = true) :
    digitsValue ds < 10 ^ ds.length := by
  induction ds using List.reverseRecOn with
  | nil => decide
  | append_singleton ds c ih =>
    have hrest := ih fun d hd => h d (List.mem_append_left _ hd)
    have hc : c.toNat - 48 < 10 := by
      have hdigit := h c (by simp)
      simp only [isAsciiDigit, Bool.and_eq_true, decide_eq_true_eq, Char.le_def,
        UInt32.le_iff_toNat_le] at hdigit
      have hnine : c.toNat ≤ 57 := hdigit.2
      omega
    have hvalue : digitsValue (ds ++ [c]) = digitsValue ds * 10 + (c.toNat - 48) := by
      simp [digitsValue]
    rw [hvalue, List.length_append, List.length_singleton, Nat.pow_succ]
    omega

theorem isAsciiDigit_of_readWhole {whole : List Char} (h : readWhole cs = some (whole, rest)) :
    ∀ c ∈ whole, isAsciiDigit c = true := by
  cases cs with
  | nil => cases h
  | cons c cs =>
    rw [readWhole] at h
    split_ifs at h with hzero hdigit
    · cases h
      rw [List.forall_mem_singleton, hzero]
      decide
    · rw [List.span_eq_takeWhile_dropWhile] at h
      cases h
      exact fun d hd => List.mem_takeWhile_imp hd

theorem short_of_readNumber {negative : Bool} {n : Int}
    (h : readNumber negative cs = .ok (.int n, rest)) : Numeral.Short n := by
  unfold readNumber at h
  cases hwhole : readWhole cs with
  | none => simp [hwhole] at h
  | some parts =>
    obtain ⟨whole, after⟩ := parts
    have hlt := digitsValue_lt_pow (isAsciiDigit_of_readWhole hwhole)
    simp only [hwhole] at h
    split at h
    · split at h
      · cases h
      · rename_i hlength
        have hpow := Nat.pow_le_pow_right (n := 10) (by decide) (Nat.le_of_not_lt hlength)
        cases h
        refine Numeral.short_iff_lt_pow.mpr (Nat.lt_of_lt_of_le ?_ hpow)
        cases negative <;> simpa using hlt
    · cases h

theorem short_of_readScalar {n : Int} (h : readScalar cs = .ok (.int n, rest)) :
    Numeral.Short n := by
  unfold readScalar at h
  split at h
  case h_7 => exact short_of_readNumber h
  case h_8 => exact short_of_readNumber h
  all_goals cases h

theorem short_of_spells {room : Nat} {n : Int} (h : Spells room (.int n) cs rest) :
    Numeral.Short n := by
  cases h with
  | scalar word => exact short_of_readScalar word

theorem readScalar_ne_object {members : List (Text × Json)} :
    readScalar cs ≠ .ok (.object members, rest) := by
  intro h
  have hnumber {negative : Bool} {cs : List Char} :
      readNumber negative cs ≠ .ok (.object members, rest) := by
    intro h
    rcases number_of_readNumber h with ⟨n, hn⟩ | ⟨x, hx⟩
    · cases hn
    · cases hx
  unfold readScalar at h
  split at h
  case h_7 => exact hnumber h
  case h_8 => exact hnumber h
  all_goals cases h

/-- What is written as a member is written for itself. -/
theorem exists_spells_of_spellsMembers {room : Nat} {members : List (Text × Json)}
    (h : SpellsMembers room members cs rest) :
    ∀ m ∈ members, ∃ cs' rest', Spells room m.2 cs' rest' := by
  induction members generalizing cs with
  | nil => exact List.forall_mem_nil _
  | cons m ms ih =>
    cases h with
    | last _ _ item _ => exact List.forall_mem_singleton.mpr ⟨_, _, item⟩
    | more _ _ item _ body => exact List.forall_mem_cons.mpr ⟨⟨_, _, item⟩, ih body⟩

theorem Spells.exists_spells_of_hasMember {room : Nat} {w v : Json} {name : Text}
    (h : Spells room w cs rest) (hmember : w.HasMember name v) :
    ∃ room' cs' rest', Spells room' v cs' rest' := by
  obtain ⟨before, after, rfl, -⟩ := hmember
  generalize hmembers : before ++ (name, v) :: after = members at h
  have hmem : (name, v) ∈ members := by
    rw [← hmembers]
    simp
  cases h with
  | scalar word => exact absurd word readScalar_ne_object
  | emptyObject => cases hmem
  | object body =>
    obtain ⟨cs', rest', hspells⟩ := exists_spells_of_spellsMembers body _ hmem
    exact ⟨_, cs', rest', hspells⟩

end Json

end SafetyConfig
