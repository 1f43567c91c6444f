import Mathlib.Data.List.TakeDrop
import SafetyConfig.Json.Reader

/-!
# The grammar of JSON

A text is read if it is written by the grammar, and then it is read as the value of what it says.
What is written may give one name to several members of an object; of these the value has the last,
at the place of the first. Texts, numbers and words are read by themselves, and the grammar says how
they make up containers, which may stand in each other to a certain depth.
-/

namespace SafetyConfig.Json

/-! What is written, and the value of it. -/

/-- Set fields one after the other. -/
def putFields (fields members : List (Text × Json)) : List (Text × Json) :=
  members.foldl (fun fields m => putField m.1 m.2 fields) fields

mutual

/-- The value of what is written; there, an object may repeat a name. -/
def decoded : Json → Json
  | .array items => .array (decodedItems items)
  | .object members => .object (putFields [] (decodedMembers members))
  | v => v

def decodedItems : List Json → List Json
  | [] => []
  | v :: vs => v.decoded :: decodedItems vs

def decodedMembers : List (Text × Json) → List (Text × Json)
  | [] => []
  | (name, v) :: ms => (name, v.decoded) :: decodedMembers ms

end

mutual

/-- What is written at the start of a text, with room for so many containers in each other, and the
text after it. -/
inductive Spells : Nat → Json → List Char → List Char → Prop
  | scalar {room : Nat} {v : Json} {cs rest : List Char} (word : readScalar cs = .ok (v, rest)) :
      Spells room v cs rest
  | text {room : Nat} {t : Text} {cs rest : List Char}
      (units : readText false [] cs = .ok (t, rest)) : Spells room (.text t) ('"' :: cs) rest
  | emptyArray {room : Nat} {cs rest : List Char} (close : skipSpace cs = ']' :: rest) :
      Spells (room + 1) (.array []) ('[' :: cs) rest
  | array {room : Nat} {items : List Json} {cs rest : List Char}
      (body : SpellsItems room items (skipSpace cs) rest) :
      Spells (room + 1) (.array items) ('[' :: cs) rest
  | emptyObject {room : Nat} {cs rest : List Char} (close : skipSpace cs = '}' :: rest) :
      Spells (room + 1) (.object []) ('{' :: cs) rest
  | object {room : Nat} {members : List (Text × Json)} {cs rest : List Char}
      (body : SpellsMembers room members (skipSpace cs) rest) :
      Spells (room + 1) (.object members) ('{' :: cs) rest

/-- The items of an array, with its end. -/
inductive SpellsItems : Nat → List Json → List Char → List Char → Prop
  | last {room : Nat} {v : Json} {cs afterItem rest : List Char} (item : Spells room v cs afterItem)
      (close : skipSpace afterItem = ']' :: rest) : SpellsItems room [v] cs rest
  | more {room : Nat} {v : Json} {vs : List Json} {cs afterItem others rest : List Char}
      (item : Spells room v cs afterItem) (comma : skipSpace afterItem = ',' :: others)
      (body : SpellsItems room vs (skipSpace others) rest) : SpellsItems room (v :: vs) cs rest

/-- The members of an object, with its end. -/
inductive SpellsMembers : Nat → List (Text × Json) → List Char → List Char → Prop
  | last {room : Nat} {name : Text} {v : Json} {cs afterName value afterValue rest : List Char}
      (units : readText false [] cs = .ok (name, afterName))
      (colon : skipSpace afterName = ':' :: value)
      (item : Spells room v (skipSpace value) afterValue)
      (close : skipSpace afterValue = '}' :: rest) : SpellsMembers room [(name, v)] ('"' :: cs) rest
  | more {room : Nat} {name : Text} {v : Json} {ms : List (Text × Json)}
      {cs afterName value afterValue others rest : List Char}
      (units : readText false [] cs = .ok (name, afterName))
      (colon : skipSpace afterName = ':' :: value)
      (item : Spells room v (skipSpace value) afterValue)
      (comma : skipSpace afterValue = ',' :: others)
      (body : SpellsMembers room ms (skipSpace others) rest) :
      SpellsMembers room ((name, v) :: ms) ('"' :: cs) rest

end

/-- All of a text says this, with white space around it. -/
def Writes (cs : List Char) (written : Json) : Prop :=
  ∃ rest, Spells maxDepth written (skipSpace cs) rest ∧ skipSpace rest = []

/-! Reading takes characters away. -/

theorem length_skipSpace_le (cs : List Char) : (skipSpace cs).length ≤ cs.length :=
  (List.dropWhile_sublist isSpace).length_le

theorem length_lt_of_skipSpace {cs rest : List Char} {c : Char} (h : skipSpace cs = c :: rest) :
    rest.length < cs.length := by
  have hle := length_skipSpace_le cs
  rw [h, List.length_cons] at hle
  omega

theorem length_lt_of_readText {high : Bool} {units : List CodePoint} {cs rest : List Char}
    {t : Text} (h : readText high units cs = .ok (t, rest)) : rest.length < cs.length := by
  fun_induction readText high units cs <;> simp_all <;> omega

theorem append_of_span {p : Char → Bool} {cs front rest : List Char}
    (h : cs.span p = (front, rest)) : front ++ rest = cs := by
  rw [List.span_eq_takeWhile_dropWhile] at h
  cases h
  exact List.takeWhile_append_dropWhile

theorem length_lt_of_readWhole {cs whole rest : List Char} (h : readWhole cs = some (whole, rest)) :
    rest.length < cs.length := by
  cases cs with
  | nil => cases h
  | cons c cs =>
    simp only [readWhole] at h
    split at h
    · cases h
      exact Nat.lt_succ_self _
    · split at h
      · rename_i hdigit
        rw [List.span_eq_takeWhile_dropWhile, List.dropWhile_cons_of_pos hdigit] at h
        cases h
        have hle := (List.dropWhile_sublist (l := cs) isAsciiDigit).length_le
        rw [List.length_cons]
        omega
      · cases h

theorem length_readFraction_le (cs : List Char) : (readFraction cs).2.length ≤ cs.length := by
  unfold readFraction
  split
  · split
    · simp
    · rename_i hspan
      simp only [← append_of_span hspan, List.length_cons, List.length_append]
      omega
  · simp

theorem length_le_of_exponentDigits {negative : Bool} {cs rest : List Char} {e : Int}
    (h : exponentDigits negative cs = some (e, rest)) : rest.length ≤ cs.length := by
  unfold exponentDigits at h
  split at h
  · cases h
  · rename_i hspan
    cases h
    rw [← append_of_span hspan, List.length_append]
    omega

theorem length_readExponent_le (cs : List Char) : (readExponent cs).2.length ≤ cs.length := by
  unfold readExponent
  split
  case h_7 => exact Nat.le_refl _
  all_goals
    dsimp only
    split
    · rename_i hfound
      have hle := length_le_of_exponentDigits hfound
      simp only [List.length_cons]
      omega
    · exact Nat.le_refl _

theorem length_lt_of_readNumber {negative : Bool} {cs rest : List Char} {v : Json}
    (h : readNumber negative cs = .ok (v, rest)) : rest.length < cs.length := by
  unfold readNumber at h
  cases hwhole : readWhole cs with
  | none => simp [hwhole] at h
  | some parts =>
    obtain ⟨whole, after⟩ := parts
    have hlt := length_lt_of_readWhole hwhole
    have hfraction := length_readFraction_le after
    have hexponent := length_readExponent_le (readFraction after).2
    have hrest : rest = (readExponent (readFraction after).2).2 := by
      simp only [hwhole] at h
      split at h
      · split at h <;> cases h
        rfl
      · cases h
        rfl
    rw [hrest]
    omega

theorem length_lt_of_readScalar {cs rest : List Char} {v : Json}
    (h : readScalar cs = .ok (v, rest)) : rest.length < cs.length := by
  unfold readScalar at h
  split at h
  case h_7 =>
    have hlt := length_lt_of_readNumber h
    rw [List.length_cons]
    omega
  case h_8 => exact length_lt_of_readNumber h
  all_goals
    cases h
    simp only [List.length_cons]
    omega

/-! What is read by itself. -/

/-- A number that has been read is an integer or a floating point number. -/
theorem number_of_readNumber {negative : Bool} {cs rest : List Char} {v : Json}
    (h : readNumber negative cs = .ok (v, rest)) : (∃ n, v = .int n) ∨ ∃ x, v = .real x := by
  unfold readNumber at h
  cases hwhole : readWhole cs with
  | none => simp [hwhole] at h
  | some parts =>
    simp only [hwhole] at h
    split at h
    · split at h <;> cases h
      exact Or.inl ⟨_, rfl⟩
    · cases h
      exact Or.inr ⟨_, rfl⟩

theorem decoded_of_readScalar {cs rest : List Char} {v : Json}
    (h : readScalar cs = .ok (v, rest)) : v.decoded = v := by
  have hnumber (negative : Bool) {cs : List Char} (h : readNumber negative cs = .ok (v, rest)) :
      v.decoded = v := by
    rcases number_of_readNumber h with ⟨n, rfl⟩ | ⟨x, rfl⟩ <;> rw [decoded] <;> simp
  unfold readScalar at h
  split at h
  case h_7 => exact hnumber true h
  case h_8 => exact hnumber false h
  all_goals
    cases h
    rw [decoded] <;> simp

/-- The marks that start a text or a container, or end an array, start no word. -/
theorem readScalar_mark_ne_ok {c : Char} (hmark : c ∈ ['"', '[', '{', ']']) {cs rest : List Char}
    {v : Json} : readScalar (c :: cs) ≠ .ok (v, rest) := by
  have hmalformed : readScalar (c :: cs) = .error .malformed := by
    simp only [List.mem_cons, List.not_mem_nil, or_false] at hmark
    rcases hmark with rfl | rfl | rfl | rfl <;> rfl
  simp [hmalformed]

/-! What is read is written. -/

/-- With so much fuel, what the readers find is what is written. -/
structure Sound (fuel : Nat) : Prop where
  value {room : Nat} {cs rest : List Char} {v : Json} (h : readValue fuel room cs = .ok (v, rest)) :
    ∃ w, Spells room w cs rest ∧ v = w.decoded
  items {room : Nat} {before : List Json} {cs rest : List Char} {v : Json}
    (h : readItems fuel room before cs = .ok (v, rest)) :
    ∃ ws, SpellsItems room ws cs rest ∧ v = .array (before.reverse ++ decodedItems ws)
  fields {room : Nat} {before : List (Text × Json)} {cs rest : List Char} {v : Json}
    (h : readFields fuel room before cs = .ok (v, rest)) :
    ∃ ms, SpellsMembers room ms cs rest ∧ v = .object (putFields before (decodedMembers ms))

theorem Sound.value_succ {fuel : Nat} (hsound : Sound fuel) {room : Nat} {cs rest : List Char}
    {v : Json} (h : readValue (fuel + 1) room cs = .ok (v, rest)) :
    ∃ w, Spells room w cs rest ∧ v = w.decoded := by
  unfold readValue at h
  split at h
  · rename_i r
    cases htext : readText false [] r with
    | error e => simp [htext, Except.map] at h
    | ok parts =>
      simp only [htext, Except.map, Except.ok.injEq, Prod.mk.injEq] at h
      obtain ⟨rfl, rfl⟩ := h
      exact ⟨_, .text htext, by simp [decoded]⟩
  · cases room with
    | zero => simp at h
    | succ room =>
      simp only at h
      split at h
      · rename_i hclose
        cases h
        exact ⟨_, .emptyArray hclose, by simp [decoded, decodedItems]⟩
      · obtain ⟨ws, hbody, rfl⟩ := hsound.items h
        exact ⟨_, .array hbody, by simp [decoded]⟩
  · cases room with
    | zero => simp at h
    | succ room =>
      simp only at h
      split at h
      · rename_i hclose
        cases h
        exact ⟨_, .emptyObject hclose, by simp [decoded, decodedMembers, putFields]⟩
      · obtain ⟨ms, hbody, rfl⟩ := hsound.fields h
        exact ⟨_, .object hbody, by simp [decoded]⟩
  · exact ⟨v, .scalar h, (decoded_of_readScalar h).symm⟩

theorem Sound.items_succ {fuel : Nat} (hsound : Sound fuel) {room : Nat} {before : List Json}
    {cs rest : List Char} {v : Json} (h : readItems (fuel + 1) room before cs = .ok (v, rest)) :
    ∃ ws, SpellsItems room ws cs rest ∧ v = .array (before.reverse ++ decodedItems ws) := by
  unfold readItems at h
  cases hitem : readValue fuel room cs with
  | error e => simp [hitem] at h
  | ok parts =>
    obtain ⟨item, afterItem⟩ := parts
    obtain ⟨w, hw, rfl⟩ := hsound.value hitem
    simp only [hitem] at h
    split at h
    · rename_i others hcomma
      obtain ⟨ws, hbody, rfl⟩ := hsound.items h
      exact ⟨w :: ws, .more hw hcomma hbody, by simp [decodedItems]⟩
    · rename_i hclose
      cases h
      exact ⟨[w], .last hw hclose, by simp [decodedItems]⟩
    · cases h

theorem Sound.fields_succ {fuel : Nat} (hsound : Sound fuel) {room : Nat}
    {before : List (Text × Json)} {cs rest : List Char} {v : Json}
    (h : readFields (fuel + 1) room before cs = .ok (v, rest)) :
    ∃ ms, SpellsMembers room ms cs rest ∧ v = .object (putFields before (decodedMembers ms)) := by
  unfold readFields at h
  split at h
  · rename_i r
    cases hname : readText false [] r with
    | error e => simp [hname] at h
    | ok named =>
      obtain ⟨name, afterName⟩ := named
      simp only [hname] at h
      split at h
      · rename_i value hcolon
        cases hitem : readValue fuel room (skipSpace value) with
        | error e => simp [hitem] at h
        | ok parts =>
          obtain ⟨item, afterValue⟩ := parts
          obtain ⟨w, hw, rfl⟩ := hsound.value hitem
          simp only [hitem] at h
          split at h
          · rename_i others hcomma
            obtain ⟨ms, hbody, rfl⟩ := hsound.fields h
            exact ⟨(name, w) :: ms, .more hname hcolon hw hcomma hbody,
              by simp [decodedMembers, putFields]⟩
          · rename_i hclose
            cases h
            exact ⟨[(name, w)], .last hname hcolon hw hclose, by simp [decodedMembers, putFields]⟩
          · cases h
      · cases h
  · cases h

theorem sound (fuel : Nat) : Sound fuel := by
  induction fuel with
  | zero => exact ⟨by simp [readValue], by simp [readItems], by simp [readFields]⟩
  | succ fuel ih => exact ⟨ih.value_succ, ih.items_succ, ih.fields_succ⟩

/-! What is written is read. -/

mutual

/-- A value takes a character at least. -/
theorem Spells.length_lt {room : Nat} {w : Json} {cs rest : List Char} (h : Spells room w cs rest) :
    rest.length < cs.length := by
  cases h with
  | scalar word => exact length_lt_of_readScalar word
  | text units => exact Nat.lt_succ_of_lt (length_lt_of_readText units)
  | emptyArray close => exact Nat.lt_succ_of_lt (length_lt_of_skipSpace close)
  | emptyObject close => exact Nat.lt_succ_of_lt (length_lt_of_skipSpace close)
  | @array _ _ cs _ body =>
    have hbody := body.length_lt
    have hspace := length_skipSpace_le cs
    rw [List.length_cons]
    omega
  | @object _ _ cs _ body =>
    have hbody := body.length_lt
    have hspace := length_skipSpace_le cs
    rw [List.length_cons]
    omega

theorem SpellsItems.length_lt {room : Nat} {ws : List Json} {cs rest : List Char}
    (h : SpellsItems room ws cs rest) : rest.length < cs.length := by
  cases h with
  | last item close =>
    have hitem := item.length_lt
    have hclose := length_lt_of_skipSpace close
    omega
  | @more _ _ _ _ _ others _ item comma body =>
    have hitem := item.length_lt
    have hcomma := length_lt_of_skipSpace comma
    have hspace := length_skipSpace_le others
    have hbody := body.length_lt
    omega

theorem SpellsMembers.length_lt {room : Nat} {ms : List (Text × Json)} {cs rest : List Char}
    (h : SpellsMembers room ms cs rest) : rest.length < cs.length := by
  cases h with
  | @last _ _ _ _ _ value _ _ units colon item close =>
    have hunits := length_lt_of_readText units
    have hcolon := length_lt_of_skipSpace colon
    have hspace := length_skipSpace_le value
    have hitem := item.length_lt
    have hclose := length_lt_of_skipSpace close
    rw [List.length_cons]
    omega
  | @more _ _ _ _ _ _ value _ others _ units colon item comma body =>
    have hunits := length_lt_of_readText units
    have hcolon := length_lt_of_skipSpace colon
    have hspace := length_skipSpace_le value
    have hitem := item.length_lt
    have hcomma := length_lt_of_skipSpace comma
    have hspace' := length_skipSpace_le others
    have hbody := body.length_lt
    rw [List.length_cons]
    omega

end

/-- No value starts with the mark that ends an array. -/
theorem not_spells_close {room : Nat} {w : Json} {cs rest : List Char} :
    ¬ Spells room w (']' :: cs) rest := by
  intro h
  cases h with
  | scalar word => exact readScalar_mark_ne_ok (by decide) word

theorem not_spellsItems_close {room : Nat} {ws : List Json} {cs rest : List Char} :
    ¬ SpellsItems room ws (']' :: cs) rest := by
  intro h
  cases h with
  | last item => exact not_spells_close item
  | more item => exact not_spells_close item

theorem not_spellsMembers_close {room : Nat} {ms : List (Text × Json)} {cs rest : List Char} :
    ¬ SpellsMembers room ms ('}' :: cs) rest :=
  nofun

/-- With so much fuel, the readers find what is written: a step for the start of each value and one
for each item are two for every character. -/
structure Complete (fuel : Nat) : Prop where
  value {room : Nat} {w : Json} {cs rest : List Char} (h : Spells room w cs rest)
    (hfuel : 2 * cs.length ≤ fuel) : readValue fuel room cs = .ok (w.decoded, rest)
  items {room : Nat} {ws : List Json} {cs rest : List Char} (h : SpellsItems room ws cs rest)
    (hfuel : 2 * cs.length < fuel) (before : List Json) :
    readItems fuel room before cs = .ok (.array (before.reverse ++ decodedItems ws), rest)
  fields {room : Nat} {ms : List (Text × Json)} {cs rest : List Char}
    (h : SpellsMembers room ms cs rest) (hfuel : 2 * cs.length < fuel)
    (before : List (Text × Json)) :
    readFields fuel room before cs = .ok (.object (putFields before (decodedMembers ms)), rest)

theorem Complete.value_succ {fuel : Nat} (hcomplete : Complete fuel) {room : Nat} {w : Json}
    {cs rest : List Char} (h : Spells room w cs rest) (hfuel : 2 * cs.length ≤ fuel + 1) :
    readValue (fuel + 1) room cs = .ok (w.decoded, rest) := by
  cases h with
  | scalar word =>
    unfold readValue
    split
    · exact absurd word (readScalar_mark_ne_ok (by decide))
    · exact absurd word (readScalar_mark_ne_ok (by decide))
    · exact absurd word (readScalar_mark_ne_ok (by decide))
    · rw [word, decoded_of_readScalar word]
  | text units => simp [readValue, units, Except.map, decoded]
  | emptyArray close => simp [readValue, close, decoded, decodedItems]
  | emptyObject close => simp [readValue, close, decoded, decodedMembers, putFields]
  | @array _ _ cs _ body =>
    have hspace := length_skipSpace_le cs
    rw [List.length_cons] at hfuel
    simp only [readValue]
    -- What is not empty does not start with the end, so it is not taken for an empty array.
    split
    · rename_i hclose
      rw [hclose] at body
      exact absurd body not_spellsItems_close
    · rw [hcomplete.items body (by omega), decoded]
      rfl
  | @object _ _ cs _ body =>
    have hspace := length_skipSpace_le cs
    rw [List.length_cons] at hfuel
    simp only [readValue]
    split
    · rename_i hclose
      rw [hclose] at body
      exact absurd body not_spellsMembers_close
    · rw [hcomplete.fields body (by omega), decoded]

theorem Complete.items_succ {fuel : Nat} (hcomplete : Complete fuel) {room : Nat} {ws : List Json}
    {cs rest : List Char} (h : SpellsItems room ws cs rest) (hfuel : 2 * cs.length < fuel + 1)
    (before : List Json) :
    readItems (fuel + 1) room before cs =
      .ok (.array (before.reverse ++ decodedItems ws), rest) := by
  cases h with
  | last item close =>
    have hitem := hcomplete.value item (Nat.le_of_lt_succ hfuel)
    simp [readItems, hitem, close, decodedItems]
  | @more _ _ _ _ _ others _ item comma body =>
    have hitem := hcomplete.value item (Nat.le_of_lt_succ hfuel)
    have hlength := item.length_lt
    have hcomma := length_lt_of_skipSpace comma
    have hspace := length_skipSpace_le others
    simp [readItems, hitem, comma, hcomplete.items body (by omega), decodedItems]

theorem Complete.fields_succ {fuel : Nat} (hcomplete : Complete fuel) {room : Nat}
    {ms : List (Text × Json)} {cs rest : List Char} (h : SpellsMembers room ms cs rest)
    (hfuel : 2 * cs.length < fuel + 1) (before : List (Text × Json)) :
    readFields (fuel + 1) room before cs =
      .ok (.object (putFields before (decodedMembers ms)), rest) := by
  cases h with
  | @last _ _ _ _ _ value _ _ units colon item close =>
    have hunits := length_lt_of_readText units
    have hcolon := length_lt_of_skipSpace colon
    have hspace := length_skipSpace_le value
    rw [List.length_cons] at hfuel
    have hitem := hcomplete.value item (by omega)
    simp [readFields, units, colon, hitem, close, decodedMembers, putFields]
  | @more _ _ _ _ _ _ value _ others _ units colon item comma body =>
    have hunits := length_lt_of_readText units
    have hcolon := length_lt_of_skipSpace colon
    have hspace := length_skipSpace_le value
    rw [List.length_cons] at hfuel
    have hitem := hcomplete.value item (by omega)
    have hlength := item.length_lt
    have hcomma := length_lt_of_skipSpace comma
    have hothers := length_skipSpace_le others
    have hbody := hcomplete.fields body (by omega)
    simp [readFields, units, colon, hitem, comma, hbody, decodedMembers, putFields]

theorem complete (fuel : Nat) : Complete fuel := by
  induction fuel with
  | zero =>
    refine ⟨fun h hfuel => ?_, fun _ hfuel => ?_, fun _ hfuel => ?_⟩
    · have hlength := h.length_lt
      omega
    · omega
    · omega
  | succ fuel ih => exact ⟨ih.value_succ, ih.items_succ, ih.fields_succ⟩

/-- Just the texts that are written by the grammar are read, as the values of what they say. -/
theorem read_eq_ok_iff {cs : List Char} {v : Json} :
    read cs = .ok v ↔ ∃ w, Writes cs w ∧ v = w.decoded := by
  have hspace := length_skipSpace_le cs
  unfold read
  constructor
  · intro h
    cases hvalue : readValue (2 * cs.length + 2) maxDepth (skipSpace cs) with
    | error e => simp [hvalue] at h
    | ok parts =>
      obtain ⟨found, rest⟩ := parts
      obtain ⟨w, hw, rfl⟩ := (sound _).value hvalue
      simp only [hvalue, List.isEmpty_iff] at h
      split at h
      · rename_i hrest
        cases h
        exact ⟨w, ⟨rest, hw, hrest⟩, rfl⟩
      · cases h
  · rintro ⟨w, ⟨rest, hw, hrest⟩, rfl⟩
    rw [(complete _).value hw (by omega)]
    simp [hrest]

end SafetyConfig.Json
