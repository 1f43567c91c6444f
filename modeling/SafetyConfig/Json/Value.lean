import SafetyConfig.Number.Binary64
import SafetyConfig.Text.Quoted

/-!
# JSON values

Objects keep the order of their fields. A field that is set again keeps its place and
takes the later value.
-/

namespace SafetyConfig

inductive Json where
  | null
  | bool (b : Bool)
  | int (n : Int)
  | real (x : Binary64)
  | text (t : Text)
  | array (items : List Json)
  | object (fields : List (Text × Json))
  deriving Inhabited

namespace Json

def ofString (s : String) : Json :=
  .text (Text.ofString s)

def ofOption {α : Type} (f : α → Json) : Option α → Json
  | some a => f a
  | none => .null

/-- An object whose field names are plain strings. -/
def record (fields : List (String × Json)) : Json :=
  .object (fields.map fun f => (Text.ofString f.1, f.2))

/-- Set a field: in place if it is there, at the end otherwise. -/
def putField (name : Text) (value : Json) : List (Text × Json) → List (Text × Json)
  | [] => [(name, value)]
  | f :: fs => if f.1 = name then (name, value) :: fs else f :: putField name value fs

theorem lookup_putField_self (name : Text) (value : Json) (fields : List (Text × Json)) :
    (putField name value fields).lookup name = some value := by
  induction fields with
  | nil => simp [putField]
  | cons f fs ih =>
    obtain ⟨n, v⟩ := f
    by_cases h : n = name
    · simp [putField, h]
    · have hn : (name == n) = false := beq_eq_false_iff_ne.mpr (Ne.symm h)
      simp only [putField, h, if_false, List.lookup_cons, hn, ih]

theorem lookup_putField_of_ne {name other : Text} (value : Json) (fields : List (Text × Json))
    (h : other ≠ name) : (putField name value fields).lookup other = fields.lookup other := by
  have ho : (other == name) = false := beq_eq_false_iff_ne.mpr h
  induction fields with
  | nil => simp [putField, List.lookup_cons, ho]
  | cons f fs ih =>
    obtain ⟨n, v⟩ := f
    by_cases hn : n = name
    · simp only [putField, hn, if_true, List.lookup_cons, ho]
    · simp only [putField, hn, if_false, List.lookup_cons, ih]

def field? (name : String) : Json → Option Json
  | .object fields => fields.lookup (Text.ofString name)
  | _ => none

theorem field?_record (fields : List (String × Json)) (name : String) :
    (record fields).field? name = fields.lookup name := by
  simp only [record, field?]
  induction fields with
  | nil => rfl
  | cons f fs ih =>
    obtain ⟨key, value⟩ := f
    rw [List.map_cons, List.lookup_cons, List.lookup_cons, ih]
    by_cases h : name = key
    · simp [h]
    · have htext : (Text.ofString name == Text.ofString key) = false :=
        beq_eq_false_iff_ne.mpr (fun he => h (Text.ofString_injective he))
      have hname : (name == key) = false := beq_eq_false_iff_ne.mpr h
      simp only [htext, hname]

/-- Null, false, zero and whatever is empty count as not given. -/
def isGiven : Json → Bool
  | .null => false
  | .bool b => b
  | .int n => n != 0
  | .real (.finite _ m _) => m != 0
  | .real _ => true
  | .text t => !t.isEmpty
  | .array items => !items.isEmpty
  | .object fields => !fields.isEmpty

mutual

/-- How a value is shown in a message. -/
def shown : Json → List Char
  | .null => ['N', 'o', 'n', 'e']
  | .bool true => ['T', 'r', 'u', 'e']
  | .bool false => ['F', 'a', 'l', 's', 'e']
  | .int n => Digits.signedDecimal n
  | .real x => x.display
  | .text t => Quoted.quote t
  | .array items => '[' :: shownItems items ++ [']']
  | .object fields => '{' :: shownFields fields ++ ['}']

def shownItems : List Json → List Char
  | [] => []
  | [v] => v.shown
  | v :: vs => v.shown ++ [',', ' '] ++ shownItems vs

def shownFields : List (Text × Json) → List Char
  | [] => []
  | [(name, v)] => Quoted.quote name ++ [':', ' '] ++ v.shown
  | (name, v) :: fs => Quoted.quote name ++ [':', ' '] ++ v.shown ++ [',', ' '] ++ shownFields fs

end

def display (v : Json) : String :=
  String.ofList v.shown

/-- A text stands for itself inside a message that does not quote it. -/
def plain : Json → String
  | .text t => Text.toString t
  | v => v.display

end Json

end SafetyConfig
