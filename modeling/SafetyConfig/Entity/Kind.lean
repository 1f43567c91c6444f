/-!
# Enumerated attributes

Each enumeration has a code and a label per value. Code zero means that nothing was
specified; the other labels are the symbolic names an attribute may use.
-/

namespace SafetyConfig

/-- Static entries are fixed, dynamic ones are updated by the owning package, and
issue-only sources have no entry at all. -/
inductive SourceKind where
  | unspecified
  | static
  | dynamic
  | issueOnly
  deriving DecidableEq, Repr

namespace SourceKind

def code : SourceKind → Int
  | .unspecified => 0
  | .static => 1
  | .dynamic => 2
  | .issueOnly => 3

def label : SourceKind → String
  | .unspecified => "unspecified"
  | .static => "static"
  | .dynamic => "dynamic"
  | .issueOnly => "issue_only"

def all : List SourceKind := [.unspecified, .static, .dynamic, .issueOnly]

def ofCode? (n : Int) : Option SourceKind :=
  all.find? (·.code == n)

def named : List (String × Int) :=
  [SourceKind.static, .dynamic, .issueOnly].map fun k => (k.label, k.code)

theorem ofCode?_code (k : SourceKind) : ofCode? k.code = some k := by
  cases k <;> rfl

theorem code_of_ofCode? {n : Int} {k : SourceKind} (h : ofCode? n = some k) : k.code = n := by
  simpa using List.find?_some h

theorem ofCode?_eq_some_iff {n : Int} {k : SourceKind} : ofCode? n = some k ↔ n = k.code :=
  ⟨fun h => (code_of_ofCode? h).symm, fun h => h ▸ ofCode?_code k⟩

end SourceKind

/-- The user profiles a source is shown for. -/
inductive Profile where
  | unspecified
  | primary
  | all
  deriving DecidableEq, Repr

namespace Profile

def code : Profile → Int
  | .unspecified => 0
  | .primary => 1
  | .all => 2

def label : Profile → String
  | .unspecified => "unspecified"
  | .primary => "primary"
  | .all => "all"

def values : List Profile := [.unspecified, .primary, .all]

def ofCode? (n : Int) : Option Profile :=
  values.find? (·.code == n)

def named : List (String × Int) :=
  [Profile.primary, .all].map fun p => (p.label, p.code)

theorem ofCode?_code (p : Profile) : ofCode? p.code = some p := by
  cases p <;> rfl

theorem code_of_ofCode? {n : Int} {p : Profile} (h : ofCode? n = some p) : p.code = n := by
  simpa using List.find?_some h

theorem ofCode?_eq_some_iff {n : Int} {p : Profile} : ofCode? n = some p ↔ n = p.code :=
  ⟨fun h => (code_of_ofCode? h).symm, fun h => h ▸ ofCode?_code p⟩

end Profile

/-- How a dynamic source is shown before it has provided anything. -/
inductive DisplayState where
  | unspecified
  | enabled
  | disabled
  | hidden
  deriving DecidableEq, Repr

namespace DisplayState

def code : DisplayState → Int
  | .unspecified => 0
  | .enabled => 1
  | .disabled => 2
  | .hidden => 3

def label : DisplayState → String
  | .unspecified => "unspecified"
  | .enabled => "enabled"
  | .disabled => "disabled"
  | .hidden => "hidden"

def values : List DisplayState := [.unspecified, .enabled, .disabled, .hidden]

def ofCode? (n : Int) : Option DisplayState :=
  values.find? (·.code == n)

def named : List (String × Int) :=
  [DisplayState.enabled, .disabled, .hidden].map fun s => (s.label, s.code)

theorem ofCode?_code (s : DisplayState) : ofCode? s.code = some s := by
  cases s <;> rfl

theorem code_of_ofCode? {n : Int} {s : DisplayState} (h : ofCode? n = some s) : s.code = n := by
  simpa using List.find?_some h

theorem ofCode?_eq_some_iff {n : Int} {s : DisplayState} : ofCode? n = some s ↔ n = s.code :=
  ⟨fun h => (code_of_ofCode? h).symm, fun h => h ▸ ofCode?_code s⟩

end DisplayState

/-- The icon of a group without a status. -/
inductive IconKind where
  | unspecified
  | none
  | privacy
  deriving DecidableEq, Repr

namespace IconKind

def code : IconKind → Int
  | .unspecified => 0
  | .none => 1
  | .privacy => 2

def label : IconKind → String
  | .unspecified => "unspecified"
  | .none => "none"
  | .privacy => "privacy"

def values : List IconKind := [.unspecified, .none, .privacy]

def ofCode? (n : Int) : Option IconKind :=
  values.find? (·.code == n)

def named : List (String × Int) :=
  [IconKind.none, .privacy].map fun i => (i.label, i.code)

theorem ofCode?_code (i : IconKind) : ofCode? i.code = some i := by
  cases i <;> rfl

theorem code_of_ofCode? {n : Int} {i : IconKind} (h : ofCode? n = some i) : i.code = n := by
  simpa using List.find?_some h

theorem ofCode?_eq_some_iff {n : Int} {i : IconKind} : ofCode? n = some i ↔ n = i.code :=
  ⟨fun h => (code_of_ofCode? h).symm, fun h => h ▸ ofCode?_code i⟩

end IconKind

end SafetyConfig
