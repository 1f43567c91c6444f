import SafetyConfig.Text.CodePoint

/-!
# Paths

A path is a start and the names between its slashes. Empty names and single dots say
nothing and are left out; double dots are kept until the path is normalized.
-/

namespace SafetyConfig

/-- What stands between two slashes of a path. -/
abbrev PathName := List Char

/-- Names from the root down to a place. -/
abbrev Location := List PathName

def parentName : PathName := ['.', '.']

/-- The parts between the marks; one more than there are marks. -/
def cutAt {α : Type} [DecidableEq α] (mark : α) : List α → List (List α)
  | [] => [[]]
  | x :: xs =>
    if x = mark then [] :: cutAt mark xs
    else match cutAt mark xs with
      | [] => [[x]]
      | part :: parts => (x :: part) :: parts

def joinWith {α : Type} (mark : α) : List (List α) → List α
  | [] => []
  | [part] => part
  | part :: parts => part ++ mark :: joinWith mark parts

theorem cutAt_ne_nil {α : Type} [DecidableEq α] (mark : α) (xs : List α) : cutAt mark xs ≠ [] := by
  cases xs with
  | nil => simp [cutAt]
  | cons x xs =>
    simp only [cutAt]
    split
    · simp
    · split <;> simp

theorem joinWith_cutAt {α : Type} [DecidableEq α] (mark : α) (xs : List α) :
    joinWith mark (cutAt mark xs) = xs := by
  induction xs with
  | nil => rfl
  | cons x xs ih =>
    cases hc : cutAt mark xs with
    | nil => exact absurd hc (cutAt_ne_nil mark xs)
    | cons part parts =>
      rw [hc] at ih
      by_cases hx : x = mark
      · simp [cutAt, hx, hc, joinWith, ih]
      · cases parts <;> simp_all [cutAt, joinWith]

theorem not_mem_of_mem_cutAt {α : Type} [DecidableEq α] {mark : α} {xs part : List α}
    (h : part ∈ cutAt mark xs) : mark ∉ part := by
  induction xs generalizing part with
  | nil => simp_all [cutAt]
  | cons x xs ih =>
    by_cases hx : x = mark
    · simp only [cutAt, hx, if_true, List.mem_cons] at h
      rcases h with rfl | h
      · simp
      · exact ih h
    · cases hc : cutAt mark xs with
      | nil => exact absurd hc (cutAt_ne_nil mark xs)
      | cons p ps =>
        simp only [cutAt, hx, if_false, hc, List.mem_cons] at h
        rcases h with rfl | h
        · have hp : mark ∉ p := ih (by simp [hc])
          simp [hp, Ne.symm hx]
        · exact ih (by simp [hc, h])

/-- At the working directory, or at the root. Exactly two slashes in front are told
apart from one; more are the same as one. -/
inductive PathStart where
  | working
  | root
  | doubleRoot
  deriving DecidableEq, Repr

def PathStart.chars : PathStart → List Char
  | .working => []
  | .root => ['/']
  | .doubleRoot => ['/', '/']

structure Path where
  start : PathStart
  names : List PathName
  deriving DecidableEq, Repr

namespace Path

def readStart : List Char → PathStart
  | '/' :: '/' :: '/' :: _ => .root
  | '/' :: '/' :: _ => .doubleRoot
  | '/' :: _ => .root
  | _ => .working

/-- Whether a name says something. -/
def counts (name : PathName) : Bool :=
  !name.isEmpty && name != ['.']

def read (cs : List Char) : Path :=
  ⟨readStart cs, (cutAt '/' cs).filter counts⟩

def ofString (s : String) : Path :=
  read s.toList

/-- A path without start and names is written as a dot. -/
def chars (p : Path) : List Char :=
  match p with
  | ⟨.working, []⟩ => ['.']
  | ⟨start, names⟩ => start.chars ++ joinWith '/' names

def toString (p : Path) : String :=
  String.ofList p.chars

def append (p : Path) (names : List PathName) : Path :=
  ⟨p.start, p.names ++ names⟩

/-- The last name. -/
def name (p : Path) : PathName :=
  p.names.getLast?.getD []

/-- Go on from a place, name by name; double dots go up, and stay at the root. -/
def descend (here : Location) : List PathName → Location
  | [] => here
  | n :: ns => descend (if n = parentName then here.dropLast else here ++ [n]) ns

theorem descend_append (here : Location) (ms ns : List PathName) :
    descend here (ms ++ ns) = descend (descend here ms) ns := by
  induction ms generalizing here with
  | nil => rfl
  | cons m ms ih => exact ih _

/-- Where a path leads from a working directory, by its text alone. -/
def locate (home : Location) (p : Path) : Location :=
  match p.start with
  | .working => descend home p.names
  | _ => descend [] p.names

end Path

namespace PathName

/-- The part after the last dot, reversed, and what stands before that dot, reversed. -/
def splitAtLastDot? (name : PathName) : Option (List Char × List Char) :=
  match name.reverse.span (· != '.') with
  | (after, _ :: before) => some (after, before)
  | _ => none

/-- From the last dot on; nothing if that dot starts or ends the name. -/
def suffix (name : PathName) : List Char :=
  match splitAtLastDot? name with
  | some (after, before) => if after.isEmpty || before.isEmpty then [] else '.' :: after.reverse
  | none => []

/-- The name without its suffix. -/
def stem (name : PathName) : List Char :=
  name.take (name.length - (suffix name).length)

end PathName

namespace Location

def chars (l : Location) : List Char :=
  '/' :: joinWith '/' l

def toString (l : Location) : String :=
  String.ofList (chars l)

end Location

/-- Number of bytes of a text in UTF-8. -/
def utf8Length : List Char → Nat
  | [] => 0
  | c :: cs => c.utf8Size + utf8Length cs

example : (Path.ofString "./a//b/.").toString = "a/b" := by decide +kernel

example : PathName.suffix "a.tar.xml".toList = ".xml".toList := by decide +kernel

end SafetyConfig
