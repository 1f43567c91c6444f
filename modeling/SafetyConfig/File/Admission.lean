import SafetyConfig.File.Store
import SafetyConfig.Number.Rounding
import SafetyConfig.Text.Lowercase

/-!
# Admitting paths

A path from outside is normalized by its text alone and admitted if it ends at a regular
file of an allowed type that is not too large, or at a directory where one is asked for.
-/

namespace SafetyConfig

/-- One megabyte. -/
def maxFileBytes : Nat := 1048576

/-- Stands for the text of the encoder, which also says what could not be encoded and where. -/
def unencodableMessage : String :=
  "surrogates not allowed"

inductive FileRefusal where
  | embeddedNul
  /-- There are no bytes for the path. -/
  | unencodable
  | notFound (path : String)
  | notRegular (path : String)
  | wrongType (suffix : String) (allowed : List String)
  | tooLarge (size : Nat)
  /-- The path is too long to be looked up. -/
  | unreachable
  deriving DecidableEq, Repr

def FileRefusal.message : FileRefusal → String
  | .embeddedNul => "Invalid file path: null byte detected"
  | .unencodable => unencodableMessage
  | .notFound path => "File not found: " ++ path
  | .notRegular path => "Not a regular file: " ++ path
  | .wrongType suffix allowed =>
    "Invalid file type '" ++ suffix ++ "'. Allowed: " ++ ", ".intercalate allowed
  | .tooLarge size =>
    "File too large (" ++ String.ofList (Rounding.tenths size maxFileBytes) ++
      " MB). Maximum: 1 MB"
  | .unreachable => "File name too long"

inductive DirectoryRefusal where
  | embeddedNul
  | unencodable
  | notDirectory (path : String)
  | unreachable
  deriving DecidableEq, Repr

def DirectoryRefusal.message : DirectoryRefusal → String
  | .embeddedNul => "Invalid directory path: null byte detected"
  | .unencodable => unencodableMessage
  | .notDirectory path => "Not a valid directory: " ++ path
  | .unreachable => "File name too long"

/-- A file that was admitted: its place and its bytes. -/
structure AdmittedFile where
  location : Location
  bytes : Bytes
  deriving DecidableEq, Repr

/-- Whether a file type is among those allowed; case does not matter, and an empty list
allows every type. -/
def allowsType (allowed : List String) (suffix : List Char) : Bool :=
  allowed.isEmpty || allowed.contains (String.ofList (Lowercase.lower suffix))

/-- The bytes of a code point in the name of a file: those of a character in UTF-8, and for one of
128 surrogates the single byte that it stands for. -/
def CodePoint.nameBytes? (p : CodePoint) : Option Bytes :=
  match CodePoint.toChar? p with
  | some c => some (String.utf8EncodeChar c)
  | none => if 0xDC80 ≤ p.val ∧ p.val ≤ 0xDCFF then some [UInt8.ofNat (p.val - 0xDC00)] else none

def Text.nameBytes? (t : Text) : Option Bytes :=
  (t.mapM CodePoint.nameBytes?).map List.flatten

/-- The name that some bytes are. The names in a store are strings: bytes that are those of no
string stand as a name that is nowhere, one zero for each. -/
def PathName.ofBytes (bytes : Bytes) : PathName :=
  (Utf8.decode? bytes).getD (List.replicate bytes.length '\x00')

/-- The path that some bytes are. -/
def Path.ofBytes (bytes : Bytes) : Path :=
  Path.read (joinWith '/' ((cutAt (UInt8.ofNat '/'.toNat) bytes).map PathName.ofBytes))

/-- What a path that is any text comes to once it is written in bytes. -/
inductive PathText where
  | path (p : Path)
  | embeddedNul
  | unencodable
  deriving DecidableEq, Repr

def PathText.ofString (s : String) : PathText :=
  if '\x00' ∈ s.toList then .embeddedNul else .path (Path.ofString s)

/-- Only where there are surrogates do the bytes matter. -/
def PathText.ofText (t : Text) : PathText :=
  match Text.string? t with
  | some s => ofString s
  | none =>
    if CodePoint.ofChar '\x00' ∈ t then .embeddedNul
    else match Text.nameBytes? t with
      | some bytes => .path (Path.ofBytes bytes)
      | none => .unencodable

@[simp] theorem PathText.ofText_ofString (s : String) :
    ofText (Text.ofString s) = ofString s := by
  rw [ofText, Text.string?_ofString]

namespace FileStore

def admitBytes (l : Location) (allowed : List String) (bytes : Bytes) :
    Except FileRefusal AdmittedFile :=
  let suffix := PathName.suffix (l.getLast?.getD [])
  let size := bytes.length
  if allowsType allowed suffix = false then .error (.wrongType (String.ofList suffix) allowed)
  else if maxFileBytes < size then .error (.tooLarge size)
  else .ok ⟨l, bytes⟩

/-- What is admitted of a path; `shown` is the path as it was given. -/
def admitFileAt (s : FileStore) (p : Path) (shown : String) (allowed : List String) :
    Except FileRefusal AdmittedFile :=
  let l := p.locate s.home
  match s.status l with
  | .ok (.file bytes) => admitBytes l allowed bytes
  | .ok .directory => .error (.notRegular shown)
  | .error .tooLong => .error .unreachable
  | .error _ => .error (.notFound shown)

def admitFile (s : FileStore) (path : String) (allowed : List String) :
    Except FileRefusal AdmittedFile :=
  if '\x00' ∈ path.toList then .error .embeddedNul
  else s.admitFileAt (Path.ofString path) path allowed

def admitDirectoryAt (s : FileStore) (p : Path) (shown : String) :
    Except DirectoryRefusal Location :=
  let l := p.locate s.home
  match s.status l with
  | .ok .directory => .ok l
  | .error .tooLong => .error .unreachable
  | _ => .error (.notDirectory shown)

def admitDirectory (s : FileStore) (path : String) : Except DirectoryRefusal Location :=
  if '\x00' ∈ path.toList then .error .embeddedNul
  else s.admitDirectoryAt (Path.ofString path) path

def admitFileText (s : FileStore) (path : Text) (allowed : List String) :
    Except FileRefusal AdmittedFile :=
  match PathText.ofText path with
  | .path p => s.admitFileAt p (Text.toString path) allowed
  | .embeddedNul => .error .embeddedNul
  | .unencodable => .error .unencodable

def admitDirectoryText (s : FileStore) (path : Text) : Except DirectoryRefusal Location :=
  match PathText.ofText path with
  | .path p => s.admitDirectoryAt p (Text.toString path)
  | .embeddedNul => .error .embeddedNul
  | .unencodable => .error .unencodable

theorem admitFileText_ofString (s : FileStore) (path : String) (allowed : List String) :
    s.admitFileText (Text.ofString path) allowed = s.admitFile path allowed := by
  rw [admitFileText, PathText.ofText_ofString, PathText.ofString, admitFile, Text.toString_ofString]
  by_cases hnul : '\x00' ∈ path.toList
  · rw [if_pos hnul, if_pos hnul]
  · rw [if_neg hnul, if_neg hnul]

theorem admitDirectoryText_ofString (s : FileStore) (path : String) :
    s.admitDirectoryText (Text.ofString path) = s.admitDirectory path := by
  rw [admitDirectoryText, PathText.ofText_ofString, PathText.ofString, admitDirectory,
    Text.toString_ofString]
  by_cases hnul : '\x00' ∈ path.toList
  · rw [if_pos hnul, if_pos hnul]
  · rw [if_neg hnul, if_neg hnul]

end FileStore

end SafetyConfig
