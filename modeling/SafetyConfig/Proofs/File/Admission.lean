import SafetyConfig.File.Admission
import SafetyConfig.Proofs.File.Discovery

/-!
# Admitting what a search finds

A search goes by the end of a name, an admission by its suffix. The two agree but for the
one name that is nothing more than the ending. An admission says why it refuses, unless the
path is too long for the system.
-/

namespace SafetyConfig

namespace PathName

/-- A name that ends like a configuration has that ending as its suffix, unless nothing
stands before it. -/
theorem suffix_of_isConfigName {name : PathName} (h : isConfigName name = true) :
    suffix name = if name = configSuffix then [] else configSuffix := by
  obtain ⟨front, rfl⟩ := List.isSuffixOf_iff_suffix.mp h
  have hreverse : (front ++ configSuffix).reverse = ['l', 'm', 'x', '.'] ++ front.reverse := by
    simp [configSuffix]
  have hsplit : splitAtLastDot? (front ++ configSuffix) =
      some (['l', 'm', 'x'], front.reverse) := by
    rw [splitAtLastDot?, hreverse]
    rfl
  rw [suffix, hsplit]
  cases front with
  | nil => rfl
  | cons c cs =>
    have hlonger : c :: cs ++ configSuffix ≠ configSuffix := by
      intro heq
      have hlength := congrArg List.length heq
      simp only [List.length_append, List.length_cons] at hlength
      omega
    rw [if_neg hlonger]
    simp [configSuffix]

end PathName

theorem allowsType_configSuffix : allowsType [".xml"] configSuffix = true := by
  decide +kernel

theorem allowsType_nil : allowsType [".xml"] [] = false := by
  decide +kernel

namespace FileStore

variable {s : FileStore} {l : Location} {bytes : Bytes}

theorem admitBytes_of_isConfigName (hname : isConfigName (l.getLast?.getD []) = true)
    (hsize : bytes.length ≤ maxFileBytes) :
    admitBytes l [".xml"] bytes =
      if l.getLast?.getD [] = configSuffix then .error (.wrongType "" [".xml"])
      else .ok ⟨l, bytes⟩ := by
  rw [admitBytes]
  simp only [PathName.suffix_of_isConfigName hname]
  split
  · rw [if_pos allowsType_nil]
  · rw [if_neg (by simp [allowsType_configSuffix]), if_neg (by omega)]

theorem admitBytes_ne_unreachable (l : Location) (allowed : List String) (bytes : Bytes) :
    admitBytes l allowed bytes ≠ .error .unreachable := by
  rw [admitBytes]
  split
  · simp
  · split <;> simp

/-- A path is out of reach when the system cannot say what is there. -/
theorem admitFileAt_eq_unreachable_iff {p : Path} {shown : String} {allowed : List String} :
    s.admitFileAt p shown allowed = .error .unreachable ↔
      s.status (p.locate s.home) = .error .tooLong := by
  rw [admitFileAt]
  cases s.status (p.locate s.home) with
  | ok node =>
    cases node with
    | file bytes => simp [admitBytes_ne_unreachable]
    | directory => simp
  | error fault => cases fault <;> simp

/-- The text of an absolute path leads an admission to the file that is there. -/
theorem admitFile_of_at? {p : Path} {allowed : List String} (habsolute : p.start ≠ .working)
    (hplain : Path.Plain p.names) (hnul : '\x00' ∉ p.chars) (hopen : canOpen p = true)
    (hat : s.at? (p.locate s.home) = some (.file bytes)) :
    s.admitFile p.toString allowed = admitBytes (p.locate s.home) allowed bytes := by
  have hlength : utf8Length (p.locate s.home).chars ≤ maxPathBytes :=
    (Path.utf8Length_chars_locate_le habsolute (ne_nil_of_file hat)).trans
      (by simpa [canOpen] using hopen)
  have htext : p.toString.toList = p.chars := String.toList_ofList
  rw [admitFile, htext, if_neg hnul, Path.ofString_toString hplain, admitFileAt]
  simp only [status_of_at? hat hlength]

end FileStore

end SafetyConfig
