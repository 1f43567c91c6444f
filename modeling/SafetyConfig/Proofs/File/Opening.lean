import SafetyConfig.Proofs.File.Replacement
import SafetyConfig.Proofs.Markup.Opening

/-!
# Files are listed by their openings

A search makes of a file what its root tag says, and that is settled where the start tag of the root
ends. Behind it a file may be malformed, undecodable or cut off: the search comes to the same.
-/

namespace SafetyConfig

open Markup (IsOpening rootTag)

theorem isConfigFile_of_rootTag {bytes : Bytes} {tag : String} (h : rootTag bytes = .ok tag) :
    isConfigFile bytes = .ok (tag == ElementName.centerConfig.label) := by
  rw [isConfigFile, h]

/-- A selection goes by what the candidates are found to be, whatever their bytes are. -/
theorem selectConfigs_map {f : Candidate → Candidate} {cs : List Candidate}
    (h : ∀ c ∈ cs, isConfigFile (f c).bytes = isConfigFile c.bytes) :
    selectConfigs (cs.map f) = (selectConfigs cs).map (List.map f) := by
  induction cs with
  | nil => rfl
  | cons c cs ih =>
    rw [List.map_cons, selectConfigs, selectConfigs, h c List.mem_cons_self,
      ih fun d hd => h d (List.mem_cons_of_mem c hd)]
    cases isConfigFile c.bytes with
    | error e => rfl
    | ok found =>
      cases selectConfigs cs with
      | error e => rfl
      | ok rest => cases found <;> rfl

namespace FileStore

variable {s : FileStore} {l : Location} {old new bytes : Bytes} {dir : Path} {found : List Path}

theorem bytes_of_mem_visited {c : Candidate} (hc : c ∈ s.visited dir)
    (h : s.at? (dir.locate s.home ++ c.names) = some (.file old)) : c.bytes = old := by
  obtain ⟨-, hat, -⟩ := mem_visited_iff.mp hc
  rw [h] at hat
  cases hat
  rfl

theorem findConfigs_of_neither (hdirectory : s.follow dir.chars ≠ .ok .directory)
    (hlong : s.follow dir.chars ≠ .error .tooLong) : s.findConfigs dir = .ok [] := by
  unfold findConfigs
  split
  · exact absurd ‹_› hdirectory
  · exact absurd ‹_› hlong
  · rfl

/-- A search that opens a file comes to the same with all bytes that it takes for the same. -/
theorem findConfigs_replace_of_isConfigFile (h : s.at? l = some (.file old))
    (hsame : isConfigFile new = isConfigFile old) (dir : Path) :
    (s.replace l old new h).findConfigs dir = s.findConfigs dir := by
  by_cases hfollow : s.follow dir.chars = .ok .directory
  · have hfollow' : (s.replace l old new h).follow dir.chars = .ok .directory :=
      (follow_replace_eq_directory_iff h _).mpr hfollow
    cases hsearch : s.canSearch dir with
    | false => simp [findConfigs, hfollow, hfollow', canSearch_replace, hsearch]
    | true =>
      have hsearch' : (s.replace l old new h).canSearch dir = true :=
        (canSearch_replace h dir).trans hsearch
      have hopened : ∀ c ∈ s.visited dir,
          isConfigFile (c.rewrite (dir.locate s.home) l new).bytes = isConfigFile c.bytes := by
        intro c hc
        unfold Candidate.rewrite
        split
        · rename_i hl
          subst hl
          rw [hsame, bytes_of_mem_visited hc h]
        · rfl
      rw [findConfigs_of_directory hfollow hsearch, findConfigs_of_directory hfollow' hsearch',
        visited_replace, selectConfigs_map hopened]
      cases selectConfigs (s.visited dir) with
      | error e => rfl
      | ok cs => simp [Except.map, Function.comp_def]
  · have hfollow' : (s.replace l old new h).follow dir.chars ≠ .ok .directory :=
      fun hf => hfollow ((follow_replace_eq_directory_iff h _).mp hf)
    have hlong : (s.replace l old new h).follow dir.chars = .error .tooLong ↔
        s.follow dir.chars = .error .tooLong :=
      eq_error_iff_of_map_isDirectory (map_isDirectory_follow_replace h dir.chars)
    by_cases htoo : s.follow dir.chars = .error .tooLong
    · simp only [findConfigs, htoo, hlong.mpr htoo]
    · rw [findConfigs_of_neither hfollow htoo,
        findConfigs_of_neither hfollow' fun htoo' => htoo (hlong.mp htoo')]

/-- Of what a search opens, it lists a file just if the root tag is that of a configuration. -/
theorem exists_mem_findConfigs_iff {tag : String} (hat : s.at? l = some (.file bytes))
    (htag : rootTag bytes = .ok tag) (hfound : s.findConfigs dir = .ok found) :
    (∃ p ∈ found, p.locate s.home = l) ↔ s.Visits dir l ∧ tag = "safety-center-config" := by
  obtain ⟨-, -, rfl⟩ := findConfigs_eq_ok_iff.mp hfound
  have hroot : hasConfigRoot bytes = true ↔ tag = "safety-center-config" := by
    rw [hasConfigRoot_iff, htag]
    exact ⟨Except.ok.inj, fun hcenter => congrArg Except.ok hcenter⟩
  constructor
  · rintro ⟨p, hp, rfl⟩
    obtain ⟨c, hc, hconfig, rfl⟩ := mem_listing_iff.mp hp
    rw [locate_of_mem_visited hc] at hat ⊢
    obtain ⟨hfollow, -, hname, hopen⟩ := mem_visited_iff.mp hc
    rw [bytes_of_mem_visited hc hat] at hconfig
    exact ⟨⟨hfollow, c.names, rfl, hname, hopen⟩, hroot.mp hconfig⟩
  · rintro ⟨⟨hfollow, names, rfl, hname, hopen⟩, hcenter⟩
    have hc : ⟨names, bytes⟩ ∈ s.visited dir := mem_visited_iff.mpr ⟨hfollow, hat, hname, hopen⟩
    exact ⟨_, mem_listing_iff.mpr ⟨_, hc, hroot.mpr hcenter, rfl⟩, locate_of_mem_visited hc⟩

end FileStore

/-- Where there is a root tag, the bytes up to the end of the root's start tag settle it: nothing
less has a root tag, and no bytes behind them change it. So every search, from whatever directory,
comes to the same with any bytes there, and lists the file if it opens it and if the tag is that of
a configuration. -/
theorem opening_settles_listing {bytes : Bytes} {tag : String} (h : rootTag bytes = .ok tag) :
    (∀ more, rootTag (bytes ++ more) = .ok tag) ∧
    ∃ opening rest, bytes = opening ++ rest ∧ IsOpening opening ∧
      (∀ front t, front <+: bytes → rootTag front = .ok t → opening <+: front) ∧
      (∀ more, rootTag (opening ++ more) = .ok tag) ∧
      ∀ (s : FileStore) (l : Location) (hat : s.at? l = some (.file bytes)) (dir : Path),
        (∀ more, (s.replace l bytes (opening ++ more) hat).findConfigs dir = s.findConfigs dir) ∧
        ∀ found, s.findConfigs dir = .ok found →
          ((∃ p ∈ found, p.locate s.home = l) ↔ s.Visits dir l ∧ tag = "safety-center-config") := by
  obtain ⟨opening, rest, rfl, hopening, hmore⟩ := Markup.exists_isOpening_of_rootTag h
  refine ⟨fun more => ?_, opening, rest, rfl, hopening, fun front t hfront ht => ?_, hmore,
    fun s l hat dir => ⟨fun more => ?_, fun found hfound => ?_⟩⟩
  · rw [List.append_assoc]
    exact hmore _
  · exact Markup.isOpening_prefix hopening (List.prefix_append _ _) hfront ht
  · refine FileStore.findConfigs_replace_of_isConfigFile hat ?_ dir
    rw [isConfigFile_of_rootTag (hmore more), isConfigFile_of_rootTag h]
  · exact FileStore.exists_mem_findConfigs_iff hat h hfound

/-! A configuration that is cut off behind its root's start tag, and is not text either. -/

def brokenBytes : Bytes :=
  asciiBytes "<safety-center-config><a" ++ [0xFF]

def brokenPlace : Location := ["broken.xml".toList]

def brokenFiles : FileStore :=
  FileStore.add .empty brokenPlace (.file brokenBytes) (by decide +kernel)

theorem at?_brokenPlace : brokenFiles.at? brokenPlace = some (.file brokenBytes) := by
  decide +kernel

theorem opening_settles_listing_of_broken :
    rootTag brokenBytes = .ok "safety-center-config" ∧
    (∀ more, rootTag (brokenBytes ++ more) = .ok "safety-center-config") ∧
    ∃ opening rest found, brokenBytes = opening ++ rest ∧ IsOpening opening ∧
      (∃ p ∈ found, p.locate brokenFiles.home = brokenPlace) ∧
        ∀ more, (brokenFiles.replace brokenPlace brokenBytes (opening ++ more)
          at?_brokenPlace).findConfigs ⟨.root, []⟩ = .ok found := by
  have htag : rootTag brokenBytes = .ok "safety-center-config" := by decide +kernel
  have hfound : brokenFiles.findConfigs ⟨.root, []⟩ = .ok [⟨.root, brokenPlace⟩] := by
    have hcandidates : brokenFiles.candidates (Path.locate brokenFiles.home ⟨.root, []⟩) =
        [⟨brokenPlace, brokenBytes⟩] :=
      FileStore.candidates_of_sorted (by decide +kernel) (by decide +kernel)
    simp only [FileStore.findConfigs, hcandidates]
    decide +kernel
  have hvisits : brokenFiles.Visits ⟨.root, []⟩ brokenPlace :=
    ⟨by decide +kernel, brokenPlace, by decide +kernel, by decide +kernel, by decide +kernel⟩
  obtain ⟨hmore, opening, rest, hbytes, hopening, -, -, hsearch⟩ := opening_settles_listing htag
  obtain ⟨hsame, hlisted⟩ := hsearch brokenFiles brokenPlace at?_brokenPlace ⟨.root, []⟩
  exact ⟨htag, hmore, opening, rest, _, hbytes, hopening, (hlisted _ hfound).mpr ⟨hvisits, rfl⟩,
    fun more => (hsame more).trans hfound⟩

end SafetyConfig
