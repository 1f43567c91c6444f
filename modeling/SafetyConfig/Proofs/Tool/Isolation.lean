import SafetyConfig.Proofs.File.PathText
import SafetyConfig.Proofs.File.Replacement
import SafetyConfig.Tool.Published

/-!
# Files keep to themselves

What is in one file has no say in whether another one is listed, as long as the search gets
past it. It gets past malformed files and past those that declare entities, but not past a
file that declares an encoding which is not supported: then nothing is listed at all.
-/

namespace SafetyConfig

/-- The paths that lead elsewhere than to a place. -/
def pathsBeside (home l : Location) (paths : List Path) : List Path :=
  paths.filter fun p => p.locate home ≠ l

/-- The candidates that are found elsewhere than at a place. -/
def Candidate.beside (dir l : Location) (cs : List Candidate) : List Candidate :=
  cs.filter fun c => dir ++ c.names ≠ l

theorem Candidate.beside_rewrite (dir l : Location) (bytes : Bytes) (cs : List Candidate) :
    beside dir l (cs.map (rewrite dir l bytes)) = beside dir l cs := by
  unfold beside
  induction cs with
  | nil => rfl
  | cons c cs ih =>
    rw [List.map_cons, List.filter_cons, List.filter_cons, ih, rewrite_names]
    by_cases hl : dir ++ c.names = l
    · simp [hl]
    · simp [hl, rewrite]

namespace FileStore

variable {s : FileStore} {l : Location} {old new : Bytes} {dir : Path}

/-- To leave a place out of what is listed, leave it out of what is opened. -/
theorem pathsBeside_listed {home : Location} {cs : List Candidate}
    (hcs : ∀ c ∈ cs, (dir.append c.names).locate home = dir.locate home ++ c.names) :
    pathsBeside home l
        ((cs.filter fun c => hasConfigRoot c.bytes).map fun c => dir.append c.names) =
      ((Candidate.beside (dir.locate home) l cs).filter fun c => hasConfigRoot c.bytes).map
        fun c => dir.append c.names := by
  rw [pathsBeside, Candidate.beside, List.filter_map, List.filter_filter, List.filter_filter]
  refine congrArg _ (List.filter_congr fun c hc => ?_)
  rw [Function.comp_apply, hcs c hc, Bool.and_comm]

theorem pathsBeside_listing_replace (h : s.at? l = some (.file old)) (dir : Path) :
    pathsBeside s.home l ((s.replace l old new h).listing dir) =
      pathsBeside s.home l (s.listing dir) := by
  have hopened : ∀ c ∈ s.visited dir, (dir.append c.names).locate s.home =
      dir.locate s.home ++ c.names := fun c hc => locate_of_mem_visited hc
  have hopened' : ∀ c ∈ (s.visited dir).map (Candidate.rewrite (dir.locate s.home) l new),
      (dir.append c.names).locate s.home = dir.locate s.home ++ c.names := by
    intro c hc
    obtain ⟨d, hd, rfl⟩ := List.mem_map.mp hc
    simpa using hopened d hd
  rw [listing, listing, visited_replace, pathsBeside_listed hopened, pathsBeside_listed hopened',
    Candidate.beside_rewrite]

/-- With other bytes in a file, a search still gives a list just where it is allowed to by
those bytes, if it opens the file, and by the bytes of every other file that it opens. -/
theorem exists_findConfigs_replace_iff (h : s.at? l = some (.file old)) :
    (∃ found, (s.replace l old new h).findConfigs dir = .ok found) ↔
      s.Searchable dir ∧ (s.Visits dir l → ¬ EndsSearch new) ∧
        ∀ k bytes, k ≠ l → s.at? k = some (.file bytes) → s.Visits dir k → ¬ EndsSearch bytes := by
  rw [exists_findConfigs_iff, searchable_replace_iff]
  simp only [visits_replace_iff]
  refine and_congr_right fun _ => ⟨fun hpassed => ⟨?_, ?_⟩, ?_⟩
  · exact hpassed l new (at?_replace_self s h)
  · intro k bytes hk hat
    exact hpassed k bytes ((at?_replace_of_ne s h hk).trans hat)
  · rintro ⟨hself, hothers⟩ k bytes hat
    by_cases hk : k = l
    · subst hk
      have hbytes : new = bytes := by simpa [at?_replace_self s h] using hat
      exact hbytes ▸ hself
    · exact hothers k bytes hk ((at?_replace_of_ne s h hk).symm.trans hat)

/-- If a search gave a list and gets past the other bytes, it gives the same list again as
far as other files are concerned. -/
theorem findConfigs_replace (h : s.at? l = some (.file old)) (hnew : ¬ EndsSearch new)
    {found : List Path} (hfound : s.findConfigs dir = .ok found) :
    ∃ found', (s.replace l old new h).findConfigs dir = .ok found' ∧
      pathsBeside s.home l found' = pathsBeside s.home l found := by
  obtain ⟨hsearchable, hpassed⟩ := exists_findConfigs_iff.mp ⟨found, hfound⟩
  obtain ⟨found', hfound'⟩ := (exists_findConfigs_replace_iff h).mpr
    ⟨hsearchable, fun _ => hnew, fun k bytes _ => hpassed k bytes⟩
  obtain ⟨-, -, rfl⟩ := findConfigs_eq_ok_iff.mp hfound
  obtain ⟨-, -, rfl⟩ := findConfigs_eq_ok_iff.mp hfound'
  exact ⟨_, hfound', pathsBeside_listing_replace h dir⟩

end FileStore

namespace Workspace

variable {w : Workspace} {l : Location} {old : Bytes}

/-- The workspace with other bytes in a file. -/
def rewrite (w : Workspace) (h : w.files.at? l = some (.file old)) (new : Bytes) : Workspace :=
  { w with files := w.files.replace l old new h }

/-- The directory in which a call looks for configurations. -/
def directoryOf (w : Workspace) (a : Arguments) : Json :=
  (a.get? "directory").getD (.ofString w.settings.configDir)

theorem listConfigs_eq_ok_iff {a : Arguments} {text : String} : w.listConfigs a = .ok text ↔
    ∃ d found, w.admitDirectory (w.directoryOf a) = .ok d ∧
      w.files.findConfigs ⟨.root, d⟩ = .ok found ∧
        text = Listing.configs (w.directoryOf a).plain found := by
  unfold listConfigs
  rw [bind_eq_ok_iff]
  refine exists_congr fun d => ?_
  rw [← directoryOf]
  cases w.files.findConfigs ⟨.root, d⟩ with
  | ok found => simp [eq_comm]
  | error fault => simp

theorem admitDirectory_rewrite (h : w.files.at? l = some (.file old)) (new : Bytes) (path : Json) :
    (w.rewrite h new).admitDirectory path = w.admitDirectory path := by
  unfold admitDirectory
  refine congrArg _ (funext fun text => ?_)
  rw [rewrite, FileStore.admitDirectoryText_replace]

/-- Bytes put into one file of a workspace. Whether a search still gives a list is up to the
encoding they declare, and to nothing else in them. If it does, it lists the same other files
in the same order, and so do the publications and the tool that lists configurations. -/
theorem listings_keep_other_files (w : Workspace) {l : Location} {old : Bytes}
    (h : w.files.at? l = some (.file old)) (new : Bytes) :
    (∀ dir, (∃ found, (w.rewrite h new).files.findConfigs dir = .ok found) ↔
      w.files.Searchable dir ∧ (w.files.Visits dir l → ¬ EndsSearch new) ∧
        ∀ k bytes, k ≠ l → w.files.at? k = some (.file bytes) → w.files.Visits dir k →
          ¬ EndsSearch bytes) ∧
    (∀ dir found found', w.files.findConfigs dir = .ok found →
      (w.rewrite h new).files.findConfigs dir = .ok found' →
        pathsBeside w.files.home l found' = pathsBeside w.files.home l found) ∧
    (¬ EndsSearch new → ∀ pubs, w.publications = .ok pubs →
      ∃ found found', w.files.findConfigs (Path.ofString w.settings.configDir) = .ok found ∧
        pubs = found.map publish ∧ (w.rewrite h new).publications = .ok (found'.map publish) ∧
          pathsBeside w.files.home l found' = pathsBeside w.files.home l found) ∧
    (¬ EndsSearch new → ∀ a text, w.listConfigs a = .ok text →
      ∃ d found found', w.admitDirectory (w.directoryOf a) = .ok d ∧
        w.files.findConfigs ⟨.root, d⟩ = .ok found ∧
          text = Listing.configs (w.directoryOf a).plain found ∧
            (w.rewrite h new).listConfigs a =
              .ok (Listing.configs (w.directoryOf a).plain found') ∧
                pathsBeside w.files.home l found' = pathsBeside w.files.home l found) := by
  refine ⟨fun dir => FileStore.exists_findConfigs_replace_iff h, ?_, ?_, ?_⟩
  · intro dir found found' hfound hfound'
    obtain ⟨-, -, rfl⟩ := FileStore.findConfigs_eq_ok_iff.mp hfound
    obtain ⟨-, -, rfl⟩ := FileStore.findConfigs_eq_ok_iff.mp hfound'
    exact FileStore.pathsBeside_listing_replace h dir
  · intro hnew pubs hpubs
    obtain ⟨found, hfound, rfl⟩ := publications_eq_ok_iff.mp hpubs
    obtain ⟨found', hfound', hsame⟩ := FileStore.findConfigs_replace h hnew hfound
    exact ⟨found, found', hfound, rfl, publications_eq_ok_iff.mpr ⟨found', hfound', rfl⟩, hsame⟩
  · intro hnew a text htext
    obtain ⟨d, found, hd, hfound, rfl⟩ := listConfigs_eq_ok_iff.mp htext
    obtain ⟨found', hfound', hsame⟩ := FileStore.findConfigs_replace h hnew hfound
    have hadmitted : (w.rewrite h new).admitDirectory (w.directoryOf a) = .ok d :=
      (admitDirectory_rewrite h new _).trans hd
    exact ⟨d, found, found', hd, hfound, rfl,
      listConfigs_eq_ok_iff.mpr ⟨d, found', hadmitted, hfound', rfl⟩, hsame⟩

/-! A malformed file beside a configuration. -/

def badPlace : Location := ["bad.xml".toList]

def goodPath : Path := ⟨.root, ["good.xml".toList]⟩

def pairFiles : FileStore :=
  let bad : FileStore := FileStore.add .empty badPlace (.file []) (by decide +kernel)
  bad.add goodPath.names (.file emptyConfigBytes) (by decide +kernel)

def pair : Workspace := ⟨pairFiles, ⟨"/", "", ""⟩⟩

theorem at?_badPlace : pair.files.at? badPlace = some (.file []) := by
  decide +kernel

theorem findConfigs_pair : pair.files.findConfigs ⟨.root, []⟩ = .ok [goodPath] := by
  have hcandidates : pair.files.candidates (Path.locate pair.files.home ⟨.root, []⟩) =
      [⟨badPlace, []⟩, ⟨goodPath.names, emptyConfigBytes⟩] :=
    FileStore.candidates_of_sorted (by decide +kernel) (by decide +kernel)
  simp only [FileStore.findConfigs, hcandidates]
  decide +kernel

/-- Other malformed bytes leave the configuration listed, in each of the three ways. -/
theorem malformed_file_hides_nothing :
    let malformed := pair.rewrite at?_badPlace (asciiBytes "<a")
    (∃ found, malformed.files.findConfigs ⟨.root, []⟩ = .ok found) ∧
    (∃ found, malformed.publications = .ok (found.map publish) ∧
      pathsBeside [] badPlace found = [goodPath]) ∧
    ∃ found, malformed.listConfigs ⟨Json.record []⟩ = .ok (Listing.configs "/" found) ∧
      pathsBeside [] badPlace found = [goodPath] := by
  intro malformed
  have hnew : ¬ EndsSearch (asciiBytes "<a") := by
    rintro ⟨e, htag, hfault⟩
    have hmalformed : Markup.rootTag (asciiBytes "<a") = .error .malformed := by decide +kernel
    rw [hmalformed] at htag
    cases htag
    cases hfault
  have hbeside : pathsBeside [] badPlace [goodPath] = [goodPath] := by decide +kernel
  obtain ⟨hlist, -, hpublished, hlisted⟩ :=
    listings_keep_other_files pair at?_badPlace (asciiBytes "<a")
  refine ⟨?_, ?_, ?_⟩
  · obtain ⟨hsearchable, hpassed⟩ := FileStore.exists_findConfigs_iff.mp ⟨_, findConfigs_pair⟩
    exact (hlist _).mpr ⟨hsearchable, fun _ => hnew, fun k bytes _ => hpassed k bytes⟩
  · have hpubs : pair.publications = .ok [publish goodPath] :=
      publications_eq_ok_iff.mpr ⟨_, findConfigs_pair, rfl⟩
    obtain ⟨found, found', hfound, -, hpubs', hsame⟩ := hpublished hnew _ hpubs
    obtain rfl := Except.ok.inj (findConfigs_pair.symm.trans hfound)
    exact ⟨found', hpubs', hsame.trans hbeside⟩
  · have hroot : pair.admitDirectory (pair.directoryOf ⟨Json.record []⟩) = .ok [] := rfl
    have hplain : (pair.directoryOf ⟨Json.record []⟩).plain = "/" := by decide +kernel
    obtain ⟨d, found, found', hd, hfound, -, htext, hsame⟩ := hlisted hnew ⟨Json.record []⟩ _
      (listConfigs_eq_ok_iff.mpr ⟨[], _, hroot, findConfigs_pair, rfl⟩)
    obtain rfl := Except.ok.inj (hroot.symm.trans hd)
    obtain rfl := Except.ok.inj (findConfigs_pair.symm.trans hfound)
    exact ⟨found', hplain ▸ htext, hsame.trans hbeside⟩

/-- A file that declares an unknown encoding takes the configuration beside it out of every
list. -/
theorem unknown_encoding_hides_all :
    pair.files.findConfigs ⟨.root, []⟩ = .ok [goodPath] ∧
      ¬ ∃ found, (pair.rewrite at?_badPlace
        (asciiBytes "<?xml version='1.0' encoding='x'?><a/>")).files.findConfigs ⟨.root, []⟩ =
          .ok found := by
  refine ⟨findConfigs_pair, fun hfound => ?_⟩
  obtain ⟨-, hpassed, -⟩ := (FileStore.exists_findConfigs_replace_iff at?_badPlace).mp hfound
  exact hpassed ⟨by decide +kernel, badPlace, by decide +kernel, by decide +kernel,
    by decide +kernel⟩ ⟨.unknownEncoding "x", by decide +kernel, rfl⟩

end Workspace

end SafetyConfig
