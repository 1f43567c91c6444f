import SafetyConfig.Proofs.Resource.Numeral
import SafetyConfig.Proofs.Tool.Agreement

/-!
# References by themselves

A reference that is resolved by itself comes to what it comes to inside a configuration, as long
as table and package are the same: to the identifier that the listing of groups shows for it, or
to the fault for which the configuration is called invalid.
-/

namespace SafetyConfig

/-- A call for a reference, to be looked up in the table and package of another call. -/
structure Arguments.Asks (a b : Arguments) (reference : String) : Prop where
  resources : b.get? "resources" = a.get? "resources"
  package : b.get? "package_name" = a.get? "package_name"
  reference : b.get? "reference" = some (.ofString reference)

/-! References in the attributes of a group. -/

namespace Element.BecomesGroup

variable {scope : ResourceScope} {e : Element} {g : Group}

theorem references (h : e.BecomesGroup scope g) :
    (scope.OptionalResolves (e.attribute? "title") ∧
      g.title = scope.optionalIdentifier (e.attribute? "title")) ∧
    (scope.OptionalResolves (e.attribute? "summary") ∧
      g.summary = scope.optionalIdentifier (e.attribute? "summary")) := by
  obtain ⟨raw, hread, hconvert⟩ := h.converted
  have hfrom := RawGroup.readFrom_of_ofElement hread
  simp only [RawGroup.convert, bind_eq_ok_iff, orInvalid_eq_ok_iff, GroupDraft.build_eq_ok_iff,
    ResourceScope.resolveOptional_eq_ok_iff] at hconvert
  obtain ⟨title, ⟨htitle, rfl⟩, summary, ⟨hsummary, rfl⟩, sources, -, -, rfl⟩ := hconvert
  rw [hfrom.title] at htitle
  rw [hfrom.summary] at hsummary
  refine ⟨⟨htitle, ?_⟩, hsummary, ?_⟩
  · rw [← show raw.title = e.attribute? "title" from hfrom.title]
    rfl
  · rw [← show raw.summary = e.attribute? "summary" from hfrom.summary]
    rfl

end Element.BecomesGroup

/-- Whether a package can be looked for is not up to the place. -/
theorem TableChoice.explain_movedTo {choice : TableChoice} {e : ConversionError}
    (h : choice.explain e = .config (.rejected e)) (other : Place) :
    choice.explain (e.movedTo other) = .config (.rejected (e.movedTo other)) := by
  cases e with
  | referenceMissing reference place =>
    simp only [explain] at h
    split at h
    · cases h
    · rename_i hfit
      simp only [ConversionError.movedTo, explain]
      rw [if_neg hfit]
  | missingElement element => rfl
  | invalidElement element cause => rfl
  | notAReference reference place => rfl
  | unshowable => rfl

namespace Workspace

variable {w : Workspace} {a b : Arguments} {reference : String} {choice : TableChoice}

/-- What a cell shows of the text in an attribute: a dash if there is none, and else what the
reference resolves to by itself. -/
structure ShowsReference (w : Workspace) (a : Arguments) (package : String)
    (text : Option String) (cell : String) : Prop where
  absent : cell = "-" ↔ text = none
  resolved : ∀ reference b, text = some reference → a.Asks b reference →
    w.call "resolve_reference" b = reference ++ " -> " ++ cell ++ " (" ++ package ++ ")"

/-- A row shows the references of a group element beside its number and its id. -/
def ShowsGroup (w : Workspace) (a : Arguments) (package : String) (position : Nat) (e : Element)
    (row : String) : Prop :=
  ∃ id title summary icon sources, e.attribute? "id" = some id ∧
    row = Listing.row [Listing.count position, id, title, summary, icon, Listing.count sources] ∧
    w.ShowsReference a package (e.attribute? "title") title ∧
    w.ShowsReference a package (e.attribute? "summary") summary

theorem loadTable_of_asks (h : a.Asks b reference) : w.loadTable b = w.loadTable a := by
  apply loadTable_eq_of_given rfl
  · rw [Arguments.given, Arguments.given, h.resources]
  · rw [Arguments.given, Arguments.given, h.package]

/-- A call for a reference goes straight to the table that the other call has. -/
theorem run_resolveReference (h : a.Asks b reference) (hchoice : w.loadTable a = .ok choice) :
    w.run .resolveReference b =
      match choice.scope.resolve referencePlace reference with
      | .ok n =>
        .ok (reference ++ " -> " ++ ResourceId.format n ++ " (" ++ choice.package.plain ++ ")")
      | .error e =>
        match choice.explain e with
        | .config _ => .ok e.message
        | unfit => .error unfit := by
  have hneed : b.need "reference" = .ok (.ofString reference) := by
    rw [Arguments.need, h.reference]
  rw [run, resolveReference, loadTable_of_asks h, hchoice, ok_bind, hneed, ok_bind]
  simp only [Json.ofString, Text.toString_ofString, ResourceScope.resolve]
  rfl

theorem call_resolveReference_of_ok {n : ResourceId} (h : a.Asks b reference)
    (hchoice : w.loadTable a = .ok choice)
    (hresolve : choice.scope.resolve referencePlace reference = .ok n) :
    w.call "resolve_reference" b =
      reference ++ " -> " ++ ResourceId.format n ++ " (" ++ choice.package.plain ++ ")" := by
  have hcall := call_name w .resolveReference b
  simp only [run_resolveReference h hchoice, hresolve] at hcall
  exact hcall

theorem call_resolveReference_of_error {e : ConversionError} {fault : ParseError}
    (h : a.Asks b reference) (hchoice : w.loadTable a = .ok choice)
    (hresolve : choice.scope.resolve referencePlace reference = .error e)
    (hexplain : choice.explain e = .config fault) :
    w.call "resolve_reference" b = e.message := by
  have hcall := call_name w .resolveReference b
  simp only [run_resolveReference h hchoice, hresolve, hexplain] at hcall
  exact hcall

theorem showsReference_of_optionalResolves {text : Option String}
    (hchoice : w.loadTable a = .ok choice) (h : choice.scope.OptionalResolves text) :
    w.ShowsReference a choice.package.plain text
      (ResourceId.format (choice.scope.optionalIdentifier text)) := by
  refine ⟨?_, ?_⟩
  · rw [ResourceId.format_eq_dash_iff]
    exact h.eq_none_iff
  · rintro reference b rfl hasks
    have hresolve : choice.scope.resolve referencePlace reference =
        .ok (choice.scope.identifier reference) :=
      ResourceScope.resolve_eq_ok_iff.mpr ⟨h reference rfl, rfl⟩
    exact call_resolveReference_of_ok hasks hchoice hresolve

theorem showsGroup_of_becomesGroup {e : Element} {g : Group} (hchoice : w.loadTable a = .ok choice)
    (h : e.BecomesGroup choice.scope g) (i : Nat) :
    w.ShowsGroup a choice.package.plain (i + 1) e (Listing.groupRow (i + 1) g) := by
  obtain ⟨⟨htitle, htitleId⟩, hsummary, hsummaryId⟩ := h.references
  refine ⟨g.id, _, _, g.icon.label, g.sources.length, h.id, rfl, ?_, ?_⟩
  · rw [htitleId]
    exact showsReference_of_optionalResolves hchoice htitle
  · rw [hsummaryId]
    exact showsReference_of_optionalResolves hchoice hsummary

/-- The fault for which a configuration is called invalid is found again by asking. -/
theorem call_resolveReference_of_validate {place : Place} {fault : ConversionError}
    (hplace : place ∈ referencePlaces) (hfault : fault.IsAbout reference place)
    (hasks : a.Asks b reference)
    (h : w.call "validate_config" a = "Invalid config: " ++ fault.message) :
    w.call "resolve_reference" b = (fault.movedTo referencePlace).message := by
  obtain ⟨e, hload, hmessage⟩ := exists_config_fault_of_validate h
  obtain ⟨file, choice, hadmits, hconfig⟩ := exists_admits_of_loadConfig_error hload
  have hparse := TableChoice.parse_of_parseConfig hconfig
  obtain ⟨rfl, hresolve⟩ := rejected_of_message hparse hplace hfault hmessage
  have hexplain : choice.explain fault = .config (.rejected fault) := by
    rw [TableChoice.parseConfig, hparse] at hconfig
    exact Except.error.inj hconfig
  exact call_resolveReference_of_error hasks hadmits.table
    (ResourceScope.resolve_movedTo hresolve referencePlace)
    (TableChoice.explain_movedTo hexplain referencePlace)

end Workspace

theorem message_referenceMissing_alone (reference : String) :
    (ConversionError.referenceMissing reference Workspace.referencePlace).message =
      "Reference " ++ reference ++ " in reference.value missing" := by
  have hending : Workspace.referencePlace.ending " missing" =
      " in reference.value missing".toList := by decide +kernel
  apply String.toList_injective
  rw [ConversionError.toList_message_referenceMissing, hending, String.append_assoc,
    String.toList_append, String.toList_append]

theorem message_notAReference_alone (reference : String) :
    (ConversionError.notAReference reference Workspace.referencePlace).message =
      "String " ++ reference ++ " in reference.value is not a reference" := by
  have hending : Workspace.referencePlace.ending " is not a reference" =
      " in reference.value is not a reference".toList := by decide +kernel
  apply String.toList_injective
  rw [ConversionError.toList_message_notAReference, hending, String.append_assoc,
    String.toList_append, String.toList_append]

open Workspace in
/-- Resolving a reference by itself explains what the tools do with it in a configuration. If the
groups are listed, the cell of a title or summary is what the reference comes to by itself, and a
dash just where the attribute is not there. If a reference makes the configuration invalid, it
is refused by itself for the same reason. -/
theorem resolving_explains_config_tools (w : Workspace) (a : Arguments) :
    (∀ text, w.run .listGroups a = .ok text →
      w.call "list_groups" a = text ∧
      ∃ file choice root rows, w.Admits a file choice ∧
        Markup.readDocument file.bytes = .ok root ∧
        text = Listing.groupsHeader ++ String.join rows ∧
        rows.length = root.groupElements.length ∧
        ∀ i e, root.groupElements[i]? = some e →
          ∃ row, rows[i]? = some row ∧ w.ShowsGroup a choice.package.plain (i + 1) e row) ∧
    ∀ place ∈ referencePlaces, ∀ reference b, a.Asks b reference →
      (w.call "validate_config" a = "Invalid config: " ++ ("Reference " ++ reference ++ " in " ++
          place.parent ++ "." ++ place.name ++ " missing") →
        w.call "resolve_reference" b = "Reference " ++ reference ++ " in reference.value missing") ∧
      (w.call "validate_config" a = "Invalid config: " ++ ("String " ++ reference ++ " in " ++
          place.parent ++ "." ++ place.name ++ " is not a reference") →
        w.call "resolve_reference" b =
          "String " ++ reference ++ " in reference.value is not a reference") := by
  refine ⟨?_, ?_⟩
  · intro text htext
    have hcall := call_name w .listGroups a
    rw [htext] at hcall
    refine ⟨hcall, ?_⟩
    obtain ⟨config, hload, htext⟩ := bind_eq_ok_iff.mp htext
    obtain ⟨file, choice, root, hadmits, -, hdocument, hfollows⟩ := loads_of_loadConfig hload
    cases htext
    have hlength : root.groupElements.length = config.groups.length := hfollows.length_eq
    refine ⟨file, choice, root, _, hadmits, hdocument, rfl, ?_, ?_⟩
    · rw [List.length_mapIdx, hlength]
    · intro i e he
      obtain ⟨hi, rfl⟩ := List.getElem?_eq_some_iff.mp he
      have hi' : i < config.groups.length := hlength ▸ hi
      refine ⟨Listing.groupRow (i + 1) config.groups[i], ?_, ?_⟩
      · rw [List.getElem?_mapIdx, List.getElem?_eq_getElem hi']
        rfl
      · exact showsGroup_of_becomesGroup hadmits.table (hfollows.get hi hi') i
  · intro place hplace reference b hasks
    refine ⟨?_, ?_⟩
    · intro h
      rw [← message_referenceMissing_alone]
      exact call_resolveReference_of_validate hplace (Or.inr rfl) hasks h
    · intro h
      rw [← message_notAReference_alone]
      exact call_resolveReference_of_validate hplace (Or.inl rfl) hasks h

namespace Workspace

def titledBytes (title : String) : Bytes := List.flatMap asciiBytes [
  "<safety-center-config><safety-sources-config>", "<safety-sources-group id='g' title='", title,
  "'><safety-source type='static' id='lock'", " profile='primary' intentAction='open'/>",
  "</safety-sources-group></safety-sources-config>", "</safety-center-config>"]

/-- The title of one configuration is in the table, and that of another one is gone. -/
def titledFiles : FileStore :=
  let table : FileStore := FileStore.add .empty ["titles.json".toList]
    (.file (asciiBytes "\x7b\"app\": \x7b\"string/locks\": 7\x7d\x7d")) (by decide +kernel)
  let locks := table.add ["locks.xml".toList] (.file (titledBytes "@string/locks"))
    (by decide +kernel)
  locks.add ["gone.xml".toList] (.file (titledBytes "@string/gone")) (by decide +kernel)

def titled : Workspace := ⟨titledFiles, ⟨"/", "/titles.json", ""⟩⟩

/-- The listed title is asked for, and so is the missing one. -/
theorem titles_resolve_alone :
    let locks := Arguments.ofPath "/locks.xml"
    let gone := Arguments.ofPath "/gone.xml"
    let ask := fun reference => Arguments.mk (Json.record [("reference", .ofString reference)])
    locks.Asks (ask "@string/locks") "@string/locks" ∧
    titled.run .listGroups locks =
      .ok (Listing.groupsHeader ++ "| 1 | g | 0x00000007 | - | none | 1 |\n") ∧
    (∃ e row, e.attribute? "title" = some "@string/locks" ∧
      titled.ShowsGroup locks "app" 1 e row) ∧
    gone.Asks (ask "@string/gone") "@string/gone" ∧
    titled.call "validate_config" gone =
      "Invalid config: Reference @string/gone in safety-sources-group.title missing" ∧
    titled.call "resolve_reference" (ask "@string/gone") =
      "Reference @string/gone in reference.value missing" := by
  intro locks gone ask
  have hasks : locks.Asks (ask "@string/locks") "@string/locks" := ⟨rfl, rfl, rfl⟩
  have hasks' : gone.Asks (ask "@string/gone") "@string/gone" := ⟨rfl, rfl, rfl⟩
  have hlisted : titled.run .listGroups locks =
      .ok (Listing.groupsHeader ++ "| 1 | g | 0x00000007 | - | none | 1 |\n") :=
    eq_ok_of_toOption (by decide +kernel)
  have hinvalid : titled.call "validate_config" gone =
      "Invalid config: Reference @string/gone in safety-sources-group.title missing" := by
    decide +kernel
  obtain ⟨hlocks, -⟩ := resolving_explains_config_tools titled locks
  obtain ⟨-, hgone⟩ := resolving_explains_config_tools titled gone
  refine ⟨hasks, hlisted, ?_, hasks', hinvalid, ?_⟩
  · obtain ⟨-, file, choice, root, rows, hadmits, hdocument, -, -, hrows⟩ := hlocks _ hlisted
    have hbytes : file.bytes = titledBytes "@string/locks" := by
      obtain ⟨path, hpath, hfile⟩ := hadmits.file
      obtain rfl : Json.ofString "/locks.xml" = path := Except.ok.inj hpath
      rw [admitFile_ofString, mapError_eq_ok_iff] at hfile
      have hadmitted : titled.files.admitFile "/locks.xml" [".xml"] =
          .ok ⟨["locks.xml".toList], titledBytes "@string/locks"⟩ := by decide +kernel
      rw [hadmitted] at hfile
      cases hfile
      rfl
    have hpackage : choice.package.plain = "app" := by
      have hplain : (titled.loadTable locks).toOption.map (·.package.plain) = some "app" := by
        decide +kernel
      rw [hadmits.table] at hplain
      exact Option.some.inj hplain
    have htitle : (root.groupElements.head?.bind (·.attribute? "title")) =
        some "@string/locks" := by
      have hread : (Markup.readDocument (titledBytes "@string/locks")).toOption.bind
          (fun root => root.groupElements.head?.bind (·.attribute? "title")) =
            some "@string/locks" := by decide +kernel
      rw [← hbytes, hdocument] at hread
      exact hread
    obtain ⟨e, he, hattribute⟩ := Option.bind_eq_some_iff.mp htitle
    rw [List.head?_eq_getElem?] at he
    obtain ⟨row, -, hrow⟩ := hrows 0 e he
    exact ⟨e, row, hattribute, hpackage ▸ hrow⟩
  · have hplace : (⟨"safety-sources-group", "title"⟩ : Place) ∈ referencePlaces := .head _
    refine (hgone _ hplace "@string/gone" _ hasks').1 ?_
    exact hinvalid.trans (by decide +kernel)

end Workspace

end SafetyConfig
