import SafetyConfig.Proofs.Resource.Numeral
import SafetyConfig.Proofs.Tool.Explanation
import SafetyConfig.Proofs.Tool.Table

/-!
# What shown identifiers tell

The listing of groups and the answer for a reference show identifiers between other texts. Those may
hold anything, but no identifier is shown with a blank, a bar or a line break in it. So the place of
an identifier is enough to tell which one it is.
-/

namespace SafetyConfig

namespace Listing

variable {heading : Heading} {rows rows' : List (List String)} {text : String}

theorem padded_injective : Function.Injective padded := by
  intro cell cell' h
  have hlist : cell.toList ++ [' '] = cell'.toList ++ [' '] := (List.cons.inj h).2
  exact String.toList_injective (List.append_cancel_right hlist)

theorem eq_of_isRow {cells cells' : List String} {line : List Char}
    (h : IsRow (cells.map padded) line) (h' : IsRow (cells'.map padded) line) : cells = cells' := by
  rw [IsRow, h, List.cons_append, List.cons_append] at h'
  have hmap := List.append_cancel_right (List.cons.inj h').2
  exact List.map_injective_iff.mpr padded_injective hmap

/-- A text is the table of no other rows. -/
theorem IsTable.rows_eq (h : IsTable heading rows text) (h' : IsTable heading rows' text) :
    rows = rows' := by
  obtain ⟨_, _, body, hlines, -, -, hrows⟩ := h
  obtain ⟨_, _, body', hlines', -, -, hrows'⟩ := h'
  obtain ⟨-, -, rfl⟩ : _ ∧ _ ∧ body = body' := by
    rw [hlines] at hlines'
    simpa using hlines'
  have hunique : Relator.RightUnique fun (line : List Char) (row : List String) =>
      row.length = heading.columns.length ∧ IsRow (row.map padded) line :=
    fun _ _ _ hrow hrow' => eq_of_isRow hrow.2 hrow'.2
  exact hunique.forall₂ hrows hrows'

/-! The columns of the groups. -/

/-- The cell in a column of the table of groups. -/
def cellUnder (column : String) (cells : List String) : Option String :=
  cells[groupsHeading.columns.idxOf column]?

/-- A row that shows the title and the summary of a group in their columns. -/
structure ShowsIds (cells : List String) (g : Group) : Prop where
  title : cellUnder "Title" cells = some (ResourceId.format g.title)
  summary : cellUnder "Summary" cells = some (ResourceId.format g.summary)

theorem showsIds_groupCells (position : Nat) (g : Group) : ShowsIds (groupCells position g) g :=
  ⟨rfl, rfl⟩

theorem showsIds_groupRows (gs : List Group) : List.Forall₂ ShowsIds (groupRows gs) gs := by
  rw [List.forall₂_iff_get]
  refine ⟨by simp [groupRows], fun i _ _ => ?_⟩
  simpa [groupRows] using showsIds_groupCells (i + 1) _

theorem ShowsIds.eq_iff {cells cells' : List String} {g g' : Group} (h : ShowsIds cells g)
    (h' : ShowsIds cells' g') :
    (cellUnder "Title" cells = cellUnder "Title" cells' ↔ g.title = g'.title) ∧
      (cellUnder "Summary" cells = cellUnder "Summary" cells' ↔ g.summary = g'.summary) := by
  rw [h.title, h'.title, h.summary, h'.summary, Option.some.injEq, Option.some.injEq]
  exact ⟨ResourceId.format_injective.eq_iff, ResourceId.format_injective.eq_iff⟩

/-- What the rows show in a column is the same for all groups that they show. -/
theorem map_eq_of_showsIds {column : String} {shown : Group → ResourceId} {gs gs' : List Group}
    (hcolumn : ∀ cells g, ShowsIds cells g →
      cellUnder column cells = some (ResourceId.format (shown g)))
    (h : List.Forall₂ ShowsIds rows gs) (h' : List.Forall₂ ShowsIds rows gs') :
    gs.map shown = gs'.map shown := by
  have hunique : Relator.RightUnique fun (cells : List String) (n : ResourceId) =>
      cellUnder column cells = some (ResourceId.format n) :=
    fun _ _ _ hn hm => ResourceId.format_injective (Option.some.inj (hn.symm.trans hm))
  have hshown : List.Forall₂ (fun cells n => cellUnder column cells = some (ResourceId.format n))
      rows (gs.map shown) := List.forall₂_map_right_iff.mpr (h.imp hcolumn)
  have hshown' : List.Forall₂ (fun cells n => cellUnder column cells = some (ResourceId.format n))
      rows (gs'.map shown) := List.forall₂_map_right_iff.mpr (h'.imp hcolumn)
  exact hunique.forall₂ hshown hshown'

/-- Listings that read as tables are the same only for the same identifiers. -/
theorem ids_eq_of_groups_eq {config config' : Config}
    (hfits : ∀ g ∈ config.groups, FitsCell g.id.toList)
    (hfits' : ∀ g ∈ config'.groups, FitsCell g.id.toList) (h : groups config = groups config') :
    config.groups.map Group.title = config'.groups.map Group.title ∧
      config.groups.map Group.summary = config'.groups.map Group.summary := by
  have htable := isTable_groups_iff.mpr hfits
  rw [h] at htable
  have hrows := htable.rows_eq (isTable_groups_iff.mpr hfits')
  have hshown := showsIds_groupRows config.groups
  rw [hrows] at hshown
  have hshown' := showsIds_groupRows config'.groups
  exact ⟨map_eq_of_showsIds (fun _ _ hids => hids.title) hshown hshown',
    map_eq_of_showsIds (fun _ _ hids => hids.summary) hshown hshown'⟩

end Listing

/-! Answers for references. -/

/-- An identifier ends at the first blank behind it. -/
theorem ResourceId.eq_of_format_append {n n' : ResourceId} {rest rest' : List Char}
    (h : (ResourceId.format n).toList ++ ' ' :: rest =
      (ResourceId.format n').toList ++ ' ' :: rest') : n = n' := by
  have hblank : ∀ m : ResourceId, ' ' ∉ (ResourceId.format m).toList :=
    fun m hm => absurd (ResourceId.mem_format hm) (by decide)
  have hsplit := splitAtFirst?_append (hblank n) rest
  rw [h, splitAtFirst?_append (hblank n')] at hsplit
  have htext := (Prod.mk.inj (Option.some.inj hsplit)).1
  exact ResourceId.format_injective (String.toList_injective htext.symm)

/-- And it starts behind the last blank before it. -/
theorem ResourceId.eq_of_append_format {n n' : ResourceId} {front front' : List Char}
    (h : front ++ ' ' :: (ResourceId.format n).toList =
      front' ++ ' ' :: (ResourceId.format n').toList) : n = n' := by
  have hblank : ∀ m : ResourceId, ' ' ∉ (ResourceId.format m).toList.reverse :=
    fun m hm => absurd (ResourceId.mem_format (List.mem_reverse.mp hm)) (by decide)
  have hreverse := congrArg List.reverse h
  simp only [List.reverse_append, List.reverse_cons, List.append_assoc, List.singleton_append]
    at hreverse
  have hsplit := splitAtFirst?_append (hblank n) front.reverse
  rw [hreverse, splitAtFirst?_append (hblank n')] at hsplit
  have htext := List.reverse_injective (Prod.mk.inj (Option.some.inj hsplit)).1
  exact ResourceId.format_injective (String.toList_injective htext.symm)

namespace Workspace

/-- The text that is given for a reference which resolves. -/
def referenceAnswer (reference : String) (n : ResourceId) (package : String) : String :=
  reference ++ " -> " ++ ResourceId.format n ++ " (" ++ package ++ ")"

/-- A call for a reference that resolves to an identifier in the package of its table. -/
def ResolvesTo (w : Workspace) (a : Arguments) (reference : String) (n : ResourceId)
    (package : String) : Prop :=
  ∃ t choice, a.get? "reference" = some (.text t) ∧ Text.toString t = reference ∧
    w.loadTable a = .ok choice ∧ choice.package.plain = package ∧
      choice.scope.resolveText referencePlace t = .ok n

variable {w w' : Workspace} {a a' : Arguments} {reference reference' package package' : String}
  {n n' : ResourceId}

theorem call_resolveReference_of_resolvesTo (h : w.ResolvesTo a reference n package) :
    w.call "resolve_reference" a = referenceAnswer reference n package := by
  obtain ⟨t, choice, hreference, rfl, hchoice, rfl, hresolve⟩ := h
  have hneed : a.need "reference" = .ok (.text t) := by
    rw [Arguments.need, hreference]
  have hcall := call_name w .resolveReference a
  rw [run, resolveReference, hchoice, ok_bind, hneed, ok_bind] at hcall
  simp only [hresolve] at hcall
  exact hcall

theorem eq_of_answer_of_reference
    (h : referenceAnswer reference n package = referenceAnswer reference n' package') : n = n' := by
  have hlist := congrArg String.toList h
  simp only [referenceAnswer, String.toList_append, List.append_assoc,
    List.append_cancel_left_eq] at hlist
  exact ResourceId.eq_of_format_append hlist

theorem eq_of_answer_of_package
    (h : referenceAnswer reference n package = referenceAnswer reference' n' package) : n = n' := by
  have hlist := congrArg String.toList h
  simp only [referenceAnswer, String.toList_append, List.append_cancel_right_eq] at hlist
  have hends : (reference.toList ++ [' ', '-', '>']) ++ ' ' :: (ResourceId.format n).toList =
      (reference'.toList ++ [' ', '-', '>']) ++ ' ' :: (ResourceId.format n').toList := by
    simpa using hlist
  exact ResourceId.eq_of_append_format hends

/-- A reference without a blank ends at the first blank of the answer. -/
theorem reference_eq_of_answer_eq (hblank : ' ' ∉ reference.toList)
    (hblank' : ' ' ∉ reference'.toList)
    (h : referenceAnswer reference n package = referenceAnswer reference' n' package') :
    reference = reference' := by
  have hlist := congrArg String.toList h
  simp only [referenceAnswer, String.toList_append, List.append_assoc] at hlist
  have hsplit := congrArg (splitAtFirst? ' ') hlist
  rw [show " -> ".toList = ' ' :: "-> ".toList from rfl, List.cons_append,
    List.cons_append, splitAtFirst?_append hblank, splitAtFirst?_append hblank'] at hsplit
  exact String.toList_injective (Prod.mk.inj (Option.some.inj hsplit)).1

theorem eq_of_answer_eq
    (h : referenceAnswer reference n package = referenceAnswer reference' n' package')
    (hknown : reference = reference' ∨ package = package' ∨
      ' ' ∉ reference.toList ∧ ' ' ∉ reference'.toList) : n = n' := by
  rcases hknown with rfl | rfl | ⟨hblank, hblank'⟩
  · exact eq_of_answer_of_reference h
  · exact eq_of_answer_of_package h
  · obtain rfl := reference_eq_of_answer_eq hblank hblank' h
    exact eq_of_answer_of_reference h

open Listing in
/-- An identifier is shown as a dash if there is none, and else as its numeral, which no other has.
The title and summary cells of a listed group tell its identifiers, and so does the whole listing if
it reads as a table. The answer for a reference tells the identifier where the reference has no
blank in it, and in any case to whoever knows the reference that was asked for, or the package. -/
theorem shown_identifiers_are_unambiguous :
    (∀ n, ResourceId.format n = "-" ↔ n = 0) ∧
    (∀ n, n ≠ 0 → ∃ text, ResourceId.format n = "0x" ++ String.ofList text ∧
      ResourceId.IsPaddedHex 8 n text) ∧
    Function.Injective ResourceId.format ∧
    (∀ (w : Workspace) a config, w.loadConfig a = .ok config →
      ∃ rows, w.call "list_groups" a = groupsHeader ++ String.join (rows.map row) ∧
        List.Forall₂ ShowsIds rows config.groups) ∧
    (∀ cells cells' g g', ShowsIds cells g → ShowsIds cells' g' →
      (cellUnder "Title" cells = cellUnder "Title" cells' ↔ g.title = g'.title) ∧
      (cellUnder "Summary" cells = cellUnder "Summary" cells' ↔ g.summary = g'.summary)) ∧
    (∀ (w w' : Workspace) a a' config config', w.loadConfig a = .ok config →
      w'.loadConfig a' = .ok config' → (∀ g ∈ config.groups, FitsCell g.id.toList) →
        (∀ g ∈ config'.groups, FitsCell g.id.toList) →
          w.call "list_groups" a = w'.call "list_groups" a' →
            config.groups.map Group.title = config'.groups.map Group.title ∧
              config.groups.map Group.summary = config'.groups.map Group.summary) ∧
    (∀ (w w' : Workspace) a a' reference reference' n n' package package',
      w.ResolvesTo a reference n package → w'.ResolvesTo a' reference' n' package' →
        (reference = reference' ∨ package = package' ∨
          ' ' ∉ reference.toList ∧ ' ' ∉ reference'.toList) →
          w.call "resolve_reference" a = w'.call "resolve_reference" a' → n = n') := by
  refine ⟨fun n => ResourceId.format_eq_dash_iff, fun n => ResourceId.format_eq_numeral,
    ResourceId.format_injective, ?_, fun _ _ _ _ h h' => h.eq_iff h', ?_, ?_⟩
  · intro w a config hload
    exact ⟨_, (call_listGroups hload).trans (groups_eq config), showsIds_groupRows config.groups⟩
  · intro w w' a a' config config' hload hload' hfits hfits' hcall
    rw [call_listGroups hload, call_listGroups hload'] at hcall
    exact ids_eq_of_groups_eq hfits hfits' hcall
  · intro w w' a a' reference reference' n n' package package' h h' hknown hcall
    rw [call_resolveReference_of_resolvesTo h, call_resolveReference_of_resolvesTo h'] at hcall
    exact eq_of_answer_eq hcall hknown

-- Blanks in a reference that is not known may be those of the answer.
example : referenceAnswer "@string/a" 1 "b -> 0x00000002 (c" =
    referenceAnswer "@string/a -> 0x00000001 (b" 2 "c" := by decide +kernel

/-- The configuration whose title is in the table. -/
def titledConfig : Config :=
  let lock : Source :=
    ⟨.static, "lock", none, 0, 0, 0, some "open", .primary, .unspecified, none, 0, none, false,
      false⟩
  ⟨[⟨"g", 7, 0, .none, [lock]⟩]⟩

/-- The title is shown in the listing, by whatever path the file is named, and in the answers for
its reference, whether the package is named or not. -/
theorem title_is_unambiguous :
    let ask := Arguments.mk (Json.record [("reference", .ofString "@string/locks")])
    let askApp := Arguments.mk
      (Json.record [("reference", .ofString "@string/locks"), ("package_name", .ofString "app")])
    (∃ text, ResourceId.format (-0x123456789) = "0x" ++ String.ofList text ∧
      ResourceId.IsPaddedHex 8 (-0x123456789) text) ∧
    titled.call "list_groups" (.ofPath "/locks.xml") =
      titled.call "list_groups" (.ofPath "locks.xml") ∧
    (∀ config, titled.loadConfig (.ofPath "locks.xml") = .ok config →
      (∀ g ∈ config.groups, Listing.FitsCell g.id.toList) → config.groups.map Group.title = [7]) ∧
    titled.ResolvesTo ask "@string/locks" 7 "app" ∧
    titled.call "resolve_reference" ask = titled.call "resolve_reference" askApp ∧
    ∀ n package, titled.ResolvesTo askApp "@string/locks" n package → n = 7 := by
  intro ask askApp
  obtain ⟨-, hnumeral, -, -, -, hlistings, hanswers⟩ := shown_identifiers_are_unambiguous
  have hload : titled.loadConfig (.ofPath "/locks.xml") = .ok titledConfig :=
    eq_ok_of_toOption (by decide +kernel)
  have hlisting : titled.call "list_groups" (.ofPath "/locks.xml") =
      titled.call "list_groups" (.ofPath "locks.xml") := by decide +kernel
  have hanswer : titled.call "resolve_reference" ask = titled.call "resolve_reference" askApp := by
    decide +kernel
  have hresolves : titled.ResolvesTo ask "@string/locks" 7 "app" := by
    have hfound : (titled.loadTable ask).toOption.map (fun choice => (choice.package.plain,
        (choice.scope.resolve referencePlace "@string/locks").toOption)) =
          some ("app", some 7) := by decide +kernel
    cases hchoice : titled.loadTable ask with
    | error e =>
      rw [hchoice] at hfound
      cases hfound
    | ok choice =>
      rw [hchoice] at hfound
      obtain ⟨hpackage, hresolve⟩ := Prod.mk.inj (Option.some.inj hfound)
      exact ⟨Text.ofString "@string/locks", choice, rfl, by simp, hchoice, hpackage,
        eq_ok_of_toOption hresolve⟩
  refine ⟨hnumeral _ (by decide), hlisting, fun config hconfig hfits => ?_, hresolves, hanswer,
    fun n package h => ?_⟩
  · exact (hlistings _ _ _ _ config titledConfig hconfig hload hfits (by decide) hlisting.symm).1
  · exact hanswers _ _ _ _ _ _ n 7 package "app" h hresolves (.inl rfl) hanswer.symm

end Workspace

end SafetyConfig
