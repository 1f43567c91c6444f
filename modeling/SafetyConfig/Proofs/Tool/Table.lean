import SafetyConfig.Proofs.File.PathText
import SafetyConfig.Proofs.Number.ReadBack
import SafetyConfig.Proofs.Resource.Numeral
import SafetyConfig.Proofs.Tool.Selection

/-!
# Listings as tables

A listing is laid out as a table: a title, the columns, and one line for each row, with bars between
the cells. Its cells are written as they are, so it reads as that table just where no cell has a bar
or a line break in it. The ids, packages and actions of a configuration may have both.
-/

namespace SafetyConfig

theorem joinWith_append_nil {α : Type} {mark : α} (parts : List (List α)) :
    joinWith mark (parts ++ [[]]) = parts.flatMap (· ++ [mark]) := by
  induction parts with
  | nil => rfl
  | cons part parts ih =>
    obtain ⟨next, rest, hnext⟩ := List.exists_cons_of_ne_nil
      (List.append_ne_nil_of_right_ne_nil parts (List.cons_ne_nil ([] : List α) []))
    rw [List.flatMap_cons, ← ih, List.cons_append, hnext, joinWith, List.append_assoc]
    · rfl
    · simp

namespace Listing

/-- What stays within its cell and its line. -/
def FitsCell (cell : List Char) : Prop :=
  '|' ∉ cell ∧ '\n' ∉ cell

instance (cell : List Char) : Decidable (FitsCell cell) :=
  inferInstanceAs (Decidable (_ ∧ _))

/-- The title and the columns of a table. -/
structure Heading where
  title : String
  columns : List String
  title_line : '\n' ∉ title.toList
  columns_fit : ∀ column ∈ columns, FitsCell column.toList

def groupsHeading : Heading where
  title := "# Safety Sources Groups"
  columns := ["#", "Id", "Title", "Summary", "Icon", "Sources"]
  title_line := by decide
  columns_fit := by decide

def sourcesHeading : Heading where
  title := "# Safety Sources"
  columns := ["Group", "Id", "Type", "Package", "Profile", "Intent Action"]
  title_line := by decide
  columns_fit := by decide

/-- A cell has a blank on both sides. -/
def padded (cell : String) : List Char :=
  ' ' :: cell.toList ++ [' ']

def dashes (column : String) : List Char :=
  List.replicate (column.length + 2) '-'

/-- The line has these cells between bars, and no others. -/
def IsRow (cells : List (List Char)) (line : List Char) : Prop :=
  cutAt '|' line = [] :: cells ++ [[]]

/-- Below a title, an empty line, the columns and a separator there is one line for each row, with a
cell for each column. -/
def IsTable (heading : Heading) (rows : List (List String)) (text : String) : Prop :=
  ∃ columns separator body,
    cutAt '\n' text.toList = heading.title.toList :: [] :: columns :: separator :: body ++ [[]] ∧
    IsRow (heading.columns.map padded) columns ∧ IsRow (heading.columns.map dashes) separator ∧
    List.Forall₂ (fun line row => row.length = heading.columns.length ∧ IsRow (row.map padded) line)
      body rows

/-! Which tables there are. -/

variable {heading : Heading} {rows : List (List String)} {text : String}

theorem fitsCell_padded_iff {cell : String} : FitsCell (padded cell) ↔ FitsCell cell.toList := by
  simp [FitsCell, padded]

theorem fitsCell_map_dashes (columns : List String) :
    ∀ cell ∈ columns.map dashes, FitsCell cell := by
  rw [List.forall_mem_map]
  intro column _
  constructor <;> simp [dashes, List.mem_replicate]

/-- The cells of a row stay within it, and within the line. -/
theorem IsRow.fitsCell {cells : List (List Char)} {line : List Char} (h : IsRow cells line)
    (hline : '\n' ∉ line) : ∀ cell ∈ cells, FitsCell cell := by
  intro cell hcell
  have hmem : cell ∈ cutAt '|' line := by
    rw [h]
    exact List.mem_append_left _ (List.mem_cons_of_mem _ hcell)
  refine ⟨not_mem_of_mem_cutAt hmem, fun hin => hline ?_⟩
  rw [← joinWith_cutAt '|' line, mem_joinWith_iff (by decide)]
  exact ⟨cell, hmem, hin⟩

theorem IsTable.fitsCell (h : IsTable heading rows text) :
    ∀ row ∈ rows, ∀ cell ∈ row, FitsCell cell.toList := by
  intro row hrow cell hcell
  obtain ⟨_, _, body, hlines, -, -, hrows⟩ := h
  obtain ⟨line, hline, -, hcells⟩ := exists_mem_of_forall₂ hrows hrow
  have hcut : line ∈ cutAt '\n' text.toList := by
    rw [hlines]
    simp [hline]
  have hbreak : '\n' ∉ line := not_mem_of_mem_cutAt hcut
  exact fitsCell_padded_iff.mp (hcells.fitsCell hbreak _ (List.mem_map_of_mem hcell))

/-- A line with cells between bars. -/
def barred (cells : List (List Char)) : List Char :=
  joinWith '|' ([] :: cells ++ [[]])

theorem isRow_barred {cells : List (List Char)} (h : ∀ cell ∈ cells, FitsCell cell) :
    IsRow cells (barred cells) := by
  refine cutAt_joinWith (by simp) ?_
  simp only [List.cons_append, List.forall_mem_cons, List.forall_mem_append]
  exact ⟨List.not_mem_nil, fun cell hcell => (h cell hcell).1, by simp⟩

theorem break_not_mem_barred {cells : List (List Char)} (h : ∀ cell ∈ cells, FitsCell cell) :
    '\n' ∉ barred cells := by
  rw [barred, mem_joinWith_iff (by decide)]
  rintro ⟨cell, hcell, hin⟩
  rcases List.mem_append.mp hcell with hcell | hcell
  · rcases List.mem_cons.mp hcell with rfl | hcell
    · cases hin
    · exact (h cell hcell).2 hin
  · rw [List.mem_singleton.mp hcell] at hin
    cases hin

theorem fitsCell_map_padded {cells : List String} (h : ∀ cell ∈ cells, FitsCell cell.toList) :
    ∀ cell ∈ cells.map padded, FitsCell cell := by
  rw [List.forall_mem_map]
  exact fun cell hcell => fitsCell_padded_iff.mpr (h cell hcell)

/-- The lines above the rows. -/
def Heading.lines (heading : Heading) : List (List Char) :=
  [heading.title.toList, [], barred (heading.columns.map padded),
    barred (heading.columns.map dashes)]

theorem Heading.break_not_mem_lines (heading : Heading) : ∀ line ∈ heading.lines, '\n' ∉ line := by
  simp only [lines, List.forall_mem_cons]
  refine ⟨heading.title_line, List.not_mem_nil, ?_, ?_, by simp⟩
  · exact break_not_mem_barred (fitsCell_map_padded heading.columns_fit)
  · exact break_not_mem_barred (fitsCell_map_dashes heading.columns)

/-- A table that is written line by line. -/
theorem isTable_of_lines (hwidth : ∀ row ∈ rows, row.length = heading.columns.length)
    (hfits : ∀ row ∈ rows, ∀ cell ∈ row, FitsCell cell.toList)
    (htext : text.toList =
      (heading.lines ++ rows.map fun row => barred (row.map padded)).flatMap (· ++ ['\n'])) :
    IsTable heading rows text := by
  refine ⟨barred (heading.columns.map padded), barred (heading.columns.map dashes),
    rows.map fun row => barred (row.map padded), ?_, ?_, ?_, ?_⟩
  · rw [htext, ← joinWith_append_nil]
    refine cutAt_joinWith (by simp) ?_
    simp only [List.forall_mem_append, List.forall_mem_map]
    refine ⟨⟨heading.break_not_mem_lines, fun row hrow => ?_⟩, by simp⟩
    exact break_not_mem_barred (fitsCell_map_padded (hfits row hrow))
  · exact isRow_barred (fitsCell_map_padded heading.columns_fit)
  · exact isRow_barred (fitsCell_map_dashes heading.columns)
  · rw [List.forall₂_map_left_iff, List.forall₂_same]
    intro row hrow
    exact ⟨hwidth row hrow, isRow_barred (fitsCell_map_padded (hfits row hrow))⟩

/-! Rows as they are written. -/

theorem toList_row {cells : List String} (h : cells ≠ []) :
    (row cells).toList = barred (cells.map padded) ++ ['\n'] := by
  have hcells : ' ' :: (" | ".intercalate cells).toList ++ [' ', '|'] =
      (cells.map padded).flatMap (· ++ ['|']) := by
    induction cells with
    | nil => exact absurd rfl h
    | cons cell cells ih =>
      cases cells with
      | nil => simp [padded]
      | cons next rest =>
        rw [List.map_cons, List.flatMap_cons, ← ih (List.cons_ne_nil _ _),
          String.intercalate_cons_cons]
        simp [padded]
  rw [barred, joinWith_append_nil, List.flatMap_cons, ← hcells]
  simp [row]

/-- The text of a table reads as its rows just where all of their cells fit. -/
theorem isTable_iff {top : String} (htop : top.toList = heading.lines.flatMap (· ++ ['\n']))
    (hne : heading.columns ≠ []) (hwidth : ∀ row ∈ rows, row.length = heading.columns.length) :
    IsTable heading rows (top ++ String.join (rows.map row)) ↔
      ∀ row ∈ rows, ∀ cell ∈ row, FitsCell cell.toList := by
  refine ⟨IsTable.fitsCell, fun hfits => isTable_of_lines hwidth hfits ?_⟩
  rw [String.toList_append, htop, String.toList_join, List.flatMap_append, List.flatMap_map,
    List.flatMap_map]
  refine congrArg _ (List.flatMap_congr fun cells hcells => toList_row ?_)
  rintro rfl
  exact hne (List.length_eq_zero_iff.mp (hwidth [] hcells).symm)

/-! Cells that always fit, and those that may not. -/

theorem fitsCell_count (n : Nat) : FitsCell (count n).toList := by
  have hdigit : ∀ d < 10, Digits.char d ≠ '|' ∧ Digits.char d ≠ '\n' := by decide
  rw [count, String.toList_ofList]
  constructor <;> intro h <;> obtain ⟨d, hd, hc⟩ := Digits.exists_of_mem_decimal h
  · exact (hdigit d hd).1 hc.symm
  · exact (hdigit d hd).2 hc.symm

theorem fitsCell_format (n : ResourceId) : FitsCell (ResourceId.format n).toList := by
  constructor <;> intro h <;> exact absurd (ResourceId.mem_format h) (by decide)

theorem fitsCell_cell_iff {text : Option String} :
    FitsCell (cell text).toList ↔ ∀ s ∈ text, FitsCell s.toList := by
  cases text with
  | none => exact iff_of_true (by decide) nofun
  | some s =>
    simp only [cell, String.isEmpty_iff, Option.mem_some_iff, forall_eq']
    by_cases hs : s = ""
    · subst hs
      decide
    · rw [if_neg hs]

def groupCells (position : Nat) (g : Group) : List String :=
  [count position, g.id, ResourceId.format g.title, ResourceId.format g.summary, g.icon.label,
    count g.sources.length]

def entryCells (e : Entry) : List String :=
  [e.group.id, e.source.id, e.source.kind.label, cell e.source.packageName, e.source.profile.label,
    cell e.source.intentAction]

/-- Nothing in the row of a source leaves its cell. -/
structure EntryFits (e : Entry) : Prop where
  group : FitsCell e.group.id.toList
  id : FitsCell e.source.id.toList
  packageName : ∀ s ∈ e.source.packageName, FitsCell s.toList
  intentAction : ∀ s ∈ e.source.intentAction, FitsCell s.toList

theorem groupCells_fit_iff {position : Nat} {g : Group} :
    (∀ cell ∈ groupCells position g, FitsCell cell.toList) ↔ FitsCell g.id.toList := by
  have hicon : FitsCell g.icon.label.toList := by
    cases g.icon <;> decide
  simp [groupCells, fitsCell_count, fitsCell_format, hicon]

theorem entryCells_fit_iff {e : Entry} :
    (∀ cell ∈ entryCells e, FitsCell cell.toList) ↔ EntryFits e := by
  have hkind : FitsCell e.source.kind.label.toList := by
    cases e.source.kind <;> decide
  have hprofile : FitsCell e.source.profile.label.toList := by
    cases e.source.profile <;> decide
  simp only [entryCells, List.forall_mem_cons, fitsCell_cell_iff]
  constructor
  · rintro ⟨hgroup, hid, -, hpackage, -, hintent, -⟩
    exact ⟨hgroup, hid, hpackage, hintent⟩
  · intro h
    exact ⟨h.group, h.id, hkind, h.packageName, hprofile, h.intentAction, List.forall_mem_nil _⟩

/-- The groups with their numbers. -/
def groupRows (groups : List Group) : List (List String) :=
  groups.mapIdx fun i g => groupCells (i + 1) g

theorem groups_eq (config : Config) :
    groups config = groupsHeader ++ String.join ((groupRows config.groups).map row) := by
  rw [groups, groupRows]
  refine congrArg _ (congrArg _ (List.ext_getElem (by simp) fun i _ _ => ?_))
  rw [List.getElem_map, List.getElem_mapIdx, List.getElem_mapIdx]
  rfl

theorem isTable_groups_iff {config : Config} :
    IsTable groupsHeading (groupRows config.groups) (groups config) ↔
      ∀ g ∈ config.groups, FitsCell g.id.toList := by
  rw [groups_eq, isTable_iff (by decide +kernel) (by decide)]
  · constructor
    · intro h g hg
      obtain ⟨i, hi, rfl⟩ := List.getElem_of_mem hg
      exact groupCells_fit_iff.mp (h _ (List.mem_mapIdx.mpr ⟨i, hi, rfl⟩))
    · intro h cells hcells
      obtain ⟨i, hi, rfl⟩ := List.mem_mapIdx.mp hcells
      exact groupCells_fit_iff.mpr (h _ (List.getElem_mem hi))
  · intro cells hcells
    obtain ⟨i, hi, rfl⟩ := List.mem_mapIdx.mp hcells
    rfl

theorem isTable_ofEntries_iff {es : List Entry} :
    IsTable sourcesHeading (es.map entryCells) (ofEntries es) ↔ ∀ e ∈ es, EntryFits e := by
  have htext : ofEntries es = sourcesHeader ++ String.join ((es.map entryCells).map row) := by
    rw [ofEntries, List.map_map]
    rfl
  rw [htext, isTable_iff (by decide +kernel) (by decide)]
  · simp only [List.forall_mem_map, entryCells_fit_iff]
  · simp only [List.forall_mem_map]
    exact fun e _ => rfl

end Listing

namespace Workspace

variable {w : Workspace} {a b : Arguments} {config : Config}

theorem call_listGroups (h : w.loadConfig a = .ok config) :
    w.call "list_groups" a = Listing.groups config := by
  have hcall := call_name w .listGroups a
  rw [run, listGroups, h] at hcall
  exact hcall

open Listing in
/-- The listing of the groups is the table of the groups just where their ids stay within their
cells, and a listing of sources is the table of these sources just where the ids, packages and
actions that are shown do. -/
theorem listings_are_tables_of_fitting_cells (hloads : w.Loads a config) :
    (IsTable groupsHeading (groupRows config.groups) (w.call "list_groups" a) ↔
      ∀ g ∈ config.groups, FitsCell g.id.toList) ∧
    ∀ b, a.SameConfig b → ∀ groups, chosenGroups config b = .ok groups →
      (IsTable sourcesHeading ((entries groups).map entryCells) (w.call "list_sources" b) ↔
        ∀ e ∈ entries groups, EntryFits e) := by
  have hload := loadConfig_of_loads hloads
  constructor
  · rw [call_listGroups hload, isTable_groups_iff]
  · intro b hsame groups hchosen
    rw [← loadConfig_of_sameConfig hsame] at hload
    rw [call_listSources hload, hchosen]
    exact isTable_ofEntries_iff

theorem twins_are_tables :
    Listing.IsTable Listing.groupsHeading
        [["1", "g", "-", "-", "none", "1"], ["2", "h", "-", "-", "none", "1"],
          ["3", "g", "-", "-", "none", "1"]]
        (twins.call "list_groups" (.asking "/twins.xml" "group_id" "h")) ∧
      Listing.IsTable Listing.sourcesHeading [["h", "b", "static", "-", "primary", "open"]]
        (twins.call "list_sources" (.asking "/twins.xml" "group_id" "h")) := by
  obtain ⟨hgroups, hsources⟩ := listings_are_tables_of_fitting_cells (loads_twins "h")
  have hchosen : chosenGroups twinConfig (.asking "/twins.xml" "group_id" "h") =
      .ok [twinConfig.groups[1]] :=
    chosenGroups_text (t := Text.ofString "h") rfl (by decide)
  have hrows : Listing.groupRows twinConfig.groups =
      [["1", "g", "-", "-", "none", "1"], ["2", "h", "-", "-", "none", "1"],
        ["3", "g", "-", "-", "none", "1"]] := by decide +kernel
  rw [hrows] at hgroups
  refine ⟨hgroups.mpr (by decide), (hsources _ (Arguments.SameConfig.refl _) _ hchosen).mpr ?_⟩
  intro e he
  obtain rfl := List.mem_singleton.mp he
  exact ⟨by decide, by decide, by decide, by decide⟩

/-! A source whose action ends its row and goes on with another one. -/

def forgedAction : String :=
  "open |\n| g | forged | static | - | primary | open"

def forgedBytes : Bytes := List.flatMap asciiBytes [
  "<safety-center-config><safety-sources-config>", "<safety-sources-group id='g'>",
  "<safety-source type='static' id='s' profile='primary'",
  " intentAction='open |&#10;| g | forged | static | - | primary | open'/>",
  "</safety-sources-group></safety-sources-config>", "</safety-center-config>"]

def forged : Workspace :=
  ⟨bareFiles.add ["forged.xml".toList] (.file forgedBytes) (by decide +kernel),
    ⟨"/", "/table.json", ""⟩⟩

/-- What is listed is the table of two sources, and not that of the one that is there. -/
theorem action_forges_row :
    let source (id action : String) : Source :=
      ⟨.static, id, none, 0, 0, 0, some action, .primary, .unspecified, none, 0, none, false, false⟩
    let config (sources : List Source) : Config := ⟨[⟨"g", 0, 0, .none, sources⟩]⟩
    let real := config [source "s" forgedAction]
    let shown := config [source "s" "open", source "forged" "open"]
    forged.Loads (.ofPath "/forged.xml") real ∧
      Listing.IsTable Listing.sourcesHeading ((entries shown.groups).map Listing.entryCells)
        (forged.call "list_sources" (.ofPath "/forged.xml")) ∧
      ¬ Listing.IsTable Listing.sourcesHeading ((entries real.groups).map Listing.entryCells)
        (forged.call "list_sources" (.ofPath "/forged.xml")) := by
  intro source config real shown
  have hload : forged.loadConfig (.ofPath "/forged.xml") = .ok real := by
    have hsome : (forged.loadConfig (.ofPath "/forged.xml")).toOption = some real := by
      decide +kernel
    exact eq_ok_of_toOption hsome
  have hcall : forged.call "list_sources" (.ofPath "/forged.xml") =
      Listing.ofEntries (entries real.groups) :=
    call_listSources_all (loads_of_loadConfig hload) (Arguments.SameConfig.refl _)
      (ungrouped_ofPath "/forged.xml")
  have hsame : Listing.ofEntries (entries real.groups) =
      Listing.ofEntries (entries shown.groups) := by decide +kernel
  refine ⟨loads_of_loadConfig hload, ?_, ?_⟩
  · rw [hcall, hsame, Listing.isTable_ofEntries_iff]
    simp only [← Listing.entryCells_fit_iff]
    decide +kernel
  · rw [hcall, Listing.isTable_ofEntries_iff]
    simp only [← Listing.entryCells_fit_iff]
    decide +kernel

end Workspace

end SafetyConfig
