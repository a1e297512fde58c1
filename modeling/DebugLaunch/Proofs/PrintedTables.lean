import DebugLaunch.Cli.Run
import DebugLaunch.Proofs.TableLayout
import DebugLaunch.Proofs.VerbatimMarkup

/-! Tables of marked up cells. A table is printed if each of its cells can be shown, with what they
show; where that fits on the screen, each row is one line of it. -/
namespace DebugLaunch.PrintedTables
open DebugLaunch.Action Cli MarkupTags VerbatimMarkup TableLayout

/-- What a marked up text shows, and nothing if it cannot be shown. -/
def shows (text : Text) : Text :=
  match Display.Markup.render text with
  | .ok shown => shown
  | .error _ => []

/-- The machine behind printing a text. -/
def behind (machine : Machine) (text : Text) : Machine :=
  { machine with output := machine.output ++ text }

/-- A table of rows has been printed. Where it fits and its cells take one line each, it has one
line for each row. -/
structure Tabulated (machine : Machine) (title : Text) (headers : List (Text × Option Nat))
    (rows : List (List Text)) (after : Machine) : Prop where
  printed : after = behind machine
    (Display.Table.draw machine.screen.width title (columnsOf headers rows))
  lined : Fits machine.screen.width (columnsOf headers rows) →
    (∀ row ∈ rows, ∀ cell ∈ row, OneLine cell) →
    Display.Table.draw machine.screen.width title (columnsOf headers rows) =
      Display.Wrap.joinLines (tableLines title (columnsOf headers rows) rows)

section Tables
variable {machine after : Machine} {title : Text} {headers : List (Text × Option Nat)}
  {rows : List (List Text)}

private theorem forall₂_eq_map_iff {α β : Type} {f : α → β} {items : List α} {values : List β} :
    List.Forall₂ (fun item value => value = f item) items values ↔ values = items.map f := by
  simp only [@eq_comm _ _ (f _)]
  rw [← List.forall₂_map_left_iff, List.forall₂_eq_eq_eq, eq_comm]

theorem shows_of_render {text shown : Text} (renders : Display.Markup.render text = .ok shown) :
    shows text = shown := by
  rw [shows, renders]

theorem shows_of_verbatim {text : Text} (verbatim : Verbatim text) : shows text = text :=
  shows_of_render (render_of_verbatim verbatim)

theorem renders_of_verbatim {text : Text} (verbatim : Verbatim text) : Renders text :=
  ⟨text, render_of_verbatim verbatim⟩

theorem render_eq_ok_iff {text shown : Text} :
    Display.Markup.render text = .ok shown ↔ Renders text ∧ shown = shows text := by
  constructor
  · exact fun renders => ⟨⟨shown, renders⟩, (shows_of_render renders).symm⟩
  · rintro ⟨⟨other, renders⟩, rfl⟩
    rw [shows_of_render renders, renders]

/-- A table is printed with what its cells show, if each of them can be shown. -/
theorem runOn_printTable_iff :
    (printTable title headers rows).runOn machine = (.ok (), after) ↔
      (∀ row ∈ rows, ∀ cell ∈ row, Renders cell) ∧ after = behind machine
        (Display.Table.draw machine.screen.width title
          (columnsOf headers (rows.map (List.map shows)))) := by
  have cells : ∀ {cells texts : List Text},
      List.Forall₂ (fun cell text => (render cell).runOn machine = (.ok text, machine)) cells
        texts ↔ (∀ cell ∈ cells, Renders cell) ∧ texts = cells.map shows := by
    intro cells texts
    simp only [runOn_render_iff, render_eq_ok_iff, List.forall₂_and_left, forall₂_eq_map_iff]
  have all : ∀ {shown : List (List Text)}, List.Forall₂ (fun row texts =>
        (row.mapM render).runOn machine = (.ok texts, machine)) rows shown ↔
        (∀ row ∈ rows, ∀ cell ∈ row, Renders cell) ∧ shown = rows.map (List.map shows) := by
    intro shown
    simp only [runOn_mapM_iff (keeps_render id), true_and, cells, List.forall₂_and_left,
      forall₂_eq_map_iff]
  rw [printTable]
  constructor
  · intro ran
    obtain ⟨shown, middle, rendered, prints⟩ := bind_ok ran
    obtain ⟨rfl, each⟩ := (runOn_mapM_iff (keeps_mapM (keeps_render id))).mp rendered
    obtain ⟨renders, rfl⟩ := all.mp each
    cases prints
    exact ⟨renders, rfl⟩
  · rintro ⟨renders, rfl⟩
    have each := (runOn_mapM_iff (keeps_mapM (keeps_render id))).mpr ⟨rfl, all.mpr ⟨renders, rfl⟩⟩
    rw [runOn_bind_of_ok each]
    rfl

/-- Columns that are not too narrow for their cells make one line of each row. -/
theorem draw_of_lines {available : Nat} (nonempty : headers ≠ [])
    (headersLine : ∀ header ∈ headers, OneLine header.1 ∧
      ∀ width ∈ header.2, Text.width header.1 ≤ width)
    (lengths : ∀ row ∈ rows, row.length = headers.length)
    (narrow : ∀ row ∈ rows, ∀ pair ∈ headers.zip row, ∀ width ∈ pair.1.2,
      Text.width pair.2 ≤ width)
    (fits : Fits available (columnsOf headers rows))
    (lines : ∀ row ∈ rows, ∀ cell ∈ row, OneLine cell) :
    Display.Table.draw available title (columnsOf headers rows) =
      Display.Wrap.joinLines (tableLines title (columnsOf headers rows) rows) := by
  rw [draw_of_fits title fits, rows_columnsOf nonempty lengths]
  intro column member
  obtain ⟨index, bound, rfl⟩ := List.mem_mapIdx.mp member
  intro cell inside
  rcases List.mem_cons.mp inside with rfl | inside
  · exact headersLine _ (List.getElem_mem bound)
  · obtain ⟨row, inRows, rfl⟩ := List.mem_map.mp inside
    have inRow : index < row.length := lengths row inRows ▸ bound
    have here : row.getD index [] = row[index] := by simp [inRow]
    rw [here]
    refine ⟨lines row inRows _ (List.getElem_mem inRow), ?_⟩
    have inZip : index < (headers.zip row).length := by
      rw [List.length_zip]
      exact Nat.lt_min.mpr ⟨bound, inRow⟩
    exact narrow row inRows _ (List.mem_iff_getElem.mpr ⟨index, inZip, List.getElem_zip⟩)

end Tables

end DebugLaunch.PrintedTables
