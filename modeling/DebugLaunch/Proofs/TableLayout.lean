import DebugLaunch.Display.Table
import Mathlib.Algebra.Order.BigOperators.Group.List
import Mathlib.Algebra.GroupWithZero.Nat
import Mathlib.Algebra.Order.Group.Nat
import Mathlib.Data.List.DropRight

/-! How a table looks that fits on the screen. The words of a line take no more cells one by one
than the line as a whole, so each of them finds room behind those in front of it, and a cell without
line ends stays on one line. Then every column has the width that it wants, every row takes one
line, and the table is its rows between its rules. -/
namespace DebugLaunch.TableLayout
open Display Display.Wrap

/-- A text that takes one line: without line ends and tabs. -/
def OneLine (text : Text) : Prop := ∀ c ∈ text, Text.isLineEnd c = false ∧ c ≠ '\t'

instance (text : Text) : Decidable (OneLine text) := List.decidableBAll _ text

/-- A cell of one line in a column: its text with a space on either side, and more spaces behind it
up to the width. Blanks at its end may be lost where it has more characters than cells. -/
def laidOut (width : Nat) (cell : Text) : Text :=
  ' ' :: padRight (width - Column.padding) (dropExcess (width - Column.padding) cell) ++ [' ']

/-- The line of a row whose cells take one line each. -/
def rowLine (side : Char) (widths : List Nat) (cells : List Text) : Text :=
  side :: Text.join [side] ((widths.zip cells).map fun (width, cell) => laidOut width cell) ++
    [side]

/-- The cells that a column wants: those of its widest cell, or as many as it is fixed to, with its
padding. -/
def wanted (column : Column) : Nat :=
  column.fixedWidth.getD (((column.header :: column.cells).map widest).foldl max 0) +
    Column.padding

/-- Columns find room on a screen of `available` cells, with the borders between them. -/
def Fits (available : Nat) (columns : List Column) : Prop :=
  (columns.map wanted).sum + (columns.length + 1) ≤ available

instance (available : Nat) (columns : List Column) : Decidable (Fits available columns) :=
  inferInstanceAs (Decidable (_ ≤ _))

/-- Every cell of a column takes one line, and is no wider than the column is fixed to. -/
def Held (column : Column) : Prop :=
  ∀ cell ∈ column.header :: column.cells,
    OneLine cell ∧ ∀ width ∈ column.fixedWidth, Text.width cell ≤ width

/-- The columns of a table with some headers, for rows of cells. -/
def columnsOf (headers : List (Text × Option Nat)) (rows : List (List Text)) : List Column :=
  headers.mapIdx fun index (header, fixedWidth) =>
    { header, fixedWidth, cells := rows.map fun row => row.getD index [] }

/-- The lines of a table of columns with some rows: the title, the headers between two rules, one
line for each row, and a rule at the end. -/
def tableLines (title : Text) (columns : List Column) (rows : List (List Text)) : List Text :=
  let widths := columns.map wanted
  [centre ' ' (widths.sum + (columns.length + 1)) title, Table.rule '┏' '━' '┳' '┓' widths,
    rowLine '┃' widths (columns.map Column.header), Table.rule '┡' '━' '╇' '┩' widths] ++
  rows.map (rowLine '│' widths) ++ [Table.rule '└' '─' '┴' '┘' widths]

/-! ### The width of a line and of its words -/

section Width
variable {last : Option Char} {front back : Text}

private theorem widthFrom_style (last : Option Char) (rest : Text) :
    Text.widthFrom last (Text.emojiStyle :: rest) =
      (if last.any Text.isWidened then 1 else 0) + Text.widthFrom none rest := by
  rw [Text.widthFrom.eq_def]
  exact if_neg (by decide)

private theorem widthFrom_other {c : Char} (noJoiner : c ≠ Text.joiner)
    (noStyle : c ≠ Text.emojiStyle) (last : Option Char) (rest : Text) :
    Text.widthFrom last (c :: rest) =
      Text.charWidth c + Text.widthFrom (if Text.charWidth c = 0 then last else some c) rest := by
  rw [Text.widthFrom.eq_def]
  dsimp only
  rw [if_neg noJoiner, if_neg noStyle]
  split <;> simp [*]

/-- A character in front may make what follows it wider, but not narrower. -/
theorem widthFrom_none_le (last : Option Char) (text : Text) :
    Text.widthFrom none text ≤ Text.widthFrom last text := by
  fun_induction Text.widthFrom last text with
  | case1 | case2 => simp [Text.widthFrom]
  | case3 last c rest ih => simpa [Text.widthFrom] using ih
  | case4 last rest other => simp [widthFrom_style]
  | case5 last c rest noJoiner noStyle flat ih =>
    simpa [widthFrom_other noJoiner noStyle, flat] using ih
  | case6 last c rest noJoiner noStyle wide ih => simp [widthFrom_other noJoiner noStyle, wide]

theorem widthFrom_le_append (last : Option Char) (front back : Text) :
    Text.widthFrom last front ≤ Text.widthFrom last (front ++ back) := by
  fun_induction Text.widthFrom last front with
  | case1 | case2 => simp
  | case3 last c rest ih => simpa [Text.widthFrom] using ih
  | case4 last rest other ih => simpa [widthFrom_style] using ih
  | case5 last c rest noJoiner noStyle flat ih =>
    simpa [widthFrom_other noJoiner noStyle, flat] using ih
  | case6 last c rest noJoiner noStyle wide ih =>
    simpa [widthFrom_other noJoiner noStyle, wide] using ih

/-- Two texts take no more cells one by one than together, unless the first one ends with a
character that joins it to the second one. -/
theorem widthFrom_add_le (ends : front.getLast? ≠ some Text.joiner) :
    Text.widthFrom last front + Text.widthFrom none back ≤ Text.widthFrom last (front ++ back) := by
  have later {c : Char} {rest : Text} (ends : (c :: rest).getLast? ≠ some Text.joiner) :
      rest.getLast? ≠ some Text.joiner := by
    rcases rest with _ | ⟨d, rest⟩
    · simp
    · rwa [List.getLast?_cons_cons] at ends
  fun_induction Text.widthFrom last front with
  | case1 last => simpa using widthFrom_none_le last back
  | case2 => exact absurd rfl ends
  | case3 last c rest ih => simpa [Text.widthFrom] using ih (later (later ends))
  | case4 last rest other ih =>
    simpa [widthFrom_style, Nat.add_assoc] using ih (later ends)
  | case5 last c rest noJoiner noStyle flat ih =>
    simpa [widthFrom_other noJoiner noStyle, flat] using ih (later ends)
  | case6 last c rest noJoiner noStyle wide ih =>
    simpa [widthFrom_other noJoiner noStyle, wide, Nat.add_assoc] using ih (later ends)

end Width

section Lines
variable {overflow : Overflow} {width : Nat} {line text : Text}

/-- The words of a line are the line. -/
theorem flatten_wordsFrom (word : Text) (inside blank : Bool) (text : Text) :
    inside = false ∧ wordsFrom word inside blank text = [] ∨
      (wordsFrom word inside blank text).flatten = word.reverse ++ text := by
  induction text generalizing word inside blank with
  | nil => cases inside <;> simp [wordsFrom]
  | cons c rest ih =>
    rw [wordsFrom]
    split
    · simpa using ih (c :: word) inside inside
    · split
      · refine .inr ?_
        have behind := (ih [c] true false).resolve_left (by simp)
        simp [behind]
      · exact .inr (by simpa using (ih (c :: word) true false).resolve_left (by simp))

/-- The words of a line take no more cells one by one than the line as a whole. -/
theorem sum_width_wordsFrom (word : Text) (inside blank : Bool) (text : Text)
    (ends : blank → word.head? ≠ some Text.joiner) :
    ((wordsFrom word inside blank text).map Text.width).sum ≤
      Text.width (word.reverse ++ text) := by
  induction text generalizing word inside blank with
  | nil => cases inside <;> simp [wordsFrom]
  | cons c rest ih =>
    rw [wordsFrom]
    split
    · rename_i isBlank
      have other : c ≠ Text.joiner := by
        rintro rfl
        revert isBlank
        decide
      simpa using ih (c :: word) inside inside fun _ => by simpa using other
    · split
      · rename_i isBehind
        have behind := ih [c] true false (by simp)
        have apart : Text.width word.reverse + Text.width (c :: rest) ≤
            Text.width (word.reverse ++ c :: rest) :=
          widthFrom_add_le (by rw [List.getLast?_reverse]; exact ends isBehind)
        rw [List.map_cons, List.sum_cons]
        exact (Nat.add_le_add_left behind _).trans apart
      · simpa using ih (c :: word) true false (by simp)

theorem width_trimRight_le (word : Text) :
    Text.width (Text.trimRight Text.isBlank word) ≤ Text.width word := by
  obtain ⟨blanks, whole⟩ : Text.trimRight Text.isBlank word <+: word :=
    List.rdropWhile_prefix Text.isBlank word
  conv_rhs => rw [← whole]
  exact widthFrom_le_append none _ _

/-- Words that all find room on a line stand there one behind the other. -/
theorem fill_of_fits {words : List Text} (line : Text) (used : Nat)
    (fits : used + (words.map Text.width).sum ≤ width) :
    fill overflow width [line] used words = [line ++ words.flatten] := by
  induction words generalizing line used with
  | nil => simp [fill]
  | cons word rest ih =>
    rw [List.map_cons, List.sum_cons] at fits
    have size := width_trimRight_le word
    rw [fill.eq_def]
    dsimp only
    rw [if_pos (by omega), ih (line ++ word) (used + Text.width word) (by omega)]
    simp

theorem dropExcess_prefix (width : Nat) (line : Text) : dropExcess width line <+: line :=
  List.take_prefix _ _

/-- A line without tabs that finds room stays a line, where blanks at its end may be lost. -/
theorem wrapLine_of_fits (noTab : '\t' ∉ line) (fits : Text.width line ≤ width) :
    wrapLine overflow width line = [dropExcess width line] := by
  have expanded : expandTabs line = line := by
    rw [expandTabs, Text.split_of_not_mem noTab]
    rfl
  have kept : truncate overflow width (dropExcess width line) = dropExcess width line := by
    obtain ⟨blanks, whole⟩ := dropExcess_prefix width line
    refine if_pos (Nat.le_trans ?_ fits)
    conv_rhs => rw [← whole]
    exact widthFrom_le_append none _ _
  have sum := sum_width_wordsFrom [] false false line (by simp)
  have whole := flatten_wordsFrom [] false false line
  rw [← words] at sum whole
  rw [wrapLine, expanded]
  cases same : words line with
  | nil => exact congrArg (fun line => [line]) kept
  | cons word rest =>
    rw [same, List.map_cons, List.sum_cons] at sum
    rw [same, List.flatten_cons] at whole
    have room : Text.width word + (rest.map Text.width).sum ≤ width := sum.trans fits
    have size := width_trimRight_le word
    have filled : fill overflow width [] 0 (word :: rest) = [line] := by
      rw [fill.eq_def]
      dsimp only
      rw [if_pos (by omega), fill_of_fits word _ (by omega), whole.resolve_left (by simp)]
      rfl
    dsimp only
    rw [filled]
    exact congrArg (fun line => [line]) kept

end Lines

/-! ### Cells of one line -/

section Cells
variable {overflow : Overflow} {width : Nat} {cell text : Text} {widths : List Nat}
  {cells : List Text}

theorem wrap_of_fits (line : OneLine text) (fits : Text.width text ≤ width) :
    wrap overflow width text = [dropExcess width text] := by
  have noEnd : '\n' ∉ text := fun inside => by cases (line _ inside).1
  have noTab : '\t' ∉ text := fun inside => (line _ inside).2 rfl
  rw [wrap, Text.split_of_not_mem noEnd, List.flatMap_singleton, wrapLine_of_fits noTab fits]

private theorem linesFrom_of_oneLine (line : OneLine text) (front : Text) :
    Text.linesFrom front text =
      if front.reverse ++ text = [] then [] else [front.reverse ++ text] := by
  induction text generalizing front with
  | nil => cases front <;> simp [Text.linesFrom]
  | cons c rest ih =>
    rw [OneLine, List.forall_mem_cons] at line
    have noReturn : c ≠ '\r' := by
      rintro rfl
      cases line.1.1
    rw [Text.linesFrom.eq_3 front c rest fun _ same => absurd same noReturn, line.1.1,
      if_neg (by simp), ih line.2]
    simp

theorem widest_of_oneLine (line : OneLine text) : widest text = Text.width text := by
  rw [widest, Text.lines, linesFrom_of_oneLine line]
  cases text <;> simp [Text.width, Text.widthFrom]

theorem cellLines_of_fits (line : OneLine cell) (fits : Text.width cell + Column.padding ≤ width) :
    Table.cellLines width cell = [laidOut width cell] := by
  rw [Table.cellLines, wrap_of_fits line (by omega), List.map_singleton, laidOut]

theorem rowLines_of_fits (side : Char) (atBottom : Bool)
    (fits : ∀ pair ∈ widths.zip cells,
      OneLine pair.2 ∧ Text.width pair.2 + Column.padding ≤ pair.1) :
    Table.rowLines side atBottom widths cells = [rowLine side widths cells] := by
  have blocks : ((widths.zip cells).map fun (width, cell) => (width, Table.cellLines width cell)) =
      (widths.zip cells).map fun (width, cell) => (width, [laidOut width cell]) :=
    List.map_congr_left fun pair inside =>
      congrArg (Prod.mk pair.1) (cellLines_of_fits (fits pair inside).1 (fits pair inside).2)
  have height : ∀ pairs : List (Nat × Text),
      (pairs.map fun _ => 1).foldl max 1 = 1 := by
    intro pairs
    induction pairs with
    | nil => rfl
    | cons _ _ ih => exact ih
  rw [Table.rowLines, blocks]
  dsimp only
  simp only [List.map_map, Function.comp_def, List.length_singleton, height]
  simp [Table.stretch, rowLine]

end Cells

/-! ### Columns -/

section Columns
variable {available : Nat} {column : Column} {columns : List Column} {cell : Text}

private theorem foldl_max_bounds (sizes : List Nat) (start : Nat) :
    start ≤ sizes.foldl max start ∧ ∀ size ∈ sizes, size ≤ sizes.foldl max start := by
  induction sizes generalizing start with
  | nil => simp
  | cons next rest ih =>
    obtain ⟨first, others⟩ := ih (max start next)
    exact ⟨(Nat.le_max_left start next).trans first,
      List.forall_mem_cons.mpr ⟨(Nat.le_max_right start next).trans first, others⟩⟩

private theorem foldl_max_add (sizes : List Nat) (start more : Nat) :
    (sizes.map (· + more)).foldl max (start + more) = sizes.foldl max start + more := by
  induction sizes generalizing start with
  | nil => rfl
  | cons next rest ih =>
    rw [List.map_cons, List.foldl_cons, List.foldl_cons, Nat.add_max_add_right, ih]

/-- A cell has room in its column. -/
theorem width_le_wanted (held : Held column) (inside : cell ∈ column.header :: column.cells) :
    Text.width cell + Column.padding ≤ wanted column := by
  obtain ⟨line, fixed⟩ := held cell inside
  refine Nat.add_le_add_right ?_ _
  cases same : column.fixedWidth with
  | some width => exact fixed width same
  | none =>
    rw [← widest_of_oneLine line]
    exact (foldl_max_bounds _ 0).2 _ (List.mem_map_of_mem inside)

/-- A column that finds room is as wide as it wants. -/
theorem width_of_room (room : wanted column ≤ available) :
    column.width available = wanted column := by
  rw [wanted] at room ⊢
  rw [Column.width]
  cases same : column.fixedWidth with
  | some width =>
    rw [same] at room
    exact Nat.min_eq_right room
  | none =>
    rw [same] at room
    dsimp only [Option.getD_none] at room ⊢
    have sizes : ((column.header :: column.cells).map fun cell =>
          if available < Column.padding + 1 then available
          else min available (min available (widest cell) + Column.padding)) =
        ((column.header :: column.cells).map widest).map (· + Column.padding) := by
      rw [List.map_map]
      refine List.map_congr_left fun cell inside => ?_
      have least := (foldl_max_bounds _ 0).2 _ (List.mem_map_of_mem (f := widest) inside)
      rw [Function.comp_apply, Column.padding] at *
      split <;> omega
    rw [sizes, List.map_cons, List.map_cons, List.foldl_cons, Nat.zero_max, foldl_max_add,
      List.foldl_cons, Nat.zero_max]

theorem widths_of_fits (fits : Fits available columns) :
    Table.widths (available - (columns.length + 1)) columns = columns.map wanted := by
  rw [Fits] at fits
  have each : (columns.map fun column =>
      max 1 (column.width (available - (columns.length + 1)))) = columns.map wanted := by
    refine List.map_congr_left fun column inside => ?_
    have least := List.le_sum_of_mem (List.mem_map_of_mem (f := wanted) inside)
    rw [width_of_room (by omega), wanted, Column.padding]
    omega
  rw [Table.widths, each]
  dsimp only
  rw [← List.sum_eq_foldl_nat, if_pos (by omega)]

/-- A table that fits is drawn with one line for each row. -/
theorem draw_of_fits (title : Text) (fits : Fits available columns)
    (held : ∀ column ∈ columns, Held column) :
    Table.draw available title columns =
      joinLines (tableLines title columns (Table.rows columns)) := by
  have one (side : Char) (atBottom : Bool) (cellOf : Column → Text)
      (given : ∀ column ∈ columns, cellOf column ∈ column.header :: column.cells ∨
        cellOf column = []) :
      Table.rowLines side atBottom (columns.map wanted) (columns.map cellOf) =
        [rowLine side (columns.map wanted) (columns.map cellOf)] := by
    refine rowLines_of_fits _ _ fun pair inside => ?_
    rw [List.zip_map', List.mem_map] at inside
    obtain ⟨column, member, rfl⟩ := inside
    rcases given column member with inside | empty
    · exact ⟨(held column member _ inside).1, width_le_wanted (held column member) inside⟩
    · rw [empty]
      exact ⟨by simp [OneLine], by simp [Text.width, Text.widthFrom, wanted]⟩
  have rows : (Table.rows columns).flatMap (Table.rowLines '│' false (columns.map wanted)) =
      (Table.rows columns).map (rowLine '│' (columns.map wanted)) := by
    refine (List.flatMap_congr fun row inside => ?_).trans List.map_eq_flatMap.symm
    rw [Table.rows, List.mem_map] at inside
    obtain ⟨index, -, rfl⟩ := inside
    refine one _ _ _ fun column member => ?_
    cases here : column.cells[index]? with
    | none => exact .inr (by simp [List.getD, here])
    | some cell =>
      exact .inl (List.mem_cons_of_mem _ (by simp [List.getD, here, List.mem_of_getElem? here]))
  rw [Table.draw, widths_of_fits fits, one _ _ Column.header (by simp), rows,
    ← List.sum_eq_foldl_nat]
  rfl

end Columns

section Rows
variable {headers : List (Text × Option Nat)} {rows : List (List Text)} {width : Nat} {cell : Text}

/-- The columns of rows that are as long as the headers have these rows. -/
theorem rows_columnsOf (nonempty : headers ≠ [])
    (lengths : ∀ row ∈ rows, row.length = headers.length) :
    Table.rows (columnsOf headers rows) = rows := by
  have heights : ((columnsOf headers rows).map fun column => column.cells.length).foldl max 0 =
      rows.length := by
    have same : ((columnsOf headers rows).map fun column => column.cells.length) =
        List.replicate headers.length rows.length := by
      rw [List.eq_replicate_iff]
      refine ⟨by simp [columnsOf], fun height inside => ?_⟩
      obtain ⟨column, member, rfl⟩ := List.mem_map.mp inside
      obtain ⟨index, bound, rfl⟩ := List.mem_mapIdx.mp member
      simp
    have keeps : ∀ count : Nat, (List.replicate count rows.length).foldl max rows.length =
        rows.length := by
      intro count
      induction count with
      | zero => rfl
      | succ count ih => rwa [List.replicate_succ, List.foldl_cons, Nat.max_self]
    obtain ⟨first, rest, rfl⟩ := List.exists_cons_of_ne_nil nonempty
    rw [same, List.length_cons, List.replicate_succ, List.foldl_cons, Nat.zero_max, keeps]
  rw [Table.rows, heights]
  refine List.ext_getElem (by simp) fun index bound inRows => ?_
  have length := lengths _ (List.getElem_mem inRows)
  rw [List.getElem_map, List.getElem_range]
  refine List.ext_getElem (by simp [columnsOf, length]) fun position _ inRow => ?_
  simp [columnsOf, inRows, inRow]

theorem trimRight_append {front blanks : Text} (isBlank : ∀ c ∈ blanks, Text.isBlank c) :
    Text.trimRight Text.isBlank (front ++ blanks) = Text.trimRight Text.isBlank front := by
  rw [Text.trimRight, Text.trimRight, List.reverse_append, List.dropWhile_append_of_pos]
  simpa using isBlank

/-- What is lost at the end of a line are blanks. -/
theorem exists_dropExcess (width : Nat) (line : Text) :
    ∃ blanks, line = dropExcess width line ++ blanks ∧ ∀ c ∈ blanks, Text.isBlank c := by
  have whole : line = Text.trimRight Text.isBlank line ++
      (line.reverse.takeWhile Text.isBlank).reverse := by
    rw [Text.trimRight, ← List.reverse_append, List.takeWhile_append_dropWhile,
      List.reverse_reverse]
  have lengths := congrArg List.length whole
  rw [List.length_append] at lengths
  rw [dropExcess]
  have kept : (Text.trimRight Text.isBlank line).length ≤ line.length -
      min (line.length - (Text.trimRight Text.isBlank line).length) (line.length - width) := by
    omega
  generalize line.length -
    min (line.length - (Text.trimRight Text.isBlank line).length) (line.length - width) = count
    at kept ⊢
  refine ⟨line.drop count, (List.take_append_drop count line).symm, fun c inside => ?_⟩
  rw [whole, List.drop_append, List.drop_eq_nil_of_le kept, List.nil_append] at inside
  exact List.mem_takeWhile_imp (List.mem_reverse.mp (List.mem_of_mem_drop inside))

/-- A cell is shown with nothing but blanks added or lost at its end. -/
theorem trimRight_laidOut (width : Nat) (cell : Text) :
    Text.trimRight Text.isBlank (laidOut width cell) =
      Text.trimRight Text.isBlank (' ' :: cell) := by
  obtain ⟨blanks, whole, isBlank⟩ := exists_dropExcess (width - Column.padding) cell
  have added : ∀ c ∈ spaces (width - Column.padding - Text.width
      (dropExcess (width - Column.padding) cell)) ++ [' '], Text.isBlank c := by
    intro c inside
    have isSpace : c = ' ' := by
      rcases List.mem_append.mp inside with behind | last
      · exact (List.mem_replicate.mp behind).2
      · exact List.mem_singleton.mp last
    rw [isSpace]
    decide
  calc Text.trimRight Text.isBlank (laidOut width cell)
      = Text.trimRight Text.isBlank (' ' :: dropExcess (width - Column.padding) cell ++
          (spaces (width - Column.padding - Text.width
            (dropExcess (width - Column.padding) cell)) ++ [' '])) := by
        rw [laidOut, padRight, ← List.cons_append, List.append_assoc]
    _ = Text.trimRight Text.isBlank (' ' :: dropExcess (width - Column.padding) cell) :=
        trimRight_append added
    _ = Text.trimRight Text.isBlank (' ' :: dropExcess (width - Column.padding) cell ++ blanks) :=
        (trimRight_append isBlank).symm
    _ = Text.trimRight Text.isBlank (' ' :: cell) := by rw [List.cons_append, ← whole]

end Rows

end DebugLaunch.TableLayout
