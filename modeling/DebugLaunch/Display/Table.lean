import DebugLaunch.Display.Wrap

/-! Tables: columns of cells under a heavy header, with a title above. A column is as wide as its
widest cell, unless its width is fixed or the table would not fit; then the widest columns give
way first. -/
namespace DebugLaunch.Display

/-- A column of a table. -/
structure Column where
  header : Text
  cells : List Text
  fixedWidth : Option Nat := none
  deriving DecidableEq, Repr, Inhabited

namespace Column

/-- The cells that stand beside the text of a cell. -/
def padding : Nat := 2

/-- The width of a column, with its padding, where `available` cells are free. -/
def width (available : Nat) (column : Column) : Nat :=
  match column.fixedWidth with
  | some width => min available (width + padding)
  | none =>
    let sizes := (column.header :: column.cells).map fun cell =>
      if available < padding + 1 then available
      else min available (min available (Wrap.widest cell) + padding)
    sizes.foldl max 0

end Column

namespace Table

/-- The quotient of two numbers, rounded to the nearest number, where a half goes to the even
neighbour. -/
def roundedQuotient (dividend divisor : Nat) : Nat :=
  let quotient := dividend / divisor
  let twice := 2 * (dividend % divisor)
  if twice < divisor || (twice = divisor && quotient % 2 = 0) then quotient else quotient + 1

/-- Takes `total` cells away from the widths that have a share, at most `limit` from each;
`shares` is the number of shares that are left. -/
def reduce (total limit shares : Nat) : List (Bool × Nat) → List Nat
  | [] => []
  | (false, width) :: rest => width :: reduce total limit shares rest
  | (true, width) :: rest =>
    let taken := min limit (roundedQuotient total shares)
    (width - taken) :: reduce (total - taken) limit (shares - 1) rest

/-- Narrows the widest flexible columns to the next narrower ones until the widths fit into
`available` cells or nothing more can be taken. Each step makes the number of different widths
smaller or is the last one. -/
def collapse (available : Nat) : Nat → List (Bool × Nat) → List (Bool × Nat)
  | 0, columns => columns
  | fuel + 1, columns =>
    let excess := (columns.map Prod.snd).foldl (· + ·) 0 - available
    let widest :=
      columns.foldl (fun most (flexible, width) => if flexible then max most width else most) 0
    let next := columns.foldl
      (fun most (flexible, width) => if flexible && width != widest then max most width else most) 0
    let limit := min excess (widest - next)
    if limit = 0 then columns
    else
      let marked := columns.map fun (flexible, width) => (flexible && width = widest, width)
      let shares := (marked.filter Prod.fst).length
      if shares = 0 then columns
      else collapse available fuel
        ((columns.map Prod.fst).zip (reduce excess limit shares marked))

/-- The widths of columns that share `available` cells. -/
def widths (available : Nat) (columns : List Column) : List Nat :=
  let wanted := columns.map fun column => max 1 (column.width available)
  let total := wanted.foldl (· + ·) 0
  if total ≤ available then wanted
  else
    let flexible := columns.map fun column => column.fixedWidth.isNone
    let narrowed := (collapse available (available + total) (flexible.zip wanted)).map Prod.snd
    (columns.zip narrowed).map fun (column, width) => column.width width

/-- The lines of a cell. -/
def cellLines (width : Nat) (cell : Text) : List Text :=
  (Wrap.wrap .ellipsis (width - Column.padding) cell).map fun line =>
    ' ' :: Wrap.padRight (width - Column.padding) line ++ [' ']

/-- A list made as long as `height` with blank lines in front or behind. -/
def stretch (atBottom : Bool) (height width : Nat) (lines : List Text) : List Text :=
  let blanks := List.replicate (height - lines.length) (Wrap.spaces width)
  if atBottom then blanks ++ lines else lines ++ blanks

/-- The lines of a row: the cells beside each other, with `side` between them and at both ends. -/
def rowLines (side : Char) (atBottom : Bool) (widths : List Nat) (cells : List Text) : List Text :=
  let blocks := (widths.zip cells).map fun (width, cell) => (width, cellLines width cell)
  let height := (blocks.map fun block => block.2.length).foldl max 1
  let columns := blocks.map fun (width, lines) => stretch atBottom height width lines
  (List.range height).map fun index =>
    side :: Text.join [side] (columns.map fun lines => lines.getD index []) ++ [side]

/-- A horizontal line of a table. -/
def rule (left line crossing right : Char) (widths : List Nat) : Text :=
  left :: Text.join [crossing] (widths.map fun width => List.replicate width line) ++ [right]

/-- The rows of columns. -/
def rows (columns : List Column) : List (List Text) :=
  let count := (columns.map fun column => column.cells.length).foldl max 0
  (List.range count).map fun index => columns.map fun column => column.cells.getD index []

/-- A table with a title, on a screen of `available` cells. -/
def draw (available : Nat) (title : Text) (columns : List Column) : Text :=
  let borders := columns.length + 1
  let widths := widths (available - borders) columns
  Wrap.joinLines <|
    [Wrap.centre ' ' (widths.foldl (· + ·) 0 + borders) title, rule '┏' '━' '┳' '┓' widths] ++
    rowLines '┃' true widths (columns.map Column.header) ++
    [rule '┡' '━' '╇' '┩' widths] ++
    (rows columns).flatMap (rowLines '│' false widths) ++
    [rule '└' '─' '┴' '┘' widths]

end Table
end DebugLaunch.Display
