import DebugLaunch.Text.Blank
import DebugLaunch.Text.Cluster

/-! Fitting text into a width counted in terminal cells. Lines break in front of words; a word that
is wider than the whole line is folded over several lines, or cut with an ellipsis where folding
is not wanted. -/
namespace DebugLaunch.Display

/-- What becomes of a word that is wider than a line. -/
inductive Overflow where
  | fold
  | ellipsis
  deriving DecidableEq, Repr, Inhabited

namespace Wrap

/-- Spaces. -/
def spaces (count : Nat) : Text := List.replicate count ' '

/-- The text with spaces behind it up to a width. -/
def padRight (width : Nat) (text : Text) : Text := text ++ spaces (width - Text.width text)

/-- The clusters that fit into `width` cells. One that would be cut in two becomes a space. -/
def cut (width : Nat) : List Text.Cluster → Text
  | [] => []
  | cluster :: rest =>
    if width = 0 then []
    else if cluster.width ≤ width then cluster.text ++ cut (width - cluster.width) rest
    else [' ']

/-- The text in exactly `width` cells, cut or with spaces behind it. -/
def setWidth (width : Nat) (text : Text) : Text :=
  if width = 0 then []
  else if Text.width text ≤ width then padRight width text
  else cut width (Text.clusters text)

/-- The text cut to `width` cells if it is wider. -/
def truncate (overflow : Overflow) (width : Nat) (text : Text) : Text :=
  if Text.width text ≤ width then text
  else match overflow with
    | .fold => setWidth width text
    | .ellipsis => setWidth (width - 1) text ++ ['…']

/-- The cells between two tab stops. -/
def tabSize : Nat := 8

/-- The parts of a line between its tabs, with spaces for the tabs: each takes at least one cell and
ends at a tab stop. `column` is where the first part begins. -/
def expandTabsFrom (column : Nat) : List Text → Text
  | [] => []
  | [last] => last
  | part :: next :: parts =>
    let part := part ++ [' ']
    let behind := column + Text.width part
    let stop := (behind + tabSize - 1) / tabSize * tabSize
    part ++ spaces (stop - behind) ++ expandTabsFrom stop (next :: parts)

/-- A line with spaces for its tabs. -/
def expandTabs (line : Text) : Text := expandTabsFrom 0 (Text.split '\t' line)

/-- The words of a line, each with the blanks behind it, and the first one with those in front;
`blank` tells whether the last character read was behind a word. -/
def wordsFrom (word : Text) (inside blank : Bool) : Text → List Text
  | [] => if inside then [word.reverse] else []
  | c :: rest =>
    if Text.isBlank c then wordsFrom (c :: word) inside inside rest
    else if blank then word.reverse :: wordsFrom [c] true false rest
    else wordsFrom (c :: word) true false rest

/-- The words of a line with their blanks. A line of blanks has none. -/
def words (line : Text) : List Text := wordsFrom [] false false line

/-- Clusters in pieces of at most `width` cells; `piece` is the one being made, and `used` its
cells. -/
def chopFrom (width : Nat) (piece : Text) (used : Nat) : List Text.Cluster → List Text
  | [] => [piece]
  | cluster :: rest =>
    if width < used + cluster.width then
      piece :: chopFrom width cluster.text cluster.width rest
    else chopFrom width (piece ++ cluster.text) (used + cluster.width) rest

/-- A word in pieces of at most `width` cells. -/
def chop (width : Nat) (word : Text) : List Text := chopFrom width [] 0 (Text.clusters word)

/-- Adds pieces that each take a line of their own to the lines made so far, last line first. -/
def addLines (lines : List Text) (pieces : List Text) : List Text :=
  pieces.foldl (fun lines piece => piece :: lines) lines

/-- The lines that words make, last line first; `used` counts the cells of the line being made. -/
def fill (overflow : Overflow) (width : Nat) (lines : List Text) (used : Nat) :
    List Text → List Text
  | [] => lines
  | word :: rest =>
    let size := Text.width (Text.trimRight Text.isBlank word)
    let extend : List Text := match lines with
      | [] => [word]
      | line :: above => (line ++ word) :: above
    if used + size ≤ width then fill overflow width extend (used + Text.width word) rest
    else if width < size then
      match overflow with
      | .fold =>
        let pieces := chop width word
        fill overflow width (addLines lines pieces) (Text.width (pieces.getLastD [])) rest
      | .ellipsis => fill overflow width (word :: lines) (Text.width word) rest
    else if used = 0 then fill overflow width extend used rest
    else fill overflow width (word :: lines) (Text.width word) rest

/-- The line without blanks at its end that lie beyond `width` characters. -/
def dropExcess (width : Nat) (line : Text) : Text :=
  let blanks := line.length - (Text.trimRight Text.isBlank line).length
  line.take (line.length - min blanks (line.length - width))

/-- One line of text in lines of at most `width` cells. -/
def wrapLine (overflow : Overflow) (width : Nat) (line : Text) : List Text :=
  let line := expandTabs line
  let filled := match words line with
    | [] => [line]
    | words => (fill overflow width [] 0 words).reverse
  filled.map fun part => truncate overflow width (dropExcess width part)

/-- A text in lines of at most `width` cells. -/
def wrap (overflow : Overflow) (width : Nat) (text : Text) : List Text :=
  (Text.split '\n' text).flatMap (wrapLine overflow width)

/-- The cells of the widest line of a text, as it is before tabs are expanded. -/
def widest (text : Text) : Nat := ((Text.lines text).map Text.width).foldl max 0

/-- The line in the middle of `width` cells, with `fill` on both sides. -/
def centre (fill : Char) (width : Nat) (line : Text) : Text :=
  let excess := width - Text.width line
  List.replicate (excess / 2) fill ++ line ++ List.replicate (excess - excess / 2) fill

/-- Lines as one text, each with its line end. -/
def joinLines (lines : List Text) : Text := lines.flatMap fun line => line ++ ['\n']

end Wrap
end DebugLaunch.Display
