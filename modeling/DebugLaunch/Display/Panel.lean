import DebugLaunch.Display.Wrap

/-! Panels: text in a frame with rounded corners that is as wide as the text and the title need. -/
namespace DebugLaunch.Display.Panel

/-- The width of what stands between the sides of a panel that may take `available` cells. -/
def innerWidth (available : Nat) (title : Option Text) (text : Text) : Nat :=
  let own := min (available - 2) (min (available - 2) (Wrap.widest text) + 2)
  match title with
  | none => own
  | some title => min (available - 2) (max own (Text.width title + 4))

/-- The upper side of a panel, with the title in its middle. -/
def top (inner : Nat) : Option Text → Text
  | none => '╭' :: List.replicate inner '─' ++ ['╮']
  | some title =>
    "╭─".toList ++ Wrap.centre '─' (inner - 2) (' ' :: title ++ [' ']) ++ "─╮".toList

/-- A panel around a text, on a screen of `available` cells. -/
def draw (available : Nat) (title : Option Text) (text : Text) : Text :=
  let inner := innerWidth available title text
  let row (line : Text) : Text := "│ ".toList ++ Wrap.padRight (inner - 2) line ++ " │".toList
  Wrap.joinLines (top inner title :: (Wrap.wrap .fold (inner - 2) text).map row ++
    ['╰' :: List.replicate inner '─' ++ ['╯']])

end DebugLaunch.Display.Panel
