import DebugLaunch.Text.Basic

/-! Classes of characters given as tables of code point ranges. -/
namespace DebugLaunch.Text

/-- Ranges of code points, each given by its first and its last one. -/
abbrev Ranges := List (Nat × Nat)

/-- Whether a code point lies in one of the ranges. -/
def Ranges.has (ranges : Ranges) (n : Nat) : Bool :=
  ranges.any fun range => range.1 ≤ n && n ≤ range.2

end DebugLaunch.Text
