import DebugLaunch.Text.Printable

/-! A text between quotes, as messages show it: the quote, the backslash and every character
that is not printable are escaped. -/
namespace DebugLaunch.Text

/-- A hexadecimal digit. -/
def hexDigit (n : Nat) : Char := (Nat.digitChar (n % 16))

/-- The last `width` hexadecimal digits of a number. -/
def hexDigits : Nat → Nat → Text
  | 0, _ => []
  | width + 1, n => hexDigits width (n / 16) ++ [hexDigit n]

/-- A code point by its number. -/
def escapedPoint (point : Nat) : Text :=
  if point < 0x100 then ['\\', 'x'] ++ hexDigits 2 point
  else if point < 0x10000 then ['\\', 'u'] ++ hexDigits 4 point
  else ['\\', 'U'] ++ hexDigits 8 point

/-- A character by its number. -/
def escapedChar (c : Char) : Text := escapedPoint c.toNat

/-- A character between the given quotes. -/
def quoteChar (quote c : Char) : Text :=
  if c = quote || c = '\\' then ['\\', c]
  else if c = '\n' then ['\\', 'n']
  else if c = '\r' then ['\\', 'r']
  else if c = '\t' then ['\\', 't']
  else if isPrintable c then [c]
  else escapedChar c

/-- Single quotes, unless only double quotes spare an escape. -/
def quoteFor (text : Text) : Char :=
  if text.contains '\'' && !text.contains '"' then '"' else '\''

/-- A text between quotes. -/
def quoted (text : Text) : Text :=
  let quote := quoteFor text
  quote :: text.flatMap (quoteChar quote) ++ [quote]

/-- Code points between quotes. One that no character has is given by its number. -/
def quotedPoints (points : List Nat) : Text :=
  let quote := quoteFor (points.map Char.ofNat)
  let quotePoint (point : Nat) : Text :=
    if point.isValidChar then quoteChar quote (Char.ofNat point) else escapedPoint point
  quote :: points.flatMap quotePoint ++ [quote]

end DebugLaunch.Text
