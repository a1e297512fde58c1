import DebugLaunch.Environment
import DebugLaunch.Text.Printable
import DebugLaunch.Text.Utf8

/-! File names in messages. A name is put between quotes where a shell would not read it as one
word, and what cannot be shown is written with backslashes. -/
namespace DebugLaunch.Program.FileName

/-- Whether an environment asks for texts in UTF-8. Without it only ASCII can be shown. -/
def showsUnicode (environment : Environment) : Bool :=
  let set := ["LC_ALL".toList, "LC_CTYPE".toList, "LANG".toList].filterMap fun name =>
    (environment.get? name).filter (· != [])
  match set with
  | [] => false
  | name :: _ => ["c.utf-8".toList, "c.utf8".toList].contains (name.map Char.toLower)

/-- The letter that stands for a control character behind a backslash. -/
def controlLetter? : Char → Option Char
  | '\x07' => some 'a'
  | '\x08' => some 'b'
  | '\x0c' => some 'f'
  | '\n' => some 'n'
  | '\r' => some 'r'
  | '\t' => some 't'
  | '\x0b' => some 'v'
  | _ => none

/-- Whether a character can be shown as it is. -/
def isShown (unicode : Bool) (c : Char) : Bool :=
  if c.toNat < 128 then 32 ≤ c.toNat && c.toNat < 127 else unicode && Text.isPrintable c

/-- A byte by its octal digits. -/
def octal (byte : UInt8) : Text :=
  let n := byte.toNat
  '\\' :: [n / 64, n / 8 % 8, n % 8].map Nat.digitChar

/-- A character that cannot be shown. -/
def escaped (c : Char) : Text :=
  match controlLetter? c with
  | some letter => ['\\', letter]
  | none => (Utf8.encodeChar c).flatMap octal

/-- Characters that mean something to a shell, wherever they stand. -/
def special : Text := "?\\ !\"$&()*;<=>[^\x60|'".toList

/-- Whether a name has to be quoted. A colon counts, because one stands behind the name. -/
def needsQuotes (unicode : Bool) (name : Text) : Bool :=
  name = [] || name = ['\x7b'] || name = ['\x7d'] || name.head? = some '#' ||
    name.head? = some '~' ||
    name.any fun c => c = ':' || special.contains c || !isShown unicode c

/-- Whether a name with an apostrophe can be put between double quotes. -/
def suitsDoubleQuotes (unicode : Bool) (name : Text) : Bool :=
  name.head?.all (fun c => "#~".toList.contains c || !"\x7b\x7d".toList.contains c) &&
    (name.drop 1).all (fun c => !"#~\x7b\x7d".toList.contains c) &&
    name.all fun c =>
      isShown unicode c && (c = ' ' || c = '\'' || !special.contains c)

/-- A name between single quotes; `inEscapes` tells whether one is in a part with backslashes. -/
def quotedFrom (unicode inEscapes : Bool) : Text → Text
  | [] => ['\'']
  | c :: rest =>
    if !isShown unicode c then
      (if inEscapes then [] else "'$'".toList) ++ escaped c ++ quotedFrom unicode true rest
    else
      (if inEscapes then "''".toList else []) ++
        (if c = '\'' then "'\\''".toList else [c]) ++ quotedFrom unicode false rest

/-- A name between quotes. -/
def quoted (unicode : Bool) (name : Text) : Text :=
  if name.contains '\'' && suitsDoubleQuotes unicode name then
    '"' :: name.flatMap (fun c => if c = ':' then ['\\', c] else [c]) ++ ['"']
  else '\'' :: quotedFrom unicode false name

/-- A name, between quotes if that is needed. -/
def shown (unicode : Bool) (name : Text) : Text :=
  if needsQuotes unicode name then quoted unicode name else name

end DebugLaunch.Program.FileName
