import DebugLaunch.Text.Newline

/-! The UTF-8 encoding. `step` reads one scalar value, or one maximal part that no encoding
begins with; the strict and the lenient decoder differ only in what they make of such a part. -/
namespace DebugLaunch.Utf8

/-- A file's contents. -/
abbrev Bytes := List UInt8

/-- The bytes of one code point. -/
def encodeChar (c : Char) : Bytes :=
  let n := c.toNat
  if n < 0x80 then [n.toUInt8]
  else if n < 0x800 then [(0xC0 + n / 64).toUInt8, (0x80 + n % 64).toUInt8]
  else if n < 0x10000 then
    [(0xE0 + n / 4096).toUInt8, (0x80 + n / 64 % 64).toUInt8, (0x80 + n % 64).toUInt8]
  else
    [(0xF0 + n / 262144).toUInt8, (0x80 + n / 4096 % 64).toUInt8, (0x80 + n / 64 % 64).toUInt8,
      (0x80 + n % 64).toUInt8]

/-- The bytes of a text. -/
def encode (text : Text) : Bytes := text.flatMap encodeChar

/-- How an encoding that begins with a given byte goes on: the value of its first bits, the
range of the byte after it, and how many more bytes follow that one. -/
structure Lead where
  value : Nat
  low : Nat
  high : Nat
  more : Nat

/-- The beginning of an encoding of two to four bytes, if the byte is one. The ranges keep out
overlong forms, surrogates and values above U+10FFFF. -/
def lead? (b : Nat) : Option Lead :=
  if 0xC2 ≤ b && b ≤ 0xDF then some ⟨b - 0xC0, 0x80, 0xBF, 0⟩
  else if b = 0xE0 then some ⟨0, 0xA0, 0xBF, 1⟩
  else if b = 0xED then some ⟨0xD, 0x80, 0x9F, 1⟩
  else if 0xE1 ≤ b && b ≤ 0xEF then some ⟨b - 0xE0, 0x80, 0xBF, 1⟩
  else if b = 0xF0 then some ⟨0, 0x90, 0xBF, 2⟩
  else if 0xF1 ≤ b && b ≤ 0xF3 then some ⟨b - 0xF0, 0x80, 0xBF, 2⟩
  else if b = 0xF4 then some ⟨4, 0x80, 0x8F, 2⟩
  else none

/-- Reads one continuation byte in the given range and then `more` further ones. -/
def continue? (value low high more : Nat) : Bytes → Option Char × Bytes
  | [] => (none, [])
  | b :: rest =>
    if low ≤ b.toNat && b.toNat ≤ high then
      let value := value * 64 + (b.toNat - 0x80)
      match more with
      | 0 => (some (Char.ofNat value), rest)
      | more + 1 => continue? value 0x80 0xBF more rest
    else (none, b :: rest)

/-- Reads one scalar value from `b :: rest`. Where no encoding goes on as the bytes do, the
longest part that begins one is taken off, or `b` alone, and there is no value. -/
def step (b : UInt8) (rest : Bytes) : Option Char × Bytes :=
  if b.toNat < 0x80 then (some (Char.ofNat b.toNat), rest)
  else match lead? b.toNat with
    | none => (none, rest)
    | some lead => continue? lead.value lead.low lead.high lead.more rest

theorem length_continue? (value low high more : Nat) (bytes : Bytes) :
    (continue? value low high more bytes).2.length ≤ bytes.length := by
  induction bytes generalizing value low high more with
  | nil => simp [continue?]
  | cons b rest ih =>
    unfold continue?
    split
    · cases more with
      | zero => simp
      | succ more => exact Nat.le_succ_of_le (ih ..)
    · simp

theorem length_step (b : UInt8) (rest : Bytes) : (step b rest).2.length ≤ rest.length := by
  unfold step
  split
  · simp
  · split
    · simp
    · exact length_continue? ..

/-- The text with one U+FFFD for each maximal damaged part. -/
def decodeLenient : Bytes → Text
  | [] => []
  | b :: rest => (step b rest).1.getD '\uFFFD' :: decodeLenient (step b rest).2
termination_by bytes => bytes.length
decreasing_by
  have := length_step b rest
  simp only [List.length_cons]
  omega

/-- The text, if every byte belongs to the encoding of a code point. -/
def decode? : Bytes → Option Text
  | [] => some []
  | b :: rest =>
    match (step b rest).1 with
    | none => none
    | some c => (decode? (step b rest).2).map (c :: ·)
termination_by bytes => bytes.length
decreasing_by
  have := length_step b rest
  simp only [List.length_cons]
  omega

/-- The byte order mark in front of an encoded text. -/
def mark : Bytes := [0xEF, 0xBB, 0xBF]

/-- The bytes behind a leading byte order mark. A content that is only the beginning of a mark
counts as an unfinished mark and leaves nothing. -/
def afterMark (bytes : Bytes) : Bytes :=
  if mark.isPrefixOf bytes then bytes.drop 3
  else if bytes.isPrefixOf mark then []
  else bytes

/-- A text file as it is read: without its byte order mark, damaged parts replaced, line ends
unified. -/
def readLenient (bytes : Bytes) : Text := (decodeLenient (afterMark bytes)).unifyNewlines

/-- A text file read strictly, with unified line ends; a byte order mark stays in the text. -/
def readStrict? (bytes : Bytes) : Option Text := (decode? bytes).map Text.unifyNewlines

end DebugLaunch.Utf8
