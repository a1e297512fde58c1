import DebugLaunch.Text.Basic

/-! White space in texts: which characters count as blank, removing them at the ends, and
cutting a text into its blank-free words or into its lines. -/
namespace DebugLaunch.Text

/-- White space: the separators of Unicode, the layout characters, and the four information
separators U+001C to U+001F. -/
def isBlank (c : Char) : Bool :=
  let n := c.toNat
  (9 ≤ n && n ≤ 13) || (28 ≤ n && n ≤ 32) || n = 0x85 || n = 0xA0 || n = 0x1680 ||
    (0x2000 ≤ n && n ≤ 0x200A) || n = 0x2028 || n = 0x2029 || n = 0x202F || n = 0x205F || n = 0x3000

/-- The white space property of Unicode, which leaves out the information separators. -/
def isSpaceProperty (c : Char) : Bool :=
  isBlank c && !(28 ≤ c.toNat && c.toNat ≤ 31)

/-- The text without the leading characters that satisfy `drop`. -/
def trimLeft (drop : Char → Bool) (text : Text) : Text := text.dropWhile drop

/-- The text without the trailing characters that satisfy `drop`. -/
def trimRight (drop : Char → Bool) (text : Text) : Text := (text.reverse.dropWhile drop).reverse

/-- The text without the characters at either end that satisfy `drop`. -/
def trim (drop : Char → Bool) (text : Text) : Text := trimRight drop (trimLeft drop text)

/-- The text without white space at its ends. -/
def strip (text : Text) : Text := trim isBlank text

/-- The characters that end a line. -/
def isLineEnd (c : Char) : Bool :=
  let n := c.toNat
  (10 ≤ n && n ≤ 13) || (28 ≤ n && n ≤ 30) || n = 0x85 || n = 0x2028 || n = 0x2029

/-- The blank-free words of a text: `word` holds the one being read, last character first. -/
def wordsFrom (word : Text) : Text → List Text
  | [] => if word.isEmpty then [] else [word.reverse]
  | c :: rest =>
    if isBlank c then
      if word.isEmpty then wordsFrom [] rest else word.reverse :: wordsFrom [] rest
    else wordsFrom (c :: word) rest

/-- The maximal runs without white space. -/
def words (text : Text) : List Text := wordsFrom [] text

/-- The lines of a text without their ends; `line` holds the one being read, last character
first. A text that ends with a line end has no empty last line. -/
def linesFrom (line : Text) : Text → List Text
  | [] => if line.isEmpty then [] else [line.reverse]
  | '\r' :: '\n' :: rest => line.reverse :: linesFrom [] rest
  | c :: rest =>
    if isLineEnd c then line.reverse :: linesFrom [] rest else linesFrom (c :: line) rest

/-- The lines of a text, where every line end of Unicode counts. -/
def lines (text : Text) : List Text := linesFrom [] text

/-- What is not dropped is still there after trimming. -/
theorem mem_trim {drop : Char → Bool} {text : Text} {c : Char} (inside : c ∈ text)
    (kept : drop c = false) : c ∈ trim drop text := by
  have stays : ∀ {text : Text}, c ∈ text → c ∈ text.dropWhile drop := by
    intro text inside
    rw [← List.takeWhile_append_dropWhile (p := drop) (l := text)] at inside
    refine (List.mem_append.mp inside).resolve_left fun taken => ?_
    have := List.all_eq_true.mp List.all_takeWhile c taken
    rw [kept] at this
    cases this
  rw [trim, trimRight, trimLeft, List.mem_reverse]
  exact stays (List.mem_reverse.mpr (stays inside))

/-- Nothing is dropped where neither the first nor the last character is. -/
theorem trim_eq_self {drop : Char → Bool} {text : Text} (first : ∀ c ∈ text.head?, drop c = false)
    (last : ∀ c ∈ text.getLast?, drop c = false) : trim drop text = text := by
  have kept : ∀ {text : Text}, (∀ c ∈ text.head?, drop c = false) → text.dropWhile drop = text := by
    intro text first
    cases text with
    | nil => rfl
    | cons c rest => exact List.dropWhile_cons_of_neg (by simp [first c rfl])
  rw [trim, trimLeft, trimRight, kept first, kept (by rwa [List.head?_reverse]),
    List.reverse_reverse]

/-- Exactly of white space nothing is left. -/
theorem strip_eq_nil_iff {text : Text} : strip text = [] ↔ ∀ c ∈ text, isBlank c = true := by
  constructor
  · intro nothing c inside
    cases kept : isBlank c with
    | true => rfl
    | false =>
      have stays : c ∈ strip text := mem_trim inside kept
      rw [nothing] at stays
      cases stays
  · intro blank
    have dropped : trimLeft isBlank text = [] := by
      have passed := @List.dropWhile_append_of_pos _ isBlank text [] blank
      rwa [List.append_nil] at passed
    rw [strip, trim, dropped]
    rfl

end DebugLaunch.Text
