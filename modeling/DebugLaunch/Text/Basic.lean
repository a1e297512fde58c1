/-! Text is a list of code points, so that every offset, cut and count below is one of code
points. Splitting at a separator and joining with it are inverse to each other: `join_split`
says that nothing is lost. -/
namespace DebugLaunch

/-- A sequence of Unicode code points. -/
abbrev Text := List Char

namespace Text

/-- The parts between the occurrences of `separator`. There is always at least one part. -/
def split (separator : Char) : Text → List Text
  | [] => [[]]
  | c :: rest =>
    if c = separator then [] :: split separator rest
    else match split separator rest with
      | [] => [[c]]
      | part :: parts => (c :: part) :: parts

/-- The parts with `glue` between any two neighbours. -/
def join (glue : Text) : List Text → Text
  | [] => []
  | [part] => part
  | part :: next :: parts => part ++ glue ++ join glue (next :: parts)

/-- Everything before the first character that satisfies `stop`, and the rest from there on. -/
def breakAt (stop : Char → Bool) (text : Text) : Text × Text :=
  (text.takeWhile fun c => !stop c, text.dropWhile fun c => !stop c)

/-- Whether a text is sorted in front of another one, by code points, or is the same. -/
def atMost : Text → Text → Bool
  | [], _ => true
  | _ :: _, [] => false
  | c :: one, d :: other => c.toNat < d.toNat || (c = d && atMost one other)

/-- The decimal digits of a natural number. -/
def ofNat (n : Nat) : Text := Nat.toDigits 10 n

/-- The decimal digits of an integer, with a minus sign if it is negative. -/
def ofInt : Int → Text
  | .ofNat n => ofNat n
  | .negSucc n => '-' :: ofNat (n + 1)

theorem split_ne_nil (separator : Char) (text : Text) : split separator text ≠ [] := by
  cases text with
  | nil => simp [split]
  | cons c rest =>
    unfold split
    split
    · simp
    · split <;> simp

theorem join_split (separator : Char) (text : Text) :
    join [separator] (split separator text) = text := by
  induction text with
  | nil => rfl
  | cons c rest ih =>
    unfold split
    split
    · rename_i same
      cases parts : split separator rest with
      | nil => exact absurd parts (split_ne_nil separator rest)
      | cons part others => rw [parts] at ih; simp [join, ih, same]
    · cases parts : split separator rest with
      | nil => exact absurd parts (split_ne_nil separator rest)
      | cons part others =>
        rw [parts] at ih
        cases others with
        | nil => simpa [join] using ih
        | cons next others => simpa [join] using ih

/-- The separator separates: it is in none of the parts. -/
theorem not_mem_of_mem_split {separator : Char} {text part : Text}
    (member : part ∈ split separator text) : separator ∉ part := by
  induction text generalizing part with
  | nil => simp_all [split]
  | cons c rest ih =>
    unfold split at member
    split at member
    · rcases List.mem_cons.mp member with rfl | member
      · simp
      · exact ih member
    · rename_i other
      cases parts : split separator rest with
      | nil => exact absurd parts (split_ne_nil separator rest)
      | cons first others =>
        rw [parts] at member ih
        rcases List.mem_cons.mp member with rfl | member
        · have := ih (List.mem_cons_self ..)
          simp [this, Ne.symm other]
        · exact ih (List.mem_cons_of_mem _ member)

/-- A text is split at a separator by splitting what is in front of it and what is behind. -/
theorem split_append_cons (separator : Char) (front rest : Text) :
    split separator (front ++ separator :: rest) =
      split separator front ++ split separator rest := by
  induction front with
  | nil => simp [split]
  | cons c front ih =>
    rw [List.cons_append, split, split]
    by_cases same : c = separator
    · rw [if_pos same, if_pos same, ih, List.cons_append]
    · rw [if_neg same, if_neg same, ih]
      cases parts : split separator front with
      | nil => exact absurd parts (split_ne_nil separator front)
      | cons part others => rfl

theorem split_of_not_mem {separator : Char} {text : Text} (free : separator ∉ text) :
    split separator text = [text] := by
  induction text with
  | nil => rfl
  | cons c rest ih =>
    rw [List.mem_cons, not_or] at free
    rw [split, if_neg (Ne.symm free.1), ih free.2]

/-- Parts without the separator are the parts of what they are joined to. -/
theorem split_join {separator : Char} {parts : List Text} (nonempty : parts ≠ [])
    (free : ∀ part ∈ parts, separator ∉ part) :
    split separator (join [separator] parts) = parts := by
  induction parts with
  | nil => exact absurd rfl nonempty
  | cons part parts ih =>
    rw [List.forall_mem_cons] at free
    cases parts with
    | nil => exact split_of_not_mem free.1
    | cons next parts =>
      rw [join, List.append_assoc, List.singleton_append, split_append_cons,
        split_of_not_mem free.1, ih (by simp) free.2]
      rfl

theorem join_cons_eq (separator : Char) (part : Text) (parts : List Text) :
    join [separator] (part :: parts) = part ++ parts.flatMap (separator :: ·) := by
  induction parts generalizing part with
  | nil => simp [join]
  | cons next parts ih => simp [join, ih]

/-- What stands in a part of a text stands in the text. -/
theorem mem_of_mem_split {separator c : Char} {text part : Text}
    (member : part ∈ split separator text) (inside : c ∈ part) : c ∈ text := by
  have whole := join_split separator text
  cases parts : split separator text with
  | nil => simp [parts] at member
  | cons first others =>
    rw [parts] at member whole
    rw [← whole, join_cons_eq]
    rcases List.mem_cons.mp member with rfl | later
    · exact List.mem_append_left _ inside
    · exact List.mem_append_right _
        (List.mem_flatMap.mpr ⟨part, later, List.mem_cons_of_mem _ inside⟩)

theorem join_concat (separator : Char) (parts : List Text) (last : Text) :
    join [separator] (parts ++ [last]) = parts.flatMap (· ++ [separator]) ++ last := by
  induction parts with
  | nil => rfl
  | cons part parts ih =>
    rw [List.flatMap_cons, List.append_assoc, ← ih]
    cases parts <;> simp [join]

theorem breakAt_append (stop : Char → Bool) (text : Text) :
    (breakAt stop text).1 ++ (breakAt stop text).2 = text := by
  simp [breakAt]

/-- Where a text breaks, nothing in front stops it and the character behind does. -/
theorem of_breakAt {stop : Char → Bool} {text front rest : Text}
    (broken : breakAt stop text = (front, rest)) :
    text = front ++ rest ∧ (∀ d ∈ front, stop d = false) ∧ ∀ c ∈ rest.head?, stop c = true := by
  simp only [breakAt, Prod.mk.injEq] at broken
  obtain ⟨rfl, rfl⟩ := broken
  refine ⟨List.takeWhile_append_dropWhile.symm, ?_, ?_⟩
  · intro d inside
    have := List.all_eq_true.mp (List.all_takeWhile : List.all (text.takeWhile _) _ = true) d inside
    simpa using this
  · intro c first
    have := List.head?_dropWhile_not (fun c => !stop c) text
    rw [Option.mem_def.mp first] at this
    simpa using this

/-- A text breaks at the first character that stops it. -/
theorem breakAt_of_stop {stop : Char → Bool} {front rest : Text} {c : Char}
    (free : ∀ d ∈ front, stop d = false) (stops : stop c = true) :
    breakAt stop (front ++ c :: rest) = (front, c :: rest) := by
  have passed : ∀ d ∈ front, (!stop d) = true := by simpa using free
  rw [breakAt, List.takeWhile_append_of_pos passed, List.dropWhile_append_of_pos passed]
  simp [stops]

theorem breakAt_of_free {stop : Char → Bool} {text : Text} (free : ∀ d ∈ text, stop d = false) :
    breakAt stop text = (text, []) := by
  have passed : ∀ d ∈ text, (!stop d) = true := by simpa using free
  rw [breakAt, ← List.append_nil text, List.takeWhile_append_of_pos passed,
    List.dropWhile_append_of_pos passed]
  rfl

theorem passes_iff {stop : Char} {text : Text} :
    (∀ d ∈ text, (d = stop : Bool) = false) ↔ stop ∉ text := by
  simp only [decide_eq_false_iff_not]
  exact ⟨fun passes inside => passes _ inside rfl, fun free d inside same => free (same ▸ inside)⟩

theorem breakAt_char {stop : Char} {front : Text} (free : stop ∉ front) (rest : Text) :
    breakAt (· = stop) (front ++ stop :: rest) = (front, stop :: rest) :=
  breakAt_of_stop (passes_iff.mpr free) (decide_eq_true rfl)

/-- Up to the first one of a character, a text is known from the text. -/
theorem front_inj {stop : Char} {first second behind rest : Text} (firstFree : stop ∉ first)
    (secondFree : stop ∉ second) (same : first ++ stop :: behind = second ++ stop :: rest) :
    first = second ∧ behind = rest := by
  have cut := congrArg (breakAt (· = stop)) same
  rw [breakAt_char firstFree, breakAt_char secondFree] at cut
  simpa using cut

end Text
end DebugLaunch
