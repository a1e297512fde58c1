import DebugLaunch.Proofs.TokenSegments

/-! Lines of a template. A token stands on one line: no alias has a line end in any of its
spellings, and nothing but a spelling stands between the two signs. So behind a line end a scan
knows nothing of what it has read in front, not even of a sign that was left open there, and a text
can be substituted line by line. -/
namespace DebugLaunch.TokenLines
open Token TokenSegments

/-- An occurrence in a text that has more characters in front of it. -/
def moved (count : Nat) (occurrence : Occurrence) : Occurrence :=
  { occurrence with start := occurrence.start + count, stop := occurrence.stop + count }

/-- The tokens of lines, each looked for on its own line, as they stand in the whole text. The first
line begins at `offset`, and behind each line there is a line end. -/
def tokensOfLines (offset : Nat) : List Text → List Occurrence
  | [] => []
  | line :: rest =>
    (occurrences line).map (moved offset) ++ tokensOfLines (offset + line.length + 1) rest

/-! ### Pieces -/

section Pieces
variable {tokenClass : TokenClass} {name spelling : Text}

private theorem exists_letter (letters : List.Forall₂ SameLetter name spelling) :
    ∀ c ∈ spelling, ∃ letter ∈ name, SameLetter letter c := by
  induction letters with
  | nil => simp
  | @cons letter c name spelling same _ ih =>
    refine List.forall_mem_cons.mpr ⟨⟨letter, List.mem_cons_self .., same⟩, fun d inside => ?_⟩
    obtain ⟨other, member, spells⟩ := ih d inside
    exact ⟨other, List.mem_cons_of_mem _ member, spells⟩

/-- No alias is spelled over the end of a line. -/
theorem spelling_has_no_line_end (spelled : Spells tokenClass spelling) : '\n' ∉ spelling := by
  have foreign : ∀ name ∈ tokenClass.aliases, name.all fun letter => ¬ SameLetter letter '\n' := by
    cases tokenClass <;> decide
  obtain ⟨name, isAlias, letters⟩ := spelled
  intro inside
  obtain ⟨letter, member, same⟩ := exists_letter letters '\n' inside
  exact of_decide_eq_true (List.all_eq_true.mp (foreign name isAlias) letter member) same

/-- A sign opens the same token whatever stands on the lines below. -/
theorem token?_line (above below : Text) :
    token? (above ++ '\n' :: below) = (token? above).map fun (tokenClass, spelling, behind) =>
      (tokenClass, spelling, behind ++ '\n' :: below) := by
  cases here : token? above with
  | some token =>
    obtain ⟨tokenClass, spelling, behind⟩ := token
    obtain ⟨spelled, rfl⟩ := token?_eq_some_iff.mp here
    exact token?_eq_some_iff.mpr ⟨spelled, by simp⟩
  | none =>
    cases found : token? (above ++ '\n' :: below) with
    | none => rfl
    | some token =>
      obtain ⟨tokenClass, spelling, behind⟩ := token
      obtain ⟨spelled, whole⟩ := token?_eq_some_iff.mp found
      -- The spelling ends in front of the line end, and so does the sign that closes it.
      rcases List.append_eq_append_iff.mp whole with ⟨more, rfl, rest⟩ | ⟨more, rfl, rest⟩
      · cases more with
        | nil => cases rest
        | cons c more =>
          obtain ⟨rfl, _⟩ := List.cons.inj rest
          exact absurd (by simp) (spelling_has_no_line_end spelled)
      · cases more with
        | nil => cases rest
        | cons c more =>
          obtain ⟨rfl, _⟩ := List.cons.inj rest
          rw [token?_eq_some_iff.mpr ⟨spelled, rfl⟩] at here
          cases here

/-- A line end is a character of its own between the pieces in front and those behind. -/
theorem pieces_line (above below : Text) :
    pieces (above ++ '\n' :: below) = pieces above ++ .character '\n' :: pieces below := by
  fun_induction pieces above with
  | case1 => rw [List.nil_append, pieces, if_neg (by decide), List.nil_append]
  | case2 rest tokenClass spelling behind found ih =>
    rw [List.cons_append, pieces_sign, token?_line, found]
    exact congrArg _ ih
  | case3 rest none ih =>
    rw [List.cons_append, pieces_sign, token?_line, none]
    exact congrArg _ ih
  | case4 c rest other ih =>
    rw [List.cons_append, pieces, if_neg other, ih, List.cons_append]

end Pieces

/-! ### Occurrences -/

theorem occurrencesFrom_append (offset : Nat) (front behind : List Piece) :
    occurrencesFrom offset (front ++ behind) = occurrencesFrom offset front ++
      occurrencesFrom (offset + (front.flatMap Piece.source).length) behind := by
  induction front generalizing offset with
  | nil => rfl
  | cons piece front ih =>
    cases piece <;>
      simp only [List.cons_append, occurrencesFrom, ih, List.flatMap_cons, List.length_append,
        Nat.add_assoc]

theorem occurrencesFrom_moved (count offset : Nat) (parts : List Piece) :
    occurrencesFrom (offset + count) parts = (occurrencesFrom offset parts).map (moved count) := by
  induction parts generalizing offset with
  | nil => rfl
  | cons piece rest ih =>
    cases piece <;>
      simp only [occurrencesFrom, List.map_cons, moved, ← ih, Nat.add_right_comm _ count]

theorem occurrences_line (above below : Text) :
    occurrences (above ++ '\n' :: below) =
      occurrences above ++ (occurrences below).map (moved (above.length + 1)) := by
  rw [occurrences, pieces_line, occurrencesFrom_append, sources_pieces, occurrencesFrom,
    occurrences, occurrences, ← occurrencesFrom_moved]
  rfl

theorem substitute_line (value : TokenClass → Text) (above below : Text) :
    substitute value (above ++ '\n' :: below) =
      substitute value above ++ '\n' :: substitute value below := by
  rw [substitute_eq, substitute_eq, substitute_eq, pieces_line, List.flatMap_append,
    List.flatMap_cons]
  rfl

/-! ### All lines -/

theorem substitute_join (value : TokenClass → Text) (lines : List Text) :
    substitute value (Text.join ['\n'] lines) =
      Text.join ['\n'] (lines.map (substitute value)) := by
  induction lines with
  | nil => simp [Text.join, substitute, pieces]
  | cons line rest ih =>
    cases rest with
    | nil => rfl
    | cons next rest =>
      rw [Text.join, List.append_assoc, List.singleton_append, substitute_line, ih]
      simp [Text.join]

theorem occurrences_join (offset : Nat) (lines : List Text) :
    (occurrences (Text.join ['\n'] lines)).map (moved offset) = tokensOfLines offset lines := by
  induction lines generalizing offset with
  | nil => simp [Text.join, occurrences, pieces, occurrencesFrom, tokensOfLines]
  | cons line rest ih =>
    cases rest with
    | nil => simp [Text.join, tokensOfLines]
    | cons next rest =>
      have twice : moved offset ∘ moved (line.length + 1) = moved (offset + line.length + 1) := by
        funext occurrence
        simp only [Function.comp_apply, moved, Occurrence.mk.injEq, and_true]
        omega
      rw [Text.join, List.append_assoc, List.singleton_append, occurrences_line, List.map_append,
        List.map_map, twice, ih, ← tokensOfLines]

/-- Substitution works line by line, also where a sign is left open at the end of a line: what is
found and what is replaced on one line is the same whatever stands on the lines above and below, and
only the offsets count what stands above. So the lines of a text, each substituted alone, are those
of the text that is substituted as a whole. -/
theorem substitution_by_lines (context : Context) :
    (∀ above below : Text,
      substitute context.value (above ++ '\n' :: below) =
          substitute context.value above ++ '\n' :: substitute context.value below ∧
        occurrences (above ++ '\n' :: below) =
          occurrences above ++ (occurrences below).map (moved (above.length + 1))) ∧
      ∀ text : Text,
        substitute context.value text =
            Text.join ['\n'] ((Text.split '\n' text).map (substitute context.value)) ∧
          occurrences text = tokensOfLines 0 (Text.split '\n' text) := by
  refine ⟨fun above below => ⟨substitute_line _ above below, occurrences_line above below⟩, ?_⟩
  intro text
  have whole := Text.join_split '\n' text
  constructor
  · rw [← substitute_join, whole]
  · have unmoved : moved 0 = id := rfl
    rw [← occurrences_join, whole, unmoved, List.map_id]

/-- A sign that is left open on one line closes nothing on the next. -/
example : occurrences "a%root\n%root%".toList = [⟨7, 13, .workspaceRoot, "root".toList⟩] := by
  decide +kernel

end DebugLaunch.TokenLines
