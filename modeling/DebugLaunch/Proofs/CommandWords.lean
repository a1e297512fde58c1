import DebugLaunch.Command
import DebugLaunch.Proofs.SettingsEnding
import DebugLaunch.Proofs.SettingsFindings

/-! The words of a command line. Where the words of a command are put into single quotes, and each
single quote inside of them into double ones, reading the line gives them back, whatever they hold:
a quote closes the quotation and opens it again without ending the word, and only the space between
two words stands outside of all quotes. So every command can be given by the environment. -/
namespace DebugLaunch.CommandWords
open Shell

/-- How a character of a word is written in single quotes: a single quote leaves them and stands in
double ones. -/
def quotedChar (c : Char) : Text := if c = '\'' then ['\'', '"', '\'', '"', '\''] else [c]

/-- A word in single quotes. -/
def quoted (word : Text) : Text := '\'' :: word.flatMap quotedChar ++ ['\'']

/-- The words of a command in single quotes, with a space between them. -/
def commandLine (words : List Text) : Text := Text.join [' '] (words.map quoted)

section Reading
variable {position : Position} {word line : Text} {words : List Text}

/-- What a character is written as is read as that character. -/
theorem wordsFrom_quotedChar (c : Char) (word rest : Text) :
    wordsFrom (.inQuotes '\'') word (quotedChar c ++ rest) =
      wordsFrom (.inQuotes '\'') (c :: word) rest := by
  by_cases quote : c = '\''
  · subst quote
    rfl
  · simp [quotedChar, quote, wordsFrom]

theorem wordsFrom_quotedChars (word read rest : Text) :
    wordsFrom (.inQuotes '\'') read (word.flatMap quotedChar ++ rest) =
      wordsFrom (.inQuotes '\'') (word.reverse ++ read) rest := by
  induction word generalizing read with
  | nil => rfl
  | cons c word ih =>
    rw [List.flatMap_cons, List.append_assoc, wordsFrom_quotedChar, ih]
    simp

/-- Behind a quoted word stands what is read as one word. -/
theorem wordsFrom_quoted (word rest : Text) :
    wordsFrom .between [] (quoted word ++ rest) = wordsFrom .inWord word.reverse rest := by
  have opened : wordsFrom .between [] (quoted word ++ rest) =
      wordsFrom (.inQuotes '\'') [] (word.flatMap quotedChar ++ '\'' :: rest) := by
    rw [quoted, List.append_assoc]
    rfl
  rw [opened, wordsFrom_quotedChars, List.append_nil]
  rfl

/-- Quoted words are read as they were. -/
theorem words_commandLine (words : List Text) : Shell.words (commandLine words) = .ok words := by
  induction words with
  | nil => rfl
  | cons word rest ih =>
    cases rest with
    | nil =>
      have alone := wordsFrom_quoted word []
      rw [List.append_nil] at alone
      rw [Shell.words, commandLine, List.map_singleton, Text.join, alone, wordsFrom,
        List.reverse_reverse]
    | cons next more =>
      have parts : commandLine (word :: next :: more) =
          quoted word ++ ' ' :: commandLine (next :: more) := by
        simp [commandLine, Text.join]
      have later : wordsFrom .between [] (commandLine (next :: more)) = .ok (next :: more) := ih
      rw [Shell.words, parts, wordsFrom_quoted]
      show (wordsFrom .between [] (commandLine (next :: more))).map (word.reverse.reverse :: ·) = _
      rw [later, List.reverse_reverse]
      rfl

/-- A line of quoted words begins and ends with a quote. -/
theorem ends_commandLine {words : List Text} {c : Char} :
    (c ∈ (commandLine words).head? → c = '\'') ∧ (c ∈ (commandLine words).getLast? → c = '\'') := by
  constructor
  · cases words with
    | nil => simp [commandLine, Text.join]
    | cons word rest =>
      rw [commandLine, List.map_cons, Text.join_cons_eq]
      simp [quoted, eq_comm]
  · rcases List.eq_nil_or_concat words with rfl | ⟨front, word, rfl⟩
    · simp [commandLine, Text.join]
    · rw [commandLine, List.concat_eq_append, List.map_append, List.map_singleton,
        Text.join_concat, quoted, ← List.append_assoc, List.getLast?_concat]
      simp [eq_comm]

/-- So it has no white space at its ends. -/
theorem strip_commandLine (words : List Text) :
    Text.strip (commandLine words) = commandLine words := by
  have quote : Text.isBlank '\'' = false := by decide
  apply Text.trim_eq_self
  · intro c first
    rw [ends_commandLine.1 first, quote]
  · intro c last
    rw [ends_commandLine.2 last, quote]

end Reading

/-! ### Lines that give words -/

section Lines
open SettingsEnding
variable {position : Position} {word line : Text} {words : List Text}

/-- A word goes on until a separator ends it. -/
theorem inside_advance {c : Char} (inside : position ≠ .between)
    (goesOn : ¬ (position = .inWord ∧ isSeparator c)) : advance position c ≠ .between := by
  cases position with
  | between => exact absurd rfl inside
  | inWord =>
    have other : ¬ isSeparator c := fun separates => goesOn ⟨rfl, separates⟩
    rw [advance, if_neg other]
    repeat' split
    all_goals simp
  | inQuotes quote =>
    rw [advance]
    repeat' split
    all_goals simp
  | escaped => simp [advance]
  | escapedInQuotes => simp [advance]

/-- What is read from inside of a word on gives at least that word. -/
theorem wordsFrom_ne_nil (inside : position ≠ .between)
    (reads : wordsFrom position word line = .ok words) : words ≠ [] := by
  induction line generalizing position word with
  | nil =>
    cases position with
    | between => exact absurd rfl inside
    | inWord =>
      cases reads
      simp
    | _ => cases reads
  | cons c rest ih =>
    rw [wordsFrom_cons] at reads
    by_cases ends : position = .inWord ∧ isSeparator c
    · rw [if_pos ends] at reads
      cases others : wordsFrom .between [] rest with
      | error fault =>
        rw [others] at reads
        cases reads
      | ok more =>
        rw [others] at reads
        cases reads
        simp
    · -- the word that has begun goes on
      rw [if_neg ends] at reads
      exact ih (inside_advance inside ends) reads

/-- Between words a separator changes nothing. -/
theorem wordsFrom_separator {c : Char} (separates : isSeparator c = true) (word rest : Text) :
    wordsFrom .between word (c :: rest) = wordsFrom .between [] rest := by
  rw [wordsFrom_cons, if_neg (by simp), advance, if_pos separates, gathered, if_pos separates]

/-- A line that does not consist of separators only has a word. -/
theorem words_ne_nil {c : Char} (inside : c ∈ line) (other : isSeparator c = false)
    (reads : Shell.words line = .ok words) : words ≠ [] := by
  rw [Shell.words] at reads
  induction line with
  | nil => cases inside
  | cons first rest ih =>
    by_cases separates : isSeparator first
    · rw [wordsFrom_separator separates] at reads
      rcases List.mem_cons.mp inside with rfl | later
      · rw [other] at separates
        cases separates
      · exact ih later reads
    · rw [wordsFrom_cons, if_neg (by simp), advance, if_neg separates] at reads
      refine wordsFrom_ne_nil ?_ reads
      repeat' split
      all_goals simp

/-- Separators in front of a line are passed over. -/
theorem wordsFrom_separators {front : Text} (separators : ∀ c ∈ front, isSeparator c = true)
    (line : Text) : wordsFrom .between [] (front ++ line) = wordsFrom .between [] line := by
  induction front with
  | nil => rfl
  | cons c front ih =>
    obtain ⟨separates, others⟩ := List.forall_mem_cons.mp separators
    rw [List.cons_append, wordsFrom_separator separates, ih others]

/-- Separators behind a line that can be read make no difference. -/
theorem wordsFrom_append_separators {behind : Text}
    (separators : ∀ c ∈ behind, isSeparator c = true)
    (reads : wordsFrom position word line = .ok words) :
    wordsFrom position word (line ++ behind) = .ok words := by
  induction line generalizing position word words with
  | nil =>
    cases behind with
    | nil => exact reads
    | cons c more =>
      obtain ⟨separates, others⟩ := List.forall_mem_cons.mp separators
      have nothing := wordsFrom_separators others []
      rw [List.append_nil] at nothing
      cases position with
      | between =>
        cases reads
        rw [List.nil_append, wordsFrom_separator separates, nothing]
        rfl
      | inWord =>
        cases reads
        rw [List.nil_append, wordsFrom_cons, if_pos ⟨rfl, separates⟩, nothing]
        rfl
      | _ => cases reads
  | cons c rest ih =>
    rw [List.cons_append, wordsFrom_cons]
    rw [wordsFrom_cons] at reads
    by_cases ends : position = .inWord ∧ isSeparator c
    · rw [if_pos ends] at reads ⊢
      cases others : wordsFrom .between [] rest with
      | error fault =>
        rw [others] at reads
        cases reads
      | ok more =>
        rw [others] at reads
        rw [ih others]
        exact reads
    · rw [if_neg ends] at reads ⊢
      exact ih reads

/-- Separators at the ends of a line that can be read make no difference. -/
theorem words_among_separators {front behind : Text}
    (separators : ∀ c ∈ front ++ behind, isSeparator c = true)
    (reads : Shell.words line = .ok words) : Shell.words (front ++ line ++ behind) = .ok words := by
  obtain ⟨before, after⟩ := List.forall_mem_append.mp separators
  rw [Shell.words, List.append_assoc, wordsFrom_separators before]
  exact wordsFrom_append_separators after reads

end Lines

/-! ### The command of the settings -/

section Loading
open Settings SettingsEnding
variable {words : List Text}

theorem commandLine_ne_nil (nonempty : words ≠ []) : commandLine words ≠ [] := by
  cases words with
  | nil => exact absurd rfl nonempty
  | cons word rest =>
    rw [commandLine, List.map_cons, Text.join_cons_eq]
    simp [quoted]

/-- The environment gives the command that is quoted in its variable. -/
theorem overriding_commandLine (nonempty : words ≠ []) (environment : Environment) :
    overriding (environment.set commandVariable (commandLine words)) = .ok (some words) := by
  have line : overridingLine (environment.set commandVariable (commandLine words)) =
      commandLine words := by
    rw [overridingLine, Environment.get?_set_self]
    exact strip_commandLine words
  rw [overriding_eq, line, if_neg (commandLine_ne_nil nonempty), words_commandLine]

end Loading

/-- Every command can be given by the environment: where there is no settings file, the words of a
command in single quotes are loaded as these words, and a launch file comes behind them as one more.
-/
theorem command_of_environment {words : List Text} (nonempty : words ≠ []) {machine : Machine}
    {workspace : Text} (missing : SettingsEnding.Holds machine workspace none)
    (console : Option Console) :
    let environment := machine.environment.set Settings.commandVariable (commandLine words)
    ∃ settings, ((Settings.load console workspace).runOn { machine with environment }).1 =
        .ok settings ∧
      settings.launchCommand = words ∧ settings.launchTimeout = 30 ∧
      ∀ file, Command.full settings.launchCommand file = words ++ [file.toText] := by
  intro environment
  have holds : SettingsEnding.Holds { machine with environment } workspace none := missing
  obtain ⟨output, ran⟩ := SettingsEnding.runOn_load console holds
  refine ⟨⟨words, 30⟩, ?_, rfl, rfl, fun file => rfl⟩
  rw [ran]
  show Settings.overriding environment >>= Settings.combine (Settings.path workspace).toText [] = _
  rw [overriding_commandLine nonempty]
  have none : Settings.withTextKeys [] = some [] := rfl
  exact SettingsFindings.combine_command none _ words

/-- A word with spaces and quotes of both kinds, an empty one, and one with a backslash and a line
end go through the environment as they are. -/
theorem command_of_environment_of_quotes :
    let words := ["it's \"so\"", "", "a\\\n#"].map String.toList
    let machine : Machine := { files := { entries := [([['w']], .directory)] }, directory := [] }
    let environment := machine.environment.set Settings.commandVariable (commandLine words)
    words ≠ [] ∧ SettingsEnding.Holds machine ['w'] none ∧
      commandLine words = "'it'\"'\"'s \"so\"' '' 'a\\\n#'".toList ∧
      ((Settings.load none ['w']).runOn { machine with environment }).1 = .ok ⟨words, 30⟩ := by
  intro words machine environment
  have nonempty : words ≠ [] := by decide
  have missing : SettingsEnding.Holds machine ['w'] none := by
    show machine.files.probe machine.directory (Settings.path ['w']) = .ok none
    decide +kernel
  refine ⟨nonempty, missing, by decide +kernel, ?_⟩
  obtain ⟨⟨command, time⟩, loads, rfl, rfl, _⟩ := command_of_environment nonempty missing none
  exact loads

end DebugLaunch.CommandWords
