import DebugLaunch.Proofs.CommandLineRuns
import DebugLaunch.Proofs.DocumentBytes
import DebugLaunch.Proofs.PlaceWalk

/-! What becomes of the settings of a workspace, for every content of its settings file and every
value of the variable that replaces the command. They are read in stages: the document, the line
about it, the words of the variable, and the settings of them all. A stage that fails decides, and
only some of its faults are faults of configuration: the others come from a document that is no
UTF-8, holds a scalar that is none of its tag or is nested too deeply, from a variable that cannot
be cut into words, and from a key that is no text. -/
namespace DebugLaunch.SettingsEnding
open DebugLaunch.Action CommandLineRuns PlaceWalk Settings

/-! ### Command lines that cannot be cut into words -/

section Words
open Shell

/-- Where the character behind one at a position stands. -/
def advance : Position → Char → Position
  | .between, c | .inWord, c =>
    if isSeparator c then .between
    else if c = '\'' || c = '"' then .inQuotes c
    else if c = '\\' then .escaped
    else .inWord
  | .inQuotes quote, c =>
    if c = quote then .inWord
    else if c = '\\' && quote = '"' then .escapedInQuotes
    else .inQuotes quote
  | .escaped, _ => .inWord
  | .escapedInQuotes, _ => .inQuotes '"'

/-- Where a command line ends. -/
def endOf (line : Text) : Position := line.foldl advance .between

/-- What is wrong with a command line that ends at a position. -/
def unfinished? : Position → Option WordsFault
  | .between | .inWord => none
  | .inQuotes _ => some .noClosingQuotation
  | .escaped | .escapedInQuotes => some .noEscapedCharacter

/-- What has been read of a word behind a character at a position. -/
def gathered (position : Position) (word : Text) (c : Char) : Text :=
  match position with
  | .between | .inWord =>
    if isSeparator c then [] else if c = '\'' || c = '"' || c = '\\' then word else c :: word
  | .inQuotes quote => if c = quote || (c = '\\' && quote = '"') then word else c :: word
  | .escaped => c :: word
  | .escapedInQuotes => if c = '\\' || c = '"' then c :: word else c :: '\\' :: word

/-- One character: a separator ends the word, and any other one is taken as its position says. -/
theorem wordsFrom_cons (position : Position) (word : Text) (c : Char) (rest : Text) :
    wordsFrom position word (c :: rest) =
      if position = .inWord ∧ isSeparator c then
        (wordsFrom .between [] rest).map (word.reverse :: ·)
      else wordsFrom (advance position c) (gathered position word c) rest := by
  cases position with
  | between | inWord =>
    simp only [wordsFrom, advance, gathered]
    split
    · simp_all
    · split
      · simp_all
      · split <;> simp_all
  | inQuotes quote =>
    simp only [wordsFrom, advance, gathered]
    split
    · simp_all
    · rename_i other
      by_cases escapes : c = '\\' ∧ quote = '"' <;> simp [other, escapes]
  | escaped | escapedInQuotes => simp [wordsFrom, advance, gathered]

variable {fault : WordsFault}

private theorem map_eq_error_iff {α β : Type} {result : Except WordsFault α} {f : α → β} :
    result.map f = .error fault ↔ result = .error fault := by
  cases result <;> simp [Except.map]

/-- Whether the words can be read is known from where the text ends. -/
theorem wordsFrom_error_iff {position : Position} {word text : Text} :
    wordsFrom position word text = .error fault ↔
      unfinished? (text.foldl advance position) = some fault := by
  induction text generalizing position word with
  | nil => cases position <;> simp [wordsFrom, unfinished?]
  | cons c rest ih =>
    rw [List.foldl_cons, wordsFrom_cons]
    by_cases ends : position = .inWord ∧ isSeparator c
    · have between : advance position c = .between := by
        rw [ends.1, advance, if_pos ends.2]
      rw [if_pos ends, map_eq_error_iff, ih, between]
    · rw [if_neg ends, ih]

/-- A command line cannot be cut into words exactly if it ends in quotes or behind a backslash. -/
theorem words_error_iff {line : Text} :
    words line = .error fault ↔ unfinished? (endOf line) = some fault := wordsFrom_error_iff

end Words

/-! ### The stages -/

section Stages
variable {console : Option Console} {workspace : Text} {content : Option Utf8.Bytes}
  {environment : Environment} {machine : Machine}

/-- The settings file of a workspace has this content, or there is none. -/
def Holds (machine : Machine) (workspace : Text) : Option Utf8.Bytes → Prop
  | none => machine.files.probe machine.directory (Settings.path workspace) = .ok none
  | some content => NamesFile machine.files machine.directory (Settings.path workspace) content

/-- The entries of the settings file with a content, once the line about it is said. -/
def entriesSaid (console : Option Console) (workspace : Text) :
    Option Utf8.Bytes → Except Fault (List (Value × Value))
  | none => .ok []
  | some content => do
    let entries ← entriesOf (Settings.path workspace).toText content
    said console (loadedLine (Settings.path workspace))
    return entries

/-- The settings by their stages. -/
def settingsOf (console : Option Console) (workspace : Text) (content : Option Utf8.Bytes)
    (environment : Environment) : Except Fault Settings := do
  let entries ← entriesSaid console workspace content
  let command ← overriding environment
  combine (Settings.path workspace).toText entries command

theorem probe_of_namesFile {path : Path} {bytes : Utf8.Bytes}
    (names : NamesFile machine.files machine.directory path bytes) :
    machine.files.probe machine.directory path = .ok (some (.file bytes)) := by
  have reads := read_iff.mpr names
  rw [FileTree.read] at reads
  rw [FileTree.probe]
  cases found : machine.files.find machine.directory path with
  | error error =>
    rw [found] at reads
    cases reads
  | ok target =>
    obtain ⟨place, entry⟩ := target
    rw [found] at reads
    cases entry with
    | directory => cases reads
    | file other =>
      cases reads
      rfl

theorem runOn_isThere (path : Path) (machine : Machine) :
    (isThere path).runOn machine =
      ((machine.files.probe machine.directory path).mapError .file |>.map Option.isSome,
        machine) := by
  rw [isThere, runOn_bind, runOn_askFiles]
  cases machine.files.probe machine.directory path <;> rfl

theorem runOn_liftExcept {α : Type} (result : Except Fault α) (machine : Machine) :
    (load.liftExcept result).runOn machine = (result, machine) := by
  cases result <;> rfl

theorem runOn_fileEntries (console : Option Console) (holds : Holds machine workspace content) :
    ∃ output, (fileEntries console workspace).runOn machine =
      (entriesSaid console workspace content, { machine with output }) := by
  rw [fileEntries, runOn_bind, runOn_isThere]
  cases content with
  | none =>
    rw [holds]
    exact ⟨machine.output, rfl⟩
  | some bytes =>
    rw [probe_of_namesFile holds]
    dsimp only [Except.mapError, Except.map, Option.isSome]
    rw [if_pos rfl, runOn_bind, readBytes, runOn_askFiles, read_iff.mpr holds]
    dsimp only [Except.mapError]
    rw [runOn_bind, runOn_liftExcept, entriesSaid]
    cases entriesOf (Settings.path workspace).toText bytes with
    | error fault => exact ⟨machine.output, rfl⟩
    | ok entries =>
      obtain ⟨output, saying⟩ := runOn_say console (loadedLine (Settings.path workspace)) machine
      refine ⟨output, ?_⟩
      dsimp only
      rw [runOn_bind, saying]
      cases said console (loadedLine (Settings.path workspace)) <;> rfl

/-- Loading settings comes to their stages, and prints at most. -/
theorem runOn_load (console : Option Console) (holds : Holds machine workspace content) :
    ∃ output, (load console workspace).runOn machine =
      (settingsOf console workspace content machine.environment, { machine with output }) := by
  obtain ⟨output, ran⟩ := runOn_fileEntries console holds
  refine ⟨output, ?_⟩
  rw [loadSettings_eq, runOn_bind, ran, settingsOf]
  cases entriesSaid console workspace content with
  | error fault => rfl
  | ok entries =>
    show (load.liftExcept (overriding machine.environment) >>= _).runOn _ = _
    rw [runOn_bind, runOn_liftExcept]
    cases overriding machine.environment with
    | error fault => simp only [bind, Except.bind]
    | ok command =>
      simp only [bind, Except.bind]
      exact runOn_liftExcept _ _

end Stages

/-! ### The faults of the stages -/

section Faults
variable {console : Option Console} {workspace : Text} {content : Option Utf8.Bytes}
  {environment : Environment} {fault : Fault}

/-- The command line that the environment gives. -/
def overridingLine (environment : Environment) : Text :=
  Text.strip ((environment.get? commandVariable).getD [])

/-- A key can be one of settings if it is a text, be it a broken one, which names no setting. -/
def IsKey (key : Value) : Prop := (∃ text, key = .text text) ∨ ∃ points, key = .brokenText points

/-- The faults of a document that are none of configuration. -/
inductive Unreadable : Yaml.Fault → Fault → Prop where
  | notUtf8 : Unreadable .notUtf8 .notUtf8
  | scalar (inner : Yaml.ScalarFault) (mark : Yaml.Mark) :
      Unreadable (.scalar inner mark) (.scalar inner)
  | tooDeep : Unreadable .tooDeep .tooDeep

/-- The faults of settings that are none of configuration, each with what it comes from. -/
inductive Escapes (console : Option Console) (workspace : Text) (content : Option Utf8.Bytes)
    (environment : Environment) : Fault → Prop where
  | document {bytes : Utf8.Bytes} {refusal : Yaml.Fault} {fault : Fault}
      (there : content = some bytes)
      (refused : Yaml.load isOwnKey (.ofBytes bytes) = .error refusal)
      (unreadable : Unreadable refusal fault) :
      Escapes console workspace content environment fault
  | line {bytes : Utf8.Bytes} {entries : List (Value × Value)} {fault : Fault}
      (there : content = some bytes)
      (gives : entriesOf (Settings.path workspace).toText bytes = .ok entries)
      (unsaid : said console (loadedLine (Settings.path workspace)) = .error fault) :
      Escapes console workspace content environment fault
  | words {entries : List (Value × Value)} {inner : Shell.WordsFault}
      (gives : entriesSaid console workspace content = .ok entries)
      (unfinished : unfinished? (endOf (overridingLine environment)) = some inner) :
      Escapes console workspace content environment (.words inner)
  | keyNotText {entries : List (Value × Value)}
      (gives : entriesSaid console workspace content = .ok entries)
      (finished : unfinished? (endOf (overridingLine environment)) = none)
      (stray : ∃ entry ∈ entries, ¬ IsKey entry.1) :
      Escapes console workspace content environment .keyNotText

/-- A key that is no text keeps entries from being taken for settings. -/
theorem withTextKeys_eq_none_iff {entries : List (Value × Value)} :
    withTextKeys entries = none ↔ ∃ entry ∈ entries, ¬ IsKey entry.1 := by
  induction entries with
  | nil => simp [withTextKeys]
  | cons entry rest ih =>
    obtain ⟨key, value⟩ := entry
    cases key <;> simp [withTextKeys, IsKey, ih]

theorem overriding_eq (environment : Environment) :
    overriding environment =
      if overridingLine environment = [] then .ok none
      else match Shell.words (overridingLine environment) with
        | .ok words => .ok (some words)
        | .error fault => .error (.words fault) := rfl

theorem overriding_error_iff :
    overriding environment = .error fault ↔
      ∃ inner, fault = .words inner ∧
        unfinished? (endOf (overridingLine environment)) = some inner := by
  rw [overriding_eq]
  by_cases empty : overridingLine environment = []
  · rw [if_pos empty, empty]
    simp [endOf, unfinished?]
  · rw [if_neg empty]
    simp only [← words_error_iff]
    cases Shell.words (overridingLine environment) with
    | ok words => simp
    | error inner => simp [eq_comm]

/-- A fault of the entries is one of configuration, or comes from the document. -/
theorem kind_of_entriesOf {path : Text} {bytes : Utf8.Bytes}
    (fails : entriesOf path bytes = .error fault) :
    (∃ own, fault = .settings path own) ∨
      ∃ refusal, Yaml.load isOwnKey (.ofBytes bytes) = .error refusal ∧
        Unreadable refusal fault := by
  revert fails
  fun_cases entriesOf path bytes with
  | case1 refusal refused =>
    rintro ⟨⟩
    cases refusal with
    | notUtf8 => exact .inr ⟨_, refused, .notUtf8⟩
    | malformed malformation => exact .inl ⟨_, rfl⟩
    | scalar inner mark => exact .inr ⟨_, refused, .scalar inner mark⟩
    | tooDeep => exact .inr ⟨_, refused, .tooDeep⟩
  | case2 | case3 => simp
  | case4 =>
    rintro ⟨⟩
    exact .inl ⟨_, rfl⟩

theorem entriesOf_of_unreadable {path : Text} {bytes : Utf8.Bytes} {refusal : Yaml.Fault}
    (refused : Yaml.load isOwnKey (.ofBytes bytes) = .error refusal)
    (unreadable : Unreadable refusal fault) : entriesOf path bytes = .error fault := by
  rw [entriesOf, refused]
  cases unreadable <;> rfl

/-- A fault of putting the settings together is one of configuration, or comes from a key. -/
theorem kind_of_combine {path : Text} {entries : List (Value × Value)}
    {command : Option (List Text)} (fails : combine path entries command = .error fault) :
    (∃ own, fault = .settings path own) ∨ fault = .keyNotText ∧ withTextKeys entries = none := by
  revert fails
  fun_cases combine path entries command with
  | case1 stray =>
    rintro ⟨⟩
    exact .inr ⟨rfl, stray⟩
  | case2 => simp
  | case3 =>
    rintro ⟨⟩
    exact .inl ⟨_, rfl⟩

/-- Every fault of the stages is one of configuration, or has one of the other causes. -/
theorem kind_of_settingsOf
    (fails : settingsOf console workspace content environment = .error fault) :
    (∃ own, fault = .settings (Settings.path workspace).toText own) ∨
      Escapes console workspace content environment fault := by
  simp only [settingsOf, bind, Except.bind] at fails
  cases gives : entriesSaid console workspace content with
  | error first =>
    rw [gives] at fails
    cases fails
    cases content with
    | none => cases gives
    | some bytes =>
      simp only [entriesSaid, bind, Except.bind] at gives
      cases document : entriesOf (Settings.path workspace).toText bytes with
      | error inner =>
        rw [document] at gives
        cases gives
        rcases kind_of_entriesOf document with own | ⟨refusal, refused, unreadable⟩
        · exact .inl own
        · exact .inr (.document rfl refused unreadable)
      | ok entries =>
        rw [document] at gives
        cases line : said console (loadedLine (Settings.path workspace)) with
        | ok _ => simp [line, pure, Except.pure] at gives
        | error inner =>
          simp only [line, Except.error.injEq] at gives
          exact .inr (.line rfl document (gives ▸ line))
  | ok entries =>
    rw [gives] at fails
    dsimp only at fails
    cases overridden : overriding environment with
    | error inner =>
      rw [overridden] at fails
      cases fails
      obtain ⟨inner, rfl, unfinished⟩ := overriding_error_iff.mp overridden
      exact .inr (.words gives unfinished)
    | ok command =>
      rw [overridden] at fails
      rcases kind_of_combine fails with own | ⟨rfl, stray⟩
      · exact .inl own
      · refine .inr (.keyNotText gives ?_ (withTextKeys_eq_none_iff.mp stray))
        by_contra unfinished
        obtain ⟨inner, unfinished⟩ := Option.ne_none_iff_exists'.mp unfinished
        rw [overriding_error_iff.mpr ⟨inner, rfl, unfinished⟩] at overridden
        cases overridden

/-- Each of the other causes is enough. -/
theorem settingsOf_of_escapes (escapes : Escapes console workspace content environment fault) :
    settingsOf console workspace content environment = .error fault := by
  simp only [settingsOf, bind, Except.bind]
  cases escapes with
  | document there refused unreadable =>
    subst there
    simp only [entriesSaid, bind, Except.bind, entriesOf_of_unreadable refused unreadable]
  | line there gives unsaid =>
    subst there
    simp only [entriesSaid, bind, Except.bind, gives, unsaid]
  | words gives unfinished =>
    simp only [gives, overriding_error_iff.mpr ⟨_, rfl, unfinished⟩]
  | keyNotText gives finished stray =>
    simp only [gives]
    cases overridden : overriding environment with
    | error inner =>
      obtain ⟨inner, rfl, unfinished⟩ := overriding_error_iff.mp overridden
      rw [finished] at unfinished
      cases unfinished
    | ok command =>
      dsimp only
      rw [combine, withTextKeys_eq_none_iff.mpr stray]

/-- None of the other causes gives a fault of configuration. -/
theorem not_settings_of_escapes (escapes : Escapes console workspace content environment fault)
    (path : Text) (own : SettingsFault) : fault ≠ .settings path own := by
  cases escapes with
  | document _ _ unreadable => cases unreadable <;> nofun
  | line _ _ unsaid =>
    obtain ⟨inner, rfl⟩ := said_error unsaid
    nofun
  | words _ _ => nofun
  | keyNotText _ _ _ => nofun

/-- A settings file is called no UTF-8 only if it is none. -/
theorem decode?_of_escapes (escapes : Escapes console workspace content environment .notUtf8) :
    ∃ bytes, content = some bytes ∧ Utf8.decode? bytes = none := by
  cases escapes with
  | document there refused unreadable =>
    cases unreadable
    exact ⟨_, there, DocumentBytes.decode?_of_load refused⟩
  | line _ _ unsaid =>
    obtain ⟨inner, same⟩ := said_error unsaid
    cases same

/-- A settings file that is no UTF-8 and fits into the first block is called so. -/
theorem escapes_of_short {bytes : Utf8.Bytes} (there : content = some bytes)
    (damaged : Utf8.decode? bytes = none) (short : bytes.length ≤ Yaml.Source.firstBlock) :
    Escapes console workspace content environment .notUtf8 :=
  .document there (DocumentBytes.load_of_short damaged short) .notUtf8

end Faults

/-- Whatever the settings file holds, or if there is none, and whatever the variable is, loading
settings prints at most. It gives settings or a fault of configuration that names the settings file,
except for the faults of the other causes, each of which it gives exactly if its cause is there. A
settings file that is no UTF-8 is such a cause if it fits into the first block that is read, and
only such a file is called no UTF-8. -/
theorem load_settings_or_fault {machine : Machine} {workspace : Text}
    {content : Option Utf8.Bytes} (holds : Holds machine workspace content)
    (console : Option Console) :
    ∃ output result, (load console workspace).runOn machine = (result, { machine with output }) ∧
      (((∃ settings, result = .ok settings) ∨
          ∃ own, result = .error (.settings (Settings.path workspace).toText own)) ↔
        ¬ ∃ fault, Escapes console workspace content machine.environment fault) ∧
      (∀ fault, (∀ own, fault ≠ .settings (Settings.path workspace).toText own) →
        (result = .error fault ↔ Escapes console workspace content machine.environment fault)) ∧
      (result = .error .notUtf8 → ∃ bytes, content = some bytes ∧ Utf8.decode? bytes = none) ∧
      ∀ bytes, content = some bytes → Utf8.decode? bytes = none →
        bytes.length ≤ Yaml.Source.firstBlock → result = .error .notUtf8 := by
  obtain ⟨output, ran⟩ := runOn_load console holds
  refine ⟨output, _, ran, ⟨?_, fun none => ?_⟩, fun fault other => ⟨fun fails => ?_, ?_⟩,
    fun fails => ?_, fun bytes there damaged short => ?_⟩
  · rintro given ⟨fault, escapes⟩
    rw [settingsOf_of_escapes escapes] at given
    rcases given with ⟨settings, gives⟩ | ⟨own, gives⟩
    · cases gives
    · exact not_settings_of_escapes escapes _ own (Except.error.inj gives)
  · cases result : settingsOf console workspace content machine.environment with
    | ok settings => exact .inl ⟨settings, rfl⟩
    | error fault =>
      rcases kind_of_settingsOf result with ⟨own, rfl⟩ | escapes
      · exact .inr ⟨own, rfl⟩
      · exact absurd ⟨fault, escapes⟩ none
  · rcases kind_of_settingsOf fails with ⟨own, same⟩ | escapes
    · exact absurd same (other own)
    · exact escapes
  · exact settingsOf_of_escapes
  · rcases kind_of_settingsOf fails with ⟨own, same⟩ | escapes
    · cases same
    · exact decode?_of_escapes escapes
  · exact settingsOf_of_escapes (escapes_of_short there damaged short)

/-- A file in a workspace and a variable, as a machine. -/
def workspaceWith (content : Utf8.Bytes) (line : Text) : Machine where
  files := { entries := [([['w']], .directory), ([['w'], fileName], .file content)] }
  directory := []
  environment := [(commandVariable, line)]

/-- A file of one setting and a variable of two words give settings, so no other cause is there. -/
theorem load_settings_or_fault_of_two_words :
    let content := Utf8.encode "launch_timeout: 5".toList
    let machine := workspaceWith content "a 'b c'".toList
    Holds machine ['w'] (some content) ∧
      ((load none ['w']).runOn machine).1 = .ok ⟨["a".toList, "b c".toList], 5⟩ ∧
      ¬ ∃ fault, Escapes none ['w'] (some content) machine.environment fault := by
  intro content machine
  have holds : Holds machine ['w'] (some content) := read_iff.mp (by decide +kernel)
  have loads : ((load none ['w']).runOn machine).1 = .ok ⟨["a".toList, "b c".toList], 5⟩ := by
    decide +kernel
  obtain ⟨output, result, ran, config, _⟩ := load_settings_or_fault holds none
  rw [ran] at loads
  refine ⟨holds, by rw [ran]; exact loads, config.mp (.inl ⟨_, loads⟩)⟩

/-- A byte that is no UTF-8, a key that is no text, a text for an integer, and a quotation without
an end: each gives a fault that is none of configuration. -/
theorem load_without_settings_or_config_fault :
    let load (content : Utf8.Bytes) (line : Text) : Except Fault Settings :=
      ((Settings.load none ['w']).runOn (workspaceWith content line)).1
    load [0xff] [] = .error .notUtf8 ∧
      load (Utf8.encode "1: 2".toList) [] = .error .keyNotText ∧
      load (Utf8.encode "launch_timeout: !!int x".toList) [] =
        .error (.scalar (.numeral (.notANumeral 10 ['x']))) ∧
      load [] "'x".toList = .error (.words .noClosingQuotation) := by
  decide +kernel

end DebugLaunch.SettingsEnding
