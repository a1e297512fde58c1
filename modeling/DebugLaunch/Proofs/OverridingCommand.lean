import DebugLaunch.Proofs.CommandWords

/-! A command that the environment gives in place of the one of the settings file. Once the white
space at the ends of its variable is dropped and the rest is cut into words, these words are put
behind the entries of the file, so that they are the last to be given for their key and the file's
own command is not even looked at. So the settings are valid or not by their time alone. A variable
of white space gives no command, and loading does then all that it does without the variable. -/
namespace DebugLaunch.OverridingCommand
open DebugLaunch.Action Settings SettingsEnding SettingsFindings CommandWords CommandLineRuns

/-- What a settings file gives where its document is empty or a mapping whose keys are texts. An
entry whose key is a broken text gives nothing, and neither does a file that is missing. -/
inductive Gives : Option Utf8.Bytes → List (Text × Value) → Prop where
  | missing : Gives none []
  | empty {bytes : Utf8.Bytes} {value : Value}
      (loads : Yaml.load isOwnKey (.ofBytes bytes) = .ok value) (isEmpty : value.isEmpty = true) :
      Gives (some bytes) []
  | mapping {bytes : Utf8.Bytes} {pairs : List (Value × Value)} {entries : List (Text × Value)}
      (loads : Yaml.load isOwnKey (.ofBytes bytes) = .ok (.mapping pairs))
      (keyed : (pairs.filter fun pair => !pair.1.isBroken) =
        entries.map fun entry => (.text entry.1, entry.2)) :
      Gives (some bytes) entries

/-- The entries but those that give a command. -/
def withoutCommand (entries : List (Text × Value)) : List (Text × Value) :=
  entries.filter fun entry => entry.1 != Field.launchCommand.key

/-- What is loaded has these words for its command, and is valid exactly if the entries without
theirs are, with the same time and the same findings, which are all that the entries have about the
time. -/
structure Replaced (path : Text) (entries : List (Text × Value)) (words : List Text)
    (loaded : Except Fault Settings) : Prop where
  something : words ≠ []
  succeeds : (∃ settings, loaded = .ok settings) ↔
    ∃ valid, ofEntries (withoutCommand entries) = .ok valid
  gives : ∀ settings, loaded = .ok settings → settings.launchCommand = words ∧
    ∀ valid, ofEntries (withoutCommand entries) = .ok valid →
      settings.launchTimeout = valid.launchTimeout
  fails : ∀ fault, loaded = .error fault → ∃ findings,
    fault = .settings path (.invalid findings) ∧
      ofEntries (withoutCommand entries) = .error findings ∧
      findings = (findingsOf (ofEntries entries)).filter fun finding =>
        finding.field = .launchTimeout

/-! ### The entries -/

section Entries
variable {entries : List (Text × Value)} {given : Option Value} {findings : List Finding}

/-- Without a command the settings have none, and the time is left to the entries. -/
theorem ofEntries_withoutCommand (entries : List (Text × Value)) :
    ofEntries (withoutCommand entries) =
      (timeout (given? entries .launchTimeout)).map fun seconds => ⟨[], seconds⟩ := by
  have same : ∀ field, given? (withoutCommand entries) field =
      if field.key != Field.launchCommand.key then given? entries field else none :=
    fun field => given?_filter (· != Field.launchCommand.key) entries field
  rw [ofEntries, same, same, if_neg (by decide), if_pos (by decide)]
  cases timeout (given? entries .launchTimeout) <;> rfl

theorem field_of_itemsFrom {index : Nat} {items : List Value}
    (fails : itemsFrom index items = .error findings) :
    ∀ finding ∈ findings, finding.field = .launchCommand := by
  induction items generalizing index findings with
  | nil => cases fails
  | cons item rest ih =>
    rw [itemsFrom] at fails
    cases others : itemsFrom (index + 1) rest with
    | ok texts =>
      rw [others] at fails
      cases read : itemText item with
      | ok text =>
        rw [read] at fails
        cases fails
      | error problem =>
        rw [read] at fails
        cases fails
        simp
    | error more =>
      have later := ih others
      rw [others] at fails
      cases read : itemText item with
      | ok text =>
        rw [read] at fails
        cases fails
        exact later
      | error problem =>
        rw [read] at fails
        cases fails
        exact List.forall_mem_cons.mpr ⟨rfl, later⟩

/-- All that is found about a command names it. -/
theorem field_of_command {finding : Finding} (inside : finding ∈ findingsOf (command given)) :
    finding.field = .launchCommand := by
  cases fails : command given with
  | ok words =>
    rw [fails] at inside
    cases inside
  | error findings =>
    rw [fails] at inside
    revert fails
    fun_cases command given with
    | case1 => nofun
    | case2 items => exact fun fails => field_of_itemsFrom fails _ inside
    | case3 items => exact fun fails => field_of_itemsFrom fails _ inside
    | case4 value =>
      rintro ⟨⟩
      rw [List.mem_singleton.mp inside]

/-- All that is found about a time names it. -/
theorem field_of_timeout {finding : Finding} (inside : finding ∈ findingsOf (timeout given)) :
    finding.field = .launchTimeout := by
  cases given with
  | none => cases inside
  | some value =>
    rw [timeout] at inside
    cases reads : integer value with
    | error problem =>
      simp only [reads, findingsOf, List.mem_singleton] at inside
      rw [inside]
    | ok seconds =>
      simp only [reads] at inside
      split at inside
      · cases inside
      · simp only [findingsOf, List.mem_singleton] at inside
        rw [inside]

/-- What is found about the time is left where the findings about the command are dropped. -/
theorem filter_findingsOf (entries : List (Text × Value)) :
    (findingsOf (ofEntries entries)).filter (fun finding => finding.field = .launchTimeout) =
      findingsOf (timeout (given? entries .launchTimeout)) := by
  cases reads : ofEntries entries with
  | ok settings =>
    rw [(ofEntries_eq_ok_iff.mp reads).2]
    rfl
  | error findings =>
    have dropped : (findingsOf (command (given? entries .launchCommand))).filter
        (fun finding => finding.field = .launchTimeout) = [] := by
      apply List.filter_eq_nil_iff.mpr
      intro finding inside
      simp [field_of_command inside]
    have kept : (findingsOf (timeout (given? entries .launchTimeout))).filter
        (fun finding => finding.field = .launchTimeout) =
          findingsOf (timeout (given? entries .launchTimeout)) := by
      apply List.filter_eq_self.mpr
      intro finding inside
      simp [field_of_timeout inside]
    rw [findings_of_ofEntries reads, findingsOf, List.filter_append, dropped, kept,
      List.nil_append]

/-- The words of a command behind the entries of a file replace what those give. -/
theorem replaced_of_combine {path : Text} {words : List Text} (something : words ≠ [])
    {pairs : List (Value × Value)} (keyed : withTextKeys pairs = some entries)
    {loaded : Except Fault Settings} (loads : loaded = combine path pairs (some words)) :
    Replaced path entries words loaded := by
  have time := filter_findingsOf entries
  have without := ofEntries_withoutCommand entries
  rw [combine_command keyed] at loads
  cases given : timeout (given? entries .launchTimeout) with
  | ok seconds =>
    rw [given] at loads without
    have valid : ofEntries (withoutCommand entries) = .ok ⟨[], seconds⟩ := without
    obtain rfl : loaded = .ok ⟨words, seconds⟩ := loads
    refine ⟨something, iff_of_true ⟨_, rfl⟩ ⟨_, valid⟩, ?_, by simp⟩
    rintro settings ⟨⟩
    refine ⟨rfl, fun other gives => ?_⟩
    rw [valid] at gives
    cases gives
    rfl
  | error findings =>
    rw [given] at loads without time
    have invalid : ofEntries (withoutCommand entries) = .error findings := without
    obtain rfl : loaded = .error (.settings path (.invalid findings)) := loads
    refine ⟨something, iff_of_false (by simp) ?_, by simp, ?_⟩
    · rintro ⟨valid, gives⟩
      rw [invalid] at gives
      cases gives
    · rintro fault ⟨⟩
      exact ⟨findings, rfl, invalid, time.symm⟩

end Entries

/-! ### The variable -/

section Variable
variable {environment : Environment} {line : Text} {words : List Text}

theorem not_isSeparator {c : Char} (kept : Text.isBlank c = false) :
    Shell.isSeparator c = false := by
  by_contra separates
  have which : ((c = ' ' ∨ c = '\t') ∨ c = '\r') ∨ c = '\n' := by
    simpa only [Shell.isSeparator, Bool.not_eq_false, Bool.or_eq_true, decide_eq_true_eq]
      using separates
  rcases which with ((rfl | rfl) | rfl) | rfl <;> cases kept

/-- A variable that is not blank gives the words of what stands between the white space at its ends,
of which there is at least one. -/
theorem overriding_of_line (set : environment.get? commandVariable = some line)
    (nonblank : ∃ c ∈ line, Text.isBlank c = false)
    (splits : Shell.words (Text.strip line) = .ok words) :
    overriding environment = .ok (some words) ∧ words ≠ [] := by
  obtain ⟨c, inside, kept⟩ := nonblank
  have stays : c ∈ Text.strip line := Text.mem_trim inside kept
  have same : overridingLine environment = Text.strip line := by
    rw [overridingLine, set]
    rfl
  refine ⟨?_, words_ne_nil stays (not_isSeparator kept) splits⟩
  rw [overriding_eq, same, if_neg (List.ne_nil_of_mem stays), splits]

/-- A variable of white space gives no command, just as one that is not set. -/
theorem overriding_of_blank (blank : ∀ c ∈ (environment.get? commandVariable).getD [],
      Text.isBlank c = true) : overriding environment = .ok none := by
  have nothing : overridingLine environment = [] := Text.strip_eq_nil_iff.mpr blank
  rw [overriding_eq, if_pos nothing]

end Variable

/-! ### Loading -/

section Loading
variable {console : Option Console} {workspace : Text} {content : Option Utf8.Bytes}
  {entries : List (Text × Value)} {machine : Machine} {environment : Environment}
  {words : List Text}

theorem entriesOf_of_gives {bytes : Utf8.Bytes} (gives : Gives (some bytes) entries) (path : Text) :
    ∃ pairs, entriesOf path bytes = .ok pairs ∧ withTextKeys pairs = some entries := by
  cases gives with
  | empty loads isEmpty =>
    refine ⟨[], ?_, rfl⟩
    rw [entriesOf, loads]
    exact if_pos isEmpty
  | @mapping _ pairs _ loads keyed =>
    refine ⟨pairs, ?_, withTextKeys_eq_some_iff.mpr keyed⟩
    rw [entriesOf, loads]
    dsimp only
    split
    · rename_i isEmpty
      have nothing : pairs = [] := by simpa [Value.isEmpty] using isEmpty
      rw [nothing]
    · rfl

/-- What a settings file gives is what is read from it, where all keys are texts. -/
theorem gives_iff {bytes : Utf8.Bytes} (path : Text) :
    Gives (some bytes) entries ↔
      (entriesOf path bytes).toOption.bind withTextKeys = some entries := by
  constructor
  · intro gives
    obtain ⟨pairs, reads, keyed⟩ := entriesOf_of_gives gives path
    rw [reads]
    exact keyed
  · fun_cases entriesOf path bytes with
    | case1 => simp [Except.toOption]
    | case2 value loads isEmpty =>
      rintro ⟨⟩
      exact .empty loads isEmpty
    | case3 pairs loads =>
      intro texts
      exact .mapping loads (withTextKeys_eq_some_iff.mp texts)
    | case4 => simp [Except.toOption]

theorem entriesSaid_of_gives (gives : Gives content entries)
    (shown : content ≠ none → said console (loadedLine (Settings.path workspace)) = .ok ()) :
    ∃ pairs, entriesSaid console workspace content = .ok pairs ∧
      withTextKeys pairs = some entries := by
  cases content with
  | none =>
    cases gives
    exact ⟨[], rfl, rfl⟩
  | some bytes =>
    obtain ⟨pairs, reads, keyed⟩ := entriesOf_of_gives gives (Settings.path workspace).toText
    refine ⟨pairs, ?_, keyed⟩
    rw [entriesSaid, reads, shown (by simp)]
    rfl

/-- The settings of a file and a command that replaces its own. -/
theorem replaced_of_settingsOf (gives : Gives content entries)
    (shown : content ≠ none → said console (loadedLine (Settings.path workspace)) = .ok ())
    (overridden : overriding environment = .ok (some words)) (something : words ≠ []) :
    Replaced (Settings.path workspace).toText entries words
      (settingsOf console workspace content environment) := by
  obtain ⟨pairs, said, keyed⟩ := entriesSaid_of_gives gives shown
  apply replaced_of_combine something keyed
  rw [settingsOf, said]
  show overriding environment >>= _ = _
  rw [overridden]
  rfl

/-- Until the variable is looked at, loading is the same in every environment. -/
theorem unaware_fileEntries (console : Option Console) (workspace : Text) :
    Unaware (fileEntries console workspace) := by
  have lift : ∀ {α : Type} (result : Except Fault α), Unaware (load.liftExcept result) := by
    intro α result
    cases result with
    | ok value => exact unaware_pure value
    | error fault => exact unaware_throw fault
  refine unaware_bind (unaware_bind (unaware_askFiles _) fun _ => unaware_pure _) fun isThere => ?_
  split
  · refine unaware_bind (unaware_askFiles _) fun _ => ?_
    refine unaware_bind (lift _) fun _ => ?_
    exact unaware_bind (unaware_say _ _) fun _ => unaware_pure _
  · exact unaware_pure _

/-- The command and the settings are put together from what has been read. -/
theorem runOn_combining (path : Text) (found : List (Value × Value)) (machine : Machine) :
    (do
      let command ← load.liftExcept (overriding (← ask Machine.environment))
      load.liftExcept (combine path found command) : Action Settings).runOn machine =
      (overriding machine.environment >>= combine path found, machine) := by
  rw [runOn_bind, runOn_ask]
  dsimp only
  rw [runOn_bind, runOn_liftExcept]
  cases overriding machine.environment with
  | error fault => rfl
  | ok command => exact runOn_liftExcept _ _

/-- Environments that give the same command, or none, are the same to loading. -/
theorem runOn_load_congr (same : overriding environment = overriding machine.environment)
    (console : Option Console) (workspace : Text) :
    (load console workspace).runOn { machine with environment } =
      (((load console workspace).runOn machine).1,
        { ((load console workspace).runOn machine).2 with environment }) := by
  rw [loadSettings_eq, runOn_bind, runOn_bind, unaware_fileEntries]
  rcases ran : (fileEntries console workspace).runOn machine with ⟨fault | found, middle⟩
  · rfl
  · obtain ⟨output, rfl⟩ := after_of_onlyPrints (onlyPrints_fileEntries _ _) ran
    dsimp only
    -- of the environment only the command is used from here on
    rw [runOn_combining, runOn_combining, same]

end Loading

/-- The command of the environment. A variable of white space makes no difference to loading. One
that is not blank gives the words of what it holds between the white space at its ends, which are
those of the whole where only separators are dropped. They replace the command of every settings
file that is empty or a mapping whose keys are texts, once the line about that file can be shown. -/
theorem override_replaces_command {machine : Machine} {line : Text}
    (set : machine.environment.get? commandVariable = some line)
    (console : Option Console) (workspace : Text) :
    ((∀ c ∈ line, Text.isBlank c = true) →
      let environment := machine.environment.unset commandVariable
      (load console workspace).runOn { machine with environment } =
        (((load console workspace).runOn machine).1,
          { ((load console workspace).runOn machine).2 with environment })) ∧
    ((∃ c ∈ line, Text.isBlank c = false) →
      ∀ words, Shell.words (Text.strip line) = .ok words →
        (∀ front behind, line = front ++ Text.strip line ++ behind →
          (∀ c ∈ front ++ behind, Shell.isSeparator c = true) → Shell.words line = .ok words) ∧
        ∀ content entries, Holds machine workspace content → Gives content entries →
          (content ≠ none → said console (loadedLine (Settings.path workspace)) = .ok ()) →
            Replaced (Settings.path workspace).toText entries words
              ((load console workspace).runOn machine).1) := by
  refine ⟨fun blank => ?unset, fun nonblank words splits => ⟨?whole, ?replaced⟩⟩
  case unset =>
    have alone : overriding (machine.environment.unset commandVariable) = .ok none := by
      apply overriding_of_blank
      rw [Environment.get?_unset_self]
      simp
    have same : overriding machine.environment = .ok none := by
      apply overriding_of_blank
      rwa [set]
    exact runOn_load_congr (alone.trans same.symm) console workspace
  case whole =>
    intro front behind parts separators
    rw [parts]
    exact words_among_separators separators splits
  case replaced =>
    intro content entries holds gives shown
    obtain ⟨output, ran⟩ := runOn_load console holds
    obtain ⟨overridden, something⟩ := overriding_of_line set nonblank splits
    rw [ran]
    exact replaced_of_settingsOf gives shown overridden something

/-- A variable of two quotes gives one empty word in place of a command that is no list, and the
time of the file stays. One of a tab leaves the file as it is, so that its command is refused. -/
theorem override_replaces_command_of_quotes :
    let content := Utf8.encode "launch_command: 5\nlaunch_timeout: '7'".toList
    let machine := workspaceWith content "''".toList
    let blank := workspaceWith content ['\t']
    Holds machine ['w'] (some content) ∧
      ((load none ['w']).runOn machine).1 = .ok ⟨[[]], 7⟩ ∧
      ((load none ['w']).runOn
          { blank with environment := blank.environment.unset commandVariable }).1 =
        ((load none ['w']).runOn blank).1 ∧
      ((load none ['w']).runOn blank).1 =
        .error (.settings "w/.rdlauncher.yaml".toList (.invalid
          [⟨.launchCommand, none, .notAList, ⟨['5'], "int".toList⟩⟩])) := by
  intro content machine blank
  have holds : Holds machine ['w'] (some content) := PlaceWalk.read_iff.mp (by decide +kernel)
  have found : ((entriesOf [] content).toOption.bind withTextKeys).map
      (fun entries => ofEntries (withoutCommand entries)) = some (.ok ⟨[], 7⟩) := by
    decide +kernel
  obtain ⟨entries, reads, valid⟩ := Option.map_eq_some_iff.mp found
  have mapping : Gives (some content) entries := (gives_iff []).mpr reads
  have quotes : machine.environment.get? commandVariable = some "''".toList := rfl
  have tab : blank.environment.get? commandVariable = some ['\t'] := rfl
  have unset := (override_replaces_command tab none ['w']).1
    (List.forall_mem_singleton.mpr (by decide))
  obtain ⟨_, replaced⟩ := (override_replaces_command quotes none ['w']).2
    ⟨'\'', by decide, by decide +kernel⟩ [[]] (by decide +kernel)
  have became := replaced _ _ holds mapping fun _ => rfl
  obtain ⟨⟨command, time⟩, loads⟩ := became.succeeds.mpr ⟨_, valid⟩
  obtain ⟨rfl, same⟩ := became.gives _ loads
  obtain rfl := same _ valid
  have alike := congrArg Prod.fst unset
  exact ⟨holds, loads, alike, by decide +kernel⟩

/-- Dropping white space comes before cutting into words. So a space behind a backslash is dropped,
and the backslash then stands alone, and a blank that is no separator is dropped from a word. And
where the line about the file cannot be shown, settings that are valid are not loaded. -/
theorem override_loses_escaped_blank :
    let marked := "w[/]".toList
    let machine : Machine := {
      files := { entries := [([['w', '[']], .directory), ([['w', '['], [']']], .directory),
        ([['w', '['], [']'], fileName], .file [])] }
      directory := []
      environment := [(commandVariable, ['a'])] }
    let loaded (line : Text) : Except Fault Settings :=
      ((load none ['w']).runOn (workspaceWith [] line)).1
    (Shell.words "a\\ ".toList = .ok ["a ".toList] ∧
        loaded "a\\ ".toList = .error (.words .noEscapedCharacter)) ∧
      (Shell.words "a\u00a0".toList = .ok ["a\u00a0".toList] ∧
        loaded "a\u00a0".toList = .ok ⟨[['a']], 30⟩) ∧
      ((load none marked).runOn machine).1 = .ok ⟨[['a']], 30⟩ ∧
      ((load (some ⟨80⟩) marked).runOn machine).1 = .error (.markup .nothingToClose) := by
  decide +kernel

end DebugLaunch.OverridingCommand
