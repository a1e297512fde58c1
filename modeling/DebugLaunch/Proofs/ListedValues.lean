import DebugLaunch.Proofs.AliasLookup
import DebugLaunch.Proofs.CandidateRows

/-! What the listings of tokens and candidates show. Their cells are marked up texts, so that a row
shows what its value renders to, and not always the value: where nothing in the value reads as
markup the two are the same, and where it has no colons only there. -/
namespace DebugLaunch.ListedValues
open DebugLaunch.Action Cli MarkupTags VerbatimMarkup TableLayout PrintedTables CommandLineRuns
  CandidateRows

/-- The class that options ask the tokens of, or all of them. -/
def Asks (options : Options) : Option TokenClass → Prop
  | none => options.lookup .aliasName = none
  | some tokenClass =>
    ∃ name, options.lookup .aliasName = some name ∧ Token.classOf? name = some tokenClass

/-- The tokens of a class, or of all of them. -/
def listed (selected : Option TokenClass) : List (TokenClass × Text) :=
  Token.table.filter fun (tokenClass, _) => selected.all (· = tokenClass)

/-- The rows of some tokens, with a value for each class. -/
def valueRows (tokens : List (TokenClass × Text)) (value : TokenClass → Text) : List (List Text) :=
  tokens.map fun (tokenClass, name) => [tokenClass.name, Token.written name, value tokenClass]

/-- The rows of some paths as they are shown, each with its number and a mark. -/
def pathRows (paths : List Path) (marks : List Bool) : List (List Text) :=
  (paths.zip marks).mapIdx fun index (path, present) =>
    [Text.ofNat (index + 1), shows path.toText, if present then ['✔'] else ['✘']]

/-- The headers of the table of tokens. -/
def tokenHeaders : List (Text × Option Nat) :=
  [("Clase".toList, none), ("Token".toList, none), ("Valor".toList, none)]

/-- The headers of the table of candidates, of which the first column has a fixed width. -/
def pathHeaders : List (Text × Option Nat) :=
  [(['#'], some 3), ("Ruta".toList, none), ("Existe".toList, none)]

/-! ### Tokens -/

section Tokens
variable {machine after : Machine} {options : Options} {context : Context}
  {selected : Option TokenClass}

theorem runOn_success_iff {action : Action Unit} :
    (do action; return Exit.success : Action Exit).runOn machine = (.ok .success, after) ↔
      action.runOn machine = (.ok (), after) := by
  rw [runOn_bind]
  rcases action.runOn machine with ⟨fault | _, middle⟩ <;> simp [runOn_pure]

theorem runOn_tokens_of_asks
    (selects : selected? machine.directory machine.environment options = some context)
    (asks : Asks options selected) :
    (Cli.tokens options).runOn machine = (AliasLookup.listing context selected).runOn machine := by
  cases selected with
  | some tokenClass =>
    obtain ⟨name, given, isClass⟩ := asks
    rw [AliasLookup.runOn_tokens selects given, isClass]
  | none =>
    have given : options.lookup .aliasName = none := asks
    rw [Cli.tokens, runOn_withContext, selects]
    dsimp only
    rw [given]
    rfl

/-- The name of a class and the written form of an alias are shown as they are. -/
theorem verbatim_of_mem_table : ∀ entry ∈ Token.table,
    Verbatim entry.1.name ∧ Verbatim (Token.written entry.2) := by
  have plain : ∀ entry ∈ Token.table, ∀ cell ∈ [entry.1.name, Token.written entry.2],
      Plain cell ∧ Visible cell := by
    decide +kernel
  intro entry member
  have cells := plain entry member
  rw [List.forall_mem_cons, List.forall_mem_singleton] at cells
  exact ⟨verbatim_of_plain cells.1.1 cells.1.2, verbatim_of_plain cells.2.1 cells.2.2⟩

/-- A table of values that has been printed has its values on one line each where they fit. -/
theorem tabulated_values {title : Text} {tokens : List (TokenClass × Text)}
    {value : TokenClass → Text} (printed : after = behind machine (Display.Table.draw
      machine.screen.width title (columnsOf tokenHeaders (valueRows tokens value)))) :
    Tabulated machine title tokenHeaders (valueRows tokens value) after := by
  refine ⟨printed, fun fits lines => draw_of_lines (by decide) (by decide) ?_ ?_ fits lines⟩
  · intro row inside
    obtain ⟨entry, _, rfl⟩ := List.mem_map.mp inside
    rfl
  · intro row inside
    obtain ⟨entry, _, rfl⟩ := List.mem_map.mp inside
    simp [tokenHeaders]

/-- The listing of tokens succeeds exactly if each value can be shown, and shows each of them next
to its class and its token. -/
theorem tokens_success_iff
    (selects : selected? machine.directory machine.environment options = some context)
    (asks : Asks options selected) :
    (Cli.tokens options).runOn machine = (.ok .success, after) ↔
      (∀ entry ∈ listed selected, Renders (context.value entry.1)) ∧
        Tabulated machine "Tokens".toList tokenHeaders
          (valueRows (listed selected) fun tokenClass => shows (context.value tokenClass))
          after := by
  have shown : (tokenRows context selected).map (List.map shows) =
      valueRows (listed selected) fun tokenClass => shows (context.value tokenClass) := by
    rw [tokenRows, valueRows, List.map_map]
    refine List.map_congr_left fun entry inside => ?_
    obtain ⟨name, written⟩ := verbatim_of_mem_table entry (List.mem_of_mem_filter inside)
    simp [shows_of_verbatim name, shows_of_verbatim written]
  have renders : (∀ row ∈ tokenRows context selected, ∀ cell ∈ row, Renders cell) ↔
      ∀ entry ∈ listed selected, Renders (context.value entry.1) := by
    rw [tokenRows, List.forall_mem_map]
    refine forall₂_congr fun entry inside => ?_
    obtain ⟨name, written⟩ := verbatim_of_mem_table entry (List.mem_of_mem_filter inside)
    simp only [List.forall_mem_cons, renders_of_verbatim name, renders_of_verbatim written,
      List.not_mem_nil, false_implies, implies_true, true_and, and_true]
  rw [runOn_tokens_of_asks selects asks, AliasLookup.listing, runOn_success_iff,
    runOn_printTable_iff, shown, renders]
  exact and_congr_right fun _ => ⟨tabulated_values, fun table => table.printed⟩

end Tokens

/-! ### Candidates -/

section Candidates
variable {machine after : Machine} {options : Options} {context : Context} {paths : List Path}
  {marks : List Bool}

/-- The rows of candidates are shown with the paths as they are shown. -/
theorem map_shows_markedRows :
    (markedRows paths marks).map (List.map shows) = pathRows paths marks := by
  rw [markedRows, pathRows]
  refine List.ext_getElem (by simp) fun index _ _ => ?_
  simp [candidateRow, shows_of_verbatim (verbatim_ofNat _), shows_of_render (render_mark _)]

/-- The listing of candidates succeeds exactly if each path is answered for and can be shown, and
shows each of them next to its mark. -/
theorem candidates_success_iff
    (selects : selected? machine.directory machine.environment options = some context) :
    (Cli.candidates options).runOn machine = (.ok .success, after) ↔
      (∀ path ∈ LaunchFile.candidates context.workspaceRoot context.projectRoot,
        Renders path.toText) ∧
      ∃ marks, Answered machine.files machine.directory
          (LaunchFile.candidates context.workspaceRoot context.projectRoot) marks ∧
        Tabulated machine "Candidatos".toList pathHeaders
          (pathRows (LaunchFile.candidates context.workspaceRoot context.projectRoot) marks)
          after := by
  rw [candidates_eq, runOn_withContext, selects]
  dsimp only
  constructor
  · intro ran
    obtain ⟨marks, answered, rows⟩ := of_listing ran
    rw [printRows, runOn_printTable_iff, map_shows_markedRows] at rows
    obtain ⟨renders, printed⟩ := rows
    refine ⟨(renders_markedRows answered.length_eq).mp renders, marks, answered, printed,
      fun fits lines => draw_of_lines (by decide) (by decide) ?_ ?_ fits lines⟩
    · intro row inside
      obtain ⟨index, bound, rfl⟩ := List.mem_mapIdx.mp inside
      rfl
    · intro row inside
      obtain ⟨index, bound, rfl⟩ := List.mem_mapIdx.mp inside
      have few : index < 3 := by
        rw [List.length_zip] at bound
        exact bound.trans_le (Nat.min_le_left ..)
      have number : ∀ index < 3, Text.width (Text.ofNat (index + 1)) ≤ 3 := by decide
      show ∀ pair ∈ pathHeaders.zip [Text.ofNat (index + 1), _, _], _
      simpa [pathHeaders] using number index few
  · rintro ⟨renders, marks, answered, table⟩
    have asked : ((LaunchFile.candidates context.workspaceRoot context.projectRoot).mapM
        isFile).runOn machine = (.ok marks, machine) :=
      (runOn_mapM_iff keeps_isFile).mpr ⟨rfl, answered.imp fun _ _ => runOn_isFile_iff.mpr⟩
    rw [listing, runOn_bind_of_ok asked, runOn_success_iff, printRows, runOn_printTable_iff,
      map_shows_markedRows]
    exact ⟨(renders_markedRows answered.length_eq).mpr renders, table.printed⟩

end Candidates

/-! ### Values and what is shown of them -/

/-- In a text, the token of a row becomes the value of its class. -/
theorem substitute_written (value : TokenClass → Text) :
    ∀ entry ∈ Token.table, Token.substitute value (Token.written entry.2) = value entry.1 := by
  have spells : ∀ entry ∈ Token.table, TokenSegments.Spells entry.1 entry.2 := by decide +kernel
  intro entry member
  have replaced := AliasLookup.substitute_token value (by simp : '%' ∉ []) (spells entry member) []
  have nothing : Token.substitute value [] = [] := by
    have noPieces : Token.pieces [] = [] := by decide +kernel
    rw [TokenSegments.substitute_eq, noPieces]
    rfl
  simpa [nothing] using replaced

/-- The listings of tokens and candidates show what the values and paths render to. Where a table
fits and its cells take one line each, it has one line for each row, and a cell is its text up to
blanks at the end. The value in the row of a token is what that token becomes in a text, and it is
shown as it is if there is nothing in it that reads as markup; of the values without colons no other
is. -/
theorem listings_show_rendered_values (machine : Machine) (options : Options) (context : Context)
    (selects : selected? machine.directory machine.environment options = some context) :
    (∀ selected after, Asks options selected →
      ((Cli.tokens options).runOn machine = (.ok .success, after) ↔
        (∀ entry ∈ listed selected, Renders (context.value entry.1)) ∧
          Tabulated machine "Tokens".toList tokenHeaders (valueRows (listed selected)
            fun tokenClass => shows (context.value tokenClass)) after)) ∧
      (∀ after, (Cli.candidates options).runOn machine = (.ok .success, after) ↔
        (∀ path ∈ LaunchFile.candidates context.workspaceRoot context.projectRoot,
          Renders path.toText) ∧
        ∃ marks, Answered machine.files machine.directory
            (LaunchFile.candidates context.workspaceRoot context.projectRoot) marks ∧
          Tabulated machine "Candidatos".toList pathHeaders
            (pathRows (LaunchFile.candidates context.workspaceRoot context.projectRoot) marks)
            after) ∧
      (∀ width cell, Text.trimRight Text.isBlank (laidOut width cell) =
        Text.trimRight Text.isBlank (' ' :: cell)) ∧
      (∀ entry ∈ Token.table,
        Token.substitute context.value (Token.written entry.2) = context.value entry.1) ∧
      (∀ text, Verbatim text → Renders text ∧ shows text = text) ∧
      ∀ text, ':' ∉ text → Renders text → shows text = text → Verbatim text := by
  refine ⟨fun selected after asks => tokens_success_iff selects asks,
    fun after => candidates_success_iff selects, trimRight_laidOut, substitute_written _,
    fun text verbatim => ⟨renders_of_verbatim verbatim, shows_of_verbatim verbatim⟩,
    fun text noColon renders same => ?_⟩
  exact (render_eq_self_iff noColon).mp (render_eq_ok_iff.mpr ⟨renders, same.symm⟩)

/-- The tokens of the name of a project. -/
private def nameTokens : List (TokenClass × Text) :=
  [(.projectName, "projectName".toList), (.projectName, "projName".toList)]

private theorem listed_name : listed (some .projectName) = nameTokens := by decide +kernel

/-- What is printed where the tokens of a name have been listed. -/
private theorem output_of_name {machine after : Machine} {context : Context} {shown : Text}
    {rows : List (List Text)} (isShown : shows (context.value .projectName) = shown)
    (rowsAre : valueRows nameTokens (fun _ => shown) = rows)
    (table : Tabulated machine "Tokens".toList tokenHeaders (valueRows (listed (some .projectName))
      fun tokenClass => shows (context.value tokenClass)) after)
    (fits : Fits machine.screen.width (columnsOf tokenHeaders rows))
    (lines : ∀ row ∈ rows, ∀ cell ∈ row, OneLine cell) :
    after.output = machine.output ++ Display.Wrap.joinLines
      (tableLines "Tokens".toList (columnsOf tokenHeaders rows) rows) := by
  have same : valueRows (listed (some .projectName))
      (fun tokenClass => shows (context.value tokenClass)) = rows := by
    rw [← rowsAre, ← isShown, listed_name]
    rfl
  rw [same] at table
  rw [table.printed, table.lined fits lines]
  rfl

/-- A name in which nothing reads as markup, for all its brackets: the table of its tokens has the
name in each row. -/
theorem listings_show_rendered_values_of_plain_name :
    let machine : Machine :=
      { files := { entries := [([['w']], .directory)] }, directory := [['w']] }
    let name : Text := "a [B]".toList
    let options : Options := [(.aliasName, "projName".toList), (.name, name), (.project, ['p'])]
    let rows : List (List Text) :=
      [["project_name".toList, "%projectName%".toList, name],
        ["project_name".toList, "%projName%".toList, name]]
    ∃ after, (Cli.tokens options).runOn machine = (.ok .success, after) ∧
      after.output = Display.Wrap.joinLines
        (tableLines "Tokens".toList (columnsOf tokenHeaders rows) rows) := by
  intro machine name options rows
  let context : Context := ⟨"/w".toList, "/w/p".toList, "/w".toList, "/w/p".toList, name⟩
  have selects : selected? machine.directory machine.environment options = some context := by
    decide +kernel
  have asks : Asks options (some .projectName) := ⟨_, rfl, by decide +kernel⟩
  have visible : Visible name := by decide
  have verbatim : Verbatim name :=
    ⟨by decide +kernel, by decide, replace_of_no_colon (by decide), fun c inside =>
      (visible c inside).2⟩
  obtain ⟨tokens, _, _, _, shown, _⟩ :=
    listings_show_rendered_values machine options context selects
  obtain ⟨renders, same⟩ := shown name verbatim
  have isShown : shows (context.value .projectName) = name := same
  refine ⟨_, (tokens (some .projectName) _ asks).mpr ⟨?_, tabulated_values rfl⟩,
    output_of_name isShown (by decide +kernel) (tabulated_values rfl) (by decide +kernel)
      (by decide +kernel)⟩
  rw [listed_name, nameTokens, List.forall_mem_cons, List.forall_mem_singleton]
  exact ⟨renders, renders⟩

/-- A name that begins with a tag: a table with the name fits, but the rows have it without the tag,
and there is no bracket in what is printed. The token of the row still becomes the whole name. -/
theorem tokens_lose_tag :
    let machine : Machine :=
      { files := { entries := [([['w']], .directory)] }, directory := [['w']] }
    let name : Text := "[red]x".toList
    let options : Options := [(.aliasName, "projName".toList), (.name, name), (.project, ['p'])]
    let rows : List (List Text) :=
      [["project_name".toList, "%projectName%".toList, ['x']],
        ["project_name".toList, "%projName%".toList, ['x']]]
    ∃ context after, selected? machine.directory machine.environment options = some context ∧
      context.value .projectName = name ∧
      Token.substitute context.value "%projName%".toList = name ∧
      Fits machine.screen.width (columnsOf tokenHeaders (tokenRows context (some .projectName))) ∧
      (Cli.tokens options).runOn machine = (.ok .success, after) ∧
      after.output = Display.Wrap.joinLines
        (tableLines "Tokens".toList (columnsOf tokenHeaders rows) rows) ∧
      '[' ∉ after.output := by
  intro machine name options rows
  let context : Context := ⟨"/w".toList, "/w/p".toList, "/w".toList, "/w/p".toList, name⟩
  have selects : selected? machine.directory machine.environment options = some context := by
    decide +kernel
  have asks : Asks options (some .projectName) := ⟨_, rfl, by decide +kernel⟩
  have renders : Display.Markup.render name = .ok ['x'] := by
    have shown : Display.Markup.shown ['x'] = ['x'] := by decide +kernel
    rw [← shown]
    exact render_unclosed styleTag_red (by decide +kernel)
  have isShown : shows (context.value .projectName) = ['x'] := shows_of_render renders
  have output := @output_of_name machine _ context ['x'] rows isShown (by decide +kernel)
    (tabulated_values rfl) (by decide +kernel) (by decide +kernel)
  refine ⟨context, _, selects, rfl, by decide +kernel, by decide +kernel,
    (tokens_success_iff selects asks).mpr ⟨?_, tabulated_values rfl⟩, output, ?_⟩
  · rw [listed_name, nameTokens, List.forall_mem_cons, List.forall_mem_singleton]
    exact ⟨⟨_, renders⟩, ⟨_, renders⟩⟩
  · rw [output]
    decide +kernel

end DebugLaunch.ListedValues
