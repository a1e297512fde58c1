import DebugLaunch.Proofs.EncodedText
import DebugLaunch.Proofs.PreparedFile
import DebugLaunch.Proofs.TokenSegments

/-! A template in which nothing is to be replaced is its own resolution. What is written for it are
its bytes, less one thing: a file is read with its line ends unified, so that a carriage return
does not come through. -/
namespace DebugLaunch.CopiedTemplate
open DebugLaunch.Action LaunchFile PlaceWalk LaunchFileSearch PreparedFile EncodedText
open TokenSegments (shown substitute_eq)

/-- A text has no token and refers to no variable that is set. -/
structure NothingReplaced (environment : Environment) (text : Text) : Prop where
  tokens : Token.occurrences text = []
  references : ∀ name source, .reference name source ∈ Reference.Dollar.pieces text →
    Reference.Dollar.value? environment name = none

/-! ### Resolving -/

section Resolving
variable {environment : Environment} {text : Text}

/-- Pieces among which no token is found stay as they are. -/
private theorem flatMap_shown_of_no_occurrence (value : TokenClass → Text) {offset : Nat}
    {pieces : List Token.Piece} (none : Token.occurrencesFrom offset pieces = []) :
    pieces.flatMap (shown value) = pieces.flatMap Token.Piece.source := by
  induction pieces generalizing offset with
  | nil => rfl
  | cons piece rest ih =>
    cases piece with
    | character c => rw [List.flatMap_cons, List.flatMap_cons, ih none, shown, Token.Piece.source]
    | token tokenClass spelling => cases none

theorem substitute_of_no_token (value : TokenClass → Text) (none : Token.occurrences text = []) :
    Token.substitute value text = text := by
  rw [substitute_eq, flatMap_shown_of_no_occurrence value none, Token.sources_pieces]

theorem expand_of_no_reference (unset : ∀ name source,
      .reference name source ∈ Reference.Dollar.pieces text →
        Reference.Dollar.value? environment name = none) :
    Reference.expand .dollar environment text = text := by
  rw [Reference.expand, Reference.Dollar.expand]
  refine (List.flatMap_congr fun piece member => ?_).trans (Reference.Dollar.sources_pieces text)
  cases piece with
  | literal literal => rfl
  | reference name source => simp [unset name source member, Reference.Piece.source]

/-- A text in which nothing is to be replaced is its own resolution. -/
theorem resolve_of_nothing (context : Context) (plain : NothingReplaced environment text) :
    context.resolve .dollar environment text = text := by
  rw [Context.resolve, substitute_of_no_token context.value plain.tokens,
    expand_of_no_reference plain.references]

end Resolving

/-! ### Preparing -/

section Preparing
variable {console : Option Console} {environment : Environment} {context : Context}
  {machine : Machine} {directory : Place} {project : Text} {content : Utf8.Bytes}
  {before after : FileTree} {found : Path}

/-- Whether a content can be written does not depend on the content. -/
theorem writes_other (writes : Writes directory project content before after)
    (other : Utf8.Bytes) : ∃ files, Writes directory project other before files := by
  obtain ⟨made, ensured, wrote⟩ := writes
  obtain ⟨isOpen, notDirectory, _⟩ := (write_iff (outputPath_nonempty project)).mp wrote
  exact ⟨_, made, ensured, (write_iff (outputPath_nonempty project)).mpr
    ⟨isOpen, notDirectory, rfl⟩⟩

/-- A preparation succeeds exactly if the template can be read and something can be written. -/
theorem prepares_iff :
    (∃ path final, (prepareWith console environment context).runOn machine = (.ok path, final)) ↔
      (∃ text output, (template console context).runOn machine =
          (.ok text, { machine with output })) ∧
        ∃ other files, Writes machine.directory context.projectRoot other machine.files files := by
  constructor
  · rintro ⟨path, final, ran⟩
    obtain ⟨_, _, text, ⟨output, templated⟩, writes⟩ := runOn_prepareWith_iff.mp ⟨final, ran, rfl⟩
    exact ⟨⟨text, output, templated⟩, _, _, writes⟩
  · rintro ⟨⟨text, output, templated⟩, other, files, writes⟩
    obtain ⟨written, writesText⟩ := writes_other writes
      (Utf8.encode (context.resolve .dollar environment text))
    obtain ⟨final, ran, _⟩ := runOn_prepareWith_iff.mpr
      ⟨rfl, said_wrote_of_template templated, text, ⟨output, templated⟩, writesText⟩
    exact ⟨_, final, ran⟩

/-- A template of encoded text without a byte order mark, in which nothing is to be replaced as it
is read, is written byte for byte but with its line ends unified. So the output is the template
exactly if that has no carriage return; and it is written whenever the template can be read and
anything can be written. -/
theorem plain_template_copied_but_line_ends
    (first : FirstFile machine.files machine.directory
      (candidates context.workspaceRoot context.projectRoot) found content)
    (encoded : ∃ text, content = Utf8.encode text) (noMark : ¬ Utf8.mark <+: content)
    (plain : NothingReplaced environment (Utf8.readLenient content)) :
    (∀ path final, (prepareWith console environment context).runOn machine = (.ok path, final) →
      path = outputPath context.projectRoot ∧
      Written machine.directory context.projectRoot (unifyBytes content)
        machine.files final.files) ∧
    ((∃ path final,
        (prepareWith console environment context).runOn machine = (.ok path, final)) ↔
      (∃ text output, (template console context).runOn machine =
          (.ok text, { machine with output })) ∧
        ∃ other files, Writes machine.directory context.projectRoot other machine.files files) ∧
    (unifyBytes content = content ↔ 0x0D ∉ content) := by
  refine ⟨fun path final ran => ?_, prepares_iff, unifyBytes_eq_self_iff content⟩
  obtain ⟨rfl, _, read, templated, writes⟩ := runOn_prepareWith_iff.mp ⟨final, ran, rfl⟩
  obtain ⟨front, path, behind, held, whole, reaches, reads, rfl⟩ :=
    (runOn_template_iff machine).mp templated
  obtain ⟨rfl, rfl⟩ := firstFile_unique (whole ▸ firstFile_of_reaches reaches reads) first
  obtain ⟨text, rfl⟩ := encoded
  have written := written_of_writes writes
  rw [resolve_of_nothing context plain, readLenient_encode noMark, encode_unifyNewlines] at written
  exact ⟨rfl, written⟩

/-- A template of the workspace with an unknown alias and a reference to a variable that is not set
is copied into a project that is not there yet, and only its line end is another one. -/
theorem plain_template_copied_of_workspace :
    let environment : Environment := [("A".toList, "b".toList)]
    let context : Context :=
      ⟨"/w".toList, "/w/p".toList, "/w".toList, "/w/p".toList, "p".toList⟩
    let content := Utf8.encode "\u00e9%x%\r\n$B".toList
    let machine : Machine :=
      { files := { entries := [([['w']], .directory), ([['w'], fileName], .file content)] }
        directory := [] }
    NothingReplaced environment (Utf8.readLenient content) ∧ ¬ Utf8.mark <+: content ∧
      ∃ final, (prepareWith none environment context).runOn machine =
          (.ok (outputPath context.projectRoot), final) ∧
        final.files.lookup? [['w'], ['p'], outputName, fileName] =
          some (.file (Utf8.encode "\u00e9%x%\n$B".toList)) := by
  intro environment context content machine
  have plain : NothingReplaced environment (Utf8.readLenient content) := by
    refine ⟨by decide +kernel, ?_⟩
    have parts : Reference.Dollar.pieces (Utf8.readLenient content) =
        ("\u00e9%x%\n".toList.map fun c => .literal [c]) ++ [.reference ['B'] "$B".toList] := by
      decide +kernel
    intro name source member
    rw [parts, List.mem_append, List.mem_map, List.mem_singleton] at member
    rcases member with ⟨_, _, other⟩ | same
    · cases other
    · cases same
      decide
  have noMark : ¬ Utf8.mark <+: content := by decide
  have reaches : Reaches none machine.files []
      [((Path.ofText "/w/p".toList).child propertiesName).child fileName,
        (Path.ofText "/w/p".toList).child fileName]
      ((Path.ofText "/w".toList).child fileName) :=
    ⟨by decide, by decide, fun _ _ => rfl, rfl⟩
  have ran : (prepareWith none environment context).runOn machine =
      (.ok (outputPath context.projectRoot),
        ((prepareWith none environment context).runOn machine).2) :=
    runOn_of_result (by decide +kernel)
  have first : FirstFile machine.files [] (candidates context.workspaceRoot context.projectRoot)
      ((Path.ofText "/w".toList).child fileName) content :=
    firstFile_of_reaches reaches (by decide)
  obtain ⟨writes, _, _⟩ := plain_template_copied_but_line_ends first ⟨_, rfl⟩ noMark plain
  exact ⟨plain, noMark, _, ran, (writes _ _ ran).2.output⟩

/-- A template with a carriage return is not copied as it is, though nothing in it is replaced. -/
theorem plain_template_loses_return :
    let context : Context :=
      ⟨"/w".toList, "/w/p".toList, "/w".toList, "/w/p".toList, "p".toList⟩
    let content := Utf8.encode "a\r\n".toList
    let machine : Machine :=
      { files := { entries := [([['w']], .directory), ([['w'], fileName], .file content)] }
        directory := [] }
    NothingReplaced [] "a\r\n".toList ∧ ¬ Utf8.mark <+: content ∧
      FirstFile machine.files [] (candidates context.workspaceRoot context.projectRoot)
        ((Path.ofText "/w".toList).child fileName) content ∧
      ∃ final, (prepareWith none [] context).runOn machine =
          (.ok (outputPath context.projectRoot), final) ∧
        final.files.lookup? [['w'], ['p'], outputName, fileName] ≠ some (.file content) := by
  intro context content machine
  have plain : NothingReplaced [] "a\r\n".toList := by
    refine ⟨by decide +kernel, ?_⟩
    have parts : Reference.Dollar.pieces "a\r\n".toList =
        "a\r\n".toList.map fun c => .literal [c] := by
      decide +kernel
    intro name source member
    rw [parts, List.mem_map] at member
    obtain ⟨_, _, other⟩ := member
    cases other
  have reaches : Reaches none machine.files []
      [((Path.ofText "/w/p".toList).child propertiesName).child fileName,
        (Path.ofText "/w/p".toList).child fileName]
      ((Path.ofText "/w".toList).child fileName) :=
    ⟨by decide, by decide, fun _ _ => rfl, rfl⟩
  exact ⟨plain, by decide, firstFile_of_reaches reaches (by decide), _,
    runOn_of_result (by decide +kernel), by decide +kernel⟩

end Preparing

end DebugLaunch.CopiedTemplate
