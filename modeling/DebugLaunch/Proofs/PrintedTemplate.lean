import DebugLaunch.Proofs.CommandLineRuns
import DebugLaunch.Proofs.PreparedFile

/-! What is printed of a template that can also be written. The same text goes both ways, but on
the way to the output it loses the escape sequences for a terminal, and nothing else. So the two
agree to the byte exactly where the resolved text holds no such sequence. -/
namespace DebugLaunch.PrintedTemplate
open DebugLaunch.Action Cli LaunchFile LaunchFileSearch PlaceWalk PreparedFile CommandLineRuns

/-! ### Escape sequences -/

/-- A character that may stand inside an escape sequence, in front of its letter. -/
def isParameter (c : Char) : Bool := c = ';' || c = '?' || c.isDigit

/-- An escape sequence for a terminal stands in a text: a bracket behind the escape character, some
parameters, and a letter. -/
def HoldsEscape (text : Text) : Prop :=
  ∃ front parameters letter behind,
    text = front ++ '\x1b' :: '[' :: (parameters ++ letter :: behind) ∧
      (∀ c ∈ parameters, isParameter c) ∧ letter.isAlpha

private theorem not_alpha_of_digit {c : Char} (digit : c.isDigit) : ¬ c.isAlpha := by
  intro alpha
  have digits : c.isDigit = (decide ('0'.val ≤ c.val) && decide (c.val ≤ '9'.val)) := rfl
  have letters : c.isAlpha = (decide ('A'.val ≤ c.val ∧ c.val ≤ 'Z'.val) ||
      decide ('a'.val ≤ c.val) && decide (c.val ≤ 'z'.val)) := rfl
  simp only [digits, letters, Bool.or_eq_true, Bool.and_eq_true, decide_eq_true_eq,
    UInt32.le_iff_toNat_le] at digit alpha
  have nine : '9'.val.toNat = 57 := rfl
  have upperA : 'A'.val.toNat = 65 := rfl
  have lowerA : 'a'.val.toNat = 97 := rfl
  omega

private theorem not_alpha_of_parameter {c : Char} (parameter : isParameter c) : ¬ c.isAlpha := by
  simp only [isParameter, Bool.or_eq_true, decide_eq_true_eq, or_assoc] at parameter
  rcases parameter with rfl | rfl | digit
  · decide
  · decide
  · exact not_alpha_of_digit digit

/-- A sequence is read to its end exactly if that is what it looks like. -/
private theorem escapeEnd?_eq_some_iff {text rest : Text} :
    escapeEnd? text = some rest ↔ ∃ parameters letter, text = parameters ++ letter :: rest ∧
      (∀ c ∈ parameters, isParameter c) ∧ letter.isAlpha := by
  induction text with
  | nil => simp [escapeEnd?]
  | cons c text ih =>
    have split : (∃ parameters letter, c :: text = parameters ++ letter :: rest ∧
          (∀ d ∈ parameters, isParameter d) ∧ letter.isAlpha) ↔
        (c.isAlpha ∧ text = rest) ∨ (isParameter c ∧ ∃ parameters letter,
          text = parameters ++ letter :: rest ∧ (∀ d ∈ parameters, isParameter d) ∧
            letter.isAlpha) := by
      constructor
      · rintro ⟨_ | ⟨first, parameters⟩, letter, whole, allParameters, alpha⟩
        · obtain ⟨rfl, rfl⟩ := List.cons.inj whole
          exact .inl ⟨alpha, rfl⟩
        · obtain ⟨rfl, rfl⟩ := List.cons.inj whole
          obtain ⟨parameter, others⟩ := List.forall_mem_cons.mp allParameters
          exact .inr ⟨parameter, parameters, letter, rfl, others, alpha⟩
      · rintro (⟨alpha, rfl⟩ | ⟨parameter, parameters, letter, rfl, others, alpha⟩)
        · exact ⟨[], c, rfl, by simp, alpha⟩
        · exact ⟨c :: parameters, letter, rfl, List.forall_mem_cons.mpr ⟨parameter, others⟩, alpha⟩
    rw [split, ← ih, escapeEnd?]
    by_cases alpha : c.isAlpha
    · have noParameter : ¬ isParameter c := fun parameter => not_alpha_of_parameter parameter alpha
      simp [alpha, noParameter]
    · simp [alpha, isParameter]

/-- An escape sequence stands at the front of a text or behind its first character. -/
private theorem holdsEscape_cons {c : Char} {rest : Text} :
    HoldsEscape (c :: rest) ↔
      (c = '\x1b' ∧ rest.head? = some '[' ∧ (escapeEnd? rest.tail).isSome) ∨ HoldsEscape rest := by
  constructor
  · rintro ⟨front, parameters, letter, behind, whole, allParameters, alpha⟩
    cases front with
    | nil =>
      obtain ⟨rfl, rfl⟩ := List.cons.inj whole
      have ends : escapeEnd? (parameters ++ letter :: behind) = some behind :=
        escapeEnd?_eq_some_iff.mpr ⟨parameters, letter, rfl, allParameters, alpha⟩
      exact .inl ⟨rfl, rfl, Option.isSome_iff_exists.mpr ⟨behind, ends⟩⟩
    | cons first front =>
      obtain ⟨rfl, rfl⟩ := List.cons.inj whole
      exact .inr ⟨front, parameters, letter, behind, rfl, allParameters, alpha⟩
  · rintro (⟨rfl, opens, ends⟩ | ⟨front, parameters, letter, behind, rfl, allParameters, alpha⟩)
    · obtain ⟨behind, ends⟩ := Option.isSome_iff_exists.mp ends
      obtain ⟨parameters, letter, whole, allParameters, alpha⟩ := escapeEnd?_eq_some_iff.mp ends
      obtain ⟨inner, rfl⟩ := List.head?_eq_some_iff.mp opens
      obtain rfl : inner = parameters ++ letter :: behind := whole
      exact ⟨[], parameters, letter, behind, rfl, allParameters, alpha⟩
    · exact ⟨c :: front, parameters, letter, behind, rfl, allParameters, alpha⟩

/-- A text without sequences is printed as it is. -/
theorem plainText_of_free {text : Text} (free : ¬ HoldsEscape text) : plainText text = text := by
  fun_induction plainText text with
  | case1 => rfl
  | case2 c rest opens behind ends ih =>
    simp only [Bool.and_eq_true, decide_eq_true_eq] at opens
    exact absurd (holdsEscape_cons.mpr (.inl ⟨opens.1, opens.2, by simp [ends]⟩)) free
  | case3 c rest opens endless ih | case4 c rest other ih =>
    rw [ih fun holds => free (holdsEscape_cons.mpr (.inr holds))]

private theorem length_encode_cons (c : Char) (text : Text) :
    (Utf8.encode (c :: text)).length = (Utf8.encodeChar c).length + (Utf8.encode text).length := by
  simp [Utf8.encode]

/-- Behind a sequence that has begun there are fewer bytes. -/
private theorem length_encode_behind {c : Char} {rest behind : Text}
    (opens : rest.head? = some '[') (ends : escapeEnd? rest.tail = some behind) :
    (Utf8.encode behind).length < (Utf8.encode (c :: rest)).length := by
  obtain ⟨inner, rfl⟩ := List.head?_eq_some_iff.mp opens
  obtain ⟨parameters, letter, rfl, _, _⟩ := escapeEnd?_eq_some_iff.mp ends
  have bracket : (Utf8.encodeChar '[').length = 1 := rfl
  simp only [Utf8.encode, List.flatMap_cons, List.flatMap_append, List.length_append, bracket]
  omega

/-- Of a text with sequences fewer bytes are printed. -/
theorem length_plainText_lt {text : Text} (holds : HoldsEscape text) :
    (Utf8.encode (plainText text)).length < (Utf8.encode text).length := by
  fun_induction plainText text with
  | case1 =>
    obtain ⟨front, _, _, _, whole, _⟩ := holds
    simp at whole
  | case2 c rest opens behind ends ih =>
    simp only [Bool.and_eq_true, decide_eq_true_eq] at opens
    have shorter := length_encode_behind (c := c) opens.2 ends
    by_cases more : HoldsEscape behind
    · exact (ih more).trans shorter
    · rw [plainText_of_free more]
      exact shorter
  | case3 c rest opens endless ih =>
    have later : HoldsEscape rest := by
      refine (holdsEscape_cons.mp holds).resolve_left ?_
      rintro ⟨_, _, ends⟩
      simp [endless] at ends
    have := ih later
    rw [length_encode_cons, length_encode_cons]
    omega
  | case4 c rest other ih =>
    have later : HoldsEscape rest := by
      refine (holdsEscape_cons.mp holds).resolve_left ?_
      rintro ⟨begins, opens, _⟩
      simp [begins, opens] at other
    have := ih later
    rw [length_encode_cons, length_encode_cons]
    omega

/-- The bytes that are printed of a text are its own exactly if no sequence stands in it. -/
theorem encode_plainText_iff (text : Text) :
    Utf8.encode (plainText text) = Utf8.encode text ↔ ¬ HoldsEscape text := by
  refine ⟨fun same holds => ?_, fun free => by rw [plainText_of_free free]⟩
  have shorter := length_plainText_lt holds
  rw [same] at shorter
  exact absurd shorter (Nat.lt_irrefl _)

/-! ### The two commands -/

section Commands
variable {runner : Runner} {options : Options} {machine after : Machine}

/-- Both ask for the template of a context in the same way. -/
theorem readTemplate_templateOf (noTemplate : options.lookup .template = none)
    (context : Context) :
    (do readTemplate (← templateOf options context)) = template none context := by
  rw [templateOf, noTemplate, template, bind_assoc]
  congr 1
  funext found
  cases found <;> rfl

/-- A launch that succeeds without a start has found a template that is also found without lines
about the search, and has written its resolved text. -/
theorem launch_writes (noRun : has options .noRun)
    (ran : (launch runner options).runOn machine = (.ok .success, after)) :
    ∃ context text,
      selected? machine.directory machine.environment options = some context ∧
      (template none context).runOn machine = (.ok text, machine) ∧
      after.environment = machine.environment ∧
      Writes machine.directory context.projectRoot
        (Utf8.encode (context.resolve .dollar machine.environment text)) machine.files
        after.files := by
  rw [launch, runOn_withContext] at ran
  split at ran
  · rename_i context selects
    rw [runOn_bind, runOn_ask] at ran
    dsimp only at ran
    rw [runOn_orReport] at ran
    split at ran
    · rename_i prepared last done
      obtain ⟨settings, loaded, settingsDone, done⟩ := bind_ok done
      obtain ⟨output, rfl⟩ := after_of_onlyPrints (onlyPrints_loadSettings _ _) settingsDone
      obtain ⟨path, final, preparedDone, done⟩ := bind_ok done
      cases done
      rw [runOn_prepare] at preparedDone
      obtain ⟨_, _, text, ⟨printed, templated⟩, writes⟩ :=
        runOn_prepareWith_iff.mp ⟨last, preparedDone, rfl⟩
      dsimp only at templated writes
      have frame := machine_of_prepareWith preparedDone
      obtain ⟨_, middle, prints, ran⟩ := bind_ok ran
      cases prints
      rw [if_pos noRun] at ran
      cases ran
      refine ⟨context, text, selects, runOn_template_silent templated, ?_, writes⟩
      rw [frame]
    · split at ran
      · exact absurd ran not_success_of_report
      · cases ran
  · exact absurd ran not_success_of_report

theorem runOn_resolve {context : Context} {text : Text}
    (noTemplate : options.lookup .template = none)
    (selects : selected? machine.directory machine.environment options = some context)
    (templated : (template none context).runOn machine = (.ok text, machine)) :
    (resolve options).runOn machine = (.ok .success, { machine with
      output := machine.output ++
        plainText (context.resolve .dollar machine.environment text) }) := by
  rw [resolve, runOn_withContext, selects]
  dsimp only
  rw [runOn_orReport, readTemplate_templateOf noTemplate, templated]
  rfl

theorem hasNullPath_resolve {other : Options} (same : SameSelection options other)
    (noTemplate : other.lookup .template = none) (environment : Environment) :
    hasNullPath environment Command.resolve.keys other =
      hasNullPath environment Command.launch.keys options := by
  have nothing : value? environment other .template = none := by
    rw [value?, noTemplate]
    rfl
  have launchPaths : Command.launch.keys.filter Key.isPath = [.project, .workspace] := rfl
  have resolvePaths : Command.resolve.keys.filter Key.isPath = [.project, .workspace, .template] :=
    rfl
  rw [hasNullPath, hasNullPath, launchPaths, resolvePaths]
  simp [value?_congr same.project, value?_congr same.workspace, nothing]

/-- Where a launch without a start succeeds, a resolution with the same selection prints
the text that the launch writes, less the escape sequences in it. -/
theorem resolve_prints_launched_text {launching resolving : List Text}
    {launchGiven resolveGiven : Arguments}
    (launches : Reads launching .launch launchGiven)
    (resolves : Reads resolving .resolve resolveGiven)
    (sameSelection : SameSelection launchGiven.options resolveGiven.options)
    (noRun : has launchGiven.options .noRun)
    (noTemplate : resolveGiven.options.lookup .template = none)
    (noExtra : resolveGiven.extra = false)
    (ran : (run runner launching).runOn machine = (.ok .success, after)) :
    ∃ context found content text final,
      selected? machine.directory after.environment launchGiven.options = some context ∧
      FirstFile machine.files machine.directory
        (LaunchFile.candidates context.workspaceRoot context.projectRoot) found content ∧
      text = context.resolve .dollar after.environment (Utf8.readLenient content) ∧
      after.files.lookup? (outputPlace machine.directory context.projectRoot) =
        some (.file (Utf8.encode text)) ∧
      (run runner resolving).runOn machine = (.ok .success, final) ∧
      final.files = machine.files ∧
      final.output = machine.output ++ plainText text ∧
      (Utf8.encode (plainText text) = Utf8.encode text ↔ ¬ HoldsEscape text) := by
  rw [runOn_run launches] at ran
  rw [runOn_run resolves]
  rcases loaded : EnvironmentFile.load.runOn machine with ⟨fault | _, middle⟩
  · rw [loaded] at ran
    cases ran
  · rw [loaded] at ran
    obtain ⟨environment, rfl⟩ := after_of_loadEnvironment loaded
    dsimp only at ran ⊢
    rw [hasNullPath_resolve sameSelection noTemplate, noExtra]
    split at ran
    · cases ran
    · rename_i noNull
      split at ran
      · cases ran
      · obtain ⟨context, source, selects, templated, sameEnvironment, writes⟩ :=
          launch_writes noRun ran
        obtain ⟨front, found, behind, content, whole, reaches, reads, rfl⟩ :=
          (runOn_template_iff _).mp ⟨_, templated⟩
        rw [if_neg noNull, if_neg Bool.false_ne_true, perform,
          runOn_resolve noTemplate ((selected?_congr sameSelection _ _).trans selects) templated]
        rw [sameEnvironment]
        exact ⟨context, found, content, _, _, selects, whole ▸ firstFile_of_reaches reaches reads,
          rfl, (written_of_writes writes).output, rfl, rfl, rfl, encode_plainText_iff _⟩

/-- A launch and a resolution of the template of a workspace, with a variable of the environment
file. -/
theorem resolve_prints_launched_text_of_workspace :
    let machine : Machine :=
      { files := { entries := [([['w']], .directory),
          ([['w'], fileName], .file (Utf8.encode "%projectName%$A".toList)),
          ([".env".toList], .file (Utf8.encode "A=b".toList))] }
        directory := [] }
    let runner : Runner := fun _ _ machine => (.timedOut, machine.files)
    let launching := ["launch", "-p", "/w/p", "-w", "/w", "--no-run", "-q"].map String.toList
    let resolving := ["resolve", "-p", "/w/p", "-w", "/w"].map String.toList
    ∃ after final,
      (run runner launching).runOn machine = (.ok .success, after) ∧
      after.files.lookup? [['w'], ['p'], outputName, fileName] =
        some (.file (Utf8.encode "pb".toList)) ∧
      (run runner resolving).runOn machine = (.ok .success, final) ∧
      final.output = "pb".toList := by
  intro machine runner launching resolving
  let context : Context := ⟨"/w".toList, "/w/p".toList, "/w".toList, "/w/p".toList, "p".toList⟩
  let template := Utf8.encode "%projectName%$A".toList
  let after := ((run runner launching).runOn machine).2
  have ran : (run runner launching).runOn machine = (.ok .success, after) :=
    runOn_of_result (by decide +kernel)
  have launches : Reads launching .launch
      ⟨[(.quiet, []), (.noRun, []), (.workspace, "/w".toList), (.project, "/w/p".toList)], false⟩ :=
    ⟨_, rfl, rfl⟩
  have resolves : Reads resolving .resolve
      ⟨[(.workspace, "/w".toList), (.project, "/w/p".toList)], false⟩ := ⟨_, rfl, rfl⟩
  obtain ⟨selected, found, content, text, final, selects, first, whole, wrote, resolved, _, printed,
    _⟩ := resolve_prints_launched_text launches resolves ⟨rfl, rfl, rfl⟩ rfl rfl rfl ran
  obtain rfl : selected = context :=
    Option.some.inj (selects.symm.trans (by decide +kernel : _ = some context))
  have reaches : Reaches none machine.files []
      [((Path.ofText "/w/p".toList).child propertiesName).child fileName,
        (Path.ofText "/w/p".toList).child fileName]
      ((Path.ofText "/w".toList).child fileName) :=
    ⟨by decide, by decide, fun _ _ => rfl, rfl⟩
  obtain ⟨rfl, rfl⟩ : found = _ ∧ content = template :=
    firstFile_unique first (firstFile_of_reaches reaches (by decide))
  obtain rfl : text = "pb".toList := whole.trans (by decide +kernel)
  refine ⟨after, final, ran, wrote, resolved, printed.trans ?_⟩
  simp [plainText, machine]

/-- A launch writes a colour of the template, but a resolution does not print it. -/
theorem resolve_loses_colour :
    let template := "\x1b[1mp".toList
    let machine : Machine :=
      { files := { entries := [([['w']], .directory),
          ([['w'], fileName], .file (Utf8.encode template))] }
        directory := [] }
    let runner : Runner := fun _ _ machine => (.timedOut, machine.files)
    let launching := ["launch", "-p", "/w/p", "-w", "/w", "--no-run", "-q"].map String.toList
    let resolving := ["resolve", "-p", "/w/p", "-w", "/w"].map String.toList
    ∃ after final,
      (run runner launching).runOn machine = (.ok .success, after) ∧
      after.files.lookup? [['w'], ['p'], outputName, fileName] =
        some (.file (Utf8.encode template)) ∧
      (run runner resolving).runOn machine = (.ok .success, final) ∧
      Utf8.encode final.output ≠ Utf8.encode template := by
  intro template machine runner launching resolving
  exact ⟨_, _, runOn_of_result (by decide +kernel), by decide +kernel,
    runOn_of_result (by decide +kernel), by decide +kernel⟩

end Commands

end DebugLaunch.PrintedTemplate
