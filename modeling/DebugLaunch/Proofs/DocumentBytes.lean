import DebugLaunch.Yaml.Document
import Mathlib.Data.List.Infix

/-! Which documents are refused because their bytes are no UTF-8. Only the source of a text knows
bytes: it holds the fault together with the place from which on the text cannot be read. The scan,
the reading of the tokens and the look at the nodes fail for reasons of their own, or they come to
that place and hand on the fault that stands there. So nothing but bytes that cannot be decoded is
refused for its bytes; and where all of them belong to the first block, they are refused before
anything else is looked at. -/
namespace DebugLaunch.DocumentBytes
open Yaml

/-! ### The place from which on a source cannot be read -/

section Sources
variable {bytes : Utf8.Bytes}

theorem isSome_damage?_iff (offset : Nat) :
    (Utf8.damage? offset bytes).isSome ↔ Utf8.decode? bytes = none := by
  fun_induction Utf8.damage? offset bytes with
  | case1 => simp [Utf8.decode?]
  | case2 offset b rest behind c reads ih =>
    rw [ih, Utf8.decode?, reads]
    simp [behind]
  | case3 offset b rest behind fails reason =>
    rw [Utf8.decode?, fails]
    simp

theorem length_unifyNewlines_le (text : Text) : text.unifyNewlines.length ≤ text.length := by
  fun_induction Text.unifyNewlines text with
  | case1 => simp
  | case2 rest ih =>
    simp only [List.length_cons]
    omega
  | case3 c rest shape ih =>
    simp only [List.length_cons]
    omega

theorem length_within_le (count : Nat) (text : Text) :
    (Source.within count text).length ≤ text.length := by
  induction text generalizing count with
  | nil => simp [Source.within]
  | cons c rest ih =>
    rw [Source.within]
    split
    · exact Nat.succ_le_succ (ih _)
    · simp

/-- What is read in front of bytes that do not fit has fewer characters than there are bytes. -/
theorem length_readable_lt (damaged : Utf8.decode? bytes = none) :
    (Source.readable bytes).length < bytes.length := by
  fun_induction Source.readable bytes with
  | case1 => simp [Utf8.decode?] at damaged
  | case2 b rest c reads ih =>
    rw [Utf8.decode?, reads] at damaged
    have behind := ih (Option.map_eq_none_iff.mp damaged)
    have shorter := Utf8.length_step b rest
    simp only [List.length_cons]
    omega
  | case3 b rest fails => simp

/-- A source is stopped for its bytes only by bytes that cannot be decoded. -/
theorem decode?_of_barrier {place : Nat}
    (stops : (Source.ofBytes bytes).barrier = some (place, .notUtf8)) :
    Utf8.decode? bytes = none := by
  rw [← isSome_damage?_iff 0, Option.isSome_iff_ne_none]
  intro undamaged
  rw [Source.ofBytes] at stops
  simp only [undamaged, Option.map_none, Option.none_or] at stops
  obtain ⟨_, _, same⟩ := Option.map_eq_some_iff.mp stops
  cases same

/-- Bytes that cannot be decoded stop their source at once if all belong to the first block. -/
theorem barrier_of_short (damaged : Utf8.decode? bytes = none)
    (short : bytes.length ≤ Source.firstBlock) :
    (Source.ofBytes bytes).barrier = some (0, .notUtf8) := by
  obtain ⟨⟨offset, part, damage⟩, found⟩ :=
    Option.isSome_iff_exists.mp ((isSome_damage?_iff 0).mpr damaged)
  have inFirst : ∀ count, Source.blocksBefore
      (Source.within count (Source.readable bytes)).unifyNewlines.length = 0 := by
    intro count
    have unified := length_unifyNewlines_le (Source.within count (Source.readable bytes))
    have cut := length_within_le count (Source.readable bytes)
    have read := length_readable_lt damaged
    rw [Source.blocksBefore, if_pos (by omega)]
  simp only [Source.ofBytes, found, Option.map_some, inFirst]
  cases Source.firstUnacceptable 0 (Source.readable bytes).unifyNewlines with
  | none => rfl
  | some other => simp

end Sources

/-! ### Steps that fail for reasons of their own -/

/-- A result that is no fault of bytes. -/
def Legible {α : Type} (result : Except Yaml.Fault α) : Prop := result ≠ .error .notUtf8

section Results
variable {α β : Type} {result other : Except Yaml.Fault α} {next : α → Except Yaml.Fault β}

@[grind .] theorem legible_ok (value : α) : Legible (.ok value) := nofun

@[grind .] theorem legible_pure (value : α) : Legible (pure value) := nofun

@[grind .] theorem legible_malformed (malformation : Malformation) :
    Legible (.error (.malformed malformation) : Except Yaml.Fault α) := nofun

@[grind .] theorem legible_found (mark : Mark) (problem : Problem) :
    Legible (.error (.found mark problem) : Except Yaml.Fault α) := nofun

@[grind .] theorem legible_foundIn (activity : Activity) (start mark : Mark) (problem : Problem) :
    Legible (.error (.foundIn activity start mark problem) : Except Yaml.Fault α) := nofun

@[grind .] theorem legible_scalar (fault : ScalarFault) (mark : Mark) :
    Legible (.error (.scalar fault mark) : Except Yaml.Fault α) := nofun

@[grind .] theorem legible_tooDeep : Legible (.error .tooDeep : Except Yaml.Fault α) := nofun

theorem legible_ite {condition : Prop} [Decidable condition] (first : Legible result)
    (second : Legible other) : Legible (if condition then result else other) := by
  split
  · exact first
  · exact second

@[grind ←] theorem legible_bind (first : Legible result) (rest : ∀ value, Legible (next value)) :
    Legible (result >>= next) := by
  cases result with
  | error fault => exact fun fails => first (congrArg _ (Except.error.inj fails))
  | ok value => exact rest value

theorem legible_foldlM {items : List β} {step : α → β → Except Yaml.Fault α}
    (each : ∀ value item, Legible (step value item)) (value : α) :
    Legible (items.foldlM step value) := by
  induction items generalizing value with
  | nil => exact legible_pure value
  | cons item rest ih => exact legible_bind (each value item) ih

end Results

/-! ### The scan -/

section Scans
open Scan
variable {activity : Activity} {start : Mark} {cursor : Cursor} {scan : Scan}

@[grind .] theorem legible_dropStale (scan : Scan) : Legible scan.dropStale := by
  grind [dropStale, noColon]

@[grind .] theorem legible_dropPlace (scan : Scan) : Legible scan.dropPlace := by
  grind [dropPlace, noColon]

@[grind .] theorem legible_savePlace (scan : Scan) : Legible scan.savePlace := by
  unfold savePlace
  grind

@[grind .] theorem legible_endContent (scan : Scan) : Legible scan.endContent := by
  unfold endContent
  grind

@[grind .] theorem legible_readNumber : Legible (readNumber start cursor) := by
  grind [readNumber]

@[grind .] theorem legible_checkWordEnd (wanted : Wanted) :
    Legible (checkWordEnd activity start wanted cursor) := by
  grind [checkWordEnd]

@[grind .] theorem legible_checkSign (sign : Char) (wanted : Wanted) :
    Legible (checkSign activity start sign wanted cursor) := by
  grind [checkSign]

@[grind .] theorem legible_readHandle : Legible (readHandle activity start cursor) := by
  unfold readHandle
  grind

@[grind .] theorem legible_readTagFrom (fuel : Nat) (done : Text) :
    Legible (readTagFrom activity start fuel done cursor) := by
  induction fuel generalizing done cursor with
  | zero => exact legible_ok _
  | succ fuel ih => grind [readTagFrom]

@[grind .] theorem legible_readTagText (textActivity : Activity) :
    Legible (readTagText activity textActivity start cursor) := by
  grind [readTagText]

@[grind .] theorem legible_skipLine : Legible (Block.skipLine activity start cursor) := by
  grind [Block.skipLine]

@[grind .] theorem legible_readDirective (cursor : Cursor) : Legible (readDirective cursor) := by
  unfold readDirective
  grind

@[grind .] theorem legible_readName : Legible (readName activity cursor) := by
  grind [readName]

@[grind .] theorem legible_readAnchor (cursor : Cursor) : Legible (readAnchor cursor) := by
  unfold readAnchor
  grind

@[grind .] theorem legible_readAlias (cursor : Cursor) : Legible (readAlias cursor) := by
  unfold readAlias
  grind

@[grind .] theorem legible_readTag (cursor : Cursor) : Legible (readTag cursor) := by
  unfold readTag
  grind

@[grind .] theorem legible_skipBreaks : Legible (Quote.skipBreaks start cursor) := by
  grind [Quote.skipBreaks]

@[grind .] theorem legible_readEscape (reading : Quote.Reading) :
    Legible (Quote.readEscape start reading cursor) := by
  unfold Quote.readEscape
  grind

@[grind .] theorem legible_readGap (reading : Quote.Reading) :
    Legible (Quote.readGap start reading cursor) := by
  unfold Quote.readGap
  grind

@[grind .] theorem legible_readFrom (quote : Char) (fuel : Nat) (reading : Quote.Reading) :
    Legible (Quote.readFrom quote start fuel reading cursor) := by
  induction fuel generalizing reading cursor with
  | zero => exact nofun
  | succ fuel ih =>
    unfold Quote.readFrom
    grind

@[grind .] theorem legible_readQuoted (cursor : Cursor) : Legible (readQuoted cursor) := by
  unfold readQuoted Quote.read
  grind

@[grind .] theorem legible_readIndent : Legible (Block.readIndent start cursor) := by
  grind [Block.readIndent]

@[grind .] theorem legible_readHeader : Legible (Block.readHeader start cursor) := by
  unfold Block.readHeader
  grind

@[grind .] theorem legible_readBlock (folded : Bool) (least : Nat) :
    Legible (Block.read folded least cursor) := by
  unfold Block.read
  grind

@[grind ←] theorem legible_addContent {read : Cursor → Except Yaml.Fault (Token × Cursor)}
    (reads : ∀ cursor, Legible (read cursor)) : Legible (scan.addContent read) := by
  unfold addContent
  grind

@[grind .] theorem legible_addPlain (scan : Scan) : Legible scan.addPlain := by
  unfold addPlain
  grind

@[grind .] theorem legible_addBlock (folded : Bool) : Legible (scan.addBlock folded) := by
  unfold addBlock
  grind

@[grind .] theorem legible_openFlow (token : Token) : Legible (scan.openFlow token) := by
  unfold openFlow
  grind

@[grind .] theorem legible_closeFlow (token : Token) : Legible (scan.closeFlow token) := by
  unfold closeFlow
  grind

@[grind .] theorem legible_openBlockHere (token : Token) (refusal : Problem) :
    Legible (scan.openBlockHere token refusal) := by
  unfold openBlockHere
  grind

@[grind .] theorem legible_addEntry (scan : Scan) : Legible scan.addEntry := by
  unfold addEntry
  grind

@[grind .] theorem legible_addKey (scan : Scan) : Legible scan.addKey := by
  unfold addKey
  grind

@[grind .] theorem legible_addValue (scan : Scan) : Legible scan.addValue := by
  unfold addValue
  grind

/-- A step of the scan knows no bytes. -/
theorem legible_step (scan : Scan) : Legible scan.step := by
  unfold step
  refine legible_bind (legible_dropStale _) fun scan => ?_
  dsimp only
  -- one goal for each sign that a token can begin with, each closed by the lemma of its token
  repeat' apply legible_ite
  all_goals grind

variable {source : Source}

theorem barrier_of_faultAt {index : Nat} {fault : Yaml.Fault}
    (stops : source.faultAt index = some fault) :
    ∃ place, source.barrier = some (place, fault) := by
  rw [Source.faultAt] at stops
  split at stops
  · rename_i place other barrier
    split at stops
    · exact ⟨place, Option.some.inj stops ▸ barrier⟩
    · cases stops
  · cases stops

/-- A step in a source fails for bytes only where the source cannot be read on. -/
theorem barrier_of_stepIn (fails : scan.stepIn source = .error .notUtf8) :
    ∃ place, source.barrier = some (place, .notUtf8) := by
  unfold stepIn at fails
  split at fails
  · split at fails
    · simp at fails
    · rename_i stops
      exact barrier_of_faultAt (stops.trans (congrArg _ (Except.error.inj fails)))
  · rename_i fault stepped
    have same := Except.error.inj fails
    cases stops : source.faultAt fault.index with
    | none =>
      rw [stops, Option.getD_none] at same
      exact absurd (same ▸ stepped) (legible_step scan)
    | some other =>
      rw [stops, Option.getD_some] at same
      exact barrier_of_faultAt (same ▸ stops)

-- The step stays closed here: what a scan skips in front of a token unfolds without an end.
attribute [local irreducible] Scan.stepIn in
theorem run_succ (source : Source) (fuel : Nat) (scan : Scan) :
    run source (fuel + 1) scan =
      match scan.stepIn source with
      | .error fault => (scan.settled, some fault)
      | .ok scan =>
        match scan.dropStale with
        | .error fault => (scan.settled, some fault)
        | .ok scan =>
          match scan.tokens with
          | ⟨.streamEnd, _, _⟩ :: _ => (scan.tokens.reverse, none)
          | _ => run source fuel scan := rfl

/-- A scan is stopped for bytes only where its source cannot be read on. -/
theorem barrier_of_run {fuel : Nat} (stops : (run source fuel scan).2 = some .notUtf8) :
    ∃ place, source.barrier = some (place, .notUtf8) := by
  induction fuel generalizing scan with
  | zero => cases stops
  | succ fuel ih =>
    rw [run_succ] at stops
    cases stepped : scan.stepIn source with
    | error fault =>
      rw [stepped] at stops
      exact barrier_of_stepIn (stepped.trans (congrArg _ (Option.some.inj stops)))
    | ok next =>
      rw [stepped] at stops
      dsimp only at stops
      cases dropped : next.dropStale with
      | error fault =>
        rw [dropped] at stops
        exact absurd (dropped.trans (congrArg _ (Option.some.inj stops))) (legible_dropStale next)
      | ok fresh =>
        rw [dropped] at stops
        dsimp only at stops
        split at stops
        · cases stops
        · exact ih stops

theorem barrier_of_tokens (stops : (Yaml.tokens source).2 = some .notUtf8) :
    ∃ place, source.barrier = some (place, .notUtf8) := by
  rw [Yaml.tokens] at stops
  split at stops
  · rename_i fault barrier
    cases stops
    exact ⟨0, barrier⟩
  · exact barrier_of_run stops

end Scans

/-! ### The document that tokens write -/

section Readers
open Graph
variable {α β : Type} {read : Reader α} {next : α → Reader β}

/-- A step of reading a document fails for bytes only if the fault behind the tokens is that one,
and it leaves this fault as it is. -/
structure Honest (read : Reader α) : Prop where
  fails : ∀ reading, read.run reading = .error .notUtf8 → reading.fault = some .notUtf8
  keeps : ∀ reading value after, read.run reading = .ok (value, after) →
    after.fault = reading.fault

theorem honest_of_ok (gives : ∀ reading, ∃ value after,
      read.run reading = .ok (value, after) ∧ after.fault = reading.fault) : Honest read := by
  refine ⟨fun reading fails => ?_, fun reading value after ran => ?_⟩
  · obtain ⟨value, after, ran, _⟩ := gives reading
    rw [ran] at fails
    cases fails
  · obtain ⟨_, _, ranOther, keeps⟩ := gives reading
    rw [ranOther, Except.ok.injEq, Prod.mk.injEq] at ran
    rw [← ran.2, keeps]

theorem honest_throw {fault : Yaml.Fault} (other : fault ≠ .notUtf8) :
    Honest (throw fault : Reader α) :=
  ⟨fun _ fails => absurd (Except.error.inj fails) other, fun _ _ _ ran => nomatch ran⟩

@[grind .] theorem honest_pure (value : α) : Honest (pure value) :=
  honest_of_ok fun reading => ⟨value, reading, rfl, rfl⟩

@[grind .] theorem honest_get : Honest (get : Reader Reading) :=
  honest_of_ok fun reading => ⟨reading, reading, rfl, rfl⟩

@[grind ←] theorem honest_modify {change : Reading → Reading}
    (keeps : ∀ reading, (change reading).fault = reading.fault) :
    Honest (modify change : Reader Unit) :=
  honest_of_ok fun reading => ⟨(), change reading, rfl, keeps reading⟩

@[grind .] theorem honest_foundIn (activity : Activity) (start mark : Mark) (problem : Problem) :
    Honest (throw (.foundIn activity start mark problem) : Reader α) := honest_throw nofun

@[grind .] theorem honest_found (mark : Mark) (problem : Problem) :
    Honest (throw (.found mark problem) : Reader α) := honest_throw nofun

@[grind .] theorem honest_tooDeep : Honest (throw .tooDeep : Reader α) := honest_throw nofun

@[grind ←] theorem honest_bind (first : Honest read) (rest : ∀ value, Honest (next value)) :
    Honest (read >>= next) := by
  refine ⟨fun reading fails => ?_, fun reading value after ran => ?_⟩
  · rw [StateT.run_bind] at fails
    cases done : read.run reading with
    | error fault =>
      rw [done] at fails
      exact first.fails reading (done.trans (congrArg _ (Except.error.inj fails)))
    | ok found =>
      rw [done] at fails
      rw [← first.keeps reading found.1 found.2 done]
      exact (rest found.1).fails found.2 fails
  · rw [StateT.run_bind] at ran
    cases done : read.run reading with
    | error fault =>
      rw [done] at ran
      cases ran
    | ok found =>
      rw [done] at ran
      rw [← first.keeps reading found.1 found.2 done]
      exact (rest found.1).keeps found.2 value after ran

/-- What may stop a step does so in front of the rest of it. -/
theorem honest_unless {condition : Prop} [Decidable condition] {stop : Reader PUnit}
    {rest : PUnit → Reader α} (stops : Honest stop) (goesOn : ∀ value, Honest (rest value)) :
    Honest (if condition then stop >>= rest else rest ()) := by
  split
  · exact honest_bind stops goesOn
  · exact goesOn ()

theorem honest_when {condition : Prop} [Decidable condition] {stop : Reader PUnit}
    {rest stopped : Reader α} (stops : Honest stop) (same : stopped = stop >>= fun _ => rest)
    (goesOn : Honest rest) : Honest (if condition then rest else stopped) := by
  split
  · exact goesOn
  · exact same ▸ honest_bind stops fun _ => goesOn

/-- Looking at the next token by the tokens left and the fault behind them. -/
theorem run_peek (reading : Reading) : peek.run reading =
    match reading.tokens, reading.fault with
    | placed :: _, _ => .ok (placed, reading)
    | [], some fault => .error fault
    | [], none => .ok (⟨.streamEnd, {}, {}⟩, reading) := by
  obtain ⟨_ | ⟨placed, rest⟩, _ | fault, _⟩ := reading <;> rfl

/-- The fault behind the tokens is met where they are used up. -/
@[grind .] theorem honest_peek : Honest peek := by
  refine ⟨fun reading fails => ?_, fun reading value after ran => ?_⟩
  · rw [run_peek] at fails
    split at fails
    · cases fails
    · rename_i behind
      exact behind.trans (congrArg _ (Except.error.inj fails))
    · cases fails
  · rw [run_peek] at ran
    split at ran <;> cases ran
    · rfl
    · rfl

@[grind .] theorem honest_advance : Honest advance := honest_modify fun _ => rfl

@[grind .] theorem honest_accept? (token : Token) : Honest (accept? token) := by
  unfold accept?
  grind

@[grind .] theorem honest_accept (token : Token) : Honest (accept token) := by
  unfold accept
  grind

@[grind .] theorem honest_expect (token : Token) (activity : Activity) (start : Mark)
    (problem : Text → Problem) : Honest (expect token activity start problem) := by
  unfold expect
  grind

@[grind .] theorem honest_sees (tokens : List Token) : Honest (sees tokens) := by
  unfold sees
  grind

@[grind .] theorem honest_addNode (node : Node) : Honest (addNode node) :=
  honest_of_ok fun _ => ⟨_, _, rfl, rfl⟩

@[grind .] theorem honest_addMissing (place : Mark) : Honest (addMissing place) := honest_addNode _

@[grind ←] theorem honest_readUnless (ends : List Token) (before : Placed) {read : Reader Nat}
    (honest : Honest read) : Honest (readUnless ends before read) := by
  unfold readUnless
  grind

@[grind ←] theorem honest_readValue (ends : List Token) {read : Reader Nat}
    (honest : Honest read) : Honest (readValue ends read) := by
  unfold readValue
  grind

@[grind .] theorem honest_setAnchor (anchor : Option Text) (number : Nat) :
    Honest (setAnchor anchor number) := by
  cases anchor with
  | none => exact honest_pure ()
  | some name => exact honest_modify fun _ => rfl

@[grind .] theorem honest_checkAnchor (anchor : Option Text) (start : Mark) :
    Honest (checkAnchor anchor start) := by
  unfold checkAnchor
  grind

@[grind .] theorem honest_properties : Honest properties := by
  unfold properties
  refine honest_bind honest_peek fun first => ?_
  split
  · grind
  · grind
  · exact honest_pure _

@[grind .] theorem honest_tagName (properties : Properties) : Honest (tagName properties) := by
  unfold tagName
  grind

@[grind .] theorem honest_addScalar (opening : Opening) (tag : Tag) (content : Content) :
    Honest (addScalar opening tag content) := by
  unfold addScalar
  grind

@[grind ←] theorem honest_addCollection (opening : Opening) (tag : Tag) {read : Reader Content}
    (honest : Honest read) : Honest (addCollection opening tag read) := by
  unfold addCollection
  refine honest_bind (honest_checkAnchor _ _) fun _ => honest_bind honest_get fun reading => ?_
  refine honest_unless honest_tooDeep fun _ => ?_
  refine honest_bind (honest_addNode _) fun number => honest_bind (honest_setAnchor _ _) fun _ => ?_
  refine honest_bind (honest_modify fun _ => rfl) fun _ => honest_bind honest fun content => ?_
  exact honest_bind (honest_modify fun _ => rfl) fun _ => honest_pure number

@[grind .] theorem honest_readNothing (opening : Opening) (position : Position) (found : Placed) :
    Honest (readNothing opening position found) := by
  unfold readNothing
  grind

/-- All that is read of values with an amount of fuel is honest. -/
structure HonestWith (fuel : Nat) : Prop where
  node : ∀ position, Honest (readNode fuel position)
  blockItems : ∀ start, Honest (readBlockItems fuel start)
  unindented : Honest (readUnindented fuel)
  blockEntries : ∀ start, Honest (readBlockEntries fuel start)
  flowItems : ∀ start first, Honest (readFlowItems fuel start first)
  flowEntries : ∀ start first, Honest (readFlowEntries fuel start first)

variable {fuel : Nat}

theorem honest_readNode (honest : HonestWith fuel) (position : Position) :
    Honest (readNode (fuel + 1) position) := by
  obtain ⟨_, blockItems, unindented, blockEntries, flowItems, flowEntries⟩ := honest
  unfold readNode
  refine honest_bind honest_peek fun first => ?_
  split
  · grind
  · refine honest_bind honest_properties fun properties =>
      honest_bind (honest_tagName _) fun name => honest_bind honest_peek fun next => ?_
    dsimp only
    split <;> grind

theorem honest_readBlockItems (honest : HonestWith fuel) (start : Mark) :
    Honest (readBlockItems (fuel + 1) start) := by
  obtain ⟨node, blockItems, _, _, _, _⟩ := honest
  unfold readBlockItems
  grind

theorem honest_readUnindented (honest : HonestWith fuel) :
    Honest (readUnindented (fuel + 1)) := by
  obtain ⟨node, _, unindented, _, _, _⟩ := honest
  unfold readUnindented
  grind

theorem honest_readBlockEntries (honest : HonestWith fuel) (start : Mark) :
    Honest (readBlockEntries (fuel + 1) start) := by
  obtain ⟨node, _, _, blockEntries, _, _⟩ := honest
  unfold readBlockEntries
  grind

theorem honest_readFlowItems (honest : HonestWith fuel) (start : Mark) (first : Bool) :
    Honest (readFlowItems (fuel + 1) start first) := by
  obtain ⟨node, _, _, _, flowItems, _⟩ := honest
  unfold readFlowItems
  refine honest_bind (honest_accept _) fun closes => ?_
  split
  · exact honest_pure _
  · refine honest_when (honest_expect _ _ _ _) rfl (honest_bind honest_peek fun next => ?_)
    split
    · refine honest_bind (honest_addCollection _ _ ?_) fun item => ?_
      · grind
      · grind
    · grind

theorem honest_readFlowEntries (honest : HonestWith fuel) (start : Mark) (first : Bool) :
    Honest (readFlowEntries (fuel + 1) start first) := by
  obtain ⟨node, _, _, _, _, flowEntries⟩ := honest
  unfold readFlowEntries
  refine honest_bind (honest_accept _) fun closes => ?_
  split
  · exact honest_pure _
  · refine honest_when (honest_expect _ _ _ _) rfl (honest_bind (honest_accept? _) fun sign => ?_)
    split <;> grind

/-- Each reader of values reads parts with less fuel only, so the fuel carries all of them. -/
theorem honestWith (fuel : Nat) : HonestWith fuel := by
  induction fuel with
  | zero =>
    exact ⟨fun _ => honest_tooDeep, fun _ => honest_tooDeep, honest_tooDeep,
      fun _ => honest_tooDeep, fun _ _ => honest_tooDeep, fun _ _ => honest_tooDeep⟩
  | succ fuel ih =>
    exact ⟨honest_readNode ih, honest_readBlockItems ih, honest_readUnindented ih,
      honest_readBlockEntries ih, honest_readFlowItems ih, honest_readFlowEntries ih⟩

@[grind .] theorem honest_readDirectives (version : Bool) :
    Honest (readDirectives fuel version) := by
  induction fuel generalizing version with
  | zero => exact honest_tooDeep
  | succ fuel ih =>
    unfold readDirectives
    refine honest_bind honest_peek fun next => ?_
    split
    · refine honest_unless (honest_found _ _) fun _ => honest_unless (honest_found _ _) fun _ => ?_
      exact honest_bind honest_advance fun _ => ih _
    · refine honest_bind honest_get fun reading => honest_unless (honest_found _ _) fun _ => ?_
      refine honest_bind honest_advance fun _ =>
        honest_bind (honest_modify fun _ => rfl) fun _ => ?_
      exact ih _
    · exact honest_bind honest_advance fun _ => ih _
    · exact honest_modify fun _ => rfl

@[grind .] theorem honest_readDocumentStart : Honest (readDocumentStart fuel) := by
  unfold readDocumentStart
  refine honest_bind (honest_modify fun _ => rfl) fun _ => ?_
  grind

@[grind .] theorem honest_skipDocumentEnds : Honest (skipDocumentEnds fuel) := by
  induction fuel with
  | zero => exact honest_pure ()
  | succ fuel ih =>
    unfold skipDocumentEnds
    grind

theorem honest_readDocument (fuel : Nat) : Honest (readDocument fuel) := by
  have node := (honestWith fuel).node .inBlock
  -- what stands behind the value, which the three ways of reading it have in common
  have ends : ∀ root, Honest (do
      skipDocumentEnds fuel
      let next ← peek
      if next.token != .streamEnd then
        readDocumentStart fuel
        let start := ((← get).nodes.getD root default).start
        throw (.foundIn .onlyDocument start next.start .anotherDocument)
      return some root) := by
    intro root
    refine honest_bind honest_skipDocumentEnds fun _ => honest_bind honest_peek fun next => ?_
    split
    · grind
    · exact honest_pure _
  unfold readDocument
  refine honest_bind honest_peek fun first => ?_
  split
  · exact honest_pure _
  · dsimp only
    split
    · refine honest_bind honest_readDocumentStart fun _ => honest_bind honest_peek fun next => ?_
      split
      · exact honest_bind (honest_addMissing _) ends
      · exact honest_bind node ends
    · exact honest_bind (honest_modify fun _ => rfl) fun _ => honest_bind node ends

/-- The graph of tokens is refused for bytes only if the fault behind them is that one. -/
theorem notUtf8_of_ofTokens {tokens : List Placed} {fault : Option Yaml.Fault}
    (fails : ofTokens tokens fault = .error .notUtf8) : fault = some .notUtf8 := by
  rw [ofTokens] at fails
  cases ran : (readDocument (2 * tokens.length + 2)).run ⟨tokens, fault, #[], [], [], 0⟩ with
  | error other =>
    rw [ran] at fails
    exact (honest_readDocument _).fails _ (ran.trans (congrArg _ (Except.error.inj fails)))
  | ok done =>
    rw [ran] at fails
    cases fails

end Readers

/-! ### The look at the nodes, and the whole document -/

section Documents
open Graph
variable {graph : Graph} {survey : Survey}

@[grind .] theorem legible_value (tag : Tag) (start : Mark) (written : Written) :
    Legible (Scalar.value tag start written) := by
  cases written with
  | text text =>
    unfold Scalar.value Scalar.valueOfText
    grind
  | broken points =>
    unfold Scalar.value Scalar.valueOfPoints
    grind

@[grind .] theorem legible_scalarText (fuel number : Nat) :
    Legible (graph.scalarText fuel number) := by
  induction fuel generalizing number with
  | zero => exact legible_tooDeep
  | succ fuel ih => grind [scalarText, notOfShape]

@[grind .] theorem legible_scalarValue (number : Nat) : Legible (graph.scalarValue number) := by
  unfold scalarValue
  grind

@[grind .] theorem legible_flatten (fuel : Nat) (merged : List (Nat × Nat)) (graph : Graph)
    (number : Nat) : Legible (flatten fuel merged graph number) := by
  induction fuel generalizing merged graph number with
  | zero => exact legible_tooDeep
  | succ fuel ih =>
    unfold flatten
    dsimp only
    split
    · exact legible_ok _
    · split
      · exact legible_bind (ih _ _ _) fun merging => ih _ _ _
      · refine legible_bind (legible_foldlM (fun found item => ?_) _) fun merging => ih _ _ _
        split
        · exact legible_foundIn _ _ _ _
        · exact legible_bind (ih _ _ _) fun _ => legible_ok _
      · exact legible_foundIn _ _ _ _

@[grind .] theorem legible_visit (survey : Survey) (number : Nat) :
    Legible (survey.visit number) := by
  grind [Survey.visit]

@[grind .] theorem legible_visitEntries (start : Mark) (entries : List (Nat × Nat)) :
    Legible (survey.visitEntries start entries) := by
  induction entries generalizing survey with
  | nil => exact legible_ok _
  | cons entry rest ih =>
    unfold Survey.visitEntries
    grind

@[grind .] theorem legible_visitPairs (activity : Activity) (start : Mark) (items : List Nat) :
    Legible (survey.visitPairs activity start items) := by
  induction items generalizing survey with
  | nil => exact legible_ok _
  | cons item rest ih =>
    unfold Survey.visitPairs
    grind

@[grind .] theorem legible_visitParts (survey : Survey) (number : Nat) :
    Legible (survey.visitParts number) := by
  unfold Survey.visitParts
  grind [legible_foldlM, notOfShape]

theorem legible_finish (fuel : Nat) (survey : Survey) : Legible (survey.finish fuel) := by
  induction fuel generalizing survey with
  | zero => exact legible_ok _
  | succ fuel ih =>
    unfold Survey.finish
    split
    · exact legible_ok _
    · exact legible_bind (legible_foldlM legible_visitParts _) fun _ => ih _

/-- A document is refused for its bytes only where its source cannot be read on. -/
theorem barrier_of_load {wanted : Value → Bool} {source : Source}
    (refused : load wanted source = .error .notUtf8) :
    ∃ place, source.barrier = some (place, .notUtf8) := by
  rw [load] at refused
  cases scanned : Yaml.tokens source with
  | mk read fault =>
    rw [scanned] at refused
    dsimp only at refused
    cases written : ofTokens read fault with
    | error other =>
      rw [written] at refused
      refine barrier_of_tokens ?_
      rw [scanned]
      exact notUtf8_of_ofTokens (written.trans (congrArg _ (Except.error.inj refused)))
    | ok document =>
      rw [written] at refused
      refine absurd refused ?_
      show Legible _
      refine legible_bind (legible_ok _) fun document => ?_
      split
      · exact legible_ok _
      · refine legible_bind (legible_visit _ _) fun survey => ?_
        refine legible_bind (legible_finish _ _) fun graph => ?_
        split <;> exact legible_ok _

end Documents

variable {wanted : Value → Bool} {bytes : Utf8.Bytes}

/-- Only bytes that are no UTF-8 are refused for their bytes. -/
theorem decode?_of_load (refused : load wanted (.ofBytes bytes) = .error .notUtf8) :
    Utf8.decode? bytes = none :=
  (barrier_of_load refused).elim fun _ => decode?_of_barrier

/-- Bytes that are no UTF-8 are refused for it if all of them belong to the first block, whatever
else is wrong with them. -/
theorem load_of_short (damaged : Utf8.decode? bytes = none)
    (short : bytes.length ≤ Source.firstBlock) :
    load wanted (.ofBytes bytes) = .error .notUtf8 := by
  rw [load, Yaml.tokens, barrier_of_short damaged short]
  rfl

end DebugLaunch.DocumentBytes
