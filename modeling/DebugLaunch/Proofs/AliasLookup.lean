import DebugLaunch.Proofs.CommandLineRuns
import DebugLaunch.Proofs.TokenSegments

/-! Aliases that are looked up by name, beside those that stand between signs in a text. Both pass
over case, but not alike: a text is compared with an alias letter by letter, where four characters
beyond ASCII count as case variants of a letter, while a name is brought to lower case as a whole.
Of the four only the Kelvin sign becomes a letter then. So a look-up knows the tokens of a text that
are spelled without the other three, and a text can hold tokens that no look-up knows. -/
namespace DebugLaunch.AliasLookup
open Token TokenSegments Cli CommandLineRuns DebugLaunch.Action

/-- The characters that spell a letter in a text but do not become one in lower case: `i` with a
dot on its capital, `i` without any dot, and the long `s`. -/
def unlisted : Text := ['\u0130', '\u0131', '\u017F']

/-- Everything in a name that spells a letter becomes one in lower case. -/
def Plain (name : Text) : Prop := ∀ c ∈ name, c ∉ unlisted

instance (name : Text) : Decidable (Plain name) :=
  List.decidableBAll (fun c => c ∉ unlisted) name

/-- A name between two signs is one token as a whole. -/
def IsToken (tokenClass : TokenClass) (name : Text) : Prop :=
  occurrences (written name) = [⟨0, (written name).length, tokenClass, name⟩]

instance (tokenClass : TokenClass) (name : Text) : Decidable (IsToken tokenClass name) :=
  inferInstanceAs (Decidable (occurrences (written name) = _))

/-- Prints the table of the tokens of a class, or of all classes. -/
def listing (context : Context) (selected : Option TokenClass) : Action Exit := do
  printTable "Tokens".toList
    [("Clase".toList, none), ("Token".toList, none), ("Valor".toList, none)]
    (tokenRows context selected)
  return .success

/-! ### Lower case -/

section LowerCase
variable {letter c : Char}

theorem toNat_of_isLower (small : c.isLower) : c.toNat < 0x80 := by
  obtain ⟨_, last⟩ := (Bool.and_eq_true _ _).mp small
  exact Nat.lt_of_le_of_lt (UInt32.le_iff_toNat_le.mp (of_decide_eq_true last)) (by decide)

theorem toLower_of_beyond (beyond : 0x80 ≤ c.toNat) : c.toLower = c := by
  unfold Char.toLower
  split
  · rename_i capital
    have := UInt32.le_iff_toNat_le.mp capital.2
    have last : 'Z'.val.toNat = 90 := rfl
    simp only [Char.toNat] at beyond
    omega
  · rfl

/-- A number that is no code point gives the null character. -/
theorem toNat_ofNat_or_null (n : Nat) :
    (Char.ofNat n).toNat = n ∨ Char.ofNat n = '\x00' := by
  by_cases valid : n.isValidChar
  · left
    rw [Char.ofNat, dif_pos valid]
    rfl
  · right
    rw [Char.ofNat, dif_neg valid]
    rfl

theorem not_isLower_ofNat {n : Nat} (beyond : 0x80 ≤ n) : (Char.ofNat n).isLower = false := by
  rcases toNat_ofNat_or_null n with whole | null
  · by_contra small
    have below := toNat_of_isLower (Bool.not_eq_false _ ▸ small)
    omega
  · rw [null]
    rfl

/-- Behind ASCII, only the run of the Kelvin sign moves to ASCII. -/
private theorem runs_stay_beyond :
    ∀ run ∈ Text.lowerRuns, run.first = 0x212A ∧ run.last = 0x212A ∨
      (0x80 : Int) ≤ run.first + run.shift := by
  decide +kernel

/-- A character beyond ASCII has no letter of ASCII for its lower case, but for the Kelvin sign. -/
theorem shiftCase_of_beyond (beyond : 0x80 ≤ c.toNat) (other : c ≠ '\u212A') :
    (Text.shiftCase Text.lowerRuns c).isLower = false := by
  unfold Text.shiftCase
  cases found : Text.lowerRuns.find? (·.covers c.toNat) with
  | none =>
    dsimp only
    by_contra small
    have := toNat_of_isLower (Bool.not_eq_false _ ▸ small)
    omega
  | some run =>
    have covered := List.find?_some found
    simp only [Text.CaseRun.covers, Bool.and_eq_true, decide_eq_true_eq] at covered
    refine not_isLower_ofNat ?_
    rcases runs_stay_beyond run (List.mem_of_find?_eq_some found) with ⟨first, last⟩ | stays
    · refine absurd (Char.ext (UInt32.toNat_inj.mp ?_)) other
      show c.toNat = 0x212A
      omega
    · omega

/-- The characters whose lower case is a given letter of ASCII. -/
theorem lowerChar_eq_letter_iff (small : letter.isLower) :
    Text.lowerChar c = [letter] ↔
      c.toNat < 0x80 ∧ c.toLower = letter ∨ c = '\u212A' ∧ letter = 'k' := by
  unfold Text.lowerChar
  by_cases ascii : c.toNat < 0x80
  · have other : c ≠ '\u212A' := by
      rintro rfl
      exact absurd ascii (by decide)
    simp [ascii, other]
  · rw [if_neg ascii]
    by_cases dotted : c = '\u0130'
    · subst dotted
      simp
    · rw [if_neg dotted]
      by_cases kelvin : c = '\u212A'
      · subst kelvin
        have moved : Text.shiftCase Text.lowerRuns '\u212A' = 'k' := by decide +kernel
        simp [moved, eq_comm]
      · have misses := shiftCase_of_beyond (Nat.le_of_not_lt ascii) kelvin
        simp only [List.cons.injEq, and_true, ascii, kelvin, false_and, or_self, iff_false]
        rintro rfl
        rw [misses] at small
        cases small

/-- Each character but one has a single lower case character, in whatever word it stands. Where
its place in the word matters, it is no letter of ASCII. -/
private theorem lowerFrom_cons (before : Bool) (c : Char) (rest : Text) :
    ∃ here behind, Text.lowerFrom before (c :: rest) = here ++ Text.lowerFrom behind rest ∧
      (c = '\u0130' ∧ here = ['i', '\u0307'] ∨
        ∃ d, here = [d] ∧ ∀ letter : Char, letter.isLower →
          (d = letter ↔ Text.lowerChar c = [letter])) := by
  refine ⟨_, _, rfl, ?_⟩
  by_cases sigma : c = 'Σ'
  · subst sigma
    have lowered : Text.lowerChar 'Σ' = ['σ'] := by decide +kernel
    right
    rw [if_pos rfl, lowered]
    split
    · refine ⟨'ς', rfl, fun letter small => ?_⟩
      constructor
      · rintro rfl
        cases small
      · rintro ⟨⟩
        cases small
    · exact ⟨'σ', rfl, fun letter _ => by simp⟩
  · rw [if_neg sigma]
    unfold Text.lowerChar
    split
    · exact .inr ⟨_, rfl, fun letter _ => by simp⟩
    · split
      · exact .inl ⟨‹_›, rfl⟩
      · exact .inr ⟨_, rfl, fun letter _ => by simp⟩

/-- Where the lower case of a text has letters of ASCII only, each of them comes from one character.
-/
theorem lowerFrom_eq_iff (before : Bool) {target text : Text}
    (small : ∀ letter ∈ target, letter.isLower) :
    Text.lowerFrom before text = target ↔
      List.Forall₂ (fun letter c => Text.lowerChar c = [letter]) target text := by
  induction text generalizing before target with
  | nil => simp [Text.lowerFrom, eq_comm]
  | cons c rest ih =>
    obtain ⟨here, behind, shape, ⟨rfl, rfl⟩ | ⟨d, rfl, single⟩⟩ := lowerFrom_cons before c rest
    · rw [shape]
      refine iff_of_false ?_ ?_
      · rintro rfl
        have mark := small '\u0307' (by simp)
        cases mark
      · intro pairs
        cases pairs with
        | cons first _ => simp [Text.lowerChar] at first
    · rw [shape]
      cases target with
      | nil => simp
      | cons letter target =>
        have later : ∀ other ∈ target, other.isLower := fun other inside =>
          small other (List.mem_cons_of_mem _ inside)
        rw [List.forall₂_cons, List.singleton_append, List.cons.injEq, ih behind later,
          single letter (small letter (List.mem_cons_self ..))]

theorem lower_eq_iff {target text : Text} (small : ∀ letter ∈ target, letter.isLower) :
    Text.lower text = target ↔
      List.Forall₂ (fun letter c => Text.lowerChar c = [letter]) target text :=
  lowerFrom_eq_iff false small

end LowerCase

/-! ### Looking an alias up -/

section Lookup
variable {name : Text} {tokenClass : TokenClass}

/-- The aliases have letters of ASCII only, and so has their lower case. -/
theorem lower_alias :
    ∀ entry ∈ table, Text.lower entry.2 = entry.2.map Char.toLower ∧
      entry.2.all fun letter => letter.toLower.isLower := by
  decide +kernel

/-- A character becomes the letter of an alias exactly if it spells it and is none of those that
stay unlisted. -/
private theorem lowerChar_iff_sameLetter {letter c : Char} (small : letter.toLower.isLower) :
    Text.lowerChar c = [letter.toLower] ↔ SameLetter letter c ∧ c ∉ unlisted := by
  rw [lowerChar_eq_letter_iff small]
  have ascii := toNat_of_isLower small
  constructor
  · rintro (⟨below, same⟩ | ⟨rfl, same⟩)
    · refine ⟨.inl same, ?_⟩
      simp only [unlisted, List.mem_cons, List.not_mem_nil, or_false]
      rintro (rfl | rfl | rfl) <;> exact absurd below (by decide)
    · exact ⟨.inr (.inr (.inr ⟨same, rfl⟩)), by decide⟩
  · rintro ⟨same | ⟨_, dotted⟩ | ⟨_, long⟩ | ⟨same, kelvin⟩, listed⟩
    · refine .inl ⟨?_, same⟩
      by_contra beyond
      rw [toLower_of_beyond (Nat.le_of_not_lt beyond)] at same
      exact beyond (same ▸ ascii)
    · exact absurd (by rcases dotted with rfl | rfl <;> decide) listed
    · exact absurd (by rw [long]; decide) listed
    · exact .inr ⟨kelvin, same⟩

/-- A name has the lower case of an alias exactly if it spells the alias and is plain. -/
private theorem lower_eq_alias_iff {entry : TokenClass × Text} (member : entry ∈ table) :
    Text.lower name = Text.lower entry.2 ↔ List.Forall₂ SameLetter entry.2 name ∧ Plain name := by
  obtain ⟨lowered, small⟩ := lower_alias entry member
  rw [List.all_eq_true] at small
  rw [lowered, lower_eq_iff (by simpa using small), List.forall₂_map_left_iff]
  generalize entry.2 = letters at small
  clear lowered
  induction letters generalizing name with
  | nil =>
    rw [List.forall₂_nil_left_iff, List.forall₂_nil_left_iff]
    exact ⟨fun empty => ⟨empty, by simp [empty, Plain]⟩, And.left⟩
  | cons letter letters ih =>
    cases name with
    | nil => simp
    | cons c rest =>
      have behind := @ih rest fun other inside => small other (List.mem_cons_of_mem _ inside)
      rw [List.forall₂_cons, List.forall₂_cons, behind,
        lowerChar_iff_sameLetter (small letter (List.mem_cons_self ..))]
      simp only [Plain, List.forall_mem_cons]
      tauto

theorem trim_of_free (free : '%' ∉ name) : Text.trim (· = '%') name = name := by
  have kept : ∀ c ∈ name, decide (c = '%') = false := by
    intro c inside
    simpa using fun same : c = '%' => free (same ▸ inside)
  apply Text.trim_eq_self
  · exact fun c first => kept c (List.mem_of_mem_head? first)
  · exact fun c last => kept c (List.mem_of_mem_getLast? last)

/-- A look-up gives the class of which a name spells an alias, if the name is plain. -/
theorem classOf?_eq_some_iff (free : '%' ∉ name) :
    classOf? name = some tokenClass ↔ Spells tokenClass name ∧ Plain name := by
  have listed : classOf? name = some tokenClass ↔
      ∃ entry ∈ table, entry.1 = tokenClass ∧ Text.lower name = Text.lower entry.2 := by
    rw [classOf?, trim_of_free free]
    constructor
    · intro found
      obtain ⟨entry, foundEntry, rfl⟩ := Option.map_eq_some_iff.mp found
      have same := List.find?_some foundEntry
      exact ⟨entry, List.mem_of_find?_eq_some foundEntry, rfl, by simpa [eq_comm] using same⟩
    · rintro ⟨entry, member, rfl, same⟩
      cases found : table.find? fun entry => Text.lower entry.2 = Text.lower name with
      | none =>
        have := List.find?_eq_none.mp found entry member
        exact absurd same.symm (by simpa using this)
      | some other =>
        -- no two aliases have the same lower case
        have otherMember := List.mem_of_find?_eq_some found
        have otherSame : Text.lower other.2 = Text.lower name := by
          simpa using List.find?_some found
        have letters := otherSame.trans same
        rw [(lower_alias _ otherMember).1, (lower_alias _ member).1] at letters
        rw [List.inj_on_of_nodup_map alias_names_distinct otherMember member letters]
        rfl
  rw [listed, spells_iff]
  constructor
  · rintro ⟨entry, member, rfl, same⟩
    obtain ⟨spelled, plain⟩ := (lower_eq_alias_iff member).mp same
    exact ⟨⟨entry, member, rfl, spelled⟩, plain⟩
  · rintro ⟨⟨entry, member, rfl, spelled⟩, plain⟩
    exact ⟨entry, member, rfl, (lower_eq_alias_iff member).mpr ⟨spelled, plain⟩⟩

/-- A name without signs is a token between two of them exactly if it spells an alias. -/
theorem isToken_iff (free : '%' ∉ name) : IsToken tokenClass name ↔ Spells tokenClass name := by
  have cut := pieces_segment free []
  have sign : pieces ['%'] = ['%'].map .character := pieces_last List.not_mem_nil
  rw [IsToken, occurrences, show written name = '%' :: name ++ ['%'] from rfl, cut,
    ← spelledClass?_eq_some_iff]
  cases spelledClass? name with
  | some other =>
    simp [pieces, occurrencesFrom, Piece.source, written]
  | none =>
    rw [sign, ← List.map_append, ← List.append_nil (List.map _ _), occurrencesFrom_characters]
    simp [occurrencesFrom]

/-- A token among the pieces of a text has the spelling of an alias of its class. -/
theorem spells_of_mem_pieces {text : Text} (member : .token tokenClass name ∈ pieces text) :
    Spells tokenClass name := by
  fun_induction pieces text with
  | case1 => simp at member
  | case2 rest otherClass spelling behind found ih =>
    rcases List.mem_cons.mp member with same | inside
    · cases same
      exact (token?_eq_some_iff.mp found).1
    · exact ih inside
  | case3 rest none ih => exact ih (by simpa using member)
  | case4 c rest other ih => exact ih (by simpa using member)

theorem mem_pieces_of_occurrence {offset : Nat} {parts : List Piece} {occurrence : Occurrence}
    (member : occurrence ∈ occurrencesFrom offset parts) :
    .token occurrence.tokenClass occurrence.spelling ∈ parts := by
  induction parts generalizing offset with
  | nil => simp [occurrencesFrom] at member
  | cons piece rest ih =>
    cases piece with
    | character c => exact List.mem_cons_of_mem _ (ih member)
    | token tokenClass spelling =>
      rcases List.mem_cons.mp member with rfl | inside
      · exact List.mem_cons_self ..
      · exact List.mem_cons_of_mem _ (ih inside)

/-- What spells an alias holds no sign. -/
theorem free_of_spells (spells : Spells tokenClass name) : '%' ∉ name := by
  obtain ⟨entry, member, _, spelled⟩ := spells_iff.mp spells
  exact spelling_has_no_sign member spelled

/-- A token behind a text without signs is replaced, whatever comes behind it. -/
theorem substitute_token (value : TokenClass → Text) {front : Text} (frontFree : '%' ∉ front)
    (spells : Spells tokenClass name) (behind : Text) :
    substitute value (front ++ written name ++ behind) =
      front ++ value tokenClass ++ substitute value behind := by
  have shape : front ++ written name ++ behind = front ++ ('%' :: name ++ '%' :: behind) := by
    simp [written]
  rw [shape, substitute_eq, substitute_eq, pieces_append frontFree,
    pieces_segment (free_of_spells spells), spelledClass?_eq_some_iff.mpr spells,
    List.flatMap_append, flatMap_shown_characters, List.flatMap_cons, shown, List.append_assoc]

/-- The command that lists tokens looks the alias that is given up, and lists its class only. -/
theorem runOn_tokens {options : Options} {machine : Machine} {context : Context}
    (selects : selected? machine.directory machine.environment options = some context)
    (given : options.lookup .aliasName = some name) :
    (Cli.tokens options).runOn machine = match classOf? name with
      | some tokenClass => (listing context (some tokenClass)).runOn machine
      | none => (report ("Token desconocido: ".toList ++
          written (Text.trim (· = '%') name))).runOn machine := by
  rw [Cli.tokens, runOn_withContext, selects]
  dsimp only
  rw [given]
  dsimp only
  cases classOf? name <;> rfl

/-- A look-up knows exactly the tokens without a character that stays unlisted, and knows them with
their class. So of the tokens that are replaced in a text it knows the plain ones, and what it knows
is replaced wherever it stands between signs; the command that lists tokens takes any other alias
for an unknown one. -/
theorem lookup_knows_plain_tokens (value : TokenClass → Text) :
    (∀ name tokenClass, '%' ∉ name →
      (classOf? name = some tokenClass ↔ IsToken tokenClass name ∧ Plain name)) ∧
    (∀ text, ∀ occurrence ∈ occurrences text, '%' ∉ occurrence.spelling ∧
      IsToken occurrence.tokenClass occurrence.spelling ∧
      classOf? occurrence.spelling =
        if Plain occurrence.spelling then some occurrence.tokenClass else none) ∧
    (∀ front name behind tokenClass, '%' ∉ front → '%' ∉ name →
      classOf? name = some tokenClass →
        substitute value (front ++ written name ++ behind) =
          front ++ value tokenClass ++ substitute value behind) ∧
    ∀ options machine context name,
      selected? machine.directory machine.environment options = some context →
      options.lookup .aliasName = some name → '%' ∉ name →
        (∀ tokenClass, IsToken tokenClass name → Plain name →
          (Cli.tokens options).runOn machine =
            (listing context (some tokenClass)).runOn machine) ∧
        ((∀ tokenClass, IsToken tokenClass name → ¬ Plain name) →
          (Cli.tokens options).runOn machine =
            (report ("Token desconocido: ".toList ++ written name)).runOn machine) := by
  have knows : ∀ name tokenClass, '%' ∉ name →
      (classOf? name = some tokenClass ↔ IsToken tokenClass name ∧ Plain name) := by
    intro name tokenClass free
    rw [classOf?_eq_some_iff free, isToken_iff free]
  refine ⟨knows, ?_, ?_, ?_⟩
  · intro text occurrence member
    have spells := spells_of_mem_pieces (mem_pieces_of_occurrence member)
    have free := free_of_spells spells
    have isToken := (isToken_iff free).mpr spells
    refine ⟨free, isToken, ?_⟩
    split
    · exact (knows _ _ free).mpr ⟨isToken, ‹_›⟩
    · rw [Option.eq_none_iff_forall_ne_some]
      intro tokenClass found
      exact absurd ((knows _ _ free).mp found).2 ‹_›
  · intro front name behind tokenClass frontFree free found
    exact substitute_token value frontFree ((classOf?_eq_some_iff free).mp found).1 behind
  · intro options machine context name selects given free
    rw [runOn_tokens selects given]
    constructor
    · intro tokenClass isToken plain
      rw [(knows name tokenClass free).mpr ⟨isToken, plain⟩]
    · intro unknown
      have missing : classOf? name = none := by
        rw [Option.eq_none_iff_forall_ne_some]
        intro tokenClass found
        obtain ⟨isToken, plain⟩ := (knows name tokenClass free).mp found
        exact unknown tokenClass isToken plain
      rw [missing, trim_of_free free]

/-- The Kelvin sign is a `k` to a look-up too; the dotted capital is a letter to a text only. -/
theorem lookup_knows_plain_tokens_kelvin :
    let value : TokenClass → Text := fun tokenClass => tokenClass.name
    let kelvin := "wor\u212AspaceROOT".toList
    let dotted := "projD\u0130r".toList
    let text := written kelvin ++ written dotted
    let options : Options := [(.aliasName, dotted), (.project, "/p".toList)]
    let machine : Machine := { files := { entries := [] }, directory := [] }
    ('%' ∉ kelvin ∧ classOf? kelvin = some .workspaceRoot) ∧
      (⟨15, 24, .projectRoot, dotted⟩ ∈ occurrences text ∧ classOf? dotted = none) ∧
      substitute value ("a".toList ++ written kelvin ++ "b".toList) =
        "a".toList ++ value .workspaceRoot ++ substitute value "b".toList ∧
      ∃ context, selected? machine.directory machine.environment options = some context ∧
        (Cli.tokens options).runOn machine =
          (report ("Token desconocido: ".toList ++ written dotted)).runOn machine := by
  intro value kelvin dotted text options machine
  obtain ⟨knows, occur, replaces, lists⟩ := lookup_knows_plain_tokens value
  have kelvinFree : '%' ∉ kelvin := by decide
  have dottedFree : '%' ∉ dotted := by decide
  have known : classOf? kelvin = some .workspaceRoot :=
    (knows kelvin .workspaceRoot kelvinFree).mpr ⟨by decide +kernel, by decide⟩
  have occurs : (⟨15, 24, .projectRoot, dotted⟩ : Occurrence) ∈ occurrences text := by
    decide +kernel
  have notPlain : ¬ Plain dotted := by decide
  have unknown : classOf? dotted = none := (occur text _ occurs).2.2.trans (if_neg notPlain)
  refine ⟨⟨kelvinFree, known⟩, ⟨occurs, unknown⟩,
    replaces _ kelvin _ _ (by decide) kelvinFree known, _, rfl, ?_⟩
  exact (lists options machine _ dotted rfl rfl dottedFree).2 fun _ _ => notPlain

/-- A text holds tokens that no look-up knows: `i` with a dot on its capital or without any dot, and
the long `s`, are letters of an alias between signs only. What is replaced in a text is reported as
unknown by the command that lists tokens. -/
theorem lookup_misses_tokens :
    (∀ entry ∈ [(TokenClass.projectRoot, "projD\u0130r".toList),
        (.projectRoot, "projD\u0131r".toList),
        (.projectRootPortable, "projDirForBa\u017Fh".toList)],
      '%' ∉ entry.2 ∧ IsToken entry.1 entry.2 ∧ classOf? entry.2 = none) ∧
    (let context : Context := ⟨['W'], ['P'], ['/', 'W'], ['/', 'P'], ['N']⟩
      let machine : Machine := { files := { entries := [] }, directory := [] }
      let options : Options := [(.aliasName, "projD\u0130r".toList), (.project, "/p".toList)]
      substitute context.value "%projD\u0130r%".toList = ['P'] ∧
        (Cli.tokens options).runOn machine =
          (report "Token desconocido: %projD\u0130r%".toList).runOn machine) := by
  constructor
  · decide +kernel
  · intro context machine options
    have unknown : classOf? "projD\u0130r".toList = none := by decide +kernel
    have selects : selected? machine.directory machine.environment options = some _ := rfl
    refine ⟨by decide +kernel, ?_⟩
    rw [runOn_tokens selects rfl, unknown]
    rfl

end Lookup
end DebugLaunch.AliasLookup
