import DebugLaunch.Proofs.AliasLookup
import DebugLaunch.Proofs.NamesIgnoringCase
import Mathlib.Data.List.Chain
import Mathlib.Data.List.Find

/-! A token in a template is replaced before any variable is looked up, so a variable with the name
of an alias is not seen there. Variables are looked up in the text with the values in it, though,
and around a value the text on both sides may join with it to a reference that no part of it was. A
reference to an alias that is met at last has always come about like that, since one that stood in
the template would have been a token. Which names are those of aliases is the same before and after
the change to upper case that looking up a variable makes. -/
namespace DebugLaunch.TokenPrecedence
open Token TokenSegments AliasLookup NamesIgnoringCase PercentDivision

/-- A name is that of some alias, in any case. -/
def AliasNamed (name : Text) : Prop := ∃ entry ∈ table, List.Forall₂ SameLetter entry.2 name

instance (name : Text) : Decidable (AliasNamed name) :=
  inferInstanceAs (Decidable (∃ entry ∈ table, List.Forall₂ SameLetter entry.2 name))

/-- The variables without the name of an alias. -/
def others (environment : Environment) : Environment :=
  environment.filter fun entry => ¬ AliasNamed entry.1

/-- Between two signs of a text that belong to no token, a token stands, and an alias is read there
when the values are put in. -/
def JoinsAlias (value : TokenClass → Text) (text : Text) : Prop :=
  ∃ front inner behind, pieces text =
      front ++ .character '%' :: (inner ++ .character '%' :: behind) ∧
    (∃ tokenClass spelling, .token tokenClass spelling ∈ inner) ∧
    AliasNamed (inner.flatMap (shown value))

private theorem exists_spells {name : Text} (named : AliasNamed name) :
    ∃ tokenClass, Spells tokenClass name := by
  obtain ⟨entry, member, spelled⟩ := named
  exact ⟨entry.1, spells_iff.mpr ⟨entry, member, rfl, spelled⟩⟩

/-! ### Names in upper case -/

section UpperCase
variable {letter c u : Char} {letters name key : Text}

/-- The characters that a spelling of a letter can become in upper case. -/
def IsCapital (letter u : Char) : Prop :=
  u = letter.toUpper ∨ (letter.toLower = 'i' ∧ u = '\u0130') ∨
    (letter.toLower = 'k' ∧ u = '\u212A')

/-- A number beyond ASCII that is not the number of a capital. -/
def IsOther (n : Nat) : Prop := 0x80 ≤ n ∧ n ≠ 0x130 ∧ n ≠ 0x212A

instance (n : Nat) : Decidable (IsOther n) :=
  inferInstanceAs (Decidable (0x80 ≤ n ∧ n ≠ 0x130 ∧ n ≠ 0x212A))

/-- The number that a character beyond ASCII has in upper case, as far as capitals are concerned. -/
inductive Moves : Char → Nat → Prop where
  | dotless : Moves '\u0131' 0x49
  | long : Moves '\u017F' 0x53
  | dotted : Moves '\u0130' 0x130
  | kelvin : Moves '\u212A' 0x212A
  | other {c : Char} {n : Nat} (other : IsOther n) : Moves c n

/-- Two capitals that are the upper case of one character, or the front of it. -/
def ligatures : List (Nat × Nat) :=
  [(0x53, 0x53), (0x46, 0x46), (0x46, 0x49), (0x46, 0x4C), (0x53, 0x54)]

private theorem ascii_case_numbers :
    ∀ n < 0x80, (Char.ofNat n).toLower.toUpper = (Char.ofNat n).toUpper ∧
      (Char.ofNat n).toUpper.toLower = (Char.ofNat n).toLower ∧
      (Char.ofNat n).toUpper.toNat < 0x80 := by
  decide

/-- Among the characters of ASCII, having one upper case is having one lower case. -/
private theorem ascii_case (ascii : c.toNat < 0x80) :
    c.toLower.toUpper = c.toUpper ∧ c.toUpper.toLower = c.toLower ∧ c.toUpper.toNat < 0x80 := by
  have := ascii_case_numbers c.toNat ascii
  rwa [Char.ofNat_toNat] at this

private theorem ascii_of_toLower (small : c.toLower.isLower) : c.toNat < 0x80 := by
  by_contra beyond
  rw [toLower_of_beyond (Nat.le_of_not_lt beyond)] at small
  exact beyond (toNat_of_isLower small)

/-- A spelling of a letter has one character for its upper case. -/
private theorem upperChar_of_sameLetter (small : letter.toLower.isLower)
    (same : SameLetter letter c) : ∃ u, Text.upperChar c = [u] ∧ IsCapital letter u := by
  have capital : ∀ {d : Char}, letter.toLower = d → d.toUpper = letter.toUpper := by
    rintro d rfl
    exact (ascii_case (ascii_of_toLower small)).1
  rcases same with same | ⟨isI, rfl | rfl⟩ | ⟨isS, rfl⟩ | ⟨isK, rfl⟩
  · have ascii : c.toNat < 0x80 := ascii_of_toLower (same ▸ small)
    refine ⟨c.toUpper, by rw [Text.upperChar, if_pos ascii], .inl ?_⟩
    rw [← (ascii_case ascii).1, capital same.symm]
  · exact ⟨'\u0130', by decide +kernel, .inr (.inl ⟨isI, rfl⟩)⟩
  · exact ⟨'I', by decide +kernel, .inl (capital isI)⟩
  · exact ⟨'S', by decide +kernel, .inl (capital isS)⟩
  · exact ⟨'\u212A', by decide +kernel, .inr (.inr ⟨isK, rfl⟩)⟩

private theorem toNat_of_isCapital (small : letter.toLower.isLower) (capital : IsCapital letter u) :
    u = letter.toUpper ∧ 0 < u.toNat ∧ u.toNat < 0x80 ∨ u.toNat = 0x130 ∨ u.toNat = 0x212A := by
  rcases capital with rfl | ⟨_, rfl⟩ | ⟨_, rfl⟩
  · have ascii := ascii_case (ascii_of_toLower small)
    refine .inl ⟨rfl, Nat.pos_of_ne_zero fun zero => ?_, ascii.2.2⟩
    -- the null character is no letter
    have null : letter.toUpper = '\x00' := Char.ext (UInt32.toNat_inj.mp zero)
    rw [← ascii.2.1, null] at small
    cases small
  · exact .inr (.inl rfl)
  · exact .inr (.inr rfl)

/-- A number that gives a capital of a letter and is in ASCII is that of the letter. -/
private theorem number_of_isCapital {n : Nat} (small : letter.toLower.isLower)
    (capital : IsCapital letter (Char.ofNat n)) :
    letter.toUpper.toNat = n ∧ n < 0x80 ∨ n = 0x130 ∨ n = 0x212A := by
  have number : (Char.ofNat n).toNat = n ∨ (Char.ofNat n).toNat = 0 :=
    (toNat_ofNat_or_null n).imp_right (congrArg Char.toNat)
  rcases toNat_of_isCapital small capital with ⟨same, positive, ascii⟩ | dotted | kelvin
  · rw [← same]
    omega
  · omega
  · omega

private theorem not_isCapital_of_isOther {n : Nat} (small : letter.toLower.isLower)
    (other : IsOther n) : ¬ IsCapital letter (Char.ofNat n) := by
  intro capital
  have number := number_of_isCapital small capital
  obtain ⟨beyond, noDotted, noKelvin⟩ := other
  omega

/-- Of the characters that move to one upper case character, only the dotless `i` and the long `s`
move to a capital. -/
private theorem runs_leave_capitals :
    ∀ run ∈ Text.upperRuns, run.first = 0x131 ∧ run.last = 0x131 ∧ run.shift = -232 ∨
      run.first = 0x17F ∧ run.last = 0x17F ∧ run.shift = -300 ∨
      (0x80 : Int) ≤ run.first + run.shift ∧
        (run.last + run.shift < 0x130 ∨ (0x130 : Int) < run.first + run.shift) ∧
        (run.last + run.shift < 0x212A ∨ (0x212A : Int) < run.first + run.shift) := by
  decide +kernel

/-- The upper case of several characters begins with a ligature, or with a character that is no
capital in its first two places. -/
private theorem sequences_begin :
    ∀ entry ∈ Text.upperSequences, ∃ a ∈ entry.2.head?, ∃ b ∈ entry.2.tail.head?,
      (a, b) ∈ ligatures ∨ IsOther a ∨ IsOther b := by
  decide +kernel

/-- In upper case, a character beyond ASCII is one character or begins with two of them. -/
private theorem upperChar_of_beyond (beyond : 0x80 ≤ c.toNat) :
    (∃ n, Text.upperChar c = [Char.ofNat n] ∧ Moves c n) ∨
    ∃ a b tail, Text.upperChar c = Char.ofNat a :: Char.ofNat b :: tail ∧
      ((a, b) ∈ ligatures ∨ IsOther a ∨ IsOther b) := by
  have numbered : ∀ {d : Char}, c.toNat = d.toNat → c = d := fun same =>
    Char.ext (UInt32.toNat_inj.mp same)
  rw [Text.upperChar, if_neg (Nat.not_lt.mpr beyond)]
  cases listed : Text.upperSequences.lookup c.toNat with
  | some sequence =>
    right
    obtain ⟨front, behind, whole, _⟩ := List.lookup_eq_some_iff.mp listed
    obtain ⟨a, first, b, second, begins⟩ :=
      sequences_begin (c.toNat, sequence) (by simp [whole])
    obtain ⟨rest, rfl⟩ := List.head?_eq_some_iff.mp first
    obtain ⟨tail, rfl⟩ := List.head?_eq_some_iff.mp second
    exact ⟨a, b, tail.map Char.ofNat, rfl, begins⟩
  | none =>
    left
    dsimp only
    unfold Text.shiftCase
    cases found : Text.upperRuns.find? (·.covers c.toNat) with
    | none =>
      refine ⟨c.toNat, by rw [Char.ofNat_toNat], ?_⟩
      by_cases dotted : c.toNat = 0x130
      · obtain rfl : c = '\u0130' := numbered dotted
        exact .dotted
      · by_cases kelvin : c.toNat = 0x212A
        · obtain rfl : c = '\u212A' := numbered kelvin
          exact .kelvin
        · exact .other ⟨beyond, dotted, kelvin⟩
    | some run =>
      refine ⟨_, rfl, ?_⟩
      have covered := List.find?_some found
      simp only [Text.CaseRun.covers, Bool.and_eq_true, decide_eq_true_eq] at covered
      rcases runs_leave_capitals run (List.mem_of_find?_eq_some found) with
        ⟨first, last, shift⟩ | ⟨first, last, shift⟩ | stays
      · have dotless : c.toNat = 0x131 := by omega
        obtain rfl : c = '\u0131' := numbered dotless
        rw [show ('\u0131'.toNat + run.shift).toNat = 0x49 by omega]
        exact .dotless
      · have long : c.toNat = 0x17F := by omega
        obtain rfl : c = '\u017F' := numbered long
        rw [show ('\u017F'.toNat + run.shift).toNat = 0x53 by omega]
        exact .long
      · refine .other ?_
        unfold IsOther
        omega

private theorem sameLetter_of_moves {n : Nat} (small : letter.toLower.isLower) (moves : Moves c n)
    (capital : IsCapital letter (Char.ofNat n)) : SameLetter letter c := by
  obtain ⟨_, lower, ascii⟩ := ascii_case (ascii_of_toLower small)
  cases moves with
  | dotless =>
    rcases capital with same | ⟨isI, _⟩ | ⟨_, same⟩
    · exact .inr (.inl ⟨lower.symm.trans (same ▸ rfl), .inr rfl⟩)
    · exact .inr (.inl ⟨isI, .inr rfl⟩)
    · cases same
  | long =>
    rcases capital with same | ⟨_, same⟩ | ⟨_, same⟩
    · exact .inr (.inr (.inl ⟨lower.symm.trans (same ▸ rfl), rfl⟩))
    · cases same
    · cases same
  | dotted =>
    rcases capital with same | ⟨isI, _⟩ | ⟨_, same⟩
    · exact absurd (same ▸ ascii) (by decide)
    · exact .inr (.inl ⟨isI, .inl rfl⟩)
    · cases same
  | kelvin =>
    rcases capital with same | ⟨_, same⟩ | ⟨isK, _⟩
    · exact absurd (same ▸ ascii) (by decide)
    · cases same
    · exact .inr (.inr (.inr ⟨isK, rfl⟩))
  | other other => exact absurd capital (not_isCapital_of_isOther small other)

/-- What becomes a capital of a letter spells the letter. -/
private theorem sameLetter_of_upperChar (small : letter.toLower.isLower)
    (upper : Text.upperChar c = [u]) (capital : IsCapital letter u) : SameLetter letter c := by
  have numbers := toNat_of_isCapital small capital
  by_cases ascii : c.toNat < 0x80
  · rw [Text.upperChar, if_pos ascii, List.cons.injEq] at upper
    obtain ⟨rfl, _⟩ := upper
    obtain ⟨_, lower, upperAscii⟩ := ascii_case ascii
    rcases numbers with ⟨same, _⟩ | dotted | kelvin
    · left
      rw [← lower, same, (ascii_case (ascii_of_toLower small)).2.1]
    · omega
    · omega
  · rcases upperChar_of_beyond (Nat.le_of_not_lt ascii) with
      ⟨n, shape, moves⟩ | ⟨a, b, tail, shape, _⟩
    · rw [shape, List.cons.injEq] at upper
      exact sameLetter_of_moves small moves (upper.1 ▸ capital)
    · rw [shape] at upper
      cases upper

/-- The upper case of what spells an alias is a capital for each letter. -/
private theorem capitals_of_spelled (small : ∀ letter ∈ letters, letter.toLower.isLower)
    (spelled : List.Forall₂ SameLetter letters name) :
    List.Forall₂ IsCapital letters (Text.upper name) := by
  induction spelled with
  | nil => exact .nil
  | cons same _ ih =>
    obtain ⟨u, shape, capital⟩ := upperChar_of_sameLetter (small _ (List.mem_cons_self ..)) same
    rw [Text.upper, List.flatMap_cons, shape]
    exact .cons capital (ih fun other inside => small other (List.mem_cons_of_mem _ inside))

/-- Capitals that come from one character are a ligature. -/
private theorem mem_ligatures {first second : Char} {a b : Nat} (smallFirst : first.toLower.isLower)
    (smallSecond : second.toLower.isLower) (isFirst : IsCapital first (Char.ofNat a))
    (isSecond : IsCapital second (Char.ofNat b))
    (kind : (a, b) ∈ ligatures ∨ IsOther a ∨ IsOther b) :
    (first.toUpper.toNat, second.toUpper.toNat) ∈ ligatures := by
  rcases kind with ligature | other | other
  · have ascii : ∀ pair ∈ ligatures, pair.1 < 0x80 ∧ pair.2 < 0x80 := by decide
    have below := ascii _ ligature
    have firstNumber := number_of_isCapital smallFirst isFirst
    have secondNumber := number_of_isCapital smallSecond isSecond
    obtain rfl : first.toUpper.toNat = a := by omega
    obtain rfl : second.toUpper.toNat = b := by omega
    exact ligature
  · exact absurd isFirst (not_isCapital_of_isOther smallFirst other)
  · exact absurd isSecond (not_isCapital_of_isOther smallSecond other)

/-- Capitals that are no ligatures come from one character each, and these spell the letters. -/
private theorem spelled_of_capitals (small : ∀ letter ∈ letters, letter.toLower.isLower)
    (apart : letters.IsChain fun first second =>
      (first.toUpper.toNat, second.toUpper.toNat) ∉ ligatures)
    (capitals : List.Forall₂ IsCapital letters (Text.upper name)) :
    List.Forall₂ SameLetter letters name := by
  induction name generalizing letters with
  | nil =>
    cases capitals
    exact .nil
  | cons c rest ih =>
    rw [Text.upper, List.flatMap_cons] at capitals
    by_cases single : ∃ u, Text.upperChar c = [u]
    · obtain ⟨u, shape⟩ := single
      rw [shape] at capitals
      cases capitals with
      | cons capital behind =>
        have smallBehind := fun other inside => small other (List.mem_cons_of_mem _ inside)
        exact .cons (sameLetter_of_upperChar (small _ (List.mem_cons_self ..)) shape capital)
          (ih smallBehind apart.tail behind)
    · have beyond : 0x80 ≤ c.toNat := by
        by_contra ascii
        exact single ⟨_, by rw [Text.upperChar, if_pos (Nat.not_le.mp ascii)]⟩
      rcases upperChar_of_beyond beyond with ⟨n, shape, _⟩ | ⟨a, b, tail, shape, kind⟩
      · exact absurd ⟨_, shape⟩ single
      · rw [shape] at capitals
        cases capitals with
        | @cons first _ letters _ isFirst behind =>
          cases behind with
          | @cons second _ letters _ isSecond behind =>
            have ligature := mem_ligatures (small first (by simp)) (small second (by simp))
              isFirst isSecond kind
            exact absurd ligature (List.isChain_cons_cons.mp apart).1

private theorem alias_capitals :
    ∀ entry ∈ table, entry.2.IsChain fun first second =>
      (first.toUpper.toNat, second.toUpper.toNat) ∉ ligatures := by
  decide +kernel

/-- Whether a name is that of an alias can be seen from its upper case. -/
theorem aliasNamed_of_upper (named : AliasNamed key) (same : Text.upper key = Text.upper name) :
    AliasNamed name := by
  obtain ⟨entry, member, spelled⟩ := named
  have small := List.all_eq_true.mp (lower_alias entry member).2
  have capitals := same ▸ capitals_of_spelled small spelled
  exact ⟨entry, member, spelled_of_capitals small (alias_capitals entry member) capitals⟩

end UpperCase

/-! ### Looking up names that no alias has -/

section Lookup
variable {environment : Environment} {name : Text}

private theorem get?_others (unnamed : ¬ AliasNamed name) :
    (others environment).get? name = environment.get? name := by
  induction environment with
  | nil => rfl
  | cons entry rest ih =>
    obtain ⟨key, value⟩ := entry
    rw [Environment.get?, Environment.get?] at ih ⊢
    by_cases named : AliasNamed key
    · have other : (name == key) = false := by
        rw [beq_eq_false_iff_ne]
        rintro rfl
        exact unnamed named
      simpa [others, named, List.lookup_cons, other] using ih
    · simp [others, named, List.lookup_cons, ← ih]

/-- Variables with the names of aliases are not seen under another name. -/
theorem getIgnoringCase?_others (unnamed : ¬ AliasNamed name) :
    (others environment).getIgnoringCase? name = environment.getIgnoringCase? name := by
  rw [Environment.getIgnoringCase?, Environment.getIgnoringCase?, get?_others unnamed, others,
    List.find?_filter, List.find?_congr fun entry _ => ?_]
  have unnamedToo : Text.upper entry.1 = Text.upper name → ¬ AliasNamed entry.1 :=
    fun same named => unnamed (aliasNamed_of_upper named same)
  simpa using unnamedToo

end Lookup

/-! ### Signs of the text with its values -/

section Signs
variable {value : TokenClass → Text} {text : Text}

/-- Pieces behind others are the pieces of the text that they stand in. -/
private theorem pieces_behind {front behind : List Piece} (cut : pieces text = front ++ behind) :
    pieces (behind.flatMap Piece.source) = behind := by
  suffices rest : ∃ rest, pieces rest = behind by
    obtain ⟨rest, rfl⟩ := rest
    rw [sources_pieces]
  induction front generalizing text with
  | nil => exact ⟨text, cut⟩
  | cons piece front ih =>
    -- the first piece is followed by the pieces of what it leaves
    unfold pieces at cut
    split at cut
    · cases cut
    · split at cut
      · split at cut
        · exact ih (List.cons.inj cut).2
        · exact ih (List.cons.inj cut).2
      · exact ih (List.cons.inj cut).2

/-- A sign that is no part of a value belongs to no token either. -/
private theorem exists_sign (free : ∀ tokenClass, '%' ∉ value tokenClass) {parts : List Piece}
    {front behind : Text} (shows : parts.flatMap (shown value) = front ++ '%' :: behind) :
    ∃ before after, parts = before ++ .character '%' :: after ∧
      before.flatMap (shown value) = front ∧ after.flatMap (shown value) = behind := by
  induction parts generalizing front with
  | nil => simp at shows
  | cons piece parts ih =>
    rw [List.flatMap_cons] at shows
    by_cases sign : '%' ∈ shown value piece
    · cases piece with
      | token tokenClass spelling => exact absurd sign (free tokenClass)
      | character c =>
        obtain rfl : '%' = c := by simpa [shown] using sign
        cases front with
        | nil => exact ⟨[], parts, rfl, rfl, (List.cons.inj shows).2⟩
        | cons d front =>
          obtain ⟨rfl, left⟩ := List.cons.inj shows
          obtain ⟨before, after, rfl, rfl, later⟩ := ih left
          exact ⟨.character '%' :: before, after, rfl, rfl, later⟩
    · rcases List.append_eq_append_iff.mp shows with ⟨more, rfl, left⟩ | ⟨more, whole, left⟩
      · obtain ⟨before, after, rfl, rfl, later⟩ := ih left
        exact ⟨piece :: before, after, rfl, rfl, later⟩
      · cases more with
        | nil =>
          obtain ⟨before, after, rfl, nothing, later⟩ := @ih [] left.symm
          exact ⟨piece :: before, after, rfl, by simp [nothing, whole], later⟩
        | cons d more =>
          obtain ⟨rfl, _⟩ := List.cons.inj left
          exact absurd (whole ▸ List.mem_append_right _ (List.mem_cons_self ..)) sign

private theorem eq_characters {parts : List Piece}
    (none : ∀ tokenClass spelling, .token tokenClass spelling ∉ parts) :
    (parts.flatMap (shown value)).map .character = parts := by
  induction parts with
  | nil => rfl
  | cons piece parts ih =>
    have behind := ih fun tokenClass spelling inside =>
      none tokenClass spelling (List.mem_cons_of_mem _ inside)
    cases piece with
    | character c => exact congrArg _ behind
    | token tokenClass spelling => exact absurd (List.mem_cons_self ..) (none tokenClass spelling)

/-- Between two signs of the text with its values, the name of an alias is read exactly where it was
joined. One that stood in the text is not there any more. -/
theorem joinsAlias_iff (free : ∀ tokenClass, '%' ∉ value tokenClass) :
    JoinsAlias value text ↔ ∃ before name rest,
      substitute value text = before ++ '%' :: name ++ '%' :: rest ∧ AliasNamed name := by
  rw [substitute_eq]
  constructor
  · rintro ⟨front, inner, behind, cut, _, named⟩
    exact ⟨front.flatMap (shown value), inner.flatMap (shown value),
      behind.flatMap (shown value), by simp [cut, shown], named⟩
  · rintro ⟨before, name, rest, shape, named⟩
    rw [List.append_assoc, List.cons_append] at shape
    obtain ⟨front, later, cut, rfl, opens⟩ := exists_sign free shape
    obtain ⟨inner, behind, rfl, shows, rfl⟩ := exists_sign free opens
    refine ⟨front, inner, behind, cut, ?_, shows ▸ named⟩
    by_contra none
    -- without a token the name stands in the text, and there it is one with both signs
    obtain rfl : name.map .character = inner := shows ▸ eq_characters fun tokenClass spelling
      inside => none ⟨tokenClass, spelling, inside⟩
    have stood := pieces_behind cut
    have source : (name.map Piece.character).flatMap Piece.source = name := by
      simp [List.flatMap_map, Piece.source]
    obtain ⟨tokenClass, spells⟩ := exists_spells named
    rw [List.flatMap_cons, List.flatMap_append, List.flatMap_cons, source] at stood
    have segment := pieces_segment (free_of_spells spells) (behind.flatMap Piece.source)
    rw [spelledClass?_eq_some_iff.mpr spells] at segment
    cases segment.symm.trans stood

end Signs

/-! ### Environments that differ in the names of aliases -/

/-- A variable that is referred to leaves its mark on the text if its value is long enough. -/
private theorem expand_ne_of_reference {text before name rest : Text} (nonempty : name ≠ [])
    (free : '%' ∉ name) (shape : text = before ++ '%' :: name ++ '%' :: rest) :
    Reference.Percent.expand [(name, List.replicate (text.length + 1) 'x')] text ≠
      Reference.Percent.expand [] text := by
  have known : IsKnown [(name, List.replicate (text.length + 1) 'x')] name :=
    ⟨nonempty, free, by simp [Environment.getIgnoringCase?, Environment.get?]⟩
  have inside : Inside [(name, List.replicate (text.length + 1) 'x')] text :=
    ⟨before, name ++ '%' :: rest, by simp [shape], name, rest, rfl, known⟩
  have unset : ¬ Inside [] text := by
    rintro ⟨_, _, _, other, _, _, otherKnown⟩
    exact absurd otherKnown.2.2 (by simp [Environment.getIgnoringCase?, Environment.get?])
  obtain ⟨front, other, value, behind, found, expands⟩ := exists_value_of_inside inside
  have long : value = List.replicate (text.length + 1) 'x' := by
    have member := mem_of_getIgnoringCase? found
    simp only [upperNames, List.map_cons, List.map_nil, List.mem_singleton] at member
    exact (Prod.mk.inj member).2
  rw [expand_of_not_inside unset, expands, long]
  intro same
  have := congrArg List.length same
  simp at this
  omega

/-- Variables with the names of aliases are seen in a text exactly if it joins such a name. So as
long as it joins none, the tokens of the text have their values in all environments with the same
other variables, and else there are two of these environments that give different texts. -/
theorem tokens_win_iff_nothing_joined (context : Context) (text : Text)
    (free : ∀ tokenClass, '%' ∉ context.value tokenClass) :
    (∀ first second : Environment, others first = others second →
      context.resolve .percent first text = context.resolve .percent second text) ↔
      ¬ JoinsAlias context.value text := by
  rw [joinsAlias_iff free]
  constructor
  · rintro alike ⟨before, name, rest, shape, named⟩
    have nonempty : name ≠ [] := by
      rintro rfl
      exact absurd named (by decide)
    obtain ⟨tokenClass, spells⟩ := exists_spells named
    have onlyNamed : ∀ value, others [(name, value)] = others [] := by simp [others, named]
    exact expand_ne_of_reference nonempty (free_of_spells spells) shape (alike _ _ (onlyNamed _))
  · intro nothing first second same
    refine expand_congr fun before name rest shape _ => ?_
    have unnamed : ¬ AliasNamed name := fun named => nothing ⟨before, name, rest, shape, named⟩
    rw [← getIgnoringCase?_others unnamed, same, getIgnoringCase?_others unnamed]

/-- The sign behind a token and the sign behind `root` look like a reference, but the first one
belongs to the token. -/
theorem tokens_win_iff_nothing_joined_shared_sign :
    let context : Context :=
      ⟨"/ws".toList, "/ws/app".toList, "/ws".toList, "/ws/app".toList, "app".toList⟩
    let text := "%ROOTDIR%root%".toList
    (∀ tokenClass, '%' ∉ context.value tokenClass) ∧ ¬ JoinsAlias context.value text ∧
      others [("root".toList, ['x'])] = others [] ∧
      context.resolve .percent [("root".toList, ['x'])] text =
        context.resolve .percent [] text := by
  intro context text
  have free : ∀ tokenClass, '%' ∉ context.value tokenClass := by
    intro tokenClass
    cases tokenClass <;> decide
  have nothing : ¬ JoinsAlias context.value text := by
    rintro ⟨front, inner, behind, cut, _⟩
    have signs := congrArg (List.count (.character '%')) cut
    have one : (pieces text).count (.character '%') = 1 := by decide +kernel
    simp [one] at signs
    omega
  have alike : others [("root".toList, ['x'])] = others [] := by decide
  exact ⟨free, nothing, alike,
    (tokens_win_iff_nothing_joined context text free).mpr nothing _ _ alike⟩

/-- Around the empty name of a project, the text on both sides joins to a reference to `root`, and
the variable with that name is put in. -/
theorem tokens_lose_where_joined :
    let context : Context :=
      ⟨"/ws".toList, "/ws/app".toList, "/ws".toList, "/ws/app".toList, []⟩
    let text := "%ro%projName%ot%".toList
    let first : Environment := [("root".toList, ['x'])]
    Context.ofSelection? ⟨some "/ws".toList, some "/ws/app".toList, some []⟩ = some context ∧
      (∀ tokenClass, '%' ∉ context.value tokenClass) ∧ others first = others [] ∧
      context.resolve .percent first text = ['x'] ∧
      context.resolve .percent first text ≠ context.resolve .percent [] text := by
  intro context text first
  refine ⟨by decide, ?_, by decide, by decide +kernel, by decide +kernel⟩
  intro tokenClass
  cases tokenClass <;> decide

end DebugLaunch.TokenPrecedence
