import DebugLaunch.Reference
import Mathlib.Logic.ExistsUnique

/-! Behind a dollar sign, the standard expansion of paths takes names of ASCII letters, digits and
underscores. Here a name without braces goes on with the letters and numbers of every script, so
that one of them behind a name makes it another name. Expansion is described by rules that leave
open which characters a bare name has: both expansions follow them, and they agree on a text in
every environment exactly if the bare names of the text are ASCII. -/
namespace DebugLaunch.DollarReferences
open Reference Dollar

/-- A character of a bare name for the standard expansion. -/
def isStandard (c : Char) : Bool := c.isAlphanum || c = '_'

/-- A reference begins behind a dollar sign: a bare name, or a name in braces. -/
def Opens (isName : Char → Bool) (text : Text) : Prop :=
  (∃ c ∈ text.head?, isName c) ∨ ∃ name rest, text = '\x7b' :: name ++ '\x7d' :: rest

/-- How a text is expanded from left to right, where `isName` tells the characters of bare names. A
bare name is as long as it can be, and a name in braces ends at the first closing one. A reference
to a variable that is not set stays, and so does a sign that opens none. -/
inductive Expands (isName : Char → Bool) (environment : Environment) : Text → Text → Prop where
  | done : Expands isName environment [] []
  | other {c : Char} {rest tail : Text} (noSign : c ≠ '$')
      (behind : Expands isName environment rest tail) :
      Expands isName environment (c :: rest) (c :: tail)
  | braced {name rest tail : Text} (closes : '\x7d' ∉ name)
      (behind : Expands isName environment rest tail) :
      Expands isName environment ('$' :: '\x7b' :: name ++ '\x7d' :: rest)
        ((environment.get? name).getD ('$' :: '\x7b' :: name ++ ['\x7d']) ++ tail)
  | bare {name rest tail : Text} (nonempty : name ≠ []) (named : ∀ c ∈ name, isName c)
      (ends : ∀ c ∈ rest.head?, ¬ isName c) (behind : Expands isName environment rest tail) :
      Expands isName environment ('$' :: name ++ rest)
        ((environment.get? name).getD ('$' :: name) ++ tail)
  | lone {rest tail : Text} (opens : ¬ Opens isName rest)
      (behind : Expands isName environment rest tail) :
      Expands isName environment ('$' :: rest) ('$' :: tail)

/-- Every bare name of a text is one for the standard expansion. -/
def StandardNames (text : Text) : Prop :=
  ∀ name, .reference name ('$' :: name) ∈ pieces text → ∀ c ∈ name, isStandard c

/-! ### Names -/

section Names
variable {isName : Char → Bool} {name rest other behind : Text}

private theorem isWord_of_isStandard {c : Char} (standard : isStandard c) : Text.isWord c := by
  have small : c.toNat < 0x80 := by
    have classes : c.isAlphanum = ((decide ('A'.val ≤ c.val ∧ c.val ≤ 'Z'.val) ||
        decide ('a'.val ≤ c.val) && decide (c.val ≤ 'z'.val)) ||
          (decide ('0'.val ≤ c.val) && decide (c.val ≤ '9'.val))) := rfl
    have lastUpper : 'Z'.val.toNat = 90 := rfl
    have lastLower : 'z'.val.toNat = 122 := rfl
    have lastDigit : '9'.val.toNat = 57 := rfl
    have line : '_'.toNat = 95 := rfl
    have whole : c.toNat = c.val.toNat := rfl
    simp only [isStandard, classes, Bool.or_eq_true, Bool.and_eq_true, decide_eq_true_eq,
      UInt32.le_iff_toNat_le] at standard
    rcases standard with standard | rfl
    · omega
    · omega
  rw [Text.isWord, if_pos small]
  exact standard

/-- A text breaks behind a run of characters of a class. -/
theorem breakAt_run (named : ∀ c ∈ name, isName c) (ends : ∀ c ∈ rest.head?, ¬ isName c) :
    Text.breakAt (fun c => !isName c) (name ++ rest) = (name, rest) := by
  have free : ∀ c ∈ name, (!isName c) = false := fun c member => by simp [named c member]
  cases rest with
  | nil => rw [List.append_nil, Text.breakAt_of_free free]
  | cons c rest => exact Text.breakAt_of_stop free (by simpa using ends c rfl)

/-- A name and what is behind it are known from both together, if all of the name is inside a class
of characters and what is behind it begins outside. -/
private theorem run_unique (named : ∀ c ∈ name, isName c) (ends : ∀ c ∈ rest.head?, ¬ isName c)
    (otherNamed : ∀ c ∈ other, isName c) (otherEnds : ∀ c ∈ behind.head?, ¬ isName c)
    (same : name ++ rest = other ++ behind) : name = other ∧ rest = behind := by
  have whole := breakAt_run otherNamed otherEnds
  rw [← same, breakAt_run named ends] at whole
  exact Prod.mk.inj whole

/-- A name in braces is known from the text behind the opening one. -/
private theorem braced_unique (closes : '\x7d' ∉ name) (otherCloses : '\x7d' ∉ other)
    (same : name ++ '\x7d' :: rest = other ++ '\x7d' :: behind) : name = other ∧ rest = behind := by
  have free : ∀ {text : Text}, '\x7d' ∉ text → ∀ c ∈ text, (c != '\x7d') = true := by
    intro text noBrace c member
    rw [bne_iff_ne]
    rintro rfl
    exact noBrace member
  obtain ⟨sameName, sameRest⟩ := run_unique (free closes) (by simp) (free otherCloses) (by simp)
    same
  exact ⟨sameName, List.tail_eq_of_cons_eq sameRest⟩

/-- What opens a reference for a narrow class of characters does so for a wide one. -/
private theorem opens_mono {wide : Char → Bool} (wider : ∀ c, isName c → wide c)
    (opens : Opens isName rest) : Opens wide rest :=
  opens.imp_left fun ⟨c, first, inside⟩ => ⟨c, first, wider c inside⟩

end Names

/-! ### The references of a text -/

section References
variable {environment : Environment} {text rest : Text} {piece : Piece}

/-- What is read behind a sign is a name in braces up to the first closing one, or a longest run of
word characters. -/
theorem shape_of_reference? (found : reference? text = some (piece, rest)) :
    (∃ name, '\x7d' ∉ name ∧ text = '\x7b' :: name ++ '\x7d' :: rest ∧
        piece = .reference name ('$' :: '\x7b' :: name ++ ['\x7d'])) ∨
      ∃ name, name ≠ [] ∧ (∀ c ∈ name, Text.isWord c) ∧ (∀ c ∈ rest.head?, ¬ Text.isWord c) ∧
        text = name ++ rest ∧ piece = .reference name ('$' :: name) := by
  unfold reference? at found
  split at found
  · split at found
    · rename_i behind name closing left broken
      cases found
      obtain ⟨rfl, free, stops⟩ := Text.of_breakAt broken
      obtain rfl : closing = '\x7d' := by simpa using stops closing rfl
      exact .inl ⟨name, Text.passes_iff.mp free, rfl, rfl⟩
    · cases found
  · split at found
    · cases found
    · rename_i name left nonempty broken
      cases found
      obtain ⟨rfl, inside, stops⟩ := Text.of_breakAt broken
      refine .inr ⟨name, fun empty => nonempty empty, ?_, ?_, rfl, rfl⟩
      · exact fun c member => by simpa using inside c member
      · exact fun c first => by simpa using stops c first

theorem not_opens_of_no_reference (missing : reference? text = none) :
    ¬ Opens Text.isWord text := by
  rintro (⟨c, first, word⟩ | ⟨name, behind, rfl⟩)
  · obtain ⟨tail, rfl⟩ := List.head?_eq_some_iff.mp first
    have noBrace : c ≠ '\x7b' := by
      rintro rfl
      exact absurd word (by decide)
    have longer : Text.breakAt (fun c => !Text.isWord c) (c :: tail) =
        (c :: (Text.breakAt (fun c => !Text.isWord c) tail).1,
          (Text.breakAt (fun c => !Text.isWord c) tail).2) := by
      simp [Text.breakAt, word]
    unfold reference? at missing
    split at missing
    · rename_i shape
      exact noBrace (List.cons.inj shape).1
    · rw [longer] at missing
      cases missing
  · have closes : '\x7d' ∈ name ++ '\x7d' :: behind := by simp
    rw [List.cons_append, reference?] at missing
    split at missing
    · cases missing
    · rename_i broken
      obtain ⟨whole, free, _⟩ := Text.of_breakAt broken
      rw [whole, List.append_nil] at closes
      simpa using free _ closes

/-- A bare name holds word characters only. -/
theorem isWord_of_mem_pieces {name : Text} (member : .reference name ('$' :: name) ∈ pieces text) :
    ∀ c ∈ name, Text.isWord c := by
  fun_induction pieces text with
  | case1 => cases member
  | case2 behind piece rest found ih =>
    rcases List.mem_cons.mp member with same | later
    · rcases shape_of_reference? found with ⟨other, _, _, rfl⟩ | ⟨other, _, named, _, _, rfl⟩
      · injection same with sameName sameSource
        have lengths := congrArg List.length sameSource
        simp [sameName] at lengths
      · injection same with sameName _
        exact sameName ▸ named
    · exact ih later
  | case3 behind missing ih => exact ih (by simpa using member)
  | case4 c behind noSign ih => exact ih (by simpa using member)

theorem pieces_reference (found : reference? text = some (piece, rest)) :
    pieces ('$' :: text) = piece :: pieces rest := by
  rw [pieces, if_pos rfl]
  split
  · rename_i other foundOther
    cases found.symm.trans foundOther
    rfl
  · rename_i missing
    cases found.symm.trans missing

theorem pieces_lone (missing : reference? text = none) :
    pieces ('$' :: text) = .literal ['$'] :: pieces text := by
  rw [pieces, if_pos rfl]
  split
  · rename_i found
    cases missing.symm.trans found
  · rfl

theorem pieces_other {c : Char} (noSign : c ≠ '$') :
    pieces (c :: text) = .literal [c] :: pieces text := by
  rw [pieces, if_neg noSign]

/-- No variable has an empty name, also not by accident. -/
theorem value?_eq (unnamed : environment.get? [] = none) (name : Text) :
    value? environment name = environment.get? name := by
  rw [value?]
  split
  · rename_i empty
    rw [empty, unnamed]
  · rfl

theorem expand_nil : Dollar.expand environment [] = [] := by
  rw [Dollar.expand, pieces]
  rfl

theorem expand_reference {name source : Text}
    (found : reference? text = some (.reference name source, rest)) :
    Dollar.expand environment ('$' :: text) =
      (value? environment name).getD source ++ Dollar.expand environment rest := by
  rw [Dollar.expand, pieces_reference found, List.flatMap_cons]
  rfl

theorem expand_lone (missing : reference? text = none) :
    Dollar.expand environment ('$' :: text) = '$' :: Dollar.expand environment text := by
  rw [Dollar.expand, pieces_lone missing, List.flatMap_cons]
  rfl

theorem expand_other {c : Char} (noSign : c ≠ '$') :
    Dollar.expand environment (c :: text) = c :: Dollar.expand environment text := by
  rw [Dollar.expand, pieces_other noSign, List.flatMap_cons]
  rfl

end References

/-! ### The rules of expansion -/

section Rules
variable {isName : Char → Bool} {environment : Environment} {text behind result other : Text}

/-- What becomes of a sign is one of three things. -/
private theorem of_expands_sign (expands : Expands isName environment ('$' :: behind) result) :
    (∃ name rest tail, '\x7d' ∉ name ∧ behind = '\x7b' :: name ++ '\x7d' :: rest ∧
        Expands isName environment rest tail ∧
        result = (environment.get? name).getD ('$' :: '\x7b' :: name ++ ['\x7d']) ++ tail) ∨
      (∃ name rest tail, name ≠ [] ∧ (∀ c ∈ name, isName c) ∧ (∀ c ∈ rest.head?, ¬ isName c) ∧
        behind = name ++ rest ∧ Expands isName environment rest tail ∧
        result = (environment.get? name).getD ('$' :: name) ++ tail) ∨
      ¬ Opens isName behind ∧ ∃ tail, Expands isName environment behind tail ∧
        result = '$' :: tail := by
  generalize whole : '$' :: behind = text at expands
  cases expands with
  | done => cases whole
  | other noSign _ => exact absurd (List.cons.inj whole).1.symm noSign
  | braced closes rest =>
    exact .inl ⟨_, _, _, closes, (List.cons.inj whole).2, rest, rfl⟩
  | bare nonempty named ends rest =>
    exact .inr (.inl ⟨_, _, _, nonempty, named, ends, (List.cons.inj whole).2, rest, rfl⟩)
  | lone opens rest =>
    obtain rfl := (List.cons.inj whole).2
    exact .inr (.inr ⟨opens, _, rest, rfl⟩)

private theorem of_expands_other {c : Char} (noSign : c ≠ '$')
    (expands : Expands isName environment (c :: behind) result) :
    ∃ tail, Expands isName environment behind tail ∧ result = c :: tail := by
  generalize whole : c :: behind = text at expands
  cases expands with
  | done => cases whole
  | other _ rest =>
    obtain ⟨rfl, rfl⟩ := List.cons.inj whole
    exact ⟨_, rest, rfl⟩
  | braced => exact absurd (List.cons.inj whole).1 noSign
  | bare => exact absurd (List.cons.inj whole).1 noSign
  | lone => exact absurd (List.cons.inj whole).1 noSign

private theorem of_expands_braced {name rest : Text} (noName : ¬ isName '\x7b')
    (closes : '\x7d' ∉ name)
    (expands : Expands isName environment ('$' :: '\x7b' :: name ++ '\x7d' :: rest) result) :
    ∃ tail, Expands isName environment rest tail ∧
      result = (environment.get? name).getD ('$' :: '\x7b' :: name ++ ['\x7d']) ++ tail := by
  rcases of_expands_sign expands with
    ⟨otherName, otherRest, tail, otherCloses, same, behind, rfl⟩ |
    ⟨otherName, otherRest, tail, nonempty, named, _, same, _⟩ | ⟨opens, _⟩
  · obtain ⟨rfl, rfl⟩ := braced_unique closes otherCloses (List.cons.inj same).2
    exact ⟨tail, behind, rfl⟩
  · cases otherName with
    | nil => exact absurd rfl nonempty
    | cons c otherName =>
      obtain rfl : '\x7b' = c := (List.cons.inj same).1
      exact absurd (named _ (List.mem_cons_self ..)) noName
  · exact absurd (.inr ⟨name, rest, rfl⟩) opens

private theorem of_expands_bare {name rest : Text} (noName : ¬ isName '\x7b')
    (nonempty : name ≠ []) (named : ∀ c ∈ name, isName c) (ends : ∀ c ∈ rest.head?, ¬ isName c)
    (expands : Expands isName environment ('$' :: (name ++ rest)) result) :
    ∃ tail, Expands isName environment rest tail ∧
      result = (environment.get? name).getD ('$' :: name) ++ tail := by
  obtain ⟨first, more, rfl⟩ := List.exists_cons_of_ne_nil nonempty
  have firstNamed := named first (List.mem_cons_self ..)
  rcases of_expands_sign expands with
    ⟨otherName, otherRest, tail, _, same, _⟩ |
    ⟨otherName, otherRest, tail, _, otherNamed, otherEnds, same, behind, rfl⟩ | ⟨opens, _⟩
  · obtain rfl : first = '\x7b' := (List.cons.inj same).1
    exact absurd firstNamed noName
  · obtain ⟨rfl, rfl⟩ := run_unique named ends otherNamed otherEnds same
    exact ⟨tail, behind, rfl⟩
  · exact absurd (.inl ⟨first, rfl, firstNamed⟩) opens

private theorem of_expands_lone (opens : ¬ Opens isName behind)
    (expands : Expands isName environment ('$' :: behind) result) :
    ∃ tail, Expands isName environment behind tail ∧ result = '$' :: tail := by
  rcases of_expands_sign expands with
    ⟨name, rest, _, _, rfl, _⟩ | ⟨name, rest, _, nonempty, named, _, rfl, _⟩ | ⟨_, rest⟩
  · exact absurd (.inr ⟨name, rest, rfl⟩) opens
  · obtain ⟨first, more, rfl⟩ := List.exists_cons_of_ne_nil nonempty
    exact absurd (.inl ⟨first, rfl, named first (List.mem_cons_self ..)⟩) opens
  · exact rest

/-- The rules give a text one result at most, if a name in braces is no bare one. -/
theorem expands_unique (noName : ¬ isName '\x7b') (first : Expands isName environment text result)
    (second : Expands isName environment text other) : result = other := by
  induction first generalizing other with
  | done =>
    cases second
    rfl
  | other noSign _ ih =>
    obtain ⟨tail, behind, rfl⟩ := of_expands_other noSign second
    rw [ih behind]
  | braced closes _ ih =>
    obtain ⟨tail, behind, rfl⟩ := of_expands_braced noName closes second
    rw [ih behind]
  | bare nonempty named ends _ ih =>
    obtain ⟨tail, behind, rfl⟩ := of_expands_bare noName nonempty named ends second
    rw [ih behind]
  | lone opens _ ih =>
    obtain ⟨tail, behind, rfl⟩ := of_expands_lone opens second
    rw [ih behind]

/-- Expanding follows the rules of every class of characters that holds all bare names of the text
and is no wider than that of word characters. -/
theorem expands_expand (unnamed : environment.get? [] = none)
    (narrow : ∀ c, isName c → Text.isWord c)
    (names : ∀ name, .reference name ('$' :: name) ∈ pieces text → ∀ c ∈ name, isName c) :
    Expands isName environment text (Dollar.expand environment text) := by
  fun_induction pieces text with
  | case1 =>
    rw [expand_nil]
    exact .done
  | case2 behind piece rest found ih =>
    have tail := ih fun name inside => names name (List.mem_cons_of_mem _ inside)
    rcases shape_of_reference? found with
      ⟨name, closes, rfl, rfl⟩ | ⟨name, nonempty, _, ends, rfl, rfl⟩
    · rw [expand_reference found, value?_eq unnamed]
      exact .braced closes tail
    · rw [expand_reference found, value?_eq unnamed]
      refine .bare nonempty (names name (List.mem_cons_self ..)) (fun c first inside => ?_) tail
      exact ends c first (narrow c inside)
  | case3 behind missing ih =>
    rw [expand_lone missing]
    refine .lone (fun opens => not_opens_of_no_reference missing (opens_mono narrow opens)) ?_
    exact ih fun name inside => names name (List.mem_cons_of_mem _ inside)
  | case4 c behind noSign ih =>
    rw [expand_other noSign]
    exact .other noSign (ih fun name inside => names name (List.mem_cons_of_mem _ inside))

/-- The rules give every text a result. -/
theorem exists_expands (isName : Char → Bool) (environment : Environment) (text : Text) :
    ∃ result, Expands isName environment text result := by
  induction size : text.length using Nat.strongRecOn generalizing text with
  | ind n ih =>
    subst size
    cases text with
    | nil => exact ⟨[], .done⟩
    | cons c behind =>
      by_cases sign : c = '$'
      · subst sign
        by_cases opens : Opens isName behind
        · rcases opens with ⟨first, isFirst, named⟩ | ⟨name, rest, rfl⟩
          · rcases broken : Text.breakAt (fun c => !isName c) behind with ⟨name, rest⟩
            obtain ⟨rfl, inside, ends⟩ := Text.of_breakAt broken
            have nonempty : name ≠ [] := by
              rintro rfl
              have outside := ends first isFirst
              rw [named] at outside
              cases outside
            have shorter : rest.length < ('$' :: (name ++ rest)).length := by
              simp only [List.length_cons, List.length_append]
              omega
            obtain ⟨tail, expands⟩ := ih rest.length shorter rest rfl
            exact ⟨_, .bare nonempty (fun c member => by simpa using inside c member)
              (fun c first => by simpa using ends c first) expands⟩
          · -- the name found may itself hold closing braces, of which the first one counts
            rcases broken : Text.breakAt (· = '\x7d') (name ++ '\x7d' :: rest) with ⟨before, after⟩
            obtain ⟨whole, free, stops⟩ := Text.of_breakAt broken
            have closes : '\x7d' ∉ before := fun inside => by simpa using free _ inside
            obtain ⟨later, rfl⟩ : ∃ later, after = '\x7d' :: later := by
              cases after with
              | nil =>
                rw [List.append_nil] at whole
                exact absurd (whole ▸ List.mem_append_right _ (List.mem_cons_self ..)) closes
              | cons c later => exact ⟨later, by simpa using stops c rfl⟩
            have shorter := congrArg List.length whole
            simp only [List.length_append, List.length_cons] at shorter
            obtain ⟨tail, expands⟩ := ih later.length (by simp; omega) later rfl
            rw [List.cons_append, whole]
            exact ⟨_, .braced closes expands⟩
        · obtain ⟨tail, expands⟩ := ih behind.length (by simp) behind rfl
          exact ⟨_, .lone opens expands⟩
      · obtain ⟨tail, expands⟩ := ih behind.length (by simp) behind rfl
        exact ⟨_, .other sign expands⟩

end Rules

/-! ### Where both expansions agree -/

/-- A variable tells a bare name that is no standard one from what the standard expansion takes: the
name itself, if it begins like no name there, or else the standard name that it begins with. -/
private theorem exists_difference {name rest : Text}
    (found : reference? (name ++ rest) = some (.reference name ('$' :: name), rest))
    (nonempty : name ≠ []) (named : ∀ c ∈ name, Text.isWord c)
    (odd : ∃ c ∈ name, ¬ isStandard c) :
    ∃ environment : Environment, environment.get? [] = none ∧
      ¬ Expands isStandard environment ('$' :: (name ++ rest))
        (Dollar.expand environment ('$' :: (name ++ rest))) := by
  rcases broken : Text.breakAt (fun c => !isStandard c) name with ⟨front, tail⟩
  obtain ⟨rfl, inside, ends⟩ := Text.of_breakAt broken
  have standard : ∀ c ∈ front, isStandard c := fun c member => by simpa using inside c member
  obtain ⟨first, more, rfl⟩ : ∃ first more, tail = first :: more := by
    refine List.exists_cons_of_ne_nil ?_
    rintro rfl
    obtain ⟨c, member, notStandard⟩ := odd
    exact notStandard (standard c (by simpa using member))
  have firstOdd : ¬ isStandard first := by simpa using ends first rfl
  have firstNamed : Text.isWord first := named first (by simp)
  by_cases empty : front = []
  · subst empty
    refine ⟨[(first :: more, ['a'])], rfl, fun expands => ?_⟩
    have opens : ¬ Opens isStandard (first :: more ++ rest) := by
      rintro (⟨c, isFirst, inside⟩ | ⟨_, _, same⟩)
      · cases isFirst
        exact firstOdd inside
      · rw [(List.cons.inj same).1] at firstNamed
        exact absurd firstNamed (by decide)
    rw [List.nil_append] at expands found
    obtain ⟨_, _, same⟩ := of_expands_lone opens expands
    rw [expand_reference found, value?_eq rfl] at same
    simp [Environment.get?] at same
  · have different : front ++ first :: more ≠ front := by simp
    have unnamed : Environment.get? [(front, ['a'])] [] = none := by
      simp [Environment.get?, List.lookup_cons, beq_eq_false_iff_ne.mpr (Ne.symm empty)]
    refine ⟨[(front, ['a'])], unnamed, fun expands => ?_⟩
    rw [List.append_assoc] at expands
    obtain ⟨_, _, same⟩ := of_expands_bare (by decide) empty standard
      (fun c isFirst => by cases isFirst; exact firstOdd) expands
    rw [← List.append_assoc, expand_reference found, value?_eq unnamed] at same
    simp [Environment.get?, List.lookup_cons, beq_eq_false_iff_ne.mpr different] at same

/-- If expanding a text follows the rules of the standard in every environment, then the first bare
name that is no standard one would be told from what the standard takes, so there is none. -/
theorem standardNames_of_expands {text : Text}
    (follows : ∀ environment : Environment, environment.get? [] = none →
      Expands isStandard environment text (Dollar.expand environment text)) :
    StandardNames text := by
  unfold StandardNames
  fun_induction pieces text with
  | case1 => simp
  | case2 behind piece rest found ih =>
    rcases shape_of_reference? found with
      ⟨name, closes, rfl, rfl⟩ | ⟨name, nonempty, named, ends, rfl, rfl⟩
    · have later := ih fun environment unnamed => by
        obtain ⟨tail, expands, same⟩ :=
          of_expands_braced (by decide) closes (follows environment unnamed)
        rw [expand_reference found, value?_eq unnamed, List.append_cancel_left_eq] at same
        rwa [same]
      intro other member
      rcases List.mem_cons.mp member with same | member
      · have lengths := congrArg (List.length ∘ Piece.source) same
        injection same with sameName _
        simp [Piece.source, sameName] at lengths
      · exact later other member
    · by_cases odd : ∃ c ∈ name, ¬ isStandard c
      · obtain ⟨environment, unnamed, differs⟩ := exists_difference found nonempty named odd
        exact absurd (follows environment unnamed) differs
      · have standard : ∀ c ∈ name, isStandard c := fun c member =>
          Decidable.byContradiction fun notStandard => odd ⟨c, member, notStandard⟩
        have later := ih fun environment unnamed => by
          obtain ⟨tail, expands, same⟩ := of_expands_bare (by decide) nonempty standard
            (fun c first inside => ends c first (isWord_of_isStandard inside))
            (follows environment unnamed)
          rw [expand_reference found, value?_eq unnamed, List.append_cancel_left_eq] at same
          rwa [same]
        intro other member
        rcases List.mem_cons.mp member with same | member
        · injection same with sameName _
          rw [sameName]
          exact standard
        · exact later other member
  | case3 behind missing ih =>
    have opens : ¬ Opens isStandard behind := fun opens =>
      not_opens_of_no_reference missing (opens_mono (fun _ => isWord_of_isStandard) opens)
    have later := ih fun environment unnamed => by
      obtain ⟨tail, expands, same⟩ := of_expands_lone opens (follows environment unnamed)
      rw [expand_lone missing, List.cons.injEq] at same
      rwa [same.2]
    intro other member
    exact later other (by simpa using member)
  | case4 c behind noSign ih =>
    have later := ih fun environment unnamed => by
      obtain ⟨tail, expands, same⟩ := of_expands_other noSign (follows environment unnamed)
      rw [expand_other noSign, List.cons.injEq] at same
      rwa [same.2]
    intro other member
    exact later other (by simpa using member)

/-- A text is expanded by the rules with word characters for bare names. The rules of the standard
expansion give each text one result too; and what is made of a text is that result in every
environment without an empty name, exactly if all bare names of the text are standard ones. -/
theorem dollar_expansion_standard_iff (text : Text) :
    (∀ environment : Environment, environment.get? [] = none → ∀ result,
      Expands Text.isWord environment text result ↔
        result = Reference.expand .dollar environment text) ∧
    (∀ environment, ∃! result, Expands isStandard environment text result) ∧
    ((∀ environment : Environment, environment.get? [] = none →
        Expands isStandard environment text (Reference.expand .dollar environment text)) ↔
      StandardNames text) := by
  refine ⟨fun environment unnamed result => ?_, fun environment => ?_, ?_⟩
  · have follows : Expands Text.isWord environment text (Dollar.expand environment text) := by
      refine expands_expand unnamed (fun _ word => word) fun name member c inside => ?_
      exact isWord_of_mem_pieces member c inside
    constructor
    · exact fun expands => expands_unique (by decide) expands follows
    · rintro rfl
      exact follows
  · obtain ⟨result, expands⟩ := exists_expands isStandard environment text
    exact ⟨result, expands, fun _ other => expands_unique (by decide) other expands⟩
  · exact ⟨standardNames_of_expands, fun names environment unnamed =>
      expands_expand unnamed (fun _ => isWord_of_isStandard) names⟩

/-- A letter beyond ASCII may stand in braces and behind them. -/
theorem dollar_expansion_standard_iff_braces :
    let environment : Environment := [(['A'], ['v']), (['\u00e9'], ['w'])]
    environment.get? [] = none ∧ StandardNames "$A-$\x7b\u00e9\x7d\u00e9".toList ∧
      Expands isStandard environment "$A-$\x7b\u00e9\x7d\u00e9".toList "v-w\u00e9".toList := by
  intro environment
  have unnamed : environment.get? [] = none := by decide
  have names : StandardNames "$A-$\x7b\u00e9\x7d\u00e9".toList := by
    have parts : pieces "$A-$\x7b\u00e9\x7d\u00e9".toList = [.reference ['A'] "$A".toList,
        .literal ['-'], .reference ['\u00e9'] "$\x7b\u00e9\x7d".toList, .literal ['\u00e9']] := by
      decide +kernel
    intro name member
    rw [parts] at member
    simp only [List.mem_cons, Piece.reference.injEq, reduceCtorEq, List.not_mem_nil, or_false,
      false_or] at member
    rcases member with ⟨rfl, _⟩ | ⟨rfl, other⟩
    · exact List.forall_mem_singleton.mpr (by decide)
    · exact absurd other (by decide)
  have expanded : Reference.expand .dollar environment "$A-$\x7b\u00e9\x7d\u00e9".toList =
      "v-w\u00e9".toList := by
    decide +kernel
  obtain ⟨_, _, agrees⟩ := dollar_expansion_standard_iff "$A-$\x7b\u00e9\x7d\u00e9".toList
  exact ⟨unnamed, names, expanded ▸ agrees.mpr names environment unnamed⟩

/-- A letter beyond ASCII behind a name belongs to the name here, so that the variable that the
standard expansion finds is not seen. -/
theorem dollar_expansion_misses_standard :
    let environment : Environment := [(['A'], ['v'])]
    let text := "$A\u00e9".toList
    environment.get? [] = none ∧ Expands isStandard environment text "v\u00e9".toList ∧
      Reference.expand .dollar environment text = text ∧
      ¬ Expands isStandard environment text (Reference.expand .dollar environment text) := by
  intro environment text
  have kept : Reference.expand .dollar environment text = text := by decide +kernel
  have behind : Expands isStandard environment ['\u00e9'] ['\u00e9'] := .other (by decide) .done
  have standard : Expands isStandard environment ('$' :: ['A'] ++ ['\u00e9'])
      ((environment.get? ['A']).getD "$A".toList ++ ['\u00e9']) :=
    .bare (by decide) (List.forall_mem_singleton.mpr (by decide))
      (fun c first => Option.some.inj first ▸ by decide) behind
  refine ⟨by decide, standard, kept, fun expands => ?_⟩
  have same := expands_unique (by decide) standard expands
  rw [kept] at same
  exact absurd same (by decide)

end DebugLaunch.DollarReferences
