import DebugLaunch.Proofs.CommandLineRuns

/-! How the options of a command are written. An option has a full name and mostly a letter; its
value stands behind an equals sign, right behind the letter, or as the next argument, and letters
may share a dash. These spellings are a grammar that says nothing about how arguments are read.
Reading accepts exactly what can be spelled, and finds the uses in the order in which they are
written. -/
namespace DebugLaunch.CommandLineSpelling
open Cli CommandLineRuns

/-- Letters behind a dash spell some uses of options. The last letter may leave its value to the
next argument. -/
inductive SpellsLetters (keys : List Key) : Text → List (Key × Text) → Option Key → Prop where
  | done : SpellsLetters keys [] [] none
  | flag {key : Key} {c : Char} {rest : Text} {uses : List (Key × Text)} {pending : Option Key}
      (known : key ∈ keys) (letter : key.short? = some c) (plain : key.takesValue = false)
      (more : SpellsLetters keys rest uses pending) :
      SpellsLetters keys (c :: rest) ((key, []) :: uses) pending
  | attached {key : Key} {c : Char} {value : Text} (known : key ∈ keys)
      (letter : key.short? = some c) (valued : key.takesValue = true) (something : value ≠ []) :
      SpellsLetters keys (c :: value) [(key, value)] none
  | last {key : Key} {c : Char} (known : key ∈ keys) (letter : key.short? = some c)
      (valued : key.takesValue = true) : SpellsLetters keys [c] [] (some key)

/-- An argument spells some uses of options, and may leave the value of one to the next argument. -/
inductive SpellsOption (keys : List Key) : Text → List (Key × Text) → Option Key → Prop where
  | equals {key : Key} {value : Text} (known : key ∈ keys) (valued : key.takesValue = true) :
      SpellsOption keys (key.long ++ '=' :: value) [(key, value)] none
  | name {key : Key} (known : key ∈ keys) (valued : key.takesValue = true) :
      SpellsOption keys key.long [] (some key)
  | flag {key : Key} (known : key ∈ keys) (plain : key.takesValue = false) :
      SpellsOption keys key.long [(key, [])] none
  | letters {letters : Text} {uses : List (Key × Text)} {pending : Option Key}
      (something : letters ≠ []) (spelled : SpellsLetters keys letters uses pending) :
      SpellsOption keys ('-' :: letters) uses pending

/-- Arguments spell some uses of options, in this order. Two dashes may stand at their end. -/
inductive Spells (keys : List Key) : List Text → List (Key × Text) → Prop where
  | nothing : Spells keys [] []
  | closed : Spells keys [['-', '-']] []
  | option {argument : Text} {rest : List Text} {first uses : List (Key × Text)}
      (spelled : SpellsOption keys argument first none) (more : Spells keys rest uses) :
      Spells keys (argument :: rest) (first ++ uses)
  | withNext {argument value : Text} {rest : List Text} {key : Key}
      {first uses : List (Key × Text)} (spelled : SpellsOption keys argument first (some key))
      (more : Spells keys rest uses) :
      Spells keys (argument :: value :: rest) (first ++ (key, value) :: uses)

/-- A command line names a command, perhaps behind two dashes, and spells some uses of its options.
-/
def Spelled (arguments : List Text) (command : Command) (uses : List (Key × Text)) : Prop :=
  ∃ rest, (arguments = command.name :: rest ∨ arguments = ['-', '-'] :: command.name :: rest) ∧
    Spells command.keys rest uses

/-! ### Names and letters -/

section Names
variable {keys : List Key} {key other : Key} {c : Char}

theorem long_injective (same : other.long = key.long) : other = key := by
  revert same
  cases other <;> cases key <;> decide

theorem letter_injective (letter : key.short? = some c) (same : other.short? = some c) :
    other = key := by
  rw [← letter] at same
  revert same letter
  cases other <;> cases key <;> simp [Key.short?]

/-- A full name begins with two dashes and holds no equals sign. -/
theorem long_shape (key : Key) : (∃ rest, key.long = '-' :: '-' :: rest ∧ rest ≠ []) ∧
    '=' ∉ key.long := by
  cases key <;> exact ⟨⟨_, rfl, by decide⟩, by decide⟩

theorem letter_shape (letter : key.short? = some c) : c ≠ '-' ∧ c ≠ '=' := by
  revert letter
  cases key <;> simp only [Key.short?, Option.some.injEq, reduceCtorEq, false_implies] <;>
    rintro rfl <;> decide

/-- A key is found by what belongs to it alone. -/
private theorem find_eq_some_iff {belongs : Key → Bool}
    (unique : ∀ other, belongs other = true → belongs key = true → other = key) :
    keys.find? belongs = some key ↔ key ∈ keys ∧ belongs key = true := by
  constructor
  · exact fun found => ⟨List.mem_of_find?_eq_some found, List.find?_some found⟩
  · rintro ⟨known, holds⟩
    cases found : keys.find? belongs with
    | none => exact absurd holds (List.find?_eq_none.mp found key known)
    | some other => rw [unique other (List.find?_some found) holds]

theorem find_long_iff {long : Text} :
    keys.find? (fun key => key.long = long) = some key ↔ key ∈ keys ∧ key.long = long := by
  rw [find_eq_some_iff fun other first second =>
    long_injective ((of_decide_eq_true first).trans (of_decide_eq_true second).symm)]
  simp

theorem find_letter_iff :
    keys.find? (fun key => key.short? = some c) = some key ↔
      key ∈ keys ∧ key.short? = some c := by
  rw [find_eq_some_iff fun other first second =>
    letter_injective (of_decide_eq_true second) (of_decide_eq_true first)]
  simp

end Names

/-! ### Reading one argument -/

section Argument
variable {keys : List Key} {options more : Options} {pending : Option Key} {letters argument : Text}

/-- The first letter belongs to an option. -/
private theorem letter_of_spellsLetters {c : Char} {rest : Text} {uses : List (Key × Text)}
    (spelled : SpellsLetters keys (c :: rest) uses pending) :
    ∃ key ∈ keys, key.short? = some c := by
  cases spelled with
  | flag known letter _ _ => exact ⟨_, known, letter⟩
  | attached known letter _ _ => exact ⟨_, known, letter⟩
  | last known letter _ => exact ⟨_, known, letter⟩

/-- What a first letter spells is known from its option. -/
theorem spellsLetters_cons_iff {key : Key} {c : Char} {rest : Text} {uses : List (Key × Text)}
    (known : key ∈ keys) (letter : key.short? = some c) :
    SpellsLetters keys (c :: rest) uses pending ↔
      (key.takesValue = false ∧ ∃ behind, uses = (key, []) :: behind ∧
          SpellsLetters keys rest behind pending) ∨
        (key.takesValue = true ∧ ((rest = [] ∧ uses = [] ∧ pending = some key) ∨
          (rest ≠ [] ∧ uses = [(key, rest)] ∧ pending = none))) := by
  constructor
  · intro spelled
    cases spelled with
    | flag _ otherLetter plain more =>
      obtain rfl := letter_injective letter otherLetter
      exact .inl ⟨plain, _, rfl, more⟩
    | attached _ otherLetter valued something =>
      obtain rfl := letter_injective letter otherLetter
      exact .inr ⟨valued, .inr ⟨something, rfl, rfl⟩⟩
    | last _ otherLetter valued =>
      obtain rfl := letter_injective letter otherLetter
      exact .inr ⟨valued, .inl ⟨rfl, rfl, rfl⟩⟩
  · rintro (⟨plain, behind, rfl, more⟩ | ⟨valued, ⟨rfl, rfl, rfl⟩ | ⟨something, rfl, rfl⟩⟩)
    · exact .flag known letter plain more
    · exact .last known letter valued
    · exact .attached known letter valued something

/-- Letters are read exactly as they are spelled. -/
theorem readLetters_iff :
    readLetters keys options letters = .ok (more, pending) ↔
      ∃ uses, SpellsLetters keys letters uses pending ∧ more = uses.reverse ++ options := by
  induction letters generalizing options with
  | nil =>
    simp only [readLetters, Except.ok.injEq, Prod.mk.injEq]
    constructor
    · rintro ⟨rfl, rfl⟩
      exact ⟨[], .done, rfl⟩
    · rintro ⟨uses, spelled, rfl⟩
      cases spelled
      exact ⟨rfl, rfl⟩
  | cons c rest ih =>
    rw [readLetters]
    cases found : keys.find? fun key => key.short? = some c with
    | none =>
      simp only [reduceCtorEq, false_iff, not_exists, not_and]
      intro uses spelled
      obtain ⟨key, known, letter⟩ := letter_of_spellsLetters spelled
      rw [find_letter_iff.mpr ⟨known, letter⟩] at found
      cases found
    | some key =>
      obtain ⟨known, letter⟩ := find_letter_iff.mp found
      simp only [spellsLetters_cons_iff known letter]
      by_cases valued : key.takesValue = true
      · by_cases ends : rest = []
        · simp [valued, ends, eq_comm, and_comm]
        · simp [valued, ends, eq_comm, and_comm]
      · have plain : key.takesValue = false := by simpa using valued
        rw [if_pos (by simp [plain]), ih]
        constructor
        · rintro ⟨uses, spelled, rfl⟩
          exact ⟨_, .inl ⟨plain, uses, rfl, spelled⟩, by simp⟩
        · rintro ⟨_, ⟨_, uses, rfl, spelled⟩ | ⟨other, _⟩, rfl⟩
          · exact ⟨uses, spelled, by simp⟩
          · exact absurd other valued

/-- An argument that spells an option begins with a dash and has something behind it, but is not
two dashes. -/
theorem isOption_of_spellsOption {uses : List (Key × Text)}
    (spelled : SpellsOption keys argument uses pending) :
    isOption argument = true ∧ argument ≠ ['-', '-'] := by
  have full : ∀ (key : Key) (behind : Text),
      isOption (key.long ++ behind) = true ∧ key.long ++ behind ≠ ['-', '-'] := by
    intro key behind
    obtain ⟨⟨rest, shape, something⟩, _⟩ := long_shape key
    rw [shape]
    exact ⟨rfl, by simp [something]⟩
  cases spelled with
  | equals _ _ => exact full _ _
  | @name key _ _ => simpa using full key []
  | @flag key _ _ => simpa using full key []
  | @letters letters _ _ something spelled =>
    cases letters with
    | nil => exact absurd rfl something
    | cons c rest =>
      obtain ⟨key, _, letter⟩ := letter_of_spellsLetters spelled
      refine ⟨rfl, fun same => (letter_shape letter).1 ?_⟩
      simpa using (List.cons.inj (List.cons.inj same).2).1

/-- A full name is the part in front of the first equals sign. -/
private theorem break_long (key : Key) (value : Text) :
    Text.breakAt (· = '=') (key.long ++ '=' :: value) = (key.long, '=' :: value) ∧
      Text.breakAt (· = '=') key.long = (key.long, []) := by
  have free := (long_shape key).2
  exact ⟨Text.breakAt_char free value, Text.breakAt_of_free (Text.passes_iff.mpr free)⟩

/-- Letters are no full name, whatever stands behind an equals sign. -/
private theorem find_long_of_letters {uses : List (Key × Text)} (something : letters ≠ [])
    (spelled : SpellsLetters keys letters uses pending) :
    keys.find? (fun key => key.long = (Text.breakAt (· = '=') ('-' :: letters)).1) = none := by
  rw [List.find?_eq_none]
  intro key _ same
  obtain ⟨⟨rest, shape, _⟩, _⟩ := long_shape key
  cases letters with
  | nil => exact absurd rfl something
  | cons c behind =>
    obtain ⟨_, _, letter⟩ := letter_of_spellsLetters spelled
    obtain ⟨noDash, noSign⟩ := letter_shape letter
    simp [Text.breakAt, noSign, shape, noDash.symm] at same

/-- A full name alone is a use without a value, or asks for one. -/
private theorem readOption_alone {key : Key} (known : key ∈ keys)
    (broken : Text.breakAt (· = '=') argument = (key.long, [])) :
    readOption keys options argument =
      .ok (if key.takesValue then (options, some key) else ((key, []) :: options, none)) := by
  have found := find_long_iff.mpr ⟨known, rfl⟩
  unfold readOption
  rw [broken]
  dsimp only
  rw [found]
  dsimp only
  cases key.takesValue <;> rfl

/-- Behind a full name and an equals sign stands a value. -/
private theorem readOption_equals {key : Key} {sign : Char} {value : Text} (known : key ∈ keys)
    (broken : Text.breakAt (· = '=') argument = (key.long, sign :: value)) :
    readOption keys options argument =
      if key.takesValue then .ok ((key, value) :: options, none) else .error .unwantedValue := by
  have found := find_long_iff.mpr ⟨known, rfl⟩
  unfold readOption
  rw [broken]
  dsimp only
  rw [found]
  dsimp only
  cases key.takesValue <;> rfl

/-- Where none fits, the letters behind the dash are read. -/
private theorem readOption_letters {c : Char} {rest : Text}
    (unknown : keys.find? (fun key => key.long = (Text.breakAt (· = '=') ('-' :: c :: rest)).1) =
      none) :
    readOption keys options ('-' :: c :: rest) =
      if c = '-' then .error .unknownOption else readLetters keys options (c :: rest) := by
  unfold readOption
  rcases broken : Text.breakAt (· = '=') ('-' :: c :: rest) with ⟨long, behind⟩
  rw [broken] at unknown
  cases behind
  all_goals
    dsimp only at unknown ⊢
    rw [unknown]
    dsimp only
    by_cases dash : c = '-'
    · rw [if_pos dash, dash]
      rfl
    · rw [if_neg dash]
      split
      · rename_i shape
        exact absurd (List.cons.inj (List.cons.inj shape).2).1 dash
      · rfl

private theorem dash_of_isOption (dash : isOption argument = true) :
    ∃ c rest, argument = '-' :: c :: rest := by
  unfold isOption at dash
  split at dash
  · exact ⟨_, _, rfl⟩
  · cases dash

/-- An argument that begins with a dash is read exactly as it is spelled. -/
theorem readOption_iff (dash : isOption argument = true) :
    readOption keys options argument = .ok (more, pending) ↔
      ∃ uses, SpellsOption keys argument uses pending ∧ more = uses.reverse ++ options := by
  constructor
  · intro reads
    cases found : keys.find? fun key => key.long = (Text.breakAt (· = '=') argument).1 with
    | none =>
      obtain ⟨c, rest, rfl⟩ := dash_of_isOption dash
      rw [readOption_letters found] at reads
      split at reads
      · cases reads
      · obtain ⟨uses, spelled, rfl⟩ := readLetters_iff.mp reads
        exact ⟨uses, .letters (by simp) spelled, rfl⟩
    | some key =>
      obtain ⟨known, name⟩ := find_long_iff.mp found
      rcases broken : Text.breakAt (· = '=') argument with ⟨long, behind⟩
      rw [broken] at name
      subst name
      obtain ⟨rfl, _, signs⟩ := Text.of_breakAt broken
      cases behind with
      | nil =>
        rw [readOption_alone known broken] at reads
        rw [List.append_nil]
        cases valued : key.takesValue <;> rw [valued] at reads <;> cases reads
        · exact ⟨_, .flag known valued, rfl⟩
        · exact ⟨[], .name known valued, rfl⟩
      | cons sign value =>
        obtain rfl : sign = '=' := by simpa using signs sign rfl
        rw [readOption_equals known broken] at reads
        cases valued : key.takesValue <;> rw [valued] at reads <;> cases reads
        exact ⟨_, .equals known valued, rfl⟩
  · rintro ⟨uses, spelled, rfl⟩
    cases spelled with
    | @equals key value known valued =>
      rw [readOption_equals known (break_long key value).1, valued]
      rfl
    | @name key known valued =>
      rw [readOption_alone known (break_long key []).2, valued]
      rfl
    | @flag key known plain =>
      rw [readOption_alone known (break_long key []).2, plain]
      rfl
    | @letters letters _ _ something spelled =>
      cases letters with
      | nil => exact absurd rfl something
      | cons c rest =>
        obtain ⟨_, _, letter⟩ := letter_of_spellsLetters spelled
        rw [readOption_letters (find_long_of_letters something spelled),
          if_neg (letter_shape letter).1]
        exact readLetters_iff.mpr ⟨uses, spelled, rfl⟩

end Argument

/-! ### Reading all arguments -/

section Arguments
variable {keys : List Key} {arguments : List Text} {given start : Arguments}
  {uses : List (Key × Text)}

/-- What is spelled is read, behind what was read before. -/
private theorem readFrom_of_spells (spelled : Spells keys arguments uses) (options : Options) :
    readFrom keys ⟨options, false⟩ arguments = .ok ⟨uses.reverse ++ options, false⟩ := by
  induction spelled generalizing options with
  | nothing => rfl
  | closed => simp [readFrom]
  | @option argument rest first uses spelled more ih =>
    obtain ⟨dash, other⟩ := isOption_of_spellsOption spelled
    rw [readFrom, if_neg other, if_pos dash, readOption_iff dash |>.mpr ⟨first, spelled, rfl⟩]
    dsimp only
    rw [ih]
    simp
  | @withNext argument value rest key first uses spelled more ih =>
    obtain ⟨dash, other⟩ := isOption_of_spellsOption spelled
    rw [readFrom, if_neg other, if_pos dash, readOption_iff dash |>.mpr ⟨first, spelled, rfl⟩]
    dsimp only
    rw [ih]
    simp

/-- Where something is among the arguments that is no option, this is not forgotten. -/
private theorem extra_of_readFrom (reads : readFrom keys start arguments = .ok given)
    (extra : start.extra = true) : given.extra = true := by
  fun_induction readFrom keys start arguments with
  | case1 =>
    cases reads
    exact extra
  | case2 =>
    cases reads
    simp [extra]
  | case3 => cases reads
  | case4 _ _ _ _ _ _ _ ih => exact ih reads extra
  | case5 => cases reads
  | case6 _ _ _ _ _ _ _ _ _ ih => exact ih reads extra
  | case7 _ _ _ _ _ ih => exact ih reads rfl

/-- What is read without anything else among it is spelled. -/
private theorem spells_of_readFrom (reads : readFrom keys start arguments = .ok given)
    (plain : given.extra = false) :
    ∃ uses, Spells keys arguments uses ∧ given.options = uses.reverse ++ start.options := by
  fun_induction readFrom keys start arguments with
  | case1 =>
    cases reads
    exact ⟨[], .nothing, rfl⟩
  | case2 start rest =>
    cases reads
    obtain ⟨_, rfl⟩ : start.extra = false ∧ rest = [] := by simpa using plain
    exact ⟨[], .closed, rfl⟩
  | case3 => cases reads
  | case4 start argument rest other dash options option ih =>
    obtain ⟨first, spelled, rfl⟩ := (readOption_iff dash).mp option
    obtain ⟨uses, more, same⟩ := ih reads
    exact ⟨first ++ uses, .option spelled more, by simp [same]⟩
  | case5 => cases reads
  | case6 start argument other dash options key option value rest ih =>
    obtain ⟨first, spelled, rfl⟩ := (readOption_iff dash).mp option
    obtain ⟨uses, more, same⟩ := ih reads
    exact ⟨first ++ (key, value) :: uses, .withNext spelled more, by simp [same]⟩
  | case7 _ _ _ _ _ ih =>
    rw [extra_of_readFrom reads rfl] at plain
    cases plain

end Arguments

/-! ### The options of a spelling -/

section Keys
variable {keys others : List Key} {letters argument : Text} {arguments : List Text}
  {uses : List (Key × Text)} {pending : Option Key}

theorem known_of_spellsLetters (spelled : SpellsLetters keys letters uses pending) :
    (∀ use ∈ uses, use.1 ∈ keys) ∧ ∀ key ∈ pending, key ∈ keys := by
  induction spelled with
  | done => simp
  | flag known _ _ _ ih => simpa [known] using ih
  | attached known _ _ _ => simpa using known
  | last known _ _ => simpa using known

theorem known_of_spellsOption (spelled : SpellsOption keys argument uses pending) :
    (∀ use ∈ uses, use.1 ∈ keys) ∧ ∀ key ∈ pending, key ∈ keys := by
  cases spelled with
  | equals known _ => simpa using known
  | name known _ => simpa using known
  | flag known _ => simpa using known
  | letters _ spelled => exact known_of_spellsLetters spelled

theorem known_of_spells (spelled : Spells keys arguments uses) : ∀ use ∈ uses, use.1 ∈ keys := by
  induction spelled with
  | nothing | closed => simp
  | option spelled _ ih =>
    exact List.forall_mem_append.mpr ⟨(known_of_spellsOption spelled).1, ih⟩
  | withNext spelled _ ih =>
    obtain ⟨first, next⟩ := known_of_spellsOption spelled
    exact List.forall_mem_append.mpr ⟨first, List.forall_mem_cons.mpr ⟨next _ rfl, ih⟩⟩

/-- A spelling is one with other options if these have all that are used. -/
theorem spellsLetters_of_known (spelled : SpellsLetters keys letters uses pending)
    (known : ∀ use ∈ uses, use.1 ∈ others) (next : ∀ key ∈ pending, key ∈ others) :
    SpellsLetters others letters uses pending := by
  induction spelled with
  | done => exact .done
  | flag _ letter plain _ ih =>
    rw [List.forall_mem_cons] at known
    exact .flag known.1 letter plain (ih known.2 next)
  | attached _ letter valued something =>
    exact .attached (known _ (List.mem_singleton_self _)) letter valued something
  | last _ letter valued => exact .last (next _ rfl) letter valued

theorem spellsOption_of_known (spelled : SpellsOption keys argument uses pending)
    (known : ∀ use ∈ uses, use.1 ∈ others) (next : ∀ key ∈ pending, key ∈ others) :
    SpellsOption others argument uses pending := by
  cases spelled with
  | equals _ valued => exact .equals (known _ (List.mem_singleton_self _)) valued
  | name _ valued => exact .name (next _ rfl) valued
  | flag _ plain => exact .flag (known _ (List.mem_singleton_self _)) plain
  | letters something spelled =>
    exact .letters something (spellsLetters_of_known spelled known next)

theorem spells_of_known (spelled : Spells keys arguments uses)
    (known : ∀ use ∈ uses, use.1 ∈ others) : Spells others arguments uses := by
  induction spelled with
  | nothing => exact .nothing
  | closed => exact .closed
  | option spelled _ ih =>
    rw [List.forall_mem_append] at known
    exact .option (spellsOption_of_known spelled known.1 nofun) (ih known.2)
  | withNext spelled _ ih =>
    rw [List.forall_mem_append, List.forall_mem_cons] at known
    refine .withNext (spellsOption_of_known spelled known.1 ?_) (ih known.2.2)
    rintro _ ⟨⟩
    exact known.2.1

/-- What is spelled without the option for help is what is spelled without using it. -/
theorem spells_iff_unasked (free : .help ∉ keys) :
    Spells keys arguments uses ↔
      Spells (.help :: keys) arguments uses ∧ ∀ use ∈ uses, use.1 ≠ .help := by
  constructor
  · intro spelled
    have known := known_of_spells spelled
    exact ⟨spells_of_known spelled fun use inside => List.mem_cons_of_mem _ (known use inside),
      fun use inside asks => free (asks ▸ known use inside)⟩
  · rintro ⟨spelled, unasked⟩
    exact spells_of_known spelled fun use inside =>
      (List.mem_cons.mp (known_of_spells spelled use inside)).resolve_left (unasked use inside)

end Keys

/-! ### Whole command lines -/

section Lines
variable {arguments rest : List Text} {command : Command} {given : Arguments}

theorem help_not_mem_keys (command : Command) : .help ∉ command.keys := by
  cases command <;> decide

theorem has_eq_false_iff {options : Options} {key : Key} :
    has options key = false ↔ ∀ use ∈ options, use.1 ≠ key := by
  rw [has, Option.isSome_eq_false_iff, Option.isNone_iff_eq_none, List.lookup_eq_none_iff]
  exact forall₂_congr fun use _ => by rw [bne_iff_ne, ne_comm]

theorem read_eq_ok_iff :
    read command rest = .ok given ↔
      readFrom (.help :: command.keys) {} rest = .ok given ∧ has given.options .help = false := by
  unfold Cli.read
  cases readFrom (.help :: command.keys) {} rest with
  | error cause => simp
  | ok found =>
    dsimp only
    rw [Except.ok.injEq]
    by_cases asked : has found.options .help = true
    · rw [if_pos asked]
      refine iff_of_false nofun ?_
      rintro ⟨rfl, unasked⟩
      rw [asked] at unasked
      cases unasked
    · rw [if_neg asked, Except.ok.injEq]
      refine (and_iff_left_of_imp ?_).symm
      rintro rfl
      exact Bool.eq_false_iff.mpr asked

theorem ofName?_eq_some_iff {text : Text} :
    Command.ofName? text = some command ↔ command.name = text := by
  rw [Command.ofName?]
  constructor
  · intro found
    simpa using List.find?_some found
  · rintro rfl
    cases command <;> decide

/-- The name of a command is no option. -/
theorem name_plain (command : Command) :
    isOption command.name = false ∧ command.name ≠ ['-', '-'] := by
  cases command <;> decide

private theorem named_iff {name : Text} {behind : List Text} :
    Cli.split.named name behind = .ok (command, rest) ↔
      command.name = name ∧ behind = rest := by
  rw [← ofName?_eq_some_iff, Cli.split.named]
  cases Command.ofName? name <;> simp

theorem split_iff :
    Cli.split arguments = .ok (command, rest) ↔
      arguments = command.name :: rest ∨ arguments = ['-', '-'] :: command.name :: rest := by
  obtain ⟨plain, other⟩ := name_plain command
  constructor
  · intro splits
    match arguments with
    | [] => cases splits
    | first :: behind =>
      unfold Cli.split at splits
      dsimp only at splits
      by_cases closed : first = ['-', '-']
      · rw [if_pos closed] at splits
        match behind with
        | [] => cases splits
        | name :: behind =>
          obtain ⟨rfl, rfl⟩ := named_iff.mp splits
          exact .inr (by rw [closed])
      · rw [if_neg closed] at splits
        by_cases dash : isOption first = true
        · rw [if_pos dash] at splits
          cases splits
        · rw [if_neg dash] at splits
          obtain ⟨rfl, rfl⟩ := named_iff.mp splits
          exact .inl rfl
  · rintro (rfl | rfl)
    · unfold Cli.split
      dsimp only
      rw [if_neg other, if_neg (by simp [plain])]
      exact named_iff.mpr ⟨rfl, rfl⟩
    · unfold Cli.split
      dsimp only
      rw [if_pos rfl]
      exact named_iff.mpr ⟨rfl, rfl⟩

/-- A command line is read, with nothing among it that is no option, exactly if it is spelled; and
then the options are its uses, the last one first. -/
theorem reads_iff_spelled :
    Reads arguments command given ∧ given.extra = false ↔
      ∃ uses, Spelled arguments command uses ∧ given = ⟨uses.reverse, false⟩ := by
  constructor
  · rintro ⟨⟨rest, splits, reads⟩, plain⟩
    obtain ⟨reads, unasked⟩ := read_eq_ok_iff.mp reads
    obtain ⟨uses, spells, same⟩ := spells_of_readFrom reads plain
    obtain ⟨options, extra⟩ := given
    dsimp only at same plain unasked
    rw [List.append_nil] at same
    subst same plain
    have unused : ∀ use ∈ uses, use.1 ≠ .help := fun use inside =>
      has_eq_false_iff.mp unasked use (List.mem_reverse.mpr inside)
    exact ⟨uses, ⟨rest, split_iff.mp splits,
      (spells_iff_unasked (help_not_mem_keys command)).mpr ⟨spells, unused⟩⟩, rfl⟩
  · rintro ⟨uses, ⟨rest, line, spells⟩, rfl⟩
    obtain ⟨spells, unused⟩ := (spells_iff_unasked (help_not_mem_keys command)).mp spells
    have reads := readFrom_of_spells spells []
    rw [List.append_nil] at reads
    have unasked : has uses.reverse .help = false := has_eq_false_iff.mpr fun use inside =>
      unused use (List.mem_reverse.mp inside)
    exact ⟨⟨rest, split_iff.mpr line, read_eq_ok_iff.mpr ⟨reads, unasked⟩⟩, rfl⟩

end Lines

end DebugLaunch.CommandLineSpelling
