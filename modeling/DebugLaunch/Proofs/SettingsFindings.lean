import DebugLaunch.Settings.Load
import Mathlib.Algebra.Order.Field.Power
import Mathlib.Data.Rat.Cast.Order

/-! What settings come to, for every object that a JSON document can hold. The command is read on
its own, and so is the time: each gives its value or its findings, and no other key is looked at. So
there are settings exactly if neither has a finding, and otherwise the findings of the command stand
in front of the one of the time. A time is an integer that the value denotes, whether it is written
as one or not; a floating point number denotes the integer that it is exactly. -/
namespace DebugLaunch

namespace Binary64

/-- The rational number that a floating point number is, if it is finite. -/
def rational? : Binary64 → Option ℚ
  | finite negative mantissa exponent =>
    some (if negative then -(mantissa * 2 ^ exponent) else mantissa * 2 ^ exponent)
  | _ => none

/-- A quotient of natural numbers stands for a natural number times a power of two. -/
theorem scaled_eq (n : Nat) (exponent : Int) :
    0 < (scaled n exponent).2 ∧
      (n : ℚ) * 2 ^ exponent = ((scaled n exponent).1 : ℚ) / (scaled n exponent).2 := by
  cases exponent with
  | ofNat up => simp [scaled]
  | negSucc down =>
    refine ⟨Nat.pow_pos (by decide), ?_⟩
    simp [scaled, zpow_negSucc, div_eq_mul_inv]

/-- A quotient of natural numbers is an integer exactly if nothing remains of the division. -/
theorem quotient_eq_iff (dividend : Nat) {divisor : Nat} (positive : 0 < divisor) (n : Int) :
    (dividend : ℚ) / divisor = n ↔
      dividend % divisor = 0 ∧ ((dividend / divisor : Nat) : Int) = n := by
  have nonzero : (divisor : ℚ) ≠ 0 := Nat.cast_ne_zero.mpr positive.ne'
  rw [div_eq_iff nonzero, ← Nat.dvd_iff_mod_eq_zero]
  constructor
  · intro same
    have whole : (dividend : Int) = n * divisor := by exact_mod_cast same
    have divides : divisor ∣ dividend := Int.natCast_dvd_natCast.mp ⟨n, by rw [whole, mul_comm]⟩
    refine ⟨divides, ?_⟩
    rw [Int.natCast_ediv, whole]
    exact Int.mul_ediv_cancel n (by exact_mod_cast positive.ne')
  · rintro ⟨⟨quotient, rfl⟩, rfl⟩
    rw [Nat.mul_div_cancel_left _ positive]
    push_cast
    exact mul_comm _ _

/-- The integer that a number is, is the rational number that it is. -/
theorem toInt?_eq_some_iff {value : Binary64} {n : Int} :
    value.toInt? = some n ↔ value.rational? = some (n : ℚ) := by
  cases value with
  | infinite negative => simp [toInt?, rational?]
  | nan => simp [toInt?, rational?]
  | finite negative mantissa exponent =>
    obtain ⟨positive, same⟩ := scaled_eq mantissa exponent
    have quotient := quotient_eq_iff (scaled mantissa exponent).1 positive
    rw [rational?, same, Option.some.injEq]
    cases negative with
    | false => simp [toInt?, quotient]
    | true =>
      have turned := quotient (-n)
      push_cast at turned
      simp [toInt?, neg_eq_iff_eq_neg, turned]

end Binary64

namespace SettingsFindings
open Settings

/-- A value that a JSON document can hold. -/
inductive IsJson : Value → Prop where
  | null : IsJson .null
  | boolean (value : Bool) : IsJson (.boolean value)
  | integer (value : Int) : IsJson (.integer value)
  | real (value : Binary64) : IsJson (.real value)
  | text (value : Text) : IsJson (.text value)
  | list {items : List Value} (each : ∀ item ∈ items, IsJson item) : IsJson (.list items)
  | mapping {entries : List (Text × Value)} (each : ∀ entry ∈ entries, IsJson entry.2) :
      IsJson (.mapping (entries.map fun entry => (.text entry.1, entry.2)))

/-- The integer that a value denotes where integers are read leniently. A truth value is one or
zero, and a floating point number has to be an integer strictly within 64 bits. -/
inductive Denotes : Value → Int → Prop where
  | boolean (value : Bool) : Denotes (.boolean value) (if value then 1 else 0)
  | integer (value : Int) : Denotes (.integer value) value
  | real {value : Binary64} {n : Int} (whole : value.rational? = some (n : ℚ))
      (inside : -2 ^ 63 < n ∧ n < 2 ^ 63) : Denotes (.real value) n
  | text {text : Text} {n : Int} (reads : LaxInteger.ofText text = .ok n) : Denotes (.text text) n

/-- The command that the value of its key gives, or that there is without one. -/
inductive GivesCommand : Option Value → List Text → Prop where
  | absent : GivesCommand none []
  | texts (words : List Text) : GivesCommand (some (.list (words.map .text))) words

/-- The time that the value of its key gives, or that there is without one. -/
inductive GivesTime : Option Value → Int → Prop where
  | absent : GivesTime none 30
  | denoted {value : Value} {seconds : Int} (denotes : Denotes value seconds)
      (positive : 1 ≤ seconds) : GivesTime (some value) seconds

/-- The findings for the items of a list that are no texts, by their indices. The first item has the
given index. -/
def strayItems (index : Nat) (items : List Value) : List Finding :=
  (items.zipIdx index).filterMap fun (item, place) =>
    match item with
    | .text _ => none
    | _ => some ⟨.launchCommand, some place, .notAText, .ofValue item⟩

/-- What is found about a command. -/
inductive CommandFindings : Option Value → List Finding → Prop where
  | absent : CommandFindings none []
  | noList {value : Value} (other : ∀ items, value ≠ .list items) :
      CommandFindings (some value) [⟨.launchCommand, none, .notAList, .ofValue value⟩]
  | items (items : List Value) : CommandFindings (some (.list items)) (strayItems 0 items)

/-- What is found about a time. -/
inductive TimeFindings : Option Value → List Finding → Prop where
  | fine {given : Option Value} {seconds : Int} (gives : GivesTime given seconds) :
      TimeFindings given []
  | low {value : Value} {seconds : Int} (denotes : Denotes value seconds) (low : seconds < 1) :
      TimeFindings (some value) [⟨.launchTimeout, none, .notPositive, .ofValue value⟩]
  | none {value : Value} {failure : LaxInteger.Failure} (nothing : ∀ n, ¬ Denotes value n) :
      TimeFindings (some value) [⟨.launchTimeout, none, .integer failure, .ofValue value⟩]

/-! ### The time -/

section Time
variable {value : Value} {given : Option Value} {n : Int}

/-- A floating point number is read exactly if it is an integer strictly within 64 bits. -/
theorem ofBinary64_eq_ok_iff {value : Binary64} :
    LaxInteger.ofBinary64 value = .ok n ↔
      value.rational? = some (n : ℚ) ∧ -2 ^ 63 < n ∧ n < 2 ^ 63 := by
  rw [← Binary64.toInt?_eq_some_iff]
  cases value with
  | nan => simp [LaxInteger.ofBinary64, Binary64.toInt?]
  | infinite negative => simp [LaxInteger.ofBinary64, Binary64.toInt?]
  | finite negative mantissa exponent =>
    rw [LaxInteger.ofBinary64]
    have bound : Int.pow 2 63 = 2 ^ 63 := rfl
    cases (Binary64.finite negative mantissa exponent).toInt? with
    | none => simp
    | some whole =>
      dsimp only
      rw [bound]
      by_cases inside : -2 ^ 63 < whole ∧ whole < 2 ^ 63
      · rw [if_pos (by simpa using inside)]
        constructor
        · rintro ⟨⟩
          exact ⟨rfl, inside⟩
        · rintro ⟨⟨⟩, _⟩
          rfl
      · rw [if_neg (by simpa using inside)]
        constructor
        · rintro ⟨⟩
        · rintro ⟨⟨⟩, within⟩
          exact absurd within inside

/-- What a value is read as, and what is wrong where it is read as none: a failure of reading. -/
theorem exists_reading (json : IsJson value) :
    ∃ reading : Except LaxInteger.Failure Int, integer value = reading.mapError .integer ∧
      ∀ n, reading = .ok n ↔ Denotes value n := by
  cases json with
  | null => exact ⟨.error .wrongKind, rfl, fun n => ⟨nofun, nofun⟩⟩
  | list => exact ⟨.error .wrongKind, rfl, fun n => ⟨nofun, nofun⟩⟩
  | mapping => exact ⟨.error .wrongKind, rfl, fun n => ⟨nofun, nofun⟩⟩
  | boolean value =>
    refine ⟨.ok (if value then 1 else 0), rfl, fun n => ⟨?_, ?_⟩⟩
    · rintro ⟨⟩
      exact .boolean value
    · rintro ⟨⟩
      rfl
  | integer value =>
    refine ⟨.ok value, rfl, fun n => ⟨?_, ?_⟩⟩
    · rintro ⟨⟩
      exact .integer value
    · rintro ⟨⟩
      rfl
  | real value =>
    refine ⟨LaxInteger.ofBinary64 value, ?_, fun n => ⟨fun reads => ?_, fun denotes => ?_⟩⟩
    · rw [integer]
      cases LaxInteger.ofBinary64 value <;> rfl
    · obtain ⟨whole, inside⟩ := ofBinary64_eq_ok_iff.mp reads
      exact .real whole inside
    · cases denotes with
      | real whole inside => exact ofBinary64_eq_ok_iff.mpr ⟨whole, inside⟩
  | text text =>
    refine ⟨LaxInteger.ofText text, ?_, fun n => ⟨.text, fun denotes => ?_⟩⟩
    · rw [integer, integerOfText]
      cases LaxInteger.ofText text <;> rfl
    · cases denotes with
      | text reads => exact reads

theorem positive_of_givesTime (gives : GivesTime given n) : 1 ≤ n := by
  cases gives with
  | absent => decide
  | denoted _ positive => exact positive

/-- A time is read exactly if it is given. -/
theorem timeout_eq_ok_iff (json : ∀ value ∈ given, IsJson value) :
    timeout given = .ok n ↔ GivesTime given n := by
  cases given with
  | none =>
    constructor
    · rintro ⟨⟩
      exact .absent
    · rintro ⟨⟩
      rfl
  | some value =>
    obtain ⟨reading, reads, denotes⟩ := exists_reading (json value rfl)
    rw [timeout, reads]
    constructor
    · intro gives
      cases reading with
      | error failure => cases gives
      | ok seconds =>
        dsimp only [Except.mapError] at gives
        split at gives
        · rename_i positive
          cases gives
          exact .denoted ((denotes n).mp rfl) positive
        · cases gives
    · rintro (_ | ⟨denoted, positive⟩)
      rw [(denotes n).mpr denoted]
      exact if_pos positive

/-- Where no time is read, there is one finding. -/
theorem timeFindings_of_timeout (json : ∀ value ∈ given, IsJson value) {findings : List Finding}
    (fails : timeout given = .error findings) : TimeFindings given findings := by
  cases given with
  | none => cases fails
  | some value =>
    obtain ⟨reading, reads, denotes⟩ := exists_reading (json value rfl)
    rw [timeout, reads] at fails
    cases reading with
    | error failure =>
      cases fails
      refine .none fun n denoted => ?_
      have reads := (denotes n).mpr denoted
      cases reads
    | ok seconds =>
      dsimp only [Except.mapError] at fails
      split at fails
      · cases fails
      · rename_i low
        cases fails
        exact .low ((denotes seconds).mp rfl) (not_le.mp low)

end Time

/-! ### The command -/

section Command
variable {items : List Value} {given : Option Value}

/-- Either all items are texts, or one is none. -/
theorem texts_or_stray (items : List Value) :
    (∃ words : List Text, items = words.map .text) ∨ ∃ item ∈ items, ∀ text, item ≠ .text text := by
  induction items with
  | nil => exact .inl ⟨[], rfl⟩
  | cons item rest ih =>
    by_cases isText : ∃ text, item = .text text
    · obtain ⟨text, rfl⟩ := isText
      rcases ih with ⟨words, rfl⟩ | ⟨stray, inside, none⟩
      · exact .inl ⟨text :: words, rfl⟩
      · exact .inr ⟨stray, List.mem_cons_of_mem _ inside, none⟩
    · exact .inr ⟨item, List.mem_cons_self, not_exists.mp isText⟩

theorem strayItems_text (index : Nat) (text : Text) (rest : List Value) :
    strayItems index (.text text :: rest) = strayItems (index + 1) rest := rfl

theorem strayItems_other {item : Value} (none : ∀ text, item ≠ .text text) (index : Nat)
    (rest : List Value) :
    strayItems index (item :: rest) =
      ⟨.launchCommand, some index, .notAText, .ofValue item⟩ :: strayItems (index + 1) rest := by
  rw [strayItems, List.zipIdx_cons, List.filterMap_cons]
  cases item with
  | text text => exact absurd rfl (none text)
  | _ => rfl

theorem strayItems_texts (index : Nat) (words : List Text) :
    strayItems index (words.map .text) = [] := by
  induction words generalizing index with
  | nil => rfl
  | cons word rest ih => rw [List.map_cons, strayItems_text, ih]

/-- A list of texts is read as it is. -/
theorem itemsFrom_texts (index : Nat) (words : List Text) :
    itemsFrom index (words.map .text) = .ok words := by
  induction words generalizing index with
  | nil => rfl
  | cons word rest ih => rw [List.map_cons, itemsFrom, ih]; rfl

theorem itemText_eq {item : Value} (json : IsJson item) (none : ∀ text, item ≠ .text text) :
    itemText item = .error .notAText := by
  cases json with
  | text text => exact absurd rfl (none text)
  | _ => rfl

/-- A list with an item that is no text has a finding for each such item. -/
theorem itemsFrom_stray (json : ∀ item ∈ items, IsJson item)
    (stray : ∃ item ∈ items, ∀ text, item ≠ .text text) (index : Nat) :
    itemsFrom index items = .error (strayItems index items) := by
  induction items generalizing index with
  | nil => simp at stray
  | cons item rest ih =>
    obtain ⟨jsonItem, jsonRest⟩ := List.forall_mem_cons.mp json
    by_cases isText : ∃ text, item = .text text
    · obtain ⟨text, rfl⟩ := isText
      have others : ∃ item ∈ rest, ∀ text, item ≠ .text text := by simpa using stray
      rw [itemsFrom, ih jsonRest others, strayItems_text]
      rfl
    · have none := not_exists.mp isText
      rw [itemsFrom, itemText_eq jsonItem none, strayItems_other none]
      rcases texts_or_stray rest with ⟨words, rfl⟩ | others
      · rw [itemsFrom_texts, strayItems_texts]
      · rw [ih jsonRest others]

/-- A command is read exactly if it is given. -/
theorem command_eq_ok_iff (json : ∀ value ∈ given, IsJson value) {words : List Text} :
    command given = .ok words ↔ GivesCommand given words := by
  constructor
  · intro gives
    cases given with
    | none =>
      cases gives
      exact .absent
    | some value =>
      cases json value rfl with
      | list each =>
        rename_i items
        rcases texts_or_stray items with ⟨texts, rfl⟩ | stray
        · rw [command, itemsFrom_texts] at gives
          cases gives
          exact .texts _
        · rw [command, itemsFrom_stray each stray] at gives
          cases gives
      | _ => cases gives
  · rintro (_ | _)
    · rfl
    · exact itemsFrom_texts 0 words

/-- Where no command is read, there is one finding, or one for each item that is no text. -/
theorem commandFindings_of_command (json : ∀ value ∈ given, IsJson value)
    {findings : List Finding} (fails : command given = .error findings) :
    CommandFindings given findings := by
  cases given with
  | none => cases fails
  | some value =>
    cases json value rfl with
    | list each =>
      rename_i items
      rcases texts_or_stray items with ⟨texts, rfl⟩ | stray
      · rw [command, itemsFrom_texts] at fails
        cases fails
      · rw [command, itemsFrom_stray each stray] at fails
        cases fails
        exact .items items
    | _ =>
      cases fails
      exact .noList nofun

end Command

/-! ### All settings -/

section All
variable {entries : List (Text × Value)} {field : Field} {settings : Settings}

/-- The findings of a reading, which has none if it succeeds. -/
def findingsOf {α : Type} : Except (List Finding) α → List Finding
  | .ok _ => []
  | .error findings => findings

/-- The entries whose keys are those of settings. -/
def ownEntries (entries : List (Text × Value)) : List (Text × Value) :=
  entries.filter fun entry => entry.1 = Field.launchCommand.key || entry.1 = Field.launchTimeout.key

/-- Of the entries whose keys pass a test, those of a setting are still there, or none is. -/
theorem given?_filter (keeps : Text → Bool) (entries : List (Text × Value)) (field : Field) :
    given? (entries.filter fun entry => keeps entry.1) field =
      if keeps field.key then given? entries field else none := by
  rw [given?, given?, ← List.filter_reverse]
  induction entries.reverse with
  | nil => simp
  | cons entry rest ih =>
    obtain ⟨key, value⟩ := entry
    by_cases same : field.key = key
    · subst same
      by_cases kept : keeps field.key
      · simp [kept]
      · rw [List.filter_cons_of_neg (by simpa using kept), ih, if_neg kept, if_neg kept]
    · have other : (field.key == key) = false := beq_eq_false_iff_ne.mpr same
      by_cases kept : keeps key
      · rw [List.filter_cons_of_pos (by simpa using kept), List.lookup_cons, List.lookup_cons,
          other]
        exact ih
      · rw [List.filter_cons_of_neg (by simpa using kept), List.lookup_cons, other]
        exact ih

/-- No other key has any influence. -/
theorem ofEntries_ownEntries (entries : List (Text × Value)) :
    ofEntries (ownEntries entries) = ofEntries entries := by
  have same : ∀ field, given? (ownEntries entries) field = given? entries field := by
    intro field
    rw [ownEntries, given?_filter (fun key =>
      key = Field.launchCommand.key || key = Field.launchTimeout.key)]
    cases field <;> rfl
  rw [ofEntries, ofEntries, same, same]

/-- There are settings exactly if there are a command and a time. -/
theorem ofEntries_eq_ok_iff :
    ofEntries entries = .ok settings ↔
      command (given? entries .launchCommand) = .ok settings.launchCommand ∧
        timeout (given? entries .launchTimeout) = .ok settings.launchTimeout := by
  rw [ofEntries]
  cases command (given? entries .launchCommand) with
  | error findings => cases timeout (given? entries .launchTimeout) <;> simp
  | ok words =>
    cases timeout (given? entries .launchTimeout) with
    | error findings => simp
    | ok seconds =>
      obtain ⟨_, _⟩ := settings
      simp

/-- The findings are those of the command, and behind them those of the time. -/
theorem findings_of_ofEntries {findings : List Finding}
    (fails : ofEntries entries = .error findings) :
    findings = findingsOf (command (given? entries .launchCommand)) ++
      findingsOf (timeout (given? entries .launchTimeout)) := by
  rw [ofEntries] at fails
  cases first : command (given? entries .launchCommand) <;>
    cases second : timeout (given? entries .launchTimeout) <;>
    simp_all [findingsOf]

/-- A command behind all other entries is the one of the settings; the time is left to those. -/
theorem ofEntries_append_command (entries : List (Text × Value)) (words : List Text) :
    ofEntries (entries ++ [(Field.launchCommand.key, .list (words.map Value.text))]) =
      (timeout (given? entries .launchTimeout)).map fun seconds => ⟨words, seconds⟩ := by
  have last : given? (entries ++ [(Field.launchCommand.key, .list (words.map Value.text))])
      .launchCommand = some (.list (words.map Value.text)) := by
    simp [given?]
  have others : given? (entries ++ [(Field.launchCommand.key, .list (words.map Value.text))])
      .launchTimeout = given? entries .launchTimeout := by
    rw [given?, List.reverse_append, List.reverse_singleton, List.singleton_append,
      List.lookup_cons]
    rfl
  rw [ofEntries, last, others, Settings.command, itemsFrom_texts]
  cases timeout (given? entries .launchTimeout) <;> rfl

/-- A command that the environment gives is the one of the settings, whatever the entries of the
file are, if these give a time. -/
theorem combine_command {pairs : List (Value × Value)} {entries : List (Text × Value)}
    (keyed : withTextKeys pairs = some entries) (path : Text) (words : List Text) :
    combine path pairs (some words) =
      match timeout (given? entries .launchTimeout) with
      | .ok seconds => .ok ⟨words, seconds⟩
      | .error findings => .error (.settings path (.invalid findings)) := by
  rw [combine, keyed]
  dsimp only
  rw [ofEntries_append_command]
  cases timeout (given? entries .launchTimeout) <;> rfl

theorem isJson_given (json : ∀ entry ∈ entries, IsJson entry.2) :
    ∀ value ∈ given? entries field, IsJson value := by
  intro value given
  obtain ⟨front, behind, whole, _⟩ := List.lookup_eq_some_iff.mp given
  have inside : (field.key, value) ∈ entries.reverse := by simp [whole]
  exact json _ (List.mem_reverse.mp inside)

theorem commandFindings_findingsOf {given : Option Value} (json : ∀ value ∈ given, IsJson value) :
    CommandFindings given (findingsOf (command given)) := by
  cases reads : command given with
  | error findings => exact commandFindings_of_command json reads
  | ok words =>
    cases (command_eq_ok_iff json).mp reads with
    | absent => exact .absent
    | texts =>
      have items := CommandFindings.items (words.map Value.text)
      rwa [strayItems_texts] at items

theorem timeFindings_findingsOf {given : Option Value} (json : ∀ value ∈ given, IsJson value) :
    TimeFindings given (findingsOf (timeout given)) := by
  cases reads : timeout given with
  | error findings => exact timeFindings_of_timeout json reads
  | ok seconds => exact .fine ((timeout_eq_ok_iff json).mp reads)

end All

/-- An object that a JSON document can hold gives settings exactly if its command is missing or a
list of texts, and its time is missing or denotes a positive integer. Then the settings have just
these, so that the time is positive whatever was given. Otherwise there are findings: first those of
the command, one if it is no list and else one for each item that is no text, in the order of their
indices, and then the one of the time, if it has one. No other key makes any difference. -/
theorem settings_of_json_object {entries : List (Text × Value)}
    (json : ∀ entry ∈ entries, IsJson entry.2) :
    (∀ settings, ofEntries entries = .ok settings ↔
        GivesCommand (given? entries .launchCommand) settings.launchCommand ∧
          GivesTime (given? entries .launchTimeout) settings.launchTimeout) ∧
      (∀ settings, ofEntries entries = .ok settings → 1 ≤ settings.launchTimeout) ∧
      (∀ findings, ofEntries entries = .error findings → ∃ first second,
        findings = first ++ second ∧ CommandFindings (given? entries .launchCommand) first ∧
          TimeFindings (given? entries .launchTimeout) second) ∧
      ∀ other, ownEntries other = ownEntries entries → ofEntries other = ofEntries entries := by
  have gives : ∀ settings, ofEntries entries = .ok settings ↔
      GivesCommand (given? entries .launchCommand) settings.launchCommand ∧
        GivesTime (given? entries .launchTimeout) settings.launchTimeout := by
    intro settings
    rw [ofEntries_eq_ok_iff, command_eq_ok_iff (isJson_given json),
      timeout_eq_ok_iff (isJson_given json)]
  refine ⟨gives, fun settings reads => ?positive, fun findings fails => ?findings,
    fun other same => ?others⟩
  case positive => exact positive_of_givesTime ((gives settings).mp reads).2
  case findings =>
    exact ⟨_, _, findings_of_ofEntries fails, commandFindings_findingsOf (isJson_given json),
      timeFindings_findingsOf (isJson_given json)⟩
  case others =>
    rw [← ofEntries_ownEntries other, same, ofEntries_ownEntries]

/-- A list with a number and a null among its texts, and a time with a fraction: two findings for
the command, then one for the time. -/
theorem settings_of_json_object_mixed :
    let entries : List (Text × Value) := [
      (Field.launchTimeout.key, .real (.finite false 5 (-1))),
      (Field.launchCommand.key, .list [.text ['a'], .integer 1, .text [], .null])]
    (∀ entry ∈ entries, IsJson entry.2) ∧
      ∃ first second, ofEntries entries = .error (first ++ second) ∧
        CommandFindings (given? entries .launchCommand) first ∧
        TimeFindings (given? entries .launchTimeout) second ∧
        (first ++ second).map (fun finding => (finding.index, finding.problem)) =
          [(some 1, .notAText), (some 3, .notAText), (none, .integer .fractional)] := by
  intro entries
  have json : ∀ entry ∈ entries, IsJson entry.2 := by
    have items : ∀ item ∈ [Value.text ['a'], .integer 1, .text [], .null], IsJson item := by
      simp [IsJson.text, IsJson.integer, IsJson.null]
    simpa [entries, IsJson.real] using IsJson.list items
  obtain ⟨_, _, findings, _⟩ := settings_of_json_object json
  have places : (findingsOf (ofEntries entries)).map
      (fun finding => (finding.index, finding.problem)) =
        [(some 1, .notAText), (some 3, .notAText), (none, .integer .fractional)] := by
    decide +kernel
  cases fails : ofEntries entries with
  | ok settings =>
    rw [fails] at places
    cases places
  | error all =>
    obtain ⟨first, second, rfl, command, time⟩ := findings _ fails
    rw [fails] at places
    exact ⟨json, first, second, rfl, command, time, places⟩

end SettingsFindings
end DebugLaunch
