import DebugLaunch.Proofs.PercentDivision
import Mathlib.Data.List.Nodup

/-! Look-ups that ignore case take the exact name first and else the first name with the same upper
case. Where no two names have one upper case, both agree with a list of upper case names that each
have one value. Of such a list neither the order nor the spelling of the names can be seen. -/
namespace DebugLaunch.NamesIgnoringCase
open Reference PercentDivision

/-- The upper case names of the variables, with their values. -/
def upperNames (environment : Environment) : Environment :=
  environment.map fun entry => (Text.upper entry.1, entry.2)

/-- No two variables have names with one upper case. -/
def DistinctIgnoringCase (environment : Environment) : Prop :=
  (environment.map fun entry => Text.upper entry.1).Nodup

/-- The variables of the first environment in another order, where each name may be another one
with the same upper case, are those of the second. -/
def Respelled (first second : Environment) : Prop :=
  ∃ ordered, first.Perm ordered ∧
    List.Forall₂ (fun one other => Text.upper one.1 = Text.upper other.1 ∧ one.2 = other.2)
      ordered second

section
variable {environment first second : Environment} {name value : Text}

private theorem names_upperNames (environment : Environment) :
    (upperNames environment).map Prod.fst = environment.map fun entry => Text.upper entry.1 := by
  rw [upperNames, List.map_map]
  rfl

theorem mem_upperNames_iff {image : Text} :
    (image, value) ∈ upperNames environment ↔
      ∃ key, (key, value) ∈ environment ∧ Text.upper key = image := by
  simp [upperNames]

/-- What a look-up finds, it finds under a name with the same upper case. -/
theorem mem_of_getIgnoringCase? (found : environment.getIgnoringCase? name = some value) :
    (Text.upper name, value) ∈ upperNames environment := by
  rw [mem_upperNames_iff]
  unfold Environment.getIgnoringCase? at found
  split at found
  · rename_i held exact
    obtain rfl := Option.some.inj found
    obtain ⟨front, behind, whole, _⟩ := List.lookup_eq_some_iff.mp exact
    exact ⟨name, by simp [whole], rfl⟩
  · obtain ⟨⟨key, held⟩, search, rfl⟩ := Option.map_eq_some_iff.mp found
    exact ⟨key, List.mem_of_find?_eq_some search, by simpa using List.find?_some search⟩

/-- A name is found if some name has the same upper case. -/
theorem getIgnoringCase?_isSome (member : (Text.upper name, value) ∈ upperNames environment) :
    (environment.getIgnoringCase? name).isSome := by
  obtain ⟨key, inside, image⟩ := mem_upperNames_iff.mp member
  unfold Environment.getIgnoringCase?
  split
  · rfl
  · rw [Option.isSome_map, List.find?_isSome]
    exact ⟨(key, value), inside, by simp [image]⟩

/-- Among distinct names, the exact one has no precedence over one with the same upper case. -/
theorem getIgnoringCase?_eq_some_iff (distinct : DistinctIgnoringCase environment) :
    environment.getIgnoringCase? name = some value ↔
      (Text.upper name, value) ∈ upperNames environment := by
  refine ⟨mem_of_getIgnoringCase?, fun member => ?_⟩
  obtain ⟨held, found⟩ := Option.isSome_iff_exists.mp (getIgnoringCase?_isSome member)
  have keys : ((upperNames environment).map Prod.fst).Nodup := by rwa [names_upperNames]
  have same := List.inj_on_of_nodup_map keys (mem_of_getIgnoringCase? found) member rfl
  rw [found, (Prod.mk.inj same).2]

/-- Respelling only changes the order of the upper case names. -/
theorem perm_of_respelled (respelled : Respelled first second) :
    (upperNames first).Perm (upperNames second) := by
  obtain ⟨ordered, perm, alike⟩ := respelled
  have same : upperNames ordered = upperNames second := by
    clear perm
    induction alike with
    | nil => rfl
    | cons entry _ ih =>
      rw [upperNames, List.map_cons, entry.1, entry.2]
      exact congrArg _ ih
  exact same ▸ perm.map _

theorem distinct_of_respelled (respelled : Respelled first second)
    (distinct : DistinctIgnoringCase first) : DistinctIgnoringCase second := by
  unfold DistinctIgnoringCase at distinct ⊢
  rw [← names_upperNames] at distinct ⊢
  exact ((perm_of_respelled respelled).map _).nodup_iff.mp distinct

theorem getIgnoringCase?_respelled (respelled : Respelled first second)
    (distinct : DistinctIgnoringCase first) (name : Text) :
    first.getIgnoringCase? name = second.getIgnoringCase? name := by
  have distinctSecond := distinct_of_respelled respelled distinct
  apply Option.ext
  intro value
  rw [getIgnoringCase?_eq_some_iff distinct, getIgnoringCase?_eq_some_iff distinctSecond]
  exact (perm_of_respelled respelled).mem_iff

/-- Of variables with distinct names, neither the order nor the case of the names is seen: a name
has the value of the variable with the same upper case, in both environments the same one, and each
text has the same expansion in both. -/
theorem expansion_of_respelled (distinct : DistinctIgnoringCase first)
    (respelled : Respelled first second) :
    (∀ name value, first.getIgnoringCase? name = some value ↔
      ∃ key, (key, value) ∈ first ∧ Text.upper key = Text.upper name) ∧
    (∀ name, first.getIgnoringCase? name = second.getIgnoringCase? name) ∧
    ∀ text, Reference.expand .percent first text = Reference.expand .percent second text := by
  have lookups := getIgnoringCase?_respelled respelled distinct
  refine ⟨fun name value => ?_, lookups, fun text => ?_⟩
  · rw [getIgnoringCase?_eq_some_iff distinct, mem_upperNames_iff]
  · exact expand_congr fun _ name _ _ _ => lookups name

end

/-- The upper case of one name is longer than the name, and the other name is used in a spelling
that neither environment has. -/
theorem expansion_of_respelled_sharp_s :
    let first : Environment :=
      [("stra\u00dfe".toList, "1".toList), ("Path".toList, "2".toList)]
    let second : Environment :=
      [("PATH".toList, "2".toList), ("STRASSE".toList, "1".toList)]
    let text := "%STRASSE%no%pAth%".toList
    DistinctIgnoringCase first ∧ DistinctIgnoringCase second ∧ Respelled first second ∧
      first.getIgnoringCase? "STRASSE".toList = some "1".toList ∧
      second.getIgnoringCase? "STRASSE".toList = some "1".toList ∧
      Reference.expand .percent first text = "1no2".toList ∧
      Reference.expand .percent second text = "1no2".toList := by
  intro first second text
  have distinct : DistinctIgnoringCase first := by
    unfold DistinctIgnoringCase
    decide +kernel
  have sharp : Text.upper "stra\u00dfe".toList = Text.upper "STRASSE".toList := by decide +kernel
  have path : Text.upper "Path".toList = Text.upper "PATH".toList := by decide +kernel
  have respelled : Respelled first second :=
    ⟨[("Path".toList, "2".toList), ("stra\u00dfe".toList, "1".toList)], .swap ..,
      .cons ⟨path, rfl⟩ (.cons ⟨sharp, rfl⟩ .nil)⟩
  obtain ⟨found_iff, lookups, expansions⟩ := expansion_of_respelled distinct respelled
  have found : first.getIgnoringCase? "STRASSE".toList = some "1".toList :=
    (found_iff _ _).mpr ⟨_, List.mem_cons_self .., sharp⟩
  have expanded : Reference.expand .percent second text = "1no2".toList := by decide +kernel
  exact ⟨distinct, distinct_of_respelled respelled distinct, respelled, found,
    (lookups _).symm.trans found, (expansions text).trans expanded, expanded⟩

end DebugLaunch.NamesIgnoringCase
