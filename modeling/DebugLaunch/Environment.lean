import DebugLaunch.Text.Case

/-! Environments: variables in the order in which they were first set, each name once. A look-up
either asks for the exact name or, where names have no case, takes the exact name first and then
the first variable whose name has the same upper case. -/
namespace DebugLaunch

/-- The variables of an environment with their values. -/
abbrev Environment := List (Text × Text)

namespace Environment

/-- The value of the variable with exactly this name. -/
def get? (environment : Environment) (name : Text) : Option Text :=
  List.lookup name environment

/-- The value of the exact name, or else of the first name with the same upper case. -/
def getIgnoringCase? (environment : Environment) (name : Text) : Option Text :=
  match environment.get? name with
  | some value => some value
  | none => (environment.find? fun entry => Text.upper entry.1 = Text.upper name).map Prod.snd

/-- Sets a variable: in its place if it is set already, at the end if not. -/
def set (environment : Environment) (name value : Text) : Environment :=
  match environment with
  | [] => [(name, value)]
  | entry :: rest => if entry.1 = name then (name, value) :: rest else entry :: set rest name value

/-- Removes a variable. -/
def unset (environment : Environment) (name : Text) : Environment :=
  environment.filter fun entry => entry.1 != name

/-- The environment of a list of settings, where a later one replaces the value of an earlier one.
-/
def ofPairs (pairs : List (Text × Text)) : Environment :=
  pairs.foldl (fun environment pair => environment.set pair.1 pair.2) []

theorem get?_set_self (environment : Environment) (name value : Text) :
    (environment.set name value).get? name = some value := by
  induction environment with
  | nil => simp [set, get?]
  | cons entry rest ih =>
    unfold set
    split
    · simp [get?]
    · rename_i other
      obtain ⟨key, old⟩ := entry
      simp only at other
      have : (name == key) = false := by simpa using fun same => other same.symm
      simpa [get?, List.lookup_cons, this] using ih

theorem get?_set_of_ne {name other : Text} (different : other ≠ name) (environment : Environment)
    (value : Text) : (environment.set name value).get? other = environment.get? other := by
  induction environment with
  | nil =>
    have : (other == name) = false := by simpa using different
    simp [set, get?, this]
  | cons entry rest ih =>
    obtain ⟨key, old⟩ := entry
    unfold set
    split
    · rename_i same
      simp only at same
      subst same
      have : (other == key) = false := by simpa using different
      simp [get?, List.lookup_cons, this]
    · simp only [get?, List.lookup_cons] at ih ⊢
      split <;> simp_all

theorem get?_unset_self (environment : Environment) (name : Text) :
    (environment.unset name).get? name = none := by
  rw [get?, List.lookup_eq_none_iff]
  intro entry inside
  have other : entry.1 ≠ name := by simpa using (List.mem_filter.mp inside).2
  simpa using other.symm

end Environment
end DebugLaunch
