import DebugLaunch.Text.Basic

/-! Universal line ends: a carriage return, alone or with a line feed after it, is read as one
line feed. -/
namespace DebugLaunch.Text

/-- The text with every `CR LF` and every other `CR` turned into `LF`. -/
def unifyNewlines : Text → Text
  | [] => []
  | '\r' :: '\n' :: rest => '\n' :: unifyNewlines rest
  | c :: rest => (if c = '\r' then '\n' else c) :: unifyNewlines rest

theorem unifyNewlines_of_no_return {text : Text} (none : '\r' ∉ text) :
    unifyNewlines text = text := by
  fun_induction unifyNewlines text with
  | case1 => rfl
  | case2 rest ih => simp at none
  | case3 c rest shape ih =>
    simp only [List.mem_cons, not_or] at none
    simp [ih none.2, Ne.symm none.1]

/-- No carriage return is left. -/
theorem return_not_mem_unifyNewlines (text : Text) : '\r' ∉ unifyNewlines text := by
  fun_induction unifyNewlines text with
  | case1 => simp
  | case2 rest ih => simpa using ih
  | case3 c rest shape ih =>
    simp only [List.mem_cons, not_or]
    refine ⟨?_, ih⟩
    split
    · decide
    · rename_i other
      exact fun same => other same.symm

end DebugLaunch.Text
