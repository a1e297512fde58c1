import DebugLaunch.Command
import DebugLaunch.Program.Shell

/-! Starting a command and waiting for it. A launch takes whatever starts its command as a
parameter, and what is known of launches holds for each. The commands here are the one that runs are
compared with: a shell and the small tools that test commands are made of, so that a launch of `sh`
or of `printf` can be done on the files of a machine, up to the output and the files that it leaves.
-/
namespace DebugLaunch.Program

/-- The longest time that can be waited for a program, in milliseconds. -/
def maxWait : Int := 2147483647

/-- Starts a command and waits for it, as long as the limit allows. -/
def run : Runner := fun limit words machine =>
  let process : Process :=
    { files := machine.files, directory := machine.directory, environment := machine.environment }
  if words.any fun word => word.contains '\x00' then (.refused .nullCharacter, machine.files)
  else match locate process words with
    | .error fault => (.refused (.refused fault (words.headD [])), machine.files)
    | .ok (_, program) =>
      if limit.any (maxWait < ·) then (.waitTooLong, machine.files)
      else
        let (after, code) := start process words program
        if limit.any fun limit => limit.toNat ≤ after.elapsed then (.timedOut, after.files)
        else (.finished code (after.buffer 0) (after.buffer 1), after.files)

end DebugLaunch.Program
