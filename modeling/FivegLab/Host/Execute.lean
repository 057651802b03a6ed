import FivegLab.Host.Command

/-!
# Commands of the readiness and preflight checks

The wrapper around commands whose failures are results, not exceptions.
-/

namespace FivegLab

open Routine (ofExcept)
open Host

/-- What `execute` makes of the end of its process. -/
def CompletedProcess.ofEnd (timeout : ℕ) : ProcessEnd → Except Raised CompletedProcess
  | .exited returncode stdout stderr => .ok ⟨returncode, stdout, stderr⟩
  | .timedOut stdout stderr =>
      .ok ⟨124, stdout, stderr ++ "\nTimed out after " ++ toString timeout ++ "s"⟩
  | .raised error => if error.isOSError then .ok ⟨127, "", error.message⟩ else .error error

def execute (args : List String) (timeout : ℕ) : HostM CompletedProcess := do
  let ended ← spawn args [] timeout
  ofExcept (CompletedProcess.ofEnd timeout ended)

/-- `output_text(result)`. -/
def CompletedProcess.outputText (result : CompletedProcess) : String :=
  Text.strip (result.stdout ++ "\n" ++ result.stderr)

variable {before after : Unit} {trace : List (Event Host)}

@[simp]
theorem runs_execute_iff {args : List String} {timeout : ℕ}
    {outcome : Except Raised CompletedProcess} :
    (execute args timeout).Runs before trace outcome after ↔
      ∃ ended, trace = [⟨.spawn args [] timeout, ended⟩] ∧
        outcome = CompletedProcess.ofEnd timeout ended :=
  Routine.runs_fallible_iff

end FivegLab
