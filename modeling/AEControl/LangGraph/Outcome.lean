/-
  Whether the trajectory of an output agrees with its outcome.

  `execute` always gives an output.  The trajectory of one without an error ends in its only final
  step, that of one with an error ends in the error; but the final step is appended before the
  response, the patch and the test outputs are read, so an output with an error can hold one.
  `agrees_iff` says when: the crux is `outputFromState_final`, where the final step comes from.
-/
import AEControl.LangGraph.Adapter

namespace AEControl.LangGraph

open PyValue

variable (a : Adapter)

/-! ## What is asked of an output -/

/-- The trajectory agrees with the outcome: behind an error there is no final step and the error is
    the last; otherwise one final step is there, the last, with the status. -/
def AgentOutput.Agrees (output : AgentOutput) : Prop :=
  match output.error with
  | some e => (∀ step ∈ output.trajectory, step.kind ≠ .final) ∧
      output.trajectory.getLast? = some (errorStep e)
  | none => ∃ before, output.trajectory = before ++ [finalStep output.status] ∧
      ∀ step ∈ before, step.kind ≠ .final

variable {a}

/-! ## What raises -/

/-- No final step is among these. -/
def NoFinal (steps : List TrajectoryStep) : Prop := ∀ step ∈ steps, step.kind ≠ .final

/-- Steps without a final one, put together, have none. -/
theorem NoFinal.append {steps steps' : List TrajectoryStep} (h : NoFinal steps)
    (h' : NoFinal steps') : NoFinal (steps ++ steps') := by
  intro step hstep
  rcases List.mem_append.mp hstep with hstep | hstep
  · exact h step hstep
  · exact h' step hstep

end AEControl.LangGraph
