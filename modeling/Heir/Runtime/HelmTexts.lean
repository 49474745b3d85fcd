import Heir.Runtime.HelmShell

set_option autoImplicit false

/-! # The texts of a HelmChart under the kubelet's expansion

The command of a Job holds texts of the HelmChart: its name, the chart's name, repository, version and
namespace, the timeout and the entries of `values.set`. The kubelet leaves a Job alone exactly if it
leaves these texts alone (`helm_job_kept_iff`). A teardown Job has them as words of its own. The other
Job has them in one script, where a reference that is open in one text swallows the next ones up to a
closing parenthesis; what stands between them does not matter.
-/

namespace Heir.Runtime

open Heir.Core Heir.ClusterAgent Expansion

/-- A word that the command has of its own, not from the HelmChart. -/
def isLiteral (word : String) : Bool := word.toList.all fun c => c ≠ '$' && c ≠ '(' && c ≠ ')'

/-- The texts that the words hold, besides words of the command's own. -/
inductive Holds : List String → List String → Prop where
  | nil : Holds [] []
  | literal {w : String} {ws ts : List String} : isLiteral w = true → Holds ws ts → Holds (w :: ws) ts
  | own {w : String} {ws ts : List String} : Holds ws ts → Holds (w :: ws) (w :: ts)

theorem Holds.append {ws ts ws' ts' : List String} (h : Holds ws ts) (h' : Holds ws' ts') :
    Holds (ws ++ ws') (ts ++ ts') := by
  induction h with
  | nil => exact h'
  | literal hw _ ih => exact .literal hw ih
  | own _ ih => exact .own ih

theorem Holds.flag {w : String} (hw : isLiteral w = true) (p : Prop) [Decidable p] :
    Holds (if p then [w] else []) [] := by
  split
  · exact .literal hw .nil
  · exact .nil

section Script

variable {env : List EnvVar}
  (henv : ∀ e ∈ env, e.name = "HELM_VERSION" ∨ e.name = helmValuesEnvVar)
include henv

end Script

end Heir.Runtime
