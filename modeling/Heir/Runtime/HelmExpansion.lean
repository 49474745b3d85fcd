import Heir.Lib.Expansion
import Heir.Runtime.HelmChart

set_option autoImplicit false

/-! # The Jobs of a HelmChart under the kubelet's expansion

Before the kubelet starts a container it expands the references to the container's environment
variables, in the values of these variables themselves and in the words of the command. The words of
a Job's command hold texts of the HelmChart.

The values of the variables have no dollar sign, so the environment never changes. A word of the
command changes exactly if it has an active piece: `$$`, or a reference to one of the container's
variables.
-/

namespace Heir.Runtime

open Heir.Core Heir.ClusterAgent

/-! ## The kubelet -/

/-- `EnvVarsToMap`: the last of several variables with one name counts. -/
def envValue (env : List EnvVar) (name : List Char) : Option (List Char) :=
  (env.reverse.find? fun e => e.name.toList = name).map fun e => e.value.toList

/-- No value has a dollar sign. -/
def PlainValues (env : List EnvVar) : Prop := ∀ e ∈ env, '$' ∉ e.value.toList

theorem PlainValues.envValue {env : List EnvVar} (h : PlainValues env) :
    ∀ name v, Runtime.envValue env name = some v → '$' ∉ v := by
  intro name v hv
  obtain ⟨e, he, rfl⟩ := Option.map_eq_some_iff.mp hv
  exact h e (List.mem_reverse.mp (List.mem_of_find?_eq_some he))

/-- The step that decodes the values, for a chart with values that is installed. -/
def decodeStep (helmChart : HelmChart) (operation : JobOperation) : String :=
  if helmChart.spec.values.content ≠ "" ∧ operation ≠ .teardown then
    "echo \"$" ++ helmValuesEnvVar ++ "\" | base64 -d > " ++ helmValuesFile
  else ""

/-- The environment of the Job's container. -/
def jobEnv (helmChart : HelmChart) (operation : JobOperation) : List EnvVar :=
  [{ name := "HELM_VERSION", value := helmVersionText helmChart.spec.helm.version }] ++
    if helmChart.spec.values.content ≠ "" ∧ operation ≠ .teardown then
      [{ name := helmValuesEnvVar
         value := String.ofList (base64Encode (bytes helmChart.spec.values.content)) }]
    else []

/-- The command of the Job's container. -/
def jobCommand (helmChart : HelmChart) (operation : JobOperation) : List String :=
  containerCommand (decodeStep helmChart operation) (command helmChart operation)

theorem generateJob_container (helmChart : HelmChart) (operation : JobOperation) :
    ∃ job, generateJob helmChart operation = .ok job ∧
      ∃ c, job.spec.template.spec.containers = [c] ∧ c.args = [] ∧
        c.env = jobEnv helmChart operation ∧ c.command = jobCommand helmChart operation := by
  refine ⟨_, rfl, _, rfl, rfl, ?_, ?_⟩
  · unfold jobEnv
    simp only [decide_eq_true_eq]
  · unfold jobCommand decodeStep
    simp only [decide_eq_true_eq]

end Heir.Runtime
