import Heir.Api.ClusterAgent
import Heir.Api.Jobs

set_option autoImplicit false

/-! # The Jobs of a HelmChart

A HelmChart is installed and removed by Jobs that run `helm`. A Job of the operation `install` runs
`helm upgrade --install` from the chart's repository, one of the operation `teardown` runs
`helm uninstall`; both run under a ServiceAccount with the role `cluster-admin`.
-/

namespace Heir.Runtime

open Heir.Core Heir.ClusterAgent

/-! ## Names -/

def helmValuesEnvVar : String := "HELM_VALUES"

def helmValuesFile : String := "/tmp/values.yaml"

def observedGenerationLabel : String := "clusteragent.tardigrade.runtime.io/observed-generation"

inductive JobOperation where
  | install
  | teardown
  deriving DecidableEq, Repr

/-- `string(operation)`. -/
def JobOperation.text : JobOperation → String
  | .install => "install"
  | .teardown => "teardown"

def jobName (chartName : String) (operation : JobOperation) : String :=
  "helmchart-" ++ chartName ++ "-" ++ operation.text

theorem jobName_inj {a b : String} {op op' : JobOperation} (h : jobName a op = jobName b op') :
    a = b ∧ op = op' := by
  have hlast : ∀ (n : String) (o : JobOperation),
      (jobName n o).toList.getLast? = o.text.toList.getLast? := by
    intro n o
    exact getLast?_toList_append _ (by cases o <;> decide)
  have hop : op = op' := by
    have htext := (hlast a op).symm.trans ((congrArg (·.toList.getLast?) h).trans (hlast b op'))
    revert htext
    cases op <;> cases op' <;> decide
  subst hop
  refine ⟨?_, rfl⟩
  rw [jobName, jobName, String.append_left_inj, String.append_left_inj,
    String.append_right_inj] at h
  exact h

def serviceAccountName (chartName : String) : String := "helmchart-" ++ chartName

theorem serviceAccountName_inj {a b : String} (h : serviceAccountName a = serviceAccountName b) :
    a = b :=
  String.append_right_inj _ |>.mp h

/-! ## Permissions -/

def generateRBAC (helmChart : HelmChart) : ServiceAccount × ClusterRoleBinding :=
  let name := serviceAccountName helmChart.metadata.name
  (⟨{ name := name, ns := helmChart.metadata.ns }⟩,
    { metadata := { name := name, ns := "" }
      roleRef := ⟨"rbac.authorization.k8s.io", "ClusterRole", "cluster-admin"⟩
      subjects := [⟨"ServiceAccount", name, helmChart.metadata.ns⟩] })

/-! ## Commands -/

/-- `Command`: the argument vectors that the Job runs, in order. -/
def command (helmChart : HelmChart) (operation : JobOperation) : List (List String) :=
  let name := helmChart.metadata.name
  let chart := helmChart.spec.chart
  let helm := helmChart.spec.helm
  let timeout := if 0 < helm.timeout.ns then ["--timeout", helm.timeout.text] else []
  let skipTLS := if helm.insecureSkipTLSVerify then ["--insecure-skip-tls-verify"] else []
  match operation with
  | .teardown => [["helm", "uninstall", name, "--namespace", chart.targetNamespace] ++ timeout]
  | .install =>
      let chartRef := chart.name ++ "/" ++ chart.name
      let upgrade :=
        ["helm", "upgrade", name, chartRef, "--install", "--namespace", chart.targetNamespace] ++
        (if chart.createNamespace then ["--create-namespace"] else []) ++
        (if chart.version ≠ "" then ["--version", chart.version] else []) ++
        skipTLS ++ timeout ++
        (if helm.atomic then ["--atomic"] else []) ++
        -- the entries of a map come sorted by their keys
        helmChart.spec.values.set.toList.flatMap (fun (k, v) => ["--set", k ++ "=" ++ v]) ++
        (if helmChart.spec.values.content ≠ "" then ["--values", helmValuesFile] else [])
      [["helm", "repo", "add", chart.name, chart.repo] ++ skipTLS, upgrade]

/-- An argument in single quotes, with each quote of its own replaced by `'\''`. -/
def shellQuote (arg : String) : String :=
  "'" ++ String.ofList (arg.toList.flatMap fun c =>
    if c = Char.ofNat 39 then "'\\''".toList else [c]) ++ "'"

def shellJoin (args : List String) : String := " ".intercalate (args.map shellQuote)

def containerCommand (decode : String) (steps : List (List String)) : List String :=
  let script := ["sh", "-c", " && ".intercalate
    ((if decode ≠ "" then [decode] else []) ++ steps.map shellJoin)]
  match decode, steps with
  | "", [step] => step
  | _, _ => script

/-! ## Jobs -/

/-- The digits of base64. -/
def base64Digit (n : Nat) : Char :=
  if n < 26 then Char.ofNat (65 + n)
  else if n < 52 then Char.ofNat (71 + n)
  else if n < 62 then Char.ofNat (n - 4)
  else if n = 62 then '+' else '/'

/-- `base64.StdEncoding.EncodeToString`. -/
def base64Encode : Bytes → List Char
  | [] => []
  | [a] =>
      let n := a.toNat * 65536
      [base64Digit (n / 262144), base64Digit (n / 4096 % 64), '=', '=']
  | [a, b] =>
      let n := a.toNat * 65536 + b.toNat * 256
      [base64Digit (n / 262144), base64Digit (n / 4096 % 64), base64Digit (n / 64 % 64), '=']
  | a :: b :: c :: rest =>
      let n := a.toNat * 65536 + b.toNat * 256 + c.toNat
      [base64Digit (n / 262144), base64Digit (n / 4096 % 64), base64Digit (n / 64 % 64),
        base64Digit (n % 64)] ++ base64Encode rest

example : String.ofList (base64Encode (bytes "replicas: 2")) = "cmVwbGljYXM6IDI=" := by decide

/-- `string(version)`. -/
def helmVersionText : HelmVersion → String
  | .unset => ""
  | .v2 => "v2"
  | .v3 => "v3"

/-- `GenerateJob`, which never returns an error. -/
def generateJob (helmChart : HelmChart) (operation : JobOperation) : Except GoError Job :=
  let name := helmChart.metadata.name
  let content := helmChart.spec.values.content
  let labels := GoMap.setAll ∅
    [("app.kubernetes.io/name", name), ("app.kubernetes.io/managed-by", "heir")]
  let withValues : Bool := content ≠ "" ∧ operation ≠ .teardown
  let decode := if withValues then
    "echo \"$" ++ helmValuesEnvVar ++ "\" | base64 -d > " ++ helmValuesFile else ""
  .ok
    { metadata :=
        { name := jobName name operation
          ns := helmChart.metadata.ns
          labels := labels.insert observedGenerationLabel (toString helmChart.metadata.generation) }
      spec :=
        { backoffLimit := helmChart.spec.helm.backOffLimit
          completions := some 1
          completionMode := some .nonIndexed
          parallelism := some 1
          template :=
            { labels := labels
              annotations := ∅
              spec :=
                { restartPolicy := "Never"
                  serviceAccountName := serviceAccountName name
                  securityContext := helmChart.spec.runtime.securityContext
                  hostNetwork := helmChart.spec.runtime.bootstrap
                  runtimeClassName := none
                  tolerations := if helmChart.spec.runtime.bootstrap then
                    [⟨"", "Exists", "", "NoSchedule", none⟩, ⟨"", "Exists", "", "NoExecute", none⟩]
                    else []
                  affinity := none
                  volumes := []
                  containers :=
                    [{ name := "helm"
                       image := helmChart.spec.runtime.image
                       command := containerCommand decode (command helmChart operation)
                       volumeMounts := []
                       env := [{ name := "HELM_VERSION"
                                 value := helmVersionText helmChart.spec.helm.version }] ++
                         (if withValues then
                           [{ name := helmValuesEnvVar
                              value := String.ofList (base64Encode (bytes content)) }]
                          else []) }] } } } }

/-- A chart with one value set. -/
def podinfoChart (key value : String) : HelmChart where
  metadata := { name := "podinfo", ns := "default" }
  spec :=
    { chart := { name := "podinfo", repo := "https://example.com/charts" }
      values := { set := (∅ : GoMap String).insert key value } }

end Heir.Runtime
