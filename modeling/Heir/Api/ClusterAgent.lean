import Heir.Api.Core

set_option autoImplicit false

/-! # The kinds of the cluster agent: HelmChart and WorkerJoinToken -/

namespace Heir.ClusterAgent

open Heir.Core

/-! ## HelmChart -/

structure ChartSpec where
  name : String
  targetNamespace : String := "default"
  createNamespace : Bool := false
  version : String := ""
  repo : String

inductive HelmVersion where
  | unset
  | v2
  | v3
  deriving DecidableEq, Repr

structure HelmOptions where
  version : HelmVersion := .v3
  insecureSkipTLSVerify : Bool := false
  atomic : Bool := false
  backOffLimit : Option Int32 := some 10
  timeout : Duration := ⟨300000000000⟩

structure RuntimeOptions where
  bootstrap : Bool := false
  image : String := "ghcr.io/tardigradeproj/helmer:latest"
  securityContext : Option PodSecurityContext := none

structure ValuesSpec where
  set : GoMap String := ∅
  content : String := ""

structure HelmChartSpec where
  chart : ChartSpec
  helm : HelmOptions := {}
  runtime : RuntimeOptions := {}
  values : ValuesSpec := {}

structure HelmChartStatus where
  conditions : List Condition := []

structure HelmChart where
  metadata : ObjectMeta
  spec : HelmChartSpec
  status : HelmChartStatus := {}

/-! ## WorkerJoinToken -/

structure WorkerJoinTokenSpec where
  ttl : Duration := ⟨10800000000000⟩

structure WorkerJoinTokenStatus where
  conditions : List Condition := []
  tokenID : String := ""
  expiresAt : Option Time := none
  secretRef : Option String := none
  secretChecksum : String := ""

structure WorkerJoinToken where
  metadata : ObjectMeta
  spec : WorkerJoinTokenSpec := {}
  status : WorkerJoinTokenStatus := {}

end Heir.ClusterAgent
