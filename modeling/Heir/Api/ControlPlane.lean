import Heir.Api.ClusterAgent

set_option autoImplicit false

/-! # The Runtime kind of the control plane

The specification of a Runtime as the custom resource definition has it, with the defaults the
definition declares.
-/

namespace Heir.ControlPlane

open Heir.Core

/-! ## The tenant cluster -/

/-- The host and the port of one component of the control plane. -/
structure ComponentEndpoint where
  host : String
  port : Int32
  deriving DecidableEq

/-- `[a-zA-Z0-9]([a-zA-Z0-9-]{0,61}[a-zA-Z0-9])?`. -/
def hostLabel (l : List Char) : Bool :=
  l.head?.any Char.isAlphanum && l.getLast?.any Char.isAlphanum &&
    l.all (fun c => c.isAlphanum || c == '-') && decide (l.length ≤ 63)

/-- The pattern of the CRD for hosts: labels with a dot in between. -/
def hostPattern (host : String) : Bool := (host.toList.splitOn '.').all hostLabel

/-- What the CRD admits: a host of that pattern and a real port. -/
def ComponentEndpoint.admitted (e : ComponentEndpoint) : Bool :=
  hostPattern e.host && decide (1 ≤ e.port.toInt) && decide (e.port.toInt ≤ 65535)

structure ControlPlaneExternalEndpointSpec where
  apiServer : ComponentEndpoint
  planeTunnel : ComponentEndpoint
  deriving DecidableEq

structure APIServerSpec where
  sans : List String := []
  extraArgs : GoMap String := ∅

structure ControllerManagerSpec where
  extraArgs : GoMap String := ∅

structure SchedulerSpec where
  extraArgs : GoMap String := ∅

structure RegistrySettings where
  registry : String := "registry.k8s.io"
  image : String := ""
  pullPolicy : String := ""

structure KubeProxyIPTablesConfiguration where
  masqueradeBit : Option Int32 := none
  masqueradeAll : Bool := false
  localhostNodePorts : Option Bool := none
  syncPeriod : Duration := {}
  minSyncPeriod : Duration := {}

structure KubeProxyIPVSConfiguration where
  syncPeriod : Duration := {}
  minSyncPeriod : Duration := {}
  scheduler : String := ""
  excludeCIDRs : List String := []
  strictARP : Bool := false
  tcpTimeout : Duration := {}
  tcpFinTimeout : Duration := {}
  udpTimeout : Duration := {}

structure KubeProxyNFTablesConfiguration where
  syncPeriod : Duration := {}
  masqueradeBit : Option Int32 := none
  masqueradeAll : Bool := false
  minSyncPeriod : Duration := {}

inductive ProxyMode where
  | iptables
  | ipvs
  | userspace
  | nft
  deriving DecidableEq, Repr

def ProxyMode.text : ProxyMode → String
  | .iptables => "iptables"
  | .ipvs => "ipvs"
  | .userspace => "userspace"
  | .nft => "nft"

structure KubeProxySpec where
  disabled : Bool := false
  registrySettings : RegistrySettings := { image := "kube-proxy:v1.35.7" }
  mode : ProxyMode := .iptables
  metricsBindAddress : String := ""
  ipTables : KubeProxyIPTablesConfiguration := {}
  ipvs : KubeProxyIPVSConfiguration := {}
  nfTables : KubeProxyNFTablesConfiguration := {}
  nodePortAddresses : List String := []
  extraArgs : GoMap String := ∅

structure NetworkSpec where
  podCIDR : String := "10.244.0.0/16"
  serviceCIDR : String := "10.96.0.0/16"
  dnsDomain : String := "cluster.local"
  kubeProxy : KubeProxySpec := {}

inductive StorageType where
  | unset
  | kine
  deriving DecidableEq, Repr

structure KineSpec where
  dataSourceRef : Option SecretKeySelector := none

structure StorageSpec where
  type : StorageType := .kine
  kine : Option KineSpec := none

structure KubeletSpec where
  extraArgs : GoMap String := ∅
  configPatches : String := ""

structure AddonOverrideSpec where
  values : ClusterAgent.ValuesSpec := {}

structure AddonChartSpec where
  name : String
  enabled : Option Bool := none
  install : Option ClusterAgent.HelmChartSpec := none
  override : Option AddonOverrideSpec := none

structure HelmAddonsSpec where
  image : String := "ghcr.io/tardigradeproj/helmer:latest"
  charts : List AddonChartSpec := []

structure ClusterSpec where
  controlPlaneExternalEndpoint : ControlPlaneExternalEndpointSpec
  apiServer : APIServerSpec := {}
  controllerManager : ControllerManagerSpec := {}
  scheduler : SchedulerSpec := {}
  network : NetworkSpec := {}
  storage : StorageSpec := {}
  kubelet : KubeletSpec := {}
  addons : HelmAddonsSpec := {}

/-! ## The control plane -/

structure AdditionalMetadata where
  labels : GoMap String := ∅
  annotations : GoMap String := ∅

structure AdditionalPort where
  name : String
  protocol : Protocol := .tcp
  appProtocol : Option String := none
  port : Int32
  targetPort : IntOrString

structure DeploymentSpec where
  additionalMetadata : AdditionalMetadata := {}
  replicas : Option Int32 := some 1
  runtimeClassName : String := ""
  tolerations : List Toleration := []
  affinity : Option Affinity := none
  serviceAccountName : String := "default"
  resources : Option ResourceRequirements := none

structure ServiceSpec where
  additionalMetadata : AdditionalMetadata := {}
  additionalPorts : List AdditionalPort := []
  serviceType : ServiceType := .nodePort
  apiServerNodePort : Option Int32 := some 30080

structure PlaneTunnelServerSpec where
  image : String := "ghcr.io/tardigradeproj/heir-tunnel:latest"
  deployment : DeploymentSpec := {}

structure PlaneTunnelServiceSpec where
  additionalMetadata : AdditionalMetadata := {}
  serviceType : ServiceType := .nodePort
  nodePort : Option Int32 := some 30081

structure PlaneTunnelSpec where
  server : PlaneTunnelServerSpec := {}
  service : PlaneTunnelServiceSpec := {}

structure ControlPlaneSpec where
  heirImage : String := "ghcr.io/tardigradeproj/heir:latest"
  clusterAgentImage : String := "ghcr.io/tardigradeproj/clusteragent:latest"
  deployment : DeploymentSpec := {}
  service : ServiceSpec := {}
  planeTunnel : PlaneTunnelSpec := {}

structure RuntimeSpec where
  controlPlane : ControlPlaneSpec := {}
  cluster : ClusterSpec

structure CertificateStatus where
  name : String
  expiresAt : Time
  deriving DecidableEq, Repr

structure RuntimeStatus where
  conditions : List Condition := []
  observedGeneration : Nat := 0
  certificates : List CertificateStatus := []
  deriving DecidableEq, Repr

structure Runtime where
  metadata : ObjectMeta
  spec : RuntimeSpec
  status : RuntimeStatus := {}

namespace Runtime

def name (r : Runtime) : String := r.metadata.name

def ns (r : Runtime) : String := r.metadata.ns

/-- `GroupVersion.String()` of the control plane's API group. -/
def apiVersion : String := "controlplane.tardigrade.runtime.io/v1alpha1"

def kind : String := "Runtime"

/-- The Runtime of a manifest that sets only what is required. -/
def minimal (name ns : String) : Runtime where
  metadata := { name := name, ns := ns, uid := name ++ "-uid", resourceVersion := 1, generation := 1 }
  spec :=
    { cluster :=
        { controlPlaneExternalEndpoint := ⟨⟨"cp.example.com", 6443⟩, ⟨"tunnel.example.com", 9445⟩⟩ } }

end Runtime

end Heir.ControlPlane
