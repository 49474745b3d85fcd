import Heir.Api.ControlPlane

set_option autoImplicit false

/-! # Fixed names: the control-plane layout and the worker's defaults

Every Secret or ConfigMap key with the path it is mounted at, and the names the worker and the
control plane have to agree on. The worker context has the fields that the generators read.
-/

namespace Heir.Runtime

open Heir.Core

/-! ## The layout -/

structure MountEntry where
  secretKey : String
  mountPath : String
  deriving DecidableEq, Repr

structure PKILayout where
  caCert : MountEntry
  caKey : MountEntry
  apiServerCert : MountEntry
  apiServerKey : MountEntry
  serviceAccountCert : MountEntry
  serviceAccountKey : MountEntry
  planeTunnelKey : MountEntry
  planeTunnelCert : MountEntry
  apiServerPlaneTunnelKey : MountEntry
  apiServerPlaneTunnelCert : MountEntry

structure AuthLayout where
  adminConf : MountEntry
  controllerManagerConf : MountEntry
  schedulerConf : MountEntry
  clientKubeconfig : MountEntry

structure StaticManifest where
  kubeProxy : MountEntry
  bootstrap : MountEntry
  nodeProfile : MountEntry

structure ConfigLayout where
  apiServer : MountEntry
  controllerManager : MountEntry
  scheduler : MountEntry
  egressSelector : MountEntry

structure ControlPlaneLayout where
  pki : PKILayout
  auth : AuthLayout
  config : ConfigLayout
  staticManifest : StaticManifest
  runtimeManifest : MountEntry

def newControlPlaneLayout : ControlPlaneLayout where
  runtimeManifest := ⟨"runtime.yaml", "/etc/kubernetes/manifests/runtime.yaml"⟩
  pki :=
    { caCert := ⟨"ca.crt", "/etc/kubernetes/pki/ca.crt"⟩
      caKey := ⟨"ca.key", "/etc/kubernetes/pki/ca.key"⟩
      apiServerCert := ⟨"apiserver.crt", "/etc/kubernetes/pki/apiserver.crt"⟩
      apiServerKey := ⟨"apiserver.key", "/etc/kubernetes/pki/apiserver.key"⟩
      serviceAccountCert := ⟨"sa.crt", "/etc/kubernetes/pki/sa.crt"⟩
      serviceAccountKey := ⟨"sa.key", "/etc/kubernetes/pki/sa.key"⟩
      planeTunnelKey := ⟨"plane-tunnel.key", "/etc/kubernetes/pki/plane-tunnel.key"⟩
      planeTunnelCert := ⟨"plane-tunnel.crt", "/etc/kubernetes/pki/plane-tunnel.crt"⟩
      apiServerPlaneTunnelKey :=
        ⟨"apiserver-plane-tunnel.key", "/etc/kubernetes/pki/apiserver-plane-tunnel.key"⟩
      apiServerPlaneTunnelCert :=
        ⟨"apiserver-plane-tunnel.crt", "/etc/kubernetes/pki/apiserver-plane-tunnel.crt"⟩ }
  auth :=
    { adminConf := ⟨"admin.conf", "/etc/kubernetes/admin.conf"⟩
      clientKubeconfig := ⟨"kubeconfig", "/etc/kubernetes/kubeconfig"⟩
      controllerManagerConf :=
        ⟨"kube-controller-manager.conf", "/etc/kubernetes/kube-controller-manager.conf"⟩
      schedulerConf := ⟨"kube-scheduler.conf", "/etc/kubernetes/kube-scheduler.conf"⟩ }
  staticManifest :=
    { kubeProxy := ⟨"kubeproxy.yaml", "/etc/kubernetes/manifests/manifests.d/kubeproxy.yaml"⟩
      bootstrap :=
        ⟨"tlsbootstrap.yaml", "/etc/kubernetes/manifests/manifests.d/tlsbootstrap.yaml"⟩
      nodeProfile :=
        ⟨"nodeprofile.yaml", "/etc/kubernetes/manifests/manifests.d/nodeprofile.yaml"⟩ }
  config :=
    { apiServer := ⟨"kube-apiserver.sh", "/etc/kubernetes/manifests/kube-apiserver.sh"⟩
      controllerManager :=
        ⟨"kube-controller-manager.sh", "/etc/kubernetes/manifests/kube-controller-manager.sh"⟩
      scheduler := ⟨"kube-scheduler.sh", "/etc/kubernetes/manifests/kube-scheduler.sh"⟩
      egressSelector :=
        ⟨"egress-selector-configuration.yaml",
          "/etc/kubernetes/manifests/egress-selector-configuration.yaml"⟩ }

/-- The layout the Runtime controller works with. -/
def layout : ControlPlaneLayout := newControlPlaneLayout

/-! ## The worker's defaults -/

structure WorkerContext where
  workerProfileConfigMapName : String
  kubeletPKICaCertPath : String
  kubeletStaticPodPath : String
  containerdAddress : String
  controlPlaneEndpointNodeProfileConfigmapKey : String
  kubeletExtraArgsNodeProfileConfigmapKey : String
  kubeletConfigurationNodeProfileConfigmapKey : String
  cniEnableProviderNodeProfileConfigmapKey : String
  planeTunnelServerEgressSelectorPort : Int32
  planeTunnelServerServer : Int32

/-- `NewWorkerContextWithDefaults`: the values of the `default` tags. -/
def newWorkerContextWithDefaults : WorkerContext where
  workerProfileConfigMapName := "worker-profile"
  kubeletPKICaCertPath := "/etc/heir/pki/ca.crt"
  kubeletStaticPodPath := "/etc/heir/manifests"
  containerdAddress := "/run/heir/containerd.sock"
  controlPlaneEndpointNodeProfileConfigmapKey := "control.plane.endpoint"
  kubeletExtraArgsNodeProfileConfigmapKey := "kubelet.extraArgs"
  kubeletConfigurationNodeProfileConfigmapKey := "kubelet.configuration"
  cniEnableProviderNodeProfileConfigmapKey := "cni.provider"
  planeTunnelServerEgressSelectorPort := 9443
  planeTunnelServerServer := 9445

/-! ## Object names -/

def planeTunnelName (runtimeName : String) : String := runtimeName ++ "-tunnel"

def planeTunnelHeadlessName (runtimeName : String) : String := runtimeName ++ "-tunnel-headless"

def planeTunnelEgressName (runtimeName : String) : String := runtimeName ++ "-tunnel-egress"

def clusterAgentRuntimeSecretName (runtimeName : String) : String :=
  runtimeName ++ "-cluster-agent-runtime"

/-- The name of the cluster agent's Deployment. -/
def clusterAgentName (runtimeName : String) : String := runtimeName ++ "-cluster-agent"

/-- The name of the Secret with the client kubeconfig. -/
def clientKubeconfigName (runtimeName : String) : String := runtimeName ++ "-kubeconfig"

/-- The labels of an application, which are also its pod selector. -/
def heirLabels (app : String) : GoMap String :=
  ((∅ : GoMap String).insert "app.kubernetes.io/name" app).insert
    "app.kubernetes.io/managed-by" "heir"

/-- The annotation that keeps a managed object from being deleted. -/
def deletionProtectionAnnotation : String :=
  "controlplane.tardigrade.runtime.io/deletion-protection"

/-- Text lines, each with its newline. -/
def unlines (ls : List String) : String := String.join (ls.map (fun l => l ++ "\n"))

end Heir.Runtime
