import Heir.Api.Meta

set_option autoImplicit false

/-! # The built-in kinds the controllers write

Secrets, ConfigMaps, Services and Deployments, with the fields the generators set. Values the
generators only pass on (an affinity) are held as their JSON text.
-/

namespace Heir.Core

/-- A Go `[]byte`. -/
abbrev Bytes : Type := List UInt8

instance : DecidableEq (GoMap Bytes) := inferInstance

/-- `[]byte(s)`. -/
def bytes (s : String) : Bytes := s.toUTF8.data.toList

theorem bytes_injective : Function.Injective bytes := fun _ _ h =>
  String.toByteArray_inj.mp (ByteArray.ext (Array.toList_inj.mp h))

theorem ofList_map_injective :
    Function.Injective fun b : Bytes => String.ofList (b.map fun u => Char.ofNat u.toNat) := by
  have hchar : Function.Injective fun u : UInt8 => Char.ofNat u.toNat := by
    have hinv : ∀ i : Fin 256, (Char.ofNat i).toNat = i := by decide +kernel
    intro u v h
    have huv := congrArg Char.toNat h
    dsimp only at huv
    rw [hinv ⟨u.toNat, u.toNat_lt⟩, hinv ⟨v.toNat, v.toNat_lt⟩] at huv
    exact UInt8.toNat_inj.mp huv
  exact fun _ _ h => hchar.list_map (String.ofList_injective h)

structure Secret where
  metadata : ObjectMeta
  type : String := ""
  data : GoMap Bytes := ∅

structure ConfigMap where
  metadata : ObjectMeta
  data : GoMap String := ∅

/-! ## Services -/

inductive ServiceType where
  | unset
  | clusterIP
  | nodePort
  | loadBalancer
  | externalName
  deriving DecidableEq, Repr

inductive Protocol where
  | unset
  | tcp
  | udp
  | sctp
  deriving DecidableEq, Repr

inductive IntOrString where
  | int (n : Int32)
  | str (s : String)
  deriving DecidableEq

structure ServicePort where
  name : String
  protocol : Protocol
  appProtocol : Option String := none
  port : Int32
  targetPort : IntOrString
  nodePort : Int32 := 0
  deriving DecidableEq

structure ServiceSpec where
  type : ServiceType := .unset
  clusterIP : String := ""
  selector : GoMap String
  ports : List ServicePort

structure Service where
  metadata : ObjectMeta
  spec : ServiceSpec

/-! ## Pods and Deployments -/

/-- Amounts in nano-units: two quantities are semantically equal when their amounts are. -/
structure ResourceRequirements where
  limits : GoMap Int := ∅
  requests : GoMap Int := ∅
  claims : List String := []

instance : DecidableEq ResourceRequirements := fun a b =>
  decidable_of_iff (a.limits = b.limits ∧ a.requests = b.requests ∧ a.claims = b.claims)
    (by cases a; cases b; simp)

structure Toleration where
  key : String
  operator : String
  value : String
  effect : String
  tolerationSeconds : Option Int
  deriving DecidableEq, Repr

/-- A `corev1.Affinity`, by its JSON text. -/
structure Affinity where
  json : String
  deriving DecidableEq, Repr

structure SecretKeySelector where
  name : String
  key : String
  deriving DecidableEq, Repr

structure EnvVar where
  name : String
  value : String := ""
  secretKeyRef : Option SecretKeySelector := none
  deriving DecidableEq, Repr

inductive VolumeSource where
  | secret (secretName : String)
  | configMap (name : String) (defaultMode : Option Int32)
  deriving DecidableEq

structure Volume where
  name : String
  source : VolumeSource
  deriving DecidableEq

structure VolumeMount where
  name : String
  mountPath : String
  subPath : String := ""
  readOnly : Bool
  deriving DecidableEq, Repr

structure ContainerPort where
  name : String
  containerPort : Int32
  protocol : Protocol
  deriving DecidableEq

structure Container where
  name : String
  image : String
  command : List String := []
  args : List String := []
  ports : List ContainerPort := []
  volumeMounts : List VolumeMount
  env : List EnvVar := []
  resources : ResourceRequirements := {}

instance : DecidableEq Container := fun a b =>
  decidable_of_iff
    (a.name = b.name ∧ a.image = b.image ∧ a.command = b.command ∧ a.args = b.args ∧
      a.ports = b.ports ∧ a.volumeMounts = b.volumeMounts ∧ a.env = b.env ∧
      a.resources = b.resources)
    (by cases a; cases b; simp)

/-- A `corev1.PodSecurityContext`, by its JSON text. -/
structure PodSecurityContext where
  json : String
  deriving DecidableEq, Repr

structure PodSpec where
  restartPolicy : String := ""
  securityContext : Option PodSecurityContext := none
  hostNetwork : Bool := false
  serviceAccountName : String
  runtimeClassName : Option String
  tolerations : List Toleration
  affinity : Option Affinity
  volumes : List Volume
  containers : List Container
  deriving DecidableEq

structure PodTemplateSpec where
  labels : GoMap String
  annotations : GoMap String
  spec : PodSpec

instance : DecidableEq PodTemplateSpec := fun a b =>
  decidable_of_iff (a.labels = b.labels ∧ a.annotations = b.annotations ∧ a.spec = b.spec)
    (by cases a; cases b; simp)

structure DeploymentSpec where
  replicas : Option Int32
  selector : GoMap String
  template : PodTemplateSpec

instance : DecidableEq DeploymentSpec := fun a b =>
  decidable_of_iff
    (a.replicas = b.replicas ∧ a.selector = b.selector ∧ a.template = b.template)
    (by cases a; cases b; simp)

structure Deployment where
  metadata : ObjectMeta
  spec : DeploymentSpec

/-! ## Kinds -/

/-- The kinds of objects the Runtime controller manages. -/
inductive Kind where
  | secret
  | configMap
  | service
  | deployment
  deriving DecidableEq, Repr

/-- The objects of a kind. -/
abbrev Obj : Kind → Type
  | .secret => Secret
  | .configMap => ConfigMap
  | .service => Service
  | .deployment => Deployment

namespace Obj

def getMeta : (k : Kind) → Obj k → ObjectMeta
  | .secret, o => o.metadata
  | .configMap, o => o.metadata
  | .service, o => o.metadata
  | .deployment, o => o.metadata

def setMeta : (k : Kind) → Obj k → ObjectMeta → Obj k
  | .secret, o, m => { o with metadata := m }
  | .configMap, o, m => { o with metadata := m }
  | .service, o, m => { o with metadata := m }
  | .deployment, o, m => { o with metadata := m }

@[simp] theorem getMeta_setMeta (k : Kind) (o : Obj k) (m : ObjectMeta) :
    getMeta k (setMeta k o m) = m := by
  cases k <;> rfl

end Obj

end Heir.Core
