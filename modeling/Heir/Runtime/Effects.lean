import Heir.Api.Go
import Heir.Runtime.Config

set_option autoImplicit false

/-! # What the Runtime controller calls

The calls of the Runtime controller whose answers are not a function of their arguments: the API
server, the certificate authority, the verification of a certificate against the clock, and the
iteration orders of Go maps. A controller function is a program over these calls that may end
with an error or a panic.

Deterministic functions of other libraries are fields of `Libs`.
-/

namespace Heir.Runtime

open Heir.ControlPlane Heir.Core Interact

/-! ## Certificates and kubeconfigs -/

structure Certificate where
  cert : Bytes
  key : Bytes
  deriving DecidableEq

structure CSR where
  name : String := ""
  cn : String := ""
  o : String := ""
  hostnames : List String
  deriving DecidableEq, Repr

/-- `CertificateDuration`: the lifetime of every generated certificate. -/
def certificateDuration : Duration := ⟨8760 * 3600 * 1000000000⟩

/-- `clientcmdapi.Cluster`. -/
structure KubeCluster where
  server : String
  certificateAuthorityData : Bytes

structure AuthInfo where
  clientCertificateData : Bytes := []
  clientKeyData : Bytes := []
  token : String := ""

/-- `clientcmdapi.Context`. -/
structure KubeContext where
  cluster : String
  authInfo : String

/-- `clientcmdapi.Config`. -/
structure KubeConfig where
  clusters : GoMap KubeCluster
  authInfos : GoMap AuthInfo
  contexts : GoMap KubeContext
  currentContext : String

/-! ## Libraries -/

/-- Deterministic functions of other libraries. -/
structure Libs extends Yaml where
  /-- `strconv.IsPrint`. -/
  isPrint : Char → Bool
  /-- `crypto/sha256`, in lower-case hexadecimal. -/
  sha256 : Bytes → String
  /-- `yaml.Marshal` of a Runtime manifest. -/
  marshalRuntime : Runtime → Except GoError Bytes
  /-- `clientcmd.Write`. -/
  writeKubeconfig : KubeConfig → Except GoError Bytes
  /-- `clientcmd.Load`. -/
  loadKubeconfig : Bytes → Except GoError KubeConfig
  /-- `pki.ParseCertificateExpiry`. -/
  parseCertificateExpiry : Bytes → Except GoError Time

/-! ## Calls -/

/-- The iteration orders of one function. -/
structure Ranges where
  strings : Orders
  bytes : GoMap.RangeOrder Bytes

inductive Call where
  | get (k : Kind) (key : NamespacedName)
  | create (k : Kind) (obj : Obj k)
  | update (k : Kind) (obj : Obj k)
  | getRuntime (key : NamespacedName)
  | updateRuntimeStatus (runtime : Runtime)
  | generateSelfSignedCert
  | signCSR (ca : Certificate) (csr : CSR) (expire : Duration)
  | verifyCertificate (cert : Bytes) (ca : Certificate) (key : Bytes)
  | ranges
  /-- A mark in the run, not a call of the source: all managed objects have been brought in line
  with the specification of the given generation. -/
  | built (generation : Nat)

abbrev Call.Answer : Call → Type
  | .get k _ => Except GoError (Obj k)
  | .create k _ => Except GoError (Obj k)
  | .update k _ => Except GoError (Obj k)
  | .getRuntime _ => Except GoError Runtime
  | .updateRuntimeStatus _ => Except GoError Runtime
  | .generateSelfSignedCert => Except GoError Certificate
  | .signCSR _ _ _ => Except GoError Certificate
  | .verifyCertificate _ _ _ => Except GoError Unit
  | .ranges => Ranges
  | .built _ => Unit

abbrev sig : Sig := ⟨Call, Call.Answer⟩

/-- A function of the Runtime controller. -/
abbrev Go (α : Type) : Type := GoProg sig α

namespace Go

variable {α : Type}

/-- Make a call that cannot fail. -/
def call (c : Call) : Go c.Answer := ExceptT.lift (Prog.perform (S := sig) c)

def get (k : Kind) (key : NamespacedName) : Go (Except GoError (Obj k)) := call (.get k key)

def create (k : Kind) (obj : Obj k) : Go (Except GoError (Obj k)) := call (.create k obj)

def update (k : Kind) (obj : Obj k) : Go (Except GoError (Obj k)) := call (.update k obj)

def signCSR (ca : Certificate) (csr : CSR) : Go Certificate := do
  Go.ofExcept (← call (.signCSR ca csr certificateDuration))

@[simp] theorem run_call (c : Call) :
    (call c).run = Prog.call (S := sig) c (fun x => .ret (.ok x)) := rfl

@[simp] theorem run_call_bind (c : Call) (f : c.Answer → Go α) :
    (call c >>= f).run = Prog.call (S := sig) c (fun x => (f x).run) := rfl

end Go

end Heir.Runtime
