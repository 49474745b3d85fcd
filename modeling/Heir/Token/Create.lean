import Heir.Api.Go
import Heir.Runtime.PkiAuth

set_option autoImplicit false

/-! # Bootstrap tokens

A bootstrap token is a pair of random hexadecimal strings. It is stored as a Secret in the
namespace `kube-system`, under a name made from its public half, and handed out as a kubeconfig.

The calls are those of the WorkerJoinToken controller, which issues the tokens.
-/

namespace Heir.Bootstrap

open Heir.Core Heir.Runtime Heir.ClusterAgent Interact

/-! ## Calls and libraries -/

/-- Nanoseconds of the wall clock. -/
abbrev Instant : Type := Nat

/-- Deterministic functions of other libraries. -/
structure Libs where
  /-- `strconv.IsPrint`. -/
  isPrint : Char → Bool
  /-- `crypto/sha256`, in lower-case hexadecimal. -/
  sha256 : Bytes → String
  /-- `clientcmd.Write`. -/
  writeKubeconfig : KubeConfig → Except GoError Bytes
  /-- `t.UTC().Format(time.RFC3339)`. -/
  rfc3339 : Instant → String
  /-- `t.Format(metav1.RFC3339Micro)`. -/
  rfc3339Micro : Instant → String

inductive Call where
  /-- `rand.Read` into a buffer of the given length. -/
  | rand (n : Nat)
  | now
  /-- The clientset's Secrets of the namespace `kube-system`. -/
  | createToken (secret : Secret)
  | deleteToken (name : String)
  /-- The controller's client. -/
  | getJoinToken (key : NamespacedName)
  | updateJoinToken (obj : WorkerJoinToken)
  | updateJoinTokenStatus (obj : WorkerJoinToken)
  | getSecret (name : String)
  | createSecret (secret : Secret)
  | updateSecret (secret : Secret)
  /-- A mark in the run, not a call of the source: the token has been seen to be expired. -/
  | expired

abbrev Call.Answer : Call → Type
  | .rand _ => Except GoError Bytes
  | .now => Instant
  | .createToken _ => Except GoError Secret
  | .deleteToken _ => Except GoError Unit
  | .getJoinToken _ => Except GoError WorkerJoinToken
  | .updateJoinToken _ => Except GoError WorkerJoinToken
  | .updateJoinTokenStatus _ => Except GoError WorkerJoinToken
  | .getSecret _ => Except GoError Secret
  | .createSecret _ => Except GoError Secret
  | .updateSecret _ => Except GoError Secret
  | .expired => Unit

abbrev sig : Sig := ⟨Call, Call.Answer⟩

/-- A function of the token package or of the WorkerJoinToken controller. -/
abbrev Go (α : Type) : Type := GoProg sig α

/-- Make a call. -/
def call (c : Call) : Go c.Answer := ExceptT.lift (Prog.perform (S := sig) c)

def namespaceSystem : String := "kube-system"

/-! ## Tokens -/

structure Token where
  id : String
  secret : String
  deriving DecidableEq, Repr

/-- `Token.String`. -/
def Token.text (t : Token) : String := t.id ++ "." ++ t.secret

/-- `hex.EncodeToString`. -/
def hexEncode (b : Bytes) : String :=
  String.ofList (b.flatMap (fun u => [Nat.digitChar (u.toNat / 16), Nat.digitChar (u.toNat % 16)]))

def randomHex (n : Nat) : Go (Except GoError String) := do
  match ← call (.rand n) with
  | .error e => return .error e
  | .ok b => return .ok (hexEncode b)

def generate : Go Token := do
  match ← randomHex 3 with
  | .error e => Go.fail (e.wrap "failed to generate token id")
  | .ok id =>
      match ← randomHex 8 with
      | .error e => Go.fail (e.wrap "failed to generate token secret")
      | .ok secret => return ⟨id, secret⟩

/-- The name of the Secret of a token. -/
def bootstrapTokenName (id : String) : String := "bootstrap-token-" ++ id

/-- `NewSecret`. The texts of `StringData` are stored as bytes. -/
def newSecret (libs : Libs) (now : Instant) (t : Token) (expiry : Duration) : Secret where
  metadata := { name := bootstrapTokenName t.id, ns := namespaceSystem }
  type := "bootstrap.kubernetes.io/token"
  data := GoMap.setAll ∅
    [("token-id", bytes t.id),
     ("token-secret", bytes t.secret),
     ("expiration", bytes (libs.rfc3339 (now + expiry.ns).toNat)),
     ("usage-bootstrap-authentication", bytes "true"),
     ("usage-bootstrap-signing", bytes "true"),
     ("auth-extra-groups", bytes "system:bootstrappers:worker")]

def buildBootstrapKubeconfig (libs : Libs) (t : Token) (caData : Bytes) (apiServerAddress : String) :
    Except GoError Bytes :=
  let clusterName := "bootstrap"
  let userName := "tls-bootstrap-token-user"
  libs.writeKubeconfig
    { clusters := (∅ : GoMap KubeCluster).insert clusterName ⟨apiServerAddress, caData⟩
      authInfos := (∅ : GoMap AuthInfo).insert userName { token := t.text }
      contexts := (∅ : GoMap KubeContext).insert clusterName ⟨clusterName, userName⟩
      currentContext := clusterName }

/-- `IssueBootstrapToken`, with the labels of `WithLabels`. -/
def issueBootstrapToken (libs : Libs) (caData : Bytes) (apiServerAddress : String)
    (expiry : Duration) (labels : GoMap String) : Go (Token × Bytes) := do
  let t ← generate
  let now ← call .now
  let secret := newSecret libs now t expiry
  match ← call (.createToken { secret with metadata.labels := labels }) with
  | .error e => Go.fail (e.wrap "failed to create bootstrap token secret")
  | .ok _ =>
      match buildBootstrapKubeconfig libs t caData apiServerAddress with
      | .error e => Go.fail (e.wrap "failed to build bootstrap kubeconfig")
      | .ok bootstrapKubeconfig => return (t, bootstrapKubeconfig)

/-! ## Names -/

/-- The identifiers that `Generate` makes: three bytes in hexadecimal. -/
def IsTokenID (id : String) : Prop := ∃ b : Bytes, b.length = 3 ∧ id = hexEncode b

theorem toList_hexEncode (b : Bytes) : (hexEncode b).toList =
    b.flatMap (fun u => [Nat.digitChar (u.toNat / 16), Nat.digitChar (u.toNat % 16)]) := by
  simp [hexEncode]

theorem IsTokenID.length_toList {id : String} (h : IsTokenID id) : id.toList.length = 6 := by
  obtain ⟨b, hb, rfl⟩ := h
  rw [toList_hexEncode, List.length_flatMap]
  simp [hb]

theorem IsTokenID.ne_empty {id : String} (h : IsTokenID id) : id ≠ "" := by
  rintro rfl
  exact absurd h.length_toList (by decide)

/-- The text of a token determines its identifier, because identifiers have one length. -/
theorem IsTokenID.id_eq_of_text {t t' : Token} (h : IsTokenID t.id) (h' : IsTokenID t'.id)
    (htext : t.text = t'.text) : t.id = t'.id := by
  have hlists : t.id.toList ++ ("." ++ t.secret).toList =
      t'.id.toList ++ ("." ++ t'.secret).toList := by
    rw [← String.toList_append, ← String.toList_append, ← String.append_assoc,
      ← String.append_assoc]
    exact congrArg String.toList htext
  have hlen : t.id.toList.length = t'.id.toList.length :=
    h.length_toList.trans h'.length_toList.symm
  exact String.toList_inj.mp (List.append_inj_left hlists hlen)

theorem IsTokenID.getLast {id : String} (h : IsTokenID id) :
    ∃ d < 16, id.toList.getLast? = some (Nat.digitChar d) := by
  obtain ⟨b, hb, rfl⟩ := h
  match b, hb with
  | [x, y, z], _ =>
      refine ⟨z.toNat % 16, Nat.mod_lt _ (by decide), ?_⟩
      rw [toList_hexEncode]
      rfl

end Heir.Bootstrap
