import Heir.Api.ControlPlane
import Heir.Lib.GoString
import Heir.Lib.Interact

set_option autoImplicit false

/-! # The endpoints of the service `kubernetes`

The API server of a tenant runs without its endpoint reconciler. Instead the cluster agent looks up its
external address every fifteen seconds, lists the EndpointSlices with the label of the service, creates
one if there is none, and otherwise overwrites the endpoints and the ports of the first one.

The agent does this outside of leader election, so another agent may do the same at the same time. An
update carries the resource version of the slice that was listed, and the API server refuses it if the
slice has changed since.

A pass of the loop in `SyncKubernetesEndpoints` is one run of `doSyncEndpoints`; its error is only
logged. Log lines are left out.
-/

namespace Heir.ClusterAgent.Endpoints

open Interact
open ControlPlane (Runtime ComponentEndpoint)

/-! ## Slices -/

inductive AddressType where
  | ipv4
  | ipv6
  | fqdn
  deriving DecidableEq

inductive Protocol where
  | tcp
  | udp
  | sctp
  deriving DecidableEq

structure Endpoint where
  addresses : List String
  ready : Option Bool
  deriving DecidableEq

structure EndpointPort where
  name : Option String
  protocol : Option Protocol
  port : Option Int32
  deriving DecidableEq

structure EndpointSlice where
  metadata : ObjectMeta
  addressType : AddressType
  endpoints : List Endpoint
  ports : List EndpointPort

abbrev EndpointSlice.name (s : EndpointSlice) : String := s.metadata.name

abbrev EndpointSlice.version (s : EndpointSlice) : Nat := s.metadata.resourceVersion

def k8sSvcNamespace : String := "default"

def k8sSvcName : String := "kubernetes"

def serviceNameLabel : String := "kubernetes.io/service-name"

/-- The label selector of the service. -/
def selected (s : EndpointSlice) : Bool := s.metadata.labels[serviceNameLabel]? == some k8sSvcName

/-! ## The functions -/

/-- The calls of a pass; the slices are those of the namespace `default`. -/
inductive Call where
  /-- `net.LookupHost`. -/
  | lookupHost (host : String)
  /-- The slices of the service. -/
  | list
  | create (slice : EndpointSlice)
  | update (slice : EndpointSlice)

abbrev Call.Answer : Call → Type
  | .lookupHost _ => Except GoError (List String)
  | .list => Except GoError (List EndpointSlice)
  | .create _ => Except GoError EndpointSlice
  | .update _ => Except GoError EndpointSlice

abbrev sig : Sig := ⟨Call, Call.Answer⟩

abbrev Cmd (α : Type) : Type := ExceptT GoError (Prog sig) α

def perform (c : Call) : Cmd c.Answer := ExceptT.lift (Prog.perform (S := sig) c)

def fail {α : Type} (e : GoError) : Cmd α := ExceptT.mk (Prog.ret (.error e))

structure Libs where
  /-- `net.ParseIP`: the bytes of the address, sixteen of them. -/
  parseIP : String → Option (List UInt8)
  isPrint : Char → Bool

def to4 (ip : List UInt8) : Option (List UInt8) :=
  if ip.length = 4 then some ip
  else if ip.length = 16 ∧ ip.take 12 = List.replicate 10 0 ++ [0xff, 0xff] then some (ip.drop 12)
  else none

structure ResolvedEndpoint where
  ip : String
  port : Int32

section Functions

variable (libs : Libs)

def isIPv4 (ip : String) : Bool := ((libs.parseIP ip).bind to4).isSome

/-- The candidates of `resolveIPv4Endpoints`. -/
def candidates (host : String) : Cmd (List String) :=
  if (libs.parseIP host).isSome then return [host]
  else if host ≠ "" then do
    match ← perform (.lookupHost host) with
    | .error e => fail (e.wrap ("resolve host " ++ GoString.quote libs.isPrint host))
    | .ok ips => return ips
  else return []

def resolveIPv4Endpoints (host : String) (port : Int32) : Cmd (List ResolvedEndpoint) := do
  let ips ← candidates libs host
  return (ips.filter (isIPv4 libs)).map (⟨·, port⟩)

def endpointOf (r : ResolvedEndpoint) : Endpoint := ⟨[r.ip], some true⟩

def portsOf (port : Int32) : List EndpointPort := [⟨some "https", some .tcp, some port⟩]

/-- The slice that is created. -/
def newSlice (endpoints : List Endpoint) (ports : List EndpointPort) : EndpointSlice where
  metadata :=
    { name := k8sSvcName
      ns := k8sSvcNamespace
      labels := (∅ : GoMap String).insert serviceNameLabel k8sSvcName }
  addressType := .ipv4
  endpoints := endpoints
  ports := ports

/-- The error of a request gets a context. -/
def finish (context : String) : Except GoError EndpointSlice → Cmd Unit
  | .error e => fail (e.wrap context)
  | .ok _ => return ()

def applyEndpointSlice (endpoints : List Endpoint) (ports : List EndpointPort) : Cmd Unit := do
  match ← perform .list with
  | .error e => fail (e.wrap "list endpoint slices")
  | .ok [] => finish "create endpoint slice" (← perform (.create (newSlice endpoints ports)))
  | .ok (existing :: _) =>
      finish "update endpoint slice" (← perform (.update { existing with endpoints, ports }))

abbrev apiServer (runtimeObj : Runtime) : ComponentEndpoint :=
  runtimeObj.spec.cluster.controlPlaneExternalEndpoint.apiServer

def doSyncEndpoints (runtimeObj : Runtime) : Cmd Unit := do
  let host := (apiServer runtimeObj).host
  let port := (apiServer runtimeObj).port
  let resolved ← resolveIPv4Endpoints libs host port
  if resolved.length = 0 then
    fail (errorf ("no IPv4 endpoints resolved from host " ++ GoString.quote libs.isPrint host))
  else applyEndpointSlice (resolved.map endpointOf) (portsOf port)

end Functions

/-! ## The API server -/

/-- The slices by name, and what the agent has heard in this pass. -/
structure World where
  slices : GoMap EndpointSlice
  /-- The last resource version that was given out. -/
  version : Nat
  /-- The answer of the name server. -/
  answer : Option (List String)
  stored : ∀ (name : String) s, slices[name]? = some s → s.name = name ∧ s.version ≤ version

namespace World

/-- The slices of the service, in the order of their names. -/
def service (w : World) : List EndpointSlice :=
  ((GoMap.RangeOrder.byKey.visit w.slices).map Prod.snd).filter selected

/-- A slice as it is stored, with the next resource version. -/
def stamped (w : World) (s : EndpointSlice) : EndpointSlice :=
  { s with metadata := { s.metadata with resourceVersion := w.version + 1 } }

theorem mem_put {w : World} {s t : EndpointSlice} {name : String}
    (h : (w.slices.insert s.name (w.stamped s))[name]? = some t) :
    s.name = name ∧ t = w.stamped s ∨ w.slices[name]? = some t := by
  rw [GoMap.getElem?_insert] at h
  split at h
  · next hname => exact .inl ⟨hname, (Option.some.inj h).symm⟩
  · exact .inr h

theorem stored_put (w : World) (s : EndpointSlice) (name : String) (t : EndpointSlice)
    (h : (w.slices.insert s.name (w.stamped s))[name]? = some t) :
    t.name = name ∧ t.version ≤ w.version + 1 := by
  rcases mem_put h with ⟨hname, rfl⟩ | h
  · exact ⟨hname, le_rfl⟩
  · obtain ⟨hname, hversion⟩ := w.stored name t h
    exact ⟨hname, hversion.trans (Nat.le_succ _)⟩

def put (w : World) (s : EndpointSlice) : World :=
  { w with
    slices := w.slices.insert s.name (w.stamped s)
    version := w.version + 1
    stored := w.stored_put s }

theorem mem_erase {w : World} {gone name : String} {t : EndpointSlice}
    (h : (w.slices.erase gone)[name]? = some t) : w.slices[name]? = some t := by
  rw [GoMap.getElem?_erase, Option.ite_none_left_eq_some] at h
  exact h.2

def delete (w : World) (name : String) : World :=
  { w with
    slices := w.slices.erase name
    stored := fun n t h => w.stored n t (mem_erase h) }

end World

/-- What an answer leaves open. -/
inductive Choice where
  | serve
  /-- The name server answers. -/
  | resolve (ips : List String)
  /-- The call fails and has no effect. -/
  | fail (e : GoError)
  /-- The call has its effect, but its answer is lost. -/
  | lost (e : GoError)

/-- What others do. -/
inductive Act where
  | create (slice : EndpointSlice)
  | update (slice : EndpointSlice)
  | delete (name : String)

def serveCreate (s : EndpointSlice) (w : World) : Except GoError EndpointSlice × World :=
  match w.slices[s.name]? with
  | none => (.ok (w.stamped s), w.put s)
  | some _ => (.error ⟨.alreadyExists, s.name ++ " already exists"⟩, w)

def serveUpdate (s : EndpointSlice) (w : World) : Except GoError EndpointSlice × World :=
  match w.slices[s.name]? with
  | none => (.error ⟨.notFound, s.name ++ " not found"⟩, w)
  | some stored =>
      if stored.version = s.version then (.ok (w.stamped s), w.put s)
      else (.error ⟨.conflict, "the object has been modified"⟩, w)

/-- A request to write, as the choice says. -/
def serveWrite (serve : World → Except GoError EndpointSlice × World) (w : World) :
    Choice → Option (Except GoError EndpointSlice × World)
  | .serve => some (serve w)
  | .fail e => some (.error e, w)
  | .lost e => some (.error e, (serve w).2)
  | .resolve _ => none

def respond : (op : Call) → Choice → World → Option (op.Answer × World)
  | .lookupHost _, .resolve ips, w => some (.ok ips, { w with answer := some ips })
  | .lookupHost _, .fail e, w => some (.error e, w)
  | .lookupHost _, _, _ => none
  | .list, .serve, w => some (.ok w.service, w)
  | .list, .fail e, w => some (.error e, w)
  | .list, _, _ => none
  | .create s, choice, w => serveWrite (serveCreate s) w choice
  | .update s, choice, w => serveWrite (serveUpdate s) w choice

def act : Act → World → Option World
  | .create s, w => some (serveCreate s w).2
  | .update s, w => some (serveUpdate s w).2
  | .delete name, w => some (w.delete name)

/-- The agent, its name server and the API server of the tenant. -/
def machine (libs : Libs) (runtimeObj : Runtime) :
    Machine sig (Except GoError Unit) World Choice Act where
  prog := (doSyncEndpoints libs runtimeObj).run
  respond := respond
  act := act
  enter := fun w => { w with answer := none }
  leave := fun _ w => w

/-! ## What is written -/

/-- The addresses this pass goes by: the host itself if it is one, or what the name server said. -/
def Heard (libs : Libs) (host : String) (ips : List String) (w : World) : Prop :=
  if (libs.parseIP host).isSome then ips = [host] else w.answer = some ips

/-- The endpoints are all IPv4 addresses that were heard of in this pass, and there is one. -/
def Due (libs : Libs) (runtimeObj : Runtime) (endpoints : List Endpoint) (w : World) : Prop :=
  (∃ ips, Heard libs (apiServer runtimeObj).host ips w ∧
    endpoints = (ips.filter (isIPv4 libs)).map fun ip => ⟨[ip], some true⟩) ∧ endpoints ≠ []

/-- What a request to write may be: the slice of the API server's Service with one port, or, if an
update is accepted, which takes the version of the slice that is stored, that slice with nothing
changed but the endpoints and the ports. -/
def WriteOk (libs : Libs) (runtimeObj : Runtime) : Call → World → Prop
  | .create s, w => Due libs runtimeObj s.endpoints w ∧
      s.ports = [⟨some "https", some .tcp, some (apiServer runtimeObj).port⟩] ∧
      s.addressType = .ipv4 ∧
      s.metadata =
        { name := "kubernetes"
          ns := "default"
          labels := (∅ : GoMap String).insert "kubernetes.io/service-name" "kubernetes" }
  | .update s, w => Due libs runtimeObj s.endpoints w ∧
      s.ports = [⟨some "https", some .tcp, some (apiServer runtimeObj).port⟩] ∧
      ∀ y, w.slices[s.name]? = some y → y.version = s.version →
        s = { y with endpoints := s.endpoints, ports := s.ports }
  | _, _ => True

/-! ## Versions -/

/-- What is new in a store has a new version. -/
def Grows (w w' : World) : Prop :=
  w.version ≤ w'.version ∧ w'.answer = w.answer ∧
    ∀ (name : String) y, w'.slices[name]? = some y → w.slices[name]? = some y ∨ w.version < y.version

theorem Grows.refl (w : World) : Grows w w := ⟨le_rfl, rfl, fun _ _ hy => .inl hy⟩

theorem grows_put (w : World) (s : EndpointSlice) : Grows w (w.put s) := by
  refine ⟨Nat.le_succ _, rfl, fun name y hy => ?_⟩
  rcases World.mem_put hy with ⟨-, rfl⟩ | hy
  · exact .inr (Nat.lt_succ_self _)
  · exact .inl hy

theorem grows_act {a : Act} {w w' : World} (h : act a w = some w') : Grows w w' := by
  cases a with
  | create s =>
      cases h
      unfold serveCreate
      split
      · exact grows_put w s
      · exact .refl w
  | update s =>
      cases h
      unfold serveUpdate
      split
      · exact .refl w
      · split
        · exact grows_put w s
        · exact .refl w
  | delete name =>
      cases h
      exact ⟨le_rfl, rfl, fun _ _ hy => .inl (World.mem_erase hy)⟩

/-- A slice that was listed is still there, or there is another version of it. -/
def Known (x : EndpointSlice) (w : World) : Prop :=
  x.version ≤ w.version ∧ ∀ y, w.slices[x.name]? = some y → y.version = x.version → y = x

theorem Known.grows {x : EndpointSlice} {w w' : World} (hx : Known x w) (h : Grows w w') :
    Known x w' := by
  refine ⟨hx.1.trans h.1, fun y hy hversion => ?_⟩
  rcases h.2.2 x.name y hy with hy | hy
  · exact hx.2 y hy hversion
  · -- a version that was given out since is larger
    have := hx.1
    omega

theorem known_of_listed {x : EndpointSlice} {w : World} (hx : x ∈ w.service) : Known x w := by
  obtain ⟨⟨name, _⟩, hmem, rfl⟩ := List.mem_map.mp (List.mem_of_mem_filter hx)
  have hstored := (GoMap.RangeOrder.byKey.mem_visit w.slices name _).mp hmem
  obtain ⟨hname, hversion⟩ := w.stored name _ hstored
  refine ⟨hversion, fun y hy _ => ?_⟩
  rw [hname, hstored] at hy
  exact (Option.some.inj hy).symm

/-! ## A pass among others -/

section Among

variable {libs : Libs} {runtimeObj : Runtime}

theorem stable_of_grows {A : World → Prop} (h : ∀ w w', Grows w w' → A w → A w') :
    (machine libs runtimeObj).toSystem.Stable (fun _ _ => True) A := by
  rintro w w' ⟨a, ha⟩ - hw
  exact h w w' (grows_act ha) hw

theorem Heard.grows {host : String} {ips : List String} {w w' : World} (hips : Heard libs host ips w)
    (h : Grows w w') : Heard libs host ips w' := by
  unfold Heard at hips ⊢
  rwa [h.2.1]

theorem Due.grows {endpoints : List Endpoint} {w w' : World} (hw : Due libs runtimeObj endpoints w)
    (h : Grows w w') : Due libs runtimeObj endpoints w' := by
  obtain ⟨⟨ips, hips, heq⟩, hne⟩ := hw
  exact ⟨⟨ips, hips.grows h, heq⟩, hne⟩

abbrev Pass (libs : Libs) (runtimeObj : Runtime) {β : Type} (A : World → Prop) (p : Cmd β)
    (B : β → World → Prop) : Prop :=
  Triple (machine libs runtimeObj).toSystem (fun _ _ => True) (WriteOk libs runtimeObj) A p B
    (fun _ => True)

theorem true_stable : (machine libs runtimeObj).toSystem.Stable (fun _ _ => True) (fun _ => True) :=
  fun _ _ _ _ _ => trivial

theorem pass_fail {β : Type} {A : World → Prop} {B : β → World → Prop} (e : GoError) :
    Pass libs runtimeObj A (fail e) B :=
  fun _ _ => .ret (fun _ => True) true_stable trivial fun _ _ => trivial

theorem finish_pass (context : String) (x : Except GoError EndpointSlice) :
    Pass libs runtimeObj (fun _ => True) (finish context x) (fun _ _ => True) := by
  cases x with
  | error e => exact pass_fail _
  | ok _ => exact .ret true_stable fun _ _ => trivial

theorem candidates_pass (host : String) :
    Pass libs runtimeObj (fun _ => True) (candidates libs host)
      (fun ips w => ips = [] ∨ Heard libs host ips w) := by
  unfold candidates
  by_cases hliteral : (libs.parseIP host).isSome = true
  · rw [if_pos hliteral]
    refine .ret true_stable fun w _ => .inr ?_
    rw [Heard, if_pos hliteral]
  rw [if_neg hliteral]
  by_cases hhost : host ≠ ""
  · rw [if_pos hhost]
    refine .call_bind (B := fun x w => ∀ ips, x = .ok ips → Heard libs host ips w) true_stable
      (fun _ _ => trivial) ?_ fun x => ?_
    · rintro w x w' - ⟨choice, hchoice⟩ - ips rfl
      rw [Heard, if_neg hliteral]
      cases choice with
      | resolve answer =>
          cases hchoice
          rfl
      | _ => cases hchoice
    · cases x with
      | error e => exact pass_fail _
      | ok ips =>
          refine .ret (stable_of_grows fun w w' h hw ips' hips => (hw ips' hips).grows h) ?_
          exact fun w hw => .inr (hw ips rfl)
  · rw [if_neg hhost]
    exact .ret true_stable fun _ _ => .inl rfl

theorem applyEndpointSlice_pass (endpoints : List Endpoint) :
    Pass libs runtimeObj (Due libs runtimeObj endpoints)
      (applyEndpointSlice endpoints (portsOf (apiServer runtimeObj).port)) (fun _ _ => True) := by
  unfold applyEndpointSlice
  refine .call_bind (B := fun x w => Due libs runtimeObj endpoints w ∧
    ∀ existing rest, x = .ok (existing :: rest) → Known existing w)
    (stable_of_grows fun _ _ h hw => hw.grows h) (fun _ _ => trivial) ?_ fun x => ?_
  · rintro w x w' hw ⟨choice, hchoice⟩ -
    cases choice with
    | serve =>
        cases hchoice
        refine ⟨hw, fun existing rest hlist => known_of_listed ?_⟩
        rw [Except.ok.inj hlist]
        exact List.mem_cons_self
    | fail e =>
        cases hchoice
        exact ⟨hw, fun _ _ h => by cases h⟩
    | _ => cases hchoice
  have hkept : (machine libs runtimeObj).toSystem.Stable (fun _ _ => True) fun w =>
      Due libs runtimeObj endpoints w ∧
        ∀ existing rest, x = .ok (existing :: rest) → Known existing w :=
    stable_of_grows fun w w' h hw => ⟨hw.1.grows h, fun y rest hy => (hw.2 y rest hy).grows h⟩
  cases x with
  | error e => exact pass_fail _
  | ok items =>
      cases items with
      | nil =>
          refine .call_bind (B := fun _ _ => True) hkept (fun w hw => ⟨hw.1, rfl, rfl, rfl⟩)
            (fun _ _ _ _ _ _ => trivial) (finish_pass _)
      | cons existing rest =>
          refine .call_bind (B := fun _ _ => True) hkept (fun w hw => ⟨hw.1, rfl, ?_⟩)
            (fun _ _ _ _ _ _ => trivial) (finish_pass _)
          intro y hy hversion
          rw [(hw.2 existing rest rfl).2 y hy hversion]

theorem doSyncEndpoints_pass :
    Pass libs runtimeObj (fun _ => True) (doSyncEndpoints libs runtimeObj) (fun _ _ => True) := by
  have hresolved : Pass libs runtimeObj (fun _ => True)
      (resolveIPv4Endpoints libs (apiServer runtimeObj).host (apiServer runtimeObj).port)
      (fun resolved w => ∃ ips, (ips = [] ∨ Heard libs (apiServer runtimeObj).host ips w) ∧
        resolved = (ips.filter (isIPv4 libs)).map (⟨·, (apiServer runtimeObj).port⟩)) := by
    refine .bind (candidates_pass _) true_stable fun ips => ?_
    exact .ret (stable_of_grows fun _ _ h hw => hw.imp id fun hips => hips.grows h)
      fun w hw => ⟨ips, hw, rfl⟩
  refine .bind hresolved true_stable fun resolved => ?_
  by_cases hempty : resolved.length = 0
  · rw [if_pos hempty]
    exact pass_fail _
  rw [if_neg hempty]
  refine .weaken (Due libs runtimeObj (resolved.map endpointOf)) (applyEndpointSlice_pass _) ?_
    fun _ _ _ => trivial
  rintro w ⟨ips, hips, rfl⟩
  rcases hips with rfl | hips
  · exact absurd rfl hempty
  refine ⟨⟨ips, hips, by rw [List.map_map]; rfl⟩, fun h => hempty ?_⟩
  simpa using congrArg List.length h

end Among

/-! ## Results -/

/-- **Every write.** Whatever others do between any two calls of the agent, a slice that it creates or
updates has all the IPv4 addresses that this pass has heard of, and at least one. An update that is
accepted changes nothing else, so nothing that others wrote since the slice was listed is lost. -/
theorem writes_sound (libs : Libs) (runtimeObj : Runtime) {s₀ s : State sig (Except GoError Unit) World}
    (h₀ : s₀.running = none) (hrun : (machine libs runtimeObj).toSystem.Run (fun _ _ => True) s₀ s)
    {op : Call} {k : op.Answer → Prog sig (Except GoError Unit)}
    (hop : s.running = some (.call (S := sig) op k)) : WriteOk libs runtimeObj op s.world := by
  have hsafe := System.run_safe (I := fun _ => True) (WriteOk libs runtimeObj) (fun _ _ => True)
    true_stable
    (fun w _ _ => (doSyncEndpoints_pass ((machine libs runtimeObj).enter w) trivial).mono
      fun _ _ _ => trivial) (fun _ _ _ _ => trivial) h₀ trivial hrun
  exact (hsafe.2 _ hop s.world .refl).1

/-- The call a pass is about to make. -/
def pending : Option (Prog sig (Except GoError Unit)) → Option Call
  | some (.call op _) => some op
  | _ => none

theorem exists_of_pending {p : Option (Prog sig (Except GoError Unit))} {op : Call}
    (h : pending p = some op) : ∃ k, p = some (.call (S := sig) op k) := by
  unfold pending at h
  split at h
  · cases h
    exact ⟨_, rfl⟩
  · cases h

/-- The endpoints and the version of the slice that is about to be updated. -/
def updating (s : State sig (Except GoError Unit) World) : Option (List Endpoint × Nat) :=
  (pending s.running).bind fun
    | .update x => some (x.endpoints, x.version)
    | _ => none

def sampleLibs : Libs where
  parseIP := fun ip =>
    if ip = "203.0.113.5" then some (List.replicate 10 0 ++ [0xff, 0xff, 203, 0, 113, 5])
    else if ip = "fd00::5" then some (0xfd :: List.replicate 14 0 ++ [5])
    else none
  isPrint := fun _ => true

def sampleRuntime : Runtime where
  metadata := { name := "tenant", ns := "default" }
  spec.cluster.controlPlaneExternalEndpoint := ⟨⟨"api.tenant", 6443⟩, ⟨"tunnel.tenant", 9443⟩⟩

theorem empty_stored (name : String) (s : EndpointSlice)
    (h : (∅ : GoMap EndpointSlice)[name]? = some s) : s.name = name ∧ s.version ≤ 0 := by
  simp at h

def emptyWorld : World := ⟨∅, 0, none, empty_stored⟩

/-- Another agent creates the slice and changes it after it was listed. -/
theorem overtaken_write_sound :
    ∃ s op, (machine sampleLibs sampleRuntime).toSystem.Run (fun _ _ => True) ⟨emptyWorld, none⟩ s ∧
      pending s.running = some op ∧ updating s = some ([⟨["203.0.113.5"], some true⟩], 1) ∧
      s.world.version = 2 ∧ WriteOk sampleLibs sampleRuntime op s.world := by
  obtain ⟨s, hrun, hs⟩ := Machine.exists_run (machine sampleLibs sampleRuntime) (fun _ _ => True)
    ⟨emptyWorld, none⟩ [.env (.create (newSlice [] [])), .enter,
      .call (.resolve ["fd00::5", "203.0.113.5"]), .call .serve,
      .env (.update { newSlice [] [] with metadata.resourceVersion := 1 })]
    (fun s => decide (updating s = some ([⟨["203.0.113.5"], some true⟩], 1)) &&
      decide (s.world.version = 2)) (by decide +kernel)
  rw [Bool.and_eq_true, decide_eq_true_eq, decide_eq_true_eq] at hs
  obtain ⟨op, hop, -⟩ := Option.bind_eq_some_iff.mp hs.1
  obtain ⟨k, hk⟩ := exists_of_pending hop
  exact ⟨s, op, hrun, hop, hs.1, hs.2, writes_sound _ _ rfl hrun hk⟩

end Heir.ClusterAgent.Endpoints
