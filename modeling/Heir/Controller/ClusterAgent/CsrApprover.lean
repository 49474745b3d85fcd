import Heir.Api.Core
import Heir.Lib.GoString
import Heir.Lib.Interact

set_option autoImplicit false

/-! # Approval of kubelet serving certificates

The controller approves a pending CertificateSigningRequest of a node if every DNS name and every IP
address that the request asks for is among the addresses the Node reports. A request may also ask
for URIs and e-mail addresses as subject alternative names; these are not looked at, so the
approval is exact only for requests whose URIs and e-mail addresses are reported addresses as well
(`approval_exact_iff`).

PEM and X.509 parsing and the text form of an IP address are parameters. Log lines and events are
left out; why a request is not approved is a `Skip`.
-/

namespace Heir.Controller.CsrApprover

open Heir.Core Interact

/-! ## Objects -/

inductive RequestConditionType where
  | approved
  | denied
  | failed
  | other (type : String)
  deriving DecidableEq, Repr

/-- A condition without its times. -/
structure RequestCondition where
  type : RequestConditionType
  status : ConditionStatus
  reason : String
  message : String
  deriving DecidableEq

structure CertificateSigningRequest where
  name : String
  username : String
  signerName : String
  /-- `spec.request`. -/
  request : Bytes
  conditions : List RequestCondition := []
  deriving DecidableEq

structure NodeAddress where
  type : String
  address : String
  deriving DecidableEq

structure Node where
  addresses : List NodeAddress
  deriving DecidableEq

/-- A block of a PEM file. -/
structure PemBlock where
  type : String
  bytes : Bytes

/-- What `x509.ParseCertificateRequest` finds. -/
structure CertificateRequest where
  dnsNames : List String := []
  ipAddresses : List Bytes := []
  emailAddresses : List String := []
  /-- The URIs as text. -/
  uris : List String := []

structure Libs where
  /-- `pem.Decode`: the first block. -/
  pemDecode : Bytes → Option PemBlock
  parseCertificateRequest : Bytes → Except GoError CertificateRequest
  /-- `IP.String`. -/
  ipString : Bytes → String

/-! ## Calls -/

inductive Call where
  | getCsr (name : String)
  | getNode (name : String)
  | updateApproval (csr : CertificateSigningRequest)

abbrev Call.Answer : Call → Type
  | .getCsr _ => Except GoError CertificateSigningRequest
  | .getNode _ => Except GoError Node
  | .updateApproval _ => Except GoError CertificateSigningRequest

abbrev sig : Sig := ⟨Call, Call.Answer⟩

/-! ## The controller -/

def kubeletServingSignerName : String := "kubernetes.io/kubelet-serving"

/-- The predicate of the watch. -/
def isKubeletServingCSR (csr : CertificateSigningRequest) : Bool :=
  csr.signerName == kubeletServingSignerName

def csrIsPending (csr : CertificateSigningRequest) : Bool :=
  !csr.conditions.any fun c => c.type == .approved || c.type == .denied

def nodeIdentity : String := "system:node:"

/-- Why a request is left pending. -/
inductive Skip where
  | notNode (username : String)
  | getNode (nodeName : String) (err : GoError)
  | parse (err : GoError)
  | dnsName (dns nodeName : String)
  | ipAddress (ip nodeName : String)
  | update (err : GoError)

def buildNodeAddressSet (node : Node) : GoMap Unit :=
  node.addresses.foldl (fun addrs a => addrs.insert a.address ()) ∅

section Reconcile

variable (libs : Libs)

def parseCSRBytes (pemBytes : Bytes) : Except GoError CertificateRequest :=
  match libs.pemDecode pemBytes with
  | none => .error (errorf "no PEM block in CSR request")
  | some block =>
      if block.type ≠ "CERTIFICATE REQUEST" then .error (errorf "no PEM block in CSR request")
      else libs.parseCertificateRequest block.bytes

/-- The two loops of `validateAndApprove`. -/
def checkNames (nodeName : String) (nodeAddrs : GoMap Unit) (x509cr : CertificateRequest) :
    Except Skip Unit :=
  match x509cr.dnsNames.find? fun dns => nodeAddrs[dns]?.isNone with
  | some dns => .error (.dnsName dns nodeName)
  | none =>
      match x509cr.ipAddresses.find? fun ip => nodeAddrs[libs.ipString ip]?.isNone with
      | some ip => .error (.ipAddress (libs.ipString ip) nodeName)
      | none => .ok ()

/-- The condition that approves a request. -/
def autoApproved : RequestCondition where
  type := .approved
  status := .true
  reason := "AutoApproved"
  message := "approved by heir clusteragent: all SANs validated against node addresses"

/-- `validateAndApprove` from the point where the node is known. -/
def approve (csr : CertificateSigningRequest) (nodeName : String) (node : Node) :
    Prog sig (Except Skip Unit) :=
  match parseCSRBytes libs csr.request with
  | .error err => .ret (.error (.parse err))
  | .ok x509cr =>
      match checkNames libs nodeName (buildNodeAddressSet node) x509cr with
      | .error skip => .ret (.error skip)
      | .ok _ =>
          .call (S := sig)
            (.updateApproval { csr with conditions := csr.conditions ++ [autoApproved] }) fun
            | .error err => .ret (.error (.update err))
            | .ok _ => .ret (.ok ())

/-- `validateAndApprove` from the answer to its first call on. -/
def approveFor (csr : CertificateSigningRequest) (nodeName : String) :
    Except GoError Node → Prog sig (Except Skip Unit)
  | .error err => .ret (.error (.getNode nodeName err))
  | .ok node => approve libs csr nodeName node

def validateAndApprove (csr : CertificateSigningRequest) : Prog sig (Except Skip Unit) :=
  if !GoString.startsWith csr.username nodeIdentity then .ret (.error (.notNode csr.username))
  else
    let nodeName := GoString.trimStart csr.username nodeIdentity
    .call (S := sig) (.getNode nodeName) (approveFor libs csr nodeName)

/-- A request that is not approved is not retried. -/
def reconcile (name : String) : Prog sig (Except GoError Unit) :=
  .call (S := sig) (.getCsr name) fun
    | .error err => .ret (if err.reason = .notFound then .ok () else .error err)
    | .ok csr =>
        if !csrIsPending csr then .ret (.ok ())
        else do
          let _ ← validateAndApprove libs csr
          return .ok ()

end Reconcile

/-! ## The cluster -/

structure World where
  csrs : GoMap CertificateSigningRequest
  nodes : GoMap Node

def notFound (name : String) : GoError := ⟨.notFound, name ++ " not found"⟩

/-- An API server whose calls do not fail. -/
def respond : (op : Call) → World → op.Answer × World
  | .getCsr name, w => ((w.csrs[name]?).elim (.error (notFound name)) .ok, w)
  | .getNode name, w => ((w.nodes[name]?).elim (.error (notFound name)) .ok, w)
  | .updateApproval csr, w =>
      match w.csrs[csr.name]? with
      | none => (.error (notFound csr.name), w)
      | some stored =>
          -- only the conditions are stored
          let stored := { stored with conditions := csr.conditions }
          (.ok stored, { w with csrs := w.csrs.insert csr.name stored })

/-- The call writes an Approved condition. -/
def Approves : Call → Prop
  | .updateApproval csr => ∃ c ∈ csr.conditions, c.type = .approved
  | _ => False

@[simp] theorem approves_getCsr (name : String) : Approves (.getCsr name) = False := rfl

@[simp] theorem approves_getNode (name : String) : Approves (.getNode name) = False := rfl

/-- A pass for the request writes an Approved condition. -/
def Approved (libs : Libs) (w : World) (name : String) : Prop :=
  ∃ c ∈ ((reconcile libs name).eval respond w).1, Approves c.1

/-! ## What is checked -/

/-- The addresses a node reports. -/
def reported (node : Node) : List String := node.addresses.map NodeAddress.address

theorem isSome_buildNodeAddressSet (node : Node) (a : String) :
    (buildNodeAddressSet node)[a]?.isSome ↔ a ∈ reported node := by
  have hfold : ∀ (l : List NodeAddress) (m : GoMap Unit),
      (l.foldl (fun addrs x => addrs.insert x.address ()) m)[a]?.isSome ↔
        m[a]?.isSome ∨ a ∈ l.map NodeAddress.address := by
    intro l
    induction l with
    | nil => simp
    | cons x l ih =>
        intro m
        rw [List.foldl_cons, ih, GoMap.getElem?_insert, List.map_cons, List.mem_cons]
        by_cases hx : x.address = a
        · simp [hx]
        · simp [hx, Ne.symm hx]
  rw [buildNodeAddressSet, hfold]
  simp [reported]

section Names

variable (libs : Libs)

/-- The names of a request that the controller looks at. -/
def checkedNames (x509cr : CertificateRequest) : List String :=
  x509cr.dnsNames ++ x509cr.ipAddresses.map libs.ipString

/-- The other subject alternative names of a request. -/
def otherNames (x509cr : CertificateRequest) : List String :=
  x509cr.uris ++ x509cr.emailAddresses

/-- All subject alternative names of a request. -/
def subjectAltNames (x509cr : CertificateRequest) : List String :=
  checkedNames libs x509cr ++ otherNames x509cr

theorem checkNames_eq_ok (nodeName : String) (node : Node) (x509cr : CertificateRequest) :
    checkNames libs nodeName (buildNodeAddressSet node) x509cr = .ok () ↔
      ∀ san ∈ checkedNames libs x509cr, san ∈ reported node := by
  simp only [checkedNames, List.forall_mem_append, List.forall_mem_map,
    ← isSome_buildNodeAddressSet]
  rw [checkNames]
  split
  · next dns hdns =>
      have hmissing := List.find?_some hdns
      have hmem := List.mem_of_find?_eq_some hdns
      refine ⟨fun h => (by cases h), fun h => ?_⟩
      rw [Option.isNone_iff_eq_none] at hmissing
      have hpresent := h.1 dns hmem
      rw [hmissing] at hpresent
      cases hpresent
  · next hdns =>
      have hall : ∀ dns ∈ x509cr.dnsNames, (buildNodeAddressSet node)[dns]?.isSome = true := by
        simpa using hdns
      split
      · next ip hip =>
          have hmissing := List.find?_some hip
          have hmem := List.mem_of_find?_eq_some hip
          refine ⟨fun h => (by cases h), fun h => ?_⟩
          rw [Option.isNone_iff_eq_none] at hmissing
          have hpresent := h.2 ip hmem
          rw [hmissing] at hpresent
          cases hpresent
      · next hip =>
          refine ⟨fun _ => ⟨hall, ?_⟩, fun _ => rfl⟩
          simpa using hip

theorem parseCSRBytes_eq_ok (pemBytes : Bytes) (x509cr : CertificateRequest) :
    parseCSRBytes libs pemBytes = .ok x509cr ↔ ∃ block, libs.pemDecode pemBytes = some block ∧
      block.type = "CERTIFICATE REQUEST" ∧
        libs.parseCertificateRequest block.bytes = .ok x509cr := by
  rw [parseCSRBytes]
  cases hblock : libs.pemDecode pemBytes with
  | none => simp
  | some block =>
      by_cases htype : block.type = "CERTIFICATE REQUEST"
      · simp [htype]
      · simp [htype]

theorem csrIsPending_iff (csr : CertificateSigningRequest) :
    csrIsPending csr = true ↔ ∀ c ∈ csr.conditions, c.type ≠ .approved ∧ c.type ≠ .denied := by
  simp [csrIsPending]

end Names

/-! ## When a request is approved -/

/-- The request is pending and asks for the names in `x509cr` on behalf of the node. -/
structure Asks (libs : Libs) (w : World) (csr : CertificateSigningRequest) (node : Node)
    (x509cr : CertificateRequest) : Prop where
  pending : ∀ c ∈ csr.conditions, c.type ≠ .approved ∧ c.type ≠ .denied
  requestor : ∃ nodeName, csr.username = "system:node:" ++ nodeName ∧ w.nodes[nodeName]? = some node
  request : ∃ block, libs.pemDecode csr.request = some block ∧ block.type = "CERTIFICATE REQUEST" ∧
    libs.parseCertificateRequest block.bytes = .ok x509cr

theorem Asks.unique {libs : Libs} {w : World} {csr : CertificateSigningRequest} {node node' : Node}
    {x509cr x509cr' : CertificateRequest} (h : Asks libs w csr node x509cr)
    (h' : Asks libs w csr node' x509cr') : node = node' ∧ x509cr = x509cr' := by
  obtain ⟨nodeName, husername, hnode⟩ := h.requestor
  obtain ⟨nodeName', husername', hnode'⟩ := h'.requestor
  obtain ⟨block, hblock, -, hparse⟩ := h.request
  obtain ⟨block', hblock', -, hparse'⟩ := h'.request
  have hname : nodeName = nodeName' :=
    (String.append_right_inj "system:node:").mp (husername.symm.trans husername')
  rw [hname, hnode'] at hnode
  rw [hblock'] at hblock
  cases hnode
  cases hblock
  rw [hparse'] at hparse
  cases hparse
  exact ⟨rfl, rfl⟩

/-- The request should be approved: all its names are addresses of the node. -/
def Entitled (libs : Libs) (w : World) (csr : CertificateSigningRequest) : Prop :=
  ∃ node x509cr, Asks libs w csr node x509cr ∧
    ∀ san ∈ subjectAltNames libs x509cr, san ∈ reported node

section Approval

variable {libs : Libs} {w : World} {csr : CertificateSigningRequest}

/-- The approval is written exactly if the request parses and its checked names are reported. -/
theorem approve_approves {nodeName : String} {node : Node} :
    (∃ c ∈ ((approve libs csr nodeName node).eval respond w).1, Approves c.1) ↔
      ∃ x509cr, parseCSRBytes libs csr.request = .ok x509cr ∧
        ∀ san ∈ checkedNames libs x509cr, san ∈ reported node := by
  simp only [← checkNames_eq_ok libs nodeName]
  rw [approve]
  cases hparse : parseCSRBytes libs csr.request with
  | error err => simp
  | ok x509cr =>
      cases hnames : checkNames libs nodeName (buildNodeAddressSet node) x509cr with
      | error skip => simp [hnames]
      | ok u =>
          refine iff_of_true ?_ ⟨x509cr, rfl, hnames⟩
          simp [hnames, Prog.eval_call, Approves, autoApproved]

theorem validateAndApprove_of_node {nodeName : String}
    (husername : csr.username = "system:node:" ++ nodeName) :
    validateAndApprove libs csr = .call (S := sig) (.getNode nodeName) (approveFor libs csr nodeName) := by
  have hstart := (GoString.startsWith_iff csr.username nodeIdentity).mpr ⟨nodeName, husername⟩
  have htrim : GoString.trimStart csr.username nodeIdentity = nodeName := by
    rw [husername]
    exact GoString.trimStart_append nodeIdentity nodeName
  rw [validateAndApprove, hstart, if_neg (by simp), htrim]

theorem validateAndApprove_approves :
    (∃ c ∈ ((validateAndApprove libs csr).eval respond w).1, Approves c.1) ↔
      ∃ nodeName node x509cr, csr.username = "system:node:" ++ nodeName ∧
        w.nodes[nodeName]? = some node ∧ parseCSRBytes libs csr.request = .ok x509cr ∧
          ∀ san ∈ checkedNames libs x509cr, san ∈ reported node := by
  by_cases hstart : GoString.startsWith csr.username nodeIdentity = true
  · obtain ⟨nodeName, husername⟩ := (GoString.startsWith_iff _ _).mp hstart
    have hname : ∀ n, csr.username = "system:node:" ++ n → n = nodeName := fun n hn =>
      (String.append_right_inj nodeIdentity).mp (hn.symm.trans husername)
    rw [validateAndApprove_of_node husername, Prog.eval_call]
    simp only [respond, List.exists_mem_cons_iff, approves_getNode, false_or]
    cases hnode : w.nodes[nodeName]? with
    | none =>
        refine iff_of_false (by simp [approveFor]) ?_
        rintro ⟨n, node, -, hn, hsome, -⟩
        rw [hname n hn, hnode] at hsome
        cases hsome
    | some node =>
        rw [Option.elim_some, approveFor, approve_approves]
        constructor
        · rintro ⟨x509cr, hx509cr⟩
          exact ⟨nodeName, node, x509cr, husername, hnode, hx509cr⟩
        · rintro ⟨n, node', x509cr, hn, hsome, hx509cr⟩
          rw [hname n hn, hnode] at hsome
          cases hsome
          exact ⟨x509cr, hx509cr⟩
  · refine iff_of_false (by simp [validateAndApprove, hstart]) ?_
    rintro ⟨nodeName, -, -, husername, -⟩
    exact hstart ((GoString.startsWith_iff _ _).mpr ⟨nodeName, husername⟩)

/-- A pass approves exactly the requests whose DNS names and IP addresses are reported. -/
theorem approved_iff {name : String} (hcsr : w.csrs[name]? = some csr) :
    Approved libs w name ↔ ∃ node x509cr, Asks libs w csr node x509cr ∧
      ∀ san ∈ checkedNames libs x509cr, san ∈ reported node := by
  rw [Approved, reconcile, Prog.eval_call]
  simp only [respond, hcsr, Option.elim_some, List.exists_mem_cons_iff, approves_getCsr, false_or]
  by_cases hpending : csrIsPending csr = true
  · simp only [hpending, Bool.not_true, Bool.false_eq_true, if_false, Prog.eval_bind, Prog.pure_eq,
      Prog.eval_ret, List.append_nil, validateAndApprove_approves, parseCSRBytes_eq_ok]
    constructor
    · rintro ⟨nodeName, node, x509cr, husername, hnode, hrequest, hnames⟩
      exact ⟨node, x509cr, ⟨(csrIsPending_iff csr).mp hpending, ⟨nodeName, husername, hnode⟩, hrequest⟩,
        hnames⟩
    · rintro ⟨node, x509cr, ⟨-, ⟨nodeName, husername, hnode⟩, hrequest⟩, hnames⟩
      exact ⟨nodeName, node, x509cr, husername, hnode, hrequest, hnames⟩
  · refine iff_of_false (by simp [hpending]) ?_
    rintro ⟨node, x509cr, hasks, -⟩
    exact hpending ((csrIsPending_iff csr).mpr hasks.pending)

/-- **When the approval is exact.** A request is approved if and only if it is entitled to, exactly if
its URIs and e-mail addresses are reported by the node whenever everything that is checked is in
order. -/
theorem approval_exact_iff {name : String} (hcsr : w.csrs[name]? = some csr) :
    (Approved libs w name ↔ Entitled libs w csr) ↔
      ∀ node x509cr, Asks libs w csr node x509cr →
        (∀ san ∈ checkedNames libs x509cr, san ∈ reported node) →
          ∀ san ∈ otherNames x509cr, san ∈ reported node := by
  rw [approved_iff hcsr]
  constructor
  · intro hexact node x509cr hasks hchecked
    obtain ⟨node', x509cr', hasks', hall⟩ := hexact.mp ⟨node, x509cr, hasks, hchecked⟩
    obtain ⟨rfl, rfl⟩ := hasks.unique hasks'
    exact fun san hsan => hall san (List.mem_append_right _ hsan)
  · intro hother
    constructor
    · rintro ⟨node, x509cr, hasks, hchecked⟩
      exact ⟨node, x509cr, hasks,
        List.forall_mem_append.mpr ⟨hchecked, hother node x509cr hasks hchecked⟩⟩
    · rintro ⟨node, x509cr, hasks, hall⟩
      exact ⟨node, x509cr, hasks, (List.forall_mem_append.mp hall).1⟩

end Approval

/-! ## Two requests of a node -/

section Samples

/-- Every request parses to `x509cr`. -/
def sampleLibs (x509cr : CertificateRequest) : Libs where
  pemDecode := fun b => some ⟨"CERTIFICATE REQUEST", b⟩
  parseCertificateRequest := fun _ => .ok x509cr
  ipString := fun _ => "10.0.0.1"

def sampleNode : Node := ⟨[⟨"Hostname", "node1"⟩, ⟨"InternalIP", "10.0.0.1"⟩]⟩

def sampleCsr : CertificateSigningRequest where
  name := "csr1"
  username := "system:node:node1"
  signerName := kubeletServingSignerName
  request := []

def sampleWorld : World where
  csrs := (∅ : GoMap CertificateSigningRequest).insert "csr1" sampleCsr
  nodes := (∅ : GoMap Node).insert "node1" sampleNode

theorem sampleWorld_csr : sampleWorld.csrs["csr1"]? = some sampleCsr := by
  simp [sampleWorld]

theorem sample_asks (x509cr : CertificateRequest) :
    Asks (sampleLibs x509cr) sampleWorld sampleCsr sampleNode x509cr where
  pending := fun c hc => absurd hc List.not_mem_nil
  requestor := ⟨"node1", rfl, by simp [sampleWorld]⟩
  request := ⟨⟨"CERTIFICATE REQUEST", []⟩, rfl, rfl, rfl⟩

/-- The host name and the IP address of the node. -/
theorem hostname_approval_exact :
    Approved (sampleLibs { dnsNames := ["node1"], ipAddresses := [[10, 0, 0, 1]] }) sampleWorld "csr1" ↔
      Entitled (sampleLibs { dnsNames := ["node1"], ipAddresses := [[10, 0, 0, 1]] }) sampleWorld
        sampleCsr := by
  refine (approval_exact_iff sampleWorld_csr).mpr fun node x509cr hasks _ => ?_
  obtain ⟨rfl, rfl⟩ := (sample_asks _).unique hasks
  exact fun san hsan => absurd hsan List.not_mem_nil

/-- A request for a URI that is no address of the node is approved. -/
theorem foreign_uri_approved :
    isKubeletServingCSR sampleCsr = true ∧
      Approved (sampleLibs { dnsNames := ["node1"], uris := ["spiffe://cluster/admin"] }) sampleWorld
        "csr1" ∧
      ¬ Entitled (sampleLibs { dnsNames := ["node1"], uris := ["spiffe://cluster/admin"] })
        sampleWorld sampleCsr := by
  refine ⟨rfl, (approved_iff sampleWorld_csr).mpr ⟨sampleNode, _, sample_asks _, by decide⟩, ?_⟩
  rintro ⟨node, x509cr, hasks, hall⟩
  obtain ⟨rfl, rfl⟩ := (sample_asks _).unique hasks
  exact absurd hall (by decide)

end Samples

end Heir.Controller.CsrApprover
