import Heir.Controller.ClusterAgent.CsrApprover

set_option autoImplicit false

/-! # Requests that are given up

Every failure of `validateAndApprove` is logged and the pass ends without an error, so the request is
not looked at again. That is meant for requests that can never be approved. But the error of an API
call comes the same way: a request is given up too if its node could not be read or the approval could
not be written (`request_lost`).

The answers of the API server are arbitrary here, one for each call that a pass may make.
-/

namespace Heir.Controller.CsrApprover

open Heir.Core Interact

/-- The outcome of every call that a pass may make. -/
abbrev Answers : Type := (op : Call) → op.Answer

def answered (answers : Answers) (op : Call) (w : Unit) : op.Answer × Unit := (answers op, w)

/-- The calls of a pass and its result. -/
def pass (libs : Libs) (answers : Answers) (name : String) :
    List (Called sig) × Except GoError Unit :=
  let r := (reconcile libs name).eval (answered answers) ()
  (r.1, r.2.1)

/-! ## When a request may be given up -/

/-- The request can never be approved. -/
inductive Invalid (libs : Libs) (answers : Answers) (csr : CertificateSigningRequest) : Prop where
  | notNode (h : ∀ nodeName, csr.username ≠ "system:node:" ++ nodeName)
  | nodeNotFound {nodeName : String} {err : GoError}
      (husername : csr.username = "system:node:" ++ nodeName)
      (hnode : answers (.getNode nodeName) = .error err) (hreason : err.reason = .notFound)
  | unparsable {err : GoError} (hparse : parseCSRBytes libs csr.request = .error err)
  | foreignName {nodeName : String} {node : Node} {x509cr : CertificateRequest} {san : String}
      (husername : csr.username = "system:node:" ++ nodeName)
      (hnode : answers (.getNode nodeName) = .ok node)
      (hparse : parseCSRBytes libs csr.request = .ok x509cr)
      (hsan : san ∈ subjectAltNames libs x509cr) (hforeign : san ∉ reported node)

/-- There is nothing left to do for the request. -/
inductive Settled (libs : Libs) (answers : Answers) (name : String) : Prop where
  | missing {err : GoError} (hget : answers (.getCsr name) = .error err)
      (hreason : err.reason = .notFound)
  | decided {csr : CertificateSigningRequest} (hget : answers (.getCsr name) = .ok csr)
      (hpending : csrIsPending csr = false)
  | approved {csr stored : CertificateSigningRequest} (happroves : Approves (.updateApproval csr))
      (hcall : (⟨.updateApproval csr, .ok stored⟩ : Called sig) ∈ (pass libs answers name).1)
  | invalid {csr : CertificateSigningRequest} (hget : answers (.getCsr name) = .ok csr)
      (hinvalid : Invalid libs answers csr)

/-- The calls that a pass makes for the request do not fail: the node is read or does not exist, and
the approval is written if it comes to that. -/
structure Undisturbed (libs : Libs) (answers : Answers) (csr : CertificateSigningRequest)
    (nodeName : String) (x509cr : CertificateRequest) : Prop where
  node : ∀ err, answers (.getNode nodeName) = .error err → err.reason = .notFound
  approval : ∀ node err, answers (.getNode nodeName) = .ok node →
    (∀ san ∈ subjectAltNames libs x509cr, san ∈ reported node) →
      answers (.updateApproval { csr with conditions := csr.conditions ++ [autoApproved] }) ≠
        .error err

/-! ## A pass -/

variable {libs : Libs} {answers : Answers} {name : String} {csr : CertificateSigningRequest}

theorem pass_of_error {err : GoError} (hget : answers (.getCsr name) = .error err) :
    pass libs answers name =
      ([⟨.getCsr name, .error err⟩], if err.reason = .notFound then .ok () else .error err) := by
  unfold pass reconcile
  rw [Prog.eval_call]
  simp only [answered, hget, Prog.eval_ret]

/-- The pass for a pending request ends without an error, whatever comes out. -/
theorem pass_of_pending (hget : answers (.getCsr name) = .ok csr)
    (hpending : csrIsPending csr = true) :
    pass libs answers name =
      (⟨.getCsr name, .ok csr⟩ :: ((validateAndApprove libs csr).eval (answered answers) ()).1,
        .ok ()) := by
  unfold pass reconcile
  rw [Prog.eval_call]
  simp only [answered, hget, hpending, Bool.not_true, Bool.false_eq_true, if_false, Prog.eval_bind,
    Prog.pure_eq, Prog.eval_ret, List.append_nil]

section Calls

variable {nodeName : String} (husername : csr.username = "system:node:" ++ nodeName)
include husername

theorem calls_of_node_error {err : GoError} (hnode : answers (.getNode nodeName) = .error err) :
    ((validateAndApprove libs csr).eval (answered answers) ()).1 =
      [⟨.getNode nodeName, .error err⟩] := by
  rw [validateAndApprove_of_node husername, Prog.eval_call]
  simp only [answered, hnode, approveFor, Prog.eval_ret]

/-- Where all names are in order the approval is written, or it is tried. -/
theorem calls_of_approval {node : Node} {x509cr : CertificateRequest}
    (hnode : answers (.getNode nodeName) = .ok node)
    (hparse : parseCSRBytes libs csr.request = .ok x509cr)
    (hnames : ∀ san ∈ checkedNames libs x509cr, san ∈ reported node) :
    ((validateAndApprove libs csr).eval (answered answers) ()).1 =
      [⟨.getNode nodeName, .ok node⟩,
        ⟨.updateApproval { csr with conditions := csr.conditions ++ [autoApproved] },
          answers (.updateApproval { csr with conditions := csr.conditions ++ [autoApproved] })⟩] := by
  have hcheck := (checkNames_eq_ok libs nodeName node x509cr).mpr hnames
  rw [validateAndApprove_of_node husername, Prog.eval_call]
  simp only [answered, hnode, approveFor, approve, hparse, hcheck, Prog.eval_call]
  split
  · rfl
  · rfl

end Calls

theorem node_inj {n n' : String} (h : csr.username = "system:node:" ++ n)
    (h' : csr.username = "system:node:" ++ n') : n = n' :=
  (String.append_right_inj "system:node:").mp (h.symm.trans h')

/-- What can be wrong with a request of a node that parses: the node does not exist, or it does not
report one of the names. -/
theorem Invalid.of_node {nodeName : String} {x509cr : CertificateRequest}
    (husername : csr.username = "system:node:" ++ nodeName)
    (hparse : parseCSRBytes libs csr.request = .ok x509cr) (h : Invalid libs answers csr) :
    (∃ err, answers (.getNode nodeName) = .error err ∧ err.reason = .notFound) ∨
      ∃ node, answers (.getNode nodeName) = .ok node ∧
        ∃ san ∈ subjectAltNames libs x509cr, san ∉ reported node := by
  cases h with
  | notNode h => exact absurd husername (h nodeName)
  | nodeNotFound husername' hnode hreason =>
      cases node_inj husername husername'
      exact .inl ⟨_, hnode, hreason⟩
  | unparsable hparse' =>
      rw [hparse] at hparse'
      cases hparse'
  | foreignName husername' hnode hparse' hsan hforeign =>
      cases node_inj husername husername'
      rw [hparse] at hparse'
      cases hparse'
      exact .inr ⟨_, hnode, _, hsan, hforeign⟩

/-- A request that is given up although one of its calls failed is not settled. -/
theorem undisturbed_of_settled {nodeName : String} {x509cr : CertificateRequest}
    (hget : answers (.getCsr name) = .ok csr) (hpending : csrIsPending csr = true)
    (husername : csr.username = "system:node:" ++ nodeName)
    (hparse : parseCSRBytes libs csr.request = .ok x509cr)
    (hsettled : Settled libs answers name) : Undisturbed libs answers csr nodeName x509cr := by
  -- what is left of `Settled`: an approval among the calls, or an invalid request
  have hcases : (∃ csr' stored, (⟨.updateApproval csr', .ok stored⟩ : Called sig) ∈
        ((validateAndApprove libs csr).eval (answered answers) ()).1) ∨
      Invalid libs answers csr := by
    cases hsettled with
    | missing hget' _ =>
        rw [hget] at hget'
        cases hget'
    | decided hget' hpending' =>
        rw [hget] at hget'
        cases hget'
        rw [hpending] at hpending'
        cases hpending'
    | approved _ hcall =>
        rw [pass_of_pending hget hpending] at hcall
        rcases List.mem_cons.mp hcall with heq | hcall
        · cases heq
        · exact .inl ⟨_, _, hcall⟩
    | invalid hget' hinvalid =>
        rw [hget] at hget'
        cases hget'
        exact .inr hinvalid
  constructor
  · intro err hnode
    rcases hcases with ⟨csr', stored, hcall⟩ | hinvalid
    · rw [calls_of_node_error husername hnode] at hcall
      cases List.mem_singleton.mp hcall
    · rcases hinvalid.of_node husername hparse with ⟨err', hnode', hreason⟩ | ⟨node, hnode', -⟩
      · rw [hnode] at hnode'
        cases hnode'
        exact hreason
      · rw [hnode] at hnode'
        cases hnode'
  · intro node err hnode hall hupdate
    have hchecked := (List.forall_mem_append.mp hall).1
    rcases hcases with ⟨csr', stored, hcall⟩ | hinvalid
    · rw [calls_of_approval husername hnode hparse hchecked, hupdate] at hcall
      rcases List.mem_cons.mp hcall with heq | hcall
      · cases heq
      · cases List.mem_singleton.mp hcall
    · rcases hinvalid.of_node husername hparse with ⟨err', hnode', -⟩ | ⟨_, hnode', san, hsan, hforeign⟩
      · rw [hnode] at hnode'
        cases hnode'
      · rw [hnode] at hnode'
        cases hnode'
        exact hforeign (hall san hsan)

/-- A pending request of a node whose calls do not fail is settled. -/
theorem settled_of_undisturbed {nodeName : String} {x509cr : CertificateRequest}
    (hget : answers (.getCsr name) = .ok csr) (hpending : csrIsPending csr = true)
    (husername : csr.username = "system:node:" ++ nodeName)
    (hparse : parseCSRBytes libs csr.request = .ok x509cr)
    (h : Undisturbed libs answers csr nodeName x509cr) : Settled libs answers name := by
  cases hnode : answers (.getNode nodeName) with
  | error err => exact .invalid hget (.nodeNotFound husername hnode (h.node err hnode))
  | ok node =>
      by_cases hall : ∀ san ∈ subjectAltNames libs x509cr, san ∈ reported node
      · have hcalls := calls_of_approval husername hnode hparse (List.forall_mem_append.mp hall).1
        cases hupdate : answers
            (.updateApproval { csr with conditions := csr.conditions ++ [autoApproved] }) with
        | error err => exact absurd hupdate (h.approval node err hnode hall)
        | ok stored =>
            rw [hupdate] at hcalls
            have happroves : Approves
                (.updateApproval { csr with conditions := csr.conditions ++ [autoApproved] }) :=
              ⟨autoApproved, by simp, rfl⟩
            have hcall : (⟨.updateApproval { csr with conditions := csr.conditions ++ [autoApproved] },
                .ok stored⟩ : Called sig) ∈ (pass libs answers name).1 := by
              rw [pass_of_pending hget hpending, hcalls]
              exact List.mem_cons_of_mem _ (List.mem_cons_of_mem _ List.mem_cons_self)
            exact .approved happroves hcall
      · push Not at hall
        obtain ⟨san, hsan, hforeign⟩ := hall
        exact .invalid hget (.foreignName husername hnode hparse hsan hforeign)

/-- **When no request is lost.** A pass that ends without an error leaves nothing to do for the
request, if and only if the calls it makes for a pending request of a node that parses do not fail. -/
theorem request_kept_iff (libs : Libs) (answers : Answers) (name : String) :
    ((pass libs answers name).2 = .ok () → Settled libs answers name) ↔
      ∀ csr nodeName x509cr, answers (.getCsr name) = .ok csr → csrIsPending csr = true →
        csr.username = "system:node:" ++ nodeName → parseCSRBytes libs csr.request = .ok x509cr →
          Undisturbed libs answers csr nodeName x509cr := by
  constructor
  · intro hkept csr nodeName x509cr hget hpending husername hparse
    have hok : (pass libs answers name).2 = .ok () := by rw [pass_of_pending hget hpending]
    exact undisturbed_of_settled hget hpending husername hparse (hkept hok)
  · intro h hok
    cases hget : answers (.getCsr name) with
    | error err =>
        rw [pass_of_error hget] at hok
        by_cases hreason : err.reason = .notFound
        · exact .missing hget hreason
        · rw [if_neg hreason] at hok
          cases hok
    | ok csr =>
        by_cases hpending : csrIsPending csr = true
        · by_cases hnode : ∃ nodeName, csr.username = "system:node:" ++ nodeName
          · obtain ⟨nodeName, husername⟩ := hnode
            cases hparse : parseCSRBytes libs csr.request with
            | error err => exact .invalid hget (.unparsable hparse)
            | ok x509cr =>
                exact settled_of_undisturbed hget hpending husername hparse
                  (h csr nodeName x509cr hget hpending husername hparse)
          · push Not at hnode
            exact .invalid hget (.notNode hnode)
        · exact .decided hget (Bool.eq_false_of_not_eq_true hpending)

/-! ## A lost request -/

/-- The node cannot be read for the moment. -/
def timeout : GoError := ⟨.other, "context deadline exceeded"⟩

def timeoutAnswers : Answers
  | .getCsr _ => .ok sampleCsr
  | .getNode _ => .error timeout
  | .updateApproval csr => .ok csr

/-- The request of the sample node is given up because the node could not be read. -/
theorem request_lost :
    isKubeletServingCSR sampleCsr = true ∧ csrIsPending sampleCsr = true ∧
      timeout.reason ≠ .notFound ∧
      pass (sampleLibs { dnsNames := ["node1"] }) timeoutAnswers "csr1" =
        ([⟨.getCsr "csr1", .ok sampleCsr⟩, ⟨.getNode "node1", .error timeout⟩], .ok ()) ∧
      ¬ Settled (sampleLibs { dnsNames := ["node1"] }) timeoutAnswers "csr1" := by
  have hpending : csrIsPending sampleCsr = true := rfl
  have husername : sampleCsr.username = "system:node:" ++ "node1" := rfl
  refine ⟨rfl, hpending, by decide, ?_, fun hsettled => ?_⟩
  · rw [pass_of_pending rfl hpending, calls_of_node_error husername rfl]
  · have hundisturbed := undisturbed_of_settled rfl hpending husername rfl hsettled
    have hreason := hundisturbed.node timeout rfl
    cases hreason

end Heir.Controller.CsrApprover
