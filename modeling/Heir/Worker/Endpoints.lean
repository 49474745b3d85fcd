import Heir.Worker.Join

set_option autoImplicit false

/-! # The endpoints of a bootstrap kubeconfig

`parseEndpointsFromBootstrapKubeconfig` visits the clusters of the kubeconfig in the order of a Go map
and skips those whose host it has seen. So of two clusters with the same host and different ports it
keeps the one that comes first, which may be another one in the next run
(`endpoint_depends_on_order`). A port that does not fit into an `int` is read as 443.

The kubeconfigs for which neither happens are exactly those for which all endpoints are returned,
whatever the order (`endpoints_kept_iff`).
-/

namespace Heir.Worker.Join

open Heir.ControlPlane Heir.Core Heir.Runtime Heir.Bootstrap Interact
open Heir.Worker.Proxy (Endpoint)

/-! ## What the kubeconfig states -/

/-- The port of a URL as a number, 443 if it has none. -/
def statedPort (u : Url.URL) : Int := ((GoString.digitsValue u.port.toList).getD 443 : Nat)

variable (libs : Libs)

/-- The endpoint of a cluster with a port read by `port`: its URL parses, with a host. An empty
text is no URL. -/
def clusterEndpoint (port : Url.URL → Int) (c : KubeCluster) : Option Endpoint :=
  if c.server = "" then none
  else
    match libs.parseURL c.server with
    | .error _ => none
    | .ok u => if u.hostname = "" then none else some ⟨u.hostname, port u⟩

/-- A cluster of the kubeconfig has this endpoint. -/
def Stated (cfg : KubeConfig) (e : Endpoint) : Prop :=
  ∃ (name : String) (c : KubeCluster), cfg.clusters[name]? = some c ∧
    clusterEndpoint libs statedPort c = some e

/-- Clusters with the same host have the same port, and every port fits into an `int`. -/
structure Unambiguous (cfg : KubeConfig) : Prop where
  port_eq : ∀ e e', Stated libs cfg e → Stated libs cfg e' → e.host = e'.host → e.port = e'.port
  port_lt : ∀ e, Stated libs cfg e → e.port < 2 ^ 63

variable {libs}

/-! ## Ports -/

theorem all_isDigit_port (u : Url.URL) : u.port.toList.all Char.isDigit = true := by
  rw [Url.URL.port, String.toList_ofList]
  unfold Url.splitHostPort
  split
  · next colon _ =>
      split
      · next hvalid =>
          rw [← List.tail_drop]
          -- what is kept is what follows the colon
          cases hdrop : u.host.toList.drop colon with
          | nil => rfl
          | cons c ds =>
              rw [hdrop, Url.validOptionalPort, Bool.and_eq_true] at hvalid
              exact hvalid.2
      · rfl
  · rfl

/-- Digits are read as the number they denote if that fits into 64 bits. -/
theorem atoi_digits {s : String} (h : s.toList.all Char.isDigit = true) :
    GoString.atoi s =
      (GoString.digitsValue s.toList).bind fun n => if n < 2 ^ 63 then some (n : Int) else none := by
  unfold GoString.atoi
  split
  · next ds hs =>
      rw [hs] at h
      cases h
  · next ds hs =>
      rw [hs] at h
      cases h
  · rfl

theorem portOf_eq (u : Url.URL) :
    portOf u = if statedPort u < 2 ^ 63 then statedPort u else 443 := by
  have hdigits := all_isDigit_port u
  unfold portOf statedPort
  by_cases hempty : u.port = ""
  · rw [if_pos hempty, hempty]
    decide
  · rw [if_neg hempty, atoi_digits hdigits]
    cases hvalue : GoString.digitsValue u.port.toList with
    | none => rfl
    | some n =>
        rw [Option.bind_some, Option.getD_some]
        by_cases hlt : n < 2 ^ 63
        · rw [if_pos hlt, if_pos (by omega), Option.getD_some]
        · rw [if_neg hlt, if_neg (by omega), Option.getD_none]

theorem portOf_lt (u : Url.URL) : portOf u < 2 ^ 63 := by
  rw [portOf_eq]
  split
  · assumption
  · decide

theorem portOf_eq_statedPort {u : Url.URL} (h : statedPort u < 2 ^ 63) :
    portOf u = statedPort u := by
  rw [portOf_eq, if_pos h]

variable {e : Endpoint}

/-- The endpoint of a cluster is one whatever reads its port, with that port. -/
theorem clusterEndpoint_eq_some {port : Url.URL → Int} {c : KubeCluster}
    (h : clusterEndpoint libs port c = some e) :
    ∃ u : Url.URL, e = ⟨u.hostname, port u⟩ ∧
      ∀ port' : Url.URL → Int, clusterEndpoint libs port' c = some ⟨u.hostname, port' u⟩ := by
  unfold clusterEndpoint at h ⊢
  obtain ⟨hserver, h⟩ := Option.ite_none_left_eq_some.mp h
  simp only [if_neg hserver]
  cases hparse : libs.parseURL c.server with
  | error err =>
      rw [hparse] at h
      cases h
  | ok u =>
      rw [hparse] at h
      obtain ⟨hhost, h⟩ := Option.ite_none_left_eq_some.mp h
      exact ⟨u, (Option.some.inj h).symm, fun port' => if_neg hhost⟩

/-! ## The loop -/

/-- A cluster without an endpoint is skipped, as is one whose host was seen. -/
theorem endpointsOf_cons (seen : List String) (c : KubeCluster) (clusters : List KubeCluster) :
    endpointsOf libs seen (c :: clusters) =
      match clusterEndpoint libs portOf c with
      | none => endpointsOf libs seen clusters
      | some e =>
          if e.host ∈ seen then endpointsOf libs seen clusters
          else e :: endpointsOf libs (e.host :: seen) clusters := by
  rw [endpointsOf, clusterEndpoint]
  by_cases hserver : c.server = ""
  · rw [if_pos hserver, if_pos hserver]
  · rw [if_neg hserver, if_neg hserver]
    cases libs.parseURL c.server with
    | error _ => rfl
    | ok u =>
        dsimp only
        by_cases hhost : u.hostname = ""
        · rw [if_pos (Or.inl hhost), if_pos hhost]
        · rw [if_neg hhost]
          dsimp only
          by_cases hseen : u.hostname ∈ seen
          · rw [if_pos (Or.inr hseen), if_pos hseen]
          · rw [if_neg (by simp [hhost, hseen]), if_neg hseen]

theorem mem_of_mem_endpointsOf {seen : List String} {clusters : List KubeCluster}
    (h : e ∈ endpointsOf libs seen clusters) :
    ∃ c ∈ clusters, clusterEndpoint libs portOf c = some e := by
  -- induction over the clusters still to be visited
  induction clusters generalizing seen with
  | nil => cases h
  | cons c clusters ih =>
      have later : ∀ seen', e ∈ endpointsOf libs seen' clusters →
          ∃ c' ∈ c :: clusters, clusterEndpoint libs portOf c' = some e := by
        intro seen' h'
        obtain ⟨c', hc', he⟩ := ih h'
        exact ⟨c', List.mem_cons_of_mem _ hc', he⟩
      rw [endpointsOf_cons] at h
      cases hc : clusterEndpoint libs portOf c with
      | none =>
          rw [hc] at h
          exact later seen h
      | some e' =>
          rw [hc] at h
          dsimp only at h
          by_cases hseen : e'.host ∈ seen
          · rw [if_pos hseen] at h
            exact later seen h
          · rw [if_neg hseen] at h
            rcases List.mem_cons.mp h with rfl | h
            · exact ⟨c, List.mem_cons_self, hc⟩
            · exact later _ h

/-- Every host of a cluster is one that was seen or that of an endpoint. -/
theorem exists_host_of_mem (seen : List String) {clusters : List KubeCluster} {c : KubeCluster}
    (hc : c ∈ clusters) (he : clusterEndpoint libs portOf c = some e) :
    e.host ∈ seen ∨ ∃ e' ∈ endpointsOf libs seen clusters, e'.host = e.host := by
  induction clusters generalizing seen with
  | nil => cases hc
  | cons d clusters ih =>
      rw [endpointsOf_cons]
      rcases List.mem_cons.mp hc with rfl | hc
      · rw [he]
        dsimp only
        by_cases hseen : e.host ∈ seen
        · exact .inl hseen
        · rw [if_neg hseen]
          exact .inr ⟨e, List.mem_cons_self, rfl⟩
      · cases hd : clusterEndpoint libs portOf d with
        | none => exact ih seen hc
        | some f =>
            dsimp only
            by_cases hseen : f.host ∈ seen
            · rw [if_pos hseen]
              exact ih seen hc
            · rw [if_neg hseen]
              -- the host is that of `d`, was seen before it, or is that of a later endpoint
              rcases ih (f.host :: seen) hc with hmem | ⟨e', he', hhost⟩
              · rcases List.mem_cons.mp hmem with heq | hmem
                · exact .inr ⟨f, List.mem_cons_self, heq.symm⟩
                · exact .inl hmem
              · exact .inr ⟨e', List.mem_cons_of_mem _ he', hhost⟩

/-! ## All endpoints -/

/-- The endpoints are those that the kubeconfig states, none of them twice. -/
structure Complete (libs : Libs) (cfg : KubeConfig) (endpoints : List Endpoint) : Prop where
  nodup : endpoints.Nodup
  mem_iff : ∀ e, e ∈ endpoints ↔ Stated libs cfg e

/-- The endpoints of a kubeconfig, its clusters visited in this order. -/
def visited (libs : Libs) (order : GoMap.RangeOrder KubeCluster) (cfg : KubeConfig) :
    List Endpoint :=
  endpointsOf libs [] ((order.visit cfg.clusters).map Prod.snd)

variable {order : GoMap.RangeOrder KubeCluster} {cfg : KubeConfig}

theorem visited_hosts_nodup : ((visited libs order cfg).map Endpoint.host).Nodup :=
  (endpointsOf_hosts libs [] _).1

theorem exists_of_mem_visited (h : e ∈ visited libs order cfg) :
    ∃ (name : String) (c : KubeCluster), cfg.clusters[name]? = some c ∧
      clusterEndpoint libs portOf c = some e := by
  obtain ⟨c, hc, he⟩ := mem_of_mem_endpointsOf h
  obtain ⟨⟨name, _⟩, hvisit, rfl⟩ := List.mem_map.mp hc
  exact ⟨name, _, (order.mem_visit _ _ _).mp hvisit, he⟩

theorem exists_host_visited (order : GoMap.RangeOrder KubeCluster) {name : String} {c : KubeCluster}
    (hc : cfg.clusters[name]? = some c) (he : clusterEndpoint libs portOf c = some e) :
    ∃ e' ∈ visited libs order cfg, e'.host = e.host := by
  have hvisit : c ∈ (order.visit cfg.clusters).map Prod.snd :=
    List.mem_map.mpr ⟨(name, c), (order.mem_visit _ _ _).mpr hc, rfl⟩
  rcases exists_host_of_mem [] hvisit he with hseen | h
  · cases hseen
  · exact h

/-- Where ports fit into an `int`, the endpoints read are those stated. -/
theorem stated_of_mem_visited (hport : ∀ e, Stated libs cfg e → e.port < 2 ^ 63)
    (h : e ∈ visited libs order cfg) : Stated libs cfg e := by
  obtain ⟨name, c, hc, he⟩ := exists_of_mem_visited h
  obtain ⟨u, rfl, hread⟩ := clusterEndpoint_eq_some he
  have hlt := hport ⟨u.hostname, statedPort u⟩ ⟨name, c, hc, hread statedPort⟩
  rw [portOf_eq_statedPort hlt]
  exact ⟨name, c, hc, hread statedPort⟩

theorem complete_of_unambiguous (h : Unambiguous libs cfg) :
    Complete libs cfg (visited libs order cfg) where
  nodup := visited_hosts_nodup.of_map
  mem_iff := fun e => by
    constructor
    · exact stated_of_mem_visited h.port_lt
    · intro hstated
      obtain ⟨name, c, hc, he⟩ := id hstated
      obtain ⟨u, rfl, hread⟩ := clusterEndpoint_eq_some he
      obtain ⟨e', hmem, hhost⟩ := exists_host_visited order hc (hread portOf)
      have hstated' := stated_of_mem_visited h.port_lt hmem
      have hport : e'.port = statedPort u := h.port_eq _ _ hstated' hstated hhost
      have heq : e' = ⟨u.hostname, statedPort u⟩ := by
        cases e'
        cases hhost
        cases hport
        rfl
      exact heq ▸ hmem

theorem unambiguous_of_complete (h : Complete libs cfg (visited libs order cfg)) :
    Unambiguous libs cfg where
  port_eq := fun e e' he he' hhost => by
    have hmem := (h.mem_iff e).mpr he
    have hmem' := (h.mem_iff e').mpr he'
    have heq : e = e' := List.inj_on_of_nodup_map visited_hosts_nodup hmem hmem' hhost
    rw [heq]
  port_lt := fun e he => by
    obtain ⟨_, c, _, hc⟩ := exists_of_mem_visited ((h.mem_iff e).mpr he)
    obtain ⟨u, rfl, -⟩ := clusterEndpoint_eq_some hc
    exact portOf_lt u

/-- **All endpoints are kept, for exactly these kubeconfigs.** The endpoints that are read from a
kubeconfig file are, for every order of its clusters, those that it states and none of them twice: if
and only if clusters with the same host have the same port and every port fits into an `int`. -/
theorem endpoints_kept_iff {raw : Bytes} {cfg : KubeConfig}
    (hload : libs.loadKubeconfig raw = .ok cfg) {path : String} {files : Files}
    (hfile : files path = some raw) :
    (∀ order, ∃ endpoints,
      runOn order (parseEndpointsFromBootstrapKubeconfig libs path) files = (.ok endpoints, files) ∧
        Complete libs cfg endpoints) ↔ Unambiguous libs cfg := by
  have hreads := fun order => parseEndpointsFromBootstrapKubeconfig_reads order hload hfile
  constructor
  · intro h
    obtain ⟨endpoints, hrun, hcomplete⟩ := h default
    rw [hreads] at hrun
    cases hrun
    exact unambiguous_of_complete hcomplete
  · intro h order
    exact ⟨_, hreads order, complete_of_unambiguous h⟩

/-- The loader on the text of one kubeconfig. -/
def loading (text : String) (cfg : KubeConfig) : Libs :=
  { sampleLibs with loadKubeconfig := fun raw =>
      if raw = bytes text then .ok cfg else .error (errorf "yaml: not a kubeconfig") }

theorem loadKubeconfig_loading (text : String) (cfg : KubeConfig) :
    (loading text cfg).loadKubeconfig (bytes text) = .ok cfg := if_pos rfl

/-- The file with this text. -/
def bootstrapFile (text : String) : Files :=
  writeTo "bootstrap-kubeconfig.conf" (bytes text) fun _ => none

/-! ## Two hosts, one of them twice -/

/-- Clusters `a` and `c` have the same endpoint. -/
def replicated : KubeConfig where
  clusters := (((∅ : GoMap KubeCluster).insert "a" ⟨"https://cp1.example.com:6443", [1]⟩).insert "b"
    ⟨"https://cp2.example.com:7443", [1]⟩).insert "c" ⟨"https://cp1.example.com:6443", [1]⟩
  authInfos := ∅
  contexts := ∅
  currentContext := ""

def replicatedText : String :=
  "apiVersion: v1\nkind: Config\nclusters:\n- name: a\n  cluster:\n" ++
  "    server: https://cp1.example.com:6443\n    certificate-authority-data: AQ==\n" ++
  "- name: b\n  cluster:\n    server: https://cp2.example.com:7443\n" ++
  "    certificate-authority-data: AQ==\n- name: c\n  cluster:\n" ++
  "    server: https://cp1.example.com:6443\n    certificate-authority-data: AQ==\n"

theorem stated_replicated (h : Stated (loading replicatedText replicated) replicated e) :
    e = ⟨"cp1.example.com", 6443⟩ ∨ e = ⟨"cp2.example.com", 7443⟩ := by
  have h₁ : clusterEndpoint (loading replicatedText replicated) statedPort
      ⟨"https://cp1.example.com:6443", [1]⟩ = some ⟨"cp1.example.com", 6443⟩ := by decide +kernel
  have h₂ : clusterEndpoint (loading replicatedText replicated) statedPort
      ⟨"https://cp2.example.com:7443", [1]⟩ = some ⟨"cp2.example.com", 7443⟩ := by decide +kernel
  obtain ⟨name, c, hc, he⟩ := h
  simp only [replicated, GoMap.getElem?_insert, Std.ExtTreeMap.getElem?_empty] at hc
  split at hc
  · cases hc
    exact .inl (Option.some.inj (he.symm.trans h₁))
  · split at hc
    · cases hc
      exact .inr (Option.some.inj (he.symm.trans h₂))
    · split at hc
      · cases hc
        exact .inl (Option.some.inj (he.symm.trans h₁))
      · cases hc

/-- Both hosts are read, the one that occurs twice only once. -/
theorem replicated_endpoints_kept :
    ∃ endpoints, runOn default (parseEndpointsFromBootstrapKubeconfig
        (loading replicatedText replicated) "bootstrap-kubeconfig.conf")
        (bootstrapFile replicatedText) = (.ok endpoints, bootstrapFile replicatedText) ∧
      Complete (loading replicatedText replicated) replicated endpoints := by
  refine (endpoints_kept_iff (loadKubeconfig_loading _ _) rfl).mpr ⟨fun e e' he he' hhost => ?_,
    fun e he => ?_⟩ default
  · rcases stated_replicated he with rfl | rfl <;> rcases stated_replicated he' with rfl | rfl
    · rfl
    · exact absurd hhost (by decide)
    · exact absurd hhost (by decide)
    · rfl
  · rcases stated_replicated he with rfl | rfl <;> decide

/-! ## A host with two ports -/

/-- The API server and, on another port of the same host, a second one. -/
def twoPorts : KubeConfig where
  clusters := ((∅ : GoMap KubeCluster).insert "a" ⟨"https://cp.example.com:6443", [1]⟩).insert "b"
    ⟨"https://cp.example.com:7443", [1]⟩
  authInfos := ∅
  contexts := ∅
  currentContext := ""

def twoPortsText : String :=
  "apiVersion: v1\nkind: Config\nclusters:\n- name: a\n  cluster:\n" ++
  "    server: https://cp.example.com:6443\n    certificate-authority-data: AQ==\n" ++
  "- name: b\n  cluster:\n    server: https://cp.example.com:7443\n" ++
  "    certificate-authority-data: AQ==\n"

def twoPortsLibs : Libs := loading twoPortsText twoPorts

/-- Each order loses one of the two endpoints, and two orders do not lose the same. -/
theorem endpoint_depends_on_order :
    Stated twoPortsLibs twoPorts ⟨"cp.example.com", 6443⟩ ∧
    Stated twoPortsLibs twoPorts ⟨"cp.example.com", 7443⟩ ∧
    runOn (.startingWith "a")
        (parseEndpointsFromBootstrapKubeconfig twoPortsLibs "bootstrap-kubeconfig.conf")
        (bootstrapFile twoPortsText) =
      (.ok [⟨"cp.example.com", 6443⟩], bootstrapFile twoPortsText) ∧
    runOn (.startingWith "b")
        (parseEndpointsFromBootstrapKubeconfig twoPortsLibs "bootstrap-kubeconfig.conf")
        (bootstrapFile twoPortsText) =
      (.ok [⟨"cp.example.com", 7443⟩], bootstrapFile twoPortsText) := by
  have hload : twoPortsLibs.loadKubeconfig (bytes twoPortsText) = .ok twoPorts :=
    loadKubeconfig_loading _ _
  have hfile : bootstrapFile twoPortsText "bootstrap-kubeconfig.conf" = some (bytes twoPortsText) :=
    rfl
  have ha : visited twoPortsLibs (.startingWith "a") twoPorts = [⟨"cp.example.com", 6443⟩] := by
    decide +kernel
  have hb : visited twoPortsLibs (.startingWith "b") twoPorts = [⟨"cp.example.com", 7443⟩] := by
    decide +kernel
  refine ⟨⟨"a", ⟨"https://cp.example.com:6443", [1]⟩, ?_, ?_⟩,
    ⟨"b", ⟨"https://cp.example.com:7443", [1]⟩, ?_, ?_⟩, ?_, ?_⟩
  · rw [twoPorts, GoMap.getElem?_insert, if_neg (by decide), GoMap.getElem?_insert, if_pos rfl]
  · decide +kernel
  · rw [twoPorts, GoMap.getElem?_insert, if_pos rfl]
  · decide +kernel
  · rw [parseEndpointsFromBootstrapKubeconfig_reads _ hload hfile, ← ha, visited]
  · rw [parseEndpointsFromBootstrapKubeconfig_reads _ hload hfile, ← hb, visited]

end Heir.Worker.Join
