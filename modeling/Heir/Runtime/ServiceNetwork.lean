import Heir.Lib.Ipv4
import Heir.Runtime.Config
import Heir.Runtime.Component.Addons
import Heir.Runtime.PkiAuth

set_option autoImplicit false

/-! # The service network in four documents

The range of the service network reaches the API server as an argument. Three other documents hold
addresses that have to lie in it: the certificate of the API server names the address of the Service
`kubernetes`, and the kubelet configuration and the values of the CoreDNS chart name the address of
the cluster's DNS server. All three are constants of the program.

`selfConsistent_iff` says for which ranges the constants fit.
-/

namespace Heir.Runtime

open Heir.ControlPlane Heir.ClusterAgent

/-! ## What the documents say -/

/-- The argument with the service range that the API server is started with. -/
def serviceRange (o : Orders) (layout : ControlPlaneLayout) (runtime : Runtime) :
    Option String :=
  (mergeArgs (o (.mergeDefaults .apiServer)) (o (.mergeExtra .apiServer))
    (apiServerParameters layout runtime.spec.cluster.network)
    runtime.spec.cluster.apiServer.extraArgs)["service-cluster-ip-range"]?

/-- The kubelet configuration has the address as its only DNS server. -/
def KubeletDNS (cfg : NodeProfileConfig) (ip : String) : Prop :=
  ∃ before after, "clusterDNS:" ∉ before ∧
    kubeletConfiguration cfg = before ++ ["clusterDNS:", "- " ++ ip, "clusterDomain: cluster.local"] ++ after

/-- There is a CoreDNS chart, with the address in its values. -/
def CorednsAddress (isPrint : Char → Bool) (charts : List HelmChart) (ip : String) : Prop :=
  (∃ c ∈ charts, c.metadata.name = "coredns") ∧
    ∀ c ∈ charts, c.metadata.name = "coredns" → c.spec.values.content = corednsValues isPrint ip

/-- The documents fit together: the certificate has the first usable address of the range that the
API server gets, and the DNS server has one address, inside that range. -/
def SelfConsistent (isPrint : Char → Bool) (o : Orders) (layout : ControlPlaneLayout)
    (runtime : Runtime) (cfg : NodeProfileConfig) (charts : List HelmChart) : Prop :=
  ∃ text range dns, serviceRange o layout runtime = some text ∧
    Ipv4.parseCIDR text = some range ∧
    range.first.text ∈ apiServerAltNames runtime ∧
    KubeletDNS cfg dns.text ∧ CorednsAddress isPrint charts dns.text ∧ range.Contains dns

/-- The Runtime has a service range with at least 16 addresses and leaves the documents alone. -/
structure Plain (runtime : Runtime) (range : Ipv4.Cidr) : Prop where
  range_eq : Ipv4.parseCIDR runtime.spec.cluster.network.serviceCIDR = some range
  size : 16 ≤ range.size
  noPatch : runtime.spec.cluster.kubelet.configPatches = ""
  noArg : runtime.spec.cluster.apiServer.extraArgs["service-cluster-ip-range"]? = none
  noCoredns : ∀ c ∈ runtime.spec.cluster.addons.charts, c.name ≠ "coredns"

/-! ## The constants -/

/-- 10.96.0.1. -/
def kubernetesServiceIP : Ipv4.Addr := .ofOctets 10 96 0 1

/-- 10.96.0.10. -/
def dnsServerIP : Ipv4.Addr := .ofOctets 10 96 0 10

theorem text_kubernetesServiceIP : kubernetesServiceIP.text = "10.96.0.1" := by decide

theorem text_dnsServerIP : dnsServerIP.text = clusterDNSIP := by decide

/-! ## The four documents -/

/-- Without an argument of the user's, the API server gets the range of the specification. -/
theorem serviceRange_eq (o : Orders) (layout : ControlPlaneLayout) (runtime : Runtime)
    (h : runtime.spec.cluster.apiServer.extraArgs["service-cluster-ip-range"]? = none) :
    serviceRange o layout runtime = some runtime.spec.cluster.network.serviceCIDR := by
  rw [serviceRange, mergeArgs, GoMap.setAll_empty_visit, GoMap.getElem?_setAll_visit, h,
    Option.none_or]
  apply GoMap.getElem?_setAll_of_mem
  · simp only [List.map_cons, List.map_nil]
    decide
  · simp

theorem kubeletDNS_of_config {yaml : Yaml} {wrkCtx : WorkerContext} {runtime : Runtime}
    {cfg : NodeProfileConfig} (hcfg : getNodeProfileConfig yaml wrkCtx runtime = .ok cfg) :
    KubeletDNS cfg clusterDNSIP := by
  have hdns : cfg.clusterDNS = clusterDNSIP := by
    simp only [getNodeProfileConfig] at hcfg
    split at hcfg
    · cases hcfg
    · cases hcfg
      rfl
  refine ⟨(kubeletConfiguration cfg).take 17, (kubeletConfiguration cfg).drop 20, ?_, ?_⟩
  · simp only [kubeletConfiguration, List.take_succ_cons, List.take_zero, List.mem_cons,
      List.not_mem_nil, or_false, not_or]
    refine ⟨by decide, by decide, by decide, by decide, by decide, by decide, by decide, by decide,
      fun h => ?_, by decide, by decide, by decide, by decide, by decide, by decide, by decide,
      by decide⟩
    -- the path of the CA file stands on an indented line
    have hhead := congrArg (fun l : String => l.toList.head?) h
    simp at hhead
  · rw [← hdns]
    rfl

/-! ## The CoreDNS chart -/

theorem quote_text (isPrint : Char → Bool) (x : Ipv4.Addr) :
    GoString.quote isPrint x.text = String.ofList ('"' :: x.text.toList ++ ['"']) := by
  have hchar : ∀ c ∈ x.text.toList, GoString.quoteChar isPrint c = [c] := by
    intro c hc
    rcases x.text_chars c hc with hdigit | rfl
    · simp only [Char.isDigit, Bool.and_eq_true, decide_eq_true_eq, ge_iff_le,
        UInt32.le_iff_toNat_le] at hdigit
      have hlow : 48 ≤ c.toNat := hdigit.1
      have hhigh : c.toNat ≤ 57 := hdigit.2
      have hquote : c ≠ '"' := fun h => by
        rw [h] at hlow
        exact absurd hlow (by decide)
      have hback : c ≠ '\\' := fun h => by
        rw [h] at hhigh
        exact absurd hhigh (by decide)
      rw [GoString.quoteChar, if_neg (by simp [hquote, hback]), if_pos (by omega)]
    · rfl
  have hflat : x.text.toList.flatMap (GoString.quoteChar isPrint) = x.text.toList := by
    rw [List.flatMap_congr hchar, List.flatMap_singleton']
  rw [GoString.quote, hflat]

theorem corednsValues_injective {isPrint : Char → Bool} {x y : Ipv4.Addr}
    (h : corednsValues isPrint x.text = corednsValues isPrint y.text) : x = y := by
  have cancel : ∀ a b u v : String, a ++ u ++ b = a ++ v ++ b → u = v := by
    intro a b u v h
    rwa [String.append_left_inj, String.append_right_inj] at h
  have hquote := cancel _ _ _ _ h
  rw [quote_text, quote_text, String.ofList_inj, List.cons_append, List.cons_append,
    List.cons.injEq] at hquote
  exact Ipv4.Addr.text_injective (String.toList_inj.mp (List.append_cancel_right hquote.2))

section Coredns

variable {isPrint : Char → Bool} {runtime : Runtime}

theorem declaredAddons_none {charts : List AddonChartSpec} {name : String}
    (h : ∀ c ∈ charts, c.name ≠ name) : (declaredAddons charts)[name]? = none := by
  rw [declaredAddons, GoMap.getElem?_setAll_of_not_mem]
  · simp
  · intro hmem
    simp only [List.map_map, List.mem_map, Function.comp_apply] at hmem
    obtain ⟨c, hc, hname⟩ := hmem
    exact h c hc hname

/-- Without an entry for it, the CoreDNS chart is the one that comes with the control plane. -/
theorem corednsAddress_of_noCoredns (ob : GoMap.RangeOrder BuildInChart)
    (od : GoMap.RangeOrder AddonChartSpec)
    (h : ∀ c ∈ runtime.spec.cluster.addons.charts, c.name ≠ "coredns") :
    CorednsAddress isPrint (consolidateAddons isPrint ob od runtime) clusterDNSIP := by
  have hdeclared := declaredAddons_none h
  have hbuild : (buildInAddons isPrint)["coredns"]? =
      some { enabled := true, chart := corednsChart isPrint } := by
    rw [buildInAddons_getElem?]
    rfl
  have hchart : consolidateBuildIn runtime (declaredAddons runtime.spec.cluster.addons.charts)
      "coredns" { enabled := true, chart := corednsChart isPrint } =
        some (corednsChart isPrint) := by
    simp only [consolidateBuildIn, hdeclared, if_true]
  constructor
  · refine ⟨setImage runtime.spec.cluster.addons.image (corednsChart isPrint),
      mem_consolidateAddons.mpr ⟨_, rfl, Or.inl ⟨_, _, hbuild, hchart⟩⟩, ?_⟩
    rw [setImage_name]
    rfl
  · intro c hc hname
    obtain ⟨chart, rfl, hfrom⟩ := mem_consolidateAddons.mp hc
    rw [setImage_name] at hname
    rw [setImage_content]
    rcases hfrom with ⟨name, buildIn, hbuildIn, hchart'⟩ | ⟨name, addon, -, hchart'⟩
    · have hname' := name_of_consolidateBuildIn (name_of_buildInAddons hbuildIn) hchart'
      obtain rfl : name = "coredns" := hname'.symm.trans hname
      rw [hbuild] at hbuildIn
      cases hbuildIn
      rw [hchart] at hchart'
      cases hchart'
      rfl
    · obtain ⟨hname', hnone⟩ := of_consolidateDeclared hchart'
      obtain rfl : name = "coredns" := hname'.symm.trans hname
      rw [hbuild] at hnone
      cases hnone

end Coredns

/-! ## When the constants fit -/

/-- The constants lie in the range, or the user has supplied the missing name. -/
def ConstantsFit (runtime : Runtime) (range : Ipv4.Cidr) : Prop :=
  range.Contains dnsServerIP ∧
    (range.first = kubernetesServiceIP ∨ range.first.text ∈ runtime.spec.cluster.apiServer.sans ∨
      range.first.text = runtime.spec.cluster.controlPlaneExternalEndpoint.apiServer.host)

/-- Of the fixed names of the certificate only one can be the first address of a range that holds
the address of the DNS server. -/
theorem first_mem_altNames_iff {runtime : Runtime} {range : Ipv4.Cidr}
    (hsize : 16 ≤ range.size) (hdns : range.Contains dnsServerIP) :
    range.first.text ∈ apiServerAltNames runtime ↔
      range.first = kubernetesServiceIP ∨ range.first.text ∈ runtime.spec.cluster.apiServer.sans ∨
      range.first.text = runtime.spec.cluster.controlPlaneExternalEndpoint.apiServer.host := by
  have hfirst := range.toNat_first (by omega)
  have hnet := hdns.network_le
  have hne : range.first.text ≠ "" := by
    intro h
    have hparse := Ipv4.parseAddr_text range.first
    have hnone : Ipv4.parseAddr "".toList = none := by decide
    rw [h, hnone] at hparse
    cases hparse
  -- the address of another constant is too large or too small
  have hloop : range.first.text ≠ "127.0.0.1" := by
    rw [show "127.0.0.1" = (⟨127, 0, 0, 1⟩ : Ipv4.Addr).text by decide]
    intro h
    rw [Ipv4.Addr.text_injective h] at hfirst
    have hval : (⟨127, 0, 0, 1⟩ : Ipv4.Addr).toNat = 2130706433 := by decide
    have hdnsval : dnsServerIP.toNat = 174063626 := by decide
    omega
  have hzero : range.first.text ≠ "0.0.0.0" := by
    rw [show "0.0.0.0" = (⟨0, 0, 0, 0⟩ : Ipv4.Addr).text by decide]
    intro h
    rw [Ipv4.Addr.text_injective h] at hfirst
    have hval : (⟨0, 0, 0, 0⟩ : Ipv4.Addr).toNat = 0 := by decide
    omega
  have hservice : range.first.text = "10.96.0.1" ↔ range.first = kubernetesServiceIP := by
    rw [← text_kubernetesServiceIP]
    exact ⟨Ipv4.Addr.text_injective, congrArg _⟩
  -- and a text with letters is not an address
  have hletter : ∀ s : String, 'e' ∈ s.toList → range.first.text ≠ s := fun s hs =>
    Ipv4.Addr.text_ne hs (by decide) (by decide)
  have hfqdn : range.first.text ≠ runtime.name ++ "." ++ runtime.ns ++ ".svc.cluster.local" :=
    hletter _ (by simp)
  rw [mem_apiServerAltNames, and_iff_right hne]
  simp only [List.mem_cons, List.not_mem_nil, or_false, hloop, hzero, hservice, hfqdn,
    hletter "kubernetes" (by decide), hletter "kubernetes.default" (by decide),
    hletter "kubernetes.default.svc" (by decide), hletter "kubernetes.default.cluster" (by decide),
    hletter "server.kubernetes.local" (by decide),
    hletter "api-server.kubernetes.local" (by decide), false_or]
  exact or_left_comm

theorem SelfConsistent.contains_dns {isPrint : Char → Bool} {o : Orders}
    {layout : ControlPlaneLayout} {runtime : Runtime} {cfg : NodeProfileConfig}
    {ob : GoMap.RangeOrder BuildInChart} {od : GoMap.RangeOrder AddonChartSpec}
    {range : Ipv4.Cidr} (hplain : Plain runtime range)
    (h : SelfConsistent isPrint o layout runtime cfg (consolidateAddons isPrint ob od runtime)) :
    range.Contains dnsServerIP ∧ range.first.text ∈ apiServerAltNames runtime := by
  obtain ⟨text, range', dns, htext, hrange, hfirst, -, hcoredns, hcontains⟩ := h
  rw [serviceRange_eq o layout runtime hplain.noArg] at htext
  cases htext
  rw [hplain.range_eq] at hrange
  cases hrange
  -- the values of the chart determine the address
  have hvalues : CorednsAddress isPrint (consolidateAddons isPrint ob od runtime) clusterDNSIP :=
    corednsAddress_of_noCoredns ob od hplain.noCoredns
  obtain ⟨⟨c, hc, hname⟩, hcontent⟩ := hvalues
  have heq := (hcoredns.2 c hc hname).symm.trans (hcontent c hc hname)
  rw [← text_dnsServerIP] at heq
  rw [← corednsValues_injective heq]
  exact ⟨hcontains, hfirst⟩

/-- **The documents fit together exactly when the constants lie in the service range**, the first
address being the one in the certificate or one the user has added to it. -/
theorem selfConsistent_iff (isPrint : Char → Bool) (yaml : Yaml) (wrkCtx : WorkerContext)
    (o : Orders) (layout : ControlPlaneLayout) (ob : GoMap.RangeOrder BuildInChart)
    (od : GoMap.RangeOrder AddonChartSpec) {runtime : Runtime} {range : Ipv4.Cidr}
    {cfg : NodeProfileConfig} (hplain : Plain runtime range)
    (hcfg : getNodeProfileConfig yaml wrkCtx runtime = .ok cfg) :
    SelfConsistent isPrint o layout runtime cfg (consolidateAddons isPrint ob od runtime) ↔
      ConstantsFit runtime range := by
  constructor
  · intro h
    obtain ⟨hdns, hfirst⟩ := h.contains_dns hplain
    exact ⟨hdns, (first_mem_altNames_iff hplain.size hdns).mp hfirst⟩
  · rintro ⟨hdns, hfirst⟩
    refine ⟨_, range, dnsServerIP, serviceRange_eq o layout runtime hplain.noArg, hplain.range_eq,
      (first_mem_altNames_iff hplain.size hdns).mpr hfirst, ?_, ?_, hdns⟩
    · rw [text_dnsServerIP]
      exact kubeletDNS_of_config hcfg
    · rw [text_dnsServerIP]
      exact corednsAddress_of_noCoredns ob od hplain.noCoredns

/-- A Runtime that sets only what is required and the service range. -/
def withServiceCIDR (cidr : String) : Runtime :=
  let runtime : Runtime := .minimal "tenant" "default"
  { runtime with spec.cluster.network.serviceCIDR := cidr }

/-- A YAML library that writes every map of strings as an empty one and nothing else. -/
def emptyYaml : Yaml where
  marshalMap := fun _ => .ok "\x7b\x7d\n"
  marshal := fun _ => .error (errorf "not a map of strings")
  unmarshal := fun _ => .error (errorf "not a map of strings")
  yamlToJSON := fun _ => .error (errorf "not a map of strings")
  jsonToYAML := fun _ => .error (errorf "not a map of strings")
  mergePatch := fun _ _ => .error (errorf "not a map of strings")

theorem plain_withServiceCIDR {cidr : String} {range : Ipv4.Cidr}
    (hrange : Ipv4.parseCIDR cidr = some range) (hsize : 16 ≤ range.size) :
    Plain (withServiceCIDR cidr) range where
  range_eq := hrange
  size := hsize
  noPatch := rfl
  noArg := rfl
  noCoredns := fun c hc => by cases hc

theorem default_range_selfConsistent :
    ∃ cfg, getNodeProfileConfig emptyYaml newWorkerContextWithDefaults
        (withServiceCIDR "10.96.0.0/16") = .ok cfg ∧
      SelfConsistent (fun _ => true) (fun _ => .byKey) newControlPlaneLayout
        (withServiceCIDR "10.96.0.0/16") cfg
        (consolidateAddons (fun _ => true) .byKey .byKey (withServiceCIDR "10.96.0.0/16")) := by
  have hplain : Plain (withServiceCIDR "10.96.0.0/16") ⟨⟨10, 96, 0, 0⟩, 16, by decide⟩ :=
    plain_withServiceCIDR (by decide) (by decide)
  refine ⟨_, rfl, (selfConsistent_iff _ emptyYaml newWorkerContextWithDefaults _ _ _ _ hplain rfl).mpr ?_⟩
  exact ⟨by decide, Or.inl (by decide)⟩

/-- With the service range 10.100.0.0/16 the certificate lacks 10.100.0.1 and the DNS server is given
an address outside the range. -/
theorem other_range_not_selfConsistent :
    ∃ cfg, getNodeProfileConfig emptyYaml newWorkerContextWithDefaults
        (withServiceCIDR "10.100.0.0/16") = .ok cfg ∧
      Plain (withServiceCIDR "10.100.0.0/16") ⟨⟨10, 100, 0, 0⟩, 16, by decide⟩ ∧
      "10.100.0.1" ∉ apiServerAltNames (withServiceCIDR "10.100.0.0/16") ∧
      ¬ SelfConsistent (fun _ => true) (fun _ => .byKey) newControlPlaneLayout
        (withServiceCIDR "10.100.0.0/16") cfg
        (consolidateAddons (fun _ => true) .byKey .byKey (withServiceCIDR "10.100.0.0/16")) := by
  have hplain : Plain (withServiceCIDR "10.100.0.0/16") ⟨⟨10, 100, 0, 0⟩, 16, by decide⟩ :=
    plain_withServiceCIDR (by decide) (by decide)
  have hfirst : "10.100.0.1" ∉ apiServerAltNames (withServiceCIDR "10.100.0.0/16") := by
    rw [mem_apiServerAltNames]
    decide
  refine ⟨_, rfl, hplain, hfirst, fun h => ?_⟩
  exact absurd (h.contains_dns hplain).1 (by decide)

end Heir.Runtime
