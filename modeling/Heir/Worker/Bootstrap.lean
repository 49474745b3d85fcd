import Heir.Worker.Join

set_option autoImplicit false

/-! # Joining again after a rejected token

`SaveBootstrapKubeconfig` writes the bootstrap kubeconfig as soon as the token could be decoded and
parsed, and only then looks for the current context and the CA. A token without them is rejected and
leaves its kubeconfig behind. `BootstrapKubeletClientConfig` goes by the existence of that file, so it
takes the rejected kubeconfig for an accepted one and never looks at the token of the next attempt
(`rejected_token_kept`).

Every other rejected token leaves the disk alone, and the results below say so for one call and for
any number of joins (`rejected_join_iff`).
-/

namespace Heir.Worker.Join

open Heir.ControlPlane Heir.Core Heir.Runtime Heir.Bootstrap Interact

/-! ## Functions -/

/-- The fields of `WorkerContext` that joining reads. -/
structure JoinContext where
  token : String := ""
  kubeletBootstrapKubeconfigPath : String := "/etc/heir/kubelet/bootstrap-kubeconfig.conf"
  kubeletKubeConfigPath : String := "/etc/heir/kubelet/config.yaml"
  kubeletPKICaCertPath : String := "/etc/heir/pki/ca.crt"

/-- A function that runs on the worker, on a disk that does what it is asked for. -/
abbrev Host (α : Type) : Type := Files → Except Fault α × Files

/-- A function is run and its error wrapped. -/
def wrapped {α : Type} (context : String) (p : Host α) : Host α := fun files =>
  match p files with
  | (.error (.error e), files') => (.error (.error (e.wrap context)), files')
  | r => r

variable (libs : Libs)

/-- `SaveBootstrapKubeconfig` for the paths of the context. It visits no map. -/
def save (ctx : JoinContext) : Host Unit :=
  runOn default
    (saveBootstrapKubeconfig libs ctx.token ctx.kubeletBootstrapKubeconfigPath
      ctx.kubeletPKICaCertPath)

/-- `Join`, with what it does after the token is saved, the installation, as a parameter. The
directories it creates first are not kept by the disk. -/
def join (install : Host Unit) (ctx : JoinContext) : Host Unit := fun files =>
  match wrapped "failed to save bootstrap kubeconfig" (save libs ctx) files with
  | (.ok (), files') => install files'
  | (.error e, files') => (.error e, files')

def fileExists (filename : String) (files : Files) : Bool := (files filename).isSome

/-- The cases of the `switch` in `BootstrapKubeletClientConfig`. -/
inductive BootstrapCase where
  | alreadyBootstrapped
  | bootstrapKubeconfigExists
  | joinTokenGiven
  | nothingGiven
  deriving DecidableEq, Repr

def bootstrapCase (ctx : JoinContext) (files : Files) : BootstrapCase :=
  if fileExists ctx.kubeletKubeConfigPath files then .alreadyBootstrapped
  else if fileExists ctx.kubeletBootstrapKubeconfigPath files then .bootstrapKubeconfigExists
  else if ctx.token ≠ "" then .joinTokenGiven
  else .nothingGiven

/-- `BootstrapKubeletClientConfig`, with the retried `LoadClientCert` as a parameter. -/
def bootstrapKubeletClientConfig (loadClientCert : Host Unit) (ctx : JoinContext) : Host Unit :=
  fun files =>
    let load := wrapped "failed to bootstrap client configuration" loadClientCert
    match bootstrapCase ctx files with
    | .alreadyBootstrapped => (.ok (), files)
    | .bootstrapKubeconfigExists => load files
    | .joinTokenGiven =>
        match wrapped "failed to save bootstrap kubeconfig" (save libs ctx) files with
        | (.ok (), files') => load files'
        | (.error e, files') => (.error e, files')
    | .nothingGiven => (.error (.error (errorf ("neither regular nor bootstrap kubeconfig files exist " ++
        "and no join token given; dunno how to make kubelet authenticate to API server"))), files)

/-! ## Tokens -/

/-- The token is a kubeconfig `raw` whose current context leads to a CA. -/
def Valid (token : String) (raw caData : Bytes) : Prop :=
  ∃ cfg ctx cluster, Base64.decode token = .ok raw ∧ libs.loadKubeconfig raw = .ok cfg ∧
    cfg.contexts[cfg.currentContext]? = some ctx ∧ cfg.clusters[ctx.cluster]? = some cluster ∧
    cluster.certificateAuthorityData = caData ∧ caData ≠ []

/-- The token is a kubeconfig `raw`, without a current context or without a CA in its cluster. -/
def Incomplete (token : String) (raw : Bytes) : Prop :=
  ∃ cfg, Base64.decode token = .ok raw ∧ libs.loadKubeconfig raw = .ok cfg ∧
    ∀ ctx, cfg.contexts[cfg.currentContext]? = some ctx →
      (cfg.clusters[ctx.cluster]?).elim [] KubeCluster.certificateAuthorityData = []

variable {libs}

theorem Incomplete.not_valid {token : String} {raw raw' caData : Bytes}
    (h : Incomplete libs token raw) : ¬ Valid libs token raw' caData := by
  rintro ⟨cfg, ctx, cluster, hdecode, hload, hctx, hcluster, hca, hne⟩
  obtain ⟨cfg', hdecode', hload', hall⟩ := h
  obtain rfl : raw' = raw := Except.ok.inj (hdecode.symm.trans hdecode')
  obtain rfl : cfg = cfg' := Except.ok.inj (hload.symm.trans hload')
  have hempty := hall ctx hctx
  rw [hcluster] at hempty
  exact hne (hca ▸ hempty)

theorem Incomplete.raw_unique {token : String} {raw raw' : Bytes} (h : Incomplete libs token raw)
    (h' : Incomplete libs token raw') : raw = raw' := by
  obtain ⟨_, hdecode, _⟩ := h
  obtain ⟨_, hdecode', _⟩ := h'
  exact Except.ok.inj (hdecode.symm.trans hdecode')

/-! ## What saving a token leaves -/

/-- The outcomes of `SaveBootstrapKubeconfig`: nothing is written, the kubeconfig is, or both files
are. -/
inductive SaveOutcome (libs : Libs) (ctx : JoinContext) (files : Files) :
    Except Fault Unit × Files → Prop where
  | unreadable (e : Fault) (hnot : ∀ raw, ¬ Incomplete libs ctx.token raw) :
      SaveOutcome libs ctx files (.error e, files)
  | incomplete (e : Fault) {raw : Bytes} (h : Incomplete libs ctx.token raw) :
      SaveOutcome libs ctx files (.error e, writeTo ctx.kubeletBootstrapKubeconfigPath raw files)
  | valid {raw caData : Bytes} (h : Valid libs ctx.token raw caData) :
      SaveOutcome libs ctx files (.ok (), writeTo ctx.kubeletPKICaCertPath caData
        (writeTo ctx.kubeletBootstrapKubeconfigPath raw files))

theorem save_outcome (libs : Libs) (ctx : JoinContext) (files : Files) :
    SaveOutcome libs ctx files (save libs ctx files) := by
  unfold save saveBootstrapKubeconfig
  cases hdecode : Base64.decode ctx.token with
  | error place =>
      refine .unreadable _ fun raw h => ?_
      obtain ⟨_, hdecode', _⟩ := h
      rw [hdecode] at hdecode'
      cases hdecode'
  | ok raw =>
      dsimp only
      cases hload : libs.loadKubeconfig raw with
      | error e =>
          refine .unreadable _ fun raw' h => ?_
          obtain ⟨_, hdecode', hload', _⟩ := h
          obtain rfl : raw = raw' := Except.ok.inj (hdecode.symm.trans hdecode')
          rw [hload] at hload'
          cases hload'
      | ok cfg =>
          -- from here on the kubeconfig is written
          dsimp only
          cases hctx : cfg.contexts[cfg.currentContext]? with
          | none =>
              refine .incomplete _ ⟨cfg, hdecode, hload, fun c hc => ?_⟩
              rw [hctx] at hc
              cases hc
          | some c =>
              dsimp only
              by_cases hca :
                  (cfg.clusters[c.cluster]?).elim [] KubeCluster.certificateAuthorityData = []
              · rw [if_pos hca]
                refine .incomplete _ ⟨cfg, hdecode, hload, fun c' hc' => ?_⟩
                rw [hctx] at hc'
                cases hc'
                exact hca
              · rw [if_neg hca]
                cases hcluster : cfg.clusters[c.cluster]? with
                | none =>
                    rw [hcluster] at hca
                    exact absurd rfl hca
                | some cluster =>
                    rw [hcluster] at hca
                    exact .valid ⟨cfg, c, cluster, hdecode, hload, hctx, hcluster, rfl, hca⟩

/-- A token is accepted, or neither file is created or changed. -/
def Atomic (libs : Libs) (ctx : JoinContext) (files : Files) : Prop :=
  (save libs ctx files).1 = .ok () ∨
    (save libs ctx files).2 ctx.kubeletBootstrapKubeconfigPath =
        files ctx.kubeletBootstrapKubeconfigPath ∧
      (save libs ctx files).2 ctx.kubeletPKICaCertPath = files ctx.kubeletPKICaCertPath

theorem writeTo_eq_self {path : String} {data : Bytes} {files : Files}
    (h : files path = some data) : writeTo path data files = files := by
  funext p
  unfold writeTo
  by_cases hp : p = path
  · rw [if_pos hp, hp, h]
  · rw [if_neg hp]

theorem atomic_iff (ctx : JoinContext) (files : Files) :
    Atomic libs ctx files ↔ ∀ raw, Incomplete libs ctx.token raw →
      files ctx.kubeletBootstrapKubeconfigPath = some raw := by
  have hout := save_outcome libs ctx files
  unfold Atomic
  generalize save libs ctx files = r at hout
  cases hout with
  | unreadable e hnot =>
      constructor
      · exact fun _ raw h => absurd h (hnot raw)
      · exact fun _ => .inr ⟨rfl, rfl⟩
  | incomplete e h =>
      constructor
      · intro hatomic raw' h'
        rw [← h.raw_unique h']
        rcases hatomic with hok | ⟨hdst, -⟩
        · cases hok
        · rw [← hdst]
          exact if_pos rfl
      · intro hkept
        have hsame := writeTo_eq_self (hkept _ h)
        exact .inr ⟨congrFun hsame _, congrFun hsame _⟩
  | valid h =>
      constructor
      · exact fun _ raw' h' => absurd h h'.not_valid
      · exact fun _ => .inl rfl

/-! ## Any number of rejected joins -/

/-- The worker has no kubeconfig, neither for the kubelet nor for its bootstrap. -/
def Clean (ctx : JoinContext) (files : Files) : Prop :=
  files ctx.kubeletKubeConfigPath = none ∧ files ctx.kubeletBootstrapKubeconfigPath = none

/-- Joins with these tokens lead from `files` to `files'`, and every token is rejected. -/
inductive RejectedJoins (libs : Libs) (install : Host Unit) (ctx : JoinContext) :
    Files → List String → Files → Prop where
  | nil (files : Files) : RejectedJoins libs install ctx files [] files
  | cons {files files' : Files} {token : String} {tokens : List String} {e : Fault}
      (hrejected : (save libs { ctx with token := token } files).1 = .error e)
      (hrest : RejectedJoins libs install ctx (join libs install { ctx with token := token } files).2
        tokens files') :
      RejectedJoins libs install ctx files (token :: tokens) files'

theorem wrapped_snd {α : Type} (context : String) (p : Host α) (files : Files) :
    (wrapped context p files).2 = (p files).2 := by
  unfold wrapped
  split
  · next heq => rw [heq]
  · rfl

theorem join_rejected {install : Host Unit} {ctx : JoinContext} {files : Files} {e : Fault}
    (h : (save libs ctx files).1 = .error e) :
    (join libs install ctx files).2 = (save libs ctx files).2 := by
  have hsnd := wrapped_snd "failed to save bootstrap kubeconfig" (save libs ctx) files
  unfold join
  split
  · next files' heq =>
      -- an error that is wrapped is an error
      exfalso
      unfold wrapped at heq
      split at heq
      · cases heq
      · next r _ =>
          rw [heq] at h
          cases h
  · next e' files' heq =>
      rw [heq] at hsnd
      exact hsnd

/-- After rejected joins the kubeconfigs are missing if they were before and no token was
incomplete. -/
theorem clean_iff_of_rejected {install : Host Unit} {ctx : JoinContext} {files files' : Files}
    {tokens : List String} (hrun : RejectedJoins libs install ctx files tokens files') :
    Clean ctx files' ↔ Clean ctx files ∧ ∀ t ∈ tokens, ∀ raw, ¬ Incomplete libs t raw := by
  -- induction over the joins; one join either leaves the disk alone or writes the kubeconfig
  induction hrun with
  | nil files => simp
  | @cons files files' token tokens e hrejected _ ih =>
      rw [ih, join_rejected hrejected, List.forall_mem_cons]
      have hout := save_outcome libs { ctx with token := token } files
      generalize save libs { ctx with token := token } files = r at hout hrejected
      cases hout with
      | unreadable e' hnot =>
          constructor
          · exact fun ⟨hclean, hrest⟩ => ⟨hclean, hnot, hrest⟩
          · exact fun ⟨hclean, _, hrest⟩ => ⟨hclean, hrest⟩
      | incomplete e' h =>
          constructor
          · intro ⟨hclean, _⟩
            have hwritten : writeTo ctx.kubeletBootstrapKubeconfigPath _ files
                ctx.kubeletBootstrapKubeconfigPath = none := hclean.2
            rw [writeTo, if_pos rfl] at hwritten
            cases hwritten
          · exact fun ⟨_, hnone, _⟩ => absurd h (hnone _)
      | valid h => cases hrejected

theorem bootstrapCase_joinTokenGiven_iff (ctx : JoinContext) (files : Files) :
    bootstrapCase ctx files = .joinTokenGiven ↔ Clean ctx files ∧ ctx.token ≠ "" := by
  unfold bootstrapCase fileExists Clean
  cases files ctx.kubeletKubeConfigPath with
  | some data => simp
  | none =>
      cases files ctx.kubeletBootstrapKubeconfigPath with
      | some data => simp
      | none =>
          by_cases htoken : ctx.token = ""
          · simp [htoken]
          · simp [htoken]

/-- In that case a valid token is what the client certificate is requested with. -/
theorem bootstrapKubeletClientConfig_saves {loadClientCert : Host Unit} {ctx : JoinContext}
    {files : Files} (hcase : bootstrapCase ctx files = .joinTokenGiven) {raw caData : Bytes}
    (hvalid : Valid libs ctx.token raw caData) :
    bootstrapKubeletClientConfig libs loadClientCert ctx files =
      wrapped "failed to bootstrap client configuration" loadClientCert
        (writeTo ctx.kubeletPKICaCertPath caData
          (writeTo ctx.kubeletBootstrapKubeconfigPath raw files)) := by
  have hsave : save libs ctx files = (.ok (), writeTo ctx.kubeletPKICaCertPath caData
      (writeTo ctx.kubeletBootstrapKubeconfigPath raw files)) := by
    obtain ⟨cfg, c, cluster, hdecode, hload, hctx, hcluster, hca, hne⟩ := hvalid
    have hdata : (cfg.clusters[c.cluster]?).elim [] KubeCluster.certificateAuthorityData = caData := by
      rw [hcluster]
      exact hca
    simp only [save, saveBootstrapKubeconfig, hdecode, hload, hctx]
    rw [hdata, if_neg hne]
    rfl
  simp only [bootstrapKubeletClientConfig, hcase, wrapped, hsave]

/-- **Rejected tokens.** A token is saved or leaves both files as they were, if and only if it is not
an incomplete kubeconfig, or its kubeconfig is in the file already. And after any number of rejected
joins on a clean worker, `BootstrapKubeletClientConfig` with a token saves that token, if and only if
none of the rejected ones was an incomplete kubeconfig. -/
theorem rejected_join_iff (libs : Libs) (ctx : JoinContext) (files : Files) :
    (Atomic libs ctx files ↔ ∀ raw, Incomplete libs ctx.token raw →
      files ctx.kubeletBootstrapKubeconfigPath = some raw) ∧
    ∀ install tokens files', Clean ctx files → ctx.token ≠ "" →
      RejectedJoins libs install ctx files tokens files' →
        (bootstrapCase ctx files' = .joinTokenGiven ↔
          ∀ t ∈ tokens, ∀ raw, ¬ Incomplete libs t raw) := by
  refine ⟨atomic_iff ctx files, fun install tokens files' hclean htoken hrun => ?_⟩
  rw [bootstrapCase_joinTokenGiven_iff, clean_iff_of_rejected hrun]
  constructor
  · exact fun ⟨⟨_, hnone⟩, _⟩ => hnone
  · exact fun hnone => ⟨⟨hclean, hnone⟩, htoken⟩

/-- A host whose installation never comes to its turn. -/
def noInstall : Host Unit := fun files => (.ok (), files)

/-- After a token that is not base64 the next token is saved. -/
theorem token_after_garbage :
    bootstrapCase { token := "dG9rZW4=" } (join sampleLibs noInstall { token := "?" } fun _ => none).2 =
      .joinTokenGiven := by
  have hnone : ∀ t ∈ ["?"], ∀ raw, ¬ Incomplete sampleLibs t raw := by
    intro t ht raw h
    obtain rfl := List.mem_singleton.mp ht
    obtain ⟨_, hdecode, _⟩ := h
    cases hdecode
  have hrun : RejectedJoins sampleLibs noInstall { token := "dG9rZW4=" } (fun _ => none) ["?"]
      (join sampleLibs noInstall { token := "?" } fun _ => none).2 :=
    .cons rfl (.nil _)
  exact ((rejected_join_iff sampleLibs { token := "dG9rZW4=" } fun _ => none).2 noInstall ["?"] _
    ⟨rfl, rfl⟩ (by decide) hrun).mpr hnone

/-- A kubeconfig without a current context. -/
def bareText : String := "apiVersion: v1\nkind: Config\n"

/-- The kubeconfig of a join token. -/
def tokenText : String :=
  "apiVersion: v1\nkind: Config\nclusters:\n- name: bootstrap\n  cluster:\n" ++
  "    server: https://cp.example.com:6443\n    certificate-authority-data: AQ==\n" ++
  "users:\n- name: tls-bootstrap-token-user\n  user:\n    token: token\n" ++
  "contexts:\n- name: bootstrap\n  context:\n    cluster: bootstrap\n" ++
  "    user: tls-bootstrap-token-user\ncurrent-context: bootstrap\n"

/-- The loader on these two texts. -/
def contextLibs : Libs where
  loadKubeconfig := fun raw =>
    if raw = bytes tokenText then .ok (bootstrapConfig "token" [1] "https://cp.example.com:6443")
    else if raw = bytes bareText then
      .ok { clusters := ∅, authInfos := ∅, contexts := ∅, currentContext := "" }
    else .error (errorf "yaml: not a kubeconfig")
  parseURL := sampleLibs.parseURL
  dir := sampleLibs.dir
  isPrint := sampleLibs.isPrint

/-- A kubeconfig without a current context is rejected, and stays: the worker then bootstraps with it
and never looks at the token it is given, though that one is valid. -/
theorem rejected_token_kept :
    ∃ e, join contextLibs noInstall { token := Base64.encode (bytes bareText) } (fun _ => none) =
        (.error e,
          writeTo "/etc/heir/kubelet/bootstrap-kubeconfig.conf" (bytes bareText) fun _ => none) ∧
      Valid contextLibs (Base64.encode (bytes tokenText)) (bytes tokenText) [1] ∧
      bootstrapCase { token := Base64.encode (bytes tokenText) }
        (join contextLibs noInstall { token := Base64.encode (bytes bareText) } fun _ => none).2 =
          .bootstrapKubeconfigExists := by
  have hctx : (bootstrapConfig "token" [1] "https://cp.example.com:6443").contexts["bootstrap"]? =
      some ⟨"bootstrap", "tls-bootstrap-token-user"⟩ := Std.ExtTreeMap.getElem?_insert_self
  have hcluster : (bootstrapConfig "token" [1] "https://cp.example.com:6443").clusters["bootstrap"]? =
      some ⟨"https://cp.example.com:6443", [1]⟩ := Std.ExtTreeMap.getElem?_insert_self
  have hjoin : join contextLibs noInstall { token := Base64.encode (bytes bareText) } (fun _ => none) =
      (.error (.error ((errorf "bootstrap kubeconfig has no current context").wrap
          "failed to save bootstrap kubeconfig")),
        writeTo "/etc/heir/kubelet/bootstrap-kubeconfig.conf" (bytes bareText) fun _ => none) := by
    have hempty : (∅ : GoMap KubeContext)[""]? = none := Std.ExtTreeMap.getElem?_empty
    have hload : contextLibs.loadKubeconfig (bytes bareText) =
        .ok { clusters := ∅, authInfos := ∅, contexts := ∅, currentContext := "" } := by
      have hne : bytes bareText ≠ bytes tokenText := by decide +kernel
      simp only [contextLibs, if_neg hne, if_true]
    simp only [join, wrapped, save, saveBootstrapKubeconfig, Base64.decode_encode, hload, hempty]
    rfl
  have hvalid : contextLibs.loadKubeconfig (bytes tokenText) =
      .ok (bootstrapConfig "token" [1] "https://cp.example.com:6443") := by
    simp only [contextLibs, if_pos]
  refine ⟨_, hjoin, ⟨_, _, _, Base64.decode_encode _, hvalid, hctx, hcluster, rfl, by decide⟩, ?_⟩
  rw [hjoin]
  rfl

end Heir.Worker.Join
