/-
  FabEdge.Operator.Complete — `Options.Complete` (lines 151–288), with `initAPIClient` and
  `createTLSSecretForClient` (lines 626–697), and `RunManager` (lines 409–428): how the operator
  wires its collaborators before the controllers run.

  `Complete` has a pointer receiver, so whatever it assigns before it returns stays assigned,
  error or not.  Such code is an `EStateM` over `Wiring`: the flag values it rewrites, which of
  the collaborators it assigns are set, and the requests it has sent.  The constructors it calls
  (`allocator.New`, `config.GetConfig`, `client.New`, `manager.New`, the certificate managers,
  `apiserver.New`, `tls.LoadX509KeyPair`, and the client calls of `initAPIClient`) are not in the
  sources: each is an input, `some err` for an error and `none` for nil, and a constructor that
  fails leaves its field nil.  The requests made through the clients `Complete` holds (the kube
  client's `Get` and `Create` of secrets, and `fclient`'s calls to the host) are recorded in the
  order they are made.

  One return differs from the others.  When `config.GetConfig` fails, line 184 logs the error and
  returns nil, before `manager.New` has run: `Complete` reports success with no controller
  manager, and the first statement of `RunManager` calls `Add` on the nil interface.

  Main results:
    * `complete_ok_iff` — when `Complete` returns nil: the trimmed CNI type is Calico, with an
      allocator, or Flannel, and then either the kubeconfig fails to load or every later
      constructor of the cluster's role succeeds,
    * `complete_unknownCNI` — any other CNI type is refused with `unknown CNI: <type>`,
    * `complete_wired` — after a nil return with the kubeconfig loaded, every collaborator the
      later stages call is set, and on Calico edge IPAM is on,
    * `complete_sent` — the requests sent through the kube client and `fclient`, in order: a
      host reads its CA secret; a member fetches the CA certificate, reads its client secret,
      and enrolls with its init token, for `<cluster>.fabedge-client`, exactly when that secret
      is missing,
    * `runManager_complete_panics_iff` — after a nil return, `RunManager` panics exactly when
      the kubeconfig failed to load.
-/
import FabEdge.Operator.Options

namespace FabEdge.Operator

open FabEdge.Go

/-! ## §1. `strings.TrimSpace` and the CNI types. -/

/-- `unicode.IsSpace`: the Latin-1 spaces `'\t'`, `'\n'`, `'\v'`, `'\f'`, `'\r'`, `' '`, U+0085
    and U+00A0, then the other code points of the `White_Space` property. -/
def isSpace (c : Char) : Bool :=
  if c.toNat ≤ 0xFF then
    c = '\t' || c = '\n' || c.toNat = 0x0B || c.toNat = 0x0C || c = '\r' || c = ' ' ||
      c.toNat = 0x85 || c.toNat = 0xA0
  else
    c.toNat = 0x1680 || (0x2000 ≤ c.toNat && c.toNat ≤ 0x200A) || c.toNat = 0x2028 ||
      c.toNat = 0x2029 || c.toNat = 0x202F || c.toNat = 0x205F || c.toNat = 0x3000

/-- `strings.TrimSpace`: the text without its leading and trailing white space.  Its ASCII fast
    path trims the same characters. -/
def trimSpace (s : String) : String :=
  ⟨((s.data.dropWhile isSpace).reverse.dropWhile isSpace).reverse⟩

/-- `constants.CNICalico`; the constants package is not in the sources, and the value is the
    one the `--cni-type` flag takes. -/
def cniCalico : String := "calico"

/-- `constants.CNIFlannel`, as `cniCalico`. -/
def cniFlannel : String := "flannel"

theorem cniCalico_ne_cniFlannel : cniCalico ≠ cniFlannel := by decide

/-- White space in front of a text that starts with something else is all `dropWhile` drops. -/
theorem dropWhile_pad {p : Char → Bool} {a t : List Char} (ha : ∀ c ∈ a, p c)
    {c : Char} (hc : t.head? = some c) (hpc : p c = false) : (a ++ t).dropWhile p = t := by
  induction a with
  | nil =>
      obtain ⟨t', rfl⟩ : ∃ t', t = c :: t' := by
        cases t with
        | nil => cases hc
        | cons d t' => cases hc; exact ⟨t', rfl⟩
      simp [List.dropWhile_cons, hpc]
  | cons x a ih =>
      rw [List.cons_append, List.dropWhile_cons_of_pos (ha x (List.mem_cons_self x a))]
      exact ih fun c hc => ha c (List.mem_cons_of_mem x hc)

/-- **What trims to a word**: a text trims to `t`, which neither starts nor ends with white space,
    exactly when it is `t` with white space around it.  So the switch of `Complete` accepts
    `calico` and `flannel` with any white space around them, and nothing else. -/
theorem trimSpace_eq_iff {s t : String} {c d : Char} (hc : t.data.head? = some c)
    (hcs : isSpace c = false) (hd : t.data.getLast? = some d) (hds : isSpace d = false) :
    trimSpace s = t ↔ ∃ a b : List Char, (∀ x ∈ a, isSpace x) ∧ (∀ x ∈ b, isSpace x) ∧
      s.data = a ++ t.data ++ b := by
  constructor
  · rintro rfl
    have hr : ∀ r : List Char,
        r = (r.reverse.dropWhile isSpace).reverse ++ (r.reverse.takeWhile isSpace).reverse :=
      fun r => by rw [← List.reverse_append, List.takeWhile_append_dropWhile, List.reverse_reverse]
    refine ⟨s.data.takeWhile isSpace, ((s.data.dropWhile isSpace).reverse.takeWhile isSpace).reverse,
      fun x hx => List.mem_takeWhile_imp hx,
      fun x hx => List.mem_takeWhile_imp (List.mem_reverse.1 hx), ?_⟩
    conv_lhs => rw [← List.takeWhile_append_dropWhile isSpace s.data, hr (s.data.dropWhile isSpace)]
    rw [List.append_assoc]
    rfl
  · rintro ⟨a, b, ha, hb, hs⟩
    have h1 : s.data.dropWhile isSpace = t.data ++ b := by
      rw [hs, List.append_assoc]
      exact dropWhile_pad ha (by cases ht : t.data <;> simp_all) hcs
    have h2 : (b.reverse ++ t.data.reverse).dropWhile isSpace = t.data.reverse :=
      dropWhile_pad (fun x hx => hb x (List.mem_reverse.1 hx)) (by rw [List.head?_reverse, hd]) hds
    rw [trimSpace, h1, List.reverse_append, h2, List.reverse_reverse]

example : trimSpace " calico\n" = cniCalico := by decide

/-! ## §2. The options `Complete` fills in. -/

/-- `ClientTLSSecretName`. -/
def clientTLSSecretName : String := "api-client-tls"

/-- The `certutil.Request` of `createTLSSecretForClient`: a common name and organizations. -/
structure CertRequest where
  commonName : String
  organization : List String
  deriving DecidableEq, Repr

/-- The request `createTLSSecretForClient` has signed: `<cluster>.fabedge-client`, in the
    operator's certificate organization. -/
def clientCertRequest (opts : Options) : CertRequest :=
  ⟨clientCommonName opts.cluster, [opts.certOrganization]⟩

/-- A request `Complete` makes through the clients it holds: the kube client, on secrets of
    `opts.Namespace`, and `fclient`, to the host's API server at `opts.APIServerAddress`.  What the
    constructors it calls do inside is theirs, and is not traced. -/
inductive Request where
  /-- `Get` of a secret: the CA secret in `createCertManager` (line 383), the API client's secret
      in `initAPIClient` (line 636). -/
  | getSecret (ns name : String)
  /-- `fclient.GetCertificate(opts.APIServerAddress)` (line 213): the host's CA certificate. -/
  | getCertificate (address : String)
  /-- `fclient.SignCertByToken(opts.APIServerAddress, opts.InitToken, csrDER, certPool)`
      (line 681): the host signs a certificate request on the strength of the init token. -/
  | signCertByToken (address token : String) (csr : CertRequest)
  /-- `kubeClient.Create` of a secret (line 695). -/
  | createSecret (ns name : String)
  deriving DecidableEq, Repr

/-- What a member's enrollment (`createTLSSecretForClient`) sends: the signature of its client
    certificate request, then the secret that stores it. -/
def enrollRequests (opts : Options) : List Request :=
  [.signCertByToken opts.apiServerAddress opts.initToken (clientCertRequest opts),
    .createSecret opts.ns clientTLSSecretName]

/-- `*Options` as `Complete` leaves it: the flag values, whether each collaborator it assigns is
    set (non-nil), and the requests sent so far, oldest first.  `allocator` is
    `opts.Agent.Allocator`, `apiClient` is `opts.APIClient`. -/
structure Wiring where
  opts : Options
  podCIDRStore : Bool
  allocator : Bool
  manager : Bool
  store : Bool
  apiServer : Bool
  apiClient : Bool
  sent : List Request
  deriving DecidableEq, Repr

/-- The options as the flags leave them: no collaborator set, nothing sent. -/
def Wiring.initial (opts : Options) : Wiring := ⟨opts, false, false, false, false, false, false, []⟩

/-! ## §3. Go code on `*Options`. -/

/-- Code run on `*Options`: an error is returned with the options as they were left. -/
abbrev GoM := EStateM Failure Wiring

/-- `if err != nil { return err }`. -/
def checkErr {m : Type → Type} [Monad m] [MonadExcept Failure m] (err : Option String) : m Unit :=
  match err with
  | some e => throw (.error e)
  | none => pure ()

/-- A request goes out. -/
def send (r : Request) : GoM Unit := modify fun w => { w with sent := w.sent ++ [r] }

/-! Running such code, over any state it is run on. -/

section Run

variable {σ α β : Type} {w w' w'' : σ}

theorem bind_run (x : EStateM Failure σ α) (f : α → EStateM Failure σ β) :
    (x >>= f) w = match x w with | .ok a w' => f a w' | .error e w' => .error e w' := by
  show EStateM.bind x f w = _
  unfold EStateM.bind
  cases x w <;> rfl

@[simp] theorem run_get_bind (k : σ → EStateM Failure σ α) : (get >>= k) w = k w w := rfl

@[simp] theorem run_modify_bind (f : σ → σ) (k : Unit → EStateM Failure σ α) :
    (modify f >>= k) w = k () (f w) := rfl

@[simp] theorem run_set_bind (k : Unit → EStateM Failure σ α) : (set w' >>= k) w = k () w' := rfl

@[simp] theorem run_throw_bind (e : Failure) (k : α → EStateM Failure σ β) :
    (throw e >>= k) w = .error e w := rfl

@[simp] theorem modify_run (f : σ → σ) : (modify f : EStateM Failure σ Unit) w = .ok () (f w) := rfl

@[simp] theorem set_run : (set w' : EStateM Failure σ Unit) w = .ok () w' := rfl

@[simp] theorem throw_run (e : Failure) : (throw e : EStateM Failure σ α) w = .error e w := rfl

@[simp] theorem pure_run (a : α) : (pure a : EStateM Failure σ α) w = .ok a w := rfl

@[simp] theorem checkErr_none {m : Type → Type} [Monad m] [MonadExcept Failure m] :
    (checkErr none : m Unit) = pure () := rfl

@[simp] theorem checkErr_some {m : Type → Type} [Monad m] [MonadExcept Failure m] (e : String) :
    (checkErr (some e) : m Unit) = throw (.error e) := rfl

theorem run_bind_eq_ok {x : EStateM Failure σ Unit} {k : Unit → EStateM Failure σ Unit} :
    (x >>= k) w = .ok () w'' ↔ ∃ w', x w = .ok () w' ∧ k () w' = .ok () w'' := by
  rw [bind_run]
  rcases x w with ⟨⟨⟩, w₁⟩ | ⟨e, w₁⟩ <;> simp

theorem run_bind_eq_error {x : EStateM Failure σ Unit} {k : Unit → EStateM Failure σ Unit}
    {e : Failure} : (x >>= k) w = .error e w'' ↔
      x w = .error e w'' ∨ ∃ w', x w = .ok () w' ∧ k () w' = .error e w'' := by
  rw [bind_run]
  rcases x w with ⟨⟨⟩, w₁⟩ | ⟨e', w₁⟩ <;> simp

theorem run_checkErr_eq_ok {e : Option String} :
    (checkErr e : EStateM Failure σ Unit) w = .ok () w' ↔ e = none ∧ w' = w := by
  cases e <;> simp [eq_comm]

theorem run_checkErr_bind_eq_ok {e : Option String} {k : Unit → EStateM Failure σ Unit} :
    (checkErr e >>= k) w = .ok () w' ↔ e = none ∧ k () w = .ok () w' := by
  cases e <;> simp

theorem pure_eq_ok : (pure () : EStateM Failure σ Unit) w = .ok () w' ↔ w' = w := by simp [eq_comm]

end Run

/-! ## §4. The member's API client. -/

/-- `kubeClient.Get` of the client's TLS secret. -/
inductive SecretLookup where
  | found
  | notFound
  | failed (err : String)
  deriving DecidableEq, Repr

/-- What the calls of `initAPIClient` and `createTLSSecretForClient` return. -/
structure APIClientEnv where
  getSecret : SecretLookup
  newCertRequest : Option String
  signCertByToken : Option String
  createSecret : Option String
  x509KeyPair : Option String
  newClient : Option String

/-- Lines 671–697: a key and a certificate request for `<cluster>.fabedge-client`, signed by the
    host on the init token, then stored as the secret `api-client-tls`. -/
def createTLSSecretForClient (env : APIClientEnv) : GoM Unit := do
  let w ← get
  checkErr env.newCertRequest
  send (.signCertByToken w.opts.apiServerAddress w.opts.initToken (clientCertRequest w.opts))
  checkErr env.signCertByToken
  send (.createSecret w.opts.ns clientTLSSecretName)
  checkErr env.createSecret

/-- Lines 626–669: the client secret, created when it is missing, then the key pair and the
    client. -/
def initAPIClient (env : APIClientEnv) : GoM Unit := do
  let w ← get
  send (.getSecret w.opts.ns clientTLSSecretName)
  match env.getSecret with
  | .found => pure ()
  | .notFound => createTLSSecretForClient env
  | .failed err => throw (.error err)
  checkErr env.x509KeyPair
  modify fun w => { w with apiClient := env.newClient.isNone }
  checkErr env.newClient

theorem createTLSSecretForClient_eq_ok (env : APIClientEnv) (w w' : Wiring) :
    createTLSSecretForClient env w = .ok () w' ↔
      env.newCertRequest = none ∧ env.signCertByToken = none ∧ env.createSecret = none ∧
      w' = { w with sent := w.sent ++ enrollRequests w.opts } := by
  simp only [createTLSSecretForClient, send, enrollRequests, run_get_bind, run_checkErr_bind_eq_ok,
    run_modify_bind, run_checkErr_eq_ok, List.append_assoc, List.singleton_append]

/-- `initAPIClient` reads the client secret, and succeeds when it is found, or missing and could
    be created; it then sets the client, and it has enrolled exactly when the secret was
    missing. -/
theorem initAPIClient_eq_ok (env : APIClientEnv) (w w' : Wiring) :
    initAPIClient env w = .ok () w' ↔
      (env.getSecret = .found ∨ env.getSecret = .notFound ∧ env.newCertRequest = none ∧
        env.signCertByToken = none ∧ env.createSecret = none) ∧
      env.x509KeyPair = none ∧ env.newClient = none ∧
      w' = { w with
        apiClient := true
        sent := w.sent ++ .getSecret w.opts.ns clientTLSSecretName ::
          if env.getSecret = .notFound then enrollRequests w.opts else [] } := by
  rcases h : env.getSecret with _ | _ | err <;> cases hc : env.newClient <;>
    simp [initAPIClient, send, h, hc, run_bind_eq_ok, pure_eq_ok, run_checkErr_bind_eq_ok,
      run_checkErr_eq_ok, createTLSSecretForClient_eq_ok, and_assoc, eq_comm (a := w')]

/-! ## §5. `Complete`. -/

/-- What the constructors `Complete` calls return. -/
structure CompleteEnv where
  /-- `allocator.New(opts.EdgePodCIDR)` -/
  newAllocator : String → Option String
  /-- `config.GetConfig()` -/
  getConfig : Option String
  /-- `client.New(cfg, client.Options{})` -/
  newClient : Option String
  /-- `manager.New(cfg, opts.ManagerOpts)` -/
  newManager : Option String
  /-- `createCertManager(kubeClient, …)`, on a host -/
  createCertManager : Option String
  /-- `fclient.GetCertificate(opts.APIServerAddress)`, on a member -/
  getCertificate : Option String
  /-- the calls of `opts.initAPIClient(kubeClient, cacert)`, on a member -/
  apiClient : APIClientEnv
  /-- `certutil.NewRemoteManager(…)`, on a member -/
  newRemoteManager : Option String
  /-- `apiserver.New(…)`, on a host -/
  newAPIServer : Option String
  /-- `tls.LoadX509KeyPair(certFile, keyFile)`, on a host -/
  loadX509KeyPair : String → String → Option String

/-- Lines 152–176: the trimmed CNI type picks where pod CIDRs come from; Calico also turns edge
    IPAM on and creates the pod-CIDR store and the allocator. -/
def selectCNI (env : CompleteEnv) : GoM Unit := do
  modify fun w => { w with opts.cniType := trimSpace w.opts.cniType }
  let w ← get
  if w.opts.cniType = cniCalico then
    let err := env.newAllocator w.opts.edgePodCIDR
    set { w with opts.agent.enableEdgeIPAM := true, podCIDRStore := true, allocator := err.isNone }
    checkErr err
  else if w.opts.cniType ≠ cniFlannel then
    throw (.error ("unknown CNI: " ++ w.opts.cniType))

/-- Lines 378–407: the CA secret is read, then its certificate and key decoded into a manager;
    `err` is the first error of those steps. -/
def createCertManager (err : Option String) : GoM Unit := do
  let w ← get
  send (.getSecret w.opts.ns w.opts.caSecretName)
  checkErr err

/-- Lines 201–234: a host's certificate manager holds the CA key; a member fetches the CA
    certificate, sets up its API client, and signs through the host. -/
def setUpCertManager (env : CompleteEnv) : GoM Unit := do
  let w ← get
  if w.opts.clusterRole = roleHost then
    createCertManager env.createCertManager
  else
    send (.getCertificate w.opts.apiServerAddress)
    checkErr env.getCertificate
    initAPIClient env.apiClient
    checkErr env.newRemoteManager

/-- Lines 262–285: a host's API server, and its key pair. -/
def setUpAPIServer (env : CompleteEnv) : GoM Unit := do
  let w ← get
  if w.opts.clusterRole = roleHost then
    modify fun w => { w with apiServer := env.newAPIServer.isNone }
    checkErr env.newAPIServer
    checkErr (env.loadX509KeyPair w.opts.apiServerCertFile w.opts.apiServerKeyFile)

/-- `Complete`.  The kubeconfig error of line 184 is logged and nil returned; the store is
    created (line 236) once the certificate manager is there. -/
def complete (env : CompleteEnv) : GoM Unit := do
  selectCNI env
  match env.getConfig with
  | some _ => pure ()
  | none =>
    checkErr env.newClient
    modify fun w => { w with manager := env.newManager.isNone }
    checkErr env.newManager
    setUpCertManager env
    modify fun w => { w with store := true }
    setUpAPIServer env

theorem selectCNI_eq_ok (env : CompleteEnv) (w w' : Wiring) :
    selectCNI env w = .ok () w' ↔
      (trimSpace w.opts.cniType = cniCalico ∧ env.newAllocator w.opts.edgePodCIDR = none ∧
        w' = { w with
          opts.cniType := trimSpace w.opts.cniType, opts.agent.enableEdgeIPAM := true,
          podCIDRStore := true, allocator := true }) ∨
      (trimSpace w.opts.cniType = cniFlannel ∧ w' = { w with opts.cniType := trimSpace w.opts.cniType }) := by
  simp only [selectCNI, run_modify_bind, run_get_bind]
  split_ifs with h1 h2
  · cases env.newAllocator w.opts.edgePodCIDR <;>
      simp [h1, cniCalico_ne_cniFlannel, eq_comm, run_checkErr_eq_ok]
  · simp [h1, h2]
  · simp [h1, not_not.1 h2, cniCalico_ne_cniFlannel, eq_comm]

theorem setUpCertManager_eq_ok (env : CompleteEnv) (w w' : Wiring) :
    setUpCertManager env w = .ok () w' ↔
      if w.opts.clusterRole = roleHost then
        env.createCertManager = none ∧
          w' = { w with sent := w.sent ++ [.getSecret w.opts.ns w.opts.caSecretName] }
      else env.getCertificate = none ∧
        initAPIClient env.apiClient
          { w with sent := w.sent ++ [.getCertificate w.opts.apiServerAddress] } = .ok () w' ∧
        env.newRemoteManager = none := by
  simp only [setUpCertManager, createCertManager, send, run_get_bind]
  split_ifs
  · simp only [run_get_bind, run_modify_bind, run_checkErr_eq_ok]
  · simp only [run_modify_bind, run_checkErr_bind_eq_ok, run_bind_eq_ok, run_checkErr_eq_ok]
    constructor
    · rintro ⟨_, ⟨hc, rfl⟩, _, hi, hr, rfl⟩
      exact ⟨hc, hi, hr⟩
    · rintro ⟨hc, hi, hr⟩
      exact ⟨_, ⟨hc, rfl⟩, w', hi, hr, rfl⟩

theorem setUpAPIServer_eq_ok (env : CompleteEnv) (w w' : Wiring) :
    setUpAPIServer env w = .ok () w' ↔
      if w.opts.clusterRole = roleHost then
        env.newAPIServer = none ∧
          env.loadX509KeyPair w.opts.apiServerCertFile w.opts.apiServerKeyFile = none ∧
          w' = { w with apiServer := true }
      else w' = w := by
  simp only [setUpAPIServer, run_get_bind]
  split_ifs
  · cases h : env.newAPIServer <;> simp [h, run_checkErr_eq_ok, eq_comm (a := w')]
  · exact pure_eq_ok

/-- What the certificate-manager block has sent when it gets through: a host has read its CA
    secret; a member has fetched the CA certificate and read its client secret, and has enrolled
    when that secret was missing. -/
def certManagerSent (opts : Options) (secret : SecretLookup) : List Request :=
  if opts.clusterRole = roleHost then [.getSecret opts.ns opts.caSecretName]
  else .getCertificate opts.apiServerAddress :: .getSecret opts.ns clientTLSSecretName ::
    if secret = .notFound then enrollRequests opts else []

/-- The certificate-manager block only sets the API client and sends its requests; on a member
    that gets through it, the client is set. -/
theorem setUpCertManager_ok_state {env : CompleteEnv} {w w' : Wiring}
    (h : setUpCertManager env w = .ok () w') :
    ∃ c, w' = { w with
      apiClient := c
      sent := w.sent ++ certManagerSent w.opts env.apiClient.getSecret } ∧
      (w.opts.clusterRole ≠ roleHost → c = true) := by
  rw [setUpCertManager_eq_ok] at h
  split_ifs at h with hr
  · exact ⟨w.apiClient, by rw [h.2, certManagerSent, if_pos hr], fun h' => absurd hr h'⟩
  · obtain ⟨-, -, -, rfl⟩ := (initAPIClient_eq_ok _ _ _).1 h.2.1
    exact ⟨true, by simp [certManagerSent, hr], fun _ => rfl⟩

/-- The API-server block only sets the API server; on a host that gets through it, it is set. -/
theorem setUpAPIServer_ok_state {env : CompleteEnv} {w w' : Wiring}
    (h : setUpAPIServer env w = .ok () w') :
    ∃ a, w' = { w with apiServer := a } ∧ (w.opts.clusterRole = roleHost → a = true) := by
  rw [setUpAPIServer_eq_ok] at h
  split_ifs at h with hr
  · exact ⟨true, h.2.2, fun _ => rfl⟩
  · exact ⟨w.apiServer, h, fun h' => absurd h' hr⟩

/-- `Complete` returns nil exactly when the CNI switch does, and then either at the kubeconfig or
    at the end. -/
theorem complete_eq_ok (env : CompleteEnv) (w w' : Wiring) :
    complete env w = .ok () w' ↔ ∃ w₁, selectCNI env w = .ok () w₁ ∧
      match env.getConfig with
      | some _ => w' = w₁
      | none => env.newClient = none ∧ env.newManager = none ∧
          ∃ w₂, setUpCertManager env { w₁ with manager := true } = .ok () w₂ ∧
            setUpAPIServer env { w₂ with store := true } = .ok () w' := by
  simp only [complete, run_bind_eq_ok]
  refine exists_congr fun w₁ => and_congr_right fun _ => ?_
  cases env.getConfig with
  | some _ => exact pure_eq_ok
  | none =>
      cases hm : env.newManager <;>
        simp [hm, run_checkErr_bind_eq_ok, run_bind_eq_ok, run_checkErr_eq_ok, and_assoc]

/-- **When `Complete` returns nil.**  The CNI type, trimmed, is Calico with an allocator or
    Flannel; then either the kubeconfig fails to load (and nil is returned at once), or the client
    and the controller manager are created, and a host gets its certificate manager, API server
    and key pair, while a member gets the CA certificate, a client secret (found, or created on
    the init token), its key pair, its API client and a remote certificate manager. -/
theorem complete_ok_iff (env : CompleteEnv) (w₀ : Wiring) :
    (∃ w, complete env w₀ = .ok () w) ↔
      ((trimSpace w₀.opts.cniType = cniCalico ∧ env.newAllocator w₀.opts.edgePodCIDR = none) ∨
        trimSpace w₀.opts.cniType = cniFlannel) ∧
      (env.getConfig.isSome ∨
        env.newClient = none ∧ env.newManager = none ∧
        if w₀.opts.clusterRole = roleHost then
          env.createCertManager = none ∧ env.newAPIServer = none ∧
            env.loadX509KeyPair w₀.opts.apiServerCertFile w₀.opts.apiServerKeyFile = none
        else
          env.getCertificate = none ∧
            (env.apiClient.getSecret = .found ∨ env.apiClient.getSecret = .notFound ∧
              env.apiClient.newCertRequest = none ∧ env.apiClient.signCertByToken = none ∧
              env.apiClient.createSecret = none) ∧
            env.apiClient.x509KeyPair = none ∧ env.apiClient.newClient = none ∧
            env.newRemoteManager = none) := by
  by_cases hr : w₀.opts.clusterRole = roleHost <;> cases hcfg : env.getConfig <;>
    simp only [complete_eq_ok, selectCNI_eq_ok, setUpCertManager_eq_ok, initAPIClient_eq_ok,
      setUpAPIServer_eq_ok, hr, hcfg, or_and_right, and_assoc, exists_or, exists_and_left,
      exists_eq_left, exists_eq_right, ↓reduceIte, Option.isSome_none, Option.isSome_some,
      Bool.false_eq_true, false_or, true_or, and_true, exists_eq]

/-- **An unknown CNI type is refused** with `unknown CNI: <type>`, the type trimmed, before any
    collaborator is created. -/
theorem complete_unknownCNI (env : CompleteEnv) (w₀ : Wiring)
    (hcal : trimSpace w₀.opts.cniType ≠ cniCalico) (hfl : trimSpace w₀.opts.cniType ≠ cniFlannel) :
    complete env w₀ = .error (.error ("unknown CNI: " ++ trimSpace w₀.opts.cniType))
      { w₀ with opts.cniType := trimSpace w₀.opts.cniType } := by
  rw [complete, bind_run]
  simp [selectCNI, hcal, hfl]

/-- `--cni-type=weave`. -/
def weaveOptions : Options := { defaultOptions "" with cluster := "bj", cniType := "weave" }

/-- Every constructor succeeds, and the client secret is missing. -/
def enrollingEnv : CompleteEnv :=
  ⟨fun _ => none, none, none, none, none, none, ⟨.notFound, none, none, none, none, none⟩, none,
    none, fun _ _ => none⟩

example : complete enrollingEnv (.initial weaveOptions) =
    .error (.error "unknown CNI: weave") (.initial weaveOptions) := rfl

/-- What the later stages call, set: the controller manager and the store, on Calico edge IPAM
    with its pod-CIDR store and allocator, on a host the API server, on a member the API
    client. -/
structure Wired (w : Wiring) : Prop where
  manager : w.manager = true
  store : w.store = true
  calico : w.opts.cniType = cniCalico →
    w.opts.agent.enableEdgeIPAM = true ∧ w.podCIDRStore = true ∧ w.allocator = true
  apiServer : w.opts.clusterRole = roleHost → w.apiServer = true
  apiClient : w.opts.clusterRole ≠ roleHost → w.apiClient = true

/-- After a nil return with the kubeconfig loaded, the options are those of the CNI switch with
    the controller manager and the store set, the API client set on a member and the API server
    on a host, and the requests of the certificate-manager block sent. -/
theorem complete_ok_loaded {env : CompleteEnv} {w₀ w : Wiring}
    (h : complete env w₀ = .ok () w) (hcfg : env.getConfig = none) :
    ∃ w₁ c a, selectCNI env w₀ = .ok () w₁ ∧
      w = { w₁ with
        manager := true, apiClient := c, store := true, apiServer := a
        sent := w₁.sent ++ certManagerSent w₁.opts env.apiClient.getSecret } ∧
      (w₁.opts.clusterRole ≠ roleHost → c = true) ∧ (w₁.opts.clusterRole = roleHost → a = true) := by
  rw [complete_eq_ok, hcfg] at h
  obtain ⟨w₁, h₁, -, -, w₂, h₂, h₃⟩ := h
  obtain ⟨c, rfl, hc⟩ := setUpCertManager_ok_state h₂
  obtain ⟨a, rfl, ha⟩ := setUpAPIServer_ok_state h₃
  exact ⟨w₁, c, a, h₁, rfl, hc, ha⟩

/-- **After a nil return with the kubeconfig loaded, every collaborator the later stages call is
    set**, from any options. -/
theorem complete_wired {env : CompleteEnv} {w₀ w : Wiring}
    (h : complete env w₀ = .ok () w) (hcfg : env.getConfig = none) : Wired w := by
  obtain ⟨w₁, c, a, h₁, rfl, hc, ha⟩ := complete_ok_loaded h hcfg
  refine ⟨rfl, rfl, fun hcal => ?_, ha, hc⟩
  rcases (selectCNI_eq_ok env w₀ w₁).1 h₁ with ⟨-, -, rfl⟩ | ⟨hfl, rfl⟩
  · exact ⟨rfl, rfl, rfl⟩
  · exact absurd (hfl.symm.trans hcal) cniCalico_ne_cniFlannel.symm

/-- A member cluster `sh` on Calico, the CNI type given with white space around it. -/
def memberOptions : Options :=
  { defaultOptions "org" with
    cluster := "sh", clusterRole := roleMember, cniType := " calico\n",
    edgePodCIDR := "10.234.64.0/18", apiServerAddress := "10.20.8.12:30303", initToken := "token" }

/-- What `Complete` leaves for `memberOptions` when every constructor succeeds and the client
    secret is missing. -/
def memberWired : Wiring :=
  ⟨{ memberOptions with
      cniType := "calico", agent := { memberOptions.agent with enableEdgeIPAM := true } },
    true, true, true, true, false, true,
    [.getCertificate "10.20.8.12:30303", .getSecret "fabedge" "api-client-tls",
      .signCertByToken "10.20.8.12:30303" "token" ⟨"sh.fabedge-client", ["org"]⟩,
      .createSecret "fabedge" "api-client-tls"]⟩

example : complete enrollingEnv (.initial memberOptions) = .ok () memberWired := rfl

/-- **What `Complete` sends.**  After a nil return with the kubeconfig loaded, a host has read
    its CA secret; a member has fetched the CA certificate from the host and read its client
    secret, and, exactly when that secret was missing, has had the host sign
    `<cluster>.fabedge-client` on the init token and created the secret `api-client-tls`.  When
    the kubeconfig failed to load, nothing has been sent. -/
theorem complete_sent {env : CompleteEnv} {opts : Options} {w : Wiring}
    (h : complete env (.initial opts) = .ok () w) :
    w.sent = if env.getConfig = none then certManagerSent opts env.apiClient.getSecret else [] := by
  cases hcfg : env.getConfig with
  | some _ =>
      rw [complete_eq_ok, hcfg] at h
      obtain ⟨w₁, h₁, rfl⟩ := h
      rcases (selectCNI_eq_ok _ _ _).1 h₁ with ⟨-, -, rfl⟩ | ⟨-, rfl⟩ <;> rfl
  | none =>
      obtain ⟨w₁, c, a, h₁, rfl, -⟩ := complete_ok_loaded h hcfg
      rcases (selectCNI_eq_ok _ _ _).1 h₁ with ⟨-, -, rfl⟩ | ⟨-, rfl⟩ <;> rfl

/-! ## §6. `RunManager`. -/

/-- What the controller manager's calls in `RunManager` return. -/
structure RunEnv where
  /-- `opts.Manager.Add(manager.RunnableFunc(opts.initializeControllers))` -/
  addInitializeControllers : Option String
  /-- `opts.Manager.Add(manager.RunnableFunc(opts.runAPIServer))`, on a host -/
  addAPIServer : Option String
  /-- `opts.Manager.Start(signals.SetupSignalHandler())`; its error is logged and returned -/
  start : Option String

/-- `RunManager` (lines 409–428).  `opts.Manager` is an interface, and `Add` on a nil one panics. -/
def runManager (env : RunEnv) (w : Wiring) : Except Failure Unit := do
  if !w.manager then throw .nilDereference
  checkErr env.addInitializeControllers
  if w.opts.clusterRole = roleHost then checkErr env.addAPIServer
  checkErr env.start

theorem checkErr_ne_nilDereference (e : Option String) :
    (checkErr e : Except Failure Unit) ≠ .error .nilDereference := by
  cases e <;> simp [throw, throwThe, MonadExceptOf.throw, pure, Except.pure]

/-- `RunManager` panics exactly on a nil controller manager. -/
theorem runManager_eq_nilDereference (env : RunEnv) (w : Wiring) :
    runManager env w = .error .nilDereference ↔ w.manager = false := by
  cases hm : w.manager
  · simp [runManager, hm, throw, throwThe, MonadExceptOf.throw, bind, Except.bind]
  · simp only [runManager, hm, Bool.not_true, Bool.false_eq_true, if_false, pure_bind,
      Bool.true_eq_false, iff_false]
    refine bind_ne_nilDereference (checkErr_ne_nilDereference _) fun _ => ?_
    split_ifs
    · exact bind_ne_nilDereference (checkErr_ne_nilDereference _) fun _ => checkErr_ne_nilDereference _
    · exact checkErr_ne_nilDereference _

/-- **After `Complete` returns nil, `RunManager` panics exactly when the kubeconfig failed to
    load**: line 184 returns nil before `manager.New`, and `RunManager` calls `Add` on the nil
    manager. -/
theorem runManager_complete_panics_iff {env : CompleteEnv} (renv : RunEnv) {opts : Options}
    {w : Wiring} (h : complete env (.initial opts) = .ok () w) :
    runManager renv w = .error .nilDereference ↔ env.getConfig.isSome := by
  rw [runManager_eq_nilDereference]
  cases hcfg : env.getConfig with
  | none =>
      obtain ⟨_, _, _, -, rfl, -⟩ := complete_ok_loaded h hcfg
      simp
  | some _ =>
      rw [complete_eq_ok, hcfg] at h
      obtain ⟨w₁, h₁, rfl⟩ := h
      rcases (selectCNI_eq_ok _ _ _).1 h₁ with ⟨-, -, rfl⟩ | ⟨-, rfl⟩ <;> simp [Wiring.initial]

/-- No kubeconfig anywhere: `config.GetConfig` fails, every other constructor succeeds. -/
def noKubeconfigEnv : CompleteEnv := { enrollingEnv with getConfig := some "could not locate a kubeconfig" }

/-- A Flannel host. -/
def flannelOptions : Options := { defaultOptions "" with cluster := "bj", cniType := "flannel" }

/-- The controller manager accepts both runnables and starts. -/
def startingRunEnv : RunEnv := ⟨none, none, none⟩

example : complete noKubeconfigEnv (.initial flannelOptions) = .ok () (.initial flannelOptions) ∧
    runManager startingRunEnv (.initial flannelOptions) = .error .nilDereference := ⟨rfl, rfl⟩

end FabEdge.Operator
