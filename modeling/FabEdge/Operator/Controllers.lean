/-
  FabEdge.Operator.Controllers — `initializeControllers` (lines 454–553), the runnable
  `RunManager` adds first: it records what the cluster already holds, then adds the controllers
  and the routines of the cluster's role to the controller manager.

  `Options` is passed by value, so what the function writes goes to the collaborators `Complete`
  set: the endpoint store, the allocator and the pod-CIDR store, whose contents are a
  `StartupState`, and the controller manager, which keeps the runnables it accepted.  Each is a
  Go interface, and a method call on a nil one panics; the `Wiring` that `Complete` left says
  which are set.  The two record passes are `recordIPAMBlocks` and `recordEndpoints` with those
  calls made explicit, as code on the collaborators' contents; on set collaborators they are the
  passes of `FabEdge.Operator.Startup`.  `AddToManager` of a controller and `Manager.Add` of a
  routine are one step: the manager keeps the runnable when the call returns nil.

  Main results:
    * `recordIPAMBlocksOn_eq`, `recordEndpointsOn_eq` — on set collaborators, the passes of the
      code are the startup passes,
    * `initializeControllers_added` — whatever it returns, the manager has been given the
      runnables of `runnables`, in order: all of them when it returns nil, and otherwise a prefix
      without the last,
    * `initializeControllers_eq_ok` — on set collaborators it returns nil exactly when the client's
      lists come back and every runnable is accepted, and the collaborators then hold what the
      startup passes record,
    * `initializeControllers_complete_ne_nilDereference` — after `Complete` returns nil on the
      flag values with the kubeconfig loaded, it never calls a nil collaborator.
-/
import FabEdge.Operator.Complete
import FabEdge.Operator.Startup

namespace FabEdge.Operator

open FabEdge.Go

/-! ## §1. The controller manager and the collaborators. -/

/-- What `initializeControllers` adds to the controller manager. -/
inductive Runnable where
  /-- `ipamblockmonitor.AddToManager`, on Calico -/
  | ipamBlockMonitor
  /-- `connectorctl.AddToManager` -/
  | connectorController
  /-- `agentctl.AddToManager` -/
  | agentController
  /-- `cmmctl.AddToManager`, the communities controller -/
  | communityController
  /-- `proxyctl.AddToManager`, when the agents run the proxy -/
  | proxyController
  /-- `clusterctl.AddToManager` -/
  | clusterController
  /-- `routines.LocalClusterReporter`, on a host -/
  | localClusterReporter
  /-- `routines.LoadEndpointsAndCommunities`, on a member -/
  | loadEndpointsAndCommunities
  /-- `routines.ExportEndpoints`, on a member -/
  | exportEndpoints
  deriving DecidableEq, Repr

/-- What the calls of `initializeControllers` return. -/
structure ControllerEnv where
  /-- `cli.List(ctx, &ipamBlocks)` -/
  ipamBlocks : Except String (List IPAMBlock)
  /-- `ipamblockmonitor.GetNodeName` -/
  getNodeName : IPAMBlock → String
  /-- `cli.List(ctx, &nodes, client.MatchingLabels(nodeutil.GetEdgeNodeLabels()))` -/
  nodes : Except String (List Node)
  /-- `cli.List(ctx, &communities)` -/
  communities : Except String (List CommunityObj)
  /-- `opts.NewEndpoint`, which `Complete` sets -/
  newEndpoint : Node → Endpoint
  /-- the error of the call that adds a runnable -/
  add : Runnable → Option String

/-- What `initializeControllers` writes: the collaborators' contents, and the runnables the
    controller manager has accepted, oldest first. -/
structure ControllerState where
  startup : StartupState
  added : List Runnable

/-- Code on the collaborators' contents. -/
abbrev StartupM := EStateM Failure StartupState

/-- Code on the collaborators and the controller manager. -/
abbrev ManagerM := EStateM Failure ControllerState

/-- A method call on an interface field of the options: on a nil one it panics. -/
def deref {σ : Type} (set : Bool) : EStateM Failure σ Unit :=
  if set then pure () else throw .nilDereference

/-- A client call, and `if err != nil { return err }`. -/
def clientCall {σ α : Type} : Except String α → EStateM Failure σ α
  | .ok a => pure a
  | .error e => throw (.error e)

/-! ## §2. The record passes on the options. -/

/-- One pass of the loop of lines 610–621: a block the two filters let through is appended to
    `opts.PodCIDRStore`. -/
def recordIPAMBlockOn (getNodeName : IPAMBlock → String) (w : Wiring) (block : IPAMBlock) :
    StartupM Unit :=
  if block.deleted ∨ block.affinity = none then pure ()
  else
    let nodeName := getNodeName block
    if nodeName = "" then pure ()
    else do
      deref w.podCIDRStore
      modify fun st => { st with podCIDRStore := st.podCIDRStore.append nodeName block.cidr }

/-- `recordIPAMBlocks` (lines 602–624): the client is the controller manager's. -/
def recordIPAMBlocksOn (env : ControllerEnv) (w : Wiring) : StartupM Unit := do
  deref w.manager
  let ipamBlocks ← clientCall env.ipamBlocks
  ipamBlocks.forM (recordIPAMBlockOn env.getNodeName w)

/-- One pass of the loop of lines 569–574: `store.SaveCommunity`. -/
def recordCommunityOn (w : Wiring) (community : CommunityObj) : StartupM Unit := do
  deref w.store
  modify fun st =>
    { st with store := st.store.saveCommunity ⟨community.name, community.members.toFinset⟩ }

/-- One pass of the loop of lines 586–594: the network of a subnet that parses is recorded by
    `opts.Agent.Allocator`. -/
def recordCIDROn (w : Wiring) (cidr : String) : StartupM Unit :=
  match parseCIDR cidr with
  | .ok (_, subnet) => do
      deref w.allocator
      modify fun st => { st with allocator := st.allocator.record subnet }
  | .error _ => pure ()

/-- One pass of the loop of lines 580–597. -/
def recordNodeOn (newEndpoint : Node → Endpoint) (w : Wiring) (node : Node) : StartupM Unit :=
  let ep := newEndpoint node
  if ep.publicAddresses.length = 0 ∨ ep.subnets.length = 0 ∨ ep.nodeSubnets.length = 0 then
    pure ()
  else do
    ep.subnets.forM (recordCIDROn w)
    deref w.store
    modify fun st => { st with store := st.store.saveEndpoint ep }

/-- `recordEndpoints` (lines 555–600): the client is the controller manager's, and line 576
    returns early when edge IPAM is off. -/
def recordEndpointsOn (env : ControllerEnv) (w : Wiring) : StartupM Unit := do
  deref w.manager
  let nodes ← clientCall env.nodes
  let communities ← clientCall env.communities
  communities.forM (recordCommunityOn w)
  if w.opts.agent.enableEdgeIPAM then
    nodes.forM (recordNodeOn env.newEndpoint w)

/-! ## §3. `initializeControllers`. -/

/-- `AddToManager` of a controller or `Manager.Add` of a routine: the manager keeps the runnable
    when the call returns nil. -/
def addToManager (env : ControllerEnv) (r : Runnable) : ManagerM Unit := do
  checkErr (env.add r)
  modify fun s => { s with added := s.added ++ [r] }

/-- A record pass, run on the collaborators the options point to. -/
def onCollaborators (x : StartupM Unit) : ManagerM Unit := fun s =>
  match x s.startup with
  | .ok () st => .ok () { s with startup := st }
  | .error e st => .error e { s with startup := st }

/-- Lines 461–474: on Calico, the IPAM blocks, then their monitor. -/
def setUpCalico (env : ControllerEnv) (w : Wiring) : ManagerM Unit :=
  if w.opts.cniType = cniCalico then do
    onCollaborators (recordIPAMBlocksOn env w)
    addToManager env .ipamBlockMonitor
  else pure ()

/-- Lines 500–505: the proxy controller, when the agents run the proxy. -/
def setUpProxy (env : ControllerEnv) (w : Wiring) : ManagerM Unit :=
  if w.opts.agent.enableProxy then addToManager env .proxyController else pure ()

/-- Lines 518–550: a host reports on its own cluster; a member loads the endpoints and
    communities of the host and exports its own, through method values of `opts.APIClient`. -/
def addRoutines (env : ControllerEnv) (w : Wiring) : ManagerM Unit :=
  if w.opts.clusterRole = roleHost then addToManager env .localClusterReporter
  else do
    deref w.apiClient
    addToManager env .loadEndpointsAndCommunities
    deref w.apiClient
    addToManager env .exportEndpoints

/-- `initializeControllers` (lines 457–553).  The first record pass asks the controller manager
    for its client, so every later call on the manager is made on one that is set. -/
def initializeControllers (env : ControllerEnv) (w : Wiring) : ManagerM Unit := do
  setUpCalico env w
  onCollaborators (recordEndpointsOn env w)
  addToManager env .connectorController
  addToManager env .agentController
  addToManager env .communityController
  setUpProxy env w
  addToManager env .clusterController
  addRoutines env w

/-- The runnables `initializeControllers` adds, in order. -/
def runnables (opts : Options) : List Runnable :=
  (if opts.cniType = cniCalico then [.ipamBlockMonitor] else []) ++
    .connectorController :: .agentController :: .communityController ::
      ((if opts.agent.enableProxy then [.proxyController] else []) ++ .clusterController ::
        if opts.clusterRole = roleHost then [.localClusterReporter]
        else [.loadEndpointsAndCommunities, .exportEndpoints])

/-! ## §4. On set collaborators, the passes of the code are the startup passes. -/

/-- A startup pass as code: its result replaces the collaborators' contents, which an error
    leaves as they were. -/
def ofPass (f : StartupState → Except Failure StartupState) : StartupM Unit := fun st =>
  match f st with
  | .ok st' => .ok () st'
  | .error e => .error e st

section Refinement

variable {env : ControllerEnv} {w : Wiring}

@[simp] theorem deref_true {σ : Type} : (deref true : EStateM Failure σ Unit) = pure () := rfl

/-- A loop whose every pass is a pure step is the fold of that step. -/
theorem forM_eq_foldl {σ α : Type} {f : α → EStateM Failure σ Unit} {g : σ → α → σ}
    (hf : ∀ a st, f a st = .ok () (g st a)) (l : List α) (st : σ) :
    l.forM f st = .ok () (l.foldl g st) := by
  induction l generalizing st with
  | nil => rfl
  | cons a l ih =>
      rw [show (a :: l).forM f = (f a >>= fun _ => l.forM f) from rfl, bind_run, hf]
      exact ih _

theorem recordIPAMBlockOn_eq (h : w.podCIDRStore = true) (getNodeName : IPAMBlock → String)
    (block : IPAMBlock) (st : StartupState) :
    recordIPAMBlockOn getNodeName w block st = .ok () (recordIPAMBlock getNodeName st block) := by
  simp only [recordIPAMBlockOn, recordIPAMBlock]
  split_ifs <;> simp [h]

theorem recordCommunityOn_eq (h : w.store = true) (c : CommunityObj) (st : StartupState) :
    recordCommunityOn w c st = .ok () (recordCommunity st c) := by
  simp [recordCommunityOn, recordCommunity, h]

theorem recordCIDROn_eq (h : w.allocator = true) (cidr : String) (st : StartupState) :
    recordCIDROn w cidr st = .ok () (recordCIDR st cidr) := by
  rcases hp : parseCIDR cidr with _ | ⟨_, subnet⟩ <;> simp [recordCIDROn, recordCIDR, hp, h]

theorem recordNodeOn_eq (hs : w.store = true) (ha : w.allocator = true)
    (newEndpoint : Node → Endpoint) (node : Node) (st : StartupState) :
    recordNodeOn newEndpoint w node st = .ok () (recordNode newEndpoint st node) := by
  simp only [recordNodeOn, recordNode]
  split_ifs
  · rfl
  · rw [bind_run, forM_eq_foldl (recordCIDROn_eq ha)]
    simp [hs]

/-- **`recordIPAMBlocks` on set collaborators is the startup pass.** -/
theorem recordIPAMBlocksOn_eq (hm : w.manager = true) (hp : w.podCIDRStore = true) :
    recordIPAMBlocksOn env w =
      ofPass (recordIPAMBlocks env.getNodeName (env.ipamBlocks.mapError .error)) := by
  funext st
  rw [recordIPAMBlocksOn, hm]
  cases env.ipamBlocks with
  | error e => rfl
  | ok blocks => exact forM_eq_foldl (recordIPAMBlockOn_eq hp _) blocks st

/-- **`recordEndpoints` on set collaborators is the startup pass.** -/
theorem recordEndpointsOn_eq (hm : w.manager = true) (hs : w.store = true)
    (ha : w.opts.agent.enableEdgeIPAM = true → w.allocator = true) :
    recordEndpointsOn env w = ofPass (recordEndpoints w.opts env.newEndpoint
      (env.nodes.mapError .error) (env.communities.mapError .error)) := by
  funext st
  rw [recordEndpointsOn, hm]
  rcases env.nodes with e | nodes
  · rfl
  rcases env.communities with e | communities
  · rfl
  show (communities.forM (recordCommunityOn w) >>= fun _ => _) st = _
  rw [bind_run, forM_eq_foldl (recordCommunityOn_eq hs)]
  simp only [ofPass, Except.mapError, recordEndpoints_ok]
  cases hi : w.opts.agent.enableEdgeIPAM
  · rfl
  · exact forM_eq_foldl (recordNodeOn_eq hs (ha hi) _) _ _

end Refinement

/-! ## §5. What the controller manager is given. -/

/-- `x` gives the controller manager the runnables `l`, in order: all of them when it returns,
    and a prefix of them when it fails, with a failure that `P` allows. -/
structure Adds (P : Failure → Prop) (x : ManagerM Unit) (l : List Runnable) : Prop where
  ok : ∀ {s s'}, x s = .ok () s' → s'.added = s.added ++ l
  error : ∀ {s e s'}, x s = .error e s' → P e ∧ ∃ l', l' <+: l ∧ s'.added = s.added ++ l'

/-- `Adds`, for a list whose last runnable a failure always leaves out. -/
structure AddsAll (P : Failure → Prop) (x : ManagerM Unit) (l : List Runnable)
    extends Adds P x l : Prop where
  ne_nil : l ≠ []
  incomplete : ∀ {s e s'}, x s = .error e s' → s'.added ≠ s.added ++ l

section Adds

variable {P : Failure → Prop} {x y : ManagerM Unit} {l m : List Runnable}

theorem Adds.bind (hx : Adds P x l) (hy : Adds P y m) : Adds P (x >>= fun _ => y) (l ++ m) where
  ok h := by
    obtain ⟨_, h₁, h₂⟩ := run_bind_eq_ok.1 h
    rw [hy.ok h₂, hx.ok h₁, List.append_assoc]
  error h := by
    rcases run_bind_eq_error.1 h with h₁ | ⟨_, h₁, h₂⟩
    · obtain ⟨hP, l', hl', hadd⟩ := hx.error h₁
      exact ⟨hP, l', hl'.trans (List.prefix_append l m), hadd⟩
    · obtain ⟨hP, m', hm', hadd⟩ := hy.error h₂
      exact ⟨hP, l ++ m', (List.prefix_append_right_inj l).2 hm',
        by rw [hadd, hx.ok h₁, List.append_assoc]⟩

/-- A failure of `x` comes before the runnables of `y`; one of `y` before its last. -/
theorem Adds.bindAll (hx : Adds P x l) (hy : AddsAll P y m) :
    AddsAll P (x >>= fun _ => y) (l ++ m) where
  toAdds := hx.bind hy.toAdds
  ne_nil := List.append_ne_nil_of_right_ne_nil l hy.ne_nil
  incomplete h := by
    rcases run_bind_eq_error.1 h with h₁ | ⟨_, h₁, h₂⟩
    · obtain ⟨-, l', hl', hadd⟩ := hx.error h₁
      rw [hadd, Ne, List.append_cancel_left_eq]
      intro heq
      have hlen := hl'.length_le
      rw [heq, List.length_append] at hlen
      exact hy.ne_nil (List.eq_nil_of_length_eq_zero (by omega))
    · rw [← List.append_assoc, ← hx.ok h₁]
      exact hy.incomplete h₂

theorem pure_adds : Adds P (pure ()) [] where
  ok h := by cases h; exact (List.append_nil _).symm
  error h := by cases h

theorem deref_adds {b : Bool} (h : b = false → P .nilDereference) : Adds P (deref b) [] where
  ok h' := by cases b <;> cases h'; exact (List.append_nil _).symm
  error h' := by cases b <;> cases h'; exact ⟨h rfl, [], List.nil_prefix, (List.append_nil _).symm⟩

theorem onCollaborators_adds {x : StartupM Unit}
    (h : ∀ {st e st'}, x st = .error e st' → P e) : Adds P (onCollaborators x) [] where
  ok h' := by
    unfold onCollaborators at h'
    split at h' <;> cases h'
    exact (List.append_nil _).symm
  error h' := by
    unfold onCollaborators at h'
    split at h' <;> rename_i hx <;> cases h'
    exact ⟨h hx, [], List.nil_prefix, (List.append_nil _).symm⟩

theorem addToManager_run (env : ControllerEnv) (r : Runnable) (s : ControllerState) :
    addToManager env r s = match env.add r with
      | none => .ok () { s with added := s.added ++ [r] }
      | some msg => .error (.error msg) s := by
  unfold addToManager
  cases env.add r <;> rfl

theorem addToManager_addsAll (hP : ∀ msg, P (.error msg)) (env : ControllerEnv) (r : Runnable) :
    AddsAll P (addToManager env r) [r] where
  ok h := by rw [addToManager_run] at h; split at h <;> cases h; rfl
  error h := by
    rw [addToManager_run] at h
    split at h <;> cases h
    exact ⟨hP _, [], List.nil_prefix, (List.append_nil _).symm⟩
  ne_nil := List.cons_ne_nil _ _
  incomplete h := by rw [addToManager_run] at h; split at h <;> cases h; simp

end Adds

section Blocks

variable {P : Failure → Prop} {env : ControllerEnv} {w : Wiring}

theorem setUpCalico_adds (hP : ∀ msg, P (.error msg))
    (hipam : w.opts.cniType = cniCalico →
      ∀ {st e st'}, recordIPAMBlocksOn env w st = .error e st' → P e) :
    Adds P (setUpCalico env w)
      (if w.opts.cniType = cniCalico then [.ipamBlockMonitor] else []) := by
  unfold setUpCalico
  split_ifs with hc
  · exact (onCollaborators_adds (hipam hc)).bind (addToManager_addsAll hP env _).toAdds
  · exact pure_adds

theorem setUpProxy_adds (hP : ∀ msg, P (.error msg)) :
    Adds P (setUpProxy env w) (if w.opts.agent.enableProxy then [.proxyController] else []) := by
  unfold setUpProxy
  split_ifs
  · exact (addToManager_addsAll hP env _).toAdds
  · exact pure_adds

theorem addRoutines_addsAll (hP : ∀ msg, P (.error msg))
    (hclient : w.opts.clusterRole ≠ roleHost → w.apiClient = false → P .nilDereference) :
    AddsAll P (addRoutines env w)
      (if w.opts.clusterRole = roleHost then [.localClusterReporter]
        else [.loadEndpointsAndCommunities, .exportEndpoints]) := by
  unfold addRoutines
  split_ifs with hr
  · exact addToManager_addsAll hP env _
  · have hd : Adds P (deref w.apiClient) [] := deref_adds (hclient hr)
    exact hd.bindAll <| (addToManager_addsAll hP env _).toAdds.bindAll <|
      hd.bindAll (addToManager_addsAll hP env _)

/-- `initializeControllers` gives the manager `runnables`, with the failures its parts can
    have. -/
theorem initializeControllers_addsAll (hP : ∀ msg, P (.error msg))
    (hipam : w.opts.cniType = cniCalico →
      ∀ {st e st'}, recordIPAMBlocksOn env w st = .error e st' → P e)
    (hend : ∀ {st e st'}, recordEndpointsOn env w st = .error e st' → P e)
    (hclient : w.opts.clusterRole ≠ roleHost → w.apiClient = false → P .nilDereference) :
    AddsAll P (initializeControllers env w) (runnables w.opts) :=
  have hadd r := (addToManager_addsAll hP env r).toAdds
  (setUpCalico_adds hP hipam).bindAll <| (onCollaborators_adds hend).bindAll <|
    (hadd _).bindAll <| (hadd _).bindAll <| (hadd _).bindAll <| (setUpProxy_adds hP).bindAll <|
      (hadd _).bindAll <| addRoutines_addsAll hP hclient

end Blocks

/-- **What the controller manager is given.**  Whatever `initializeControllers` returns, the
    manager has accepted the runnables of `runnables`, in order: all of them when it returns nil,
    and otherwise a prefix without the last. -/
theorem initializeControllers_added (env : ControllerEnv) (w : Wiring) (s : ControllerState) :
    (∀ s', initializeControllers env w s = .ok () s' → s'.added = s.added ++ runnables w.opts) ∧
      ∀ e s', initializeControllers env w s = .error e s' →
        ∃ l, l <+: runnables w.opts ∧ l ≠ runnables w.opts ∧ s'.added = s.added ++ l := by
  have h : AddsAll (fun _ => True) (initializeControllers env w) (runnables w.opts) :=
    initializeControllers_addsAll (fun _ => trivial) (by intros; trivial) (by intros; trivial)
      (by intros; trivial)
  refine ⟨fun _ => h.ok, fun _ _ he => ?_⟩
  obtain ⟨-, l, hl, hadd⟩ := h.error he
  exact ⟨l, hl, fun heq => h.incomplete he (heq ▸ hadd), hadd⟩

/-! ## §6. No call on a nil collaborator. -/

/-- The collaborators `initializeControllers` calls, set: the controller manager and the store,
    the pod-CIDR store on Calico, the allocator when edge IPAM is on, and a member's API client. -/
structure Ready (w : Wiring) : Prop where
  manager : w.manager = true
  store : w.store = true
  podCIDRStore : w.opts.cniType = cniCalico → w.podCIDRStore = true
  allocator : w.opts.agent.enableEdgeIPAM = true → w.allocator = true
  apiClient : w.opts.clusterRole ≠ roleHost → w.apiClient = true

theorem ofPass_eq_error {f : StartupState → Except Failure StartupState} {st st' : StartupState}
    {e : Failure} : ofPass f st = .error e st' ↔ f st = .error e ∧ st' = st := by
  cases h : f st <;> simp [ofPass, h, eq_comm]

/-- The startup passes, fed what the client returns, fail only with the client's errors. -/
theorem recordIPAMBlocks_ne_nilDereference (getNodeName : IPAMBlock → String)
    (blocks : Except String (List IPAMBlock)) (st : StartupState) :
    recordIPAMBlocks getNodeName (blocks.mapError .error) st ≠ .error .nilDereference := by
  cases blocks <;> nofun

theorem recordEndpoints_ne_nilDereference (opts : Options) (newEndpoint : Node → Endpoint)
    (nodes : Except String (List Node)) (communities : Except String (List CommunityObj))
    (st : StartupState) :
    recordEndpoints opts newEndpoint (nodes.mapError .error) (communities.mapError .error) st ≠
      .error .nilDereference := by
  rcases nodes with _ | nodes
  · nofun
  rcases communities with _ | communities
  · nofun
  exact fun h => nomatch (recordEndpoints_ok opts nodes communities st).symm.trans h

/-- On set collaborators, `initializeControllers` never panics. -/
theorem initializeControllers_ne_nilDereference {w : Wiring} (hr : Ready w) (env : ControllerEnv)
    (s s' : ControllerState) : initializeControllers env w s ≠ .error .nilDereference s' := by
  have h : AddsAll (· ≠ .nilDereference) (initializeControllers env w) (runnables w.opts) := by
    refine initializeControllers_addsAll (fun _ => nofun) (fun hc st e st' h => ?_)
      (fun h => ?_) fun hrole hnil => absurd (hr.apiClient hrole) (by simp [hnil])
    · rw [recordIPAMBlocksOn_eq hr.manager (hr.podCIDRStore hc), ofPass_eq_error] at h
      exact fun he => recordIPAMBlocks_ne_nilDereference _ _ _ (he ▸ h.1)
    · rw [recordEndpointsOn_eq hr.manager hr.store hr.allocator, ofPass_eq_error] at h
      exact fun he => recordEndpoints_ne_nilDereference _ _ _ _ _ (he ▸ h.1)
  exact fun he => (h.error he).1 rfl

/-- `Complete`, on the flag values with the kubeconfig loaded, sets every collaborator
    `initializeControllers` calls.  Edge IPAM is no flag: it is off until `Complete` turns it on
    for Calico, together with the allocator. -/
theorem complete_ready {env : CompleteEnv} {opts : Options} {w : Wiring}
    (h : complete env (.initial opts) = .ok () w) (hcfg : env.getConfig = none)
    (hipam : opts.agent.enableEdgeIPAM = false) : Ready w := by
  obtain ⟨w₁, c, a, h₁, rfl, hc, -⟩ := complete_ok_loaded h hcfg
  rcases (selectCNI_eq_ok env _ w₁).1 h₁ with ⟨-, -, rfl⟩ | ⟨hfl, rfl⟩
  · exact ⟨rfl, rfl, fun _ => rfl, fun _ => rfl, hc⟩
  · refine ⟨rfl, rfl, fun hcal => absurd (hfl.symm.trans hcal) cniCalico_ne_cniFlannel.symm,
      fun h' => ?_, hc⟩
    simp [Wiring.initial, hipam] at h'

/-- **After `Complete`, the startup runnable never calls a nil collaborator.**  When `Complete`
    returns nil on the flag values with the kubeconfig loaded, `initializeControllers` does not
    panic, whatever the cluster holds and whatever the controller manager answers. -/
theorem initializeControllers_complete_ne_nilDereference {env : CompleteEnv} {opts : Options}
    {w : Wiring} (h : complete env (.initial opts) = .ok () w) (hcfg : env.getConfig = none)
    (hipam : opts.agent.enableEdgeIPAM = false) (cenv : ControllerEnv) (s s' : ControllerState) :
    initializeControllers cenv w s ≠ .error .nilDereference s' :=
  initializeControllers_ne_nilDereference (complete_ready h hcfg hipam) cenv s s'

/-- A cluster with nothing recorded yet whose manager accepts every runnable. -/
def emptyClusterEnv : ControllerEnv :=
  ⟨.ok [], fun _ => "", .ok [], .ok [], newEndpoint "sh", fun _ => none⟩

/-- Nothing recorded, no runnable added. -/
def ControllerState.empty : ControllerState := ⟨.empty, []⟩

theorem initializeControllers_complete_ne_nilDereference_member :
    complete enrollingEnv (.initial memberOptions) = .ok () memberWired ∧
      enrollingEnv.getConfig = none ∧ memberOptions.agent.enableEdgeIPAM = false ∧
      initializeControllers emptyClusterEnv memberWired .empty ≠ .error .nilDereference .empty :=
  ⟨rfl, rfl, rfl, @initializeControllers_complete_ne_nilDereference enrollingEnv memberOptions
    memberWired rfl rfl rfl emptyClusterEnv .empty .empty⟩

/-! ## §7. When `initializeControllers` returns nil. -/

/-- What the record passes leave on set collaborators: on Calico the IPAM blocks first, then the
    communities and, with edge IPAM, the nodes. -/
def recordedStartup (env : ControllerEnv) (opts : Options) (st : StartupState) :
    Except Failure StartupState := do
  let st ← if opts.cniType = cniCalico then
      recordIPAMBlocks env.getNodeName (env.ipamBlocks.mapError .error) st
    else .ok st
  recordEndpoints opts env.newEndpoint (env.nodes.mapError .error)
    (env.communities.mapError .error) st

/-- `x` returns exactly when the manager accepts every runnable of `l` and the startup pass `f`
    succeeds; the collaborators then hold what `f` leaves, and `l` is added. -/
def Runs (env : ControllerEnv) (x : ManagerM Unit)
    (f : StartupState → Except Failure StartupState) (l : List Runnable) : Prop :=
  ∀ s s', x s = .ok () s' ↔
    (∀ r ∈ l, env.add r = none) ∧ ∃ st, f s.startup = .ok st ∧ s' = ⟨st, s.added ++ l⟩

section Runs

variable {env : ControllerEnv} {w : Wiring} {x y : ManagerM Unit}
  {f g : StartupState → Except Failure StartupState} {l m : List Runnable}

theorem Runs.bind (hx : Runs env x f l) (hy : Runs env y g m) :
    Runs env (x >>= fun _ => y) (fun st => f st >>= g) (l ++ m) := fun s s'' => by
  unfold Runs at hx hy
  simp only [run_bind_eq_ok, hx, hy, List.forall_mem_append, bind_eq_ok_iff]
  constructor
  · rintro ⟨_, ⟨hl, st, hf, rfl⟩, hm, st', hg, rfl⟩
    exact ⟨⟨hl, hm⟩, st', ⟨st, hf, hg⟩, by simp⟩
  · rintro ⟨⟨hl, hm⟩, st', ⟨st, hf, hg⟩, rfl⟩
    exact ⟨_, ⟨hl, st, hf, rfl⟩, hm, st', hg, by simp⟩

theorem Runs.of_eq (h : Runs env x f l) (hf : ∀ st, f st = g st) : Runs env x g l := by
  rwa [show f = g from funext hf] at h

theorem runs_pure : Runs env (pure ()) Except.ok [] := fun ⟨st, a⟩ s' => by
  simp [eq_comm]

theorem runs_onCollaborators (f : StartupState → Except Failure StartupState) :
    Runs env (onCollaborators (ofPass f)) f [] := fun ⟨st, a⟩ s' => by
  cases h : f st <;> simp [onCollaborators, ofPass, h, eq_comm]

theorem runs_addToManager (r : Runnable) : Runs env (addToManager env r) Except.ok [r] :=
  fun ⟨st, a⟩ s' => by
    rw [addToManager_run]
    cases h : env.add r <;> simp [h, eq_comm]

theorem setUpCalico_runs (hr : Ready w) :
    Runs env (setUpCalico env w)
      (if w.opts.cniType = cniCalico then
        recordIPAMBlocks env.getNodeName (env.ipamBlocks.mapError .error) else Except.ok)
      (if w.opts.cniType = cniCalico then [.ipamBlockMonitor] else []) := by
  unfold setUpCalico
  split_ifs with hc
  · rw [recordIPAMBlocksOn_eq hr.manager (hr.podCIDRStore hc)]
    exact ((runs_onCollaborators _).bind (runs_addToManager _)).of_eq fun _ => bind_ok _
  · exact runs_pure

theorem setUpProxy_runs :
    Runs env (setUpProxy env w) Except.ok
      (if w.opts.agent.enableProxy then [.proxyController] else []) := by
  unfold setUpProxy
  split_ifs
  · exact runs_addToManager _
  · exact runs_pure

theorem addRoutines_runs (hr : Ready w) :
    Runs env (addRoutines env w) Except.ok
      (if w.opts.clusterRole = roleHost then [.localClusterReporter]
        else [.loadEndpointsAndCommunities, .exportEndpoints]) := by
  unfold addRoutines
  split_ifs with hrole
  · exact runs_addToManager _
  · rw [hr.apiClient hrole, deref_true]
    exact (runs_pure.bind <| (runs_addToManager _).bind <|
      runs_pure.bind (runs_addToManager _)).of_eq fun _ => rfl

end Runs

/-- **When `initializeControllers` returns nil.**  On set collaborators it returns nil exactly
    when the manager accepts every runnable of `runnables` and the startup passes succeed, that
    is when the client's lists come back; the collaborators then hold what the passes record,
    and the manager has the runnables in order. -/
theorem initializeControllers_eq_ok {w : Wiring} (hr : Ready w) (env : ControllerEnv)
    (s s' : ControllerState) :
    initializeControllers env w s = .ok () s' ↔
      (∀ r ∈ runnables w.opts, env.add r = none) ∧
      ∃ st, recordedStartup env w.opts s.startup = .ok st ∧
        s' = ⟨st, s.added ++ runnables w.opts⟩ := by
  rw [initializeControllers, recordEndpointsOn_eq hr.manager hr.store hr.allocator]
  refine ((setUpCalico_runs hr).bind <| (runs_onCollaborators _).bind <|
    (runs_addToManager _).bind <| (runs_addToManager _).bind <| (runs_addToManager _).bind <|
      setUpProxy_runs.bind <| (runs_addToManager _).bind <| addRoutines_runs hr).of_eq
    (fun st => ?_) s s'
  simp only [ok_bind, bind_ok, recordedStartup]
  split_ifs <;> rfl

end FabEdge.Operator
