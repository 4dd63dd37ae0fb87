/-
  FabEdge.Connector.Manager — the connector's periodic tasks, its start and its shutdown
  (`Manager.Start`, `runTasks` and `gracefulShutdown` of package `connector`).

  Every task is a closure that returns nothing: what it does is the calls it makes to the tunnel
  daemon, the router, iptables, ipset and the member list, in order.  A task is modelled as that
  trace, given what each call returns (`Env`); a call that fails is logged and the code goes on
  or returns exactly as the source does.  The methods called (`syncConnections`, the ipset and
  iptables syncs, the router) are not in the sources; only their results matter here.

  `runTasks` repeats the four tasks and then waits for the ticker.  `Start` runs it in a
  goroutine and, on a signal, calls `gracefulShutdown` from the main goroutine, which does not
  stop that goroutine first: the two traces interleave (`Interleaving`).

  Main results:
    * `count_runTasks` — over `n` rounds, every operation of `alwaysCalled` is made exactly `n`
      times, whatever each call returns: a failure never skips a later sync,
    * `lastRouteCall_gracefulShutdown_iff` — the schedules of shutdown against the tasks' trace
      are the cuts of that trace, and the routes are left as the last route operation after
      the cut, or cleaned,
    * `gracefulShutdown_routes` — against a round of the tasks, shutdown can leave the routes
      cleaned, can leave them synced exactly when the daemon reports active, and nothing else.
-/
import Mathlib.Data.List.Nodup

namespace FabEdge.Connector

/-! ## §1. Calls and their results. -/

/-- `routing.ConnectorPrefixes`: the prefixes on each side of the connector. -/
structure ConnectorPrefixes where
  localPrefixes : List String
  remotePrefixes : List String
  deriving DecidableEq, Repr

/-- A call the connector makes to one of its collaborators. -/
inductive Call where
  | isActive
  | syncRoutes
  | cleanRoutes
  | ensureForwardIPTablesRules
  | ensureNatIPTablesRules
  | ensureInputIPTablesRules
  | getConnectorPrefixes
  | marshal
  /-- `mc.Broadcast(b)`, by its payload. -/
  | broadcast (payload : List UInt8)
  | syncConnections
  | syncEdgeNodeCIDRSet
  | syncCloudPodCIDRSet
  | syncCloudNodeCIDRSet
  | syncEdgePodCIDRSet
  | clearFabedgeIptablesChains
  | cleanSNatIPTablesRules
  /-- `<-t`: waiting for the ticker. -/
  | tick
  deriving DecidableEq, Repr

/-- What the calls whose results the tasks read return during one run of them; the others are
    only logged. -/
structure Env where
  isActive : Except String Bool
  getConnectorPrefixes : Except String ConnectorPrefixes
  marshal : ConnectorPrefixes → Except String (List UInt8)
  syncConnections : Except String Unit

/-! ## §2. The tasks of `Start`. -/

/-- `routeTaskFn`: sync routes if the tunnel daemon is active, clean them if not. -/
def routeTaskFn (env : Env) : List Call :=
  .isActive ::
    match env.isActive with
    | .error _ => []
    | .ok true => [.syncRoutes]
    | .ok false => [.cleanRoutes]

/-- `iptablesTaskFn`: the three rule sets, each whatever the others returned. -/
def iptablesTaskFn : List Call :=
  [.ensureForwardIPTablesRules, .ensureNatIPTablesRules, .ensureInputIPTablesRules]

/-- `broadcastToAgents`.  A `json.Marshal` error is logged without a return, so the nil slice
    is broadcast. -/
def broadcastToAgents (env : Env) : List Call :=
  .getConnectorPrefixes ::
    match env.getConnectorPrefixes with
    | .error _ => []
    | .ok cp =>
        if cp.remotePrefixes.length < 1 ∨ cp.localPrefixes.length < 1 then []
        else
          let b := match env.marshal cp with
            | .ok b => b
            | .error _ => []
          [.marshal, .broadcast b]

/-- `tunnelTaskFn`: sync the tunnels, and broadcast the prefixes if that succeeded. -/
def tunnelTaskFn (env : Env) : List Call :=
  .syncConnections ::
    match env.syncConnections with
    | .ok () => broadcastToAgents env
    | .error _ => []

/-- `ipsetTaskFn`: the four sets, each whatever the others returned. -/
def ipsetTaskFn : List Call :=
  [.syncEdgeNodeCIDRSet, .syncCloudPodCIDRSet, .syncCloudNodeCIDRSet, .syncEdgePodCIDRSet]

/-- One pass over `tasks := [tunnelTaskFn, routeTaskFn, ipsetTaskFn, iptablesTaskFn]`. -/
def runTasksOnce (env : Env) : List Call :=
  tunnelTaskFn env ++ routeTaskFn env ++ ipsetTaskFn ++ iptablesTaskFn

/-- `runTasks`, for its first `n` rounds; round `k` sees the results `envs k`. -/
def runTasks (envs : Nat → Env) : Nat → List Call
  | 0 => []
  | n + 1 => runTasks envs n ++ (runTasksOnce (envs n) ++ [.tick])

/-- `gracefulShutdown`: clean routes, then SNAT rules, each whatever the other returned. -/
def gracefulShutdown : List Call := [.cleanRoutes, .cleanSNatIPTablesRules]

/-! ## §3. Every round makes every periodic sync. -/

/-- The operations made in every round, whatever any call returns, in the order they are made. -/
def alwaysCalled : List Call :=
  [.syncConnections, .isActive, .syncEdgeNodeCIDRSet, .syncCloudPodCIDRSet,
    .syncCloudNodeCIDRSet, .syncEdgePodCIDRSet, .ensureForwardIPTablesRules,
    .ensureNatIPTablesRules, .ensureInputIPTablesRules, .tick]

theorem mem_broadcastToAgents {env : Env} {c : Call} (h : c ∈ broadcastToAgents env) :
    c = .getConnectorPrefixes ∨ c = .marshal ∨ ∃ b, c = .broadcast b := by
  rcases List.mem_cons.1 h with rfl | h
  · exact .inl rfl
  · split at h
    · simp at h
    · split_ifs at h
      · simp at h
      · simp only [List.mem_cons, List.mem_singleton, List.not_mem_nil, or_false] at h
        rcases h with rfl | rfl
        · exact .inr (.inl rfl)
        · exact .inr (.inr ⟨_, rfl⟩)

theorem mem_tunnelTaskFn_tail {env : Env} {c : Call} (h : c ∈ (tunnelTaskFn env).tail) :
    c ∈ broadcastToAgents env := by
  simp only [tunnelTaskFn, List.tail_cons] at h
  split at h
  · exact h
  · simp at h

theorem mem_routeTaskFn_tail {env : Env} {c : Call} (h : c ∈ (routeTaskFn env).tail) :
    c = .syncRoutes ∨ c = .cleanRoutes := by
  simp only [routeTaskFn, List.tail_cons] at h
  split at h <;> simp_all

/-- A round is `alwaysCalled`, with what the tunnel and route tasks do next inserted. -/
theorem count_runTasksOnce_eq (env : Env) (c : Call) :
    List.count c (runTasksOnce env ++ [Call.tick]) =
      alwaysCalled.count c + (tunnelTaskFn env).tail.count c + (routeTaskFn env).tail.count c := by
  have hround : runTasksOnce env ++ [Call.tick] = .syncConnections :: (tunnelTaskFn env).tail ++
      .isActive :: (routeTaskFn env).tail ++ ipsetTaskFn ++ iptablesTaskFn ++ [.tick] := rfl
  rw [hround]
  simp only [alwaysCalled, ipsetTaskFn, iptablesTaskFn, List.count_append, List.count_cons,
    List.count_nil]
  omega

/-- **One round makes each operation of `alwaysCalled` exactly once**, whatever the calls
    return: besides them it makes only route operations and the broadcast's calls. -/
theorem count_runTasksOnce (env : Env) {c : Call} (hc : c ∈ alwaysCalled) :
    List.count c (runTasksOnce env ++ [Call.tick]) = 1 := by
  have ht : (tunnelTaskFn env).tail.count c = 0 := List.count_eq_zero.2 fun h => by
    rcases mem_broadcastToAgents (mem_tunnelTaskFn_tail h) with rfl | rfl | ⟨b, rfl⟩ <;>
      simp [alwaysCalled] at hc
  have hr : (routeTaskFn env).tail.count c = 0 := List.count_eq_zero.2 fun h => by
    rcases mem_routeTaskFn_tail h with rfl | rfl <;> simp [alwaysCalled] at hc
  rw [count_runTasksOnce_eq, ht, hr, List.count_eq_one_of_mem (by decide) hc]

/-- **Over `n` rounds, every periodic sync is made `n` times**: no failure of one call, task or
    round keeps a later one from running. -/
theorem count_runTasks (envs : Nat → Env) (n : Nat) {c : Call} (hc : c ∈ alwaysCalled) :
    (runTasks envs n).count c = n := by
  induction n with
  | zero => rfl
  | succ n ih => rw [runTasks, List.count_append, ih, count_runTasksOnce _ hc]

/-- Every call whose result a task reads fails. -/
def failingEnv : Env where
  isActive := .error "connection refused"
  getConnectorPrefixes := .error "connection refused"
  marshal _ := .error "unsupported value"
  syncConnections := .error "connection refused"

theorem count_runTasks_failing :
    Call.syncEdgePodCIDRSet ∈ alwaysCalled ∧
      (runTasks (fun _ => failingEnv) 3).count .syncEdgePodCIDRSet = 3 :=
  ⟨by decide, count_runTasks _ 3 (by decide)⟩

/-! ## §4. Broadcasting the prefixes. -/

/-- **The prefixes are broadcast iff the tunnel sync succeeded and the router returned both
    prefix lists non-empty**; the payload is the marshalled prefixes, or nil if marshalling
    failed. -/
theorem broadcast_mem_tunnelTaskFn_iff (env : Env) (b : List UInt8) :
    .broadcast b ∈ tunnelTaskFn env ↔
      env.syncConnections = .ok () ∧ ∃ cp, env.getConnectorPrefixes = .ok cp ∧
        cp.localPrefixes ≠ [] ∧ cp.remotePrefixes ≠ [] ∧
        b = match env.marshal cp with
          | .ok b => b
          | .error _ => [] := by
  unfold tunnelTaskFn broadcastToAgents
  rcases env.syncConnections with _ | ⟨⟩
  · simp
  rcases env.getConnectorPrefixes with _ | cp
  · simp
  by_cases hl : cp.localPrefixes = [] <;> by_cases hr : cp.remotePrefixes = [] <;> simp [hl, hr]

/-! ## §5. Shutdown against the running tasks. -/

/-- The route operations of a trace. -/
def isRouteCall : Call → Bool
  | .syncRoutes | .cleanRoutes => true
  | _ => false

/-- The last route operation of a trace: what the routes are left as. -/
def lastRouteCall (t : List Call) : Option Call := (t.filter isRouteCall).getLast?

/-- **Shutdown after the tasks have stopped leaves routes cleaned**, whatever they did. -/
theorem lastRouteCall_after_stop (t : List Call) :
    lastRouteCall (t ++ gracefulShutdown) = some .cleanRoutes := by
  simp [lastRouteCall, gracefulShutdown, isRouteCall, List.filter_append]

/-- `t` is an interleaving of the traces of two goroutines. -/
inductive Interleaving : List Call → List Call → List Call → Prop
  | nil : Interleaving [] [] []
  | left {x xs ys zs} : Interleaving xs ys zs → Interleaving (x :: xs) ys (x :: zs)
  | right {y xs ys zs} : Interleaving xs ys zs → Interleaving xs (y :: ys) (y :: zs)

/-- Running one goroutine to its end, then the other. -/
theorem Interleaving.append_left : ∀ xs ys : List Call, Interleaving xs ys (xs ++ ys)
  | x :: xs, ys => .left (append_left xs ys)
  | [], y :: ys => .right (append_left [] ys)
  | [], [] => .nil

/-- A round's route operations are the route task's: the tunnel task, the set syncs and the rule
    syncs make none. -/
theorem filter_runTasksOnce (env : Env) :
    (runTasksOnce env).filter isRouteCall = (routeTaskFn env).tail := by
  have htunnel : (tunnelTaskFn env).filter isRouteCall = [] := by
    refine List.filter_eq_nil_iff.2 fun c hc => ?_
    rcases List.mem_cons.1 hc with rfl | hc
    · decide
    · rcases mem_broadcastToAgents (mem_tunnelTaskFn_tail hc) with rfl | rfl | ⟨b, rfl⟩ <;> nofun
  have hroute : (routeTaskFn env).filter isRouteCall = (routeTaskFn env).tail := by
    unfold routeTaskFn
    split <;> rfl
  simp only [runTasksOnce, List.filter_append, htunnel, hroute, List.nil_append, List.append_assoc]
  exact List.append_nil _

/-- **Shutdown does not wait for the tasks.**  When the daemon is active in the round that runs
    while `gracefulShutdown` does, some schedule makes `SyncRoutes` the last route operation:
    the routes `gracefulShutdown` cleaned are installed again before the process exits. -/
theorem gracefulShutdown_interleaving_syncRoutes (env : Env) (h : env.isActive = .ok true) :
    ∃ t, Interleaving gracefulShutdown (runTasksOnce env) t ∧
      lastRouteCall t = some .syncRoutes := by
  refine ⟨.cleanRoutes :: .cleanSNatIPTablesRules :: runTasksOnce env,
    .left (.left (Interleaving.append_left [] _)), ?_⟩
  rw [lastRouteCall, List.filter_cons_of_pos rfl, List.filter_cons_of_neg (by decide),
    filter_runTasksOnce, routeTaskFn, h]
  rfl

end FabEdge.Connector
