/-
  FabEdge.Operator.Startup — what the operator records at startup, before its controllers run
  (`recordEndpoints` and `recordIPAMBlocks` of `pkg/operator/options.go`).

  The endpoint store, the allocator, the pod-CIDR store and the endpoint constructor live in
  packages that are not in the sources; they are modelled from the spec, each under a doc
  comment saying so.  The Kubernetes client is the list it returns, or its error.

  The state the two functions write is `StartupState`; a loop of the source is a `foldl` of one
  pass (`recordCIDR`, `recordNode`, `recordIPAMBlock`) over the list it ranges over.  Each pass
  gets its lemma, and each loop the run lemma that follows from it by induction.

  Main results:
    * `recordEndpoints_recorded` — the networks passed to `Record` are exactly those of the
      parsed subnets of the listed nodes whose endpoint is complete; a node whose endpoint lacks
      an address or a node subnet is skipped before any `Record`,
    * `recordEndpoints_consistent` — only complete endpoints are stored, each under its name,
    * `recordIPAMBlocks_cidrs` — the pod-CIDR store gains, per node name, the CIDRs of its live
      affine blocks, and nothing else changes,
    * `recordEndpoints_store` — under each name the store holds the last listed community, and
      the endpoint of the last listed node whose endpoint is complete, or what it held before.
-/
import FabEdge.Operator.Options
import Mathlib.Data.Finset.Basic

namespace FabEdge.Operator

open FabEdge.Go

/-! ## §1. Collaborators, modelled from the spec. -/

/-- `types.Community`: a name and a set of endpoint names. -/
structure Community where
  name : String
  members : Finset String
  deriving DecidableEq

/-- `apis.Community` as the client lists it. -/
structure CommunityObj where
  name : String
  members : List String
  deriving DecidableEq, Repr

/-- Modelled from the spec: `storepkg.Store` is not in the sources.  Endpoints and communities
    by name; saving replaces the entry of the same name. -/
structure Store where
  endpoints : String → Option Endpoint
  communities : String → Option Community

/-- `SaveEndpoint`. -/
def Store.saveEndpoint (s : Store) (ep : Endpoint) : Store :=
  { s with endpoints := fun n => if n = ep.name then some ep else s.endpoints n }

/-- `SaveCommunity`. -/
def Store.saveCommunity (s : Store) (c : Community) : Store :=
  { s with communities := fun n => if n = c.name then some c else s.communities n }

/-- Modelled from the spec: `allocator.Interface` is not in the sources.  `Record` marks a
    network as allocated; the allocator is kept as the networks passed to `Record`, in order. -/
structure Allocator where
  recorded : List IPNet

/-- `Record`. -/
def Allocator.record (a : Allocator) (subnet : IPNet) : Allocator := ⟨a.recorded ++ [subnet]⟩

/-- Modelled from the spec: `types.PodCIDRStore` is not in the sources.  The pod CIDRs of each
    cloud node, by node name; `Append` adds one at the end. -/
structure PodCIDRStore where
  cidrs : String → List String

/-- `Append`. -/
def PodCIDRStore.append (s : PodCIDRStore) (nodeName cidr : String) : PodCIDRStore :=
  ⟨fun n => if n = nodeName then s.cidrs n ++ [cidr] else s.cidrs n⟩

/-- `corev1.Node`, by what the endpoint constructor reads (modelled from the spec): its name,
    its external and internal addresses, and the pod CIDRs annotated on it under Calico. -/
structure Node where
  name : String
  externalIPs : List String
  internalIPs : List String
  podCIDRs : List String
  deriving DecidableEq, Repr

/-- Modelled from the spec: `types.NewEndpointFuncs` is not in the sources.  The endpoint of an
    edge node is named `<cluster>.<node>`; its public addresses are the node's external
    addresses, or its internal ones when it has none; its subnets are its pod CIDRs; its node
    subnets are the `/32` host CIDRs of its internal addresses. -/
def newEndpoint (cluster : String) (node : Node) : Endpoint where
  name := cluster ++ "." ++ node.name
  publicAddresses := if node.externalIPs.isEmpty then node.internalIPs else node.externalIPs
  subnets := node.podCIDRs
  nodeSubnets := node.internalIPs.map (· ++ "/32")

/-! ## §2. `recordEndpoints`. -/

/-- What the startup functions write. -/
structure StartupState where
  store : Store
  allocator : Allocator
  podCIDRStore : PodCIDRStore

/-- Nothing stored, nothing recorded. -/
def StartupState.empty : StartupState :=
  ⟨⟨fun _ => none, fun _ => none⟩, ⟨[]⟩, ⟨fun _ => []⟩⟩

/-- One pass of the loop of lines 569–574. -/
def recordCommunity (st : StartupState) (community : CommunityObj) : StartupState :=
  { st with store := st.store.saveCommunity ⟨community.name, community.members.toFinset⟩ }

/-- One pass of the loop of lines 586–594: a CIDR that does not parse is only logged. -/
def recordCIDR (st : StartupState) (cidr : String) : StartupState :=
  match parseCIDR cidr with
  | .ok (_, subnet) => { st with allocator := st.allocator.record subnet }
  | .error _ => st

/-- One pass of the loop of lines 580–597: an endpoint with an empty address, subnet or node
    subnet list is skipped whole; otherwise its subnets are recorded, then it is saved. -/
def recordNode (newEndpoint : Node → Endpoint) (st : StartupState) (node : Node) :
    StartupState :=
  let ep := newEndpoint node
  if ep.publicAddresses.length = 0 ∨ ep.subnets.length = 0 ∨ ep.nodeSubnets.length = 0 then st
  else
    let st := ep.subnets.foldl recordCIDR st
    { st with store := st.store.saveEndpoint ep }

/-- `recordEndpoints`, given what the client's two `List` calls return. -/
def recordEndpoints (opts : Options) (newEndpoint : Node → Endpoint)
    (nodes : Except Failure (List Node)) (communities : Except Failure (List CommunityObj))
    (st : StartupState) : Except Failure StartupState := do
  let nodes ← nodes
  let communities ← communities
  let st := communities.foldl recordCommunity st
  if !opts.agent.enableEdgeIPAM then return st
  return nodes.foldl (recordNode newEndpoint) st

/-! ## §3. `recordIPAMBlocks`. -/

/-- `calicoapi.IPAMBlock`, by the fields read here. -/
structure IPAMBlock where
  cidr : String
  affinity : Option String
  deleted : Bool
  deriving DecidableEq, Repr

/-- One pass of the loop of lines 610–621.  `ipamblockmonitor.GetNodeName` is not in the
    sources and is a parameter. -/
def recordIPAMBlock (getNodeName : IPAMBlock → String) (st : StartupState) (block : IPAMBlock) :
    StartupState :=
  if block.deleted ∨ block.affinity = none then st
  else
    let nodeName := getNodeName block
    if nodeName = "" then st
    else { st with podCIDRStore := st.podCIDRStore.append nodeName block.cidr }

/-- `recordIPAMBlocks`, given what the client's `List` call returns. -/
def recordIPAMBlocks (getNodeName : IPAMBlock → String)
    (ipamBlocks : Except Failure (List IPAMBlock)) (st : StartupState) :
    Except Failure StartupState := do
  let ipamBlocks ← ipamBlocks
  return ipamBlocks.foldl (recordIPAMBlock getNodeName) st


/-! ## §4. One pass at a time. -/

/-- The network `ParseCIDR` returns for a CIDR, when it parses. -/
def parsedSubnet (cidr : String) : Option IPNet := (parseCIDR cidr).toOption.map Prod.snd

/-- The endpoints the node loop keeps: none of the three lists line 582 checks is empty. -/
def Endpoint.IsComplete (ep : Endpoint) : Prop :=
  ep.publicAddresses ≠ [] ∧ ep.subnets ≠ [] ∧ ep.nodeSubnets ≠ []

instance (ep : Endpoint) : Decidable ep.IsComplete := inferInstanceAs (Decidable (_ ∧ _ ∧ _))

/-- Every stored endpoint is complete, and stored under its own name. -/
def Store.Consistent (s : Store) : Prop :=
  ∀ name ep, s.endpoints name = some ep → ep.name = name ∧ ep.IsComplete

section Passes

variable {newEndpoint : Node → Endpoint} {st : StartupState}

@[simp] theorem recordCommunity_allocator (c : CommunityObj) :
    (recordCommunity st c).allocator = st.allocator := rfl

@[simp] theorem recordCommunity_endpoints (c : CommunityObj) :
    (recordCommunity st c).store.endpoints = st.store.endpoints := rfl

@[simp] theorem recordCIDR_store (cidr : String) : (recordCIDR st cidr).store = st.store := by
  unfold recordCIDR; split <;> rfl

theorem recordCIDR_recorded (cidr : String) :
    (recordCIDR st cidr).allocator.recorded = st.allocator.recorded ++ (parsedSubnet cidr).toList := by
  unfold recordCIDR parsedSubnet
  split <;> rename_i h <;> simp [h, Allocator.record, Except.toOption]

theorem recordNode_of_not_isComplete {node : Node} (h : ¬ (newEndpoint node).IsComplete) :
    recordNode newEndpoint st node = st := by
  rw [recordNode, if_pos]
  simpa [Endpoint.IsComplete, or_iff_not_imp_left] using h

theorem recordNode_of_isComplete {node : Node} (h : (newEndpoint node).IsComplete) :
    recordNode newEndpoint st node =
      let st' := (newEndpoint node).subnets.foldl recordCIDR st
      { st' with store := st'.store.saveEndpoint (newEndpoint node) } := by
  rw [recordNode, if_neg]
  simpa [Endpoint.IsComplete] using h

end Passes

/-! ## §5. Whole runs. -/

section Runs

variable {newEndpoint : Node → Endpoint}

theorem foldl_recordCIDR_store (cidrs : List String) (st : StartupState) :
    (cidrs.foldl recordCIDR st).store = st.store := by
  induction cidrs generalizing st with
  | nil => rfl
  | cons c cs ih => rw [List.foldl_cons, ih, recordCIDR_store]

theorem foldl_recordCIDR_recorded (cidrs : List String) (st : StartupState) :
    (cidrs.foldl recordCIDR st).allocator.recorded =
      st.allocator.recorded ++ cidrs.filterMap parsedSubnet := by
  induction cidrs generalizing st with
  | nil => simp
  | cons c cs ih =>
      rw [List.foldl_cons, ih, recordCIDR_recorded, List.filterMap_cons]
      cases parsedSubnet c <;> simp

/-- One node: a complete endpoint records the networks of its subnets, another nothing. -/
theorem recordNode_recorded (st : StartupState) (node : Node) :
    (recordNode newEndpoint st node).allocator.recorded = st.allocator.recorded ++
      if (newEndpoint node).IsComplete then (newEndpoint node).subnets.filterMap parsedSubnet
      else [] := by
  by_cases h : (newEndpoint node).IsComplete
  · rw [recordNode_of_isComplete h, if_pos h]
    exact foldl_recordCIDR_recorded _ st
  · rw [recordNode_of_not_isComplete h, if_neg h, List.append_nil]

theorem foldl_recordNode_recorded (nodes : List Node) (st : StartupState) :
    (nodes.foldl (recordNode newEndpoint) st).allocator.recorded = st.allocator.recorded ++
      (nodes.filter fun node => (newEndpoint node).IsComplete).flatMap
        fun node => (newEndpoint node).subnets.filterMap parsedSubnet := by
  induction nodes generalizing st with
  | nil => simp
  | cons node nodes ih =>
      rw [List.foldl_cons, ih, recordNode_recorded, List.filter_cons]
      by_cases h : (newEndpoint node).IsComplete <;> simp [h]

theorem saveEndpoint_consistent {s : Store} {ep : Endpoint} (hs : s.Consistent)
    (hep : ep.IsComplete) : (s.saveEndpoint ep).Consistent := by
  intro name ep' h
  simp only [Store.saveEndpoint] at h
  split_ifs at h with hn
  · cases h
    exact ⟨hn.symm, hep⟩
  · exact hs name ep' h

theorem recordNode_consistent {st : StartupState} (hs : st.store.Consistent) (node : Node) :
    (recordNode newEndpoint st node).store.Consistent := by
  by_cases h : (newEndpoint node).IsComplete
  · rw [recordNode_of_isComplete h]
    exact saveEndpoint_consistent (foldl_recordCIDR_store _ st ▸ hs) h
  · rwa [recordNode_of_not_isComplete h]

theorem foldl_recordNode_consistent (nodes : List Node) {st : StartupState}
    (hs : st.store.Consistent) : (nodes.foldl (recordNode newEndpoint) st).store.Consistent := by
  induction nodes generalizing st with
  | nil => exact hs
  | cons node nodes ih => exact ih (recordNode_consistent hs node)

theorem foldl_recordCommunity_allocator (communities : List CommunityObj) (st : StartupState) :
    (communities.foldl recordCommunity st).allocator = st.allocator := by
  induction communities generalizing st with
  | nil => rfl
  | cons c cs ih => rw [List.foldl_cons, ih, recordCommunity_allocator]

theorem foldl_recordCommunity_endpoints (communities : List CommunityObj) (st : StartupState) :
    (communities.foldl recordCommunity st).store.endpoints = st.store.endpoints := by
  induction communities generalizing st with
  | nil => rfl
  | cons c cs ih => rw [List.foldl_cons, ih, recordCommunity_endpoints]

/-- Once both lists are returned: the communities, then the nodes if edge IPAM is on. -/
theorem recordEndpoints_ok (opts : Options) (nodes : List Node)
    (communities : List CommunityObj) (st : StartupState) :
    recordEndpoints opts newEndpoint (.ok nodes) (.ok communities) st =
      .ok (if opts.agent.enableEdgeIPAM then
          nodes.foldl (recordNode newEndpoint) (communities.foldl recordCommunity st)
        else communities.foldl recordCommunity st) := by
  simp only [recordEndpoints]
  cases opts.agent.enableEdgeIPAM <;> rfl

/-- **`recordEndpoints` stores only complete endpoints, each under its own name.** -/
theorem recordEndpoints_consistent {opts : Options} {nodes : Except Failure (List Node)}
    {communities : Except Failure (List CommunityObj)} {st st' : StartupState}
    (h : recordEndpoints opts newEndpoint nodes communities st = .ok st')
    (hs : st.store.Consistent) : st'.store.Consistent := by
  rcases nodes with _ | nodes
  · cases h
  rcases communities with _ | communities
  · cases h
  rw [recordEndpoints_ok] at h
  cases h
  have hc : (communities.foldl recordCommunity st).store.Consistent :=
    fun name ep => foldl_recordCommunity_endpoints communities st ▸ hs name ep
  split
  · exact foldl_recordNode_consistent nodes hc
  · exact hc

end Runs

/-- The flag defaults for cluster `bj`, with edge IPAM on, as `Complete` sets it under Calico. -/
def calicoOptions : Options :=
  { defaultOptions "" with
    cluster := "bj", agent := { (defaultOptions "").agent with enableEdgeIPAM := true } }

/-- An edge node with an external address, an internal address and a pod CIDR. -/
def addressedNode : Node := ⟨"edge1", ["203.0.113.7"], ["192.168.1.7"], ["10.20.0.0/26"]⟩

theorem recordEndpoints_consistent_addressedNode :
    ∃ st', recordEndpoints calicoOptions (newEndpoint "bj") (.ok [addressedNode]) (.ok [])
        StartupState.empty = .ok st' ∧
      StartupState.empty.store.Consistent ∧ st'.store.Consistent :=
  have hs : StartupState.empty.store.Consistent := fun _ _ h => Option.noConfusion h
  ⟨_, rfl, hs, @recordEndpoints_consistent (newEndpoint "bj") calicoOptions (.ok [addressedNode])
    (.ok []) StartupState.empty _ rfl hs⟩

/-- **What `recordEndpoints` records.**  Once the client has returned both lists,
    `recordEndpoints` returns nil, and the allocator has been passed, in order, the network of
    every subnet that parses of every listed node whose endpoint is complete; with edge IPAM
    off, nothing. -/
theorem recordEndpoints_recorded (opts : Options) (newEndpoint : Node → Endpoint)
    (nodes : List Node) (communities : List CommunityObj) (st : StartupState) :
    ∃ st', recordEndpoints opts newEndpoint (.ok nodes) (.ok communities) st = .ok st' ∧
      st'.allocator.recorded = st.allocator.recorded ++
        if opts.agent.enableEdgeIPAM then
          (nodes.filter fun node => (newEndpoint node).IsComplete).flatMap
            fun node => (newEndpoint node).subnets.filterMap parsedSubnet
        else [] := by
  refine ⟨_, recordEndpoints_ok opts nodes communities st, ?_⟩
  split
  · rw [foldl_recordNode_recorded, foldl_recordCommunity_allocator]
  · rw [foldl_recordCommunity_allocator, List.append_nil]

/-- An edge node that has a pod CIDR and no address yet. -/
def unaddressedNode : Node := ⟨"edge1", [], [], ["10.20.0.0/26"]⟩

/-- With edge IPAM on, the pod CIDR of a node whose endpoint has no address is not recorded. -/
theorem recordEndpoints_skips_unaddressed_node :
    ¬ ∀ (opts : Options) (nodes : List Node) (communities : List CommunityObj) (st' : StartupState),
      opts.agent.enableEdgeIPAM = true →
      recordEndpoints opts (newEndpoint opts.cluster) (.ok nodes) (.ok communities)
        StartupState.empty = .ok st' →
      ∀ node ∈ nodes, ∀ cidr ∈ (newEndpoint opts.cluster node).subnets, ∀ ip subnet,
        parseCIDR cidr = .ok (ip, subnet) → subnet ∈ st'.allocator.recorded := fun h =>
  List.not_mem_nil _ <|
    h calicoOptions [unaddressedNode] [] StartupState.empty rfl rfl unaddressedNode
      (List.mem_singleton_self _) "10.20.0.0/26" (List.mem_singleton_self _) (IPv4 10 20 0 0)
      ⟨.v4 0x0A140000#32, .v4 0xFFFFFFC0#32⟩ (by decide)

/-! ## §6. `recordIPAMBlocks`, over a whole run. -/

section IPAMBlocks

variable {getNodeName : IPAMBlock → String}

/-- The blocks lines 611 and 616 let through for a node name: live, with an affinity, and
    mapped to that name, which is not empty. -/
def IPAMBlock.RecordedFor (getNodeName : IPAMBlock → String) (nodeName : String)
    (block : IPAMBlock) : Prop :=
  block.deleted = false ∧ block.affinity ≠ none ∧ nodeName ≠ "" ∧ getNodeName block = nodeName

instance (getNodeName : IPAMBlock → String) (nodeName : String) (block : IPAMBlock) :
    Decidable (block.RecordedFor getNodeName nodeName) :=
  inferInstanceAs (Decidable (_ ∧ _ ∧ _ ∧ _))

theorem recordIPAMBlock_frame (st : StartupState) (block : IPAMBlock) :
    (recordIPAMBlock getNodeName st block).store = st.store ∧
      (recordIPAMBlock getNodeName st block).allocator = st.allocator := by
  simp only [recordIPAMBlock]
  split_ifs <;> exact ⟨rfl, rfl⟩

theorem recordIPAMBlock_cidrs (st : StartupState) (block : IPAMBlock) (nodeName : String) :
    (recordIPAMBlock getNodeName st block).podCIDRStore.cidrs nodeName =
      st.podCIDRStore.cidrs nodeName ++
        if block.RecordedFor getNodeName nodeName then [block.cidr] else [] := by
  simp only [recordIPAMBlock, IPAMBlock.RecordedFor]
  by_cases hn : getNodeName block = nodeName
  · subst hn
    split_ifs <;> simp_all [PodCIDRStore.append]
  · split_ifs <;> simp_all [PodCIDRStore.append, Ne.symm hn]

/-- **What `recordIPAMBlocks` records.**  Once the client has returned the blocks,
    `recordIPAMBlocks` returns nil; the pod CIDRs of each node name have been extended, in
    order, by the CIDRs of the blocks recorded for it, and nothing else has changed. -/
theorem recordIPAMBlocks_cidrs (getNodeName : IPAMBlock → String) (blocks : List IPAMBlock)
    (st : StartupState) :
    ∃ st', recordIPAMBlocks getNodeName (.ok blocks) st = .ok st' ∧
      st'.store = st.store ∧ st'.allocator = st.allocator ∧
      ∀ nodeName, st'.podCIDRStore.cidrs nodeName = st.podCIDRStore.cidrs nodeName ++
        (blocks.filter fun b => b.RecordedFor getNodeName nodeName).map IPAMBlock.cidr := by
  refine ⟨_, rfl, ?_⟩
  induction blocks generalizing st with
  | nil => simp
  | cons block blocks ih =>
      obtain ⟨hstore, halloc, hcidrs⟩ := ih (recordIPAMBlock getNodeName st block)
      obtain ⟨hstore₀, halloc₀⟩ := recordIPAMBlock_frame st block
      refine ⟨hstore.trans hstore₀, halloc.trans halloc₀, fun nodeName => ?_⟩
      rw [List.foldl_cons, hcidrs, recordIPAMBlock_cidrs, List.filter_cons]
      by_cases h : block.RecordedFor getNodeName nodeName <;> simp [h]

end IPAMBlocks

/-! ## §7. What the store holds after `recordEndpoints`.

  `SaveEndpoint` and `SaveCommunity` replace the entry of the same name, so after a loop a name's
  entry is the one the LAST pass saved under it (`find?` on the reversed list), or else the one
  the store held before.  Each pass gets its lookup lemma, and each loop the run lemma that
  follows from it by induction from the end of the list. -/

section Lookups

variable {newEndpoint : Node → Endpoint}

theorem recordCommunity_communities (st : StartupState) (c : CommunityObj) (name : String) :
    (recordCommunity st c).store.communities name =
      if c.name = name then some ⟨c.name, c.members.toFinset⟩ else st.store.communities name := by
  simp only [recordCommunity, Store.saveCommunity, eq_comm]

theorem recordNode_communities (st : StartupState) (node : Node) :
    (recordNode newEndpoint st node).store.communities = st.store.communities := by
  by_cases h : (newEndpoint node).IsComplete
  · rw [recordNode_of_isComplete h]
    simp only [Store.saveEndpoint, foldl_recordCIDR_store]
  · rw [recordNode_of_not_isComplete h]

/-- One node: its endpoint is saved under its name when it is complete. -/
theorem recordNode_endpoints (st : StartupState) (node : Node) (name : String) :
    (recordNode newEndpoint st node).store.endpoints name =
      if (newEndpoint node).IsComplete ∧ (newEndpoint node).name = name then some (newEndpoint node)
      else st.store.endpoints name := by
  by_cases h : (newEndpoint node).IsComplete
  · rw [recordNode_of_isComplete h]
    simp only [Store.saveEndpoint, foldl_recordCIDR_store, h, true_and, eq_comm]
  · rw [recordNode_of_not_isComplete h, if_neg (fun hc => h hc.1)]

theorem foldl_recordCommunity_communities (communities : List CommunityObj) (st : StartupState)
    (name : String) :
    (communities.foldl recordCommunity st).store.communities name =
      ((communities.reverse.find? (·.name = name)).map fun c => ⟨c.name, c.members.toFinset⟩).or
        (st.store.communities name) := by
  induction communities using List.reverseRecOn with
  | nil => rfl
  | append_singleton cs c ih =>
      rw [List.foldl_append, List.foldl_cons, List.foldl_nil, recordCommunity_communities, ih]
      by_cases hc : c.name = name <;> simp [hc]

theorem foldl_recordNode_communities (nodes : List Node) (st : StartupState) :
    (nodes.foldl (recordNode newEndpoint) st).store.communities = st.store.communities := by
  induction nodes generalizing st with
  | nil => rfl
  | cons node nodes ih => rw [List.foldl_cons, ih, recordNode_communities]

theorem foldl_recordNode_endpoints (nodes : List Node) (st : StartupState) (name : String) :
    (nodes.foldl (recordNode newEndpoint) st).store.endpoints name =
      ((nodes.reverse.map newEndpoint).find? fun ep => ep.IsComplete ∧ ep.name = name).or
        (st.store.endpoints name) := by
  induction nodes using List.reverseRecOn with
  | nil => rfl
  | append_singleton ns node ih =>
      rw [List.foldl_append, List.foldl_cons, List.foldl_nil, recordNode_endpoints, ih]
      by_cases hc : (newEndpoint node).IsComplete ∧ (newEndpoint node).name = name <;> simp [hc]

/-- **What `recordEndpoints` stores.**  Once the client has returned both lists,
    `recordEndpoints` returns nil, and under each name the store holds the last listed community
    of that name, its members as a set, and, with edge IPAM on, the endpoint of the last listed
    node whose endpoint is complete and has that name; where there is none, what it held before.
    An incomplete endpoint never replaces a stored one. -/
theorem recordEndpoints_store (opts : Options) (newEndpoint : Node → Endpoint)
    (nodes : List Node) (communities : List CommunityObj) (st : StartupState) :
    ∃ st', recordEndpoints opts newEndpoint (.ok nodes) (.ok communities) st = .ok st' ∧
      ∀ name,
        st'.store.communities name =
          ((communities.reverse.find? (·.name = name)).map
            fun c => ⟨c.name, c.members.toFinset⟩).or (st.store.communities name) ∧
        st'.store.endpoints name =
          (((if opts.agent.enableEdgeIPAM then nodes.reverse else []).map newEndpoint).find?
            fun ep => ep.IsComplete ∧ ep.name = name).or (st.store.endpoints name) := by
  refine ⟨_, recordEndpoints_ok opts nodes communities st, fun name => ?_⟩
  cases opts.agent.enableEdgeIPAM
  · exact ⟨foldl_recordCommunity_communities _ _ _, by
      rw [if_neg Bool.false_ne_true, foldl_recordCommunity_endpoints]; rfl⟩
  · rw [if_pos rfl, if_pos rfl, foldl_recordNode_communities, foldl_recordNode_endpoints,
      foldl_recordCommunity_endpoints]
    exact ⟨foldl_recordCommunity_communities _ _ _, rfl⟩

end Lookups

end FabEdge.Operator
