/-
  FabEdge.Operator.Options — the operator's options, their defaults, and `Validate`
  (`pkg/operator/options.go`).

  `Validate` is a chain of early returns; here each group of checks is a function of its own,
  in the order of the source, and `validate` runs them in turn.  A group returns the first
  failure it meets, so `validate` fails exactly as the Go code does, message for message,
  panics included: `fileExists` asks a nil `FileInfo` whether it is a directory when `os.Stat`
  fails for another reason than a missing file, the three leader-election durations are
  dereferenced pointers, and the overlap loop calls `Contains` on the `*IPNet` of a
  `ParseCIDR` whose error it discarded.

  Only the fields these functions read are kept; `MODEL_MAP.json` lists the others.
-/
import FabEdge.Go.Regexp
import FabEdge.Go.Net.Parse
import FabEdge.Go.Runtime

namespace FabEdge.Operator

open FabEdge.Go

/-! ## §1. Data. -/

def roleHost : String := "host"

def roleMember : String := "member"

/-- `apis.Endpoint`, by the fields the operator's startup reads. -/
structure Endpoint where
  name : String
  publicAddresses : List String
  subnets : List String
  nodeSubnets : List String
  deriving DecidableEq, Repr

/-- `agentctl.Config`: the fields read here. -/
structure AgentConfig where
  imagePullPolicy : String
  enableEdgeIPAM : Bool
  enableProxy : Bool
  deriving DecidableEq, Repr

/-- `connectorctl.Config`: the fields read here. -/
structure ConnectorConfig where
  connectorLabels : List (String × String)
  endpoint : Endpoint
  providedSubnets : List String
  deriving DecidableEq, Repr

/-- `manager.Options`: the leader-election durations, pointers to int64 nanoseconds. -/
structure ManagerOptions where
  leaseDuration : Option Int
  renewDeadline : Option Int
  retryPeriod : Option Int
  deriving DecidableEq, Repr

/-- `Options`.  A Go map is kept as the list of its entries; `len` of the map is the length. -/
structure Options where
  cluster : String
  clusterRole : String
  /-- `Namespace`; `namespace` is a keyword of Lean. -/
  ns : String
  edgePodCIDR : String
  edgeLabels : List (String × String)
  cniType : String
  caSecretName : String
  certOrganization : String
  agent : AgentConfig
  connector : ConnectorConfig
  managerOpts : ManagerOptions
  apiServerCertFile : String
  apiServerKeyFile : String
  apiServerAddress : String
  initToken : String
  deriving DecidableEq, Repr

/-- `time.Second`, in nanoseconds. -/
def second : Int := 1000000000

/-- The defaults `AddFlags` registers.  `certutil.DefaultOrganization` is not in the sources
    and is a parameter; `EnableEdgeIPAM` is no flag and starts false. -/
def defaultOptions (defaultOrganization : String) : Options where
  cluster := ""
  clusterRole := "host"
  ns := "fabedge"
  edgePodCIDR := ""
  edgeLabels := [("node-role.kubernetes.io/edge", "")]
  cniType := ""
  caSecretName := "fabedge-ca"
  certOrganization := defaultOrganization
  agent := { imagePullPolicy := "IfNotPresent", enableEdgeIPAM := false, enableProxy := false }
  connector :=
    { connectorLabels := [("app", "fabedge-connector")]
      endpoint := { name := "", publicAddresses := [], subnets := [], nodeSubnets := [] }
      providedSubnets := [] }
  managerOpts :=
    { leaseDuration := some (15 * second)
      renewDeadline := some (10 * second)
      retryPeriod := some (2 * second) }
  apiServerCertFile := ""
  apiServerKeyFile := ""
  apiServerAddress := ""
  initToken := ""

/-! ## §2. The cluster name. -/

/-- `[a-z0-9]` -/
def alnumClass : Regexp := .charClass [('a', 'z'), ('0', '9')]

/-- `[-a-z0-9]` -/
def alnumDashClass : Regexp := .charClass [('-', '-'), ('a', 'z'), ('0', '9')]

/-- One DNS label: `[a-z0-9]([-a-z0-9]*[a-z0-9])?`. -/
def dns1123Label : Regexp := .cat alnumClass (Regexp.quest (.cat (.star alnumDashClass) alnumClass))

/-- `dns1123Reg`, the body of
    `^[a-z0-9]([-a-z0-9]*[a-z0-9])?(\.[a-z0-9]([-a-z0-9]*[a-z0-9])?)*$`. -/
def dns1123Reg : Regexp := .cat dns1123Label (.star (.cat (.lit '.') dns1123Label))

/-- Lines 291–297.  `len` of a string is its byte length, zero exactly when it is empty. -/
def validateClusterName (cluster : String) : Except Failure Unit := do
  if cluster.length = 0 then throw (.error "a cluster name is required")
  if !dns1123Reg.matchString cluster then throw (.error ("invalid cluster name: " ++ cluster))

/-- The common name of the API client's certificate request in `createTLSSecretForClient`. -/
def clientCommonName (cluster : String) : String := cluster ++ ".fabedge-client"

/-! ## §3. Role, files and labels. -/

/-- `fileExists`: `os.Stat`, then `IsDir()` on its `FileInfo` unless the file is missing. -/
def fileExists (fs : FileSystem) (filename : String) : Except Failure Bool :=
  match fs filename with
  | .notExist => pure false
  | .otherError => throw .nilDereference
  | .found isDir => pure !isDir

/-- Lines 299–315. -/
def validateRole (fs : FileSystem) (opts : Options) : Except Failure Unit := do
  if opts.clusterRole ≠ roleHost ∧ opts.clusterRole ≠ roleMember then
    throw (.error ("unknown cluster role: " ++ opts.clusterRole))
  if opts.clusterRole = roleMember ∧ opts.initToken.length = 0 then
    throw (.error "initialization token is needed when cluster role is member")
  if opts.clusterRole = roleHost then
    if !(← fileExists fs opts.apiServerKeyFile) then
      throw (.error "api server key file doesnt\x27 exist")
    if !(← fileExists fs opts.apiServerCertFile) then
      throw (.error "api server certificate file doesnt\x27 exist")

/-- Lines 317–327. -/
def validateLabels (opts : Options) : Except Failure Unit := do
  if opts.edgeLabels.length = 0 then throw (.error "edge labels is needed")
  if opts.connector.connectorLabels.length = 0 then throw (.error "connector labels is needed")
  if opts.connector.endpoint.publicAddresses.length = 0 then
    throw (.error "connector public addresses is needed")

/-! ## §4. Subnets. -/

/-- The loop of lines 329–333: every connector subnet must parse. -/
def parseSubnets : List String → Except Failure Unit
  | [] => pure ()
  | subnet :: rest =>
      match parseCIDR subnet with
      | .error err => throw (.error ("invalid subnet: " ++ subnet ++ ". " ++ err.error))
      | .ok _ => parseSubnets rest

def overlapMessage : String := "EdgePodCIDR is overlaped with connector\x27s subnets"

/-- The loop of lines 341–346.  The error of `ParseCIDR(s)` is discarded: then `ip2` and
    `subnet2` are nil, `subnet.Contains(nil)` is evaluated, and if it is false
    `subnet2.Contains(ip)` is called on the nil `*IPNet`. -/
def checkOverlap (ip : IP) (subnet : IPNet) : List String → Except Failure Unit
  | [] => pure ()
  | s :: rest =>
      match parseCIDR s with
      | .ok (ip2, subnet2) =>
          if subnet.contains ip2 || subnet2.contains ip then throw (.error overlapMessage)
          else checkOverlap ip subnet rest
      | .error _ =>
          if subnet.contains .nil then throw (.error overlapMessage) else throw .nilDereference

/-- Lines 329–347. -/
def validateSubnets (opts : Options) : Except Failure Unit := do
  parseSubnets opts.connector.providedSubnets
  if opts.agent.enableEdgeIPAM then
    match parseCIDR opts.edgePodCIDR with
    | .error err =>
        throw (.error ("invalid edge pod cidr: " ++ opts.edgePodCIDR ++ ". " ++ err.error))
    | .ok (ip, subnet) => checkOverlap ip subnet opts.connector.providedSubnets

/-! ## §5. Pull policy and leader election. -/

/-- Lines 349–354. -/
def validatePullPolicy (policy : String) : Except Failure Unit :=
  if policy ≠ "Always" ∧ policy ≠ "IfNotPresent" ∧ policy ≠ "Never" then
    throw (.error ("not supported image pull policy: " ++ policy))
  else pure ()

/-- Lines 356–373, the checks copied from client-go's `leaderelection.go`. -/
def validateLeaderElection (m : ManagerOptions) : Except Failure Unit := do
  let some leaseDuration := m.leaseDuration | throw .nilDereference
  let some renewDeadline := m.renewDeadline | throw .nilDereference
  let some retryPeriod := m.retryPeriod | throw .nilDereference
  if leaseDuration ≤ renewDeadline then
    throw (.error "leaseDuration must be greater than renewDeadline")
  if renewDeadline ≤ jitteredDuration retryPeriod then
    throw (.error "renewDeadline must be greater than retryPeriod*JitterFactor")
  if leaseDuration < second then throw (.error "leaseDuration must be greater than 1 second")
  if renewDeadline < second then throw (.error "renewDeadline must be greater than 1 second")
  if retryPeriod < second then throw (.error "retryPeriod must be greater than 1 second")

/-! ## §6. `Validate`. -/

/-- `(Options).Validate`. -/
def validate (fs : FileSystem) (opts : Options) : Except Failure Unit := do
  validateClusterName opts.cluster
  validateRole fs opts
  validateLabels opts
  validateSubnets opts
  validatePullPolicy opts.agent.imagePullPolicy
  validateLeaderElection opts.managerOpts

end FabEdge.Operator
