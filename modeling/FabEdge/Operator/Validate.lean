/-
  FabEdge.Operator.Validate — what `Validate` accepts as a whole, and when it panics.

  `Validate` is six groups of checks run one after another (`validate`).  The leader-election
  group compares `renewDeadline` with `time.Duration(1.2 * float64(retryPeriod))`; by
  `jitteredDuration_eq` that is the exact comparison `5 · renewDeadline > 6 · retryPeriod` for
  every retry period up to `2 ^ 50` ns.  Two groups dereference something Go may leave nil:
  `fileExists` calls `IsDir` on the nil `FileInfo` of a failed `os.Stat`, and the leader-election
  group reads three duration pointers.  The overlap loop never does, because the parse loop has
  already parsed every subnet it reparses.

  Main results:
    * `validateLeaderElection_exact` — the binary64 bound is `⌊6 · retryPeriod / 5⌋`, and the
      leader-election checks in exact arithmetic,
    * `validate_ne_nilDereference` — with files that `os.Stat` finds or reports missing and the
      three durations set, `Validate` never panics,
    * `validate_otherError_key_panics` — a host whose key file `os.Stat` fails on for another
      reason than absence makes `Validate` panic, once the cluster name is accepted,
    * `validate_defaultOptions` — the flag defaults, with the flags the operator requires, pass.
-/
import FabEdge.Operator.SubnetOverlap
import FabEdge.Go.Jitter

namespace FabEdge.Operator

open FabEdge.Go

/-! ## §1. Leader election. -/

theorem validateLeaderElection_some_ok (lease renew retry : Int) :
    validateLeaderElection ⟨some lease, some renew, some retry⟩ = .ok () ↔
      renew < lease ∧ jitteredDuration retry < renew ∧ second ≤ lease ∧ second ≤ renew ∧
        second ≤ retry := by
  simp only [validateLeaderElection, check_bind_eq_ok, check_eq_ok, Int.not_le, Int.not_lt]

/-- **The leader-election checks, in exact arithmetic.**  For a retry period of at most
    `2 ^ 50` ns they pass iff the three durations are set,
    `leaseDuration > renewDeadline`, `5 · renewDeadline > 6 · retryPeriod`, and the renew
    deadline and the retry period are at least a second. -/
theorem validateLeaderElection_ok_iff {m : ManagerOptions}
    (hretry : ∀ r, m.retryPeriod = some r → r ≤ 2 ^ 50) :
    validateLeaderElection m = .ok () ↔
      ∃ lease renew retry, m = ⟨some lease, some renew, some retry⟩ ∧ renew < lease ∧
        6 * retry < 5 * renew ∧ second ≤ renew ∧ second ≤ retry := by
  rcases m with ⟨_ | lease, _ | renew, _ | retry⟩
  case mk.some.some.some =>
    -- from a second on, the binary64 bound is the exact `⌊6 · retry / 5⌋`
    have hexact (hs : second ≤ retry) : jitteredDuration retry < renew ↔ 6 * retry < 5 * renew := by
      rw [jitteredDuration_eq (by unfold second at hs; omega) (hretry retry rfl)]
      omega
    simp only [validateLeaderElection_some_ok, ManagerOptions.mk.injEq, Option.some.injEq,
      and_assoc, exists_and_left, exists_eq_left']
    constructor
    · rintro ⟨h1, h2, -, h4, h5⟩
      exact ⟨h1, (hexact h5).1 h2, h4, h5⟩
    · rintro ⟨h1, h2, h4, h5⟩
      exact ⟨h1, (hexact h5).2 h2, Int.le_of_lt (Int.lt_of_le_of_lt h4 h1), h4, h5⟩
  all_goals simp [validateLeaderElection, throw, throwThe, MonadExceptOf.throw, bind, Except.bind]

/-- **The leader-election checks, in exact arithmetic.**  From 1 ns to `2 ^ 50` ns, the binary64
    product `time.Duration(JitterFactor * float64(retryPeriod))` is `⌊6 · retryPeriod / 5⌋`; so
    for a retry period of at most `2 ^ 50` ns the checks pass iff the three durations are set,
    `leaseDuration > renewDeadline`, `5 · renewDeadline > 6 · retryPeriod`, and the renew deadline
    and the retry period are at least a second. -/
theorem validateLeaderElection_exact {m : ManagerOptions}
    (hretry : ∀ r, m.retryPeriod = some r → r ≤ 2 ^ 50) :
    (∀ r, m.retryPeriod = some r → 1 ≤ r → jitteredDuration r = 6 * r / 5) ∧
      (validateLeaderElection m = .ok () ↔
        ∃ lease renew retry, m = ⟨some lease, some renew, some retry⟩ ∧ renew < lease ∧
          6 * retry < 5 * renew ∧ second ≤ renew ∧ second ≤ retry) :=
  ⟨fun r hr h1 => jitteredDuration_eq h1 (hretry r hr), validateLeaderElection_ok_iff hretry⟩

theorem validateLeaderElection_exact_defaults :
    (∀ r, (defaultOptions "").managerOpts.retryPeriod = some r → r ≤ 2 ^ 50) ∧
      (∀ r, (defaultOptions "").managerOpts.retryPeriod = some r → 1 ≤ r →
        jitteredDuration r = 6 * r / 5) ∧
      (validateLeaderElection (defaultOptions "").managerOpts = .ok () ↔
        ∃ lease renew retry,
          (defaultOptions "").managerOpts = ⟨some lease, some renew, some retry⟩ ∧
            renew < lease ∧ 6 * retry < 5 * renew ∧ second ≤ renew ∧ second ≤ retry) :=
  have hretry : ∀ r, (defaultOptions "").managerOpts.retryPeriod = some r → r ≤ 2 ^ 50 :=
    fun r hr => by
      simp only [defaultOptions, second, Option.some.injEq] at hr
      omega
  ⟨hretry, validateLeaderElection_exact hretry⟩

/-! ## §2. Panics. -/

theorem validateClusterName_ne_nilDereference (cluster : String) :
    validateClusterName cluster ≠ .error .nilDereference := by
  simp only [validateClusterName, ne_eq, check_bind_eq_nilDereference, check_ne_nilDereference,
    and_false, not_false_eq_true]

/-- `fileExists` returns a result whenever `os.Stat` reports the file found or missing. -/
theorem fileExists_ok {fs : FileSystem} {filename : String} (h : fs filename ≠ .otherError) :
    ∃ b, fileExists fs filename = pure b := by
  unfold fileExists
  split
  · exact ⟨false, rfl⟩
  · contradiction
  · exact ⟨_, rfl⟩

theorem validateRole_ne_nilDereference {fs : FileSystem} {opts : Options}
    (hkey : fs opts.apiServerKeyFile ≠ .otherError)
    (hcert : fs opts.apiServerCertFile ≠ .otherError) :
    validateRole fs opts ≠ .error .nilDereference := by
  obtain ⟨_, hk⟩ := fileExists_ok hkey
  obtain ⟨_, hc⟩ := fileExists_ok hcert
  simp only [validateRole, hk, hc, ne_eq, check_bind_eq_nilDereference, not_and]
  intro _ _
  split
  · -- a host: the two file checks, on the answers `fileExists` gave
    rw [pure_bind, check_bind_eq_nilDereference, pure_bind]
    exact fun h => check_ne_nilDereference h.2
  · exact fun h => nomatch h

theorem validateLabels_ne_nilDereference (opts : Options) :
    validateLabels opts ≠ .error .nilDereference := by
  simp only [validateLabels, ne_eq, check_bind_eq_nilDereference, check_ne_nilDereference,
    and_false, not_false_eq_true]

theorem validatePullPolicy_ne_nilDereference (policy : String) :
    validatePullPolicy policy ≠ .error .nilDereference :=
  check_ne_nilDereference

theorem validateLeaderElection_ne_nilDereference {m : ManagerOptions}
    (hlease : m.leaseDuration ≠ none) (hrenew : m.renewDeadline ≠ none)
    (hretry : m.retryPeriod ≠ none) : validateLeaderElection m ≠ .error .nilDereference := by
  obtain ⟨_ | lease, _ | renew, _ | retry⟩ := m <;> simp only [ne_eq, not_true_eq_false] at *
  simp only [validateLeaderElection, check_bind_eq_nilDereference, check_ne_nilDereference,
    and_false, not_false_eq_true]

/-- **`Validate` panics only on a file `os.Stat` cannot report on, or on an unset duration.** -/
theorem validate_ne_nilDereference {fs : FileSystem} {opts : Options}
    (hkey : fs opts.apiServerKeyFile ≠ .otherError)
    (hcert : fs opts.apiServerCertFile ≠ .otherError)
    (hlease : opts.managerOpts.leaseDuration ≠ none)
    (hrenew : opts.managerOpts.renewDeadline ≠ none)
    (hretry : opts.managerOpts.retryPeriod ≠ none) :
    validate fs opts ≠ .error .nilDereference := by
  unfold validate
  refine bind_ne_nilDereference (validateClusterName_ne_nilDereference _) fun _ => ?_
  refine bind_ne_nilDereference (validateRole_ne_nilDereference hkey hcert) fun _ => ?_
  refine bind_ne_nilDereference (validateLabels_ne_nilDereference _) fun _ => ?_
  refine bind_ne_nilDereference (validateSubnets_ne_nilDereference _) fun _ => ?_
  refine bind_ne_nilDereference (validatePullPolicy_ne_nilDereference _) fun _ => ?_
  exact validateLeaderElection_ne_nilDereference hlease hrenew hretry

/-- Every file is reported on, as a regular file. -/
def regularFiles : FileSystem := fun _ => .found false

/-- A host `bj` with its key pair on disk, edge IPAM on, and a connector subnet apart from its
    edge pod CIDR: every group of `Validate` runs, the overlap loop included. -/
def bjHostOptions : Options :=
  { defaultOptions "" with
    cluster := "bj", edgePodCIDR := "10.233.64.0/18", apiServerKeyFile := "tls.key",
    apiServerCertFile := "tls.crt"
    agent := { (defaultOptions "").agent with enableEdgeIPAM := true }
    connector := { (defaultOptions "").connector with
      endpoint := { (defaultOptions "").connector.endpoint with publicAddresses := ["203.0.113.1"] }
      providedSubnets := ["192.168.1.0/24"] } }

theorem validate_ne_nilDereference_bj :
    regularFiles bjHostOptions.apiServerKeyFile ≠ .otherError ∧
      regularFiles bjHostOptions.apiServerCertFile ≠ .otherError ∧
      bjHostOptions.managerOpts.leaseDuration ≠ none ∧
      bjHostOptions.managerOpts.renewDeadline ≠ none ∧
      bjHostOptions.managerOpts.retryPeriod ≠ none ∧
      validate regularFiles bjHostOptions ≠ .error .nilDereference :=
  ⟨by decide, by decide, by decide, by decide, by decide,
    validate_ne_nilDereference (by decide) (by decide) (by decide) (by decide) (by decide)⟩

set_option maxRecDepth 4000 in
example : validate regularFiles bjHostOptions = .ok () := by decide

theorem validateRole_otherError_key {fs : FileSystem} {opts : Options}
    (hrole : opts.clusterRole = roleHost) (hkey : fs opts.apiServerKeyFile = .otherError) :
    validateRole fs opts = .error .nilDereference := by
  simp [validateRole, hrole, roleHost, roleMember, fileExists, hkey, throw, throwThe,
    MonadExceptOf.throw, bind, Except.bind, pure, Except.pure]

/-- **A key file `os.Stat` cannot report on makes `Validate` panic** on a host whose cluster
    name is accepted: `fileExists` asks the nil `FileInfo` whether it is a directory. -/
theorem validate_otherError_key_panics {fs : FileSystem} {opts : Options}
    (hname : validateClusterName opts.cluster = .ok ()) (hrole : opts.clusterRole = roleHost)
    (hkey : fs opts.apiServerKeyFile = .otherError) :
    validate fs opts = .error .nilDereference := by
  simp only [validate, hname, validateRole_otherError_key hrole hkey, bind, Except.bind]

/-- `os.Stat` fails on every path with an error other than absence (a permission error). -/
def unreadableFiles : FileSystem := fun _ => .otherError

example : validate unreadableFiles { defaultOptions "" with cluster := "bj" } =
    .error .nilDereference := by decide

/-! ## §3. The defaults. -/

/-- **The flag defaults pass `Validate`** once the flags it requires are given: a cluster name
    it accepts, the API server's key and certificate files, and the connector's public
    addresses.  The defaults of the other flags pass their own checks. -/
theorem validate_defaultOptions (org : String) {fs : FileSystem} {cluster key cert : String}
    {publicAddresses : List String} (hname : validateClusterName cluster = .ok ())
    (hkey : fs key = .found false) (hcert : fs cert = .found false)
    (hpa : publicAddresses ≠ []) :
    validate fs { defaultOptions org with
      cluster := cluster, apiServerKeyFile := key, apiServerCertFile := cert,
      connector := { (defaultOptions org).connector with
        endpoint := { (defaultOptions org).connector.endpoint with
          publicAddresses := publicAddresses } } } = .ok () := by
  simp only [validate, bind_eq_ok]
  refine ⟨hname, ?_, ?_, rfl, ?_, ?_⟩
  · simp [validateRole, defaultOptions, roleHost, roleMember, fileExists, hkey, hcert, bind,
      Except.bind, pure, Except.pure]
  · simp only [validateLabels, defaultOptions, check_bind_eq_ok, check_eq_ok, List.length_eq_zero]
    exact ⟨List.cons_ne_nil _ _, List.cons_ne_nil _ _, hpa⟩
  · show validatePullPolicy "IfNotPresent" = .ok ()
    decide
  · show validateLeaderElection ⟨some (15 * second), some (10 * second), some (2 * second)⟩ = .ok ()
    decide

end FabEdge.Operator
