import XdpFirewall.Api.Delivery
import XdpFirewall.BtmpMonitor.Protection
import XdpFirewall.ControlPlane.ErrorText
import XdpFirewall.ControlPlane.GeoFetch
import XdpFirewall.Lib.KeyedRows
import XdpFirewall.Net.Ipv6Text

/-!
# NodeRegistry — the nodes that the control plane knows of

A node reports the addresses of its interface with each heartbeat, and a node that has not been
heard of for a while is removed. Requests to the API are checked against the addresses that are
left, which is why every row must stay readable.
-/

namespace XdpFirewall
namespace ControlPlane

open Api Lib Net IpText Policy

/-! ## Rows -/

structure HeartbeatRequest where
  nodeId : String
  interfaceName : String
  lastAppliedVersion : Int
  status : String
  error : String
  interfaceIps : List String

/-- A row of `firewall_nodes`. Times are nanoseconds. -/
structure NodeModel extends NodeRow where
  lastSeenAt : Int
  lastAppliedVersion : Int
  status : String
  error : Option String

/-! ## Heartbeats -/

def splitHeartbeatInterfaceIps (value : String) : List (List Char) :=
  ((value.toList.splitOn ',').map trim).filter fun part => !part.isEmpty

def parseHeartbeatIp (value : List Char) : Except String IpAddr :=
  match parseIpAddr value with
  | some ip => .ok ip
  | none => .error ("invalid heartbeat interface IP '" ++ String.ofList value ++ "'")

/-- The order of addresses: those of IPv4 come first. -/
def leAddr : IpAddr → IpAddr → Bool
  | .v4 a, .v4 b => a ≤ b
  | .v4 _, .v6 _ => true
  | .v6 _, .v4 _ => false
  | .v6 a, .v6 b => a ≤ b

/-- `dedup` drops an item that is equal to the one before it. -/
def dedupAfter {A : Type} [DecidableEq A] (last : A) : List A → List A
  | [] => []
  | a :: rest => if a = last then dedupAfter last rest else a :: dedupAfter a rest

def dedupAdjacent {A : Type} [DecidableEq A] : List A → List A
  | [] => []
  | a :: rest => a :: dedupAfter a rest

def reportedIps (values : List String) : Except String (List IpAddr) := do
  let ips ← (values.flatMap splitHeartbeatInterfaceIps).mapM parseHeartbeatIp
  return dedupAdjacent (ips.mergeSort leAddr)

def normalizeHeartbeatInterfaceIps (values : List String) : Except String String := do
  return String.ofList ([','].intercalate ((← reportedIps values).map displayIpAddr))

def publicHeartbeatError (error : String) : Option String :=
  if (trim error.toList).isEmpty then none else some (publicErrorMessage error)

def heartbeatModel (now : Int) (request : HeartbeatRequest) : Except String NodeModel := do
  let publicError := publicHeartbeatError request.error
  return {
    nodeId := request.nodeId
    policyName := defaultPolicyName
    interfaceName := request.interfaceName
    interfaceIps := ← normalizeHeartbeatInterfaceIps request.interfaceIps
    lastSeenAt := now
    lastAppliedVersion := request.lastAppliedVersion
    status := request.status
    error := publicError }

/-! ## Maintenance -/

/-- `DEFAULT_UNHEALTHY_NODE_AFTER_SECONDS` -/
def defaultUnhealthyNodeAfterSeconds : Int := 300

/-- `MAX_UNHEALTHY_NODE_AFTER_SECONDS` -/
def maxUnhealthyNodeAfterSeconds : Int := 31536000

def normalizeUnhealthyNodeAfterSeconds (value : Option Int) : Except String Int :=
  let value := value.getD defaultUnhealthyNodeAfterSeconds
  if value ≤ 0 then
    .error "max_age_seconds must be greater than 0"
  else if maxUnhealthyNodeAfterSeconds < value then
    .error ("max_age_seconds must be at most " ++ maxUnhealthyNodeAfterSeconds.repr)
  else
    .ok value

/-- The row is one of those that `prune_unhealthy_nodes` deletes. -/
def isUnhealthy (now maxAgeSeconds : Int) (row : NodeModel) : Bool :=
  row.policyName = defaultPolicyName && row.lastSeenAt ≤ now - maxAgeSeconds * 1000000000

/-- The rows that are left, and how many were deleted. -/
def pruneUnhealthyNodes (now maxAgeSeconds : Int) (rows : List NodeModel) :
    Except String (Nat × List NodeModel) := do
  let maxAgeSeconds ← normalizeUnhealthyNodeAfterSeconds (some maxAgeSeconds)
  return ((rows.filter (isUnhealthy now maxAgeSeconds)).length,
    rows.filter fun row => !isUnhealthy now maxAgeSeconds row)

def secondsSinceSeen (lastSeenAt now : Int) : Int :=
  max ((now - lastSeenAt).tdiv 1000000000) 0

def syncStatus (rawStatus : String) (lastAppliedVersion currentPolicyVersion lastSeenAt now
    maxAgeSeconds : Int) : String :=
  if maxAgeSeconds < secondsSinceSeen lastSeenAt now then
    "offline"
  else
    let status := String.ofList ((trim rawStatus.toList).map Char.toLower)
    if status ≠ "ok" then
      status
    else if lastAppliedVersion < currentPolicyVersion then
      "stale"
    else
      "ok"

/-! ## What the API shows -/

structure NodeResponse where
  nodeId : String
  interfaceName : String
  interfaceIps : List String
  lastSeenAt : Int
  lastAppliedVersion : Int
  currentPolicyVersion : Int
  status : String
  syncStatus : String
  healthy : Bool
  secondsSinceSeen : Int
  error : Option String

def NodeResponse.new (env : ApiEnv) (value : NodeModel) (currentPolicyVersion now : Int) :
    NodeResponse :=
  let shown := ControlPlane.syncStatus value.status value.lastAppliedVersion currentPolicyVersion
    value.lastSeenAt now defaultUnhealthyNodeAfterSeconds
  { nodeId := value.nodeId
    interfaceName := value.interfaceName
    interfaceIps := ((parseNodeInterfaceIps env value.interfaceIps).toOption.getD []).map
      env.displayAddr
    lastSeenAt := value.lastSeenAt
    lastAppliedVersion := value.lastAppliedVersion
    currentPolicyVersion := currentPolicyVersion
    status := value.status
    syncStatus := shown
    healthy := shown = "ok"
    secondsSinceSeen := ControlPlane.secondsSinceSeen value.lastSeenAt now
    error := value.error.map publicErrorMessage }

/-! ## Events -/

/-- A heartbeat that arrives, and a run of the maintenance, with the clock as it is read then. -/
inductive RegistryEvent
  | heartbeat (now : Int) (request : HeartbeatRequest)
  | prune (now maxAgeSeconds : Int)

/-- A heartbeat that cannot be stored changes nothing, and no more does a refused age. -/
def registryStep (rows : List NodeModel) : RegistryEvent → List NodeModel
  | .heartbeat now request =>
      match heartbeatModel now request with
      | .ok row => upsertRow (fun row => row.nodeId) row rows
      | .error _ => rows
  | .prune now maxAgeSeconds =>
      match pruneUnhealthyNodes now maxAgeSeconds rows with
      | .ok (_, rows) => rows
      | .error _ => rows

def runRegistry (events : List RegistryEvent) : List NodeModel :=
  events.foldl registryStep []

/-- The surroundings of a request, with the registered nodes. Addresses are read and written as
elsewhere. -/
def withNodes (env : ApiEnv) (rows : List NodeModel) : ApiEnv :=
  { env with
    nodes := rows.map fun row => row.toNodeRow
    text := { env.text with ipAddr := fun text => parseIpAddr text.toList }
    displayAddr := fun ip => String.ofList (displayIpAddr ip) }

/-! ## Addresses in a text -/

section Texts

variable {ips : List IpAddr}

theorem leAddr_refl (a : IpAddr) : leAddr a a = true := by
  cases a <;> simp [leAddr]

theorem leAddr_trans (a b c : IpAddr) (hab : leAddr a b = true) (hbc : leAddr b c = true) :
    leAddr a c = true := by
  cases a with
  | v4 x =>
      cases c with
      | v6 z => rfl
      | v4 z =>
          cases b with
          | v4 y =>
              exact decide_eq_true
                (BitVec.le_trans (of_decide_eq_true hab) (of_decide_eq_true hbc))
          | v6 y => cases hbc
  | v6 x =>
      cases b with
      | v4 y => cases hab
      | v6 y =>
          cases c with
          | v4 z => cases hbc
          | v6 z =>
              exact decide_eq_true
                (BitVec.le_trans (of_decide_eq_true hab) (of_decide_eq_true hbc))

theorem leAddr_total (a b : IpAddr) : (leAddr a b || leAddr b a) = true := by
  cases a <;> cases b <;> simp [leAddr, BitVec.le_total]

theorem leAddr_antisymm {a b : IpAddr} (hab : leAddr a b = true) (hba : leAddr b a = true) :
    a = b := by
  cases a <;> cases b <;> simp only [leAddr, decide_eq_true_eq] at *
  · rw [BitVec.le_antisymm hab hba]
  · cases hba
  · cases hab
  · rw [BitVec.le_antisymm hab hba]

theorem mem_dedupAfter {A : Type} [DecidableEq A] {a last : A} {l : List A} :
    a = last ∨ a ∈ dedupAfter last l ↔ a = last ∨ a ∈ l := by
  induction l generalizing last with
  | nil => rfl
  | cons b rest ih =>
      rw [dedupAfter, List.mem_cons]
      split
      · next hsame =>
          rw [ih, hsame]
          tauto
      · rw [List.mem_cons, ih]

theorem mem_dedupAdjacent {A : Type} [DecidableEq A] {a : A} {l : List A} :
    a ∈ dedupAdjacent l ↔ a ∈ l := by
  cases l with
  | nil => rfl
  | cons b rest => rw [dedupAdjacent, List.mem_cons, List.mem_cons, mem_dedupAfter]

/-- In order, with no item twice. -/
def Increasing (ips : List IpAddr) : Prop :=
  ips.Pairwise fun a b => leAddr a b = true ∧ a ≠ b

theorem increasing_dedupAfter {last : IpAddr} {l : List IpAddr}
    (h : (last :: l).Pairwise fun a b => leAddr a b = true) :
    Increasing (last :: dedupAfter last l) := by
  induction l generalizing last with
  | nil => exact List.pairwise_singleton _ last
  | cons a rest ih =>
      obtain ⟨hlast, hrest⟩ := List.pairwise_cons.mp h
      have hlater : (last :: rest).Pairwise fun a b => leAddr a b = true :=
        List.pairwise_cons.mpr
          ⟨fun b hb => hlast b (List.mem_cons_of_mem _ hb), (List.pairwise_cons.mp hrest).2⟩
      rw [dedupAfter]
      split
      · exact ih hlater
      · next hne =>
          refine List.pairwise_cons.mpr ⟨fun b hb => ?_, ih hrest⟩
          have hb : b ∈ a :: rest := mem_dedupAdjacent.mp hb
          refine ⟨hlast b hb, ?_⟩
          rintro rfl
          -- An item that comes back would have to equal its first follower.
          have hle : leAddr a last = true := by
            rcases List.mem_cons.mp hb with rfl | hb
            · exact leAddr_refl _
            · exact (List.pairwise_cons.mp hrest).1 _ hb
          exact hne (leAddr_antisymm hle (hlast a List.mem_cons_self))

theorem increasing_dedupAdjacent {l : List IpAddr}
    (h : l.Pairwise fun a b => leAddr a b = true) : Increasing (dedupAdjacent l) := by
  cases l with
  | nil => exact List.Pairwise.nil
  | cons a rest => exact increasing_dedupAfter h

theorem isWhitespace_of_isAddrChar {c : Char} (h : isAddrChar c = true) :
    isWhitespace c = false := by
  obtain ⟨hlow, hhigh, -⟩ := toNat_of_isAddrChar h
  simp only [isWhitespace, Bool.or_eq_false_iff, Bool.and_eq_false_iff, decide_eq_false_iff_not,
    beq_eq_false_iff_ne]
  omega

theorem trim_displayIpAddr (ip : IpAddr) : trim (displayIpAddr ip) = displayIpAddr ip :=
  trim_of_no_blank fun _ hc => isWhitespace_of_isAddrChar (isAddrChar_of_mem_displayIpAddr hc)

theorem comma_notMem_displayIpAddr (ip : IpAddr) : ',' ∉ displayIpAddr ip := by
  intro hmem
  exact absurd (isAddrChar_of_mem_displayIpAddr hmem) (by decide)

theorem displayIpAddr_ne_nil (ip : IpAddr) : displayIpAddr ip ≠ [] := by
  intro hnil
  have hread := parseIpAddr_displayIpAddr ip
  rw [hnil] at hread
  cases hread

/-- The texts of addresses between commas are cut out of a list of them again. -/
theorem splitOn_joined (ips : List IpAddr) :
    ((([','].intercalate (ips.map displayIpAddr)).splitOn ',').map trim).filter
      (fun part => !part.isEmpty) = ips.map displayIpAddr := by
  cases ips with
  | nil => rfl
  | cons ip rest =>
      rw [List.splitOn_intercalate, List.map_map]
      · have hsame : (ip :: rest).map (trim ∘ displayIpAddr) = (ip :: rest).map displayIpAddr :=
          List.map_congr_left fun ip _ => trim_displayIpAddr ip
        rw [hsame, List.filter_eq_self]
        intro part hpart
        obtain ⟨ip, -, rfl⟩ := List.mem_map.mp hpart
        simp [displayIpAddr_ne_nil]
      · intro part hpart
        obtain ⟨ip, -, rfl⟩ := List.mem_map.mp hpart
        exact comma_notMem_displayIpAddr ip
      · simp

/-- What is stored of the addresses can be read. -/
theorem parseNodeInterfaceIps_joined (env : ApiEnv) (rows : List NodeModel) (ips : List IpAddr) :
    parseNodeInterfaceIps (withNodes env rows)
      (String.ofList ([','].intercalate (ips.map displayIpAddr))) = .ok ips := by
  rw [parseNodeInterfaceIps, String.toList_ofList, splitOn_joined, List.mapM_map]
  induction ips with
  | nil => rfl
  | cons ip rest ih =>
      rw [List.mapM_cons, ih]
      simp [withNodes, parseIpAddr_displayIpAddr]
      rfl

end Texts

/-! ## What stands -/

/-- The row that the event stores. -/
def RegistryEvent.stored : RegistryEvent → Option NodeModel
  | .heartbeat now request => (heartbeatModel now request).toOption
  | .prune _ _ => none

/-- The event deletes the row. -/
def RegistryEvent.deletes : RegistryEvent → NodeModel → Bool
  | .heartbeat _ _, _ => false
  | .prune now maxAgeSeconds, row =>
      match normalizeUnhealthyNodeAfterSeconds (some maxAgeSeconds) with
      | .ok maxAgeSeconds => isUnhealthy now maxAgeSeconds row
      | .error _ => false

/-- The row is that of the last heartbeat of its node, and no maintenance since then has found the
node unhealthy. -/
def Standing (events : List RegistryEvent) (row : NodeModel) : Prop :=
  Stands RegistryEvent.stored RegistryEvent.deletes (fun row => row.nodeId) events row

theorem registryStep_eq (rows : List NodeModel) (event : RegistryEvent) :
    registryStep rows event =
      tableStep RegistryEvent.stored RegistryEvent.deletes (fun row => row.nodeId) rows event := by
  cases event with
  | heartbeat now request =>
      rw [registryStep, tableStep, RegistryEvent.stored]
      cases heartbeatModel now request with
      | ok row => rfl
      | error message => simp [Except.toOption, RegistryEvent.deletes]
  | prune now maxAgeSeconds =>
      simp only [registryStep, tableStep, RegistryEvent.stored, RegistryEvent.deletes,
        pruneUnhealthyNodes]
      cases normalizeUnhealthyNodeAfterSeconds (some maxAgeSeconds) with
      | ok age => rfl
      | error message => simp [bind, Except.bind]

theorem runRegistry_eq (events : List RegistryEvent) :
    runRegistry events = events.foldl
      (tableStep RegistryEvent.stored RegistryEvent.deletes fun row => row.nodeId) [] := by
  rw [runRegistry]
  congr 1
  funext rows event
  exact registryStep_eq rows event

theorem mem_runRegistry_iff {events : List RegistryEvent} {row : NodeModel} :
    row ∈ runRegistry events ↔ Standing events row := by
  rw [runRegistry_eq]
  exact mem_tableRun_iff

/-- What a stored row says of the heartbeat. -/
structure Reports (now : Int) (request : HeartbeatRequest) (ips : List IpAddr) (row : NodeModel) :
    Prop where
  reported : reportedIps request.interfaceIps = .ok ips
  row : row = {
    nodeId := request.nodeId
    policyName := defaultPolicyName
    interfaceName := request.interfaceName
    interfaceIps := String.ofList ([','].intercalate (ips.map displayIpAddr))
    lastSeenAt := now
    lastAppliedVersion := request.lastAppliedVersion
    status := request.status
    error := publicHeartbeatError request.error }

theorem heartbeatModel_ok_iff {now : Int} {request : HeartbeatRequest} {row : NodeModel} :
    heartbeatModel now request = .ok row ↔ ∃ ips, Reports now request ips row := by
  rw [heartbeatModel, normalizeHeartbeatInterfaceIps]
  cases hips : reportedIps request.interfaceIps with
  | error message =>
      constructor
      · intro h
        cases h
      · rintro ⟨ips, hreported, -⟩
        cases hips.symm.trans hreported
  | ok ips =>
      constructor
      · intro h
        cases h
        exact ⟨ips, hips, rfl⟩
      · rintro ⟨ips', hreported, rfl⟩
        cases hips.symm.trans hreported
        rfl

/-- The addresses that are stored are in order, each once, and all of those that were reported. -/
theorem sorted_reportedIps {values : List String} {ips : List IpAddr}
    (h : reportedIps values = .ok ips) :
    Increasing ips ∧ ∀ ip, ip ∈ ips ↔
      ∃ part ∈ values.flatMap splitHeartbeatInterfaceIps, parseIpAddr part = some ip := by
  rw [reportedIps] at h
  cases hparsed : (values.flatMap splitHeartbeatInterfaceIps).mapM parseHeartbeatIp with
  | error message =>
      rw [hparsed] at h
      cases h
  | ok parsed =>
      rw [hparsed] at h
      cases h
      refine ⟨increasing_dedupAdjacent (List.pairwise_mergeSort leAddr_trans leAddr_total parsed), ?_⟩
      intro ip
      rw [mem_dedupAdjacent, List.mem_mergeSort, mem_mapM_ok_iff hparsed]
      refine exists_congr fun part => and_congr_right fun _ => ?_
      unfold parseHeartbeatIp
      cases parseIpAddr part <;> simp

theorem standing_reports {events : List RegistryEvent} {row : NodeModel}
    (h : Standing events row) :
    ∃ now request ips, .heartbeat now request ∈ events ∧ Reports now request ips row := by
  obtain ⟨before, event, after, rfl, hstored, -⟩ := h
  cases event with
  | prune now age => cases hstored
  | heartbeat now request =>
      have hmodel : heartbeatModel now request = .ok row := by
        rw [RegistryEvent.stored] at hstored
        cases hresult : heartbeatModel now request with
        | ok row' =>
            rw [hresult] at hstored
            rw [Option.some.inj hstored]
        | error message =>
            rw [hresult] at hstored
            cases hstored
      obtain ⟨ips, hreports⟩ := heartbeatModel_ok_iff.mp hmodel
      exact ⟨now, request, ips, List.mem_append_right _ List.mem_cons_self, hreports⟩

/-- Whatever nodes report and whenever the maintenance runs: the registry has one row for each node
whose last report stands, and no other, and the addresses of a row are those of the report. -/
theorem runRegistry_exact (env : ApiEnv) (events : List RegistryEvent) :
    UniqueKeys (fun row : NodeModel => row.nodeId) (runRegistry events) ∧
      (∀ row, row ∈ runRegistry events ↔ Standing events row) ∧
      ∀ row ∈ runRegistry events, ∃ now request ips, .heartbeat now request ∈ events ∧
        Reports now request ips row ∧
        Increasing ips ∧
        parseNodeInterfaceIps (withNodes env (runRegistry events)) row.interfaceIps = .ok ips ∧
        ∀ version shownAt, (NodeResponse.new (withNodes env (runRegistry events)) row version
          shownAt).interfaceIps = ips.map fun ip => String.ofList (displayIpAddr ip) := by
  refine ⟨?_, fun row => mem_runRegistry_iff, ?_⟩
  · rw [runRegistry_eq]
    exact uniqueKeys_tableRun events
  · intro row hrow
    obtain ⟨now, request, ips, hevent, hreports⟩ := standing_reports (mem_runRegistry_iff.mp hrow)
    have hread : parseNodeInterfaceIps (withNodes env (runRegistry events)) row.interfaceIps =
        .ok ips := by
      rw [hreports.row]
      exact parseNodeInterfaceIps_joined env _ ips
    refine ⟨now, request, ips, hevent, hreports, (sorted_reportedIps hreports.reported).1, hread, ?_⟩
    intro version shownAt
    simp only [NodeResponse.new, hread]
    rfl

/-! ## Requests that would block a node -/

section Guard

variable {env : ApiEnv} {events : List RegistryEvent} {db : PolicyDb}

/-- A node whose report stands has the address. -/
def NodeHas (events : List RegistryEvent) (ip : IpAddr) : Prop :=
  ∃ now request ips row, Standing events row ∧ Reports now request ips row ∧ ip ∈ ips

/-- No node whose report stands is in the network. -/
def SparesNodes (events : List RegistryEvent) (net : IpNet) : Prop :=
  ∀ ip, NodeHas events ip → net.contains ip = false

theorem rejectNodeIpBlock_registry {net : IpNet} {resource : String} :
    rejectNodeIpBlock (withNodes env (runRegistry events)) net resource = .ok () ↔
      SparesNodes events net := by
  rw [BtmpMonitor.rejectNodeIpBlock_ok_iff]
  constructor
  · rintro hspares ip ⟨now, request, ips, row, hstanding, hreports, hip⟩
    have hrow : row.toNodeRow ∈ (withNodes env (runRegistry events)).nodes :=
      List.mem_map_of_mem (mem_runRegistry_iff.mpr hstanding)
    have hpolicy : row.policyName = defaultPolicyName := by rw [hreports.row]
    obtain ⟨ips', hread, hfree⟩ := hspares _ hrow hpolicy
    rw [hreports.row, parseNodeInterfaceIps_joined] at hread
    cases hread
    exact hfree ip hip
  · intro hspares node hnode _
    obtain ⟨row, hrow, rfl⟩ := List.mem_map.mp hnode
    have hstanding := mem_runRegistry_iff.mp hrow
    obtain ⟨now, request, ips, -, hreports⟩ := standing_reports hstanding
    refine ⟨ips, ?_, fun ip hip => hspares ip ⟨now, request, ips, row, hstanding, hreports, hip⟩⟩
    rw [hreports.row]
    exact parseNodeInterfaceIps_joined env _ ips

theorem rejectTempBanNodeIp_registry {request : TempBans.CreateTempBanRequest} :
    TempBans.rejectTempBanNodeIp (withNodes env (runRegistry events)) request = .ok () ↔
      ∃ net, parseNormalizedCidr env request.cidr = .ok net ∧ SparesNodes events net := by
  have hparse : parseNormalizedCidr (withNodes env (runRegistry events)) request.cidr =
      parseNormalizedCidr env request.cidr := rfl
  rw [TempBans.rejectTempBanNodeIp, hparse]
  cases parseNormalizedCidr env request.cidr with
  | error message =>
      constructor
      · intro h
        cases h
      · rintro ⟨net, h, -⟩
        cases h
  | ok net =>
      refine rejectNodeIpBlock_registry.trans ⟨fun h => ⟨net, rfl, h⟩, ?_⟩
      rintro ⟨net', h, hspares⟩
      cases h
      exact hspares

theorem rejectDenyRuleNodeIp_registry {request : FirewallRules.CreateRuleRequest}
    (h : FirewallRules.rejectDenyRuleNodeIp (withNodes env (runRegistry events)) request = .ok ())
    {net : IpNet} (hdeny : FirewallRules.denyRuleCidr env request = .ok (some net)) :
    SparesNodes events net := by
  have hsame : FirewallRules.denyRuleCidr (withNodes env (runRegistry events)) request =
      .ok (some net) := hdeny
  rw [FirewallRules.rejectDenyRuleNodeIp, hsame] at h
  exact rejectNodeIpBlock_registry.mp h

/-- A request is answered well only when what it is checked for first is in order. -/
theorem accepted_of_answered {A B : Type} {input : ApiResult A}
    {rest : A → Transaction (Option Int × B)} {a : Versioned B}
    (h : (respond env db (liftResult input >>= rest)).answer = .ok a) :
    ∃ accepted, input = .ok accepted := by
  cases hinput : input with
  | ok accepted => exact ⟨accepted, rfl⟩
  | error e =>
      rw [hinput] at h
      have hends : Ends (liftResult (.error e : ApiResult A) >>= rest)
          { db := db, written := [] } (fun _ _ => False) fun _ _ => True :=
        BtmpMonitor.ends_liftResult_error rfl
      obtain ⟨refusal, hrefusal⟩ :
          ∃ refusal, (respond env db (liftResult (.error e) >>= rest)).answer = .error refusal :=
        (BtmpMonitor.respond_failed (Or.inr hends)).1
      cases h.symm.trans hrefusal

/-- What the API accepts spares every node whose report stands when the request comes. Nothing that
a node reports keeps the API from taking other bans. -/
theorem accepted_sparesNodes (env : ApiEnv) (events : List RegistryEvent) (db : PolicyDb)
    (htransaction : env.transactionFails = none) :
    let nodesEnv := withNodes env (runRegistry events)
    (∀ request, BtmpMonitor.FreshIds env 1 (db.tempBans.map TempBanRow.id) →
      (BtmpMonitor.Accepted nodesEnv db request ↔
        (∃ input, TempBans.tempBanInput env request = .ok input) ∧
          ∃ net, parseNormalizedCidr env request.cidr = .ok net ∧ SparesNodes events net)) ∧
    (∀ items a, (TempBans.createBatch nodesEnv db items).answer = .ok a → ∀ request ∈ items,
      ∃ net, parseNormalizedCidr env request.cidr = .ok net ∧ SparesNodes events net) ∧
    (∀ request a, (FirewallRules.create nodesEnv db request).answer = .ok a → ∀ net,
      FirewallRules.denyRuleCidr env request = .ok (some net) → SparesNodes events net) ∧
    ∀ items a, (FirewallRules.createBatch nodesEnv db items).answer = .ok a → ∀ request ∈ items,
      ∀ net, FirewallRules.denyRuleCidr env request = .ok (some net) → SparesNodes events net := by
  intro nodesEnv
  refine ⟨fun request hfresh => ?_, fun items a h => ?_, fun request a h => ?_, fun items a h => ?_⟩
  · have hfresh : BtmpMonitor.FreshIds nodesEnv 1 (db.tempBans.map TempBanRow.id) := hfresh
    rw [BtmpMonitor.accepted_iff hfresh]
    constructor
    · rintro ⟨-, input, hreject, hinput⟩
      exact ⟨⟨input, hinput⟩, rejectTempBanNodeIp_registry.mp hreject⟩
    · rintro ⟨⟨input, hinput⟩, hspares⟩
      exact ⟨htransaction, input, rejectTempBanNodeIp_registry.mpr hspares, hinput⟩
  · intro request hrequest
    by_contra hblocks
    have hrefused : ∀ input, ¬ BtmpMonitor.Checks nodesEnv request input := fun input hchecks =>
      hblocks (rejectTempBanNodeIp_registry.mp hchecks.1)
    obtain ⟨e, he⟩ : ∃ e, (TempBans.createBatch nodesEnv db items).answer = .error e :=
      (BtmpMonitor.createBatch_refused (Or.inr ⟨request, hrequest, hrefused⟩)).1
    cases h.symm.trans he
  · intro net hdeny
    obtain ⟨accepted, haccepted⟩ := accepted_of_answered h
    cases hreject : FirewallRules.rejectDenyRuleNodeIp nodesEnv request with
    | error e =>
        rw [hreject] at haccepted
        cases haccepted
    | ok _ => exact rejectDenyRuleNodeIp_registry hreject hdeny
  · intro request hrequest net hdeny
    obtain ⟨accepted, haccepted⟩ := accepted_of_answered h
    cases hlength : validateBatchLen items.length with
    | error e =>
        rw [hlength] at haccepted
        cases haccepted
    | ok _ =>
        rw [hlength] at haccepted
        cases hreject : items.forM (FirewallRules.rejectDenyRuleNodeIp nodesEnv) with
        | error e =>
            change (items.forM (FirewallRules.rejectDenyRuleNodeIp nodesEnv) >>= _) = _ at haccepted
            rw [hreject] at haccepted
            cases haccepted
        | ok _ =>
            exact rejectDenyRuleNodeIp_registry (forM_ok_iff.mp hreject request hrequest) hdeny

/-- A node that reports its address and a blank. -/
def oneNodeHeartbeat : HeartbeatRequest where
  nodeId := "edge-1"
  interfaceName := "eth0"
  lastAppliedVersion := 2
  status := "ok"
  error := ""
  interfaceIps := ["10.1.2.3, "]

def oneNodeEvents : List RegistryEvent :=
  [.heartbeat 0 oneNodeHeartbeat, .prune 60000000000 300]

theorem reportedIps_oneNode : reportedIps oneNodeHeartbeat.interfaceIps =
    .ok [.v4 0x0A010203] := by
  have hreported : (reportedIps oneNodeHeartbeat.interfaceIps).toOption =
      some [.v4 0x0A010203] := by
    decide +kernel
  cases h : reportedIps oneNodeHeartbeat.interfaceIps with
  | error message =>
      rw [h] at hreported
      cases hreported
  | ok ips =>
      rw [h] at hreported
      rw [Option.some.inj hreported]

theorem nodeHas_oneNode : NodeHas oneNodeEvents (.v4 0x0A010203) := by
  have hreports := (⟨reportedIps_oneNode, rfl⟩ : Reports 0 oneNodeHeartbeat _ _)
  refine ⟨0, oneNodeHeartbeat, _, _, ⟨[], _, _, rfl, ?_, ?_⟩, hreports, List.mem_cons_self⟩
  · rw [RegistryEvent.stored, heartbeatModel_ok_iff.mpr ⟨_, hreports⟩]
    rfl
  · intro later hlater
    obtain rfl := List.mem_singleton.mp hlater
    rfl

theorem accepted_sparesNodes_oneNode : ¬ BtmpMonitor.Accepted
    (withNodes deliveryEnv (runRegistry oneNodeEvents)) PolicyDb.empty
    { cidr := "10.0.0.0/8"
      protocol := none
      port := none
      durationSeconds := none
      comment := none } := by
  intro haccepted
  obtain ⟨-, net, hnet, hspares⟩ :=
    ((accepted_sparesNodes deliveryEnv oneNodeEvents PolicyDb.empty rfl).1 _ (by decide)).mp
      haccepted
  have hparse : (parseNormalizedCidr deliveryEnv "10.0.0.0/8").toOption =
      some (.v4 (.slash 0x0A000000 8)) := by
    decide +kernel
  rw [hnet] at hparse
  cases hparse
  exact absurd (hspares _ nodeHas_oneNode) (by decide)

end Guard

end ControlPlane
end XdpFirewall
