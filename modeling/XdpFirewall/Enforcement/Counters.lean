import Mathlib.Algebra.BigOperators.Group.List.Defs
import Mathlib.Data.BitVec
import Mathlib.Tactic.Ring
import XdpFirewall.Bpf.KeyAgreement
import XdpFirewall.Enforcement.DecisionOrder
import XdpFirewall.Lib.Transition

/-!
# Counters — what is counted for each packet, and what the agent reads

The filter counts on the CPU that handles a packet, under an index of its own; the agent reads the
counters of all CPUs by the same indices and adds them up. A verdict and its counter are set at
every exit of the filter on their own, and they agree at each of them.
-/

namespace XdpFirewall
namespace Enforcement

open Net Policy Lib DataPlane Bpf

/-! ## Deciding stages -/

/-- The verdict that goes with a counter. -/
def statVerdict : Stat → XdpAction
  | .pass => .pass
  | _ => .drop

/-- The limit that refuses a packet, each asked after those before it. -/
inductive LimitedBy (env : PacketEnv) (packet : Packet) (s : FilterState) : Stat → Prop
  | custom (exceeded : CustomExceeded env s.maps packet s.rateBuckets) :
      LimitedBy env packet s .customRateDrop
  | flood (below : ¬ CustomExceeded env s.maps packet s.rateBuckets)
      (exceeded : FloodExceeded env s.maps.defensePolicy packet
        (customDynamicRateLimited env s.maps packet s.rateBuckets).2) :
      LimitedBy env packet s .floodDrop
  | ip (below : ¬ CustomExceeded env s.maps packet s.rateBuckets)
      (slow : ¬ FloodExceeded env s.maps.defensePolicy packet
        (customDynamicRateLimited env s.maps packet s.rateBuckets).2)
      (exceeded : IpExceeded env s.maps.defensePolicy packet
        (floodLimited env s.maps.defensePolicy packet
          (customDynamicRateLimited env s.maps packet s.rateBuckets).2).2) :
      LimitedBy env packet s .rateDrop

/-- The first stage with an answer, by the counter that is named after it. -/
inductive DecidedBy (env : PacketEnv) (packet : Packet) (s : FilterState) : Stat → Prop
  | trusted (answer : trustedAnswer packet s = some .pass) : DecidedBy env packet s .pass
  | tempBan (untrusted : trustedAnswer packet s = none)
      (answer : banAnswer env packet s = some .drop) : DecidedBy env packet s .tempBanDrop
  | ruleDeny (untrusted : trustedAnswer packet s = none) (unbanned : banAnswer env packet s = none)
      (answer : ruleAnswer packet s = some .drop) : DecidedBy env packet s .ruleDrop
  | ruleAllow (untrusted : trustedAnswer packet s = none) (unbanned : banAnswer env packet s = none)
      (answer : ruleAnswer packet s = some .pass) : DecidedBy env packet s .pass
  | country (untrusted : trustedAnswer packet s = none) (unbanned : banAnswer env packet s = none)
      (unruled : ruleAnswer packet s = none) (answer : countryDenyAnswer packet s = some .drop) :
      DecidedBy env packet s .geoDrop
  | limit {stat : Stat} (untrusted : trustedAnswer packet s = none)
      (unbanned : banAnswer env packet s = none) (unruled : ruleAnswer packet s = none)
      (undenied : countryDenyAnswer packet s = none) (enabled : s.maps.defensePolicy.enabled ≠ 0)
      (answer : LimitedBy env packet s stat) : DecidedBy env packet s stat
  | nothing (untrusted : trustedAnswer packet s = none) (unbanned : banAnswer env packet s = none)
      (unruled : ruleAnswer packet s = none) (undenied : countryDenyAnswer packet s = none)
      (unlimited : ¬ LimitExceeded env s.maps packet s.rateBuckets) : DecidedBy env packet s .pass

section Stages

variable {env : PacketEnv} {packet : Packet} {s : FilterState} {detail : DropDetail} {stat : Stat}

/-- The filter gives the verdict of a counter and adds one to it. -/
def CountedAs (stat : Stat) (s : FilterState) (outcome : XdpAction × FilterState) : Prop :=
  outcome.1 = statVerdict stat ∧
    outcome.2.stats = Function.update s.stats stat (s.stats stat + 1)

theorem stats_emitDropEvent (env : PacketEnv) (reason : Stat) (packet : Packet)
    (detail : DropDetail) (s : FilterState) :
    (emitDropEvent env reason packet detail s).stats = s.stats := by
  unfold emitDropEvent
  split <;> rfl

theorem countedAs_passPacket : CountedAs .pass s (passPacket s) := ⟨rfl, rfl⟩

theorem countedAs_dropPacket (hdrop : statVerdict stat = .drop) :
    CountedAs stat s (dropPacket env stat packet detail s) := by
  refine ⟨hdrop.symm, ?_⟩
  rw [dropPacket, stats_emitDropEvent]
  rfl

theorem LimitedBy.verdict (h : LimitedBy env packet s stat) : statVerdict stat = .drop := by
  cases h <;> rfl

theorem customDrop_of_some
    (h : (customDynamicRateLimited env s.maps packet s.rateBuckets).1 = some stat) :
    stat = .customRateDrop := by
  unfold customDynamicRateLimited at h
  split at h
  · cases h
  · dsimp only at h
    split at h
    · exact (Option.some.inj h).symm
    · cases h

/-- Dynamic defense names the limit that refuses the packet. -/
theorem limitedBy_of_dynamicDefense
    (h : (dynamicDefenseLimited env s.maps packet s.rateBuckets).1 = some stat) :
    s.maps.defensePolicy.enabled ≠ 0 ∧ LimitedBy env packet s stat := by
  unfold dynamicDefenseLimited at h
  dsimp only at h
  split at h
  · cases h
  · rename_i henabled
    refine ⟨henabled, ?_⟩
    -- Each limit is asked with the buckets that the one before it has left.
    cases hcustom : customDynamicRateLimited env s.maps packet s.rateBuckets with
    | mk drop afterCustom =>
      rw [hcustom] at h
      cases drop with
      | some custom =>
          obtain rfl := Option.some.inj h
          obtain rfl := customDrop_of_some (congrArg Prod.fst hcustom)
          refine .custom (customDynamicRateLimited_fst.mp ?_)
          rw [hcustom]
          rfl
      | none =>
          have hbelow : ¬ CustomExceeded env s.maps packet s.rateBuckets := by
            rw [← customDynamicRateLimited_fst, hcustom]
            exact Bool.false_ne_true
          have hafter : (customDynamicRateLimited env s.maps packet s.rateBuckets).2 =
              afterCustom := by rw [hcustom]
          dsimp only at h
          cases hflood : floodLimited env s.maps.defensePolicy packet afterCustom with
          | mk flooded afterFlood =>
            rw [hflood] at h
            cases flooded with
            | true =>
                obtain rfl := Option.some.inj h
                refine .flood hbelow ?_
                rw [← floodLimited_fst, hafter, hflood]
            | false =>
                have hslow : ¬ FloodExceeded env s.maps.defensePolicy packet
                    (customDynamicRateLimited env s.maps packet s.rateBuckets).2 := by
                  rw [← floodLimited_fst, hafter, hflood]
                  exact Bool.false_ne_true
                dsimp only at h
                cases hip : ipLimited env s.maps.defensePolicy packet afterFlood with
                | mk limited afterIp =>
                  rw [hip] at h
                  cases limited with
                  | false => cases h
                  | true =>
                      obtain rfl := Option.some.inj h
                      refine .ip hbelow hslow ?_
                      rw [← ipLimited_fst, hafter, hflood, hip]

/-- The last stage. -/
theorem counted_limitPacket (env : PacketEnv) (packet : Packet) (s : FilterState) :
    (∃ stat, s.maps.defensePolicy.enabled ≠ 0 ∧ LimitedBy env packet s stat ∧
        CountedAs stat s (limitPacket env packet s)) ∨
      (¬ LimitExceeded env s.maps packet s.rateBuckets ∧
        CountedAs .pass s (limitPacket env packet s)) := by
  unfold limitPacket
  cases hlimit : dynamicDefenseLimited env s.maps packet s.rateBuckets with
  | mk drop buckets =>
    cases drop with
    | some stat =>
        rcases limitedBy_of_dynamicDefense (congrArg Prod.fst hlimit) with ⟨henabled, hby⟩
        refine Or.inl ⟨stat, henabled, hby, ?_⟩
        exact countedAs_dropPacket hby.verdict
    | none =>
        refine Or.inr ⟨?_, countedAs_passPacket⟩
        rw [← dynamicDefenseLimited_isSome_iff, hlimit]
        exact Bool.false_ne_true

/-- The stages from the country on. -/
theorem counted_screenCountry (htrusted : trustedAnswer packet s = none)
    (hban : banAnswer env packet s = none) (hrule : ruleAnswer packet s = none) :
    ∃ stat, DecidedBy env packet s stat ∧ CountedAs stat s (screenCountry env packet s) := by
  have hlimits (hcountry : countryDenyAnswer packet s = none) :
      ∃ stat, DecidedBy env packet s stat ∧ CountedAs stat s (limitPacket env packet s) := by
    rcases counted_limitPacket env packet s with ⟨stat, henabled, hby, hcounted⟩ | ⟨hnone, hcounted⟩
    · exact ⟨stat, .limit htrusted hban hrule hcountry henabled hby, hcounted⟩
    · exact ⟨.pass, .nothing htrusted hban hrule hcountry hnone, hcounted⟩
  unfold screenCountry
  cases hgeo : lookupGeo s.maps packet.family packet.src with
  | none => exact hlimits (by simp [countryDenyAnswer, countryOf, hgeo])
  | some geo =>
      cases hcountry : lookupCountry s.maps geo.2 with
      | none =>
          simp only [hcountry]
          exact hlimits (by simp [countryDenyAnswer, countryOf, hgeo, hcountry])
      | some country =>
          simp only [hcountry]
          have hof : countryOf packet s = some country := by simp [countryOf, hgeo, hcountry]
          by_cases hdeny : country.action = actionDeny
          · rw [if_pos hdeny]
            refine ⟨.geoDrop, .country htrusted hban hrule ?_, countedAs_dropPacket rfl⟩
            simp [countryDenyAnswer, hof, hdeny]
          · rw [if_neg hdeny]
            exact hlimits (by simp [countryDenyAnswer, hof, hdeny])

/-- Each packet that is decided is counted once, under the stage that decided it. -/
theorem counted_handlePacket (env : PacketEnv) (packet : Packet) (s : FilterState) :
    ∃ stat, DecidedBy env packet s stat ∧ CountedAs stat s (handlePacket env packet s) := by
  unfold handlePacket
  by_cases htrust : (lookupTrusted s.maps packet.family packet.src).isSome
  · rw [if_pos htrust]
    exact ⟨.pass, .trusted (if_pos htrust), countedAs_passPacket⟩
  · rw [if_neg htrust]
    have htrusted : trustedAnswer packet s = none := if_neg htrust
    by_cases hactive : tempBanActive s.maps packet.family packet.proto packet.dport packet.src
        env.banNow
    · rw [if_pos hactive]
      exact ⟨.tempBanDrop, .tempBan htrusted (if_pos hactive), countedAs_dropPacket rfl⟩
    · rw [if_neg hactive]
      have hban : banAnswer env packet s = none := if_neg hactive
      cases hrule : lookupRule s.maps packet.family packet.proto packet.dport packet.src with
      | none => exact counted_screenCountry htrusted hban (by simp [ruleAnswer, hrule])
      | some rule =>
          dsimp only
          by_cases hdeny : rule.2.action = actionDeny
          · rw [if_pos hdeny]
            refine ⟨.ruleDrop, .ruleDeny htrusted hban ?_, countedAs_dropPacket rfl⟩
            simp [ruleAnswer, hrule, actionAnswer, hdeny]
          · rw [if_neg hdeny]
            by_cases hallow : rule.2.action = actionAllow
            · rw [if_pos hallow]
              refine ⟨.pass, .ruleAllow htrusted hban ?_, countedAs_passPacket⟩
              simp [ruleAnswer, hrule, actionAnswer, hallow]
            · -- A rule that neither denies nor allows leaves the packet to the country.
              rw [if_neg hallow]
              exact counted_screenCountry htrusted hban
                (by simp [ruleAnswer, hrule, actionAnswer, hdeny, hallow])

end Stages

/-! ## Counters of several CPUs -/

/-- The maps that all CPUs share, the counters of each CPU, and the verdicts given so far. The
counters in `filter` are those of no CPU. -/
structure Machine where
  cpus : Nat
  filter : FilterState
  cpuStats : Nat → Stat → U64
  verdicts : List (Frame × XdpAction)

/-- The maps as a CPU sees them. -/
def Machine.view (m : Machine) (cpu : Nat) : FilterState :=
  { m.filter with stats := m.cpuStats cpu }

/-- A packet on a CPU, or a change of the maps by the agent. -/
inductive MachineEvent
  | packet (cpu : Nat) (env : PacketEnv) (data : Frame)
  | write (maps : PolicyMaps) (dropConfig : U8)

def machineStep (m : Machine) : MachineEvent → Option Machine
  | .packet cpu env data =>
      if cpu < m.cpus then
        let (action, filter) := xdpFirewall env data (m.view cpu)
        some
          { m with
            filter := filter
            cpuStats := Function.update m.cpuStats cpu filter.stats
            verdicts := m.verdicts ++ [(data, action)] }
      else
        none
  | .write maps dropConfig =>
      some { m with filter := { m.filter with maps := maps, dropConfig := dropConfig } }

/-! ## The reader of the agent -/

def statPass : U32 := 0
def statRuleDrop : U32 := 1
def statGeoDrop : U32 := 2
def statRateDrop : U32 := 3
def statFloodDrop : U32 := 4
def statCustomRateDrop : U32 := 5
def statParseDrop : U32 := 6
def statTempBanDrop : U32 := 7

structure XdpStats where
  pass : U64
  ruleDrop : U64
  geoDrop : U64
  rateDrop : U64
  floodDrop : U64
  customRateDrop : U64
  parseDrop : U64
  tempBanDrop : U64

/-- The sum wraps, as it does in a release build. -/
def XdpStats.totalDrop (stats : XdpStats) : U64 :=
  stats.ruleDrop + stats.geoDrop + stats.rateDrop + stats.floodDrop + stats.customRateDrop +
    stats.parseDrop + stats.tempBanDrop

/-- The counter that the filter keeps under an index. -/
def Stat.atIndex (index : U32) : Option Stat :=
  [Stat.pass, .ruleDrop, .geoDrop, .rateDrop, .floodDrop, .customRateDrop, .parseDrop,
    .tempBanDrop].find? fun stat => stat.index = index

/-- The values of one counter on all CPUs. -/
def Machine.values (m : Machine) (stat : Stat) : List U64 :=
  (List.range m.cpus).map fun cpu => m.cpuStats cpu stat

def Machine.stat (m : Machine) (index : U32) : Except String U64 :=
  match Stat.atIndex index with
  | some stat => .ok (m.values stat).sum
  | none => .error ("failed to read XDP stats index " ++ toString index.toNat)

def Machine.stats (m : Machine) : Except String XdpStats := do
  return {
    pass := ← m.stat statPass
    ruleDrop := ← m.stat statRuleDrop
    geoDrop := ← m.stat statGeoDrop
    rateDrop := ← m.stat statRateDrop
    floodDrop := ← m.stat statFloodDrop
    customRateDrop := ← m.stat statCustomRateDrop
    parseDrop := ← m.stat statParseDrop
    tempBanDrop := ← m.stat statTempBanDrop }

/-- What `stats` reads: the same counters under the same indices. -/
def Machine.read (m : Machine) : XdpStats where
  pass := (m.values .pass).sum
  ruleDrop := (m.values .ruleDrop).sum
  geoDrop := (m.values .geoDrop).sum
  rateDrop := (m.values .rateDrop).sum
  floodDrop := (m.values .floodDrop).sum
  customRateDrop := (m.values .customRateDrop).sum
  parseDrop := (m.values .parseDrop).sum
  tempBanDrop := (m.values .tempBanDrop).sum

theorem stats_eq_read (m : Machine) : m.stats = .ok m.read := rfl

/-! ## Verdicts and counters -/

/-- The frame is one that `handle_packet` is called for. -/
def ReachesHandle (data : Frame) : Bool :=
  match parseFrame data with
  | .packet _ => true
  | _ => false

/-- The packets for which the program returned `XDP_DROP`. -/
def Machine.drops (m : Machine) : Nat :=
  m.verdicts.countP fun verdict => verdict.2 = .drop

/-- The packets that reached `handle_packet` and for which it returned `XDP_PASS`. -/
def Machine.passes (m : Machine) : Nat :=
  m.verdicts.countP fun verdict => ReachesHandle verdict.1 && verdict.2 = .pass

/-- One counter of one CPU goes up by one, and the verdict is the one that goes with it. -/
structure CountedOnce (m : Machine) (cpu : Nat) (data : Frame) (stat : Stat) (m' : Machine) :
    Prop where
  counters : m'.cpuStats = Function.update m.cpuStats cpu
    (Function.update (m.cpuStats cpu) stat (m.cpuStats cpu stat + 1))
  verdict : m'.verdicts = m.verdicts ++ [(data, statVerdict stat)]

/-- What is counted in one step: nothing for a packet that is not IP, a parse error for one that is
malformed, and the deciding stage for all others. -/
def CountsStage (m : Machine) (event : MachineEvent) (m' : Machine) : Prop :=
  match event with
  | .write _ _ => m'.cpuStats = m.cpuStats ∧ m'.verdicts = m.verdicts
  | .packet cpu env data =>
      match parseFrame data with
      | .notIp => m'.cpuStats = m.cpuStats ∧ m'.verdicts = m.verdicts ++ [(data, .pass)]
      | .malformed _ _ _ => CountedOnce m cpu data .parseDrop m'
      | .packet packet =>
          ∃ stat, DecidedBy env packet (m.view cpu) stat ∧ CountedOnce m cpu data stat m'

section Conservation

variable {m m' : Machine} {event : MachineEvent} {cpu : Nat} {data : Frame} {stat : Stat}

/-- The machine after a packet with this outcome. -/
def Machine.after (m : Machine) (cpu : Nat) (data : Frame) (outcome : XdpAction × FilterState) :
    Machine :=
  { m with
    filter := outcome.2
    cpuStats := Function.update m.cpuStats cpu outcome.2.stats
    verdicts := m.verdicts ++ [(data, outcome.1)] }

theorem countedOnce_after {outcome : XdpAction × FilterState}
    (h : CountedAs stat (m.view cpu) outcome) :
    CountedOnce m cpu data stat (m.after cpu data outcome) where
  counters := by
    rw [Machine.after, h.2]
    rfl
  verdict := by
    rw [Machine.after, h.1]

theorem countsStage_of_step (hstep : machineStep m event = some m') : CountsStage m event m' := by
  cases event with
  | write maps dropConfig =>
      cases hstep
      exact ⟨rfl, rfl⟩
  | packet cpu env data =>
      rw [machineStep] at hstep
      split at hstep
      · obtain rfl : m.after cpu data (xdpFirewall env data (m.view cpu)) = m' :=
          Option.some.inj hstep
        rw [CountsStage, xdpFirewall]
        cases parseFrame data with
        | notIp => exact ⟨Function.update_eq_self cpu m.cpuStats, rfl⟩
        | malformed family proto src => exact countedOnce_after (countedAs_dropPacket rfl)
        | packet packet =>
            rcases counted_handlePacket env packet (m.view cpu) with ⟨stat, hdecided, hcounted⟩
            exact ⟨stat, hdecided, countedOnce_after hcounted⟩
      · cases hstep

theorem cpus_of_step (hstep : machineStep m event = some m') : m'.cpus = m.cpus := by
  cases event with
  | write maps dropConfig =>
      cases hstep
      rfl
  | packet cpu env data =>
      rw [machineStep] at hstep
      split at hstep
      · cases hstep
        rfl
      · cases hstep

theorem cpu_lt_of_step {env : PacketEnv}
    (hstep : machineStep m (.packet cpu env data) = some m') : cpu < m.cpus := by
  rw [machineStep] at hstep
  split at hstep
  · assumption
  · cases hstep

/-- Adding one to a counter of one CPU adds one to its sum over the CPUs, if that one is among
them. -/
theorem sum_update_counter {all : Nat → Stat → U64} (other : Stat) (cpus : Nat) :
    ((List.range cpus).map fun i =>
        Function.update all cpu (Function.update (all cpu) stat (all cpu stat + 1)) i other).sum =
      ((List.range cpus).map fun i => all i other).sum +
        if other = stat ∧ cpu < cpus then 1 else 0 := by
  induction cpus with
  | zero => simp
  | succ n ih =>
      rw [List.range_succ, List.map_append, List.map_append, List.sum_append, List.sum_append, ih]
      simp only [List.map_cons, List.map_nil, List.sum_singleton]
      by_cases hlast : n = cpu
      · subst hlast
        by_cases hstat : other = stat
        · subst hstat
          simp
          ring
        · simp [hstat]
      · have hin : cpu < n ↔ cpu < n + 1 := by omega
        simp only [Function.update_of_ne hlast, hin]
        ring

theorem CountedOnce.sum_values (h : CountedOnce m cpu data stat m') (hcpu : cpu < m.cpus)
    (hcpus : m'.cpus = m.cpus) (other : Stat) :
    (m'.values other).sum = (m.values other).sum + if other = stat then 1 else 0 := by
  rw [Machine.values, h.counters, hcpus, sum_update_counter]
  simp only [hcpu, and_true]
  rfl

/-! ## Runs -/

/-- The counters are the numbers of the verdicts, as 64-bit numbers. -/
structure CountersAgree (m : Machine) : Prop where
  drops : m.read.totalDrop = BitVec.ofNat 64 m.drops
  passes : m.read.pass = BitVec.ofNat 64 m.passes

theorem read_congr (hstats : m'.cpuStats = m.cpuStats) (hcpus : m'.cpus = m.cpus) :
    m'.read = m.read := by
  rw [Machine.read, Machine.read]
  simp only [Machine.values, hstats, hcpus]

theorem CountedOnce.totalDrop (h : CountedOnce m cpu data stat m') (hcpu : cpu < m.cpus)
    (hcpus : m'.cpus = m.cpus) :
    m'.read.totalDrop = m.read.totalDrop + if statVerdict stat = .drop then 1 else 0 := by
  simp only [XdpStats.totalDrop, Machine.read, h.sum_values hcpu hcpus]
  cases stat <;> simp [statVerdict] <;> ring

/-- A packet that is counted keeps the counters and the verdicts in step. -/
theorem CountersAgree.counted (hagree : CountersAgree m) (h : CountedOnce m cpu data stat m')
    (hcpu : cpu < m.cpus) (hcpus : m'.cpus = m.cpus)
    (hreaches : statVerdict stat = .pass → ReachesHandle data = true) : CountersAgree m' where
  drops := by
    have hdrops : m'.drops = m.drops + if statVerdict stat = .drop then 1 else 0 := by
      simp [Machine.drops, h.verdict, List.countP_append, List.countP_singleton]
    rw [h.totalDrop hcpu hcpus, hagree.drops, hdrops]
    split <;> simp [BitVec.ofNat_add]
  passes := by
    have hpasses : m'.passes = m.passes + if Stat.pass = stat then 1 else 0 := by
      have hverdict : statVerdict stat = .pass ↔ Stat.pass = stat := by
        cases stat <;> simp [statVerdict]
      by_cases hpass : statVerdict stat = .pass
      · simp [Machine.passes, h.verdict, List.countP_append, hpass, hreaches hpass, ← hverdict]
      · simp [Machine.passes, h.verdict, List.countP_append, hpass, ← hverdict]
    have hread : m'.read.pass = m.read.pass + if Stat.pass = stat then 1 else 0 :=
      h.sum_values hcpu hcpus .pass
    rw [hread, hagree.passes, hpasses]
    split <;> simp [BitVec.ofNat_add]

theorem CountersAgree.step (hagree : CountersAgree m) (hstep : machineStep m event = some m') :
    CountersAgree m' := by
  have hcpus := cpus_of_step hstep
  have hcounts := countsStage_of_step hstep
  cases event with
  | write maps dropConfig =>
      rcases hcounts with ⟨hstats, hverdicts⟩
      have hread := read_congr hstats hcpus
      constructor
      · rw [hread, hagree.drops, Machine.drops, Machine.drops, hverdicts]
      · rw [hread, hagree.passes, Machine.passes, Machine.passes, hverdicts]
  | packet cpu env data =>
      have hcpu := cpu_lt_of_step hstep
      rw [CountsStage] at hcounts
      cases hparse : parseFrame data with
      | notIp =>
          rw [hparse] at hcounts
          rcases hcounts with ⟨hstats, hverdicts⟩
          have hread := read_congr hstats hcpus
          have hunreached : ReachesHandle data = false := by rw [ReachesHandle, hparse]
          -- The packet passes without having reached `handle_packet`.
          constructor
          · rw [hread, hagree.drops]
            simp [Machine.drops, hverdicts, List.countP_append]
          · rw [hread, hagree.passes]
            simp [Machine.passes, hverdicts, List.countP_append, hunreached]
      | malformed family proto src =>
          rw [hparse] at hcounts
          exact hagree.counted hcounts hcpu hcpus nofun
      | packet packet =>
          rw [hparse] at hcounts
          rcases hcounts with ⟨stat, -, hcounted⟩
          exact hagree.counted hcounted hcpu hcpus fun _ => by rw [ReachesHandle, hparse]

/-- Zero counters, and no packet yet. -/
structure Machine.Fresh (m : Machine) : Prop where
  zero : ∀ cpu stat, m.cpuStats cpu stat = 0
  unasked : m.verdicts = []

theorem CountersAgree.of_fresh (h : m.Fresh) : CountersAgree m := by
  have hsum (stat : Stat) : (m.values stat).sum = 0 := by
    simp only [Machine.values, h.zero, List.map_const']
    rw [List.sum_replicate, nsmul_zero]
  constructor
  · simp [XdpStats.totalDrop, Machine.read, hsum, Machine.drops, h.unasked]
  · simp [Machine.read, hsum, Machine.passes, h.unasked]

theorem CountersAgree.run {events : List MachineEvent} (hfresh : m.Fresh)
    (hrun : Lib.run machineStep m events = some m') : CountersAgree m' :=
  run_invariant (fun _ _ _ hagree hstep => hagree.step hstep) (CountersAgree.of_fresh hfresh) hrun

/-- Whatever the maps hold and the packets are: what the agent reads are the numbers of the drops
and of the passes of `handle_packet` as 64-bit numbers, and every packet that is not let through
unread is counted once, under the stage that decided it. -/
theorem counters_conserved {events : List MachineEvent} (hfresh : m.Fresh)
    (hrun : run machineStep m events = some m') :
    (∃ stats, m'.stats = .ok stats ∧ stats.totalDrop = BitVec.ofNat 64 m'.drops ∧
        stats.pass = BitVec.ofNat 64 m'.passes ∧
        (m'.drops < 2 ^ 64 → stats.totalDrop.toNat = m'.drops) ∧
        (m'.passes < 2 ^ 64 → stats.pass.toNat = m'.passes)) ∧
      EachStep machineStep CountsStage m events := by
  have hagree := CountersAgree.run hfresh hrun
  refine ⟨⟨m'.read, stats_eq_read m', hagree.drops, hagree.passes, ?_, ?_⟩, ?_⟩
  · intro hdrops
    rw [hagree.drops, BitVec.toNat_ofNat, Nat.mod_eq_of_lt hdrops]
  · intro hpasses
    rw [hagree.passes, BitVec.toNat_ofNat, Nat.mod_eq_of_lt hpasses]
  · have hcounts (m : Machine) (event : MachineEvent) (m' : Machine)
        (hstep : machineStep m event = some m') : CountsStage m event m' :=
      countsStage_of_step hstep
    exact eachStep_of_step hcounts

/-- An IPv4 header whose length field is too small. -/
def malformedFrame : Frame :=
  List.replicate 12 0 ++ [0x08, 0x00] ++
    [0x44, 0, 0, 20, 0, 0, 0, 0, 64, 17, 0, 0, 203, 0, 113, 7, 198, 51, 100, 1]

/-- Two CPUs that have counted nothing. -/
def freshMachine : Machine where
  cpus := 2
  filter := allowedState
  cpuStats _ _ := 0
  verdicts := []

theorem fresh_freshMachine : freshMachine.Fresh :=
  ⟨fun _ _ => rfl, rfl⟩

/-- A packet that is not IP, one whose header is malformed, and two from the same host: the first is
over its limit, the second comes on the other CPU when the agent has switched the limits off. -/
def twoCpuEvents : List MachineEvent :=
  [.packet 0 momentEnv [],
    .packet 1 momentEnv malformedFrame,
    .packet 0 momentEnv udpFrame,
    .write (PolicyMaps.fresh (defenseValue XdpDynamicDefense.default)) 0,
    .packet 1 momentEnv udpFrame]

theorem counters_conserved_freshMachine :
    ∃ m' stats, run machineStep freshMachine twoCpuEvents = some m' ∧ m'.stats = .ok stats ∧
      m'.drops = 2 ∧ stats.totalDrop = 2 ∧ m'.passes = 1 ∧ stats.pass = 1 ∧
      EachStep machineStep CountsStage freshMachine twoCpuEvents := by
  have hrun : ∃ m', run machineStep freshMachine twoCpuEvents = some m' ∧
      m'.drops = 2 ∧ m'.passes = 1 :=
    ⟨_, rfl, rfl, rfl⟩
  rcases hrun with ⟨m', hrun, hdropped, hpassed⟩
  rcases counters_conserved fresh_freshMachine hrun with
    ⟨⟨stats, hstats, hdrops, hpasses, -, -⟩, heach⟩
  refine ⟨m', stats, hrun, hstats, hdropped, ?_, hpassed, ?_, heach⟩
  · rw [hdrops, hdropped]
    rfl
  · rw [hpasses, hpassed]
    rfl

theorem step_malformedFrame (h : 0 < m.cpus) :
    ∃ m', machineStep m (.packet 0 momentEnv malformedFrame) = some m' ∧
      m'.cpus = m.cpus ∧ m'.drops = m.drops + 1 := by
  let outcome := xdpFirewall momentEnv malformedFrame (m.view 0)
  have hdrop : outcome.1 = .drop := rfl
  refine ⟨m.after 0 malformedFrame outcome, ?_, rfl, ?_⟩
  · rw [machineStep, if_pos h]
    rfl
  · simp [Machine.drops, Machine.after, List.countP_append, hdrop]

theorem run_malformedFrame (n : Nat) (h : 0 < m.cpus) :
    ∃ m', run machineStep m (List.replicate n (.packet 0 momentEnv malformedFrame)) = some m' ∧
      m'.drops = m.drops + n := by
  induction n generalizing m with
  | zero => exact ⟨m, rfl, rfl⟩
  | succ n ih =>
      rcases step_malformedFrame h with ⟨mid, hmid, hcpus, hone⟩
      rcases ih (hcpus ▸ h) with ⟨m', hrest, hdrops⟩
      refine ⟨m', ?_, ?_⟩
      · rw [List.replicate_succ, run, hmid, Option.bind_some, hrest]
      · rw [hdrops, hone]
        omega

/-- After 2 ^ 64 drops the counters are zero again. -/
theorem drops_wrap :
    ∃ m' stats, run machineStep freshMachine
        (List.replicate (2 ^ 64) (.packet 0 momentEnv malformedFrame)) = some m' ∧
      m'.stats = .ok stats ∧ m'.drops = 2 ^ 64 ∧ stats.totalDrop.toNat ≠ m'.drops := by
  rcases run_malformedFrame (m := freshMachine) (2 ^ 64) (by decide) with ⟨m', hrun, hdrops⟩
  have hdrops : m'.drops = 2 ^ 64 := hdrops.trans (Nat.zero_add _)
  have hagree := CountersAgree.run fresh_freshMachine hrun
  refine ⟨m', m'.read, hrun, stats_eq_read m', hdrops, ?_⟩
  exact fun heq => absurd (heq.trans hdrops) (Nat.ne_of_lt (BitVec.isLt _))

end Conservation

end Enforcement
end XdpFirewall
