import XdpFirewall.Bpf.RateLimit

/-!
# HandlePacket — the decision about one packet

The filter asks its maps in a fixed order and stops at the first answer: trusted sources, bans,
rules, countries, limits. Every decision is counted, and a drop is reported when that is turned
on.
-/

namespace XdpFirewall
namespace Bpf

open Net Policy Lib DataPlane

inductive XdpAction
  | drop
  | pass
  deriving DecidableEq, Repr

structure DropEvent where
  timeNs : U64
  reason : Stat
  family : U8
  proto : U8
  dport : U16
  addr : AddrBytes
  country : U16
  action : U8
  source : U8

/-- All maps of the filter, and the events it has sent. -/
structure FilterState where
  maps : PolicyMaps
  rateBuckets : RateBuckets
  stats : Stat → U64
  dropConfig : U8
  dropEvents : List DropEvent

/-! ## Counting and reporting -/

def incrStat (stat : Stat) (s : FilterState) : FilterState :=
  { s with stats := Function.update s.stats stat (s.stats stat + 1) }

/-- Where a drop came from: the country of the source, the action and the kind of rule. -/
structure DropDetail where
  country : U16
  action : U8
  source : U8

def emitDropEvent (env : PacketEnv) (reason : Stat) (packet : Packet) (detail : DropDetail)
    (s : FilterState) : FilterState :=
  if s.dropConfig = 0 then
    s
  else
    let event : DropEvent :=
      { timeNs := env.eventNow
        reason := reason
        family := packet.family
        proto := packet.proto
        dport := packet.dport
        addr := packet.src
        country := detail.country
        action := detail.action
        source := detail.source }
    { s with dropEvents := s.dropEvents ++ [event] }

/-- Count and pass. -/
def passPacket (s : FilterState) : XdpAction × FilterState :=
  (.pass, incrStat .pass s)

/-- Count, report and drop. -/
def dropPacket (env : PacketEnv) (reason : Stat) (packet : Packet) (detail : DropDetail)
    (s : FilterState) : XdpAction × FilterState :=
  (.drop, emitDropEvent env reason packet detail (incrStat reason s))

/-! ## Stages -/

/-- The last stage of `handle_packet`: the limits. -/
def limitPacket (env : PacketEnv) (packet : Packet) (s : FilterState) :
    XdpAction × FilterState :=
  match dynamicDefenseLimited env s.maps packet s.rateBuckets with
  | (some defenseDrop, buckets) =>
      dropPacket env defenseDrop packet { country := 0, action := actionDeny, source := 0 }
        { s with rateBuckets := buckets }
  | (none, buckets) => passPacket { s with rateBuckets := buckets }

/-- The value under the country of the source, if there is one. -/
def lookupCountry (maps : PolicyMaps) (geo : GeoValue) : Option CountryValue :=
  (maps.countryRules.get? (countryKey geo.country)).map Prod.snd

/-- `handle_packet` from the lookup of the country on. -/
def screenCountry (env : PacketEnv) (packet : Packet) (s : FilterState) :
    XdpAction × FilterState :=
  match lookupGeo s.maps packet.family packet.src with
  | none => limitPacket env packet s
  | some geo =>
      match lookupCountry s.maps geo.2 with
      | none => limitPacket env packet s
      | some country =>
          if country.action = actionDeny then
            dropPacket env .geoDrop packet
              { country := geo.2.country, action := country.action, source := 0 } s
          else
            limitPacket env packet s

def handlePacket (env : PacketEnv) (packet : Packet) (s : FilterState) :
    XdpAction × FilterState :=
  if (lookupTrusted s.maps packet.family packet.src).isSome then
    passPacket s
  else if tempBanActive s.maps packet.family packet.proto packet.dport packet.src env.banNow then
    dropPacket env .tempBanDrop packet { country := 0, action := actionDeny, source := 0 } s
  else
    match lookupRule s.maps packet.family packet.proto packet.dport packet.src with
    | none => screenCountry env packet s
    | some rule =>
        if rule.2.action = actionDeny then
          dropPacket env .ruleDrop packet
            { country := 0, action := rule.2.action, source := rule.2.source } s
        else if rule.2.action = actionAllow then
          passPacket s
        else
          screenCountry env packet s

/-! ## What is reported -/

theorem maps_dropPacket (env : PacketEnv) (reason : Stat) (packet : Packet) (detail : DropDetail)
    (s : FilterState) : (dropPacket env reason packet detail s).2.maps = s.maps := by
  unfold dropPacket emitDropEvent
  split <;> rfl

/-- What an event says about its packet. -/
structure DropEvent.Of (event : DropEvent) (env : PacketEnv) (packet : Packet) : Prop where
  timeNs : event.timeNs = env.eventNow
  family : event.family = packet.family
  proto : event.proto = packet.proto
  dport : event.dport = packet.dport
  addr : event.addr = packet.src

section Reports

variable {env : PacketEnv} {packet : Packet} {s : FilterState}

/-- A drop is reported once, when that is turned on, and a packet that passes is not. -/
def Reports (env : PacketEnv) (packet : Packet) (s : FilterState)
    (outcome : XdpAction × FilterState) : Prop :=
  (outcome.1 = .pass ∧ outcome.2.dropEvents = s.dropEvents) ∨
    (outcome.1 = .drop ∧ ∃ event : DropEvent, event.Of env packet ∧
      outcome.2.dropEvents = s.dropEvents ++ if s.dropConfig = 0 then [] else [event])

theorem reports_passPacket : Reports env packet s (passPacket s) :=
  .inl ⟨rfl, rfl⟩

theorem reports_dropPacket (reason : Stat) (detail : DropDetail) :
    Reports env packet s (dropPacket env reason packet detail s) := by
  have hconfig : (incrStat reason s).dropConfig = s.dropConfig := rfl
  let event : DropEvent :=
    { timeNs := env.eventNow
      reason := reason
      family := packet.family
      proto := packet.proto
      dport := packet.dport
      addr := packet.src
      country := detail.country
      action := detail.action
      source := detail.source }
  refine .inr ⟨rfl, event, ⟨rfl, rfl, rfl, rfl, rfl⟩, ?_⟩
  rw [dropPacket, emitDropEvent, hconfig]
  by_cases hoff : s.dropConfig = 0
  · rw [if_pos hoff, if_pos hoff, List.append_nil]
    rfl
  · rw [if_neg hoff, if_neg hoff]
    rfl

theorem reports_limitPacket : Reports env packet s (limitPacket env packet s) := by
  rw [limitPacket]
  split
  · exact reports_dropPacket (s := { s with rateBuckets := _ }) _ _
  · exact reports_passPacket (s := { s with rateBuckets := _ })

theorem reports_screenCountry : Reports env packet s (screenCountry env packet s) := by
  rw [screenCountry]
  split
  · exact reports_limitPacket
  · split
    · exact reports_limitPacket
    · split
      · exact reports_dropPacket _ _
      · exact reports_limitPacket

theorem reports_handlePacket : Reports env packet s (handlePacket env packet s) := by
  rw [handlePacket]
  split
  · exact reports_passPacket
  · split
    · exact reports_dropPacket _ _
    · split
      · exact reports_screenCountry
      · split
        · exact reports_dropPacket _ _
        · split
          · exact reports_passPacket
          · exact reports_screenCountry

end Reports

end Bpf
end XdpFirewall
