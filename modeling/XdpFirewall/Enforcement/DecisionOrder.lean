import XdpFirewall.Bpf.HandlePacket
import XdpFirewall.DataPlane.ApplyCapacity

/-!
# DecisionOrder — the documented order of decisions and the order of the filter

The documentation lists the stages with the answers each one may give; the first answer is the
verdict. The filter follows the list but for one answer: an allowed country does not let the
packet pass, and the limits still apply to it.
-/

namespace XdpFirewall
namespace Enforcement

open Net Policy Lib DataPlane Bpf

/-! ## Answers of the stages -/

variable (env : PacketEnv) (packet : Packet) (s : FilterState)

def trustedAnswer : Option XdpAction :=
  if (lookupTrusted s.maps packet.family packet.src).isSome then some .pass else none

def banAnswer : Option XdpAction :=
  if tempBanActive s.maps packet.family packet.proto packet.dport packet.src env.banNow then
    some .drop
  else
    none

/-- Deny drops, allow passes. -/
def actionAnswer (action : U8) : Option XdpAction :=
  if action = actionDeny then
    some .drop
  else if action = actionAllow then
    some .pass
  else
    none

def ruleAnswer : Option XdpAction :=
  (lookupRule s.maps packet.family packet.proto packet.dport packet.src).bind fun rule =>
    actionAnswer rule.2.action

/-- The value of the country that the source belongs to. -/
def countryOf : Option CountryValue :=
  (lookupGeo s.maps packet.family packet.src).bind fun geo => lookupCountry s.maps geo.2

def countryAnswer : Option XdpAction :=
  (countryOf packet s).bind fun country => actionAnswer country.action

/-- The limits drop or have no answer: custom limits first, then the global ones. -/
def limitAnswer : Option XdpAction :=
  (dynamicDefenseLimited env s.maps packet s.rateBuckets).1.map fun _ => .drop

/-- The documented decision list: the first stage with an answer decides, and a packet that no
stage answers for passes. -/
def documentedVerdict : XdpAction :=
  ((trustedAnswer packet s <|> banAnswer env packet s <|> ruleAnswer packet s <|>
    countryAnswer packet s <|> limitAnswer env packet s).getD .pass)

/-! ## Verdicts of the filter -/

/-- The country stage of the filter: deny drops, everything else has no answer. -/
def countryDenyAnswer : Option XdpAction :=
  (countryOf packet s).bind fun country =>
    if country.action = actionDeny then some .drop else none

theorem verdict_limitPacket :
    (limitPacket env packet s).1 = (limitAnswer env packet s).getD .pass := by
  unfold limitPacket limitAnswer
  cases h : dynamicDefenseLimited env s.maps packet s.rateBuckets with
  | mk reason buckets =>
      cases reason with
      | none => rfl
      | some reason => rfl

theorem verdict_screenCountry :
    (screenCountry env packet s).1 =
      ((countryDenyAnswer packet s <|> limitAnswer env packet s).getD .pass) := by
  unfold screenCountry countryDenyAnswer countryOf
  cases hgeo : lookupGeo s.maps packet.family packet.src with
  | none => exact verdict_limitPacket env packet s
  | some geo =>
      cases hcountry : lookupCountry s.maps geo.2 with
      | none =>
          simpa [hcountry] using verdict_limitPacket env packet s
      | some country =>
          by_cases hdeny : country.action = actionDeny
          · simp [hcountry, hdeny, dropPacket]
          · simpa [hcountry, hdeny] using verdict_limitPacket env packet s

theorem verdict_handlePacket :
    (handlePacket env packet s).1 =
      ((trustedAnswer packet s <|> banAnswer env packet s <|> ruleAnswer packet s <|>
        countryDenyAnswer packet s <|> limitAnswer env packet s).getD .pass) := by
  unfold handlePacket trustedAnswer banAnswer ruleAnswer
  split
  · rfl
  · split
    · rfl
    · cases hrule : lookupRule s.maps packet.family packet.proto packet.dport packet.src with
      | none => exact verdict_screenCountry env packet s
      | some rule =>
          by_cases hdeny : rule.2.action = actionDeny
          · simp [hdeny, actionAnswer, dropPacket]
          · by_cases hallow : rule.2.action = actionAllow
            · simp [hallow, actionAnswer, passPacket]
            · simpa [hdeny, hallow, actionAnswer] using verdict_screenCountry env packet s

/-! ## The one difference -/

/-- The packet reaches the country stage, its country is allowed, and a limit refuses it. -/
structure AllowedButLimited : Prop where
  untrusted : trustedAnswer packet s = none
  unbanned : banAnswer env packet s = none
  unruled : ruleAnswer packet s = none
  allowed : ∃ country, countryOf packet s = some country ∧ country.action = actionAllow
  limited : LimitExceeded env s.maps packet s.rateBuckets

variable {env packet s}

theorem countryAnswer_eq_of_not_allowed
    (h : ∀ country, countryOf packet s = some country → country.action ≠ actionAllow) :
    countryAnswer packet s = countryDenyAnswer packet s := by
  unfold countryAnswer countryDenyAnswer
  cases hcountry : countryOf packet s with
  | none => rfl
  | some country =>
      have hnot := h country hcountry
      simp [actionAnswer, hnot]

theorem country_answers_of_allowed {country : CountryValue}
    (hcountry : countryOf packet s = some country) (hallow : country.action = actionAllow) :
    countryAnswer packet s = some .pass ∧ countryDenyAnswer packet s = none := by
  simp [countryAnswer, countryDenyAnswer, hcountry, hallow, actionAnswer]

/-- The filter gives the documented verdict except to a packet from an allowed country that a limit
refuses. -/
theorem handlePacket_documented_iff :
    (handlePacket env packet s).1 = documentedVerdict env packet s ↔
      ¬ AllowedButLimited env packet s := by
  rw [verdict_handlePacket, documentedVerdict]
  cases htrusted : trustedAnswer packet s with
  | some answer => exact iff_of_true rfl fun h => by simp [h.untrusted] at htrusted
  | none =>
  cases hban : banAnswer env packet s with
  | some answer => exact iff_of_true rfl fun h => by simp [h.unbanned] at hban
  | none =>
  cases hrule : ruleAnswer packet s with
  | some answer => exact iff_of_true rfl fun h => by simp [h.unruled] at hrule
  | none =>
  by_cases hallowed : ∃ country, countryOf packet s = some country ∧ country.action = actionAllow
  · obtain ⟨country, hcountry, hallow⟩ := hallowed
    obtain ⟨hpass, hnone⟩ := country_answers_of_allowed hcountry hallow
    rw [hpass, hnone]
    -- The documented list stops here; the filter goes on to the limits.
    have hexceeded : (dynamicDefenseLimited env s.maps packet s.rateBuckets).1.isSome ↔
        LimitExceeded env s.maps packet s.rateBuckets := dynamicDefenseLimited_isSome_iff
    cases hlimit : (dynamicDefenseLimited env s.maps packet s.rateBuckets).1 with
    | none =>
        rw [hlimit] at hexceeded
        refine iff_of_true (by simp [limitAnswer, hlimit]) fun h => ?_
        exact Bool.false_ne_true (hexceeded.mpr h.limited)
    | some reason =>
        rw [hlimit] at hexceeded
        refine iff_of_false (by simp [limitAnswer, hlimit]) fun h => h ?_
        exact ⟨htrusted, hban, hrule, ⟨country, hcountry, hallow⟩, hexceeded.mp rfl⟩
  · have hsame : countryAnswer packet s = countryDenyAnswer packet s :=
      countryAnswer_eq_of_not_allowed fun country hcountry hallow =>
        hallowed ⟨country, hcountry, hallow⟩
    rw [hsame]
    exact iff_of_true rfl fun h => hallowed h.allowed

/-! ## An allowed country under a limit -/

/-- A TCP packet to port 443 from 203.0.113.7. -/
def allowedPacket : Packet where
  family := 4
  proto := protoTcp
  dport := toBe 443
  src := addrBytes (.v4 0xCB007107)

/-- All readings are of one moment, and no bucket is forgotten. -/
def momentEnv : PacketEnv where
  banNow := 5
  customNow := 5
  floodNow := 5
  ipNow := 5
  eventNow := 5
  retained _ _ := true

/-- Maps that allow the country of 203.0.113.0/24 and limit every source to one packet per second,
which this source has just sent. -/
def allowedState : FilterState where
  maps :=
    { PolicyMaps.fresh
        { defenseValue XdpDynamicDefense.default with
          enabled := 1
          ipRateLimitEnabled := 1
          ipPacketsPerSecond := 1
          ipBurst := 1 } with
      geoCidrs := KeyedStore.empty.set (geoKey (.v4 0xCB007100) 24) { country := 0x434E }
      countryRules := KeyedStore.empty.set (countryKey 0x434E) { action := actionAllow } }
  rateBuckets :=
    KeyedStore.empty.set (bucketKey rateKindIp allowedPacket protoAny 0)
      { tokens := 0
        updatedNs := 5
        blockedUntilNs := 0 }
  stats _ := 0
  dropConfig := 0
  dropEvents := []

/-- The documented verdict is to pass, the filter drops. -/
theorem allowed_but_dropped :
    documentedVerdict momentEnv allowedPacket allowedState = .pass ∧
      (handlePacket momentEnv allowedPacket allowedState).1 = .drop := by
  constructor <;> decide

end Enforcement
end XdpFirewall
