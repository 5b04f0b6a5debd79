import XdpFirewall.Bpf.Lookup
import XdpFirewall.DataPlane.ApplyExact

/-!
# TempBans — which packets the ban map bans, and until when

The kernel looks at the longest ban of a class only. Compaction removes a ban below which a wider
one lasts as long, so a kept ban outlives every wider kept ban of its class and the longest one
decides for all of them.
-/

namespace XdpFirewall
namespace Enforcement

open Net Policy Lib DataPlane Bpf

variable {bans : List XdpTempBan} {ban cover : XdpTempBan} {wallNow : Int} {monotonicNow : U64}

/-! ## Kept bans -/

/-- `cover` bans every packet that `ban` bans, and at least as long. -/
structure Implies (cover ban : XdpTempBan) : Prop where
  protocol : cover.protocol = ban.protocol
  port : cover.port = ban.port
  within : ban.toNetwork.Within cover.toNetwork
  expires : ban.expiresAt ≤ cover.expiresAt

/-- A ban that compaction removes is implied by one that it keeps. -/
theorem exists_kept (h : ban ∈ bans) : ∃ kept ∈ compactTempBans bans, Implies kept ban := by
  obtain ⟨kept, hkept, hcover⟩ := exists_mem_compact isCovering_tempBanCoversOrSupersedes h
  refine ⟨kept, hkept, ?_⟩
  rcases hcover with rfl | hcover
  · exact ⟨rfl, rfl, Network.Within.refl _, le_rfl⟩
  · obtain ⟨hprotocol, hport, hwithin, hexpires⟩ := tempBanCoversOrSupersedes_iff.mp hcover
    refine ⟨hprotocol, hport, hwithin, ?_⟩
    rcases hexpires with hlt | ⟨-, heq⟩
    · exact Int.le_of_lt hlt
    · exact heq.le

/-- Of two kept bans of one class, the narrower one does not expire first. -/
theorem expiresAt_le_of_kept (hban : ban ∈ compactTempBans bans)
    (hcover : cover ∈ compactTempBans bans) (hprotocol : cover.protocol = ban.protocol)
    (hport : cover.port = ban.port) (hwithin : ban.toNetwork.Within cover.toNetwork) :
    cover.expiresAt ≤ ban.expiresAt := by
  have hnot := ((mem_compact isCovering_tempBanCoversOrSupersedes.irrefl).mp hban).2 cover
    (mem_of_mem_compactTempBans hcover)
  by_contra hlt
  push Not at hlt
  have hcovers := tempBanCoversOrSupersedes_iff.mpr ⟨hprotocol, hport, hwithin, Or.inl hlt⟩
  rw [hnot] at hcovers
  cases hcovers

theorem eq_of_keyOfTempBan_eq (hban : ban ∈ compactTempBans bans)
    (hcover : cover ∈ compactTempBans bans) (hkey : keyOfTempBan cover = keyOfTempBan ban) :
    cover = ban := by
  obtain ⟨hnet, hprotocol, hport⟩ := keyOfTempBan_bits_injective (congrArg LpmKey.bits hkey)
  have hself : ban.toNetwork.Within cover.toNetwork := hnet ▸ Network.Within.refl _
  have hself' : cover.toNetwork.Within ban.toNetwork := hnet ▸ Network.Within.refl _
  -- Neither of the two may outlive the other.
  have hle := expiresAt_le_of_kept hban hcover hprotocol hport hself
  have hge := expiresAt_le_of_kept hcover hban hprotocol.symm hport.symm hself'
  have hexpires := Int.le_antisymm hle hge
  cases cover
  cases ban
  simp_all

/-! ## The ban map -/

/-- The map holds every kept ban that has not expired, with its expiry on the monotonic clock. -/
def HoldsBans (maps : PolicyMaps) (bans : List XdpTempBan) (wallNow : Int)
    (monotonicNow : U64) : Prop :=
  ∀ entry, entry ∈ maps.tempBans ↔
    ∃ ban ∈ compactTempBans bans, wallNow < ban.expiresAt ∧
      entry = banEntry wallNow monotonicNow (keyOfTempBan ban, ban)

/-- Kept bans have different keys, so nothing is lost when keys are collected. -/
theorem mem_pendingTempBans_filtered_iff {localCidrs : List LocalInterfaceCidr}
    {item : TempBanKey × XdpTempBan} :
    item ∈ (pendingTempBans localCidrs bans wallNow).items ↔
      item.2 ∈ compactTempBans bans ∧ item.1 = keyOfTempBan item.2 ∧ wallNow < item.2.expiresAt ∧
        tempBanMatchesLocalInterface localCidrs item.2 = false := by
  constructor
  · exact mem_of_mem_pendingTempBans
  · rintro ⟨hmem, hkey, hlive, hlocal⟩
    have hencode : encodeTempBan? localCidrs wallNow item.2 = some item :=
      encodeTempBan?_eq_some_iff.mpr ⟨⟨hlive, hlocal⟩, Prod.ext hkey rfl⟩
    rw [pendingTempBans_eq, Collected.mem_items_collect]
    have hsome : (((compactTempBans bans).filterMap (encodeTempBan? localCidrs wallNow)).find?
        fun other => tempBanKeyId other.1 = tempBanKeyId item.1).isSome := by
      rw [List.find?_isSome]
      exact ⟨item, List.mem_filterMap.mpr ⟨item.2, hmem, hencode⟩, by simp⟩
    obtain ⟨first, hfirst⟩ := Option.isSome_iff_exists.mp hsome
    obtain ⟨ban, hban, hitem⟩ := List.mem_filterMap.mp (List.mem_of_find?_eq_some hfirst)
    obtain ⟨-, rfl⟩ := encodeTempBan?_eq_some_iff.mp hitem
    have hid : tempBanKeyId (keyOfTempBan ban) = tempBanKeyId item.1 := by
      simpa using List.find?_some hfirst
    have hsame : ban = item.2 :=
      eq_of_keyOfTempBan_eq hmem hban ((l4KeyId_injective hid).trans hkey)
    rw [hfirst, hsame, ← hkey]

/-- Without local addresses every kept ban that has not expired is pending. -/
theorem mem_pendingTempBans_iff {item : TempBanKey × XdpTempBan} :
    item ∈ (pendingTempBans [] bans wallNow).items ↔
      item.2 ∈ compactTempBans bans ∧ wallNow < item.2.expiresAt ∧
        item.1 = keyOfTempBan item.2 := by
  have hlocal : tempBanMatchesLocalInterface [] item.2 = false := rfl
  rw [mem_pendingTempBans_filtered_iff, and_comm (a := item.1 = keyOfTempBan item.2)]
  simp [hlocal]

theorem holdsBans_of_applied {env : ApplyEnv} {policy : CompiledPolicy}
    {m m' : LinuxXdpManager} (hrange : ExpiresInRange policy env.wallNow)
    (hlocal : m.localInterfaceCidrs = []) (hclock : monotonicNowNs env = .ok monotonicNow)
    (h : (applyToCurrentMaps env policy).run m = .ok () m') :
    HoldsBans m'.maps policy.tempBans env.wallNow monotonicNow := by
  obtain ⟨now, hnow, hbans⟩ := mem_tempBans_of_applied hrange h
  rw [hclock] at hnow
  cases hnow
  intro entry
  rw [hbans, pendingOf, buildPendingPolicyKeys, hlocal, List.mem_map]
  constructor
  · rintro ⟨⟨key, ban⟩, hitem, rfl⟩
    obtain ⟨hmem, hlive, hkey⟩ := mem_pendingTempBans_iff.mp hitem
    exact ⟨ban, hmem, hlive, congrArg (fun k => banEntry _ _ (k, ban)) hkey⟩
  · rintro ⟨ban, hmem, hlive, rfl⟩
    exact ⟨(keyOfTempBan ban, ban), mem_pendingTempBans_iff.mpr ⟨hmem, hlive, rfl⟩, rfl⟩

/-- Every kept live ban has an expiry that fits the monotonic clock. -/
theorem expiry_fits_of_applied {env : ApplyEnv} {policy : CompiledPolicy}
    {m m' : LinuxXdpManager} (hrange : ExpiresInRange policy env.wallNow)
    (hlocal : m.localInterfaceCidrs = []) (hclock : monotonicNowNs env = .ok monotonicNow)
    (h : (applyToCurrentMaps env policy).run m = .ok () m')
    (hban : ban ∈ compactTempBans policy.tempBans) (hlive : env.wallNow < ban.expiresAt) :
    monotonicNow.toNat + (ban.expiresAt - env.wallNow).toNat < 2 ^ 64 := by
  obtain ⟨now, hadm, hconv, -⟩ := applyToCurrentMaps_ok h
  obtain rfl : monotonicNow = now := by
    have hsame := hclock.symm.trans hadm.clock
    cases hsame
    rfl
  have hitem : (keyOfTempBan ban, ban) ∈
      (buildPendingPolicyKeys m.localInterfaceCidrs policy env.wallNow).tempBans.items := by
    rw [buildPendingPolicyKeys, hlocal]
    exact mem_pendingTempBans_iff.mpr ⟨hban, hlive, rfl⟩
  obtain ⟨entry, hentry⟩ := hconv _ hitem
  exact (tempBanEntry_eq hlive (hrange ban (mem_of_mem_compactTempBans hban)) hentry).2

/-! ## The lookup -/

/-- The two clocks show the same moment, counted from the moment of the apply. -/
structure Together (wallNow : Int) (monotonicNow : U64) (t : Int) (now : U64) : Prop where
  later : wallNow ≤ t
  elapsed : now.toNat = monotonicNow.toNat + (t - wallNow).toNat

/-- An entry is active as long as its ban on the wall clock. -/
theorem banEntry_active_iff {t : Int} {now : U64} {key : TempBanKey}
    (htime : Together wallNow monotonicNow t now)
    (hfits : monotonicNow.toNat + (ban.expiresAt - wallNow).toNat < 2 ^ 64) :
    tempBanValueActive (some (banEntry wallNow monotonicNow (key, ban))) now ↔
      t < ban.expiresAt := by
  obtain ⟨hlater, helapsed⟩ := htime
  have hvalue : (monotonicNow + BitVec.ofNat 64 (ban.expiresAt - wallNow).toNat).toNat =
      monotonicNow.toNat + (ban.expiresAt - wallNow).toNat := by
    rw [BitVec.toNat_add, BitVec.toNat_ofNat]
    omega
  simp only [tempBanValueActive, banEntry, BitVec.lt_def, decide_eq_true_eq, hvalue, helapsed]
  omega

variable {maps : PolicyMaps} {src : IpAddr} {c : U8 × U16}

/-- The ban is of one class of the packet's protocol and port, and contains the source. -/
def BanInClass (c : U8 × U16) (src : IpAddr) (ban : XdpTempBan) : Prop :=
  protoCode ban.protocol = c.1 ∧ toBe ban.port = c.2 ∧ ban.toNetwork.Contains src

theorem keyOfTempBan_matches_iff :
    (keyOfTempBan ban).bits <+: (packetKey (family src) c.1 c.2 (addrBytes src)).bits ↔
      BanInClass c src ban :=
  l4Key_matches_iff

theorem length_keyOfTempBan (ban : XdpTempBan) :
    (keyOfTempBan ban).bits.length = lpmPrefixLen ban.prefixLen :=
  length_bits_l4Key _ _ _

theorem BanInClass.of_implies (h : BanInClass c src ban) (himplies : Implies cover ban) :
    BanInClass c src cover := by
  obtain ⟨hproto, hport, hnet⟩ := h
  exact ⟨by rw [himplies.protocol, hproto], by rw [himplies.port, hport],
    hnet.of_within himplies.within⟩

/-- In one class, no kept ban outlives a kept ban that is at least as long. -/
theorem expiresAt_le_of_longer (hban : ban ∈ compactTempBans bans)
    (hcover : cover ∈ compactTempBans bans) (h : BanInClass c src ban)
    (h' : BanInClass c src cover) (hle : cover.prefixLen ≤ ban.prefixLen) :
    cover.expiresAt ≤ ban.expiresAt := by
  obtain ⟨hproto, hport, hnet⟩ := h
  obtain ⟨hproto', hport', hnet'⟩ := h'
  exact expiresAt_le_of_kept hban hcover (protoCode_injective (hproto'.trans hproto.symm))
    (toBe_injective (hport'.trans hport.symm)) (Network.within_of_contains hnet hnet' hle)

/-- What a lookup in one class finds: the longest live kept ban. -/
theorem lookupElem_tempBan_some (h : HoldsBans maps bans wallNow monotonicNow)
    {entry : TempBanKey × TempBanValue}
    (hfound : lookupElem maps.tempBans (packetKey (family src) c.1 c.2 (addrBytes src)) =
      some entry) :
    ∃ ban ∈ compactTempBans bans, wallNow < ban.expiresAt ∧ BanInClass c src ban ∧
      entry = banEntry wallNow monotonicNow (keyOfTempBan ban, ban) ∧
      ∀ other ∈ compactTempBans bans, wallNow < other.expiresAt → BanInClass c src other →
        other.prefixLen ≤ ban.prefixLen := by
  obtain ⟨hmem, hmatch, hlong⟩ := KeyedStore.longest?_eq_some_iff.mp hfound
  obtain ⟨ban, hban, hlive, hentry⟩ := (h entry).mp hmem
  have hkey : entry.1 = keyOfTempBan ban := by rw [hentry, banEntry_fst]
  rw [hkey] at hmatch hlong
  refine ⟨ban, hban, hlive, keyOfTempBan_matches_iff.mp hmatch, hentry, ?_⟩
  intro other hother hotherLive hin
  have hmem' : banEntry wallNow monotonicNow (keyOfTempBan other, other) ∈ maps.tempBans :=
    (h _).mpr ⟨other, hother, hotherLive, rfl⟩
  have hle := hlong _ hmem' (by
    rw [banEntry_fst]
    exact keyOfTempBan_matches_iff.mpr hin)
  rw [banEntry_fst, length_keyOfTempBan, length_keyOfTempBan] at hle
  exact Nat.le_of_add_le_add_left hle

/-- A lookup in one class finds nothing only when no live kept ban is of the class. -/
theorem lookupElem_tempBan_none (h : HoldsBans maps bans wallNow monotonicNow)
    (hnone : lookupElem maps.tempBans (packetKey (family src) c.1 c.2 (addrBytes src)) = none)
    (hban : ban ∈ compactTempBans bans) (hlive : wallNow < ban.expiresAt) :
    ¬ BanInClass c src ban := by
  intro hin
  have hentry : banEntry wallNow monotonicNow (keyOfTempBan ban, ban) ∈ maps.tempBans :=
    (h _).mpr ⟨ban, hban, hlive, rfl⟩
  refine KeyedStore.longest?_eq_none_iff.mp hnone _ hentry ?_
  rw [banEntry_fst]
  exact keyOfTempBan_matches_iff.mpr hin

/-- The expiries of the live kept bans fit the monotonic clock. -/
def ExpiriesFit (bans : List XdpTempBan) (wallNow : Int) (monotonicNow : U64) : Prop :=
  ∀ ban ∈ compactTempBans bans, wallNow < ban.expiresAt →
    monotonicNow.toNat + (ban.expiresAt - wallNow).toNat < 2 ^ 64

/-- One class: the longest ban of the class is active exactly when some ban of it is. -/
theorem lookupElem_active_iff (h : HoldsBans maps bans wallNow monotonicNow)
    (hfits : ExpiriesFit bans wallNow monotonicNow) {t : Int} {now : U64}
    (htime : Together wallNow monotonicNow t now) :
    tempBanValueActive
        (lookupElem maps.tempBans (packetKey (family src) c.1 c.2 (addrBytes src))) now ↔
      ∃ ban ∈ bans, t < ban.expiresAt ∧ BanInClass c src ban := by
  constructor
  · intro hactive
    cases hfound : lookupElem maps.tempBans (packetKey (family src) c.1 c.2 (addrBytes src)) with
    | none =>
        rw [hfound] at hactive
        cases hactive
    | some entry =>
        obtain ⟨ban, hban, hlive, hin, rfl, -⟩ := lookupElem_tempBan_some h hfound
        rw [hfound, banEntry_active_iff htime (hfits ban hban hlive)] at hactive
        exact ⟨ban, mem_of_mem_compactTempBans hban, hactive, hin⟩
  · rintro ⟨ban, hban, hactive, hin⟩
    -- The ban is implied by a kept one, and the longest kept one lasts as long as that.
    obtain ⟨kept, hkept, himplies⟩ := exists_kept hban
    have hkeptActive : t < kept.expiresAt := Int.lt_of_lt_of_le hactive himplies.expires
    have hkeptLive : wallNow < kept.expiresAt := Int.lt_of_le_of_lt htime.later hkeptActive
    have hkeptIn := hin.of_implies himplies
    cases hfound : lookupElem maps.tempBans (packetKey (family src) c.1 c.2 (addrBytes src)) with
    | none =>
        exact absurd hkeptIn (lookupElem_tempBan_none h hfound hkept hkeptLive)
    | some entry =>
        obtain ⟨longest, hlongest, hlive, hlongestIn, rfl, hlong⟩ :=
          lookupElem_tempBan_some h hfound
        rw [banEntry_active_iff htime (hfits longest hlongest hlive)]
        have hle := hlong kept hkept hkeptLive hkeptIn
        exact Int.lt_of_lt_of_le hkeptActive
          (expiresAt_le_of_longer hlongest hkept hlongestIn hkeptIn hle)

/-- All four classes. -/
theorem tempBanActive_iff (h : HoldsBans maps bans wallNow monotonicNow)
    (hfits : ExpiriesFit bans wallNow monotonicNow) {t : Int} {now : U64}
    (htime : Together wallNow monotonicNow t now) {proto : U8} {dport : U16} :
    tempBanActive maps (family src) proto dport (addrBytes src) now ↔
      ∃ ban ∈ bans, t < ban.expiresAt ∧
        Selects ban.toNetwork ban.protocol ban.port proto dport src := by
  rw [tempBanActive_eq_any, List.any_eq_true]
  constructor
  · rintro ⟨c, hc, hactive⟩
    obtain ⟨ban, hban, hlive, hin⟩ := (lookupElem_active_iff h hfits htime).mp hactive
    exact ⟨ban, hban, hlive, selects_iff_exists_class.mpr ⟨c, hc, hin⟩⟩
  · rintro ⟨ban, hban, hlive, hselects⟩
    obtain ⟨c, hc, hin⟩ := selects_iff_exists_class.mp hselects
    exact ⟨c, hc, (lookupElem_active_iff h hfits htime).mpr ⟨ban, hban, hlive, hin⟩⟩

/-! ## Enforcement after an apply -/

/-- After a successful apply on an interface without addresses, a packet is banned at a later time
exactly when a ban of the policy selects it and has not expired by then. A ban that compaction
removed is implied by one it kept. -/
theorem apply_enforcesTempBans {env : ApplyEnv} {policy : CompiledPolicy}
    {m m' : LinuxXdpManager} (hrange : ExpiresInRange policy env.wallNow)
    (hclock : monotonicNowNs env = .ok monotonicNow)
    (h : (apply env policy).run m = .ok () m') (hlocal : m'.localInterfaceCidrs = []) :
    (∀ t now, Together env.wallNow monotonicNow t now → ∀ src proto dport,
      tempBanActive m'.maps (family src) proto dport (addrBytes src) now = true ↔
        ∃ ban ∈ policy.tempBans, t < ban.expiresAt ∧
          Selects ban.toNetwork ban.protocol ban.port proto dport src) ∧
    ∀ ban ∈ policy.tempBans, ∃ kept ∈ compactTempBans policy.tempBans, Implies kept ban := by
  obtain ⟨current, -, hwrite⟩ := apply_ok h
  rw [(frame_of_applied hwrite).2.1] at hlocal
  have hholds := holdsBans_of_applied hrange hlocal hclock hwrite
  have hfits : ExpiriesFit policy.tempBans env.wallNow monotonicNow :=
    fun ban hban hlive => expiry_fits_of_applied hrange hlocal hclock hwrite hban hlive
  exact ⟨fun t now htime src proto dport => tempBanActive_iff hholds hfits htime,
    fun ban hban => exists_kept hban⟩

/-- A host banned for one service for a long time, in a network banned for a short time. -/
def nestedBansPolicy : CompiledPolicy :=
  { CompiledPolicy.unloaded 1 with
    tempBans :=
      [{ toNetwork := (IpNet.v4 (.slash 0xCB007107 32)).toNetwork
         protocol := .tcp
         port := 443
         expiresAt := 7200000000000 },
       { toNetwork := (IpNet.v4 (.slash 0xCB007100 24)).toNetwork
         protocol := .any
         port := 0
         expiresAt := 3600000000000 }] }

theorem expiresInRange_nestedBans : ExpiresInRange nestedBansPolicy idleEnv.wallNow := by
  intro ban hban
  simp only [nestedBansPolicy, List.mem_cons, List.not_mem_nil, or_false] at hban
  rcases hban with rfl | rfl <;> decide

theorem apply_nestedBans :
    ∃ m', (apply idleEnv nestedBansPolicy).run emptyManager = .ok () m' ∧
      m'.localInterfaceCidrs = [] := by
  have hreq : ∃ required, requiredPolicyMapSizes emptyManager nestedBansPolicy = .ok required ∧
      validateMapCapacity required emptyManager.mapSizes = .ok () := ⟨_, rfl, rfl⟩
  have hconv : Convertible (pendingOf idleEnv nestedBansPolicy emptyManager) idleEnv.wallNow
      1000000000 := by
    intro item hitem
    have hban := mem_of_mem_compactTempBans (mem_of_mem_pendingTempBans hitem).1
    simp only [nestedBansPolicy, List.mem_cons, List.not_mem_nil, or_false] at hban
    rw [tempBanEntry]
    rcases hban with h | h <;> rw [h] <;> exact ⟨_, rfl⟩
  obtain ⟨required, hrequired, hvalid⟩ := hreq
  rw [run_apply_of_valid hrequired hvalid]
  obtain ⟨m', hrun⟩ :=
    run_applyToCurrentMaps_of_fresh rfl ⟨⟨required, hrequired, hvalid⟩, rfl⟩ hconv
  exact ⟨m', hrun, (frame_of_applied hrun).2.1⟩

theorem apply_enforcesTempBans_nestedBans :
    ∃ m', (apply idleEnv nestedBansPolicy).run emptyManager = .ok () m' ∧
      (∀ t now, Together idleEnv.wallNow 1000000000 t now → ∀ src proto dport,
        tempBanActive m'.maps (family src) proto dport (addrBytes src) now = true ↔
          ∃ ban ∈ nestedBansPolicy.tempBans, t < ban.expiresAt ∧
            Selects ban.toNetwork ban.protocol ban.port proto dport src) ∧
      ∀ ban ∈ nestedBansPolicy.tempBans, ∃ kept ∈ compactTempBans nestedBansPolicy.tempBans,
        Implies kept ban := by
  obtain ⟨m', hrun, hlocal⟩ := apply_nestedBans
  exact ⟨m', hrun, apply_enforcesTempBans expiresInRange_nestedBans rfl hrun hlocal⟩

end Enforcement
end XdpFirewall
