import XdpFirewall.Bpf.Lookup
import XdpFirewall.DataPlane.ApplyCapacity

/-!
# Whitelist — which sources the trusted map lets through

Compaction drops a trusted prefix that lies in another one. What is dropped lies in a prefix that
is kept, so the kept prefixes contain the same addresses as all of them, and a lookup in the map of
an apply finds an entry for exactly these.
-/

namespace XdpFirewall
namespace Enforcement

open Net Policy Lib DataPlane Bpf

/-! ## Kept prefixes -/

/-- One of the prefixes contains the source. -/
def Covers (prefixes : List XdpTrustedPrefix) (src : IpAddr) : Prop :=
  ∃ trusted ∈ prefixes, trusted.toNetwork.Contains src

section Kept

variable {prefixes : List XdpTrustedPrefix} {a b : XdpTrustedPrefix} {src : IpAddr}

theorem mem_of_mem_compactTrustedPrefixes (h : a ∈ compactTrustedPrefixes prefixes) :
    a ∈ prefixes :=
  ((mem_compact isCovering_trustedPrefixCovers.irrefl).mp h).1

theorem covers_compact_iff :
    Covers (compactTrustedPrefixes prefixes) src ↔ Covers prefixes src := by
  constructor
  · rintro ⟨trusted, hkept, hcontains⟩
    exact ⟨trusted, mem_of_mem_compactTrustedPrefixes hkept, hcontains⟩
  · rintro ⟨trusted, hmem, hcontains⟩
    obtain ⟨kept, hkept, habove⟩ := exists_mem_compact isCovering_trustedPrefixCovers hmem
    refine ⟨kept, hkept, ?_⟩
    rcases habove with rfl | hcover
    · exact hcontains
    · exact hcontains.of_within (trustedPrefixCovers_iff.mp hcover).2

/-- Of two different kept prefixes, none lies in the other. -/
theorem not_within_of_kept (ha : a ∈ compactTrustedPrefixes prefixes)
    (hb : b ∈ compactTrustedPrefixes prefixes) (hne : a ≠ b) :
    ¬ b.toNetwork.Within a.toNetwork := by
  intro hwithin
  have hfree := ((mem_compact isCovering_trustedPrefixCovers.irrefl).mp hb).2 a
    (mem_of_mem_compactTrustedPrefixes ha)
  have hcover : trustedPrefixCovers a b := trustedPrefixCovers_iff.mpr ⟨hne, hwithin⟩
  rw [hfree] at hcover
  cases hcover

end Kept

/-! ## The trusted map -/

section Map

variable {env : ApplyEnv} {policy : CompiledPolicy} {m m' : LinuxXdpManager} {src : IpAddr}

/-- Prefixes with one key are one prefix, so nothing is lost when keys are collected. -/
theorem mem_trustedEntries_iff {localCidrs : List LocalInterfaceCidr} {wallNow : Int}
    {entry : TrustedKey × TrustedValue} :
    entry ∈ (buildPendingPolicyKeys localCidrs policy wallNow).trustedEntries ↔
      ∃ trusted ∈ compactTrustedPrefixes policy.trustedPrefixes,
        entry = (trustedKey trusted.addr trusted.prefixLen, trustedValue) := by
  rw [PendingPolicyKeys.trustedEntries, buildPendingPolicyKeys, pendingTrustedKeys, List.mem_map]
  constructor
  · rintro ⟨key, hkey, rfl⟩
    obtain ⟨trusted, htrusted, rfl⟩ := List.mem_map.mp (Collected.mem_of_mem_items_collect hkey)
    exact ⟨trusted, htrusted, rfl⟩
  · rintro ⟨trusted, htrusted, rfl⟩
    let key := trustedKey trusted.addr trusted.prefixLen
    have hid : trustedKeyId key ∈ (Collected.collect trustedKeyId
        ((compactTrustedPrefixes policy.trustedPrefixes).map fun trusted =>
          trustedKey trusted.addr trusted.prefixLen)).ids :=
      Collected.mem_ids_collect.mpr ⟨key, List.mem_map.mpr ⟨trusted, htrusted, rfl⟩, rfl⟩
    obtain ⟨first, hfirst, hsame⟩ := Collected.mem_ids_iff_mem_items.mp hid
    refine ⟨first, hfirst, ?_⟩
    obtain ⟨other, -, rfl⟩ := List.mem_map.mp (Collected.mem_of_mem_items_collect hfirst)
    have hkey : trustedKey other.addr other.prefixLen = trustedKey trusted.addr trusted.prefixLen :=
      @paddedKey_eq_of_pad_eq trusted.toNetwork _ hsame rfl
    exact congrArg trustedEntry hkey

/-- A key with padding of its own matches no packet. -/
theorem not_matches_of_pad_ne {net : Network} {key : LpmKey PaddedData}
    (hid : paddedKeyId key = paddedKeyId (paddedKey net.addr net.prefixLen))
    (hpad : key.data.pad ≠ zeroPad) :
    ¬ key.bits <+: (packetPaddedKey (family src) (addrBytes src)).bits := by
  rw [paddedKey_eq_of_id hid, bits_padded _ _ _ (prefixLen_le_length net), bits_packetPaddedKey,
    paddedHeader, paddedHeader, header_append_prefix_iff]
  rintro ⟨hhead, -⟩
  have hbytes := header_injective (by simp) (by simp) hhead
  simp only [List.cons.injEq] at hbytes
  exact hpad (Vector.toList_inj.mp hbytes.2)

/-- A lookup finds an entry when one matches. -/
theorem lookupElem_isSome_iff {α V : Type} [Pod α] {trie : LpmTrie α V} {key : LpmKey α} :
    (lookupElem trie key).isSome ↔ ∃ entry ∈ trie, entry.1.bits <+: key.bits := by
  rw [← Option.ne_none_iff_isSome, lookupElem, Ne, KeyedStore.longest?_eq_none_iff]
  push Not
  rfl

theorem lookupTrusted_isSome_iff (h : (applyToCurrentMaps env policy).run m = .ok () m') :
    (lookupTrusted m'.maps (family src) (addrBytes src)).isSome ↔
      Covers policy.trustedPrefixes src := by
  rw [lookupTrusted, lookupElem_isSome_iff, ← covers_compact_iff]
  constructor
  · rintro ⟨entry, hentry, hmatch⟩
    rcases (mem_trustedCidrs_of_applied h).mp hentry with hnew | ⟨-, hpad, hid⟩
    · obtain ⟨trusted, htrusted, rfl⟩ := mem_trustedEntries_iff.mp hnew
      exact ⟨trusted, htrusted, paddedKey_matches_iff.mp hmatch⟩
    · -- What another writer has left under a key of the policy matches no packet.
      obtain ⟨key, hkey, hsame⟩ := Collected.mem_ids_iff_mem_items.mp hid
      obtain ⟨trusted, -, rfl⟩ := List.mem_map.mp (Collected.mem_of_mem_items_collect hkey)
      have hstray : paddedKeyId entry.1 =
          paddedKeyId (paddedKey trusted.toNetwork.addr trusted.toNetwork.prefixLen) := hsame.symm
      exact absurd hmatch (not_matches_of_pad_ne hstray hpad)
  · rintro ⟨trusted, htrusted, hcontains⟩
    refine ⟨(trustedKey trusted.addr trusted.prefixLen, trustedValue), ?_,
      paddedKey_matches_iff.mpr hcontains⟩
    exact (mem_trustedCidrs_of_applied h).mpr
      (Or.inl (mem_trustedEntries_iff.mpr ⟨trusted, htrusted, rfl⟩))

end Map

/-! ## The whitelist after an apply -/

/-- Compaction keeps the whitelist as a set of addresses and leaves no nested prefixes, and after
an apply the trusted map lets through the sources of the whitelist and no others. -/
theorem whitelist_kept (prefixes : List XdpTrustedPrefix) :
    (∀ src, Covers (compactTrustedPrefixes prefixes) src ↔ Covers prefixes src) ∧
    (∀ a ∈ compactTrustedPrefixes prefixes, ∀ b ∈ compactTrustedPrefixes prefixes, a ≠ b →
      ¬ b.toNetwork.Within a.toNetwork) ∧
    ∀ env policy m m', policy.trustedPrefixes = prefixes →
      (apply env policy).run m = .ok () m' → ∀ src,
        (lookupTrusted m'.maps (family src) (addrBytes src)).isSome ↔ Covers prefixes src := by
  refine ⟨fun src => covers_compact_iff, fun a ha b hb => not_within_of_kept ha hb, ?_⟩
  rintro env policy m m' rfl h src
  obtain ⟨current, -, hwrite⟩ := apply_ok h
  exact lookupTrusted_isSome_iff hwrite

/-- A network, a host in it, and the same network once more. -/
def nestedTrustedPolicy : CompiledPolicy :=
  { CompiledPolicy.unloaded 1 with
    trustedPrefixes :=
      [{ toNetwork := (IpNet.v4 (.slash 0x0A000000 8)).toNetwork },
       { toNetwork := (IpNet.v4 (.slash 0x0A010203 32)).toNetwork },
       { toNetwork := (IpNet.v4 (.slash 0x0A000000 8)).toNetwork }] }

theorem apply_nestedTrusted :
    ∃ m', (apply idleEnv nestedTrustedPolicy).run emptyManager = .ok () m' := by
  have hreq : ∃ required,
      requiredPolicyMapSizes emptyManager nestedTrustedPolicy = .ok required ∧
        validateMapCapacity required emptyManager.mapSizes = .ok () := ⟨_, rfl, rfl⟩
  obtain ⟨required, hrequired, hvalid⟩ := hreq
  rw [run_apply_of_valid hrequired hvalid]
  have hadm : Admitted idleEnv nestedTrustedPolicy emptyManager 1000000000 :=
    ⟨⟨required, hrequired, hvalid⟩, rfl⟩
  refine run_applyToCurrentMaps_of_fresh rfl hadm ?_
  intro item hitem
  cases hitem

theorem whitelist_kept_nestedTrusted :
    ∃ m', (apply idleEnv nestedTrustedPolicy).run emptyManager = .ok () m' ∧
      ∀ src, (lookupTrusted m'.maps (family src) (addrBytes src)).isSome ↔
        Covers nestedTrustedPolicy.trustedPrefixes src := by
  obtain ⟨m', hrun⟩ := apply_nestedTrusted
  exact ⟨m', hrun, (whitelist_kept nestedTrustedPolicy.trustedPrefixes).2.2 _ _ _ _ rfl hrun⟩

end Enforcement
end XdpFirewall
