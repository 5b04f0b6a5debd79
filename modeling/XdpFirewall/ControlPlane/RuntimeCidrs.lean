import XdpFirewall.ControlPlane.LoadPolicy
import XdpFirewall.Lib.Cover

/-!
# RuntimeCidrs — trusted networks that the control plane adds while it runs

Operators name networks on the command line and discovery finds those of a cluster. What
remains of both once covered networks are dropped is added to every snapshot that is sent, and
its fingerprint tells a stream whether to send again.
-/

namespace XdpFirewall
namespace ControlPlane

open Lib Net Policy

/-! ## Compaction -/

/-- `cover.contains(&cidr.network())` answers for networks of one family only. -/
def cidrCovers (cover cidr : IpNet) : Bool :=
  if cover = cidr ∨ cidr.prefixLen < cover.prefixLen then
    false
  else
    cover.contains cidr.network

structure CidrCompaction where
  cidrs : List IpNet
  covered : Nat

def compactCoveredCidrs (cidrs : List IpNet) : CidrCompaction where
  cidrs := compact cidrCovers cidrs
  covered := cidrs.length - (compact cidrCovers cidrs).length

/-- `display` is the text that `IpNet` prints. -/
def cidrFingerprint (display : IpNet → String) (cidrs : List IpNet) : String :=
  ",".intercalate ((cidrs.map display).mergeSort fun a b => a ≤ b)

/-! ## The networks of a process -/

structure RuntimeTrustedCidrs where
  configured : List IpNet
  k8sDiscovery : Bool
  cache : List IpNet
  deriving DecidableEq

structure RuntimeTrustedCidrSnapshot where
  configured : List IpNet
  all : List IpNet
  inject : List IpNet
  covered : Nat
  deriving DecidableEq

namespace RuntimeTrustedCidrs

def enabled (runtime : RuntimeTrustedCidrs) : Bool :=
  !runtime.configured.isEmpty || runtime.k8sDiscovery

/-- A network that is not in the list goes to its end. -/
def pushUnseen (cidrs : List IpNet) (cidr : IpNet) : List IpNet :=
  if cidr ∈ cidrs then cidrs else cidrs ++ [cidr]

def currentSnapshot (runtime : RuntimeTrustedCidrs) : RuntimeTrustedCidrSnapshot :=
  let configured := runtime.configured.foldl pushUnseen []
  if !runtime.k8sDiscovery then
    let compacted := compactCoveredCidrs configured
    { configured := compacted.cidrs
      all := compacted.cidrs
      inject := compacted.cidrs
      covered := compacted.covered }
  else
    let cidrs := runtime.cache.foldl pushUnseen configured
    let compacted := compactCoveredCidrs cidrs
    { configured := (compactCoveredCidrs configured).cidrs
      all := compacted.cidrs
      inject := compacted.cidrs
      covered := compacted.covered }

/-- The networks that are in force in this process. -/
def cidrs (runtime : RuntimeTrustedCidrs) : List IpNet :=
  if runtime.k8sDiscovery then runtime.configured ++ runtime.cache else runtime.configured

end RuntimeTrustedCidrs

/-! ## The networks that operators name -/

/-- The parts between the commas, without blanks around them. -/
def operatorValues (values : List String) : List String :=
  ((values.flatMap fun value => (value.toList.splitOn ',').map trim).filter
    fun value => !value.isEmpty).map String.ofList

/-- `ipNet` is the reader of networks. -/
def collectOperatorCidr (ipNet : String → Option IpNet) (cidrs : List IpNet) (value : String) :
    Except String (List IpNet) :=
  match ipNet value with
  | some cidr => .ok (RuntimeTrustedCidrs.pushUnseen cidrs cidr)
  | none => .error ("invalid runtime trusted CIDR '" ++ value ++ "'")

def normalizeRuntimeTrustedCidrs (ipNet : String → Option IpNet) (values : List String) :
    Except String (List IpNet) :=
  (operatorValues values).foldlM (collectOperatorCidr ipNet) []

/-! ## Adding them to a snapshot -/

/-- `compact_runtime_trusted_cidrs_with_snapshot` -/
def compactRuntimeTrustedCidrs (snapshot : PolicySnapshot)
    (runtime : RuntimeTrustedCidrSnapshot) : RuntimeTrustedCidrSnapshot :=
  if runtime.all = [] then
    runtime
  else
    let staticCidrs := snapshot.trustedCidrs.map TrustedCidrPolicy.cidr
    if staticCidrs = [] then
      runtime
    else
      let compacted := compactCoveredCidrs (staticCidrs ++ runtime.all)
      let effective := compacted.cidrs.filter fun cidr => !staticCidrs.contains cidr
      { configured := runtime.configured
        all := effective
        inject := effective
        covered := runtime.covered + (runtime.all.length - effective.length) }

/-- A network that no entry has becomes an entry with this comment. -/
def pushTrusted (comment : String) (trusted : List TrustedCidrPolicy) (cidr : IpNet) :
    List TrustedCidrPolicy :=
  if trusted.any fun entry => entry.cidr = cidr then
    trusted
  else
    trusted ++ [{ cidr := cidr, comment := some comment }]

def injectRuntimeTrustedCidrs (snapshot : PolicySnapshot) (cidrs : List IpNet) :
    PolicySnapshot :=
  { snapshot with
    trustedCidrs := cidrs.foldl (pushTrusted "runtime xDS trusted CIDR") snapshot.trustedCidrs }

/-- What `load_policy_snapshot` makes of the loaded tables. -/
def withRuntimeCidrs (snapshot : PolicySnapshot) (runtime : RuntimeTrustedCidrSnapshot) :
    PolicySnapshot :=
  injectRuntimeTrustedCidrs snapshot (compactRuntimeTrustedCidrs snapshot runtime).inject

/-! ## Which networks remain -/

theorem cidrCovers_irrefl (cidr : IpNet) : cidrCovers cidr cidr = false := by
  simp [cidrCovers]

theorem within_of_cidrCovers {cover cidr : IpNet} (h : cidrCovers cover cidr) :
    cidr.toNetwork.Within cover.toNetwork := by
  unfold cidrCovers at h
  split at h
  · cases h
  · rename_i hcond
    obtain ⟨-, hlt⟩ := not_or.mp hcond
    have hcover := IpNet.toNetwork_contains_iff.mpr h
    have hself : cidr.toNetwork.Contains cidr.network := by
      refine ⟨rfl, ?_⟩
      exact List.take_prefix _ _
    exact Network.within_of_contains hself hcover (Nat.not_lt.mp hlt)

theorem cidrCovers_of_within {cover cidr : IpNet} (hne : cover ≠ cidr)
    (h : cidr.toNetwork.Within cover.toNetwork) : cidrCovers cover cidr := by
  have hle : cover.prefixLen ≤ cidr.prefixLen := h.prefixLen_le
  have hself : cidr.toNetwork.Contains cidr.network := ⟨rfl, List.take_prefix _ _⟩
  have hcontains := IpNet.toNetwork_contains_iff.mp (hself.of_within h)
  simp [cidrCovers, hne, Nat.not_lt.mpr hle, hcontains]

theorem mem_foldl_pushUnseen {cidrs acc : List IpNet} {cidr : IpNet} :
    cidr ∈ cidrs.foldl RuntimeTrustedCidrs.pushUnseen acc ↔ cidr ∈ acc ∨ cidr ∈ cidrs := by
  induction cidrs generalizing acc with
  | nil => simp
  | cons head rest ih =>
      rw [List.foldl_cons, ih, RuntimeTrustedCidrs.pushUnseen]
      by_cases h : head ∈ acc
      · rw [if_pos h, List.mem_cons]
        constructor
        · rintro (hacc | hrest)
          · exact Or.inl hacc
          · exact Or.inr (Or.inr hrest)
        · rintro (hacc | rfl | hrest)
          · exact Or.inl hacc
          · exact Or.inl h
          · exact Or.inr hrest
      · rw [if_neg h, List.mem_append, List.mem_singleton, List.mem_cons, or_assoc]

theorem currentSnapshot_inject (runtime : RuntimeTrustedCidrs) :
    runtime.currentSnapshot.inject = runtime.currentSnapshot.all := by
  unfold RuntimeTrustedCidrs.currentSnapshot
  split <;> rfl

/-- What remains of the networks in force: those that no other of them covers. -/
theorem mem_currentSnapshot_all {runtime : RuntimeTrustedCidrs} {cidr : IpNet} :
    cidr ∈ runtime.currentSnapshot.all ↔
      cidr ∈ runtime.cidrs ∧ ∀ other ∈ runtime.cidrs, cidrCovers other cidr = false := by
  unfold RuntimeTrustedCidrs.currentSnapshot RuntimeTrustedCidrs.cidrs
  cases runtime.k8sDiscovery <;>
    simp [compactCoveredCidrs, mem_compact cidrCovers_irrefl, mem_foldl_pushUnseen]

theorem currentSnapshot_all_of_not_enabled {runtime : RuntimeTrustedCidrs}
    (h : runtime.enabled = false) : runtime.currentSnapshot.all = [] := by
  rw [List.eq_nil_iff_forall_not_mem]
  intro cidr hmem
  simp only [RuntimeTrustedCidrs.enabled, Bool.or_eq_false_iff, Bool.not_eq_eq_eq_not,
    Bool.not_false, List.isEmpty_iff] at h
  have hcidr := (mem_currentSnapshot_all.mp hmem).1
  simp [RuntimeTrustedCidrs.cidrs, h.1, h.2] at hcidr

/-! ## Addresses -/

/-- Some network of the list contains the address. -/
def Covered (cidrs : List IpNet) (ip : IpAddr) : Prop :=
  ∃ cidr ∈ cidrs, cidr.contains ip

def trustedNetworks (trusted : List TrustedCidrPolicy) : List IpNet :=
  trusted.map TrustedCidrPolicy.cidr

theorem covered_append {cidrs cidrs' : List IpNet} {ip : IpAddr} :
    Covered (cidrs ++ cidrs') ip ↔ Covered cidrs ip ∨ Covered cidrs' ip := by
  simp only [Covered, List.mem_append, or_and_right, exists_or]

theorem Covered.of_within {cidrs : List IpNet} {cidr cover : IpNet} {ip : IpAddr}
    (h : cidr.contains ip) (hwithin : cidr.toNetwork.Within cover.toNetwork)
    (hcover : cover ∈ cidrs) : Covered cidrs ip :=
  ⟨cover, hcover, IpNet.toNetwork_contains_iff.mp
    ((IpNet.toNetwork_contains_iff.mpr h).of_within hwithin)⟩

/-- Entries with the comment are added for the networks that have none. -/
theorem mem_foldl_pushTrusted {comment : String} {cidrs : List IpNet}
    {trusted : List TrustedCidrPolicy} {entry : TrustedCidrPolicy} :
    entry ∈ cidrs.foldl (pushTrusted comment) trusted ↔
      entry ∈ trusted ∨
        ∃ cidr ∈ cidrs, cidr ∉ trustedNetworks trusted ∧
          entry = { cidr := cidr, comment := some comment } := by
  induction cidrs generalizing trusted with
  | nil => simp
  | cons head rest ih =>
      rw [List.foldl_cons, ih]
      have hany : (trusted.any fun entry => entry.cidr = head) = true ↔
          head ∈ trustedNetworks trusted := by
        simp [trustedNetworks]
      by_cases hmem : head ∈ trustedNetworks trusted
      · rw [pushTrusted, if_pos (hany.mpr hmem)]
        refine or_congr_right ⟨?_, ?_⟩
        · rintro ⟨cidr, hcidr, hnot, rfl⟩
          exact ⟨cidr, List.mem_cons_of_mem _ hcidr, hnot, rfl⟩
        · rintro ⟨cidr, hcidr, hnot, rfl⟩
          rcases List.mem_cons.mp hcidr with rfl | hcidr
          · exact absurd hmem hnot
          · exact ⟨cidr, hcidr, hnot, rfl⟩
      · rw [pushTrusted, if_neg (mt hany.mp hmem)]
        have hnetworks (cidr : IpNet) :
            cidr ∈ trustedNetworks (trusted ++ [{ cidr := head, comment := some comment }]) ↔
              cidr ∈ trustedNetworks trusted ∨ cidr = head := by
          simp [trustedNetworks]
        simp only [hnetworks, List.mem_append, List.mem_singleton, or_assoc]
        refine or_congr_right ⟨?_, ?_⟩
        · rintro (rfl | ⟨cidr, hcidr, hnot, rfl⟩)
          · exact ⟨head, List.mem_cons_self, hmem, rfl⟩
          · exact ⟨cidr, List.mem_cons_of_mem _ hcidr, fun h => hnot (Or.inl h), rfl⟩
        · rintro ⟨cidr, hcidr, hnot, rfl⟩
          by_cases heq : cidr = head
          · exact Or.inl (by rw [heq])
          · rcases List.mem_cons.mp hcidr with rfl | hcidr
            · exact absurd rfl heq
            · exact Or.inr ⟨cidr, hcidr, fun h => h.elim hnot heq, rfl⟩

theorem mem_trustedNetworks_foldl {comment : String} {cidrs : List IpNet}
    {trusted : List TrustedCidrPolicy} {cidr : IpNet} :
    cidr ∈ trustedNetworks (cidrs.foldl (pushTrusted comment) trusted) ↔
      cidr ∈ trustedNetworks trusted ∨ cidr ∈ cidrs := by
  simp only [trustedNetworks, List.mem_map, mem_foldl_pushTrusted]
  constructor
  · rintro ⟨entry, hentry | ⟨cidr', hmem, -, rfl⟩, rfl⟩
    · exact Or.inl ⟨entry, hentry, rfl⟩
    · exact Or.inr hmem
  · rintro (⟨entry, hentry, rfl⟩ | hmem)
    · exact ⟨entry, Or.inl hentry, rfl⟩
    · by_cases hold : ∃ entry ∈ trusted, entry.cidr = cidr
      · obtain ⟨entry, hentry, rfl⟩ := hold
        exact ⟨entry, Or.inl hentry, rfl⟩
      · refine ⟨_, Or.inr ⟨cidr, hmem, ?_, rfl⟩, rfl⟩
        simpa [trustedNetworks] using hold

/-- Adding entries for networks adds exactly their addresses. -/
theorem covered_foldl_pushTrusted {comment : String} {cidrs : List IpNet}
    {trusted : List TrustedCidrPolicy} {ip : IpAddr} :
    Covered (trustedNetworks (cidrs.foldl (pushTrusted comment) trusted)) ip ↔
      Covered (trustedNetworks trusted) ip ∨ Covered cidrs ip := by
  rw [← covered_append]
  simp only [Covered, mem_trustedNetworks_foldl, List.mem_append]

/-! ## A snapshot with the networks of the process -/

/-- The networks that are left out are covered by trusted networks of the tables. -/
theorem mem_compactRuntimeTrustedCidrs {snapshot : PolicySnapshot}
    {runtime : RuntimeTrustedCidrSnapshot} (hinject : runtime.inject = runtime.all)
    {cidr : IpNet} :
    cidr ∈ (compactRuntimeTrustedCidrs snapshot runtime).inject ∧
        cidr ∉ trustedNetworks snapshot.trustedCidrs ↔
      cidr ∈ runtime.all ∧ cidr ∉ trustedNetworks snapshot.trustedCidrs ∧
        (trustedNetworks snapshot.trustedCidrs ≠ [] →
          ∀ other ∈ trustedNetworks snapshot.trustedCidrs ++ runtime.all,
            cidrCovers other cidr = false) := by
  unfold compactRuntimeTrustedCidrs
  by_cases hall : runtime.all = []
  · simp [hall, hinject]
  · rw [if_neg hall]
    by_cases hstatic : trustedNetworks snapshot.trustedCidrs = []
    · simp [trustedNetworks] at hstatic
      simp [hstatic, hinject, trustedNetworks]
    · have hstatic' : snapshot.trustedCidrs.map TrustedCidrPolicy.cidr ≠ [] := hstatic
      simp only [if_neg hstatic']
      rw [List.mem_filter, compactCoveredCidrs, mem_compact cidrCovers_irrefl]
      simp only [ne_eq, hstatic, not_false_eq_true, true_implies]
      constructor
      · rintro ⟨⟨⟨hmem, hfree⟩, -⟩, hnot⟩
        rcases List.mem_append.mp hmem with hmem | hmem
        · exact absurd hmem hnot
        · exact ⟨hmem, hnot, hfree⟩
      · rintro ⟨hmem, hnot, hfree⟩
        refine ⟨⟨⟨List.mem_append_right _ hmem, hfree⟩, ?_⟩, hnot⟩
        simpa [trustedNetworks] using hnot

/-- The entries of a snapshot with the networks of the process depend on these as a set only. -/
theorem mem_withRuntimeCidrs_congr {snapshot : PolicySnapshot}
    {runtime runtime' : RuntimeTrustedCidrSnapshot} (hinject : runtime.inject = runtime.all)
    (hinject' : runtime'.inject = runtime'.all)
    (hall : ∀ cidr, cidr ∈ runtime.all ↔ cidr ∈ runtime'.all) (entry : TrustedCidrPolicy) :
    entry ∈ (withRuntimeCidrs snapshot runtime).trustedCidrs ↔
      entry ∈ (withRuntimeCidrs snapshot runtime').trustedCidrs := by
  simp only [withRuntimeCidrs, injectRuntimeTrustedCidrs, mem_foldl_pushTrusted]
  refine or_congr_right (exists_congr fun cidr => ?_)
  rw [← and_assoc, ← and_assoc, mem_compactRuntimeTrustedCidrs hinject,
    mem_compactRuntimeTrustedCidrs hinject']
  simp only [List.mem_append, hall]

/-- No network of the list covers another one. -/
def Incomparable (cidrs : List IpNet) : Prop :=
  ∀ cidr ∈ cidrs, ∀ other ∈ cidrs, cidrCovers other cidr = false

theorem incomparable_currentSnapshot (runtime : RuntimeTrustedCidrs) :
    Incomparable runtime.currentSnapshot.all := by
  intro cidr hcidr other hother
  exact (mem_currentSnapshot_all.mp hcidr).2 other (mem_currentSnapshot_all.mp hother).1

/-- The snapshot trusts the addresses that the tables or the process trust. -/
theorem covered_withRuntimeCidrs {snapshot : PolicySnapshot}
    {runtime : RuntimeTrustedCidrSnapshot} (hinject : runtime.inject = runtime.all)
    (hincomparable : Incomparable runtime.all) {ip : IpAddr} :
    Covered (trustedNetworks (withRuntimeCidrs snapshot runtime).trustedCidrs) ip ↔
      Covered (trustedNetworks snapshot.trustedCidrs) ip ∨ Covered runtime.all ip := by
  rw [withRuntimeCidrs, injectRuntimeTrustedCidrs, covered_foldl_pushTrusted]
  constructor
  · rintro (hstatic | ⟨cidr, hmem, hip⟩)
    · exact Or.inl hstatic
    · by_cases hstatic : cidr ∈ trustedNetworks snapshot.trustedCidrs
      · exact Or.inl ⟨cidr, hstatic, hip⟩
      · exact Or.inr ⟨cidr, ((mem_compactRuntimeTrustedCidrs hinject).mp ⟨hmem, hstatic⟩).1, hip⟩
  · rintro (hstatic | ⟨cidr, hmem, hip⟩)
    · exact Or.inl hstatic
    · by_cases hstatic : cidr ∈ trustedNetworks snapshot.trustedCidrs
      · exact Or.inl ⟨cidr, hstatic, hip⟩
      · by_cases hcov : ∃ other ∈ trustedNetworks snapshot.trustedCidrs, cidrCovers other cidr
        · obtain ⟨other, hother, hcov⟩ := hcov
          exact Or.inl (Covered.of_within hip (within_of_cidrCovers hcov) hother)
        · right
          refine ⟨cidr, ((mem_compactRuntimeTrustedCidrs hinject).mpr
            ⟨hmem, hstatic, fun _ other hother => ?_⟩).1, hip⟩
          rcases List.mem_append.mp hother with hother | hother
          · push Not at hcov
            simpa using hcov other hother
          · exact hincomparable cidr hmem other hother

/-! ## What compaction loses -/

/-- Two spellings of a network cover each other, so neither is kept. -/
def SpelledTwice (cidrs : List IpNet) (cidr : IpNet) : Prop :=
  ∃ other ∈ cidrs, other ≠ cidr ∧ other.toNetwork = cidr.toNetwork

/-- Another network of the list contains this one and is larger. -/
def HasWider (cidrs : List IpNet) (cidr : IpNet) : Prop :=
  ∃ wider ∈ cidrs, cidr.toNetwork.Within wider.toNetwork ∧ wider.toNetwork ≠ cidr.toNetwork

theorem exists_widest {cidrs : List IpNet} {cidr : IpNet} (hmem : cidr ∈ cidrs) :
    ∃ widest ∈ cidrs, cidr.toNetwork.Within widest.toNetwork ∧ ¬ HasWider cidrs widest := by
  induction hlen : cidr.prefixLen using Nat.strongRecOn generalizing cidr with
  | _ len ih =>
      by_cases hwider : HasWider cidrs cidr
      · obtain ⟨wider, hmem', hwithin, hne⟩ := hwider
        have hle : wider.prefixLen ≤ cidr.prefixLen := hwithin.prefixLen_le
        have hlt : wider.prefixLen ≠ cidr.prefixLen := by
          intro heq
          exact hne (hwithin.eq_of_prefixLen heq)
        obtain ⟨widest, hwidest, hin, hnone⟩ := ih wider.prefixLen (by omega) hmem' rfl
        exact ⟨widest, hwidest, hwithin.trans hin, hnone⟩
      · exact ⟨cidr, hmem, Network.Within.refl _, hwider⟩

/-- Compaction keeps the addresses of the networks in force, but for networks that are spelled in
two ways and not part of a larger one. -/
theorem covered_cidrs_iff {runtime : RuntimeTrustedCidrs} {P : IpAddr → Prop} :
    (∀ ip, Covered runtime.cidrs ip → Covered runtime.currentSnapshot.all ip ∨ P ip) ↔
      ∀ cidr ∈ runtime.cidrs, SpelledTwice runtime.cidrs cidr → ¬ HasWider runtime.cidrs cidr →
        ∀ ip, cidr.contains ip → P ip := by
  constructor
  · rintro h cidr hcidr ⟨other, hother, hne, hsame⟩ hnone ip hip
    rcases h ip ⟨cidr, hcidr, hip⟩ with ⟨kept, hkept, hcontains⟩ | hP
    · obtain ⟨hmem, hfree⟩ := mem_currentSnapshot_all.mp hkept
      have hip' := IpNet.toNetwork_contains_iff.mpr hip
      have hcontains' := IpNet.toNetwork_contains_iff.mpr hcontains
      -- The kept network would be covered by one of the two spellings, or be a larger one.
      have hwithin : kept.toNetwork.Within cidr.toNetwork := by
        rcases Nat.le_total cidr.prefixLen kept.prefixLen with hle | hle
        · exact Network.within_of_contains hcontains' hip' hle
        · have hin := Network.within_of_contains hip' hcontains' hle
          by_cases heq : kept.toNetwork = cidr.toNetwork
          · exact heq ▸ Network.Within.refl _
          · exact absurd ⟨kept, hmem, hin, heq⟩ hnone
      exfalso
      by_cases heq : cidr = kept
      · have hcov := cidrCovers_of_within (heq ▸ hne) (hsame ▸ hwithin)
        rw [hfree other hother] at hcov
        cases hcov
      · have hcov := cidrCovers_of_within heq hwithin
        rw [hfree cidr hcidr] at hcov
        cases hcov
    · exact hP
  · rintro h ip ⟨cidr, hcidr, hip⟩
    obtain ⟨widest, hwidest, hwithin, hnone⟩ := exists_widest hcidr
    have hip' := (IpNet.toNetwork_contains_iff.mpr hip).of_within hwithin
    have hcontains := IpNet.toNetwork_contains_iff.mp hip'
    by_cases htwice : SpelledTwice runtime.cidrs widest
    · exact Or.inr (h widest hwidest htwice hnone ip hcontains)
    · refine Or.inl ⟨widest, mem_currentSnapshot_all.mpr ⟨hwidest, fun other hother => ?_⟩, hcontains⟩
      by_contra hcov
      have hcov : cidrCovers other widest = true := by simpa using hcov
      have hin := within_of_cidrCovers hcov
      have hne : other ≠ widest := by
        rintro rfl
        rw [cidrCovers_irrefl] at hcov
        cases hcov
      by_cases heq : other.toNetwork = widest.toNetwork
      · exact htwice ⟨other, hother, hne, heq⟩
      · exact hnone ⟨other, hother, hin, heq⟩

theorem covered_cidrs_of_all {runtime : RuntimeTrustedCidrs} {ip : IpAddr}
    (h : Covered runtime.currentSnapshot.all ip) : Covered runtime.cidrs ip := by
  obtain ⟨cidr, hcidr, hip⟩ := h
  exact ⟨cidr, (mem_currentSnapshot_all.mp hcidr).1, hip⟩

/-- The snapshot covers what the tables and the process trust, unless two spellings of one network
cover each other and nothing else covers it. -/
theorem covered_withRuntimeCidrs_iff (snapshot : PolicySnapshot) (runtime : RuntimeTrustedCidrs) :
    (∀ ip, Covered
        (trustedNetworks (withRuntimeCidrs snapshot runtime.currentSnapshot).trustedCidrs) ip ↔
          Covered (trustedNetworks snapshot.trustedCidrs) ip ∨ Covered runtime.cidrs ip) ↔
      ∀ cidr ∈ runtime.cidrs, SpelledTwice runtime.cidrs cidr → ¬ HasWider runtime.cidrs cidr →
        ∀ ip, cidr.contains ip → Covered (trustedNetworks snapshot.trustedCidrs) ip := by
  have hsent (ip : IpAddr) : Covered
      (trustedNetworks (withRuntimeCidrs snapshot runtime.currentSnapshot).trustedCidrs) ip ↔
        Covered (trustedNetworks snapshot.trustedCidrs) ip ∨
          Covered runtime.currentSnapshot.all ip :=
    covered_withRuntimeCidrs (currentSnapshot_inject runtime) (incomparable_currentSnapshot runtime)
  rw [← covered_cidrs_iff]
  constructor
  · intro hunion ip hcovered
    exact ((hsent ip).mp ((hunion ip).mpr (Or.inr hcovered))).symm
  · intro hkept ip
    rw [hsent]
    constructor
    · rintro (hstatic | hall)
      · exact Or.inl hstatic
      · exact Or.inr (covered_cidrs_of_all hall)
    · rintro (hstatic | hcovered)
      · exact Or.inl hstatic
      · exact (hkept ip hcovered).symm

theorem mem_foldlM_collectOperatorCidr {ipNet : String → Option IpNet} {values : List String}
    {acc cidrs : List IpNet} (h : values.foldlM (collectOperatorCidr ipNet) acc = .ok cidrs)
    (cidr : IpNet) : cidr ∈ cidrs ↔ cidr ∈ acc ∨ ∃ value ∈ values, ipNet value = some cidr := by
  induction values generalizing acc with
  | nil =>
      cases h
      simp
  | cons value rest ih =>
      rw [List.foldlM_cons, collectOperatorCidr] at h
      cases hread : ipNet value with
      | none =>
          rw [hread] at h
          cases h
      | some net =>
          rw [hread] at h
          have hpush : cidr ∈ RuntimeTrustedCidrs.pushUnseen acc net ↔ cidr ∈ acc ∨ cidr = net := by
            have hone := @mem_foldl_pushUnseen [net] acc cidr
            rwa [List.foldl_cons, List.foldl_nil, List.mem_singleton] at hone
          rw [ih h, hpush, or_assoc]
          simp only [List.exists_mem_cons_iff, hread, Option.some.injEq, eq_comm]

/-- The accepted networks are those that the values name. -/
theorem mem_normalizeRuntimeTrustedCidrs {ipNet : String → Option IpNet} {values : List String}
    {cidrs : List IpNet} (h : normalizeRuntimeTrustedCidrs ipNet values = .ok cidrs)
    (cidr : IpNet) : cidr ∈ cidrs ↔ ∃ value ∈ operatorValues values, ipNet value = some cidr := by
  simpa using mem_foldlM_collectOperatorCidr h cidr

/-- A process with the networks of its operators, and with those of a cluster when it looks for
them. -/
def RuntimeTrustedCidrs.of (configured : List IpNet) (discovered : Option (List IpNet)) :
    RuntimeTrustedCidrs where
  configured := configured
  k8sDiscovery := discovered.isSome
  cache := discovered.getD []

theorem RuntimeTrustedCidrs.cidrs_of (configured : List IpNet)
    (discovered : Option (List IpNet)) :
    (RuntimeTrustedCidrs.of configured discovered).cidrs = configured ++ discovered.getD [] := by
  cases discovered with
  | none => exact (List.append_nil _).symm
  | some cache => rfl

/-- The snapshot that a process sends trusts the addresses that the tables, the values of its
operators and the networks of the cluster name, and no others. -/
def CoversUnion (ipNet : String → Option IpNet) (values : List String) (configured : List IpNet)
    (discovered : Option (List IpNet)) (snapshot : PolicySnapshot) : Prop :=
  let runtime := (RuntimeTrustedCidrs.of configured discovered).currentSnapshot
  ∀ ip, Covered (trustedNetworks (withRuntimeCidrs snapshot runtime).trustedCidrs) ip ↔
    Covered (trustedNetworks snapshot.trustedCidrs) ip ∨
      (∃ value ∈ operatorValues values, ∃ cidr, ipNet value = some cidr ∧ cidr.contains ip) ∨
      Covered (discovered.getD []) ip

/-- That is so exactly when each network that is spelled in two ways is part of a larger one of the
process, or trusted by the tables. -/
theorem coversUnion_iff {ipNet : String → Option IpNet} {values : List String}
    {configured : List IpNet} (h : normalizeRuntimeTrustedCidrs ipNet values = .ok configured)
    (discovered : Option (List IpNet)) (snapshot : PolicySnapshot) :
    CoversUnion ipNet values configured discovered snapshot ↔
      ∀ cidr ∈ configured ++ discovered.getD [],
        SpelledTwice (configured ++ discovered.getD []) cidr →
          ¬ HasWider (configured ++ discovered.getD []) cidr →
            ∀ ip, cidr.contains ip → Covered (trustedNetworks snapshot.trustedCidrs) ip := by
  have hnamed (ip : IpAddr) : (∃ value ∈ operatorValues values, ∃ cidr, ipNet value = some cidr ∧
      cidr.contains ip) ↔ Covered configured ip := by
    simp only [Covered, mem_normalizeRuntimeTrustedCidrs h]
    constructor
    · rintro ⟨value, hvalue, cidr, hread, hip⟩
      exact ⟨cidr, ⟨value, hvalue, hread⟩, hip⟩
    · rintro ⟨cidr, ⟨value, hvalue, hread⟩, hip⟩
      exact ⟨value, hvalue, cidr, hread, hip⟩
  rw [← RuntimeTrustedCidrs.cidrs_of, ← covered_withRuntimeCidrs_iff]
  refine forall_congr' fun ip => ?_
  rw [hnamed, RuntimeTrustedCidrs.cidrs_of, covered_append]

/-- The reader of networks, on the two spellings below. -/
def readSpellings (value : String) : Option IpNet :=
  if value = "10.0.0.1/8" then
    some (.v4 (.slash 0x0A000001 8))
  else if value = "10.0.0.0/8" then
    some (.v4 (.slash 0x0A000000 8))
  else
    none

def spellings : List IpNet :=
  [.v4 (.slash 0x0A000001 8), .v4 (.slash 0x0A000000 8)]

theorem normalize_spellings :
    normalizeRuntimeTrustedCidrs readSpellings ["10.0.0.1/8, 10.0.0.0/8"] = .ok spellings := by
  have hvalues : operatorValues ["10.0.0.1/8, 10.0.0.0/8"] = ["10.0.0.1/8", "10.0.0.0/8"] := by
    decide
  rw [normalizeRuntimeTrustedCidrs, hvalues]
  rfl

theorem coversUnion_iff_spellings :
    CoversUnion readSpellings ["10.0.0.1/8, 10.0.0.0/8"] spellings none (PolicySnapshot.unread 1) ↔
      ∀ cidr ∈ spellings ++ (none : Option (List IpNet)).getD [],
        SpelledTwice (spellings ++ (none : Option (List IpNet)).getD []) cidr →
          ¬ HasWider (spellings ++ (none : Option (List IpNet)).getD []) cidr →
            ∀ ip, cidr.contains ip →
              Covered (trustedNetworks (PolicySnapshot.unread 1).trustedCidrs) ip :=
  coversUnion_iff normalize_spellings none (PolicySnapshot.unread 1)

/-- An operator who names a network in two ways does not get it trusted. -/
theorem spellings_lost :
    normalizeRuntimeTrustedCidrs readSpellings ["10.0.0.1/8, 10.0.0.0/8"] = .ok spellings ∧
      ¬ CoversUnion readSpellings ["10.0.0.1/8, 10.0.0.0/8"] spellings none
        (PolicySnapshot.unread 1) := by
  refine ⟨normalize_spellings, fun h => ?_⟩
  have hnamed : ∃ value ∈ operatorValues ["10.0.0.1/8, 10.0.0.0/8"], ∃ cidr,
      readSpellings value = some cidr ∧ cidr.contains (.v4 0x0A000005) :=
    ⟨"10.0.0.0/8", by decide, .v4 (.slash 0x0A000000 8), rfl, by decide⟩
  obtain ⟨cidr, hcidr, -⟩ := (h (.v4 0x0A000005)).mpr (Or.inr (Or.inl hnamed))
  have hnone : trustedNetworks (withRuntimeCidrs (PolicySnapshot.unread 1)
      (RuntimeTrustedCidrs.of spellings none).currentSnapshot).trustedCidrs = [] := by
    decide
  rw [hnone] at hcidr
  cases hcidr

/-! ## Fingerprints -/

/-- What fingerprints rely on about the text of a network. -/
structure PrintsApart (display : IpNet → String) : Prop where
  injective : ∀ a b, display a = display b → a = b
  comma_free : ∀ cidr, ',' ∉ (display cidr).toList
  ne_empty : ∀ cidr, display cidr ≠ ""

theorem intercalate_comma_injective {texts texts' : List String}
    (hfree : ∀ text ∈ texts, ',' ∉ text.toList ∧ text ≠ "")
    (hfree' : ∀ text ∈ texts', ',' ∉ text.toList ∧ text ≠ "")
    (h : ",".intercalate texts = ",".intercalate texts') : texts = texts' := by
  have hsplit {l : List String} (hl : ∀ text ∈ l, ',' ∉ text.toList ∧ text ≠ "")
      (hne : l ≠ []) : (",".intercalate l).toList.splitOn ',' = l.map String.toList := by
    rw [String.toList_intercalate]
    refine List.splitOn_intercalate ',' ?_ (by simpa using hne)
    intro cs hcs
    obtain ⟨text, htext, rfl⟩ := List.mem_map.mp hcs
    exact (hl text htext).1
  have hempty {l : List String} (hl : ∀ text ∈ l, ',' ∉ text.toList ∧ text ≠ "")
      (hnil : ",".intercalate l = "") : l = [] := by
    by_contra hne
    have := hsplit hl hne
    rw [hnil] at this
    obtain ⟨text, rest, rfl⟩ := List.exists_cons_of_ne_nil hne
    simp at this
    exact (hl text List.mem_cons_self).2 (by simpa using this.1)
  by_cases hnil : texts = []
  · subst hnil
    exact (hempty hfree' h.symm).symm
  · have hnil' : texts' ≠ [] := by
      rintro rfl
      exact hnil (hempty hfree h)
    have hlists : texts.map String.toList = texts'.map String.toList := by
      rw [← hsplit hfree hnil, ← hsplit hfree' hnil', h]
    exact List.map_injective_iff.mpr (fun _ _ => String.toList_injective) hlists

/-- Equal fingerprints belong to the same networks. -/
theorem mem_iff_of_cidrFingerprint_eq {display : IpNet → String} (hprints : PrintsApart display)
    {cidrs cidrs' : List IpNet}
    (h : cidrFingerprint display cidrs = cidrFingerprint display cidrs') (cidr : IpNet) :
    cidr ∈ cidrs ↔ cidr ∈ cidrs' := by
  have hfree (l : List IpNet) : ∀ text ∈ (l.map display).mergeSort (fun a b => a ≤ b),
      ',' ∉ text.toList ∧ text ≠ "" := by
    intro text htext
    rw [List.mem_mergeSort] at htext
    obtain ⟨net, -, rfl⟩ := List.mem_map.mp htext
    exact ⟨hprints.comma_free net, hprints.ne_empty net⟩
  have hsorted := intercalate_comma_injective (hfree cidrs) (hfree cidrs') h
  have hmem (l : List IpNet) : cidr ∈ l ↔
      display cidr ∈ (l.map display).mergeSort fun a b => a ≤ b := by
    rw [List.mem_mergeSort, List.mem_map]
    constructor
    · intro hcidr
      exact ⟨cidr, hcidr, rfl⟩
    · rintro ⟨net, hnet, htext⟩
      rwa [← hprints.injective net cidr htext]
  rw [hmem cidrs, hmem cidrs', hsorted]

end ControlPlane
end XdpFirewall
