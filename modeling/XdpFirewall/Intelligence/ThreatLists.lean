import XdpFirewall.ControlPlane.GeoFetch
import XdpFirewall.Intelligence.ThreatRefresh
import XdpFirewall.Lib.Canonical
import XdpFirewall.Lib.Lines
import XdpFirewall.Net.Ipv6Text

/-!
# ThreatLists — the lists of threat prefixes, their fingerprints and their texts

A list is normalized before it is compared with the stored one or stored itself. The fingerprint
is taken from one line for each prefix, and the text that is stored is a JSON array of the same
networks.
-/

namespace XdpFirewall
namespace Intelligence

open ControlPlane Lib Net Net.IpText Policy

/-! ## Normal lists -/

theorem addrValue_injective {a b : IpAddr} (hfamily : a.isIpv4 = b.isIpv4)
    (h : addrValue a = addrValue b) : a = b := by
  cases a with
  | v4 a =>
      cases b with
      | v4 b => exact congrArg IpAddr.v4 (BitVec.eq_of_toNat_eq h)
      | v6 b => cases hfamily
  | v6 a =>
      cases b with
      | v4 b => cases hfamily
      | v6 b => exact congrArg IpAddr.v6 (BitVec.eq_of_toNat_eq h)

theorem threatPrefix_ext {p q : ThreatPrefix} (haddr : p.addr = q.addr)
    (hlen : p.prefixLen = q.prefixLen) : p = q := by
  obtain ⟨⟨addr, len, hnet⟩⟩ := p
  obtain ⟨⟨addr', len', hnet'⟩⟩ := q
  cases haddr
  cases hlen
  rfl

/-- Two prefixes of one sort key are one prefix. -/
theorem ranks_threatPrefixLe : Ranks threatPrefixLe where
  trans a b c hab hbc := by
    simp only [threatPrefixLe, decide_eq_true_eq] at hab hbc ⊢
    exact List.le_trans hab hbc
  total a b := by
    simp only [threatPrefixLe, Bool.or_eq_true, decide_eq_true_eq]
    exact List.le_total _ _
  antisymm a b hab hba := by
    simp only [threatPrefixLe, decide_eq_true_eq] at hab hba
    have hkey := List.le_antisymm hab hba
    simp only [List.cons.injEq, and_true] at hkey
    obtain ⟨hfamily, hvalue, hlen⟩ := hkey
    refine threatPrefix_ext (addrValue_injective ?_ hvalue) hlen
    cases ha : a.addr.isIpv4 <;> cases hb : b.addr.isIpv4 <;> simp_all

theorem normalizeThreatPrefixes_congr {prefixes prefixes' : List ThreatPrefix}
    (h : ∀ p, p ∈ prefixes ↔ p ∈ prefixes') :
    normalizeThreatPrefixes prefixes = normalizeThreatPrefixes prefixes' :=
  ranks_threatPrefixLe.canonical_congr h

theorem mem_normalizeThreatPrefixes {prefixes : List ThreatPrefix} {p : ThreatPrefix} :
    p ∈ normalizeThreatPrefixes prefixes ↔ p ∈ prefixes :=
  mem_canonical

/-- An address that one of the prefixes contains. -/
def Covers (prefixes : List ThreatPrefix) (ip : IpAddr) : Prop :=
  ∃ p ∈ prefixes, p.toNetwork.Contains ip

/-! ## Texts -/

def decimalText (n : Nat) : List Char :=
  Nat.toDigits 10 n

/-- An address, a slash and a prefix length: `Display` of a network of the `ipnet` crate too. -/
def cidrText (addr : IpAddr) (prefixLen : Nat) : List Char :=
  displayIpAddr addr ++ '/' :: decimalText prefixLen

def prefixToCidr (p : ThreatPrefix) : String :=
  String.ofList (cidrText p.addr p.prefixLen)

/-- `cidrs_json_from_prefixes`, over the text of an array of strings. -/
def cidrsJsonFromPrefixes (jsonStrings : List String → String) (prefixes : List ThreatPrefix) :
    String :=
  jsonStrings (prefixes.map prefixToCidr)

/-- The bytes of a text of ASCII characters. -/
def asBytes (text : List Char) : List UInt8 :=
  text.map fun c => UInt8.ofNat c.toNat

/-- The line of a prefix that its fingerprint is taken from. -/
def fingerprintLine (p : ThreatPrefix) : List Char :=
  cidrText p.addr p.prefixLen ++ ['\n']

/-- All the bytes that `threat_prefix_fingerprint` hashes. -/
def fingerprintInput (prefixes : List ThreatPrefix) : List UInt8 :=
  asBytes (prefixes.flatMap fingerprintLine)

theorem hashBytes_append (hash : UInt64) (bytes bytes' : List UInt8) :
    hashBytes hash (bytes ++ bytes') = hashBytes (hashBytes hash bytes) bytes' :=
  List.foldl_append

theorem threatPrefixFingerprint_eq (prefixes : List ThreatPrefix) :
    threatPrefixFingerprint (fun addr => asBytes (displayIpAddr addr)) prefixes =
      hexText (hashBytes 0xcbf29ce484222325 (fingerprintInput prefixes)) := by
  rw [threatPrefixFingerprint]
  congr 1
  generalize (0xcbf29ce484222325 : UInt64) = hash
  induction prefixes generalizing hash with
  | nil => rfl
  | cons p prefixes ih =>
      have hinput : fingerprintInput (p :: prefixes) =
          asBytes (displayIpAddr p.addr) ++ (0x2f :: (asBytes (decimalText p.prefixLen) ++
            (0x0a :: fingerprintInput prefixes))) := by
        simp [fingerprintInput, fingerprintLine, cidrText, asBytes]
      rw [List.foldl_cons, ih, hinput, hashBytes_append]
      change _ = hashBytes (hashByte (hashBytes hash (asBytes (displayIpAddr p.addr))) 0x2f)
        (asBytes (decimalText p.prefixLen) ++ 0x0a :: fingerprintInput prefixes)
      rw [hashBytes_append]
      rfl

/-! ## What the texts are made of -/

theorem isAddrChar_of_isDigit {c : Char} (h : c.isDigit) : isAddrChar c = true := by
  have hle : ∀ a b : Char, a ≤ b ↔ a.toNat ≤ b.toNat := fun a b => Iff.rfl
  have hrange : '0' ≤ c ∧ c ≤ '9' := by
    rw [hle, hle]
    exact toNat_of_isDigit h
  have hsmall : c.toNat - '0'.toNat < 16 := by
    have hhigh := (toNat_of_isDigit h).2
    have hzero : '0'.toNat = 48 := rfl
    omega
  have hdigit : toDigit 16 c = some (c.toNat - '0'.toNat) := by
    simp only [toDigit, if_pos hrange, if_pos hsmall]
  rw [isAddrChar, isDigit, hdigit]
  rfl

theorem toNat_of_mem_cidrText {addr : IpAddr} {prefixLen : Nat} {c : Char}
    (h : c ∈ cidrText addr prefixLen) : 46 ≤ c.toNat ∧ c.toNat ≤ 102 := by
  have haddr : ∀ {c : Char}, isAddrChar c = true → 46 ≤ c.toNat ∧ c.toNat ≤ 102 := fun hc =>
    ⟨(toNat_of_isAddrChar hc).1, (toNat_of_isAddrChar hc).2.1⟩
  rcases List.mem_append.mp h with h | h
  · exact haddr (isAddrChar_of_mem_displayIpAddr h)
  · rcases List.mem_cons.mp h with rfl | h
    · decide
    · exact haddr (isAddrChar_of_isDigit (isDigit_of_mem_toDigits h))

theorem notMem_cidrText {addr : IpAddr} {prefixLen : Nat} {c : Char} (h : c.toNat < 46) :
    c ∉ cidrText addr prefixLen := by
  intro hc
  have hlow := (toNat_of_mem_cidrText hc).1
  omega

theorem slash_notMem {text : List Char} (h : ∀ c ∈ text, isAddrChar c = true) : '/' ∉ text :=
  fun hmem => (toNat_of_isAddrChar (h '/' hmem)).2.2 rfl

theorem cidrText_injective {a b : IpAddr} {m n : Nat} (h : cidrText a m = cidrText b n) :
    a = b ∧ m = n := by
  have hfree : ∀ addr : IpAddr, '/' ∉ displayIpAddr addr := fun addr =>
    slash_notMem fun _ => isAddrChar_of_mem_displayIpAddr
  have hdigits : ∀ len : Nat, '/' ∉ decimalText len := fun len =>
    slash_notMem fun _ hc => isAddrChar_of_isDigit (isDigit_of_mem_toDigits hc)
  have haddr : ∀ (addr : IpAddr) (len : Nat),
      completeLines '/' (cidrText addr len) = [displayIpAddr addr] := by
    intro addr len
    rw [cidrText, completeLines_append_cons (hfree addr), completeLines_of_notMem (hdigits len)]
  have hlen : ∀ (addr : IpAddr) (len : Nat),
      openLine '/' (cidrText addr len) = decimalText len := by
    intro addr len
    rw [cidrText, openLine_append_cons (hfree addr), openLine_of_notMem (hdigits len)]
  have hfirst : [displayIpAddr a] = [displayIpAddr b] := by
    rw [← haddr a m, ← haddr b n, h]
  have hsecond : decimalText m = decimalText n := by
    rw [← hlen a m, ← hlen b n, h]
  refine ⟨displayIpAddr_injective (List.singleton_inj.mp hfirst), ?_⟩
  have hvalue := congrArg (fun digits => Nat.ofDigitChars 10 digits 0) hsecond
  simpa only [decimalText, Nat.ofDigitChars_ten_toDigits] using hvalue

/-! ## Fingerprints -/

/-- The lines of a list are cut out of the text again. -/
theorem completeLines_fingerprint (prefixes : List ThreatPrefix) :
    completeLines '\n' (prefixes.flatMap fingerprintLine) =
      prefixes.map fun p => cidrText p.addr p.prefixLen := by
  induction prefixes with
  | nil => exact completeLines_of_notMem List.not_mem_nil
  | cons p prefixes ih =>
      have hline : '\n' ∉ cidrText p.addr p.prefixLen := notMem_cidrText (by decide)
      rw [List.flatMap_cons, fingerprintLine, List.append_assoc, List.singleton_append,
        completeLines_append_cons hline, ih, List.map_cons]

theorem asBytes_injective {text text' : List Char} (htext : ∀ c ∈ text, c.toNat < 256)
    (htext' : ∀ c ∈ text', c.toNat < 256) (h : asBytes text = asBytes text') : text = text' := by
  induction text generalizing text' with
  | nil => exact (List.map_eq_nil_iff.mp h.symm).symm
  | cons c text ih =>
      cases text' with
      | nil => cases h
      | cons c' text' =>
          rw [asBytes, asBytes, List.map_cons, List.map_cons, List.cons.injEq] at h
          rw [List.forall_mem_cons] at htext htext'
          have hchar : c.toNat = c'.toNat := by
            have hbyte := congrArg UInt8.toNat h.1
            rwa [UInt8.toNat_ofNat_of_lt' htext.1, UInt8.toNat_ofNat_of_lt' htext'.1] at hbyte
          rw [Char.toNat_inj.mp hchar, ih htext.2 htext'.2 h.2]

/-- Two lists of one input are one list. -/
theorem fingerprintInput_injective : Function.Injective fingerprintInput := by
  intro prefixes prefixes' h
  have hascii : ∀ prefixes : List ThreatPrefix, ∀ c ∈ prefixes.flatMap fingerprintLine,
      c.toNat < 256 := by
    intro prefixes c hc
    obtain ⟨p, -, hc⟩ := List.mem_flatMap.mp hc
    rcases List.mem_append.mp hc with hc | hc
    · exact Nat.lt_of_le_of_lt (toNat_of_mem_cidrText hc).2 (by decide)
    · rw [List.mem_singleton.mp hc]
      decide
  have htext := asBytes_injective (hascii prefixes) (hascii prefixes') h
  have hlines := congrArg (completeLines '\n') htext
  rw [completeLines_fingerprint, completeLines_fingerprint] at hlines
  refine List.map_injective_iff.mpr ?_ hlines
  intro p q hpq
  obtain ⟨haddr, hlen⟩ := cidrText_injective hpq
  exact threatPrefix_ext haddr hlen

/-! ## Storage -/

/-- What storage relies on: a network and an array of strings that were printed are read back. -/
structure ReadsBack (text : TextReaders) (jsonStrings : List String → String) : Prop where
  ipNet : ∀ net : IpNet,
    text.ipNet (String.ofList (cidrText net.addr net.prefixLen)) = some net
  stringArray : ∀ prefixes : List ThreatPrefix,
    text.stringArray (jsonStrings (prefixes.map prefixToCidr)) = some (prefixes.map prefixToCidr)

/-- There is nothing to take off a network that was printed. -/
theorem trimFeedValue_prefixToCidr (p : ThreatPrefix) :
    trimFeedValue (prefixToCidr p) = cidrText p.addr p.prefixLen := by
  have hrange : ∀ c ∈ cidrText p.addr p.prefixLen, 46 ≤ c.toNat ∧ c.toNat ≤ 102 := fun _ hc =>
    toNat_of_mem_cidrText hc
  have hblank : ∀ c ∈ cidrText p.addr p.prefixLen, isWhitespace c = false := by
    intro c hc
    obtain ⟨hlow, hhigh⟩ := hrange c hc
    simp only [isWhitespace, Bool.or_eq_false_iff, Bool.and_eq_false_iff, decide_eq_false_iff_not,
      beq_eq_false_iff_ne]
    omega
  have hstrip : ∀ d : Char, d.toNat < 46 → ∀ text : List Char,
      (∀ c ∈ text, 46 ≤ c.toNat ∧ c.toNat ≤ 102) → text.dropWhile (fun c => c == d) = text := by
    intro d hd text htext
    cases text with
    | nil => rfl
    | cons c rest =>
        refine List.dropWhile_cons_of_neg fun hcd => ?_
        have hlow := (htext c List.mem_cons_self).1
        rw [eq_of_beq hcd] at hlow
        omega
  have hback : ∀ c ∈ (cidrText p.addr p.prefixLen).reverse, 46 ≤ c.toNat ∧ c.toNat ≤ 102 :=
    fun c hc => hrange c (List.mem_reverse.mp hc)
  have hcomma : ','.toNat < 46 := by decide
  have hquote : '"'.toNat < 46 := by decide
  simp only [trimFeedValue, prefixToCidr, String.toList_ofList]
  rw [trim_of_no_blank hblank, hstrip ',' hcomma _ hrange, hstrip ',' hcomma _ hback,
    List.reverse_reverse, hstrip '"' hquote _ hrange, hstrip '"' hquote _ hback,
    List.reverse_reverse]

theorem parseThreatPrefix_prefixToCidr {text : TextReaders} {jsonStrings : List String → String}
    (htext : ReadsBack text jsonStrings) (p : ThreatPrefix) :
    parseThreatPrefix text (prefixToCidr p) = .ok p := by
  obtain ⟨net, -, haddr, hnetwork, hlen⟩ := p.exists_ipNet
  have hread : text.ipNet (String.ofList (cidrText p.addr p.prefixLen)) = some net := by
    rw [← haddr, ← hlen]
    exact htext.ipNet net
  simp only [parseThreatPrefix, trimFeedValue_prefixToCidr, hread]
  exact congrArg Except.ok (threatPrefix_ext hnetwork hlen)

/-- A list that is stored is read back. -/
theorem persistedPrefixes_cidrsJson {text : TextReaders} {jsonStrings : List String → String}
    (htext : ReadsBack text jsonStrings) (prefixes : List ThreatPrefix) (row : ThreatPrefixRow)
    (hrow : row.cidrsJson = cidrsJsonFromPrefixes jsonStrings prefixes) :
    persistedPrefixes text row = .ok prefixes := by
  rw [persistedPrefixes, hrow, cidrsJsonFromPrefixes, htext.stringArray]
  refine mapM_ok_of_forall₂ (List.forall₂_map_left_iff.mpr (List.forall₂_same.mpr ?_))
  intro p _
  exact parseThreatPrefix_prefixToCidr htext p

/-- `persist_threat_source_prefixes`; the database gives the id. -/
def PolicyDb.persistThreatSourcePrefixes (jsonStrings : List String → String)
    (policyName sourceName : String) (prefixes : List ThreatPrefix) (id : Int32)
    (db : PolicyDb) : PolicyDb :=
  { db with
    threatPrefixes :=
      (db.threatPrefixes.filter fun row =>
        ¬ (row.policyName = policyName ∧ row.sourceName = sourceName)) ++
      [{ id := id
         policyName := policyName
         sourceName := sourceName
         cidrsJson := cidrsJsonFromPrefixes jsonStrings prefixes }] }

/-- `delete_persisted_threat_prefixes_by_name` -/
def PolicyDb.deletePersistedThreatPrefixesByName (names : List String) (db : PolicyDb) :
    PolicyDb :=
  { db with
    threatPrefixes := db.threatPrefixes.filter fun row =>
      ¬ (row.policyName = defaultPolicyName ∧ row.sourceName ∈ names) }

/-- The rows of a policy hold these lists, and a source without a row has the empty one. -/
structure StoresLists (jsonStrings : List String → String) (db : PolicyDb) (policyName : String)
    (stored : String → List ThreatPrefix) : Prop where
  of_row : ∀ row ∈ db.threatPrefixes, row.policyName = policyName →
    row.cidrsJson = cidrsJsonFromPrefixes jsonStrings (stored row.sourceName)
  of_no_row : ∀ name, (∀ row ∈ db.threatPrefixes, row.policyName = policyName →
    row.sourceName ≠ name) → stored name = []

namespace StoresLists

variable {jsonStrings : List String → String} {db : PolicyDb} {policyName : String}
  {stored : String → List ThreatPrefix}

theorem empty (jsonStrings : List String → String) (policyName : String) :
    StoresLists jsonStrings PolicyDb.empty policyName fun _ => [] where
  of_row row hrow := by cases hrow
  of_no_row _ _ := rfl

theorem persist (h : StoresLists jsonStrings db policyName stored) (name : String)
    (prefixes : List ThreatPrefix) (id : Int32) :
    StoresLists jsonStrings
      (PolicyDb.persistThreatSourcePrefixes jsonStrings policyName name prefixes id db) policyName
      (Function.update stored name prefixes) where
  of_row row hrow hpolicy := by
    rcases List.mem_append.mp hrow with hrow | hrow
    · obtain ⟨hrow, hother⟩ := List.mem_filter.mp hrow
      have hname : row.sourceName ≠ name := fun hname =>
        of_decide_eq_true hother ⟨hpolicy, hname⟩
      rw [Function.update_of_ne hname]
      exact h.of_row row hrow hpolicy
    · rw [List.mem_singleton.mp hrow, Function.update_self]
  of_no_row other hnone := by
    have hname : other ≠ name := fun hname =>
      hnone _ (List.mem_append_right _ List.mem_cons_self) rfl hname.symm
    rw [Function.update_of_ne hname]
    refine h.of_no_row other fun row hrow hpolicy hsource => ?_
    refine hnone row (List.mem_append_left _ (List.mem_filter.mpr ⟨hrow, ?_⟩)) hpolicy hsource
    exact decide_eq_true fun hboth => hname (hsource.symm.trans hboth.2)

theorem delete (h : StoresLists jsonStrings db defaultPolicyName stored) (names : List String) :
    StoresLists jsonStrings (PolicyDb.deletePersistedThreatPrefixesByName names db)
      defaultPolicyName fun name => if name ∈ names then [] else stored name where
  of_row row hrow hpolicy := by
    obtain ⟨hrow, hkept⟩ := List.mem_filter.mp hrow
    rw [if_neg fun hname => of_decide_eq_true hkept ⟨hpolicy, hname⟩]
    exact h.of_row row hrow hpolicy
  of_no_row name hnone := by
    split
    · rfl
    · next hname =>
        refine h.of_no_row name fun row hrow hpolicy hsource => ?_
        refine hnone row (List.mem_filter.mpr ⟨hrow, ?_⟩) hpolicy hsource
        exact decide_eq_true fun hboth => hname (hsource ▸ hboth.2)

/-- What is loaded is the normal list of all that is stored for the sources. -/
theorem load {text : TextReaders} (h : StoresLists jsonStrings db policyName stored)
    (htext : ReadsBack text jsonStrings) (names : List String) :
    loadPersistedThreatPrefixes text db policyName names =
      .ok (normalizeThreatPrefixes (names.flatMap stored)) := by
  rw [loadPersistedThreatPrefixes]
  generalize hrows : (db.threatPrefixes.filter fun row =>
    row.policyName = policyName ∧ row.sourceName ∈ names).mergeSort
      (fun a b => a.sourceName ≤ b.sourceName) = rows
  have hmem : ∀ row, row ∈ rows ↔
      row ∈ db.threatPrefixes ∧ row.policyName = policyName ∧ row.sourceName ∈ names := by
    intro row
    rw [← hrows, List.mem_mergeSort, List.mem_filter, decide_eq_true_eq]
  have hread : rows.mapM (persistedPrefixes text) =
      .ok (rows.map fun row => stored row.sourceName) := by
    refine mapM_ok_of_forall₂ (List.forall₂_map_right_iff.mpr (List.forall₂_same.mpr ?_))
    intro row hrow
    obtain ⟨hrow, hpolicy, -⟩ := (hmem row).mp hrow
    exact persistedPrefixes_cidrsJson htext _ row (h.of_row row hrow hpolicy)
  rw [hread]
  refine congrArg Except.ok (normalizeThreatPrefixes_congr fun p => ?_)
  rw [List.mem_flatten, List.mem_flatMap]
  constructor
  · rintro ⟨list, hlist, hp⟩
    obtain ⟨row, hrow, rfl⟩ := List.mem_map.mp hlist
    exact ⟨row.sourceName, ((hmem row).mp hrow).2.2, hp⟩
  · rintro ⟨name, hname, hp⟩
    -- A source with prefixes has a row.
    by_contra hnone
    have hempty : stored name = [] := by
      refine h.of_no_row name fun row hrow hpolicy hsource => hnone ?_
      subst hsource
      exact ⟨_, List.mem_map.mpr ⟨row, (hmem row).mpr ⟨hrow, hpolicy, hname⟩, rfl⟩, hp⟩
    rw [hempty] at hp
    cases hp

end StoresLists

/-! ## Canonical lists -/

/-- A list is normal in one way only, whatever the order and the number of its prefixes were. Its
addresses, its fingerprint and its stored text lose nothing of it, and the stored lists of several
sources are loaded as the normal list of all of them. -/
theorem threatLists_canonical {text : TextReaders} {jsonStrings : List String → String}
    (htext : ReadsBack text jsonStrings) :
    (∀ prefixes, normalizeThreatPrefixes (normalizeThreatPrefixes prefixes) =
      normalizeThreatPrefixes prefixes) ∧
    (∀ prefixes prefixes', (∀ p, p ∈ prefixes ↔ p ∈ prefixes') →
      normalizeThreatPrefixes prefixes = normalizeThreatPrefixes prefixes') ∧
    (∀ prefixes ip, Covers (normalizeThreatPrefixes prefixes) ip ↔ Covers prefixes ip) ∧
    (∀ prefixes, threatPrefixFingerprint (fun addr => asBytes (displayIpAddr addr)) prefixes =
      hexText (hashBytes 0xcbf29ce484222325 (fingerprintInput prefixes))) ∧
    (∀ prefixes prefixes', fingerprintInput (normalizeThreatPrefixes prefixes) =
        fingerprintInput (normalizeThreatPrefixes prefixes') ↔
      normalizeThreatPrefixes prefixes = normalizeThreatPrefixes prefixes') ∧
    (∀ prefixes row,
      row.cidrsJson = cidrsJsonFromPrefixes jsonStrings (normalizeThreatPrefixes prefixes) →
      persistedPrefixes text row = .ok (normalizeThreatPrefixes prefixes)) ∧
    ∀ db policyName stored, StoresLists jsonStrings db policyName stored → ∀ sourceNames,
      loadPersistedThreatPrefixes text db policyName sourceNames =
        .ok (normalizeThreatPrefixes (sourceNames.flatMap stored)) := by
  refine ⟨ranks_threatPrefixLe.canonical_canonical, fun _ _ => normalizeThreatPrefixes_congr,
    fun prefixes ip => ?_, threatPrefixFingerprint_eq,
    fun _ _ => fingerprintInput_injective.eq_iff,
    fun _ row => persistedPrefixes_cidrsJson htext _ row,
    fun _ _ _ h sourceNames => h.load htext sourceNames⟩
  simp only [Covers, mem_normalizeThreatPrefixes]

/-! ## Readers -/

/-- A reader of what `cidrText` prints. -/
def readCidr (value : String) : Option IpNet :=
  match completeLines '/' value.toList with
  | [addr] => (parseIpAddr addr).bind fun addr =>
      IpNet.new? addr (Nat.ofDigitChars 10 (openLine '/' value.toList) 0)
  | _ => none

def quoted (item : String) : List Char :=
  '"' :: (item.toList ++ ['"'])

/-- A JSON array of strings in which nothing is escaped. -/
def arrayText (items : List String) : String :=
  String.ofList ('[' :: ([','].intercalate (items.map quoted) ++ [']']))

def readArray (value : String) : Option (List String) :=
  match value.toList.tail.dropLast with
  | [] => some []
  | inner => some ((inner.splitOn ',').map fun item => String.ofList item.tail.dropLast)

def feedReaders : TextReaders where
  ipNet := readCidr
  ipAddr value := parseIpAddr value.toList
  cidrArray value := ((readArray value).getD []).filterMap readCidr
  stringArray := readArray

theorem readCidr_cidrText (net : IpNet) :
    readCidr (String.ofList (cidrText net.addr net.prefixLen)) = some net := by
  have hfree : '/' ∉ displayIpAddr net.addr :=
    slash_notMem fun _ => isAddrChar_of_mem_displayIpAddr
  have hdigits : '/' ∉ decimalText net.prefixLen :=
    slash_notMem fun _ hc => isAddrChar_of_isDigit (isDigit_of_mem_toDigits hc)
  rw [readCidr, String.toList_ofList, cidrText, completeLines_append_cons hfree,
    completeLines_of_notMem hdigits, openLine_append_cons hfree, openLine_of_notMem hdigits,
    decimalText, Nat.ofDigitChars_ten_toDigits]
  dsimp only
  rw [parseIpAddr_displayIpAddr]
  exact IpNet.new?_addr net

theorem readArray_arrayText {items : List String} (h : ∀ item ∈ items, ',' ∉ item.toList) :
    readArray (arrayText items) = some items := by
  rw [readArray, arrayText, String.toList_ofList, List.tail_cons, List.dropLast_concat]
  cases items with
  | nil => rfl
  | cons item items =>
      have hfree : ∀ text ∈ (item :: items).map quoted, ',' ∉ text := by
        intro text htext
        obtain ⟨item, hitem, rfl⟩ := List.mem_map.mp htext
        simpa [quoted] using h item hitem
      have hsplit := List.splitOn_intercalate ',' hfree (by simp)
      have hitems : ((item :: items).map quoted).map
          (fun text => String.ofList text.tail.dropLast) = item :: items := by
        rw [List.map_map]
        refine (List.map_congr_left fun item _ => ?_).trans (List.map_id _)
        change String.ofList (item.toList ++ ['"']).dropLast = item
        rw [List.dropLast_concat, String.ofList_toList]
      split
      · next hnil => simp [quoted] at hnil
      · next inner => rw [hsplit, hitems]

theorem readsBack_feedReaders : ReadsBack feedReaders arrayText where
  ipNet := readCidr_cidrText
  stringArray prefixes := by
    refine readArray_arrayText fun item hitem => ?_
    obtain ⟨p, -, rfl⟩ := List.mem_map.mp hitem
    rw [prefixToCidr, String.toList_ofList]
    exact notMem_cidrText (by decide)

/-- Two sources store the block 10.0.0.0/8 next to two others. -/
theorem threatLists_canonical_twoSources :
    let block (len : Nat) (hlen : len ≤ 32) : ThreatPrefix :=
      { toNetwork := (IpNet.v4 ⟨0x0a000000, len, hlen⟩).toNetwork }
    let first := [block 16 (by decide), block 8 (by decide)]
    let second := [block 8 (by decide), block 24 (by decide), block 8 (by decide)]
    let db := PolicyDb.persistThreatSourcePrefixes arrayText defaultPolicyName "b" second 2
      (PolicyDb.persistThreatSourcePrefixes arrayText defaultPolicyName "a" first 1
        PolicyDb.empty)
    loadPersistedThreatPrefixes feedReaders db defaultPolicyName ["b", "c", "a"] =
      .ok (normalizeThreatPrefixes (second ++ first)) := by
  intro block first second db
  have hstored := ((StoresLists.empty arrayText defaultPolicyName).persist "a" first 1).persist
    "b" second 2
  have hload := (threatLists_canonical readsBack_feedReaders).2.2.2.2.2.2 db defaultPolicyName _
    hstored ["b", "c", "a"]
  rw [hload]
  rfl

end Intelligence
end XdpFirewall
