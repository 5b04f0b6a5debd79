import Mathlib.Data.List.TakeWhile
import XdpFirewall.Lib.Reader
import XdpFirewall.Net.Ipv6Text

/-!
# IpRead — the texts that are read as addresses

What the reader of addresses takes is made of hexadecimal digits, colons and points. An IPv4 address
has one text only: that of its four numbers without zeros in front.
-/

namespace XdpFirewall
namespace Net
namespace IpText

open Lib

/-! ## Characters -/

theorem isAddrChar_of_isDigit10 {c : Char} (h : isDigit 10 c = true) : isAddrChar c = true := by
  have hdigit : isDigit 16 c = true := by
    simp only [isDigit, toDigit] at h ⊢
    grind
  rw [isAddrChar, hdigit]
  rfl

theorem takes_readNumber (radix maxDigits bound : Nat) (allowZeroPrefix : Bool) :
    Takes (isDigit radix) (readNumber radix maxDigits bound allowZeroPrefix) := by
  intro s value rest hread
  rw [readNumber] at hread
  split at hread
  · cases hread
  · cases hread
    exact ⟨s.takeWhile (isDigit radix), (takeWhile_append_drop _ s).symm,
      fun c hc => List.mem_takeWhile_imp hc⟩

theorem takes_readGivenChar {kind : Char → Bool} {c : Char} (hc : kind c = true) :
    Takes kind fun s => (readGivenChar c s).map fun rest => ((), rest) := by
  intro s a rest hread
  cases s with
  | nil => cases hread
  | cons first tail =>
      simp only [readGivenChar] at hread
      split at hread
      next heq =>
        cases hread
        refine ⟨[first], rfl, fun c' hc' => ?_⟩
        rw [List.mem_singleton.mp hc', heq]
        exact hc
      · cases hread

theorem takes_readSeparator {A : Type} {kind : Char → Bool} {sep : Char} {first : Bool}
    {inner : Reader Char A} (hsep : kind sep = true) (hinner : Takes kind inner) :
    Takes kind (readSeparator sep first inner) := by
  cases first with
  | true => exact hinner
  | false =>
      have hboth := (takes_readGivenChar hsep).bind fun _ => hinner
      intro s a rest hread
      refine hboth s a rest ?_
      beta_reduce
      rw [readSeparator, if_neg Bool.false_ne_true] at hread
      cases hgiven : readGivenChar sep s with
      | none =>
          rw [hgiven] at hread
          cases hread
      | some mid =>
          rw [hgiven] at hread
          exact hread

theorem takes_readIpv4Addr : Takes isAddrChar readIpv4Addr := by
  have hoctet : ∀ first, Takes isAddrChar (readOctet first) := fun first =>
    takes_readSeparator rfl ((takes_readNumber 10 3 256 false).mono fun _ =>
      isAddrChar_of_isDigit10)
  exact (hoctet true).bind fun a => (hoctet false).bind fun b => (hoctet false).bind fun c =>
    (hoctet false).bind fun d => takes_pure (ofOctets4 a b c d)

theorem takes_readGroup (first : Bool) :
    Takes isAddrChar (readSeparator ':' first (readNumber 16 4 65536 true)) :=
  takes_readSeparator rfl ((takes_readNumber 16 4 65536 true).mono fun c hc => by
    rw [isAddrChar, hc]
    rfl)

theorem readGroups_front (left : Nat) (first : Bool) (s : List Char) :
    ∃ front, s = front ++ (readGroups left first s).2.2 ∧ ∀ c ∈ front, isAddrChar c = true := by
  induction left generalizing first s with
  | zero => exact ⟨[], rfl, nofun⟩
  | succ left ih =>
      cases hipv4 : if 1 ≤ left then readSeparator ':' first readIpv4Addr s else none with
      | some found =>
          obtain ⟨ip, rest⟩ := found
          have hrest : (readGroups (left + 1) first s).2.2 = rest := by
            rw [readGroups, hipv4]
          rw [hrest]
          split at hipv4
          · exact takes_readSeparator rfl takes_readIpv4Addr s ip rest hipv4
          · cases hipv4
      | none =>
          cases hgroup : readSeparator ':' first (readNumber 16 4 65536 true) s with
          | none =>
              have hrest : (readGroups (left + 1) first s).2.2 = s := by
                rw [readGroups, hipv4, hgroup]
              rw [hrest]
              exact ⟨[], rfl, nofun⟩
          | some found =>
              obtain ⟨group, mid⟩ := found
              have hrest :
                  (readGroups (left + 1) first s).2.2 = (readGroups left false mid).2.2 := by
                rw [readGroups, hipv4, hgroup]
              obtain ⟨front, hs, hfront⟩ := takes_readGroup first s group mid hgroup
              obtain ⟨front', hmid, hfront'⟩ := ih false mid
              refine ⟨front ++ front', ?_, ?_⟩
              · rw [hrest, List.append_assoc, ← hmid]
                exact hs
              · intro c hc
                rcases List.mem_append.mp hc with hc | hc
                · exact hfront c hc
                · exact hfront' c hc

theorem takes_readIpv6Addr : Takes isAddrChar readIpv6Addr := by
  intro s ip rest hread
  obtain ⟨head, hs, hhead⟩ := readGroups_front 8 true s
  obtain ⟨groups, ipv4, behind, hgroups⟩ :
      ∃ groups ipv4 behind, readGroups 8 true s = (groups, ipv4, behind) := ⟨_, _, _, rfl⟩
  rw [hgroups] at hs
  rw [readIpv6Addr, hgroups] at hread
  dsimp only at hread hs
  split at hread
  · cases hread
    exact ⟨head, hs, hhead⟩
  · split at hread
    · cases hread
    · -- Two colons and the groups behind them.
      have hcolon : Takes isAddrChar fun s => (readGivenChar ':' s).map fun rest => ((), rest) :=
        takes_readGivenChar rfl
      obtain ⟨mid, hfirst, hread⟩ := Option.bind_eq_some_iff.mp hread
      obtain ⟨mid', hsecond, hread⟩ := Option.bind_eq_some_iff.mp hread
      obtain ⟨first, hmid, hcfirst⟩ := hcolon _ () mid (by beta_reduce; rw [hfirst]; rfl)
      obtain ⟨second, hmid', hcsecond⟩ := hcolon _ () mid' (by beta_reduce; rw [hsecond]; rfl)
      obtain ⟨tail, htail, hctail⟩ :=
        readGroups_front (8 - (groups.length + 1)) true mid'
      have hrest : (readGroups (8 - (groups.length + 1)) true mid').2.2 = rest :=
        congrArg Prod.snd (Option.some.inj hread)
      refine ⟨head ++ (first ++ (second ++ tail)), ?_, ?_⟩
      · calc s = head ++ behind := hs
          _ = head ++ (first ++ (second ++ (tail ++ rest))) := by
              rw [hmid, hmid', htail, hrest]
          _ = head ++ (first ++ (second ++ tail)) ++ rest := by
              simp only [List.append_assoc]
      · intro c hc
        simp only [List.mem_append] at hc
        rcases hc with hc | hc | hc | hc
        · exact hhead c hc
        · exact hcfirst c hc
        · exact hcsecond c hc
        · exact hctail c hc

/-- The characters of a text that is an address. -/
theorem isAddrChar_of_parseIpAddr {s : List Char} {ip : IpAddr} (h : parseIpAddr s = some ip) :
    ∀ c ∈ s, isAddrChar c = true := by
  obtain ⟨ip, hread⟩ : ∃ ip, readIpAddr s = some (ip, []) := by
    rw [parseIpAddr] at h
    split at h
    next ip' hread => exact ⟨ip', hread⟩
    · cases h
  have hall : ∃ front, s = front ++ [] ∧ ∀ c ∈ front, isAddrChar c = true := by
    rw [readIpAddr] at hread
    cases hipv4 : readIpv4Addr s with
    | some found =>
        obtain ⟨v4, rest⟩ := found
        rw [hipv4] at hread
        cases hread
        exact takes_readIpv4Addr s v4 [] hipv4
    | none =>
        rw [hipv4] at hread
        obtain ⟨⟨v6, rest⟩, hipv6, hsame⟩ := Option.map_eq_some_iff.mp hread
        cases hsame
        exact takes_readIpv6Addr s v6 [] hipv6
  obtain ⟨front, hs, hfront⟩ := hall
  rw [hs, List.append_nil]
  exact hfront

theorem parseIpAddr_eq_none {s : List Char} {c : Char} (hc : c ∈ s) (h : isAddrChar c = false) :
    parseIpAddr s = none := by
  rw [Option.eq_none_iff_forall_not_mem]
  intro ip hip
  have hchar := isAddrChar_of_parseIpAddr hip c hc
  rw [h] at hchar
  cases hchar

/-! ## The texts of IPv4 addresses -/

theorem exists_digitChar {c : Char} (h : isDigit 10 c = true) :
    ∃ d : Fin 10, c = Nat.digitChar d := by
  have hrange : '0' ≤ c ∧ c ≤ '9' := by
    simp only [isDigit, toDigit] at h
    grind
  have hle : ∀ a b : Char, a ≤ b ↔ a.toNat ≤ b.toNat := fun a b => Iff.rfl
  rw [hle, hle] at hrange
  have hlow : '0'.toNat = 48 := rfl
  have hhigh : '9'.toNat = 57 := rfl
  have hchar : ∀ d : Fin 10, (Nat.digitChar d).toNat = 48 + d := by decide
  refine ⟨⟨c.toNat - 48, by omega⟩, Char.toNat_inj.mp ?_⟩
  rw [hchar]
  dsimp only
  omega

/-- At most three digits without a zero in front are the digits of their number. -/
theorem decimal_digits : ∀ a b c : Fin 10,
    Nat.toDigits 10 (numeral 10 [Nat.digitChar a]) = [Nat.digitChar a] ∧
      (a ≠ 0 → Nat.toDigits 10 (numeral 10 [Nat.digitChar a, Nat.digitChar b]) =
        [Nat.digitChar a, Nat.digitChar b]) ∧
      (a ≠ 0 → Nat.toDigits 10 (numeral 10 [Nat.digitChar a, Nat.digitChar b, Nat.digitChar c]) =
        [Nat.digitChar a, Nat.digitChar b, Nat.digitChar c]) := by
  decide +kernel

/-- A number of an IPv4 address is read from its digits only. -/
theorem readNumber_eq_decimal {s rest : List Char} {n : Nat}
    (h : readNumber 10 3 256 false s = some (n, rest)) :
    ∃ k : Fin 256, n = k ∧ s = decimal k ++ rest := by
  rw [readNumber] at h
  split at h
  · cases h
  next hfits =>
    simp only [not_or, not_and, forall_const, Nat.not_lt, Nat.not_le] at hfits
    obtain ⟨hne, hlen, hbound, hzero⟩ := hfits
    cases h
    refine ⟨⟨_, hbound⟩, rfl, ?_⟩
    have hdecimal : decimal ⟨numeral 10 (s.takeWhile (isDigit 10)), hbound⟩ =
        s.takeWhile (isDigit 10) := by
      have hdigit : ∀ c ∈ s.takeWhile (isDigit 10), ∃ d : Fin 10, c = Nat.digitChar d :=
        fun c hc => exists_digitChar (List.mem_takeWhile_imp hc)
      have hhead : ∀ d : Fin 10, Nat.digitChar d ≠ '0' → d ≠ 0 := by decide
      rw [decimal]
      dsimp only
      -- There are one, two or three digits.
      match s.takeWhile (isDigit 10), hne, hlen, hzero, hdigit with
      | [a], _, _, _, hdigit =>
          obtain ⟨a, rfl⟩ := hdigit a (by simp)
          exact (decimal_digits a 0 0).1
      | [a, b], _, _, hzero, hdigit =>
          obtain ⟨a, rfl⟩ := hdigit a (by simp)
          obtain ⟨b, rfl⟩ := hdigit b (by simp)
          refine (decimal_digits a b 0).2.1 (hhead a fun hc => ?_)
          exact absurd (hzero (congrArg some hc)) (by simp)
      | [a, b, c], _, _, hzero, hdigit =>
          obtain ⟨a, rfl⟩ := hdigit a (by simp)
          obtain ⟨b, rfl⟩ := hdigit b (by simp)
          obtain ⟨c, rfl⟩ := hdigit c (by simp)
          refine (decimal_digits a b c).2.2 (hhead a fun hc => ?_)
          exact absurd (hzero (congrArg some hc)) (by simp)
      | _ :: _ :: _ :: _ :: _, _, hlen, _, _ =>
          simp only [List.length_cons] at hlen
          omega
    rw [hdecimal, takeWhile_append_drop]

theorem octet4_ofOctets4 (a b c d : Fin 256) :
    octet4 (ofOctets4 a b c d) 0 = a ∧ octet4 (ofOctets4 a b c d) 1 = b ∧
      octet4 (ofOctets4 a b c d) 2 = c ∧ octet4 (ofOctets4 a b c d) 3 = d := by
  have hfin : ∀ (k : Fin 256) (octet : BitVec 8), octet = BitVec.ofNat 8 k → octet.toFin = k := by
    rintro k _ rfl
    apply Fin.ext
    rw [BitVec.val_toFin, BitVec.toNat_ofNat, Nat.mod_eq_of_lt k.isLt]
  refine ⟨hfin a _ ?_, hfin b _ ?_, hfin c _ ?_, hfin d _ ?_⟩
  all_goals
    apply BitVec.eq_of_getLsbD_eq
    intro i hi
    simp only [ofOctets4, BitVec.getLsbD_append, BitVec.getLsbD_extractLsb']
    grind

theorem eq_dotted_of_readIpv4Addr {s rest : List Char} {ip : BitVec 32}
    (h : readIpv4Addr s = some (ip, rest)) : s = dotted ip ++ rest := by
  have hdot : ∀ {s rest : List Char} {n : Nat}, readOctet false s = some (n, rest) →
      ∃ k : Fin 256, n = k ∧ s = '.' :: (decimal k ++ rest) := by
    intro s rest n h
    rw [readOctet, readSeparator, if_neg Bool.false_ne_true] at h
    obtain ⟨mid, hgiven, hnumber⟩ := Option.bind_eq_some_iff.mp h
    obtain ⟨k, hk, rfl⟩ := readNumber_eq_decimal hnumber
    refine ⟨k, hk, ?_⟩
    cases s with
    | nil => cases hgiven
    | cons first tail =>
        rw [readGivenChar] at hgiven
        split at hgiven
        next heq =>
          rw [heq, Option.some.inj hgiven]
        · cases hgiven
  obtain ⟨⟨a, s₁⟩, ha, h⟩ := Option.bind_eq_some_iff.mp h
  obtain ⟨⟨b, s₂⟩, hb, h⟩ := Option.bind_eq_some_iff.mp h
  obtain ⟨⟨c, s₃⟩, hc, h⟩ := Option.bind_eq_some_iff.mp h
  obtain ⟨⟨d, s₄⟩, hd, h⟩ := Option.bind_eq_some_iff.mp h
  cases h
  obtain ⟨a, rfl, rfl⟩ := readNumber_eq_decimal ha
  obtain ⟨b, rfl, rfl⟩ := hdot hb
  obtain ⟨c, rfl, rfl⟩ := hdot hc
  obtain ⟨d, rfl, rfl⟩ := hdot hd
  obtain ⟨hfirst, hsecond, hthird, hfourth⟩ := octet4_ofOctets4 a b c d
  rw [dotted, hfirst, hsecond, hthird, hfourth]
  simp only [List.append_assoc, List.cons_append]

/-- An IPv4 address has no other text than its dotted form. -/
theorem parseIpAddr_v4_iff {s : List Char} {ip : BitVec 32} :
    parseIpAddr s = some (.v4 ip) ↔ s = dotted ip := by
  constructor
  · intro h
    rw [parseIpAddr, readIpAddr] at h
    cases hipv4 : readIpv4Addr s with
    | some found =>
        obtain ⟨v4, rest⟩ := found
        rw [hipv4] at h
        cases rest with
        | nil =>
            cases h
            rw [eq_dotted_of_readIpv4Addr hipv4, List.append_nil]
        | cons c rest => cases h
    | none =>
        rw [hipv4] at h
        cases hipv6 : readIpv6Addr s with
        | none =>
            rw [hipv6] at h
            cases h
        | some found =>
            obtain ⟨v6, rest⟩ := found
            rw [hipv6] at h
            cases rest <;> cases h
  · rintro rfl
    exact parseIpAddr_dotted ip

theorem colon_notMem_dotted (ip : BitVec 32) : ':' ∉ dotted ip := by
  have hdecimal : ∀ n : Fin 256, ':' ∉ decimal n := by decide +kernel
  simp [dotted, hdecimal]

theorem dotted_ne_nil (ip : BitVec 32) : dotted ip ≠ [] := by
  simp [dotted]

/-- Nothing but a digit can follow a dotted address in the text of an address. -/
theorem parseIpAddr_dotted_append {ip : BitVec 32} {c : Char} (h : isDigit 10 c = false)
    (rest : List Char) : parseIpAddr (dotted ip ++ c :: rest) = none := by
  have hread : readIpv4Addr (dotted ip ++ c :: rest) = some (ip, c :: rest) :=
    readIpv4Addr_dotted ip fun c' hc' => by
      cases hc'
      exact h
  rw [parseIpAddr, readIpAddr, hread]

end IpText
end Net
end XdpFirewall
