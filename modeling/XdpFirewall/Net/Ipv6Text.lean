import XdpFirewall.Net.IpText

/-!
# Ipv6Text — IPv6 addresses as they are printed

An IPv6 address is printed in groups of hexadecimal digits, and the longest run of zero groups is
left out. An address that is printed is read back, so that no two addresses have one text.
-/

namespace XdpFirewall
namespace Net
namespace IpText

/-! ## Groups -/

def segments (ip : BitVec 128) : List (BitVec 16) :=
  (List.range 8).map fun k => ip.extractLsb' (16 * (7 - k)) 16

/-- `{:x}` -/
def hexGroup (group : BitVec 16) : List Char :=
  Nat.toDigits 16 group.toNat

/-- `fmt_subslice`: groups with colons between them. -/
def fmtSubslice : List (BitVec 16) → List Char
  | [] => []
  | [group] => hexGroup group
  | group :: next :: rest => hexGroup group ++ ':' :: fmtSubslice (next :: rest)

/-- A run of groups. -/
structure Span where
  start : Nat
  len : Nat

/-- The loop over the groups for the first longest run of zeros. -/
def longestZeros : List (BitVec 16) → Nat → Span → Span → Span
  | [], _, longest, _ => longest
  | group :: rest, i, longest, current =>
      if group = 0 then
        let start := if current.len = 0 then i else current.start
        let current := { start := start, len := current.len + 1 }
        longestZeros rest (i + 1) (if longest.len < current.len then current else longest) current
      else
        longestZeros rest (i + 1) longest ⟨0, 0⟩

/-- `Display` of an IPv6 address -/
def display6 (ip : BitVec 128) : List Char :=
  if (segments ip).take 6 = [0, 0, 0, 0, 0, 0xffff] then
    ':' :: ':' :: 'f' :: 'f' :: 'f' :: 'f' :: ':' :: dotted (ip.extractLsb' 0 32)
  else
    let zeroes := longestZeros (segments ip) 0 ⟨0, 0⟩ ⟨0, 0⟩
    if 1 < zeroes.len then
      fmtSubslice ((segments ip).take zeroes.start) ++ ':' :: ':' ::
        fmtSubslice ((segments ip).drop (zeroes.start + zeroes.len))
    else
      fmtSubslice (segments ip)

def displayIpAddr : IpAddr → List Char
  | .v4 ip => dotted ip
  | .v6 ip => display6 ip

/-! ## Numbers -/

theorem toDigit_digitChar : ∀ d : Fin 16, toDigit 16 (Nat.digitChar d) = some d.val := by
  decide

theorem numeral_concat (digits : List Char) (c : Char) :
    numeral 16 (digits ++ [c]) = numeral 16 digits * 16 + (toDigit 16 c).getD 0 := by
  rw [numeral, numeral, List.foldl_append]
  rfl

theorem numeral_toDigits (n : Nat) : numeral 16 (Nat.toDigits 16 n) = n := by
  induction n using Nat.strongRecOn with
  | ind n ih =>
      rw [Nat.toDigits_eq_if (by decide)]
      split
      · next hlt =>
          have hdigit := toDigit_digitChar ⟨n, hlt⟩
          rw [← List.nil_append [n.digitChar], numeral_concat, hdigit, numeral, List.foldl_nil,
            Nat.zero_mul, Nat.zero_add, Option.getD_some]
      · next hge =>
          have hdigit := toDigit_digitChar ⟨n % 16, Nat.mod_lt n (by decide)⟩
          rw [numeral_concat, ih (n / 16) (by omega), hdigit, Option.getD_some]
          exact Nat.div_add_mod' n 16

theorem exists_digit_of_mem_toDigits {n : Nat} {c : Char} (h : c ∈ Nat.toDigits 16 n) :
    ∃ d : Fin 16, c = Nat.digitChar d := by
  induction n using Nat.strongRecOn with
  | ind n ih =>
      rw [Nat.toDigits_eq_if (by decide)] at h
      split at h
      · next hlt => exact ⟨⟨n, hlt⟩, List.mem_singleton.mp h⟩
      · next hge =>
          rcases List.mem_append.mp h with h | h
          · exact ih (n / 16) (by omega) h
          · exact ⟨⟨n % 16, Nat.mod_lt n (by decide)⟩, List.mem_singleton.mp h⟩

theorem length_toDigits_le {n : Nat} (k : Nat) (h : n < 16 ^ (k + 1)) :
    (Nat.toDigits 16 n).length ≤ k + 1 := by
  induction k generalizing n with
  | zero =>
      rw [Nat.toDigits_of_lt_base (by simpa using h)]
      exact Nat.le_refl 1
  | succ k ih =>
      rw [Nat.toDigits_eq_if (by decide)]
      split
      · exact Nat.succ_le_succ (Nat.zero_le _)
      · rw [List.length_append]
        refine Nat.succ_le_succ (ih ?_)
        rw [Nat.div_lt_iff_lt_mul (by decide)]
        rwa [Nat.pow_succ] at h

theorem readNumber_hexGroup (group : BitVec 16) {rest : List Char}
    (hrest : ∀ c ∈ rest.head?, isDigit 16 c = false) :
    readNumber 16 4 65536 true (hexGroup group ++ rest) = some (group.toNat, rest) := by
  have hdigits : ∀ c ∈ hexGroup group, isDigit 16 c = true := by
    intro c hc
    obtain ⟨d, rfl⟩ := exists_digit_of_mem_toDigits hc
    rw [isDigit, toDigit_digitChar]
    rfl
  have hvalue : numeral 16 (hexGroup group) = group.toNat := numeral_toDigits _
  have h := @readNumber_of_digits 16 4 65536 true (hexGroup group) rest hdigits
    Nat.toDigits_ne_nil (length_toDigits_le 3 group.isLt) (hvalue ▸ group.isLt) nofun hrest
  rwa [hvalue] at h

/-! ## Groups that are read -/

/-- Digits without a dot behind them begin no IPv4 address. -/
theorem readIpv4Addr_of_head {s : List Char}
    (h : (s.dropWhile (isDigit 10)).head? ≠ some '.') : readIpv4Addr s = none := by
  cases hread : readOctet true s with
  | none =>
      rw [readIpv4Addr, hread]
      rfl
  | some read =>
      have hsplit : s.drop (s.takeWhile (isDigit 10)).length = s.dropWhile (isDigit 10) := by
        have hdrop : (s.takeWhile (isDigit 10) ++ s.dropWhile (isDigit 10)).drop
            (s.takeWhile (isDigit 10)).length = s.dropWhile (isDigit 10) := List.drop_left
        rwa [List.takeWhile_append_dropWhile] at hdrop
      have hrest : read.2 = s.dropWhile (isDigit 10) := by
        rw [readOctet, readSeparator, if_pos rfl, readNumber] at hread
        split at hread
        · cases hread
        · cases hread
          exact hsplit
      have hsecond : readOctet false read.2 = none := by
        rw [hrest, readOctet, readSeparator]
        cases hdrop : s.dropWhile (isDigit 10) with
        | nil => rfl
        | cons c rest =>
            rw [hdrop] at h
            have hdot : readGivenChar '.' (c :: rest) = none :=
              if_neg fun hc => h (congrArg some hc)
            rw [hdot]
            rfl
      rw [readIpv4Addr, hread]
      change (readOctet false read.2).bind _ = none
      rw [hsecond]
      rfl

/-- What can stand behind groups: the end, or `::`. -/
def Ends6 (rest : List Char) : Prop :=
  rest = [] ∨ ∃ more, rest = ':' :: ':' :: more

theorem isDigit_head_of_colon {radix : Nat} (h : isDigit radix ':' = false) {rest : List Char}
    (hrest : rest.head? = none ∨ rest.head? = some ':') :
    ∀ c ∈ rest.head?, isDigit radix c = false := by
  intro c hc
  rcases hrest with hnone | hcolon
  · rw [hnone] at hc
    cases hc
  · rw [hcolon] at hc
    cases hc
    exact h

theorem Ends6.head {rest : List Char} (h : Ends6 rest) :
    rest.head? = none ∨ rest.head? = some ':' := by
  rcases h with rfl | ⟨more, rfl⟩
  · exact .inl rfl
  · exact .inr rfl

theorem readIpv4Addr_hexGroup (group : BitVec 16) {rest : List Char}
    (hrest : rest.head? = none ∨ rest.head? = some ':') :
    readIpv4Addr (hexGroup group ++ rest) = none := by
  refine readIpv4Addr_of_head fun hdot => ?_
  rw [List.dropWhile_append] at hdot
  split at hdot
  · have hstop : rest.dropWhile (isDigit 10) = rest := by
      rcases rest with _ | ⟨c, rest⟩
      · rfl
      · rcases hrest with hnone | hcolon
        · cases hnone
        · cases hcolon
          rfl
    rw [hstop] at hdot
    rcases hrest with hnone | hcolon
    · rw [hnone] at hdot
      cases hdot
    · rw [hcolon] at hdot
      cases hdot
  · next hmore =>
      have hmem : '.' ∈ hexGroup group := by
        refine (List.dropWhile_sublist (isDigit 10)).subset ?_
        cases hdrop : (hexGroup group).dropWhile (isDigit 10) with
        | nil => exact absurd (by rw [hdrop]; rfl) hmore
        | cons c digits =>
            rw [hdrop] at hdot
            cases hdot
            exact List.mem_cons_self
      obtain ⟨d, hd⟩ := exists_digit_of_mem_toDigits hmem
      exact absurd hd.symm (by revert d; decide)

theorem readGroups_stop (left : Nat) {rest : List Char} (hrest : Ends6 rest) :
    readGroups left false rest = ([], false, rest) := by
  cases left with
  | zero => rfl
  | succ left =>
      rcases hrest with rfl | ⟨more, rfl⟩
      · exact readGroups_end rfl rfl
      · have hipv4 : readSeparator ':' false readIpv4Addr (':' :: ':' :: more) = none :=
          readIpv4Addr_cons (show isDigit 10 ':' = false by decide) more
        exact readGroups_end hipv4 rfl

theorem readGroups_nil (left : Nat) {rest : List Char} (hrest : Ends6 rest) :
    readGroups left true rest = ([], false, rest) := by
  cases left with
  | zero => rfl
  | succ left =>
      rcases hrest with rfl | ⟨more, rfl⟩
      · exact readGroups_end rfl rfl
      · have hipv4 : readSeparator ':' true readIpv4Addr (':' :: ':' :: more) = none :=
          readIpv4Addr_cons (show isDigit 10 ':' = false by decide) _
        exact readGroups_end hipv4 rfl

/-- The separator in front of a group that is not the first. -/
def colonUnless (first : Bool) : List Char :=
  if first then [] else [':']

theorem readSeparator_colonUnless {A : Type} (first : Bool)
    (inner : List Char → Option (A × List Char)) (s : List Char) :
    readSeparator ':' first inner (colonUnless first ++ s) = inner s := by
  cases first <;> rfl

/-- Groups that are printed are read back. -/
theorem readGroups_fmtSubslice {left : Nat} {first : Bool} {group : BitVec 16}
    {groups : List (BitVec 16)} {rest : List Char} (hroom : groups.length < left)
    (hrest : Ends6 rest) :
    readGroups left first (colonUnless first ++ (fmtSubslice (group :: groups) ++ rest)) =
      (group :: groups, false, rest) := by
  induction groups generalizing left first group with
  | nil =>
      obtain ⟨left, rfl⟩ := Nat.exists_eq_add_one.mpr hroom
      have hread := readNumber_hexGroup group (isDigit_head_of_colon (by decide) hrest.head)
      rw [fmtSubslice, readGroups_group ((readSeparator_colonUnless first _ _).trans
        (readIpv4Addr_hexGroup group hrest.head))
        ((readSeparator_colonUnless first _ _).trans hread), readGroups_stop left hrest,
        BitVec.ofNat_toNat, BitVec.setWidth_eq]
  | cons next groups ih =>
      obtain ⟨left, rfl⟩ := Nat.exists_eq_add_one.mpr (Nat.zero_lt_of_lt hroom)
      have hhead : (':' :: (fmtSubslice (next :: groups) ++ rest)).head? = none ∨
          (':' :: (fmtSubslice (next :: groups) ++ rest)).head? = some ':' := .inr rfl
      have hread := readNumber_hexGroup group (isDigit_head_of_colon (by decide) hhead)
      have htext : fmtSubslice (group :: next :: groups) ++ rest =
          hexGroup group ++ (':' :: (fmtSubslice (next :: groups) ++ rest)) := by
        rw [fmtSubslice, List.append_assoc, List.cons_append]
      have hnext : readGroups left false (':' :: (fmtSubslice (next :: groups) ++ rest)) =
          (next :: groups, false, rest) := @ih left false next (Nat.lt_of_succ_lt_succ hroom)
      rw [htext, readGroups_group ((readSeparator_colonUnless first _ _).trans
        (readIpv4Addr_hexGroup group hhead))
        ((readSeparator_colonUnless first _ _).trans hread), BitVec.ofNat_toNat,
        BitVec.setWidth_eq, hnext]

theorem readGroups_first {left : Nat} {groups : List (BitVec 16)} {rest : List Char}
    (hroom : groups.length ≤ left) (hrest : Ends6 rest) :
    readGroups left true (fmtSubslice groups ++ rest) = (groups, false, rest) := by
  cases groups with
  | nil => exact readGroups_nil left hrest
  | cons group groups => exact readGroups_fmtSubslice hroom hrest

theorem readIpv4Addr_fmtSubslice (groups : List (BitVec 16)) {rest : List Char}
    (hrest : Ends6 rest) : readIpv4Addr (fmtSubslice groups ++ rest) = none := by
  match groups with
  | [] =>
      rcases hrest with rfl | ⟨more, rfl⟩
      · rfl
      · exact readIpv4Addr_cons (by decide) _
  | [group] => exact readIpv4Addr_hexGroup group hrest.head
  | group :: next :: groups =>
      rw [fmtSubslice, List.append_assoc]
      exact readIpv4Addr_hexGroup group (.inr rfl)

/-! ## Runs of zeros -/

/-- The groups of a run are zeros. -/
def Zeros (groups : List (BitVec 16)) (span : Span) : Prop :=
  span.start + span.len ≤ groups.length ∧
    (groups.drop span.start).take span.len = List.replicate span.len 0

theorem zeros_empty (groups : List (BitVec 16)) : Zeros groups ⟨0, 0⟩ :=
  ⟨Nat.zero_le _, rfl⟩

theorem Zeros.append {groups : List (BitVec 16)} {span : Span} (h : Zeros groups span)
    (more : List (BitVec 16)) : Zeros (groups ++ more) span := by
  refine ⟨?_, ?_⟩
  · rw [List.length_append]
    exact Nat.le_add_right_of_le h.1
  · rw [List.drop_append_of_le_length (Nat.le_of_add_right_le h.1),
      List.take_append_of_le_length, h.2]
    rw [List.length_drop]
    exact Nat.le_sub_of_add_le' h.1

/-- A run up to the end grows by a zero. -/
theorem Zeros.extend {groups : List (BitVec 16)} {span : Span} (h : Zeros groups span)
    (hend : span.start + span.len = groups.length) :
    Zeros (groups ++ [0]) ⟨span.start, span.len + 1⟩ := by
  have hlen : (groups.drop span.start).length = span.len := by
    rw [List.length_drop, ← hend, Nat.add_sub_cancel_left]
  have hall : groups.drop span.start = List.replicate span.len 0 := by
    rw [← h.2, ← hlen, List.take_length]
  refine ⟨?_, ?_⟩
  · rw [List.length_append, ← hend]
    exact Nat.le_refl _
  · rw [List.drop_append_of_le_length (Nat.le_of_add_right_le h.1), hall, List.take_of_length_le]
    · exact List.replicate_succ'.symm
    · rw [List.length_append, List.length_replicate]
      exact Nat.le_refl _

theorem zeros_longestZeros (rest before : List (BitVec 16)) {longest current : Span}
    (hlongest : Zeros before longest) (hcurrent : Zeros before current)
    (hend : current.len ≠ 0 → current.start + current.len = before.length) :
    Zeros (before ++ rest) (longestZeros rest before.length longest current) := by
  induction rest generalizing before longest current with
  | nil => rwa [List.append_nil]
  | cons group rest ih =>
      have hsplit : before ++ group :: rest = (before ++ [group]) ++ rest := by simp
      have hlen : before.length + 1 = (before ++ [group]).length := by
        rw [List.length_append]
        rfl
      rw [hsplit, longestZeros, hlen]
      split
      · next hzero =>
          subst hzero
          have hnext : Zeros (before ++ [0])
              ⟨if current.len = 0 then before.length else current.start, current.len + 1⟩ := by
            split
            · next hfirst =>
                have hfresh : Zeros before ⟨before.length, 0⟩ := ⟨Nat.le_refl _, rfl⟩
                rw [hfirst]
                exact hfresh.extend rfl
            · next hmore => exact hcurrent.extend (hend hmore)
          have hborder : (if current.len = 0 then before.length else current.start) +
              (current.len + 1) = (before ++ [0]).length := by
            rw [← hlen]
            split
            · next hfirst => rw [hfirst]
            · next hmore =>
                rw [← hend hmore]
                exact (Nat.add_assoc _ _ _).symm
          refine ih (before ++ [0]) ?_ hnext fun _ => hborder
          dsimp only
          split
          · exact hnext
          · exact hlongest.append [0]
      · exact ih (before ++ [group]) (hlongest.append _) (zeros_empty _) fun h => absurd rfl h

/-! ## Addresses -/

theorem length_segments (ip : BitVec 128) : (segments ip).length = 8 := rfl

theorem getLsbD_pushGroup (ip : BitVec 128) (group : BitVec 16) (i : Nat) :
    ((ip <<< 16) ||| group.setWidth 128).getLsbD i =
      if i < 16 then group.getLsbD i else (decide (i < 128) && ip.getLsbD (i - 16)) := by
  rw [BitVec.getLsbD_or, BitVec.getLsbD_shiftLeft, BitVec.getLsbD_setWidth]
  split
  · next h => simp [h, Nat.lt_of_lt_of_le h (by decide : 16 ≤ 128)]
  · next h => simp [h, BitVec.getLsbD_of_ge group i (Nat.not_lt.mp h)]

theorem ofGroups_segments (ip : BitVec 128) : ofGroups (segments ip) = ip := by
  apply BitVec.eq_of_getLsbD_eq
  intro i hi
  simp only [ofGroups, segments, List.range, List.range.loop, List.map_cons, List.map_nil,
    List.foldl_cons, List.foldl_nil, getLsbD_pushGroup, BitVec.getLsbD_extractLsb']
  grind

/-- The last 32 bits are the last two groups. -/
theorem segments_eq_of_mapped {ip : BitVec 128}
    (h : (segments ip).take 6 = [0, 0, 0, 0, 0, 0xffff]) :
    segments ip = [0, 0, 0, 0, 0, 0xffff, (ip.extractLsb' 0 32).extractLsb' 16 16,
      (ip.extractLsb' 0 32).extractLsb' 0 16] := by
  have hhigh : (ip.extractLsb' 0 32).extractLsb' 16 16 = ip.extractLsb' 16 16 := by
    apply BitVec.eq_of_getLsbD_eq
    intro i hi
    simp only [BitVec.getLsbD_extractLsb']
    grind
  have hlow : (ip.extractLsb' 0 32).extractLsb' 0 16 = ip.extractLsb' 0 16 := by
    apply BitVec.eq_of_getLsbD_eq
    intro i hi
    simp only [BitVec.getLsbD_extractLsb']
    grind
  have hlast : (segments ip).drop 6 = [ip.extractLsb' 16 16, ip.extractLsb' 0 16] := rfl
  rw [hhigh, hlow, ← List.take_append_drop 6 (segments ip), h, hlast]
  rfl

/-- An address whose groups stop at a `::` goes on with the groups behind it. -/
theorem readIpv6Addr_of_head {s rest : List Char} {head : List (BitVec 16)}
    (hhead : readGroups 8 true s = (head, false, ':' :: ':' :: rest)) (hlen : ¬ head.length = 8) :
    readIpv6Addr s = some (ofGroups (head ++ List.replicate (8 - head.length -
        (readGroups (8 - (head.length + 1)) true rest).1.length) 0 ++
      (readGroups (8 - (head.length + 1)) true rest).1),
        (readGroups (8 - (head.length + 1)) true rest).2.2) := by
  rw [readIpv6Addr, hhead]
  dsimp only
  rw [if_neg hlen, if_neg Bool.false_ne_true]
  rfl

/-- A run of zeros is left out and put back. -/
theorem readIpv6Addr_compressed {groups : List (BitVec 16)} {span : Span}
    (hlen : groups.length = 8) (hzeros : Zeros groups span) (hlong : 1 < span.len) :
    readIpv6Addr (fmtSubslice (groups.take span.start) ++ ':' :: ':' ::
        fmtSubslice (groups.drop (span.start + span.len))) = some (ofGroups groups, []) := by
  obtain ⟨hborder, hrun⟩ := hzeros
  rw [hlen] at hborder
  have hfront : (groups.take span.start).length = span.start := by
    rw [List.length_take, hlen]
    omega
  have hback : (groups.drop (span.start + span.len)).length = 8 - (span.start + span.len) := by
    rw [List.length_drop, hlen]
  have hhead := @readGroups_first 8 (groups.take span.start)
    (':' :: ':' :: fmtSubslice (groups.drop (span.start + span.len)))
    (by rw [hfront]; omega) (.inr ⟨_, rfl⟩)
  have htail := @readGroups_first (8 - (span.start + 1)) (groups.drop (span.start + span.len)) []
    (by rw [hback]; omega) (.inl rfl)
  rw [List.append_nil] at htail
  have hnot : ¬ (groups.take span.start).length = 8 := by
    rw [hfront]
    omega
  have hfill : 8 - span.start - (groups.drop (span.start + span.len)).length = span.len := by
    rw [hback]
    omega
  have hwhole : groups.take span.start ++ List.replicate span.len 0 ++
      groups.drop (span.start + span.len) = groups := by
    rw [← hrun, List.append_assoc, ← List.drop_drop, List.take_append_drop, List.take_append_drop]
  rw [readIpv6Addr_of_head hhead hnot, hfront, htail]
  dsimp only
  rw [hfill, hwhole]

theorem readIpv6Addr_plain {groups : List (BitVec 16)} (hlen : groups.length = 8) :
    readIpv6Addr (fmtSubslice groups) = some (ofGroups groups, []) := by
  have hhead := @readGroups_first 8 groups [] (Nat.le_of_eq hlen) (.inl rfl)
  rw [List.append_nil] at hhead
  rw [readIpv6Addr, hhead]
  exact if_pos hlen

/-- What is printed is read back. -/
theorem parseIpAddr_displayIpAddr (ip : IpAddr) : parseIpAddr (displayIpAddr ip) = some ip := by
  cases ip with
  | v4 ip => exact parseIpAddr_dotted ip
  | v6 ip =>
      rw [displayIpAddr, display6]
      split
      · next hmapped =>
          rw [parseIpAddr_mapped, ← segments_eq_of_mapped hmapped, ofGroups_segments]
      · dsimp only
        split
        · next hlong =>
            have hzeros : Zeros ([] ++ segments ip)
                (longestZeros (segments ip) 0 ⟨0, 0⟩ ⟨0, 0⟩) :=
              zeros_longestZeros (segments ip) [] (zeros_empty _) (zeros_empty _)
                fun h => absurd rfl h
            rw [parseIpAddr, readIpAddr, readIpv4Addr_fmtSubslice _ (.inr ⟨_, rfl⟩),
              readIpv6Addr_compressed (length_segments ip) hzeros hlong, ofGroups_segments]
            rfl
        · have hipv4 := @readIpv4Addr_fmtSubslice (segments ip) [] (.inl rfl)
          rw [List.append_nil] at hipv4
          rw [parseIpAddr, readIpAddr, hipv4, readIpv6Addr_plain (length_segments ip),
            ofGroups_segments]
          rfl

theorem displayIpAddr_injective : Function.Injective displayIpAddr := by
  intro a b h
  have hparse := parseIpAddr_displayIpAddr a
  rw [h, parseIpAddr_displayIpAddr b] at hparse
  exact (Option.some.inj hparse).symm

/-! ## Characters -/

/-- The characters of which addresses are made. -/
def isAddrChar (c : Char) : Bool :=
  isDigit 16 c || c == ':' || c == '.'

theorem toNat_of_isAddrChar {c : Char} (h : isAddrChar c = true) :
    46 ≤ c.toNat ∧ c.toNat ≤ 102 ∧ c.toNat ≠ 47 := by
  have hle : ∀ a b : Char, a ≤ b ↔ a.toNat ≤ b.toNat := fun a b => Iff.rfl
  simp only [isAddrChar, isDigit, toDigit, Bool.or_eq_true, beq_iff_eq, hle] at h
  rcases h with (h | rfl) | rfl
  · grind
  · decide
  · decide

theorem isAddrChar_of_mem_hexGroup {group : BitVec 16} {c : Char} (h : c ∈ hexGroup group) :
    isAddrChar c = true := by
  obtain ⟨d, rfl⟩ := exists_digit_of_mem_toDigits h
  rw [isAddrChar, isDigit, toDigit_digitChar]
  rfl

theorem isAddrChar_of_mem_fmtSubslice {groups : List (BitVec 16)} {c : Char}
    (h : c ∈ fmtSubslice groups) : isAddrChar c = true := by
  induction groups using fmtSubslice.induct with
  | case1 => cases h
  | case2 group => exact isAddrChar_of_mem_hexGroup h
  | case3 group next rest ih =>
      rw [fmtSubslice] at h
      rcases List.mem_append.mp h with h | h
      · exact isAddrChar_of_mem_hexGroup h
      · rcases List.mem_cons.mp h with rfl | h
        · rfl
        · exact ih h

theorem isAddrChar_of_mem_decimal : ∀ n : Fin 256, (decimal n).all isAddrChar = true := by
  decide +kernel

theorem isAddrChar_of_mem_dotted {ip : BitVec 32} {c : Char} (h : c ∈ dotted ip) :
    isAddrChar c = true := by
  have hdecimal : ∀ n : Fin 256, c ∈ decimal n → isAddrChar c = true := fun n hc =>
    List.all_eq_true.mp (isAddrChar_of_mem_decimal n) c hc
  rw [dotted] at h
  simp only [List.mem_append, List.mem_cons] at h
  rcases h with h | rfl | h | rfl | h | rfl | h
  · exact hdecimal _ h
  · rfl
  · exact hdecimal _ h
  · rfl
  · exact hdecimal _ h
  · rfl
  · exact hdecimal _ h

theorem isAddrChar_of_mem_displayIpAddr {ip : IpAddr} {c : Char} (h : c ∈ displayIpAddr ip) :
    isAddrChar c = true := by
  cases ip with
  | v4 ip => exact isAddrChar_of_mem_dotted h
  | v6 ip =>
      rw [displayIpAddr, display6] at h
      split at h
      · simp only [List.mem_cons] at h
        rcases h with rfl | rfl | rfl | rfl | rfl | rfl | rfl | h
        all_goals first | rfl | exact isAddrChar_of_mem_dotted h
      · dsimp only at h
        split at h
        · simp only [List.mem_append, List.mem_cons] at h
          rcases h with h | rfl | rfl | h
          · exact isAddrChar_of_mem_fmtSubslice h
          · rfl
          · rfl
          · exact isAddrChar_of_mem_fmtSubslice h
        · exact isAddrChar_of_mem_fmtSubslice h

end IpText
end Net
end XdpFirewall
