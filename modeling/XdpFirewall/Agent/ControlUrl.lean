import XdpFirewall.Lib.SplitOnce
import XdpFirewall.Net.HostNet
import XdpFirewall.Net.IpRead
import XdpFirewall.Policy.Compile

/-!
# ControlUrl — the address of the control plane in the agent's URL

The agent has a reader of its own that looks for the host in the URL as it was given, with the
blanks around it. Here the URL is taken apart as the syntax of URLs has it, to say when the reader
finds the address that stands in the place of the host.
-/

namespace XdpFirewall
namespace Agent

open Lib Net Net.IpText Policy

/-! ## The reader -/

def http : List Char := ['h', 't', 't', 'p', ':', '/', '/']

def https : List Char := ['h', 't', 't', 'p', 's', ':', '/', '/']

/-- The digits of a number below 2¹⁶. -/
def readU16 (value : Nat) : List Char → Except String Nat
  | [] => .ok value
  | c :: rest =>
      match toDigit 10 c with
      | none => .error "invalid digit found in string"
      | some digit =>
          if 65535 < value * 10 + digit then
            .error "number too large to fit in target type"
          else
            readU16 (value * 10 + digit) rest

/-- `str::parse::<u16>` -/
def parseU16 : List Char → Except String Nat
  | [] => .error "cannot parse integer from empty string"
  | ['+'] => .error "invalid digit found in string"
  | '+' :: rest => readU16 0 rest
  | s => readU16 0 s

def bracketedHostPort (authority : List Char) : Except String (List Char × Nat) :=
  match splitOnce ']' authority with
  | none => .error "invalid bracketed IPv6 xDS control URL host"
  | some (host, ':' :: port) => (parseU16 port).map fun port => (host, port)
  | some (host, _) => .ok (host, 50051)

def unbracketedHostPort (authority : List Char) : Except String (List Char × Nat) :=
  match rsplitOnce ':' authority with
  | none => .ok (authority, 50051)
  | some (host, port) =>
      match parseU16 port with
      | .error _ => .error "invalid xDS control URL port"
      | .ok port => .ok (host, port)

def withoutScheme (controlUrl : List Char) : List Char :=
  ((http.isPrefixOf? controlUrl).or (https.isPrefixOf? controlUrl)).getD controlUrl

def controlPlaneHostPort (controlUrl : List Char) : Except String (List Char × Nat) :=
  match (withoutScheme controlUrl).takeWhile fun c => c ≠ '/' with
  | [] => .error "xDS control URL is missing a host"
  | '[' :: host => bracketedHostPort host
  | authority => unbracketedHostPort authority

/-- Names are not resolved, so that no answer of a name server is trusted. -/
def resolveControlPlanePrefixes (controlUrl : List Char) : Except String (List IpNet) :=
  (controlPlaneHostPort controlUrl).map fun (host, _) =>
    match parseIpAddr host with
    | some ip => [hostNet ip]
    | none => []

/-! ## What the reader finds -/

def Finds (answer : Except String (List Char × Nat)) (ip : IpAddr) : Prop :=
  ∃ host port, answer = .ok (host, port) ∧ parseIpAddr host = some ip

def IsPort (text : List Char) : Prop :=
  ∃ port, parseU16 text = .ok port

/-- A character that neither an address nor a port has. -/
def OutsideHostPort (c : Char) : Prop :=
  isAddrChar c = false ∧ c ≠ '+'

theorem isDigit_of_readU16 {value n : Nat} {s : List Char} (h : readU16 value s = .ok n) :
    ∀ c ∈ s, isDigit 10 c = true := by
  induction s generalizing value with
  | nil => exact nofun
  | cons c rest ih =>
      rw [readU16] at h
      cases hdigit : toDigit 10 c with
      | none =>
          rw [hdigit] at h
          cases h
      | some digit =>
          rw [hdigit] at h
          dsimp only at h
          split at h
          · cases h
          · intro c' hc'
            rcases List.mem_cons.mp hc' with rfl | hc'
            · rw [isDigit, hdigit]
              rfl
            · exact ih h c' hc'

theorem IsPort.char {s : List Char} (h : IsPort s) : ∀ c ∈ s, c = '+' ∨ isDigit 10 c = true := by
  obtain ⟨port, h⟩ := h
  rw [parseU16.eq_def] at h
  split at h
  · cases h
  · cases h
  · intro c hc
    rcases List.mem_cons.mp hc with rfl | hc
    · exact .inl rfl
    · exact .inr (isDigit_of_readU16 h c hc)
  · exact fun c hc => .inr (isDigit_of_readU16 h c hc)

theorem not_isPort_nil : ¬ IsPort [] := by
  rintro ⟨port, h⟩
  cases h

theorem not_isPort {s : List Char} {c : Char} (hc : c ∈ s) (hplus : c ≠ '+')
    (hdigit : isDigit 10 c = false) : ¬ IsPort s := by
  intro h
  rcases h.char c hc with rfl | h
  · exact hplus rfl
  · rw [hdigit] at h
    cases h

theorem OutsideHostPort.not_isPort {s : List Char} {c : Char} (h : OutsideHostPort c)
    (hc : c ∈ s) : ¬ IsPort s := by
  refine Agent.not_isPort hc h.2 ?_
  cases hdigit : isDigit 10 c with
  | false => rfl
  | true =>
      have hchar := isAddrChar_of_isDigit10 hdigit
      rw [h.1] at hchar
      cases hchar

theorem OutsideHostPort.parseIpAddr {s : List Char} {c : Char} (h : OutsideHostPort c)
    (hc : c ∈ s) : parseIpAddr s = none :=
  parseIpAddr_eq_none hc h.1

theorem outsideHostPort_at : OutsideHostPort '@' := by
  constructor <;> decide

theorem outsideHostPort_query : OutsideHostPort '?' := by
  constructor <;> decide

theorem outsideHostPort_fragment : OutsideHostPort '#' := by
  constructor <;> decide

theorem outsideHostPort_of_isWhitespace {c : Char} (h : isWhitespace c = true) :
    OutsideHostPort c := by
  constructor
  · cases hchar : isAddrChar c with
    | false => rfl
    | true =>
        -- Addresses are written in characters from the point to the letter f.
        have hrange := toNat_of_isAddrChar hchar
        simp only [isWhitespace, Bool.or_eq_true, Bool.and_eq_true, decide_eq_true_eq,
          beq_iff_eq] at h
        omega
  · rintro rfl
    exact absurd h (by decide)

section Finds

variable {ip : IpAddr}

theorem finds_bracketed_iff {inner after : List Char} (h : ']' ∉ inner) :
    Finds (bracketedHostPort (inner ++ ']' :: after)) ip ↔
      parseIpAddr inner = some ip ∧ ∀ port, after = ':' :: port → IsPort port := by
  have hsplit := splitOnce_append_cons h after
  rw [bracketedHostPort, hsplit]
  split
  next hnone => cases hnone
  next host port hsome =>
    cases hsome
    constructor
    · rintro ⟨host, port', hport, hip⟩
      cases hparse : parseU16 port with
      | error e =>
          rw [hparse] at hport
          cases hport
      | ok value =>
          rw [hparse] at hport
          cases hport
          refine ⟨hip, fun port' heq => ?_⟩
          cases heq
          exact ⟨_, hparse⟩
    · rintro ⟨hip, hport⟩
      obtain ⟨value, hvalue⟩ := hport port rfl
      exact ⟨_, value, by rw [hvalue]; rfl, hip⟩
  next host after' hother hsome =>
    cases hsome
    constructor
    · rintro ⟨host, port, hok, hip⟩
      cases hok
      exact ⟨hip, fun port heq => absurd heq (hother port)⟩
    · rintro ⟨hip, -⟩
      exact ⟨_, _, rfl, hip⟩

theorem not_finds_bracketed {authority : List Char} (h : ']' ∉ authority) :
    ¬ Finds (bracketedHostPort authority) ip := by
  rw [bracketedHostPort, splitOnce_of_notMem h]
  rintro ⟨host, port, hok, -⟩
  cases hok

theorem finds_unbracketed_iff {front back : List Char} (h : ':' ∉ back) :
    Finds (unbracketedHostPort (front ++ ':' :: back)) ip ↔
      parseIpAddr front = some ip ∧ IsPort back := by
  rw [unbracketedHostPort, rsplitOnce_append_cons h]
  dsimp only
  cases hparse : parseU16 back with
  | error e =>
      constructor
      · rintro ⟨host, port, hok, -⟩
        cases hok
      · rintro ⟨-, port, hport⟩
        rw [hparse] at hport
        cases hport
  | ok value =>
      constructor
      · rintro ⟨host, port, hok, hip⟩
        cases hok
        exact ⟨hip, value, hparse⟩
      · rintro ⟨hip, -⟩
        exact ⟨front, value, rfl, hip⟩

theorem finds_unbracketed_iff_of_notMem {authority : List Char} (h : ':' ∉ authority) :
    Finds (unbracketedHostPort authority) ip ↔ parseIpAddr authority = some ip := by
  have hnone : rsplitOnce ':' authority = none := by
    rcases rsplitOnce_cases ':' authority with ⟨-, hnone⟩ | ⟨front, back, rfl, -, -⟩
    · exact hnone
    · exact absurd (List.mem_append_right _ List.mem_cons_self) h
  rw [unbracketedHostPort, hnone]
  constructor
  · rintro ⟨host, port, hok, hip⟩
    cases hok
    exact hip
  · intro hip
    exact ⟨_, _, rfl, hip⟩

/-- A character of neither is part of the host or of the port. -/
theorem not_finds_unbracketed {authority : List Char} {c : Char} (hchar : OutsideHostPort c)
    (hc : c ∈ authority) : ¬ Finds (unbracketedHostPort authority) ip := by
  rcases rsplitOnce_cases ':' authority with ⟨hfree, -⟩ | ⟨front, back, rfl, hfree, -⟩
  · rw [finds_unbracketed_iff_of_notMem hfree, hchar.parseIpAddr hc]
    exact nofun
  · rw [finds_unbracketed_iff hfree]
    rintro ⟨hip, hport⟩
    rcases List.mem_append.mp hc with hfront | hback
    · rw [hchar.parseIpAddr hfront] at hip
      cases hip
    · rcases List.mem_cons.mp hback with rfl | hback
      · exact absurd hchar.1 (by decide)
      · exact hchar.not_isPort hback hport

end Finds

/-! ## URLs in their parts -/

/-- A URL with a host. A port, if there is one, makes up the tail of the authority; the rest is
path, query and fragment. -/
structure Url where
  secure : Bool
  userinfo : Option (List Char)
  host : List Char
  tail : List Char
  rest : List Char
  authority_free : ∀ c ∈ userinfo.getD [] ++ (host ++ tail), c ≠ '/' ∧ c ≠ '?' ∧ c ≠ '#'
  at_free : '@' ∉ host ++ tail
  tail_port : host.head? ≠ some '[' → tail = [] ∨ tail.head? = some ':'
  rest_start : ∀ c ∈ rest.head?, c = '/' ∨ c = '?' ∨ c = '#'

def Url.scheme (url : Url) : List Char :=
  if url.secure then https else http

def Url.authority (url : Url) : List Char :=
  match url.userinfo with
  | none => url.host ++ url.tail
  | some userinfo => userinfo ++ '@' :: (url.host ++ url.tail)

def Url.text (url : Url) : List Char :=
  url.scheme ++ (url.authority ++ url.rest)

/-- A URL with blanks around it. -/
structure GivenUrl where
  lead : List Char
  url : Url
  trail : List Char
  lead_blank : ∀ c ∈ lead, isWhitespace c = true
  trail_blank : ∀ c ∈ trail, isWhitespace c = true

/-- The host is an IPv4 address, or an IPv6 address in brackets. -/
inductive Literal : List Char → IpAddr → Prop
  | v4 {text : List Char} {ip : BitVec 32} (h : parseIpAddr text = some (.v4 ip)) :
      Literal text (.v4 ip)
  | v6 {text : List Char} {ip : BitVec 128} (h : parseIpAddr text = some (.v6 ip)) :
      Literal ('[' :: (text ++ [']'])) (.v6 ip)

def GivenUrl.text (w : GivenUrl) : List Char :=
  w.lead ++ (w.url.text ++ w.trail)

section GivenUrl

variable (w : GivenUrl)

/-- What stands behind the authority and before the next slash. -/
def GivenUrl.behind : List Char :=
  (w.url.rest ++ w.trail).takeWhile fun c => c ≠ '/'

def GivenUrl.PlainAuthority (ip : IpAddr) : Prop :=
  match ip with
  | .v4 _ => w.behind = [] ∧ (w.url.tail = [] ∨ ∃ port, w.url.tail = ':' :: port ∧ IsPort port)
  | .v6 _ => ∀ port, w.url.tail = ':' :: port → w.behind = [] ∧ IsPort port

/-- The scheme comes first and the host is next to it, a port is a number, and the authority ends
with a slash or with the URL; behind an IPv6 address without a port anything may follow. User
information is only passed over when it begins with the address in brackets itself. -/
def GivenUrl.Plain (ip : IpAddr) : Prop :=
  w.lead = [] ∧
    match w.url.userinfo with
    | none => w.PlainAuthority ip
    | some userinfo =>
        ∃ inner more, userinfo = '[' :: (inner ++ ']' :: more) ∧ ']' ∉ inner ∧
          more.head? ≠ some ':' ∧ parseIpAddr inner = some ip

theorem withoutScheme_scheme (url : Url) (s : List Char) :
    withoutScheme (url.scheme ++ s) = s := by
  rw [Url.scheme]
  split <;> rfl

/-- A blank in front hides the scheme. -/
theorem withoutScheme_blank {c : Char} (hc : isWhitespace c = true) (s : List Char) :
    withoutScheme (c :: s) = c :: s := by
  have hne : ('h' == c) = false := by
    rw [beq_eq_false_iff_ne]
    rintro rfl
    exact absurd hc (by decide)
  rw [withoutScheme, http, https, List.isPrefixOf?, List.isPrefixOf?, hne]
  rfl

theorem slash_notMem_authority (url : Url) : '/' ∉ url.authority := by
  intro hmem
  have hfree : '/' ∉ url.userinfo.getD [] ++ (url.host ++ url.tail) :=
    fun h => (url.authority_free '/' h).1 rfl
  rw [Url.authority] at hmem
  cases huser : url.userinfo with
  | none =>
      rw [huser] at hmem
      exact hfree (List.mem_append_right _ hmem)
  | some userinfo =>
      rw [huser] at hmem hfree
      simp only [List.mem_append, List.mem_cons] at hmem
      rcases hmem with hmem | hslash | hmem
      · exact hfree (List.mem_append_left _ hmem)
      · exact absurd hslash (by decide)
      · exact hfree (List.mem_append_right _ (List.mem_append.mpr hmem))

/-- The first character behind an authority that does not end there. -/
theorem GivenUrl.outsideHostPort_behind {c : Char} {s : List Char} (h : w.behind = c :: s) :
    OutsideHostPort c := by
  rw [GivenUrl.behind] at h
  cases hrest : w.url.rest with
  | nil =>
      rw [hrest, List.nil_append] at h
      have hmem : c ∈ w.trail.takeWhile fun c => c ≠ '/' := by
        rw [h]
        exact List.mem_cons_self
      exact outsideHostPort_of_isWhitespace
        (w.trail_blank c (List.takeWhile_sublist _ |>.subset hmem))
  | cons first rest =>
      rw [hrest, List.cons_append] at h
      have hstart := w.url.rest_start first (by rw [hrest]; rfl)
      rcases hstart with rfl | rfl | rfl
      · cases h
      · rw [List.takeWhile_cons_of_pos (by decide)] at h
        cases h
        exact outsideHostPort_query
      · rw [List.takeWhile_cons_of_pos (by decide)] at h
        cases h
        exact outsideHostPort_fragment

/-- Up to the first slash the reader sees the authority and what follows it. -/
theorem GivenUrl.takeWhile_withoutScheme (h : w.lead = []) :
    ((withoutScheme w.text).takeWhile fun c => c ≠ '/') = w.url.authority ++ w.behind := by
  have hpos : ∀ c ∈ w.url.authority, decide (c ≠ '/') = true := by
    intro c hc
    refine decide_eq_true fun heq => slash_notMem_authority w.url ?_
    rwa [← heq]
  rw [GivenUrl.text, h, List.nil_append, Url.text, List.append_assoc, withoutScheme_scheme,
    List.append_assoc, List.takeWhile_append_of_pos hpos, GivenUrl.behind]

variable {ip : IpAddr}

theorem controlPlaneHostPort_bracketed {text host : List Char}
    (h : ((withoutScheme text).takeWhile fun c => c ≠ '/') = '[' :: host) :
    controlPlaneHostPort text = bracketedHostPort host := by
  rw [controlPlaneHostPort, h]
  rfl

theorem controlPlaneHostPort_unbracketed {text authority : List Char}
    (h : ((withoutScheme text).takeWhile fun c => c ≠ '/') = authority) (hne : authority ≠ [])
    (hbracket : authority.head? ≠ some '[') :
    controlPlaneHostPort text = unbracketedHostPort authority := by
  rw [controlPlaneHostPort, h]
  split
  · exact absurd rfl hne
  · exact absurd rfl hbracket
  · rfl

/-- Behind a blank the scheme passes for a host with an empty port. -/
theorem GivenUrl.not_finds_of_lead (h : w.lead ≠ []) :
    ¬ Finds (controlPlaneHostPort w.text) ip := by
  obtain ⟨c, lead, hlead⟩ := List.exists_cons_of_ne_nil h
  have hblank : ∀ c ∈ w.lead, decide (c ≠ '/') = true := by
    intro c hc
    refine decide_eq_true ?_
    rintro rfl
    exact absurd (w.lead_blank '/' hc) (by decide)
  have hc : isWhitespace c = true := w.lead_blank c (by rw [hlead]; exact List.mem_cons_self)
  have htext : ∃ name rest, w.text = w.lead ++ (name ++ ':' :: '/' :: rest) ∧
      ':' ∉ name ∧ ∀ c ∈ name, decide (c ≠ '/') = true := by
    rw [GivenUrl.text, Url.text, Url.scheme]
    split
    · exact ⟨['h', 't', 't', 'p', 's'], _, rfl, by decide, List.all_eq_true.mp rfl⟩
    · exact ⟨['h', 't', 't', 'p'], _, rfl, by decide, List.all_eq_true.mp rfl⟩
  obtain ⟨name, rest, htext, -, hname⟩ := htext
  -- With a blank before it the scheme is not seen, and its name is taken for a host with no port.
  have hauthority : ((withoutScheme w.text).takeWhile fun c => c ≠ '/') =
      w.lead ++ name ++ ':' :: [] := by
    have hwithout : withoutScheme w.text = w.text := by
      rw [GivenUrl.text, hlead, List.cons_append, withoutScheme_blank hc]
    rw [hwithout, htext, List.takeWhile_append_of_pos hblank, List.takeWhile_append_of_pos hname,
      List.append_assoc]
    rfl
  rw [controlPlaneHostPort_unbracketed hauthority (by simp) ?_,
    finds_unbracketed_iff List.not_mem_nil]
  · exact fun hfinds => not_isPort_nil hfinds.2
  · rw [hlead]
    simp only [List.cons_append, List.head?_cons, ne_eq, Option.some.injEq]
    rintro rfl
    exact absurd hc (by decide)

/-- User information is taken for the host. -/
theorem GivenUrl.finds_userinfo_iff (hlead : w.lead = []) {userinfo : List Char}
    (huser : w.url.userinfo = some userinfo) :
    Finds (controlPlaneHostPort w.text) ip ↔
      ∃ inner more, userinfo = '[' :: (inner ++ ']' :: more) ∧ ']' ∉ inner ∧
        more.head? ≠ some ':' ∧ parseIpAddr inner = some ip := by
  have hauthority : ((withoutScheme w.text).takeWhile fun c => c ≠ '/') =
      userinfo ++ '@' :: (w.url.host ++ w.url.tail ++ w.behind) := by
    rw [w.takeWhile_withoutScheme hlead, Url.authority, huser]
    simp only [List.append_assoc, List.cons_append]
  by_cases hbracket : userinfo.head? = some '['
  · obtain ⟨inside, rfl⟩ : ∃ inside, userinfo = '[' :: inside := by
      cases userinfo with
      | nil => cases hbracket
      | cons c inside => exact ⟨inside, by rw [Option.some.inj hbracket]⟩
    rw [List.cons_append] at hauthority
    rw [controlPlaneHostPort_bracketed hauthority]
    rcases splitOnce_cases ']' inside with ⟨hfree, -⟩ | ⟨inner, more, rfl, hfree, -⟩
    · -- The bracket is closed behind the at sign, if at all.
      refine iff_of_false ?_ ?_
      · rcases splitOnce_cases ']' (w.url.host ++ w.url.tail ++ w.behind) with
          ⟨hrest, -⟩ | ⟨front, back, hrest, hfront, -⟩
        · refine not_finds_bracketed ?_
          simp only [List.mem_append, List.mem_cons, not_or] at hrest ⊢
          exact ⟨hfree, by decide, hrest⟩
        · have hsplit : inside ++ '@' :: (w.url.host ++ w.url.tail ++ w.behind) =
              (inside ++ '@' :: front) ++ ']' :: back := by
            rw [hrest, List.append_assoc, List.cons_append]
          have hinner : ']' ∉ inside ++ '@' :: front := by
            simp only [List.mem_append, List.mem_cons, not_or]
            exact ⟨hfree, by decide, hfront⟩
          rw [hsplit, finds_bracketed_iff hinner, outsideHostPort_at.parseIpAddr (by simp)]
          exact nofun
      · rintro ⟨inner, more, heq, -, -⟩
        refine hfree ?_
        rw [(List.cons.inj heq).2]
        exact List.mem_append_right _ List.mem_cons_self
    · rw [List.append_assoc, List.cons_append, finds_bracketed_iff hfree]
      constructor
      · rintro ⟨hip, hport⟩
        refine ⟨inner, more, rfl, hfree, ?_, hip⟩
        intro hcolon
        obtain ⟨port, rfl⟩ : ∃ port, more = ':' :: port := by
          cases more with
          | nil => cases hcolon
          | cons c port => exact ⟨port, by rw [Option.some.inj hcolon]⟩
        exact outsideHostPort_at.not_isPort (by simp) (hport _ rfl)
      · rintro ⟨inner', more', heq, hfree', hcolon, hip⟩
        have hsame : some (inner, more) = some (inner', more') := by
          rw [← splitOnce_append_cons hfree, ← splitOnce_append_cons hfree', (List.cons.inj heq).2]
        cases hsame
        refine ⟨hip, fun port hport => ?_⟩
        cases more with
        | nil => cases hport
        | cons c more =>
            cases hport
            exact absurd rfl hcolon
  · refine iff_of_false ?_ ?_
    · have hhead :
          (userinfo ++ '@' :: (w.url.host ++ w.url.tail ++ w.behind)).head? ≠ some '[' := by
        cases userinfo with
        | nil => exact fun hat => absurd (Option.some.inj hat) (by decide)
        | cons c userinfo => exact hbracket
      rw [controlPlaneHostPort_unbracketed hauthority (by simp) hhead]
      exact not_finds_unbracketed outsideHostPort_at (by simp)
    · rintro ⟨inner, more, rfl, -⟩
      exact hbracket rfl

theorem GivenUrl.authority_of_none (hlead : w.lead = []) (huser : w.url.userinfo = none) :
    ((withoutScheme w.text).takeWhile fun c => c ≠ '/') =
      w.url.host ++ (w.url.tail ++ w.behind) := by
  rw [w.takeWhile_withoutScheme hlead, Url.authority, huser, List.append_assoc]

theorem GivenUrl.finds_v6_iff (hlead : w.lead = []) (huser : w.url.userinfo = none)
    {text : List Char} {ip : BitVec 128} (hip : parseIpAddr text = some (.v6 ip))
    (hhost : w.url.host = '[' :: (text ++ [']'])) :
    Finds (controlPlaneHostPort w.text) (.v6 ip) ↔ w.PlainAuthority (.v6 ip) := by
  have hauthority := w.authority_of_none hlead huser
  rw [hhost, List.cons_append, List.append_assoc, List.singleton_append] at hauthority
  have hfree : ']' ∉ text := fun hmem =>
    absurd (isAddrChar_of_parseIpAddr hip ']' hmem) (by decide)
  rw [controlPlaneHostPort_bracketed hauthority, finds_bracketed_iff hfree, and_iff_right hip,
    GivenUrl.PlainAuthority]
  constructor
  · intro h port htail
    rw [htail] at h
    have hport : IsPort (port ++ w.behind) := h _ rfl
    cases hbehind : w.behind with
    | nil =>
        rw [hbehind, List.append_nil] at hport
        exact ⟨rfl, hport⟩
    | cons c s =>
        rw [hbehind] at hport
        exact absurd hport ((w.outsideHostPort_behind hbehind).not_isPort (by simp))
  · intro h port hafter
    cases htail : w.url.tail with
    | nil =>
        rw [htail, List.nil_append] at hafter
        exact absurd (w.outsideHostPort_behind hafter).1 (by decide)
    | cons c rest =>
        rw [htail, List.cons_append] at hafter
        obtain ⟨rfl, rfl⟩ := List.cons.inj hafter
        obtain ⟨hbehind, hport⟩ := h rest htail
        rw [hbehind, List.append_nil]
        exact hport

theorem GivenUrl.finds_v4_iff (hlead : w.lead = []) (huser : w.url.userinfo = none)
    {ip : BitVec 32} (hhost : w.url.host = dotted ip) :
    Finds (controlPlaneHostPort w.text) (.v4 ip) ↔ w.PlainAuthority (.v4 ip) := by
  have hauthority := w.authority_of_none hlead huser
  have hbracket : (dotted ip).head? ≠ some '[' := fun h =>
    absurd (isAddrChar_of_mem_dotted (List.mem_of_mem_head? h)) (by decide)
  have hhead : ((dotted ip) ++ (w.url.tail ++ w.behind)).head? ≠ some '[' := by
    rwa [List.head?_append_of_ne_nil _ (dotted_ne_nil ip)]
  rw [hhost] at hauthority
  rw [controlPlaneHostPort_unbracketed hauthority (by simp [dotted_ne_nil]) hhead,
    GivenUrl.PlainAuthority]
  cases hbehind : w.behind with
  | cons c s =>
      refine iff_of_false ?_ (fun h => nomatch h.1)
      exact not_finds_unbracketed (w.outsideHostPort_behind hbehind) (by simp)
  | nil =>
      rw [List.append_nil, and_iff_right rfl]
      cases htail : w.url.tail with
      | nil =>
          rw [List.append_nil, finds_unbracketed_iff_of_notMem (colon_notMem_dotted ip)]
          exact iff_of_true (parseIpAddr_dotted ip) (.inl rfl)
      | cons c port =>
          have hcolon : c = ':' := by
            rcases w.url.tail_port (by rwa [hhost]) with hnil | hfirst
            · rw [htail] at hnil
              cases hnil
            · rw [htail] at hfirst
              exact Option.some.inj hfirst
          subst hcolon
          have hright : ((':' :: port = []) ∨ ∃ port', ':' :: port = ':' :: port' ∧ IsPort port') ↔
              IsPort port := by
            constructor
            · rintro (hnil | ⟨port', heq, hport⟩)
              · cases hnil
              · rwa [(List.cons.inj heq).2]
            · exact fun hport => .inr ⟨port, rfl, hport⟩
          rw [hright]
          rcases rsplitOnce_cases ':' port with ⟨hfree, -⟩ | ⟨front, back, rfl, hfree, -⟩
          · rw [finds_unbracketed_iff hfree, and_iff_right (parseIpAddr_dotted ip)]
          · -- With a second colon neither the host nor the port can be read.
            have hsplit : dotted ip ++ ':' :: (front ++ ':' :: back) =
                (dotted ip ++ ':' :: front) ++ ':' :: back := by
              rw [List.append_assoc, List.cons_append]
            rw [hsplit, finds_unbracketed_iff hfree, parseIpAddr_dotted_append (by decide)]
            exact iff_of_false (fun h => nomatch h.1)
              (not_isPort (List.mem_append_right _ List.mem_cons_self) (by decide) (by decide))

/-- The agent's own reader finds the host of a plain URL, and of no other. -/
theorem GivenUrl.finds_iff (hliteral : Literal w.url.host ip) :
    Finds (controlPlaneHostPort w.text) ip ↔ w.Plain ip := by
  rw [GivenUrl.Plain]
  by_cases hlead : w.lead = []
  · rw [and_iff_right hlead]
    cases huser : w.url.userinfo with
    | some userinfo => exact w.finds_userinfo_iff hlead huser
    | none =>
        dsimp only
        generalize hhost : w.url.host = host at hliteral
        cases hliteral with
        | v4 h => exact w.finds_v4_iff hlead huser (hhost.trans (parseIpAddr_v4_iff.mp h))
        | v6 h => exact w.finds_v6_iff hlead huser h hhost
  · exact iff_of_false (w.not_finds_of_lead hlead) fun h => hlead h.1

end GivenUrl

end Agent
end XdpFirewall
