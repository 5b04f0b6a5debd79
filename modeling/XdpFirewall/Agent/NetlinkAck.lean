import XdpFirewall.Agent.DropEvents
import XdpFirewall.BtmpMonitor.Btmp
import XdpFirewall.Lib.Outcome

/-!
# NetlinkAck — the answer of the kernel to the replacement of a program

The kernel answers on a netlink socket with messages of which each says how long it is. The parser
goes from one to the next and stops at the first acknowledgement. What was received fills the front
of a buffer, and behind it are whatever bytes the buffer had before.
-/

namespace XdpFirewall
namespace Agent
namespace NetlinkAck

open BtmpMonitor Bpf Lib Policy

abbrev I32 := BitVec 32

/-! ## The parser -/

def nlmsgError : U16 := 2

/-- `size_of::<libc::nlmsghdr>()` -/
def headerLen : Nat := 16

/-- The fields of `libc::nlmsghdr` that the parser looks at. -/
structure Nlmsghdr where
  nlmsgLen : U32
  nlmsgType : U16
  deriving DecidableEq

/-- What a run of the parser did: where it read how many bytes, and which error codes it negated. -/
structure Trace where
  reads : List (Nat × Nat)
  negations : List I32

def Trace.empty : Trace where
  reads := []
  negations := []

inductive AckError
  /-- A slice began behind the end of the buffer. -/
  | outOfRange
  | bail (message : String)
  | osError (context : String) (errno : I32)
  deriving DecidableEq

abbrev Parse := EStateM AckError Trace

/-- The value of `n` bytes in native endian, the least byte first. -/
def native (n : Nat) (bytes : List U8) : BitVec (8 * n) :=
  ofOctets n fun j => bytes.reverse.getD j 0

def nlmsghdr (bytes : List U8) : Nlmsghdr where
  nlmsgLen := native 4 (field bytes 0 4)
  nlmsgType := native 2 (field bytes 4 2)

/-- `read_unaligned(&buffer[offset..])` for a type of `size` bytes. -/
def readUnaligned (size : Nat) (buffer : List U8) (offset : Nat) : Parse (List U8) :=
  if buffer.length < offset then
    throw .outOfRange
  else if (buffer.drop offset).length < size then
    throw (.bail "buffer too small for netlink value")
  else do
    modify fun t => { t with reads := t.reads ++ [(offset, size)] }
    return field buffer offset size

def nlaAlignTo : U64 := 4

def nlaAlign (value : U64) : U64 :=
  (value + nlaAlignTo - 1) &&& ~~~(nlaAlignTo - 1)

/-- The bytes that a message takes up. -/
def messageLen (header : Nlmsghdr) : Nat :=
  (nlaAlign (header.nlmsgLen.setWidth 64)).toNat

theorem nlaAlign_toNat (value : U64) : (nlaAlign value).toNat = (value + 3).toNat / 4 * 4 := by
  have hthree (i : Nat) (hi : i < 64) : (3#64).getLsbD i = decide (i < 2) := by
    rw [BitVec.getLsbD_ofNat, show (3 : Nat) = 2 ^ 2 - 1 from rfl, Nat.testBit_two_pow_sub_one,
      decide_eq_true hi, Bool.true_and]
  -- without its low two bits, a number is shifted out of them and back
  have hbits : nlaAlign value = ((value + 3) >>> 2) <<< 2 := by
    have hsum : value + nlaAlignTo - 1 = value + 3 := by
      rw [BitVec.sub_eq_add_neg, BitVec.add_assoc]
      rfl
    rw [nlaAlign, hsum, show nlaAlignTo - 1 = 3#64 from rfl]
    refine BitVec.eq_of_getLsbD_eq fun i hi => ?_
    rw [BitVec.getLsbD_and, BitVec.getLsbD_not, hthree i hi, BitVec.getLsbD_shiftLeft,
      BitVec.getLsbD_ushiftRight]
    by_cases hlow : i < 2
    · simp [hlow]
    · simp [hlow, hi, show 2 + (i - 2) = i by omega]
  have hlt := (value + 3).isLt
  rw [hbits, BitVec.toNat_shiftLeft, BitVec.toNat_ushiftRight, Nat.shiftRight_eq_div_pow,
    Nat.shiftLeft_eq, Nat.mod_eq_of_lt (by omega)]

/-- A length is rounded up to the next multiple of four. -/
theorem messageLen_eq (header : Nlmsghdr) :
    messageLen header = (header.nlmsgLen.toNat + 3) / 4 * 4 := by
  have hlt := header.nlmsgLen.isLt
  have hsum : (header.nlmsgLen.setWidth 64 + 3#64).toNat = header.nlmsgLen.toNat + 3 := by
    have hthree : (3#64).toNat = 3 := rfl
    rw [BitVec.toNat_add, BitVec.toNat_setWidth, hthree]
    omega
  rw [messageLen, nlaAlign_toNat]
  exact congrArg (fun n => n / 4 * 4) hsum

theorem messageLen_pos {header : Nlmsghdr} (h : header.nlmsgLen ≠ 0) : 4 ≤ messageLen header := by
  have hne : header.nlmsgLen.toNat ≠ 0 := fun hzero => h (BitVec.eq_of_toNat_eq hzero)
  rw [messageLen_eq]
  omega

theorem nlmsgLen_le_messageLen (header : Nlmsghdr) :
    header.nlmsgLen.toNat ≤ messageLen header := by
  rw [messageLen_eq]
  omega

def handleNetlinkErrorMessage (buffer : List U8) (errorOffset : Nat) : Parse Unit := do
  let error : I32 := native 4 (← readUnaligned 4 buffer errorOffset)
  if error = 0 then
    return ()
  else
    modify fun t => { t with negations := t.negations ++ [error] }
    throw (.osError "netlink rejected XDP replace request" (-error))

/-- The rounds of the loop from an offset on. -/
def parseFrom (buffer : List U8) (len offset : Nat) : Parse Bool :=
  if offset + headerLen ≤ len then do
    let header := nlmsghdr (← readUnaligned headerLen buffer offset)
    if header.nlmsgLen = 0 then
      throw (.bail "received invalid zero-length netlink message")
    else if len < offset + messageLen header then
      throw (.bail "received truncated netlink message")
    else if header.nlmsgType = nlmsgError then do
      handleNetlinkErrorMessage buffer (offset + headerLen)
      return true
    else
      parseFrom buffer len (offset + messageLen header)
  else
    return false
termination_by len - offset
decreasing_by
  rename_i hne _ _
  have hpos : 4 ≤ messageLen header := messageLen_pos hne
  have hlen : headerLen = 16 := rfl
  change len - (offset + messageLen header) < len - offset
  omega

def parseNetlinkXdpAck (buffer : List U8) (len : Nat) : Parse Bool :=
  parseFrom buffer len 0

/-! ## The messages in what was received -/

structure Message where
  offset : Nat
  header : Nlmsghdr
  deriving DecidableEq

def headerAt (buffer : List U8) (offset : Nat) : Nlmsghdr :=
  nlmsghdr (field buffer offset headerLen)

/-- The messages from an offset on, up to the first without a length or with too great a one. -/
def messagesFrom (buffer : List U8) (len offset : Nat) : List Message :=
  if offset + headerLen ≤ len then
    let header := headerAt buffer offset
    if header.nlmsgLen = 0 then
      []
    else if len < offset + messageLen header then
      []
    else
      { offset := offset, header := header } ::
        messagesFrom buffer len (offset + messageLen header)
  else
    []
termination_by len - offset
decreasing_by
  rename_i hne _
  have hpos : 4 ≤ messageLen header := messageLen_pos hne
  have hlen : headerLen = 16 := rfl
  change len - (offset + messageLen header) < len - offset
  omega

def messages (buffer : List U8) (len : Nat) : List Message :=
  messagesFrom buffer len 0

def Message.isError (m : Message) : Bool :=
  m.header.nlmsgType = nlmsgError

/-- An error message that is long enough for its code. -/
def Message.isAck (m : Message) : Bool :=
  m.isError && headerLen + 4 ≤ m.header.nlmsgLen.toNat

def Message.code (buffer : List U8) (m : Message) : I32 :=
  native 4 (field buffer (m.offset + headerLen) 4)

/-- A complete error message with code 0 stands before any with another code. -/
def Acknowledged (buffer : List U8) (l : List Message) : Prop :=
  ∃ before m behind, l = before ++ m :: behind ∧ m.isAck = true ∧ m.code buffer = 0 ∧
    ∀ e ∈ before, e.isAck = true → e.code buffer = 0

theorem not_acknowledged_nil (buffer : List U8) : ¬Acknowledged buffer [] := by
  rintro ⟨before, m, behind, hsplit, -⟩
  cases before <;> cases hsplit

theorem acknowledged_cons_of_isAck {buffer : List U8} {m : Message} {rest : List Message}
    (h : m.isAck = true) : Acknowledged buffer (m :: rest) ↔ m.code buffer = 0 := by
  constructor
  · rintro ⟨before, m', behind, hsplit, -, hcode, hbefore⟩
    cases before with
    | nil =>
        obtain ⟨rfl, -⟩ := List.cons.inj hsplit
        exact hcode
    | cons first before =>
        obtain ⟨rfl, -⟩ := List.cons.inj hsplit
        exact hbefore m List.mem_cons_self h
  · intro hcode
    exact ⟨[], m, rest, rfl, h, hcode, nofun⟩

theorem acknowledged_cons_of_not_isAck {buffer : List U8} {m : Message} {rest : List Message}
    (h : m.isAck = false) : Acknowledged buffer (m :: rest) ↔ Acknowledged buffer rest := by
  constructor
  · rintro ⟨before, m', behind, hsplit, hack, hcode, hbefore⟩
    cases before with
    | nil =>
        obtain ⟨rfl, -⟩ := List.cons.inj hsplit
        rw [h] at hack
        cases hack
    | cons first before =>
        obtain ⟨rfl, hrest⟩ := List.cons.inj hsplit
        exact ⟨before, m', behind, hrest, hack, hcode,
          fun e he => hbefore e (List.mem_cons_of_mem _ he)⟩
  · rintro ⟨before, m', behind, rfl, hack, hcode, hbefore⟩
    refine ⟨m :: before, m', behind, rfl, hack, hcode, fun e he heAck => ?_⟩
    rcases List.mem_cons.mp he with rfl | he
    · rw [h] at heAck
      cases heAck
    · exact hbefore e he heAck

/-- The first complete error message decides. -/
theorem acknowledged_iff {buffer : List U8} {l : List Message} :
    Acknowledged buffer l ↔ (l.find? Message.isAck).map (Message.code buffer) = some 0 := by
  induction l with
  | nil => exact iff_of_false (not_acknowledged_nil buffer) nofun
  | cons m rest ih =>
      cases h : m.isAck with
      | true =>
          rw [acknowledged_cons_of_isAck h, List.find?_cons_of_pos h, Option.map_some,
            Option.some.injEq]
      | false =>
          rw [acknowledged_cons_of_not_isAck h, List.find?_cons_of_neg (by rw [h]; nofun), ih]

/-- Before the first error message nothing is an acknowledgement. -/
theorem acknowledged_dropWhile {buffer : List U8} (l : List Message) :
    Acknowledged buffer (l.dropWhile fun m => !m.isError) ↔ Acknowledged buffer l := by
  induction l with
  | nil => exact Iff.rfl
  | cons m rest ih =>
      cases h : m.isError with
      | true => rw [List.dropWhile_cons_of_neg (by rw [h]; nofun)]
      | false =>
          have hack : m.isAck = false := by rw [Message.isAck, h, Bool.false_and]
          rw [List.dropWhile_cons_of_pos (by rw [h]; rfl), ih, acknowledged_cons_of_not_isAck hack]

/-! ## One walk -/

theorem readUnaligned_run {size offset : Nat} {buffer : List U8}
    (h : offset + size ≤ buffer.length) (t : Trace) :
    (readUnaligned size buffer offset).run t =
      .ok (field buffer offset size) { t with reads := t.reads ++ [(offset, size)] } := by
  rw [readUnaligned, if_neg (by omega), if_neg (by rw [List.length_drop]; omega)]
  rfl

section Rounds

variable {buffer : List U8} {len offset : Nat} {t : Trace}

theorem parseFrom_of_done (h : ¬offset + headerLen ≤ len) :
    (parseFrom buffer len offset).run t = .ok false t := by
  rw [parseFrom, if_neg h]
  rfl

theorem messagesFrom_of_done (h : ¬offset + headerLen ≤ len) :
    messagesFrom buffer len offset = [] := by
  rw [messagesFrom, if_neg h]

/-- A round reads the header and goes by what is in it. -/
theorem parseFrom_round (hin : offset + headerLen ≤ len) (hlen : len ≤ buffer.length) :
    (parseFrom buffer len offset).run t =
      (if (headerAt buffer offset).nlmsgLen = 0 then
        throw (.bail "received invalid zero-length netlink message")
      else if len < offset + messageLen (headerAt buffer offset) then
        throw (.bail "received truncated netlink message")
      else if (headerAt buffer offset).nlmsgType = nlmsgError then do
        handleNetlinkErrorMessage buffer (offset + headerLen)
        return true
      else
        parseFrom buffer len (offset + messageLen (headerAt buffer offset)) : Parse Bool).run
        { t with reads := t.reads ++ [(offset, headerLen)] } := by
  rw [parseFrom, if_pos hin, EStateM.run_bind, readUnaligned_run (by omega)]
  rfl

theorem messagesFrom_of_message (hin : offset + headerLen ≤ len)
    (hzero : (headerAt buffer offset).nlmsgLen ≠ 0)
    (hfits : offset + messageLen (headerAt buffer offset) ≤ len) :
    messagesFrom buffer len offset =
      { offset := offset, header := headerAt buffer offset } ::
        messagesFrom buffer len (offset + messageLen (headerAt buffer offset)) := by
  rw [messagesFrom, if_pos hin]
  exact (if_neg hzero).trans (if_neg (by omega))

theorem messagesFrom_of_refused (hin : offset + headerLen ≤ len)
    (h : (headerAt buffer offset).nlmsgLen = 0 ∨
      len < offset + messageLen (headerAt buffer offset)) :
    messagesFrom buffer len offset = [] := by
  rw [messagesFrom, if_pos hin]
  by_cases hzero : (headerAt buffer offset).nlmsgLen = 0
  · exact if_pos hzero
  · exact (if_neg hzero).trans (if_pos (h.resolve_left hzero))

end Rounds

/-- The trace when headers at some offsets have been read too. -/
def Trace.afterHeaders (t : Trace) (headers : List Nat) : Trace :=
  { t with reads := t.reads ++ headers.map fun offset => (offset, headerLen) }

/-- The first error message and what stands behind it. -/
def fromFirstError (l : List Message) : List Message :=
  l.dropWhile fun m => !m.isError

/-- How a walk over the messages ends when it has read the headers: it saw no error message, or it
goes on to the code of the first one. -/
inductive Walked (buffer : List U8) (len : Nat) (l : List Message) (headers : List Nat)
    (t : Trace) (result : EStateM.Result AckError Trace Bool) : Prop
  | quiet (hnone : fromFirstError l = []) (hresult : result = .ok false t)
  | refused (message : String) (hnone : fromFirstError l = [])
      (hresult : result = .error (.bail message) t)
  | answered (m : Message) (behind : List Message) (hfirst : fromFirstError l = m :: behind)
      (hread : m.offset ∈ headers) (hfits : m.offset + m.header.nlmsgLen.toNat ≤ len)
      (hresult : result =
        (handleNetlinkErrorMessage buffer (m.offset + headerLen) >>= fun _ => pure true).run t)

/-- The headers are inside what was received, and they are few. -/
structure HeadersInside (len offset : Nat) (headers : List Nat) : Prop where
  inside : ∀ o ∈ headers, o + headerLen ≤ len
  few : headers = [] ∨ 4 * headers.length + 12 ≤ len - offset

theorem headersInside_nil (len offset : Nat) : HeadersInside len offset [] where
  inside := nofun
  few := .inl rfl

theorem HeadersInside.cons {len offset next : Nat} {headers : List Nat}
    (h : HeadersInside len next headers) (hin : offset + headerLen ≤ len)
    (hnext : offset + 4 ≤ next) : HeadersInside len offset (offset :: headers) where
  inside := by
    intro o ho
    rcases List.mem_cons.mp ho with rfl | ho
    · exact hin
    · exact h.inside o ho
  few := by
    right
    have hlen : headerLen = 16 := rfl
    rcases h.few with rfl | hfew
    · rw [List.length_singleton]
      omega
    · rw [List.length_cons]
      omega

/-- Every run of the loop is a walk over the messages. The induction is on what is left of the
received bytes: each message takes up at least four of them. -/
theorem parseFrom_walked {buffer : List U8} {len : Nat} (hlen : len ≤ buffer.length)
    (offset : Nat) (t : Trace) :
    ∃ headers, HeadersInside len offset headers ∧
      Walked buffer len (messagesFrom buffer len offset) headers (t.afterHeaders headers)
        ((parseFrom buffer len offset).run t) := by
  induction hleft : len - offset using Nat.strong_induction_on generalizing offset t with
  | _ left ih =>
      by_cases hin : offset + headerLen ≤ len
      · have hone : HeadersInside len offset [offset] :=
          (headersInside_nil len (offset + 4)).cons hin le_rfl
        by_cases hzero : (headerAt buffer offset).nlmsgLen = 0
        · refine ⟨[offset], hone, .refused "received invalid zero-length netlink message" ?_ ?_⟩
          · rw [messagesFrom_of_refused hin (.inl hzero)]
            rfl
          · rw [parseFrom_round hin hlen, if_pos hzero]
            rfl
        by_cases htruncated : len < offset + messageLen (headerAt buffer offset)
        · refine ⟨[offset], hone, .refused "received truncated netlink message" ?_ ?_⟩
          · rw [messagesFrom_of_refused hin (.inr htruncated)]
            rfl
          · rw [parseFrom_round hin hlen, if_neg hzero, if_pos htruncated]
            rfl
        have hfits : offset + messageLen (headerAt buffer offset) ≤ len := by omega
        have hshort := nlmsgLen_le_messageLen (headerAt buffer offset)
        have hpos := messageLen_pos hzero
        by_cases herror : (headerAt buffer offset).nlmsgType = nlmsgError
        · refine ⟨[offset], hone, .answered { offset := offset, header := headerAt buffer offset }
            (messagesFrom buffer len (offset + messageLen (headerAt buffer offset))) ?_
            List.mem_cons_self ((Nat.add_le_add_left hshort offset).trans hfits) ?_⟩
          · rw [messagesFrom_of_message hin hzero hfits, fromFirstError,
              List.dropWhile_cons_of_neg (by simp [Message.isError, herror])]
          · rw [parseFrom_round hin hlen, if_neg hzero, if_neg htruncated, if_pos herror]
            rfl
        · have hskip : fromFirstError (messagesFrom buffer len offset) = fromFirstError
              (messagesFrom buffer len (offset + messageLen (headerAt buffer offset))) := by
            rw [messagesFrom_of_message hin hzero hfits, fromFirstError,
              List.dropWhile_cons_of_pos (by simp [Message.isError, herror]), fromFirstError]
          have hrun : (parseFrom buffer len offset).run t =
              (parseFrom buffer len (offset + messageLen (headerAt buffer offset))).run
                { t with reads := t.reads ++ [(offset, headerLen)] } := by
            rw [parseFrom_round hin hlen, if_neg hzero, if_neg htruncated, if_neg herror]
          obtain ⟨headers, hinside, hwalked⟩ := ih (len - (offset + messageLen _)) (by omega)
            (offset + messageLen (headerAt buffer offset))
            { t with reads := t.reads ++ [(offset, headerLen)] } rfl
          have htrace : Trace.afterHeaders { t with reads := t.reads ++ [(offset, headerLen)] }
              headers = t.afterHeaders (offset :: headers) := by
            simp [Trace.afterHeaders]
          rw [htrace] at hwalked
          refine ⟨offset :: headers, hinside.cons hin (by omega), ?_⟩
          rw [hrun]
          cases hwalked with
          | quiet hnone hresult => exact .quiet (hskip.trans hnone) hresult
          | refused message hnone hresult => exact .refused message (hskip.trans hnone) hresult
          | answered m behind hfirst hread hfits hresult =>
              exact .answered m behind (hskip.trans hfirst) (List.mem_cons_of_mem _ hread) hfits
                hresult
      · refine ⟨[], headersInside_nil len offset, .quiet ?_ ?_⟩
        · rw [messagesFrom_of_done hin]
          rfl
        · rw [parseFrom_of_done hin, Trace.afterHeaders, List.map_nil, List.append_nil]

/-! ## The code of the first error message -/

section Codes

variable {buffer : List U8} {m : Message} {t : Trace}

theorem handleNetlinkErrorMessage_short (hstart : m.offset + headerLen ≤ buffer.length)
    (h : buffer.length < m.offset + headerLen + 4) :
    (handleNetlinkErrorMessage buffer (m.offset + headerLen)).run t =
      .error (.bail "buffer too small for netlink value") t := by
  rw [handleNetlinkErrorMessage, EStateM.run_bind, readUnaligned, if_neg (by omega),
    if_pos (by rw [List.length_drop]; omega)]
  rfl

theorem handleNetlinkErrorMessage_zero (h : m.offset + headerLen + 4 ≤ buffer.length)
    (hcode : m.code buffer = 0) :
    (handleNetlinkErrorMessage buffer (m.offset + headerLen)).run t =
      .ok () { t with reads := t.reads ++ [(m.offset + headerLen, 4)] } := by
  rw [handleNetlinkErrorMessage, EStateM.run_bind, readUnaligned_run h]
  exact congrArg (fun x : Parse Unit => x.run _) (if_pos hcode)

theorem handleNetlinkErrorMessage_code (h : m.offset + headerLen + 4 ≤ buffer.length)
    (hcode : m.code buffer ≠ 0) :
    (handleNetlinkErrorMessage buffer (m.offset + headerLen)).run t =
      .error (.osError "netlink rejected XDP replace request" (-m.code buffer))
        { reads := t.reads ++ [(m.offset + headerLen, 4)]
          negations := t.negations ++ [m.code buffer] } := by
  rw [handleNetlinkErrorMessage, EStateM.run_bind, readUnaligned_run h]
  exact congrArg (fun x : Parse Unit => x.run _) (if_neg hcode)

end Codes

/-! ## What an acknowledgement has to be -/

/-- The reads are inside the first `len` bytes, at most one in four bytes, and no negation
overflows. -/
structure Trace.Inside (len : Nat) (t : Trace) : Prop where
  within : ∀ r ∈ t.reads, r.1 + r.2 ≤ len
  rounds : t.reads.length ≤ len / 4
  negates : ∀ error ∈ t.negations, (-error).toInt = -error.toInt

/-- The parser ends without a panic, looks only at what was received, and reports success only
for an acknowledgement. -/
def Sound (buffer : List U8) (len : Nat) : Prop :=
  Ends (parseNetlinkXdpAck buffer len) Trace.empty
    (fun answer t => t.Inside len ∧ (answer = true → Acknowledged buffer (messages buffer len)))
    (fun e t => t.Inside len ∧ e ≠ .outOfRange)

/-- The first error message has its code inside what was received, or the buffer has no room for
one; the code can be negated; and where it is zero in a message that is too short for a code, the
next complete error message has code 0. -/
def StandsInside (buffer : List U8) (len : Nat) : Prop :=
  match fromFirstError (messages buffer len) with
  | [] => True
  | m :: behind =>
      m.offset + headerLen + 4 ≤ buffer.length →
        m.offset + headerLen + 4 ≤ len ∧ m.code buffer ≠ BitVec.intMin 32 ∧
          (m.code buffer = 0 →
            m.isAck = true ∨ (behind.find? Message.isAck).map (Message.code buffer) = some 0)

/-- The condition on the first error message. -/
theorem standsInside_of_answered {buffer : List U8} {len : Nat} {m : Message}
    {behind : List Message} (hfirst : fromFirstError (messages buffer len) = m :: behind) :
    StandsInside buffer len ↔ (m.offset + headerLen + 4 ≤ buffer.length →
      m.offset + headerLen + 4 ≤ len ∧ m.code buffer ≠ BitVec.intMin 32 ∧
        (m.code buffer = 0 → m.isAck = true ∨
          (behind.find? Message.isAck).map (Message.code buffer) = some 0)) := by
  rw [StandsInside, hfirst]

theorem negates_iff (error : I32) : (-error).toInt = -error.toInt ↔ error ≠ BitVec.intMin 32 := by
  constructor
  · rintro h rfl
    revert h
    decide
  · intro h
    exact BitVec.toInt_neg_of_ne_intMin h

theorem HeadersInside.inside_trace {len : Nat} {headers : List Nat}
    (h : HeadersInside len 0 headers) : (Trace.empty.afterHeaders headers).Inside len where
  within := by
    intro r hr
    rw [Trace.afterHeaders, Trace.empty, List.nil_append] at hr
    obtain ⟨o, ho, rfl⟩ := List.mem_map.mp hr
    exact h.inside o ho
  rounds := by
    rw [Trace.afterHeaders, Trace.empty, List.nil_append, List.length_map]
    rcases h.few with rfl | hfew
    · exact Nat.zero_le _
    · omega
  negates := nofun

/-- One more read, at `offset`, and the codes that were negated after it. -/
theorem inside_trace_iff {len offset : Nat} {headers : List Nat} {codes : List I32}
    (h : HeadersInside len 0 headers) (hne : headers ≠ []) :
    Trace.Inside len { reads := (Trace.empty.afterHeaders headers).reads ++ [(offset, 4)]
                       negations := codes } ↔
      offset + 4 ≤ len ∧ ∀ error ∈ codes, error ≠ BitVec.intMin 32 := by
  constructor
  · intro hinside
    exact ⟨hinside.within (offset, 4) (List.mem_append_right _ List.mem_cons_self),
      fun error herror => (negates_iff error).mp (hinside.negates error herror)⟩
  · rintro ⟨hoffset, hcodes⟩
    refine ⟨fun r hr => ?_, ?_, fun error herror => (negates_iff error).mpr (hcodes error herror)⟩
    · rcases List.mem_append.mp hr with hr | hr
      · exact h.inside_trace.within r hr
      · rw [List.mem_singleton.mp hr]
        exact hoffset
    · have hfew := h.few.resolve_left hne
      rw [List.length_append, Trace.afterHeaders, Trace.empty, List.nil_append, List.length_map,
        List.length_singleton]
      omega

/-- A zero in the first error message is an acknowledgement when the message is long enough for a
code, and else the next complete error message decides. -/
theorem acknowledged_iff_of_answered {buffer : List U8} {len : Nat} {m : Message}
    {behind : List Message} (hfirst : fromFirstError (messages buffer len) = m :: behind)
    (hcode : m.code buffer = 0) :
    Acknowledged buffer (messages buffer len) ↔
      m.isAck = true ∨ (behind.find? Message.isAck).map (Message.code buffer) = some 0 := by
  rw [← acknowledged_dropWhile, ← fromFirstError, hfirst]
  cases hack : m.isAck with
  | true => exact iff_of_true ((acknowledged_cons_of_isAck hack).mpr hcode) (.inl rfl)
  | false =>
      rw [acknowledged_cons_of_not_isAck hack, acknowledged_iff]
      exact (or_iff_right Bool.false_ne_true).symm

/-- The law when the walk reaches an error message. -/
theorem sound_iff_of_answered {buffer : List U8} {len : Nat} {headers : List Nat} {m : Message}
    {behind : List Message} (hlen : len ≤ buffer.length) (hinside : HeadersInside len 0 headers)
    (hfirst : fromFirstError (messages buffer len) = m :: behind) (hread : m.offset ∈ headers)
    (hresult : (parseNetlinkXdpAck buffer len).run Trace.empty =
      (handleNetlinkErrorMessage buffer (m.offset + headerLen) >>= fun _ => pure true).run
        (Trace.empty.afterHeaders headers)) :
    Sound buffer len ↔ StandsInside buffer len := by
  have hstart := hinside.inside m.offset hread
  have hne : headers ≠ [] := List.ne_nil_of_mem hread
  rw [standsInside_of_answered hfirst, Sound, Ends, hresult, EStateM.run_bind]
  by_cases hroom : m.offset + headerLen + 4 ≤ buffer.length
  · by_cases hcode : m.code buffer = 0
    · have hmin : m.code buffer ≠ BitVec.intMin 32 := by
        rw [hcode]
        decide
      rw [handleNetlinkErrorMessage_zero hroom hcode]
      constructor
      · rintro ⟨htrace, hack⟩ -
        exact ⟨((inside_trace_iff hinside hne).mp htrace).1, hmin,
          fun _ => (acknowledged_iff_of_answered hfirst hcode).mp (hack rfl)⟩
      · intro h
        obtain ⟨hin, -, hack⟩ := h hroom
        exact ⟨(inside_trace_iff hinside hne).mpr ⟨hin, fun e he => absurd he List.not_mem_nil⟩,
          fun _ => (acknowledged_iff_of_answered hfirst hcode).mpr (hack hcode)⟩
    · rw [handleNetlinkErrorMessage_code hroom hcode]
      constructor
      · rintro ⟨htrace, -⟩ -
        obtain ⟨hin, hcodes⟩ := (inside_trace_iff hinside hne).mp htrace
        exact ⟨hin, hcodes _ List.mem_cons_self, fun hzero => absurd hzero hcode⟩
      · intro h
        obtain ⟨hin, hmin, -⟩ := h hroom
        refine ⟨(inside_trace_iff hinside hne).mpr ⟨hin, fun error herror => ?_⟩, ?_⟩
        · rw [List.mem_singleton.mp herror]
          exact hmin
        · intro hrange
          cases hrange
  · rw [handleNetlinkErrorMessage_short (by omega) (by omega)]
    refine iff_of_true ⟨hinside.inside_trace, ?_⟩ fun h => absurd h hroom
    intro hrange
    cases hrange

/-- The parser is sound exactly on the buffers whose first error message has its code inside what
was received, in a message that is long enough for it, with a code that can be negated. -/
theorem sound_iff_standsInside (buffer : List U8) (len : Nat) (hlen : len ≤ buffer.length) :
    Sound buffer len ↔ StandsInside buffer len := by
  obtain ⟨headers, hinside, hwalked⟩ := parseFrom_walked hlen 0 Trace.empty
  cases hwalked with
  | quiet hnone hresult =>
      have hstands : StandsInside buffer len := by
        rw [StandsInside, messages, hnone]
        trivial
      refine iff_of_true ?_ hstands
      rw [Sound, Ends, parseNetlinkXdpAck, hresult]
      exact ⟨hinside.inside_trace, fun h => absurd h Bool.false_ne_true⟩
  | refused message hnone hresult =>
      have hstands : StandsInside buffer len := by
        rw [StandsInside, messages, hnone]
        trivial
      refine iff_of_true ?_ hstands
      rw [Sound, Ends, parseNetlinkXdpAck, hresult]
      refine ⟨hinside.inside_trace, ?_⟩
      intro hrange
      cases hrange
  | answered m behind hfirst hread hfits hresult =>
      exact sound_iff_of_answered hlen hinside hfirst hread hresult

section Buffers

/-- The buffer of `receive_netlink_xdp_ack` when the first thing received into it are `bytes`. -/
def received (bytes : List U8) : List U8 :=
  bytes ++ List.replicate (8192 - bytes.length) 0

/-- An acknowledgement as the kernel sends it: a header, the code, and the header it answers. -/
def kernelAck : List U8 :=
  [36, 0, 0, 0, 2, 0, 0, 0, 1, 0, 0, 0, 7, 0, 0, 0, 0, 0, 0, 0,
    52, 0, 0, 0, 19, 0, 5, 0, 1, 0, 0, 0, 0, 0, 0, 0]

/-- An error message that ends behind its header. -/
def bareHeader : List U8 :=
  [16, 0, 0, 0, 2, 0, 0, 0, 1, 0, 0, 0, 7, 0, 0, 0]

theorem le_length_received (bytes : List U8) : bytes.length ≤ (received bytes).length := by
  rw [received, List.length_append]
  exact Nat.le_add_right _ _

theorem field_received {bytes : List U8} {offset n : Nat} (h : offset + n ≤ bytes.length) :
    field (received bytes) offset n = field bytes offset n := by
  rw [field, received, List.drop_append_of_le_length (by omega),
    List.take_append_of_le_length (by rw [List.length_drop]; omega), field]

theorem headerAt_kernelAck :
    headerAt (received kernelAck) 0 = { nlmsgLen := 36, nlmsgType := nlmsgError } := by
  rw [headerAt, field_received (by decide)]
  decide

theorem headerAt_bareHeader :
    headerAt (received bareHeader) 0 = { nlmsgLen := 16, nlmsgType := nlmsgError } := by
  rw [headerAt, field_received (by decide)]
  decide

def bareMessage : Message where
  offset := 0
  header := { nlmsgLen := 16, nlmsgType := nlmsgError }

/-- What stands behind the bare header are zeros of the buffer. -/
theorem code_bareHeader : bareMessage.code (received bareHeader) = 0 := by
  have hfield : field (received bareHeader) 16 4 = List.replicate 4 0 := by
    rw [field, received, List.drop_left' (by decide), List.take_replicate]
    rfl
  rw [Message.code, show bareMessage.offset + headerLen = 16 from rfl, hfield]
  decide

theorem sound_iff_standsInside_kernelAck :
    36 ≤ (received kernelAck).length ∧ Sound (received kernelAck) 36 := by
  have hlen : 36 ≤ (received kernelAck).length := le_length_received kernelAck
  have hmessages : messages (received kernelAck) 36 =
      [{ offset := 0, header := headerAt (received kernelAck) 0 }] := by
    rw [messages, messagesFrom_of_message (by decide) (by rw [headerAt_kernelAck]; decide)
      (by rw [headerAt_kernelAck]; decide),
      messagesFrom_of_done (by rw [headerAt_kernelAck]; decide)]
  have hfirst : fromFirstError (messages (received kernelAck) 36) =
      [{ offset := 0, header := headerAt (received kernelAck) 0 }] := by
    rw [hmessages, headerAt_kernelAck]
    decide
  refine ⟨hlen, (sound_iff_standsInside _ _ hlen).mpr ?_⟩
  rw [standsInside_of_answered hfirst, Message.code, field_received (by decide),
    headerAt_kernelAck]
  exact fun _ => ⟨by decide, by decide, fun _ => .inl (by decide)⟩

/-- A bare header is taken for a success, with a code that was never received. -/
theorem bareHeader_not_sound :
    16 ≤ (received bareHeader).length ∧
      (∃ t, (parseNetlinkXdpAck (received bareHeader) 16).run Trace.empty = .ok true t) ∧
      ¬Sound (received bareHeader) 16 := by
  have hlen : 16 ≤ (received bareHeader).length := le_length_received bareHeader
  have hroom : bareMessage.offset + headerLen + 4 ≤ (received bareHeader).length := by
    rw [received, List.length_append, List.length_replicate]
    decide
  have hrun : (parseNetlinkXdpAck (received bareHeader) 16).run Trace.empty =
      .ok true { reads := [(0, 16), (16, 4)], negations := [] } := by
    rw [parseNetlinkXdpAck, parseFrom_round (by decide) hlen, headerAt_bareHeader,
      if_neg (by decide), if_neg (by decide), if_pos rfl, EStateM.run_bind,
      show 0 + headerLen = bareMessage.offset + headerLen from rfl,
      handleNetlinkErrorMessage_zero hroom code_bareHeader]
    rfl
  refine ⟨hlen, ⟨_, hrun⟩, fun hsound => ?_⟩
  have hread := (Ends.of_ok hsound hrun).1.within (16, 4) (by decide)
  exact absurd hread (by decide)

end Buffers

end NetlinkAck
end Agent
end XdpFirewall
