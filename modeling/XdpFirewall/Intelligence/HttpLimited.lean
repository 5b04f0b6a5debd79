import XdpFirewall.Lib.Lines
import XdpFirewall.Lib.Outcome
import Mathlib.Data.List.ReduceOption
import Mathlib.Data.Set.List

/-!
# HttpLimited — a bounded body, read line by line as its chunks arrive

The line callback keeps a state of its own and can fail. An error is its text.
-/

namespace XdpFirewall
namespace Intelligence

open Lib

abbrev Bytes := List UInt8

def lineFeed : UInt8 := 10
def carriageReturn : UInt8 := 13

/-- The answer of a server: its announced length, the chunks of its body, and the error that a
connection breaks off with. The length of a body that arrives is the one announced. -/
structure Response where
  contentLength : Option Nat
  chunks : List Bytes
  broken : Option String
  framed : broken = none → ∀ length ∈ contentLength, length = chunks.flatten.length

def Response.body (response : Response) : Bytes :=
  response.chunks.flatten

variable {σ T : Type}

def rejectOversizedContentLength (response : Response) (maxBytes : Nat) (label : String) :
    EStateM String σ Unit :=
  if response.contentLength.any (fun length => decide (maxBytes < length)) then
    throw s!"{label} response exceeded {maxBytes} bytes"
  else
    pure ()

def trimLineEnding (line : Bytes) : Bytes :=
  let line := if line.getLast? = some lineFeed then line.dropLast else line
  if line.getLast? = some carriageReturn then line.dropLast else line

/-- `std::str::from_utf8` -/
def fromUtf8 (line : Bytes) : Option String :=
  String.fromUTF8? ⟨line.toArray⟩

def parseUtf8Line (parseLine : String → EStateM String σ (Option T)) (label : String)
    (line : Bytes) (parsed : List T) : EStateM String σ (List T) :=
  match fromUtf8 line with
  | none => throw s!"{label} returned non-UTF-8 line"
  | some line => do
      match ← parseLine line with
      | some value => pure (parsed ++ [value])
      | none => pure parsed

/-- The bytes after the last line feed remain, beside what was parsed. -/
def drainCompleteLines (parseLine : String → EStateM String σ (Option T)) (label : String)
    (carry : Bytes) (parsed : List T) : EStateM String σ (Bytes × List T) :=
  match h : carry.findIdx? (· == lineFeed) with
  | none => pure (carry, parsed)
  | some newline => do
      let line := trimLineEnding (carry.take (newline + 1))
      let parsed ← parseUtf8Line parseLine label line parsed
      drainCompleteLines parseLine label (carry.drop (newline + 1)) parsed
termination_by carry.length
decreasing_by
  rw [List.length_drop]
  have := (List.findIdx?_eq_some_iff_getElem.mp h).1
  omega

def parseRemainingLine (parseLine : String → EStateM String σ (Option T)) (label : String)
    (carry : Bytes) (parsed : List T) : EStateM String σ (List T) :=
  if carry = [] then
    pure parsed
  else
    parseUtf8Line parseLine label (trimLineEnding carry) parsed

/-- The loop over the chunks. A total of `usize::MAX` bytes is out of the reach of a connection. -/
def readChunks (parseLine : String → EStateM String σ (Option T)) (maxBytes : Nat)
    (label : String) (broken : Option String) :
    List Bytes → Nat → Bytes → List T → EStateM String σ (Bytes × List T)
  | [], _, carry, parsed =>
      match broken with
      | some e => throw e
      | none => pure (carry, parsed)
  | chunk :: chunks, total, carry, parsed =>
      if maxBytes < total + chunk.length then
        throw s!"{label} response exceeded {maxBytes} bytes"
      else do
        let (carry, parsed) ← drainCompleteLines parseLine label (carry ++ chunk) parsed
        readChunks parseLine maxBytes label broken chunks (total + chunk.length) carry parsed

def readLimitedLines (parseLine : String → EStateM String σ (Option T)) (maxBytes : Nat)
    (label : String) (response : Response) : EStateM String σ (List T) := do
  rejectOversizedContentLength response maxBytes label
  let (carry, parsed) ←
    readChunks parseLine maxBytes label response.broken response.chunks 0 [] []
  parseRemainingLine parseLine label carry parsed

/-! ## The lines of a body -/

/-- The bytes of a text. -/
def utf8Bytes (text : String) : Bytes :=
  text.toUTF8.data.toList

def trimCarriageReturn (line : Bytes) : Bytes :=
  if line.getLast? = some carriageReturn then line.dropLast else line

/-- The whole body cut at its line feeds, each line without a carriage return at its end. -/
def bodyLines (body : Bytes) : List Bytes :=
  (linesOf lineFeed body).map trimCarriageReturn

/-- The lines given to the callback one after the other. -/
def parseLines (parseLine : String → EStateM String σ (Option T)) (label : String)
    (lines : List Bytes) (parsed : List T) : EStateM String σ (List T) :=
  lines.foldlM (fun parsed line => parseUtf8Line parseLine label line parsed) parsed

theorem fromUtf8_eq_some_iff {line : Bytes} {text : String} :
    fromUtf8 line = some text ↔ utf8Bytes text = line := by
  rw [fromUtf8, String.fromUTF8?]
  constructor
  · intro h
    split at h
    · cases h
      rfl
    · cases h
  · rintro rfl
    have hvalid : ByteArray.IsValidUTF8 ⟨(utf8Bytes text).toArray⟩ := text.isValidUTF8
    rw [dif_pos hvalid]
    rfl

theorem utf8Bytes_injective : Function.Injective utf8Bytes := by
  intro text text' h
  have hsome := fromUtf8_eq_some_iff.mpr h
  rw [fromUtf8_eq_some_iff.mpr rfl] at hsome
  exact (Option.some.inj hsome).symm

theorem exists_texts_of_valid {lines : List Bytes}
    (h : ¬ ∃ line ∈ lines, fromUtf8 line = none) :
    ∃ texts : List String, texts.map utf8Bytes = lines := by
  have hrange : lines ∈ Set.range (List.map utf8Bytes) := by
    rw [Set.range_list_map]
    intro line hline
    cases htext : fromUtf8 line with
    | none => exact absurd ⟨line, hline, htext⟩ h
    | some text => exact ⟨text, fromUtf8_eq_some_iff.mp htext⟩
  exact hrange

theorem trimLineEnding_of_notMem {line : Bytes} (h : lineFeed ∉ line) :
    trimLineEnding line = trimCarriageReturn line := by
  have hlast : line.getLast? ≠ some lineFeed := fun hlast => h (List.mem_of_getLast? hlast)
  rw [trimLineEnding, if_neg hlast, trimCarriageReturn]

theorem trimLineEnding_concat (line : Bytes) :
    trimLineEnding (line ++ [lineFeed]) = trimCarriageReturn line := by
  rw [trimLineEnding, if_pos List.getLast?_concat, List.dropLast_concat, trimCarriageReturn]

section Reader

variable {parseLine : String → EStateM String σ (Option T)} {maxBytes : Nat} {label : String}

theorem parseLines_cons (line : Bytes) (lines : List Bytes) (parsed : List T) :
    parseLines parseLine label (line :: lines) parsed =
      parseUtf8Line parseLine label line parsed >>= parseLines parseLine label lines :=
  List.foldlM_cons

theorem parseLines_append (lines more : List Bytes) (parsed : List T) :
    parseLines parseLine label (lines ++ more) parsed =
      parseLines parseLine label lines parsed >>= parseLines parseLine label more :=
  List.foldlM_append

theorem findIdx?_of_notMem {line : Bytes} (h : lineFeed ∉ line) :
    line.findIdx? (· == lineFeed) = none := by
  rw [List.findIdx?_eq_none_iff]
  intro byte hbyte
  refine beq_false_of_ne fun heq => h ?_
  rw [← heq]
  exact hbyte

theorem drainCompleteLines_of_notMem {carry : Bytes} (h : lineFeed ∉ carry) (parsed : List T) :
    drainCompleteLines parseLine label carry parsed = pure (carry, parsed) := by
  rw [drainCompleteLines]
  split
  · rfl
  · next newline hsome =>
      rw [findIdx?_of_notMem h] at hsome
      cases hsome

theorem drainCompleteLines_append_cons {line : Bytes} (h : lineFeed ∉ line) (rest : Bytes)
    (parsed : List T) :
    drainCompleteLines parseLine label (line ++ lineFeed :: rest) parsed =
      parseUtf8Line parseLine label (trimCarriageReturn line) parsed >>=
        drainCompleteLines parseLine label rest := by
  have hfound : (line ++ lineFeed :: rest).findIdx? (· == lineFeed) = some line.length := by
    rw [List.findIdx?_append, findIdx?_of_notMem h, List.findIdx?_cons]
    simp
  have htake : (line ++ lineFeed :: rest).take (line.length + 1) = line ++ [lineFeed] := by
    rw [List.take_length_add_append, List.take_succ_cons, List.take_zero]
  have hdrop : (line ++ lineFeed :: rest).drop (line.length + 1) = rest := by
    rw [List.drop_length_add_append, List.drop_succ_cons, List.drop_zero]
  rw [drainCompleteLines]
  split
  · next hnone =>
      rw [hfound] at hnone
      cases hnone
  · next newline hsome =>
      rw [hfound] at hsome
      cases hsome
      rw [htake, hdrop, trimLineEnding_concat]

/-- What is drained from the carry are its complete lines, and its open line stays. -/
theorem drainCompleteLines_eq (carry : Bytes) (parsed : List T) :
    drainCompleteLines parseLine label carry parsed =
      (parseLines parseLine label ((completeLines lineFeed carry).map trimCarriageReturn) parsed
        >>= fun parsed => pure (openLine lineFeed carry, parsed)) := by
  induction carry using lines_induction lineFeed generalizing parsed with
  | last xs h =>
      rw [drainCompleteLines_of_notMem h, completeLines_of_notMem h, openLine_of_notMem h]
      rfl
  | line line rest h ih =>
      rw [drainCompleteLines_append_cons h, completeLines_append_cons h, openLine_append_cons h,
        List.map_cons, parseLines_cons, bind_assoc]
      exact bind_congr fun parsed => ih parsed

theorem drainCompleteLines_append (carry more : Bytes) (parsed : List T) :
    drainCompleteLines parseLine label (carry ++ more) parsed =
      parseLines parseLine label ((completeLines lineFeed carry).map trimCarriageReturn) parsed >>=
        drainCompleteLines parseLine label (openLine lineFeed carry ++ more) := by
  rw [drainCompleteLines_eq, completeLines_append carry more, openLine_append carry more,
    List.map_append, parseLines_append, bind_assoc]
  exact bind_congr fun parsed => (drainCompleteLines_eq _ _).symm

theorem parseRemainingLine_eq {carry : Bytes} (h : lineFeed ∉ carry) (parsed : List T) :
    parseRemainingLine parseLine label carry parsed =
      parseLines parseLine label ((if carry = [] then [] else [carry]).map trimCarriageReturn)
        parsed := by
  rw [parseRemainingLine]
  split
  · rfl
  · rw [trimLineEnding_of_notMem h, List.map_singleton, parseLines_cons]
    exact (bind_pure _).symm

/-! ## The chunks of a body -/

/-- The chunks of a body within the limit are read as their concatenation. -/
theorem readChunks_eq {chunks : List Bytes} {total : Nat} {carry : Bytes} (parsed : List T)
    (hcarry : lineFeed ∉ carry) (hle : total + chunks.flatten.length ≤ maxBytes) :
    readChunks parseLine maxBytes label none chunks total carry parsed =
      drainCompleteLines parseLine label (carry ++ chunks.flatten) parsed := by
  induction chunks generalizing total carry parsed with
  | nil =>
      rw [List.flatten_nil, List.append_nil, drainCompleteLines_of_notMem hcarry]
      rfl
  | cons chunk chunks ih =>
      rw [List.flatten_cons, List.length_append] at hle
      have hwithin : ¬ maxBytes < total + chunk.length := by omega
      calc readChunks parseLine maxBytes label none (chunk :: chunks) total carry parsed
          = drainCompleteLines parseLine label (carry ++ chunk) parsed >>= fun drained =>
              readChunks parseLine maxBytes label none chunks (total + chunk.length) drained.1
                drained.2 := by rw [readChunks, if_neg hwithin]
        _ = parseLines parseLine label
              ((completeLines lineFeed (carry ++ chunk)).map trimCarriageReturn) parsed >>=
            drainCompleteLines parseLine label
              (openLine lineFeed (carry ++ chunk) ++ chunks.flatten) := by
          rw [drainCompleteLines_eq, bind_assoc]
          refine bind_congr fun parsed => ?_
          rw [pure_bind]
          exact ih parsed (notMem_openLine _) (by omega)
        _ = drainCompleteLines parseLine label (carry ++ (chunk ++ chunks.flatten)) parsed := by
          rw [← List.append_assoc, ← drainCompleteLines_append]

/-- The loop ends well only after a whole body within the limit. -/
theorem whole_of_readChunks {broken : Option String} {chunks : List Bytes} {total : Nat}
    {carry : Bytes} {parsed : List T} {s t : σ} {read : Bytes × List T} (hle : total ≤ maxBytes)
    (h : (readChunks parseLine maxBytes label broken chunks total carry parsed).run s =
      .ok read t) :
    broken = none ∧ total + chunks.flatten.length ≤ maxBytes := by
  induction chunks generalizing total carry parsed s with
  | nil =>
      cases broken with
      | none => exact ⟨rfl, hle⟩
      | some e => cases h
  | cons chunk chunks ih =>
      rw [readChunks] at h
      split at h
      · cases h
      · next hwithin =>
          obtain ⟨drained, mid, -, hrest⟩ := run_bind_ok_iff.mp h
          obtain ⟨hbroken, hrest⟩ := ih (by omega) hrest
          rw [List.flatten_cons, List.length_append]
          exact ⟨hbroken, by omega⟩

theorem readLimitedLines_eq {response : Response} (hwhole : response.broken = none)
    (hle : response.body.length ≤ maxBytes) :
    readLimitedLines parseLine maxBytes label response =
      parseLines parseLine label (bodyLines response.body) [] := by
  have hannounced :
      ¬ response.contentLength.any (fun length => decide (maxBytes < length)) = true := by
    rw [Option.any_eq_true]
    rintro ⟨length, hlength, hlarge⟩
    rw [response.framed hwhole length hlength] at hlarge
    exact absurd (of_decide_eq_true hlarge) (Nat.not_lt.mpr hle)
  have hnil : lineFeed ∉ ([] : Bytes) := List.not_mem_nil
  have hread : readChunks parseLine maxBytes label none response.chunks 0 [] [] =
      drainCompleteLines parseLine label ([] ++ response.chunks.flatten) [] := by
    refine readChunks_eq [] hnil ?_
    rwa [Nat.zero_add]
  rw [readLimitedLines, rejectOversizedContentLength, if_neg hannounced, pure_bind, hwhole, hread,
    drainCompleteLines_eq, bind_assoc, bodyLines, linesOf, List.map_append, parseLines_append]
  refine bind_congr fun parsed => ?_
  rw [pure_bind]
  exact parseRemainingLine_eq (notMem_openLine response.body) parsed

theorem readLimitedLines_ok_iff {response : Response} {s t : σ} {parsed : List T} :
    (readLimitedLines parseLine maxBytes label response).run s = .ok parsed t ↔
      response.broken = none ∧ response.body.length ≤ maxBytes ∧
        (parseLines parseLine label (bodyLines response.body) []).run s = .ok parsed t := by
  constructor
  · intro h
    obtain ⟨_, start, -, hread⟩ := run_bind_ok_iff.mp h
    obtain ⟨_, _, hchunks, -⟩ := run_bind_ok_iff.mp hread
    obtain ⟨hwhole, hle⟩ := whole_of_readChunks (Nat.zero_le _) hchunks
    rw [Nat.zero_add] at hle
    rw [readLimitedLines_eq hwhole hle] at h
    exact ⟨hwhole, hle, h⟩
  · rintro ⟨hwhole, hle, h⟩
    rwa [readLimitedLines_eq hwhole hle]

/-! ## The callback -/

theorem parseUtf8Line_ok_iff {line : Bytes} {parsed out : List T} {s t : σ} :
    (parseUtf8Line parseLine label line parsed).run s = .ok out t ↔
      ∃ text found, utf8Bytes text = line ∧ (parseLine text).run s = .ok found t ∧
        out = parsed ++ found.toList := by
  rw [parseUtf8Line]
  cases htext : fromUtf8 line with
  | none =>
      constructor
      · intro h
        cases h
      · rintro ⟨text, _, hline, -⟩
        rw [fromUtf8_eq_some_iff.mpr hline] at htext
        cases htext
  | some text =>
      have hline := fromUtf8_eq_some_iff.mp htext
      constructor
      · intro h
        obtain ⟨found, mid, hfound, h⟩ := run_bind_ok_iff.mp h
        cases found with
        | none =>
            obtain ⟨rfl, rfl⟩ := run_pure_ok_iff.mp h
            exact ⟨text, none, hline, hfound, (List.append_nil _).symm⟩
        | some value =>
            obtain ⟨rfl, rfl⟩ := run_pure_ok_iff.mp h
            exact ⟨text, some value, hline, hfound, rfl⟩
      · rintro ⟨text', found, hline', hfound, rfl⟩
        rw [fromUtf8_eq_some_iff.mpr hline'] at htext
        cases htext
        refine run_bind_ok_iff.mpr ⟨found, t, hfound, ?_⟩
        cases found with
        | none => rw [Option.toList_none, List.append_nil]; rfl
        | some value => rfl

theorem parseLines_ok_iff {lines : List Bytes} {parsed out : List T} {s t : σ} :
    (parseLines parseLine label lines parsed).run s = .ok out t ↔
      ∃ (texts : List String) (found : List (Option T)), texts.map utf8Bytes = lines ∧
        (texts.mapM parseLine).run s = .ok found t ∧ out = parsed ++ found.reduceOption := by
  induction lines generalizing parsed s with
  | nil =>
      constructor
      · intro h
        obtain ⟨rfl, rfl⟩ := run_pure_ok_iff.mp h
        exact ⟨[], [], rfl, rfl, (List.append_nil _).symm⟩
      · rintro ⟨texts, found, htexts, hfound, rfl⟩
        rw [List.map_eq_nil_iff.mp htexts, List.mapM_nil] at hfound
        obtain ⟨rfl, rfl⟩ := run_pure_ok_iff.mp hfound
        exact run_pure_ok_iff.mpr ⟨(List.append_nil _).symm, rfl⟩
  | cons line lines ih =>
      rw [parseLines_cons]
      constructor
      · intro h
        obtain ⟨first, mid, hfirst, hrest⟩ := run_bind_ok_iff.mp h
        obtain ⟨text, value, htext, hvalue, rfl⟩ := parseUtf8Line_ok_iff.mp hfirst
        obtain ⟨texts, found, htexts, hfound, rfl⟩ := ih.mp hrest
        refine ⟨text :: texts, value :: found, by rw [List.map_cons, htext, htexts], ?_, ?_⟩
        · rw [List.mapM_cons]
          exact run_bind_ok_iff.mpr ⟨value, mid, hvalue, run_bind_ok_iff.mpr
            ⟨found, t, hfound, rfl⟩⟩
        · cases value <;> simp
      · rintro ⟨texts, found, htexts, hfound, rfl⟩
        obtain ⟨text, rest, rfl, htext, hrest⟩ := List.map_eq_cons_iff.mp htexts
        rw [List.mapM_cons] at hfound
        obtain ⟨value, mid, hvalue, hfound⟩ := run_bind_ok_iff.mp hfound
        obtain ⟨values, last, hvalues, hfound⟩ := run_bind_ok_iff.mp hfound
        obtain ⟨rfl, rfl⟩ := run_pure_ok_iff.mp hfound
        refine run_bind_ok_iff.mpr ⟨parsed ++ value.toList, mid,
          parseUtf8Line_ok_iff.mpr ⟨text, value, htext, hvalue, rfl⟩,
          ih.mpr ⟨rest, values, hrest, hvalues, ?_⟩⟩
        cases value <;> simp

/-- The reading fails on a text that is too long or breaks off, on a line that is not UTF-8, and
where the callback fails. -/
theorem readLimitedLines_error_iff {response : Response} {s : σ} :
    (∃ e t, (readLimitedLines parseLine maxBytes label response).run s = .error e t) ↔
      response.broken ≠ none ∨ maxBytes < response.body.length ∨
        (∃ line ∈ bodyLines response.body, fromUtf8 line = none) ∨
        ∃ texts : List String, texts.map utf8Bytes = bodyLines response.body ∧
          ∃ e t, (texts.mapM parseLine).run s = .error e t := by
  rw [run_error_iff]
  constructor
  · intro hfails
    -- A run that meets none of the causes would end well.
    by_cases hwhole : response.broken = none
    · right
      by_cases hle : response.body.length ≤ maxBytes
      · right
        by_cases hinvalid : ∃ line ∈ bodyLines response.body, fromUtf8 line = none
        · exact .inl hinvalid
        · right
          obtain ⟨texts, htexts⟩ := exists_texts_of_valid hinvalid
          refine ⟨texts, htexts, run_error_iff.mpr ?_⟩
          rintro ⟨found, t, hfound⟩
          exact hfails ⟨[] ++ found.reduceOption, t, readLimitedLines_ok_iff.mpr
            ⟨hwhole, hle, parseLines_ok_iff.mpr ⟨texts, found, htexts, hfound, rfl⟩⟩⟩
      · exact .inl (Nat.not_le.mp hle)
    · exact .inl hwhole
  · rintro hcause ⟨parsed, t, hok⟩
    obtain ⟨hwhole, hle, hlines⟩ := readLimitedLines_ok_iff.mp hok
    obtain ⟨texts, found, htexts, hfound, -⟩ := parseLines_ok_iff.mp hlines
    rcases hcause with hbroken | hlong | ⟨line, hline, hinvalid⟩ | ⟨texts', htexts', hfails⟩
    · exact hbroken hwhole
    · exact absurd hle (Nat.not_le.mpr hlong)
    · rw [← htexts] at hline
      obtain ⟨text, -, htext⟩ := List.mem_map.mp hline
      rw [fromUtf8_eq_some_iff.mpr htext] at hinvalid
      cases hinvalid
    · rw [utf8Bytes_injective.list_map (htexts'.trans htexts.symm)] at hfails
      exact run_error_iff.mp hfails ⟨found, t, hfound⟩

/-! ## The calls -/

/-- The callback beside a list of the texts it was called with. -/
def recording (parseLine : String → EStateM String σ (Option T)) (text : String) :
    EStateM String (σ × List String) (Option T) := fun s =>
  match (parseLine text).run s.1 with
  | .ok found t => .ok found (t, s.2 ++ [text])
  | .error e t => .error e (t, s.2 ++ [text])

/-- From `s` the callback is called with exactly the lines, one after the other, and a value of a
kind comes out; or it is called with the first of them, and the computation fails. -/
def Calls {A : Type} (x : EStateM String (σ × List String) A) (s : σ × List String)
    (lines : List Bytes) (value : A → Prop) : Prop :=
  Ends x s (fun a t => value a ∧ t.2.map utf8Bytes = s.2.map utf8Bytes ++ lines)
    (fun _ t => ∃ called, called <+: lines ∧ t.2.map utf8Bytes = s.2.map utf8Bytes ++ called)

section Calls

variable {A B : Type} {x : EStateM String (σ × List String) A} {s : σ × List String}
  {lines more : List Bytes} {value : A → Prop}

theorem Calls.bind {f : A → EStateM String (σ × List String) B} {result : B → Prop}
    (hx : Calls x s lines value) (hf : ∀ a t, value a → Calls (f a) t more result) :
    Calls (x >>= f) s (lines ++ more) result := by
  refine Ends.bind (hx.mono (fun _ _ h => h) ?_) ?_
  · rintro _ t ⟨called, hcalled, ht⟩
    exact ⟨called, hcalled.trans (List.prefix_append _ _), ht⟩
  · rintro a t ⟨hvalue, ht⟩
    refine (hf a t hvalue).mono ?_ ?_
    · rintro b u ⟨hresult, hu⟩
      exact ⟨hresult, by rw [hu, ht, List.append_assoc]⟩
    · rintro _ u ⟨called, hcalled, hu⟩
      refine ⟨lines ++ called, (List.prefix_append_right_inj _).mpr hcalled, ?_⟩
      rw [hu, ht, List.append_assoc]

/-- What comes after the calls calls nothing. -/
theorem Calls.bind_nil {f : A → EStateM String (σ × List String) B} {result : B → Prop}
    (hx : Calls x s lines value) (hf : ∀ a t, value a → Calls (f a) t [] result) :
    Calls (x >>= f) s lines result := by
  have h := hx.bind hf
  rwa [List.append_nil] at h

theorem Calls.pure {a : A} (h : value a) :
    Calls (pure a : EStateM String (σ × List String) A) s [] value :=
  Ends.pure ⟨h, (List.append_nil _).symm⟩

/-- A failure calls nothing further. -/
theorem Calls.throw {e : String} :
    Calls (throw e : EStateM String (σ × List String) A) s lines value :=
  Ends.throw ⟨[], List.nil_prefix, (List.append_nil _).symm⟩

theorem calls_parseUtf8Line (line : Bytes) (parsed : List T) (s : σ × List String) :
    Calls (parseUtf8Line (recording parseLine) label line parsed) s [line] fun _ => True := by
  rw [parseUtf8Line]
  cases htext : fromUtf8 line with
  | none => exact Calls.throw
  | some text =>
      have hline := fromUtf8_eq_some_iff.mp htext
      have hcall : Calls (recording parseLine text) s [line] fun _ => True := by
        rw [Calls, Ends, EStateM.run, recording]
        cases (parseLine text).run s.1 with
        | ok found t => simp [hline]
        | error e t => exact ⟨[line], List.prefix_refl _, by simp [hline]⟩
      refine hcall.bind_nil fun found t _ => ?_
      cases found with
      | none => exact Calls.pure trivial
      | some value => exact Calls.pure trivial

theorem calls_parseLines (lines : List Bytes) (parsed : List T) (s : σ × List String) :
    Calls (parseLines (recording parseLine) label lines parsed) s lines fun _ => True := by
  induction lines generalizing parsed s with
  | nil => exact Calls.pure trivial
  | cons line lines ih =>
      rw [parseLines_cons]
      exact (calls_parseUtf8Line line parsed s).bind fun parsed t _ => ih parsed t

theorem calls_drainCompleteLines (carry : Bytes) (parsed : List T) (s : σ × List String) :
    Calls (drainCompleteLines (recording parseLine) label carry parsed) s
      ((completeLines lineFeed carry).map trimCarriageReturn)
      fun drained => drained.1 = openLine lineFeed carry := by
  rw [drainCompleteLines_eq]
  exact (calls_parseLines _ parsed s).bind_nil fun parsed t _ => Calls.pure rfl

theorem calls_readChunks {broken : Option String} {chunks : List Bytes} {total : Nat}
    {carry : Bytes} (hcarry : lineFeed ∉ carry) (parsed : List T) (s : σ × List String) :
    Calls (readChunks (recording parseLine) maxBytes label broken chunks total carry parsed) s
      ((completeLines lineFeed (carry ++ chunks.flatten)).map trimCarriageReturn)
      fun read => read.1 = openLine lineFeed (carry ++ chunks.flatten) := by
  induction chunks generalizing total carry parsed s with
  | nil =>
      rw [List.flatten_nil, List.append_nil, completeLines_of_notMem hcarry,
        openLine_of_notMem hcarry]
      cases broken with
      | none => exact Calls.pure rfl
      | some e => exact Calls.throw
  | cons chunk chunks ih =>
      rw [readChunks]
      split
      · exact Calls.throw
      · rw [List.flatten_cons, ← List.append_assoc, completeLines_append (carry ++ chunk),
          openLine_append (carry ++ chunk), List.map_append]
        refine (calls_drainCompleteLines _ parsed s).bind ?_
        rintro ⟨carry', parsed'⟩ t hdrained
        obtain rfl : carry' = openLine lineFeed (carry ++ chunk) := hdrained
        exact ih (notMem_openLine _) parsed' t

theorem calls_readLimitedLines {response : Response} (s : σ × List String) :
    Calls (readLimitedLines (recording parseLine) maxBytes label response) s
      (bodyLines response.body) fun _ => True := by
  have hnil : lineFeed ∉ ([] : Bytes) := List.not_mem_nil
  rw [readLimitedLines, rejectOversizedContentLength]
  split
  · exact Calls.throw
  · rw [bodyLines, linesOf, List.map_append]
    refine (calls_readChunks hnil [] s).bind ?_
    rintro ⟨carry, parsed⟩ t hread
    obtain rfl : carry = openLine lineFeed response.body := hread
    dsimp only
    rw [parseRemainingLine_eq (notMem_openLine _)]
    exact calls_parseLines _ parsed t

end Calls

end Reader

/-- However the body is cut into chunks, the callback is called with the lines of the whole body,
and the reading fails in the same cases. -/
theorem readLimitedLines_of_chunks (parseLine : String → EStateM String σ (Option T))
    (maxBytes : Nat) (label : String) (response : Response) (s : σ) :
    Ends (readLimitedLines (recording parseLine) maxBytes label response) (s, [])
        (fun _ t => t.2.map utf8Bytes = bodyLines response.body)
        (fun _ t => t.2.map utf8Bytes <+: bodyLines response.body) ∧
      (∀ parsed t, (readLimitedLines parseLine maxBytes label response).run s = .ok parsed t ↔
        response.broken = none ∧ response.body.length ≤ maxBytes ∧
          ∃ (texts : List String) (found : List (Option T)),
            texts.map utf8Bytes = bodyLines response.body ∧
            (texts.mapM parseLine).run s = .ok found t ∧ parsed = found.reduceOption) ∧
      ((∃ e t, (readLimitedLines parseLine maxBytes label response).run s = .error e t) ↔
        response.broken ≠ none ∨ maxBytes < response.body.length ∨
          (∃ line ∈ bodyLines response.body, fromUtf8 line = none) ∨
          ∃ texts : List String, texts.map utf8Bytes = bodyLines response.body ∧
            ∃ e t, (texts.mapM parseLine).run s = .error e t) := by
  refine ⟨?_, fun parsed t => ?_, readLimitedLines_error_iff⟩
  · refine (calls_readLimitedLines (s, [])).mono ?_ ?_
    · rintro _ t ⟨-, ht⟩
      exact ht
    · rintro _ t ⟨called, hcalled, ht⟩
      rw [ht]
      exact hcalled
  · rw [readLimitedLines_ok_iff, parseLines_ok_iff]
    rfl

/-- Two lines in three chunks, cut inside the first character and between the two bytes of the line
ending. -/
def splitResponse : Response where
  contentLength := some 6
  chunks := [[0xC3], [0xA9, 0x31, 0x0D], [0x0A, 0x62]]
  broken := none
  framed := by
    intro _ length hlength
    cases hlength
    rfl

/-- A callback that counts its calls, and keeps the lines that begin with `é`. -/
def countingLine (text : String) : EStateM String Nat (Option String) := do
  modify fun calls => calls + 1
  return if text = "é1" then some text else none

/-- The callback is called with the lines of the whole body. -/
theorem readLimitedLines_of_chunks_splitResponse :
    (readLimitedLines countingLine 6 "feed" splitResponse).run 0 = .ok ["é1"] 2 ∧
      Ends (readLimitedLines (recording countingLine) 6 "feed" splitResponse) (0, [])
        (fun _ t => t.2.map utf8Bytes = [utf8Bytes "é1", utf8Bytes "b"])
        (fun _ t => t.2.map utf8Bytes <+: [utf8Bytes "é1", utf8Bytes "b"]) := by
  have hlines : bodyLines splitResponse.body = [utf8Bytes "é1", utf8Bytes "b"] := by
    decide +kernel
  obtain ⟨hcalls, hok, -⟩ := readLimitedLines_of_chunks countingLine 6 "feed" splitResponse 0
  rw [hlines] at hcalls
  refine ⟨(hok ["é1"] 2).mpr ⟨rfl, by decide, ["é1", "b"], [some "é1", none], hlines.symm, ?_, rfl⟩,
    hcalls⟩
  rfl

end Intelligence
end XdpFirewall
