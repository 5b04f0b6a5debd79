import XdpFirewall.Intelligence.HttpLimited
import XdpFirewall.Lib.KeyedStore
import XdpFirewall.Lib.Traverse
import XdpFirewall.Policy.Compile
import Mathlib.Data.List.DropRight
import Mathlib.Data.Nat.Bitwise

/-!
# TokenAuth — the token of an agent, sent by the client and checked by the server

Both sides take a token from their configuration unless it is blank, and keep it as it is written.
The client sends it in two headers. The server trims what it receives.
-/

namespace XdpFirewall
namespace ControlPlane
namespace TokenAuth

open Intelligence Lib Policy

/-! ## Metadata -/

abbrev HeaderValue := Bytes

def bytesOf (text : List Char) : Bytes :=
  utf8Bytes (String.ofList text)

/-- The values of the library that sends the requests: `str::parse` and `MetadataValue::to_str`. -/
structure MetadataValues where
  parse : List Char → Option HeaderValue
  toStr : HeaderValue → Option (List Char)

/-- A visible ASCII character, or a tab. -/
def isVisibleAscii (byte : UInt8) : Bool :=
  (32 ≤ byte && byte < 127) || byte = 9

def VisibleAscii (text : List Char) : Prop :=
  (bytesOf text).all isVisibleAscii = true

instance (text : List Char) : Decidable (VisibleAscii text) :=
  inferInstanceAs (Decidable (_ = true))

/-- What the library documents: a value has the bytes of its text, and only visible ASCII is given
back as text. Which texts it takes is left open. -/
structure MetadataValues.Documented (values : MetadataValues) : Prop where
  bytes : ∀ text value, values.parse text = some value → value = bytesOf text
  visible : ∀ text, VisibleAscii text → values.toStr (bytesOf text) = some text
  hidden : ∀ text, ¬ VisibleAscii text → values.toStr (bytesOf text) = none

/-- One value a key. -/
abbrev MetadataMap := KeyedStore String HeaderValue (id : String → String)

def MetadataMap.get (metadata : MetadataMap) (key : String) : Option HeaderValue :=
  (metadata.get? key).map Prod.snd

def MetadataMap.insert (metadata : MetadataMap) (key : String) (value : HeaderValue) :
    MetadataMap :=
  metadata.set key value

/-! ## The server -/

def stripPrefix (front text : List Char) : Option (List Char) :=
  if front.isPrefixOf text then some (text.drop front.length) else none

def metadataToken (values : MetadataValues) (metadata : MetadataMap) : Option (List Char) :=
  (((metadata.get "authorization").bind values.toStr).bind fun value =>
      (stripPrefix "Bearer ".toList value).or (stripPrefix "bearer ".toList value)).map trim
    |>.filter (fun value => !value.isEmpty)
    |>.or (((metadata.get "x-agent-token").bind values.toStr).map trim
      |>.filter fun value => !value.isEmpty)

/-- All bytes are looked at, whatever the first ones are. -/
def constantTimeEq (left right : Bytes) : Bool :=
  let len := max left.length right.length
  let diff := (List.range len).foldl
    (fun diff index => diff ||| ((left.getD index 0) ^^^ (right.getD index 0)).toNat)
    (left.length ^^^ right.length)
  diff = 0

structure XdsService where
  agentToken : Option (List Char)

def XdsService.authorized (service : XdsService) (values : MetadataValues)
    (metadata : MetadataMap) : Bool :=
  match service.agentToken with
  | none => true
  | some expected =>
      match metadataToken values metadata with
      | some token => constantTimeEq (bytesOf token) (bytesOf expected)
      | none => false

/-- A blank token is no token. -/
def configured (token : Option (List Char)) : Option (List Char) :=
  token.filter fun token => !(trim token).isEmpty

/-- Where the server listens, and the text of that address. -/
structure SocketAddr where
  isLoopback : Bool
  display : String

def envFlag (value : Option String) : Bool :=
  value.any fun value => ["1", "true", "yes"].contains (value.map Char.toLower)

def rejectUnsafeUnauthenticatedBind (bind : SocketAddr) (agentToken : Option (List Char))
    (allowUnauthenticated : Option String) : Except String Unit :=
  if agentToken.isSome || bind.isLoopback || envFlag allowUnauthenticated then
    .ok ()
  else
    .error ("xDS agent token is required when binding xDS to non-loopback address " ++
      bind.display ++ "; set XDP_FIREWALL_AGENT_TOKEN or bind xDS to 127.0.0.1")

/-- `serve`, up to the service that it starts. -/
def serve (bind : SocketAddr) (allowUnauthenticated : Option String)
    (agentToken : Option (List Char)) : Except String XdsService := do
  let agentToken := configured agentToken
  rejectUnsafeUnauthenticatedBind bind agentToken allowUnauthenticated
  return { agentToken := agentToken }

/-! ## The client -/

structure Request (T : Type) where
  message : T
  metadata : MetadataMap

structure XdsClient where
  agentToken : Option (List Char)

/-- `XdsClient::connect`, once the channel is open. -/
def connect (agentToken : Option (List Char)) : XdsClient where
  agentToken := configured agentToken

def parseMetadata (values : MetadataValues) (context : String) (text : List Char) :
    Except String HeaderValue :=
  match values.parse text with
  | some value => .ok value
  | none => .error context

def XdsClient.withAuth {T : Type} (client : XdsClient) (values : MetadataValues) (message : T) :
    Except String (Request T) :=
  match client.agentToken with
  | none => .ok { message := message, metadata := KeyedStore.empty }
  | some token => do
      let bearer ← parseMetadata values "failed to build xDS authorization metadata"
        ("Bearer ".toList ++ token)
      let value ← parseMetadata values "failed to build xDS token metadata" token
      return {
        message := message
        metadata := MetadataMap.insert
          (MetadataMap.insert KeyedStore.empty "authorization" bearer) "x-agent-token" value }

/-! ## Comparison -/

theorem foldl_or_eq_zero_iff {A : Type} (f : A → Nat) (l : List A) (start : Nat) :
    l.foldl (fun diff a => diff ||| f a) start = 0 ↔ start = 0 ∧ ∀ a ∈ l, f a = 0 := by
  induction l generalizing start with
  | nil => simp
  | cons a l ih =>
      rw [List.foldl_cons, ih, Nat.or_eq_zero_iff, List.forall_mem_cons, and_assoc]

theorem constantTimeEq_iff {left right : Bytes} :
    constantTimeEq left right = true ↔ left = right := by
  rw [constantTimeEq, decide_eq_true_iff, foldl_or_eq_zero_iff]
  constructor
  · rintro ⟨hlength, hbytes⟩
    -- The fold starts with the lengths, so that no byte is compared with a missing one.
    have hlen : left.length = right.length := Nat.xor_eq_zero_iff.mp hlength
    refine List.ext_getElem hlen fun i hl hr => ?_
    have hbyte := hbytes i (List.mem_range.mpr (lt_max_of_lt_left hl))
    rw [List.getD_eq_getElem _ _ hl, List.getD_eq_getElem _ _ hr] at hbyte
    exact UInt8.xor_eq_zero_iff.mp (UInt8.toNat_inj.mp hbyte)
  · rintro rfl
    refine ⟨Nat.xor_self _, fun i _ => ?_⟩
    rw [UInt8.xor_self]
    rfl

/-! ## What is sent and what is read -/

theorem bytesOf_append (left right : List Char) :
    bytesOf (left ++ right) = bytesOf left ++ bytesOf right := by
  simp [bytesOf, utf8Bytes, String.ofList_append, ByteArray.data_append]

theorem bytesOf_injective : Function.Injective bytesOf := by
  intro left right h
  exact String.ofList_injective (utf8Bytes_injective h)

theorem visibleAscii_bearer_iff (token : List Char) :
    VisibleAscii ("Bearer ".toList ++ token) ↔ VisibleAscii token := by
  have hbearer : (bytesOf "Bearer ".toList).all isVisibleAscii = true := by decide
  rw [VisibleAscii, VisibleAscii, bytesOf_append, List.all_append, hbearer, Bool.true_and]

theorem stripPrefix_append (front rest : List Char) :
    stripPrefix front (front ++ rest) = some rest := by
  rw [stripPrefix, if_pos (List.isPrefixOf_iff_prefix.mpr (List.prefix_append _ _)),
    List.drop_left]

theorem MetadataMap.get_insert_self (metadata : MetadataMap) (key : String)
    (value : HeaderValue) : (metadata.insert key value).get key = some value := by
  have hget : KeyedStore.get? (metadata.insert key value) key = some (key, value) :=
    KeyedStore.get?_set metadata key value
  rw [MetadataMap.get, hget, Option.map_some]

theorem MetadataMap.get_insert_of_ne (metadata : MetadataMap) {key other : String}
    (h : other ≠ key) (value : HeaderValue) :
    (metadata.insert key value).get other = metadata.get other := by
  have hentries : (metadata.insert key value).get? other = metadata.get? other := by
    ext entry
    rw [KeyedStore.get?_eq_some_iff, KeyedStore.get?_eq_some_iff, MetadataMap.insert,
      KeyedStore.mem_set]
    constructor
    · rintro ⟨hwritten | ⟨hmem, -⟩, hkey⟩
      · rw [hwritten] at hkey
        exact absurd hkey.symm h
      · exact ⟨hmem, hkey⟩
    · rintro ⟨hmem, hkey⟩
      refine ⟨.inr ⟨hmem, fun hsame => h ?_⟩, hkey⟩
      exact hkey.symm.trans hsame
  rw [MetadataMap.get, hentries, MetadataMap.get]

/-! ## Trimming -/

theorem trim_eq_rdropWhile (value : List Char) :
    trim value = (value.dropWhile isWhitespace).rdropWhile isWhitespace := rfl

/-- What is trimmed has no blanks around it. -/
theorem trim_trim (value : List Char) : trim (trim value) = trim value := by
  have hfront : (trim value).dropWhile isWhitespace = trim value := by
    rw [List.dropWhile_eq_self_iff, trim_eq_rdropWhile]
    intro hpos
    have hinit := List.rdropWhile_prefix isWhitespace (value.dropWhile isWhitespace)
    rw [hinit.getElem hpos]
    exact List.dropWhile_get_zero_not isWhitespace value _
  rw [trim_eq_rdropWhile (trim value), hfront, trim_eq_rdropWhile value,
    List.rdropWhile_idempotent]

/-! ## A request of the client -/

/-- The configuration takes the token. -/
def Accepted (token : List Char) : Prop :=
  trim token ≠ []

instance (token : List Char) : Decidable (Accepted token) :=
  inferInstanceAs (Decidable (_ ≠ []))

theorem configured_of_accepted {token : List Char} (h : Accepted token) :
    configured (some token) = some token := by
  rw [configured, Option.filter_some, if_pos]
  rw [Bool.not_eq_true', List.isEmpty_eq_false_iff]
  exact h

/-- A token keeps the server from refusing the address. -/
theorem serve_of_accepted {token : List Char} (h : Accepted token) (bind : SocketAddr)
    (allowUnauthenticated : Option String) :
    serve bind allowUnauthenticated (some token) = .ok { agentToken := some token } := by
  rw [serve, configured_of_accepted h]
  rfl

section Requests

variable {values : MetadataValues} {T : Type} {token : List Char} {message : T}

theorem parseMetadata_ok_iff {context : String} {text : List Char} {value : HeaderValue} :
    parseMetadata values context text = .ok value ↔ values.parse text = some value := by
  rw [parseMetadata]
  cases values.parse text with
  | none => exact iff_of_false nofun nofun
  | some found => rw [Except.ok.injEq, Option.some.injEq]

/-- The library takes both values that the client makes of the token. -/
def Sendable (values : MetadataValues) (token : List Char) : Prop :=
  (values.parse ("Bearer ".toList ++ token)).isSome ∧ (values.parse token).isSome

theorem withAuth_of_sendable (message : T) (haccepted : Accepted token)
    (hsend : Sendable values token) :
    ∃ request, (connect (some token)).withAuth values message = .ok request := by
  obtain ⟨bearer, hbearer⟩ := Option.isSome_iff_exists.mp hsend.1
  obtain ⟨value, hvalue⟩ := Option.isSome_iff_exists.mp hsend.2
  rw [XdsClient.withAuth, connect, configured_of_accepted haccepted]
  exact ⟨_, bind_ok_iff.mpr ⟨_, parseMetadata_ok_iff.mpr hbearer,
    bind_ok_iff.mpr ⟨_, parseMetadata_ok_iff.mpr hvalue, rfl⟩⟩⟩

/-- Both headers of a request have the bytes of the token. -/
theorem metadata_of_withAuth (hvalues : values.Documented) {request : Request T}
    (haccepted : Accepted token)
    (h : (connect (some token)).withAuth values message = .ok request) :
    request.metadata.get "authorization" = some (bytesOf ("Bearer ".toList ++ token)) ∧
      request.metadata.get "x-agent-token" = some (bytesOf token) := by
  rw [XdsClient.withAuth, connect, configured_of_accepted haccepted] at h
  obtain ⟨bearer, hbearer, h⟩ := bind_ok_iff.mp h
  obtain ⟨value, hvalue, h⟩ := bind_ok_iff.mp h
  cases h
  have hbearer := hvalues.bytes _ _ (parseMetadata_ok_iff.mp hbearer)
  have hvalue := hvalues.bytes _ _ (parseMetadata_ok_iff.mp hvalue)
  dsimp only
  rw [MetadataMap.get_insert_of_ne _ (by decide), MetadataMap.get_insert_self,
    MetadataMap.get_insert_self, hbearer, hvalue]
  exact ⟨rfl, rfl⟩

theorem metadataToken_of_visible (hvalues : values.Documented) {metadata : MetadataMap}
    (hget : metadata.get "authorization" = some (bytesOf ("Bearer ".toList ++ token)))
    (haccepted : Accepted token) (hvisible : VisibleAscii token) :
    metadataToken values metadata = some (trim token) := by
  have hread := hvalues.visible _ ((visibleAscii_bearer_iff token).mpr hvisible)
  have hkept : (some (trim token)).filter (fun value => !value.isEmpty) = some (trim token) := by
    rw [Option.filter_some, if_pos]
    rw [Bool.not_eq_true', List.isEmpty_eq_false_iff]
    exact haccepted
  rw [metadataToken, hget, Option.bind_some, hread, Option.bind_some, stripPrefix_append,
    Option.some_or, Option.map_some, hkept, Option.some_or]

/-- Neither header can be read as text. -/
theorem metadataToken_of_hidden (hvalues : values.Documented) {metadata : MetadataMap}
    (hbearer : metadata.get "authorization" = some (bytesOf ("Bearer ".toList ++ token)))
    (hvalue : metadata.get "x-agent-token" = some (bytesOf token))
    (hhidden : ¬ VisibleAscii token) : metadataToken values metadata = none := by
  have hfirst := hvalues.hidden _ (mt (visibleAscii_bearer_iff token).mp hhidden)
  have hsecond := hvalues.hidden _ hhidden
  rw [metadataToken, hbearer, hvalue, Option.bind_some, Option.bind_some, hfirst, hsecond]
  rfl

/-- The server knows a client by what is left of its token without the blanks around it, if the
token can be read at all. -/
theorem authorized_withAuth_iff (hvalues : values.Documented) {server client : List Char}
    {request : Request T} (hclient : Accepted client)
    (h : (connect (some client)).withAuth values message = .ok request) :
    XdsService.authorized { agentToken := some server } values request.metadata = true ↔
      VisibleAscii client ∧ trim client = server := by
  obtain ⟨hbearer, hvalue⟩ := metadata_of_withAuth hvalues hclient h
  rw [XdsService.authorized]
  -- The fallback is no help: both headers hold the token, and one is read as the other is.
  by_cases hvisible : VisibleAscii client
  · rw [metadataToken_of_visible hvalues hbearer hclient hvisible, and_iff_right hvisible]
    exact constantTimeEq_iff.trans bytesOf_injective.eq_iff
  · rw [metadataToken_of_hidden hvalues hbearer hvalue hvisible]
    exact iff_of_false nofun fun hboth => hvisible hboth.1

/-! ## Agreement -/

/-- Sides with one token agree on every request that the client builds, and sides whose tokens
differ by more than blanks agree on none. -/
def Agree (values : MetadataValues) (server client : List Char) : Prop :=
  ∀ (T : Type) (message : T) (request : Request T) (bind : SocketAddr)
    (allowUnauthenticated : Option String) (service : XdsService),
    (connect (some client)).withAuth values message = .ok request →
    serve bind allowUnauthenticated (some server) = .ok service →
      (server = client → service.authorized values request.metadata = true) ∧
        (trim server ≠ trim client → service.authorized values request.metadata = false)

/-- Two accepted tokens agree exactly when they are no one text that has blanks around it or
characters that are not visible ASCII. -/
theorem agree_iff (values : MetadataValues) (hvalues : values.Documented)
    (server client : List Char) (hserver : Accepted server) (hclient : Accepted client)
    (hsend : Sendable values client) :
    Agree values server client ↔
      (server = client → trim server = server ∧ VisibleAscii server) := by
  constructor
  · intro h hsame
    obtain ⟨request, hrequest⟩ := withAuth_of_sendable () hclient hsend
    -- One request decides, whatever it asks for and wherever the server listens.
    have hauthorized := (h Unit () request { isLoopback := true, display := "127.0.0.1:50051" }
      none _ hrequest (serve_of_accepted hserver _ _)).1 hsame
    obtain ⟨hvisible, htrim⟩ := (authorized_withAuth_iff hvalues hclient hrequest).mp hauthorized
    rw [hsame]
    exact ⟨htrim.trans hsame, hvisible⟩
  · intro h T message request bind allowUnauthenticated service hrequest hserve
    rw [serve_of_accepted hserver] at hserve
    cases hserve
    have hiff : _ ↔ VisibleAscii client ∧ trim client = server :=
      authorized_withAuth_iff hvalues hclient hrequest
    refine ⟨fun hsame => hiff.mpr ?_, fun hdiffer => ?_⟩
    · obtain ⟨htrim, hvisible⟩ := h hsame
      rw [← hsame]
      exact ⟨hvisible, htrim⟩
    · rw [Bool.eq_false_iff]
      intro hauthorized
      apply hdiffer
      calc
        trim server = trim (trim client) := by rw [(hiff.mp hauthorized).2]
        _ = trim client := trim_trim client

end Requests

/-! ### Values as they are sent -/

/-- A header takes every byte but the control characters. -/
def isHeaderByte (byte : UInt8) : Bool :=
  (32 ≤ byte && byte != 127) || byte = 9

def httpValues : MetadataValues where
  parse text := if (bytesOf text).all isHeaderByte then some (bytesOf text) else none
  toStr value := if value.all isVisibleAscii then (fromUtf8 value).map String.toList else none

theorem documented_httpValues : httpValues.Documented where
  bytes := by
    intro text value h
    simp only [httpValues] at h
    split at h
    · exact (Option.some.inj h).symm
    · cases h
  visible := by
    intro text hvisible
    have hread : fromUtf8 (bytesOf text) = some (String.ofList text) :=
      fromUtf8_eq_some_iff.mpr rfl
    exact (if_pos hvisible).trans (by rw [hread, Option.map_some, String.toList_ofList])
  hidden := fun _ hhidden => if_neg hhidden

/-- A token without blanks around it, on both sides. -/
theorem agree_iff_plain : Agree httpValues "secret".toList "secret".toList :=
  (agree_iff httpValues documented_httpValues "secret".toList "secret".toList (by decide)
    (by decide) ⟨by decide, by decide⟩).mpr fun _ => ⟨by decide, by decide⟩

/-- The client sends the token, and a server with the same token refuses it. -/
structure RefusedAlike (token : List Char) : Prop where
  accepted : Accepted token
  sendable : Sendable httpValues token
  refused : ∃ request, (connect (some token)).withAuth httpValues () = .ok request ∧
    XdsService.authorized { agentToken := some token } httpValues request.metadata = false
  disagree : ¬ Agree httpValues token token

theorem refusedAlike {token : List Char} (haccepted : Accepted token)
    (hsend : Sendable httpValues token) (h : ¬ (trim token = token ∧ VisibleAscii token)) :
    RefusedAlike token := by
  obtain ⟨request, hrequest⟩ := withAuth_of_sendable () haccepted hsend
  have hrefused : XdsService.authorized { agentToken := some token } httpValues
      request.metadata = false := by
    rw [Bool.eq_false_iff]
    intro hauthorized
    exact h ((authorized_withAuth_iff documented_httpValues haccepted hrequest).mp
      hauthorized).symm
  refine ⟨haccepted, hsend, ⟨request, hrequest, hrefused⟩, fun hagree => ?_⟩
  have hauthorized := (hagree Unit () request { isLoopback := true, display := "127.0.0.1:50051" }
    none _ hrequest (serve_of_accepted haccepted _ _)).1 rfl
  rw [hrefused] at hauthorized
  cases hauthorized

/-- Both sides are configured with one token that ends in a blank, or with one that has an accent,
and the client is refused. -/
theorem padded_and_accented_tokens_refused :
    RefusedAlike "secret ".toList ∧ RefusedAlike "té".toList :=
  ⟨refusedAlike (by decide) ⟨by decide, by decide⟩ (by decide),
    refusedAlike (by decide) ⟨by decide, by decide⟩ (by decide)⟩

end TokenAuth
end ControlPlane
end XdpFirewall
