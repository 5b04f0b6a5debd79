import XdpFirewall.Agent.ControlUrl
import XdpFirewall.ControlPlane.Sync

/-!
# ControlTrust — the agent trusts the control plane that it is connected to

The agent connects to the control plane by a URL, which the transport library reads once the blanks
around it are gone. Before a policy is compiled, the address that the agent's own reader finds in
the URL is trusted. A URL is plain when both find the same.
-/

namespace XdpFirewall
namespace Agent

open Lib Net Net.IpText Policy ControlPlane

/-! ## The client -/

structure XdsClientTls where
  caCert : Option String
  clientCert : Option String
  clientKey : Option String
  insecure : Bool

structure XdsClientConfig where
  controlUrl : String
  tls : XdsClientTls

inductive TlsDecision
  | plain
  | tls (clientIdentity skipVerify : Bool)
  deriving DecidableEq

structure ClientTlsConfig where
  caCertificate : Option String
  nativeRoots : Bool
  identity : Option (String × String)
  deriving DecidableEq

structure Endpoint where
  host : List Char
  tls : Option ClientTlsConfig

/-- The transport library and the files: which URLs are read as one of an endpoint, what a file
holds, and which TLS configurations can be set up. -/
structure Transport where
  fromShared : List Char → Option Endpoint
  readFile : String → Option String
  acceptsTls : ClientTlsConfig → Bool

def decideTls (url : List Char) (tls : XdsClientTls) : Except String TlsDecision :=
  if https.isPrefixOf url then
    if tls.insecure ∧ tls.caCert.isSome then
      .error ("--xds-tls-insecure cannot be combined with --xds-ca-cert; either trust the " ++
        "control-plane CA or skip verification, not both")
    else
      match tls.clientCert, tls.clientKey with
      | none, none => .ok (.tls false tls.insecure)
      | some _, some _ => .ok (.tls true tls.insecure)
      | some _, none =>
          .error ("--xds-client-cert is set without --xds-client-key; configure both or neither " ++
            "for https:// control URLs")
      | none, some _ =>
          .error ("--xds-client-key is set without --xds-client-cert; configure both or neither " ++
            "for https:// control URLs")
  else if http.isPrefixOf url then
    if tls.caCert.isSome ∨ tls.clientCert.isSome ∨ tls.clientKey.isSome ∨ tls.insecure then
      .error ("xDS control URL is http:// but TLS options (--xds-ca-cert/--xds-client-cert/" ++
        "--xds-client-key/--xds-tls-insecure) are configured; use an https:// control URL or " ++
        "remove the TLS options")
    else
      .ok .plain
  else
    .error ("xDS control plane URL must start with http:// or https://, got '" ++
      String.ofList url ++ "'")

section Client

variable (lib : Transport)

def readPem (path : String) : Except String String :=
  match lib.readFile path with
  | some pem => .ok pem
  | none => .error ("failed to read xDS TLS PEM file " ++ path)

def readIdentity (tls : XdsClientTls) (clientIdentity : Bool) :
    Except String (Option (String × String)) :=
  if clientIdentity then
    match tls.clientCert, tls.clientKey with
    | some cert, some key => do
        let cert ← readPem lib cert
        let key ← readPem lib key
        return some (cert, key)
    -- A panic, which the decision has ruled out.
    | _, _ => .error "client identity pairing validated by decide_tls"
  else
    .ok none

def buildClientTlsConfig (tls : XdsClientTls) (clientIdentity : Bool) :
    Except String ClientTlsConfig := do
  let caCertificate ←
    match tls.caCert with
    | some ca => (readPem lib ca).map some
    | none => .ok none
  let identity ← readIdentity lib tls clientIdentity
  return {
    caCertificate := caCertificate
    nativeRoots := caCertificate.isNone
    identity := identity }

def insecureClientTlsConfig (tls : XdsClientTls) (clientIdentity : Bool) :
    Except String ClientTlsConfig := do
  let identity ← readIdentity lib tls clientIdentity
  return {
    caCertificate := none
    nativeRoots := false
    identity := identity }

def clientTlsConfig (tls : XdsClientTls) (clientIdentity skipVerify : Bool) :
    Except String ClientTlsConfig :=
  if skipVerify then
    insecureClientTlsConfig lib tls clientIdentity
  else
    buildClientTlsConfig lib tls clientIdentity

def buildEndpoint (config : XdsClientConfig) : Except String Endpoint :=
  let url := trim config.controlUrl.toList
  match lib.fromShared url with
  | none => .error ("invalid xDS control plane URL '" ++ String.ofList url ++ "'")
  | some endpoint =>
      match decideTls url config.tls with
      | .error e => .error e
      | .ok .plain => .ok endpoint
      | .ok (.tls clientIdentity skipVerify) => do
          let tls ← clientTlsConfig lib config.tls clientIdentity skipVerify
          if lib.acceptsTls tls then
            .ok { endpoint with tls := some tls }
          else
            .error ("failed to configure TLS for xDS control plane '" ++ String.ofList url ++ "'")

end Client

/-! ## Trusting the control plane -/

/-- `add_control_plane_trusted_cidrs` -/
def trustControlPlane (snapshot : PolicySnapshot) (controlUrl : List Char) :
    Except String PolicySnapshot :=
  (resolveControlPlanePrefixes controlUrl).map fun control =>
    addControlPlaneTrustedCidrs control snapshot

def trustedHost (ip : IpAddr) : XdpTrustedPrefix where
  toNetwork := (hostNet ip).toNetwork

theorem resolveControlPlanePrefixes_eq {controlUrl : List Char} {host : List Char} {port : Nat}
    (hfound : controlPlaneHostPort controlUrl = .ok (host, port)) {ip : IpAddr}
    (hip : parseIpAddr host = some ip) :
    resolveControlPlanePrefixes controlUrl = .ok [hostNet ip] := by
  rw [resolveControlPlanePrefixes, hfound]
  dsimp only [Except.map]
  rw [hip]

/-- A policy that compiles also compiles with what is added for the URL, and then it trusts the
address besides and is otherwise the same. -/
def TrustsExactly (controlUrl : List Char) (ip : IpAddr) : Prop :=
  ∀ (now : Int) (snapshot : PolicySnapshot) (compiled : CompiledPolicy),
    compilePolicy now snapshot = .ok compiled →
      ∃ trusting prefixes, trustControlPlane snapshot controlUrl = .ok trusting ∧
        compilePolicy now trusting = .ok { compiled with trustedPrefixes := prefixes } ∧
        ∀ p, p ∈ prefixes ↔ p ∈ compiled.trustedPrefixes ∨ p = trustedHost ip

theorem trustedHost_injective : Function.Injective trustedHost := by
  intro a b h
  have hnetwork : (hostNet a).toNetwork = (hostNet b).toNetwork :=
    congrArg XdpTrustedPrefix.toNetwork h
  have hcontains : (hostNet b).contains a = true := by
    rw [← IpNet.toNetwork_contains_iff, ← hnetwork, IpNet.toNetwork_contains_iff]
    exact hostNet_contains_iff.mpr rfl
  exact hostNet_contains_iff.mp hcontains

theorem mem_compileTrustedPrefixes {control : List IpNet} {snapshot : PolicySnapshot}
    {p : XdpTrustedPrefix} :
    p ∈ compileTrustedPrefixes (addControlPlaneTrustedCidrs control snapshot).trustedCidrs ↔
      p ∈ compileTrustedPrefixes snapshot.trustedCidrs ∨
        ∃ net ∈ control, p = { toNetwork := net.toNetwork } := by
  have hmap : ∀ trusted : List TrustedCidrPolicy, p ∈ compileTrustedPrefixes trusted ↔
      ∃ net ∈ trustedNetworks trusted, p = { toNetwork := net.toNetwork } := by
    intro trusted
    simp [compileTrustedPrefixes, trustedNetworks, eq_comm]
  rw [hmap, hmap, addControlPlaneTrustedCidrs]
  simp only [mem_trustedNetworks_foldl, or_and_right, exists_or]

/-- The networks that are added do not keep a policy from being compiled. -/
theorem compilePolicy_addControlPlane {now : Int} {snapshot : PolicySnapshot}
    {compiled : CompiledPolicy} (control : List IpNet)
    (h : compilePolicy now snapshot = .ok compiled) :
    compilePolicy now (addControlPlaneTrustedCidrs control snapshot) = .ok { compiled with
      trustedPrefixes := compileTrustedPrefixes
        (addControlPlaneTrustedCidrs control snapshot).trustedCidrs } := by
  obtain ⟨hvalid, countryRules, geoPrefixes, hcountry, hgeo, rfl⟩ := compilePolicy_ok h
  exact compilePolicy_of_valid now hvalid hcountry hgeo

theorem trustsExactly_iff_finds {controlUrl : List Char} {ip : IpAddr} :
    TrustsExactly controlUrl ip ↔ Finds (controlPlaneHostPort controlUrl) ip := by
  constructor
  · intro h
    have hempty : compilePolicy 0 (PolicySnapshot.unread 0) = .ok
        { CompiledPolicy.unloaded 0 with
          dynamicDefense := compileDynamicDefense (PolicySnapshot.unread 0).dynamicDefense } := rfl
    obtain ⟨trusting, prefixes, htrust, hcompile, hprefixes⟩ := h _ _ _ hempty
    rw [trustControlPlane, resolveControlPlanePrefixes] at htrust
    cases hfound : controlPlaneHostPort controlUrl with
    | error e =>
        rw [hfound] at htrust
        cases htrust
    | ok found =>
        obtain ⟨host, port⟩ := found
        rw [hfound] at htrust
        refine ⟨host, port, rfl, ?_⟩
        have hsame := Except.ok.inj htrust
        subst hsame
        rw [compilePolicy_addControlPlane _ hempty] at hcompile
        have hlist := congrArg CompiledPolicy.trustedPrefixes (Except.ok.inj hcompile)
        dsimp only at hlist
        have hmem : trustedHost ip ∈ prefixes := (hprefixes _).mpr (.inr rfl)
        rw [← hlist, mem_compileTrustedPrefixes] at hmem
        rcases hmem with hold | ⟨net, hnet, heq⟩
        · cases hold
        · cases hparse : parseIpAddr host with
          | none =>
              rw [hparse] at hnet
              cases hnet
          | some ip' =>
              rw [hparse] at hnet
              rw [List.mem_singleton.mp hnet] at heq
              rw [trustedHost_injective heq]
  · rintro ⟨host, port, hfound, hip⟩ now snapshot compiled hcompile
    refine ⟨addControlPlaneTrustedCidrs [hostNet ip] snapshot, _, ?_,
      compilePolicy_addControlPlane _ hcompile, ?_⟩
    · rw [trustControlPlane, resolveControlPlanePrefixes_eq hfound hip]
      rfl
    · intro p
      rw [mem_compileTrustedPrefixes]
      obtain ⟨-, countryRules, geoPrefixes, -, -, rfl⟩ := compilePolicy_ok hcompile
      simp [trustedHost]

/-! ## The URLs that the client accepts -/

/-- The library reads the generic syntax: the host is what stands between the user information and
the port. -/
def Transport.Generic (lib : Transport) : Prop :=
  ∀ text endpoint, lib.fromShared text = some endpoint →
    http.isPrefixOf text ∨ https.isPrefixOf text →
      ∃ url : Url, url.text = text ∧ url.host = endpoint.host

theorem exists_blanks (value : List Char) :
    ∃ lead trail, value = lead ++ (trim value ++ trail) ∧
      (∀ c ∈ lead, isWhitespace c = true) ∧ ∀ c ∈ trail, isWhitespace c = true := by
  refine ⟨value.takeWhile isWhitespace,
    ((value.dropWhile isWhitespace).reverse.takeWhile isWhitespace).reverse, ?_,
    fun c hc => List.mem_takeWhile_imp hc,
    fun c hc => List.mem_takeWhile_imp (List.mem_reverse.mp hc)⟩
  rw [trim, ← List.reverse_append, List.takeWhile_append_dropWhile, List.reverse_reverse,
    List.takeWhile_append_dropWhile]

theorem scheme_of_decideTls {url : List Char} {tls : XdsClientTls} {decision : TlsDecision}
    (h : decideTls url tls = .ok decision) : http.isPrefixOf url ∨ https.isPrefixOf url := by
  rw [decideTls] at h
  by_cases hhttps : https.isPrefixOf url
  · exact .inr hhttps
  · rw [if_neg hhttps] at h
    by_cases hhttp : http.isPrefixOf url
    · exact .inl hhttp
    · rw [if_neg hhttp] at h
      cases h

/-- An endpoint is one of the URL without the blanks around it, and its scheme is one of the two. -/
theorem buildEndpoint_ok {lib : Transport} {config : XdsClientConfig} {endpoint : Endpoint}
    (h : buildEndpoint lib config = .ok endpoint) :
    ∃ base, lib.fromShared (trim config.controlUrl.toList) = some base ∧
      base.host = endpoint.host ∧
      (http.isPrefixOf (trim config.controlUrl.toList) ∨
        https.isPrefixOf (trim config.controlUrl.toList)) := by
  rw [buildEndpoint] at h
  cases hbase : lib.fromShared (trim config.controlUrl.toList) with
  | none =>
      rw [hbase] at h
      cases h
  | some base =>
      rw [hbase] at h
      dsimp only at h
      cases hdecide : decideTls (trim config.controlUrl.toList) config.tls with
      | error e =>
          rw [hdecide] at h
          cases h
      | ok decision =>
          rw [hdecide] at h
          refine ⟨base, rfl, ?_, scheme_of_decideTls hdecide⟩
          cases decision with
          | plain =>
              cases h
              rfl
          | tls clientIdentity skipVerify =>
              obtain ⟨tls, -, h⟩ := bind_ok_iff.mp h
              split at h
              · cases h
                rfl
              · cases h

/-! ## Plain URLs -/

def plainUrl : String := "http://192.0.2.10:50051"

/-- What the library makes of this URL. -/
def plainTransport : Transport where
  fromShared text :=
    if text = plainUrl.toList then some { host := "192.0.2.10".toList, tls := none } else none
  readFile _ := none
  acceptsTls _ := true

def plainParts : Url where
  secure := false
  userinfo := none
  host := "192.0.2.10".toList
  tail := ":50051".toList
  rest := []
  authority_free := fun c hc =>
    of_decide_eq_true (List.all_eq_true.mp (show (("192.0.2.10".toList ++ ":50051".toList).all
      fun c => decide (c ≠ '/' ∧ c ≠ '?' ∧ c ≠ '#')) = true from rfl) c hc)
  at_free := by decide
  tail_port _ := .inr rfl
  rest_start := nofun

def noTls : XdsClientTls where
  caCert := none
  clientCert := none
  clientKey := none
  insecure := false

theorem generic_plainTransport : plainTransport.Generic := by
  intro text endpoint hendpoint _
  rw [plainTransport] at hendpoint
  dsimp only at hendpoint
  split at hendpoint
  next htext =>
    cases hendpoint
    exact ⟨plainParts, htext ▸ rfl, rfl⟩
  · cases hendpoint

theorem literal_plainUrl : Literal "192.0.2.10".toList (.v4 0xC000020A) :=
  .v4 (by decide)

/-- The control plane of a URL with an address as its host is trusted exactly if the URL is plain
as it was given; and the parts of every URL that the client accepts can be told. -/
theorem trustsExactly_iff_plain (lib : Transport) (hgeneric : lib.Generic)
    (config : XdsClientConfig) (endpoint : Endpoint) (ip : IpAddr)
    (haccept : buildEndpoint lib config = .ok endpoint) (hliteral : Literal endpoint.host ip) :
    (∃ w : GivenUrl, w.text = config.controlUrl.toList ∧ w.url.host = endpoint.host) ∧
      ∀ w : GivenUrl, w.text = config.controlUrl.toList → w.url.host = endpoint.host →
        (TrustsExactly config.controlUrl.toList ip ↔ w.Plain ip) := by
  constructor
  · obtain ⟨base, hbase, hhost, hscheme⟩ := buildEndpoint_ok haccept
    obtain ⟨url, htext, hurl⟩ := hgeneric _ _ hbase hscheme
    obtain ⟨lead, trail, hblanks, hlead, htrail⟩ := exists_blanks config.controlUrl.toList
    refine ⟨⟨lead, url, trail, hlead, htrail⟩, ?_, hurl.trans hhost⟩
    rw [GivenUrl.text, htext, ← hblanks]
  · intro w htext hhost
    rw [trustsExactly_iff_finds, ← htext]
    rw [← hhost] at hliteral
    exact w.finds_iff hliteral

/-- A plain URL, whose host is trusted. -/
theorem trustsExactly_iff_plain_plainUrl : TrustsExactly plainUrl.toList (.v4 0xC000020A) := by
  have hspec := trustsExactly_iff_plain plainTransport generic_plainTransport
    ⟨plainUrl, noTls⟩ ⟨"192.0.2.10".toList, none⟩ (.v4 0xC000020A) rfl literal_plainUrl
  let w : GivenUrl := ⟨[], plainParts, [], nofun, nofun⟩
  exact (hspec.2 w rfl rfl).mpr ⟨rfl, rfl, .inr ⟨"50051".toList, rfl, 50051, rfl⟩⟩

/-- The same URL with a blank behind it is accepted, but no policy can be applied. -/
theorem blank_behind_port :
    buildEndpoint plainTransport ⟨plainUrl ++ " ", noTls⟩ = .ok ⟨"192.0.2.10".toList, none⟩ ∧
      Literal "192.0.2.10".toList (.v4 0xC000020A) ∧
      (∀ snapshot, trustControlPlane snapshot (plainUrl ++ " ").toList =
        .error "invalid xDS control URL port") ∧
      ¬ TrustsExactly (plainUrl ++ " ").toList (.v4 0xC000020A) := by
  have hport : controlPlaneHostPort (plainUrl ++ " ").toList =
      .error "invalid xDS control URL port" := by rfl
  refine ⟨rfl, literal_plainUrl, ?_, ?_⟩
  · intro snapshot
    rw [trustControlPlane, resolveControlPlanePrefixes, hport]
    rfl
  · rw [trustsExactly_iff_finds, hport]
    rintro ⟨host, port, hok, -⟩
    cases hok

end Agent
end XdpFirewall
