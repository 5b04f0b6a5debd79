import XdpFirewall.ControlPlane.LoadPolicy

/-!
# Validation — what a request to the API may contain

The API brings texts into one form before they are stored: networks without host bits, actions,
protocols and feed formats by their own names, country codes in upper case. What cannot be
brought into that form is refused, before or inside the transaction of the request.
-/

namespace XdpFirewall
namespace Api

open Net Policy ControlPlane

/-! ## Errors and surroundings -/

/-- The texts are those before credentials and further lines are taken out. -/
inductive ApiError
  | badRequest (message : String)
  | notFound (message : String)
  | conflict (message : String)
  | internal (message : String)
  deriving DecidableEq, Repr

abbrev ApiResult := Except ApiError

/-- `From<anyhow::Error>` -/
def fromAnyhow {A : Type} : Except String A → ApiResult A
  | .ok a => .ok a
  | .error message => .error (.badRequest message)

theorem fromAnyhow_ok_iff {B : Type} {result : Except String B} {b : B} :
    fromAnyhow result = .ok b ↔ result = .ok b := by
  cases result with
  | ok a => simp [fromAnyhow]
  | error message => simp [fromAnyhow]

/-- A registered node, with the columns that requests are checked against. -/
structure NodeRow where
  nodeId : String
  policyName : String
  interfaceName : String
  interfaceIps : String

/-- What a request finds around it: readers and writers of texts, the registered nodes, the clock,
the number that the database gives to a new row, and where a query fails. `keyDigest` is the text
made of the SHA-256 digest of a rule, `urlScheme` the scheme of a text that is a URL. -/
structure ApiEnv where
  text : TextReaders
  display : IpNet → String
  displayAddr : IpAddr → String
  keyDigest : String → String
  urlScheme : String → Option String
  nodes : List NodeRow
  now : Int
  nextId : List Int32 → Int32
  transactionFails : Option ApiError
  versionReadFails : Option ApiError

/-! ## Batches -/

/-- `MAX_BATCH_SIZE` -/
def maxBatchSize : Nat := 500

def validateBatchLen (len : Nat) : ApiResult Unit :=
  if len = 0 then
    .error (.badRequest "items must not be empty")
  else if maxBatchSize < len then
    .error (.badRequest ("items must contain at most " ++ maxBatchSize.repr ++ " entries"))
  else
    .ok ()

/-- The ids in the order of their first occurrence. -/
def uniqueIds (ids : List Int32) : ApiResult (List Int32) :=
  if ids.any fun id => id ≤ 0 then
    .error (.badRequest "ids must be positive integers")
  else
    .ok ids.eraseDups

def validateBatchIds (ids : List Int32) : ApiResult (List Int32) :=
  if ids.isEmpty then
    .error (.badRequest "ids must not be empty")
  else if maxBatchSize < ids.length then
    .error (.badRequest ("ids must contain at most " ++ maxBatchSize.repr ++ " entries"))
  else
    uniqueIds ids

def ensureAllIdsDeleted (deleted requested : Nat) (notFound : String) : ApiResult Unit :=
  if deleted = requested then .ok () else .error (.notFound notFound)

/-! ## Networks -/

section Networks

variable (env : ApiEnv)

def normalizeCidr (value : String) : Except String String :=
  let cidr := String.ofList (trim value.toList)
  if '/' ∈ cidr.toList then
    match env.text.ipNet cidr with
    | some net => .ok (env.display net.trunc)
    | none => .error ("invalid CIDR '" ++ cidr ++ "'")
  else
    .error "CIDR must include a prefix length"

def parseNormalizedCidr (value : String) : Except String IpNet := do
  match env.text.ipNet (← normalizeCidr env value) with
  | some net => .ok net
  | none => .error ("invalid normalized CIDR '" ++ value ++ "'")

def parseNodeInterfaceIps (value : String) : Except String (List IpAddr) :=
  (((value.toList.splitOn ',').map trim).filter fun part => !part.isEmpty).mapM fun part =>
    match env.text.ipAddr (String.ofList part) with
    | some ip => .ok ip
    | none => .error ("invalid persisted node interface IP '" ++ String.ofList part ++ "'")

/-- No node of the policy has an interface in the network. -/
def rejectNodeIpBlock (cidr : IpNet) (resource : String) : ApiResult Unit :=
  (env.nodes.filter fun row => row.policyName = defaultPolicyName).forM fun row => do
    let ips ← fromAnyhow (parseNodeInterfaceIps env row.interfaceIps)
    match ips.find? cidr.contains with
    | some ip =>
        .error (.badRequest (resource ++ " CIDR " ++ env.display cidr ++ " contains node " ++
          row.nodeId ++ " interface " ++ row.interfaceName ++ " IP " ++ env.displayAddr ip))
    | none => .ok ()

end Networks

/-! ## Fields of a policy -/

def normalizeAction (value : String) : Except String String :=
  match value.toLower with
  | "allow" => .ok "allow"
  | "deny" => .ok "deny"
  | "drop" => .ok "deny"
  | _ => .error "action must be allow or deny"

def normalizeProtocol (value : String) : Except String String :=
  match value.toLower with
  | "any" => .ok "any"
  | "tcp" => .ok "tcp"
  | "udp" => .ok "udp"
  | "icmp" => .ok "icmp"
  | _ => .error "protocol must be any, tcp, udp, or icmp"

/-- A port that the protocol can have; `icmpError` is for the protocol that has none. -/
def validatePortFor (icmpError protocol : String) (port : Option Int32) :
    Except String (Option Int32) :=
  match port with
  | none => .ok none
  | some port =>
      if 0 < port.toInt ∧ port.toInt < 65536 then
        match protocol with
        | "any" => .ok (some port)
        | "tcp" => .ok (some port)
        | "udp" => .ok (some port)
        | "icmp" => .error icmpError
        | other => .error ("unsupported protocol '" ++ other ++ "'")
      else
        .error "port must be between 1 and 65535"

def validatePort (protocol : Option String) : Option Int32 → Except String (Option Int32) :=
  validatePortFor "icmp rules cannot set a port" (protocol.getD "any")

def validateDynamicRatePort : String → Option Int32 → Except String (Option Int32) :=
  validatePortFor "icmp dynamic rate limits cannot set a port"

/-- `validate_positive_i32` -/
def validatePositiveInt32 (label : String) (value : Int32) : Except String Unit :=
  if value.toInt ≤ 0 then
    .error (label ++ " must be greater than 0")
  else
    .ok ()

def validateOptionalNonNegative (label : String) (value : Option Int32) : Except String Unit :=
  match value with
  | some value =>
      if value.toInt < 0 then
        .error (label ++ " must be greater than or equal to 0")
      else
        .ok ()
  | none => .ok ()

def normalizeThreatFormat (value : String) : Except String String :=
  match value.toLower with
  | "cidr" => .ok "cidr"
  | "ips" => .ok "ips"
  | "ipsum" => .ok "ipsum"
  | "voipbl" => .ok "voipbl"
  | "voipbl_cidr" => .ok "voipbl"
  | "voipbl-cidr" => .ok "voipbl"
  | "spamhaus_drop" => .ok "spamhaus_drop"
  | "spamhaus-drop" => .ok "spamhaus_drop"
  | _ => .error "threat format must be cidr, ips, ipsum, voipbl, or spamhaus_drop"

def validateSourceUrl (env : ApiEnv) (value : String) : Except String Unit :=
  match env.urlScheme value with
  | none => .error ("invalid threat source URL '" ++ value ++ "'")
  | some scheme =>
      if scheme = "http" ∨ scheme = "https" then
        .ok ()
      else
        .error "threat source URL must use http or https"

/-! ## Rule keys -/

def isRuleKeyChar (c : Char) : Bool :=
  c.isAlphanum || c == '-' || c == '_' || c == '.' || c == ':'

def normalizeRuleKey (value : Option String) : Except String (Option String) :=
  match value with
  | none => .ok none
  | some value =>
      let value := String.ofList (trim value.toList)
      if value.isEmpty then
        .ok none
      else if 128 < value.utf8ByteSize then
        .error "rule_key must contain at most 128 characters"
      else if value.toList.all isRuleKeyChar then
        .ok (some value)
      else
        .error "rule_key may only contain letters, numbers, '.', '_', '-', and ':'"

/-- The key of a rule that was sent without one. -/
def generatedRuleKey (env : ApiEnv) (priority : Int32) (action cidr : String)
    (protocol : Option String) (port : Option Int32) : String :=
  let port := (port.map fun port => port.toInt.repr).getD ""
  env.keyDigest ("priority=" ++ priority.toInt.repr ++ "\naction=" ++ action ++ "\ncidr=" ++ cidr ++
    "\nprotocol=" ++ protocol.getD "any" ++ "\nport=" ++ port ++ "\n")

/-! ## Durations -/

/-- `DEFAULT_TEMP_BAN_SECONDS` -/
def defaultTempBanSeconds : Int := 300

/-- `MAX_TEMP_BAN_SECONDS` -/
def maxTempBanSeconds : Int := 31536000

def validateDuration (value : Option Int) : Except String Int :=
  let duration := value.getD defaultTempBanSeconds
  if duration ≤ 0 then
    .error "duration_seconds must be greater than 0"
  else if maxTempBanSeconds < duration then
    .error ("duration_seconds must be less than or equal to " ++ maxTempBanSeconds.repr)
  else
    .ok duration

def expiration (now durationSeconds : Int) : Except String Int :=
  let expiresAt := now + durationSeconds * 1000000000
  if expiresAt ≤ maxNaiveDateTime then
    .ok expiresAt
  else
    .error "temporary ban expiration overflowed"

end Api
end XdpFirewall
