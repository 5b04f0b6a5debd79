import XdpFirewall.Api.Resources
import XdpFirewall.Lib.Batches
import XdpFirewall.Lib.KeyedStore

/-!
# Monitor — banning the sources of failed logins

The monitor keeps the failed logins of each address inside a time window. In each round it adds the
new ones and asks the API to ban the addresses that have failed too often, except trusted ones and
those that are banned already.
-/

namespace XdpFirewall
namespace BtmpMonitor

open Lib Net Policy ControlPlane Api

/-! ## Configuration -/

structure BanConfig where
  threshold : Nat
  windowSeconds : Nat
  durationSeconds : Int
  protocol : String
  port : Int32
  comment : String

structure MonitorConfig where
  btmpPath : String
  trustedCidrs : List IpNet

structure Config where
  apiUrl : String
  ban : BanConfig
  monitor : MonitorConfig

def BanConfig.validatePort (ban : BanConfig) : Except String Unit :=
  match ban.protocol with
  | "any" =>
      if ban.port = 0 then .ok () else .error "port must be 0 when protocol is \"any\""
  | "tcp" | "udp" =>
      if 1 ≤ ban.port.toInt ∧ ban.port.toInt ≤ 65535 then
        .ok ()
      else
        .error ("port must be in 1..=65535 when protocol is \"" ++ ban.protocol ++ "\"")
  | other => .error ("protocol must be one of: any, tcp, udp (got " ++ other.quote ++ ")")

def Config.validate (config : Config) : Except String Unit :=
  if config.apiUrl.isEmpty then
    .error "api-url must not be empty"
  else if config.ban.threshold < 1 then
    .error "threshold must be >= 1"
  else if config.ban.windowSeconds = 0 then
    .error "window-seconds must be > 0"
  else if config.ban.durationSeconds < 1 ∨ maxTempBanSeconds < config.ban.durationSeconds then
    .error ("duration-seconds must be between 1 and " ++ maxTempBanSeconds.repr)
  else
    match config.ban.validatePort with
    | .error message => .error message
    | .ok () =>
        if (trim config.monitor.btmpPath.toList).isEmpty then
          .error "btmp-path must not be empty"
        else
          .ok ()

/-- `ban_port` -/
def Config.banPort (config : Config) : Option Int32 :=
  if config.ban.protocol = "any" then none else some config.ban.port

/-! ## The window -/

structure FailedAttempt where
  ip : IpAddr
  time : Int

/-- The times of the failures of each address. -/
abbrev Counts := KeyedStore IpAddr (List Int) (id : IpAddr → IpAddr)

def Counts.push (counts : Counts) (attempt : FailedAttempt) : Counts :=
  counts.set attempt.ip (((counts.get? attempt.ip).map Prod.snd).getD [] ++ [attempt.time])

/-- The new failures are added, and those that have slid out of the window are dropped. -/
def mergeAttempts (counts : Counts) (attempts : List FailedAttempt) (cutoff : Int) : Counts where
  entries :=
    ((((attempts.filter fun attempt => cutoff ≤ attempt.time).foldl Counts.push counts).entries.map
      fun entry => (entry.1, entry.2.filter fun time => cutoff ≤ time)).filter
        fun entry => !entry.2.isEmpty)
  nodup := by
    refine List.Nodup.sublist (List.filter_sublist.map _) ?_
    rw [List.map_map]
    exact ((attempts.filter fun attempt => cutoff ≤ attempt.time).foldl Counts.push counts).nodup

/-- The start of the window; the number of seconds is read as an `i64`. Neither a duration nor a
point in time that cannot be expressed has a value here: the program panics. -/
def cutoff (config : Config) (now : Int) : Option Int :=
  let seconds := (Int64.ofNat config.ban.windowSeconds).toInt
  let start := now - seconds * 1000000000
  if seconds.natAbs ≤ 9223372036854775 ∧ minNaiveDateTime ≤ start ∧ start ≤ maxNaiveDateTime then
    some start
  else
    none

/-! ## The API -/

/-- `MAX_PAGE_SIZE` -/
def maxPageSize : Nat := 500

structure Pagination where
  number : Nat
  size : Nat

/-- `PaginationQuery::normalize` -/
def normalizePagination (page pageSize : Option Nat) : ApiResult Pagination :=
  let page := page.getD 1
  let pageSize := pageSize.getD 20
  if page = 0 then
    .error (.badRequest "page must be greater than or equal to 1")
  else if pageSize = 0 then
    .error (.badRequest "page_size must be greater than or equal to 1")
  else if maxPageSize < pageSize then
    .error (.badRequest ("page_size must be less than or equal to " ++ maxPageSize.repr))
  else
    .ok { number := page, size := pageSize }

structure BanPage where
  items : List TempBanRow
  total : Nat
  number : Nat
  size : Nat
  totalPages : Nat

/-- The bans that have not expired, the first to expire first. -/
def unexpiredBans (env : ApiEnv) (db : PolicyDb) : List TempBanRow :=
  (db.tempBans.filter fun row => row.policyName = defaultPolicyName && env.now < row.expiresAt)
    |>.mergeSort fun a b => a.expiresAt ≤ b.expiresAt

/-- `temp_bans::list`, for a query without filters. -/
def listTempBans (env : ApiEnv) (db : PolicyDb) (page pageSize : Option Nat) :
    ApiResult BanPage := do
  let pagination ← normalizePagination page pageSize
  let rows := unexpiredBans env db
  return {
    items := (rows.drop ((pagination.number - 1) * pagination.size)).take pagination.size
    total := rows.length
    number := pagination.number
    size := pagination.size
    totalPages := (rows.length + pagination.size - 1) / pagination.size }

theorem listTempBans_of_pos (env : ApiEnv) (db : PolicyDb) {page : Nat} (h : page ≠ 0) :
    listTempBans env db (some page) (some 500) = .ok {
      items := ((unexpiredBans env db).drop ((page - 1) * 500)).take 500
      total := (unexpiredBans env db).length
      number := page
      size := 500
      totalPages := ((unexpiredBans env db).length + 500 - 1) / 500 } := by
  simp only [listTempBans, normalizePagination, Option.getD_some, h, maxPageSize]
  rfl

/-! ## A round -/

/-- What a round finds: the time, the new records, the order in which the map of the failures is
walked, why no request gets to the API (if so), and the API's own surroundings. -/
structure Round (Cursor : Type) where
  now : Int
  attempts : Except String (List FailedAttempt × Cursor)
  iterate : Counts → List (IpAddr × List Int)
  unreachable : Option String
  env : ApiEnv

inductive RequestError
  | failed (message : String)
  | status (error : ApiError)

/-- `overflow` is the panic at the start of the window. -/
inductive RoundError
  | btmp (message : String)
  | overflow
  | listTempBans (cause : RequestError)
  | chunk (submitted : Nat) (cause : RequestError)

section Requests

variable {Cursor : Type} (round : Round Cursor)

def Round.request {A : Type} (answer : ApiResult A) : Except RequestError A :=
  match round.unreachable with
  | some message => .error (.failed message)
  | none => answer.mapError .status

variable {round} in
theorem totalPages_of_request {db : PolicyDb} {page : Nat} {body : BanPage}
    (h : round.request (listTempBans round.env db (some page) (some 500)) = .ok body) :
    body.totalPages = ((unexpiredBans round.env db).length + 500 - 1) / 500 := by
  rw [Round.request] at h
  cases hreach : round.unreachable with
  | some message =>
      rw [hreach] at h
      cases h
  | none =>
      rw [hreach] at h
      by_cases hpage : page = 0
      · subst hpage
        cases h
      · rw [listTempBans_of_pos _ _ hpage] at h
        cases h
        rfl

/-- The pages from `page` on. -/
def listFrom (db : PolicyDb) (page : Nat) : Except RequestError (List String) :=
  match _hbody : round.request (listTempBans round.env db (some page) (some 500)) with
  | .error e => .error e
  | .ok body =>
      if body.totalPages ≤ page ∨ body.items.isEmpty then
        .ok (body.items.map TempBanRow.cidr)
      else
        match listFrom db (page + 1) with
        | .error e => .error e
        | .ok rest => .ok (body.items.map TempBanRow.cidr ++ rest)
termination_by ((unexpiredBans round.env db).length + 500 - 1) / 500 - page
decreasing_by
  have htotal := totalPages_of_request _hbody
  omega

def listTempBanCidrs (db : PolicyDb) : Except RequestError (List String) :=
  listFrom round db 1

/-- A single-host network: `ip/32` or `ip/128`. -/
def ipCidr (env : ApiEnv) : IpAddr → String
  | .v4 ip => env.displayAddr (.v4 ip) ++ "/32"
  | .v6 ip => env.displayAddr (.v6 ip) ++ "/128"

/-- The item of a batch, as the API reads it. -/
def banItem (config : Config) (candidate : IpAddr × Nat) : TempBans.CreateTempBanRequest where
  cidr := ipCidr round.env candidate.1
  protocol := some config.ban.protocol
  port := config.banPort
  durationSeconds := some config.ban.durationSeconds
  comment := some (config.ban.comment ++ " (" ++ candidate.2.repr ++ " failures >= " ++
    config.ban.threshold.repr ++ ")")

/-- `MAX_BATCH_ITEMS` -/
def maxBatchItems : Nat := 500

/-- `create_temp_ban_chunk` -/
def createTempBanChunk (db : PolicyDb) (chunk : List TempBans.CreateTempBanRequest) :
    Except RequestError Nat × PolicyDb :=
  match round.unreachable with
  | some message => (.error (.failed message), db)
  | none =>
      let outcome := TempBans.createBatch round.env db chunk
      match outcome.answer with
      | .error e => (.error (.status e), outcome.db)
      | .ok _ => (.ok chunk.length, outcome.db)

def submitChunks (submitted : Nat) (db : PolicyDb) :
    List (List TempBans.CreateTempBanRequest) → Except RoundError Nat × PolicyDb
  | [] => (.ok submitted, db)
  | chunk :: rest =>
      match createTempBanChunk round db chunk with
      | (.error e, db) => (.error (.chunk submitted e), db)
      | (.ok n, db) => submitChunks (submitted + n) db rest

def createTempBansBatch (db : PolicyDb) (items : List TempBans.CreateTempBanRequest) :
    Except RoundError Nat × PolicyDb :=
  submitChunks round 0 db (chunks maxBatchItems items)

end Requests

/-! ## Candidates -/

def isTrusted (ip : IpAddr) (cidrs : List IpNet) : Bool :=
  cidrs.any fun net => net.contains ip

inductive Verdict
  | belowThreshold
  | trusted
  | alreadyBanned
  | candidate
  deriving DecidableEq

def verdict (env : ApiEnv) (config : Config) (existing : List String)
    (entry : IpAddr × List Int) : Verdict :=
  if entry.2.length < config.ban.threshold then
    .belowThreshold
  else if isTrusted entry.1 config.monitor.trustedCidrs then
    .trusted
  else if existing.contains (ipCidr env entry.1) then
    .alreadyBanned
  else
    .candidate

/-- The addresses to ban with the number of their failures, as the map is walked. -/
def candidates (env : ApiEnv) (config : Config) (existing : List String)
    (entries : List (IpAddr × List Int)) : List (IpAddr × Nat) :=
  (entries.filter fun entry => verdict env config existing entry = .candidate).map
    fun entry => (entry.1, entry.2.length)

/-- The order of the candidates. -/
def moreFailures (a b : IpAddr × Nat) : Bool :=
  b.2 ≤ a.2

structure RunSummary where
  parsed : Nat
  inWindow : Nat
  banned : Nat
  skippedTrusted : Nat
  skippedAlreadyBanned : Nat
  belowThreshold : Nat

/-- The configuration has passed its check. -/
structure Monitor (Cursor : Type) where
  config : Config
  valid : config.validate = .ok ()
  cursor : Option Cursor
  counts : Counts

def Monitor.runOnce {Cursor : Type} (m : Monitor Cursor) (round : Round Cursor) (dryRun : Bool)
    (db : PolicyDb) : Except RoundError RunSummary × Monitor Cursor × PolicyDb :=
  match round.attempts with
  | .error message => (.error (.btmp message), m, db)
  | .ok (attempts, cursor) =>
      match cutoff m.config round.now with
      | none => (.error .overflow, { m with cursor := some cursor }, db)
      | some start =>
          let counts := mergeAttempts m.counts attempts start
          let m := { m with cursor := some cursor, counts := counts }
          let entries := round.iterate counts
          match (if dryRun then .ok [] else listTempBanCidrs round db) with
          | .error e => (.error (.listTempBans e), m, db)
          | .ok existing =>
              let verdicts := entries.map (verdict round.env m.config existing)
              let summary : RunSummary :=
                { parsed := attempts.length
                  inWindow := (entries.map fun entry => entry.2.length).sum
                  banned := 0
                  skippedTrusted := verdicts.count .trusted
                  skippedAlreadyBanned := verdicts.count .alreadyBanned
                  belowThreshold := verdicts.count .belowThreshold }
              let queue := (candidates round.env m.config existing entries).mergeSort moreFailures
              if queue.isEmpty then
                (.ok summary, m, db)
              else if dryRun then
                (.ok { summary with banned := queue.length }, m, db)
              else
                match createTempBansBatch round db (queue.map (banItem round m.config)) with
                | (.error e, db) => (.error e, m, db)
                | (.ok n, db) => (.ok { summary with banned := n }, m, db)

end BtmpMonitor
end XdpFirewall
