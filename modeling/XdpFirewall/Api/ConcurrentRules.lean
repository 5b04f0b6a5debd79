import XdpFirewall.Api.Resources
import XdpFirewall.Net.HostNet
import XdpFirewall.Lib.KeyedStore
import XdpFirewall.Lib.Transition

/-!
# ConcurrentRules — requests that create rules at the same time

Each request runs its statements in a transaction of its own. Between two statements of one, other
requests can run theirs. A statement sees the rows that were committed when it began, or when its
transaction began, and those of its own transaction; the unique indexes also see what others have
committed since, and wait for what others have inserted and not yet committed.
-/

namespace XdpFirewall
namespace Api
namespace FirewallRules

open Lib Net Policy ControlPlane

/-! ## Requests -/

inductive CreateRequest
  | single (request : CreateRuleRequest)
  | batch (items : List CreateRuleRequest)

def CreateRequest.items : CreateRequest → List CreateRuleRequest
  | .single request => [request]
  | .batch items => items

/-- What `create` and `create_batch` do before they begin a transaction. -/
def CreateRequest.accept (env : ApiEnv) : CreateRequest → ApiResult (List RuleInput)
  | .single request => do
      rejectDenyRuleNodeIp env request
      let input ← fromAnyhow (ruleInput env request)
      return [input]
  | .batch items => do
      validateBatchLen items.length
      items.forM (rejectDenyRuleNodeIp env)
      items.mapM fun request => fromAnyhow (ruleInput env request)

/-- The rules that a request names, when each of them is one. -/
def CreateRequest.normalized (env : ApiEnv) (request : CreateRequest) : Option (List RuleInput) :=
  (request.items.mapM fun item => fromAnyhow (ruleInput env item)).toOption

/-! ## Transactions -/

structure RuleTables where
  rules : List FirewallRuleRow
  version : Option Int
  deriving DecidableEq

inductive Phase
  /-- It looks for a row with the key of the next rule. -/
  | looking
  /-- It found none and is about to insert the rule. -/
  | inserting
  | bumped
  | committed
  deriving DecidableEq

/-- `view` are the committed rows that its statements see, `own` the rows that it has inserted, and
`commits` the tables before and after its commit. -/
structure RuleTxn where
  inputs : List RuleInput
  pending : List RuleInput
  view : List FirewallRuleRow
  own : List FirewallRuleRow
  summary : CreateRows FirewallRuleRow
  phase : Phase
  raised : Option Int
  commits : Option (RuleTables × RuleTables)

/-- An answer, with the rules that were asked for, the rows of others that were in the table when
it was given, and what the request has committed. -/
structure Answered where
  asked : Option (List RuleInput)
  others : List FirewallRuleRow
  answer : ApiResult (Versioned (CreateRows FirewallRuleRow))
  commits : Option (RuleTables × RuleTables)

structure RuleServer where
  tables : RuleTables
  running : KeyedStore Nat RuleTxn (id : Nat → Nat)
  log : List Answered

/-- The row that `create_rule` finds for an input. -/
def findRule (rows : List FirewallRuleRow) (input : RuleInput) : Option FirewallRuleRow :=
  rows.find? fun row => row.policyName = defaultPolicyName && row.ruleKey = input.ruleKey

def ruleKeyExists : ApiError :=
  .conflict "firewall rule_key already exists"

namespace RuleServer

variable (s : RuleServer) (id : Nat) (t : RuleTxn)

/-- The committed rows that a transaction has not inserted itself. -/
def others : List FirewallRuleRow :=
  s.tables.rules.filter fun row => row ∉ t.own

def keep : RuleServer :=
  { s with running := s.running.set id t }

/-- The request gets its answer. Without a commit the database rolls its statements back. -/
def close (answer : ApiResult (Versioned (CreateRows FirewallRuleRow))) : RuleServer where
  tables := s.tables
  running := s.running.erase id
  log := s.log ++
    [{ asked := some t.inputs
       others := s.others t
       answer := answer
       commits := t.commits }]

/-- A request that gets no transaction is answered at once. -/
def refuse (env : ApiEnv) (request : CreateRequest) (e : ApiError) : RuleServer :=
  { s with
    log := s.log ++
      [{ asked := request.normalized env
         others := s.tables.rules
         answer := .error e
         commits := none }] }

def receive (env : ApiEnv) (request : CreateRequest) : RuleServer :=
  match request.accept env with
  | .ok inputs =>
      s.keep id
        { inputs := inputs
          pending := inputs
          view := s.tables.rules
          own := []
          summary := CreateRows.empty FirewallRuleRow
          phase := .looking
          raised := none
          commits := none }
  | .error e => s.refuse env request e

/-- A later statement can see what was committed meanwhile. -/
def refresh : Option RuleServer :=
  some (s.keep id { t with view := s.tables.rules })

/-- The query of `create_rule` for the next input, and what follows from the row it finds. -/
def lookup : Option RuleServer :=
  match t.phase, t.pending with
  | .looking, input :: rest =>
      match findRule (t.view ++ t.own) input with
      | none => some (s.keep id { t with phase := .inserting })
      | some existing =>
          if input.matchesExisting existing then
            some (s.keep id
              { t with
                pending := rest
                summary := t.summary.push (unchanged existing) })
          else
            some (s.close id t (.error ruleKeyExists))
  | _, _ => none

/-- The database never gives an id twice. -/
def freshId (rowId : Int32) : Bool :=
  s.tables.rules.all (fun row => row.id ≠ rowId) &&
    s.running.entries.all fun entry => entry.2.own.all fun row => row.id ≠ rowId

/-- Another transaction has inserted the key, and whether it commits is open. -/
def waits (ruleKey : String) : Bool :=
  s.running.entries.any fun entry =>
    entry.1 ≠ id && entry.2.phase ≠ .committed && entry.2.own.any fun row => row.ruleKey = ruleKey

/-- The statement that inserts the next input; a key that is taken is `rule_insert_error`. -/
def insert (rowId : Int32) : Option RuleServer :=
  match t.phase, t.pending with
  | .inserting, input :: rest =>
      if s.freshId rowId ∧ ¬s.waits id input.ruleKey then
        if (s.tables.rules ++ t.own).any fun old => sameRule old (input.row rowId) then
          some (s.close id t (.error ruleKeyExists))
        else
          some (s.keep id
            { t with
              phase := .looking
              pending := rest
              own := t.own ++ [input.row rowId]
              summary := t.summary.push (firewallRuleTable.created (input.row rowId)) })
      else
        none
  | _, _ => none

/-- `bump_policy_version_if_active`, after the last input. -/
def bump : Option RuleServer :=
  match t.phase, t.pending with
  | .looking, [] =>
      some (s.keep id
        { t with
          phase := .bumped
          raised :=
            if t.summary.activeChanged then some (nextVersion s.tables.version) else none })
  | _, _ => none

def commit : Option RuleServer :=
  match t.phase with
  | .bumped =>
      let tables : RuleTables :=
        { rules := s.tables.rules ++ t.own
          version := t.raised.or s.tables.version }
      some { s with
        tables := tables
        running := s.running.set id
          { t with
            phase := .committed
            commits := some (s.tables, tables) } }
  | _ => none

/-- `policy_version_after_optional_bump` and the answer. -/
def respond : Option RuleServer :=
  match t.phase with
  | .committed =>
      some (s.close id t
        (.ok { version := t.raised.getD (s.tables.version.getD 0), data := t.summary }))
  | _ => none

/-- A statement that the database fails. After the commit there is one only if the version was not
raised. -/
def fail (message : String) : Option RuleServer :=
  if t.phase = .committed ∧ t.raised.isSome then
    none
  else
    some (s.close id t (.error (.internal message)))

def txn : Option RuleTxn :=
  (s.running.get? id).map Prod.snd

end RuleServer

/-- A request that arrives finds some nodes registered. -/
inductive RuleEvent
  | receive (id : Nat) (nodes : List NodeRow) (request : CreateRequest)
  /-- The nodes cannot be read, or no transaction can begin. -/
  | unavailable (request : CreateRequest) (message : String)
  | refresh (id : Nat)
  | lookup (id : Nat)
  | insert (id : Nat) (rowId : Int32)
  | bump (id : Nat)
  | commit (id : Nat)
  | respond (id : Nat)
  | fail (id : Nat) (message : String)

def step (env : ApiEnv) (s : RuleServer) : RuleEvent → Option RuleServer
  | .receive id nodes request =>
      if (s.txn id).isSome then none else some (s.receive id { env with nodes := nodes } request)
  | .unavailable request message => some (s.refuse env request (.internal message))
  | .refresh id => (s.txn id).bind (s.refresh id)
  | .lookup id => (s.txn id).bind (s.lookup id)
  | .insert id rowId => (s.txn id).bind fun t => s.insert id t rowId
  | .bump id => (s.txn id).bind (s.bump id)
  | .commit id => (s.txn id).bind (s.commit id)
  | .respond id => (s.txn id).bind (s.respond id)
  | .fail id message => (s.txn id).bind fun t => s.fail id t message

/-! ## The law -/

/-- The row is the rule of the input, where no protocol means any, with its flag and comment. -/
structure RuleInput.Same (input : RuleInput) (row : FirewallRuleRow) : Prop where
  policyName : row.policyName = defaultPolicyName
  ruleKey : row.ruleKey = input.ruleKey
  enabled : row.enabled = input.enabled
  priority : row.priority = input.priority
  action : row.action = input.action
  cidr : row.cidr = input.cidr
  protocol : row.protocol.getD "any" = input.protocol.getD "any"
  port : row.port = input.port
  comment : row.comment = input.comment

/-- Every rule that is asked for is there already. -/
def Repeats (inputs : List RuleInput) (rows : List FirewallRuleRow) : Prop :=
  inputs ≠ [] ∧ ∀ input ∈ inputs, ∃ row ∈ rows, input.Same row

/-- The key of a rule that is asked for is that of a different one. -/
def Contradicts (inputs : List RuleInput) (rows : List FirewallRuleRow) : Prop :=
  ∃ input ∈ inputs, ∃ row ∈ rows, row.ruleKey = input.ruleKey ∧ ¬input.Same row

/-- `created_status`, and the status of an error. -/
def status : ApiResult (Versioned (CreateRows FirewallRuleRow)) → Nat
  | .ok versioned => if versioned.data.inserted then 201 else 200
  | .error (.badRequest _) => 400
  | .error (.notFound _) => 404
  | .error (.conflict _) => 409
  | .error (.internal _) => 500

/-- The request has changed neither the rows nor the version. -/
def Answered.Unchanged (a : Answered) : Prop :=
  ∀ tables ∈ a.commits, tables.2 = tables.1

structure Answered.Lawful (a : Answered) : Prop where
  repeated : ∀ inputs ∈ a.asked, Repeats inputs a.others → status a.answer = 200 ∧ a.Unchanged
  contradicted : ∀ inputs ∈ a.asked, Contradicts inputs a.others →
    status a.answer = 409 ∧ a.Unchanged

structure RuleServer.Idempotent (s : RuleServer) : Prop where
  keys : (s.tables.rules.map FirewallRuleRow.ruleKey).Nodup
  answers : ∀ a ∈ s.log, a.Lawful

/-- Where the branches that go wrong are not taken. A rule that is asked for once more is found, in
the spelling of its row; and no request whose key is taken is refused for its network or its length,
or failed by the database. -/
def Undisturbed (env : ApiEnv) (s : RuleServer) : RuleEvent → Prop
  | .receive _ nodes request =>
      ∀ e, request.accept { env with nodes := nodes } = .error e →
        ∀ inputs ∈ request.normalized { env with nodes := nodes },
          ¬Repeats inputs s.tables.rules ∧ ¬Contradicts inputs s.tables.rules
  | .unavailable request _ =>
      ∀ inputs ∈ request.normalized env,
        ¬Repeats inputs s.tables.rules ∧ ¬Contradicts inputs s.tables.rules
  | .lookup id =>
      ∀ t ∈ s.txn id, Repeats t.inputs (s.others t) → ∀ input ∈ t.pending.head?,
        ∀ row ∈ findRule (t.view ++ t.own) input, row.protocol = input.protocol
  | .insert id _ => ∀ t ∈ s.txn id, ¬Repeats t.inputs (s.others t)
  | .fail id _ =>
      ∀ t ∈ s.txn id, ¬Repeats t.inputs (s.others t) ∧ ¬Contradicts t.inputs (s.others t)
  | _ => True

/-! ## The invariant -/

/-- The rows that a transaction has inserted and not committed. -/
def RuleTxn.held (t : RuleTxn) : List FirewallRuleRow :=
  if t.phase = .committed then [] else t.own

/-- What a transaction is at over these committed rows: the inputs behind it have their rows, and
without a row of its own it changes nothing. -/
structure TxnInv (rules : List FirewallRuleRow) (t : RuleTxn) : Prop where
  named : t.inputs ≠ []
  view : ∀ row ∈ t.view, row ∈ rules
  settled : t.phase = .committed → ∀ row ∈ t.own, row ∈ rules
  behind : ∃ behind, t.inputs = behind ++ t.pending ∧ ∀ input ∈ behind,
    ∃ row, (row ∈ rules ∨ row ∈ t.own) ∧ row.policyName = defaultPolicyName ∧
      row.ruleKey = input.ruleKey ∧ input.matchesExisting row = true
  origin : ∀ row ∈ t.own, ∃ input ∈ t.inputs, row.ruleKey = input.ruleKey
  quiet : t.own = [] →
    t.summary.inserted = false ∧ t.summary.activeChanged = false ∧ t.raised = none
  finished : t.phase = .bumped ∨ t.phase = .committed → t.pending = []
  uncommitted : t.phase ≠ .committed → t.commits = none
  unchanged : t.own = [] → ∀ tables ∈ t.commits, tables.2 = tables.1

/-- No row of the table and no two rows that transactions hold collide. -/
structure ServerInv (s : RuleServer) : Prop where
  rules : Distinct sameRule s.tables.rules
  txns : ∀ id t, (id, t) ∈ s.running → TxnInv s.tables.rules t
  held : ∀ id t, (id, t) ∈ s.running → Distinct sameRule t.held ∧
    ∀ row ∈ t.held, ∀ old ∈ s.tables.rules, sameRule old row = false
  apart : ∀ id t other u, (id, t) ∈ s.running → (other, u) ∈ s.running → id ≠ other →
    ∀ a ∈ t.held, ∀ b ∈ u.held, sameRule a b = false

theorem TxnInv.mono {rules rules' : List FirewallRuleRow} {t : RuleTxn} (h : TxnInv rules t)
    (hsub : ∀ row ∈ rules, row ∈ rules') : TxnInv rules' t where
  named := h.named
  view row hrow := hsub row (h.view row hrow)
  settled hphase row hrow := hsub row (h.settled hphase row hrow)
  behind := by
    obtain ⟨behind, hsplit, hbehind⟩ := h.behind
    refine ⟨behind, hsplit, fun input hinput => ?_⟩
    obtain ⟨row, hrow, hmatches⟩ := hbehind input hinput
    exact ⟨row, hrow.imp_left (hsub row), hmatches⟩
  origin := h.origin
  quiet := h.quiet
  finished := h.finished
  uncommitted := h.uncommitted
  unchanged := h.unchanged

theorem mem_txn_iff {s : RuleServer} {id : Nat} {t : RuleTxn} :
    s.txn id = some t ↔ (id, t) ∈ s.running := by
  rw [RuleServer.txn, Option.map_eq_some_iff]
  constructor
  · rintro ⟨⟨i, u⟩, hget, rfl⟩
    obtain ⟨hmem, rfl⟩ := KeyedStore.get?_eq_some_iff.mp hget
    exact hmem
  · intro hmem
    exact ⟨(id, t), KeyedStore.get?_eq_some_iff.mpr ⟨hmem, rfl⟩, rfl⟩

theorem mem_keep_iff {s : RuleServer} {id other : Nat} {t u : RuleTxn} :
    (other, u) ∈ (s.keep id t).running ↔
      (other = id ∧ u = t) ∨ ((other, u) ∈ s.running ∧ other ≠ id) := by
  rw [RuleServer.keep, KeyedStore.mem_set, Prod.mk.injEq]
  rfl

/-- A transaction goes on with rows that collide with no others. -/
theorem ServerInv.keep {s : RuleServer} {id : Nat} {t : RuleTxn} (h : ServerInv s)
    (htxn : TxnInv s.tables.rules t) (hdistinct : Distinct sameRule t.held)
    (hrules : ∀ row ∈ t.held, ∀ old ∈ s.tables.rules, sameRule old row = false)
    (happart : ∀ other u, (other, u) ∈ s.running → other ≠ id →
      ∀ a ∈ t.held, ∀ b ∈ u.held, sameRule a b = false) : ServerInv (s.keep id t) where
  rules := h.rules
  txns := by
    intro other u hmem
    rcases mem_keep_iff.mp hmem with ⟨-, rfl⟩ | ⟨hold, -⟩
    · exact htxn
    · exact h.txns other u hold
  held := by
    intro other u hmem
    rcases mem_keep_iff.mp hmem with ⟨-, rfl⟩ | ⟨hold, -⟩
    · exact ⟨hdistinct, hrules⟩
    · exact h.held other u hold
  apart := by
    intro i u j v hi hj hne a ha b hb
    rcases mem_keep_iff.mp hi with ⟨rfl, rfl⟩ | ⟨hu, hui⟩
    · rcases mem_keep_iff.mp hj with ⟨rfl, -⟩ | ⟨hv, hvi⟩
      · exact absurd rfl hne
      · exact happart j v hv hvi a ha b hb
    · rcases mem_keep_iff.mp hj with ⟨rfl, rfl⟩ | ⟨hv, -⟩
      · have hsymm : sameRule a b = sameRule b a := firewallRuleTable.collides_symm a b
        rw [hsymm]
        exact happart i u hu hui b hb a ha
      · exact h.apart i u j v hu hv hne a ha b hb

/-- A transaction goes on with the rows that it holds. -/
theorem ServerInv.keep_same {s : RuleServer} {id : Nat} {t t' : RuleTxn} (h : ServerInv s)
    (hmem : (id, t) ∈ s.running) (htxn : TxnInv s.tables.rules t') (hheld : t'.held = t.held) :
    ServerInv (s.keep id t') := by
  refine h.keep htxn ?_ ?_ ?_
  · rw [hheld]
    exact (h.held id t hmem).1
  · rw [hheld]
    exact (h.held id t hmem).2
  · intro other u hu hne a ha
    rw [hheld] at ha
    exact h.apart id t other u hmem hu (Ne.symm hne) a ha

theorem ServerInv.close {s : RuleServer} {id : Nat} {t : RuleTxn} (h : ServerInv s)
    (answer : ApiResult (Versioned (CreateRows FirewallRuleRow))) :
    ServerInv (s.close id t answer) := by
  have hsub {other : Nat} {u : RuleTxn} (hmem : (other, u) ∈ (s.close id t answer).running) :
      (other, u) ∈ s.running := (KeyedStore.mem_erase.mp hmem).1
  exact {
    rules := h.rules
    txns := fun other u hmem => h.txns other u (hsub hmem)
    held := fun other u hmem => h.held other u (hsub hmem)
    apart := fun i u j v hi hj => h.apart i u j v (hsub hi) (hsub hj) }

/-! ## One lemma for each event -/

section Events

variable {s s' : RuleServer} {id : Nat} {t : RuleTxn}

theorem accept_ne_nil {env : ApiEnv} {request : CreateRequest} {inputs : List RuleInput}
    (h : request.accept env = .ok inputs) : inputs ≠ [] := by
  cases request with
  | single request =>
      obtain ⟨_, -, h⟩ := bind_ok_iff.mp h
      obtain ⟨input, -, h⟩ := bind_ok_iff.mp h
      cases h
      exact List.cons_ne_nil input []
  | batch items =>
      obtain ⟨_, hlen, h⟩ := bind_ok_iff.mp h
      obtain ⟨_, -, h⟩ := bind_ok_iff.mp h
      rintro rfl
      have hitems : items = [] := by
        cases items with
        | nil => rfl
        | cons item items =>
            rw [List.mapM_cons] at h
            obtain ⟨input, -, h⟩ := bind_ok_iff.mp h
            obtain ⟨inputs, -, h⟩ := bind_ok_iff.mp h
            cases h
      rw [hitems] at hlen
      cases hlen

theorem inv_receive (h : ServerInv s) (id : Nat) (env : ApiEnv) (request : CreateRequest) :
    ServerInv (s.receive id env request) := by
  rw [RuleServer.receive]
  cases haccept : request.accept env with
  | error e => exact ⟨h.rules, h.txns, h.held, h.apart⟩
  | ok inputs =>
      refine h.keep ?_ List.Pairwise.nil (fun _ hrow => absurd hrow List.not_mem_nil)
        fun _ _ _ _ _ hrow => absurd hrow List.not_mem_nil
      exact {
        named := accept_ne_nil haccept
        view := fun row hrow => hrow
        settled := nofun
        behind := ⟨[], rfl, nofun⟩
        origin := nofun
        quiet := fun _ => ⟨rfl, rfl, rfl⟩
        finished := by
          rintro (hphase | hphase) <;> cases hphase
        uncommitted := fun _ => rfl
        unchanged := nofun }

theorem inv_refresh (h : ServerInv s) (hmem : (id, t) ∈ s.running)
    (hstep : s.refresh id t = some s') : ServerInv s' := by
  cases hstep
  have htxn := h.txns id t hmem
  refine h.keep_same hmem ?_ rfl
  exact { htxn with view := fun row hrow => hrow }

theorem findRule_eq_some {rows : List FirewallRuleRow} {input : RuleInput}
    {row : FirewallRuleRow} (h : findRule rows input = some row) :
    row ∈ rows ∧ row.policyName = defaultPolicyName ∧ row.ruleKey = input.ruleKey := by
  refine ⟨List.mem_of_find?_eq_some h, ?_⟩
  have hkey := List.find?_some h
  rw [Bool.and_eq_true, decide_eq_true_iff, decide_eq_true_iff] at hkey
  exact hkey

/-- What a lookup does with the row that it finds. -/
inductive Looked (s : RuleServer) (id : Nat) (t : RuleTxn) (s' : RuleServer) : Prop
  | missed (input : RuleInput) (rest : List RuleInput) (hpending : t.pending = input :: rest)
      (hfind : findRule (t.view ++ t.own) input = none)
      (hnext : s' = s.keep id { t with phase := .inserting })
  | found (input : RuleInput) (rest : List RuleInput) (row : FirewallRuleRow)
      (hpending : t.pending = input :: rest)
      (hfind : findRule (t.view ++ t.own) input = some row)
      (hmatches : input.matchesExisting row = true)
      (hnext : s' = s.keep id
        { t with
          pending := rest
          summary := t.summary.push (unchanged row) })
  | refused (input : RuleInput) (rest : List RuleInput) (row : FirewallRuleRow)
      (hpending : t.pending = input :: rest)
      (hfind : findRule (t.view ++ t.own) input = some row)
      (hdiffers : input.matchesExisting row = false)
      (hnext : s' = s.close id t (.error ruleKeyExists))

theorem lookup_cases (hstep : s.lookup id t = some s') :
    t.phase = .looking ∧ Looked s id t s' := by
  rw [RuleServer.lookup] at hstep
  split at hstep
  next input rest hphase hpending =>
    refine ⟨hphase, ?_⟩
    cases hfind : findRule (t.view ++ t.own) input with
    | none =>
        rw [hfind] at hstep
        cases hstep
        exact .missed input rest hpending hfind rfl
    | some row =>
        rw [hfind] at hstep
        cases hmatches : input.matchesExisting row with
        | true =>
            simp only [hmatches, if_true] at hstep
            cases hstep
            exact .found input rest row hpending hfind hmatches rfl
        | false =>
            simp only [hmatches] at hstep
            cases hstep
            exact .refused input rest row hpending hfind hmatches rfl
  next => cases hstep

theorem inv_lookup (h : ServerInv s) (hmem : (id, t) ∈ s.running)
    (hstep : s.lookup id t = some s') : ServerInv s' := by
  obtain ⟨hphase, hlooked⟩ := lookup_cases hstep
  have htxn := h.txns id t hmem
  have hheld : t.held = t.own := if_neg (by rw [hphase]; nofun)
  have hnone : t.commits = none := htxn.uncommitted (by rw [hphase]; nofun)
  cases hlooked with
  | missed input rest hpending hfind hnext =>
      rw [hnext]
      refine h.keep_same hmem ?_ (hheld.symm ▸ if_neg nofun)
      exact { htxn with
        settled := nofun
        finished := by
          rintro (hphase | hphase) <;> cases hphase
        uncommitted := fun _ => hnone }
  | found input rest row hpending hfind hmatches hnext =>
      rw [hnext]
      obtain ⟨hrow, hpolicy, hkey⟩ := findRule_eq_some hfind
      have hseen : row ∈ s.tables.rules ∨ row ∈ t.own :=
        (List.mem_append.mp hrow).imp_left (htxn.view row)
      refine h.keep_same hmem ?_ rfl
      exact { htxn with
        behind := by
          obtain ⟨behind, hsplit, hbehind⟩ := htxn.behind
          refine ⟨behind ++ [input], ?_, fun i hi => ?_⟩
          · rw [hsplit, hpending, List.append_assoc, List.singleton_append]
          · rcases List.mem_append.mp hi with hi | hi
            · exact hbehind i hi
            · rw [List.mem_singleton.mp hi]
              exact ⟨row, hseen, hpolicy, hkey, hmatches⟩
        quiet := by
          intro hown
          obtain ⟨hinserted, hactive, hraised⟩ := htxn.quiet hown
          refine ⟨?_, ?_, hraised⟩
          · rw [CreateRows.push, hinserted]
            rfl
          · rw [CreateRows.push, hactive]
            rfl
        finished := by
          intro hend
          rw [hphase] at hend
          rcases hend with hend | hend <;> cases hend }
  | refused input rest row hpending hfind hdiffers hnext =>
      rw [hnext]
      exact h.close _

/-- What an insertion does, when it does not wait. -/
inductive Inserted (s : RuleServer) (id : Nat) (t : RuleTxn) (rowId : Int32) (s' : RuleServer) :
    Prop
  | written (input : RuleInput) (rest : List RuleInput) (hpending : t.pending = input :: rest)
      (hrules : ∀ old ∈ s.tables.rules ++ t.own, sameRule old (input.row rowId) = false)
      (hothers : ∀ other u, (other, u) ∈ s.running → other ≠ id →
        ∀ b ∈ u.held, sameRule (input.row rowId) b = false)
      (hnext : s' = s.keep id
        { t with
          phase := .looking
          pending := rest
          own := t.own ++ [input.row rowId]
          summary := t.summary.push (firewallRuleTable.created (input.row rowId)) })
  | refused (input : RuleInput) (rest : List RuleInput) (hpending : t.pending = input :: rest)
      (hnext : s' = s.close id t (.error ruleKeyExists))

theorem RuleTxn.mem_held {t : RuleTxn} {row : FirewallRuleRow} :
    row ∈ t.held ↔ t.phase ≠ .committed ∧ row ∈ t.own := by
  rw [RuleTxn.held]
  split
  next hphase => exact iff_of_false List.not_mem_nil fun h => h.1 hphase
  next hphase => exact (and_iff_right hphase).symm

/-- An id that is fresh and a key for which no other has to be waited collide with nothing that
others hold. -/
theorem sameRule_of_fresh {rowId : Int32} {input : RuleInput} (hfresh : s.freshId rowId = true)
    (hwaits : s.waits id input.ruleKey ≠ true) {other : Nat} {u : RuleTxn}
    (hu : (other, u) ∈ s.running) (hne : other ≠ id) {b : FirewallRuleRow} (hb : b ∈ u.held) :
    sameRule (input.row rowId) b = false := by
  obtain ⟨hphase, hown⟩ := RuleTxn.mem_held.mp hb
  rw [RuleServer.freshId, Bool.and_eq_true, List.all_eq_true, List.all_eq_true] at hfresh
  have hid : b.id ≠ rowId :=
    of_decide_eq_true (List.all_eq_true.mp (hfresh.2 (other, u) hu) b hown)
  have hkey : b.ruleKey ≠ input.ruleKey := by
    intro hsame
    refine hwaits (List.any_eq_true.mpr ⟨(other, u), hu, ?_⟩)
    rw [Bool.and_eq_true, Bool.and_eq_true]
    exact ⟨⟨decide_eq_true hne, decide_eq_true hphase⟩,
      List.any_eq_true.mpr ⟨b, hown, decide_eq_true hsame⟩⟩
  rw [sameRule, Bool.or_eq_false_iff, decide_eq_false_iff_not, decide_eq_false_iff_not]
  exact ⟨Ne.symm hid, Ne.symm hkey⟩

theorem insert_cases {rowId : Int32} (hstep : s.insert id t rowId = some s') :
    t.phase = .inserting ∧ Inserted s id t rowId s' := by
  rw [RuleServer.insert] at hstep
  split at hstep
  next input rest hphase hpending =>
    refine ⟨hphase, ?_⟩
    split at hstep
    next hfree =>
      split at hstep
      next =>
        cases hstep
        exact .refused input rest hpending rfl
      next hnone =>
        cases hstep
        refine .written input rest hpending (fun old hold => ?_)
          (fun other u hu hne b hb => sameRule_of_fresh hfree.1 hfree.2 hu hne hb) rfl
        rw [Bool.eq_false_iff]
        exact fun hsame => hnone (List.any_eq_true.mpr ⟨old, hold, hsame⟩)
    next => cases hstep
  next => cases hstep

theorem matchesExisting_row (input : RuleInput) (rowId : Int32) :
    input.matchesExisting (input.row rowId) = true := by
  simp [RuleInput.matchesExisting, RuleInput.row]

theorem inv_insert {rowId : Int32} (h : ServerInv s) (hmem : (id, t) ∈ s.running)
    (hstep : s.insert id t rowId = some s') : ServerInv s' := by
  obtain ⟨hphase, hinserted⟩ := insert_cases hstep
  have htxn := h.txns id t hmem
  have hheld : t.held = t.own := if_neg (by rw [hphase]; nofun)
  have hnone : t.commits = none := htxn.uncommitted (by rw [hphase]; nofun)
  cases hinserted with
  | refused input rest hpending hnext =>
      rw [hnext]
      exact h.close _
  | written input rest hpending hrules hothers hnext =>
      obtain ⟨hdistinct, hclear⟩ := h.held id t hmem
      rw [hheld] at hdistinct hclear
      have hinput : input ∈ t.inputs := by
        obtain ⟨behind, hsplit, -⟩ := htxn.behind
        rw [hsplit, hpending]
        exact List.mem_append_right _ List.mem_cons_self
      rw [hnext]
      refine h.keep ?_ ?_ ?_ ?_
      · exact { htxn with
          settled := nofun
          behind := by
            obtain ⟨behind, hsplit, hbehind⟩ := htxn.behind
            refine ⟨behind ++ [input], ?_, fun i hi => ?_⟩
            · rw [hsplit, hpending, List.append_assoc, List.singleton_append]
            · rcases List.mem_append.mp hi with hi | hi
              · obtain ⟨row, hrow, hmatches⟩ := hbehind i hi
                exact ⟨row, hrow.imp_right (List.mem_append_left _), hmatches⟩
              · rw [List.mem_singleton.mp hi]
                exact ⟨input.row rowId, .inr (List.mem_append_right _ List.mem_cons_self), rfl, rfl,
                  matchesExisting_row input rowId⟩
          origin := by
            intro row hrow
            rcases List.mem_append.mp hrow with hrow | hrow
            · exact htxn.origin row hrow
            · rw [List.mem_singleton.mp hrow]
              exact ⟨input, hinput, rfl⟩
          quiet := fun hnil => absurd hnil (by simp)
          finished := by
            rintro (hend | hend) <;> cases hend
          uncommitted := fun _ => hnone
          unchanged := fun hnil => absurd hnil (by simp) }
      · exact hdistinct.append fun old hold => hrules old (List.mem_append_right _ hold)
      · intro row hrow old hold
        rcases List.mem_append.mp hrow with hrow | hrow
        · exact hclear row hrow old hold
        · rw [List.mem_singleton.mp hrow]
          exact hrules old (List.mem_append_left _ hold)
      · intro other u hu hne a ha b hb
        rcases List.mem_append.mp ha with ha | ha
        · exact h.apart id t other u hmem hu (Ne.symm hne) a (hheld ▸ ha) b hb
        · rw [List.mem_singleton.mp ha]
          exact hothers other u hu hne b hb

theorem inv_bump (h : ServerInv s) (hmem : (id, t) ∈ s.running)
    (hstep : s.bump id t = some s') : ServerInv s' := by
  rw [RuleServer.bump] at hstep
  split at hstep
  next hphase hpending =>
    cases hstep
    have htxn := h.txns id t hmem
    have hheld : t.held = t.own := if_neg (by rw [hphase]; nofun)
    refine h.keep_same hmem ?_ (hheld.symm ▸ if_neg nofun)
    exact { htxn with
      settled := nofun
      quiet := by
        intro hown
        obtain ⟨hinserted, hactive, -⟩ := htxn.quiet hown
        refine ⟨hinserted, hactive, ?_⟩
        rw [hactive]
        rfl
      finished := fun _ => hpending
      uncommitted := fun _ => htxn.uncommitted (by rw [hphase]; nofun) }
  next => cases hstep

/-- The rows that a transaction held are in the table now. -/
theorem inv_commit (h : ServerInv s) (hmem : (id, t) ∈ s.running)
    (hstep : s.commit id t = some s') : ServerInv s' := by
  rw [RuleServer.commit] at hstep
  split at hstep
  next hphase =>
    cases hstep
    have htxn := h.txns id t hmem
    have hheld : t.held = t.own := if_neg (by rw [hphase]; nofun)
    obtain ⟨hdistinct, hclear⟩ := h.held id t hmem
    rw [hheld] at hdistinct hclear
    have hothers {other : Nat} {u : RuleTxn} (hu : (other, u) ∈ s.running) (hne : other ≠ id) :
        ∀ row ∈ u.held, ∀ old ∈ s.tables.rules ++ t.own, sameRule old row = false := by
      intro row hrow old hold
      rcases List.mem_append.mp hold with hold | hold
      · exact (h.held other u hu).2 row hrow old hold
      · exact h.apart id t other u hmem hu (Ne.symm hne) old (hheld ▸ hold) row hrow
    exact {
      rules := by
        refine List.pairwise_append.mpr ⟨h.rules, hdistinct, fun old hold row hrow => ?_⟩
        exact hclear row hrow old hold
      txns := by
        intro other u hu
        rcases mem_keep_iff.mp hu with ⟨-, rfl⟩ | ⟨hu, -⟩
        · have hgrown := htxn.mono fun row hrow => List.mem_append_left t.own hrow
          exact { hgrown with
            settled := fun _ row hrow => List.mem_append_right _ hrow
            finished := fun _ => htxn.finished (.inl hphase)
            uncommitted := fun hne => absurd rfl hne
            unchanged := by
              intro hown tables htables
              obtain rfl := Option.some.inj htables
              obtain ⟨-, -, hraised⟩ := htxn.quiet hown
              rw [hown, hraised, List.append_nil, Option.none_or] }
        · exact (h.txns other u hu).mono fun row hrow => List.mem_append_left t.own hrow
      held := by
        intro other u hu
        rcases mem_keep_iff.mp hu with ⟨-, rfl⟩ | ⟨hu, hne⟩
        · exact ⟨List.Pairwise.nil, fun row hrow => absurd hrow List.not_mem_nil⟩
        · exact ⟨(h.held other u hu).1, hothers hu hne⟩
      apart := by
        intro i u j v hi hj hne a ha b hb
        rcases mem_keep_iff.mp hi with ⟨-, rfl⟩ | ⟨hu, -⟩
        · exact absurd ha List.not_mem_nil
        · rcases mem_keep_iff.mp hj with ⟨-, rfl⟩ | ⟨hv, -⟩
          · exact absurd hb List.not_mem_nil
          · exact h.apart i u j v hu hv hne a ha b hb }
  next => cases hstep

theorem respond_cases (hstep : s.respond id t = some s') :
    t.phase = .committed ∧ s' = s.close id t
      (.ok { version := t.raised.getD (s.tables.version.getD 0), data := t.summary }) := by
  rw [RuleServer.respond] at hstep
  split at hstep
  next hphase =>
    cases hstep
    exact ⟨hphase, rfl⟩
  next => cases hstep

theorem fail_eq {message : String} (hstep : s.fail id t message = some s') :
    s' = s.close id t (.error (.internal message)) := by
  rw [RuleServer.fail] at hstep
  split at hstep
  next => cases hstep
  next =>
    cases hstep
    rfl

/-- Each event keeps the invariant, whatever order the events come in. -/
theorem inv_step {env : ApiEnv} {e : RuleEvent} (h : ServerInv s)
    (hstep : step env s e = some s') : ServerInv s' := by
  cases e with
  | receive id nodes request =>
      rw [step] at hstep
      split at hstep
      next => cases hstep
      next =>
        cases hstep
        exact inv_receive h id _ request
  | unavailable request message =>
      cases hstep
      exact ⟨h.rules, h.txns, h.held, h.apart⟩
  | refresh id =>
      obtain ⟨t, ht, hstep⟩ := Option.bind_eq_some_iff.mp hstep
      exact inv_refresh h (mem_txn_iff.mp ht) hstep
  | lookup id =>
      obtain ⟨t, ht, hstep⟩ := Option.bind_eq_some_iff.mp hstep
      exact inv_lookup h (mem_txn_iff.mp ht) hstep
  | insert id rowId =>
      obtain ⟨t, ht, hstep⟩ := Option.bind_eq_some_iff.mp hstep
      exact inv_insert h (mem_txn_iff.mp ht) hstep
  | bump id =>
      obtain ⟨t, ht, hstep⟩ := Option.bind_eq_some_iff.mp hstep
      exact inv_bump h (mem_txn_iff.mp ht) hstep
  | commit id =>
      obtain ⟨t, ht, hstep⟩ := Option.bind_eq_some_iff.mp hstep
      exact inv_commit h (mem_txn_iff.mp ht) hstep
  | respond id =>
      obtain ⟨t, ht, hstep⟩ := Option.bind_eq_some_iff.mp hstep
      rw [(respond_cases hstep).2]
      exact h.close _
  | fail id message =>
      obtain ⟨t, ht, hstep⟩ := Option.bind_eq_some_iff.mp hstep
      rw [fail_eq hstep]
      exact h.close _

end Events

/-! ## Answers -/

theorem matchesExisting_iff {input : RuleInput} {row : FirewallRuleRow}
    (hpolicy : row.policyName = defaultPolicyName) (hkey : row.ruleKey = input.ruleKey) :
    input.matchesExisting row = true ↔ input.Same row ∧ row.protocol = input.protocol := by
  simp only [RuleInput.matchesExisting, Bool.and_eq_true, decide_eq_true_iff]
  constructor
  · rintro ⟨⟨⟨⟨⟨⟨henabled, hpriority⟩, haction⟩, hcidr⟩, hprotocol⟩, hport⟩, hcomment⟩
    exact ⟨⟨hpolicy, hkey, henabled, hpriority, haction, hcidr, by rw [hprotocol], hport, hcomment⟩,
      hprotocol⟩
  · rintro ⟨hsame, hprotocol⟩
    exact ⟨⟨⟨⟨⟨⟨hsame.enabled, hsame.priority⟩, hsame.action⟩, hsame.cidr⟩, hprotocol⟩, hsame.port⟩,
      hsame.comment⟩

theorem sameRule_of_ruleKey {a b : FirewallRuleRow} (h : a.ruleKey = b.ruleKey) :
    sameRule a b = true := by
  rw [sameRule, Bool.or_eq_true, decide_eq_true_iff, decide_eq_true_iff]
  exact .inr h

theorem eq_of_ruleKey {rules : List FirewallRuleRow} (h : Distinct sameRule rules)
    {a b : FirewallRuleRow} (ha : a ∈ rules) (hb : b ∈ rules) (hkey : a.ruleKey = b.ruleKey) :
    a = b :=
  h.eq_of_collides firewallRuleTable.collides_symm ha hb (sameRule_of_ruleKey hkey)

section Answers

variable {s : RuleServer} {id : Nat} {t : RuleTxn}

theorem mem_others {row : FirewallRuleRow} :
    row ∈ s.others t ↔ row ∈ s.tables.rules ∧ row ∉ t.own := by
  rw [RuleServer.others, List.mem_filter, decide_eq_true_iff]

/-- The row of an input is that of another request when one of others has its key. -/
theorem eq_of_seen (h : ServerInv s) (hmem : (id, t) ∈ s.running) {row other : FirewallRuleRow}
    (hrow : row ∈ s.tables.rules ∨ row ∈ t.own) (hother : other ∈ s.others t)
    (hkey : other.ruleKey = row.ruleKey) : other = row := by
  obtain ⟨hrules, hown⟩ := mem_others.mp hother
  rcases hrow with hrow | hrow
  · exact eq_of_ruleKey h.rules hrules hrow hkey
  · by_cases hphase : t.phase = .committed
    · exact eq_of_ruleKey h.rules hrules ((h.txns id t hmem).settled hphase row hrow) hkey
    · have hheld : row ∈ t.held := RuleTxn.mem_held.mpr ⟨hphase, hrow⟩
      have hclear := (h.held id t hmem).2 row hheld other hrules
      rw [sameRule_of_ruleKey hkey] at hclear
      cases hclear

/-- A request whose rules are there already has inserted nothing. -/
theorem own_eq_nil (h : ServerInv s) (hmem : (id, t) ∈ s.running)
    (hrepeats : Repeats t.inputs (s.others t)) : t.own = [] := by
  refine List.eq_nil_iff_forall_not_mem.mpr fun row hrow => ?_
  obtain ⟨input, hinput, hkey⟩ := (h.txns id t hmem).origin row hrow
  obtain ⟨other, hother, hsame⟩ := hrepeats.2 input hinput
  have heq := eq_of_seen h hmem (.inr hrow) hother (hsame.ruleKey.trans hkey.symm)
  rw [heq] at hother
  exact (mem_others.mp hother).2 hrow

theorem lawful_refused_iff {inputs : List RuleInput} {others : List FirewallRuleRow} :
    Answered.Lawful
      { asked := some inputs
        others := others
        answer := .error ruleKeyExists
        commits := none } ↔ ¬Repeats inputs others := by
  constructor
  · intro h hrepeats
    exact absurd (h.repeated inputs rfl hrepeats).1 (show 409 ≠ 200 by decide)
  · intro h
    refine ⟨fun asked hasked hrepeats => ?_, fun asked hasked _ => ⟨rfl, nofun⟩⟩
    obtain rfl := Option.some.inj hasked
    exact absurd hrepeats h

/-- An answer of another kind is right only where no rule that is asked for is there. -/
theorem lawful_iff_of_status {a : Answered} (hok : status a.answer ≠ 200)
    (hconflict : status a.answer ≠ 409) :
    a.Lawful ↔ ∀ inputs ∈ a.asked, ¬Repeats inputs a.others ∧ ¬Contradicts inputs a.others := by
  constructor
  · intro h inputs hinputs
    exact ⟨fun hrepeats => hok (h.repeated inputs hinputs hrepeats).1,
      fun hcontradicts => hconflict (h.contradicted inputs hinputs hcontradicts).1⟩
  · intro h
    exact ⟨fun inputs hinputs hrepeats => absurd hrepeats (h inputs hinputs).1,
      fun inputs hinputs hcontradicts => absurd hcontradicts (h inputs hinputs).2⟩

/-- A request that ends well has a row for each of its rules. -/
theorem not_contradicts (h : ServerInv s) (hmem : (id, t) ∈ s.running)
    (hphase : t.phase = .committed) : ¬Contradicts t.inputs (s.others t) := by
  rintro ⟨input, hinput, other, hother, hkey, hdiffers⟩
  have htxn := h.txns id t hmem
  obtain ⟨behind, hsplit, hbehind⟩ := htxn.behind
  rw [htxn.finished (.inr hphase), List.append_nil] at hsplit
  rw [hsplit] at hinput
  obtain ⟨row, hrow, hpolicy, hrowKey, hmatches⟩ := hbehind input hinput
  have heq := eq_of_seen h hmem hrow hother (hkey.trans hrowKey.symm)
  rw [heq] at hdiffers
  exact hdiffers ((matchesExisting_iff hpolicy hrowKey).mp hmatches).1

theorem lawful_respond (h : ServerInv s) (hmem : (id, t) ∈ s.running)
    (hphase : t.phase = .committed) (version : Int) :
    Answered.Lawful
      { asked := some t.inputs
        others := s.others t
        answer := .ok { version := version, data := t.summary }
        commits := t.commits } where
  repeated := by
    intro inputs hinputs hrepeats
    obtain rfl := Option.some.inj hinputs
    have htxn := h.txns id t hmem
    have hown := own_eq_nil h hmem hrepeats
    refine ⟨?_, htxn.unchanged hown⟩
    rw [status, (htxn.quiet hown).1]
    rfl
  contradicted := by
    intro inputs hinputs hcontradicts
    obtain rfl := Option.some.inj hinputs
    exact absurd hcontradicts (not_contradicts h hmem hphase)

end Answers

/-! ## Requests without a transaction -/

/-- The request was not a valid one. -/
def IsBadRequest (e : ApiError) : Prop :=
  ∃ message, e = .badRequest message

theorem failsWith_fromAnyhow {A : Type} (x : Except String A) :
    FailsWith IsBadRequest (fromAnyhow x) := by
  cases x with
  | ok a => exact failsWith_ok a
  | error message => exact failsWith_error ⟨message, rfl⟩

theorem failsWith_rejectNodeIpBlock (env : ApiEnv) (cidr : IpNet) (resource : String) :
    FailsWith IsBadRequest (rejectNodeIpBlock env cidr resource) := by
  refine failsWith_forM (fun row => (failsWith_fromAnyhow _).bind fun ips => ?_) _
  split
  next ip _ => exact failsWith_error ⟨_, rfl⟩
  next => exact failsWith_ok ()

theorem failsWith_rejectDenyRuleNodeIp (env : ApiEnv) (request : CreateRuleRequest) :
    FailsWith IsBadRequest (rejectDenyRuleNodeIp env request) := by
  refine (failsWith_fromAnyhow _).bind fun denied => ?_
  cases denied with
  | none => exact failsWith_ok ()
  | some cidr => exact failsWith_rejectNodeIpBlock env cidr "deny rule"

theorem failsWith_validateBatchLen (len : Nat) :
    FailsWith IsBadRequest (validateBatchLen len) := by
  rw [validateBatchLen]
  split
  next => exact failsWith_error ⟨_, rfl⟩
  next =>
    split
    next => exact failsWith_error ⟨_, rfl⟩
    next => exact failsWith_ok ()

theorem failsWith_accept (env : ApiEnv) (request : CreateRequest) :
    FailsWith IsBadRequest (request.accept env) := by
  cases request with
  | single request =>
      exact (failsWith_rejectDenyRuleNodeIp env request).bind fun _ =>
        (failsWith_fromAnyhow _).bind fun input => failsWith_ok [input]
  | batch items =>
      exact (failsWith_validateBatchLen _).bind fun _ =>
        (failsWith_forM (failsWith_rejectDenyRuleNodeIp env) items).bind fun _ =>
          failsWith_mapM (fun item => failsWith_fromAnyhow (ruleInput env item)) items

/-! ## Every step -/

theorem status_of_isBadRequest {e : ApiError} (h : IsBadRequest e) : status (.error e) = 400 := by
  obtain ⟨message, rfl⟩ := h
  rfl

/-- A new answer is lawful exactly when the step that gives it is undisturbed. -/
theorem forall_mem_log_iff {log : List Answered} {a : Answered} {undisturbed : Prop}
    (h : a.Lawful ↔ undisturbed) :
    (∀ b ∈ log ++ [a], b.Lawful) ↔ (∀ b ∈ log, b.Lawful) ∧ undisturbed := by
  rw [List.forall_mem_append, List.forall_mem_singleton, h]

/-- A step that gives no answer is undisturbed. -/
theorem forall_mem_iff_of_undisturbed {log : List Answered} {undisturbed : Prop}
    (h : undisturbed) : (∀ b ∈ log, b.Lawful) ↔ (∀ b ∈ log, b.Lawful) ∧ undisturbed :=
  (and_iff_left h).symm

section Steps

variable {env : ApiEnv} {s s' : RuleServer} {id : Nat} {t : RuleTxn}

/-- What is said of the transaction of an event. -/
theorem forall_mem_txn_iff {p : RuleTxn → Prop} (ht : s.txn id = some t) :
    (∀ u ∈ s.txn id, p u) ↔ p t := by
  rw [ht]
  exact ⟨fun h => h t rfl, fun h u hu => Option.some.inj hu ▸ h⟩

theorem lawful_refuse_iff {request : CreateRequest} {e : ApiError}
    (hok : status (.error e) ≠ 200) (hconflict : status (.error e) ≠ 409) :
    (∀ a ∈ (s.refuse env request e).log, a.Lawful) ↔ (∀ a ∈ s.log, a.Lawful) ∧
      ∀ inputs ∈ request.normalized env,
        ¬Repeats inputs s.tables.rules ∧ ¬Contradicts inputs s.tables.rules :=
  forall_mem_log_iff (lawful_iff_of_status hok hconflict)

theorem lawful_receive_iff {nodes : List NodeRow} {request : CreateRequest} :
    (∀ a ∈ (s.receive id { env with nodes := nodes } request).log, a.Lawful) ↔
      (∀ a ∈ s.log, a.Lawful) ∧ Undisturbed env s (.receive id nodes request) := by
  rw [RuleServer.receive, Undisturbed]
  cases haccept : request.accept { env with nodes := nodes } with
  | ok inputs => exact forall_mem_iff_of_undisturbed nofun
  | error e =>
      have hstatus := status_of_isBadRequest (failsWith_accept _ _ e haccept)
      refine (lawful_refuse_iff ?_ ?_).trans ?_
      · rw [hstatus]
        decide
      · rw [hstatus]
        decide
      · exact and_congr_right fun _ => ⟨fun h e' he' => h, fun h => h e rfl⟩

/-- A row that others have under the key of the input is the one that the lookup finds. -/
theorem same_of_found (h : ServerInv s) (hmem : (id, t) ∈ s.running) {input : RuleInput}
    {row : FirewallRuleRow} (hinput : input ∈ t.inputs)
    (hfind : findRule (t.view ++ t.own) input = some row)
    (hrepeats : Repeats t.inputs (s.others t)) : input.Same row := by
  obtain ⟨hrow, -, hkey⟩ := findRule_eq_some hfind
  obtain ⟨other, hother, hsame⟩ := hrepeats.2 input hinput
  have hseen : row ∈ s.tables.rules ∨ row ∈ t.own :=
    (List.mem_append.mp hrow).imp_left ((h.txns id t hmem).view row)
  rw [← eq_of_seen h hmem hseen hother (hsame.ruleKey.trans hkey.symm)]
  exact hsame

theorem lawful_lookup_iff (h : ServerInv s) (ht : s.txn id = some t)
    (hstep : s.lookup id t = some s') :
    (∀ a ∈ s'.log, a.Lawful) ↔ (∀ a ∈ s.log, a.Lawful) ∧ Undisturbed env s (.lookup id) := by
  have hmem := mem_txn_iff.mp ht
  have htxn := h.txns id t hmem
  obtain ⟨hphase, hlooked⟩ := lookup_cases hstep
  rw [Undisturbed, forall_mem_txn_iff ht]
  cases hlooked with
  | missed input rest hpending hfind hnext =>
      rw [hnext]
      refine forall_mem_iff_of_undisturbed fun _ i hi row hrow => ?_
      rw [hpending] at hi
      obtain rfl := Option.some.inj hi
      rw [hfind] at hrow
      cases hrow
  | found input rest row hpending hfind hmatches hnext =>
      rw [hnext]
      refine forall_mem_iff_of_undisturbed fun _ i hi found hfound => ?_
      rw [hpending] at hi
      obtain rfl := Option.some.inj hi
      rw [hfind] at hfound
      obtain rfl := Option.some.inj hfound
      obtain ⟨-, hpolicy, hkey⟩ := findRule_eq_some hfind
      exact ((matchesExisting_iff hpolicy hkey).mp hmatches).2
  | refused input rest row hpending hfind hdiffers hnext =>
      rw [hnext, RuleServer.close, htxn.uncommitted (by rw [hphase]; nofun)]
      refine forall_mem_log_iff (lawful_refused_iff.trans ⟨fun hnot hrepeats => ?_, ?_⟩)
      · exact absurd hrepeats hnot
      · intro hspelled hrepeats
        obtain ⟨behind, hsplit, -⟩ := htxn.behind
        have hinput : input ∈ t.inputs := by
          rw [hsplit, hpending]
          exact List.mem_append_right _ List.mem_cons_self
        have hsame := same_of_found h hmem hinput hfind hrepeats
        have hprotocol : row.protocol = input.protocol :=
          hspelled hrepeats input (by rw [hpending]; rfl) row hfind
        have hmatches := (matchesExisting_iff hsame.policyName hsame.ruleKey).mpr ⟨hsame, hprotocol⟩
        rw [hdiffers] at hmatches
        cases hmatches

theorem lawful_insert_iff {rowId : Int32} (h : ServerInv s) (ht : s.txn id = some t)
    (hstep : s.insert id t rowId = some s') :
    (∀ a ∈ s'.log, a.Lawful) ↔
      (∀ a ∈ s.log, a.Lawful) ∧ Undisturbed env s (.insert id rowId) := by
  have hmem := mem_txn_iff.mp ht
  have htxn := h.txns id t hmem
  obtain ⟨hphase, hinserted⟩ := insert_cases hstep
  rw [Undisturbed, forall_mem_txn_iff ht]
  cases hinserted with
  | written input rest hpending hrules hothers hnext =>
      rw [hnext]
      refine forall_mem_iff_of_undisturbed fun hrepeats => ?_
      obtain ⟨behind, hsplit, -⟩ := htxn.behind
      have hinput : input ∈ t.inputs := by
        rw [hsplit, hpending]
        exact List.mem_append_right _ List.mem_cons_self
      -- a row with the key of the input would have refused the insertion
      obtain ⟨other, hother, hsame⟩ := hrepeats.2 input hinput
      have hclear := hrules other (List.mem_append_left _ (mem_others.mp hother).1)
      have hcollides : sameRule other (input.row rowId) = true :=
        sameRule_of_ruleKey hsame.ruleKey
      rw [hclear] at hcollides
      cases hcollides
  | refused input rest hpending hnext =>
      rw [hnext, RuleServer.close, htxn.uncommitted (by rw [hphase]; nofun)]
      exact forall_mem_log_iff lawful_refused_iff

theorem lawful_fail_iff {message : String} (ht : s.txn id = some t)
    (hstep : s.fail id t message = some s') :
    (∀ a ∈ s'.log, a.Lawful) ↔
      (∀ a ∈ s.log, a.Lawful) ∧ Undisturbed env s (.fail id message) := by
  rw [Undisturbed, forall_mem_txn_iff ht, fail_eq hstep]
  have hiff : Answered.Lawful
      { asked := some t.inputs
        others := s.others t
        answer := .error (.internal message)
        commits := t.commits } ↔ ∀ inputs ∈ some t.inputs,
          ¬Repeats inputs (s.others t) ∧ ¬Contradicts inputs (s.others t) :=
    lawful_iff_of_status (show 500 ≠ 200 by decide) (show 500 ≠ 409 by decide)
  refine forall_mem_log_iff (hiff.trans ⟨fun h => h t.inputs rfl, fun h inputs hinputs => ?_⟩)
  obtain rfl := Option.some.inj hinputs
  exact h

/-- Steps that give no answer leave the log as it is. -/
theorem log_bump (hstep : s.bump id t = some s') : s'.log = s.log := by
  rw [RuleServer.bump] at hstep
  split at hstep
  next =>
    cases hstep
    rfl
  next => cases hstep

theorem log_commit (hstep : s.commit id t = some s') : s'.log = s.log := by
  rw [RuleServer.commit] at hstep
  split at hstep
  next =>
    cases hstep
    rfl
  next => cases hstep

/-- What a step adds to the log is lawful exactly when the step is undisturbed. -/
theorem lawful_step_iff {e : RuleEvent} (h : ServerInv s) (hstep : step env s e = some s') :
    (∀ a ∈ s'.log, a.Lawful) ↔ (∀ a ∈ s.log, a.Lawful) ∧ Undisturbed env s e := by
  cases e with
  | receive id nodes request =>
      rw [step] at hstep
      split at hstep
      next => cases hstep
      next =>
        cases hstep
        exact lawful_receive_iff
  | unavailable request message =>
      cases hstep
      exact lawful_refuse_iff (show 500 ≠ 200 by decide) (show 500 ≠ 409 by decide)
  | refresh id =>
      obtain ⟨t, ht, hstep⟩ := Option.bind_eq_some_iff.mp hstep
      cases hstep
      exact forall_mem_iff_of_undisturbed trivial
  | lookup id =>
      obtain ⟨t, ht, hstep⟩ := Option.bind_eq_some_iff.mp hstep
      exact lawful_lookup_iff h ht hstep
  | insert id rowId =>
      obtain ⟨t, ht, hstep⟩ := Option.bind_eq_some_iff.mp hstep
      exact lawful_insert_iff h ht hstep
  | bump id =>
      obtain ⟨t, ht, hstep⟩ := Option.bind_eq_some_iff.mp hstep
      rw [log_bump hstep]
      exact forall_mem_iff_of_undisturbed trivial
  | commit id =>
      obtain ⟨t, ht, hstep⟩ := Option.bind_eq_some_iff.mp hstep
      rw [log_commit hstep]
      exact forall_mem_iff_of_undisturbed trivial
  | respond id =>
      obtain ⟨t, ht, hstep⟩ := Option.bind_eq_some_iff.mp hstep
      obtain ⟨hphase, hnext⟩ := respond_cases hstep
      rw [hnext]
      exact forall_mem_log_iff
        (iff_of_true (lawful_respond h (mem_txn_iff.mp ht) hphase _) trivial)
  | fail id message =>
      obtain ⟨t, ht, hstep⟩ := Option.bind_eq_some_iff.mp hstep
      exact lawful_fail_iff ht hstep

end Steps

/-! ## Every run -/

/-- Before the first request. -/
def RuleServer.start (tables : RuleTables) : RuleServer where
  tables := tables
  running := KeyedStore.empty
  log := []

theorem serverInv_start {tables : RuleTables} (h : Distinct sameRule tables.rules) :
    ServerInv (RuleServer.start tables) where
  rules := h
  txns _ _ hmem := absurd hmem (KeyedStore.not_mem_empty _)
  held _ _ hmem := absurd hmem (KeyedStore.not_mem_empty _)
  apart _ _ _ _ hmem := absurd hmem (KeyedStore.not_mem_empty _)

theorem keys_of_inv {s : RuleServer} (h : ServerInv s) :
    (s.tables.rules.map FirewallRuleRow.ruleKey).Nodup := by
  refine List.pairwise_map.mpr (h.rules.imp fun {a b} hab hkey => ?_)
  rw [sameRule_of_ruleKey hkey] at hab
  cases hab

/-- In every interleaving no two rows have one key, and all answers are lawful up to the first step
that is disturbed, and no longer. -/
theorem idempotent_iff_undisturbed (env : ApiEnv) (tables : RuleTables)
    (hrules : Distinct sameRule tables.rules) (events : List RuleEvent) :
    EachStep (step env) (fun _ _ s' => s'.Idempotent) (RuleServer.start tables) events ↔
      EachStep (step env) (fun s e _ => Undisturbed env s e) (RuleServer.start tables) events := by
  have hagree (s : RuleServer) (e : RuleEvent) (s' : RuleServer)
      (hinv : ServerInv s ∧ ∀ a ∈ s.log, a.Lawful) (hstep : step env s e = some s') :
      s'.Idempotent ↔ Undisturbed env s e := by
    have hiff := lawful_step_iff hinv.1 hstep
    constructor
    · intro h
      exact (hiff.mp h.answers).2
    · intro h
      exact ⟨keys_of_inv (inv_step hinv.1 hstep), hiff.mpr ⟨hinv.2, h⟩⟩
  refine eachStep_congr hagree (fun s e s' hinv hstep hundisturbed => ?_)
    ⟨serverInv_start hrules, nofun⟩
  exact ⟨inv_step hinv.1 hstep, (lawful_step_iff hinv.1 hstep).mpr ⟨hinv.2, hundisturbed⟩⟩

section Runs

def ruleNet : IpNet :=
  hostNet (.v4 0xCB007109)

/-- An API that knows one network and whose digest is the text itself. -/
def ruleEnv : ApiEnv where
  text :=
    { ipNet := fun value => if value = "203.0.113.9/32" then some ruleNet else none
      ipAddr := fun _ => none
      cidrArray := fun _ => []
      stringArray := fun _ => none }
  display _ := "203.0.113.9/32"
  displayAddr _ := ""
  keyDigest := id
  urlScheme _ := none
  nodes := []
  now := 0
  nextId ids := Int32.ofNat (ids.length + 1)
  transactionFails := none
  versionReadFails := none

/-- A rule without a key and a protocol. -/
def bareRule : CreateRuleRequest where
  ruleKey := none
  enabled := none
  priority := 10
  action := "deny"
  cidr := "203.0.113.9/32"
  protocol := none
  port := none
  comment := none

/-- The same rule with its protocol spelled out. -/
def spelledRule : CreateRuleRequest :=
  { bareRule with protocol := some "any" }

def bareInput : RuleInput where
  ruleKey := "priority=10\naction=deny\ncidr=203.0.113.9/32\nprotocol=any\nport=\n"
  enabled := true
  priority := 10
  action := "deny"
  cidr := "203.0.113.9/32"
  protocol := none
  port := none
  comment := none

def spelledInput : RuleInput :=
  { bareInput with protocol := some "any" }

theorem normalizeAction_deny : normalizeAction "deny" = .ok "deny" := by
  rw [normalizeAction, toLower_eq_self (by decide)]
  rfl

theorem normalizeProtocol_any : normalizeProtocol "any" = .ok "any" := by
  rw [normalizeProtocol, toLower_eq_self (by decide)]
  rfl

theorem accept_bareRule : CreateRequest.accept ruleEnv (.single bareRule) = .ok [bareInput] := by
  have haction : normalizeAction bareRule.action = .ok "deny" := normalizeAction_deny
  rw [CreateRequest.accept, rejectDenyRuleNodeIp, denyRuleCidr, ruleInput, haction]
  rfl

theorem accept_spelledRule :
    CreateRequest.accept ruleEnv (.single spelledRule) = .ok [spelledInput] := by
  have haction : normalizeAction spelledRule.action = .ok "deny" := normalizeAction_deny
  have hprotocol : spelledRule.protocol.mapM normalizeProtocol =
      (some <$> normalizeProtocol "any" : Except String (Option String)) := rfl
  rw [CreateRequest.accept, rejectDenyRuleNodeIp, denyRuleCidr, ruleInput, haction, hprotocol,
    normalizeProtocol_any]
  rfl

/-- A request that arrives and is accepted begins its transaction. -/
theorem step_receive_of_accept {env : ApiEnv} {s : RuleServer} {id : Nat} {nodes : List NodeRow}
    {request : CreateRequest} {inputs : List RuleInput} (hnew : s.txn id = none)
    (h : request.accept { env with nodes := nodes } = .ok inputs) :
    step env s (.receive id nodes request) = some (s.keep id
      { inputs := inputs
        pending := inputs
        view := s.tables.rules
        own := []
        summary := CreateRows.empty FirewallRuleRow
        phase := .looking
        raised := none
        commits := none }) := by
  rw [step, hnew, RuleServer.receive, h]
  rfl

def noRules : RuleTables where
  rules := []
  version := none

/-- One rule is created twice, the second time exactly as the first. -/
def repeatedRun : List RuleEvent :=
  [.receive 1 [] (.single bareRule), .lookup 1, .insert 1 1, .bump 1, .commit 1, .respond 1,
    .receive 2 [] (.single bareRule), .lookup 2, .bump 2, .commit 2, .respond 2]

theorem not_repeats_nil (inputs : List RuleInput) : ¬Repeats inputs [] := by
  rintro ⟨hne, hrows⟩
  obtain ⟨row, hrow, -⟩ := hrows _ (List.head_mem hne)
  cases hrow

theorem undisturbed_receive {env : ApiEnv} {s : RuleServer} {id : Nat} {nodes : List NodeRow}
    {request : CreateRequest} {inputs : List RuleInput}
    (h : request.accept { env with nodes := nodes } = .ok inputs) :
    Undisturbed env s (.receive id nodes request) := by
  intro e he
  rw [h] at he
  cases he

theorem idempotent_iff_undisturbed_repeatedRun :
    EachStep (step ruleEnv) (fun _ _ s' => s'.Idempotent) (RuleServer.start noRules)
      repeatedRun := by
  refine (idempotent_iff_undisturbed ruleEnv noRules List.Pairwise.nil repeatedRun).mpr ?_
  refine eachStep_cons (step_receive_of_accept rfl accept_bareRule)
    (undisturbed_receive accept_bareRule) ?_
  refine eachStep_cons rfl (fun t ht hrepeats => ?_) ?_
  · cases ht
    exact absurd hrepeats (not_repeats_nil _)
  refine eachStep_cons rfl (fun t ht hrepeats => ?_) ?_
  · cases ht
    exact not_repeats_nil _ hrepeats
  refine eachStep_cons rfl trivial (eachStep_cons rfl trivial (eachStep_cons rfl trivial ?_))
  refine eachStep_cons (step_receive_of_accept rfl accept_bareRule)
    (undisturbed_receive accept_bareRule) ?_
  refine eachStep_cons rfl (fun t ht _ input hinput row hrow => ?_) ?_
  · cases ht
    cases hinput
    cases hrow
    rfl
  exact eachStep_cons rfl trivial (eachStep_cons rfl trivial (eachStep_cons rfl trivial trivial))

/-- One rule is created twice, the second time with its protocol spelled out. -/
def spelledRun : List RuleEvent :=
  [.receive 1 [] (.single bareRule), .lookup 1, .insert 1 1, .bump 1, .commit 1, .respond 1,
    .receive 2 [] (.single spelledRule), .lookup 2]

/-- Two requests for one rule look it up before either inserts it. -/
def raceRun : List RuleEvent :=
  [.receive 1 [] (.single bareRule), .receive 2 [] (.single bareRule), .lookup 1, .lookup 2,
    .insert 1 1, .bump 1, .commit 1, .respond 1, .insert 2 2]

def oneRule : RuleTables where
  rules := [bareInput.row 1]
  version := some 1

/-- The answer to the request that has created the rule. -/
def createdAnswer : Answered where
  asked := some [bareInput]
  others := []
  answer := .ok
    { version := 1
      data :=
        { rows := [bareInput.row 1]
          inserted := true
          activeChanged := true } }
  commits := some (noRules, oneRule)

/-- The answer to a request for the rule when it is there. -/
def refusedAnswer (input : RuleInput) : Answered where
  asked := some [input]
  others := [bareInput.row 1]
  answer := .error ruleKeyExists
  commits := none

theorem not_lawful_refusedAnswer {input : RuleInput} (h : input.Same (bareInput.row 1)) :
    ¬(refusedAnswer input).Lawful := by
  rw [refusedAnswer, lawful_refused_iff, not_not]
  refine ⟨List.cons_ne_nil _ _, fun i hi => ⟨bareInput.row 1, List.mem_cons_self, ?_⟩⟩
  rw [List.mem_singleton.mp hi]
  exact h

/-- A rule that is asked for with its protocol spelled out is refused, because its row has none. -/
theorem spelled_rule_conflicts :
    ∃ s', run (step ruleEnv) (RuleServer.start noRules) spelledRun = some s' ∧
      s'.log.map (fun a => status a.answer) = [201, 409] ∧ ¬s'.Idempotent := by
  have hcreated : run (step ruleEnv) (RuleServer.start noRules) (spelledRun.take 6) =
      some { tables := oneRule, running := KeyedStore.empty, log := [createdAnswer] } := by
    rw [spelledRun, List.take_succ_cons, run, step_receive_of_accept rfl accept_bareRule]
    rfl
  have hrun : run (step ruleEnv) (RuleServer.start noRules) spelledRun =
      some { tables := oneRule
             running := KeyedStore.empty
             log := [createdAnswer, refusedAnswer spelledInput] } := by
    have hrest : spelledRun.drop 6 = [.receive 2 [] (.single spelledRule), .lookup 2] := rfl
    rw [← List.take_append_drop 6 spelledRun, run_append, hcreated, Option.bind_some, hrest, run,
      step_receive_of_accept rfl accept_spelledRule]
    rfl
  have hunlawful : ¬(refusedAnswer spelledInput).Lawful :=
    not_lawful_refusedAnswer ⟨rfl, rfl, rfl, rfl, rfl, rfl, rfl, rfl, rfl⟩
  exact ⟨_, hrun, rfl, fun h => hunlawful
    (h.answers _ (List.mem_cons_of_mem _ List.mem_cons_self))⟩

/-- The second of two requests for one rule is refused when the first commits after both looked. -/
theorem raced_rule_conflicts :
    ∃ s', run (step ruleEnv) (RuleServer.start noRules) raceRun = some s' ∧
      s'.log.map (fun a => status a.answer) = [201, 409] ∧ ¬s'.Idempotent := by
  have hrun : run (step ruleEnv) (RuleServer.start noRules) raceRun =
      some { tables := oneRule
             running := KeyedStore.empty
             log := [createdAnswer, refusedAnswer bareInput] } := by
    rw [raceRun, run, step_receive_of_accept rfl accept_bareRule, Option.bind_some, run,
      step_receive_of_accept rfl accept_bareRule]
    rfl
  have hunlawful : ¬(refusedAnswer bareInput).Lawful :=
    not_lawful_refusedAnswer ⟨rfl, rfl, rfl, rfl, rfl, rfl, rfl, rfl, rfl⟩
  exact ⟨_, hrun, rfl, fun h => hunlawful
    (h.answers _ (List.mem_cons_of_mem _ List.mem_cons_self))⟩

end Runs

end FirewallRules
end Api
end XdpFirewall
