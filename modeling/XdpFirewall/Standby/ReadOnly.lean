import Mathlib.Data.List.Forall2
import XdpFirewall.Lib.Traverse
import XdpFirewall.Standby.Server

/-!
# ReadOnly — a control plane in standby mode leaves the database as it is

The command line decides what runs at all, and a server that runs in standby mode executes nothing
but queries, whatever it is asked. One command gets through that is not a query.
-/

namespace XdpFirewall
namespace Standby

open Lib

/-! ## Command lines -/

/-- The environment variables that the checks before a command read. -/
structure Environment where
  standby : Option String
  agentOnly : Option String

/-- The commands, with the value of `--standby` where they have it. -/
inductive Command
  | migrate
  | api (standby : Bool)
  | xds (standby : Bool)
  | agent
  | syncOnce
  | monitor
  | xdp
  | policySeedExample
  | policyShow
  deriving DecidableEq

/-- The value of a variable that is compared without regard to case. -/
def isOn (value : Option String) : Bool :=
  value.any fun value =>
    ["1".toList, "true".toList, "yes".toList].contains (value.toList.map Char.toLower)

/-- A flag that is given is on; else the variable decides, which must be `true` or `false`. -/
def flagValue (given : Bool) (setting : Option String) : Except String Bool :=
  if given then
    .ok true
  else
    match setting with
    | none => .ok false
    | some "true" => .ok true
    | some "false" => .ok false
    | some value => .error ("invalid value '" ++ value ++ "' for '--standby'")

/-- `Cli::parse`; only the commands with the flag read the variable. -/
def parseCommand (env : Environment) : Command → Except String Command
  | .api given => Command.api <$> flagValue given env.standby
  | .xds given => Command.xds <$> flagValue given env.standby
  | command => .ok command

def rejectControlPlaneCommandsInAgentOnlyMode (env : Environment) (command : Command) :
    Except String Unit :=
  match command with
  | .agent | .syncOnce | .monitor | .xdp => .ok ()
  | _ =>
      if isOn env.agentOnly then
        .error ("control-plane database commands are disabled in this agent-only container; " ++
          "use the API/control-plane container or HTTP API to inspect policy")
      else
        .ok ()

def rejectWritesInStandbyMode (env : Environment) (command : Command) : Except String Unit :=
  if !isOn env.standby then
    .ok ()
  else
    match command with
    | .migrate | .policySeedExample =>
        .error ("control-plane writes are disabled in standby read-only mode; " ++
          "use a non-standby control plane to migrate or seed policy")
    | _ => .ok ()

/-- `main`, up to where the command runs. -/
def accept (env : Environment) (line : Command) : Except String Command := do
  let command ← parseCommand env line
  rejectControlPlaneCommandsInAgentOnlyMode env command
  rejectWritesInStandbyMode env command
  .ok command

/-! ## What a command executes -/

/-- A part of a command: its first statement, where it always has one, and the kinds of all. -/
structure Part where
  first : Option Sql
  kinds : List Sql

def Part.allows (part : Part) (ran : List Sql) : Prop :=
  among part.kinds ran = true ∧ ∀ sql, part.first = some sql → ran.head? = some sql

/-- The migration begins with the creation of a table. -/
def migratePart : Part where
  first := some .schema
  kinds := [.schema, .select, .update]

def ensureBuiltinPolicyPart : Part where
  first := some .select
  kinds := .insert :: versionStatements

def seedExamplePart : Part where
  first := some .delete
  kinds := [.insert, .delete] ++ versionStatements

def selectPart : Part where
  first := none
  kinds := [.select]

/-- The parts run one after the other; a part that fails ends the command. -/
def Runs (parts : List Part) (executed : List Sql) : Prop :=
  ∃ rans, List.Forall₂ Part.allows (parts.take rans.length) rans ∧ executed = rans.flatten

/-- The start of `api` and `xds`, up to the servers. -/
def startupParts (standby : Bool) : List Part :=
  if standby then [selectPart] else [migratePart, ensureBuiltinPolicyPart, selectPart]

/-- What a server has executed after some events. -/
def Serves (standby servesHttp : Bool) (executed : List Sql) : Prop :=
  ∃ startup es s, Runs (startupParts standby) startup ∧
    run step (Server.start standby servesHttp startup) es = some s ∧ executed = s.executed

/-- The statements that a command can have executed at some time. -/
def Executes (command : Command) (executed : List Sql) : Prop :=
  match command with
  | .migrate => Runs [migratePart] executed
  | .policySeedExample => Runs [migratePart, seedExamplePart] executed
  | .policyShow => Runs [migratePart, ensureBuiltinPolicyPart, selectPart] executed
  | .api standby => Serves standby true executed
  | .xds standby => Serves standby false executed
  | .agent | .syncOnce | .monitor | .xdp => executed = []

def ReadsOnly (executed : List Sql) : Prop :=
  ∀ sql ∈ executed, sql.writes = false

instance (executed : List Sql) : Decidable (ReadsOnly executed) :=
  inferInstanceAs (Decidable (∀ sql ∈ executed, sql.writes = false))

theorem ReadsOnly.append {executed ran : List Sql} (h : ReadsOnly executed) (hran : ReadsOnly ran) :
    ReadsOnly (executed ++ ran) := by
  intro sql hsql
  rcases List.mem_append.mp hsql with hsql | hsql
  · exact h sql hsql
  · exact hran sql hsql

theorem readsOnly_of_among {kinds ran : List Sql} (hkinds : ReadsOnly kinds)
    (h : among kinds ran = true) : ReadsOnly ran := by
  intro sql hsql
  exact hkinds sql (List.contains_iff_mem.mp (List.all_eq_true.mp h sql hsql))

/-! ## Requests in standby mode -/

/-- Without a writing method, whatever handler is chosen executes queries only. -/
def Quiet (handler : Method → Option Handler) : Prop :=
  ∀ method chosen, method.isWrite = false → handler method = some chosen →
    ReadsOnly chosen.statements

theorem quiet_onGet {handler : Handler} (h : ReadsOnly handler.statements) :
    Quiet (onGet handler) := by
  intro method chosen _ hchosen
  cases method <;> simp only [onGet, Option.some.injEq, reduceCtorEq] at hchosen <;>
    exact hchosen ▸ h

theorem quiet_onPost (handler : Handler) : Quiet (onPost handler) := by
  intro method chosen hmethod hchosen
  cases method <;> simp_all [onPost, Method.isWrite]

theorem quiet_onDelete (handler : Handler) : Quiet (onDelete handler) := by
  intro method chosen hmethod hchosen
  cases method <;> simp_all [onDelete, Method.isWrite]

theorem quiet_onPut (handler : Handler) : Quiet (onPut handler) := by
  intro method chosen hmethod hchosen
  cases method <;> simp_all [onPut, Method.isWrite]

theorem Quiet.orElse {first second : Method → Option Handler} (hfirst : Quiet first)
    (hsecond : Quiet second) : Quiet (orElse first second) := by
  intro method chosen hmethod hchosen
  rcases Option.or_eq_some_iff.mp hchosen with h | ⟨-, h⟩
  · exact hfirst method chosen hmethod h
  · exact hsecond method chosen hmethod h

theorem quiet_resourceRoutes (name : String) (resource : Resource) :
    ∀ entry ∈ resourceRoutes name resource, Quiet entry.handler := by
  have hlist : ReadsOnly (Handler.list resource).statements := by
    change ReadsOnly [.select]
    decide
  simp only [resourceRoutes, protectedRoute, List.forall_mem_cons, List.not_mem_nil,
    IsEmpty.forall_iff, implies_true, and_true]
  exact ⟨(quiet_onGet hlist).orElse ((quiet_onPost _).orElse (quiet_onDelete _)),
    (quiet_onPost _).orElse (quiet_onDelete _)⟩

theorem quiet_policyRoutes : ∀ entry ∈ policyRoutes, Quiet entry.handler := by
  have hremoved : Quiet fun _ => some .removedMultiPolicyApi := by
    intro method chosen _ hchosen
    cases hchosen
    decide
  simp only [policyRoutes, protectedRoute, List.forall_mem_cons, List.not_mem_nil,
    IsEmpty.forall_iff, implies_true, and_true]
  exact ⟨quiet_onGet (by decide), quiet_onPost _, quiet_onPost _, hremoved, hremoved⟩

theorem quiet_ruleRoutes : ∀ entry ∈ ruleRoutes, Quiet entry.handler := by
  simp only [ruleRoutes, protectedRoute, List.forall_mem_append, List.forall_mem_cons,
    List.not_mem_nil, IsEmpty.forall_iff, implies_true, and_true]
  exact ⟨quiet_resourceRoutes _ _, quiet_onDelete _⟩

theorem quiet_geoRoutes : ∀ entry ∈ geoRoutes, Quiet entry.handler := by
  simp only [geoRoutes, protectedRoute, List.forall_mem_append, List.forall_mem_cons,
    List.not_mem_nil, IsEmpty.forall_iff, implies_true, and_true]
  exact ⟨quiet_resourceRoutes _ _, quiet_onPost _, quiet_onGet (by decide), quiet_onDelete _⟩

theorem quiet_threatRoutes : ∀ entry ∈ threatRoutes, Quiet entry.handler := by
  simp only [threatRoutes, protectedRoute, List.forall_mem_append, List.forall_mem_cons,
    List.not_mem_nil, IsEmpty.forall_iff, implies_true, and_true]
  exact ⟨quiet_resourceRoutes _ _, quiet_onPost _, (quiet_onPut _).orElse (quiet_onDelete _)⟩

theorem quiet_dynamicPolicyRoutes : ∀ entry ∈ dynamicPolicyRoutes, Quiet entry.handler := by
  simp only [dynamicPolicyRoutes, protectedRoute, List.cons_append, List.forall_mem_append,
    List.forall_mem_cons, List.not_mem_nil, IsEmpty.forall_iff, implies_true, and_true]
  exact ⟨(quiet_onGet (by decide)).orElse (quiet_onPut _), quiet_resourceRoutes _ _,
    quiet_onDelete _⟩

theorem quiet_tempBanRoutes : ∀ entry ∈ tempBanRoutes, Quiet entry.handler := by
  simp only [tempBanRoutes, protectedRoute, List.forall_mem_cons, List.not_mem_nil,
    IsEmpty.forall_iff, implies_true, and_true]
  exact ⟨(quiet_onGet (by decide)).orElse (quiet_onPost _),
    (quiet_onPost _).orElse (quiet_onDelete _), quiet_onDelete _⟩

theorem quiet_trustedCidrRoutes : ∀ entry ∈ trustedCidrRoutes, Quiet entry.handler := by
  simp only [trustedCidrRoutes, protectedRoute, List.forall_mem_append, List.forall_mem_cons,
    List.not_mem_nil, IsEmpty.forall_iff, implies_true, and_true]
  exact ⟨quiet_resourceRoutes _ _, quiet_onDelete _⟩

theorem quiet_nodeRoutes : ∀ entry ∈ nodeRoutes, Quiet entry.handler := by
  simp only [nodeRoutes, protectedRoute, List.forall_mem_cons, List.not_mem_nil,
    IsEmpty.forall_iff, implies_true, and_true]
  exact ⟨quiet_onGet (by decide), quiet_onPost _, quiet_onGet (by decide)⟩

theorem quiet_publicRoutes : ∀ entry ∈ publicRoutes, Quiet entry.handler := by
  simp only [publicRoutes, List.forall_mem_cons, List.not_mem_nil, IsEmpty.forall_iff,
    implies_true, and_true]
  exact ⟨quiet_onGet (by decide), quiet_onGet (by decide), quiet_onGet (by decide),
    quiet_onGet (by decide)⟩

theorem quiet_of_mem_routes : ∀ entry ∈ publicRoutes ++ apiRoutes, Quiet entry.handler := by
  simp only [apiRoutes, protectedRoute, List.forall_mem_append, List.forall_mem_cons,
    List.not_mem_nil, IsEmpty.forall_iff, implies_true, and_true]
  exact ⟨quiet_publicRoutes, ⟨⟨⟨⟨⟨⟨⟨quiet_policyRoutes, quiet_ruleRoutes⟩, quiet_geoRoutes⟩,
    quiet_threatRoutes⟩, quiet_dynamicPolicyRoutes⟩, quiet_tempBanRoutes⟩,
    quiet_trustedCidrRoutes⟩, quiet_nodeRoutes⟩, quiet_onGet (by decide)⟩

theorem onGet_of_isWrite (handler : Handler) {method : Method} (h : method.isWrite = true) :
    onGet handler method = none := by
  cases method <;> simp_all [onGet, Method.isWrite]

/-- A public route answers no writing method, and the other routes are behind the check. -/
theorem isWrite_of_public : ∀ entry ∈ publicRoutes ++ apiRoutes, entry.isProtected = false →
    ∀ method : Method, method.isWrite = true → entry.handler method = none := by
  intro entry hentry hpublic method hmethod
  have hopen : entry ∈ publicRoutes := by
    rcases List.mem_append.mp hentry with hentry | hentry
    · exact hentry
    · have hguarded : ∀ entry ∈ apiRoutes, entry.isProtected = true := by
        simp [apiRoutes, policyRoutes, ruleRoutes, geoRoutes, threatRoutes, dynamicPolicyRoutes,
          tempBanRoutes, trustedCidrRoutes, nodeRoutes, resourceRoutes, protectedRoute]
      rw [hguarded entry hentry] at hpublic
      cases hpublic
  have hget : ∃ handler, entry.handler = onGet handler := by
    simp only [publicRoutes, List.mem_cons, List.not_mem_nil, or_false] at hopen
    rcases hopen with rfl | rfl | rfl | rfl <;> exact ⟨_, rfl⟩
  obtain ⟨handler, hhandler⟩ := hget
  rw [hhandler]
  exact onGet_of_isWrite handler hmethod

/-- Whatever a request asks of a server in standby mode, it gets queries only. -/
theorem readsOnly_of_route {request : Request} {handler : Handler}
    (h : route true request = some handler) : ReadsOnly handler.statements := by
  rw [route] at h
  cases hfind : (publicRoutes ++ apiRoutes).find? fun route =>
      matchesPath route.pattern request.path with
  | none =>
      rw [hfind] at h
      cases hwrite : request.method.isWrite with
      | true => simp [onGet_of_isWrite _ hwrite] at h
      | false => exact quiet_onGet (by decide) request.method handler hwrite h
  | some entry =>
      have hentry := List.mem_of_find?_eq_some hfind
      simp only [hfind] at h
      split at h
      · cases h
      · rename_i hpasses
        cases hwrite : request.method.isWrite with
        | false => exact quiet_of_mem_routes entry hentry request.method handler hwrite h
        | true =>
            -- A writing method that passes the check is on a public route.
            have hpublic : entry.isProtected = false := by
              by_contra hprotected
              simp [hwrite, hprotected] at hpasses
            rw [isWrite_of_public entry hentry hpublic request.method hwrite] at h
            cases h

/-! ## A server in standby mode -/

/-- Nothing that writes is under way. -/
structure Server.Standing (s : Server) : Prop where
  standby : s.standby = true
  cleanup : s.cleanup.standby = true
  idle : s.cleanup.running = false
  loops : s.loops = []
  reads : ReadsOnly s.executed

theorem Server.Standing.execute {s s' : Server} (h : s.Standing) {kinds ran : List Sql}
    (hkinds : ReadsOnly kinds) (hexecute : s.execute kinds ran = some s') : s'.Standing := by
  rw [Server.execute] at hexecute
  split at hexecute
  · rename_i hamong
    cases hexecute
    exact {
      standby := h.standby
      cleanup := h.cleanup
      idle := h.idle
      loops := h.loops
      reads := h.reads.append (readsOnly_of_among hkinds hamong) }
  · cases hexecute

theorem Server.Standing.step {s s' : Server} (h : s.Standing) {e : Event}
    (hstep : step s e = some s') : s'.Standing := by
  cases e with
  | http request ran =>
      simp only [Standby.step] at hstep
      split at hstep
      · refine h.execute ?_ hstep
        rw [h.standby]
        cases hroute : route true request with
        | none => exact fun _ hsql => absurd hsql List.not_mem_nil
        | some handler => exact readsOnly_of_route hroute
      · cases hstep
  | xds call authorized ran =>
      refine h.execute ?_ hstep
      rw [h.standby]
      cases authorized <;> cases call <;> decide
  | streamTick now ran =>
      have hstarts : s.cleanup.starts now = false := by
        simp [TempBanCleanup.starts, h.cleanup]
      simp only [Standby.step, hstarts, Bool.false_eq_true, if_false] at hstep
      exact h.execute (by decide) hstep
  | cleanupEnds startedAt succeeded ran =>
      simp [Standby.step, h.idle] at hstep
  | rebuildThreatLookup ran => exact h.execute (by decide) hstep
  | loopStep loop ran =>
      simp [Standby.step, h.loops] at hstep

theorem standing_start {startup : List Sql} (servesHttp : Bool) (h : ReadsOnly startup) :
    (Server.start true servesHttp startup).Standing where
  standby := rfl
  cleanup := rfl
  idle := rfl
  loops := rfl
  reads := h

theorem standing_of_run {s s' : Server} {es : List Event} (h : s.Standing)
    (hrun : run step s es = some s') : s'.Standing :=
  run_invariant (fun _ _ _ h hstep => h.step hstep) h hrun

/-! ## Commands in standby mode -/

theorem readsOnly_of_parts {parts : List Part} (hkinds : ∀ part ∈ parts, ReadsOnly part.kinds)
    {executed : List Sql} (h : Runs parts executed) : ReadsOnly executed := by
  obtain ⟨rans, hrans, rfl⟩ := h
  have htake : ∀ part ∈ parts.take rans.length, ReadsOnly part.kinds :=
    fun part hpart => hkinds part (List.mem_of_mem_take hpart)
  generalize parts.take rans.length = taken at hrans htake
  induction hrans with
  | nil => exact fun _ hsql => absurd hsql List.not_mem_nil
  | cons hallows _ ih =>
      rw [List.forall_mem_cons] at htake
      rw [List.flatten_cons]
      exact (readsOnly_of_among htake.1 hallows.1).append (ih htake.2)

theorem readsOnly_of_serves {servesHttp : Bool} {executed : List Sql}
    (h : Serves true servesHttp executed) : ReadsOnly executed := by
  obtain ⟨startup, es, s, hstartup, hrun, rfl⟩ := h
  have hreads : ReadsOnly startup := readsOnly_of_parts (by decide) hstartup
  exact (standing_of_run (standing_start servesHttp hreads) hrun).reads

/-- The variable that is on, or the flag of a server. -/
def StandbyMode (env : Environment) (line : Command) : Prop :=
  isOn env.standby = true ∨ line = .api true ∨ line = .xds true

/-- What `--standby` turns out to be is on, if the command line is accepted at all. -/
theorem flagValue_ok {given flag : Bool} {setting : Option String}
    (hmode : isOn setting = true ∨ given = true) (h : flagValue given setting = .ok flag) :
    flag = true := by
  cases given with
  | true =>
      cases h
      rfl
  | false =>
      have hon : isOn setting = true := by simpa using hmode
      simp only [flagValue, Bool.false_eq_true, if_false] at h
      split at h
      · exact absurd hon (by decide)
      · cases h
        rfl
      · exact absurd hon (by decide)
      · cases h

/-- The commands that are left are those of the agents, the servers with the mode on and one
more. -/
theorem command_of_accept {env : Environment} {line command : Command}
    (hmode : StandbyMode env line) (h : accept env line = .ok command) :
    command = .api true ∨ command = .xds true ∨
      command ∈ [.agent, .syncOnce, .monitor, .xdp] ∨ command = .policyShow := by
  rw [accept] at h
  obtain ⟨parsed, hparsed, h⟩ := bind_ok_iff.mp h
  obtain ⟨_, -, h⟩ := bind_ok_iff.mp h
  obtain ⟨_, hwrites, h⟩ := bind_ok_iff.mp h
  cases h
  cases line with
  | api given =>
      obtain ⟨flag, hflag, rfl⟩ := map_ok hparsed
      rw [flagValue_ok (by simpa [StandbyMode] using hmode) hflag]
      exact .inl rfl
  | xds given =>
      obtain ⟨flag, hflag, rfl⟩ := map_ok hparsed
      rw [flagValue_ok (by simpa [StandbyMode] using hmode) hflag]
      exact .inr (.inl rfl)
  | migrate | policySeedExample =>
      -- These are the commands that the guard names.
      cases hparsed
      have hon : isOn env.standby = true := by simpa [StandbyMode] using hmode
      rw [rejectWritesInStandbyMode, hon] at hwrites
      cases hwrites
  | agent | syncOnce | monitor | xdp =>
      cases hparsed
      exact .inr (.inr (.inl (by decide)))
  | policyShow =>
      cases hparsed
      exact .inr (.inr (.inr rfl))

theorem executes_policyShow_schema : Executes .policyShow [.schema] := by
  refine ⟨[[.schema]], .cons ⟨by decide, ?_⟩ .nil, rfl⟩
  intro sql hsql
  rw [← hsql]
  rfl

theorem not_readsOnly_policyShow :
    ¬ ∀ executed, Executes .policyShow executed → ReadsOnly executed := by
  intro hall
  exact absurd (hall [.schema] executes_policyShow_schema) (by decide)

/-- The one command that writes while the standby mode is on is `policy show`, which migrates the
database and adds the built-in policy before it reads. -/
theorem standby_readsOnly_iff {env : Environment} {line command : Command}
    (hmode : StandbyMode env line) (h : accept env line = .ok command) :
    (∀ executed, Executes command executed → ReadsOnly executed) ↔ command ≠ .policyShow := by
  constructor
  · intro hall hshow
    rw [hshow] at hall
    exact not_readsOnly_policyShow hall
  · intro hshow executed hexecutes
    rcases command_of_accept hmode h with rfl | rfl | hagent | rfl
    · exact readsOnly_of_serves hexecutes
    · exact readsOnly_of_serves hexecutes
    · have hnothing : executed = [] := by
        simp only [List.mem_cons, List.not_mem_nil, or_false] at hagent
        rcases hagent with rfl | rfl | rfl | rfl <;> exact hexecutes
      rw [hnothing]
      exact fun _ hsql => absurd hsql List.not_mem_nil
    · exact absurd rfl hshow

/-- The variable as the documentation sets it. -/
def standbyEnvironment : Environment where
  standby := some "true"
  agentOnly := none

theorem standby_readsOnly_iff_api :
    accept standbyEnvironment (.api false) = .ok (.api true) ∧
      ∀ executed, Executes (.api true) executed → ReadsOnly executed :=
  ⟨rfl, (@standby_readsOnly_iff standbyEnvironment (.api false) (.api true) (.inl (by decide))
    rfl).mpr (by decide)⟩

/-- `policy show` is let through, and it creates the tables. -/
theorem policyShow_writes_in_standby :
    ¬ ∀ (env : Environment) (line command : Command), StandbyMode env line →
      accept env line = .ok command →
        ∀ executed, Executes command executed → ReadsOnly executed := by
  intro hall
  refine not_readsOnly_policyShow (hall standbyEnvironment .policyShow .policyShow ?_ rfl)
  exact .inl (by decide)

end Standby
end XdpFirewall
