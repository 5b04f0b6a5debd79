import Mathlib.Data.List.Perm.Basic
import Mathlib.Order.Nat
import XdpFirewall.ControlPlane.Sync
import XdpFirewall.Lib.RefCount

/-!
# DropRegistry — who wants to see drop events, and who is told when that changes

A subscription is counted under its filter from its constructor to its destructor. Both change the
map under its lock, release the lock, and notify the watchers afterwards; so a notification can be
sent after other changes, and before it a watcher can look at the map already changed.
-/

namespace XdpFirewall
namespace ControlPlane

open Lib Policy

/-! ## The registry -/

/-- A `tokio::sync::watch` channel: the value, and how often one was sent. -/
structure WatchChannel where
  value : BitVec 64
  sent : Nat

structure DropSubscriptionRegistry where
  subscriptions : Option String → Option Nat
  changeVersion : BitVec 64
  changes : WatchChannel

def DropSubscriptionRegistry.new : DropSubscriptionRegistry where
  subscriptions := fun _ => none
  changeVersion := 0
  changes := { value := 0, sent := 0 }

namespace DropSubscriptionRegistry

/-- The locked part of `add`. -/
def add (registry : DropSubscriptionRegistry) (nodeId : Option String) :
    DropSubscriptionRegistry :=
  { registry with subscriptions := acquire registry.subscriptions nodeId }

/-- The locked part of `remove`. -/
def remove (registry : DropSubscriptionRegistry) (nodeId : Option String) :
    DropSubscriptionRegistry :=
  { registry with subscriptions := release registry.subscriptions nodeId }

/-- `send_replace` notifies the watchers whatever the value is, so it may wrap. -/
def notifyChanged (registry : DropSubscriptionRegistry) : DropSubscriptionRegistry :=
  let version := registry.changeVersion + 1
  { registry with
    changeVersion := version
    changes := { value := version, sent := registry.changes.sent + 1 } }

def enabledForNode (registry : DropSubscriptionRegistry) (nodeId : String) : Bool :=
  decide (0 < (registry.subscriptions none).getD 0) ||
    decide (0 < (registry.subscriptions (some nodeId)).getD 0)

/-- The counts alone, as the policy streams see them. -/
def counts (registry : DropSubscriptionRegistry) : DropSubscriptions where
  count := fun nodeId => (registry.subscriptions nodeId).getD 0

theorem counts_add (registry : DropSubscriptionRegistry) (filter : Option String) :
    (registry.add (normalizeDropNodeFilter filter)).counts = registry.counts.add filter := by
  rw [DropSubscriptions.add, counts, DropSubscriptions.mk.injEq]
  funext nodeId
  exact getD_acquire registry.subscriptions _ nodeId

theorem counts_remove (registry : DropSubscriptionRegistry) (nodeId : Option String) :
    (registry.remove nodeId).counts = registry.counts.remove nodeId := by
  rw [DropSubscriptions.remove, counts, DropSubscriptions.mk.injEq]
  funext other
  exact getD_release registry.subscriptions nodeId other

theorem enabledForNode_counts (registry : DropSubscriptionRegistry) (nodeId : String) :
    registry.counts.enabledForNode nodeId = registry.enabledForNode nodeId := rfl

end DropSubscriptionRegistry

/-! ## Subscriptions and watchers -/

/-- A live `DropEventSubscription`, with the filter it was asked for. -/
structure DropEventSubscription where
  filter : Option String
  nodeId : Option String

/-- A policy stream of a node: how much of the channel it has seen, the answer it works with, and
whether it has looked since it was woken. -/
structure DropWatcher where
  node : String
  seen : Nat
  answer : Bool
  looked : Bool

/-- `notifying` counts the constructors and destructors between the lock and their notification. -/
structure DropEventHub where
  registry : DropSubscriptionRegistry
  live : List DropEventSubscription
  notifying : Nat
  watchers : List DropWatcher

def DropEventHub.new : DropEventHub where
  registry := .new
  live := []
  notifying := 0
  watchers := []

inductive DropHubEvent where
  | subscribe (filter : Option String)
  | drop (index : Nat)
  | notify
  | watch (node : String)
  | changed (index : Nat)
  | look (index : Nat)

namespace DropEventHub

def enabledForNode (hub : DropEventHub) (nodeId : String) : Bool :=
  hub.registry.enabledForNode nodeId

def subscribe (hub : DropEventHub) (filter : Option String) : DropEventHub :=
  let nodeId := normalizeDropNodeFilter filter
  { hub with
    registry := hub.registry.add nodeId
    live := { filter := filter, nodeId := nodeId } :: hub.live
    notifying := hub.notifying + 1 }

/-- A stream subscribes to the changes before it looks. -/
def watch (hub : DropEventHub) (node : String) : DropEventHub :=
  { hub with
    watchers := hub.watchers ++ [
      { node := node
        seen := hub.registry.changes.sent
        answer := false
        looked := false }] }

/-- `send_drop_monitor_change` -/
def look (hub : DropEventHub) (watcher : DropWatcher) : DropWatcher :=
  { watcher with
    answer := hub.enabledForNode watcher.node
    looked := true }

/-- `changed` completes when something was sent that the watcher has not seen. -/
def step (hub : DropEventHub) : DropHubEvent → Option DropEventHub
  | .subscribe filter => some (hub.subscribe filter)
  | .drop index =>
      (hub.live[index]?).map fun subscription =>
        { hub with
          registry := hub.registry.remove subscription.nodeId
          live := hub.live.eraseIdx index
          notifying := hub.notifying + 1 }
  | .notify =>
      if hub.notifying = 0 then
        none
      else
        some { hub with
          registry := hub.registry.notifyChanged
          notifying := hub.notifying - 1 }
  | .watch node => some (hub.watch node)
  | .changed index =>
      (hub.watchers[index]?).bind fun watcher =>
        if watcher.seen = hub.registry.changes.sent then
          none
        else
          some { hub with
            watchers := hub.watchers.set index
              { watcher with
                seen := hub.registry.changes.sent
                looked := false } }
  | .look index =>
      (hub.watchers[index]?).map fun watcher =>
        { hub with watchers := hub.watchers.set index (hub.look watcher) }

end DropEventHub

/-! ## What a subscription is for -/

/-- A filter without the blanks around it. -/
def filterText (value : String) : String :=
  String.ofList (trim value.toList)

/-- No filter, a blank one, or `all` in any case. -/
def DropEventSubscription.ForAllNodes (subscription : DropEventSubscription) : Prop :=
  ∀ value, subscription.filter = some value →
    (filterText value).isEmpty ∨ (filterText value).toLower = "all"

def DropEventSubscription.HasFilter (subscription : DropEventSubscription) (node : String) :
    Prop :=
  ∃ value, subscription.filter = some value ∧ filterText value = node

theorem normalizeDropNodeFilter_eq_none_iff {subscription : DropEventSubscription} :
    normalizeDropNodeFilter subscription.filter = none ↔ subscription.ForAllNodes := by
  rw [DropEventSubscription.ForAllNodes]
  cases subscription.filter with
  | none => simp [normalizeDropNodeFilter]
  | some value => simp [normalizeDropNodeFilter, filterText, or_iff_not_imp_left]

theorem normalizeDropNodeFilter_eq_some_iff {subscription : DropEventSubscription}
    {node : String} :
    normalizeDropNodeFilter subscription.filter = some node ↔
      ¬ subscription.ForAllNodes ∧ subscription.HasFilter node := by
  rw [DropEventSubscription.ForAllNodes, DropEventSubscription.HasFilter]
  cases subscription.filter with
  | none => simp [normalizeDropNodeFilter]
  | some value => simp [normalizeDropNodeFilter, filterText]

/-! ## Steps -/

theorem DropSubscriptionRegistry.enabledForNode_congr {a b : DropSubscriptionRegistry}
    (h : a.subscriptions = b.subscriptions) (node : String) :
    a.enabledForNode node = b.enabledForNode node := by
  rw [enabledForNode, enabledForNode, h]

namespace DropEventHub

/-- What holds in every state: the map counts the live subscriptions, and a watcher whom nothing is
left to tell has the answer of the map. -/
structure Inv (hub : DropEventHub) : Prop where
  counted : Counted hub.registry.subscriptions (hub.live.map DropEventSubscription.nodeId)
  normalized : ∀ subscription ∈ hub.live,
    subscription.nodeId = normalizeDropNodeFilter subscription.filter
  seen_le : ∀ watcher ∈ hub.watchers, watcher.seen ≤ hub.registry.changes.sent
  current : ∀ watcher ∈ hub.watchers, watcher.looked = true → hub.notifying = 0 →
    watcher.seen = hub.registry.changes.sent → watcher.answer = hub.enabledForNode watcher.node

variable {hub hub' : DropEventHub}

theorem inv_new : new.Inv where
  counted := counted_nil
  normalized := by
    intro subscription h
    cases h
  seen_le := by
    intro watcher h
    cases h
  current := by
    intro watcher h
    cases h

theorem inv_step {e : DropHubEvent} (hinv : hub.Inv) (hstep : hub.step e = some hub') :
    hub'.Inv := by
  cases e with
  | subscribe filter =>
      cases hstep
      refine ⟨hinv.counted.acquire _, ?_, hinv.seen_le, ?_⟩
      · intro subscription hmem
        rcases List.mem_cons.mp hmem with rfl | hmem
        · rfl
        · exact hinv.normalized subscription hmem
      · intro watcher _ _ hquiet
        cases hquiet
  | drop index =>
      obtain ⟨subscription, hsubscription, rfl⟩ := Option.map_eq_some_iff.mp hstep
      obtain ⟨hindex, rfl⟩ := List.getElem?_eq_some_iff.mp hsubscription
      refine ⟨?_, ?_, hinv.seen_le, ?_⟩
      · refine Counted.release (hinv.counted.perm ?_)
        exact ((List.getElem_cons_eraseIdx_perm hindex).map DropEventSubscription.nodeId).symm
      · intro subscription hmem
        exact hinv.normalized subscription (List.mem_of_mem_eraseIdx hmem)
      · intro watcher _ _ hquiet
        cases hquiet
  | notify =>
      rw [step] at hstep
      split at hstep
      · cases hstep
      · cases hstep
        refine ⟨hinv.counted, hinv.normalized, ?_, ?_⟩
        · intro watcher hmem
          exact Nat.le_succ_of_le (hinv.seen_le watcher hmem)
        · intro watcher hmem _ _ hseen
          -- what is sent now, no watcher has seen
          exact absurd hseen (Nat.ne_of_lt (Nat.lt_succ_of_le (hinv.seen_le watcher hmem)))
  | watch node =>
      cases hstep
      refine ⟨hinv.counted, hinv.normalized, ?_, ?_⟩
      · intro watcher hmem
        rcases List.mem_append.mp hmem with hmem | hmem
        · exact hinv.seen_le watcher hmem
        · rw [List.mem_singleton.mp hmem]
          exact le_rfl
      · intro watcher hmem hlooked
        rcases List.mem_append.mp hmem with hmem | hmem
        · exact hinv.current watcher hmem hlooked
        · rw [List.mem_singleton.mp hmem] at hlooked
          cases hlooked
  | changed index =>
      obtain ⟨watcher, hwatcher, hstep⟩ := Option.bind_eq_some_iff.mp hstep
      split at hstep
      · cases hstep
      · cases hstep
        refine ⟨hinv.counted, hinv.normalized, ?_, ?_⟩
        · intro other hmem
          rcases List.mem_or_eq_of_mem_set hmem with hmem | rfl
          · exact hinv.seen_le other hmem
          · exact le_rfl
        · intro other hmem hlooked
          rcases List.mem_or_eq_of_mem_set hmem with hmem | rfl
          · exact hinv.current other hmem hlooked
          · cases hlooked
  | look index =>
      obtain ⟨watcher, hwatcher, rfl⟩ := Option.map_eq_some_iff.mp hstep
      refine ⟨hinv.counted, hinv.normalized, ?_, ?_⟩
      · intro other hmem
        rcases List.mem_or_eq_of_mem_set hmem with hmem | rfl
        · exact hinv.seen_le other hmem
        · exact hinv.seen_le watcher (List.mem_of_getElem? hwatcher)
      · intro other hmem hlooked
        rcases List.mem_or_eq_of_mem_set hmem with hmem | rfl
        · exact hinv.current other hmem hlooked
        · intro _ _
          rfl

theorem inv_of_run {es : List DropHubEvent} (hrun : run step new es = some hub) : hub.Inv :=
  run_invariant (fun _ _ _ => inv_step) inv_new hrun

/-- The notifications sent and those still to come. -/
def told (hub : DropEventHub) : Nat :=
  hub.registry.changes.sent + hub.notifying

/-- A step that changes the map owes one notification more. -/
theorem told_step {e : DropHubEvent} (hstep : hub.step e = some hub') :
    hub.told < hub'.told ∨
      hub.told = hub'.told ∧ hub.registry.subscriptions = hub'.registry.subscriptions := by
  cases e with
  | subscribe filter =>
      cases hstep
      exact .inl (Nat.lt_succ_self _)
  | drop index =>
      obtain ⟨subscription, -, rfl⟩ := Option.map_eq_some_iff.mp hstep
      exact .inl (Nat.lt_succ_self _)
  | notify =>
      rw [step] at hstep
      split at hstep
      · cases hstep
      · next hne =>
          cases hstep
          refine .inr ⟨?_, rfl⟩
          change _ = hub.registry.changes.sent + 1 + (hub.notifying - 1)
          rw [Nat.add_assoc, Nat.add_sub_cancel' (Nat.pos_of_ne_zero hne), told]
  | watch node =>
      cases hstep
      exact .inr ⟨rfl, rfl⟩
  | changed index =>
      obtain ⟨watcher, -, hstep⟩ := Option.bind_eq_some_iff.mp hstep
      split at hstep
      · cases hstep
      · cases hstep
        exact .inr ⟨rfl, rfl⟩
  | look index =>
      obtain ⟨watcher, -, rfl⟩ := Option.map_eq_some_iff.mp hstep
      exact .inr ⟨rfl, rfl⟩

theorem told_run {es : List DropHubEvent} (hrun : run step hub es = some hub') :
    hub.told < hub'.told ∨
      hub.told = hub'.told ∧ hub.registry.subscriptions = hub'.registry.subscriptions := by
  induction es generalizing hub with
  | nil =>
      cases hrun
      exact .inr ⟨rfl, rfl⟩
  | cons e es ih =>
      obtain ⟨mid, hmid, hrest⟩ := run_cons_eq_some_iff.mp hrun
      rcases told_step hmid with hlt | ⟨heq, hsame⟩
      · rcases ih hrest with hlt' | ⟨heq', -⟩
        · exact .inl (hlt.trans hlt')
        · exact .inl (hlt.trans_eq heq')
      · rcases ih hrest with hlt' | ⟨heq', hsame'⟩
        · exact .inl (heq.trans_lt hlt')
        · exact .inr ⟨heq.trans heq', hsame.trans hsame'⟩

/-! ## Runs -/

theorem enabledForNode_iff (hinv : hub.Inv) {node : String} :
    hub.enabledForNode node = true ↔
      ∃ subscription ∈ hub.live, subscription.ForAllNodes ∨ subscription.HasFilter node := by
  rw [enabledForNode, DropSubscriptionRegistry.enabledForNode, Bool.or_eq_true, decide_eq_true_iff,
    decide_eq_true_iff, hinv.counted.getD_pos_iff, hinv.counted.getD_pos_iff, List.mem_map,
    List.mem_map]
  constructor
  · rintro (⟨subscription, hmem, hnone⟩ | ⟨subscription, hmem, hsome⟩)
    · rw [hinv.normalized subscription hmem] at hnone
      exact ⟨subscription, hmem, .inl (normalizeDropNodeFilter_eq_none_iff.mp hnone)⟩
    · rw [hinv.normalized subscription hmem] at hsome
      exact ⟨subscription, hmem, .inr (normalizeDropNodeFilter_eq_some_iff.mp hsome).2⟩
  · rintro ⟨subscription, hmem, hfor⟩
    by_cases hall : subscription.ForAllNodes
    · exact .inl ⟨subscription, hmem, (hinv.normalized subscription hmem).trans
        (normalizeDropNodeFilter_eq_none_iff.mpr hall)⟩
    · exact .inr ⟨subscription, hmem, (hinv.normalized subscription hmem).trans
        (normalizeDropNodeFilter_eq_some_iff.mpr ⟨hall, hfor.resolve_left hall⟩)⟩

theorem sent_lt_of_changed {es : List DropHubEvent} {node : String}
    (hrun : run step hub es = some hub') (hquiet : hub'.notifying = 0)
    (hchanged : hub'.enabledForNode node ≠ hub.enabledForNode node) :
    hub.registry.changes.sent < hub'.registry.changes.sent := by
  rcases told_run hrun with hlt | ⟨-, hsame⟩
  · rw [told, told, hquiet, Nat.add_zero] at hlt
    exact lt_of_le_of_lt (Nat.le_add_right _ _) hlt
  · exact absurd (DropSubscriptionRegistry.enabledForNode_congr hsame.symm node) hchanged

end DropEventHub

/-- In every run: a node is enabled as long as a subscription wants it, the map holds exactly the
references of the live subscriptions, so that a destructor always finds a positive count, a change
of an answer has been sent to the watchers once its notification is, and a watcher whom nothing is
left to tell works with the present answer. -/
theorem dropSubscriptions_counted {es : List DropHubEvent} {hub : DropEventHub}
    (hrun : run DropEventHub.step .new es = some hub) :
    (∀ node, hub.enabledForNode node = true ↔
      ∃ subscription ∈ hub.live, subscription.ForAllNodes ∨ subscription.HasFilter node) ∧
    Counted hub.registry.subscriptions (hub.live.map DropEventSubscription.nodeId) ∧
    (∀ subscription ∈ hub.live,
      ∃ others, hub.registry.subscriptions subscription.nodeId = some (others + 1)) ∧
    (∀ es' hub' node, run DropEventHub.step hub es' = some hub' → hub'.notifying = 0 →
      hub'.enabledForNode node ≠ hub.enabledForNode node →
      hub.registry.changes.sent < hub'.registry.changes.sent) ∧
    ∀ watcher ∈ hub.watchers, watcher.looked = true → hub.notifying = 0 →
      watcher.seen = hub.registry.changes.sent →
      watcher.answer = hub.enabledForNode watcher.node := by
  have hinv := DropEventHub.inv_of_run hrun
  refine ⟨fun node => DropEventHub.enabledForNode_iff hinv, hinv.counted, ?_, ?_, hinv.current⟩
  · intro subscription hmem
    exact hinv.counted.exists_succ (List.mem_map_of_mem hmem)
  · intro es' hub' node hrun' hquiet hchanged
    exact DropEventHub.sent_lt_of_changed hrun' hquiet hchanged

/-- Two subscriptions of one node and a stream of it; one of the subscriptions is dropped before the
stream is told of the other. -/
theorem dropSubscriptions_counted_twoOfOneNode :
    ∃ hub, run DropEventHub.step .new
        [.watch "node-a", .subscribe (some " node-a "), .subscribe (some "node-a"), .notify,
          .changed 0, .drop 1, .notify, .notify, .changed 0, .look 0] = some hub ∧
      hub.live.length = 1 ∧ hub.enabledForNode "node-a" = true := by
  obtain ⟨hub, hrun, hlive⟩ : ∃ hub, run DropEventHub.step .new
      [.watch "node-a", .subscribe (some " node-a "), .subscribe (some "node-a"), .notify,
        .changed 0, .drop 1, .notify, .notify, .changed 0, .look 0] = some hub ∧
      hub.live = [{ filter := some "node-a", nodeId := normalizeDropNodeFilter (some "node-a") }] :=
    ⟨_, rfl, rfl⟩
  refine ⟨hub, hrun, by rw [hlive]; rfl, ?_⟩
  have hfor : DropEventSubscription.HasFilter
      { filter := some "node-a", nodeId := normalizeDropNodeFilter (some "node-a") } "node-a" :=
    ⟨"node-a", rfl, by decide⟩
  rw [(dropSubscriptions_counted hrun).1 "node-a", hlive]
  exact ⟨_, List.mem_cons_self, .inr hfor⟩

end ControlPlane
end XdpFirewall
