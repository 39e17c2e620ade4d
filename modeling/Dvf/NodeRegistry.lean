/-
**The node registry** (`internal/cluster/node.go`, `internal/cluster/registry.go`).

The registry remembers the orchestrator nodes that have reported to it.  `Register` and `Heartbeat`
stamp a node with the clock and make it healthy; `Evict` marks the nodes offline whose last stamp is
older than the time to live.  The status is stored and not computed, so a node that is offline stays
so until it reports again, whatever the clock says; as the clock does not run backwards, the status
right after a sweep is nevertheless what a computation from the stamps would give.

Clock values are nanoseconds; the difference of two of them is Go's, which stops at the largest and
smallest duration.

* `Dvf.Cluster.timeSub` — `time.Time.Sub`;
* `Dvf.Cluster.NodeRegistry` with `register`, `heartbeat`, `evict`, `list`, `listHealthy`, `count`;
* `Dvf.Cluster.step` — the registry as a machine whose actions carry the clock;
* `Dvf.Cluster.lastRefresh` — when a node reported for the last time, read off the actions;
* `Dvf.Cluster.RegistryInv` — the invariant of every run;
* `Dvf.Cluster.registry_health` — **the registry after any sequence of operations**.
-/

import Dvf.Go
import Dvf.Machine
import Mathlib.Algebra.Order.Group.Int
import Mathlib.Data.List.Induction
import Mathlib.Tactic.Linarith

set_option autoImplicit false

namespace Dvf.Cluster

open Go

/-! ### Times and durations -/

/-- The largest duration, in nanoseconds. -/
def maxDuration : ℤ := 2 ^ 63 - 1

def minDuration : ℤ := -2 ^ 63

/-- `t.Sub(u)`: the difference, or the duration nearest to it. -/
def timeSub (t u : ℤ) : ℤ := max minDuration (min maxDuration (t - u))

theorem timeSub_le_timeSub {t t' : ℤ} (h : t ≤ t') (u : ℤ) : timeSub t u ≤ timeSub t' u :=
  max_le_max le_rfl (min_le_min le_rfl (by omega))

theorem lt_timeSub_iff {ttl : ℤ} (hmin : 0 < ttl) (hmax : ttl < maxDuration) (t u : ℤ) :
    ttl < timeSub t u ↔ ttl < t - u := by
  have hneg : minDuration < 0 := by decide
  rw [timeSub, lt_max_iff, lt_min_iff]
  constructor
  · rintro (h | ⟨-, h⟩)
    · omega
    · exact h
  · intro h
    exact Or.inr ⟨hmax, h⟩

/-! ### The registry -/

/-- `NodeRole`. -/
inductive NodeRole
  | leader | worker | other (s : String)
  deriving DecidableEq

/-- `NodeStatus`. -/
inductive NodeStatus
  | healthy | degraded | offline
  deriving DecidableEq

/-- `Node`. -/
structure Node where
  id : String
  hostname : String
  grpcAddr : String
  role : NodeRole
  totalCPUs : ℤ
  totalMemMB : ℤ
  usedCPUs : ℤ
  usedMemMB : ℤ
  lastSeen : ℤ
  status : NodeStatus
  version : String
  deriving DecidableEq

/-- `HeartbeatRequest`. -/
structure HeartbeatRequest where
  nodeID : String
  hostname : String
  grpcAddr : String
  role : NodeRole
  totalCPUs : ℤ
  totalMemMB : ℤ
  usedCPUs : ℤ
  usedMemMB : ℤ
  version : String

/-- `NodeRegistry`. -/
structure NodeRegistry where
  nodes : GoMap String Node
  heartbeatTTL : ℤ

/-- `NewNodeRegistry`; a time to live that is not positive is replaced by 30 seconds. -/
def newNodeRegistry (heartbeatTTL : ℤ) : NodeRegistry where
  nodes := ∅
  heartbeatTTL := if heartbeatTTL ≤ 0 then 30 * 10 ^ 9 else heartbeatTTL

/-- `Register`: every field of the node is set, so it does not matter whether it was there. -/
def NodeRegistry.register (r : NodeRegistry) (now : ℤ) (req : HeartbeatRequest) : NodeRegistry :=
  { r with
    nodes := r.nodes.insert req.nodeID
      { id := req.nodeID
        hostname := req.hostname
        grpcAddr := req.grpcAddr
        role := req.role
        totalCPUs := req.totalCPUs
        totalMemMB := req.totalMemMB
        usedCPUs := req.usedCPUs
        usedMemMB := req.usedMemMB
        version := req.version
        lastSeen := now
        status := .healthy } }

/-- `Heartbeat`. -/
def NodeRegistry.heartbeat (r : NodeRegistry) (now : ℤ) (nodeID : String) : NodeRegistry × Bool :=
  (r.nodes.lookup nodeID).elim (r, false) fun n =>
    ({ r with nodes := r.nodes.insert nodeID { n with lastSeen := now, status := .healthy } }, true)

/-- `List`, with the order in which the map is visited. -/
def NodeRegistry.list (r : NodeRegistry) (o : RangeOrder String) : List Node :=
  (o.order r.nodes.keys).filterMap r.nodes.lookup

/-- `ListHealthy`. -/
def NodeRegistry.listHealthy (r : NodeRegistry) (o : RangeOrder String) : List Node :=
  (r.list o).filter fun n => n.status ≠ .offline

def Node.goesOffline (ttl now : ℤ) (n : Node) : Bool :=
  n.status ≠ .offline && ttl < timeSub now n.lastSeen

/-- One node of a sweep, with the number of nodes marked so far. -/
def evictKey (ttl now : ℤ) (st : GoMap String Node × ℕ) (id : String) : GoMap String Node × ℕ :=
  (st.1.lookup id).elim st fun n =>
    if n.goesOffline ttl now then (st.1.insert id { n with status := .offline }, st.2 + 1) else st

/-- `Evict`. -/
def NodeRegistry.evict (r : NodeRegistry) (now : ℤ) (o : RangeOrder String) : NodeRegistry × ℕ :=
  let st := (o.order r.nodes.keys).foldl (evictKey r.heartbeatTTL now) (r.nodes, 0)
  ({ r with nodes := st.1 }, st.2)

/-- The results of `Count`. -/
structure Counts where
  healthy : ℕ := 0
  degraded : ℕ := 0
  offline : ℕ := 0

/-- One node of `Count`. -/
def Counts.add (c : Counts) (n : Node) : Counts :=
  match n.status with
  | .healthy => { c with healthy := c.healthy + 1 }
  | .degraded => { c with degraded := c.degraded + 1 }
  | .offline => { c with offline := c.offline + 1 }

/-- `Count`. -/
def NodeRegistry.count (r : NodeRegistry) (o : RangeOrder String) : Counts :=
  (r.list o).foldl Counts.add {}

/-! ### The registry as a machine -/

/-- The operations that write to the registry. -/
inductive RegistryOp
  | register (req : HeartbeatRequest)
  | heartbeat (nodeID : String)
  | evict (o : RangeOrder String)

structure TimedOp where
  time : ℤ
  op : RegistryOp

/-- The registry after an operation. -/
def NodeRegistry.apply (r : NodeRegistry) (a : TimedOp) : NodeRegistry :=
  match a.op with
  | .register req => r.register a.time req
  | .heartbeat nodeID => (r.heartbeat a.time nodeID).1
  | .evict o => (r.evict a.time o).1

theorem NodeRegistry.apply_register (r : NodeRegistry) (t : ℤ) (req : HeartbeatRequest) :
    r.apply ⟨t, .register req⟩ = r.register t req := rfl

theorem NodeRegistry.apply_heartbeat (r : NodeRegistry) (t : ℤ) (nodeID : String) :
    r.apply ⟨t, .heartbeat nodeID⟩ = (r.heartbeat t nodeID).1 := rfl

theorem NodeRegistry.apply_evict (r : NodeRegistry) (t : ℤ) (o : RangeOrder String) :
    r.apply ⟨t, .evict o⟩ = (r.evict t o).1 := rfl

/-- Every operation is enabled in every state. -/
def step (r : NodeRegistry) (a : TimedOp) : Option NodeRegistry := some (r.apply a)

/-- The operation registers the node `id`. -/
def TimedOp.registers (a : TimedOp) (id : String) : Prop :=
  ∃ req, a.op = .register req ∧ req.nodeID = id

/-- When the node `id` reported, after one more operation; a heartbeat counts for a node that has
been registered. -/
def refresh (id : String) (seen : Option ℤ) (a : TimedOp) : Option ℤ :=
  match a.op with
  | .register req => if req.nodeID = id then some a.time else seen
  | .heartbeat nodeID => if nodeID = id ∧ seen.isSome then some a.time else seen
  | .evict _ => seen

/-- The time of the last `Register` or successful `Heartbeat` of the node `id`. -/
def lastRefresh (id : String) (ops : List TimedOp) : Option ℤ := ops.foldl (refresh id) none

theorem lastRefresh_concat (id : String) (ops : List TimedOp) (a : TimedOp) :
    lastRefresh id (ops ++ [a]) = refresh id (lastRefresh id ops) a := by
  rw [lastRefresh, List.foldl_append]
  rfl

/-- A node has reported once it has been registered. -/
theorem isSome_lastRefresh_iff (id : String) (ops : List TimedOp) :
    (lastRefresh id ops).isSome = true ↔ ∃ a ∈ ops, a.registers id := by
  induction ops using List.reverseRecOn with
  | nil => simp [lastRefresh]
  | append_singleton ops a ih =>
      have hsplit : (∃ b ∈ ops ++ [a], b.registers id) ↔
          (∃ b ∈ ops, b.registers id) ∨ a.registers id := by
        simp [or_and_right, exists_or]
      rw [lastRefresh_concat, hsplit, ← ih]
      obtain ⟨t, op⟩ := a
      cases op with
      | register req =>
          by_cases hid : req.nodeID = id
          · simp [refresh, TimedOp.registers, hid]
          · simp [refresh, TimedOp.registers, hid]
      | heartbeat nodeID =>
          by_cases hid : nodeID = id ∧ (lastRefresh id ops).isSome = true
          · simp [refresh, TimedOp.registers, hid]
          · simp [refresh, TimedOp.registers, hid]
      | evict o => simp [refresh, TimedOp.registers]

/-! ### The sweep -/

def Node.swept (ttl now : ℤ) (n : Node) : Node :=
  if n.goesOffline ttl now then { n with status := .offline } else n

@[simp] theorem Node.swept_lastSeen (ttl now : ℤ) (n : Node) :
    (n.swept ttl now).lastSeen = n.lastSeen := by
  rw [Node.swept]
  split <;> rfl

theorem Node.swept_offline_iff (ttl now : ℤ) (n : Node) :
    (n.swept ttl now).status = .offline ↔ n.status = .offline ∨ ttl < timeSub now n.lastSeen := by
  rw [Node.swept, Node.goesOffline]
  by_cases hoff : n.status = .offline
  · simp [hoff]
  · by_cases hold : ttl < timeSub now n.lastSeen
    · simp [hoff, hold]
    · simp [hoff, hold]

/-- The nodes after one node of a sweep. -/
theorem lookup_evictKey (ttl now : ℤ) (st : GoMap String Node × ℕ) (id id' : String) :
    (evictKey ttl now st id).1.lookup id' =
      if id' = id then (st.1.lookup id').map (Node.swept ttl now) else st.1.lookup id' := by
  rw [evictKey]
  cases hn : st.1.lookup id with
  | none =>
      by_cases hid : id' = id
      · subst hid
        simp [hn]
      · simp [hid]
  | some n =>
      rw [Option.elim_some]
      cases hgo : n.goesOffline ttl now with
      | false =>
          by_cases hid : id' = id
          · subst hid
            simp [hn, Node.swept, hgo]
          · simp [hid]
      | true =>
          by_cases hid : id' = id
          · subst hid
            simp [hn, Node.swept, hgo]
          · simp [hid, AList.lookup_insert_ne hid]

theorem count_evictKey (ttl now : ℤ) (st : GoMap String Node × ℕ) (id : String) :
    (evictKey ttl now st id).2 =
      st.2 + if (st.1.lookup id).any (Node.goesOffline ttl now) then 1 else 0 := by
  rw [evictKey]
  cases st.1.lookup id with
  | none => simp
  | some n => cases hgo : n.goesOffline ttl now <;> simp [hgo]

/-- **The loop of a sweep**: the visited nodes are swept, the others are as before, and the number
counts the visited nodes that are marked. -/
theorem foldl_evictKey (ttl now : ℤ) :
    ∀ (ids : List String) (st : GoMap String Node × ℕ), ids.Nodup →
      (∀ id, (ids.foldl (evictKey ttl now) st).1.lookup id =
        if id ∈ ids then (st.1.lookup id).map (Node.swept ttl now) else st.1.lookup id) ∧
      (ids.foldl (evictKey ttl now) st).2 =
        st.2 + ids.countP fun id => (st.1.lookup id).any (Node.goesOffline ttl now) := by
  intro ids
  induction ids with
  | nil => simp
  | cons k ids ih =>
      intro st hnd
      obtain ⟨hk, hnd⟩ := List.nodup_cons.1 hnd
      obtain ⟨hlook, hcount⟩ := ih (evictKey ttl now st k) hnd
      refine ⟨fun id => ?_, ?_⟩
      · rw [List.foldl_cons, hlook id, lookup_evictKey]
        by_cases hid : id = k
        · subst hid
          simp [hk]
        · simp [hid]
      · -- the nodes that come later are untouched
        have hlater : ids.countP (fun id =>
            ((evictKey ttl now st k).1.lookup id).any (Node.goesOffline ttl now)) =
            ids.countP fun id => (st.1.lookup id).any (Node.goesOffline ttl now) := by
          refine List.countP_congr fun id hid => ?_
          have hne : id ≠ k := fun h => hk (h ▸ hid)
          rw [lookup_evictKey, if_neg hne]
        rw [List.foldl_cons, hcount, hlater, count_evictKey, List.countP_cons]
        omega

theorem NodeRegistry.lookup_evict (r : NodeRegistry) (now : ℤ) (o : RangeOrder String)
    (id : String) :
    (r.evict now o).1.nodes.lookup id =
      (r.nodes.lookup id).map (Node.swept r.heartbeatTTL now) := by
  have hperm := o.perm r.nodes.keys
  have h := (foldl_evictKey r.heartbeatTTL now (o.order r.nodes.keys) (r.nodes, 0)
    (hperm.nodup_iff.2 r.nodes.keys_nodup)).1 id
  refine h.trans ?_
  by_cases hid : id ∈ r.nodes.keys
  · rw [if_pos (hperm.mem_iff.2 hid)]
  · have hnone : r.nodes.lookup id = none := AList.lookup_eq_none.2 hid
    rw [if_neg fun hmem => hid (hperm.mem_iff.1 hmem), hnone]
    rfl

theorem NodeRegistry.count_evict (r : NodeRegistry) (now : ℤ) (o : RangeOrder String) :
    (r.evict now o).2 = r.nodes.keys.countP fun id =>
      (r.nodes.lookup id).any (Node.goesOffline r.heartbeatTTL now) := by
  have hperm := o.perm r.nodes.keys
  have h := (foldl_evictKey r.heartbeatTTL now (o.order r.nodes.keys) (r.nodes, 0)
    (hperm.nodup_iff.2 r.nodes.keys_nodup)).2
  refine h.trans ?_
  rw [Nat.zero_add]
  exact hperm.countP_eq _

/-! ### The lists -/

/-- The nodes of the registry, one for each id. -/
def NodeRegistry.values (r : NodeRegistry) : List Node := r.nodes.entries.map Sigma.snd

theorem NodeRegistry.list_perm (r : NodeRegistry) (o : RangeOrder String) :
    (r.list o).Perm r.values := by
  have hkeys : r.nodes.keys.filterMap r.nodes.lookup = r.values := by
    rw [AList.keys, List.keys, List.filterMap_map, NodeRegistry.values, ← List.filterMap_eq_map]
    refine List.filterMap_congr fun e he => ?_
    exact AList.mem_lookup_iff.2 he
  rw [← hkeys]
  exact (o.perm r.nodes.keys).filterMap _

theorem Counts.foldl_add (l : List Node) (c : Counts) :
    (l.foldl Counts.add c).healthy + (l.foldl Counts.add c).degraded +
      (l.foldl Counts.add c).offline = c.healthy + c.degraded + c.offline + l.length := by
  induction l generalizing c with
  | nil => simp
  | cons n l ih =>
      rw [List.foldl_cons, ih, List.length_cons, Counts.add]
      split <;> dsimp only <;> omega

/-! ### Runs -/

/-- What holds after the operations `ops`: the stamps are the times of the last reports, and a node
is offline only if it was too old for one of the sweeps since. -/
structure RegistryInv (ttl : ℤ) (ops : List TimedOp) (r : NodeRegistry) : Prop where
  ttl_eq : r.heartbeatTTL = ttl
  seen : ∀ id, (r.nodes.lookup id).map Node.lastSeen = lastRefresh id ops
  stale : ∀ id n, r.nodes.lookup id = some n → n.status = .offline →
    ∃ a ∈ ops, ttl < timeSub a.time n.lastSeen

/-- Stamping a node, registered or reporting, keeps the invariant. -/
theorem RegistryInv.stamp {ttl : ℤ} {ops : List TimedOp} {r : NodeRegistry}
    (h : RegistryInv ttl ops r) {a : TimedOp} {k : String} {n : Node}
    (hseen : n.lastSeen = a.time) (hstatus : n.status = .healthy)
    (hrefresh : ∀ id, refresh id (lastRefresh id ops) a =
      if id = k then some a.time else lastRefresh id ops) :
    RegistryInv ttl (ops ++ [a]) { r with nodes := r.nodes.insert k n } where
  ttl_eq := h.ttl_eq
  seen := by
    intro id
    rw [lastRefresh_concat, hrefresh id]
    by_cases hid : id = k
    · subst hid
      simp [hseen]
    · simp [hid, AList.lookup_insert_ne hid, h.seen id]
  stale := by
    intro id m hm hoff
    obtain ⟨-, rfl⟩ | ⟨-, hm⟩ := lookup_of_insert hm
    · rw [hstatus] at hoff
      cases hoff
    · obtain ⟨b, hb, hlt⟩ := h.stale id m hm hoff
      exact ⟨b, List.mem_append_left _ hb, hlt⟩

theorem RegistryInv.idle {ttl : ℤ} {ops : List TimedOp} {r : NodeRegistry}
    (h : RegistryInv ttl ops r) {a : TimedOp}
    (hrefresh : ∀ id, refresh id (lastRefresh id ops) a = lastRefresh id ops) :
    RegistryInv ttl (ops ++ [a]) r where
  ttl_eq := h.ttl_eq
  seen := by
    intro id
    rw [lastRefresh_concat, hrefresh id, h.seen id]
  stale := by
    intro id m hm hoff
    obtain ⟨b, hb, hlt⟩ := h.stale id m hm hoff
    exact ⟨b, List.mem_append_left _ hb, hlt⟩

/-- A sweep keeps the invariant. -/
theorem RegistryInv.evict {ttl : ℤ} {ops : List TimedOp} {r : NodeRegistry}
    (h : RegistryInv ttl ops r) (now : ℤ) (o : RangeOrder String) :
    RegistryInv ttl (ops ++ [⟨now, .evict o⟩]) (r.evict now o).1 where
  ttl_eq := h.ttl_eq
  seen := by
    intro id
    have hmap : Node.lastSeen ∘ Node.swept r.heartbeatTTL now = Node.lastSeen :=
      funext fun n => Node.swept_lastSeen _ _ n
    rw [lastRefresh_concat, NodeRegistry.lookup_evict, Option.map_map, hmap]
    exact h.seen id
  stale := by
    intro id m hm hoff
    rw [NodeRegistry.lookup_evict] at hm
    obtain ⟨n, hn, rfl⟩ := Option.map_eq_some_iff.1 hm
    rw [Node.swept_lastSeen]
    obtain hoff | hlt := (Node.swept_offline_iff _ _ n).1 hoff
    · obtain ⟨b, hb, hlt⟩ := h.stale id n hn hoff
      exact ⟨b, List.mem_append_left _ hb, hlt⟩
    · rw [h.ttl_eq] at hlt
      exact ⟨⟨now, .evict o⟩, by simp, hlt⟩

/-- **Every operation keeps the invariant.** -/
theorem RegistryInv.step {ttl : ℤ} {ops : List TimedOp} {r : NodeRegistry} {a : TimedOp}
    (h : RegistryInv ttl ops r) : RegistryInv ttl (ops ++ [a]) (r.apply a) := by
  obtain ⟨t, op⟩ := a
  cases op with
  | register req =>
      refine h.stamp rfl rfl fun id => ?_
      simp [refresh, eq_comm]
  | heartbeat nodeID =>
      cases hn : r.nodes.lookup nodeID with
      | none =>
          -- an unknown node: nothing happens, and it has never reported
          have hnever : lastRefresh nodeID ops = none := by simpa [hn] using (h.seen nodeID).symm
          have hsame : r.apply ⟨t, .heartbeat nodeID⟩ = r := by
            rw [NodeRegistry.apply_heartbeat, NodeRegistry.heartbeat, hn]
            rfl
          rw [hsame]
          refine h.idle fun id => ?_
          by_cases hid : nodeID = id
          · subst hid
            simp [refresh, hnever]
          · simp [refresh, hid]
      | some n =>
          have hseen : lastRefresh nodeID ops = some n.lastSeen := by
            simpa [hn] using (h.seen nodeID).symm
          have hstamp : (r.heartbeat t nodeID).1 = { r with
              nodes := r.nodes.insert nodeID ({ n with lastSeen := t, status := .healthy }) } := by
            rw [NodeRegistry.heartbeat, hn]
            rfl
          rw [NodeRegistry.apply_heartbeat, hstamp]
          refine h.stamp rfl rfl fun id => ?_
          by_cases hid : nodeID = id
          · subst hid
            simp [refresh, hseen]
          · simp [refresh, hid, Ne.symm hid]
  | evict o => exact h.evict t o

def effectiveTTL (heartbeatTTL : ℤ) : ℤ := (newNodeRegistry heartbeatTTL).heartbeatTTL

/-- **Every run keeps the invariant.** -/
theorem registryInv_of_run {heartbeatTTL : ℤ} {ops : List TimedOp} {r : NodeRegistry}
    (h : Machine.run step (newNodeRegistry heartbeatTTL) ops = some r) :
    RegistryInv (effectiveTTL heartbeatTTL) ops r := by
  have hinit : RegistryInv (effectiveTTL heartbeatTTL) [] (newNodeRegistry heartbeatTTL) :=
    ⟨rfl, fun _ => rfl, fun _ _ hn => by cases hn⟩
  refine Machine.run_history (fun bs s a s' hI hs => ?_) hinit h
  cases hs
  exact hI.step

/-- A node that is there stays there. -/
theorem NodeRegistry.mem_apply {r : NodeRegistry} {id : String} (h : id ∈ r.nodes) (a : TimedOp) :
    id ∈ (r.apply a).nodes := by
  rw [← AList.lookup_isSome] at h ⊢
  obtain ⟨t, op⟩ := a
  cases op with
  | register req =>
      by_cases hid : id = req.nodeID
      · subst hid
        simp [NodeRegistry.apply_register, NodeRegistry.register]
      · simpa [NodeRegistry.apply_register, NodeRegistry.register,
          AList.lookup_insert_ne hid] using h
  | heartbeat nodeID =>
      cases hn : r.nodes.lookup nodeID with
      | none => simpa [NodeRegistry.apply_heartbeat, NodeRegistry.heartbeat, hn] using h
      | some n =>
          by_cases hid : id = nodeID
          · subst hid
            simp [NodeRegistry.apply_heartbeat, NodeRegistry.heartbeat, hn]
          · simpa [NodeRegistry.apply_heartbeat, NodeRegistry.heartbeat, hn,
              AList.lookup_insert_ne hid]
              using h
  | evict o =>
      rw [NodeRegistry.apply_evict, NodeRegistry.lookup_evict, Option.isSome_map]
      exact h

/-- The registry `r` after the operations `ops`. -/
structure RegistryHealth (ttl : ℤ) (ops : List TimedOp) (r : NodeRegistry) : Prop where
  /-- The ids are those that were registered. -/
  registered : ∀ id, id ∈ r.nodes ↔ ∃ a ∈ ops, a.registers id
  /-- A stamp is the time of the last `Register` or successful `Heartbeat`. -/
  lastSeen : ∀ id n, r.nodes.lookup id = some n → lastRefresh id ops = some n.lastSeen
  /-- Right after a sweep a node is offline exactly when its stamp is too old. -/
  offline : ∀ bs t o, ops = bs ++ [⟨t, .evict o⟩] → ∀ id n, r.nodes.lookup id = some n →
    (n.status = .offline ↔ ttl < timeSub t n.lastSeen)
  /-- The same with the exact difference, which Go's is unless the time to live is the largest
  duration. -/
  offline_exact : ttl < maxDuration → ∀ bs t o, ops = bs ++ [⟨t, .evict o⟩] → ∀ id n,
    r.nodes.lookup id = some n → (n.status = .offline ↔ ttl < t - n.lastSeen)
  /-- No operation removes a node. -/
  kept : ∀ a, ∀ id ∈ r.nodes, id ∈ (r.apply a).nodes
  /-- A heartbeat of an unknown node changes nothing. -/
  unknown : ∀ t id, id ∉ r.nodes → r.heartbeat t id = (r, false)
  /-- A sweep returns the number of nodes that it takes offline. -/
  evicted : ∀ t o, (r.evict t o).2 = r.nodes.keys.countP fun id =>
    (r.nodes.lookup id).any (·.status ≠ .offline) &&
      ((r.evict t o).1.nodes.lookup id).any (·.status = .offline)
  /-- The healthy nodes are those that are not offline, each once. -/
  healthy : ∀ o, (r.listHealthy o).Perm (r.values.filter fun n => n.status ≠ .offline)
  /-- The buckets add up to the number of ids. -/
  counts : ∀ o, (r.count o).healthy + (r.count o).degraded + (r.count o).offline =
    r.nodes.keys.length

theorem Node.goesOffline_eq (ttl now : ℤ) (n : Node) :
    n.goesOffline ttl now =
      (decide (n.status ≠ .offline) && decide ((n.swept ttl now).status = .offline)) := by
  rw [Bool.eq_iff_iff, Bool.and_eq_true, decide_eq_true_iff, decide_eq_true_iff,
    Node.swept_offline_iff, Node.goesOffline, Bool.and_eq_true, decide_eq_true_iff,
    decide_eq_true_iff]
  tauto

theorem NodeRegistry.count_evict_eq (r : NodeRegistry) (t : ℤ) (o : RangeOrder String) :
    (r.evict t o).2 = r.nodes.keys.countP fun id =>
      (r.nodes.lookup id).any (·.status ≠ .offline) &&
        ((r.evict t o).1.nodes.lookup id).any (·.status = .offline) := by
  rw [NodeRegistry.count_evict]
  refine List.countP_congr fun id _ => ?_
  rw [NodeRegistry.lookup_evict]
  cases r.nodes.lookup id with
  | none => simp
  | some n =>
      simp only [Option.any_some, Option.map_some]
      rw [Node.goesOffline_eq]

theorem effectiveTTL_pos (heartbeatTTL : ℤ) : 0 < effectiveTTL heartbeatTTL := by
  rw [effectiveTTL, newNodeRegistry]
  dsimp only
  split
  · decide
  · omega

/-- **Right after a sweep a node is offline exactly when its last report is too old**: a node that
is still offline from an earlier sweep was too old then, and the clock has not gone back. -/
theorem offline_iff_of_run {heartbeatTTL : ℤ} {bs : List TimedOp} {t : ℤ} {o : RangeOrder String}
    (hclock : (List.map TimedOp.time (bs ++ [⟨t, .evict o⟩])).Pairwise (· ≤ ·)) {r : NodeRegistry}
    (hrun : Machine.run step (newNodeRegistry heartbeatTTL) (bs ++ [⟨t, .evict o⟩]) = some r)
    {k : String} {n : Node} (hn : r.nodes.lookup k = some n) :
    n.status = .offline ↔ effectiveTTL heartbeatTTL < timeSub t n.lastSeen := by
  -- the state before the sweep, and what the sweep did to the node
  rw [Machine.run_append, Option.bind_eq_some_iff] at hrun
  obtain ⟨r₀, hrun₀, hstep⟩ := hrun
  cases hstep
  have hinv₀ := registryInv_of_run hrun₀
  rw [NodeRegistry.apply_evict, NodeRegistry.lookup_evict] at hn
  obtain ⟨n₀, hn₀, rfl⟩ := Option.map_eq_some_iff.1 hn
  rw [Node.swept_offline_iff, Node.swept_lastSeen, hinv₀.ttl_eq]
  constructor
  · rintro (hold | hlt)
    · obtain ⟨a, ha, hlt⟩ := hinv₀.stale k n₀ hn₀ hold
      have hle : a.time ≤ t := by
        rw [List.map_append, List.pairwise_append] at hclock
        exact hclock.2.2 a.time (List.mem_map_of_mem ha) t (by simp)
      exact hlt.trans_le (timeSub_le_timeSub hle _)
    · exact hlt
  · exact Or.inr

/-- **The node registry after any sequence of operations, at clock values that do not decrease.** -/
theorem registry_health (heartbeatTTL : ℤ) {ops : List TimedOp}
    (hclock : (ops.map TimedOp.time).Pairwise (· ≤ ·)) {r : NodeRegistry}
    (hrun : Machine.run step (newNodeRegistry heartbeatTTL) ops = some r) :
    RegistryHealth (effectiveTTL heartbeatTTL) ops r := by
  have hinv := registryInv_of_run hrun
  refine ⟨fun id => ?_, fun id n hn => ?_, ?_, ?_, fun a id hid => NodeRegistry.mem_apply hid a,
    fun t id hid => ?_, r.count_evict_eq, fun o => (r.list_perm o).filter _, fun o => ?_⟩
  · rw [← isSome_lastRefresh_iff, ← hinv.seen id, Option.isSome_map, AList.lookup_isSome]
  · rw [← hinv.seen id, hn]
    rfl
  · rintro bs t o rfl id n hn
    exact offline_iff_of_run hclock hrun hn
  · rintro hmax bs t o rfl id n hn
    rw [offline_iff_of_run hclock hrun hn, lt_timeSub_iff (effectiveTTL_pos _) hmax]
  · have hnone : r.nodes.lookup id = none := AList.lookup_eq_none.2 hid
    rw [NodeRegistry.heartbeat, hnone]
    rfl
  · rw [NodeRegistry.count, Counts.foldl_add, (r.list_perm o).length_eq, NodeRegistry.values,
      List.length_map, AList.keys, List.keys, List.length_map]
    simp

/-- A node that reports at the start, goes offline, comes back and goes offline again. -/
def staleTwice : List TimedOp :=
  [⟨0, .register ⟨"n1", "host", "host:50051", .worker, 8, 16384, 0, 0, "1.0"⟩⟩,
    ⟨20000000, .evict (RangeOrder.stored String)⟩, ⟨25000000, .heartbeat "n1"⟩,
    ⟨25000000, .heartbeat "n2"⟩, ⟨40000000, .evict (RangeOrder.stored String)⟩]

/-- The run satisfies the theorem, and ends with the node offline. -/
theorem registry_health_staleTwice :
    ∃ r n, Machine.run step (newNodeRegistry 10000000) staleTwice = some r ∧
      RegistryHealth (effectiveTTL 10000000) staleTwice r ∧ r.nodes.lookup "n1" = some n ∧
      n.lastSeen = 25000000 ∧ n.status = .offline := by
  refine ⟨_, _, rfl, registry_health 10000000 (by decide) rfl, rfl, rfl, ?_⟩
  decide

end Dvf.Cluster
