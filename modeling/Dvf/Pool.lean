/-
**The scheduler and its callers** (`internal/core/scheduler.go` with its `notify` channel).

`Enqueue` and `Release` change the scheduler under its lock and signal afterwards, outside of it, on
a channel with room for one token; a signal that finds the channel full is dropped.  `Next` looks at
the scheduler under the lock, and when there is nothing to take it waits for a token and looks
again.  `Close` closes the channel: a waiting `Next` returns `nil`, and a signal panics.  `Release`
recovers from the panic, `Enqueue` does not.

The calls are those of any number of goroutines, and each action is one atomic step of one call.  A
`Next` that waits is blocked on the channel or about to be; a token that Go hands directly to a
blocked receiver is a signal with the receipt right after it.

Main definitions:

* `Dvf.PoolState`, `Dvf.PoolAct`, `Dvf.PoolState.step` — the machine;
* `Dvf.PoolState.Moves` — what an action can do;
* `Dvf.PoolState.Matched`, `Dvf.PoolState.SingleWorker`, `Dvf.PoolState.Careful` — conditions on the
  callers.

Main results:

* `Dvf.scheduler_conserves` — **the runs taken and the queue are the runs enqueued, in order;**
* `Dvf.worker_not_lost` — **a single worker does not miss a signal;**
* `Dvf.shutdown_exact` — **a shutdown panics exactly when it can meet an `Enqueue`.**
-/

import Dvf.Machine
import Dvf.Scheduler

set_option autoImplicit false

namespace Dvf

/-! ### The machine -/

/-- Where a call of `Next` is: about to take the lock and look, or about to receive a token. -/
inductive NextPC
  | looking
  | waiting
  deriving DecidableEq, Repr

/-- A call that has left its critical section and has still to signal. -/
inductive Signaller
  | enqueue
  | release
  deriving DecidableEq, Repr

/-- The state: the scheduler; the token and the end of the channel; the calls of `Next`; the calls
that have still to signal; whether the program has panicked.  The last three fields record the runs
enqueued, the runs taken and the number of calls of `Release`. -/
structure PoolState where
  scheduler : Scheduler
  token : Bool := false
  closed : Bool := false
  nexts : List NextPC := []
  signallers : List Signaller := []
  panicked : Bool := false
  enqueued : List TestRun := []
  taken : List TestRun := []
  released : ℕ := 0

/-- The actions: the critical sections of `Enqueue`, `Release` and `TryNext`; a call of `Next`
starts, looks, and receives; a call signals; the channel is closed. -/
inductive PoolAct
  | enqueue (run : TestRun)
  | release
  | tryNext
  | next
  | look (i : ℕ)
  | receive (i : ℕ)
  | signal (i : ℕ)
  | close
  deriving DecidableEq, Repr

namespace PoolState

def take (s : PoolState) (run : TestRun) (scheduler : Scheduler) : PoolState :=
  { s with scheduler := scheduler, taken := s.taken ++ [run] }

/-- One action of a program that has not panicked. -/
def act (s : PoolState) : PoolAct → Option PoolState
  | .enqueue run =>
      some { s with
        scheduler := s.scheduler.enqueue run
        signallers := s.signallers ++ [.enqueue]
        enqueued := s.enqueued ++ [run] }
  | .release =>
      some { s with
        scheduler := s.scheduler.release
        signallers := s.signallers ++ [.release]
        released := s.released + 1 }
  | .tryNext =>
      match s.scheduler.tryNext with
      | some (run, scheduler) => some (s.take run scheduler)
      | none => some s
  | .next => some { s with nexts := s.nexts ++ [.looking] }
  | .look i =>
      match s.nexts[i]? with
      | some .looking =>
          match s.scheduler.tryNext with
          | some (run, scheduler) =>
              some ({ s with nexts := s.nexts.eraseIdx i }.take run scheduler)
          | none => some { s with nexts := s.nexts.set i .waiting }
      | _ => none
  | .receive i =>
      match s.nexts[i]? with
      | some .waiting =>
          if s.token = true then some { s with token := false, nexts := s.nexts.set i .looking }
          -- the call returns nil
          else if s.closed = true then some { s with nexts := s.nexts.eraseIdx i }
          else none
      | _ => none
  | .signal i =>
      match s.signallers[i]? with
      | some g =>
          if s.closed = true then
            match g with
            | .enqueue => some { s with panicked := true }
            | .release => some { s with signallers := s.signallers.eraseIdx i }
          else some { s with token := true, signallers := s.signallers.eraseIdx i }
      | none => none
  | .close =>
      if s.closed = true then some { s with panicked := true } else some { s with closed := true }

/-- **One action of the machine**; nothing happens after a panic. -/
def step (s : PoolState) (a : PoolAct) : Option PoolState :=
  if s.panicked = true then none else s.act a

/-- `NewScheduler`, and no calls. -/
def start (maxConcurrent : ℤ) : PoolState where
  scheduler := newScheduler maxConcurrent

variable {s s' : PoolState} {a : PoolAct} {n : ℤ}

/-! ### What the actions can do -/

/-- **The ways of an action**, each with what it needs. -/
inductive Moves (s : PoolState) : PoolAct → PoolState → Prop
  | enqueue (run : TestRun) :
      Moves s (.enqueue run) { s with
        scheduler := s.scheduler.enqueue run
        signallers := s.signallers ++ [.enqueue]
        enqueued := s.enqueued ++ [run] }
  | release :
      Moves s .release { s with
        scheduler := s.scheduler.release
        signallers := s.signallers ++ [.release]
        released := s.released + 1 }
  | tried {run : TestRun} {scheduler : Scheduler}
      (h : s.scheduler.tryNext = some (run, scheduler)) : Moves s .tryNext (s.take run scheduler)
  | idle (h : s.scheduler.tryNext = none) : Moves s .tryNext s
  | called : Moves s .next { s with nexts := s.nexts ++ [.looking] }
  | took {i : ℕ} {run : TestRun} {scheduler : Scheduler} (hi : s.nexts[i]? = some .looking)
      (h : s.scheduler.tryNext = some (run, scheduler)) :
      Moves s (.look i) ({ s with nexts := s.nexts.eraseIdx i }.take run scheduler)
  | waits {i : ℕ} (hi : s.nexts[i]? = some .looking) (h : s.scheduler.tryNext = none) :
      Moves s (.look i) { s with nexts := s.nexts.set i .waiting }
  | woken {i : ℕ} (hi : s.nexts[i]? = some .waiting) (htoken : s.token = true) :
      Moves s (.receive i) { s with token := false, nexts := s.nexts.set i .looking }
  | ended {i : ℕ} (hi : s.nexts[i]? = some .waiting) (hclosed : s.closed = true) :
      Moves s (.receive i) { s with nexts := s.nexts.eraseIdx i }
  | panicked {i : ℕ} (hi : s.signallers[i]? = some .enqueue) (hclosed : s.closed = true) :
      Moves s (.signal i) { s with panicked := true }
  | recovered {i : ℕ} (hi : s.signallers[i]? = some .release) (hclosed : s.closed = true) :
      Moves s (.signal i) { s with signallers := s.signallers.eraseIdx i }
  | signalled {i : ℕ} {g : Signaller} (hi : s.signallers[i]? = some g)
      (hopen : ¬ s.closed = true) :
      Moves s (.signal i) { s with token := true, signallers := s.signallers.eraseIdx i }
  | reclosed (hclosed : s.closed = true) : Moves s .close { s with panicked := true }
  | closed (hopen : ¬ s.closed = true) : Moves s .close { s with closed := true }

theorem step_eq_some (h : s.step a = some s') : s.panicked = false ∧ s.act a = some s' := by
  unfold step at h
  split at h
  · cases h
  · next hp => exact ⟨by simpa using hp, h⟩

/-- Every action goes one of these ways. -/
theorem Moves.of_step (h : s.step a = some s') : s.Moves a s' := by
  obtain ⟨_, h⟩ := step_eq_some h
  cases a with
  | enqueue run =>
      cases h
      exact .enqueue run
  | release =>
      cases h
      exact .release
  | tryNext =>
      simp only [act] at h
      split at h
      · next htake =>
          cases h
          exact .tried htake
      · next hnone =>
          cases h
          exact .idle hnone
  | next =>
      cases h
      exact .called
  | look i =>
      simp only [act] at h
      split at h
      · next hi =>
          split at h
          · next htake =>
              cases h
              exact .took hi htake
          · next hnone =>
              cases h
              exact .waits hi hnone
      · cases h
  | receive i =>
      simp only [act] at h
      split at h
      · next hi =>
          split at h
          · next htoken =>
              cases h
              exact .woken hi htoken
          · split at h
            · next hclosed =>
                cases h
                exact .ended hi hclosed
            · cases h
      · cases h
  | signal i =>
      simp only [act] at h
      split at h
      · next g hi =>
          split at h
          · next hclosed =>
              cases g with
              | enqueue =>
                  cases h
                  exact .panicked hi hclosed
              | release =>
                  cases h
                  exact .recovered hi hclosed
          · next hopen =>
              cases h
              exact .signalled hi hopen
      · cases h
  | close =>
      simp only [act] at h
      split at h
      · next hclosed =>
          cases h
          exact .reclosed hclosed
      · next hopen =>
          cases h
          exact .closed hopen

/-- The scheduler, and what is recorded of it, stay as they are. -/
def SameBooks (s s' : PoolState) : Prop :=
  s'.scheduler = s.scheduler ∧ s'.enqueued = s.enqueued ∧ s'.taken = s.taken ∧
    s'.released = s.released

/-- **What an action does to the scheduler**: it adds a run, frees a slot, takes the first run, or
leaves the scheduler alone. -/
theorem step_books (h : s.step a = some s') :
    (∃ run, a = .enqueue run ∧ s'.scheduler = s.scheduler.enqueue run ∧
        s'.enqueued = s.enqueued ++ [run] ∧ s'.taken = s.taken ∧ s'.released = s.released) ∨
      (a = .release ∧ s'.scheduler = s.scheduler.release ∧ s'.enqueued = s.enqueued ∧
        s'.taken = s.taken ∧ s'.released = s.released + 1) ∨
      (∃ run, s.scheduler.tryNext = some (run, s'.scheduler) ∧ s'.enqueued = s.enqueued ∧
        s'.taken = s.taken ++ [run] ∧ s'.released = s.released) ∨
      SameBooks s s' := by
  cases Moves.of_step h with
  | enqueue run => exact Or.inl ⟨run, rfl, rfl, rfl, rfl, rfl⟩
  | release => exact Or.inr (Or.inl ⟨rfl, rfl, rfl, rfl, rfl⟩)
  | tried htake => exact Or.inr (Or.inr (Or.inl ⟨_, htake, rfl, rfl, rfl⟩))
  | took _ htake => exact Or.inr (Or.inr (Or.inl ⟨_, htake, rfl, rfl, rfl⟩))
  | _ => exact Or.inr (Or.inr (Or.inr ⟨rfl, rfl, rfl, rfl⟩))

/-! ### Conservation -/

/-- `Release` is called at most once for each run that was taken. -/
def Matched (s : PoolState) : PoolAct → Prop
  | .release => s.released < s.taken.length
  | _ => True

instance (s : PoolState) : (a : PoolAct) → Decidable (s.Matched a)
  | .release => inferInstanceAs (Decidable (s.released < s.taken.length))
  | .enqueue _ | .tryNext | .next | .look _ | .receive _ | .signal _ | .close => isTrue trivial

/-- **The bookkeeping of a scheduler** that was made with the argument `n`. -/
structure Books (n : ℤ) (s : PoolState) : Prop where
  runs : s.taken ++ s.scheduler.queue = s.enqueued
  active : s.scheduler.activeCount + s.released = s.taken.length
  max : s.scheduler.maxConcurrent = (newScheduler n).maxConcurrent

theorem Books.start (n : ℤ) : Books n (start n) := ⟨rfl, rfl, rfl⟩

theorem Books.step (h : Books n s) (hm : s.Matched a) (hs : s.step a = some s') : Books n s' := by
  rcases step_books hs with ⟨run, rfl, hsch, henq, htaken, hrel⟩ | ⟨rfl, hsch, henq, htaken, hrel⟩ |
    ⟨run, htake, henq, htaken, hrel⟩ | ⟨hsch, henq, htaken, hrel⟩
  · refine ⟨?_, by rw [hsch, htaken, hrel]; exact h.active, by rw [hsch]; exact h.max⟩
    rw [hsch, htaken, henq, Scheduler.queue_enqueue, ← List.append_assoc, h.runs]
  · refine ⟨by rw [hsch, htaken, henq]; exact h.runs, ?_, by rw [hsch]; exact h.max⟩
    -- a slot is in use, since some taken run was not released yet
    have hlt : s.released < s.taken.length := hm
    have hactive := h.active
    rw [hsch, htaken, hrel]
    simp only [Scheduler.release]
    omega
  · obtain ⟨hqueue, hactive, hmax⟩ := Scheduler.tryNext_eq_some_iff.1 htake
    refine ⟨?_, ?_, hmax.trans h.max⟩
    · rw [htaken, henq, ← h.runs, hqueue, List.append_assoc]
      rfl
    · have hbefore := h.active
      rw [hactive, htaken, hrel, List.length_append, List.length_singleton]
      omega
  · exact ⟨by rw [hsch, henq, htaken]; exact h.runs, by rw [hsch, htaken, hrel]; exact h.active,
      by rw [hsch]; exact h.max⟩

/-! ### Signals -/

/-- One goroutine calls `Next`, one call after the other, and the channel is not closed. -/
def SingleWorker (s : PoolState) : PoolAct → Prop
  | .next => s.nexts = []
  | .close => False
  | _ => True

instance (s : PoolState) : (a : PoolAct) → Decidable (s.SingleWorker a)
  | .next => inferInstanceAs (Decidable (s.nexts = []))
  | .close => isFalse id
  | .enqueue _ | .release | .tryNext | .look _ | .receive _ | .signal _ => isTrue trivial

/-- **No signal is lost**: while the worker waits and could take a run, there is a token in the
channel, or a call that has still to signal. -/
structure Alert (s : PoolState) : Prop where
  calm : s.panicked = false
  opened : s.closed = false
  single : s.nexts.length ≤ 1
  signalled : .waiting ∈ s.nexts → s.scheduler.CanTake → s.token = true ∨ s.signallers ≠ []

theorem Alert.start (n : ℤ) : Alert (start n) :=
  ⟨rfl, rfl, Nat.zero_le 1, by simp [PoolState.start]⟩

theorem nexts_eq_singleton {i : ℕ} {pc : NextPC} (hsingle : s.nexts.length ≤ 1)
    (h : s.nexts[i]? = some pc) : s.nexts = [pc] ∧ i = 0 := by
  obtain ⟨hi, hpc⟩ := List.getElem?_eq_some_iff.1 h
  obtain ⟨x, hx⟩ := List.length_eq_one_iff.1 (by omega : s.nexts.length = 1)
  have hi0 : i = 0 := by omega
  subst hi0
  rw [hx] at h
  cases h
  exact ⟨hx, rfl⟩

theorem Alert.step (h : Alert s) (hw : s.SingleWorker a) (hs : s.step a = some s') : Alert s' := by
  cases Moves.of_step hs with
  | enqueue run => exact ⟨h.calm, h.opened, h.single, fun _ _ => Or.inr (by simp)⟩
  | release => exact ⟨h.calm, h.opened, h.single, fun _ _ => Or.inr (by simp)⟩
  | @tried run scheduler htake =>
      -- what can be taken after a run was taken could be taken before
      obtain ⟨hqueue, hactive, hmax⟩ := Scheduler.tryNext_eq_some_iff.1 htake
      refine ⟨h.calm, h.opened, h.single, fun hwait hcan => h.signalled hwait ⟨?_, ?_⟩⟩
      · have hlt : scheduler.activeCount < scheduler.maxConcurrent := hcan.1
        omega
      · simp [hqueue]
  | idle => exact h
  | called =>
      have hnil : s.nexts = [] := hw
      exact ⟨h.calm, h.opened, by simp [hnil], fun hwait _ => by simp [hnil] at hwait⟩
  | took hlook _ =>
      obtain ⟨hnexts, rfl⟩ := nexts_eq_singleton h.single hlook
      refine ⟨h.calm, h.opened, by simp [take, hnexts], fun hwait _ => ?_⟩
      simp [take, hnexts] at hwait
  | waits hlook hnone =>
      obtain ⟨hnexts, rfl⟩ := nexts_eq_singleton h.single hlook
      -- the worker has just seen that there is nothing to take
      exact ⟨h.calm, h.opened, by simp [hnexts], fun _ hcan =>
        absurd hcan (Scheduler.tryNext_eq_none_iff.1 hnone)⟩
  | woken hwait _ =>
      obtain ⟨hnexts, rfl⟩ := nexts_eq_singleton h.single hwait
      exact ⟨h.calm, h.opened, by simp [hnexts], fun hmem _ => by simp [hnexts] at hmem⟩
  | signalled => exact ⟨h.calm, h.opened, h.single, fun _ _ => Or.inl rfl⟩
  | ended _ hclosed => simp [h.opened] at hclosed
  | panicked _ hclosed => simp [h.opened] at hclosed
  | recovered _ hclosed => simp [h.opened] at hclosed
  | reclosed | closed => exact absurd hw id

/-- A worker that waits while it could take a run is woken, and takes it. -/
theorem Alert.exists_take (h : Alert s) (hwait : .waiting ∈ s.nexts) (hcan : s.scheduler.CanTake) :
    ∃ bs t run, Machine.run PoolState.step s bs = some t ∧
      bs ⊆ [.signal 0, .receive 0, .look 0] ∧ t.taken = s.taken ++ [run] := by
  obtain ⟨i, hi⟩ := List.mem_iff_getElem?.1 hwait
  obtain ⟨hnexts, _⟩ := nexts_eq_singleton h.single hi
  obtain ⟨⟨run, scheduler⟩, htake⟩ : ∃ x, s.scheduler.tryNext = some x := by
    rw [← Option.ne_none_iff_exists']
    exact fun hnone => Scheduler.tryNext_eq_none_iff.1 hnone hcan
  -- with a token, the worker receives it and looks
  have htoken : ∀ u : PoolState, u.panicked = false → u.token = true → u.nexts = [.waiting] →
      u.scheduler = s.scheduler → u.taken = s.taken → ∃ t,
        Machine.run PoolState.step u [.receive 0, .look 0] = some t ∧
        t.taken = s.taken ++ [run] := by
    intro u hcalm htok hn hsch htaken
    refine ⟨({ u with token := false, nexts := [] } : PoolState).take run scheduler, ?_, ?_⟩
    · simp [Machine.run, PoolState.step, act, hcalm, htok, hn, hsch, htake]
    · simp [take, htaken]
  rcases h.signalled hwait hcan with htok | hsig
  · obtain ⟨t, ht, htaken⟩ := htoken s h.calm htok hnexts rfl rfl
    exact ⟨_, t, run, ht, by simp, htaken⟩
  · obtain ⟨g, gs, hgs⟩ := List.exists_cons_of_ne_nil hsig
    obtain ⟨t, ht, htaken⟩ := htoken { s with token := true, signallers := gs } h.calm rfl hnexts
      rfl rfl
    refine ⟨.signal 0 :: [.receive 0, .look 0], t, run, ?_, by simp, htaken⟩
    refine Machine.run_cons_eq_some.2 ⟨_, ?_, ht⟩
    simp [PoolState.step, act, h.calm, h.opened, hgs]

/-! ### Shutdown -/

/-- **Care with the shutdown**: nothing is enqueued once the channel is closed, and it is closed
once, when no `Enqueue` has still to signal. -/
def Careful (s : PoolState) : PoolAct → Prop
  | .enqueue _ => s.closed = false
  | .close => s.closed = false ∧ .enqueue ∉ s.signallers
  | _ => True

instance (s : PoolState) : (a : PoolAct) → Decidable (s.Careful a)
  | .enqueue _ => inferInstanceAs (Decidable (s.closed = false))
  | .close => inferInstanceAs (Decidable (s.closed = false ∧ .enqueue ∉ s.signallers))
  | .release | .tryNext | .next | .look _ | .receive _ | .signal _ => isTrue trivial

/-- No `Enqueue` has still to signal on a closed channel. -/
def Settled (s : PoolState) : Prop :=
  s.panicked = false ∧ (s.closed = true → .enqueue ∉ s.signallers)

theorem Settled.step (h : Settled s) (hc : s.Careful a) (hs : s.step a = some s') :
    Settled s' := by
  cases Moves.of_step hs with
  | enqueue run =>
      have hopen : s.closed = false := hc
      exact ⟨h.1, fun hclosed => by simp [hopen] at hclosed⟩
  | release => exact ⟨h.1, fun hclosed => by simpa using h.2 hclosed⟩
  | tried | idle | called | took | waits | woken | ended => exact h
  | panicked hi hclosed => exact absurd (List.mem_of_getElem? hi) (h.2 hclosed)
  | recovered => exact ⟨h.1, fun hclosed hmem => h.2 hclosed (List.mem_of_mem_eraseIdx hmem)⟩
  | signalled _ hopen => exact ⟨h.1, fun hclosed => absurd hclosed hopen⟩
  | reclosed hclosed =>
      have hopen : s.closed = false := hc.1
      simp [hopen] at hclosed
  | closed => exact ⟨h.1, fun _ => hc.2⟩

theorem exists_panic (hp : s.panicked = false) (hclosed : s.closed = true)
    (hmem : .enqueue ∈ s.signallers) :
    ∃ t, Machine.ReachableBy PoolState.step Careful s t ∧ t.panicked = true := by
  obtain ⟨i, hi⟩ := List.mem_iff_getElem?.1 hmem
  have hsignal : s.step (.signal i) = some { s with panicked := true } := by
    simp [PoolState.step, act, hp, hclosed, hi]
  exact ⟨{ s with panicked := true }, .single hsignal trivial, rfl⟩

end PoolState

/-- **Conservation.**  In every run of any callers in which `Release` is called at most once for
each run taken: the runs that `Next` and `TryNext` returned, in this order, and then the queue are
the runs enqueued, in the order in which they were enqueued; the scheduler counts as active the runs
that were taken and not released; and it never counts more than its limit, which is the argument of
the constructor if that is positive, and otherwise one. -/
theorem scheduler_conserves {n : ℤ} {as : List PoolAct} {s : PoolState}
    (hobeys : Machine.Obeys PoolState.step PoolState.Matched (PoolState.start n) as)
    (hrun : Machine.run PoolState.step (PoolState.start n) as = some s) :
    s.taken ++ s.scheduler.queue = s.enqueued ∧
      s.scheduler.activeCount + s.released = s.taken.length ∧
      s.scheduler.activeCount ≤ s.scheduler.maxConcurrent ∧
      (s.scheduler.maxConcurrent : ℤ) = (if n ≤ 0 then 1 else n) ∧
      1 ≤ s.scheduler.maxConcurrent := by
  have hbooks : PoolState.Books n s := Machine.run_invariant
    (fun _ _ _ hI hm hs => hI.step hm hs) (PoolState.Books.start n) hobeys hrun
  refine ⟨hbooks.runs, hbooks.active, s.scheduler.active_le, ?_, s.scheduler.max_pos⟩
  rw [hbooks.max]
  change ((if n ≤ 0 then 1 else n.toNat : ℕ) : ℤ) = if n ≤ 0 then 1 else n
  split
  · rfl
  · omega

def firstRun : TestRun :=
  { id := "tr-1", deviceID := "dev", testSuiteID := "suite", status := .pending }

def secondRun : TestRun :=
  { id := "tr-2", deviceID := "dev", testSuiteID := "suite", status := .pending }

/-- With one slot, the first run is taken by `Next`, and the second by `TryNext` after a release. -/
theorem scheduler_conserves_two :
    ∃ s, Machine.run PoolState.step (PoolState.start 0)
        [.next, .enqueue firstRun, .enqueue secondRun, .look 0, .tryNext, .release, .tryNext] =
          some s ∧
      s.taken = [firstRun, secondRun] ∧ s.taken ++ s.scheduler.queue = s.enqueued := by
  have hobeys : Machine.Obeys PoolState.step PoolState.Matched (PoolState.start 0)
      [.next, .enqueue firstRun, .enqueue secondRun, .look 0, .tryNext, .release, .tryNext] := by
    decide
  have hrun : ((Machine.run PoolState.step (PoolState.start 0)
      [.next, .enqueue firstRun, .enqueue secondRun, .look 0, .tryNext, .release, .tryNext]).map
        PoolState.taken) = some [firstRun, secondRun] := by decide
  obtain ⟨s, hs, htaken⟩ := Option.map_eq_some_iff.1 hrun
  exact ⟨s, hs, htaken, (scheduler_conserves hobeys hs).1⟩

/-- **No lost wake-up.**  Let one goroutine call `Next`, one call after the other, and any number of
goroutines call `Enqueue`, `Release` and `TryNext`.  Whenever the worker waits on the channel while
a slot is free and the queue is not empty, the channel holds a token, or some call of `Enqueue` or
`Release` has left its critical section and has still to signal; and these signals are enough to let
the worker take a run. -/
theorem worker_not_lost {n : ℤ} {as : List PoolAct} {s : PoolState}
    (hobeys : Machine.Obeys PoolState.step PoolState.SingleWorker (PoolState.start n) as)
    (hrun : Machine.run PoolState.step (PoolState.start n) as = some s)
    (hwait : .waiting ∈ s.nexts) (hslot : s.scheduler.activeCount < s.scheduler.maxConcurrent)
    (hqueue : s.scheduler.queue ≠ []) :
    (s.token = true ∨ s.signallers ≠ []) ∧
      ∃ bs t run, Machine.run PoolState.step s bs = some t ∧
        bs ⊆ [.signal 0, .receive 0, .look 0] ∧ t.taken = s.taken ++ [run] := by
  have halert : s.Alert := Machine.run_invariant
    (fun _ _ _ hI hw hs => hI.step hw hs) (PoolState.Alert.start n) hobeys hrun
  exact ⟨halert.signalled hwait ⟨hslot, hqueue⟩, halert.exists_take hwait ⟨hslot, hqueue⟩⟩

/-- The worker has seen an empty queue, and the `Enqueue` that came after it has not signalled
yet. -/
theorem worker_not_lost_stale :
    ∃ s, Machine.run PoolState.step (PoolState.start 1) [.next, .look 0, .enqueue firstRun] =
        some s ∧
      s.token = false ∧ (s.token = true ∨ s.signallers ≠ []) := by
  have hobeys : Machine.Obeys PoolState.step PoolState.SingleWorker (PoolState.start 1)
      [.next, .look 0, .enqueue firstRun] := by decide
  have hrun : ((Machine.run PoolState.step (PoolState.start 1)
      [.next, .look 0, .enqueue firstRun]).map fun s =>
        (s.token = false ∧ .waiting ∈ s.nexts ∧
          s.scheduler.activeCount < s.scheduler.maxConcurrent ∧ s.scheduler.queue ≠ [] : Bool)) =
      some true := by decide
  obtain ⟨s, hs, hfacts⟩ := Option.map_eq_some_iff.1 hrun
  obtain ⟨htoken, hwait, hslot, hqueue⟩ := of_decide_eq_true hfacts
  exact ⟨s, hs, htoken, (worker_not_lost hobeys hs hwait hslot hqueue).1⟩

/-- **When a shutdown panics.**  As long as nothing is enqueued after `Close`, by a request or by
the goroutine of a deferred run, and no `Enqueue` has still to signal when `Close` is called, no run
of any callers panics; and after any step against this rule a panic can come. -/
theorem shutdown_exact (n : ℤ) :
    Machine.ExactFor PoolState.step (PoolState.start n) PoolState.Careful
      fun s => s.panicked = true where
  safe := by
    intro as s hobeys hrun
    have hsettled : s.Settled := Machine.run_invariant
      (fun _ _ _ hI hc hs => hI.step hc hs) ⟨rfl, by simp [PoolState.start]⟩ hobeys hrun
    simp [hsettled.1]
  needed := by
    intro as s s' a _ hcalm hs hc
    obtain ⟨hp, -⟩ := PoolState.step_eq_some hs
    cases PoolState.Moves.of_step hs with
    | enqueue run =>
        have hclosed : s.closed = true := by simpa [PoolState.Careful] using hc
        exact PoolState.exists_panic hp hclosed (by simp)
    | reclosed => exact ⟨_, .refl _, rfl⟩
    | closed hopen =>
        refine PoolState.exists_panic hp rfl ?_
        by_contra hnone
        exact hc ⟨by simpa using hopen, hnone⟩
    | _ => exact absurd trivial hc

/-- A shutdown while a run is still executing: its `Release` signals on the closed channel and
recovers. -/
theorem shutdown_exact_release :
    ∃ s, Machine.run PoolState.step (PoolState.start 1) [.enqueue firstRun, .signal 0, .next,
        .look 0, .next, .look 0, .close, .release, .signal 0, .receive 0] = some s ∧
      ¬ s.panicked = true := by
  have hrun : (Machine.run PoolState.step (PoolState.start 1) [.enqueue firstRun, .signal 0, .next,
      .look 0, .next, .look 0, .close, .release, .signal 0, .receive 0]).isSome = true := by decide
  obtain ⟨s, hs⟩ := Option.isSome_iff_exists.1 hrun
  exact ⟨s, hs, (shutdown_exact 1).safe (by decide) hs⟩

/-- **A deferred run panics at shutdown**: the worker takes the run, there are no resources, the
slot is released, the engine is stopped, and two seconds later the goroutine of the deferral
enqueues the run. -/
theorem deferral_panics_after_close :
    ((Machine.run PoolState.step (PoolState.start 1) [.enqueue firstRun, .signal 0, .next, .look 0,
      .release, .signal 0, .close, .enqueue firstRun, .signal 0]).map PoolState.panicked) =
        some true := by
  decide

end Dvf
