/-
**Machines given by a partial step function.**

A machine is a type `σ` of states, a type `α` of actions and a function `step : σ → α → Option σ`
that says what an action does in a state, or that it is not enabled there.  An interleaving of
several parties is a list of actions, so "for every interleaving" is a quantifier over lists and
an interleaving can be replayed by evaluation.

Main definitions:

* `Machine.run` — performing a list of actions, defined when each of them is enabled in turn;
* `Machine.Obeys` — every action of a list is performed in a state where a condition allows it;
* `Machine.Reachable`, `Machine.ReachableBy` — some list of actions leads from one state to another,
  or some list that obeys a condition;
* `Machine.ExactFor` — a condition on the actions is just what keeps a fault away;
* `Machine.Grows` — parties stay at their places and change only in a given way.

Main results:

* `Machine.run_invariant` — what every allowed step preserves holds after every obedient run;
* `Machine.Reachable.invariant` — the same without a condition;
* `Machine.run_history` — the same for what relates a state to the actions before it;
* `Machine.forall_reached_iff_obeys` — a condition that is met just as long as a property holds;
* `Machine.split_of_getElem?`, `Machine.forall_set` — the parties of a list;
* `Machine.length_add_le_of_run` — a measure that every step decreases bounds the length of runs.
-/

import Mathlib.Tactic.Common

set_option autoImplicit false

namespace Machine

variable {σ α : Type*} {step : σ → α → Option σ}

/-! ### Runs -/

/-- The state after performing the actions `as` one after the other, if all are enabled. -/
def run (step : σ → α → Option σ) : σ → List α → Option σ
  | s, [] => some s
  | s, a :: as => (step s a).bind fun s' => run step s' as

theorem run_cons (s : σ) (a : α) (as : List α) :
    run step s (a :: as) = (step s a).bind fun s' => run step s' as := rfl

/-- A run of at least one action is a step followed by a run. -/
theorem run_cons_eq_some {s t : σ} {a : α} {as : List α} :
    run step s (a :: as) = some t ↔ ∃ s', step s a = some s' ∧ run step s' as = some t := by
  rw [run_cons, Option.bind_eq_some_iff]

theorem run_append (s : σ) (as bs : List α) :
    run step s (as ++ bs) = (run step s as).bind fun t => run step t bs := by
  induction as generalizing s with
  | nil => rfl
  | cons a as ih =>
      rw [List.cons_append, run_cons, run_cons, Option.bind_assoc]
      exact Option.bind_congr fun s' _ => ih s'

/-- Runs compose. -/
theorem run_append_eq_some {s t u : σ} {as bs : List α} (h₁ : run step s as = some t)
    (h₂ : run step t bs = some u) : run step s (as ++ bs) = some u := by
  rw [run_append, h₁]
  exact h₂

/-- Every action of the list is performed in a state where `C` allows it. -/
def Obeys (step : σ → α → Option σ) (C : σ → α → Prop) : σ → List α → Prop
  | _, [] => True
  | s, a :: as => C s a ∧ ∀ s', step s a = some s' → Obeys step C s' as

/-- The state `t` is reached from `s` by some list of actions. -/
def Reachable (step : σ → α → Option σ) (s t : σ) : Prop := ∃ as, run step s as = some t

/-- The state `t` is reached from `s` by some list of actions that obey `C`. -/
def ReachableBy (step : σ → α → Option σ) (C : σ → α → Prop) (s t : σ) : Prop :=
  ∃ as, Obeys step C s as ∧ run step s as = some t

section ReachableBy

variable {C : σ → α → Prop} {s s' t : σ}

theorem ReachableBy.refl (s : σ) : ReachableBy step C s s := ⟨[], trivial, rfl⟩

/-- An allowed action first. -/
theorem ReachableBy.head {a : α} (h : step s a = some s') (hC : C s a)
    (ht : ReachableBy step C s' t) : ReachableBy step C s t := by
  obtain ⟨as, hO, hrun⟩ := ht
  refine ⟨a :: as, ⟨hC, fun u hu => ?_⟩, run_cons_eq_some.2 ⟨s', h, hrun⟩⟩
  cases h.symm.trans hu
  exact hO

/-- One allowed action. -/
theorem ReachableBy.single {a : α} (h : step s a = some t) (hC : C s a) :
    ReachableBy step C s t := .head h hC (.refl t)

theorem ReachableBy.trans (h₁ : ReachableBy step C s s') (h₂ : ReachableBy step C s' t) :
    ReachableBy step C s t := by
  obtain ⟨as, hO, hrun⟩ := h₁
  induction as generalizing s with
  | nil =>
      cases hrun
      exact h₂
  | cons a as ih =>
      obtain ⟨u, hu, hrun⟩ := run_cons_eq_some.1 hrun
      exact .head hu hO.1 (ih (hO.2 u hu) hrun)

end ReachableBy

/-! ### Invariants -/

/-- **The invariant rule for runs under a condition**: what every allowed step preserves holds
after every run all of whose actions are allowed. -/
theorem run_invariant {C : σ → α → Prop} {I : σ → Prop}
    (hstep : ∀ s a s', I s → C s a → step s a = some s' → I s') :
    ∀ {as : List α} {s t : σ}, I s → Obeys step C s as → run step s as = some t → I t := by
  intro as
  induction as with
  | nil =>
      intro s t hs _ h
      cases h
      exact hs
  | cons a as ih =>
      intro s t hs hC h
      obtain ⟨s', h₁, h₂⟩ := run_cons_eq_some.1 h
      exact ih (hstep s a s' hs hC.1 h₁) (hC.2 s' h₁) h₂

/-- A condition on the actions alone has to hold of each action. -/
theorem obeys_of_forall {C : α → Prop} {as : List α} (h : ∀ a ∈ as, C a) (s : σ) :
    Obeys step (fun _ => C) s as := by
  induction as generalizing s with
  | nil => trivial
  | cons a as ih =>
      rw [List.forall_mem_cons] at h
      exact ⟨h.1, fun s' _ => ih h.2 s'⟩

/-- **One condition from another along a run**, under an invariant that the allowed steps keep. -/
theorem Obeys.of_invariant {C D : σ → α → Prop} {I : σ → Prop} (hD : ∀ s a, I s → C s a → D s a)
    (hstep : ∀ s a s', I s → C s a → step s a = some s' → I s') :
    ∀ {as : List α} {s : σ}, I s → Obeys step C s as → Obeys step D s as := by
  intro as
  induction as with
  | nil =>
      intro s _ _
      trivial
  | cons a as ih =>
      intro s hs hC
      exact ⟨hD s a hs hC.1, fun s' h => ih (hstep s a s' hs hC.1 h) (hC.2 s' h)⟩

/-- Conditions that say the same of every step say the same of every run. -/
theorem obeys_congr {C D : σ → α → Prop} (h : ∀ s a, C s a ↔ D s a) (s : σ) (as : List α) :
    Obeys step C s as ↔ Obeys step D s as :=
  ⟨Obeys.of_invariant (I := fun _ => True) (fun s a _ => (h s a).1) (fun _ _ _ _ _ _ => trivial)
      trivial,
    Obeys.of_invariant (I := fun _ => True) (fun s a _ => (h s a).2) (fun _ _ _ _ _ _ => trivial)
      trivial⟩

/-- **The invariant rule**: what every step preserves holds in every reachable state. -/
theorem Reachable.invariant {I : σ → Prop} {s t : σ} (h : Reachable step s t) (hs : I s)
    (hstep : ∀ s a s', I s → step s a = some s' → I s') : I t := by
  obtain ⟨as, has⟩ := h
  exact run_invariant (C := fun _ _ => True) (fun s a s' hI _ => hstep s a s' hI) hs
    (obeys_of_forall (fun _ _ => trivial) s) has

/-- **The invariant rule with the history**: what relates a state to the actions that led to it,
here after the actions `bs` before the run. -/
theorem run_history {I : List α → σ → Prop}
    (hstep : ∀ bs s a s', I bs s → step s a = some s' → I (bs ++ [a]) s') :
    ∀ {as bs : List α} {s t : σ}, I bs s → run step s as = some t → I (bs ++ as) t := by
  intro as
  induction as with
  | nil =>
      intro bs s t hI h
      cases h
      rwa [List.append_nil]
  | cons a as ih =>
      intro bs s t hI h
      obtain ⟨s', hs', hrun⟩ := run_cons_eq_some.1 h
      rw [List.append_cons]
      exact ih (hstep bs s a s' hI hs') hrun

/-- **A condition that is met just as long as a property holds**: if allowed steps keep an invariant
that has the property, and other steps lose the property, then the property holds in every state
along a run if and only if all its actions are allowed. -/
theorem forall_reached_iff_obeys {C : σ → α → Prop} {I P : σ → Prop} (hI : ∀ s, I s → P s)
    (hstep : ∀ s a s', I s → C s a → step s a = some s' → I s')
    (hfault : ∀ s a s', I s → step s a = some s' → ¬ C s a → ¬ P s') :
    ∀ {as : List α} {s t : σ}, I s → run step s as = some t →
      ((∀ bs u, bs <+: as → run step s bs = some u → P u) ↔ Obeys step C s as) := by
  intro as
  induction as with
  | nil =>
      intro s t hs _
      refine iff_of_true (fun bs u hbs hu => ?_) trivial
      rw [List.prefix_nil.1 hbs] at hu
      cases hu
      exact hI s hs
  | cons a as ih =>
      intro s t hs h
      obtain ⟨s', hs', hrun⟩ := run_cons_eq_some.1 h
      constructor
      · intro hP
        have hC : C s a := by
          by_contra hC
          refine hfault s a s' hs hs' hC (hP [a] s' ⟨as, rfl⟩ ?_)
          rw [run_cons, hs']
          rfl
        refine ⟨hC, fun u hu => ?_⟩
        rw [hs'] at hu
        cases hu
        refine (ih (hstep s a s' hs hC hs') hrun).1 fun bs u hbs hu => ?_
        exact hP (a :: bs) u (List.cons_prefix_cons.2 ⟨rfl, hbs⟩)
          (run_cons_eq_some.2 ⟨s', hs', hu⟩)
      · intro hO bs u hbs hu
        cases bs with
        | nil =>
            cases hu
            exact hI s hs
        | cons b bs =>
            obtain ⟨rfl, hbs'⟩ := List.cons_prefix_cons.1 hbs
            obtain ⟨u', hu', hu⟩ := run_cons_eq_some.1 hu
            rw [hs'] at hu'
            cases hu'
            exact (ih (hstep s b s' hs hO.1 hs') hrun).2 (hO.2 s' hs') bs u hbs' hu

/-- Whether the actions of a list obey a decidable condition can be decided, by performing them. -/
instance decidableObeys {C : σ → α → Prop} [∀ s a, Decidable (C s a)] :
    ∀ (as : List α) (s : σ), Decidable (Obeys step C s as)
  | [], _ => isTrue trivial
  | a :: as, s =>
      have := decidableObeys (C := C) as
      match h : step s a with
      | none =>
          decidable_of_iff (C s a) ⟨fun hC => ⟨hC, fun s' hs' => by simp [h] at hs'⟩, And.left⟩
      | some s' =>
          decidable_of_iff (C s a ∧ Obeys step C s' as)
            ⟨fun ⟨hC, hO⟩ => ⟨hC, fun t ht => by rw [h] at ht; cases ht; exact hO⟩,
              fun ⟨hC, hO⟩ => ⟨hC, hO s' h⟩⟩

/-- **A condition is exact for a fault**: runs from `s₀` that obey it never meet the fault, and one
action that breaks it, performed in a state without the fault, is enough: the fault can be met by
actions that all obey the condition again. -/
structure ExactFor (step : σ → α → Option σ) (s₀ : σ) (C : σ → α → Prop) (fault : σ → Prop) :
    Prop where
  safe : ∀ {as : List α} {s : σ}, Obeys step C s₀ as → run step s₀ as = some s → ¬ fault s
  needed : ∀ {as : List α} {s s' : σ} {a : α}, run step s₀ as = some s → ¬ fault s →
    step s a = some s' → ¬ C s a → ∃ t, ReachableBy step C s' t ∧ fault t

/-! ### Parties -/

/-- The parties of a machine often stand in a list: what stands before and after the `i`-th one,
with and without it, and with another one in its place. -/
theorem split_of_getElem? {l : List α} {i : ℕ} {x : α} (h : l[i]? = some x) :
    ∃ l₁ l₂, l = l₁ ++ x :: l₂ ∧ l.eraseIdx i = l₁ ++ l₂ ∧ ∀ y, l.set i y = l₁ ++ y :: l₂ := by
  obtain ⟨hi, hx⟩ := List.getElem?_eq_some_iff.1 h
  refine ⟨l.take i, l.drop (i + 1), ?_, List.eraseIdx_eq_take_drop_succ l i, fun y => ?_⟩
  · rw [← hx, ← List.drop_eq_getElem_cons hi, List.take_append_drop]
  · rw [List.set_eq_take_append_cons_drop, if_pos hi]

section Replace

variable {l₁ l₂ : List α} {x y : α}

/-- What holds of all parties, and of the new one, holds of all when the new one has taken the place
of another. -/
theorem forall_mem_replace {P : α → Prop} (h : ∀ z ∈ l₁ ++ x :: l₂, P z) (hy : P y) :
    ∀ z ∈ l₁ ++ y :: l₂, P z := by
  rw [List.forall_mem_append, List.forall_mem_cons] at h ⊢
  exact ⟨h.1, hy, h.2.2⟩

/-- What holds of some party holds of one of them when the new one has it from its predecessor. -/
theorem exists_mem_replace {P : α → Prop} (h : ∃ z ∈ l₁ ++ x :: l₂, P z) (hy : P x → P y) :
    ∃ z ∈ l₁ ++ y :: l₂, P z := by
  obtain ⟨z, hz, hP⟩ := h
  obtain hz | hz := List.mem_append.1 hz
  · exact ⟨z, List.mem_append_left _ hz, hP⟩
  · obtain rfl | hz := List.mem_cons.1 hz
    · exact ⟨y, List.mem_append_right _ List.mem_cons_self, hy hP⟩
    · exact ⟨z, List.mem_append_right _ (List.mem_cons_of_mem _ hz), hP⟩

/-- A symmetric relation between any two parties. -/
theorem pairwise_replace {R : α → α → Prop} (hsymm : ∀ a b, R a b → R b a)
    (h : (l₁ ++ x :: l₂).Pairwise R) (hy : ∀ z ∈ l₁ ++ x :: l₂, R x z → R y z) :
    (l₁ ++ y :: l₂).Pairwise R := by
  rw [List.pairwise_append, List.pairwise_cons] at h ⊢
  rw [List.forall_mem_append, List.forall_mem_cons] at hy
  obtain ⟨h₁, ⟨hx, h₂⟩, hcross⟩ := h
  refine ⟨h₁, ⟨fun z hz => hy.2.2 z hz (hx z hz), h₂⟩, fun a ha b hb => ?_⟩
  obtain rfl | hb := List.mem_cons.1 hb
  · exact hsymm _ _ (hy.1 a ha (hsymm _ _ (hcross a ha x List.mem_cons_self)))
  · exact hcross a ha b (List.mem_cons_of_mem _ hb)

end Replace

/-- The parties after one of them was replaced. -/
theorem getElem?_set_of {l : List α} {i : ℕ} {x : α} (h : l[i]? = some x) (y : α) (j : ℕ) :
    (l.set i y)[j]? = if i = j then some y else l[j]? := by
  obtain ⟨hi, _⟩ := List.getElem?_eq_some_iff.1 h
  rw [List.getElem?_set]
  by_cases hij : i = j
  · rw [if_pos hij, if_pos hij, if_pos hi]
  · rw [if_neg hij, if_neg hij]

theorem getElem?_set_self_of {l : List α} {i : ℕ} {x : α} (h : l[i]? = some x) (y : α) :
    (l.set i y)[i]? = some y := by
  rw [getElem?_set_of h, if_pos rfl]

/-- The parties after a new one came. -/
theorem getElem?_concat (l : List α) (y : α) (j : ℕ) :
    (l ++ [y])[j]? = if j = l.length then some y else l[j]? := by
  by_cases hj : j = l.length
  · rw [if_pos hj, hj, List.getElem?_concat_length]
  · rw [if_neg hj]
    by_cases hlt : j < l.length
    · rw [List.getElem?_append_left hlt]
    · rw [List.getElem?_eq_none (by simp; omega), List.getElem?_eq_none (by omega)]

/-- A fact about all parties is kept when one of them is replaced. -/
theorem forall_set {P : ℕ → α → Prop} {l : List α} {i : ℕ} {y : α}
    (h : ∀ j x, l[j]? = some x → P j x) (hy : P i y) :
    ∀ j x, (l.set i y)[j]? = some x → P j x := by
  intro j x hx
  rw [List.getElem?_set] at hx
  split at hx
  · next hij =>
      split at hx
      · cases hx
        exact hij ▸ hy
      · cases hx
  · exact h j x hx

/-- A fact about all parties is kept when a new one comes. -/
theorem forall_concat {P : ℕ → α → Prop} {l : List α} {y : α}
    (h : ∀ j x, l[j]? = some x → P j x) (hy : P l.length y) :
    ∀ j x, (l ++ [y])[j]? = some x → P j x := by
  intro j x hx
  rw [getElem?_concat] at hx
  split at hx
  · next hj =>
      cases hx
      exact hj ▸ hy
  · exact h j x hx

/-- Every party of the first list is in the second one, at its place, and as `R` allows. -/
def Grows (R : α → α → Prop) (l l' : List α) : Prop :=
  ∀ (j : ℕ) (x : α), l[j]? = some x → ∃ y, l'[j]? = some y ∧ R x y

theorem Grows.refl {R : α → α → Prop} (hR : ∀ x, R x x) (l : List α) : Grows R l l :=
  fun _ x hx => ⟨x, hx, hR x⟩

theorem Grows.set {R : α → α → Prop} (hR : ∀ x, R x x) {l : List α} {i : ℕ} {x y : α}
    (h : l[i]? = some x) (hxy : R x y) : Grows R l (l.set i y) := by
  intro j z hz
  rw [getElem?_set_of h]
  by_cases hij : i = j
  · subst hij
    rw [h] at hz
    cases hz
    exact ⟨y, if_pos rfl, hxy⟩
  · exact ⟨z, by rw [if_neg hij, hz], hR z⟩

theorem Grows.concat {R : α → α → Prop} (hR : ∀ x, R x x) (l : List α) (y : α) :
    Grows R l (l ++ [y]) := by
  intro j x hx
  obtain ⟨hj, _⟩ := List.getElem?_eq_some_iff.1 hx
  exact ⟨x, by rw [List.getElem?_append_left hj, hx], hR x⟩

/-! ### Termination -/

/-- **A measure bounds the length of runs**: if every step from a state in `I` decreases `μ`, a
run takes at most as many steps as `μ` decreases. -/
theorem length_add_le_of_run {I : σ → Prop} {μ : σ → ℕ}
    (hI : ∀ s a s', I s → step s a = some s' → I s')
    (hμ : ∀ s a s', I s → step s a = some s' → μ s' < μ s) :
    ∀ {as : List α} {s t : σ}, I s → run step s as = some t → as.length + μ t ≤ μ s := by
  intro as
  induction as with
  | nil =>
      intro s t _ h
      cases h
      simp
  | cons a as ih =>
      intro s t hs h
      obtain ⟨s', h₁, h₂⟩ := run_cons_eq_some.1 h
      have hlt : μ s' < μ s := hμ s a s' hs h₁
      have hle : as.length + μ t ≤ μ s' := ih (hI s a s' hs h₁) h₂
      simp only [List.length_cons]
      omega

end Machine
