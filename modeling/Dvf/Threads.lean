/-
**Programs that run at the same time.**

Several programs are under way in one world.  In each step one of them makes its next call, the
world answers it, and the program goes on with the answer; what else may happen to the answer (a
failure, a value that comes from outside) is an argument of the step.  With each program goes the
state of a protocol, which moves with the calls and their answers, so that it can be said what each
program holds at any time, however the programs are interleaved.

Main definitions:

* `Prog.Thread` — a program that is under way, with the state of its protocol;
* `Prog.Thread.advance` — one program makes its next call;
* `Prog.Thread.System` — a world and the programs that run in it.

Main results:

* `Prog.Thread.exists_of_advance` — what a step does;
* `Prog.Thread.forall_ok_of_advance` — programs that follow a protocol go on following it;
* `Prog.Thread.System.exists_joined` — all programs can be run to their end.
-/

import Dvf.Machine
import Dvf.Prog

set_option autoImplicit false

universe u v

namespace Prog

/-- **A program under way**, with the state of its protocol. -/
structure Thread (C : Type u) (R : C → Type v) (α : Type v) (Q : Type*) where
  prog : Prog C R α
  state : Q

namespace Thread

variable {C : Type u} {R : C → Type v} {α : Type v} {Q σ ω : Type*}

/-- The rest of the program follows the protocol from the present state on. -/
def Ok (P : Protocol C R Q) (post : α → Q → Prop) (th : Thread C R α Q) : Prop :=
  th.prog.Follows P post th.state

/-- **One step**: program number `k` makes its next call, which the world `w` answers; `o` is what
comes from outside. -/
def advance (P : Protocol C R Q) (answer : σ → (c : C) → ω → Option (R c × σ)) (w : σ)
    (ts : List (Thread C R α Q)) (k : ℕ) (o : ω) : Option (σ × List (Thread C R α Q)) :=
  match ts[k]? with
  | some ⟨.call c f, q⟩ =>
      (answer w c o).map fun x => (x.2, ts.set k ⟨f x.1, P.next q c x.1⟩)
  | _ => none

variable {P : Protocol C R Q} {answer : σ → (c : C) → ω → Option (R c × σ)} {w w' : σ}
  {ts ts' : List (Thread C R α Q)} {k : ℕ} {o : ω} {post : α → Q → Prop}

theorem exists_of_advance (h : advance P answer w ts k o = some (w', ts')) :
    ∃ c f q r, ts[k]? = some ⟨.call c f, q⟩ ∧ answer w c o = some (r, w') ∧
      ts' = ts.set k ⟨f r, P.next q c r⟩ := by
  rw [advance] at h
  split at h
  · next c f q hk =>
      obtain ⟨⟨r, w₁⟩, hr, heq⟩ := Option.map_eq_some_iff.1 h
      cases heq
      exact ⟨c, f, q, r, hk, hr, rfl⟩
  · cases h

/-- A step makes a call that the protocol allows. -/
theorem allowed_of_ok {c : C} {f : R c → Prog C R α} {q : Q}
    (hok : ∀ (j : ℕ) (th : Thread C R α Q), ts[j]? = some th → th.Ok P post)
    (hk : ts[k]? = some ⟨.call c f, q⟩) : P.allowed q c :=
  (hok k _ hk).1

/-- **Programs that follow a protocol go on following it.** -/
theorem forall_ok_of_advance (h : advance P answer w ts k o = some (w', ts'))
    (hok : ∀ (j : ℕ) (th : Thread C R α Q), ts[j]? = some th → th.Ok P post) :
    ∀ (j : ℕ) (th : Thread C R α Q), ts'[j]? = some th → th.Ok P post := by
  obtain ⟨c, f, q, r, hk, -, rfl⟩ := exists_of_advance h
  exact Machine.forall_set hok ((hok k _ hk).2 r)

/-! ### Systems -/

/-- A world and the programs that run in it. -/
structure System (C : Type u) (R : C → Type v) (α : Type v) (Q σ : Type*) where
  world : σ
  threads : List (Thread C R α Q)

namespace System

/-- An action is the number of a program and what comes from outside. -/
def step (P : Protocol C R Q) (answer : σ → (c : C) → ω → Option (R c × σ))
    (s : System C R α Q σ) (a : ℕ × ω) : Option (System C R α Q σ) :=
  (advance P answer s.world s.threads a.1 a.2).map fun x => ⟨x.1, x.2⟩

/-- All programs have returned. -/
def Joined (s : System C R α Q σ) : Prop := ∀ th ∈ s.threads, ∃ a, th.prog = .pure a

variable (P) (answer) (hans : ∀ w c, ∃ o, (answer w c o).isSome)

include hans

/-- In a world that answers every call, one program can be run to its end. -/
theorem exists_returned {p : Prog C R α} {q : Q} (hk : ts[k]? = some ⟨p, q⟩) (w : σ) :
    ∃ w' a q', Machine.Reachable (step P answer) ⟨w, ts⟩ ⟨w', ts.set k ⟨.pure a, q'⟩⟩ := by
  induction p generalizing w ts q with
  | pure a =>
      obtain ⟨l₁, l₂, rfl, -, hset⟩ := Machine.split_of_getElem? hk
      refine ⟨w, a, q, [], ?_⟩
      rw [hset]
      rfl
  | call c f ih =>
      obtain ⟨o, ho⟩ := hans w c
      obtain ⟨⟨r, w₁⟩, hr⟩ := Option.isSome_iff_exists.1 ho
      obtain ⟨w', a, q', as, hrun⟩ := ih r (Machine.getElem?_set_self_of hk ⟨f r, P.next q c r⟩) w₁
      rw [List.set_set] at hrun
      refine ⟨w', a, q', (k, o) :: as, Machine.run_cons_eq_some.2 ⟨_, ?_, hrun⟩⟩
      simp [step, advance, hk, hr]

/-- **All programs can be run to their end.** -/
theorem exists_joined (s : System C R α Q σ) :
    ∃ s', Machine.Reachable (step P answer) s s' ∧ s'.Joined := by
  -- the first `n` programs have returned
  have hfirst : ∀ n ≤ s.threads.length, ∃ s', Machine.Reachable (step P answer) s s' ∧
      s'.threads.length = s.threads.length ∧
      ∀ j < n, ∃ a q, s'.threads[j]? = some ⟨.pure a, q⟩ := by
    intro n
    induction n with
    | zero => exact fun _ => ⟨s, ⟨[], rfl⟩, rfl, fun j hj => absurd hj (Nat.not_lt_zero j)⟩
    | succ n ih =>
        intro hn
        obtain ⟨⟨w₁, ts₁⟩, ⟨as, hrun⟩, hlen, hdone⟩ := ih (by omega)
        have hlt : n < ts₁.length := Nat.lt_of_lt_of_eq hn hlen.symm
        have hget := List.getElem?_eq_getElem hlt
        obtain ⟨w', a, q', as', hrun'⟩ := exists_returned P answer hans hget w₁
        refine ⟨_, ⟨as ++ as', Machine.run_append_eq_some hrun hrun'⟩, by simpa using hlen,
          fun j hj => ?_⟩
        rw [Machine.getElem?_set_of hget]
        by_cases hjn : n = j
        · rw [if_pos hjn]
          exact ⟨a, q', rfl⟩
        · rw [if_neg hjn]
          exact hdone j (by omega)
  obtain ⟨s', hreach, hlen, hdone⟩ := hfirst _ (Nat.le_refl _)
  refine ⟨s', hreach, fun th hth => ?_⟩
  obtain ⟨j, hj⟩ := List.getElem?_of_mem hth
  obtain ⟨a, q, hjq⟩ := hdone j (hlen ▸ (List.getElem?_eq_some_iff.1 hj).1)
  rw [hj] at hjq
  cases hjq
  exact ⟨a, rfl⟩

end System

end Thread

end Prog
