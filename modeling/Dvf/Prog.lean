/-
**Programs that call their surroundings.**

A program is a tree: it returns a value, or makes a call and goes on with the answer.  The type of
an answer depends on the call.  What a program does in a world that answers its calls is
`Prog.eval`; that its calls follow a protocol, whatever the answers are, is `Prog.Follows`.  The
second notion is about the tree alone, so it also speaks of a program that is stopped in the middle
and interleaved with others: what is left of it after a call follows the protocol from the next
state on.

Main definitions:

* `Prog`, `Prog.bind`, `Prog.perform` — programs, with a `Monad` instance;
* `Prog.eval` — the run of a program in a world;
* `Prog.Runs` — the calls and the answers of a complete execution;
* `Prog.embed` — a program as one that could make more calls;
* `Protocol`, `Prog.Follows` — protocols;
* `Prog.Calls`, `Protocol.Idle` — which calls a program can make, and those that change nothing.

Main results:

* `Prog.eval_bind`, `Prog.eval_perform` — runs of composed programs;
* `Prog.Follows.bind`, `Prog.Follows.mono` — protocols and composition;
* `Prog.Follows.project` — following a protocol through a coarser one;
* `Prog.Calls.follows`, `Prog.Calls.follows_idle` — following a protocol by the calls alone.
-/

import Mathlib.Tactic.Common

set_option autoImplicit false

universe u v

/-- **A program** that makes calls of type `C`, answered in `R`, and returns an `α`. -/
inductive Prog (C : Type u) (R : C → Type v) (α : Type v) : Type (max u v)
  /-- Returning a value. -/
  | pure (a : α)
  /-- Making a call and going on with the answer. -/
  | call (c : C) (k : R c → Prog C R α)

/-- **A protocol**: the calls that are allowed in each state, and the state after an answer. -/
structure Protocol (C : Type u) (R : C → Type v) (Q : Type*) where
  allowed : Q → C → Prop
  next : Q → (c : C) → R c → Q

/-- A call that is allowed in every state and leaves it. -/
def Protocol.Idle {C : Type u} {R : C → Type v} {Q : Type*} (P : Protocol C R Q) (c : C) : Prop :=
  ∀ q, P.allowed q c ∧ ∀ r, P.next q c r = q

namespace Prog

variable {C : Type u} {R : C → Type v} {α β : Type v}

/-! ### Composition -/

/-- Running `f` on the value that a program returns. -/
def bind : Prog C R α → (α → Prog C R β) → Prog C R β
  | .pure a, f => f a
  | .call c k, f => .call c fun r => (k r).bind f

instance : Monad (Prog C R) where
  pure := .pure
  bind := .bind

/-- A single call. -/
def perform (c : C) : Prog C R (R c) := .call c .pure

@[simp] theorem call_bind_eq (c : C) (k : R c → Prog C R α) (f : α → Prog C R β) :
    (Prog.call c k >>= f) = .call c fun r => k r >>= f := rfl

/-! ### Runs -/

variable {σ : Type*}

/-- The run of a program in a world: `h` answers a call and changes the world, or gives no
answer. -/
def eval (h : σ → (c : C) → Option (R c × σ)) : Prog C R α → σ → Option (α × σ)
  | .pure a, s => some (a, s)
  | .call c k, s => (h s c).bind fun x => (k x.1).eval h x.2

variable (h : σ → (c : C) → Option (R c × σ))

@[simp] theorem eval_pure (a : α) (s : σ) : (Pure.pure a : Prog C R α).eval h s = some (a, s) := rfl

theorem eval_call (c : C) (k : R c → Prog C R α) (s : σ) :
    (Prog.call c k).eval h s = (h s c).bind fun x => (k x.1).eval h x.2 := rfl

/-- The run of a single call is the answer of the world. -/
@[simp] theorem eval_perform (c : C) (s : σ) : (perform c : Prog C R (R c)).eval h s = h s c := by
  rw [perform, eval_call]
  cases h s c <;> rfl

/-- **The run of a composed program** is a run of its first part and then one of the second. -/
@[simp] theorem eval_bind (p : Prog C R α) (f : α → Prog C R β) (s : σ) :
    (p >>= f).eval h s = (p.eval h s).bind fun x => (f x.1).eval h x.2 := by
  induction p generalizing s with
  | pure a => rfl
  | call c k ih =>
      rw [call_bind_eq, eval_call, eval_call, Option.bind_assoc]
      exact Option.bind_congr fun x _ => ih x.1 x.2

/-- **A complete execution**: the program made the calls of the list, got the answers that stand
with them, and returned `a`. -/
inductive Runs : Prog C R α → List ((c : C) × R c) → α → Prop
  | pure (a : α) : Runs (.pure a) [] a
  | call {c : C} {k : R c → Prog C R α} {r : R c} {tr : List ((c : C) × R c)} {a : α}
      (h : Runs (k r) tr a) : Runs (.call c k) (⟨c, r⟩ :: tr) a

/-! ### Protocols -/

variable {Q : Type*} {P : Protocol C R Q}

/-- **A program follows a protocol** from the state `q` on: whatever the answers are, each call is
allowed when it is made, and `post` holds of the value and the state at the end. -/
def Follows (P : Protocol C R Q) (post : α → Q → Prop) : Prog C R α → Q → Prop
  | .pure a, q => post a q
  | .call c k, q => P.allowed q c ∧ ∀ r, (k r).Follows P post (P.next q c r)

/-- What is known at the end may be weakened. -/
theorem Follows.mono {post post' : α → Q → Prop} (hpost : ∀ a q, post a q → post' a q)
    {p : Prog C R α} {q : Q} (h : p.Follows P post q) : p.Follows P post' q := by
  induction p generalizing q with
  | pure a => exact hpost a q h
  | call c k ih => exact ⟨h.1, fun r => ih r (h.2 r)⟩

/-- **Protocols compose.** -/
theorem Follows.bind {mid : α → Q → Prop} {post : β → Q → Prop} {p : Prog C R α}
    {f : α → Prog C R β} {q : Q} (h : p.Follows P mid q)
    (hf : ∀ a q', mid a q' → (f a).Follows P post q') : (p >>= f).Follows P post q := by
  induction p generalizing q with
  | pure a => exact hf a q h
  | call c k ih => exact ⟨h.1, fun r => ih r (h.2 r)⟩

/-- A program that follows a protocol follows every coarser one. -/
theorem Follows.project {Q' : Type*} {P' : Protocol C R Q'} (π : Q → Q')
    (hallowed : ∀ q c, P.allowed q c → P'.allowed (π q) c)
    (hnext : ∀ q c r, P.allowed q c → π (P.next q c r) = P'.next (π q) c r)
    {post : α → Q' → Prop} {p : Prog C R α} {q : Q}
    (h : p.Follows P (fun a q => post a (π q)) q) : p.Follows P' post (π q) := by
  induction p generalizing q with
  | pure a => exact h
  | call c k ih =>
      refine ⟨hallowed q c h.1, fun r => ?_⟩
      rw [← hnext q c r h.1]
      exact ih r (h.2 r)

/-- A program as one that could make more calls: `ι` says which of them it makes. -/
def embed {C' : Type u} {R' : C' → Type v} (ι : C → C') :
    Prog C (fun c => R' (ι c)) α → Prog C' R' α
  | .pure a => .pure a
  | .call c k => .call (ι c) fun r => (k r).embed ι

/-- **A part follows a protocol** if it does so with the calls that it can make. -/
theorem Follows.embed {C' : Type u} {R' : C' → Type v} {P : Protocol C' R' Q} {ι : C → C'}
    {post : α → Q → Prop} {p : Prog C (fun c => R' (ι c)) α} {q : Q}
    (h : p.Follows ⟨fun q c => P.allowed q (ι c), fun q c r => P.next q (ι c) r⟩ post q) :
    (p.embed ι).Follows P post q := by
  induction p generalizing q with
  | pure a => exact h
  | call c k ih => exact ⟨h.1, fun r => ih r (h.2 r)⟩

/-- A call and what is done with its answer. -/
theorem Follows.perform_bind {post : α → Q → Prop} {c : C} {f : R c → Prog C R α} {q : Q}
    (hc : P.allowed q c) (hf : ∀ r, (f r).Follows P post (P.next q c r)) :
    (Prog.perform c >>= f).Follows P post q := ⟨hc, hf⟩

/-- Where every call is allowed, every program follows. -/
theorem follows_of_forall (h : ∀ q c, P.allowed q c) (p : Prog C R α) (q : Q) :
    p.Follows P (fun _ _ => True) q := by
  induction p generalizing q with
  | pure a => trivial
  | call c k ih => exact ⟨h q c, fun r => ih r _⟩

/-- **The calls of a program** are calls of `S`, whatever the answers are. -/
def Calls (S : C → Prop) : Prog C R α → Prop
  | .pure _ => True
  | .call c k => S c ∧ ∀ r, (k r).Calls S

theorem Calls.bind {S : C → Prop} {p : Prog C R α} {f : α → Prog C R β} (h : p.Calls S)
    (hf : ∀ a, (f a).Calls S) : (p >>= f).Calls S := by
  induction p with
  | pure a => exact hf a
  | call c k ih => exact ⟨h.1, fun r => ih r (h.2 r)⟩

theorem Calls.perform_bind {S : C → Prop} {c : C} {f : R c → Prog C R α} (hc : S c)
    (hf : ∀ r, (f r).Calls S) : (Prog.perform c >>= f).Calls S := ⟨hc, hf⟩

/-- **A program with calls of `S`** follows a protocol that allows them in the states of `I`, where
their answers leave it. -/
theorem Calls.follows {S : C → Prop} {p : Prog C R α} (h : p.Calls S) (I : Q → Prop)
    (hallowed : ∀ q c, I q → S c → P.allowed q c)
    (hnext : ∀ q c r, I q → S c → I (P.next q c r)) {q : Q} (hq : I q) :
    p.Follows P (fun _ => I) q := by
  induction p generalizing q with
  | pure a => exact hq
  | call c k ih => exact ⟨hallowed q c hq h.1, fun r => ih r (h.2 r) (hnext q c r hq h.1)⟩

theorem Calls.perform {S : C → Prop} {c : C} (hc : S c) :
    (Prog.perform c : Prog C R (R c)).Calls S := ⟨hc, fun _ => trivial⟩

/-- **A program with idle calls** leaves the state. -/
theorem Calls.follows_idle {p : Prog C R α} (h : p.Calls P.Idle) (q : Q) :
    p.Follows P (fun _ q' => q' = q) q :=
  h.follows (· = q) (fun q' _ _ hc => (hc q').1) (fun q' _ r hq' hc => ((hc q').2 r).trans hq') rfl

/-- A first part with idle calls can be left out. -/
theorem Calls.bind_follows {p : Prog C R α} {f : α → Prog C R β} {post : β → Q → Prop} {q : Q}
    (h : p.Calls P.Idle) (hf : ∀ a, (f a).Follows P post q) : (p >>= f).Follows P post q := by
  refine (h.follows_idle q).bind fun a q' hq' => ?_
  rw [hq']
  exact hf a

theorem Follows.perform {c : C} {q : Q} (h : P.allowed q c) :
    (perform c : Prog C R (R c)).Follows P (fun r q' => q' = P.next q c r) q :=
  ⟨h, fun _ => rfl⟩

end Prog
