/-
**Programs that give back what they take.**

Calls give resources back, and answers hand resources out.  What a program holds is the multiset of
the resources that it took and has not yet given back.  A program keeps the ledger if it gives back
only what it holds.  Then, in every complete execution, what it took and what it gave back differ by
what it holds at the end; if that is nothing, every resource was given back exactly once, whatever
the answers were.

Main definitions:

* `Ledger`, `Ledger.protocol` — ledgers, as protocols;
* `Ledger.taken`, `Ledger.given` — what an execution took and gave back.

Main results:

* `Ledger.balance` — **what was taken was given back or is held at the end**.
-/

import Dvf.Prog
import Mathlib.Algebra.BigOperators.Group.Multiset.Basic
import Mathlib.Algebra.Order.Group.Multiset
import Mathlib.Tactic.Abel

set_option autoImplicit false

universe u v

/-- What calls give back, and what their answers hand out. -/
structure Ledger (C : Type u) (R : C → Type v) (ρ : Type*) where
  gives : C → Multiset ρ
  takes : (c : C) → R c → Multiset ρ

namespace Ledger

variable {C : Type u} {R : C → Type v} {α : Type v} {ρ : Type*}

/-- What was taken in an execution. -/
def taken (L : Ledger C R ρ) (tr : List ((c : C) × R c)) : Multiset ρ :=
  (tr.map fun x => L.takes x.1 x.2).sum

/-- What was given back in an execution. -/
def given (L : Ledger C R ρ) (tr : List ((c : C) × R c)) : Multiset ρ :=
  (tr.map fun x => L.gives x.1).sum

variable [DecidableEq ρ]

/-- **The protocol of a ledger**: its states are the resources held, and a call may give back only
what is held. -/
def protocol (L : Ledger C R ρ) : Protocol C R (Multiset ρ) where
  allowed held c := L.gives c ≤ held
  next held c r := held - L.gives c + L.takes c r

/-- **What was taken was given back or is held at the end.** -/
theorem balance {L : Ledger C R ρ} {post : α → Multiset ρ → Prop} {p : Prog C R α}
    {held : Multiset ρ} {tr : List ((c : C) × R c)} {a : α} (hr : p.Runs tr a)
    (h : p.Follows L.protocol post held) :
    ∃ held', post a held' ∧ held + L.taken tr = held' + L.given tr := by
  induction hr generalizing held with
  | pure a => exact ⟨held, h, rfl⟩
  | @call c k r tr a hr ih =>
      obtain ⟨rest, rfl⟩ := Multiset.le_iff_exists_add.1 h.1
      obtain ⟨held', hpost, hbal⟩ := ih (h.2 r)
      refine ⟨held', hpost, ?_⟩
      have hnext : L.protocol.next (L.gives c + rest) c r = rest + L.takes c r := by
        simp only [protocol, add_tsub_cancel_left]
      rw [hnext] at hbal
      calc L.gives c + rest + L.taken (⟨c, r⟩ :: tr)
          = L.gives c + rest + (L.takes c r + L.taken tr) := by simp [taken]
        _ = rest + L.takes c r + L.taken tr + L.gives c := by abel
        _ = held' + L.given tr + L.gives c := by rw [hbal]
        _ = held' + (L.gives c + L.given tr) := by abel
        _ = held' + L.given (⟨c, r⟩ :: tr) := by simp [given]

end Ledger
