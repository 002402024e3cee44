/-
  Libwebauthn.Lib.Machine — loops over machine integers.

  A turn of a loop goes on with a new state, returns, or panics where its
  arithmetic overflows.  `execute` takes up to `fuel` turns.

    • `usizeAdd_of_lt` — an addition that fits;
    • `execute_eq_returned` — a loop whose turns keep an invariant, lower a
      measure and leave the answer as it is returns that answer.
-/
import Mathlib.Algebra.Group.Nat.Defs
import Mathlib.Tactic.Common

namespace Libwebauthn

/-- `usize` addition; nothing where it overflows, and panics. -/
def usizeAdd (a b : Nat) : Option Nat := if a + b < 2 ^ 64 then some (a + b) else none

theorem usizeAdd_of_lt {a b : Nat} (h : a + b < 2 ^ 64) : usizeAdd a b = some (a + b) :=
  if_pos h

/-- How a turn of a loop ends. -/
inductive LoopTurn (σ α : Type) where
  | goOn (state : σ)
  | returned (value : α)
  | panicked
  deriving DecidableEq

/-- How a loop ends, if it does. -/
inductive Execution (α : Type) where
  | running
  | returned (value : α)
  | panicked
  deriving DecidableEq

variable {σ α : Type}

/-- Up to `fuel` turns of a loop. -/
def execute (turn : σ → LoopTurn σ α) : (fuel : Nat) → σ → Execution α
  | 0, _ => .running
  | fuel + 1, s =>
      match turn s with
      | .goOn s' => execute turn fuel s'
      | .returned a => .returned a
      | .panicked => .panicked

/-- A turn that keeps the invariant and the answer, and lowers the measure. -/
def LoopTurn.Follows (inv : σ → Prop) (measure : σ → Nat) (answer : σ → α) (s : σ) :
    LoopTurn σ α → Prop
  | .goOn s' => inv s' ∧ measure s' < measure s ∧ answer s' = answer s
  | .returned a => a = answer s
  | .panicked => False

/-- **The loop returns**, within as many turns as the measure says. -/
theorem execute_eq_returned {turn : σ → LoopTurn σ α} {inv : σ → Prop} {measure : σ → Nat}
    {answer : σ → α} (hturn : ∀ s, inv s → (turn s).Follows inv measure answer s) :
    ∀ fuel s, inv s → measure s < fuel → execute turn fuel s = .returned (answer s) := by
  intro fuel
  induction fuel with
  | zero =>
      intro s _ hmeasure
      omega
  | succ fuel ih =>
      intro s hinv hmeasure
      have hfollows := hturn s hinv
      unfold execute
      cases hs : turn s with
      | goOn s' =>
          rw [hs] at hfollows
          obtain ⟨hinv', hless, hanswer⟩ := hfollows
          show execute turn fuel s' = _
          rw [ih s' hinv' (by omega), hanswer]
      | returned a =>
          rw [hs] at hfollows
          show Execution.returned a = _
          rw [show a = answer s from hfollows]
      | panicked =>
          rw [hs] at hfollows
          exact hfollows.elim

end Libwebauthn
