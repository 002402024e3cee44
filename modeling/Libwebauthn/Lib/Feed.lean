/-
  Libwebauthn.Lib.Feed — feeding inputs to a state machine one by one.

  `feed step s xs` runs a step function over a list of inputs and keeps
  every output.  `feed_to_last` is the run lemma for a machine that collects
  the frames of one message: if an invariant, indexed by the frames still to
  come, makes every frame but the last answer `more` and the last one `done`,
  then the whole run does.
-/
import Mathlib.Data.List.Basic

namespace Libwebauthn

variable {σ α β : Type*}

/-- Run `step` over the inputs, collecting the outputs. -/
def feed (step : σ → α → β × σ) (s : σ) : List α → List β × σ
  | [] => ([], s)
  | x :: xs =>
      let (out, s') := step s x
      let (outs, final) := feed step s' xs
      (out :: outs, final)

theorem feed_cons {step : σ → α → β × σ} {s s' : σ} {x : α} {out : β}
    (h : step s x = (out, s')) (xs : List α) :
    feed step s (x :: xs) = (out :: (feed step s' xs).1, (feed step s' xs).2) := by
  simp only [feed, h]

theorem feed_cons_state (step : σ → α → β × σ) (s : σ) (x : α) (xs : List α) :
    (feed step s (x :: xs)).2 = (feed step (step s x).2 xs).2 := rfl

/-- Two runs in a row. -/
theorem feed_append (step : σ → α → β × σ) (xs ys : List α) :
    ∀ s, feed step s (xs ++ ys)
      = ((feed step s xs).1 ++ (feed step (feed step s xs).2 ys).1,
          (feed step (feed step s xs).2 ys).2) := by
  induction xs with
  | nil => intro s; rfl
  | cons x xs ih =>
      intro s
      rcases hstep : step s x with ⟨out, s'⟩
      rw [List.cons_append, feed_cons hstep, feed_cons hstep, ih]
      rfl

/-- **Run lemma** for a collecting machine. -/
theorem feed_to_last {step : σ → α → β × σ} {more done : β}
    (Awaits : σ → List α → Prop) (Complete : σ → Prop)
    (hmore : ∀ s x y ys, Awaits s (x :: y :: ys) →
      ∃ s', step s x = (more, s') ∧ Awaits s' (y :: ys))
    (hdone : ∀ s x, Awaits s [x] → ∃ s', step s x = (done, s') ∧ Complete s') :
    ∀ (xs : List α) (s : σ), xs ≠ [] → Awaits s xs →
      (feed step s xs).1 = List.replicate (xs.length - 1) more ++ [done]
        ∧ Complete (feed step s xs).2 := by
  intro xs
  induction xs with
  | nil => intro s h; exact absurd rfl h
  | cons x xs ih =>
      intro s _ hs
      cases xs with
      | nil =>
          obtain ⟨s', hstep, hcomplete⟩ := hdone s x hs
          rw [feed_cons hstep]
          exact ⟨rfl, hcomplete⟩
      | cons y ys =>
          obtain ⟨s', hstep, hnext⟩ := hmore s x y ys hs
          obtain ⟨houts, hcomplete⟩ := ih s' (List.cons_ne_nil _ _) hnext
          rw [feed_cons hstep]
          refine ⟨?_, hcomplete⟩
          rw [houts]
          rfl

end Libwebauthn
