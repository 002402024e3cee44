/-
  Libwebauthn.Lib.Steps — runs of a system that takes labelled steps.

  `step s label` is the state after a step, or `none` where the step cannot
  be taken.  `runSteps` takes a list of steps in order, and `Along` says
  that every step of a run meets a condition in the state it is taken in.

    • `runSteps_append` — two runs in a row;
    • `runSteps_invariant` — what every step keeps holds after a run;
    • `runSteps_invariant_along` — the same for runs under a condition;
    • `exists_last_change` — where steps can always be taken, and a component
      of the state is not what it was at first: the last step to change it.
-/
import Mathlib.Data.List.Induction

namespace Libwebauthn

variable {σ ℓ : Type*} {step : σ → ℓ → Option σ}

def runSteps (step : σ → ℓ → Option σ) (s : σ) : (labels : List ℓ) → Option σ
  | [] => some s
  | label :: labels => (step s label).bind fun s' => runSteps step s' labels

def Along (step : σ → ℓ → Option σ) (ok : σ → ℓ → Prop) (s : σ) : (labels : List ℓ) → Prop
  | [] => True
  | label :: labels => ok s label ∧ ∀ s', step s label = some s' → Along step ok s' labels

instance Along.decidable (ok : σ → ℓ → Prop) [∀ s label, Decidable (ok s label)] :
    ∀ (labels : List ℓ) (s : σ), Decidable (Along step ok s labels)
  | [], _ => .isTrue trivial
  | label :: labels, s =>
      match h : step s label with
      | none => decidable_of_iff (ok s label) (by simp [Along, h])
      | some s' =>
          have := Along.decidable ok labels s'
          decidable_of_iff (ok s label ∧ Along step ok s' labels) (by simp [Along, h])

theorem runSteps_cons_eq_some {s s' : σ} {label : ℓ} {labels : List ℓ} :
    runSteps step s (label :: labels) = some s'
      ↔ ∃ mid, step s label = some mid ∧ runSteps step mid labels = some s' :=
  Option.bind_eq_some_iff

theorem runSteps_append (labels labels' : List ℓ) :
    ∀ s, runSteps step s (labels ++ labels')
      = (runSteps step s labels).bind fun s' => runSteps step s' labels' := by
  induction labels with
  | nil => exact fun s => rfl
  | cons label labels ih =>
      intro s
      show (step s label).bind (fun s' => runSteps step s' (labels ++ labels')) = _
      simp only [ih]
      exact (Option.bind_assoc _ _ _).symm

/-- **Invariants of runs under a condition.** -/
theorem runSteps_invariant_along {Inv : σ → Prop} {ok : σ → ℓ → Prop}
    (hstep : ∀ s label s', Inv s → ok s label → step s label = some s' → Inv s')
    (labels : List ℓ) :
    ∀ s s', Inv s → Along step ok s labels → runSteps step s labels = some s' → Inv s' := by
  induction labels with
  | nil =>
      intro s s' hs _ hrun
      cases hrun
      exact hs
  | cons label labels ih =>
      intro s s' hs halong hrun
      obtain ⟨mid, hfirst, hrest⟩ := runSteps_cons_eq_some.mp hrun
      exact ih mid s' (hstep s label mid hs halong.1 hfirst) (halong.2 mid hfirst) hrest

theorem along_true (labels : List ℓ) : ∀ s : σ, Along step (fun _ _ => True) s labels := by
  induction labels with
  | nil => exact fun _ => trivial
  | cons label labels ih => exact fun s => ⟨trivial, fun s' _ => ih s'⟩

/-- **Invariants of all runs.** -/
theorem runSteps_invariant {I : σ → Prop}
    (hstep : ∀ s label s', I s → step s label = some s' → I s') (labels : List ℓ)
    {s s' : σ} (hs : I s) (hrun : runSteps step s labels = some s') : I s' :=
  runSteps_invariant_along (fun s label s' h _ => hstep s label s' h) labels s s' hs
    (along_true labels s) hrun

/-- The condition of a run at one of its steps. -/
theorem Along.at_step {ok : σ → ℓ → Prop} {before later : List ℓ} {label : ℓ} :
    ∀ {s mid : σ}, Along step ok s (before ++ label :: later) →
      runSteps step s before = some mid → ok mid label := by
  induction before with
  | nil =>
      intro s mid halong hrun
      cases hrun
      exact halong.1
  | cons first before ih =>
      intro s mid halong hrun
      obtain ⟨next, hfirst, hrest⟩ := runSteps_cons_eq_some.mp hrun
      exact ih (halong.2 next hfirst) hrest

/-! ## Steps that can always be taken. -/

/-- **The last change of a component**: one step gives it the value it has
in the end, and every state from there on has that value. -/
theorem exists_last_change {γ : Type*} {step : σ → ℓ → σ} (f : σ → γ) (s : σ) (labels : List ℓ)
    (h : f (labels.foldl step s) ≠ f s) :
    ∃ before label later, labels = before ++ label :: later
      ∧ f (step (before.foldl step s) label) ≠ f (before.foldl step s)
      ∧ ∀ mid, mid <+: later →
          f ((before ++ label :: mid).foldl step s) = f (labels.foldl step s) := by
  induction labels using List.reverseRecOn with
  | nil => exact absurd rfl h
  | append_singleton labels label ih =>
      rw [List.foldl_append] at h ⊢
      by_cases hlast : f (step (labels.foldl step s) label) = f (labels.foldl step s)
      · -- the step before the last one, and nothing since
        obtain ⟨before, label', later, rfl, hchange, hsame⟩ := ih (fun heq => h (hlast.trans heq))
        refine ⟨before, label', later ++ [label], by simp, hchange, fun mid hmid => ?_⟩
        rcases List.prefix_concat_iff.mp hmid with rfl | hmid
        · rw [← List.cons_append, ← List.append_assoc, List.foldl_append]
        · rw [hsame mid hmid]
          exact hlast.symm
      · refine ⟨labels, label, [], by simp, hlast, fun mid hmid => ?_⟩
        rw [List.prefix_nil.mp hmid, List.foldl_append]

end Libwebauthn
