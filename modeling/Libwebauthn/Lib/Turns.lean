/-
  Libwebauthn.Lib.Turns — the turns of a loop.

  `turns body fuel start` lists where the turns of `Proc.loop body fuel` begin:
  the value the body is given, and the state it runs from.

    • `loop_of_mem_turns` — a turn that does not go on is the last one, and the
      loop ends like it;
    • `countP_turns_le` — turns that each use up some of a rank are no more
      than the rank at the start;
    • `length_turns_le` — all turns but the last one go on;
    • `loop_ne_running` — a loop whose turns end does so, with fuel for them.
-/
import Libwebauthn.Lib.Proc

namespace Libwebauthn.Proc

variable {S ε α β : Type}

/-- Where the next turn begins, after one that goes on. -/
def next? : Outcome ε (β ⊕ α) × S → Option (β × S)
  | (.ok (.inl b), s) => some (b, s)
  | (.ok (.inr _), _) | (.error _, _) | (.running, _) => none

/-- How a loop ends whose last turn ended so. -/
def lastOutcome : Outcome ε (β ⊕ α) → Outcome ε α
  | .ok (.inr a) => .ok a
  | .error e => .error e
  | .ok (.inl _) | .running => .running

/-- Where the turns of a loop begin. -/
def turns (body : β → Proc S ε (β ⊕ α)) : (fuel : Nat) → β × S → List (β × S)
  | 0, _ => []
  | fuel + 1, t => t :: ((next? (body t.1 t.2)).map (turns body fuel)).getD []

/-- A turn that leads to another one. -/
def goesOn (body : β → Proc S ε (β ⊕ α)) (t : β × S) : Bool := (next? (body t.1 t.2)).isSome

variable {body : β → Proc S ε (β ⊕ α)}

/-! ## §1. A first turn, and the others. -/

theorem next?_eq_some {r : Outcome ε (β ⊕ α) × S} {b : β} {s : S}
    (h : next? r = some (b, s)) : r = (.ok (.inl b), s) := by
  obtain ⟨outcome, s'⟩ := r
  cases outcome with
  | ok next =>
      cases next with
      | inl b' =>
          obtain ⟨rfl, rfl⟩ := Prod.mk.inj (Option.some.inj h)
          rfl
      | inr a => cases h
  | error e => cases h
  | running => cases h

theorem goesOn_of_next {t t' : β × S} (h : next? (body t.1 t.2) = some t') :
    goesOn body t = true := by
  unfold goesOn
  rw [h]
  rfl

theorem turns_of_next {t t' : β × S} (h : next? (body t.1 t.2) = some t') (fuel : Nat) :
    turns body (fuel + 1) t = t :: turns body fuel t' := by
  show t :: ((next? (body t.1 t.2)).map (turns body fuel)).getD [] = _
  rw [h]
  rfl

theorem turns_of_last {t : β × S} (h : next? (body t.1 t.2) = none) (fuel : Nat) :
    turns body (fuel + 1) t = [t] := by
  show t :: ((next? (body t.1 t.2)).map (turns body fuel)).getD [] = _
  rw [h]
  rfl

theorem loop_of_next {t t' : β × S} (h : next? (body t.1 t.2) = some t') (fuel : Nat) :
    loop body (fuel + 1) t.1 t.2 = loop body fuel t'.1 t'.2 := by
  show (body t.1 >>= _) t.2 = _
  rw [bind_of_ok (next?_eq_some h)]

theorem loop_of_last {t : β × S} (h : next? (body t.1 t.2) = none) (fuel : Nat) :
    loop body (fuel + 1) t.1 t.2 = (lastOutcome (body t.1 t.2).1, (body t.1 t.2).2) := by
  show (body t.1 >>= _) t.2 = _
  rw [bind_apply]
  rcases hrun : body t.1 t.2 with ⟨outcome, s'⟩
  rw [hrun] at h
  cases outcome with
  | ok next =>
      cases next with
      | inl b' => cases h
      | inr a => rfl
  | error e => rfl
  | running => rfl

/-! ## §2. The last turn. -/

/-- A turn that does not go on is the last one, and the loop ends like it. -/
theorem loop_of_mem_turns {t : β × S} (hlast : next? (body t.1 t.2) = none) :
    ∀ (fuel : Nat) (start : β × S) (before rest : List (β × S)),
      turns body fuel start = before ++ t :: rest →
      rest = [] ∧ (loop body fuel start.1 start.2).1 = lastOutcome (body t.1 t.2).1 := by
  -- by induction on the fuel: a turn that is not the first is one of the rest of the loop
  intro fuel
  induction fuel with
  | zero =>
      intro start before rest hturns
      cases before <;> cases hturns
  | succ fuel ih =>
      intro start before rest hturns
      rcases hnext : next? (body start.1 start.2) with _ | t'
      · rw [turns_of_last hnext] at hturns
        cases before with
        | nil =>
            obtain ⟨rfl, hrest⟩ := List.cons.inj hturns
            refine ⟨hrest.symm, ?_⟩
            rw [loop_of_last hnext]
        | cons first before => cases before <;> cases (List.cons.inj hturns).2
      · rw [turns_of_next hnext] at hturns
        cases before with
        | nil =>
            obtain ⟨rfl, -⟩ := List.cons.inj hturns
            rw [hlast] at hnext
            cases hnext
        | cons first before =>
            rw [loop_of_next hnext]
            exact ih t' before rest (List.cons.inj hturns).2

/-! ## §3. How many turns there are. -/

/-- A rank that no turn raises, and that the turns of a kind lower: there are
no more of these than the rank the loop starts with. -/
theorem countP_turns_le (body : β → Proc S ε (β ⊕ α)) (c : β × S → Bool)
    (rank : β × S → Nat)
    (hgoes : ∀ t, c t = true → goesOn body t = true)
    (hrank : ∀ t t', next? (body t.1 t.2) = some t' → (c t).toNat + rank t' ≤ rank t) :
    ∀ (fuel : Nat) (start : β × S), (turns body fuel start).countP c ≤ rank start := by
  -- by induction on the fuel: a counted turn goes on, and pays with the rank
  intro fuel
  induction fuel with
  | zero => exact fun _ => Nat.zero_le _
  | succ fuel ih =>
      intro start
      rcases hnext : next? (body start.1 start.2) with _ | t'
      · have hnot : c start = false := by
          refine Bool.eq_false_iff.mpr fun hc => ?_
          have hgo := hgoes start hc
          unfold goesOn at hgo
          rw [hnext] at hgo
          cases hgo
        rw [turns_of_last hnext, List.countP_cons, List.countP_nil, hnot]
        exact Nat.zero_le _
      · have hspent := hrank start t' hnext
        have hrest := ih t'
        rw [turns_of_next hnext, List.countP_cons]
        cases hc : c start
        · rw [hc] at hspent
          simp only [Bool.toNat_false, Bool.false_eq_true, if_false] at *
          omega
        · rw [hc] at hspent
          simp only [Bool.toNat_true, if_true] at *
          omega

/-- All turns but the last one go on. -/
theorem length_turns_le (body : β → Proc S ε (β ⊕ α)) :
    ∀ (fuel : Nat) (start : β × S),
      (turns body fuel start).length ≤ (turns body fuel start).countP (goesOn body) + 1 := by
  intro fuel
  induction fuel with
  | zero => exact fun _ => Nat.zero_le _
  | succ fuel ih =>
      intro start
      rcases hnext : next? (body start.1 start.2) with _ | t'
      · rw [turns_of_last hnext]
        exact Nat.le_add_left _ _
      · have hgo := goesOn_of_next hnext
        have hrest := ih t'
        rw [turns_of_next hnext, List.countP_cons_of_pos hgo, List.length_cons]
        omega

/-- A loop that ran out of fuel, all of whose turns end: they all went on. -/
theorem length_turns_of_running :
    ∀ (fuel : Nat) (start : β × S),
      (∀ t ∈ turns body fuel start, (body t.1 t.2).1 ≠ .running) →
      (loop body fuel start.1 start.2).1 = .running →
      (turns body fuel start).countP (goesOn body) = fuel := by
  intro fuel
  induction fuel with
  | zero => exact fun _ _ _ => rfl
  | succ fuel ih =>
      intro start hends hrunning
      rcases hnext : next? (body start.1 start.2) with _ | t'
      · have hend := hends start (by rw [turns_of_last hnext]; exact List.mem_singleton_self _)
        rw [loop_of_last hnext] at hrunning
        rcases hrun : body start.1 start.2 with ⟨outcome, s'⟩
        rw [hrun] at hend hrunning hnext
        cases outcome with
        | ok next =>
            cases next with
            | inl b' => cases hnext
            | inr a => cases hrunning
        | error e => cases hrunning
        | running => exact absurd rfl hend
      · have hgo := goesOn_of_next hnext
        rw [turns_of_next hnext] at hends ⊢
        rw [loop_of_next hnext] at hrunning
        rw [List.countP_cons_of_pos hgo,
          ih t' (fun t ht => hends t (List.mem_cons_of_mem _ ht)) hrunning]

/-- With fuel for more turns than go on, a loop whose turns end does so. -/
theorem loop_ne_running {fuel : Nat} (start : β × S)
    (hends : ∀ t ∈ turns body fuel start, (body t.1 t.2).1 ≠ .running)
    (hfuel : (turns body fuel start).countP (goesOn body) < fuel) :
    (loop body fuel start.1 start.2).1 ≠ .running := by
  intro hrunning
  have hall := length_turns_of_running fuel start hends hrunning
  omega

end Libwebauthn.Proc
