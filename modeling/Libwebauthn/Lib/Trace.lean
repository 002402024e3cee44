/-
  Libwebauthn.Lib.Trace — the events a run leaves behind.

  A `Record` says which events lead from one state to another, and
  `Leaves record m Φ` that every run of a procedure `m`, however it ends,
  leaves events that `Φ` allows for its outcome.  A `Monitor` reads events one
  by one, and `Follows` is a system that takes part in them.
-/
import Libwebauthn.Lib.Proc

namespace Libwebauthn

/-! ## §1. Monitors. -/

/-- Reads events one by one: what it knows after an event, and which events it
lets pass. -/
structure Monitor (V E : Type) where
  next : V → E → V
  allows : V → E → Prop

namespace Monitor

variable {V E : Type} (M : Monitor V E)

/-- What the monitor knows after all of the events. -/
def after (v : V) (events : List E) : V := events.foldl M.next v

def Accepts : V → List E → Prop
  | _, [] => True
  | v, e :: events => M.allows v e ∧ Accepts (M.next v e) events

variable {M}

theorem accepts_append {v : V} {xs ys : List E} :
    M.Accepts v (xs ++ ys) ↔ M.Accepts v xs ∧ M.Accepts (M.after v xs) ys := by
  induction xs generalizing v with
  | nil => exact (iff_of_eq (true_and _)).symm
  | cons x xs ih =>
      show M.allows v x ∧ M.Accepts (M.next v x) (xs ++ ys) ↔ _
      rw [ih, ← and_assoc]
      rfl

/-- Every event passes, with what is known by then. -/
theorem accepts_iff {v : V} {events : List E} :
    M.Accepts v events ↔ ∀ before e rest, events = before ++ e :: rest →
      M.allows (M.after v before) e := by
  constructor
  · rintro h before e rest rfl
    exact (accepts_append.mp h).2.1
  · intro h
    induction events generalizing v with
    | nil => trivial
    | cons x xs ih =>
        refine ⟨h [] x xs rfl, ih fun before e rest heq => ?_⟩
        exact h (x :: before) e rest (congrArg (x :: ·) heq)

end Monitor

/-! ## §2. Systems that take part in the events. -/

/-- A system whose state a `step` changes with every event. -/
inductive Follows {D E : Type} (step : D → E → D → Prop) : D → List E → D → Prop where
  | nil (d : D) : Follows step d [] d
  | cons {d d' d'' : D} {e : E} {events : List E} (first : step d e d')
      (rest : Follows step d' events d'') : Follows step d (e :: events) d''

namespace Follows

variable {D E : Type} {step : D → E → D → Prop}

theorem append_iff {d d'' : D} {xs ys : List E} :
    Follows step d (xs ++ ys) d'' ↔ ∃ d', Follows step d xs d' ∧ Follows step d' ys d'' := by
  induction xs generalizing d with
  | nil =>
      constructor
      · exact fun h => ⟨d, .nil d, h⟩
      · rintro ⟨_, h, h'⟩
        cases h
        exact h'
  | cons x xs ih =>
      constructor
      · intro h
        cases h with
        | cons first rest =>
            obtain ⟨d', hxs, hys⟩ := ih.mp rest
            exact ⟨d', .cons first hxs, hys⟩
      · rintro ⟨d', h, hys⟩
        cases h with
        | cons first rest => exact .cons first (ih.mpr ⟨d', rest, hys⟩)

theorem singleton_iff {d d' : D} {e : E} : Follows step d [e] d' ↔ step d e d' := by
  constructor
  · intro h
    cases h with
    | cons first rest =>
        cases rest
        exact first
  · exact fun h => .cons h (.nil d')

/-- **Invariants** of a system over events of a kind. -/
theorem invariant {P : E → Prop} {Inv : D → Prop}
    (hstep : ∀ d e d', P e → step d e d' → Inv d → Inv d') {events : List E} {d d' : D}
    (h : Follows step d events d') (hevents : ∀ e ∈ events, P e) (hd : Inv d) : Inv d' := by
  induction h with
  | nil => exact hd
  | cons first rest ih =>
      rw [List.forall_mem_cons] at hevents
      exact ih hevents.2 (hstep _ _ _ hevents.1 first hd)

/-- **Invariants** of a system and of the monitor that lets its events pass. -/
theorem obeying {V : Type} {M : Monitor V E} {Inv : V → D → Prop}
    (hstep : ∀ v d e d', M.allows v e → step d e d' → Inv v d → Inv (M.next v e) d')
    {events : List E} {v : V} {d d' : D} (h : Follows step d events d')
    (haccepts : M.Accepts v events) (hd : Inv v d) : Inv (M.after v events) d' := by
  induction h generalizing v with
  | nil => exact hd
  | cons first rest ih => exact ih haccepts.2 (hstep _ _ _ _ haccepts.1 first hd)

end Follows

/-! ## §3. Records of events. -/

/-- Which events lead from a state to another. -/
structure Record (S E : Type) where
  grows : S → S → List E → Prop
  refl : ∀ s, grows s s []
  trans : ∀ {s s' s'' xs ys}, grows s s' xs → grows s' s'' ys → grows s s'' (xs ++ ys)

namespace Proc

variable {S E ε ε' α β : Type} {record : Record S E}

/-- However a run of `m` ends, it leaves events that `Φ` allows. -/
def Leaves (record : Record S E) (m : Proc S ε α) (Φ : Outcome ε α → List E → Prop) : Prop :=
  ∀ s, ∃ events, record.grows s (m s).2 events ∧ Φ (m s).1 events

/-- `Φ` of what a sequence leaves, for its second part: the first one has
returned, and left `xs`. -/
abbrev afterwards (Φ : Outcome ε α → List E → Prop) (xs : List E) :
    Outcome ε α → List E → Prop :=
  fun outcome ys => Φ outcome (xs ++ ys)

/-- What a turn of a loop leaves, after `xs`: `I` for the next turn, or else
`Φ`. -/
def TurnLeaves (I : β → List E → Prop) (Φ : Outcome ε α → List E → Prop) (xs : List E) :
    Outcome ε (β ⊕ α) → List E → Prop
  | .ok (.inl b), ys => I b (xs ++ ys)
  | .ok (.inr a), ys => Φ (.ok a) (xs ++ ys)
  | .error e, ys => Φ (.error e) (xs ++ ys)
  | .running, ys => Φ .running (xs ++ ys)

/-- One property of the events, however the turn ends. -/
theorem TurnLeaves.of_events {P : List E → Prop} {xs ys : List E}
    (outcome : Outcome ε (β ⊕ α)) (h : P (xs ++ ys)) :
    TurnLeaves (fun _ => P) (fun _ => P) xs outcome ys := by
  cases outcome with
  | ok next => cases next <;> exact h
  | error e => exact h
  | running => exact h

/-- The events of a turn, in two parts. -/
theorem TurnLeaves.after_part {I : β → List E → Prop} {Φ : Outcome ε α → List E → Prop}
    {xs ys zs : List E} {outcome : Outcome ε (β ⊕ α)} (h : TurnLeaves I Φ (xs ++ ys) outcome zs) :
    TurnLeaves I Φ xs outcome (ys ++ zs) := by
  have hassoc := List.append_assoc xs ys zs
  cases outcome with
  | ok next =>
      cases next with
      | inl b =>
          show I b (xs ++ (ys ++ zs))
          rw [← hassoc]
          exact h
      | inr a =>
          show Φ (.ok a) (xs ++ (ys ++ zs))
          rw [← hassoc]
          exact h
  | error e =>
      show Φ (.error e) (xs ++ (ys ++ zs))
      rw [← hassoc]
      exact h
  | running =>
      show Φ .running (xs ++ (ys ++ zs))
      rw [← hassoc]
      exact h

namespace Leaves

variable {Φ Ψ : Outcome ε α → List E → Prop}

theorem mono {m : Proc S ε α} (h : Leaves record m Ψ)
    (himp : ∀ outcome events, Ψ outcome events → Φ outcome events) : Leaves record m Φ :=
  fun s => (h s).imp fun _ hevents => ⟨hevents.1, himp _ _ hevents.2⟩

/-- A run that does not run out of fuel. -/
theorem ending {m : Proc S ε α} (h : Leaves record m Ψ) (hends : Ends m) :
    Leaves record m fun outcome events => Ψ outcome events ∧ outcome ≠ .running := by
  intro s
  obtain ⟨events, hgrows, hevents⟩ := h s
  exact ⟨events, hgrows, hevents, hends s⟩

/-- What is known of the result besides. -/
theorem returning {m : Proc S ε α} {Q : α → Prop} (h : Leaves record m Ψ)
    (hreturns : ∀ s a s', m s = (.ok a, s') → Q a) :
    Leaves record m fun outcome events => Ψ outcome events ∧ ∀ a, outcome = .ok a → Q a := by
  intro s
  obtain ⟨events, hgrows, hevents⟩ := h s
  exact ⟨events, hgrows, hevents, fun a ha => hreturns s a (m s).2 (Prod.ext ha rfl)⟩

theorem pure {a : α} (h : Φ (.ok a) []) : Leaves record (Pure.pure a : Proc S ε α) Φ :=
  fun s => ⟨[], record.refl s, h⟩

theorem throw {e : ε} (h : Φ (.error e) []) : Leaves record (Proc.throw e : Proc S ε α) Φ :=
  fun s => ⟨[], record.refl s, h⟩

/-- A result taken with its error. -/
theorem attempt {m : Proc S ε α} {Φ : Outcome ε' (Except ε α) → List E → Prop}
    (hm : Leaves record m Ψ) (hok : ∀ a xs, Ψ (.ok a) xs → Φ (.ok (.ok a)) xs)
    (herror : ∀ e xs, Ψ (.error e) xs → Φ (.ok (.error e)) xs)
    (hrunning : ∀ xs, Ψ .running xs → Φ .running xs) :
    Leaves record (Proc.attempt m : Proc S ε' (Except ε α)) Φ := by
  intro s
  obtain ⟨xs, hgrows, hxs⟩ := hm s
  unfold Proc.attempt
  rcases hrun : m s with ⟨outcome, s'⟩
  rw [hrun] at hgrows hxs
  cases outcome with
  | ok a => exact ⟨xs, hgrows, hok a xs hxs⟩
  | error e => exact ⟨xs, hgrows, herror e xs hxs⟩
  | running => exact ⟨xs, hgrows, hrunning xs hxs⟩

/-- Sequencing. -/
theorem bind {m : Proc S ε α} {k : α → Proc S ε β} {Φ : Outcome ε β → List E → Prop}
    (hm : Leaves record m Ψ)
    (hok : ∀ a xs, Ψ (.ok a) xs → Leaves record (k a) (afterwards Φ xs))
    (herror : ∀ e xs, Ψ (.error e) xs → Φ (.error e) xs)
    (hrunning : ∀ xs, Ψ .running xs → Φ .running xs) : Leaves record (m >>= k) Φ := by
  intro s
  obtain ⟨xs, hgrows, hxs⟩ := hm s
  rw [bind_apply]
  rcases hrun : m s with ⟨outcome, s'⟩
  rw [hrun] at hgrows hxs
  cases outcome with
  | ok a =>
      obtain ⟨ys, hgrows', hys⟩ := hok a xs hxs s'
      exact ⟨xs ++ ys, record.trans hgrows hgrows', hys⟩
  | error e => exact ⟨xs, hgrows, herror e xs hxs⟩
  | running => exact ⟨xs, hgrows, hrunning xs hxs⟩

/-- Loop rule: `I n b xs` holds whenever the body starts from `b`, with fuel
for `n` turns and after the events `xs`. -/
theorem loop {body : β → Proc S ε (β ⊕ α)} (I : Nat → β → List E → Prop)
    (hbody : ∀ n b xs, I (n + 1) b xs → Leaves record (body b) (TurnLeaves (I n) Φ xs))
    (hfuel : ∀ b xs, I 0 b xs → Φ .running xs) :
    ∀ (n : Nat) (b : β) (xs : List E), I n b xs →
      Leaves record (Proc.loop body n b) (afterwards Φ xs) := by
  intro n
  induction n with
  | zero =>
      intro b xs hb s
      refine ⟨[], record.refl s, ?_⟩
      show Φ .running (xs ++ [])
      -- the loop records nothing when its fuel is spent
      rw [List.append_nil]
      exact hfuel b xs hb
  | succ n ih =>
      intro b xs hb
      refine bind (hbody n b xs hb) (fun next ys hnext => ?_) (fun _ _ h => h) (fun _ h => h)
      cases next with
      -- another turn: what it recorded comes before what the rest of the loop records
      | inl b' =>
          refine (ih b' (xs ++ ys) hnext).mono fun outcome zs h => ?_
          show Φ outcome (xs ++ (ys ++ zs))
          rw [← List.append_assoc]
          exact h
      | inr a =>
          refine pure ?_
          show Φ (.ok a) (xs ++ (ys ++ []))
          rw [List.append_nil]
          exact hnext

end Leaves

end Proc

end Libwebauthn
