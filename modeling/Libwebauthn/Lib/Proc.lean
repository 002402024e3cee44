/-
  Libwebauthn.Lib.Proc — procedures over a state, and their Hoare rules.

  A procedure runs from a state to an outcome and a state: it returns, it
  fails, or it is still `running` when the fuel of one of its loops is used
  up.  The state reached is there in every case, so that what a run did is
  visible however it ends.

    • `Triple P m Q E` — from `P`, `m` returns with `Q` or else stops with `E`;
    • `Advances r m`, `Keeps f m` — where `m` moves the state, and what it leaves;
    • `Ends m`, `Total m` — `m` does not run out of fuel, and it returns.
-/
import Mathlib.Data.List.Basic
import Mathlib.Order.RelClasses

namespace Libwebauthn

/-- A sequence of results that is no error: both parts are none. -/
theorem except_bind_eq_ok_iff {ε α β : Type} {r : Except ε α} {f : α → Except ε β} {b : β} :
    (r >>= f) = .ok b ↔ ∃ a, r = .ok a ∧ f a = .ok b := by
  cases r with
  | error e => simp [bind, Except.bind]
  | ok a => simp [bind, Except.bind]

/-- How a run ends. -/
inductive Outcome (ε α : Type) where
  | ok (a : α)
  | error (e : ε)
  /-- Out of fuel. -/
  | running
  deriving Repr, DecidableEq

/-- Another result, where there is one. -/
def Outcome.map {ε α β : Type} (f : α → β) : Outcome ε α → Outcome ε β
  | .ok a => .ok (f a)
  | .error e => .error e
  | .running => .running

/-- A procedure with states `S`, errors `ε` and results `α`. -/
def Proc (S ε α : Type) : Type := S → Outcome ε α × S

namespace Proc

variable {S ε ε' α β γ : Type}

/-! ## §1. Constructs. -/

def bind (m : Proc S ε α) (f : α → Proc S ε β) : Proc S ε β := fun s =>
  match m s with
  | (.ok a, s') => f a s'
  | (.error e, s') => (.error e, s')
  | (.running, s') => (.running, s')

instance : Monad (Proc S ε) where
  pure a := fun s => (.ok a, s)
  bind := bind

def throw (e : ε) : Proc S ε α := fun s => (.error e, s)

def get : Proc S ε S := fun s => (.ok s, s)

def modify (f : S → S) : Proc S ε Unit := fun s => (.ok (), f s)

/-- A result as a step of the procedure: the `?` operator. -/
def ofExcept : Except ε α → Proc S ε α
  | .ok a => pure a
  | .error e => throw e

/-- Run `m` and go on with its result, error or not. -/
def attempt (m : Proc S ε α) : Proc S ε' (Except ε α) := fun s =>
  match m s with
  | (.ok a, s') => (.ok (.ok a), s')
  | (.error e, s') => (.ok (.error e), s')
  | (.running, s') => (.running, s')

/-- `map_err`. -/
def mapError (f : ε → ε') (m : Proc S ε α) : Proc S ε' α := fun s =>
  match m s with
  | (.ok a, s') => (.ok a, s')
  | (.error e, s') => (.error (f e), s')
  | (.running, s') => (.running, s')

/-- `loop { … }`: the body continues with `inl` and breaks with `inr`. -/
def loop (body : β → Proc S ε (β ⊕ α)) : (fuel : Nat) → β → Proc S ε α
  | 0, _ => fun s => (.running, s)
  | fuel + 1, b => do
      match ← body b with
      | .inl b' => loop body fuel b'
      | .inr a => pure a

/-! ## §2. Runs. -/

@[simp] theorem pure_apply (a : α) (s : S) : (pure a : Proc S ε α) s = (.ok a, s) := rfl

/-- A sequence, by what its first part returns. -/
theorem bind_apply (m : Proc S ε α) (f : α → Proc S ε β) (s : S) :
    (m >>= f) s = match m s with
      | (.ok a, s') => f a s'
      | (.error e, s') => (.error e, s')
      | (.running, s') => (.running, s') := rfl

/-- Past a part that returned, the run is that of the rest. -/
theorem bind_of_ok {m : Proc S ε α} {s s' : S} {a : α} (h : m s = (.ok a, s'))
    (f : α → Proc S ε β) : (m >>= f) s = f a s' := by
  rw [bind_apply, h]

/-- An error ends the run where it is thrown. -/
theorem bind_of_error {m : Proc S ε α} {s s' : S} {e : ε} (h : m s = (.error e, s'))
    (f : α → Proc S ε β) : (m >>= f) s = (.error e, s') := by
  rw [bind_apply, h]

/-- A sequence that returned: both parts did. -/
theorem bind_eq_ok_iff {m : Proc S ε α} {f : α → Proc S ε β} {s s'' : S} {b : β} :
    (m >>= f) s = (.ok b, s'') ↔ ∃ a s', m s = (.ok a, s') ∧ f a s' = (.ok b, s'') := by
  rw [bind_apply]
  rcases h : m s with ⟨outcome, s'⟩
  cases outcome with
  | ok a =>
      constructor
      · exact fun hf => ⟨a, s', rfl, hf⟩
      · rintro ⟨a', t, heq, hf⟩
        obtain ⟨ha, rfl⟩ := Prod.mk.inj heq
        obtain rfl := Outcome.ok.inj ha
        exact hf
  | error e => simp
  | running => simp

/-- A sequence whose first part does not return ends there. -/
theorem bind_of_not_ok {m : Proc S ε α} {f : α → Proc S ε β} {s : S}
    (h : ∀ a, (m s).1 ≠ .ok a) :
    ((m >>= f) s).2 = (m s).2 ∧ ∀ e, ((m >>= f) s).1 = .error e ↔ (m s).1 = .error e := by
  rw [bind_apply]
  rcases hm : m s with ⟨outcome, s'⟩
  rw [hm] at h
  cases outcome with
  | ok a => exact absurd rfl (h a)
  | error e => exact ⟨rfl, fun e' => by simp⟩
  | running => exact ⟨rfl, fun e' => by simp⟩

/-- A result that is there already returns without a step. -/
theorem ofExcept_eq_ok_iff {r : Except ε α} {s s' : S} {a : α} :
    ofExcept r s = (.ok a, s') ↔ r = .ok a ∧ s = s' := by
  cases r with
  | error e => simp [ofExcept, throw]
  | ok b => simp [ofExcept]

@[simp] theorem ofExcept_state (r : Except ε α) (s : S) :
    (ofExcept r s : Outcome ε α × S).2 = s := by
  cases r <;> rfl

instance : LawfulMonad (Proc S ε) := LawfulMonad.mk' (Proc S ε)
  (by
    intro α m
    funext s
    show bind m _ s = m s
    unfold bind
    rcases m s with ⟨outcome, s'⟩
    cases outcome <;> rfl)
  (by
    intro α β a f
    rfl)
  (by
    intro α β γ m f g
    funext s
    show bind (bind m f) g s = bind m (fun a => bind (f a) g) s
    unfold bind
    rcases m s with ⟨outcome, s'⟩
    cases outcome <;> rfl)

/-! ## §3. Hoare triples. -/

/-- From `P`, the procedure returns with `Q`, or stops otherwise with `E`. -/
def Triple (P : S → Prop) (m : Proc S ε α) (Q : α → S → Prop) (E : S → Prop) : Prop :=
  ∀ s, P s →
    match m s with
    | (.ok a, s') => Q a s'
    | (.error _, s') => E s'
    | (.running, s') => E s'

namespace Triple

variable {P P' : S → Prop} {Q Q' : α → S → Prop} {E E' : S → Prop}

/-- What a triple says about a run that returned. -/
theorem ok {m : Proc S ε α} (h : Triple P m Q E) {s s' : S} {a : α} (hs : P s)
    (hrun : m s = (.ok a, s')) : Q a s' := by
  have := h s hs
  rwa [hrun] at this

/-- What a triple says about a run that did not. -/
theorem stopped {m : Proc S ε α} (h : Triple P m Q E) {s : S} (hs : P s)
    (hstopped : ∀ a, (m s).1 ≠ .ok a) : E (m s).2 := by
  have := h s hs
  rcases hrun : m s with ⟨outcome, s'⟩
  rw [hrun] at this hstopped
  cases outcome with
  | ok a => exact absurd rfl (hstopped a)
  | error e => exact this
  | running => exact this

/-- What a triple says about the state reached, however the run ended. -/
theorem state {m : Proc S ε α} (h : Triple P m (fun _ => E) E) {s : S} (hs : P s) :
    E (m s).2 := by
  have := h s hs
  rcases hrun : m s with ⟨outcome, s'⟩
  rw [hrun] at this
  cases outcome <;> exact this

/-- Rule of consequence. -/
theorem conseq {m : Proc S ε α} (h : Triple P m Q E) (hP : ∀ s, P' s → P s)
    (hQ : ∀ a s, Q a s → Q' a s) (hE : ∀ s, E s → E' s) : Triple P' m Q' E' := by
  intro s hs
  have := h s (hP s hs)
  rcases hrun : m s with ⟨outcome, s'⟩
  rw [hrun] at this
  cases outcome with
  | ok a => exact hQ a s' this
  | error e => exact hE s' this
  | running => exact hE s' this

/-- A stronger precondition will do. -/
theorem pre {m : Proc S ε α} (h : Triple P m Q E) (hP : ∀ s, P' s → P s) : Triple P' m Q E :=
  h.conseq hP (fun _ _ => id) (fun _ => id)

/-- A weaker postcondition will do. -/
theorem post {m : Proc S ε α} (h : Triple P m Q E) (hQ : ∀ a s, Q a s → Q' a s) :
    Triple P m Q' E :=
  h.conseq (fun _ => id) hQ (fun _ => id)

theorem trivial (P : S → Prop) (m : Proc S ε α) :
    Triple P m (fun _ _ => True) fun _ => True := by
  intro s _
  rcases m s with ⟨outcome, s'⟩
  cases outcome <;> exact True.intro

/-- A precondition that does not depend on the state. -/
theorem of_fact {p : Prop} {m : Proc S ε α} (h : p → Triple P m Q E) :
    Triple (fun s => p ∧ P s) m Q E :=
  fun s hs => h hs.1 s hs.2

/-- Two triples of one procedure. -/
theorem and {m : Proc S ε α} (h : Triple P m Q E) (h' : Triple P' m Q' E') :
    Triple (fun s => P s ∧ P' s) m (fun a s => Q a s ∧ Q' a s) (fun s => E s ∧ E' s) := by
  intro s hs
  have hleft := h s hs.1
  have hright := h' s hs.2
  rcases hrun : m s with ⟨outcome, s'⟩
  rw [hrun] at hleft hright
  cases outcome <;> exact ⟨hleft, hright⟩

/-- What holds of a run that returned, from one triple, and of any other run,
from another. -/
theorem and_error {m : Proc S ε α} (h : Triple P m Q fun _ => True)
    (herror : Triple P m Q' E) : Triple P m Q E := by
  intro s hs
  have hpost := h s hs
  have hstop := herror s hs
  rcases hrun : m s with ⟨outcome, s'⟩
  rw [hrun] at hpost hstop
  cases outcome with
  | ok a => exact hpost
  | error e => exact hstop
  | running => exact hstop

/-- The value of a component at the start may be given a name. -/
theorem named (f : S → β) {m : Proc S ε α} (h : ∀ b, Triple (fun s => f s = b ∧ P s) m Q E) :
    Triple P m Q E :=
  fun s hs => h (f s) s ⟨rfl, hs⟩

theorem pure {a : α} (h : ∀ s, P s → Q a s) : Triple P (Pure.pure a : Proc S ε α) Q E :=
  fun s hs => h s hs

/-- An error has to meet the exit condition, and nothing else. -/
theorem throw {e : ε} (h : ∀ s, P s → E s) : Triple P (Proc.throw e : Proc S ε α) Q E :=
  fun s hs => h s hs

/-- The state that is written has to meet the postcondition. -/
theorem modify {f : S → S} {Q : Unit → S → Prop} (h : ∀ s, P s → Q () (f s)) :
    Triple P (Proc.modify f : Proc S ε Unit) Q E :=
  fun s hs => h s hs

theorem ofExcept {r : Except ε α} (hok : ∀ a, r = .ok a → ∀ s, P s → Q a s)
    (herror : ∀ s, P s → E s) : Triple P (Proc.ofExcept r) Q E := by
  cases r with
  | ok a => exact Triple.pure (hok a rfl)
  | error e => exact Triple.throw herror

/-- Sequencing. -/
theorem bind {m : Proc S ε α} {f : α → Proc S ε β} {Q : β → S → Prop} (R : α → S → Prop)
    (hm : Triple P m R E) (hf : ∀ a, Triple (R a) (f a) Q E) : Triple P (m >>= f) Q E := by
  intro s hs
  have hmid := hm s hs
  rw [bind_apply]
  rcases hrun : m s with ⟨outcome, s'⟩
  rw [hrun] at hmid
  cases outcome with
  | ok a => exact hf a s' hmid
  | error e => exact hmid
  | running => exact hmid

/-- The exit condition does not look at the error. -/
theorem mapError {m : Proc S ε α} {f : ε → ε'} (h : Triple P m Q E) :
    Triple P (Proc.mapError f m) Q E := by
  intro s hs
  have := h s hs
  unfold Proc.mapError
  rcases hrun : m s with ⟨outcome, s'⟩
  rw [hrun] at this
  cases outcome <;> exact this

/-- Loop rule: `I b` holds whenever the body starts from `b`. -/
theorem loop {body : β → Proc S ε (β ⊕ α)} (I : β → S → Prop)
    (hbody : ∀ b, Triple (I b) (body b)
      (fun next s => match next with
        | .inl b' => I b' s
        | .inr a => Q a s) E)
    (hfuel : ∀ b s, I b s → E s) :
    ∀ (fuel : Nat) (b : β), Triple (I b) (Proc.loop body fuel b) Q E := by
  intro fuel
  induction fuel with
  | zero => exact fun b s hs => hfuel b s hs
  | succ fuel ih =>
      intro b
      refine Triple.bind _ (hbody b) fun next => ?_
      cases next with
      | inl b' => exact ih b'
      | inr a => exact Triple.pure fun s hs => hs

end Triple

/-! ## §4. What every run does to the state. -/

/-- However a run of `m` ends, it takes the state to one that `r` relates it
to. -/
def Advances (r : S → S → Prop) (m : Proc S ε α) : Prop := ∀ s, r s (m s).2

namespace Advances

variable {r r' : S → S → Prop} {m : Proc S ε α}

/-- A relation may be widened. -/
theorem mono (h : Advances r m) (hr : ∀ s s', r s s' → r' s s') : Advances r' m :=
  fun s => hr s _ (h s)

theorem modify {g : S → S} (h : ∀ s, r s (g s)) : Advances r (Proc.modify g : Proc S ε Unit) := h

/-- Trying a part moves the state as the part does, whatever comes of it. -/
theorem attempt (hm : Advances r m) :
    Advances r (Proc.attempt m : Proc S ε' (Except ε α)) := by
  intro s
  have hmid := hm s
  unfold Proc.attempt
  rcases hrun : m s with ⟨outcome, s'⟩
  rw [hrun] at hmid
  cases outcome <;> exact hmid

theorem mapError {g : ε → ε'} (hm : Advances r m) : Advances r (Proc.mapError g m) := by
  intro s
  have hmid := hm s
  unfold Proc.mapError
  rcases hrun : m s with ⟨outcome, s'⟩
  rw [hrun] at hmid
  cases outcome <;> exact hmid

/-- A first part that always returns is followed by the second. -/
theorem bind_returned {m : Proc S ε α} {k : α → Proc S ε β}
    (h : ∀ s, ∃ a s', m s = (.ok a, s') ∧ r s (k a s').2) : Advances r (m >>= k) := by
  intro s
  obtain ⟨a, s', hm, hr⟩ := h s
  rw [bind_of_ok hm]
  exact hr

/-- What `r` carries along holds wherever the run stops. -/
theorem triple (h : Advances r m) {P : S → Prop} (hP : ∀ s s', r s s' → P s → P s') :
    Triple P m (fun _ => P) P := by
  intro s hs
  have hafter : P (m s).2 := hP s _ (h s) hs
  rcases hrun : m s with ⟨outcome, s'⟩
  rw [hrun] at hafter
  cases outcome <;> exact hafter

variable [IsPreorder S r]

theorem pure (a : α) : Advances r (Pure.pure a : Proc S ε α) := fun s => refl_of r s

theorem throw (e : ε) : Advances r (Proc.throw e : Proc S ε α) := fun s => refl_of r s

theorem get : Advances r (Proc.get : Proc S ε S) := fun s => refl_of r s

theorem ofExcept (result : Except ε α) : Advances r (Proc.ofExcept result : Proc S ε α) := by
  cases result <;> exact fun s => refl_of r s

/-- Both parts move along a transitive relation, and so does the whole. -/
theorem bind {k : α → Proc S ε β} (hm : Advances r m) (hk : ∀ a, Advances r (k a)) :
    Advances r (m >>= k) := by
  intro s
  have hmid := hm s
  rw [bind_apply]
  rcases hrun : m s with ⟨outcome, s'⟩
  rw [hrun] at hmid
  cases outcome with
  | ok a => exact trans_of r hmid (hk a s')
  | error e => exact hmid
  | running => exact hmid

/-- The second part may count on what the first one returns. -/
theorem bind_returning {k : α → Proc S ε β} {P : S → Prop} {Q : α → Prop} {E : S → Prop}
    (hm : Advances r m) (hP : ∀ s, P s) (hreturns : Triple P m (fun a _ => Q a) E)
    (hk : ∀ a, Q a → Advances r (k a)) : Advances r (m >>= k) := by
  intro s
  have hmid := hm s
  have hresult := hreturns s (hP s)
  rw [bind_apply]
  rcases hrun : m s with ⟨outcome, s'⟩
  rw [hrun] at hmid hresult
  cases outcome with
  | ok a => exact trans_of r hmid (hk a hresult s')
  | error e => exact hmid
  | running => exact hmid

/-- By induction on the fuel, a loop moves as its turns do. -/
theorem loop {body : β → Proc S ε (β ⊕ α)} (h : ∀ b, Advances r (body b)) :
    ∀ (fuel : Nat) (b : β), Advances r (Proc.loop body fuel b) := by
  intro fuel
  induction fuel with
  | zero => exact fun _ s => refl_of r s
  | succ fuel ih =>
      intro b
      refine bind (h b) fun next => ?_
      cases next with
      | inl b' => exact ih b'
      | inr a => exact pure a

end Advances

/-! ## §5. Frame conditions. -/

/-- `m` leaves the component `f` of the state as it was. -/
def Keeps (f : S → γ) (m : Proc S ε α) : Prop := ∀ s, f (m s).2 = f s

/-- States with the same component `f`. -/
def SameAt (f : S → γ) (s s' : S) : Prop := f s' = f s

instance (f : S → γ) : IsPreorder S (SameAt f) where
  refl _ := rfl
  trans _ _ _ h h' := h'.trans h

namespace Keeps

variable {f : S → γ}

theorem pure (a : α) : Keeps f (Pure.pure a : Proc S ε α) := fun _ => rfl

theorem throw (e : ε) : Keeps f (Proc.throw e : Proc S ε α) := fun _ => rfl

theorem get : Keeps f (Proc.get : Proc S ε S) := fun _ => rfl

theorem modify {g : S → S} (h : ∀ s, f (g s) = f s) : Keeps f (Proc.modify g : Proc S ε Unit) :=
  h

theorem ofExcept (r : Except ε α) : Keeps f (Proc.ofExcept r : Proc S ε α) :=
  Advances.ofExcept (r := SameAt f) r

/-- What both parts keep is kept. -/
theorem bind {m : Proc S ε α} {k : α → Proc S ε β} (hm : Keeps f m) (hk : ∀ a, Keeps f (k a)) :
    Keeps f (m >>= k) :=
  Advances.bind (r := SameAt f) hm hk

/-- A part that is tried keeps what it keeps. -/
theorem attempt {m : Proc S ε α} (hm : Keeps f m) :
    Keeps f (Proc.attempt m : Proc S ε' (Except ε α)) :=
  Advances.attempt (r := SameAt f) hm

theorem mapError {m : Proc S ε α} {g : ε → ε'} (hm : Keeps f m) :
    Keeps f (Proc.mapError g m) :=
  Advances.mapError (r := SameAt f) hm

/-- A loop keeps what each of its turns keeps. -/
theorem loop {body : β → Proc S ε (β ⊕ α)} (h : ∀ b, Keeps f (body b)) :
    ∀ (fuel : Nat) (b : β), Keeps f (Proc.loop body fuel b) :=
  Advances.loop (r := SameAt f) h

/-- What is kept from there on is as the first part left it. -/
theorem after {m : Proc S ε α} {k : α → Proc S ε β} (hk : ∀ a, Keeps f (k a)) (s : S) :
    f ((m >>= k) s).2 = f (m s).2 := by
  rw [bind_apply]
  rcases m s with ⟨outcome, s'⟩
  cases outcome with
  | ok a => exact hk a s'
  | error e => rfl
  | running => rfl

/-- A kept component may be fixed throughout a triple. -/
theorem triple {m : Proc S ε α} (h : Keeps f m) (P : γ → Prop) :
    Triple (fun s => P (f s)) m (fun _ s => P (f s)) (fun s => P (f s)) :=
  Advances.triple (r := SameAt f) h fun _ _ hsame hs => (congrArg P hsame).mpr hs

/-- A function of a kept component is kept. -/
theorem map {δ : Type} {m : Proc S ε α} (h : Keeps f m) (g : γ → δ) :
    Keeps (fun s => g (f s)) m :=
  fun s => congrArg g (h s)

/-- A kept component may be added to a triple that says nothing of runs
that did not return. -/
theorem frame {m : Proc S ε α} {P : S → Prop} {Q : α → S → Prop} (h : Keeps f m)
    (htriple : Triple P m Q fun _ => True) (K : γ → Prop) :
    Triple (fun s => P s ∧ K (f s)) m (fun a s => Q a s ∧ K (f s)) (fun s => K (f s)) := by
  intro s hs
  have hpost := htriple s hs.1
  have hkept := h.triple K s hs.2
  rcases hrun : m s with ⟨outcome, s'⟩
  rw [hrun] at hpost hkept
  cases outcome with
  | ok a => exact ⟨hpost, hkept⟩
  | error e => exact hkept
  | running => exact hkept

end Keeps

/-! ## §6. Termination. -/

/-- No loop of `m` runs out of fuel. -/
def Ends (m : Proc S ε α) : Prop := ∀ s, (m s).1 ≠ .running

/-- `m` returns. -/
def Total (m : Proc S ε α) : Prop := ∀ s, ∃ a s', m s = (.ok a, s')

namespace Ends

theorem pure (a : α) : Ends (Pure.pure a : Proc S ε α) := fun _ h => by cases h

theorem throw (e : ε) : Ends (Proc.throw e : Proc S ε α) := fun _ h => by cases h

theorem ofExcept (r : Except ε α) : Ends (Proc.ofExcept r : Proc S ε α) := by
  cases r with
  | ok a => exact pure a
  | error e => exact throw e

/-- A run whose first part ends, before a second one that always does. -/
theorem bind_at {m : Proc S ε α} {k : α → Proc S ε β} {s : S} (hm : (m s).1 ≠ .running)
    (hk : ∀ a, Ends (k a)) : ((m >>= k) s).1 ≠ .running := by
  rw [bind_apply]
  rcases h : m s with ⟨outcome, s'⟩
  rw [h] at hm
  cases outcome with
  | ok a => exact hk a s'
  | error e => exact fun h => by cases h
  | running => exact absurd rfl hm

/-- A run that ends, followed by one that does. -/
theorem bind {m : Proc S ε α} {k : α → Proc S ε β} (hm : Ends m) (hk : ∀ a, Ends (k a)) :
    Ends (m >>= k) :=
  fun s => bind_at (hm s) hk

/-- A part that is tried ends when the part does. -/
theorem attempt {m : Proc S ε α} (hm : Ends m) :
    Ends (Proc.attempt m : Proc S ε' (Except ε α)) := by
  intro s
  unfold Proc.attempt
  have hrun := hm s
  rcases h : m s with ⟨outcome, s'⟩
  rw [h] at hrun
  cases outcome with
  | ok a => exact fun h => by cases h
  | error e => exact fun h => by cases h
  | running => exact absurd rfl hrun

theorem mapError {m : Proc S ε α} {g : ε → ε'} (hm : Ends m) : Ends (Proc.mapError g m) := by
  intro s
  unfold Proc.mapError
  have hrun := hm s
  rcases h : m s with ⟨outcome, s'⟩
  rw [h] at hrun
  cases outcome with
  | ok a => exact fun h => by cases h
  | error e => exact fun h => by cases h
  | running => exact absurd rfl hrun

/-- A loop that gets closer to its end at every turn, with fuel enough. -/
theorem loop {body : β → Proc S ε (β ⊕ α)} (distance : β → Nat) (hbody : ∀ b, Ends (body b))
    (hcloser : ∀ b s b' s', body b s = (.ok (.inl b'), s') → distance b' < distance b) :
    ∀ fuel b, distance b < fuel → Ends (Proc.loop body fuel b) := by
  intro fuel
  induction fuel with
  | zero => intro b hfuel; omega
  | succ fuel ih =>
      intro b hfuel s
      show ((body b >>= _) s).1 ≠ _
      rw [bind_apply]
      have hrun := hbody b s
      rcases h : body b s with ⟨outcome, s'⟩
      rw [h] at hrun
      cases outcome with
      | ok next =>
          cases next with
          | inl b' =>
              have := hcloser b s b' s' h
              exact ih b' (by omega) s'
          | inr a => exact fun h => by cases h
      | error e => exact fun h => by cases h
      | running => exact absurd rfl hrun

end Ends

namespace Total

theorem pure (a : α) : Total (Pure.pure a : Proc S ε α) := fun s => ⟨a, s, rfl⟩

/-- A run that returns, followed by one that does. -/
theorem bind {m : Proc S ε α} {k : α → Proc S ε β} (hm : Total m) (hk : ∀ a, Total (k a)) :
    Total (m >>= k) := by
  intro s
  obtain ⟨a, s', h⟩ := hm s
  rw [bind_of_ok h]
  exact hk a s'

/-- With errors as results, whatever ends returns. -/
theorem attempt {m : Proc S ε α} (hm : Ends m) :
    Total (Proc.attempt m : Proc S ε' (Except ε α)) := by
  intro s
  unfold Proc.attempt
  have hrun := hm s
  rcases h : m s with ⟨outcome, s'⟩
  rw [h] at hrun
  cases outcome with
  | ok a => exact ⟨_, _, rfl⟩
  | error e => exact ⟨_, _, rfl⟩
  | running => exact absurd rfl hrun

end Total

end Proc

end Libwebauthn
