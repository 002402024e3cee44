/-
  Libwebauthn.Lib.Lockstep — two procedures side by side.

  The rules are those of a relational Hoare logic for runs that go on or
  stop together.

    • `Lockstep I R m m'` — from states that `I` relates, both return, with
      results and states that `R` relates, or both stop in the same way, and
      `I` relates their states again;
    • `With I Q` — such an `R`: results that `Q` relates, states that `I` does;
    • `Local I m` — `m` in lockstep with itself: what it returns, and what it
      makes of the state, depends on nothing that `I` leaves open.
-/
import Libwebauthn.Lib.Proc

namespace Libwebauthn

/-- Results that are related: both values are, or the errors are equal. -/
inductive ExceptRel {ε α α' : Type} (Q : α → α' → Prop) : Except ε α → Except ε α' → Prop where
  | ok {a : α} {a' : α'} (h : Q a a') : ExceptRel Q (.ok a) (.ok a')
  | error (e : ε) : ExceptRel Q (.error e) (.error e)

namespace Proc

variable {S S' ε ε' α α' β β' : Type}

/-- Related results, in related states. -/
def With (I : S → S' → Prop) (Q : α → α' → Prop) (a : α) (s : S) (a' : α') (s' : S') : Prop :=
  Q a a' ∧ I s s'

/-- Both loops go on, or both are left. -/
inductive Together (I : S → S' → Prop) (Q : β → β' → Prop) (R : α → S → α' → S' → Prop) :
    β ⊕ α → S → β' ⊕ α' → S' → Prop where
  | on {b : β} {b' : β'} {s : S} {s' : S'} (h : Q b b') (hstate : I s s') :
      Together I Q R (.inl b) s (.inl b') s'
  | left {a : α} {a' : α'} {s : S} {s' : S'} (h : R a s a' s') :
      Together I Q R (.inr a) s (.inr a') s'

/-- Two attempts: both succeeded, or both failed with the same error. -/
inductive Tried (I : S → S' → Prop) (R : α → S → α' → S' → Prop) :
    Except ε α → S → Except ε α' → S' → Prop where
  | ok {a : α} {a' : α'} {s : S} {s' : S'} (h : R a s a' s') : Tried I R (.ok a) s (.ok a') s'
  | error (e : ε) {s : S} {s' : S'} (h : I s s') : Tried I R (.error e) s (.error e) s'

theorem Tried.mono {I : S → S' → Prop} {R R' : α → S → α' → S' → Prop} {r : Except ε α} {s : S}
    {r' : Except ε α'} {s' : S'} (h : Tried I R r s r' s')
    (hR : ∀ a t a' t', R a t a' t' → R' a t a' t') : Tried I R' r s r' s' := by
  cases h with
  | ok h => exact .ok (hR _ _ _ _ h)
  | error e h => exact .error e h

/-- The ends of two runs that went alike. -/
inductive Alike (I : S → S' → Prop) (R : α → S → α' → S' → Prop) :
    Outcome ε α × S → Outcome ε α' × S' → Prop where
  | ok {a : α} {a' : α'} {s : S} {s' : S'} (h : R a s a' s') : Alike I R (.ok a, s) (.ok a', s')
  | error {e : ε} {s : S} {s' : S'} (h : I s s') : Alike I R (.error e, s) (.error e, s')
  | running {s : S} {s' : S'} (h : I s s') : Alike I R (.running, s) (.running, s')

/-- From related states, the two runs go alike. -/
def Lockstep (I : S → S' → Prop) (R : α → S → α' → S' → Prop) (m : Proc S ε α)
    (m' : Proc S' ε α') : Prop :=
  ∀ s s', I s s' → Alike I R (m s) (m' s')

namespace Alike

variable {I : S → S' → Prop} {R : α → S → α' → S' → Prop} {Q : β → S → β' → S' → Prop}

/-- Runs that are alike are so under a wider relation. -/
theorem mono {R' : α → S → α' → S' → Prop} {x : Outcome ε α × S} {x' : Outcome ε α' × S'}
    (h : Alike I R x x') (hR : ∀ a s a' s', R a s a' s' → R' a s a' s') : Alike I R' x x' := by
  cases h with
  | ok h => exact .ok (hR _ _ _ _ h)
  | error h => exact .error h
  | running h => exact .running h

/-- What two runs do next. -/
theorem bind {m : Proc S ε α} {m' : Proc S' ε α'} {k : α → Proc S ε β} {k' : α' → Proc S' ε β'}
    {s : S} {s' : S'} (h : Alike I R (m s) (m' s'))
    (hk : ∀ a t a' t', R a t a' t' → Alike I Q (k a t) (k' a' t')) :
    Alike I Q ((m >>= k) s) ((m' >>= k') s') := by
  rw [bind_apply, bind_apply]
  generalize m s = x, m' s' = x' at h ⊢
  cases h with
  | ok h => exact hk _ _ _ _ h
  | error h => exact .error h
  | running h => exact .running h

end Alike

namespace Lockstep

variable {I : S → S' → Prop} {R : α → S → α' → S' → Prop} {P : α → α' → Prop}
  {Q : β → β' → Prop}

/-- Related results return in step. -/
theorem pure {a : α} {a' : α'} (h : ∀ s s', I s s' → R a s a' s') :
    Lockstep I R (Pure.pure a : Proc S ε α) (Pure.pure a') :=
  fun s s' hs => .ok (h s s' hs)

/-- An error of both is the same error. -/
theorem throw (e : ε) : Lockstep I R (Proc.throw e : Proc S ε α) (Proc.throw e) :=
  fun _ _ hs => .error hs

/-- **Sequences** are in step when their first parts are and their second parts
are on related results. -/
theorem bind {Q : β → S → β' → S' → Prop} {m : Proc S ε α} {m' : Proc S' ε α'}
    {k : α → Proc S ε β} {k' : α' → Proc S' ε β'} (hm : Lockstep I (With I P) m m')
    (hk : ∀ a a', P a a' → Lockstep I Q (k a) (k' a')) : Lockstep I Q (m >>= k) (m' >>= k') :=
  fun s s' hs => (hm s s' hs).bind fun a t a' t' h => hk a a' h.1 t t' h.2

/-- The states are read, and need not be the same. -/
theorem get : Lockstep I (With I fun _ _ => True) (Proc.get : Proc S ε S) Proc.get :=
  fun _ _ hs => .ok ⟨trivial, hs⟩

/-- Parts in step are in step when they are tried: both return, or both fail
alike. -/
theorem attempt {m : Proc S ε α} {m' : Proc S' ε α'} (h : Lockstep I R m m') :
    Lockstep I (Tried I R) (Proc.attempt m : Proc S ε' (Except ε α))
      (Proc.attempt m' : Proc S' ε' (Except ε α')) := by
  intro s s' hs
  have hends := h s s' hs
  unfold Proc.attempt
  generalize m s = x, m' s' = x' at hends ⊢
  cases hends with
  | ok h => exact .ok (.ok h)
  | error h => exact .ok (.error _ h)
  | running h => exact .running h

/-- Two loops whose bodies are in lockstep. -/
theorem loop {body : β → Proc S ε (β ⊕ α)} {body' : β' → Proc S' ε (β' ⊕ α')}
    (hbody : ∀ b b', Q b b' → Lockstep I (Together I Q R) (body b) (body' b')) :
    ∀ (fuel : Nat) (b : β) (b' : β'), Q b b' →
      Lockstep I R (Proc.loop body fuel b) (Proc.loop body' fuel b') := by
  intro fuel
  induction fuel with
  | zero => exact fun _ _ _ _ _ hs => .running hs
  | succ fuel ih =>
      intro b b' hb s s' hs
      refine (hbody b b' hb s s' hs).bind fun next t next' t' hnext => ?_
      cases hnext with
      | on hb' hstate => exact ih _ _ hb' t t' hstate
      | left hleft => exact .ok hleft

end Lockstep

/-- What `m` does, it does by what `I` relates. -/
def Local (I : S → S → Prop) (m : Proc S ε α) : Prop := Lockstep I (With I Eq) m m

namespace Local

variable {I : S → S → Prop}

theorem pure (a : α) : Local I (Pure.pure a : Proc S ε α) := Lockstep.pure fun _ _ hs => ⟨rfl, hs⟩

theorem throw (e : ε) : Local I (Proc.throw e : Proc S ε α) := Lockstep.throw e

/-- A step that both procedures begin with. -/
theorem before {Q : β → S → β' → S → Prop} {m : Proc S ε α} {k : α → Proc S ε β}
    {k' : α → Proc S ε β'} (hm : Local I m) (hk : ∀ a, Lockstep I Q (k a) (k' a)) :
    Lockstep I Q (m >>= k) (m >>= k') := by
  refine Lockstep.bind hm fun a a' heq => ?_
  obtain rfl := heq
  exact hk a

/-- A sequence of local parts is local. -/
theorem bind {m : Proc S ε α} {k : α → Proc S ε β} (hm : Local I m)
    (hk : ∀ a, Local I (k a)) : Local I (m >>= k) :=
  hm.before hk

theorem attempt {m : Proc S ε α} (hm : Local I m) :
    Local I (Proc.attempt m : Proc S ε' (Except ε α)) := by
  intro s s' hs
  refine (Lockstep.attempt hm s s' hs).mono fun r t r' t' h => ?_
  cases h with
  | ok h => exact ⟨congrArg Except.ok h.1, h.2⟩
  | error e h => exact ⟨rfl, h⟩

theorem mapError {m : Proc S ε α} {f : ε → ε'} (hm : Local I m) :
    Local I (Proc.mapError f m) := by
  intro s s' hs
  have hends := hm s s' hs
  unfold Proc.mapError
  generalize m s = x, m s' = x' at hends ⊢
  cases hends with
  | ok h => exact .ok h
  | error h => exact .error h
  | running h => exact .running h

theorem modify {f : S → S} (h : ∀ s s', I s s' → I (f s) (f s')) :
    Local I (Proc.modify f : Proc S ε Unit) :=
  fun s s' hs => .ok ⟨rfl, h s s' hs⟩

/-- A loop is local when its body is. -/
theorem loop {body : β → Proc S ε (β ⊕ α)} (h : ∀ b, Local I (body b)) (fuel : Nat) (b : β) :
    Local I (Proc.loop body fuel b) := by
  refine Lockstep.loop (Q := Eq) (fun b b' heq s s' hs => ?_) fuel b b rfl
  obtain rfl := heq
  refine (h b s s' hs).mono fun next t next' t' hnext => ?_
  obtain ⟨heq, hstate⟩ := hnext
  obtain rfl := heq
  cases next with
  | inl b' => exact .on rfl hstate
  | inr a => exact .left ⟨rfl, hstate⟩

end Local

end Proc

end Libwebauthn
