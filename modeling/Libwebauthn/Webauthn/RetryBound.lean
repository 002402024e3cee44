/-
  Libwebauthn.Webauthn.RetryBound — how often the retry loops send their command
  (`handle_errors!` in `src/webauthn.rs`, and its loops).

  A loop goes on after a rejected token that was stored, on the channel or in
  the persistent store.  Neither kind is met a second time: the channel's data
  is cleared, and a rejected persistent token is marked on the request.
-/
import Libwebauthn.Lib.Turns
import Libwebauthn.Webauthn.Operations

namespace Libwebauthn

open Ctap2UserVerifiableRequest

variable {σ T R A : Type}

/-! ## §1. Tries. -/

/-- A command that a retry loop sent: the token it was sent with, and the answer. -/
structure Try (T A : Type) where
  used : UsedPinUvAuthToken
  answer : Except (WebAuthnError T) A

namespace Try

/-- Rejected while using a persistent token. -/
def rejectedPersistent (t : Try T A) : Bool :=
  match t.used, t.answer with
  | .fromPersistentStorage _, .error (.ctap .pinAuthInvalid) => true
  | _, _ => false

/-- Rejected while using the token of the channel. -/
def rejectedCached (t : Try T A) : Bool :=
  match t.used, t.answer with
  | .fromEphemeralStorage, .error (.ctap .pinAuthInvalid) => true
  | _, _ => false

def rejected (t : Try T A) : Bool := t.rejectedPersistent || t.rejectedCached

theorem of_rejectedPersistent {t : Try T A} (h : t.rejectedPersistent = true) :
    ∃ id, t.used = .fromPersistentStorage id ∧ t.answer = .error (.ctap .pinAuthInvalid) := by
  unfold rejectedPersistent at h
  split at h
  next id hused hanswer => exact ⟨id, hused, hanswer⟩
  next => cases h

theorem of_rejectedCached {t : Try T A} (h : t.rejectedCached = true) :
    t.used = .fromEphemeralStorage ∧ t.answer = .error (.ctap .pinAuthInvalid) := by
  unfold rejectedCached at h
  split at h
  next hused hanswer => exact ⟨hused, hanswer⟩
  next => cases h

/-- No token is of both kinds. -/
theorem not_rejected_both {t : Try T A} (hpersistent : t.rejectedPersistent = true)
    (hcached : t.rejectedCached = true) : False := by
  obtain ⟨id, hused, -⟩ := of_rejectedPersistent hpersistent
  rw [(of_rejectedCached hcached).1] at hused
  cases hused

/-- The answer as the result of a loop. -/
def outcome (t : Try T A) : Outcome (WebAuthnError T) A :=
  match t.answer with
  | .ok a => .ok a
  | .error e => .error e

end Try

/-- At most three tries, of which one at most was rejected with a persistent
token and one at most with the channel's; any other try is the last one, and
its answer is the result. -/
structure RetriesBounded (tries : List (Try T A)) (outcome : Outcome (WebAuthnError T) A) :
    Prop where
  atMostThree : tries.length ≤ 3
  persistent : tries.countP Try.rejectedPersistent ≤ 1
  cached : tries.countP Try.rejectedCached ≤ 1
  result : ∀ before t rest, tries = before ++ t :: rest → t.rejected = false →
    rest = [] ∧ outcome = t.outcome

namespace Platform

variable (p : Platform σ T)

/-! ## §2. The turns of a loop. -/

/-- A turn: an attempt, and what `handle_errors!` makes of its answer. -/
def retryTurn (attempt : R → Ctap σ T (R × Try T A)) (next : UsedPinUvAuthToken → R → R)
    (entry : R) : Ctap σ T (R ⊕ A) := do
  let (request, t) ← attempt entry
  match ← p.handleErrors t.used t.answer with
  | none => pure (.inl (next t.used request))
  | some response => pure (.inr response)

/-- What is sent in a turn that begins there; `none` when the turn stops before. -/
def tryAt (attempt : R → Ctap σ T (R × Try T A)) (start : R × World σ T) : Option (Try T A) :=
  match (attempt start.1 start.2).1 with
  | .ok (_, t) => some t
  | .error _ | .running => none

/-- The tries of the turns that begin there. -/
def tries (attempt : R → Ctap σ T (R × Try T A)) (turns : List (R × World σ T)) :
    List (Try T A) :=
  turns.filterMap (tryAt attempt)

theorem tryAt_eq_some {attempt : R → Ctap σ T (R × Try T A)} {start : R × World σ T}
    {t : Try T A} (h : tryAt attempt start = some t) :
    ∃ request w, attempt start.1 start.2 = (.ok (request, t), w) := by
  unfold tryAt at h
  rcases hrun : attempt start.1 start.2 with ⟨outcome, w⟩
  rw [hrun] at h
  cases outcome with
  | ok result => exact ⟨result.1, w, by rw [← Option.some.inj h]⟩
  | error e => cases h
  | running => cases h

/-- The rejected token of the channel is cleared. -/
theorem handleErrors_rejectedCached {t : Try T A} (h : t.rejectedCached = true)
    (w : World σ T) :
    p.handleErrors t.used t.answer w
      = (.ok none, { w with session := { w.session with authData := none } }) := by
  obtain ⟨hused, hanswer⟩ := Try.of_rejectedCached h
  rw [hused, hanswer]
  rfl

/-- After a rejected persistent token the session is as it was. -/
theorem handleErrors_rejectedPersistent {t : Try T A} (h : t.rejectedPersistent = true)
    (w : World σ T) :
    ∃ w', p.handleErrors t.used t.answer w = (.ok none, w') ∧ w'.session = w.session := by
  obtain ⟨id, hused, hanswer⟩ := Try.of_rejectedPersistent h
  rw [hused, hanswer]
  show ∃ w', (p.evictPersistentToken id >>= fun _ => _) w = _ ∧ _
  unfold evictPersistentToken
  split
  · exact ⟨_, rfl, rfl⟩
  · exact ⟨_, rfl, rfl⟩

/-- Any other answer is the result. -/
theorem handleErrors_other {t : Try T A} (h : t.rejected = false) (w : World σ T) :
    (∃ a w', t.answer = .ok a ∧ p.handleErrors t.used t.answer w = (.ok (some a), w'))
      ∨ ∃ e w', t.answer = .error e ∧ p.handleErrors t.used t.answer w = (.error e, w') := by
  obtain ⟨used, answer⟩ := t
  show (∃ a w', answer = .ok a ∧ p.handleErrors used answer w = _)
    ∨ ∃ e w', answer = .error e ∧ p.handleErrors used answer w = _
  unfold handleErrors
  split
  · exact Or.inl ⟨_, _, rfl, rfl⟩
  · cases h
  · cases h
  · -- the retries are read, and reported
    have hsoftly : Proc.Total (softly (p.ctap2ClientPin .newGetUvRetries) (·.uvRetries)) := by
      refine Proc.Total.bind (Proc.Total.attempt (Ctap.ends_command _ _)) fun answer => ?_
      cases answer <;> exact Proc.Total.pure _
    obtain ⟨attemptsLeft, w', hretries⟩ := hsoftly w
    exact Or.inr ⟨_, (p.sendUxUpdate (.uvRetry attemptsLeft) w').2, rfl,
      Proc.bind_of_ok hretries _⟩
  · exact Or.inr ⟨_, _, rfl, rfl⟩

theorem ends_handleErrors (uvAuthUsed : UsedPinUvAuthToken)
    (answer : Except (WebAuthnError T) A) : Proc.Ends (p.handleErrors uvAuthUsed answer) := by
  intro w
  cases hrejected : Try.rejected ⟨uvAuthUsed, answer⟩
  · rcases p.handleErrors_other hrejected w with ⟨a, w', -, hrun⟩ | ⟨e, w', -, hrun⟩
    · rw [hrun]
      exact fun h => by cases h
    · rw [hrun]
      exact fun h => by cases h
  · rcases Bool.or_eq_true _ _ ▸ hrejected with hpersistent | hcached
    · obtain ⟨w', hrun, -⟩ := p.handleErrors_rejectedPersistent hpersistent w
      rw [hrun]
      exact fun h => by cases h
    · rw [p.handleErrors_rejectedCached hcached w]
      exact fun h => by cases h

/-- A rejected try leads to another turn, from the session as it was but for
the channel's data when its token was the rejected one. -/
theorem retryTurn_rejected {attempt : R → Ctap σ T (R × Try T A)}
    (next : UsedPinUvAuthToken → R → R) {start : R × World σ T} {request : R} {t : Try T A}
    {w : World σ T} (hattempt : attempt start.1 start.2 = (.ok (request, t), w))
    (hrejected : t.rejected = true) :
    ∃ w', Proc.next? (p.retryTurn attempt next start.1 start.2) = some (next t.used request, w')
      ∧ (t.rejectedPersistent = true → w'.session = w.session)
      ∧ (t.rejectedCached = true → w'.session.authData = none) := by
  have hrun : ∀ w', p.handleErrors t.used t.answer w = (.ok none, w') →
      Proc.next? (p.retryTurn attempt next start.1 start.2)
        = some (next t.used request, w') := by
    intro w' hhandled
    unfold retryTurn
    rw [Proc.bind_of_ok hattempt]
    show Proc.next? ((p.handleErrors t.used t.answer >>= _) w) = _
    rw [Proc.bind_of_ok hhandled]
    rfl
  rcases Bool.or_eq_true _ _ ▸ hrejected with hpersistent | hcached
  · obtain ⟨w', hhandled, hsession⟩ := p.handleErrors_rejectedPersistent hpersistent w
    exact ⟨w', hrun w' hhandled, fun _ => hsession,
      fun hcached => (Try.not_rejected_both hpersistent hcached).elim⟩
  · exact ⟨_, hrun _ (p.handleErrors_rejectedCached hcached w),
      fun hpersistent => (Try.not_rejected_both hpersistent hcached).elim, fun _ => rfl⟩

/-- Any other try is the last one. -/
theorem retryTurn_other {attempt : R → Ctap σ T (R × Try T A)}
    (next : UsedPinUvAuthToken → R → R) {start : R × World σ T} {request : R} {t : Try T A}
    {w : World σ T} (hattempt : attempt start.1 start.2 = (.ok (request, t), w))
    (hother : t.rejected = false) :
    Proc.next? (p.retryTurn attempt next start.1 start.2) = none
      ∧ Proc.lastOutcome (p.retryTurn attempt next start.1 start.2).1 = t.outcome := by
  unfold retryTurn Try.outcome
  rw [Proc.bind_of_ok hattempt]
  rcases p.handleErrors_other hother w with ⟨a, w', hanswer, hhandled⟩ | ⟨e, w', hanswer, hhandled⟩
  · rw [hanswer]
    show Proc.next? ((p.handleErrors t.used t.answer >>= _) w) = _
      ∧ Proc.lastOutcome ((p.handleErrors t.used t.answer >>= _) w).1 = _
    rw [Proc.bind_of_ok hhandled]
    exact ⟨rfl, rfl⟩
  · rw [hanswer]
    show Proc.next? ((p.handleErrors t.used t.answer >>= _) w) = _
      ∧ Proc.lastOutcome ((p.handleErrors t.used t.answer >>= _) w).1 = _
    rw [Proc.bind_apply, hhandled]
    exact ⟨rfl, rfl⟩

/-- A turn that stops before its command does not lead to another one. -/
theorem retryTurn_none {attempt : R → Ctap σ T (R × Try T A)}
    {next : UsedPinUvAuthToken → R → R} {start : R × World σ T}
    (h : tryAt attempt start = none) :
    Proc.next? (p.retryTurn attempt next start.1 start.2) = none := by
  unfold tryAt at h
  unfold retryTurn
  rw [Proc.bind_apply]
  rcases hattempt : attempt start.1 start.2 with ⟨outcome, w⟩
  rw [hattempt] at h
  cases outcome with
  | ok result => cases h
  | error e => rfl
  | running => rfl

/-- A turn goes on when its try was rejected. -/
theorem goesOn_retryTurn (attempt : R → Ctap σ T (R × Try T A))
    (next : UsedPinUvAuthToken → R → R) (start : R × World σ T) :
    Proc.goesOn (p.retryTurn attempt next) start
      = ((tryAt attempt start).map Try.rejected).getD false := by
  unfold Proc.goesOn
  rcases hat : tryAt attempt start with _ | t
  · rw [p.retryTurn_none hat]
    rfl
  · obtain ⟨request, w, hattempt⟩ := tryAt_eq_some hat
    cases hrejected : t.rejected
    · rw [(p.retryTurn_other next hattempt hrejected).1]
      exact hrejected.symm
    · obtain ⟨w', hnext, -⟩ := p.retryTurn_rejected next hattempt hrejected
      rw [hnext]
      exact hrejected.symm

end Platform

/-! ## §3. What the turns use up. -/

/-- What a loop's attempts rest on: a persistent token is used only while the
request has one left, and is not marked as rejected for nothing; the channel's
token is used only while there is one. -/
structure Spends (attempt : R → Ctap σ T (R × Try T A)) (next : UsedPinUvAuthToken → R → R)
    (left : R → Nat) : Prop where
  left_le : ∀ request, left request ≤ 1
  kept : ∀ {entry w request t w'}, attempt entry w = (.ok (request, t), w') →
    left (next t.used request) ≤ left entry
  persistent : ∀ {entry w request t w'}, attempt entry w = (.ok (request, t), w') →
    t.rejectedPersistent = true →
      left (next t.used request) < left entry ∧ w'.session.authData = w.session.authData
  cached : ∀ {entry w request t w'}, attempt entry w = (.ok (request, t), w') →
    t.rejectedCached = true → w.session.authData ≠ none

/-- Whether the channel has data, as a number. -/
def World.cachedLeft (w : World σ T) : Nat := if w.session.authData = none then 0 else 1

namespace Spends

open Platform

variable {p : Platform σ T} {attempt : R → Ctap σ T (R × Try T A)}
  {next : UsedPinUvAuthToken → R → R} {left : R → Nat}

/-- The attempt of a turn that goes on. -/
theorem of_next {t t' : R × World σ T}
    (h : Proc.next? (p.retryTurn attempt next t.1 t.2) = some t') :
    ∃ request tried w, attempt t.1 t.2 = (.ok (request, tried), w)
      ∧ tryAt attempt t = some tried ∧ tried.rejected = true ∧ t'.1 = next tried.used request
      ∧ (tried.rejectedPersistent = true → t'.2.session = w.session)
      ∧ (tried.rejectedCached = true → t'.2.session.authData = none) := by
  rcases hat : tryAt attempt t with _ | tried
  · rw [p.retryTurn_none hat] at h
    cases h
  · obtain ⟨request, w, hattempt⟩ := tryAt_eq_some hat
    cases hrejected : tried.rejected
    · rw [(p.retryTurn_other next hattempt hrejected).1] at h
      cases h
    · obtain ⟨w', hnext, hsession, hcleared⟩ :=
        p.retryTurn_rejected next hattempt hrejected
      obtain rfl := Option.some.inj (hnext.symm.trans h)
      exact ⟨request, tried, w, hattempt, rfl, hrejected, rfl, hsession, hcleared⟩

/-- At most one try is rejected with a persistent token. -/
theorem countP_persistent (h : Spends attempt next left) (fuel : Nat) (start : R × World σ T) :
    (tries attempt (Proc.turns (p.retryTurn attempt next) fuel start)).countP
      Try.rejectedPersistent ≤ 1 := by
  have hturns := Proc.countP_turns_le (p.retryTurn attempt next)
    (fun t => ((tryAt attempt t).map Try.rejectedPersistent).getD false) (fun t => left t.1)
    ?_ ?_ fuel start
  · rw [tries, List.countP_filterMap]
    exact hturns.trans (h.left_le _)
  · intro t ht
    rw [p.goesOn_retryTurn]
    cases hat : tryAt attempt t with
    | none => rw [hat] at ht; cases ht
    | some tried =>
        rw [hat] at ht
        exact Bool.or_eq_true _ _ ▸ Or.inl ht
  · intro t t' hnext
    obtain ⟨request, tried, w, hattempt, hat, -, hrequest, -, -⟩ := of_next hnext
    rw [hat, hrequest]
    show tried.rejectedPersistent.toNat + _ ≤ _
    cases hpersistent : tried.rejectedPersistent
    -- nothing was rejected: what is left to reject can only shrink
    · have hkept := h.kept hattempt
      show 0 + _ ≤ _
      omega
    · have hless := (h.persistent hattempt hpersistent).1
      show 1 + _ ≤ _
      omega

/-- At most one try is rejected with the channel's token. -/
theorem countP_cached (h : Spends attempt next left) (fuel : Nat) (start : R × World σ T) :
    (tries attempt (Proc.turns (p.retryTurn attempt next) fuel start)).countP
      Try.rejectedCached ≤ 1 := by
  -- each rejection of the channel's token clears it, and nothing puts it back before the
  -- next turn
  have hturns := Proc.countP_turns_le (p.retryTurn attempt next)
    (fun t => ((tryAt attempt t).map Try.rejectedCached).getD false) (fun t => t.2.cachedLeft)
    ?_ ?_ fuel start
  · have hone : start.2.cachedLeft ≤ 1 := by
      unfold World.cachedLeft
      split <;> omega
    rw [tries, List.countP_filterMap]
    exact hturns.trans hone
  · intro t ht
    rw [p.goesOn_retryTurn]
    cases hat : tryAt attempt t with
    | none => rw [hat] at ht; cases ht
    | some tried =>
        rw [hat] at ht
        exact Bool.or_eq_true _ _ ▸ Or.inr ht
  · intro t t' hnext
    obtain ⟨request, tried, w, hattempt, hat, hrejected, -, hsession, hcleared⟩ := of_next hnext
    rw [hat]
    show tried.rejectedCached.toNat + _ ≤ _
    cases hcached : tried.rejectedCached
    · -- then a persistent token was, and the channel's data is as it was
      have hpersistent : tried.rejectedPersistent = true := by
        have hone := Bool.or_eq_true _ _ ▸ hrejected
        rw [hcached] at hone
        exact hone.elim id fun h => (by cases h)
      have hsame : t'.2.session.authData = t.2.session.authData := by
        rw [hsession hpersistent, (h.persistent hattempt hpersistent).2]
      unfold World.cachedLeft
      rw [hsame]
      exact Nat.le_of_eq (Nat.zero_add _)
    · have hsome := h.cached hattempt hcached
      unfold World.cachedLeft
      rw [if_pos (hcleared hcached), if_neg hsome]
      exact Nat.le_refl 1

/-- At most two turns go on. -/
theorem countP_goesOn (h : Spends attempt next left) (fuel : Nat) (start : R × World σ T) :
    (Proc.turns (p.retryTurn attempt next) fuel start).countP
      (Proc.goesOn (p.retryTurn attempt next)) ≤ 2 := by
  have hpersistent := h.countP_persistent (p := p) fuel start
  have hcached := h.countP_cached (p := p) fuel start
  -- each turn that goes on spends one of the two rejections
  have hsum : ∀ turns : List (R × World σ T),
      turns.countP (Proc.goesOn (p.retryTurn attempt next))
        ≤ (tries attempt turns).countP Try.rejectedPersistent
          + (tries attempt turns).countP Try.rejectedCached := by
    intro turns
    rw [tries, List.countP_filterMap, List.countP_filterMap]
    induction turns with
    | nil => exact Nat.zero_le _
    | cons t turns ih =>
        rw [List.countP_cons, List.countP_cons, List.countP_cons, p.goesOn_retryTurn]
        cases tryAt attempt t with
        | none => exact ih
        | some tried =>
            show _ + (if (tried.rejectedPersistent || tried.rejectedCached) = true then 1 else 0)
              ≤ _ + (if tried.rejectedPersistent = true then 1 else 0)
                + (_ + if tried.rejectedCached = true then 1 else 0)
            cases tried.rejectedPersistent <;> cases tried.rejectedCached <;>
              simp only [Bool.or_false, Bool.or_true, Bool.false_eq_true, if_true, if_false] <;>
              omega
  have := hsum (Proc.turns (p.retryTurn attempt next) fuel start)
  omega

theorem retriesBounded (h : Spends attempt next left) (fuel : Nat) (request : R)
    (w : World σ T) :
    RetriesBounded (tries attempt (Proc.turns (p.retryTurn attempt next) fuel (request, w)))
      (Proc.loop (p.retryTurn attempt next) fuel request w).1 where
  atMostThree := by
    have hgoesOn := h.countP_goesOn (p := p) fuel (request, w)
    have hturns := Proc.length_turns_le (p.retryTurn attempt next) fuel (request, w)
    have htries := List.length_filterMap_le (tryAt attempt)
      (Proc.turns (p.retryTurn attempt next) fuel (request, w))
    unfold tries
    omega
  persistent := h.countP_persistent fuel (request, w)
  cached := h.countP_cached fuel (request, w)
  result before t rest hsplit hother := by
    obtain ⟨turns, later, hturns, -, hlater⟩ := List.filterMap_eq_append_iff.mp hsplit
    obtain ⟨silent, start, others, rfl, -, hat, hrest⟩ := List.filterMap_eq_cons_iff.mp hlater
    obtain ⟨request, w, hattempt⟩ := tryAt_eq_some hat
    obtain ⟨hlast, houtcome⟩ := p.retryTurn_other next hattempt hother
    rw [← List.append_assoc] at hturns
    obtain ⟨rfl, hresult⟩ := Proc.loop_of_mem_turns hlast fuel _ _ _ hturns
    exact ⟨hrest.symm, hresult.trans houtcome⟩

/-- With three turns' fuel, and attempts that end, the loop does. -/
theorem loop_ne_running (h : Spends attempt next left) {fuel : Nat} (hfuel : 3 ≤ fuel)
    {request : R} {w : World σ T}
    (hends : ∀ t ∈ Proc.turns (p.retryTurn attempt next) fuel (request, w),
      (attempt t.1 t.2).1 ≠ .running) :
    (Proc.loop (p.retryTurn attempt next) fuel request w).1 ≠ .running := by
  refine Proc.loop_ne_running (request, w) (fun t ht => ?_) ?_
  · refine Proc.Ends.bind_at (hends t ht) fun result => ?_
    refine Proc.Ends.bind (p.ends_handleErrors _ _) fun handled => ?_
    cases handled with
    | none => exact Proc.Ends.pure _
    | some response => exact Proc.Ends.pure _
  · have := h.countP_goesOn (p := p) fuel (request, w)
    omega

end Spends

/-! ## §4. User verifications. -/

namespace Platform

variable [Ctap2UserVerifiableRequest R] (p : Platform σ T)

/-- A user verification that made use of the channel's token found one there. -/
theorem authData_of_fromEphemeralStorage {fuel : Nat}
    {requirement : UserVerificationRequirement} {entry verified : R} {w w' : World σ T}
    (h : p.userVerification fuel requirement entry w
      = (.ok (.fromEphemeralStorage, verified), w')) :
    w.session.authData ≠ none := by
  obtain ⟨info, turns, authData, -, -, houtcome⟩ :=
    (p.userVerification_spec fuel requirement entry w).ok rfl h
  intro hnone
  rw [hnone] at houtcome
  cases houtcome with
  | ephemeral htoken => cases htoken

/-- One that made use of a persistent token left the channel's data alone. -/
theorem authData_of_fromPersistentStorage {fuel : Nat}
    {requirement : UserVerificationRequirement} {entry verified : R}
    {id : PersistentTokenRecordId} {w w' : World σ T}
    (h : p.userVerification fuel requirement entry w
      = (.ok (.fromPersistentStorage id, verified), w')) :
    w'.session.authData = w.session.authData
      ∧ ∃ info, wantsPersistentToken (p.prepareRequest info entry) = true := by
  obtain ⟨info, turns, authData, -, hsession, houtcome⟩ :=
    (p.userVerification_spec fuel requirement entry w).ok rfl h
  rw [hsession]
  cases houtcome with
  | persistent hwants => exact ⟨rfl, info, hwants⟩

/-- The helper never hands out a stored token. -/
theorem userVerificationHelper_ne_persistent (fuel : Nat) (info : Ctap2GetInfoResponse)
    (requirement : UserVerificationRequirement) (request : R) (id : PersistentTokenRecordId) :
    Returns (fun _ => True) (p.userVerificationHelper fuel info requirement request)
      fun result _ => result.1 ≠ .fromPersistentStorage id := by
  refine Proc.Triple.bind _ (Proc.Triple.trivial _ _) fun info' => ?_
  split
  · exact Proc.Triple.pure fun _ _ h => by cases h
  · refine Proc.Triple.bind _ (Proc.Triple.trivial _ _) fun result => ?_
    obtain ⟨state, exit⟩ := result
    cases exit with
    | legacyUv => exact Proc.Triple.pure fun _ _ h => by cases h
    | negotiated uvProto sharedSecret publicKey uvOperation tokenResponse =>
        show Returns _ (if uvOperation.mintsToken = true then _ else _) _
        split
        · refine Proc.Triple.bind _ (Proc.Triple.trivial _ _) fun token => ?_
          refine Proc.Triple.bind _ (Proc.Triple.trivial _ _) fun _ => ?_
          refine Proc.Triple.bind _ (Proc.Triple.trivial _ _) fun request => ?_
          exact Proc.Triple.pure fun _ _ h => by cases h
        · refine Proc.Triple.bind _ (Proc.Triple.trivial _ _) fun _ => ?_
          refine Proc.Triple.pure fun _ _ h => ?_
          split at h <;> cases h

/-- A persistent token is used only for a request not marked as rejected. -/
theorem not_rejected_of_fromPersistentStorage {fuel : Nat}
    {requirement : UserVerificationRequirement} {entry verified : R}
    {id : PersistentTokenRecordId} {w w' : World σ T}
    (h : p.userVerification fuel requirement entry w
      = (.ok (.fromPersistentStorage id, verified), w')) :
    ∃ info, persistentTokenRejected (p.prepareRequest info entry) = false := by
  obtain ⟨info, w₁, -, h⟩ := Proc.bind_eq_ok_iff.mp h
  obtain ⟨record, w₂, hrecord, h⟩ := Proc.bind_eq_ok_iff.mp h
  refine ⟨info, ?_⟩
  cases record with
  -- a stored record is reused only where the device has not rejected it before
  | some record =>
      unfold reusablePersistentToken at hrecord
      split at hrecord
      next hreuse =>
        rw [Bool.and_eq_true, Bool.and_eq_true, Bool.not_eq_true'] at hreuse
        exact hreuse.1.2
      next => cases hrecord
  | none =>
      obtain ⟨token, w₃, -, h⟩ := Proc.bind_eq_ok_iff.mp h
      cases token with
      | some token =>
          obtain ⟨request, w₄, -, h⟩ := Proc.bind_eq_ok_iff.mp h
          cases h
      | none =>
          -- the negotiation itself never reports a stored record
          exact absurd rfl
            ((p.userVerificationHelper_ne_persistent fuel info requirement _ id).ok trivial h)

/-- What the parts of a user verification keep of a request, the whole does. -/
theorem userVerification_keeps {β : Type} (f : R → β)
    (hlegacy : ∀ (r : R) info, f (handleLegacyPreview r info) = f r)
    (huse : ∀ (r : R) info store, f (setPersistentTokenUse r info store) = f r)
    (hset : ∀ r : R, f (ensureUvSet r) = f r)
    (hauth : ∀ (r r' : R) protocol token,
      calculateAndSetUvAuth p.crypto r protocol token = .ok r' → f r' = f r)
    {fuel : Nat} {requirement : UserVerificationRequirement} {entry verified : R}
    {used : UsedPinUvAuthToken} {w w' : World σ T}
    (h : p.userVerification fuel requirement entry w = (.ok (used, verified), w')) :
    f verified = f entry := by
  obtain ⟨info, turns, authData, -, -, houtcome⟩ :=
    (p.userVerification_spec fuel requirement entry w).ok rfl h
  have hprepare : f (p.prepareRequest info entry) = f entry := (huse _ _ _).trans (hlegacy _ _)
  rw [← hprepare]
  cases houtcome with
  | persistent _ hcalculated => exact hauth _ _ _ _ hcalculated
  | ephemeral _ hcalculated => exact hauth _ _ _ _ hcalculated
  | skipped => rfl
  | legacy => exact hset _
  | sharedSecret => rfl
  | minted _ _ _ _ hcalculated => exact hauth _ _ _ _ hcalculated

/-! ## §5. The ceremonies. -/

section

variable {ceremony : Ceremony σ T R A}

/-- A turn of `retryLoop` up to the answer. -/
def ceremonyAttempt (ceremony : Ceremony σ T R A) (fuel : Nat) (entry : R) :
    Ctap σ T (R × Try T A) := do
  let start ← Proc.get
  let (uvAuthUsed, request) ← p.userVerification fuel ceremony.requirement entry
  let reached ← Proc.get
  let authData ← Ctap.getAuthData
  let request ← p.applyHmac ceremony authData request
  p.promptForTouch uvAuthUsed
  let answer ← Proc.attempt (ceremony.send request)
  Ctap.modifyLog (ceremony.log
    [⟨entry, uvAuthUsed, authData, request, answer, p.verification start reached⟩])
  pure (request, ⟨uvAuthUsed, answer⟩)

theorem attemptTurn_eq (ceremony : Ceremony σ T R A) (fuel : Nat) :
    p.attemptTurn ceremony fuel
      = p.retryTurn (p.ceremonyAttempt ceremony fuel) fun _ request => request := by
  funext entry
  unfold retryTurn ceremonyAttempt
  simp only [bind_assoc, pure_bind]
  rfl

/-- An attempt made the verification whose token it used, and keeps its data. -/
theorem of_ceremonyAttempt (hlawful : ceremony.Lawful) {fuel : Nat} {entry request : R}
    {t : Try T A} {w w' : World σ T}
    (h : p.ceremonyAttempt ceremony fuel entry w = (.ok (request, t), w')) :
    ∃ verified w₁, p.userVerification fuel ceremony.requirement entry w
        = (.ok (t.used, verified), w₁)
      ∧ w'.session.authData = w₁.session.authData := by
  obtain ⟨start, w₀, hstart, h⟩ := Proc.bind_eq_ok_iff.mp h
  obtain ⟨-, rfl⟩ := Prod.mk.inj hstart
  obtain ⟨⟨used, verified⟩, w₁, hverified, h⟩ := Proc.bind_eq_ok_iff.mp h
  obtain ⟨reached, w₁', hreached, h⟩ := Proc.bind_eq_ok_iff.mp h
  obtain ⟨-, rfl⟩ := Prod.mk.inj hreached
  obtain ⟨authData, w₂, hget, h⟩ := Proc.bind_eq_ok_iff.mp h
  obtain ⟨-, rfl⟩ := Prod.mk.inj hget
  obtain ⟨sent, w₃, hmac, h⟩ := Proc.bind_eq_ok_iff.mp h
  obtain ⟨_, w₄, hprompt, h⟩ := Proc.bind_eq_ok_iff.mp h
  obtain ⟨answer, w₅, hsend, h⟩ := Proc.bind_eq_ok_iff.mp h
  obtain ⟨_, w₆, hlog, h⟩ := Proc.bind_eq_ok_iff.mp h
  obtain ⟨-, rfl⟩ := Prod.mk.inj hlog
  obtain ⟨hresult, rfl⟩ := Prod.mk.inj h
  obtain ⟨-, rfl⟩ := Prod.mk.inj (Outcome.ok.inj hresult)
  -- after the verification nothing touches the channel's data
  have hsent : (p.applyHmac ceremony authData verified w₁).2.session = w₁.session :=
    (p.dialogue_applyHmac authData verified).keeps_session w₁
  have hprompted := (p.dialogue_promptForTouch used).keeps_session w₃
  have hanswered :
      (Proc.attempt (ceremony.send sent) w₄ : Outcome (WebAuthnError T) _ × _).2.session
        = w₄.session :=
    Proc.Keeps.attempt (hlawful.send sent) w₄
  rw [hmac] at hsent
  rw [hprompt] at hprompted
  rw [hsend] at hanswered
  refine ⟨verified, w₁, hverified, ?_⟩
  show w₅.session.authData = _
  rw [hanswered, hprompted, hsent]

/-- A request that never wants a persistent token is never sent with one. -/
theorem not_rejectedPersistent (hwants : ∀ r : R, wantsPersistentToken r = false) {fuel : Nat}
    {requirement : UserVerificationRequirement} {entry verified : R} {t : Try T A}
    {w w' : World σ T}
    (h : p.userVerification fuel requirement entry w = (.ok (t.used, verified), w')) :
    t.rejectedPersistent = false := by
  refine Bool.eq_false_iff.mpr fun hrejected => ?_
  obtain ⟨id, hused, -⟩ := Try.of_rejectedPersistent hrejected
  rw [hused] at h
  obtain ⟨-, info, hwanted⟩ := p.authData_of_fromPersistentStorage h
  rw [hwants] at hwanted
  cases hwanted

theorem authData_of_rejectedCached {fuel : Nat} {requirement : UserVerificationRequirement}
    {entry verified : R} {t : Try T A} {w w' : World σ T} (hcached : t.rejectedCached = true)
    (h : p.userVerification fuel requirement entry w = (.ok (t.used, verified), w')) :
    w.session.authData ≠ none := by
  rw [(Try.of_rejectedCached hcached).1] at h
  exact p.authData_of_fromEphemeralStorage h

theorem spends_ceremonyAttempt (hlawful : ceremony.Lawful)
    (hwants : ∀ r : R, wantsPersistentToken r = false) (fuel : Nat) :
    Spends (p.ceremonyAttempt ceremony fuel) (fun _ request => request) fun _ => 0 where
  left_le _ := Nat.zero_le 1
  kept _ := Nat.le_refl 0
  persistent h hpersistent := by
    obtain ⟨verified, w₁, hverified, -⟩ := p.of_ceremonyAttempt hlawful h
    rw [p.not_rejectedPersistent hwants hverified] at hpersistent
    cases hpersistent
  cached h hcached := by
    obtain ⟨verified, w₁, hverified, -⟩ := p.of_ceremonyAttempt hlawful h
    exact p.authData_of_rejectedCached hcached hverified

end

/-! ## §6. The management operations. -/

section

variable {management : Management σ T R A}

/-- A turn of `managementLoop` up to the answer. -/
def managementAttempt (management : Management σ T R A) (fuel : Nat) (entry : R) :
    Ctap σ T (R × Try T A) := do
  let (uvAuthUsed, request) ← p.userVerification fuel management.requirement entry
  Proc.ofExcept (management.check request)
  let answer ← Proc.attempt (management.send request)
  pure (request, ⟨uvAuthUsed, answer⟩)

theorem managementTurn_eq (management : Management σ T R A) (fuel : Nat) :
    p.managementTurn management fuel
      = p.retryTurn (p.managementAttempt management fuel) management.retried := by
  funext entry
  unfold retryTurn managementAttempt
  simp only [bind_assoc, pure_bind]
  rfl

theorem of_managementAttempt (hquiet : ∀ request, Ctap.Quiet (management.send request))
    {fuel : Nat} {entry request : R} {t : Try T A} {w w' : World σ T}
    (h : p.managementAttempt management fuel entry w = (.ok (request, t), w')) :
    ∃ w₁, p.userVerification fuel management.requirement entry w
        = (.ok (t.used, request), w₁)
      ∧ w'.session.authData = w₁.session.authData := by
  obtain ⟨⟨used, verified⟩, w₁, hverified, h⟩ := Proc.bind_eq_ok_iff.mp h
  obtain ⟨_, w₂, hcheck, h⟩ := Proc.bind_eq_ok_iff.mp h
  obtain ⟨-, rfl⟩ := Proc.ofExcept_eq_ok_iff.mp hcheck
  obtain ⟨answer, w₃, hsend, h⟩ := Proc.bind_eq_ok_iff.mp h
  obtain ⟨hresult, rfl⟩ := Prod.mk.inj h
  obtain ⟨rfl, rfl⟩ := Prod.mk.inj (Outcome.ok.inj hresult)
  have hanswered :
      (Proc.attempt (management.send verified) w₁ : Outcome (WebAuthnError T) _ × _).2.session
        = w₁.session :=
    Proc.Keeps.attempt (hquiet verified).keeps_session w₁
  rw [hsend] at hanswered
  exact ⟨w₁, hverified, by rw [hanswered]⟩

/-- Of a request that never wants a persistent token. -/
theorem spends_managementAttempt (hquiet : ∀ request, Ctap.Quiet (management.send request))
    (hwants : ∀ r : R, wantsPersistentToken r = false) (fuel : Nat) :
    Spends (p.managementAttempt management fuel) management.retried fun _ => 0 where
  left_le _ := Nat.zero_le 1
  kept _ := Nat.le_refl 0
  persistent h hpersistent := by
    obtain ⟨w₁, hverified, -⟩ := p.of_managementAttempt hquiet h
    rw [p.not_rejectedPersistent hwants hverified] at hpersistent
    cases hpersistent
  cached h hcached := by
    obtain ⟨w₁, hverified, -⟩ := p.of_managementAttempt hquiet h
    exact p.authData_of_rejectedCached hcached hverified

end

theorem prepareRequest_rejected (info : Ctap2GetInfoResponse)
    (entry : Ctap2CredentialManagementRequest) :
    (p.prepareRequest info entry).persistentTokenRejected = entry.persistentTokenRejected := by
  show (handleLegacyPreview entry info).persistentTokenRejected = _
  unfold handleLegacyPreview
  show (if _ then _ else _ : Ctap2CredentialManagementRequest).persistentTokenRejected = _
  split <;> rfl

/-- Authenticating a request sets the parameter and its protocol, and no more. -/
theorem authenticated_eq {crypto : Crypto} {r r' : Ctap2CredentialManagementRequest}
    {protocol : Ctap2PinUvAuthProtocol} {token : Bytes}
    (h : calculateAndSetUvAuth crypto r protocol token = .ok r') :
    ∃ uvAuthParam, r' = { r with protocol := some protocol, uvAuthParam := some uvAuthParam } := by
  obtain ⟨subcommand, params, _, _, preview, persistent, rejected⟩ := r
  cases subcommand with
  | none => cases h
  | some subcommand =>
      obtain ⟨uvAuthParam, -, h⟩ := except_bind_eq_ok_iff.mp h
      exact ⟨uvAuthParam, (Except.ok.inj h).symm⟩

/-- The mark of a rejected persistent token outlasts a user verification. -/
theorem userVerification_rejected {fuel : Nat} {requirement : UserVerificationRequirement}
    {entry verified : Ctap2CredentialManagementRequest} {used : UsedPinUvAuthToken}
    {w w' : World σ T}
    (h : p.userVerification fuel requirement entry w = (.ok (used, verified), w')) :
    verified.persistentTokenRejected = entry.persistentTokenRejected := by
  refine p.userVerification_keeps (fun r => r.persistentTokenRejected) (fun r info => ?_)
    (fun _ _ _ => rfl) (fun _ => rfl) (fun r r' protocol token hauth => ?_) h
  · exact p.prepareRequest_rejected info r
  · obtain ⟨uvAuthParam, rfl⟩ := authenticated_eq hauth
    rfl

/-- The persistent tokens a request may still be rejected with. -/
def persistentLeft (request : Ctap2CredentialManagementRequest) : Nat :=
  if request.persistentTokenRejected then 0 else 1

/-- Of credential management, where a rejected persistent token is noted on the
request; nothing takes the note back. -/
theorem spends_credentialManagement
    {management : Management σ T Ctap2CredentialManagementRequest A}
    (hquiet : ∀ request, Ctap.Quiet (management.send request))
    (hnotes : management.notesRejection = true) (fuel : Nat) :
    Spends (p.managementAttempt management fuel) management.retried persistentLeft where
  left_le request := by
    unfold persistentLeft
    split <;> omega
  kept {entry w request t w'} h := by
    obtain ⟨w₁, hverified, -⟩ := p.of_managementAttempt hquiet h
    have hkept := p.userVerification_rejected hverified
    -- a note that the token was rejected stays
    have hretried : entry.persistentTokenRejected = true →
        (management.retried t.used request).persistentTokenRejected = true := by
      intro hentry
      unfold Management.retried
      split
      · rw [if_pos hnotes]
        rfl
      · exact hkept.trans hentry
    unfold persistentLeft
    by_cases hentry : entry.persistentTokenRejected = true
    · rw [if_pos (hretried hentry)]
      exact Nat.zero_le _
    · rw [if_neg hentry]
      split <;> omega
  persistent {entry w request t w'} h hpersistent := by
    obtain ⟨w₁, hverified, hsame⟩ := p.of_managementAttempt hquiet h
    obtain ⟨id, hused, -⟩ := Try.of_rejectedPersistent hpersistent
    rw [hused] at hverified
    obtain ⟨info, hnot⟩ := p.not_rejected_of_fromPersistentStorage hverified
    have hentry : entry.persistentTokenRejected = false :=
      (p.prepareRequest_rejected info entry).symm.trans hnot
    -- the rejection is noted, and no persistent token is used again
    have hnoted : (management.retried t.used request).persistentTokenRejected = true := by
      unfold Management.retried
      rw [hused]
      show (if _ then _ else _ : Ctap2CredentialManagementRequest).persistentTokenRejected = _
      rw [if_pos hnotes]
      rfl
    refine ⟨?_, hsame.trans (p.authData_of_fromPersistentStorage hverified).1⟩
    unfold persistentLeft
    rw [if_pos hnoted, hentry]
    show 0 < 1
    omega
  cached h hcached := by
    obtain ⟨w₁, hverified, -⟩ := p.of_managementAttempt hquiet h
    exact p.authData_of_rejectedCached hcached hverified

/-! ## §7. The loops. -/

/-- A command that the device answers by `command`. -/
def answeredBy (command : R → σ → Except (WebAuthnError T) A × σ) (request : R) :
    Ctap σ T A := do
  let answer ← Ctap.ask (command request)
  Proc.ofExcept answer

/-- An operation of credential management. -/
def credentialManagement
    (check : Ctap2CredentialManagementRequest → Except (WebAuthnError T) Unit)
    (command : Ctap2CredentialManagementRequest → σ → Except (WebAuthnError T) A × σ) :
    Management σ T Ctap2CredentialManagementRequest A where
  requirement := .preferred
  check := check
  send := answeredBy command
  notesRejection := true

/-- An operation of bio enrollment. -/
def bioEnrollment (command : Ctap2BioEnrollmentRequest → σ → Except (WebAuthnError T) A × σ) :
    Management σ T Ctap2BioEnrollmentRequest A where
  requirement := .preferred
  check _ := .ok ()
  send := answeredBy command
  notesRejection := false

/-- A configuration of the authenticator. -/
def authenticatorConfig
    (command : Ctap2AuthenticatorConfigRequest → σ → Except (WebAuthnError T) A × σ) :
    Management σ T Ctap2AuthenticatorConfigRequest A where
  requirement := .required
  check _ := .ok ()
  send := answeredBy command
  notesRejection := false

/-- The loop of a ceremony: its tries are bounded, and it ends where the user
verifications of its turns do. -/
structure RetryLoopBounded (ceremony : Ceremony σ T R A) (fuel : Nat) (request : R)
    (w : World σ T) : Prop where
  tries : RetriesBounded
    (tries (p.ceremonyAttempt ceremony fuel)
      (Proc.turns (p.attemptTurn ceremony fuel) fuel (request, w)))
    (p.retryLoop ceremony fuel request w).1
  ends : 3 ≤ fuel →
    (∀ t ∈ Proc.turns (p.attemptTurn ceremony fuel) fuel (request, w),
      (p.userVerification fuel ceremony.requirement t.1 t.2).1 ≠ .running) →
    (p.retryLoop ceremony fuel request w).1 ≠ .running

/-- The same of a management operation. -/
structure ManagementLoopBounded (management : Management σ T R A) (fuel : Nat) (request : R)
    (w : World σ T) : Prop where
  tries : RetriesBounded
    (tries (p.managementAttempt management fuel)
      (Proc.turns (p.managementTurn management fuel) fuel (request, w)))
    (p.managementLoop management fuel request w).1
  ends : 3 ≤ fuel →
    (∀ t ∈ Proc.turns (p.managementTurn management fuel) fuel (request, w),
      (p.userVerification fuel management.requirement t.1 t.2).1 ≠ .running) →
    (p.managementLoop management fuel request w).1 ≠ .running

omit [Ctap2UserVerifiableRequest R] in
theorem quiet_answeredBy (command : R → σ → Except (WebAuthnError T) A × σ) (request : R) :
    Ctap.Quiet (answeredBy command request) := by
  refine Proc.Advances.bind (fun w => ⟨rfl, List.prefix_refl _⟩) fun answer => ?_
  exact Proc.Advances.ofExcept _

omit [Ctap2UserVerifiableRequest R] in
theorem ends_answeredBy (command : R → σ → Except (WebAuthnError T) A × σ) (request : R) :
    Proc.Ends (answeredBy command request) :=
  Proc.Ends.bind (fun _ h => by cases h) fun answer => Proc.Ends.ofExcept answer

theorem retryLoop_bounded {ceremony : Ceremony σ T R A} (hlawful : ceremony.Lawful)
    (hends : ∀ request, Proc.Ends (ceremony.send request))
    (hwants : ∀ r : R, wantsPersistentToken r = false) (fuel : Nat) (request : R)
    (w : World σ T) : p.RetryLoopBounded ceremony fuel request w := by
  have hspends := p.spends_ceremonyAttempt hlawful hwants fuel
  constructor
  · unfold retryLoop
    rw [p.attemptTurn_eq]
    exact hspends.retriesBounded fuel request w
  · unfold retryLoop
    rw [p.attemptTurn_eq]
    -- every step after the verification ends by itself
    intro hfuel hverifications
    refine hspends.loop_ne_running hfuel fun t ht => ?_
    show ((p.userVerification fuel ceremony.requirement t.1 >>= _) t.2).1 ≠ _
    refine Proc.Ends.bind_at (hverifications t ht) fun result => ?_
    refine Proc.Ends.bind (fun _ h => by cases h) fun reached => ?_
    refine Proc.Ends.bind (fun _ h => by cases h) fun authData => ?_
    refine Proc.Ends.bind ?_ fun sent => ?_
    · cases authData with
      | none => exact Proc.Ends.pure _
      | some authData =>
          exact Proc.Ends.bind (fun _ h => by cases h) fun _ => Ctap.ends_liftPlatform _
    refine Proc.Ends.bind ?_ fun _ => ?_
    · unfold promptForTouch
      split
      · exact Proc.Ends.pure _
      · exact fun _ h => by cases h
    refine Proc.Ends.bind (Proc.Ends.attempt (hends sent)) fun answer => ?_
    exact Proc.Ends.bind (fun _ h => by cases h) fun _ => Proc.Ends.pure _

/-- A management operation whose turns spend so. -/
theorem managementLoop_bounded {management : Management σ T R A} {left : R → Nat} {fuel : Nat}
    (hspends : Spends (p.managementAttempt management fuel) management.retried left)
    (hends : ∀ request, Proc.Ends (management.send request)) (request : R) (w : World σ T) :
    p.ManagementLoopBounded management fuel request w := by
  constructor
  · unfold managementLoop
    rw [p.managementTurn_eq]
    exact hspends.retriesBounded fuel request w
  · unfold managementLoop
    rw [p.managementTurn_eq]
    intro hfuel hverifications
    refine hspends.loop_ne_running hfuel fun t ht => ?_
    refine Proc.Ends.bind_at (hverifications t ht) fun result => ?_
    refine Proc.Ends.bind (Proc.Ends.ofExcept _) fun _ => ?_
    exact Proc.Ends.bind (Proc.Ends.attempt (hends result.2)) fun _ => Proc.Ends.pure _

end Platform

/-- **The retry loops are bounded**, whatever the channel and the store hold,
whatever the store makes of a delete, and whatever the device answers. -/
theorem retries_bounded (p : Platform σ T) (fuel : Nat) (w : World σ T) :
    (∀ op request, p.RetryLoopBounded (p.makeCredentialCeremony op) fuel request w)
      ∧ (∀ op request, p.RetryLoopBounded (p.getAssertionCeremony op) fuel request w)
      ∧ (∀ {A : Type} check command request, p.ManagementLoopBounded
          (Platform.credentialManagement (A := A) check command) fuel request w)
      ∧ (∀ {A : Type} command request, p.ManagementLoopBounded
          (Platform.bioEnrollment (A := A) command) fuel request w)
      ∧ ∀ {A : Type} command request, p.ManagementLoopBounded
          (Platform.authenticatorConfig (A := A) command) fuel request w := by
  refine ⟨fun op request => ?_, fun op request => ?_, fun {A} check command request => ?_,
    fun {A} command request => ?_, fun {A} command request => ?_⟩
  · exact p.retryLoop_bounded (p.lawful_makeCredentialCeremony op)
      (fun _ => Ctap.ends_command _ _) (fun _ => rfl) fuel request w
  · exact p.retryLoop_bounded (p.lawful_getAssertionCeremony op)
      (fun _ => Ctap.ends_command _ _) (fun _ => rfl) fuel request w
  · exact p.managementLoop_bounded
      (p.spends_credentialManagement (Platform.quiet_answeredBy command) rfl fuel)
      (Platform.ends_answeredBy command) request w
  · exact p.managementLoop_bounded
      (p.spends_managementAttempt (Platform.quiet_answeredBy command) (fun _ => rfl) fuel)
      (Platform.ends_answeredBy command) request w
  · exact p.managementLoop_bounded
      (p.spends_managementAttempt (Platform.quiet_answeredBy command) (fun _ => rfl) fuel)
      (Platform.ends_answeredBy command) request w

end Libwebauthn
