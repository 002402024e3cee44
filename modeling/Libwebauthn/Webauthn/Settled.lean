/-
  Libwebauthn.Webauthn.Settled — answers that end a ceremony.

  Only a pinUvAuthParam that the device rejects is tried again.  A response,
  and a status that is about the listed credentials, end the retry loop with
  itself, whatever its other turns were.

    • `leaves_retryLoop` — an answer of the loop, and how the loop ends;
    • `assertedAttempts_settle`, `madeAttempts_settle` — the same for the
      answers of a run.
-/
import Libwebauthn.Lib.Trace
import Libwebauthn.Webauthn.Announced

namespace Libwebauthn

open Platform

variable {σ T R A : Type}

/-- The statuses that are about the listed credentials. -/
def WebAuthnError.ofList : WebAuthnError T → Bool
  | .ctap .noCredentials | .ctap .credentialExcluded => true
  | _ => false

theorem WebAuthnError.ofList_eq_true_iff {e : WebAuthnError T} :
    e.ofList = true ↔ e = .ctap .noCredentials ∨ e = .ctap .credentialExcluded := by
  unfold ofList
  split
  · exact ⟨fun _ => Or.inl rfl, fun _ => rfl⟩
  · exact ⟨fun _ => Or.inr rfl, fun _ => rfl⟩
  next hother hother' =>
    refine ⟨fun h => (by cases h), fun h => ?_⟩
    rcases h with h | h
    · exact (hother h).elim
    · exact (hother' h).elim

/-- What an answer makes of the procedure that got it, unless it is about
something else. -/
def Settles (outcome : Outcome (WebAuthnError T) A) : Except (WebAuthnError T) A → Prop
  | .ok response => outcome = .ok response
  | .error e => e.ofList = true → outcome = .error e

namespace Platform

variable (p : Platform σ T) {ceremony : Ceremony σ T R A}

/-! ## §1. One turn. -/

/-- The attempts that a run adds to the log. -/
def attemptRecord (hlawful : ceremony.Lawful) : Record (World σ T) (Attempt T R A) where
  grows w w' as := w'.session.log = ceremony.log as w.session.log
  refl w := (hlawful.log_nil _).symm
  trans h h' := by rw [h', h, hlawful.log_append]

theorem leaves_of_keepsLog {α : Type} (hlawful : ceremony.Lawful) {m : Ctap σ T α}
    (h : KeepsLog m) : Proc.Leaves (attemptRecord hlawful) m fun _ as => as = [] :=
  fun w => ⟨[], (h w).trans (hlawful.log_nil _).symm, rfl⟩

/-- A status about the list is passed on. -/
theorem handleErrors_ofList (uvAuthUsed : UsedPinUvAuthToken) {e : WebAuthnError T}
    (h : e.ofList = true) :
    p.handleErrors uvAuthUsed (.error e : Except (WebAuthnError T) A) = Proc.throw e := by
  rcases WebAuthnError.ofList_eq_true_iff.mp h with rfl | rfl
  · cases uvAuthUsed <;> rfl
  · cases uvAuthUsed <;> rfl

/-- A turn that is not the last one had its answer rejected. -/
def Rejected (as : List (Attempt T R A)) : Prop :=
  ∀ a ∈ as, a.answer = .error (.ctap .pinAuthInvalid)

def AllSettle (outcome : Outcome (WebAuthnError T) A) (as : List (Attempt T R A)) : Prop :=
  ∀ a ∈ as, Settles outcome a.answer

theorem Rejected.allSettle {as : List (Attempt T R A)} (h : Rejected as)
    (outcome : Outcome (WebAuthnError T) A) : AllSettle outcome as := by
  intro a hmem
  rw [h a hmem]
  exact fun hstatus => (by cases hstatus)

theorem allSettle_concat {as : List (Attempt T R A)} (h : Rejected as) {a : Attempt T R A}
    {outcome : Outcome (WebAuthnError T) A} (ha : Settles outcome a.answer) :
    AllSettle outcome (as ++ [a]) := by
  intro b hmem
  rcases List.mem_append.mp hmem with hmem | hmem
  · exact h.allSettle outcome b hmem
  · rw [List.mem_singleton.mp hmem]
    exact ha

/-- What is left of a turn once it has logged its answer. -/
theorem leaves_answered (hlawful : ceremony.Lawful) (a : Attempt T R A) (next : R)
    {as : List (Attempt T R A)} (has : Rejected as) :
    Proc.Leaves (attemptRecord hlawful) (do
        match ← p.handleErrors a.used a.answer with
        | none => pure (.inl next)
        | some response => pure (.inr response) : Ctap σ T (R ⊕ A))
      (Proc.TurnLeaves (fun _ => Rejected) AllSettle (as ++ [a])) := by
  obtain ⟨entry, used, authData, sent, answer, verification⟩ := a
  dsimp only
  cases answer with
  -- a response ends the turn with itself
  | ok response =>
      have hhandled : p.handleErrors used (.ok response : Except (WebAuthnError T) A)
          = pure (some response) := by
        cases used <;> rfl
      rw [hhandled, pure_bind]
      refine Proc.Leaves.pure ?_
      show AllSettle _ ((as ++ [_]) ++ [])
      rw [List.append_nil]
      exact allSettle_concat has rfl
  | error e =>
      by_cases hstatus : e.ofList = true
      -- and so does a status about the list
      · rw [p.handleErrors_ofList used hstatus]
        refine Proc.Leaves.throw ?_
        show AllSettle _ ((as ++ [_]) ++ [])
        rw [List.append_nil]
        exact allSettle_concat has fun _ => rfl
      · -- a status about something else settles nothing; a next turn takes a rejection
        have hother : ∀ outcome : Outcome (WebAuthnError T) A,
            AllSettle outcome
              ((as ++ [⟨entry, used, authData, sent, .error e, verification⟩]) ++ []) := by
          intro outcome
          rw [List.append_nil]
          exact allSettle_concat has fun h => absurd h hstatus
        refine Proc.Leaves.bind ((leaves_of_keepsLog hlawful (p.keepsLog_handleErrors used
          (.error e))).returning (Q := fun handled => handled = none
            ∧ e = .ctap .pinAuthInvalid) fun w handled w' hrun => ?_) ?_ ?_ ?_
        · have hspec := (p.handleErrors_spec used (.error e : Except (WebAuthnError T) A)
            w.session.authData).ok rfl hrun
          cases handled with
          | some response => cases hspec.1
          | none => exact ⟨rfl, Except.error.inj hspec.1⟩
        · intro handled ys hys
          obtain ⟨rfl, hreturned⟩ := hys
          obtain ⟨rfl, rfl⟩ := hreturned handled rfl
          refine Proc.Leaves.pure ?_
          show Rejected ((as ++ [_]) ++ [])
          rw [List.append_nil]
          intro b hmem
          rcases List.mem_append.mp hmem with hmem | hmem
          · exact has b hmem
          · rw [List.mem_singleton.mp hmem]
        · intro e' ys hys
          obtain ⟨rfl, -⟩ := hys
          exact hother _
        · intro ys hys
          obtain ⟨rfl, -⟩ := hys
          exact hother _

variable [Ctap2UserVerifiableRequest R]

theorem leaves_attemptTurn (hlawful : ceremony.Lawful) (fuel : Nat) (entry : R)
    {as : List (Attempt T R A)} (has : Rejected as) :
    Proc.Leaves (attemptRecord hlawful) (p.attemptTurn ceremony fuel entry)
      (Proc.TurnLeaves (fun _ => Rejected) AllSettle as) := by
  -- a step that logs nothing
  have hstep : ∀ {α : Type} {m : Ctap σ T α} {k : α → Ctap σ T (R ⊕ A)}, KeepsLog m →
      (∀ x, Proc.Leaves (attemptRecord hlawful) (k x)
        (Proc.TurnLeaves (fun _ => Rejected) AllSettle as)) →
      Proc.Leaves (attemptRecord hlawful) (m >>= k)
        (Proc.TurnLeaves (fun _ => Rejected) AllSettle as) := by
    intro α m k hm hk
    have hstopped : ∀ outcome : Outcome (WebAuthnError T) A, AllSettle outcome (as ++ []) := by
      intro outcome
      rw [List.append_nil]
      exact has.allSettle outcome
    refine Proc.Leaves.bind (leaves_of_keepsLog hlawful hm) (fun x ys hys => ?_)
      (fun e ys hys => ?_) fun ys hys => ?_
    · subst hys
      exact hk x
    · subst hys
      exact hstopped _
    · subst hys
      exact hstopped _
  refine hstep (fun _ => rfl) fun start => ?_
  refine hstep (p.keepsLog_userVerification fuel _ entry) fun result => ?_
  obtain ⟨used, verified⟩ := result
  refine hstep (fun _ => rfl) fun reached => ?_
  refine hstep (fun _ => rfl) fun authData => ?_
  refine hstep (keepsLog_of_dialogue (p.dialogue_applyHmac authData verified)) fun sent => ?_
  refine hstep (keepsLog_of_dialogue (p.dialogue_promptForTouch used)) fun _ => ?_
  refine hstep ((Proc.Keeps.attempt (hlawful.send sent)).map (·.log)) fun answer => ?_
  let a : Attempt T R A :=
    ⟨entry, used, authData, sent, answer, p.verification start reached⟩
  have hlogged : Proc.Leaves (attemptRecord hlawful)
      (Ctap.modifyLog (ceremony.log [a]) : Ctap σ T Unit)
      fun outcome ys => outcome = .ok () ∧ ys = [a] :=
    fun w => ⟨_, rfl, rfl, rfl⟩
  refine Proc.Leaves.bind hlogged (fun _ ys hys => ?_) (fun e ys hys => by cases hys.1)
    fun ys hys => by cases hys.1
  obtain ⟨-, rfl⟩ := hys
  exact (p.leaves_answered hlawful a sent has).mono
    fun outcome zs h => h.after_part

/-! ## §2. The loop. -/

/-- **The answers of a loop settle it.** -/
theorem leaves_retryLoop (hlawful : ceremony.Lawful) (fuel : Nat) (request : R) :
    Proc.Leaves (attemptRecord hlawful) (p.retryLoop ceremony fuel request) AllSettle :=
  (Proc.Leaves.loop (fun _ (_ : R) => Rejected) (fun _ entry as has =>
    p.leaves_attemptTurn hlawful fuel entry has) (fun _ as has => has.allSettle _) fuel request []
    fun a hmem => (by cases hmem))

/-! ## §3. Runs. -/

theorem keeps_asserted_finishAssertion (op : GetAssertionRequest) (info : Ctap2GetInfoResponse)
    (response : Ctap2GetAssertionResponse) :
    Proc.Keeps (fun w : World σ T => w.session.log.asserted)
      (p.finishAssertion op info response) := by
  intro w
  exact ((p.finishAssertion_spec op info response w.session.authData w.session.log).conseq
    (fun _ => id) (fun _ _ hw => hw.2.1) fun _ => id).state ⟨rfl, rfl⟩

/-- The answers of a getAssertion that was opened settle its loop. -/
theorem assertedAttempts_settle (fuel : Nat) {op : GetAssertionRequest} {w w' : World σ T}
    (hlog : w.session.log = {}) {info : Ctap2GetInfoResponse}
    {request : Ctap2GetAssertionRequest}
    (hopened : p.openAssertion op w = (.ok (info, request), w')) :
    AllSettle (p.retryLoop (p.getAssertionCeremony op) fuel request w').1
      (p.assertedAttempts fuel op w) := by
  have hlog' : w'.session.log = {} := by
    have hkept := (p.dialogue_openAssertion op).keeps_session w
    rw [hopened] at hkept
    rw [hkept, hlog]
  obtain ⟨as, hgrows, hsettle⟩ := p.leaves_retryLoop (p.lawful_getAssertionCeremony op) fuel
    request w'
  have hasserted : p.assertedAttempts fuel op w = as := by
    unfold assertedAttempts
    rw [getAssertionFido2_eq, Proc.bind_of_ok hopened]
    refine (Proc.Keeps.after (p.keeps_asserted_finishAssertion op info) w').trans ?_
    rw [show _ = _ from hgrows, hlog']
    rfl
  rw [hasserted]
  exact hsettle

theorem madeAttempts_settle (fuel : Nat) {op : MakeCredentialRequest} {w w' : World σ T}
    (hlog : w.session.log = {}) {info : Ctap2GetInfoResponse}
    {request : Ctap2MakeCredentialRequest}
    (hopened : p.openMake op w = (.ok (info, request), w')) :
    AllSettle (p.retryLoop (p.makeCredentialCeremony op) fuel request w').1
      (p.madeAttempts fuel op w) := by
  have hlog' : w'.session.log = {} := by
    have hkept := (p.dialogue_openMake op).keeps_session w
    rw [hopened] at hkept
    rw [hkept, hlog]
  obtain ⟨as, hgrows, hsettle⟩ := p.leaves_retryLoop (p.lawful_makeCredentialCeremony op) fuel
    request w'
  have hmade : p.madeAttempts fuel op w = as := by
    unfold madeAttempts
    rw [makeCredentialFido2_eq, Proc.bind_of_ok hopened]
    refine (Proc.Keeps.after (f := fun w => w.session.log.made) (fun response => ?_) w').trans ?_
    · exact Proc.Keeps.bind (fun _ => rfl) fun _ => Proc.Keeps.pure _
    · rw [show _ = _ from hgrows, hlog']
      rfl
  rw [hmade]
  exact hsettle

end Platform

end Libwebauthn
