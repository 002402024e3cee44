/-
  Libwebauthn.Ctap1.Exclusion — the check of the registered keys before a
  U2F registration.

  A check that ends in an error other than the missing credential proves
  nothing about its key, and yet the registration goes on after it: a listed
  key that the device knows stops the registration exactly when the device
  signs in the check of some listed key.

    • `Finds` — the device signs in one of the checks;
    • `checkKeys_found`, `checkKeys_none` — the loop over the checks, by that;
    • `registration_excluded_iff` — registrations.
-/
import Libwebauthn.Ctap1.Device

namespace Libwebauthn

namespace U2fPlatform

variable {σ T : Type} (p : U2fPlatform σ T)

/-! ## §1. The checks. -/

/-- In one of the checks, made one after the other, the device signs. -/
def Finds : List Ctap1SignRequest → σ → Prop
  | [], _ => False
  | check :: checks, env =>
      (∃ response, (p.signed check env).1 = some (.ok response) ∧
        (Ctap1SignResponse.tryFrom response).isOk) ∨ Finds checks (p.signed check env).2

/-- What was sent from `w` to `w'` has the instruction `ins`. -/
def SendsOnly (ins : UInt8) (w w' : U2fWorld σ T) : Prop :=
  ∃ sent, w'.apdus = w.apdus ++ sent ∧ ∀ pair ∈ sent, pair.1.ins = ins

theorem sendsOnly_refl (ins : UInt8) (w : U2fWorld σ T) : SendsOnly ins w w :=
  ⟨[], by simp, by simp⟩

theorem SendsOnly.trans {ins : UInt8} {w w' w'' : U2fWorld σ T} (h : SendsOnly ins w w')
    (h' : SendsOnly ins w' w'') : SendsOnly ins w w'' := by
  obtain ⟨sent, hsent, hins⟩ := h
  obtain ⟨sent', hsent', hins'⟩ := h'
  refine ⟨sent ++ sent', by rw [hsent', hsent, List.append_assoc], fun pair hpair => ?_⟩
  rcases List.mem_append.mp hpair with hleft | hright
  · exact hins pair hleft
  · exact hins' pair hright

theorem sendsOnly_afterExchanges (request : ApduRequest) (w : U2fWorld σ T) (env : σ)
    (answers : List (Option (Except T ApduResponse))) :
    SendsOnly request.ins w (afterExchanges request w env answers) := by
  refine ⟨answers.map fun answer => (request, answer), rfl, fun pair hpair => ?_⟩
  obtain ⟨answer, -, rfl⟩ := List.mem_map.mp hpair
  rfl

/-- One check: it signs, or ends in an error. -/
theorem ctap1Sign_cases (check : Ctap1SignRequest) (w : U2fWorld σ T) :
    ∃ w', w'.env = (p.signed check w.env).2 ∧ SendsOnly U2F_AUTHENTICATE w w' ∧
      ((∃ signed, p.ctap1Sign check w = (.ok signed, w') ∧
          ∃ response, (p.signed check w.env).1 = some (.ok response) ∧
            (Ctap1SignResponse.tryFrom response).isOk) ∨
        (∃ e, p.ctap1Sign check w = (.error e, w') ∧
          ¬∃ response, (p.signed check w.env).1 = some (.ok response) ∧
            (Ctap1SignResponse.tryFrom response).isOk)) := by
  obtain ⟨answers, -, -, h⟩ := p.ctap1Sign_eq check w
  refine ⟨_, rfl, sendsOnly_afterExchanges check.toApdu w _ answers, ?_⟩
  rcases hverdict : signVerdict (p.signed check w.env).1 with e | signed
  · refine Or.inr ⟨e, by rw [h, hverdict]; rfl, ?_⟩
    rintro ⟨response, hanswer, hread⟩
    obtain ⟨signed, hsigned⟩ : ∃ signed, Ctap1SignResponse.tryFrom response = .ok signed := by
      cases htry : Ctap1SignResponse.tryFrom response with
      | ok signed => exact ⟨signed, rfl⟩
      | error e =>
          rw [htry] at hread
          cases hread
    have hok := (signVerdict_eq_ok_iff (T := T)).mpr ⟨response, hanswer, hsigned⟩
    rw [hverdict] at hok
    cases hok
  · refine Or.inl ⟨signed, by rw [h, hverdict]; rfl, ?_⟩
    obtain ⟨response, hanswer, hread⟩ := signVerdict_eq_ok_iff.mp hverdict
    exact ⟨response, hanswer, by rw [hread]; rfl⟩

/-- A check that signs ends the registration. -/
theorem checkKeys_found {checks : List Ctap1SignRequest} {w : U2fWorld σ T}
    (h : p.Finds checks w.env) :
    ∃ w', p.checkKeys checks w = (.error (.ctap .credentialExcluded), w') ∧
      SendsOnly U2F_AUTHENTICATE w w' := by
  induction checks generalizing w with
  | nil => exact h.elim
  | cons check checks ih =>
      obtain ⟨w', henv, hsent, ⟨signed, hrun, -⟩ | ⟨e, hrun, hnone⟩⟩ := p.ctap1Sign_cases check w
      · exact ⟨w', by simp [checkKeys, Proc.bind_apply, Proc.attempt, hrun, Proc.throw], hsent⟩
      · have hrest : p.Finds checks w'.env := by
          rw [henv]
          exact h.resolve_left hnone
        obtain ⟨w'', hchecks, hsent'⟩ := ih hrest
        refine ⟨w'', ?_, hsent.trans hsent'⟩
        simp [checkKeys, Proc.bind_apply, Proc.attempt, hrun, hchecks]

/-- When none does, whatever errors there were, the registration goes on. -/
theorem checkKeys_none {checks : List Ctap1SignRequest} {w : U2fWorld σ T}
    (h : ¬p.Finds checks w.env) :
    ∃ w', p.checkKeys checks w = (.ok (), w') ∧ SendsOnly U2F_AUTHENTICATE w w' := by
  induction checks generalizing w with
  | nil => exact ⟨w, rfl, sendsOnly_refl _ w⟩
  | cons check checks ih =>
      obtain ⟨w', henv, hsent, ⟨signed, hrun, hfound⟩ | ⟨e, hrun, -⟩⟩ := p.ctap1Sign_cases check w
      · exact absurd (Or.inl hfound) h
      · have hrest : ¬p.Finds checks w'.env := by
          rw [henv]
          exact fun hfinds => h (Or.inr hfinds)
        obtain ⟨w'', hchecks, hsent'⟩ := ih hrest
        refine ⟨w'', ?_, hsent.trans hsent'⟩
        simp [checkKeys, Proc.bind_apply, Proc.attempt, hrun, hchecks]

/-! ## §2. Registrations. -/

/-- The run fails, and sends no REGISTER command. -/
def Excluded {α : Type} (run : Outcome (WebAuthnError T) α × U2fWorld σ T) : Prop :=
  (∃ e, run.1 = .error e) ∧ ∀ pair ∈ run.2.apdus, pair.1.ins ≠ U2F_REGISTER

/-- A key of the list is known to the device. -/
def ListsKnownKey (knows : (appIdHash keyHandle : Bytes) → Prop)
    (request : Ctap1RegisterRequest) : Prop :=
  ∃ registeredKey ∈ request.registeredKeys, knows request.appIdHash registeredKey.keyHandle

/-- The first step asks for the touch. -/
theorem ctap1Register_eq (request : Ctap1RegisterRequest) (w : U2fWorld σ T) :
    p.ctap1Register request w = (do
      p.checkKeys request.preflight.2
      let apduResponse ← p.sendApduRequestWaitUv request.preflight.1.toApdu
      ensureNoError apduResponse
      orOther (Ctap1RegisterResponse.tryFrom p.fromDer apduResponse) :
        U2f σ T Ctap1RegisterResponse) { w with env := p.uxUpdate .presenceRequired w.env } :=
  rfl

theorem keeps_ensureNoError (apduResponse : ApduResponse) :
    Proc.Keeps U2fWorld.apdus (ensureNoError apduResponse : U2f σ T Unit) := by
  refine Proc.Keeps.bind (Proc.Keeps.ofExcept _) fun status => ?_
  by_cases hstatus : status ≠ .noError
  · rw [if_pos hstatus]
    exact Proc.Keeps.throw _
  · rw [if_neg hstatus]
    exact Proc.Keeps.pure ()

theorem register_of_finds {request : Ctap1RegisterRequest} {env : σ}
    (h : p.Finds request.preflight.2 (p.uxUpdate .presenceRequired env)) :
    Excluded (p.ctap1Register request ⟨env, []⟩) := by
  obtain ⟨w, hchecks, sent, hsent, hins⟩ :=
    p.checkKeys_found (w := ⟨p.uxUpdate .presenceRequired env, []⟩) h
  rw [ctap1Register_eq, Proc.bind_apply, hchecks]
  refine ⟨⟨_, rfl⟩, fun pair hpair => ?_⟩
  simp only [hsent, List.nil_append] at hpair
  rw [hins pair hpair]
  decide

/-- Apart from that, the REGISTER command is sent. -/
theorem register_of_not_finds {request : Ctap1RegisterRequest} {env : σ}
    (h : ¬p.Finds request.preflight.2 (p.uxUpdate .presenceRequired env)) :
    ∃ pair ∈ (p.ctap1Register request ⟨env, []⟩).2.apdus, pair.1.ins = U2F_REGISTER := by
  obtain ⟨w, hchecks, -⟩ := p.checkKeys_none (w := ⟨p.uxUpdate .presenceRequired env, []⟩) h
  obtain ⟨answers, hanswers, -, hsend⟩ :=
    p.sendApduRequestWaitUv_eq request.preflight.1.toApdu w
  obtain ⟨answer, rest, rfl⟩ := List.exists_cons_of_ne_nil hanswers
  have hreading : ∀ apduResponse, Proc.Keeps U2fWorld.apdus (do
      ensureNoError apduResponse
      orOther (Ctap1RegisterResponse.tryFrom p.fromDer apduResponse) :
        U2f σ T Ctap1RegisterResponse) :=
    fun apduResponse => Proc.Keeps.bind (keeps_ensureNoError apduResponse) fun _ =>
      Proc.Keeps.ofExcept _
  rw [ctap1Register_eq, Proc.bind_of_ok hchecks, Proc.Keeps.after hreading, hsend,
    Proc.ofExcept_state]
  exact ⟨(request.preflight.1.toApdu, answer), by simp [afterExchanges], rfl⟩

/-- **Exclusion by the registered keys.**  A registration that lists a key
the device knows is stopped before its REGISTER command exactly when the
device signs in the check of some listed key. -/
theorem registration_excluded_iff (knows : (appIdHash keyHandle : Bytes) → Prop)
    (request : Ctap1RegisterRequest) (env : σ) :
    (ListsKnownKey knows request → Excluded (p.ctap1Register request ⟨env, []⟩)) ↔
      (ListsKnownKey knows request →
        p.Finds request.preflight.2 (p.uxUpdate .presenceRequired env)) := by
  refine imp_congr_right fun _ => ⟨fun hexcluded => ?_, p.register_of_finds⟩
  by_contra hfinds
  obtain ⟨pair, hpair, hins⟩ := p.register_of_not_finds hfinds
  exact hexcluded.2 pair hpair hins

/-- A registration that lists one key. -/
def listingRequest : Ctap1RegisterRequest where
  version := .u2fV2
  appIdHash := List.replicate 32 1
  challenge := List.replicate 32 2
  registeredKeys := [⟨.u2fV2, [9], none, none⟩]
  requireUserPresence := true

/-- The device has the key, but nobody touches it for the check. -/
theorem registration_not_excluded :
    ListsKnownKey (fun appIdHash keyHandle => (appIdHash, keyHandle) ∈
        [(List.replicate 32 (1 : UInt8), [(9 : UInt8)])]) listingRequest ∧
      ¬Excluded ((keyedDevice [(List.replicate 32 1, [9])] false).ctap1Register listingRequest
        ⟨(), []⟩) := by
  refine ⟨⟨⟨.u2fV2, [9], none, none⟩, List.mem_singleton.mpr rfl, List.mem_singleton.mpr rfl⟩,
    fun hexcluded => ?_⟩
  have hsent : ∃ pair ∈ ((keyedDevice [(List.replicate 32 1, [9])] false).ctap1Register
      listingRequest ⟨(), []⟩).2.apdus, pair.1.ins = U2F_REGISTER := by
    decide +kernel
  obtain ⟨pair, hpair, hins⟩ := hsent
  exact hexcluded.2 pair hpair hins

end U2fPlatform

end Libwebauthn
