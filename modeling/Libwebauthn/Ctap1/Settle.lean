/-
  Libwebauthn.Ctap1.Settle — what a repeated APDU comes to.

  The loop of `send_apdu_request_wait_uv` is a function of the device:

    • `settle` — the answer the device settles on when it is asked again after
      each missing touch;
    • `waitForTouch_eq` — the loop ends as that answer says, and sends nothing
      but its request;
    • `ctap1Sign_eq` — a sign request, by the answer to its APDU.
-/
import Libwebauthn.Ctap1.Protocol

namespace Libwebauthn

/-! ## §1. What an answer comes to. -/

/-- The end of `send_apdu_request_wait_uv`, by its last answer; no answer is a
timer that ran out. -/
def u2fVerdict {T : Type} :
    Option (Except T ApduResponse) → Except (WebAuthnError T) ApduResponse
  | none => .error (.ctap .userActionTimeout)
  | some (.error e) => .error (.transport e)
  | some (.ok response) =>
      match response.status with
      | .error _ => .error (.platform .invalidDeviceResponse)
      | .ok .noError => .ok response
      | .ok status => .error (.ctap status.toCtapError)

/-- The end of `ctap1_sign`. -/
def signVerdict {T : Type} (answer : Option (Except T ApduResponse)) :
    Except (WebAuthnError T) Ctap1SignResponse := do
  let response ← u2fVerdict answer
  (Ctap1SignResponse.tryFrom response).mapError fun _ => .ctap .other

theorem u2fVerdict_eq_ok_iff {T : Type} {answer : Option (Except T ApduResponse)}
    {response : ApduResponse} :
    u2fVerdict answer = .ok response ↔
      answer = some (.ok response) ∧ response.status = .ok .noError := by
  rcases answer with _ | e | r
  · simp [u2fVerdict]
  · simp [u2fVerdict]
  · constructor
    · intro h
      rcases hstatus : r.status with e | status
      · simp [u2fVerdict, hstatus] at h
      · cases status <;> simp [u2fVerdict, hstatus] at h
        exact ⟨by rw [h], by rw [← h]; exact hstatus⟩
    · rintro ⟨h, hok⟩
      obtain rfl := Except.ok.inj (Option.some.inj h)
      simp [u2fVerdict, hok]

/-- A conversion asks for a status without an error itself. -/
theorem ApduResponse.status_of_successData {response : ApduResponse} {data : Bytes}
    (h : response.successData = .ok data) :
    response.status = .ok .noError ∧ response.data = some data := by
  unfold ApduResponse.successData at h
  obtain ⟨status, hstatus, h⟩ := except_bind_eq_ok_iff.mp h
  by_cases hno : status = .noError
  · subst hno
    rw [if_neg (by simp)] at h
    cases hdata : response.data with
    | none =>
        rw [hdata] at h
        cases h
    | some bytes =>
        rw [hdata] at h
        cases h
        exact ⟨hstatus, rfl⟩
  · rw [if_pos hno] at h
    cases h

theorem ApduResponse.successData_of_status {response : ApduResponse} {data : Bytes}
    (hstatus : response.status = .ok .noError) (hdata : response.data = some data) :
    response.successData = .ok data := by
  unfold ApduResponse.successData
  rw [hstatus]
  simp [bind, Except.bind, hdata]

/-- A device signed when its last answer reads as a signature. -/
theorem signVerdict_eq_ok_iff {T : Type} {answer : Option (Except T ApduResponse)}
    {signed : Ctap1SignResponse} :
    signVerdict answer = .ok signed ↔
      ∃ response, answer = some (.ok response) ∧
        Ctap1SignResponse.tryFrom response = .ok signed := by
  unfold signVerdict
  rw [except_bind_eq_ok_iff]
  constructor
  · rintro ⟨response, hverdict, hread⟩
    refine ⟨response, (u2fVerdict_eq_ok_iff.mp hverdict).1, ?_⟩
    cases htry : Ctap1SignResponse.tryFrom response with
    | error e =>
        rw [htry] at hread
        cases hread
    | ok s =>
        rw [htry] at hread
        cases hread
        rfl
  · rintro ⟨response, hanswer, hread⟩
    have hdata := hread
    unfold Ctap1SignResponse.tryFrom at hdata
    obtain ⟨data, hdata, -⟩ := except_bind_eq_ok_iff.mp hdata
    have hstatus := (ApduResponse.status_of_successData hdata).1
    exact ⟨response, u2fVerdict_eq_ok_iff.mpr ⟨hanswer, hstatus⟩, by rw [hread]; rfl⟩

namespace U2fPlatform

variable {σ T : Type} (p : U2fPlatform σ T)

/-! ## §2. The loop. -/

/-- The last answer of a device that is asked again whenever a touch is
missing, for a number of turns. -/
def settle (request : ApduRequest) : (turns : Nat) → σ → Option (Except T ApduResponse) × σ
  | 0, env => (none, env)
  | turns + 1, env =>
      match p.apdu request env with
      | (some (.ok response), env') =>
          if response.status = .ok .userPresenceTestFailed then settle request turns env'
          else (some (.ok response), env')
      | (answer, env') => (answer, env')

/-- The same, for as long as the timer of the request runs. -/
def settled (request : ApduRequest) (env : σ) : Option (Except T ApduResponse) × σ :=
  p.settle request (p.sleeps env + 1) env

/-- The world after some exchanges of one request. -/
def afterExchanges (request : ApduRequest) (w : U2fWorld σ T) (env : σ)
    (answers : List (Option (Except T ApduResponse))) : U2fWorld σ T :=
  ⟨env, w.apdus ++ answers.map fun answer => (request, answer)⟩

theorem waitForTouch_eq (request : ApduRequest) (turns : Nat) (w : U2fWorld σ T) :
    ∃ answers, (0 < turns → answers ≠ []) ∧
      (∀ answer, (p.settle request turns w.env).1 = some answer → some answer ∈ answers) ∧
      p.waitForTouch request turns w
        = Proc.ofExcept (u2fVerdict (p.settle request turns w.env).1)
            (afterExchanges request w (p.settle request turns w.env).2 answers) := by
  -- by induction on the turns, each of them one exchange
  induction turns generalizing w with
  | zero =>
      refine ⟨[], by simp, by simp [settle], ?_⟩
      simp [waitForTouch, settle, afterExchanges, u2fVerdict, Proc.ofExcept, Proc.throw]
  | succ turns ih =>
      unfold waitForTouch settle
      rw [Proc.bind_apply]
      unfold exchange
      rcases hanswer : p.apdu request w.env with ⟨_ | e | response, env⟩
      · exact ⟨[none], by simp, by simp, rfl⟩
      · exact ⟨[some (.error e)], by simp, by simp, rfl⟩
      · -- an answer of the device: its status decides
        simp only
        rcases hstatus : response.status with e | status
        · refine ⟨[some (.ok response)], by simp, by simp, ?_⟩
          simp [u2fVerdict, hstatus, afterExchanges, Proc.ofExcept]
        · by_cases htouch : status = .userPresenceTestFailed
          · subst htouch
            obtain ⟨answers, -, hlast, h⟩ :=
              ih ⟨env, w.apdus ++ [(request, some (.ok response))]⟩
            refine ⟨some (.ok response) :: answers, by simp, ?_, ?_⟩
            · intro answer hanswer
              rw [if_pos rfl] at hanswer
              exact List.mem_cons_of_mem _ (hlast answer hanswer)
            · simp only [ApduResponseStatus.toCtapError, if_true]
              rw [h]
              simp [afterExchanges]
          · have hother : ¬(Except.ok status : Except Transport.IoError ApduResponseStatus)
                = .ok .userPresenceTestFailed := fun h => htouch (Except.ok.inj h)
            refine ⟨[some (.ok response)], by simp, by simp [hother], ?_⟩
            rw [if_neg hother]
            cases status <;>
              simp_all [u2fVerdict, afterExchanges, Proc.ofExcept, ApduResponseStatus.toCtapError]

theorem sendApduRequestWaitUv_eq (request : ApduRequest) (w : U2fWorld σ T) :
    ∃ answers, answers ≠ [] ∧
      (∀ answer, (p.settled request w.env).1 = some answer → some answer ∈ answers) ∧
      p.sendApduRequestWaitUv request w
        = Proc.ofExcept (u2fVerdict (p.settled request w.env).1)
            (afterExchanges request w (p.settled request w.env).2 answers) := by
  obtain ⟨answers, hanswers, hlast, h⟩ := p.waitForTouch_eq request (p.sleeps w.env + 1) w
  exact ⟨answers, hanswers (by omega), hlast, h⟩

/-! ## §3. Sign requests. -/

/-- What the device settles on for a sign request. -/
def signed (request : Ctap1SignRequest) (env : σ) : Option (Except T ApduResponse) × σ :=
  p.settled request.toApdu (p.uxUpdate .presenceRequired env)

/-- Reading an accepted answer. -/
theorem readSigned_eq (response : ApduResponse) (hstatus : response.status = .ok .noError)
    (w : U2fWorld σ T) :
    (do
      ensureNoError response
      orOther (Ctap1SignResponse.tryFrom response) : U2f σ T Ctap1SignResponse) w
      = Proc.ofExcept ((Ctap1SignResponse.tryFrom response).mapError fun _ =>
          (.ctap .other : WebAuthnError T)) w := by
  have hensure : (ensureNoError response : U2f σ T Unit) w = (.ok (), w) := by
    unfold ensureNoError orOther
    rw [hstatus]
    rfl
  rw [Proc.bind_of_ok hensure]
  rfl

theorem ctap1Sign_eq (request : Ctap1SignRequest) (w : U2fWorld σ T) :
    ∃ answers, answers ≠ [] ∧
      (∀ answer, (p.signed request w.env).1 = some answer → some answer ∈ answers) ∧
      p.ctap1Sign request w
        = Proc.ofExcept (signVerdict (p.signed request w.env).1)
            (afterExchanges request.toApdu w (p.signed request w.env).2 answers) := by
  have hux : p.sendUxUpdate .presenceRequired w
      = (.ok (), { w with env := p.uxUpdate .presenceRequired w.env }) := rfl
  obtain ⟨answers, hanswers, hlast, h⟩ := p.sendApduRequestWaitUv_eq request.toApdu
    { w with env := p.uxUpdate .presenceRequired w.env }
  refine ⟨answers, hanswers, hlast, ?_⟩
  unfold ctap1Sign
  rw [Proc.bind_of_ok hux, Proc.bind_apply, h]
  unfold signVerdict signed
  simp only
  rcases hverdict : u2fVerdict (p.settled request.toApdu (p.uxUpdate .presenceRequired w.env)).1
    with e | response
  · rfl
  · exact readSigned_eq response (u2fVerdict_eq_ok_iff.mp hverdict).2 _

end U2fPlatform

end Libwebauthn
