/-
  Libwebauthn.Ctap1.Protocol — U2F registration and signing over APDUs
  (`src/proto/ctap1/protocol.rs`).

  A `U2fPlatform` has the parsers of third-party crates.  It answers APDUs as
  the device does, and says when the timer around a request runs out: before
  an answer is there (`none`), or after the last sleep it leaves time for.
  Every APDU but the version request is logged with its answer.
-/
import Libwebauthn.Ops.U2f
import Libwebauthn.Transport.Channel

namespace Libwebauthn

structure U2fPlatform (σ T : Type) where
  fromDer : X509
  encodedPoint : EncodedPoints
  uxUpdate : UvUpdate → σ → σ
  /-- `apdu_send` and `apdu_recv`; `none` when the timer runs out first. -/
  apdu : ApduRequest → σ → Option (Except T ApduResponse) × σ
  /-- How often the loop of a request sleeps before its timer runs out. -/
  sleeps : σ → Nat
  /-- The version APDU has a timeout of its own. -/
  versionApdu : σ → Except T ApduResponse × σ

structure U2fWorld (σ T : Type) where
  env : σ
  apdus : List (ApduRequest × Option (Except T ApduResponse)) := []

/-- A procedure on a U2F channel. -/
abbrev U2f (σ T α : Type) := Proc (U2fWorld σ T) (WebAuthnError T) α

namespace U2fPlatform

variable {σ T : Type} (p : U2fPlatform σ T)

def sendUxUpdate (update : UvUpdate) : U2f σ T Unit :=
  Proc.modify fun w => { w with env := p.uxUpdate update w.env }

/-- Send an APDU and take its answer. -/
def exchange (request : ApduRequest) : U2f σ T (Option ApduResponse) := fun w =>
  let (answer, env) := p.apdu request w.env
  let w' := { env := env, apdus := w.apdus ++ [(request, answer)] }
  match answer with
  | none => (.ok none, w')
  | some (.ok response) => (.ok (some response), w')
  | some (.error e) => (.error (.transport e), w')

/-- The loop of `send_apdu_request_wait_uv`: a missing touch takes another
turn, while there are any. -/
def waitForTouch (request : ApduRequest) : (turns : Nat) → U2f σ T ApduResponse
  | 0 => Proc.throw (.ctap .userActionTimeout)
  | turns + 1 => do
      match ← p.exchange request with
      | none => Proc.throw (.ctap .userActionTimeout)
      | some apduResponse =>
          match apduResponse.status with
          | .error _ => Proc.throw (.platform .invalidDeviceResponse)
          | .ok status =>
              match status.toCtapError with
              | .ok => pure apduResponse
              | .userPresenceRequired => waitForTouch request turns
              | ctapError => Proc.throw (.ctap ctapError)

def sendApduRequestWaitUv (request : ApduRequest) : U2f σ T ApduResponse := do
  let w ← Proc.get
  -- the timer only runs out in a sleep: there is a first turn
  p.waitForTouch request (p.sleeps w.env + 1)

/-- `.or(Err(CtapError::Other))?`. -/
def orOther {ε α : Type} (r : Except ε α) : U2f σ T α :=
  Proc.ofExcept (r.mapError fun _ => .ctap .other)

/-- The status once more, which has to be without an error. -/
def ensureNoError (apduResponse : ApduResponse) : U2f σ T Unit := do
  let status ← orOther apduResponse.status
  if status ≠ .noError then Proc.throw (.ctap status.toCtapError) else pure ()

def ctap1Version : U2f σ T Ctap1Version := do
  let w ← Proc.get
  let (answer, env) := p.versionApdu w.env
  Proc.modify fun w => { w with env := env }
  let apduResponse ← Proc.ofExcept (answer.mapError .transport)
  orOther (Ctap1Version.tryFrom apduResponse)

def ctap1Sign (request : Ctap1SignRequest) : U2f σ T Ctap1SignResponse := do
  p.sendUxUpdate .presenceRequired
  let apduResponse ← p.sendApduRequestWaitUv request.toApdu
  ensureNoError apduResponse
  orOther (Ctap1SignResponse.tryFrom apduResponse)

/-- The check of the registered keys: a key that signs ends the
registration; any error only goes to the log. -/
def checkKeys : List Ctap1SignRequest → U2f σ T Unit
  | [] => pure ()
  | preflight :: preflightRequests => do
      match ← (Proc.attempt (p.ctap1Sign preflight) :
        U2f σ T (Except (WebAuthnError T) Ctap1SignResponse)) with
      | .ok _ => Proc.throw (.ctap .credentialExcluded)
      | .error _ => checkKeys preflightRequests

def ctap1Register (request : Ctap1RegisterRequest) : U2f σ T Ctap1RegisterResponse := do
  p.sendUxUpdate .presenceRequired
  let (request, preflightRequests) := request.preflight
  p.checkKeys preflightRequests
  let apduResponse ← p.sendApduRequestWaitUv request.toApdu
  ensureNoError apduResponse
  orOther (Ctap1RegisterResponse.tryFrom p.fromDer apduResponse)

end U2fPlatform

end Libwebauthn
