/-
  Libwebauthn.Webauthn.U2f — the ceremonies on a device that may only speak
  U2F (`src/webauthn.rs`).

    • `makeCredentialU2f`, `getAssertionU2f` — the downgraded ceremonies;
    • `negotiateProtocol` — which of the protocols is used;
    • `webauthnMakeCredential`, `webauthnGetAssertion` — the operations of
      the `WebAuthn` trait, over either of them.

  Left out: the transport stamped on the results.
-/
import Libwebauthn.Ctap1.Settle
import Libwebauthn.Webauthn.Ceremony

namespace Libwebauthn

variable {σ T : Type}

/-! ## §1. The downgraded ceremonies. -/

namespace U2fPlatform

variable (p : U2fPlatform σ T) (crypto : Crypto)

def makeCredentialU2f (op : MakeCredentialRequest) : U2f σ T MakeCredentialResponse := do
  let response ← p.ctap1Register (op.tryDowngrade crypto)
  Proc.ofExcept (response.tryUpgrade crypto p.encodedPoint op)

/-- The output of the AppID extension. -/
def withAppid (usedAppid : Bool) (assertion : Assertion) : Assertion :=
  { assertion with
    unsignedExtensionsOutput :=
      some { assertion.unsignedExtensionsOutput.getD {} with appid := some usedAppid } }

/-- The result for the sign request that succeeded. -/
def upgradeSigned (appidHash : Option Bytes) (signRequest : Ctap1SignRequest)
    (response : Ctap1SignResponse) : Except (WebAuthnError T) (List Assertion) := do
  let upgraded ← response.tryUpgrade crypto signRequest
  match appidHash with
  | none => .ok upgraded
  | some appidHash => .ok (upgraded.map (withAppid (signRequest.appIdHash == appidHash)))

/-- The loop over the sign requests: the first key the device knows is used,
and any error but the missing credential is returned. -/
def trySignRequests (appidHash : Option Bytes) :
    List Ctap1SignRequest → U2f σ T (List Assertion)
  | [] => Proc.throw (.ctap .noCredentials)
  | signRequest :: signRequests => do
      match ← (Proc.attempt (p.ctap1Sign signRequest) :
        U2f σ T (Except (WebAuthnError T) Ctap1SignResponse)) with
      | .ok response => Proc.ofExcept (upgradeSigned crypto appidHash signRequest response)
      | .error (.ctap .noCredentials) => trySignRequests appidHash signRequests
      | .error err => Proc.throw err

def getAssertionU2f (op : GetAssertionRequest) : U2f σ T (List Assertion) :=
  p.trySignRequests crypto (op.appidHash crypto) (op.tryDowngrade crypto)

end U2fPlatform

/-! ## §2. The operations. -/

structure SupportedProtocols where
  u2f : Bool
  fido2 : Bool
  deriving Repr, DecidableEq

inductive FidoProtocol where
  | fido2
  | u2f
  deriving Repr, DecidableEq

/-- A channel that carries both protocols. -/
structure FidoPlatform (σ T : Type) where
  ctap2 : Platform σ T
  ctap1 : U2fPlatform σ T
  supportedProtocols : σ → Except (WebAuthnError T) SupportedProtocols × σ

def prfForcesUvUpgrade (prfPresent : Bool) (uv : UserVerificationRequirement) : Bool :=
  prfPresent && !uv.isRequired

/-- The makeCredential operation with its user verification forced. -/
def MakeCredentialRequest.upgraded (op : MakeCredentialRequest) : MakeCredentialRequest :=
  if prfForcesUvUpgrade (op.extensions.bind (·.prf)).isSome op.userVerification then
    { op with userVerification := .required }
  else op

def GetAssertionRequest.upgraded (op : GetAssertionRequest) : GetAssertionRequest :=
  if prfForcesUvUpgrade (op.extensions.bind (·.prf)).isSome op.userVerification then
    { op with userVerification := .required }
  else op

namespace FidoPlatform

variable (c : FidoPlatform σ T)

/-- A U2F procedure, on the same device. -/
def overU2f {α : Type} (m : U2f σ T α) : Ctap σ T α := fun w =>
  let (outcome, w') := m ⟨w.env, []⟩
  (outcome, { w with env := w'.env })

def negotiateProtocol (allowU2f : Bool) : Ctap σ T FidoProtocol := do
  let supported ← Ctap.ask c.supportedProtocols
  let supported ← Proc.ofExcept supported
  if !supported.u2f && !supported.fido2 then Proc.throw (.platform .notSupported)
  else if !allowU2f && !supported.fido2 then Proc.throw (.platform .notSupported)
  else if supported.fido2 then pure .fido2
  else do
    let _ ← overU2f c.ctap1.ctap1Version
    pure .u2f

def webauthnMakeCredential (fuel : Nat) (op : MakeCredentialRequest) :
    Ctap σ T MakeCredentialResponse := do
  let op := op.upgraded
  match ← c.negotiateProtocol op.isDowngradable with
  | .fido2 => c.ctap2.makeCredentialFido2 fuel op
  | .u2f => overU2f (c.ctap1.makeCredentialU2f c.ctap2.crypto op)

def webauthnGetAssertion (fuel : Nat) (op : GetAssertionRequest) : Ctap σ T (List Assertion) := do
  let op := op.upgraded
  match ← c.negotiateProtocol op.isDowngradable with
  | .fido2 => c.ctap2.getAssertionFido2 fuel op
  | .u2f => overU2f (c.ctap1.getAssertionU2f c.ctap2.crypto op)

end FidoPlatform

end Libwebauthn
