/-
  Libwebauthn.Webauthn.Required — whether required user verification takes
  place (`user_verification` of `src/webauthn/pin_uv_auth_token.rs`).

  The guard for required verification stands before the loop, and the loop
  chooses anew at each turn.  So the result is a shared secret without any
  verification exactly when some turn finds a device that offers no more
  (`userVerification_required_iff`): built-in UV blocked meanwhile, or not
  usable for the request, and no PIN set
  (`userVerification_required_drops`).
-/
import Libwebauthn.Webauthn.UvOutcome
import Libwebauthn.Transport.Mock

namespace Libwebauthn

open Ctap2UserVerifiableRequest

variable {σ T R : Type} [Ctap2UserVerifiableRequest R]

/-- The user was verified, or the device is asked to do it. -/
def UsedPinUvAuthToken.verifiesUser : UsedPinUvAuthToken → Bool
  | .fromEphemeralStorage => true
  | .fromPersistentStorage _ => true
  | .legacyUV => true
  | .newlyCalculated uvOperation => uvOperation.mintsToken
  | .sharedSecretOnly => false
  | .none => false

/-- A turn at which the device offers nothing but a shared secret. -/
def UvTurn.offersOnlySharedSecret (turn : UvTurn) : Bool :=
  turn.info.offersOnlySharedSecret turn.blocked

theorem UvTurn.offersOnlySharedSecret_iff {turn : UvTurn} :
    turn.offersOnlySharedSecret = true ↔ turn.operation = some .onlyForSharedSecret :=
  (Ctap2GetInfoResponse.uvOperation_eq_onlyForSharedSecret_iff turn.blocked).symm

theorem UvTurn.not_offersOnlySharedSecret {turn : UvTurn}
    {uvOperation : Ctap2UserVerificationOperation} (hop : turn.operation = some uvOperation)
    (hne : uvOperation ≠ .onlyForSharedSecret) : turn.offersOnlySharedSecret = false := by
  rw [Bool.eq_false_iff]
  intro honly
  rw [UvTurn.offersOnlySharedSecret_iff, hop] at honly
  exact hne (Option.some.inj honly)

theorem UvTurn.MintsToken.not_offersOnlySharedSecret {turn : UvTurn} (h : turn.MintsToken) :
    turn.offersOnlySharedSecret = false := by
  obtain ⟨uvOperation, hop, hmints⟩ := h
  refine turn.not_offersOnlySharedSecret hop ?_
  rintro rfl
  cases hmints

/-- Over the turns of an outcome: those before the last one mint tokens. -/
theorem forall_turns_iff {turns : List UvTurn} {last : UvTurn}
    (hturns : ∀ turn ∈ turns, turn.MintsToken) :
    (∀ turn ∈ turns ++ [last], turn.offersOnlySharedSecret = false)
      ↔ last.offersOnlySharedSecret = false := by
  constructor
  · exact fun h => h last (by simp)
  · intro hlast turn hmem
    rcases List.mem_append.mp hmem with hmem | hmem
    · exact (hturns turn hmem).not_offersOnlySharedSecret
    · rw [List.mem_singleton.mp hmem]
      exact hlast

/-- Required verification, outcome by outcome. -/
theorem UvOutcome.verifiesUser_iff {crypto : Crypto} {info : Ctap2GetInfoResponse}
    {request request' : R}
    {before after : Option AuthTokenData} {turns : List UvTurn} {used : UsedPinUvAuthToken}
    (h : UvOutcome crypto .required info request before turns after used request') :
    used.verifiesUser = true ↔ ∀ turn ∈ turns, turn.offersOnlySharedSecret = false := by
  cases h with
  | persistent => simp [UsedPinUvAuthToken.verifiesUser]
  | ephemeral => simp [UsedPinUvAuthToken.verifiesUser]
  | skipped hrequirement => exact absurd rfl hrequirement
  | legacy hturns hlast =>
      rw [forall_turns_iff hturns]
      exact ⟨fun _ => UvTurn.not_offersOnlySharedSecret hlast (by decide), fun _ => rfl⟩
  | sharedSecret hturns hlast hwhy =>
      rw [forall_turns_iff hturns]
      -- under a required verification only the turn offering the shared secret leaves it
      -- out
      have honly : UvTurn.offersOnlySharedSecret _ = true :=
        UvTurn.offersOnlySharedSecret_iff.mpr (hlast.trans (by
          rcases hwhy with rfl | hdiscouraged
          · rfl
          · cases hdiscouraged))
      rw [honly]
      constructor
      · intro hused
        cases hused
      · intro hfalse
        cases hfalse
  | minted hturns hlast hmints =>
      rw [forall_turns_iff hturns]
      exact ⟨fun _ => hlast.not_offersOnlySharedSecret, fun _ => hmints⟩

/-- With verification required, a user verification that returns has
verified the user exactly when no turn of its loop found a device that
offers only a shared secret. -/
theorem userVerification_required_iff (p : Platform σ T) (fuel : Nat) (request : R) (env : σ)
    (authData : Option AuthTokenData) {used : UsedPinUvAuthToken} {request' : R}
    {w' : World σ T}
    (hrun : p.userVerification fuel .required request (World.start env authData)
      = (.ok (used, request'), w')) :
    used.verifiesUser = true
      ↔ ∀ turn ∈ w'.session.turns, turn.offersOnlySharedSecret = false := by
  obtain ⟨info, turns, after, -, hsession, houtcome⟩ :=
    (p.userVerification_spec fuel .required request _).ok rfl hrun
  rw [hsession]
  exact houtcome.verifiesUser_iff

/-- A makeCredential request with nothing but the mandatory members. -/
def plainMakeCredential : Ctap2MakeCredentialRequest :=
  { Ctap2MakeCredentialRequest.dummy with pinAuthParam := none, pinAuthProto := none }

/-- A device that verifies the user and hands out a token. -/
def verifyingDevice : MockChannel :=
  { getInfo := [builtInUvInfo]
    clientPin := [.ok keyAgreementAnswer,
      .ok { pinUvAuthToken := some (List.replicate 32 9) }] }

theorem userVerification_required_iff_verifying :
    UsedPinUvAuthToken.verifiesUser (.newlyCalculated .getPinUvAuthTokenUsingUvWithPermissions)
        = true
      ↔ ∀ turn ∈ ((mockPlatform true).userVerification 3 .required plainMakeCredential
          (World.start verifyingDevice none)).2.session.turns,
        turn.offersOnlySharedSecret = false :=
  userVerification_required_iff (mockPlatform true) 3 plainMakeCredential verifyingDevice none rfl

/-- A device whose built-in UV is blocked when the token is asked for. -/
def blockedDevice : MockChannel :=
  { getInfo := [builtInUvInfo]
    clientPin := [.ok keyAgreementAnswer, .error (.ctap .uvBlocked), .ok keyAgreementAnswer] }

/-- Required verification ends with a shared secret when built-in UV gets
blocked and no PIN is set. -/
theorem userVerification_required_drops :
    ((mockPlatform true).userVerification 3 .required plainMakeCredential
      (World.start blockedDevice none)).1 = .ok (.sharedSecretOnly, plainMakeCredential) := rfl

end Libwebauthn
