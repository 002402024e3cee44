/-
  Libwebauthn.Transport.AuthTokenStore — what a channel remembers of the last
  user verification (`src/transport/channel.rs`).
-/
import Libwebauthn.Ctap2.Model
import Libwebauthn.Ctap2.ClientPin

namespace Libwebauthn

structure Ctap2AuthTokenPermission where
  pinUvAuthProtocol : Ctap2PinUvAuthProtocol
  role : Ctap2AuthTokenPermissionRole
  rpid : Option String
  deriving Repr, DecidableEq

def Ctap2AuthTokenPermission.contains (self requested : Ctap2AuthTokenPermission) : Bool :=
  if self.pinUvAuthProtocol ≠ requested.pinUvAuthProtocol then false
  else if self.rpid ≠ requested.rpid then false
  else self.role.contains requested.role

structure AuthTokenData where
  protocolVersion : Ctap2PinUvAuthProtocol
  keyAgreement : PublicKey
  sharedSecret : Bytes
  uvOperation : Ctap2UserVerificationOperation
  permission : Option Ctap2AuthTokenPermission
  pinUvAuthToken : Option Bytes
  deriving Repr, DecidableEq

/-- The stored token, when its permission covers the requested one.  The
argument is what `get_auth_data` gives. -/
def getUvAuthToken (authData : Option AuthTokenData)
    (requestedPermission : Ctap2AuthTokenPermission) : Option Bytes :=
  match authData with
  | none => none
  | some storedData =>
      match storedData.permission with
      | none => none
      | some permission =>
          if permission.contains requestedPermission then storedData.pinUvAuthToken else none

/-- A token that is handed out is the stored one. -/
theorem getUvAuthToken_eq_some {authData : Option AuthTokenData}
    {requested : Ctap2AuthTokenPermission} {token : Bytes}
    (h : getUvAuthToken authData requested = some token) :
    ∃ data, authData = some data ∧ data.pinUvAuthToken = some token := by
  cases authData with
  | none => cases h
  | some data =>
      refine ⟨data, rfl, ?_⟩
      unfold getUvAuthToken at h
      rcases hpermission : data.permission with _ | permission
      · simp [hpermission] at h
      · simp only [hpermission] at h
        split at h
        · exact h
        · cases h

end Libwebauthn
