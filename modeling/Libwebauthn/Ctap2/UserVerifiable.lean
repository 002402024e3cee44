/-
  Libwebauthn.Ctap2.UserVerifiable — requests that carry a pinUvAuthParam
  (`Ctap2UserVerifiableRequest` of `src/proto/ctap2/model.rs`).

  The methods that change `&mut self` return the changed request.
-/
import Libwebauthn.Ctap2.GetInfo
import Libwebauthn.Pin.Protocol

namespace Libwebauthn

class Ctap2UserVerifiableRequest (R : Type) where
  ensureUvSet : R → R
  calculateAndSetUvAuth :
    Crypto → R → Ctap2PinUvAuthProtocol → (uvAuthToken : Bytes) → Except PlatformError R
  permissions : R → Ctap2AuthTokenPermissionRole
  permissionsRpid : R → Option String
  canUseUv : R → Ctap2GetInfoResponse → Bool
  handleLegacyPreview : R → Ctap2GetInfoResponse → R := fun r _ => r
  needsSharedSecret : R → Ctap2GetInfoResponse → Bool
  setPersistentTokenUse : R → Ctap2GetInfoResponse → (storeAvailable : Bool) → R := fun r _ _ => r
  wantsPersistentToken : R → Bool := fun _ => false
  notePersistentTokenRejected : R → R := id
  persistentTokenRejected : R → Bool := fun _ => false
  needsPinUvAuthToken : R → Ctap2GetInfoResponse → Bool := fun _ _ => false

/-- A request type that leaves the persistent token hooks at their defaults
and has no preview commands. -/
class EphemeralTokenRequest (R : Type) [Ctap2UserVerifiableRequest R] : Prop where
  handleLegacyPreview : ∀ (r : R) info, Ctap2UserVerifiableRequest.handleLegacyPreview r info = r
  setPersistentTokenUse :
    ∀ (r : R) info store, Ctap2UserVerifiableRequest.setPersistentTokenUse r info store = r
  wantsPersistentToken : ∀ r : R, Ctap2UserVerifiableRequest.wantsPersistentToken r = false

end Libwebauthn
