/-
  Libwebauthn.Webauthn.Error — the errors of a ceremony
  (`src/webauthn/error.rs`, `src/proto/error.rs`).

  The transport error is a parameter: every channel brings its own.
-/
import Libwebauthn.Lib.Bytes

namespace Libwebauthn

/-- A CTAP status code. -/
inductive CtapError where
  | ok
  | invalidCommand
  | invalidParameter
  | invalidLength
  | invalidSeq
  | timeout
  | channelBusy
  | lockRequired
  | invalidChannel
  | invalidCborType
  | invalidCbor
  | missingParameter
  | limitExceeded
  | unsupportedExtension
  | fpDatabaseFull
  | largeBlobStorageFull
  | credentialExcluded
  | processing
  | invalidCredential
  | userActionPending
  | operationPending
  | noOperations
  | unsupportedAlgorithm
  | operationDenied
  | keyStoreFull
  | noOperationPending
  | unsupportedOption
  | invalidOption
  | keepAliveCancel
  | noCredentials
  | userActionTimeout
  | notAllowed
  | pinInvalid
  | pinBlocked
  | pinAuthInvalid
  | pinAuthBlocked
  | pinNotSet
  | pinRequired
  | pinPolicyViolation
  | pinTokenExpired
  | requestTooLarge
  | actionTimeout
  | userPresenceRequired
  | uvBlocked
  | integrityFailure
  | invalidSubcommand
  | uvInvalid
  | unauthorizedPermission
  | other
  | unknown (code : UInt8)
  deriving Repr, DecidableEq

/-- An error the platform finds by itself.  The text of `cborError` and of
`cryptoError` is the one the source passes on. -/
inductive PlatformError where
  | pinTooShort
  | pinTooLong
  | pinNotSupported
  | noUvAvailable
  | invalidDeviceResponse
  | requestTooLarge
  | notSupported
  | syntaxError
  | cborError (message : String)
  | cryptoError (message : String)
  | cancelled
  deriving Repr, DecidableEq

/-- `Error<E>` of `webauthn/error.rs`, under its re-exported name. -/
inductive WebAuthnError (T : Type) where
  | ctap (e : CtapError)
  | transport (e : T)
  | platform (e : PlatformError)
  deriving Repr, DecidableEq

/-- `From<PlatformError>`, as the `?` operator applies it. -/
def liftPlatform {T α : Type} (r : Except PlatformError α) : Except (WebAuthnError T) α :=
  r.mapError .platform

end Libwebauthn
