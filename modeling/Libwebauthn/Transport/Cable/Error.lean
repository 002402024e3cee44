/-
  Libwebauthn.Transport.Cable.Error — the errors of the hybrid transport
  (`src/transport/cable/error.rs`).

  The causes that come from other libraries are kept as their text.
-/
import Libwebauthn.Lib.Bytes

namespace Libwebauthn.Transport.Cable

inductive CableTunnelError where
  /-- HTTP 410 Gone. -/
  | gone
  | unexpectedStatus (status : UInt16)
  | tooManyRedirects
  deriving Repr, DecidableEq

inductive CableError where
  | noise (cause : String)
  | io (cause : String)
  | webSocket (cause : String)
  | cbor (cause : String)
  | url (cause : String)
  | uuid (cause : String)
  | httpHeader (cause : String)
  | cableTunnel (error : CableTunnelError)
  | connectionFailed
  | connectionLost
  | invalidEndpoint
  | invalidFraming
  | transportUnavailable
  | timeout
  | invalidKey
  | invalidSignature
  | encryptionFailed
  deriving Repr, DecidableEq

end Libwebauthn.Transport.Cable
