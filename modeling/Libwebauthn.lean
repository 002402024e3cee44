import Libwebauthn.Lib.Bytes
import Libwebauthn.Lib.Segments
import Libwebauthn.Lib.Feed
import Libwebauthn.Lib.Proc
import Libwebauthn.Lib.Cbor
import Libwebauthn.Lib.CborReader
import Libwebauthn.Lib.CborItem
import Libwebauthn.LargeBlob.RawEntries
import Libwebauthn.Transport.Hid.Framing
import Libwebauthn.Transport.Hid.RoundTrip
import Libwebauthn.Transport.Hid.Wire
import Libwebauthn.Transport.Hid.Channel
import Libwebauthn.Transport.Hid.Isolation
import Libwebauthn.Transport.Ble.Framing
import Libwebauthn.Transport.Ble.RoundTrip
import Libwebauthn.Webauthn.UserVerification
import Libwebauthn.Webauthn.UvOutcome
import Libwebauthn.Webauthn.Required
import Libwebauthn.LargeBlob.Transfer
import Libwebauthn.LargeBlob.MapUpdate
import Libwebauthn.Webauthn.Ceremony
import Libwebauthn.Webauthn.Attempts
import Libwebauthn.Webauthn.Runs
import Libwebauthn.Webauthn.Opening
import Libwebauthn.Webauthn.AuthParam
import Libwebauthn.Webauthn.HmacEnvelope
import Libwebauthn.Transport.Hid.Soundness
import Libwebauthn.Transport.Cable.L2cap
import Libwebauthn.Transport.Ble.Connection
import Libwebauthn.Transport.Ble.Soundness
import Libwebauthn.Transport.Cable.Outcome
import Libwebauthn.Transport.Cable.Channel
import Libwebauthn.Ctap1.Apdu
import Libwebauthn.Transport.Cable.KnownDevices
import Libwebauthn.Transport.Hid.Operations
import Libwebauthn.Webauthn.Operations
import Libwebauthn.Webauthn.CacheScope
import Libwebauthn.Webauthn.StaleTokens
import Libwebauthn.Webauthn.NamedCredential
import Libwebauthn.Webauthn.PrfSalts
import Libwebauthn.Ctap1.Exclusion
import Libwebauthn.Ops.U2fSigned
import Libwebauthn.Webauthn.U2fSigning
import Libwebauthn.Webauthn.Restricted
import Libwebauthn.Webauthn.Announced
import Libwebauthn.Webauthn.MessageSize
import Libwebauthn.Webauthn.AppidExclude
import Libwebauthn.Lib.Labels
import Libwebauthn.Psl.PublicSuffixList
import Libwebauthn.Psl.Dafsa
import Libwebauthn.Psl.DafsaFormat
import Libwebauthn.Lib.Utf8
import Libwebauthn.Psl.Rules
import Libwebauthn.Psl.Backends
import Libwebauthn.Idl.Origin
import Libwebauthn.Transport.Hid.Capacity
import Libwebauthn.LargeBlob.Chunks
import Libwebauthn.LargeBlob.Rules
import Libwebauthn.Lib.Escape
import Libwebauthn.Lib.Base64
import Libwebauthn.Ops.CollectedClientData
import Libwebauthn.Webauthn.ExcludeList
import Libwebauthn.Lib.Canonical
import Libwebauthn.Webauthn.CanonicalRequests
import Libwebauthn.Webauthn.PrfPaths
import Libwebauthn.Webauthn.PinAgreement
import Libwebauthn.Lib.Trace
import Libwebauthn.Webauthn.UvTurns
import Libwebauthn.Webauthn.TokenRequests
import Libwebauthn.Webauthn.TokenBound
import Libwebauthn.Lib.Machine
import Libwebauthn.Psl.Lookup
import Libwebauthn.Lib.FirstDistinct
import Libwebauthn.Ops.RelatedOrigins
import Libwebauthn.Transport.Hid.Cancellation
import Libwebauthn.Transport.Cable.Framing
import Libwebauthn.Transport.Cable.DigitEncode
import Libwebauthn.Transport.Cable.QrCode
import Libwebauthn.Transport.Cable.Proximity
import Libwebauthn.Transport.Cable.Stages
import Libwebauthn.Lib.Cursor
import Libwebauthn.Ops.AuthenticatorData
import Libwebauthn.Lib.Iso7816
import Libwebauthn.Ctap1.ApduEncoding
import Libwebauthn.Transport.Nfc.Channel
import Libwebauthn.Webauthn.RetryBound
import Libwebauthn.Lib.Keyed
import Libwebauthn.Webauthn.SharedStore
import Libwebauthn.Webauthn.StoreRuns
import Libwebauthn.Lib.Lockstep
import Libwebauthn.Webauthn.Lockstep
import Libwebauthn.Webauthn.Settled
import Libwebauthn.Webauthn.Authenticator
import Libwebauthn.Webauthn.PreflightOutcome
import Libwebauthn.Transport.Hid.Init
import Libwebauthn.Idl.FromIdlModel
import Libwebauthn.Webauthn.PinDevice
import Libwebauthn.Ctap2.Cose
import Libwebauthn.Ops.ResponseJson
import Libwebauthn.Webauthn.Verifiable
import Libwebauthn.Management.SignedData
import Libwebauthn.Management.Enumeration
