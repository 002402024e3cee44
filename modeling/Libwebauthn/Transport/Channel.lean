/-
  Libwebauthn.Transport.Channel — a channel to an authenticator, and the
  procedures that run on it.

  Everything outside the modelled code answers through a `Platform σ T`.  Its
  state `σ` is arbitrary, so the answers to two equal commands may differ.  A
  procedure runs on a `World`: that state with what the channel itself keeps,
  the wire log of commands and answers, and the log of what the ceremonies did.
-/
import Libwebauthn.Lib.Proc
import Libwebauthn.Ctap2.MakeCredential
import Libwebauthn.LargeBlob.Array

namespace Libwebauthn

/-! ## §1. Commands without a request type of their own so far. -/

structure Ctap2LargeBlobsRequest where
  get : Option Nat := none
  set : Option Bytes := none
  offset : Nat
  length : Option Nat := none
  pinUvAuthParam : Option Bytes := none
  pinUvAuthProtocol : Option Nat := none
  deriving Repr, DecidableEq

structure Ctap2LargeBlobsResponse where
  config : Option Bytes
  deriving Repr, DecidableEq

abbrev PersistentTokenRecordId := String

structure PersistentTokenRecord where
  persistentToken : Bytes
  pinUvAuthProtocol : Ctap2PinUvAuthProtocol
  deviceIdentifier : Bytes
  aaguid : Bytes
  deriving Repr, DecidableEq

/-! ## §2. What the user is shown and asked. -/

inductive PinRequestReason where
  | relyingPartyRequest
  | authenticatorPolicy
  | fallbackFromUV
  deriving Repr, DecidableEq

inductive PinNotSetReason where
  | pinNotSet
  | pinTooShort
  | pinTooLong
  | pinPolicyViolation
  | pinChangeRequired
  deriving Repr, DecidableEq

inductive UvUpdate where
  | uvRetry (attemptsLeft : Option Nat)
  | presenceRequired
  deriving Repr, DecidableEq

/-! ## §3. The log of a ceremony. -/

/-- How a user verification ended. -/
inductive UsedPinUvAuthToken where
  | fromEphemeralStorage
  | fromPersistentStorage (id : PersistentTokenRecordId)
  | newlyCalculated (uvOperation : Ctap2UserVerificationOperation)
  | legacyUV
  | sharedSecretOnly
  | none
  deriving Repr, DecidableEq

/-- A turn of the loop in `user_verification_helper`: the getInfo in force,
and whether built-in UV is out of the question. -/
structure UvTurn where
  info : Ctap2GetInfoResponse
  blocked : Bool
  deriving Repr, DecidableEq

/-- What a user verification goes by: the data of the channel, the getInfo
answer it begins with, and the turns of its loop. -/
structure Verification where
  before : Option AuthTokenData
  info : Option Ctap2GetInfoResponse
  turns : List UvTurn

/-- A turn of a retry loop: the request before its user verification, how
that ended, what was sent under which channel data, and what the verification
went by. -/
structure Attempt (T R A : Type) where
  entry : R
  used : UsedPinUvAuthToken
  authData : Option AuthTokenData
  sent : R
  answer : Except (WebAuthnError T) A
  verification : Verification

/-- A command on the wire with its answer. -/
inductive Exchange (T : Type) where
  | getInfo (answer : Except (WebAuthnError T) Ctap2GetInfoResponse)
  | clientPin (request : Ctap2ClientPinRequest)
      (answer : Except (WebAuthnError T) Ctap2ClientPinResponse)
  | makeCredential (request : Ctap2MakeCredentialRequest)
      (answer : Except (WebAuthnError T) Ctap2MakeCredentialResponse)
  | getAssertion (request : Ctap2GetAssertionRequest)
      (answer : Except (WebAuthnError T) Ctap2GetAssertionResponse)
  | getNextAssertion (answer : Except (WebAuthnError T) Ctap2GetAssertionResponse)
  | largeBlobs (request : Ctap2LargeBlobsRequest)
      (answer : Except (WebAuthnError T) Ctap2LargeBlobsResponse)

/-- The commands around a ceremony: they make no credential and ask for no
assertion. -/
def Exchange.Auxiliary {T : Type} : Exchange T → Prop
  | .getInfo _ | .clientPin _ _ | .largeBlobs _ _ => True
  | .makeCredential _ _ | .getAssertion _ _ | .getNextAssertion _ => False

/-- The clientPIN commands that only read. -/
def Exchange.Query {T : Type} : Exchange T → Prop
  | .clientPin request _ => request.IsQuery
  | _ => False

/-- A query is one of the commands that a ceremony does not count. -/
theorem Exchange.Query.auxiliary {T : Type} {x : Exchange T} (h : x.Query) : x.Auxiliary := by
  cases x <;> first | exact h.elim | trivial

/-- What the ceremonies on a channel did: the turns of the two retry loops,
and the answers `get_assertion_fido2` accepted. -/
structure CeremonyLog (T : Type) where
  made : List (Attempt T Ctap2MakeCredentialRequest Ctap2MakeCredentialResponse) := []
  asserted : List (Attempt T Ctap2GetAssertionRequest Ctap2GetAssertionResponse) := []
  responses : List Ctap2GetAssertionResponse := []

/-- What the channel keeps (`authData`), with the turns of its user
verifications and the log of its ceremonies. -/
structure Session (T : Type) where
  authData : Option AuthTokenData := none
  turns : List UvTurn := []
  log : CeremonyLog T := {}

structure World (σ T : Type) where
  env : σ
  wire : List (Exchange T) := []
  session : Session T := {}

/-- The world a run starts in: auth data on the channel, nothing logged. -/
def World.start {σ T : Type} (env : σ) (authData : Option AuthTokenData) : World σ T :=
  { env := env, session := { authData := authData } }

/-- A world that differs by commands only: same session, more on the wire. -/
structure World.Later {σ T : Type} (w w' : World σ T) : Prop where
  session : w'.session = w.session
  wire : w.wire <+: w'.wire

instance (σ T : Type) : IsPreorder (World σ T) World.Later where
  refl _ := ⟨rfl, List.prefix_refl _⟩
  trans _ _ _ h h' := ⟨h'.session.trans h.session, h.wire.trans h'.wire⟩

/-- Such a world, in which all that was sent since is in `S`. -/
structure World.Sent {σ T : Type} (S : Exchange T → Prop) (w w' : World σ T) : Prop where
  session : w'.session = w.session
  wire : ∃ sent, w'.wire = w.wire ++ sent ∧ ∀ x ∈ sent, S x

instance (σ T : Type) (S : Exchange T → Prop) : IsPreorder (World σ T) (World.Sent S) where
  refl _ := ⟨rfl, [], (List.append_nil _).symm, by simp⟩
  trans _ _ _ h h' := by
    obtain ⟨sent, hsent, hS⟩ := h.wire
    obtain ⟨sent', hsent', hS'⟩ := h'.wire
    refine ⟨h'.session.trans h.session, sent ++ sent', ?_, fun x hx => ?_⟩
    · rw [hsent', hsent, List.append_assoc]
    · exact (List.mem_append.mp hx).elim (hS x) (hS' x)

/-! ## §4. The platform. -/

structure Platform (σ T : Type) where
  crypto : Crypto
  codecs : Codecs
  supportsPreflight : Bool
  getInfo : σ → Except (WebAuthnError T) Ctap2GetInfoResponse × σ
  clientPin : Ctap2ClientPinRequest → σ → Except (WebAuthnError T) Ctap2ClientPinResponse × σ
  makeCredential :
    Ctap2MakeCredentialRequest → σ → Except (WebAuthnError T) Ctap2MakeCredentialResponse × σ
  getAssertion :
    Ctap2GetAssertionRequest → σ → Except (WebAuthnError T) Ctap2GetAssertionResponse × σ
  getNextAssertion : σ → Except (WebAuthnError T) Ctap2GetAssertionResponse × σ
  largeBlobs : Ctap2LargeBlobsRequest → σ → Except (WebAuthnError T) Ctap2LargeBlobsResponse × σ
  uxUpdate : UvUpdate → σ → σ
  /-- The PIN the user enters; `none` when the request is dropped. -/
  pinRequired : PinRequestReason → (attemptsLeft : Option Nat) → σ → Option String × σ
  pinNotSet : PinNotSetReason → σ → Option String × σ
  /-- Whether a persistent token store is configured. -/
  persistentTokenStore : Bool
  storeList : σ → List (PersistentTokenRecordId × PersistentTokenRecord) × σ
  storePut : PersistentTokenRecordId → PersistentTokenRecord → σ → σ
  storeDelete : PersistentTokenRecordId → σ → σ
  /-- `n` random bytes. -/
  random : (n : Nat) → σ → Bytes × σ
  random_length : ∀ n s, (random n s).1.length = n

/-- A procedure on a channel. -/
abbrev Ctap (σ T α : Type) := Proc (World σ T) (WebAuthnError T) α

namespace Ctap

variable {σ T α β : Type}

/-- Ask the platform, off the wire. -/
def ask (answer : σ → α × σ) : Ctap σ T α := fun w =>
  (.ok (answer w.env).1, { w with env := (answer w.env).2 })

/-- Tell the platform. -/
def tell (effect : σ → σ) : Ctap σ T Unit := Proc.modify fun w => { w with env := effect w.env }

/-- Send a command and take its answer. -/
def command (answer : σ → Except (WebAuthnError T) α × σ)
    (exchange : Except (WebAuthnError T) α → Exchange T) : Ctap σ T α := fun w =>
  let (a, env) := answer w.env
  let w' := { w with env := env, wire := w.wire ++ [exchange a] }
  match a with
  | .ok x => (.ok x, w')
  | .error e => (.error e, w')

def session : Ctap σ T (Session T) := fun w => (.ok w.session, w)

def modifySession (f : Session T → Session T) : Ctap σ T Unit :=
  Proc.modify fun w => { w with session := f w.session }

def modifyLog (f : CeremonyLog T → CeremonyLog T) : Ctap σ T Unit :=
  modifySession fun s => { s with log := f s.log }

/-- `channel.get_auth_data()`. -/
def getAuthData : Ctap σ T (Option AuthTokenData) := fun w => (.ok w.session.authData, w)

def storeAuthData (authData : AuthTokenData) : Ctap σ T Unit :=
  modifySession fun s => { s with authData := some authData }

def clearUvAuthTokenStore : Ctap σ T Unit :=
  modifySession fun s => { s with authData := none }

/-- The `?` operator on a platform error. -/
def liftPlatform (r : Except PlatformError α) : Ctap σ T α :=
  Proc.ofExcept (Libwebauthn.liftPlatform r)

/-- `m` does nothing but send commands and ask questions. -/
def Quiet {ε : Type} (m : Proc (World σ T) ε α) : Prop := Proc.Advances World.Later m

/-- What is quiet leaves the session: its token and its log. -/
theorem Quiet.keeps_session {ε : Type} {m : Proc (World σ T) ε α} (h : Quiet m) :
    Proc.Keeps World.session m :=
  fun w => (h w).session

/-- A command adds the one exchange that its answer makes. -/
theorem sends_command (answer : σ → Except (WebAuthnError T) α × σ)
    (exchange : Except (WebAuthnError T) α → Exchange T) {S : Exchange T → Prop}
    (h : ∀ a, S (exchange a)) :
    Proc.Advances (World.Sent S) (command answer exchange : Ctap σ T α) := by
  intro w
  unfold command
  rcases answer w.env with ⟨a, env⟩
  have hsent : ∀ x ∈ [exchange a], S x := fun x hx => by
    rw [List.mem_singleton.mp hx]
    exact h a
  cases a <;> exact ⟨rfl, _, rfl, hsent⟩

/-- A command, with its answer as a result. -/
theorem attempt_command {ε : Type} (answer : σ → Except (WebAuthnError T) α × σ)
    (exchange : Except (WebAuthnError T) α → Exchange T) (w : World σ T) :
    (Proc.attempt (command answer exchange) : Proc (World σ T) ε _) w
      = (.ok (answer w.env).1, { w with
          env := (answer w.env).2, wire := w.wire ++ [exchange (answer w.env).1] }) := by
  unfold Proc.attempt command
  rcases answer w.env with ⟨a, env⟩
  cases a <;> rfl

/-- A command is over when it is answered; waiting is left to the device. -/
theorem ends_command (answer : σ → Except (WebAuthnError T) α × σ)
    (exchange : Except (WebAuthnError T) α → Exchange T) :
    Proc.Ends (command answer exchange : Ctap σ T α) := by
  intro w
  unfold command
  rcases answer w.env with ⟨a, env⟩
  cases a <;> exact fun h => by cases h

theorem ends_liftPlatform (r : Except PlatformError α) :
    Proc.Ends (liftPlatform r : Ctap σ T α) :=
  Proc.Ends.ofExcept _

/-- A procedure made of questions to the platform, and of commands to the
device whose exchanges are in `S`.  It does not change the session, and of the
session it reads the channel's data only. -/
inductive Dialogue (S : Exchange T → Prop) : ∀ {ε α : Type}, Proc (World σ T) ε α → Prop where
  | pure {ε α : Type} (a : α) : Dialogue S (Pure.pure a : Proc (World σ T) ε α)
  | throw {ε α : Type} (e : ε) : Dialogue S (Proc.throw e : Proc (World σ T) ε α)
  | bind {ε α β : Type} {m : Proc (World σ T) ε α} {k : α → Proc (World σ T) ε β}
      (hm : Dialogue S m) (hk : ∀ a, Dialogue S (k a)) : Dialogue S (m >>= k)
  | attempt {ε ε' α : Type} {m : Proc (World σ T) ε α} (hm : Dialogue S m) :
      Dialogue S (Proc.attempt m : Proc (World σ T) ε' (Except ε α))
  | mapError {ε ε' α : Type} {m : Proc (World σ T) ε α} {f : ε → ε'} (hm : Dialogue S m) :
      Dialogue S (Proc.mapError f m)
  | loop {ε α β : Type} {body : β → Proc (World σ T) ε (β ⊕ α)}
      (hbody : ∀ b, Dialogue S (body b)) (fuel : Nat) (b : β) :
      Dialogue S (Proc.loop body fuel b)
  | ask {α : Type} (answer : σ → α × σ) : Dialogue S (Ctap.ask answer)
  | tell (effect : σ → σ) : Dialogue S (Ctap.tell effect)
  | command {α : Type} (answer : σ → Except (WebAuthnError T) α × σ)
      (exchange : Except (WebAuthnError T) α → Exchange T) (h : ∀ a, S (exchange a)) :
      Dialogue S (Ctap.command answer exchange)
  | getAuthData : Dialogue S Ctap.getAuthData

namespace Dialogue

variable {ε : Type} {S S' : Exchange T → Prop}

theorem ofExcept (r : Except ε α) : Dialogue S (Proc.ofExcept r : Proc (World σ T) ε α) := by
  cases r with
  | ok a => exact .pure a
  | error e => exact .throw e

theorem liftPlatform (r : Except PlatformError α) :
    Dialogue S (Ctap.liftPlatform r : Ctap σ T α) :=
  ofExcept _

/-- A dialogue may be said to keep to more. -/
theorem mono {m : Proc (World σ T) ε α} (h : Dialogue S m) (hS : ∀ x, S x → S' x) :
    Dialogue S' m := by
  induction h with
  | pure a => exact .pure a
  | throw e => exact .throw e
  | bind _ _ hm hk => exact .bind hm hk
  | attempt _ hm => exact .attempt hm
  | mapError _ hm => exact .mapError hm
  | loop _ fuel b hbody => exact .loop hbody fuel b
  | ask answer => exact .ask answer
  | tell effect => exact .tell effect
  | command answer exchange h => exact .command answer exchange fun a => hS _ (h a)
  | getAuthData => exact .getAuthData

/-- What a dialogue puts on the wire is in its set. -/
theorem sends {m : Proc (World σ T) ε α} (h : Dialogue S m) :
    Proc.Advances (World.Sent S) m := by
  induction h with
  | pure a => exact Proc.Advances.pure a
  | throw e => exact Proc.Advances.throw e
  | bind _ _ hm hk => exact Proc.Advances.bind hm hk
  | attempt _ hm => exact Proc.Advances.attempt hm
  | mapError _ hm => exact Proc.Advances.mapError hm
  | loop _ fuel b hbody => exact Proc.Advances.loop hbody fuel b
  | ask answer => exact fun w => ⟨rfl, [], (List.append_nil _).symm, by simp⟩
  | tell effect => exact fun w => ⟨rfl, [], (List.append_nil _).symm, by simp⟩
  | command answer exchange h => exact sends_command answer exchange h
  | getAuthData => exact fun w => ⟨rfl, [], (List.append_nil _).symm, by simp⟩

/-- Nothing else of the world is written. -/
theorem quiet {m : Proc (World σ T) ε α} (h : Dialogue S m) : Quiet m :=
  h.sends.mono fun _ _ hsent =>
    ⟨hsent.session, hsent.wire.elim fun _ heq => heq.1 ▸ List.prefix_append _ _⟩

theorem keeps_session {m : Proc (World σ T) ε α} (h : Dialogue S m) :
    Proc.Keeps World.session m :=
  h.quiet.keeps_session

end Dialogue

/-- A dialogue that ends. -/
structure Concludes (S : Exchange T → Prop) {ε α : Type} (m : Proc (World σ T) ε α) : Prop where
  dialogue : Dialogue S m
  ends : Proc.Ends m

namespace Concludes

variable {ε ε' : Type} {S S' : Exchange T → Prop}

theorem pure (a : α) : Concludes S (Pure.pure a : Proc (World σ T) ε α) :=
  ⟨.pure a, .pure a⟩

theorem throw (e : ε) : Concludes S (Proc.throw e : Proc (World σ T) ε α) :=
  ⟨.throw e, .throw e⟩

/-- One part behind the other, each of which comes to an end. -/
theorem bind {m : Proc (World σ T) ε α} {k : α → Proc (World σ T) ε β} (hm : Concludes S m)
    (hk : ∀ a, Concludes S (k a)) : Concludes S (m >>= k) :=
  ⟨.bind hm.dialogue fun a => (hk a).dialogue, .bind hm.ends fun a => (hk a).ends⟩

/-- A part that is tried comes to an end, with its error as a result. -/
theorem attempt {m : Proc (World σ T) ε α} (hm : Concludes S m) :
    Concludes S (Proc.attempt m : Proc (World σ T) ε' (Except ε α)) :=
  ⟨.attempt hm.dialogue, .attempt hm.ends⟩

theorem ask (answer : σ → α × σ) : Concludes S (Ctap.ask answer : Ctap σ T α) :=
  ⟨.ask answer, fun _ h => (by cases h)⟩

theorem tell (effect : σ → σ) : Concludes S (Ctap.tell effect : Ctap σ T Unit) :=
  ⟨.tell effect, fun _ h => (by cases h)⟩

/-- A command concludes with the one exchange that its answer makes. -/
theorem command (answer : σ → Except (WebAuthnError T) α × σ)
    (exchange : Except (WebAuthnError T) α → Exchange T) (h : ∀ a, S (exchange a)) :
    Concludes S (Ctap.command answer exchange) :=
  ⟨.command answer exchange h, ends_command answer exchange⟩

theorem liftPlatform (r : Except PlatformError α) :
    Concludes S (Ctap.liftPlatform r : Ctap σ T α) :=
  ⟨.liftPlatform r, ends_liftPlatform r⟩

/-- What concludes may be said to keep to more. -/
theorem mono {m : Proc (World σ T) ε α} (h : Concludes S m) (hS : ∀ x, S x → S' x) :
    Concludes S' m :=
  ⟨h.dialogue.mono hS, h.ends⟩

end Concludes

end Ctap

namespace Platform

variable {σ T : Type} (p : Platform σ T)

def ctap2GetInfo : Ctap σ T Ctap2GetInfoResponse := Ctap.command p.getInfo .getInfo

def ctap2ClientPin (request : Ctap2ClientPinRequest) : Ctap σ T Ctap2ClientPinResponse :=
  Ctap.command (p.clientPin request) (.clientPin request)

def ctap2MakeCredential (request : Ctap2MakeCredentialRequest) :
    Ctap σ T Ctap2MakeCredentialResponse :=
  Ctap.command (p.makeCredential request) (.makeCredential request)

def ctap2GetAssertion (request : Ctap2GetAssertionRequest) : Ctap σ T Ctap2GetAssertionResponse :=
  Ctap.command (p.getAssertion request) (.getAssertion request)

def ctap2GetNextAssertion : Ctap σ T Ctap2GetAssertionResponse :=
  Ctap.command p.getNextAssertion .getNextAssertion

def ctap2LargeBlobs (request : Ctap2LargeBlobsRequest) : Ctap σ T Ctap2LargeBlobsResponse :=
  Ctap.command (p.largeBlobs request) (.largeBlobs request)

def sendUxUpdate (update : UvUpdate) : Ctap σ T Unit := Ctap.tell (p.uxUpdate update)

theorem dialogue_ctap2GetInfo : Ctap.Dialogue Exchange.Auxiliary p.ctap2GetInfo :=
  .command _ _ fun _ => trivial

/-- A clientPin command is one exchange, and auxiliary. -/
theorem dialogue_ctap2ClientPin (request : Ctap2ClientPinRequest) :
    Ctap.Dialogue Exchange.Auxiliary (p.ctap2ClientPin request) :=
  .command _ _ fun _ => trivial

/-- A large blob command is one exchange, and auxiliary. -/
theorem dialogue_ctap2LargeBlobs (request : Ctap2LargeBlobsRequest) :
    Ctap.Dialogue Exchange.Auxiliary (p.ctap2LargeBlobs request) :=
  .command _ _ fun _ => trivial

def randomBytes (n : Nat) : Ctap σ T Bytes := Ctap.ask (p.random n)

end Platform

end Libwebauthn
