/-
  Libwebauthn.Management.Enumeration — credential management, and the listing of
  an authenticator's credentials (`src/management/credential_management.rs`, the
  loops of `examples/management/cred_management_hid.rs`).

  A listing is one begin command and a next command for every further entry.
  The authenticator keeps the place; the next commands carry no authentication,
  and are answered under the command code of the begin only, which the channel
  remembers.
-/
import Libwebauthn.Management.SignedData
import Libwebauthn.Webauthn.RetryBound
import Libwebauthn.Webauthn.Verifiable

namespace Libwebauthn

open Ctap2UserVerifiableRequest

variable {σ T : Type}

/-! ## §1. Answers. -/

structure Ctap2CredentialManagementResponse where
  existingResidentCredentialsCount : Option Nat := none
  maxPossibleRemainingResidentCredentialsCount : Option Nat := none
  rp : Option Ctap2PublicKeyCredentialRpEntity := none
  rpIdHash : Option Bytes := none
  totalRps : Option Nat := none
  user : Option Ctap2PublicKeyCredentialUserEntity := none
  credentialId : Option Ctap2PublicKeyCredentialDescriptor := none
  publicKey : Option Bytes := none
  totalCredentials : Option Nat := none
  credProtect : Option Nat := none
  largeBlobKey : Option Bytes := none
  deriving Repr, DecidableEq

structure Ctap2CredentialManagementMetadata where
  existingResidentCredentialsCount : Nat
  maxPossibleRemainingResidentCredentialsCount : Nat
  deriving Repr, DecidableEq

structure Ctap2RPData where
  rp : Ctap2PublicKeyCredentialRpEntity
  rpIdHash : Bytes
  deriving Repr, DecidableEq

structure Ctap2CredentialData where
  user : Ctap2PublicKeyCredentialUserEntity
  credentialId : Ctap2PublicKeyCredentialDescriptor
  publicKey : Bytes
  credProtect : Nat
  largeBlobKey : Option Bytes
  deriving Repr, DecidableEq

/-- `unwrap_field!`: every field that is not there is the same error. -/
def unwrapField {α : Type} (field : Option α) : Ctap σ T α :=
  match field with
  | some f => pure f
  | none => Proc.throw (.platform .invalidDeviceResponse)

namespace Ctap2CredentialManagementResponse

def metadata (self : Ctap2CredentialManagementResponse) :
    Option Ctap2CredentialManagementMetadata := do
  let existing ← self.existingResidentCredentialsCount
  let remaining ← self.maxPossibleRemainingResidentCredentialsCount
  pure ⟨existing, remaining⟩

def rpData (self : Ctap2CredentialManagementResponse) : Option Ctap2RPData := do
  let rp ← self.rp
  let rpIdHash ← self.rpIdHash
  pure ⟨rp, rpIdHash⟩

def credentialData (self : Ctap2CredentialManagementResponse) : Option Ctap2CredentialData := do
  let user ← self.user
  let credentialId ← self.credentialId
  let publicKey ← self.publicKey
  let credProtect ← self.credProtect
  pure ⟨user, credentialId, publicKey, credProtect, self.largeBlobKey⟩

end Ctap2CredentialManagementResponse

/-! ## §2. The operations. -/

/-- A platform with the credential management command; the preview mark is
kept by the channel. -/
structure CredentialManagement (σ T : Type) extends Platform σ T where
  credentialManagement : Ctap2CredentialManagementRequest → σ →
    Except (WebAuthnError T) Ctap2CredentialManagementResponse × σ
  setCredMgmtPreview : (usesPreview : Bool) → σ → σ
  credMgmtPreview : σ → Bool

namespace CredentialManagement

variable (p : CredentialManagement σ T)

def ctap2CredentialManagement (request : Ctap2CredentialManagementRequest) :
    Ctap σ T Ctap2CredentialManagementResponse :=
  Platform.answeredBy p.credentialManagement request

/-- What comes out of the loop: the answer, and whether its request went by
the preview command. -/
def management (check : Ctap2CredentialManagementRequest → Except (WebAuthnError T) Unit) :
    Platform.Management σ T Ctap2CredentialManagementRequest
      (Ctap2CredentialManagementResponse × Bool) where
  requirement := .preferred
  check := check
  send request := do
    let resp ← p.ctap2CredentialManagement request
    pure (resp, request.useLegacyPreview)
  notesRejection := true

/-- The loop of an operation on a request. -/
def manage (check : Ctap2CredentialManagementRequest → Except (WebAuthnError T) Unit)
    (fuel : Nat) (req : Ctap2CredentialManagementRequest) :
    Ctap σ T (Ctap2CredentialManagementResponse × Bool) :=
  p.managementLoop (p.management check) fuel req

def getCredentialMetadata (fuel : Nat) : Ctap σ T Ctap2CredentialManagementMetadata := do
  let (resp, _) ← p.manage (fun _ => .ok ()) fuel .newGetCredentialMetadata
  unwrapField resp.metadata

/-- The begin of a listing whose entries are read by `read`, and whose number
by `total`. -/
def enumerateBegin {α : Type} (read : Ctap2CredentialManagementResponse → Option α)
    (total : Ctap2CredentialManagementResponse → Option Nat) (fuel : Nat)
    (req : Ctap2CredentialManagementRequest) : Ctap σ T (α × Nat) := do
  let (resp, preview) ← p.manage (fun _ => .ok ()) fuel req
  Ctap.tell (p.setCredMgmtPreview preview)
  let entry ← unwrapField (read resp)
  let total ← unwrapField (total resp)
  pure (entry, total)

/-- The next entry, without a user verification. -/
def enumerateNext {α : Type} (read : Ctap2CredentialManagementResponse → Option α)
    (req : Ctap2CredentialManagementRequest) : Ctap σ T α := do
  let preview ← Ctap.ask fun s => (p.credMgmtPreview s, s)
  let resp ← p.ctap2CredentialManagement { req with useLegacyPreview := preview }
  unwrapField (read resp)

def enumerateRpsBegin (fuel : Nat) : Ctap σ T (Ctap2RPData × Nat) :=
  p.enumerateBegin (·.rpData) (·.totalRps) fuel .newEnumerateRpsBegin

def enumerateRpsNextRp : Ctap σ T Ctap2RPData :=
  p.enumerateNext (·.rpData) .newEnumerateRpsNextRp

def enumerateCredentialsBegin (fuel : Nat) (rpidHash : Bytes) :
    Ctap σ T (Ctap2CredentialData × Nat) :=
  p.enumerateBegin (·.credentialData) (·.totalCredentials) fuel
    (.newEnumerateCredentialsBegin rpidHash)

def enumerateCredentialsNext : Ctap σ T Ctap2CredentialData :=
  p.enumerateNext (·.credentialData) .newEnumerateCredentialsNext

def deleteCredential (fuel : Nat) (credentialId : Ctap2PublicKeyCredentialDescriptor) :
    Ctap σ T Unit := do
  let _ ← p.manage (fun _ => .ok ()) fuel (.newDeleteCredential credentialId)
  pure ()

/-- Preview mode does not support the sub-command. -/
def checkNotPreview (request : Ctap2CredentialManagementRequest) :
    Except (WebAuthnError T) Unit :=
  if request.useLegacyPreview then .error (.ctap .invalidCommand) else .ok ()

def updateUserInfo (fuel : Nat) (credentialId : Ctap2PublicKeyCredentialDescriptor)
    (user : Ctap2PublicKeyCredentialUserEntity) : Ctap σ T Unit := do
  let _ ← p.manage checkNotPreview fuel (.newUpdateUserInformation credentialId user)
  pure ()

end CredentialManagement

/-! ### The loops of a caller. -/

def CtapError.isRetryableUserError : CtapError → Bool
  | .pinInvalid | .uvInvalid | .userActionTimeout => true
  | _ => false

/-- `retry_user_errors!`. -/
def retryUserErrors {α : Type} (call : Ctap σ T α) (fuel : Nat) : Ctap σ T α :=
  Proc.loop (fun _ : Unit => do
    match ← Proc.attempt call with
    | .ok response => pure (.inr response)
    | .error (.ctap ctapError) =>
        if ctapError.isRetryableUserError then pure (.inl ()) else Proc.throw (.ctap ctapError)
    | .error err => Proc.throw err) fuel ()

/-- `count` further entries. -/
def collect {α : Type} (next : Ctap σ T α) : (count : Nat) → Ctap σ T (List α)
  | 0 => pure []
  | count + 1 => do
      let entry ← next
      let rest ← collect next count
      pure (entry :: rest)

def enumerate {α : Type} (begins : Ctap σ T (α × Nat)) (next : Ctap σ T α) :
    Ctap σ T (List α) := do
  let (entry, total) ← begins
  let rest ← collect next (total - 1)
  pure (entry :: rest)

namespace CredentialManagement

variable (p : CredentialManagement σ T)

def enumerateRps (fuel : Nat) : Ctap σ T (List Ctap2RPData) :=
  enumerate (retryUserErrors (p.enumerateRpsBegin fuel) fuel)
    (retryUserErrors p.enumerateRpsNextRp fuel)

def enumerateCredentialsForRp (fuel : Nat) (rpIdHash : Bytes) :
    Ctap σ T (List Ctap2CredentialData) :=
  enumerate (retryUserErrors (p.enumerateCredentialsBegin fuel rpIdHash) fuel)
    (retryUserErrors p.enumerateCredentialsNext fuel)

/-- `credlist`, relying party by relying party. -/
def credlist (fuel : Nat) : (rps : List Ctap2RPData) →
    Ctap σ T (List (Ctap2PublicKeyCredentialRpEntity × Ctap2CredentialData))
  | [] => pure []
  | rp :: rps => do
      let creds ← p.enumerateCredentialsForRp fuel rp.rpIdHash
      let rest ← credlist fuel rps
      pure (creds.map (fun cred => (rp.rp, cred)) ++ rest)

def listCredentials (fuel : Nat) :
    Ctap σ T (List (Ctap2PublicKeyCredentialRpEntity × Ctap2CredentialData)) := do
  let rps ← p.enumerateRps fuel
  p.credlist fuel rps

end CredentialManagement

/-! ## §3. What comes out of the loop. -/

/-- The same sub-command with the same parameters; a user verification
changes the rest. -/
def Ctap2CredentialManagementRequest.Asks (req sent : Ctap2CredentialManagementRequest) : Prop :=
  sent.subcommand = req.subcommand ∧ sent.subcommandParams = req.subcommandParams

namespace CredentialManagement

variable {p : CredentialManagement σ T}

/-- The device answered a request that asks what `req` does. -/
def Answered (p : CredentialManagement σ T)
    (check : Ctap2CredentialManagementRequest → Except (WebAuthnError T) Unit)
    (req : Ctap2CredentialManagementRequest) (resp : Ctap2CredentialManagementResponse)
    (preview : Bool) (s' : σ) : Prop :=
  ∃ sent s, req.Asks sent ∧ check sent = .ok () ∧ sent.useLegacyPreview = preview
    ∧ p.credentialManagement sent s = (.ok resp, s')

/-- What a turn leaves for the next one, or for the caller. -/
def TurnsTo (p : CredentialManagement σ T)
    (check : Ctap2CredentialManagementRequest → Except (WebAuthnError T) Unit)
    (req : Ctap2CredentialManagementRequest) :
    Ctap2CredentialManagementRequest ⊕ (Ctap2CredentialManagementResponse × Bool) →
      World σ T → Prop
  | .inl entry, _ => req.Asks entry
  | .inr answer, w => p.Answered check req answer.1 answer.2 w.env

/-- A verification changes the parameter and the protocol of a request, and not
what it asks for. -/
theorem asks_userVerification {fuel : Nat} {requirement : UserVerificationRequirement}
    {req entry : Ctap2CredentialManagementRequest} (hentry : req.Asks entry) :
    Proc.Triple (fun _ => True) (p.userVerification fuel requirement entry)
      (fun verified _ => req.Asks verified.2) (fun _ => True) := by
  intro w _
  rcases hrun : p.userVerification fuel requirement entry w with ⟨outcome, w'⟩
  cases outcome with
  | ok verified =>
      obtain ⟨used, verified⟩ := verified
      have hkeeps := p.userVerification_keeps
        (fun r : Ctap2CredentialManagementRequest => (r.subcommand, r.subcommandParams))
        (fun r info => by
          show (fun r : Ctap2CredentialManagementRequest => (r.subcommand, r.subcommandParams))
            (if _ then _ else _) = _
          split <;> rfl)
        (fun _ _ _ => rfl) (fun _ => rfl)
        (fun r r' uvProto token hauth => by
          obtain ⟨param, rfl⟩ := Platform.authenticated_eq hauth
          rfl) hrun
      obtain ⟨hsubcommand, hparams⟩ := Prod.mk.inj hkeeps
      exact ⟨hsubcommand.trans hentry.1, hparams.trans hentry.2⟩
  | error e => exact True.intro
  | running => exact True.intro

/-- A retry asks for the same. -/
theorem asks_retried
    {check : Ctap2CredentialManagementRequest → Except (WebAuthnError T) Unit}
    {req sent : Ctap2CredentialManagementRequest} (hsent : req.Asks sent)
    (used : UsedPinUvAuthToken) : req.Asks ((p.management check).retried used sent) := by
  unfold Platform.Management.retried
  split
  · exact hsent
  · exact hsent

theorem attempt_send {ε : Type}
    (check : Ctap2CredentialManagementRequest → Except (WebAuthnError T) Unit)
    (request : Ctap2CredentialManagementRequest) (w : World σ T) :
    (Proc.attempt ((p.management check).send request) : Proc (World σ T) ε _) w
      = (.ok ((p.credentialManagement request w.env).1.map (·, request.useLegacyPreview)),
        { w with env := (p.credentialManagement request w.env).2 }) := by
  unfold management ctap2CredentialManagement Platform.answeredBy Proc.attempt
  simp only [Proc.bind_apply, Ctap.ask]
  rcases p.credentialManagement request w.env with ⟨answer, s'⟩
  cases answer <;> rfl

/-- One turn: the answer is to a request that asks for what went in. -/
theorem managementTurn_answered
    (check : Ctap2CredentialManagementRequest → Except (WebAuthnError T) Unit) (fuel : Nat)
    {req entry : Ctap2CredentialManagementRequest} (hentry : req.Asks entry) :
    Proc.Triple (fun _ => True) (p.managementTurn (p.management check) fuel entry)
      (p.TurnsTo check req) (fun _ => True) := by
  refine Proc.Triple.bind _ (asks_userVerification hentry) fun verified => ?_
  refine Proc.Triple.bind (fun _ _ => (req.Asks verified.2 ∧ check verified.2 = .ok ()) ∧ True)
    (Proc.Triple.ofExcept (fun _ hcheck _ hasks => ⟨⟨hasks, hcheck⟩, trivial⟩)
      fun _ _ => trivial) fun _ => ?_
  refine Proc.Triple.of_fact fun hverified => ?_
  obtain ⟨hasks, hcheck⟩ := hverified
  refine Proc.Triple.bind (fun answer w => ∃ s,
    (p.credentialManagement verified.2 s).1.map (·, verified.2.useLegacyPreview) = answer
      ∧ (p.credentialManagement verified.2 s).2 = w.env) ?_ fun answer => ?_
  · intro w _
    rw [attempt_send]
    exact ⟨w.env, rfl, rfl⟩
  -- an answer that is one goes on as it is
  refine Proc.Triple.bind _ (handleErrors_some verified.1 answer _) fun handled => ?_
  cases handled with
  | none => exact Proc.Triple.pure fun _ _ => asks_retried hasks verified.1
  | some response =>
      refine Proc.Triple.pure fun w hw => ?_
      obtain ⟨hanswer, s, hsent, henv⟩ := hw response rfl
      rw [hanswer] at hsent
      rcases hcommand : p.credentialManagement verified.2 s with ⟨resp, s'⟩
      rw [hcommand] at hsent henv
      cases resp with
      | error e => cases hsent
      | ok resp =>
          obtain rfl := Except.ok.inj hsent
          obtain rfl := henv
          exact ⟨verified.2, s, hasks, hcheck, rfl, hcommand⟩

/-- **The answer is to the request that went in**, as the verifications of its
turns made it. -/
theorem manage_answered
    {check : Ctap2CredentialManagementRequest → Except (WebAuthnError T) Unit} {fuel : Nat}
    {req : Ctap2CredentialManagementRequest} {resp : Ctap2CredentialManagementResponse}
    {preview : Bool} {w w' : World σ T}
    (h : p.manage check fuel req w = (.ok (resp, preview), w')) :
    p.Answered check req resp preview w'.env := by
  have hloop : Proc.Triple (fun _ => req.Asks req)
      (Proc.loop (p.managementTurn (p.management check) fuel) fuel req)
      (fun answer => p.TurnsTo check req (.inr answer)) (fun _ => True) := by
    refine Proc.Triple.loop (fun entry _ => req.Asks entry) (fun entry => ?_)
      (fun _ _ _ => trivial) fuel req
    refine Proc.Triple.post (fun w hw => managementTurn_answered check fuel hw w trivial)
      fun next w hw => ?_
    cases next with
    | inl entry' => exact hw
    | inr answer => exact hw
  exact hloop.ok ⟨rfl, rfl⟩ h

end CredentialManagement

/-! ## §4. An authenticator that lists. -/

/-- The command code of a preview mark. -/
def commandOf (preview : Bool) : Ctap2CommandCode :=
  if preview then .authenticatorCredentialManagementPreview else .authenticatorCredentialManagement

/-- How an authenticator lists `entries`: an answered begin gives the first one
and their number, and an answered next command under its code the one at its
place, `pending`, from which it moves on.  One that is refused for an error of
the user leaves it there. -/
structure Enumerates {α : Type} (p : CredentialManagement σ T)
    (read : Ctap2CredentialManagementResponse → Option α)
    (total : Ctap2CredentialManagementResponse → Option Nat)
    (beginReq nextReq : Ctap2CredentialManagementRequest) (entries : List α)
    (pending : Ctap2CommandCode → List α → σ → Prop) : Prop where
  begins : ∀ {sent s resp s'}, beginReq.Asks sent →
    p.credentialManagement sent s = (.ok resp, s') →
    ∃ entry rest, entries = entry :: rest ∧ read resp = some entry
      ∧ total resp = some entries.length ∧ pending sent.command rest s'
  next : ∀ {code entry rest s sent resp s'}, pending code (entry :: rest) s →
    nextReq.Asks sent → sent.command = code → p.credentialManagement sent s = (.ok resp, s') →
    read resp = some entry ∧ pending code rest s' ∧ p.credMgmtPreview s' = p.credMgmtPreview s
  refused : ∀ {code entry rest s sent e s'}, pending code (entry :: rest) s →
    nextReq.Asks sent → sent.command = code →
    p.credentialManagement sent s = (.error (.ctap e), s') → e.isRetryableUserError = true →
    pending code (entry :: rest) s' ∧ p.credMgmtPreview s' = p.credMgmtPreview s
  marked : ∀ {code rest s} preview, pending code rest s →
    pending code rest (p.setCredMgmtPreview preview s)

/-- While entries are left, a next command is answered. -/
def AnswersNext {α : Type} (p : CredentialManagement σ T)
    (nextReq : Ctap2CredentialManagementRequest)
    (pending : Ctap2CommandCode → List α → σ → Prop) : Prop :=
  ∀ {code entry rest s sent}, pending code (entry :: rest) s → nextReq.Asks sent →
    sent.command = code → ∃ resp s', p.credentialManagement sent s = (.ok resp, s')

/-- The channel gives back the preview mark it was given. -/
def CredentialManagement.Remembers (p : CredentialManagement σ T) : Prop :=
  ∀ preview s, p.credMgmtPreview (p.setCredMgmtPreview preview s) = preview

section

variable {α : Type} {p : CredentialManagement σ T}
  {read : Ctap2CredentialManagementResponse → Option α}
  {total : Ctap2CredentialManagementResponse → Option Nat}
  {beginReq nextReq : Ctap2CredentialManagementRequest} {entries : List α}
  {pending : Ctap2CommandCode → List α → σ → Prop}

/-- The authenticator has `rest` to give, under the code that the channel
remembers. -/
def Pends (p : CredentialManagement σ T) (pending : Ctap2CommandCode → List α → σ → Prop)
    (rest : List α) (w : World σ T) : Prop :=
  pending (commandOf (p.credMgmtPreview w.env)) rest w.env

/-- A field that is there is taken, without a step. -/
theorem unwrapField_eq_ok_iff {β : Type} {field : Option β} {f : β} {w w' : World σ T} :
    unwrapField field w = (.ok f, w') ↔ field = some f ∧ w' = w := by
  cases field with
  | none =>
      constructor
      · intro h
        cases h
      · rintro ⟨hf, -⟩
        cases hf
  | some f' =>
      constructor
      · intro h
        obtain ⟨hf, rfl⟩ := Prod.mk.inj h
        exact ⟨congrArg _ (Outcome.ok.inj hf), rfl⟩
      · rintro ⟨hf, rfl⟩
        obtain rfl := Option.some.inj hf
        rfl

/-- **A begin that returns** leaves the authenticator behind the first entry,
and its code with the channel. -/
theorem enumerateBegin_ok (hp : p.Remembers)
    (henumerates : Enumerates p read total beginReq nextReq entries pending) {fuel : Nat}
    {entry : α} {count : Nat} {w w' : World σ T}
    (h : p.enumerateBegin read total fuel beginReq w = (.ok (entry, count), w')) :
    ∃ rest, entries = entry :: rest ∧ count = entries.length ∧ Pends p pending rest w' := by
  obtain ⟨⟨resp, preview⟩, w₁, hmanaged, hrest⟩ := Proc.bind_eq_ok_iff.mp h
  obtain ⟨_, w₂, hmarked, hrest⟩ := Proc.bind_eq_ok_iff.mp hrest
  obtain ⟨entry', w₃, hreads, hrest⟩ := Proc.bind_eq_ok_iff.mp hrest
  obtain ⟨count', w₄, htotals, hreturned⟩ := Proc.bind_eq_ok_iff.mp hrest
  clear h hrest
  obtain ⟨hread, rfl⟩ := unwrapField_eq_ok_iff.mp hreads
  obtain ⟨htotal, rfl⟩ := unwrapField_eq_ok_iff.mp htotals
  obtain ⟨hresult, rfl⟩ := Prod.mk.inj hreturned
  obtain ⟨rfl, rfl⟩ := Prod.mk.inj (Outcome.ok.inj hresult)
  obtain ⟨-, rfl⟩ := Prod.mk.inj hmarked
  -- the answer is to a begin, whose code the mark is
  obtain ⟨sent, s, hasks, -, rfl, hsent⟩ := CredentialManagement.manage_answered hmanaged
  obtain ⟨first, rest, hentries, hfirst, hlength, hpending⟩ := henumerates.begins hasks hsent
  obtain rfl := Option.some.inj (hread.symm.trans hfirst)
  refine ⟨rest, hentries, Option.some.inj (htotal.symm.trans hlength), ?_⟩
  show pending (commandOf (p.credMgmtPreview (p.setCredMgmtPreview _ _))) rest _
  rw [hp]
  exact henumerates.marked _ hpending

/-! ### The next entry. -/

/-- The next command as it is sent in a state. -/
def nextSent (p : CredentialManagement σ T) (nextReq : Ctap2CredentialManagementRequest)
    (s : σ) : Ctap2CredentialManagementRequest :=
  { nextReq with useLegacyPreview := p.credMgmtPreview s }

theorem asks_nextSent (s : σ) : nextReq.Asks (nextSent p nextReq s) := ⟨rfl, rfl⟩

/-- A next command that was answered: what is read of the answer. -/
theorem enumerateNext_answered {w : World σ T} {resp : Ctap2CredentialManagementResponse}
    {s' : σ} (h : p.credentialManagement (nextSent p nextReq w.env) w.env = (.ok resp, s')) :
    p.enumerateNext read nextReq w = unwrapField (read resp) { w with env := s' } := by
  unfold nextSent at h
  unfold CredentialManagement.enumerateNext CredentialManagement.ctap2CredentialManagement
    Platform.answeredBy
  simp only [Proc.bind_apply, Ctap.ask, h]
  rfl

/-- A next command that failed: its error is the caller's. -/
theorem enumerateNext_failed {w : World σ T} {e : WebAuthnError T} {s' : σ}
    (h : p.credentialManagement (nextSent p nextReq w.env) w.env = (.error e, s')) :
    p.enumerateNext read nextReq w = (.error e, { w with env := s' }) := by
  unfold nextSent at h
  unfold CredentialManagement.enumerateNext CredentialManagement.ctap2CredentialManagement
    Platform.answeredBy
  simp only [Proc.bind_apply, Ctap.ask, h]
  rfl

/-- An answered next command gives the entry at the place, and moves on. -/
theorem enumerateNext_ok
    (henumerates : Enumerates p read total beginReq nextReq entries pending) {entry entry' : α}
    {rest : List α} {w w' : World σ T} (h : Pends p pending (entry :: rest) w)
    (hrun : p.enumerateNext read nextReq w = (.ok entry', w')) :
    entry' = entry ∧ Pends p pending rest w' := by
  rcases hanswer : p.credentialManagement (nextSent p nextReq w.env) w.env with ⟨e | resp, s'⟩
  · rw [enumerateNext_failed hanswer] at hrun
    cases hrun
  · obtain ⟨hread, hpending, hmark⟩ := henumerates.next h (asks_nextSent w.env) rfl hanswer
    rw [enumerateNext_answered hanswer, unwrapField_eq_ok_iff, hread] at hrun
    obtain ⟨hentry, rfl⟩ := hrun
    refine ⟨(Option.some.inj hentry).symm, ?_⟩
    show pending (commandOf (p.credMgmtPreview s')) rest s'
    rw [hmark]
    exact hpending

/-- A next command that is refused for an error of the user is sent again at
the same place. -/
theorem enumerateNext_refused
    (henumerates : Enumerates p read total beginReq nextReq entries pending) {entry : α}
    {rest : List α} {w w' : World σ T} {e : CtapError} (h : Pends p pending (entry :: rest) w)
    (hrun : p.enumerateNext read nextReq w = (.error (.ctap e), w'))
    (hretry : e.isRetryableUserError = true) : Pends p pending (entry :: rest) w' := by
  rcases hanswer : p.credentialManagement (nextSent p nextReq w.env) w.env with ⟨e' | resp, s'⟩
  · rw [enumerateNext_failed hanswer] at hrun
    cases hrun
    obtain ⟨hpending, hmark⟩ := henumerates.refused h (asks_nextSent w.env) rfl hanswer hretry
    show pending (commandOf (p.credMgmtPreview s')) (entry :: rest) s'
    rw [hmark]
    exact hpending
  · obtain ⟨hread, -, -⟩ := henumerates.next h (asks_nextSent w.env) rfl hanswer
    rw [enumerateNext_answered hanswer, hread] at hrun
    cases hrun

/-- **The next entry** is there to be had, where next commands are answered. -/
theorem enumerateNext_of_pends
    (henumerates : Enumerates p read total beginReq nextReq entries pending)
    (hanswers : AnswersNext p nextReq pending) {entry : α} {rest : List α} {w : World σ T}
    (h : Pends p pending (entry :: rest) w) :
    ∃ w', p.enumerateNext read nextReq w = (.ok entry, w') ∧ Pends p pending rest w' := by
  obtain ⟨resp, s', hanswer⟩ := hanswers h (asks_nextSent w.env) rfl
  obtain ⟨hread, -, -⟩ := henumerates.next h (asks_nextSent w.env) rfl hanswer
  have hrun : p.enumerateNext read nextReq w = (.ok entry, { w with env := s' }) := by
    rw [enumerateNext_answered hanswer, hread]
    rfl
  exact ⟨_, hrun, (enumerateNext_ok henumerates h hrun).2⟩

/-! ### The caller's loops. -/

/-- What returns at once is not tried again. -/
theorem retryUserErrors_ok {β : Type} {call : Ctap σ T β} {b : β} {w w' : World σ T}
    (h : call w = (.ok b, w')) (fuel : Nat) :
    retryUserErrors call (fuel + 1) w = (.ok b, w') := by
  unfold retryUserErrors Proc.loop
  simp only [Proc.bind_apply, Proc.attempt, h]
  rfl

/-- What comes out of the retries came out of the call, in a state that the
refused calls before it kept to. -/
theorem returned_retryUserErrors {β : Type} {call : Ctap σ T β} (I : World σ T → Prop)
    (hretried : ∀ {w w' e}, I w → call w = (.error (.ctap e), w') →
      e.isRetryableUserError = true → I w') {b : β} {fuel : Nat} {w w' : World σ T} (hw : I w)
    (h : retryUserErrors call fuel w = (.ok b, w')) : ∃ w₀, I w₀ ∧ call w₀ = (.ok b, w') := by
  induction fuel generalizing w with
  | zero => cases h
  | succ fuel ih =>
      obtain ⟨next, w₁, hturn, hafter⟩ := Proc.bind_eq_ok_iff.mp h
      obtain ⟨answer, w₂, hcall, hhandled⟩ := Proc.bind_eq_ok_iff.mp hturn
      unfold Proc.attempt at hcall
      rcases hrun : call w with ⟨outcome, w₃⟩
      rw [hrun] at hcall
      cases outcome with
      | running => cases hcall
      | ok b' =>
          cases hcall
          cases hhandled
          cases hafter
          exact ⟨w, hw, hrun⟩
      | error e =>
          cases hcall
          cases e with
          | transport e => cases hhandled
          | platform e => cases hhandled
          | ctap e =>
              -- an error of the user is tried again
              by_cases hretry : e.isRetryableUserError = true
              · have hagain : (if e.isRetryableUserError then pure (.inl ())
                    else Proc.throw (.ctap e) : Ctap σ T (Unit ⊕ β)) w₂ = (.ok next, w₁) := hhandled
                rw [if_pos hretry] at hagain
                cases hagain
                exact ih (hretried hw hrun hretry) hafter
              · have hgiven : (if e.isRetryableUserError then pure (.inl ())
                    else Proc.throw (.ctap e) : Ctap σ T (Unit ⊕ β)) w₂ = (.ok next, w₁) := hhandled
                rw [if_neg hretry] at hgiven
                cases hgiven

/-- The entries that are collected are the ones that were left, in order. -/
theorem collect_ok (henumerates : Enumerates p read total beginReq nextReq entries pending)
    {fuel : Nat} {rest list : List α} {w w' : World σ T} (h : Pends p pending rest w)
    (hrun : collect (retryUserErrors (p.enumerateNext read nextReq) fuel) rest.length w
      = (.ok list, w')) : list = rest := by
  induction rest generalizing list w with
  | nil =>
      cases hrun
      rfl
  | cons entry rest ih =>
      obtain ⟨entry', w₁, hnext, hafter⟩ := Proc.bind_eq_ok_iff.mp hrun
      obtain ⟨rest', w₂, hrest, hreturned⟩ := Proc.bind_eq_ok_iff.mp hafter
      cases hreturned
      -- the retries before the answer stay at the entry
      obtain ⟨w₀, hpends, hanswered⟩ := returned_retryUserErrors
        (Pends p pending (entry :: rest)) (enumerateNext_refused henumerates) h hnext
      obtain ⟨rfl, hpends'⟩ := enumerateNext_ok henumerates hpends hanswered
      rw [ih hpends' hrest]

/-- Where next commands are answered, as many as are left can be collected. -/
theorem collect_of_pends
    (henumerates : Enumerates p read total beginReq nextReq entries pending)
    (hanswers : AnswersNext p nextReq pending) (fuel : Nat)
    {rest : List α} {w : World σ T} (h : Pends p pending rest w) :
    ∃ w', collect (retryUserErrors (p.enumerateNext read nextReq) (fuel + 1)) rest.length w
      = (.ok rest, w') := by
  induction rest generalizing w with
  | nil => exact ⟨w, rfl⟩
  | cons entry rest ih =>
      obtain ⟨w₁, hnext, hpends⟩ := enumerateNext_of_pends henumerates hanswers h
      obtain ⟨w₂, hrest⟩ := ih hpends
      refine ⟨w₂, Proc.bind_eq_ok_iff.mpr ⟨entry, w₁, retryUserErrors_ok hnext fuel, ?_⟩⟩
      exact Proc.bind_eq_ok_iff.mpr ⟨rest, w₂, hrest, rfl⟩

/-- A begin that returns through the retries leaves the rest to be collected. -/
theorem retriedBegin_ok (hp : p.Remembers)
    (henumerates : Enumerates p read total beginReq nextReq entries pending) {fuel : Nat}
    {entry : α} {count : Nat} {w w' : World σ T}
    (h : retryUserErrors (p.enumerateBegin read total fuel beginReq) fuel w
      = (.ok (entry, count), w')) :
    ∃ rest, entries = entry :: rest ∧ count = entries.length ∧ Pends p pending rest w' := by
  obtain ⟨w₀, -, hbegin⟩ := returned_retryUserErrors (fun _ => True) (fun _ _ _ => trivial)
    trivial h
  exact enumerateBegin_ok hp henumerates hbegin

/-- **Once begun, a listing comes to its end** where next commands are
answered: it ends as its begin does, and with every entry in its place. -/
theorem enumerate_outcome (hp : p.Remembers)
    (henumerates : Enumerates p read total beginReq nextReq entries pending)
    (hanswers : AnswersNext p nextReq pending) (fuel : Nat) (w : World σ T) :
    (enumerate (retryUserErrors (p.enumerateBegin read total fuel beginReq) fuel)
        (retryUserErrors (p.enumerateNext read nextReq) fuel) w).1
      = (retryUserErrors (p.enumerateBegin read total fuel beginReq) fuel w).1.map
        fun _ => entries := by
  unfold enumerate
  rw [Proc.bind_apply]
  rcases hbegun : retryUserErrors (p.enumerateBegin read total fuel beginReq) fuel w
    with ⟨outcome, w₁⟩
  cases outcome with
  | error e => rfl
  | running => rfl
  | ok begun =>
      obtain ⟨entry, count⟩ := begun
      obtain ⟨rest, rfl, rfl, hpends⟩ := retriedBegin_ok hp henumerates hbegun
      cases fuel with
      | zero => cases hbegun
      | succ fuel =>
          obtain ⟨w₂, hrest⟩ := collect_of_pends henumerates hanswers fuel hpends
          have hlisted : (do
              let rest ← collect (retryUserErrors (p.enumerateNext read nextReq) (fuel + 1))
                ((entry :: rest).length - 1)
              pure (entry :: rest) : Ctap σ T (List α)) w₁ = (.ok (entry :: rest), w₂) :=
            Proc.bind_eq_ok_iff.mpr ⟨rest, w₂, hrest, rfl⟩
          exact congrArg Prod.fst hlisted

/-- **A listing that returns** is of every entry, in its place. -/
theorem enumerate_returns (hp : p.Remembers)
    (henumerates : Enumerates p read total beginReq nextReq entries pending) {fuel : Nat}
    {list : List α} {w w' : World σ T}
    (h : enumerate (retryUserErrors (p.enumerateBegin read total fuel beginReq) fuel)
      (retryUserErrors (p.enumerateNext read nextReq) fuel) w = (.ok list, w')) :
    list = entries := by
  obtain ⟨⟨entry, count⟩, w₁, hbegun, hafter⟩ := Proc.bind_eq_ok_iff.mp h
  obtain ⟨rest', w₂, hcollected, hreturned⟩ := Proc.bind_eq_ok_iff.mp hafter
  cases hreturned
  obtain ⟨rest, rfl, rfl, hpends⟩ := retriedBegin_ok hp henumerates hbegun
  rw [collect_ok henumerates hpends hcollected]

end

/-! ## §5. The listing of everything. -/

/-- What an authenticator stores. -/
structure CredentialDirectory where
  rps : List Ctap2RPData
  credentials : (rpIdHash : Bytes) → List Ctap2CredentialData

/-- Every credential with its relying party. -/
def CredentialDirectory.listing (directory : CredentialDirectory) :
    List (Ctap2PublicKeyCredentialRpEntity × Ctap2CredentialData) :=
  directory.rps.flatMap fun rp =>
    (directory.credentials rp.rpIdHash).map fun cred => (rp.rp, cred)

/-- The authenticator lists its relying parties, and the credentials of each;
the channel remembers the preview mark. -/
structure Lists (p : CredentialManagement σ T) (directory : CredentialDirectory)
    (pendingRps : Ctap2CommandCode → List Ctap2RPData → σ → Prop)
    (pendingCredentials : Ctap2CommandCode → List Ctap2CredentialData → σ → Prop) : Prop where
  remembers : p.Remembers
  rps : Enumerates p (·.rpData) (·.totalRps) .newEnumerateRpsBegin .newEnumerateRpsNextRp
    directory.rps pendingRps
  credentials : ∀ rpIdHash, Enumerates p (·.credentialData) (·.totalCredentials)
    (.newEnumerateCredentialsBegin rpIdHash) .newEnumerateCredentialsNext
    (directory.credentials rpIdHash) pendingCredentials

section

variable {p : CredentialManagement σ T} {directory : CredentialDirectory}
  {pendingRps : Ctap2CommandCode → List Ctap2RPData → σ → Prop}
  {pendingCredentials : Ctap2CommandCode → List Ctap2CredentialData → σ → Prop}

/-- **A listing that was begun comes to its end**, of the relying parties and
of the credentials of each, where next commands are answered. -/
theorem enumerations_outcome (hlists : Lists p directory pendingRps pendingCredentials)
    (hrps : AnswersNext p .newEnumerateRpsNextRp pendingRps)
    (hcredentials : AnswersNext p .newEnumerateCredentialsNext pendingCredentials)
    (fuel : Nat) (w : World σ T) :
    (p.enumerateRps fuel w).1
        = (retryUserErrors (p.enumerateRpsBegin fuel) fuel w).1.map (fun _ => directory.rps)
      ∧ ∀ rpIdHash, (p.enumerateCredentialsForRp fuel rpIdHash w).1
        = (retryUserErrors (p.enumerateCredentialsBegin fuel rpIdHash) fuel w).1.map
          fun _ => directory.credentials rpIdHash :=
  ⟨enumerate_outcome hlists.remembers hlists.rps hrps fuel w, fun rpIdHash =>
    enumerate_outcome hlists.remembers (hlists.credentials rpIdHash) hcredentials fuel w⟩

/-- By induction on the relying parties, each with the listing of its
credentials. -/
theorem credlist_ok (hlists : Lists p directory pendingRps pendingCredentials) {fuel : Nat}
    {rps : List Ctap2RPData}
    {list : List (Ctap2PublicKeyCredentialRpEntity × Ctap2CredentialData)} {w w' : World σ T}
    (h : p.credlist fuel rps w = (.ok list, w')) :
    list = rps.flatMap fun rp =>
      (directory.credentials rp.rpIdHash).map fun cred => (rp.rp, cred) := by
  induction rps generalizing list w with
  | nil =>
      cases h
      rfl
  | cons rp rps ih =>
      obtain ⟨creds, w₁, hcreds, hrest⟩ := Proc.bind_eq_ok_iff.mp h
      obtain ⟨rest, w₂, hrps, hreturned⟩ := Proc.bind_eq_ok_iff.mp hrest
      cases hreturned
      rw [List.flatMap_cons, ih hrps,
        enumerate_returns hlists.remembers (hlists.credentials rp.rpIdHash) hcreds]

/-- **The listing is the directory**: relying party by relying party, each with
its credentials, in the order of the authenticator. -/
theorem listCredentials_complete (hlists : Lists p directory pendingRps pendingCredentials)
    {fuel : Nat} {list : List (Ctap2PublicKeyCredentialRpEntity × Ctap2CredentialData)}
    {w w' : World σ T} (h : p.listCredentials fuel w = (.ok list, w')) :
    list = directory.listing := by
  obtain ⟨rps, w₁, hrps, hlist⟩ := Proc.bind_eq_ok_iff.mp h
  obtain rfl := enumerate_returns hlists.remembers hlists.rps hrps
  exact credlist_ok hlists hlist

end

/-! ### An authenticator with the preview command only. -/

/-- Where it is in its lists, and the channel's mark. -/
structure Desk where
  rps : Option (Ctap2CommandCode × List Ctap2RPData) := none
  credentials : Option (Ctap2CommandCode × List Ctap2CredentialData) := none
  preview : Bool := false

def deskCredential (user : UInt8) : Ctap2CredentialData where
  user := ⟨[user], none, none⟩
  credentialId := ⟨[user, user], .publicKey, none⟩
  publicKey := [0xa0]
  credProtect := 1
  largeBlobKey := none

/-- Two relying parties: the first has two credentials, the second one. -/
def deskDirectory : CredentialDirectory where
  rps := [⟨⟨"example.com", none⟩, [1]⟩, ⟨⟨"example.org", none⟩, [2]⟩]
  credentials rpIdHash :=
    if rpIdHash = [1] then [deskCredential 1, deskCredential 2]
    else if rpIdHash = [2] then [deskCredential 3] else []

def rpAnswer (rp : Ctap2RPData) (total : Option Nat) : Ctap2CredentialManagementResponse :=
  { rp := some rp.rp, rpIdHash := some rp.rpIdHash, totalRps := total }

def credentialAnswer (cred : Ctap2CredentialData) (total : Option Nat) :
    Ctap2CredentialManagementResponse :=
  { user := some cred.user, credentialId := some cred.credentialId
    publicKey := some cred.publicKey, credProtect := some cred.credProtect
    largeBlobKey := cred.largeBlobKey, totalCredentials := total }

/-- The first entry, with their number. -/
def answerFirst {α : Type} (answer : α → Option Nat → Ctap2CredentialManagementResponse)
    (entries : List α) (s : Desk) (goOn : List α → Desk) :
    Except MockError Ctap2CredentialManagementResponse × Desk :=
  match entries with
  | [] => (.error (.ctap .noCredentials), s)
  | entry :: rest => (.ok (answer entry (some entries.length)), goOn rest)

/-- A further entry, under the code of the begin. -/
def answerNext {α : Type} (answer : α → Option Nat → Ctap2CredentialManagementResponse)
    (code : Ctap2CommandCode) (place : Option (Ctap2CommandCode × List α)) (s : Desk)
    (goOn : List α → Desk) : Except MockError Ctap2CredentialManagementResponse × Desk :=
  match place with
  | some (begun, entry :: rest) =>
      if begun = code then (.ok (answer entry none), goOn rest)
      else (.error (.ctap .notAllowed), s)
  | _ => (.error (.ctap .notAllowed), s)

def deskAnswer (request : Ctap2CredentialManagementRequest) (s : Desk) :
    Except MockError Ctap2CredentialManagementResponse × Desk :=
  match request.subcommand with
  | some .enumerateRPsBegin => answerFirst rpAnswer deskDirectory.rps s fun rest =>
      { s with rps := some (request.command, rest) }
  | some .enumerateRPsGetNextRP => answerNext rpAnswer request.command s.rps s fun rest =>
      { s with rps := some (request.command, rest) }
  | some .enumerateCredentialsBegin =>
      answerFirst credentialAnswer
        (deskDirectory.credentials ((request.subcommandParams.bind (·.rpidHash)).getD [])) s
        fun rest => { s with credentials := some (request.command, rest) }
  | some .enumerateCredentialsGetNextCredential =>
      answerNext credentialAnswer request.command s.credentials s fun rest =>
        { s with credentials := some (request.command, rest) }
  | _ => (.error (.ctap .invalidSubcommand), s)

def deskPlatform : CredentialManagement Desk Empty where
  crypto := transparentCrypto
  codecs := absentCodecs
  supportsPreflight := false
  getInfo s := (.ok { options := some [("credentialMgmtPreview", true)] }, s)
  clientPin _ s := (.error (.ctap .other), s)
  makeCredential _ s := (.error (.ctap .other), s)
  getAssertion _ s := (.error (.ctap .other), s)
  getNextAssertion s := (.error (.ctap .other), s)
  largeBlobs _ s := (.error (.ctap .other), s)
  uxUpdate _ s := s
  pinRequired _ _ s := (none, s)
  pinNotSet _ s := (none, s)
  persistentTokenStore := false
  storeList s := ([], s)
  storePut _ _ s := s
  storeDelete _ s := s
  random n s := (List.replicate n 0, s)
  random_length _ _ := List.length_replicate
  credentialManagement := deskAnswer
  setCredMgmtPreview preview s := { s with preview := preview }
  credMgmtPreview s := s.preview

/-- An answered begin had something to give. -/
theorem answerFirst_ok {α : Type} {answer : α → Option Nat → Ctap2CredentialManagementResponse}
    {entries : List α} {s s' : Desk} {goOn : List α → Desk}
    {resp : Ctap2CredentialManagementResponse}
    (h : answerFirst answer entries s goOn = (.ok resp, s')) :
    ∃ entry rest, entries = entry :: rest ∧ resp = answer entry (some entries.length)
      ∧ s' = goOn rest := by
  cases entries with
  | nil => cases h
  | cons entry rest =>
      cases h
      exact ⟨entry, rest, rfl, rfl, rfl⟩

theorem answerNext_of_place {α : Type}
    {answer : α → Option Nat → Ctap2CredentialManagementResponse} {code : Ctap2CommandCode}
    {place : Option (Ctap2CommandCode × List α)} {entry : α} {rest : List α}
    (h : place = some (code, entry :: rest)) (s : Desk) (goOn : List α → Desk) :
    answerNext answer code place s goOn = (.ok (answer entry none), goOn rest) := by
  subst h
  exact if_pos rfl

/-- Its place in the list of relying parties, and in that of credentials. -/
def AtRps (code : Ctap2CommandCode) (rest : List Ctap2RPData) (s : Desk) : Prop :=
  s.rps = some (code, rest)

def AtCredentials (code : Ctap2CommandCode) (rest : List Ctap2CredentialData) (s : Desk) : Prop :=
  s.credentials = some (code, rest)

theorem deskAnswer_nextRp {code : Ctap2CommandCode} {entry : Ctap2RPData}
    {rest : List Ctap2RPData} {s : Desk} {sent : Ctap2CredentialManagementRequest}
    (hplace : AtRps code (entry :: rest) s)
    (hasks : Ctap2CredentialManagementRequest.newEnumerateRpsNextRp.Asks sent)
    (hcode : sent.command = code) :
    deskAnswer sent s = (.ok (rpAnswer entry none), { s with rps := some (code, rest) }) := by
  subst hcode
  unfold deskAnswer
  rw [hasks.1]
  exact answerNext_of_place hplace s _

theorem deskAnswer_nextCredential {code : Ctap2CommandCode} {entry : Ctap2CredentialData}
    {rest : List Ctap2CredentialData} {s : Desk} {sent : Ctap2CredentialManagementRequest}
    (hplace : AtCredentials code (entry :: rest) s)
    (hasks : Ctap2CredentialManagementRequest.newEnumerateCredentialsNext.Asks sent)
    (hcode : sent.command = code) :
    deskAnswer sent s
      = (.ok (credentialAnswer entry none), { s with credentials := some (code, rest) }) := by
  subst hcode
  unfold deskAnswer
  rw [hasks.1]
  exact answerNext_of_place hplace s _

theorem answersNext_rps :
    AnswersNext deskPlatform .newEnumerateRpsNextRp AtRps := by
  intro code entry rest s sent hplace hasks hcode
  exact ⟨_, _, deskAnswer_nextRp hplace hasks hcode⟩

theorem answersNext_credentials :
    AnswersNext deskPlatform .newEnumerateCredentialsNext AtCredentials := by
  intro code entry rest s sent hplace hasks hcode
  exact ⟨_, _, deskAnswer_nextCredential hplace hasks hcode⟩

theorem lists_deskPlatform : Lists deskPlatform deskDirectory AtRps AtCredentials where
  remembers _ _ := rfl
  rps :=
    { begins := by
        intro sent s resp s' hasks h
        have hsent : deskAnswer sent s = answerFirst rpAnswer deskDirectory.rps s fun rest =>
            { s with rps := some (sent.command, rest) } := by
          unfold deskAnswer
          rw [hasks.1]
          rfl
        obtain ⟨entry, rest, hentries, rfl, rfl⟩ := answerFirst_ok (hsent.symm.trans h)
        exact ⟨entry, rest, hentries, rfl, rfl, rfl⟩
      next := by
        intro code entry rest s sent resp s' hplace hasks hcode h
        cases (deskAnswer_nextRp hplace hasks hcode).symm.trans h
        exact ⟨rfl, rfl, rfl⟩
      refused := by
        intro code entry rest s sent e s' hplace hasks hcode h
        cases (deskAnswer_nextRp hplace hasks hcode).symm.trans h
      marked := fun _ h => h }
  credentials rpIdHash :=
    { begins := by
        intro sent s resp s' hasks h
        have hsent : deskAnswer sent s
            = answerFirst credentialAnswer (deskDirectory.credentials rpIdHash) s fun rest =>
              { s with credentials := some (sent.command, rest) } := by
          unfold deskAnswer
          rw [hasks.1, hasks.2]
          rfl
        obtain ⟨entry, rest, hentries, rfl, rfl⟩ := answerFirst_ok (hsent.symm.trans h)
        exact ⟨entry, rest, hentries, rfl, rfl, rfl⟩
      next := by
        intro code entry rest s sent resp s' hplace hasks hcode h
        cases (deskAnswer_nextCredential hplace hasks hcode).symm.trans h
        exact ⟨rfl, rfl, rfl⟩
      refused := by
        intro code entry rest s sent e s' hplace hasks hcode h
        cases (deskAnswer_nextCredential hplace hasks hcode).symm.trans h
      marked := fun _ h => h }

theorem listCredentials_complete_desk :
    ∃ list w', deskPlatform.listCredentials 3 (.start {} none) = (.ok list, w')
      ∧ list.length = 3 ∧ list = deskDirectory.listing := by
  have hrun : ∃ list w', deskPlatform.listCredentials 3 (.start {} none) = (.ok list, w')
      ∧ list.length = 3 := ⟨_, _, rfl, rfl⟩
  obtain ⟨list, w', hrun, hlength⟩ := hrun
  exact ⟨list, w', hrun, hlength, listCredentials_complete lists_deskPlatform hrun⟩

theorem enumerations_outcome_desk :
    (deskPlatform.enumerateRps 3 (.start {} none)).1 = .ok deskDirectory.rps := by
  have hbegun : (retryUserErrors (deskPlatform.enumerateRpsBegin 3) 3 (.start {} none)).1
      = .ok (⟨⟨"example.com", none⟩, [1]⟩, 2) := rfl
  rw [(enumerations_outcome lists_deskPlatform answersNext_rps answersNext_credentials 3
    (.start {} none)).1, hbegun]
  rfl

end Libwebauthn
