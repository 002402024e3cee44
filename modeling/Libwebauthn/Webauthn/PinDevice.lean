/-
  Libwebauthn.Webauthn.PinDevice — PINs at the other end
  (`src/pin/mod.rs`, `src/webauthn/pin_uv_auth_token.rs`).

  An authenticator keeps the hash of its PIN, counts wrong ones and renews the
  key that PINs are sealed for.  It takes part in what goes over the wire:
  `PinDevice.Step` says what a request and its answer do to it.

    • `changePin_stores` — a PIN change that succeeds leaves the new PIN;
    • `devicePin_chosen`, `ownPin_unspent` — over any run of verifications and
      changes, it has a PIN that the user chose, and a user who enters the PIN
      that he chooses spends no attempt.
-/
import Libwebauthn.Webauthn.PinAgreement

namespace Libwebauthn

open Platform

variable {σ T R : Type} [Ctap2UserVerifiableRequest R]

/-! ## §1. The authenticator. -/

/-- The private key that the next PIN is opened with, the hash of the PIN that
is set, and the wrong ones that are still taken. -/
structure PinDevice where
  key : Bytes
  pin : Option Bytes := none
  retries : Nat
  deriving Repr, DecidableEq

/-- The commands that set a PIN, or check one. -/
def Ctap2PinUvAuthProtocolCommand.concernsPin : Ctap2PinUvAuthProtocolCommand → Bool
  | .setPin | .changePin | .getPinToken | .getPinUvAuthTokenUsingPinWithPermissions => true
  | .getPinRetries | .getKeyAgreement | .getPinUvAuthTokenUsingUvWithPermissions
  | .getUvRetries => false

/-- The commands that check a PIN and leave it. -/
def Ctap2PinUvAuthProtocolCommand.checksPin : Ctap2PinUvAuthProtocolCommand → Bool
  | .getPinToken | .getPinUvAuthTokenUsingPinWithPermissions => true
  | _ => false

def Exchange.ConcernsPin : Exchange T → Prop
  | .clientPin request _ => request.command.concernsPin = true
  | _ => False

/-- No answer of the authenticator: it may have come, and been lost. -/
def WebAuthnError.Lost (e : WebAuthnError T) : Prop := ∀ status, e ≠ .ctap status

/-- What may be heard of a request that was carried out. -/
def CarriedOut (answer : Except (WebAuthnError T) Ctap2ClientPinResponse) : Prop :=
  ∀ e, answer = .error e → e.Lost

/-- What a request and its answer do to an authenticator that takes `full`
wrong PINs in a row.  Each of them may leave it with another key. -/
inductive PinDevice.Step (crypto : Crypto) (full : Nat) :
    PinDevice → Exchange T → PinDevice → Prop where
  /-- A key agreement names the key that the next PIN is opened with. -/
  | other {dev : PinDevice} {x : Exchange T} {key : Bytes} (h : ¬ x.ConcernsPin)
      (hnamed : ∀ named, x.named = some named → named = crypto.coseKey key) :
      PinDevice.Step crypto full dev x { dev with key }
  /-- Refused before a PIN was compared, or never received. -/
  | refuses {dev : PinDevice} {request : Ctap2ClientPinRequest} {e : WebAuthnError T}
      {key : Bytes} :
      PinDevice.Step crypto full dev (.clientPin request (.error e)) { dev with key }
  /-- A wrong PIN, or a hash that cannot be decrypted. -/
  | mismatches {dev : PinDevice} {request : Ctap2ClientPinRequest} {e : WebAuthnError T}
      {pin key : Bytes} (hset : dev.pin = some pin)
      (hhash : request.pinHashEncrypted.isSome = true)
      (hne : recoveredHash crypto dev.key request ≠ some pin) :
      PinDevice.Step crypto full dev (.clientPin request (.error e))
        { dev with key, retries := dev.retries - 1 }
  /-- The right PIN, and a new one that a policy forbids. -/
  | forbids {dev : PinDevice} {request : Ctap2ClientPinRequest} {e : WebAuthnError T}
      {hash key : Bytes} (hset : dev.pin = some hash)
      (hhash : recoveredHash crypto dev.key request = some hash) :
      PinDevice.Step crypto full dev (.clientPin request (.error e))
        { dev with key, retries := full }
  | sets {dev : PinDevice} {request : Ctap2ClientPinRequest}
      {answer : Except (WebAuthnError T) Ctap2ClientPinResponse} {pin key : Bytes}
      (hcommand : request.command = .setPin) (hset : dev.pin = none)
      (hpin : recoveredPin crypto dev.key request = some pin) (hanswer : CarriedOut answer) :
      PinDevice.Step crypto full dev (.clientPin request answer)
        ⟨key, some (pinHash crypto pin), full⟩
  | changes {dev : PinDevice} {request : Ctap2ClientPinRequest}
      {answer : Except (WebAuthnError T) Ctap2ClientPinResponse} {pin hash key : Bytes}
      (hcommand : request.command = .changePin) (hset : dev.pin = some hash)
      (hhash : recoveredHash crypto dev.key request = some hash)
      (hpin : recoveredPin crypto dev.key request = some pin) (hanswer : CarriedOut answer) :
      PinDevice.Step crypto full dev (.clientPin request answer)
        ⟨key, some (pinHash crypto pin), full⟩
  | verifies {dev : PinDevice} {request : Ctap2ClientPinRequest}
      {answer : Except (WebAuthnError T) Ctap2ClientPinResponse} {hash key : Bytes}
      (hcommand : request.command.checksPin = true) (hset : dev.pin = some hash)
      (hhash : recoveredHash crypto dev.key request = some hash) (hanswer : CarriedOut answer) :
      PinDevice.Step crypto full dev (.clientPin request answer)
        { dev with key, retries := full }

namespace PinDevice

variable {crypto : Crypto} {full : Nat} {dev dev' : PinDevice} {x : Exchange T}

/-- **The PIN after a step** is the one it was, or the one recovered from a
request that was carried out. -/
theorem Step.pin (h : Step crypto full dev x dev') :
    dev'.pin = dev.pin ∨ ∃ request answer pin, x = .clientPin request answer
      ∧ CarriedOut answer ∧ (request.command = .setPin ∨ request.command = .changePin)
      ∧ recoveredPin crypto dev.key request = some pin
      ∧ dev'.pin = some (pinHash crypto pin) := by
  cases h with
  | other _ _ => exact Or.inl rfl
  | refuses => exact Or.inl rfl
  | mismatches _ _ _ => exact Or.inl rfl
  | forbids _ _ => exact Or.inl rfl
  | sets hcommand _ hpin hanswer =>
      exact Or.inr ⟨_, _, _, rfl, hanswer, Or.inl hcommand, hpin, rfl⟩
  | changes hcommand _ _ hpin hanswer =>
      exact Or.inr ⟨_, _, _, rfl, hanswer, Or.inr hcommand, hpin, rfl⟩
  | verifies _ _ _ _ => exact Or.inl rfl

/-- An accepted request to set or change the PIN. -/
theorem Step.stores {request : Ctap2ClientPinRequest} {response : Ctap2ClientPinResponse}
    (h : Step crypto full dev (.clientPin request (.ok response) : Exchange T) dev')
    (hcommand : request.command = .setPin ∨ request.command = .changePin) :
    ∃ pin, recoveredPin crypto dev.key request = some pin
      ∧ dev'.pin = some (pinHash crypto pin) := by
  cases h with
  | other hother _ =>
      refine absurd ?_ hother
      rcases hcommand with hcommand | hcommand <;>
      · show request.command.concernsPin = true
        rw [hcommand]
        rfl
  | sets _ _ hpin _ => exact ⟨_, hpin, rfl⟩
  | changes _ _ _ hpin _ => exact ⟨_, hpin, rfl⟩
  | verifies hchecks _ _ _ =>
      rcases hcommand with hcommand | hcommand <;>
      · rw [hcommand] at hchecks
        cases hchecks

/-- Reading leaves the PIN. -/
theorem Step.of_query (h : Step crypto full dev x dev') (hquery : x.Query) :
    dev'.pin = dev.pin := by
  rcases h.pin with hsame | ⟨request, answer, _, rfl, -, hcommand, -⟩
  · exact hsame
  · cases hquery <;> rcases hcommand with hcommand | hcommand <;> cases hcommand

theorem follows_queries {events : List (Exchange T)}
    (h : Follows (Step crypto full) dev events dev') (hqueries : ∀ x ∈ events, x.Query) :
    dev'.pin = dev.pin := by
  refine @Follows.invariant _ _ _ Exchange.Query (fun d => d.pin = dev.pin) ?_ _ _ _ h hqueries rfl
  exact fun _ _ _ hquery hstep hpin => (hstep.of_query hquery).trans hpin

/-! ## §2. The key that was named. -/

theorem named_of_concernsPin (h : x.ConcernsPin) : x.named = none := by
  cases x with
  | clientPin request answer =>
      cases answer with
      | error e => rfl
      | ok response =>
          refine if_neg fun hcommand => ?_
          have hconcerns : request.command.concernsPin = true := h
          rw [hcommand] at hconcerns
          cases hconcerns
  | _ => exact h.elim

/-- The key that the exchange before has named is the authenticator's. -/
def Known (crypto : Crypto) (named : Option PublicKey) (dev : PinDevice) : Prop :=
  ∀ key, named = some key → key = crypto.coseKey dev.key

theorem Step.known (h : Step crypto full dev x dev') : Known crypto x.named dev' := by
  have hnone : ∀ {now : PinDevice}, x.ConcernsPin → Known crypto x.named now :=
    fun hconcerns key hkey => by
      rw [named_of_concernsPin hconcerns] at hkey
      cases hkey
  cases h with
  | other _ hnamed => exact hnamed
  | refuses => exact fun _ h => by cases h
  | mismatches _ _ _ => exact fun _ h => by cases h
  | forbids _ _ => exact fun _ h => by cases h
  | @sets request answer pin key hcommand _ _ _ =>
      exact hnone (show request.command.concernsPin = true by rw [hcommand]; rfl)
  | @changes request answer pin hash key hcommand _ _ _ _ =>
      exact hnone (show request.command.concernsPin = true by rw [hcommand]; rfl)
  | @verifies request answer hash key hcommand _ _ _ =>
      refine hnone (show request.command.concernsPin = true from ?_)
      cases hrequest : request.command <;> rw [hrequest] at hcommand <;>
        first | rfl | cases hcommand

section

variable {K : PublicKey → Prop} {entered chosen : String → Prop} {named : Option PublicKey}
  {request : Ctap2ClientPinRequest} {answer : Except (WebAuthnError T) Ctap2ClientPinResponse}
  (hknown : Known crypto named dev)
  (hallows : (sealing T crypto K entered chosen).allows named (.clientPin request answer))
include hknown hallows

theorem Known.seals (hcarries : request.CarriesPin) :
    SealsPins crypto dev.key entered chosen request := by
  obtain ⟨key, hnamed, -, hseals⟩ := hallows hcarries
  exact hseals _ (hknown key hnamed)

/-- A new PIN is one that was chosen. -/
theorem Known.newPin {pin : Bytes} (hpin : recoveredPin crypto dev.key request = some pin) :
    ∃ newPin, chosen newPin ∧ pin = stripZeros (crypto.pinBytes newPin) := by
  obtain ⟨plaintext, hopened, -⟩ := Option.map_eq_some_iff.mp hpin
  have hsome := isSome_of_opened hopened
  obtain ⟨newPin, hchosen, hrecovered⟩ := (hknown.seals hallows (Or.inr hsome)).newPin hsome
  exact ⟨newPin, hchosen, Option.some.inj (hpin.symm.trans hrecovered)⟩

/-- A PIN hash is that of a PIN that was entered. -/
theorem Known.hash (hsome : request.pinHashEncrypted.isSome = true) : ∃ pin, entered pin
    ∧ recoveredHash crypto dev.key request = some (pinHash crypto (crypto.pinBytes pin)) :=
  (hknown.seals hallows (Or.inl hsome)).hash hsome

end

/-- **Invariants** of an authenticator to which PINs are sealed. -/
theorem follows_sealed {K : PublicKey → Prop} {entered chosen : String → Prop}
    {I : PinDevice → Prop}
    (hstep : ∀ named now x next, Known crypto named now →
      (sealing T crypto K entered chosen).allows named x →
        Step crypto full now x next → I now → I next)
    {events : List (Exchange T)} (h : Follows (Step crypto full) dev events dev')
    (haccepts : (sealing T crypto K entered chosen).Accepts none events) (hdev : I dev) :
    Known crypto ((sealing T crypto K entered chosen).after none events) dev' ∧ I dev' := by
  refine @Follows.obeying _ _ _ _ (sealing T crypto K entered chosen)
    (fun named now => Known crypto named now ∧ I now) ?_ _ _ _ _ h haccepts
    ⟨fun _ h => (by cases h), hdev⟩
  exact fun named now x next hallows hnext hnow =>
    ⟨hnext.known, hstep named now x next hnow.1 hallows hnext hnow.2⟩

end PinDevice

/-! ## §3. A PIN change. -/

/-- Queries, and a request to set or change the PIN: whether that is accepted
is how the change ends. -/
def Changes : Outcome (WebAuthnError T) Unit → List (Exchange T) → Prop
  | .ok (), events => ∃ queries request response,
      events = queries ++ [.clientPin request (.ok response)] ∧ (∀ x ∈ queries, x.Query)
        ∧ (request.command = .setPin ∨ request.command = .changePin)
  | .error e, events => (∀ x ∈ events, x.Query)
      ∨ ∃ queries request, events = queries ++ [.clientPin request (.error e)]
        ∧ ∀ x ∈ queries, x.Query
  | .running, _ => False

theorem Changes.prepend {outcome : Outcome (WebAuthnError T) Unit} {xs ys : List (Exchange T)}
    (hxs : ∀ x ∈ xs, x.Query) (h : Changes outcome ys) : Changes outcome (xs ++ ys) := by
  have hmore : ∀ {queries : List (Exchange T)}, (∀ x ∈ queries, x.Query) →
      ∀ x ∈ xs ++ queries, x.Query :=
    fun hqueries x hx => (List.mem_append.mp hx).elim (hxs x) (hqueries x)
  cases outcome with
  | ok u =>
      obtain ⟨queries, request, response, rfl, hqueries, hcommand⟩ := h
      exact ⟨xs ++ queries, request, response, (List.append_assoc ..).symm, hmore hqueries,
        hcommand⟩
  | error e =>
      rcases h with hqueries | ⟨queries, request, rfl, hqueries⟩
      · exact Or.inl (hmore hqueries)
      · exact Or.inr ⟨xs ++ queries, request, (List.append_assoc ..).symm, hmore hqueries⟩
  | running => exact h

namespace Platform

variable {p : Platform σ T} {newPin : String}

/-- What only reads leaves queries, and ends. -/
theorem leaves_of_queries {α : Type} {m : Ctap σ T α} (h : Ctap.Concludes Exchange.Query m) :
    Proc.Leaves (wireRecord σ T) m fun outcome events =>
      (∀ x ∈ events, x.Query) ∧ outcome ≠ .running := by
  intro w
  obtain ⟨sent, hsent, hqueries⟩ := (h.dialogue.sends w).wire
  exact ⟨sent, hsent, hqueries, h.ends w⟩

/-- Reading before a change. -/
theorem changes_bind {α : Type} {m : Ctap σ T α} {k : α → Ctap σ T Unit} {Q : α → Prop}
    (hm : Ctap.Concludes Exchange.Query m) (hyields : Yields m Q)
    (hk : ∀ a, Q a → Proc.Leaves (wireRecord σ T) (k a) Changes) :
    Proc.Leaves (wireRecord σ T) (m >>= k) Changes := by
  have hreads := (leaves_of_queries hm).returning (Q := Q)
    fun w a w' hrun => hyields.ok trivial hrun
  refine Proc.Leaves.bind hreads ?_ ?_ ?_
  · rintro a xs ⟨⟨hqueries, -⟩, hQ⟩
    exact (hk a (hQ a rfl)).mono fun outcome ys hys => hys.prepend hqueries
  · rintro e xs ⟨⟨hqueries, -⟩, -⟩
    exact Or.inl hqueries
  · rintro xs ⟨⟨-, hends⟩, -⟩
    exact absurd rfl hends

theorem leaves_evict (id : Option PersistentTokenRecordId) :
    Proc.Leaves (wireRecord σ T) (p.evict id) fun outcome events =>
      outcome = .ok () ∧ events = [] := by
  intro w
  cases id <;> exact ⟨[], (List.append_nil _).symm, rfl, rfl⟩

/-- The request itself. -/
theorem changes_request {request : Ctap2ClientPinRequest}
    (hcommand : request.command = .setPin ∨ request.command = .changePin)
    (id : Option PersistentTokenRecordId) :
    Proc.Leaves (wireRecord σ T) (p.ctap2ClientPin request >>= fun _ => p.evict id) Changes := by
  have hnone : ∀ x ∈ ([] : List (Exchange T)), x.Query := fun _ h => absurd h List.not_mem_nil
  refine Proc.Leaves.bind (leaves_ctap2ClientPin request) ?_ ?_ ?_
  · rintro response xs (⟨_, _, hok, -, rfl⟩ | ⟨_, h, -⟩)
    · obtain rfl := Outcome.ok.inj hok
      refine (leaves_evict id).mono ?_
      rintro _ _ ⟨rfl, rfl⟩
      exact ⟨[], request, response, rfl, hnone, hcommand⟩
    · cases h
  · rintro e xs (⟨_, _, h, -⟩ | ⟨_, herror, rfl⟩)
    · cases h
    · obtain rfl := Outcome.error.inj herror
      exact Or.inr ⟨[], request, rfl, hnone⟩
  · rintro xs (⟨_, _, h, -⟩ | ⟨_, h, -⟩) <;> cases h

/-- A change sets the PIN or changes it. -/
theorem yields_changePinRequest_command (version : Ctap2PinUvAuthProtocol) (publicKey : PublicKey)
    (sharedSecret newPinEnc : Bytes) (currentPin : Option Bytes) :
    Yields (p.changePinRequest version publicKey sharedSecret newPinEnc currentPin)
      fun request => request.command = .setPin ∨ request.command = .changePin := by
  refine yields_of_run fun w request w' hrun => ?_
  unfold changePinRequest at hrun
  split at hrun
  · obtain ⟨_, _, -, hrun⟩ := Proc.bind_eq_ok_iff.mp hrun
    obtain ⟨_, _, -, hrun⟩ := Proc.bind_eq_ok_iff.mp hrun
    rw [← Outcome.ok.inj (Prod.mk.inj hrun).1]
    exact Or.inr rfl
  · obtain ⟨_, _, -, hrun⟩ := Proc.bind_eq_ok_iff.mp hrun
    rw [← Outcome.ok.inj (Prod.mk.inj hrun).1]
    exact Or.inl rfl

/-- **What a PIN change leaves on the wire.** -/
theorem changes_changePinInternal (info : Ctap2GetInfoResponse) :
    Proc.Leaves (wireRecord σ T) (p.changePinInternal info newPin) Changes := by
  have hnone : ∀ {e : WebAuthnError T}, Changes (.error e) [] :=
    Or.inl fun _ h => absurd h List.not_mem_nil
  unfold changePinInternal
  dsimp only
  split
  · exact Proc.Leaves.throw hnone
  split
  · exact Proc.Leaves.throw hnone
  refine changes_bind (p.concludes_recognizeForEviction info) (Proc.Triple.trivial _ _)
    fun recordId _ => ?_
  refine changes_bind (p.concludes_selectUvProto info) (Proc.Triple.trivial _ _)
    fun uvProto _ => ?_
  cases uvProto with
  | none => exact Proc.Leaves.throw hnone
  | some uvProto =>
      refine changes_bind (p.queries_obtainCurrentPin _ _) (Proc.Triple.trivial _ _)
        fun currentPin _ => ?_
      refine changes_bind (p.queries_obtainSharedSecret _) (Proc.Triple.trivial _ _)
        fun keys _ => ?_
      refine changes_bind (p.concludes_encrypt _ _ _) (Proc.Triple.trivial _ _)
        fun newPinEnc _ => ?_
      refine changes_bind (p.concludes_changePinRequest _ _ _ _ _)
        (yields_changePinRequest_command _ _ _ _ _) fun request hcommand => ?_
      exact changes_request hcommand recordId

end Platform

section

variable {p : Platform σ T} {full : Nat} {dev dev' : PinDevice}
  (hcbc : p.crypto.CbcInverts) (hdh : p.crypto.DhAgrees)
include hcbc hdh

/-- **A PIN change** that succeeds leaves the new PIN on the authenticator, and
one that does not the PIN that was there, unless only its answer was lost. -/
theorem changePin_stores {info : Ctap2GetInfoResponse} {newPin : String}
    (hnul : ¬ EndsInNul (p.crypto.nfc newPin)) {w : World σ T} {sent : List (Exchange T)}
    (hsent : (p.changePinInternal info newPin w).2.wire = w.wire ++ sent)
    (hfollows : Follows (PinDevice.Step p.crypto full) dev sent dev') :
    ((p.changePinInternal info newPin w).1 = .ok () →
        dev'.pin = some (pinHash p.crypto (p.crypto.pinBytes newPin)))
      ∧ ((p.changePinInternal info newPin w).1 ≠ .ok () → dev'.pin = dev.pin
        ∨ (∃ e, (p.changePinInternal info newPin w).1 = .error e ∧ e.Lost)
          ∧ dev'.pin = some (pinHash p.crypto (p.crypto.pinBytes newPin))) := by
  have hstrip : stripZeros (p.crypto.pinBytes newPin) = p.crypto.pinBytes newPin :=
    (stripZeros_utf8_iff _).mpr hnul
  obtain ⟨events, hevents, hchanges⟩ := @changes_changePinInternal _ _ p newPin info w
  obtain rfl := List.append_cancel_left (hsent.symm.trans hevents)
  have hobeys : Obeys (sealing T p.crypto (fun _ => True) (fun _ => True) (· = newPin))
      (p.changePinInternal info newPin) :=
    p.seals_changePinInternal hcbc hdh (fun _ _ _ _ _ _ => trivial) (fun _ _ _ _ _ => trivial)
      info rfl
  obtain ⟨events, hevents, haccepts⟩ := hobeys w
  obtain rfl := List.append_cancel_left (hsent.symm.trans hevents)
  -- what the last request seals is opened with the key that it was sealed for
  have hlast : ∀ {queries : List (Exchange T)} {request : Ctap2ClientPinRequest}
      {answer : Except (WebAuthnError T) Ctap2ClientPinResponse},
      sent = queries ++ [.clientPin request answer] → (∀ x ∈ queries, x.Query) →
        ∃ now, now.pin = dev.pin ∧ PinDevice.Step p.crypto full now (.clientPin request answer) dev'
          ∧ ∀ pin, recoveredPin p.crypto now.key request = some pin →
            pin = p.crypto.pinBytes newPin := by
    rintro queries request answer rfl hqueries
    obtain ⟨now, hread, hlast⟩ := Follows.append_iff.mp hfollows
    obtain ⟨hreads, hallows, -⟩ := Monitor.accepts_append.mp (haccepts none)
    obtain ⟨hknown, -⟩ := PinDevice.follows_sealed (I := fun _ => True)
      (fun _ _ _ _ _ _ _ _ => trivial) hread hreads trivial
    refine ⟨now, PinDevice.follows_queries hread hqueries, Follows.singleton_iff.mp hlast,
      fun pin hpin => ?_⟩
    obtain ⟨_, rfl, hrecovered⟩ := hknown.newPin hallows hpin
    exact hrecovered.trans hstrip
  cases houtcome : (p.changePinInternal info newPin w).1 with
  | running =>
      rw [houtcome] at hchanges
      exact hchanges.elim
  | ok u =>
      rw [houtcome] at hchanges
      obtain ⟨queries, request, response, hsplit, hqueries, hcommand⟩ := hchanges
      obtain ⟨now, -, hstep, hsealed⟩ := hlast hsplit hqueries
      obtain ⟨pin, hpin, hstored⟩ := hstep.stores hcommand
      obtain rfl := hsealed pin hpin
      exact ⟨fun _ => hstored, fun h => absurd rfl h⟩
  | error e =>
      rw [houtcome] at hchanges
      refine ⟨fun h => (by cases h), fun _ => ?_⟩
      rcases hchanges with hqueries | ⟨queries, request, hsplit, hqueries⟩
      · exact Or.inl (PinDevice.follows_queries hfollows hqueries)
      · obtain ⟨now, hnow, hstep, hsealed⟩ := hlast hsplit hqueries
        rcases hstep.pin with hsame | ⟨_, _, pin, hx, hanswer, -, hpin, hstored⟩
        · exact Or.inl (hsame.trans hnow)
        · obtain ⟨rfl, rfl⟩ := Exchange.clientPin.inj hx
          obtain rfl := hsealed pin hpin
          exact Or.inr ⟨⟨e, rfl, hanswer e rfl⟩, hstored⟩

end

/-! ## §4. Runs. -/

/-- Verifications and changes on a channel, one after the other, whatever each
of them comes to. -/
inductive PinRun (p : Platform σ T) (chosen : String → Prop) (w : World σ T) :
    World σ T → Prop where
  | nil : PinRun p chosen w w
  | verify {R : Type} [Ctap2UserVerifiableRequest R] {w' : World σ T}
      (before : PinRun p chosen w w') (fuel : Nat) (requirement : UserVerificationRequirement)
      (request : R) : PinRun p chosen w (p.userVerification fuel requirement request w').2
  | change {w' : World σ T} (before : PinRun p chosen w w') (info : Ctap2GetInfoResponse)
      {newPin : String} (hchosen : chosen newPin) :
      PinRun p chosen w (p.changePinInternal info newPin w').2
  | set {w' : World σ T} (before : PinRun p chosen w w') (fuel : Nat)
      (info : Ctap2GetInfoResponse) (reason : PinNotSetReason) :
      PinRun p chosen w (p.tryToSetPin fuel info reason w').2

section

variable {p : Platform σ T} {full : Nat} {entered chosen : String → Prop}
  (hcbc : p.crypto.CbcInverts) (hdh : p.crypto.DhAgrees)
include hcbc hdh

/-- A run seals PINs as its operations do. -/
theorem PinRun.seals (henters : p.Enters entered) (hchooses : p.Chooses chosen) {w w' : World σ T}
    (h : PinRun p chosen w w') :
    World.Obeys (sealing T p.crypto (fun _ => True) entered chosen) w w' := by
  have hnames : p.Names fun _ => True := fun _ _ _ _ _ _ => trivial
  induction h with
  | nil => exact refl_of _ w
  | verify before fuel requirement request ih =>
      exact trans_of _ ih
        (seals_userVerification hcbc hdh hnames henters hchooses fuel requirement request _)
  | change before info hchosen ih =>
      exact trans_of _ ih (seals_changePinInternal hcbc hdh hnames henters info hchosen _)
  | set before fuel info reason ih =>
      exact trans_of _ ih
        (seals_tryToSetPin hcbc hdh hnames henters hchooses fuel info reason _)

/-- **The PIN on the authenticator** after a run is the one it had, or one that
the user chose. -/
theorem devicePin_chosen (henters : p.Enters entered) (hchooses : p.Chooses chosen)
    (hnul : ∀ pin, chosen pin → ¬ EndsInNul (p.crypto.nfc pin))
    {w w' : World σ T} (hrun : PinRun p chosen w w') {sent : List (Exchange T)}
    (hsent : w'.wire = w.wire ++ sent) {dev dev' : PinDevice}
    (hfollows : Follows (PinDevice.Step p.crypto full) dev sent dev') :
    dev'.pin = dev.pin
      ∨ ∃ pin, chosen pin ∧ dev'.pin = some (pinHash p.crypto (p.crypto.pinBytes pin)) := by
  obtain ⟨events, hevents, haccepts⟩ := hrun.seals hcbc hdh henters hchooses
  obtain rfl := List.append_cancel_left (hsent.symm.trans hevents)
  refine (PinDevice.follows_sealed (I := fun now => now.pin = dev.pin
    ∨ ∃ pin, chosen pin ∧ now.pin = some (pinHash p.crypto (p.crypto.pinBytes pin)))
    ?_ hfollows (haccepts none) (Or.inl rfl)).2
  intro named now x next hknown hallows hstep hnow
  rcases hstep.pin with hsame | ⟨request, answer, pin, rfl, -, -, hpin, hstored⟩
  · rw [hsame]
    exact hnow
  · obtain ⟨newPin, hchosen, rfl⟩ := hknown.newPin hallows hpin
    refine Or.inr ⟨newPin, hchosen, ?_⟩
    rw [hstored, show stripZeros (p.crypto.pinBytes newPin) = p.crypto.pinBytes newPin from
      (stripZeros_utf8_iff _).mpr (hnul newPin hchosen)]

/-- **A user's own PIN** spends no attempt: he enters the PIN that he chooses,
and that does not end in U+0000. -/
theorem ownPin_unspent {s : String} (henters : p.Enters (· = s)) (hchooses : p.Chooses (· = s))
    (hnul : ¬ EndsInNul (p.crypto.nfc s)) {w w' : World σ T} (hrun : PinRun p (· = s) w w')
    {sent : List (Exchange T)} (hsent : w'.wire = w.wire ++ sent) {dev dev' : PinDevice}
    (hfollows : Follows (PinDevice.Step p.crypto full) dev sent dev')
    (hpin : dev.pin = none ∨ dev.pin = some (pinHash p.crypto (p.crypto.pinBytes s)))
    (hretries : dev.retries ≤ full) :
    (dev'.pin = none ∨ dev'.pin = some (pinHash p.crypto (p.crypto.pinBytes s)))
      ∧ dev.retries ≤ dev'.retries := by
  have hstrip : stripZeros (p.crypto.pinBytes s) = p.crypto.pinBytes s :=
    (stripZeros_utf8_iff _).mpr hnul
  obtain ⟨events, hevents, haccepts⟩ := hrun.seals hcbc hdh henters hchooses
  obtain rfl := List.append_cancel_left (hsent.symm.trans hevents)
  refine (PinDevice.follows_sealed (I := fun now =>
    (now.pin = none ∨ now.pin = some (pinHash p.crypto (p.crypto.pinBytes s)))
      ∧ dev.retries ≤ now.retries)
    ?_ hfollows (haccepts none) ⟨hpin, Nat.le_refl _⟩).2
  rintro named now x next hknown hallows hstep ⟨hnow, hleft⟩
  cases hstep with
  | other _ _ => exact ⟨hnow, hleft⟩
  | refuses => exact ⟨hnow, hleft⟩
  | mismatches hset hsome hne =>
      -- the PIN that is set is the one that was entered
      obtain ⟨_, rfl, hrecovered⟩ := hknown.hash hallows hsome
      refine absurd ?_ hne
      rcases hnow with hnone | hown
      · rw [hnone] at hset
        cases hset
      · exact hrecovered.trans (hown.symm.trans hset)
  | forbids _ _ => exact ⟨hnow, hretries⟩
  | sets _ _ hrecovers _ =>
      obtain ⟨_, rfl, rfl⟩ := hknown.newPin hallows hrecovers
      rw [hstrip]
      exact ⟨Or.inr rfl, hretries⟩
  | changes _ _ _ hrecovers _ =>
      obtain ⟨_, rfl, rfl⟩ := hknown.newPin hallows hrecovers
      rw [hstrip]
      exact ⟨Or.inr rfl, hretries⟩
  | verifies _ _ _ _ => exact ⟨hnow, hretries⟩

end

/-! ## §5. A device with a PIN. -/

/-- The answer of the device of `pinPlatform`. -/
def pinAnswer : Ctap2ClientPinResponse :=
  { keyAgreement := some (.ecdhEsHkdf256Key (List.replicate 32 2) (List.replicate 32 2)) }

/-- The device of `pinPlatform`, with the PIN `1234`. -/
def plainDevice : PinDevice :=
  ⟨List.replicate 32 2, some (pinHash lengthCrypto (utf8 "1234")), 3⟩

/-- What is asked of that device, and what it answers. -/
def AskedFor (x : Exchange Empty) : Prop :=
  ¬ x.ConcernsPin ∧ ∀ named, x.named = some named →
    named = lengthCrypto.coseKey plainDevice.key

/-- Queries, and a request that it accepts. -/
theorem follows_pinPlatform {queries : List (Exchange Empty)} {request : Ctap2ClientPinRequest}
    {dev' : PinDevice} (hqueries : ∀ x ∈ queries, AskedFor x)
    (hstep : PinDevice.Step lengthCrypto 8 plainDevice
      (.clientPin request (.ok pinAnswer) : Exchange Empty) dev') :
    Follows (PinDevice.Step lengthCrypto 8) plainDevice
      (queries ++ [.clientPin request (.ok pinAnswer)]) dev' := by
  refine Follows.append_iff.mpr ⟨plainDevice, ?_, Follows.singleton_iff.mpr hstep⟩
  induction queries with
  | nil => exact .nil plainDevice
  | cons x queries ih =>
      rw [List.forall_mem_cons] at hqueries
      exact .cons (.other hqueries.1.1 hqueries.1.2) (ih hqueries.2)

theorem notNul_plain (pin : String) (h : pin.toList.getLast? ≠ some '\x00') :
    ¬ EndsInNul (lengthCrypto.nfc pin) := h

theorem carriedOut_ok (response : Ctap2ClientPinResponse) :
    CarriedOut (.ok response : Except (WebAuthnError Empty) Ctap2ClientPinResponse) :=
  fun _ h => by cases h

set_option maxRecDepth 8000 in
theorem changePin_stores_plain :
    ((pinPlatform "1234").changePinInternal pinInfo "5678" (.start () none)).1 = .ok ()
      ∧ some (pinHash lengthCrypto (utf8 "5678"))
        = some (pinHash lengthCrypto (lengthCrypto.pinBytes "5678")) := by
  obtain ⟨queries, request, hwire, hqueries, hcommand, hhash, hpin⟩ :
      ∃ queries request,
        ((pinPlatform "1234").changePinInternal pinInfo "5678" (.start () none)).2.wire
            = [] ++ (queries ++ [.clientPin request (.ok pinAnswer)])
          ∧ (∀ x ∈ queries, AskedFor x) ∧ request.command = .changePin
          ∧ recoveredHash lengthCrypto plainDevice.key request
            = some (pinHash lengthCrypto (utf8 "1234"))
          ∧ recoveredPin lengthCrypto plainDevice.key request = some (utf8 "5678") := by
    refine ⟨[_, _], _, rfl, ?_, rfl, by decide +kernel, by decide +kernel⟩
    simp [AskedFor, Exchange.ConcernsPin, Exchange.named, Ctap2ClientPinRequest.newGetPinRetries,
      Ctap2ClientPinRequest.newGetKeyAgreement, Ctap2PinUvAuthProtocolCommand.concernsPin]
    rfl
  have hstep : PinDevice.Step lengthCrypto 8 plainDevice
      (.clientPin request (.ok pinAnswer) : Exchange Empty)
      ⟨plainDevice.key, some (pinHash lengthCrypto (utf8 "5678")), 8⟩ :=
    .changes hcommand rfl hhash hpin (carriedOut_ok _)
  have hok : ((pinPlatform "1234").changePinInternal pinInfo "5678" (.start () none)).1
      = .ok () := rfl
  exact ⟨hok, (changePin_stores cbcInverts_lengthCrypto dhAgrees_lengthCrypto
    (notNul_plain "5678" (by decide)) hwire (follows_pinPlatform hqueries hstep)).1 hok⟩

set_option maxRecDepth 8000 in
/-- A verification of the PIN `1234`, which the device accepts. -/
theorem exists_verification :
    ∃ w' sent, PinRun (pinPlatform "1234") (· = "1234") (.start () none) w'
      ∧ w'.wire = [] ++ sent
      ∧ Follows (PinDevice.Step lengthCrypto 8) plainDevice sent
        { plainDevice with retries := 8 } := by
  obtain ⟨queries, request, hwire, hqueries, hcommand, hhash⟩ :
      ∃ queries request,
        ((pinPlatform "1234").userVerification 1 .required metadataRequest
            (.start () none)).2.wire
            = [] ++ (queries ++ [.clientPin request (.ok pinAnswer)])
          ∧ (∀ x ∈ queries, AskedFor x) ∧ request.command.checksPin = true
          ∧ recoveredHash lengthCrypto plainDevice.key request
            = some (pinHash lengthCrypto (utf8 "1234")) := by
    refine ⟨[_, _, _], _, rfl, ?_, rfl, by decide +kernel⟩
    simp [AskedFor, Exchange.ConcernsPin, Exchange.named, Ctap2ClientPinRequest.newGetPinRetries,
      Ctap2ClientPinRequest.newGetKeyAgreement, Ctap2PinUvAuthProtocolCommand.concernsPin]
    rfl
  exact ⟨_, _, .verify .nil 1 .required metadataRequest, hwire,
    follows_pinPlatform hqueries (.verifies hcommand rfl hhash (carriedOut_ok _))⟩

theorem devicePin_chosen_plain :
    some (pinHash lengthCrypto (utf8 "1234")) = some (pinHash lengthCrypto (utf8 "1234"))
      ∨ ∃ pin, pin = "1234" ∧ some (pinHash lengthCrypto (utf8 "1234"))
        = some (pinHash lengthCrypto (lengthCrypto.pinBytes pin)) := by
  obtain ⟨w', sent, hrun, hsent, hfollows⟩ := exists_verification
  exact devicePin_chosen cbcInverts_lengthCrypto dhAgrees_lengthCrypto (enters_pinPlatform "1234")
    (fun _ _ _ h => (Option.some.inj h).symm) (fun _ h => h ▸ notNul_plain "1234" (by decide))
    hrun hsent hfollows

theorem ownPin_unspent_plain :
    (some (pinHash lengthCrypto (utf8 "1234")) = none
        ∨ some (pinHash lengthCrypto (utf8 "1234"))
          = some (pinHash lengthCrypto (lengthCrypto.pinBytes "1234")))
      ∧ 3 ≤ 8 := by
  obtain ⟨w', sent, hrun, hsent, hfollows⟩ := exists_verification
  exact ownPin_unspent cbcInverts_lengthCrypto dhAgrees_lengthCrypto (enters_pinPlatform "1234")
    (fun _ _ _ h => (Option.some.inj h).symm) (notNul_plain "1234" (by decide)) hrun hsent
    hfollows (Or.inr rfl) (by decide)

end Libwebauthn
