/-
  Libwebauthn.Webauthn.SharedStore — authenticators that share a persistent
  token store (`src/pin/persistent_token.rs`, `change_pin_internal` of
  `src/pin/mod.rs`, `src/management/authenticator_reset.rs`).

  A `Fleet` has a channel to each of its authenticators and one store.  Four
  operations write to the store: a persistent token is minted, a PIN is
  changed, an authenticator is reset, and a command with a recognized token is
  rejected.  `Effect` lists what each of them can do to it, and
  `operation_effect` says that there is nothing else; `storeToken_mint` and
  `managementTurn_useToken` say where two of them are made.
-/
import Libwebauthn.Lib.Keyed
import Libwebauthn.Webauthn.Operations

namespace Libwebauthn

variable {ι σ T : Type}

/-! ## §1. Authenticators with one store. -/

/-- Authenticators, each on its own channel, that share a store. -/
structure Fleet (ι σ T : Type) where
  crypto : Crypto
  platform : ι → ManagedPlatform σ T
  /-- What the store has under an id. -/
  stored : σ → Keyed PersistentTokenRecordId PersistentTokenRecord
  /-- The persistent token of a device. -/
  token : ι → σ → Bytes
  /-- The device identifier of a device. -/
  identifier : ι → σ → Bytes
  /-- The answer of a device to a command sent with a persistent token. -/
  authenticated : ι → (token : Bytes) → σ → Except (WebAuthnError T) Unit × σ

namespace Fleet

variable (F : Fleet ι σ T)

/-- The same store, and the same devices. -/
structure Same (s s' : σ) : Prop where
  stored : F.stored s' = F.stored s
  token : ∀ j, F.token j s' = F.token j s
  identifier : ∀ j, F.identifier j s' = F.identifier j s

/-- The same store, and the same devices but for `i`, which has another
identifier only along with another token. -/
structure Beside (i : ι) (s s' : σ) : Prop where
  stored : F.stored s' = F.stored s
  token : ∀ j, j ≠ i → F.token j s' = F.token j s
  identifier : ∀ j, j ≠ i → F.identifier j s' = F.identifier j s
  own : F.token i s' = F.token i s → F.identifier i s' = F.identifier i s

variable {F} in
/-- A state that is the same to every device is the same to all others. -/
theorem Same.beside {s s' : σ} (h : F.Same s s') (i : ι) : F.Beside i s s' :=
  ⟨h.stored, fun j _ => h.token j, fun j _ => h.identifier j, fun _ => h.identifier i⟩

variable {F} in
theorem Same.trans {s s' s'' : σ} (h : F.Same s s') (h' : F.Same s' s'') : F.Same s s'' :=
  ⟨h'.stored.trans h.stored, fun j => (h'.token j).trans (h.token j),
    fun j => (h'.identifier j).trans (h.identifier j)⟩

variable {F} in
/-- What is done beside a device may follow what changes nothing. -/
theorem Same.trans_beside {i : ι} {s s' s'' : σ} (h : F.Same s s') (h' : F.Beside i s' s'') :
    F.Beside i s s'' := by
  refine ⟨h'.stored.trans h.stored, fun j hj => (h'.token j hj).trans (h.token j),
    fun j hj => (h'.identifier j hj).trans (h.identifier j), fun hown => ?_⟩
  exact (h'.own (hown.trans (h.token i).symm)).trans (h.identifier i)

variable {F} in
theorem Beside.trans_same {i : ι} {s s' s'' : σ} (h : F.Beside i s s') (h' : F.Same s' s'') :
    F.Beside i s s'' := by
  refine ⟨h'.stored.trans h.stored, fun j hj => (h'.token j).trans (h.token j hj),
    fun j hj => (h'.identifier j).trans (h.identifier j hj), fun hown => ?_⟩
  exact (h'.identifier i).trans (h.own ((h'.token i).symm.trans hown))

/-- A store that keeps what is put there, and devices whose getInfo carries
their identifier under their token.  A device that sets a PIN or is reset has a
new token, and it rejects no token that it has. -/
structure Lawful : Prop where
  crypto : ∀ i, (F.platform i).crypto = F.crypto
  configured : ∀ i, (F.platform i).persistentTokenStore = true
  list : ∀ i s id record,
    (id, record) ∈ ((F.platform i).storeList s).1 ↔ F.stored s id = some record
  list_same : ∀ i s, F.Same s ((F.platform i).storeList s).2
  put : ∀ i id record s,
    F.stored ((F.platform i).storePut id record s) = (F.stored s).insert id record
  put_device : ∀ i id record s j,
    F.token j ((F.platform i).storePut id record s) = F.token j s
      ∧ F.identifier j ((F.platform i).storePut id record s) = F.identifier j s
  delete : ∀ i id s, F.stored ((F.platform i).storeDelete id s) = (F.stored s).erase id
  delete_device : ∀ i id s j,
    F.token j ((F.platform i).storeDelete id s) = F.token j s
      ∧ F.identifier j ((F.platform i).storeDelete id s) = F.identifier j s
  random_same : ∀ i n s, F.Same s ((F.platform i).random n s).2
  pinRequired_same : ∀ i reason left s, F.Same s ((F.platform i).pinRequired reason left s).2
  uxUpdate_same : ∀ i update s, F.Same s ((F.platform i).uxUpdate update s)
  getInfo_same : ∀ i s, F.Same s ((F.platform i).getInfo s).2
  getInfo : ∀ i s info, ((F.platform i).getInfo s).1 = .ok info →
    ∃ encIdentifier, info.encIdentifier = some encIdentifier
      ∧ decryptEncIdentifier F.crypto (F.token i s) encIdentifier = .ok (F.identifier i s)
  clientPin_query : ∀ i request s, request.IsQuery →
    F.Same s ((F.platform i).clientPin request s).2
  clientPin_beside : ∀ i request s, F.Beside i s ((F.platform i).clientPin request s).2
  clientPin_changes : ∀ i request s response,
    request.command = .setPin ∨ request.command = .changePin →
      ((F.platform i).clientPin request s).1 = .ok response →
        F.token i ((F.platform i).clientPin request s).2 ≠ F.token i s
  reset_beside : ∀ i s, F.Beside i s ((F.platform i).authenticatorReset s).2
  reset_changes : ∀ i s, ((F.platform i).authenticatorReset s).1 = .ok () →
    F.token i ((F.platform i).authenticatorReset s).2 ≠ F.token i s
  authenticated_beside : ∀ i token s, F.Beside i s (F.authenticated i token s).2
  rejects : ∀ i token s, (F.authenticated i token s).1 = .error (.ctap .pinAuthInvalid) →
    F.token i (F.authenticated i token s).2 ≠ token
  distinct : ∀ i j s s', i ≠ j → F.identifier i s ≠ F.identifier j s'

/-! ## §2. Operations. -/

/-- The operations that write to the store. -/
inductive StoreOperation where
  | mint (protocol : Ctap2PinUvAuthProtocol)
  | changePin (newPin : String)
  | reset
  | useToken

/-- The device hands out its token, which is stored. -/
def mint (i : ι) (protocol : Ctap2PinUvAuthProtocol) : Ctap σ T PersistentTokenRecordId := do
  let info ← (F.platform i).ctap2GetInfo
  let token ← Ctap.ask fun s => (F.token i s, s)
  (F.platform i).storeMintedToken info token protocol

/-- A command with the token of the recognized record, and what
`handle_errors!` makes of the answer. -/
def useToken (i : ι) : Ctap σ T Unit := do
  let info ← (F.platform i).ctap2GetInfo
  match ← (F.platform i).recognizeAuthenticator info with
  | none => pure ()
  | some (id, record) => do
      let answer ← Ctap.ask (F.authenticated i record.persistentToken)
      let _ ← (F.platform i).handleErrors (.fromPersistentStorage id) answer
      pure ()

/-- The operation on the channel of `i`; the result is the id of a minted
record. -/
def procedure (i : ι) : StoreOperation → Ctap σ T (Option PersistentTokenRecordId)
  | .mint protocol => do
      let id ← F.mint i protocol
      pure (some id)
  | .changePin newPin => do
      (F.platform i).changePin newPin
      pure none
  | .reset => do
      (F.platform i).reset
      pure none
  | .useToken => do
      F.useToken i
      pure none

def outcome (i : ι) (op : StoreOperation) (s : σ) :
    Outcome (WebAuthnError T) (Option PersistentTokenRecordId) :=
  (F.procedure i op (.start s none)).1

def after (i : ι) (op : StoreOperation) (s : σ) : σ :=
  (F.procedure i op (.start s none)).2.env

/-- The record that the next getInfo of `i` is recognized by. -/
def recognize (i : ι) : Ctap σ T (Option (PersistentTokenRecordId × PersistentTokenRecord)) := do
  let info ← (F.platform i).ctap2GetInfo
  (F.platform i).recognizeAuthenticator info

/-- A token that is not the device's reproduces no stored identifier from its
getInfo. -/
def Sound (i : ι) (s : σ) : Prop :=
  ∀ info encIdentifier, ((F.platform i).getInfo s).1 = .ok info →
    info.encIdentifier = some encIdentifier →
      ∀ id record, F.stored s id = some record → record.persistentToken ≠ F.token i s →
        record.recognizes F.crypto encIdentifier = false

/-- A minted record gets an id that is not in use. -/
def Fresh (i : ι) (op : StoreOperation) (s : σ) : Prop :=
  ∀ id, F.outcome i op s = .ok (some id) → F.stored s id = none

/-! ## §3. What does not touch the store. -/

/-- The same store and devices in two worlds. -/
def SameEnv (w w' : World σ T) : Prop := F.Same w.env w'.env

instance : IsPreorder (World σ T) F.SameEnv where
  refl _ := ⟨rfl, fun _ => rfl, fun _ => rfl⟩
  trans _ _ _ h h' := h.trans h'

namespace Lawful

variable {F} {α : Type} (hF : F.Lawful)

omit hF in
/-- A question to the environment that changes nothing there. -/
theorem same_ask {answer : σ → α × σ} (h : ∀ s, F.Same s (answer s).2) :
    Proc.Advances F.SameEnv (Ctap.ask answer : Ctap σ T α) :=
  fun w => h w.env

omit hF in
theorem same_tell {effect : σ → σ} (h : ∀ s, F.Same s (effect s)) :
    Proc.Advances F.SameEnv (Ctap.tell effect : Ctap σ T Unit) :=
  fun w => h w.env

omit hF in
/-- A command changes the environment as the device's answer does. -/
theorem command_env (answer : σ → Except (WebAuthnError T) α × σ)
    (exchange : Except (WebAuthnError T) α → Exchange T) (w : World σ T) :
    (Ctap.command answer exchange w).2.env = (answer w.env).2 := by
  unfold Ctap.command
  rcases answer w.env with ⟨a, env⟩
  cases a <;> rfl

omit hF in
theorem same_command {answer : σ → Except (WebAuthnError T) α × σ}
    (exchange : Except (WebAuthnError T) α → Exchange T) (h : ∀ s, F.Same s (answer s).2) :
    Proc.Advances F.SameEnv (Ctap.command answer exchange : Ctap σ T α) := by
  intro w
  unfold SameEnv
  rw [command_env]
  exact h w.env

omit hF in
theorem same_liftPlatform (r : Except PlatformError α) :
    Proc.Advances F.SameEnv (Ctap.liftPlatform r : Ctap σ T α) :=
  Proc.Advances.ofExcept _

include hF

theorem same_randomBytes (i : ι) (n : Nat) :
    Proc.Advances F.SameEnv ((F.platform i).randomBytes n) :=
  same_ask (hF.random_same i n)

/-- A clientPin query mints no token and changes no PIN. -/
theorem same_query (i : ι) {request : Ctap2ClientPinRequest} (h : request.IsQuery) :
    Proc.Advances F.SameEnv ((F.platform i).ctap2ClientPin request) :=
  same_command _ fun s => hF.clientPin_query i request s h

theorem same_selectUvProto (i : ι) (info : Ctap2GetInfoResponse) :
    Proc.Advances F.SameEnv ((F.platform i).selectUvProto info) := by
  unfold Platform.selectUvProto
  split
  · exact Proc.Advances.pure _
  · refine Proc.Advances.bind ?_ fun _ => Proc.Advances.pure _
    exact Proc.Advances.bind (hF.same_randomBytes i 32) fun _ => Proc.Advances.pure _

theorem same_encrypt (i : ι) (version : Ctap2PinUvAuthProtocol) (key plaintext : Bytes) :
    Proc.Advances F.SameEnv ((F.platform i).encrypt version key plaintext) :=
  Proc.Advances.bind (hF.same_randomBytes i 16) fun _ => same_liftPlatform _

/-- Agreeing on a key leaves every token and record. -/
theorem same_obtainSharedSecret (i : ι) (pinProto : PinUvAuthProtocol) :
    Proc.Advances F.SameEnv ((F.platform i).obtainSharedSecret pinProto) := by
  refine Proc.Advances.bind (hF.same_query i (.keyAgreement _)) fun response => ?_
  split
  · exact Proc.Advances.throw _
  · exact same_liftPlatform _

theorem same_obtainPin (i : ι) (info : Ctap2GetInfoResponse)
    (pinProto : Ctap2PinUvAuthProtocol) (reason : PinRequestReason) :
    Proc.Advances F.SameEnv ((F.platform i).obtainPin info pinProto reason) := by
  refine Proc.Advances.bind ?_ fun left => ?_
  · refine Proc.Advances.bind (Proc.Advances.attempt (hF.same_query i (.pinRetries _)))
      fun result => ?_
    split <;> exact Proc.Advances.pure _
  · refine Proc.Advances.bind (same_ask (hF.pinRequired_same i reason left)) fun pin => ?_
    split
    · exact Proc.Advances.throw _
    · exact Proc.Advances.pure _

theorem same_obtainCurrentPin (i : ι) (info : Ctap2GetInfoResponse)
    (version : Ctap2PinUvAuthProtocol) :
    Proc.Advances F.SameEnv ((F.platform i).obtainCurrentPin info version) := by
  unfold Platform.obtainCurrentPin
  split
  · exact Proc.Advances.throw _
  · split
    · exact Proc.Advances.bind (hF.same_obtainPin i _ _ _) fun _ => Proc.Advances.pure _
    · exact Proc.Advances.pure _
    · exact Proc.Advances.throw _

/-- Making the request of a PIN change sends nothing that changes a token. -/
theorem same_changePinRequest (i : ι) (version : Ctap2PinUvAuthProtocol) (publicKey : PublicKey)
    (sharedSecret newPinEnc : Bytes) (currentPin : Option Bytes) :
    Proc.Advances F.SameEnv ((F.platform i).changePinRequest version publicKey sharedSecret
      newPinEnc currentPin) := by
  unfold Platform.changePinRequest
  split
  · refine Proc.Advances.bind (hF.same_encrypt i _ _ _) fun _ => ?_
    exact Proc.Advances.bind (same_liftPlatform _) fun _ => Proc.Advances.pure _
  · exact Proc.Advances.bind (same_liftPlatform _) fun _ => Proc.Advances.pure _

end Lawful

/-! ## §4. Recognizing an authenticator. -/

/-- The record that the getInfo of `i` in `s` is recognized by, if any is. -/
def Recognizes (i : ι) (s : σ)
    (found : Option (PersistentTokenRecordId × PersistentTokenRecord)) : Prop :=
  ∃ info encIdentifier, ((F.platform i).getInfo s).1 = .ok info
    ∧ info.encIdentifier = some encIdentifier
    ∧ (∀ entry ∈ found, F.stored s entry.1 = some entry.2
        ∧ entry.2.recognizes F.crypto encIdentifier = true)
    ∧ (found = none → ∀ id record, F.stored s id = some record →
        record.recognizes F.crypto encIdentifier = false)

variable {F} (hF : F.Lawful) {i : ι} {s : σ}

/-- A record recognises the device that its token decrypts the identifier of. -/
theorem recognizes_iff {record : PersistentTokenRecord} {encIdentifier identifier : Bytes}
    (h : decryptEncIdentifier F.crypto record.persistentToken encIdentifier = .ok identifier) :
    record.recognizes F.crypto encIdentifier = true ↔ record.deviceIdentifier = identifier := by
  unfold PersistentTokenRecord.recognizes
  rw [h]
  show (identifier == record.deviceIdentifier) = true ↔ _
  rw [beq_iff_eq]
  exact eq_comm

namespace Lawful

include hF

/-- A recognized record is the device's own. -/
theorem of_recognizes (hsound : F.Sound i s) {id : PersistentTokenRecordId}
    {record : PersistentTokenRecord} (h : F.Recognizes i s (some (id, record))) :
    F.stored s id = some record ∧ record.persistentToken = F.token i s
      ∧ record.deviceIdentifier = F.identifier i s := by
  obtain ⟨info, encIdentifier, hinfo, henc, hentry, -⟩ := h
  obtain ⟨hstored, hrecognizes⟩ := hentry _ rfl
  have htoken : record.persistentToken = F.token i s := by
    by_contra hwrong
    rw [hsound info encIdentifier hinfo henc id record hstored hwrong] at hrecognizes
    cases hrecognizes
  obtain ⟨enc, henc', hdecrypt⟩ := hF.getInfo i s info hinfo
  obtain rfl := Option.some.inj (henc'.symm.trans henc)
  rw [← htoken] at hdecrypt
  exact ⟨hstored, htoken, (recognizes_iff hdecrypt).mp hrecognizes⟩

/-- A device is recognized by its own record, where identifiers are single. -/
theorem recognizes_own (hsound : F.Sound i s)
    (hsingle : Keyed.Single PersistentTokenRecord.deviceIdentifier (F.stored s))
    {id : PersistentTokenRecordId} {record : PersistentTokenRecord}
    (hstored : F.stored s id = some record) (htoken : record.persistentToken = F.token i s)
    (hidentifier : record.deviceIdentifier = F.identifier i s)
    {found : Option (PersistentTokenRecordId × PersistentTokenRecord)}
    (h : F.Recognizes i s found) : found = some (id, record) := by
  have hown := h
  obtain ⟨info, encIdentifier, hinfo, henc, -, hnone⟩ := h
  obtain ⟨enc, henc', hdecrypt⟩ := hF.getInfo i s info hinfo
  obtain rfl := Option.some.inj (henc'.symm.trans henc)
  rw [← htoken] at hdecrypt
  cases found with
  | none =>
      have hnot := hnone rfl id record hstored
      rw [(recognizes_iff hdecrypt).mpr hidentifier] at hnot
      cases hnot
  | some entry =>
      obtain ⟨id', record'⟩ := entry
      obtain ⟨hstored', -, hidentifier'⟩ := hF.of_recognizes hsound hown
      obtain rfl := hsingle hstored hstored' (hidentifier.trans hidentifier'.symm)
      rw [Option.some.inj (hstored.symm.trans hstored')]

/-! ## §5. What the operations do. -/

omit hF in
/-- A part that changes nothing can be put in front of any specification. -/
theorem frame {α : Type} {m : Ctap σ T α} (h : Proc.Advances F.SameEnv m) (i : ι) (s : σ) :
    Proc.Triple (fun w => F.Same s w.env) m (fun _ w => F.Same s w.env)
      (fun w => F.Beside i s w.env) :=
  (h.triple fun _ _ hsame hs => hs.trans hsame).conseq (fun _ => id) (fun _ _ => id)
    fun _ hsame => hsame.beside i

/-- A getInfo gives the answer of the device, and changes no token and no
record. -/
theorem getInfo_spec (i : ι) (s : σ) :
    Proc.Triple (fun w => w.env = s) (F.platform i).ctap2GetInfo
      (fun info w => ((F.platform i).getInfo s).1 = .ok info ∧ F.Same s w.env)
      (fun w => F.Same s w.env) := by
  rintro w rfl
  have hsame := hF.getInfo_same i w.env
  unfold Platform.ctap2GetInfo Ctap.command
  rcases hanswer : (F.platform i).getInfo w.env with ⟨answer, env⟩
  rw [hanswer] at hsame
  cases answer with
  | ok info => exact ⟨rfl, hsame⟩
  | error e => exact hsame

/-- **What is recognised**: the record of the device before the platform, when
its token is current. -/
theorem recognizeAuthenticator_spec {info : Ctap2GetInfoResponse}
    (hinfo : ((F.platform i).getInfo s).1 = .ok info) :
    Proc.Triple (fun w => F.Same s w.env) ((F.platform i).recognizeAuthenticator info)
      (fun found w => F.Recognizes i s found ∧ F.Same s w.env)
      (fun w => F.Same s w.env) := by
  obtain ⟨encIdentifier, henc, -⟩ := hF.getInfo i s info hinfo
  intro w hsame
  unfold Platform.recognizeAuthenticator
  rw [henc]
  have hlisted : ∀ id record, (id, record) ∈ ((F.platform i).storeList w.env).1
      ↔ F.stored s id = some record := by
    intro id record
    rw [hF.list, hsame.stored]
  refine ⟨⟨info, encIdentifier, hinfo, henc, ?_, ?_⟩, hsame.trans (hF.list_same i w.env)⟩
  · intro entry hentry
    refine ⟨(hlisted _ _).mp (List.mem_of_find?_eq_some hentry), ?_⟩
    rw [← hF.crypto i]
    exact List.find?_some (p := fun entry : PersistentTokenRecordId × PersistentTokenRecord =>
      entry.2.recognizes (F.platform i).crypto encIdentifier) hentry
  · intro hnone id record hstored
    have hnot := List.find?_eq_none.mp hnone _ ((hlisted id record).mpr hstored)
    rw [← hF.crypto i]
    exact Bool.eq_false_iff.mpr hnot

end Lawful

/-- With the record deleted that was found. -/
def evicted (F : Fleet ι σ T) (i : ι)
    (found : Option (PersistentTokenRecordId × PersistentTokenRecord)) (s : σ) : σ :=
  match found with
  | some (id, _) => (F.platform i).storeDelete id s
  | none => s

/-- The device confirmed a set or changed PIN, and then the recognized record
was deleted. -/
def PinChanged (F : Fleet ι σ T) (i : ι) (s s' : σ) : Prop :=
  ∃ found request response s₁, F.Recognizes i s found ∧ F.Same s s₁
    ∧ (request.command = .setPin ∨ request.command = .changePin)
    ∧ ((F.platform i).clientPin request s₁).1 = .ok response
    ∧ s' = F.evicted i found ((F.platform i).clientPin request s₁).2

/-- An answer, and the state it leaves. -/
theorem ask_spec {α : Type} (answer : σ → α × σ) (P E : World σ T → Prop) :
    Proc.Triple P (Ctap.ask answer : Ctap σ T α)
      (fun a w => ∃ w₀, P w₀ ∧ a = (answer w₀.env).1 ∧ w.env = (answer w₀.env).2) E :=
  fun w hw => ⟨w, hw, rfl, rfl⟩

/-- An eviction deletes the record that was found, and nothing else. -/
theorem evict_spec (F : Fleet ι σ T) (i : ι)
    (found : Option (PersistentTokenRecordId × PersistentTokenRecord)) (s : σ)
    (E : World σ T → Prop) :
    Proc.Triple (fun w => w.env = s) ((F.platform i).evict (found.map (·.1)))
      (fun _ w => w.env = F.evicted i found s) E := by
  cases found with
  | none => exact Proc.Triple.pure fun _ hw => hw
  | some entry => exact Proc.Triple.modify fun _ hw => by rw [hw]; rfl

theorem changePinRequest_command (p : Platform σ T) (version : Ctap2PinUvAuthProtocol)
    (publicKey : PublicKey) (sharedSecret newPinEnc : Bytes) (currentPin : Option Bytes) :
    Platform.Returns (fun _ => True)
      (p.changePinRequest version publicKey sharedSecret newPinEnc currentPin)
      fun request _ => request.command = .setPin ∨ request.command = .changePin := by
  unfold Platform.changePinRequest
  split
  · refine Proc.Triple.bind _ (Proc.Triple.trivial _ _) fun pinHashEnc => ?_
    refine Proc.Triple.bind _ (Proc.Triple.trivial _ _) fun uvAuthParam => ?_
    exact Proc.Triple.pure fun _ _ => Or.inr rfl
  · refine Proc.Triple.bind _ (Proc.Triple.trivial _ _) fun uvAuthParam => ?_
    exact Proc.Triple.pure fun _ _ => Or.inl rfl

namespace Lawful

include hF

/-- A clientPin command changes what the device's own step changes. -/
theorem clientPin_spec (request : Ctap2ClientPinRequest) :
    Proc.Triple (fun w => F.Same s w.env) ((F.platform i).ctap2ClientPin request)
      (fun response w => ∃ s₁, F.Same s s₁
        ∧ ((F.platform i).clientPin request s₁).1 = .ok response
        ∧ w.env = ((F.platform i).clientPin request s₁).2)
      (fun w => F.Beside i s w.env) := by
  intro w hsame
  have hbeside := hsame.trans_beside (hF.clientPin_beside i request w.env)
  have hown : ∀ {answer env}, (F.platform i).clientPin request w.env = (answer, env) →
      F.Same s w.env ∧ ((F.platform i).clientPin request w.env).1 = answer
        ∧ env = ((F.platform i).clientPin request w.env).2 :=
    fun h => ⟨hsame, by rw [h], by rw [h]⟩
  unfold Platform.ctap2ClientPin Ctap.command
  rcases hanswer : (F.platform i).clientPin request w.env with ⟨answer, env⟩
  rw [hanswer] at hbeside
  cases answer with
  | ok response => exact ⟨w.env, hown hanswer⟩
  | error e => exact hbeside

/-- The record to be evicted is looked for before the PIN changes, while the
token still decrypts. -/
theorem recognizeForEviction_spec {info : Ctap2GetInfoResponse}
    (hinfo : ((F.platform i).getInfo s).1 = .ok info) :
    Proc.Triple (fun w => F.Same s w.env) ((F.platform i).recognizeForEviction info)
      (fun id w => (∃ found, id = found.map (·.1) ∧ F.Recognizes i s found) ∧ F.Same s w.env)
      (fun w => F.Same s w.env) := by
  unfold Platform.recognizeForEviction
  rw [if_pos (hF.configured i)]
  refine Proc.Triple.bind _ (hF.recognizeAuthenticator_spec hinfo) fun found => ?_
  exact Proc.Triple.pure fun w hw => ⟨⟨found, rfl, hw.1⟩, hw.2⟩

/-- The PIN is changed, and the recognized record deleted; or else the run
stops with the store as it was. -/
theorem changePinInternal_spec {info : Ctap2GetInfoResponse}
    (hinfo : ((F.platform i).getInfo s).1 = .ok info) (newPin : String) :
    Proc.Triple (fun w => F.Same s w.env) ((F.platform i).changePinInternal info newPin)
      (fun _ w => F.PinChanged i s w.env) (fun w => F.Beside i s w.env) := by
  have hstop : ∀ w : World σ T, F.Same s w.env → F.Beside i s w.env :=
    fun _ hsame => hsame.beside i
  unfold Platform.changePinInternal
  dsimp only
  split
  · exact Proc.Triple.throw hstop
  split
  · exact Proc.Triple.throw hstop
  refine Proc.Triple.bind _ ((hF.recognizeForEviction_spec hinfo).conseq (fun _ => id)
    (fun _ _ => id) hstop) fun recordId => Proc.Triple.of_fact fun hfound => ?_
  -- up to the command itself the store and the devices are as they were
  obtain ⟨found, rfl, hrecognizes⟩ := hfound
  refine Proc.Triple.bind _ (frame (hF.same_selectUvProto i info) i s) fun uvProto => ?_
  cases uvProto with
  | none => exact Proc.Triple.throw hstop
  | some uvProto =>
      refine Proc.Triple.bind _ (frame (hF.same_obtainCurrentPin i _ _) i s)
        fun currentPin => ?_
      refine Proc.Triple.bind _ (frame (hF.same_obtainSharedSecret i _) i s) fun keys => ?_
      refine Proc.Triple.bind _ (frame (hF.same_encrypt i _ _ _) i s) fun newPinEnc => ?_
      refine Proc.Triple.bind (fun request w =>
        (request.command = .setPin ∨ request.command = .changePin) ∧ F.Same s w.env)
        ?_ fun request => Proc.Triple.of_fact fun hcommand => ?_
      · refine ((changePinRequest_command _ _ _ _ _ _).and
          (frame (hF.same_changePinRequest i _ _ _ _ _) i s)).conseq (fun w hw => ⟨trivial, hw⟩)
          (fun _ _ => id) fun _ h => h.2
      -- the change goes through, and the record that was recognised before it is evicted
      · refine Proc.Triple.bind _ (hF.clientPin_spec request) fun response => ?_
        rintro w ⟨s₁, hsame, hanswer, henv⟩
        refine (evict_spec F i found _ _).post (fun _ w' hw' => ?_) w henv
        exact ⟨found, request, response, s₁, hrecognizes, hsame, hcommand, hanswer, hw'⟩

/-- A PIN change that succeeds was confirmed by the device, and then the
recognized record was deleted. -/
theorem changePin_spec (newPin : String) (i : ι) (s : σ) :
    Proc.Triple (fun w => w.env = s) ((F.platform i).changePin newPin)
      (fun _ w => F.PinChanged i s w.env) (fun w => F.Beside i s w.env) := by
  refine Proc.Triple.bind _ ((hF.getInfo_spec i s).conseq (fun _ => id) (fun _ _ => id)
    fun _ hsame => hsame.beside i) fun info => Proc.Triple.of_fact fun hinfo => ?_
  exact hF.changePinInternal_spec hinfo newPin

end Lawful

/-- The device confirmed a reset, and then the record was deleted that its
getInfo was recognized by. -/
def WasReset (F : Fleet ι σ T) (i : ι) (s s' : σ) : Prop :=
  ∃ found s₁, (F.Recognizes i s found
      ∨ (found = none ∧ ∀ info, ((F.platform i).getInfo s).1 ≠ .ok info))
    ∧ F.Same s s₁ ∧ ((F.platform i).authenticatorReset s₁).1 = .ok ()
    ∧ s' = F.evicted i found ((F.platform i).authenticatorReset s₁).2

/-- A command with the token of the recognized record was rejected, and the
record deleted. -/
def TokenRejected (F : Fleet ι σ T) (i : ι) (s s' : σ) : Prop :=
  ∃ id record s₁, F.Recognizes i s (some (id, record)) ∧ F.Same s s₁
    ∧ (F.authenticated i record.persistentToken s₁).1 = .error (.ctap .pinAuthInvalid)
    ∧ s' = F.evicted i (some (id, record)) (F.authenticated i record.persistentToken s₁).2

/-- The token of the device is stored, in the place of all the records with its
identifier. -/
def Minted (F : Fleet ι σ T) (i : ι) (protocol : Ctap2PinUvAuthProtocol) (s : σ)
    (id : PersistentTokenRecordId) (s' : σ) : Prop :=
  (∀ j, F.token j s' = F.token j s ∧ F.identifier j s' = F.identifier j s)
    ∧ ∃ aaguid, F.stored s' = ((F.stored s).without PersistentTokenRecord.deviceIdentifier
        (F.identifier i s)).insert id ⟨F.token i s, protocol, F.identifier i s, aaguid⟩

/-- All the records with the identifier of `i` are gone. -/
def Reaped (F : Fleet ι σ T) (i : ι) (s s' : σ) : Prop :=
  F.stored s' = (F.stored s).without PersistentTokenRecord.deviceIdentifier (F.identifier i s)
    ∧ ∀ j, F.token j s' = F.token j s ∧ F.identifier j s' = F.identifier j s

namespace Lawful

include hF

/-- Without a getInfo answer, no record is looked for. -/
theorem recognizeForReset_spec (i : ι) (s : σ) :
    Proc.Triple (fun w => w.env = s) (F.platform i).recognizeForReset
      (fun id w => (∃ found, id = found.map (·.1) ∧ (F.Recognizes i s found
        ∨ (found = none ∧ ∀ info, ((F.platform i).getInfo s).1 ≠ .ok info))) ∧ F.Same s w.env)
      (fun w => F.Same s w.env) := by
  unfold ManagedPlatform.recognizeForReset
  rw [if_pos (hF.configured i)]
  refine Proc.Triple.bind (fun answer w => ((F.platform i).getInfo s).1 = answer
    ∧ F.Same s w.env) ?_ fun answer => Proc.Triple.of_fact fun hanswer => ?_
  · rintro w rfl
    have hsame := hF.getInfo_same i w.env
    unfold Proc.attempt Platform.ctap2GetInfo Ctap.command
    rcases hrun : (F.platform i).getInfo w.env with ⟨answer, env⟩
    rw [hrun] at hsame
    cases answer with
    | ok info => exact ⟨rfl, hsame⟩
    | error e => exact ⟨rfl, hsame⟩
  cases answer with
  | ok info =>
      refine Proc.Triple.bind _ (hF.recognizeAuthenticator_spec hanswer) fun found => ?_
      exact Proc.Triple.pure fun w hw => ⟨⟨found, rfl, Or.inl hw.1⟩, hw.2⟩
  | error e =>
      refine Proc.Triple.pure fun w hw => ⟨⟨none, rfl, Or.inr ⟨rfl, fun info h => ?_⟩⟩, hw⟩
      rw [hanswer] at h
      cases h

/-- A reset that succeeds was confirmed by the device, and then the recognized
record was deleted. -/
theorem reset_spec (i : ι) (s : σ) :
    Proc.Triple (fun w => w.env = s) (F.platform i).reset
      (fun _ w => F.WasReset i s w.env) (fun w => F.Beside i s w.env) := by
  refine Proc.Triple.bind _ ((hF.recognizeForReset_spec i s).conseq (fun _ => id)
    (fun _ _ => id) fun _ hsame => hsame.beside i) fun recordId =>
      Proc.Triple.of_fact fun hfound => ?_
  obtain ⟨found, rfl, hfound⟩ := hfound
  refine Proc.Triple.bind (fun _ w => ∃ s₁, F.Same s s₁
    ∧ ((F.platform i).authenticatorReset s₁).1 = .ok ()
    ∧ w.env = ((F.platform i).authenticatorReset s₁).2) ?_ fun _ => ?_
  · refine Proc.Triple.bind _ (ask_spec _ _ _) fun answer => ?_
    refine Proc.Triple.ofExcept ?_ ?_
    · rintro _ rfl w ⟨w₀, hsame, hanswer, henv⟩
      exact ⟨w₀.env, hsame, hanswer.symm, henv⟩
    · rintro w ⟨w₀, hsame, hanswer, henv⟩
      rw [henv]
      exact hsame.trans_beside (hF.reset_beside i w₀.env)
  · rintro w ⟨s₁, hsame, hanswer, henv⟩
    refine (evict_spec F i found _ _).post (fun _ w' hw' => ?_) w henv
    exact ⟨found, s₁, hfound, hsame, hanswer, hw'⟩

/-- A token that was not rejected is not deleted. -/
theorem same_handleErrors (i : ι) {answer : Except (WebAuthnError T) Unit}
    (hanswer : answer ≠ .error (.ctap .pinAuthInvalid)) (used : UsedPinUvAuthToken) :
    Proc.Advances F.SameEnv ((F.platform i).handleErrors used answer) := by
  unfold Platform.handleErrors
  split
  · exact Proc.Advances.pure _
  · exact absurd rfl hanswer
  · exact absurd rfl hanswer
  · refine Proc.Advances.bind ?_ fun left => ?_
    · refine Proc.Advances.bind (Proc.Advances.attempt (hF.same_query i .uvRetries))
        fun result => ?_
      split <;> exact Proc.Advances.pure _
    · exact Proc.Advances.bind (same_tell (hF.uxUpdate_same i _)) fun _ => Proc.Advances.throw _
  · exact Proc.Advances.throw _

/-- A use of the stored token changes nothing unless the device rejects it. -/
theorem useToken_spec (i : ι) (s : σ) :
    Proc.Triple (fun w => w.env = s) (F.useToken i)
      (fun _ w => F.Beside i s w.env ∨ F.TokenRejected i s w.env)
      (fun w => F.Beside i s w.env) := by
  refine Proc.Triple.bind _ ((hF.getInfo_spec i s).conseq (fun _ => id) (fun _ _ => id)
    fun _ hsame => hsame.beside i) fun info => Proc.Triple.of_fact fun hinfo => ?_
  refine Proc.Triple.bind _ ((hF.recognizeAuthenticator_spec hinfo).conseq (fun _ => id)
    (fun _ _ => id) fun _ hsame => hsame.beside i) fun found =>
      Proc.Triple.of_fact fun hrecognizes => ?_
  cases found with
  | none => exact Proc.Triple.pure fun w hsame => Or.inl (hsame.beside i)
  | some entry =>
      obtain ⟨id, record⟩ := entry
      refine Proc.Triple.bind _ (ask_spec _ _ _) fun answer => ?_
      by_cases hrejected : answer = .error (.ctap .pinAuthInvalid)
      -- the device rejects its token: the record goes
      · subst hrejected
        have hevict : (F.platform i).evictPersistentToken id
            = (Ctap.tell ((F.platform i).storeDelete id) : Ctap σ T Unit) :=
          if_pos (hF.configured i)
        refine Proc.Triple.bind (fun _ w => F.TokenRejected i s w.env) ?_ fun _ =>
          Proc.Triple.pure fun _ hw => Or.inr hw
        show Proc.Triple _ ((F.platform i).evictPersistentToken id >>= fun _ => pure none) _ _
        rw [hevict]
        refine Proc.Triple.bind (fun _ w => F.TokenRejected i s w.env) (Proc.Triple.modify ?_)
          fun _ => Proc.Triple.pure fun _ hw => hw
        rintro w ⟨w₀, hsame, hanswer, henv⟩
        exact ⟨id, record, w₀.env, hrecognizes, hsame, hanswer.symm, by rw [henv]; rfl⟩
      · refine Proc.Triple.pre (P := fun w => F.Beside i s w.env) ?_ ?_
        · have hsame := (hF.same_handleErrors i hrejected (.fromPersistentStorage id)).triple
            (P := fun w => F.Beside i s w.env) fun _ _ hsame hbeside =>
              hbeside.trans_same hsame
          exact Proc.Triple.bind _ hsame fun _ => Proc.Triple.pure fun _ hw => Or.inl hw
        · rintro w ⟨w₀, hsame, hanswer, henv⟩
          rw [henv]
          exact hsame.trans_beside (hF.authenticated_beside i _ w₀.env)

/-- Deletes take out of the store just the records they name. -/
theorem stored_deletes (i : ι) (ids : List PersistentTokenRecordId) (s : σ)
    (id : PersistentTokenRecordId) :
    F.stored (ids.foldl (fun s id => (F.platform i).storeDelete id s) s) id
      = if id ∈ ids then none else F.stored s id := by
  induction ids generalizing s with
  | nil => rfl
  | cons first ids ih =>
      show F.stored (ids.foldl _ ((F.platform i).storeDelete first s)) id = _
      rw [ih, hF.delete]
      by_cases hmem : id ∈ ids
      · rw [if_pos hmem, if_pos (List.mem_cons_of_mem _ hmem)]
      · by_cases hfirst : id = first
        · rw [if_neg hmem, if_pos (List.mem_cons.mpr (Or.inl hfirst)), hfirst]
          exact Function.update_self ..
        · rw [if_neg hmem, if_neg fun h => (List.mem_cons.mp h).elim hfirst hmem]
          exact Function.update_of_ne hfirst ..

/-- Deletes leave every device as it was. -/
theorem device_deletes (i : ι) (ids : List PersistentTokenRecordId) (s : σ) (j : ι) :
    F.token j (ids.foldl (fun s id => (F.platform i).storeDelete id s) s) = F.token j s
      ∧ F.identifier j (ids.foldl (fun s id => (F.platform i).storeDelete id s) s)
        = F.identifier j s := by
  induction ids generalizing s with
  | nil => exact ⟨rfl, rfl⟩
  | cons first ids ih =>
      obtain ⟨htoken, hidentifier⟩ := ih ((F.platform i).storeDelete first s)
      obtain ⟨htoken', hidentifier'⟩ := hF.delete_device i first s j
      exact ⟨htoken.trans htoken', hidentifier.trans hidentifier'⟩

/-- What is reaped is all that was under the identifier, in whatever order the
records are listed. -/
theorem stored_reaped (i : ι) (deviceIdentifier : Bytes) (s : σ) :
    F.stored ((Platform.supersededIds deviceIdentifier ((F.platform i).storeList s).1).foldl
        (fun s id => (F.platform i).storeDelete id s) ((F.platform i).storeList s).2)
      = (F.stored s).without PersistentTokenRecord.deviceIdentifier deviceIdentifier := by
  funext id
  rw [hF.stored_deletes, (hF.list_same i s).stored]
  -- the ids that are deleted are those of all the device's records
  have hmem : id ∈ Platform.supersededIds deviceIdentifier ((F.platform i).storeList s).1
      ↔ ∃ record, F.stored s id = some record ∧ record.deviceIdentifier = deviceIdentifier := by
    unfold Platform.supersededIds
    rw [List.mem_map]
    constructor
    · rintro ⟨⟨_, record⟩, hentry, rfl⟩
      obtain ⟨hlisted, hidentifier⟩ := List.mem_filter.mp hentry
      exact ⟨record, (hF.list i s _ _).mp hlisted, eq_of_beq hidentifier⟩
    · rintro ⟨record, hstored, hidentifier⟩
      exact ⟨(id, record), List.mem_filter.mpr
        ⟨(hF.list i s _ _).mpr hstored, beq_iff_eq.mpr hidentifier⟩, rfl⟩
  refine Option.ext fun record => ?_
  rw [Keyed.without_eq_some]
  by_cases hreaped : id ∈ Platform.supersededIds deviceIdentifier ((F.platform i).storeList s).1
  · obtain ⟨record', hstored, hidentifier⟩ := hmem.mp hreaped
    rw [if_pos hreaped]
    refine ⟨fun h => (by cases h), fun h => absurd ?_ h.2⟩
    obtain rfl := Option.some.inj (hstored.symm.trans h.1)
    exact hidentifier
  · rw [if_neg hreaped]
    exact ⟨fun h => ⟨h, fun hidentifier => hreaped (hmem.mpr ⟨record, h, hidentifier⟩)⟩,
      fun h => h.1⟩

/-- A minted token is stored in the place of all the records of its device. -/
theorem mint_spec (i : ι) (protocol : Ctap2PinUvAuthProtocol) (s : σ) :
    Proc.Triple (fun w => w.env = s) (F.mint i protocol)
      (fun id w => F.Minted i protocol s id w.env) (fun w => F.Beside i s w.env) := by
  refine Proc.Triple.bind _ ((hF.getInfo_spec i s).conseq (fun _ => id) (fun _ _ => id)
    fun _ hsame => hsame.beside i) fun info => Proc.Triple.of_fact fun hinfo => ?_
  -- the identifier of the device, from the getInfo that came with the token
  obtain ⟨encIdentifier, henc, hdecrypt⟩ := hF.getInfo i s info hinfo
  refine Proc.Triple.bind (fun token w => token = F.token i s ∧ F.Same s w.env)
    (fun w hsame => ⟨hsame.token i, hsame⟩) fun token => Proc.Triple.of_fact fun htoken => ?_
  subst htoken
  unfold Platform.storeMintedToken
  rw [henc]
  dsimp only
  rw [hF.crypto, hdecrypt]
  refine Proc.Triple.bind (fun identifier w => identifier = F.identifier i s ∧ F.Same s w.env)
    (fun w hsame => ⟨rfl, hsame⟩) fun identifier => Proc.Triple.of_fact fun hidentifier => ?_
  subst hidentifier
  split
  · exact Proc.Triple.throw fun _ hsame => hsame.beside i
  -- first the superseded records go, of this device only
  · refine Proc.Triple.bind (fun _ w => F.Reaped i s w.env) ?_ fun _ => ?_
    · rintro w hsame
      refine ⟨?_, fun j => ?_⟩
      · rw [← hsame.stored]
        exact hF.stored_reaped i (F.identifier i s) w.env
      · have hlisted := hsame.trans (hF.list_same i w.env)
        obtain ⟨htoken, hidentifier⟩ := hF.device_deletes i (Platform.supersededIds
          (F.identifier i s) ((F.platform i).storeList w.env).1)
          ((F.platform i).storeList w.env).2 j
        exact ⟨htoken.trans (hlisted.token j), hidentifier.trans (hlisted.identifier j)⟩
    refine Proc.Triple.bind (fun _ w => F.Reaped i s w.env) ?_ fun id => ?_
    · refine Proc.Triple.bind (fun _ w => F.Reaped i s w.env) ?_ fun bytes =>
        Proc.Triple.pure fun _ hw => hw
      rintro w ⟨hstored, hdevices⟩
      have hsame := hF.random_same i 16 w.env
      exact ⟨hsame.stored.trans hstored, fun j =>
        ⟨(hsame.token j).trans (hdevices j).1, (hsame.identifier j).trans (hdevices j).2⟩⟩
    -- then the new one is put in their place
    · refine Proc.Triple.bind (fun _ w => F.Minted i protocol s id w.env)
        (Proc.Triple.modify ?_) fun _ => Proc.Triple.pure fun _ hw => hw
      rintro w ⟨hstored, hdevices⟩
      refine ⟨fun j => ?_, info.aaguid, ?_⟩
      · obtain ⟨htoken, hidentifier⟩ := hF.put_device i id
          ⟨F.token i s, protocol, F.identifier i s, info.aaguid⟩ w.env j
        exact ⟨htoken.trans (hdevices j).1, hidentifier.trans (hdevices j).2⟩
      · show F.stored ((F.platform i).storePut id _ w.env) = _
        rw [hF.put, hstored]

end Lawful

/-! ## §6. All that an operation can do. -/

/-- What an operation on `i` does: nothing to the store; or it deletes the
device's own record, once the device has another token; or it stores the token
of the device. -/
inductive Effect (F : Fleet ι σ T) (i : ι) (op : StoreOperation) (s s' : σ) : Prop
  | kept (hbeside : F.Beside i s s')
  | erased {id : PersistentTokenRecordId} {record : PersistentTokenRecord}
      (hstored : F.stored s id = some record) (htoken : record.persistentToken = F.token i s)
      (hidentifier : record.deviceIdentifier = F.identifier i s)
      (hchanged : F.token i s' ≠ F.token i s) (herased : F.stored s' = (F.stored s).erase id)
      (hothers : ∀ j, j ≠ i →
        F.token j s' = F.token j s ∧ F.identifier j s' = F.identifier j s)
  | minted {protocol : Ctap2PinUvAuthProtocol} {id : PersistentTokenRecordId}
      (hop : op = .mint protocol) (hresult : F.outcome i op s = .ok (some id))
      (hminted : F.Minted i protocol s id s')

namespace Lawful

include hF

/-- A device that changed its token, and the record deleted that it was
recognized by. -/
theorem effect_evicted (hsound : F.Sound i s) {op : StoreOperation}
    {found : Option (PersistentTokenRecordId × PersistentTokenRecord)}
    (hfound : F.Recognizes i s found ∨ found = none) {s₁ : σ} (hbeside : F.Beside i s s₁)
    (hchanged : ∀ id record, found = some (id, record) → F.token i s₁ ≠ F.token i s) :
    F.Effect i op s (F.evicted i found s₁) := by
  cases found with
  | none => exact .kept hbeside
  | some entry =>
      obtain ⟨id, record⟩ := entry
      obtain ⟨hstored, htoken, hidentifier⟩ :=
        hF.of_recognizes hsound (hfound.elim (fun h => h) fun h => (by cases h))
      refine .erased hstored htoken hidentifier ?_ ?_ fun j hj => ?_
      · show F.token i ((F.platform i).storeDelete id s₁) ≠ _
        rw [(hF.delete_device i id s₁ i).1]
        exact hchanged id record rfl
      · show F.stored ((F.platform i).storeDelete id s₁) = _
        rw [hF.delete, hbeside.stored]
      · obtain ⟨htoken', hidentifier'⟩ := hF.delete_device i id s₁ j
        exact ⟨htoken'.trans (hbeside.token j hj), hidentifier'.trans (hbeside.identifier j hj)⟩

/-- The effect of a PIN change, as the operations of the store see it. -/
theorem effect_pinChanged (hsound : F.Sound i s) {op : StoreOperation} {s' : σ}
    (h : F.PinChanged i s s') : F.Effect i op s s' := by
  obtain ⟨found, request, response, s₁, hrecognizes, hsame, hcommand, hanswer, rfl⟩ := h
  refine hF.effect_evicted hsound (Or.inl hrecognizes)
    (hsame.trans_beside (hF.clientPin_beside i request s₁)) fun _ _ _ => ?_
  rw [← hsame.token i]
  exact hF.clientPin_changes i request s₁ response hcommand hanswer

/-- The effect of a reset, as the operations of the store see it. -/
theorem effect_wasReset (hsound : F.Sound i s) {op : StoreOperation} {s' : σ}
    (h : F.WasReset i s s') : F.Effect i op s s' := by
  obtain ⟨found, s₁, hfound, hsame, hanswer, rfl⟩ := h
  refine hF.effect_evicted hsound (hfound.imp id fun h => h.1)
    (hsame.trans_beside (hF.reset_beside i s₁)) fun _ _ _ => ?_
  rw [← hsame.token i]
  exact hF.reset_changes i s₁ hanswer

/-- A rejected token's record is deleted, and only that one. -/
theorem effect_tokenRejected (hsound : F.Sound i s) {op : StoreOperation} {s' : σ}
    (h : F.TokenRejected i s s') : F.Effect i op s s' := by
  obtain ⟨id, record, s₁, hrecognizes, hsame, hanswer, rfl⟩ := h
  refine hF.effect_evicted hsound (Or.inl hrecognizes)
    (hsame.trans_beside (hF.authenticated_beside i _ s₁)) fun _ _ _ => ?_
  rw [← (hF.of_recognizes hsound hrecognizes).2.1]
  exact hF.rejects i _ s₁ hanswer

omit hF in
/-- A triple of an operation, for the state after it. -/
theorem after_of_triple {op : StoreOperation}
    {Q : Option PersistentTokenRecordId → World σ T → Prop}
    (htriple : Proc.Triple (fun w => w.env = s) (F.procedure i op) Q
      fun w => F.Beside i s w.env)
    (hok : ∀ result w, F.outcome i op s = .ok result → Q result w → F.Effect i op s w.env) :
    F.Effect i op s (F.after i op s) := by
  have hrun := htriple (.start s none) rfl
  unfold after outcome at *
  rcases hresult : F.procedure i op (.start s none) with ⟨result, w⟩
  rw [hresult] at hrun hok
  cases result with
  | ok result => exact hok result w rfl hrun
  | error e => exact .kept hrun
  | running => exact .kept hrun

/-- **One lemma for all operations**: what each does to the store and to the
device it is made on. -/
theorem operation_effect (hsound : F.Sound i s) (op : StoreOperation) :
    F.Effect i op s (F.after i op s) := by
  have hunit : ∀ {m : Ctap σ T Unit} {Q : World σ T → Prop},
      Proc.Triple (fun w => w.env = s) m (fun _ => Q) (fun w => F.Beside i s w.env) →
      Proc.Triple (fun w => w.env = s)
        (m >>= fun _ => pure (none : Option PersistentTokenRecordId))
        (fun _ => Q) (fun w => F.Beside i s w.env) :=
    fun h => Proc.Triple.bind _ h fun _ => Proc.Triple.pure fun _ hw => hw
  cases op with
  | mint protocol =>
      refine after_of_triple (Q := fun id w => ∃ id', id = some id'
        ∧ F.Minted i protocol s id' w.env) ?_ ?_
      · exact Proc.Triple.bind _ (hF.mint_spec i protocol s) fun id =>
          Proc.Triple.pure fun _ hw => ⟨id, rfl, hw⟩
      · rintro _ w hresult ⟨id, rfl, hminted⟩
        exact .minted rfl hresult hminted
  | changePin newPin =>
      exact after_of_triple (hunit (hF.changePin_spec newPin i s)) fun _ _ _ h =>
        hF.effect_pinChanged hsound h
  | reset =>
      exact after_of_triple (hunit (hF.reset_spec i s)) fun _ _ _ h =>
        hF.effect_wasReset hsound h
  | useToken =>
      exact after_of_triple (hunit (hF.useToken_spec i s)) fun _ _ _ h =>
        h.elim .kept (hF.effect_tokenRejected hsound)

end Lawful

/-! ## §7. Where the operations are made. -/

section

variable (F : Fleet ι σ T) (i : ι) {R : Type} [Ctap2UserVerifiableRequest R]

/-- A user verification stores the token that it was given as `mint` does. -/
theorem storeToken_mint {state : UvState R} {w w₁ : World σ T}
    (hinfo : (F.platform i).ctap2GetInfo w = (.ok state.info, w₁))
    (hwants : Ctap2UserVerifiableRequest.wantsPersistentToken state.request = true)
    (hconfigured : (F.platform i).persistentTokenStore = true) (uvProto : PinUvAuthProtocol)
    (sharedSecret : Bytes) (publicKey : PublicKey) (uvOperation : Ctap2UserVerificationOperation) :
    ((F.platform i).storeToken state uvProto sharedSecret publicKey uvOperation
        (F.token i w₁.env) w₁).2
      = (F.mint i uvProto.version w).2 := by
  have hmint : F.mint i uvProto.version w
      = (F.platform i).storeMintedToken state.info (F.token i w₁.env) uvProto.version w₁ :=
    Proc.bind_of_ok hinfo _
  rw [hmint, Platform.storeToken, if_pos hwants, if_pos hconfigured, Proc.bind_apply, Proc.attempt]
  rcases (F.platform i).storeMintedToken state.info (F.token i w₁.env) uvProto.version w₁
    with ⟨outcome, w₂⟩
  cases outcome <;> rfl

/-- A management operation that is verified by the recognized record sends its
command, and handles the answer, as `useToken` does. -/
theorem managementTurn_useToken {management : Platform.Management σ T R Unit} {fuel : Nat}
    {entry request : R} {info : Ctap2GetInfoResponse} {id : PersistentTokenRecordId}
    {record : PersistentTokenRecord} {w w₁ w₂ : World σ T}
    (hinfo : (F.platform i).ctap2GetInfo w = (.ok info, w₁))
    (hrecognized : (F.platform i).recognizeAuthenticator info w₁ = (.ok (some (id, record)), w₂))
    (hverified : (F.platform i).userVerification fuel management.requirement entry w
      = (.ok (.fromPersistentStorage id, request), w₂))
    (hcheck : management.check request = .ok ())
    (hsend : management.send request
      = Ctap.ask (F.authenticated i record.persistentToken) >>= Proc.ofExcept) :
    ((F.platform i).managementTurn management fuel entry w).2 = (F.useToken i w).2 := by
  have hturn : (F.platform i).managementTurn management fuel entry w = _ :=
    Proc.bind_of_ok hverified _
  have huse : F.useToken i w = _ := Proc.bind_of_ok hinfo _
  rw [hturn, huse, Proc.bind_of_ok hrecognized]
  dsimp only
  -- both ask the device, and then handle its answer from one state
  have hanswer :
      (Proc.attempt (management.send request) : Ctap σ T (Except (WebAuthnError T) Unit))
        = Ctap.ask (F.authenticated i record.persistentToken) := by
    funext w
    rw [hsend, Proc.attempt, Proc.bind_apply]
    show _ = (Outcome.ok (F.authenticated i record.persistentToken w.env).1, _)
    unfold Ctap.ask
    dsimp only
    cases (F.authenticated i record.persistentToken w.env).1 <;> rfl
  have hchecked : (Proc.ofExcept (.ok ()) : Ctap σ T Unit) w₂ = (.ok (), w₂) := rfl
  rw [hcheck, hanswer, Proc.bind_of_ok hchecked, Proc.bind_apply, Proc.bind_apply]
  unfold Ctap.ask
  dsimp only
  rw [Proc.bind_apply, Proc.bind_apply]
  rcases (F.platform i).handleErrors (.fromPersistentStorage id) _ _ with ⟨outcome, w₃⟩
  cases outcome with
  | ok response => cases response <;> rfl
  | error e => rfl
  | running => rfl

end

end Fleet

end Libwebauthn
