/-
  Libwebauthn.Webauthn.StoreRuns — runs of operations on a shared store of
  persistent tokens (`src/pin/persistent_token.rs`).

  `Run` chains the operations of any of the authenticators, from an empty
  store; `Holds` is a run during which one of them has the same token.
-/
import Libwebauthn.Webauthn.SharedStore
import Libwebauthn.Transport.Mock
import Mathlib.Data.List.AList

namespace Libwebauthn

variable {ι σ T : Type}

namespace Fleet

variable {F : Fleet ι σ T}

/-! ## §1. Runs. -/

/-- The states that operations lead to. -/
inductive Run (F : Fleet ι σ T) (s₀ : σ) : σ → Prop
  | start : Run F s₀ s₀
  | step {i : ι} {op : StoreOperation} {s : σ} (hrun : Run F s₀ s) (hsound : F.Sound i s)
      (hfresh : F.Fresh i op s) : Run F s₀ (F.after i op s)

/-- The states that operations lead to while the token of `i` is `token`, and
no other one is minted for it. -/
inductive Holds (F : Fleet ι σ T) (i : ι) (token : Bytes) (s₁ : σ) : σ → Prop
  | start (htoken : F.token i s₁ = token) : Holds F i token s₁ s₁
  | step {j : ι} {op : StoreOperation} {s : σ} (hrun : Holds F i token s₁ s)
      (hsound : F.Sound j s) (hfresh : F.Fresh j op s)
      (hmint : j = i → ∀ protocol, op ≠ .mint protocol)
      (htoken : F.token i (F.after j op s) = token) : Holds F i token s₁ (F.after j op s)

variable {i : ι} {op : StoreOperation} {s s' : σ}

/-! ## §2. The invariant. -/

/-- An operation changes the records with the identifier of its device. -/
theorem Effect.change (h : F.Effect i op s s') (hfresh : F.Fresh i op s) :
    Keyed.Change PersistentTokenRecord.deviceIdentifier (F.identifier i s) (F.stored s)
      (F.stored s') := by
  cases h with
  | kept hbeside =>
      rw [hbeside.stored]
      exact .kept
  | erased hstored _ hidentifier _ herased _ =>
      rw [herased]
      exact .erased hstored hidentifier
  | minted _ hresult hminted =>
      obtain ⟨-, aaguid, hstored⟩ := hminted
      rw [hstored]
      exact .renewed (hfresh _ hresult) rfl

/-- The records of other devices stay as they are. -/
theorem Effect.others (h : F.Effect i op s s') (hfresh : F.Fresh i op s)
    {id : PersistentTokenRecordId} {record : PersistentTokenRecord}
    (hother : record.deviceIdentifier ≠ F.identifier i s) :
    F.stored s' id = some record ↔ F.stored s id = some record :=
  (h.change hfresh).other hother

/-- Other devices stay as they are. -/
theorem Effect.device (h : F.Effect i op s s') {j : ι} (hj : j ≠ i) :
    F.token j s' = F.token j s ∧ F.identifier j s' = F.identifier j s := by
  cases h with
  | kept hbeside => exact ⟨hbeside.token j hj, hbeside.identifier j hj⟩
  | erased _ _ _ _ _ hothers => exact hothers j hj
  | minted _ _ hminted => exact hminted.1 j

/-- At most one record of an identifier. -/
theorem Run.single (hF : F.Lawful) {s₀ : σ} (hempty : ∀ id, F.stored s₀ id = none)
    (h : F.Run s₀ s) :
    Keyed.Single PersistentTokenRecord.deviceIdentifier (F.stored s) := by
  induction h with
  | start =>
      intro id _ record _ hstored
      rw [hempty id] at hstored
      cases hstored
  | step hrun hsound hfresh ih =>
      exact ((hF.operation_effect hsound _).change hfresh).single ih

theorem Holds.run {token : Bytes} {s₀ s₁ : σ} (h : F.Holds i token s₁ s)
    (hrun : F.Run s₀ s₁) : F.Run s₀ s := by
  induction h with
  | start => exact hrun
  | step _ hsound hfresh _ _ ih => exact .step ih hsound hfresh

/-! ## §3. A minted record. -/

/-- A record of the token and the identifier that `i` has. -/
structure Own (F : Fleet ι σ T) (i : ι) (s : σ) (id : PersistentTokenRecordId)
    (record : PersistentTokenRecord) : Prop where
  stored : F.stored s id = some record
  token : record.persistentToken = F.token i s
  identifier : record.deviceIdentifier = F.identifier i s

namespace Lawful

variable (hF : F.Lawful)

include hF

/-- A mint that returned stored the token of the device. -/
theorem own_minted {id : PersistentTokenRecordId} {protocol : Ctap2PinUvAuthProtocol}
    (hresult : F.outcome i (.mint protocol) s = .ok (some id)) :
    ∃ record, F.Own i (F.after i (.mint protocol) s) id record := by
  have hrun : Proc.Triple (fun w : World σ T => w.env = s) (F.procedure i (.mint protocol))
      (fun result w => ∃ id', result = some id' ∧ F.Minted i protocol s id' w.env)
      (fun w => F.Beside i s w.env) :=
    Proc.Triple.bind _ (hF.mint_spec i protocol s) fun id =>
      Proc.Triple.pure fun _ hw => ⟨id, rfl, hw⟩
  obtain ⟨id', hid, hdevices, aaguid, hstored⟩ := hrun.ok rfl (Prod.ext hresult rfl)
  obtain rfl := Option.some.inj hid
  refine ⟨⟨F.token i s, protocol, F.identifier i s, aaguid⟩, ?_, ?_, ?_⟩
  · rw [show F.stored (F.after i (.mint protocol) s) = _ from hstored]
    exact Keyed.insert_eq_some.mpr (Or.inl ⟨rfl, rfl⟩)
  · exact (hdevices i).1.symm
  · exact (hdevices i).2.symm

/-- It stays there while the device has the token and no other one is minted
for it. -/
theorem own_step {j : ι} {id : PersistentTokenRecordId} {record : PersistentTokenRecord}
    (hown : F.Own i s id record) (hsound : F.Sound j s) (hfresh : F.Fresh j op s)
    (hmint : j = i → ∀ protocol, op ≠ .mint protocol)
    (htoken : F.token i (F.after j op s) = F.token i s) :
    F.Own i (F.after j op s) id record := by
  have heffect := hF.operation_effect hsound op
  by_cases hj : j = i
  · subst hj
    cases heffect with
    | kept hbeside =>
        refine ⟨?_, hown.token.trans htoken.symm, hown.identifier.trans (hbeside.own htoken).symm⟩
        rw [hbeside.stored]
        exact hown.stored
    | erased _ _ _ hchanged _ _ => exact absurd htoken hchanged
    | minted hop _ _ => exact absurd hop (hmint rfl _)
  · obtain ⟨htoken', hidentifier⟩ := heffect.device fun h => hj h.symm
    have hother : record.deviceIdentifier ≠ F.identifier j s := by
      rw [hown.identifier]
      exact hF.distinct i j s s fun h => hj h.symm
    refine ⟨(heffect.others hfresh hother).mpr hown.stored, ?_, ?_⟩
    · exact hown.token.trans htoken'.symm
    · exact hown.identifier.trans hidentifier.symm

theorem own_holds {token : Bytes} {s₁ : σ} {id : PersistentTokenRecordId}
    {record : PersistentTokenRecord} (h : F.Holds i token s₁ s) (hown : F.Own i s₁ id record) :
    F.Own i s id record ∧ F.token i s = token := by
  induction h with
  | start htoken => exact ⟨hown, htoken⟩
  | step hrun hsound hfresh hmint htoken ih =>
      exact ⟨hF.own_step ih.1 hsound hfresh hmint (htoken.trans ih.2.symm), htoken⟩

/-- An authenticator with a record of its own is recognized by it. -/
theorem recognize_own (hsound : F.Sound i s)
    (hsingle : Keyed.Single PersistentTokenRecord.deviceIdentifier (F.stored s))
    {id : PersistentTokenRecordId} {record : PersistentTokenRecord} (hown : F.Own i s id record)
    {info : Ctap2GetInfoResponse} (hinfo : ((F.platform i).getInfo s).1 = .ok info) :
    (F.recognize i (.start s none)).1 = .ok (some (id, record)) := by
  have hspec : Proc.Triple (fun w : World σ T => w.env = s) (F.recognize i)
      (fun found w => F.Recognizes i s found ∧ F.Same s w.env) (fun w => F.Same s w.env) :=
    Proc.Triple.bind _ (hF.getInfo_spec i s) fun info =>
      Proc.Triple.of_fact fun hinfo => hF.recognizeAuthenticator_spec hinfo
  obtain ⟨encIdentifier, henc, -⟩ := hF.getInfo i s info hinfo
  -- the device answers, and a recognition that reads the store cannot fail
  have hanswer : ∃ w, (F.platform i).ctap2GetInfo (.start s none) = (.ok info, w) := by
    unfold Platform.ctap2GetInfo Ctap.command
    rcases hrun : (F.platform i).getInfo s with ⟨answer, env⟩
    rw [hrun] at hinfo
    obtain rfl : answer = .ok info := hinfo
    exact ⟨_, by rw [show (World.start s none).env = s from rfl, hrun]⟩
  obtain ⟨w, hanswer⟩ := hanswer
  have hfound : ∃ found w', (F.platform i).recognizeAuthenticator info w = (.ok found, w') := by
    unfold Platform.recognizeAuthenticator
    rw [henc]
    exact ⟨_, _, rfl⟩
  obtain ⟨found, w', hfound⟩ := hfound
  have hrun : F.recognize i (.start s none) = (.ok found, w') :=
    (Proc.bind_of_ok hanswer _).trans hfound
  have hrecognizes := (hspec.ok rfl hrun).1
  rw [hrun, hF.recognizes_own hsound hsingle hown.stored hown.token hown.identifier hrecognizes]

end Lawful

/-! ## §4. When a record is deleted. -/

/-- The authenticator reported success for what the operation sent it. -/
def Confirmed (F : Fleet ι σ T) (i : ι) : StoreOperation → (s s' : σ) → Prop
  | .changePin _, s, s' => ∃ request response,
      (request.command = .setPin ∨ request.command = .changePin)
        ∧ (F.platform i).clientPin request s = (.ok response, s')
  | .reset, s, s' => (F.platform i).authenticatorReset s = (.ok (), s')
  | _, _, _ => False

/-- The operations that delete what was recognized before them. -/
def StoreOperation.Invalidates : StoreOperation → Prop
  | .changePin _ => True
  | .reset => True
  | _ => False

namespace Lawful

variable (hF : F.Lawful)

include hF

/-- A PIN change or a reset deletes the record that was recognized, once the
authenticator reported success with the store as it was; and it leaves the
store alone unless it succeeds. -/
theorem invalidates (hop : op.Invalidates) :
    (∀ result, F.outcome i op s = .ok result → ∃ found s₁ s₂,
        (F.Recognizes i s found
          ∨ (found = none ∧ ∀ info, ((F.platform i).getInfo s).1 ≠ .ok info))
          ∧ F.Same s s₁ ∧ F.Confirmed i op s₁ s₂ ∧ F.after i op s = F.evicted i found s₂)
      ∧ ((∀ result, F.outcome i op s ≠ .ok result) →
        F.stored (F.after i op s) = F.stored s) := by
  have hspec : ∃ Q : World σ T → Prop,
      Proc.Triple (fun w => w.env = s) (F.procedure i op) (fun _ => Q)
          (fun w => F.Beside i s w.env)
        ∧ ∀ w, Q w → ∃ found s₁ s₂, (F.Recognizes i s found
              ∨ (found = none ∧ ∀ info, ((F.platform i).getInfo s).1 ≠ .ok info))
            ∧ F.Same s s₁ ∧ F.Confirmed i op s₁ s₂ ∧ w.env = F.evicted i found s₂ := by
    cases op with
    | mint => exact hop.elim
    | useToken => exact hop.elim
    | changePin newPin =>
        refine ⟨fun w => F.PinChanged i s w.env, ?_, ?_⟩
        · exact Proc.Triple.bind _ (hF.changePin_spec newPin i s) fun _ =>
            Proc.Triple.pure fun _ hw => hw
        · rintro w ⟨found, request, response, s₁, hrecognizes, hsame, hcommand, hanswer, henv⟩
          exact ⟨found, s₁, _, Or.inl hrecognizes, hsame,
            ⟨request, response, hcommand, Prod.ext hanswer rfl⟩, henv⟩
    | reset =>
        refine ⟨fun w => F.WasReset i s w.env, ?_, ?_⟩
        · exact Proc.Triple.bind _ (hF.reset_spec i s) fun _ => Proc.Triple.pure fun _ hw => hw
        · rintro w ⟨found, s₁, hfound, hsame, hanswer, henv⟩
          exact ⟨found, s₁, _, hfound, hsame, Prod.ext hanswer rfl, henv⟩
  obtain ⟨Q, htriple, hQ⟩ := hspec
  refine ⟨fun result hresult => hQ _ (htriple.ok rfl (Prod.ext hresult rfl)), fun hstopped => ?_⟩
  exact (htriple.stopped rfl hstopped).stored

end Lawful

/-! ## §5. The store over any run. -/

/-- From an empty store, over any run: there is at most one record of an
identifier; an operation on one authenticator leaves the records and the tokens
of the others as they are; a minted record is the one that the authenticator is
recognized by as long as it has the token; and a PIN change or a reset deletes
the record that was recognized, once the authenticator reported success. -/
theorem persistentTokens_kept (F : Fleet ι σ T) (hF : F.Lawful) {s₀ : σ}
    (hempty : ∀ id, F.stored s₀ id = none) {s : σ} (hrun : F.Run s₀ s) :
    (∀ id id' record record', F.stored s id = some record → F.stored s id' = some record' →
        record.deviceIdentifier = record'.deviceIdentifier → id = id')
      ∧ (∀ i op, F.Sound i s → F.Fresh i op s →
        (∀ id record, record.deviceIdentifier ≠ F.identifier i s →
            (F.stored (F.after i op s) id = some record ↔ F.stored s id = some record))
          ∧ ∀ j, j ≠ i → F.identifier j s ≠ F.identifier i s
            ∧ F.token j (F.after i op s) = F.token j s
            ∧ F.identifier j (F.after i op s) = F.identifier j s)
      ∧ (∀ i protocol id, F.Sound i s → F.Fresh i (.mint protocol) s →
        F.outcome i (.mint protocol) s = .ok (some id) →
        ∃ record, ∀ s', F.Holds i (F.token i s) (F.after i (.mint protocol) s) s' →
          F.Sound i s' → ∀ info, ((F.platform i).getInfo s').1 = .ok info →
            record.persistentToken = F.token i s'
              ∧ (F.recognize i (.start s' none)).1 = .ok (some (id, record)))
      ∧ ∀ i op, StoreOperation.Invalidates op →
        (∀ result, F.outcome i op s = .ok result → ∃ found s₁ s₂,
            (F.Recognizes i s found
              ∨ (found = none ∧ ∀ info, ((F.platform i).getInfo s).1 ≠ .ok info))
              ∧ F.Same s s₁ ∧ F.Confirmed i op s₁ s₂ ∧ F.after i op s = F.evicted i found s₂)
          ∧ ((∀ result, F.outcome i op s ≠ .ok result) →
            F.stored (F.after i op s) = F.stored s) := by
  refine ⟨fun id id' record record' h h' hsame => Run.single hF hempty hrun h h' hsame,
    fun i op hsound hfresh => ⟨fun id record hother => ?_, fun j hj => ?_⟩,
    fun i protocol id hsound hfresh hresult => ?_, fun i op hop => hF.invalidates hop⟩
  · exact (hF.operation_effect hsound op).others hfresh hother
  · exact ⟨hF.distinct j i s s hj, (hF.operation_effect hsound op).device hj⟩
  · obtain ⟨record, hown⟩ := hF.own_minted hresult
    refine ⟨record, fun s' hholds hsound' info hinfo => ?_⟩
    -- the minted record stays the only one of the device until its token is invalidated
    have hminted : F.Run s₀ (F.after i (.mint protocol) s) := .step hrun hsound hfresh
    obtain ⟨hown', htoken⟩ := hF.own_holds hholds hown
    have hsingle := Run.single hF hempty (hholds.run hminted)
    exact ⟨hown'.token, hF.recognize_own hsound' hsingle hown' hinfo⟩

end Fleet

/-! ## §6. Two authenticators. -/

/-- A store in memory (after `MemoryPersistentTokenStore`), and how often each
of two authenticators was reset. -/
structure TwoKeys where
  records : AList fun _ : PersistentTokenRecordId => PersistentTokenRecord := ∅
  resets : Bool → Nat := fun _ => 0
  drawn : Nat := 0

namespace TwoKeys

/-- The token of a key; a reset gives it another one. -/
def keyToken (i : Bool) (s : TwoKeys) : Bytes :=
  List.replicate 32 (if i then 2 else 1) ++ List.replicate (s.resets i) 0

def keyIdentifier (i : Bool) : Bytes := List.replicate 16 (if i then 20 else 10)

/-- The next value as an IV, or as a record id. -/
def draw (n : Nat) (s : TwoKeys) : Bytes := List.replicate n (UInt8.ofNat s.drawn)

def platform (i : Bool) : ManagedPlatform TwoKeys Empty where
  crypto := transparentCrypto
  codecs := absentCodecs
  supportsPreflight := false
  getInfo s :=
    (.ok { aaguid := List.replicate 16 0, encIdentifier := some (draw 16 s ++ keyIdentifier i) },
      { s with drawn := s.drawn + 1 })
  clientPin _ s := (.error (.ctap .other), s)
  makeCredential _ s := (.error (.ctap .other), s)
  getAssertion _ s := (.error (.ctap .other), s)
  getNextAssertion s := (.error (.ctap .other), s)
  largeBlobs _ s := (.error (.ctap .other), s)
  uxUpdate _ s := s
  pinRequired _ _ s := (none, s)
  pinNotSet _ s := (none, s)
  persistentTokenStore := true
  storeList s := (s.records.entries.map fun entry => (entry.1, entry.2), s)
  storePut id record s := { s with records := s.records.insert id record }
  storeDelete id s := { s with records := s.records.erase id }
  random n s := (draw n s, { s with drawn := s.drawn + 1 })
  random_length _ _ := List.length_replicate
  authenticatorReset s :=
    (.ok (), { s with resets := Function.update s.resets i (s.resets i + 1) })

def fleet : Fleet Bool TwoKeys Empty where
  crypto := transparentCrypto
  platform := platform
  stored s id := s.records.lookup id
  token := keyToken
  identifier i _ := keyIdentifier i
  authenticated i token s :=
    if token = keyToken i s then (.ok (), s) else (.error (.ctap .pinAuthInvalid), s)

theorem keyToken_reset_other {i j : Bool} (hj : j ≠ i) (s : TwoKeys) (n : Nat) :
    keyToken j { s with resets := Function.update s.resets i n } = keyToken j s := by
  unfold keyToken
  dsimp only
  rw [Function.update_of_ne hj]

theorem keyToken_reset (i : Bool) (s : TwoKeys) :
    keyToken i { s with resets := Function.update s.resets i (s.resets i + 1) }
      ≠ keyToken i s := by
  unfold keyToken
  dsimp only
  rw [Function.update_self]
  intro h
  have hlength := congrArg List.length h
  rw [List.length_append, List.length_append, List.length_replicate, List.length_replicate,
    List.length_replicate] at hlength
  omega

theorem keyIdentifier_decrypts (i : Bool) (s : TwoKeys) :
    decryptEncIdentifier transparentCrypto (keyToken i s) (draw 16 s ++ keyIdentifier i)
      = .ok (keyIdentifier i) := by
  have hiv : (draw 16 s).length = 16 := List.length_replicate
  have hidentifier : (keyIdentifier i).length = 16 := List.length_replicate
  have hkey : (encIdentifierKey transparentCrypto (keyToken i s)).length = 16 :=
    fitBytes_length 16 _
  have hdecrypt : transparentCrypto.aes128CbcDecrypt
      (encIdentifierKey transparentCrypto (keyToken i s)) (draw 16 s) (keyIdentifier i)
        = some (keyIdentifier i) :=
    if_pos ⟨hkey, hiv, by rw [hidentifier]⟩
  unfold decryptEncIdentifier
  rw [List.length_append, hiv, hidentifier, if_neg (by decide), List.take_left' hiv,
    List.drop_left' hiv, hdecrypt]
  exact if_pos hidentifier

theorem lawful_fleet : fleet.Lawful where
  crypto _ := rfl
  configured _ := rfl
  list i s id record := by
    show (id, record) ∈ s.records.entries.map (fun entry => (entry.1, entry.2))
      ↔ s.records.lookup id = some record
    rw [← Option.mem_def, AList.mem_lookup_iff, List.mem_map]
    constructor
    · rintro ⟨entry, hmem, hentry⟩
      obtain ⟨rfl, rfl⟩ := Prod.mk.inj hentry
      exact hmem
    · exact fun hmem => ⟨_, hmem, rfl⟩
  list_same _ _ := ⟨rfl, fun _ => rfl, fun _ => rfl⟩
  put i id record s := by
    funext id'
    show (s.records.insert id record).lookup id' = (fleet.stored s).insert id record id'
    unfold Keyed.insert
    by_cases h : id' = id
    · rw [h, AList.lookup_insert, Function.update_self]
    · rw [AList.lookup_insert_ne h, Function.update_of_ne h]
      rfl
  put_device _ _ _ _ _ := ⟨rfl, rfl⟩
  delete i id s := by
    funext id'
    show (s.records.erase id).lookup id' = (fleet.stored s).erase id id'
    unfold Keyed.erase
    by_cases h : id' = id
    · rw [h, AList.lookup_erase, Function.update_self]
    · rw [AList.lookup_erase_ne h, Function.update_of_ne h]
      rfl
  delete_device _ _ _ _ := ⟨rfl, rfl⟩
  random_same _ _ _ := ⟨rfl, fun _ => rfl, fun _ => rfl⟩
  pinRequired_same _ _ _ _ := ⟨rfl, fun _ => rfl, fun _ => rfl⟩
  uxUpdate_same _ _ _ := ⟨rfl, fun _ => rfl, fun _ => rfl⟩
  getInfo_same _ _ := ⟨rfl, fun _ => rfl, fun _ => rfl⟩
  getInfo i s info h := by
    obtain rfl := Except.ok.inj h
    exact ⟨_, rfl, keyIdentifier_decrypts i s⟩
  clientPin_query _ _ _ _ := ⟨rfl, fun _ => rfl, fun _ => rfl⟩
  clientPin_beside _ _ _ := ⟨rfl, fun _ _ => rfl, fun _ _ => rfl, fun _ => rfl⟩
  clientPin_changes _ _ _ _ _ h := by cases h
  reset_beside i s :=
    ⟨rfl, fun _ hj => keyToken_reset_other hj s _, fun _ _ => rfl, fun _ => rfl⟩
  reset_changes i s _ := keyToken_reset i s
  authenticated_beside i token s := by
    show fleet.Beside i s (if _ then _ else _ : Except (WebAuthnError Empty) Unit × TwoKeys).2
    split
    · exact ⟨rfl, fun _ _ => rfl, fun _ _ => rfl, fun _ => rfl⟩
    · exact ⟨rfl, fun _ _ => rfl, fun _ _ => rfl, fun _ => rfl⟩
  rejects i token s h := by
    unfold fleet at h ⊢
    dsimp only at h ⊢
    split at h
    next => cases h
    next htoken =>
      rw [if_neg htoken]
      exact fun heq => htoken heq.symm
  -- the two devices have identifiers of their own
  distinct i j s s' hij h := by
    have hne : keyIdentifier false ≠ keyIdentifier true := by decide
    cases i with
    | false =>
        cases j with
        | false => exact hij rfl
        | true => exact hne h
    | true =>
        cases j with
        | false => exact hne h.symm
        | true => exact hij rfl

theorem sound_of {i : Bool} {s : TwoKeys}
    (h : ∀ entry ∈ s.records.entries, entry.2.persistentToken ≠ keyToken i s →
      entry.2.recognizes transparentCrypto (draw 16 s ++ keyIdentifier i) = false) :
    fleet.Sound i s := by
  intro info encIdentifier hinfo henc id record hstored
  obtain rfl := Except.ok.inj hinfo
  obtain rfl := Option.some.inj henc
  exact h ⟨id, record⟩ (AList.mem_lookup_iff.mp hstored)

theorem fresh_of {i : Bool} {op : Fleet.StoreOperation} {s : TwoKeys}
    {result : Option PersistentTokenRecordId} (hresult : fleet.outcome i op s = .ok result)
    (hnew : ∀ id ∈ result, s.records.lookup id = none) : fleet.Fresh i op s := by
  intro id h
  exact hnew id (Outcome.ok.inj (hresult.symm.trans h))

/-- One key has a token, then the other gets one, then the first is reset. -/
def oneMinted : TwoKeys := fleet.after true (.mint .two) {}

def bothMinted : TwoKeys := fleet.after false (.mint .one) oneMinted

def oneReset : TwoKeys := fleet.after true .reset bothMinted

theorem outcomes :
    fleet.outcome true (.mint .two) {} = .ok (some "01010101010101010101010101010101")
      ∧ fleet.outcome false (.mint .one) oneMinted = .ok (some "03030303030303030303030303030303")
      ∧ fleet.outcome true .reset bothMinted = .ok none := by
  decide +kernel

/-- The key that was not reset is recognized by its record; that of the other
one is gone. -/
theorem persistentTokens_kept_twoKeys :
    (∃ record, (fleet.recognize false (.start oneReset none)).1
        = .ok (some ("03030303030303030303030303030303", record)))
      ∧ ∃ found s₁ s₂, fleet.Confirmed true .reset s₁ s₂
        ∧ oneReset = fleet.evicted true found s₂ := by
  obtain ⟨hfirst, hsecond, hreset⟩ := outcomes
  have hrun : fleet.Run {} oneMinted :=
    .step .start (sound_of (by decide +kernel)) (fresh_of hfirst (by decide +kernel))
  have hsound : fleet.Sound false oneMinted := sound_of (by decide +kernel)
  have hfresh : fleet.Fresh false (.mint .one) oneMinted := fresh_of hsecond (by decide +kernel)
  have hrun' : fleet.Run {} bothMinted := hrun.step hsound hfresh
  have hholds : fleet.Holds false (keyToken false oneMinted) bothMinted oneReset :=
    .step (.start (by decide +kernel)) (sound_of (by decide +kernel))
      (fresh_of hreset (by decide +kernel)) (fun h => by cases h) (by decide +kernel)
  constructor
  · obtain ⟨-, -, hminted, -⟩ := Fleet.persistentTokens_kept fleet lawful_fleet (fun _ => rfl) hrun
    obtain ⟨record, hrecognized⟩ := hminted false .one _ hsound hfresh hsecond
    exact ⟨record, (hrecognized oneReset hholds (sound_of (by decide +kernel)) _ rfl).2⟩
  · obtain ⟨-, -, -, hdeletes⟩ :=
      Fleet.persistentTokens_kept fleet lawful_fleet (fun _ => rfl) hrun'
    obtain ⟨hdeleted, -⟩ := hdeletes true .reset trivial
    obtain ⟨found, s₁, s₂, -, -, hconfirmed, hevicted⟩ := hdeleted _ hreset
    exact ⟨found, s₁, s₂, hconfirmed, hevicted⟩

end TwoKeys

end Libwebauthn
