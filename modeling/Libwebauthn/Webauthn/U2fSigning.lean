/-
  Libwebauthn.Webauthn.U2fSigning — which listed credential a U2F assertion
  is made with.

  The length of a key handle is cast to a byte.  A credential id of 256 bytes
  or more therefore goes out with a wrong length, which the device refuses,
  and the refusal ends the loop before the entries behind it are tried.
-/
import Libwebauthn.Ctap1.Device
import Libwebauthn.Transport.Mock
import Libwebauthn.Webauthn.U2f

namespace Libwebauthn

namespace U2fPlatform

variable {σ T : Type} {p : U2fPlatform σ T} {holds : (appIdHash keyHandle : Bytes) → Bool}

/-! ## §1. One sign request. -/

/-- Its hashes have the size the command has room for. -/
def WellSized (request : Ctap1SignRequest) : Prop :=
  request.challenge.length = 32 ∧ request.appIdHash.length = 32

/-- An answer without a missing touch is the last one. -/
theorem settled_of_answer {apdu : ApduRequest} {env : σ} {answer : Except T ApduResponse}
    (h : (p.apdu apdu env).1 = some answer)
    (hlast : ∀ response, answer = .ok response → response.status ≠ .ok .userPresenceTestFailed) :
    (p.settled apdu env).1 = some answer := by
  unfold settled settle
  rcases hrun : p.apdu apdu env with ⟨_ | e | response, env'⟩
  · rw [hrun] at h
    cases h
  · rw [hrun] at h
    exact h
  · rw [hrun] at h
    have hanswer := Option.some.inj h
    simp only
    rw [if_neg (hlast response hanswer.symm)]
    exact h

/-- The device's own fields are those of the request. -/
theorem lengthByteAgrees_iff {request : Ctap1SignRequest} (hsized : WellSized request) :
    request.toApdu.LengthByteAgrees ↔ request.keyHandle.length < 256 := by
  have hfield := (Ctap1SignRequest.fields_toApdu hsized.1 hsized.2).2
  unfold ApduRequest.LengthByteAgrees
  rw [hfield, ← lengthByte_eq_iff]
  exact ⟨fun h => h _ rfl, fun h field heq => by rw [← Option.some.inj heq]; exact h⟩

theorem signVerdict_unknown (hdevice : p.SignsFor holds) {request : Ctap1SignRequest}
    (hsized : WellSized request) (hlen : request.keyHandle.length < 256)
    (hholds : holds request.appIdHash request.keyHandle = false) (env : σ) :
    signVerdict (p.signed request env).1 = .error (.ctap .noCredentials) := by
  obtain ⟨happ, hfield⟩ := Ctap1SignRequest.fields_toApdu hsized.1 hsized.2
  obtain ⟨response, hanswer, hstatus⟩ := hdevice.wrongData request.toApdu
    (p.uxUpdate .presenceRequired env) _ _ rfl hfield ((lengthByte_eq_iff _).mpr hlen)
    (by rw [happ]; exact hholds)
  have hsettled : (p.signed request env).1 = some (.ok response) := by
    refine settled_of_answer hanswer fun r hr => ?_
    rw [← Except.ok.inj hr, hstatus]
    decide +kernel
  rw [hsettled]
  simp [signVerdict, u2fVerdict, hstatus, ApduResponseStatus.toCtapError, bind, Except.bind]

/-- A wrong length does not look like an unknown key. -/
theorem signVerdict_long (hdevice : p.SignsFor holds) {request : Ctap1SignRequest}
    (hsized : WellSized request) (hlen : ¬request.keyHandle.length < 256) (env : σ) :
    ∃ e, signVerdict (p.signed request env).1 = .error e ∧ e ≠ .ctap .noCredentials := by
  have hfield := (Ctap1SignRequest.fields_toApdu hsized.1 hsized.2).2
  rcases hdevice.wrongLength request.toApdu (p.uxUpdate .presenceRequired env) _ _ rfl hfield
    (fun heq => hlen ((lengthByte_eq_iff _).mp heq)) with
    ⟨e, hanswer⟩ | ⟨response, hanswer, hstatus⟩
  · have hsettled : (p.signed request env).1 = some (.error e) :=
      settled_of_answer hanswer fun r hr => by cases hr
    refine ⟨.transport e, ?_, by simp⟩
    rw [hsettled]
    rfl
  · have hsettled : (p.signed request env).1 = some (.ok response) := by
      refine settled_of_answer hanswer fun r hr => ?_
      rw [← Except.ok.inj hr, hstatus]
      decide +kernel
    refine ⟨.ctap .invalidLength, ?_, by simp⟩
    rw [hsettled]
    simp [signVerdict, u2fVerdict, hstatus, ApduResponseStatus.toCtapError, bind, Except.bind]

/-- Five bytes are a user presence and a counter. -/
theorem tryFrom_of_long {response : ApduResponse} {data : Bytes}
    (hstatus : response.status = .ok .noError) (hdata : response.data = some data)
    (hlen : 5 ≤ data.length) :
    Ctap1SignResponse.tryFrom response
      = .ok ⟨data.take 1 == [0x01], beDecode ((data.drop 1).take 4), data.drop 5⟩ := by
  unfold Ctap1SignResponse.tryFrom
  rw [ApduResponse.successData_of_status hstatus hdata]
  have htail : 4 ≤ (data.drop 1).length := by
    rw [List.length_drop]
    omega
  have hpresence : Transport.readExact 1 data = .ok (data.take 1, data.drop 1) :=
    if_pos (by omega)
  have hcounter : Transport.readExact 4 (data.drop 1)
      = .ok ((data.drop 1).take 4, (data.drop 1).drop 4) := if_pos htail
  show (Transport.readExact 1 data >>= _) = _
  rw [hpresence]
  show (Transport.readExact 4 (data.drop 1) >>= _) = _
  rw [hcounter, List.drop_drop]
  rfl

theorem signed_held (hdevice : p.SignsFor holds) {request : Ctap1SignRequest}
    (hsized : WellSized request) (hlen : request.keyHandle.length < 256)
    (hholds : holds request.appIdHash request.keyHandle = true) (env : σ) :
    ∃ response signed, (p.signed request env).1 = some (.ok response) ∧
      Ctap1SignResponse.tryFrom response = .ok signed := by
  obtain ⟨happ, hfield⟩ := Ctap1SignRequest.fields_toApdu hsized.1 hsized.2
  obtain ⟨response, data, hsettled, hstatus, hdata, hfive⟩ := hdevice.touched request.toApdu
    (p.uxUpdate .presenceRequired env) _ _ rfl hfield ((lengthByte_eq_iff _).mpr hlen)
    (by rw [happ]; exact hholds)
  exact ⟨response, _, hsettled, tryFrom_of_long hstatus hdata hfive⟩

/-! ## §2. The loop. -/

/-- The requests up to the first one whose key the device has, or all. -/
def upToFirstHeld (holds : (appIdHash keyHandle : Bytes) → Bool) :
    List Ctap1SignRequest → List Ctap1SignRequest
  | [] => []
  | request :: requests =>
      if holds request.appIdHash request.keyHandle then [request]
      else request :: upToFirstHeld holds requests

/-- The assertion a U2F signature is made into. -/
structure SignedBy (request : Ctap1SignRequest) (signed : Ctap1SignResponse)
    (assertion : Assertion) : Prop where
  credentialId : assertion.credentialId = some ⟨request.keyHandle, .publicKey, none⟩
  rpIdHash : assertion.authenticatorData.rpIdHash = request.appIdHash
  signature : assertion.signature = signed.signature

theorem upgradeSigned_eq (crypto : Crypto) (appidHash : Option Bytes)
    {request : Ctap1SignRequest} (hsized : WellSized request) (signed : Ctap1SignResponse) :
    ∃ assertion, (upgradeSigned crypto appidHash request signed :
        Except (WebAuthnError T) (List Assertion)) = .ok [assertion] ∧
      SignedBy request signed assertion := by
  unfold upgradeSigned Ctap1SignResponse.tryUpgrade
  rw [if_neg (by rw [hsized.2]; simp)]
  cases appidHash with
  | none => exact ⟨_, rfl, rfl, rfl, rfl⟩
  | some hash => exact ⟨_, rfl, rfl, rfl, rfl⟩

/-- The run returned an assertion made of the device's answer to `request`. -/
def ReturnsAssertion (request : Ctap1SignRequest)
    (run : Outcome (WebAuthnError T) (List Assertion) × U2fWorld σ T) : Prop :=
  ∃ assertion response signed, run.1 = .ok [assertion] ∧
    (request.toApdu, some (.ok response)) ∈ run.2.apdus ∧
    Ctap1SignResponse.tryFrom response = .ok signed ∧ SignedBy request signed assertion

/-- One turn of the loop for a key the device does not have. -/
theorem trySignRequests_unknown (crypto : Crypto) (appidHash : Option Bytes)
    {request : Ctap1SignRequest} (requests : List Ctap1SignRequest) {w : U2fWorld σ T}
    (hverdict : signVerdict (p.signed request w.env).1 = .error (.ctap .noCredentials)) :
    ∃ answers, p.trySignRequests crypto appidHash (request :: requests) w
      = p.trySignRequests crypto appidHash requests
          (afterExchanges request.toApdu w (p.signed request w.env).2 answers) := by
  obtain ⟨answers, -, -, hrun⟩ := p.ctap1Sign_eq request w
  refine ⟨answers, ?_⟩
  rw [trySignRequests, Proc.bind_apply, Proc.attempt, hrun, hverdict]
  rfl

/-- The length bytes of what was sent are true. -/
def TrueLengths (w : U2fWorld σ T) : Prop :=
  ∀ pair ∈ w.apdus, pair.1.ins = U2F_AUTHENTICATE → pair.1.LengthByteAgrees

theorem trueLengths_afterExchanges {request : Ctap1SignRequest} (hsized : WellSized request)
    (hlen : request.keyHandle.length < 256) {w : U2fWorld σ T} (hw : TrueLengths w) (env : σ)
    (answers : List (Option (Except T ApduResponse))) :
    TrueLengths (afterExchanges request.toApdu w env answers) := by
  intro pair hpair hins
  rcases List.mem_append.mp hpair with hbefore | hnew
  · exact hw pair hbefore hins
  · obtain ⟨answer, -, rfl⟩ := List.mem_map.mp hnew
    exact (lengthByteAgrees_iff hsized).mpr hlen

theorem trySignRequests_of_short (hdevice : p.SignsFor holds) (crypto : Crypto)
    (appidHash : Option Bytes) {requests : List Ctap1SignRequest}
    (hsized : ∀ request ∈ requests, WellSized request)
    (hshort : ∀ request ∈ upToFirstHeld holds requests, request.keyHandle.length < 256)
    {w : U2fWorld σ T} (hw : TrueLengths w) :
    TrueLengths (p.trySignRequests crypto appidHash requests w).2 ∧
      ∀ request, requests.find? (fun r => holds r.appIdHash r.keyHandle) = some request →
        ReturnsAssertion request (p.trySignRequests crypto appidHash requests w) := by
  induction requests generalizing w with
  | nil => exact ⟨hw, fun request hfind => by cases hfind⟩
  | cons head requests ih =>
      have hhead := hsized head List.mem_cons_self
      unfold upToFirstHeld at hshort
      cases hholds : holds head.appIdHash head.keyHandle with
      | true =>
          rw [if_pos hholds] at hshort
          have hlen := hshort head List.mem_cons_self
          obtain ⟨response, signed, hsettled, hread⟩ :=
            signed_held hdevice hhead hlen hholds w.env
          obtain ⟨answers, -, hlast, hrun⟩ := p.ctap1Sign_eq head w
          -- the device holds it: its signature ends the search
          have hverdict := signVerdict_eq_ok_iff.mpr ⟨response, hsettled, hread⟩
          obtain ⟨assertion, hupgrade, hsigned⟩ :=
            upgradeSigned_eq (T := T) crypto appidHash hhead signed
          have hloop : p.trySignRequests crypto appidHash (head :: requests) w
              = (.ok [assertion],
                afterExchanges head.toApdu w (p.signed head w.env).2 answers) := by
            rw [trySignRequests, Proc.bind_apply, Proc.attempt, hrun, hverdict]
            show Proc.ofExcept (upgradeSigned crypto appidHash head signed) _ = _
            rw [hupgrade]
            rfl
          rw [hloop]
          refine ⟨trueLengths_afterExchanges hhead hlen hw _ _, fun request hfind => ?_⟩
          rw [List.find?_cons, hholds] at hfind
          obtain rfl := Option.some.inj hfind
          refine ⟨assertion, response, signed, rfl, List.mem_append_right _ ?_, hread, hsigned⟩
          exact List.mem_map_of_mem (hlast _ hsettled)
      | false =>
          rw [if_neg (by rw [hholds]; simp)] at hshort
          have hlen := hshort head List.mem_cons_self
          -- it does not: on to the next one
          obtain ⟨answers, hloop⟩ := trySignRequests_unknown crypto appidHash requests
            (signVerdict_unknown hdevice hhead hlen hholds w.env)
          rw [hloop]
          have hrest := ih (fun request h => hsized request (List.mem_cons_of_mem _ h))
            (fun request h => hshort request (List.mem_cons_of_mem _ h))
            (trueLengths_afterExchanges hhead hlen hw (p.signed head w.env).2 answers)
          refine ⟨hrest.1, fun request hfind => hrest.2 request ?_⟩
          rwa [List.find?_cons, hholds] at hfind

/-- A long id before the first key of the device is sent all the same. -/
theorem trySignRequests_of_long (hdevice : p.SignsFor holds) (crypto : Crypto)
    (appidHash : Option Bytes) {requests : List Ctap1SignRequest}
    (hsized : ∀ request ∈ requests, WellSized request)
    (hlong : ∃ request ∈ upToFirstHeld holds requests, ¬request.keyHandle.length < 256)
    (w : U2fWorld σ T) :
    ¬TrueLengths (p.trySignRequests crypto appidHash requests w).2 := by
  induction requests generalizing w with
  | nil =>
      obtain ⟨request, hmem, -⟩ := hlong
      cases hmem
  | cons head requests ih =>
      have hhead := hsized head List.mem_cons_self
      by_cases hlen : head.keyHandle.length < 256
      · -- the long one is behind: the device does not have this key
        obtain ⟨request, hmem, hrequest⟩ := hlong
        unfold upToFirstHeld at hmem
        cases hholds : holds head.appIdHash head.keyHandle with
        | true =>
            rw [if_pos hholds] at hmem
            rw [List.mem_singleton.mp hmem] at hrequest
            exact absurd hlen hrequest
        | false =>
            rw [if_neg (by rw [hholds]; simp)] at hmem
            obtain ⟨answers, hloop⟩ := trySignRequests_unknown crypto appidHash requests
              (signVerdict_unknown hdevice hhead hlen hholds w.env)
            rw [hloop]
            refine ih (fun request h => hsized request (List.mem_cons_of_mem _ h)) ?_ _
            rcases List.mem_cons.mp hmem with rfl | hrest
            · exact absurd hlen hrequest
            · exact ⟨request, hrest, hrequest⟩
      -- the long one is first: its APDU has a wrong length byte, and the search ends with
      -- an error
      · obtain ⟨e, hverdict, hother⟩ := signVerdict_long hdevice hhead hlen w.env
        obtain ⟨answers, hanswers, -, hrun⟩ := p.ctap1Sign_eq head w
        have hstate : (p.trySignRequests crypto appidHash (head :: requests) w).2
            = afterExchanges head.toApdu w (p.signed head w.env).2 answers := by
          rw [trySignRequests, Proc.bind_apply, Proc.attempt, hrun, hverdict]
          simp only [Proc.ofExcept, Proc.throw]
        obtain ⟨answer, rest, rfl⟩ := List.exists_cons_of_ne_nil hanswers
        intro hall
        rw [hstate] at hall
        have hagrees := hall (head.toApdu, answer)
          (List.mem_append_right _ (List.mem_map_of_mem List.mem_cons_self)) rfl
        exact hlen ((lengthByteAgrees_iff hhead).mp hagrees)

/-! ## §3. The ceremony. -/

theorem wellSized_tryDowngrade (crypto : Crypto) (op : GetAssertionRequest) :
    ∀ request ∈ op.tryDowngrade crypto, WellSized request := by
  intro request hmem
  obtain ⟨hchallenge, happ⟩ := GetAssertionRequest.sized_of_mem_tryDowngrade hmem
  refine ⟨?_, happ⟩
  rw [hchallenge]
  exact crypto.sha256_length _

/-- **Completeness of U2F signing.**  On a device with the keys of `holds`,
the ceremony returns an assertion for the first sign request whose key the
device has, and all its length bytes are true, exactly when no credential id
tried up to there has 256 bytes or more. -/
theorem u2fAssertion_complete_iff (hdevice : p.SignsFor holds) (crypto : Crypto)
    (op : GetAssertionRequest) (env : σ) :
    ((∀ request, (op.tryDowngrade crypto).find? (fun r => holds r.appIdHash r.keyHandle)
          = some request →
        ReturnsAssertion request (p.getAssertionU2f crypto op ⟨env, []⟩)) ∧
      TrueLengths (p.getAssertionU2f crypto op ⟨env, []⟩).2) ↔
    ∀ request ∈ upToFirstHeld holds (op.tryDowngrade crypto),
      request.keyHandle.length < 256 := by
  have hsized := wellSized_tryDowngrade crypto op
  constructor
  · rintro ⟨-, htrue⟩ request hmem
    by_contra hlen
    exact trySignRequests_of_long hdevice crypto (op.appidHash crypto) hsized
      ⟨request, hmem, hlen⟩ ⟨env, []⟩ htrue
  · intro hshort
    have hstart : TrueLengths (⟨env, []⟩ : U2fWorld σ T) := fun pair hpair => by cases hpair
    have hrun := trySignRequests_of_short hdevice crypto (op.appidHash crypto) hsized hshort hstart
    exact ⟨hrun.2, hrun.1⟩

/-- An assertion by one of these credentials of `example.org`. -/
def signingOp (ids : List Bytes) : GetAssertionRequest :=
  { plainGetAssertionOp with
    userVerification := .discouraged
    allow := ids.map fun id => ⟨id, .publicKey, none⟩ }

/-- A device with the key 9 of `example.org`. -/
def exampleKeys : List (Bytes × Bytes) := [(transparentCrypto.sha256 (utf8 "example.org"), [9])]

/-- The second listed key is the device's. -/
theorem u2fAssertion_complete_iff_second :
    (∀ request, ((signingOp [[8], [9]]).tryDowngrade transparentCrypto).find?
          (fun r => decide ((r.appIdHash, r.keyHandle) ∈ exampleKeys)) = some request →
        ReturnsAssertion request ((keyedDevice exampleKeys true).getAssertionU2f
          transparentCrypto (signingOp [[8], [9]]) ⟨(), []⟩)) ∧
      TrueLengths ((keyedDevice exampleKeys true).getAssertionU2f transparentCrypto
        (signingOp [[8], [9]]) ⟨(), []⟩).2 :=
  (u2fAssertion_complete_iff (signsFor_keyedDevice exampleKeys) transparentCrypto
    (signingOp [[8], [9]]) ()).mpr (by decide +kernel)

/-- A long id in front of it hides it. -/
theorem u2fAssertion_not_complete :
    (keyedDevice exampleKeys true).SignsFor
        (fun appIdHash keyHandle => decide ((appIdHash, keyHandle) ∈ exampleKeys)) ∧
      (((signingOp [List.replicate 256 7, [9]]).tryDowngrade transparentCrypto).find?
        (fun r => decide ((r.appIdHash, r.keyHandle) ∈ exampleKeys))).isSome = true ∧
      ((keyedDevice exampleKeys true).getAssertionU2f transparentCrypto
        (signingOp [List.replicate 256 7, [9]]) ⟨(), []⟩).1 = .error (.ctap .invalidLength) :=
  ⟨signsFor_keyedDevice exampleKeys, by decide +kernel, by decide +kernel⟩

end U2fPlatform

end Libwebauthn
