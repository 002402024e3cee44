/-
  Libwebauthn.Webauthn.PreflightOutcome — what a ceremony comes to with
  preflight, and when the list is sent as it is (`ctap2_preflight_with_appid`
  of `src/proto/ctap2/preflight.rs`, and the ceremonies of `src/webauthn.rs`).

  The probes are made without user verification, and leave out a listed
  credential that takes it.  That is harmless as long as another one is found;
  when nothing is found, an assertion is refused that the device would have
  given, and a credential made that it would have refused.
-/
import Libwebauthn.Lib.Canonical
import Libwebauthn.Webauthn.Authenticator
import Libwebauthn.Webauthn.ExcludeList
import Libwebauthn.Webauthn.MessageSize

namespace Libwebauthn

open Platform Ctap2UserVerifiableRequest

variable {σ T : Type}

/-! ## §1. Shorter lists. -/

/-- A list that was thinned is thinned on the wire. -/
theorem sublist_toCbor {kept list : List Ctap2PublicKeyCredentialDescriptor}
    (h : (kept.map (·.denoted)).Sublist (list.map (·.denoted))) :
    (kept.map Ctap2PublicKeyCredentialDescriptor.toCbor).Sublist
      (list.map Ctap2PublicKeyCredentialDescriptor.toCbor) := by
  have hcbor : Ctap2PublicKeyCredentialDescriptor.toCbor
      = (fun denoted : Bytes × Ctap2PublicKeyCredentialType =>
          Cbor.map [(.text "id", .bytes denoted.1), (.text "type", denoted.2.toCbor)])
        ∘ Ctap2PublicKeyCredentialDescriptor.denoted := rfl
  rw [hcbor, ← List.map_map, ← List.map_map]
  exact h.map _

/-- Part of a list takes no more room. -/
theorem WithinLimits.allow {info : Ctap2GetInfoResponse} {request : Ctap2GetAssertionRequest}
    {kept : List Ctap2PublicKeyCredentialDescriptor}
    (h : WithinLimits info request.ctapHidData request.allow.length) (hkept : kept ≠ [])
    (hsublist : (kept.map (·.denoted)).Sublist (request.allow.map (·.denoted))) :
    WithinLimits info ({ request with allow := kept }).ctapHidData kept.length := by
  have hlength : kept.length ≤ request.allow.length := by
    have := hsublist.length_le
    rwa [List.length_map, List.length_map] at this
  have hlist : request.allow ≠ [] := by
    intro hnil
    rw [hnil] at hlength
    exact hkept (List.length_eq_zero_iff.mp (Nat.le_zero.mp hlength))
  refine ⟨Nat.le_trans ?_ h.size, fun max hmax => Nat.le_trans hlength (h.count max hmax)⟩
  have harray := Cbor.length_encode_array_mono (sublist_toCbor hsublist)
  unfold Ctap2GetAssertionRequest.ctapHidData
  rw [if_neg (show ¬kept.isEmpty = true by simpa using hkept),
    if_neg (show ¬request.allow.isEmpty = true by simpa using hlist)]
  refine Nat.succ_le_succ (Cbor.length_encode_map_mono ?_ ?_)
  · simp only [List.length_append, List.length_cons, List.length_nil]
    omega
  · simp only [Cbor.encodeEntries_append, List.length_append, Cbor.encodeEntries]
    omega

/-- A thinned exclude list stays within the limits. -/
theorem WithinLimits.exclude {info : Ctap2GetInfoResponse} {request : Ctap2MakeCredentialRequest}
    {list kept : List Ctap2PublicKeyCredentialDescriptor} (hlist : request.exclude = some list)
    (h : WithinLimits info request.ctapHidData list.length)
    (hsublist : (kept.map (·.denoted)).Sublist (list.map (·.denoted))) :
    WithinLimits info ({ request with exclude := some kept }).ctapHidData kept.length := by
  have hlength : kept.length ≤ list.length := by
    have := hsublist.length_le
    rwa [List.length_map, List.length_map] at this
  refine ⟨Nat.le_trans ?_ h.size, fun max hmax => Nat.le_trans hlength (h.count max hmax)⟩
  have harray := Cbor.length_encode_array_mono (sublist_toCbor hsublist)
  unfold Ctap2MakeCredentialRequest.ctapHidData
  rw [hlist]
  refine Nat.succ_le_succ (Cbor.length_encode_map_mono ?_ ?_)
  · simp only [List.length_append, List.length_cons, List.length_nil, Option.map_some,
      Cbor.entry?, Option.toList_some]
    omega
  · simp only [Cbor.encodeEntries_append, List.length_append, Option.map_some,
      Cbor.length_encodeEntries_optional, Option.elim_some]
    omega

/-! ## §2. What is found in a list. -/

/-- Verification hides nothing. -/
theorem StoredCredential.visible_mono {stored : StoredCredential} {verified verified' : Bool}
    (hverified : verified = true → verified' = true) (h : stored.visible verified = true) :
    stored.visible verified' = true := by
  unfold visible at h ⊢
  rw [Bool.or_eq_true] at h ⊢
  exact h.imp hverified id

namespace Authenticator

variable {a : Authenticator σ T} {rp : String} {verified verified' : Bool}
  {credential credential' : Ctap2PublicKeyCredentialDescriptor}
  {list kept : List Ctap2PublicKeyCredentialDescriptor}

theorem sees_mono (hverified : verified = true → verified' = true)
    (h : a.sees rp verified credential = true) : a.sees rp verified' credential = true := by
  unfold sees shows at h ⊢
  rw [Bool.and_eq_true] at h ⊢
  refine ⟨h.1, ?_⟩
  cases hstored : a.credentials credential.id with
  | none =>
      rw [hstored] at h
      cases h.2
  | some stored =>
      rw [hstored] at h
      have hshown := Bool.and_eq_true_iff.mp h.2
      exact Bool.and_eq_true_iff.mpr ⟨hshown.1, stored.visible_mono hverified hshown.2⟩

/-- A device sees the ID and the type of a descriptor, not its transports. -/
theorem sees_denoted (h : credential.denoted = credential'.denoted) :
    a.sees rp verified credential = a.sees rp verified credential' := by
  unfold sees
  rw [show credential.type = credential'.type from congrArg Prod.snd h,
    show credential.id = credential'.id from congrArg Prod.fst h]

/-- What is found is what is listed and seen. -/
theorem mem_found : credential ∈ a.found rp verified list
    ↔ credential ∈ list ∧ a.sees rp verified credential = true :=
  List.mem_filter

/-- Every entry the preflight keeps denotes one that it has found. -/
theorem found_of_kept (hkept : kept.map (·.denoted) = (a.found rp false list).map (·.denoted))
    (hmem : credential ∈ kept) :
    ∃ credential' ∈ a.found rp false list, credential'.denoted = credential.denoted := by
  have hdenoted : credential.denoted ∈ (a.found rp false list).map (·.denoted) := by
    rw [← hkept]
    exact List.mem_map_of_mem hmem
  exact List.mem_map.mp hdenoted

/-- Any request sees all that the preflight keeps. -/
theorem found_kept (hkept : kept.map (·.denoted) = (a.found rp false list).map (·.denoted)) :
    a.found rp verified kept = kept := by
  refine List.filter_eq_self.mpr fun credential hmem => ?_
  obtain ⟨credential', hfound, hdenoted⟩ := found_of_kept hkept hmem
  rw [← sees_denoted hdenoted]
  exact sees_mono (fun h => by cases h) (mem_found.mp hfound).2

theorem kept_eq_nil_iff
    (hkept : kept.map (·.denoted) = (a.found rp false list).map (·.denoted)) :
    kept = [] ↔ a.found rp false list = [] := by
  rw [← List.map_eq_nil_iff (f := Ctap2PublicKeyCredentialDescriptor.denoted), hkept,
    List.map_eq_nil_iff]

/-- What is found without verification is found with it. -/
theorem found_ne_nil_mono (hverified : verified = true → verified' = true)
    (h : a.found rp verified list ≠ []) : a.found rp verified' list ≠ [] := by
  obtain ⟨credential, hmem⟩ := List.exists_mem_of_ne_nil _ h
  obtain ⟨hlisted, hsees⟩ := mem_found.mp hmem
  exact List.ne_nil_of_mem (mem_found.mpr ⟨hlisted, sees_mono hverified hsees⟩)

/-- An assertion by an entry of one list, as one by an entry of another. -/
theorem Asserts.relist {list' : List Ctap2PublicKeyCredentialDescriptor}
    {response : Ctap2GetAssertionResponse} (h : a.Asserts rp verified list response)
    (hlists : ∀ credential ∈ a.found rp verified list,
      ∃ credential' ∈ a.found rp verified' list', credential'.id = credential.id) :
    a.Asserts rp verified' list' response := by
  refine ⟨h.rpIdHash, h.count, ?_⟩
  obtain ⟨credential, hmem, hsigned⟩ := h.signed
  obtain ⟨credential', hmem', hid⟩ := hlists credential hmem
  exact ⟨credential', hmem', hid ▸ hsigned⟩

/-- The probes find something, if anything of the list is there: some listed
credential is on the device under the relying party with a protection level
other than `userVerificationRequired`, or none is there at all. -/
def Probeable (a : Authenticator σ T) (rp : String)
    (list : List Ctap2PublicKeyCredentialDescriptor) : Prop :=
  a.found rp true list ≠ [] → a.found rp false list ≠ []

/-- Then every request finds something in the list exactly when it does in
what the preflight keeps. -/
theorem Probeable.found_iff (h : a.Probeable rp list)
    (hkept : kept.map (·.denoted) = (a.found rp false list).map (·.denoted)) :
    a.found rp verified list = [] ↔ a.found rp verified kept = [] := by
  rw [found_kept hkept, kept_eq_nil_iff hkept]
  constructor
  · intro hnil
    by_contra hfound
    exact found_ne_nil_mono (fun h => by cases h) hfound hnil
  · intro hnil
    by_contra hfound
    exact h (found_ne_nil_mono (fun _ => rfl) hfound) hnil

end Authenticator

/-- The entries the length filter drops are not on the device. -/
theorem Platform.Conforms.found_filterOversized {p : Platform σ T} {a : Authenticator σ T}
    (h : p.Conforms a) {s : σ} {info : Ctap2GetInfoResponse} (hinfo : (p.getInfo s).1 = .ok info)
    (rp : String) (verified : Bool) (list : List Ctap2PublicKeyCredentialDescriptor) :
    a.found rp verified (filterOversizedCredentials info list) = a.found rp verified list := by
  rw [filterOversizedCredentials_eq]
  unfold Authenticator.found
  rw [List.filter_filter]
  refine List.filter_congr fun credential _ => ?_
  by_cases hsees : a.sees rp verified credential = true
  · rw [hsees, Bool.true_and]
    refine h.fits hinfo ?_
    unfold Authenticator.sees Authenticator.shows at hsees
    cases hstored : a.credentials credential.id with
    | none =>
        rw [hstored] at hsees
        cases (Bool.and_eq_true_iff.mp hsees).2
    | some stored => rfl
  · rw [Bool.eq_false_iff.mpr hsees, Bool.false_and]

/-! ## §3. The ceremonies in step. -/

/-- Requests of one ceremony with different allow lists. -/
structure Ctap2GetAssertionRequest.Relisted (rp : String)
    (list list' : List Ctap2PublicKeyCredentialDescriptor)
    (request request' : Ctap2GetAssertionRequest) : Prop where
  relyingPartyId : request.relyingPartyId = rp
  allow : request.allow = list
  other : request' = { request with allow := list' }

structure Ctap2MakeCredentialRequest.Relisted (rp : String)
    (list list' : Option (List Ctap2PublicKeyCredentialDescriptor))
    (request request' : Ctap2MakeCredentialRequest) : Prop where
  relyingPartyId : request.relyingParty.id = rp
  exclude : request.exclude = list
  other : request' = { request with exclude := list' }

/-- A step of a request that reads the client data and writes to the
authentication. -/
theorem exceptRel_bind {ε α β β' : Type} {Q : β → β' → Prop} {r : Except ε α}
    {k : α → Except ε β} {k' : α → Except ε β'} (h : ∀ a, ExceptRel Q (k a) (k' a)) :
    ExceptRel Q (r >>= k) (r >>= k') := by
  cases r with
  | ok a => exact h a
  | error e => exact .error e

/-- The list takes no part in the verification of an assertion. -/
theorem sameVerification_get (rp : String)
    (list list' : List Ctap2PublicKeyCredentialDescriptor) :
    SameVerification (Ctap2GetAssertionRequest.Relisted rp list list') where
  permissions h := by rw [h.other]; rfl
  permissionsRpid h := by rw [h.other]; rfl
  canUseUv h := by rw [h.other]; rfl
  needsSharedSecret h := by rw [h.other]; rfl
  needsPinUvAuthToken h := by rw [h.other]; rfl
  ensureUvSet h := by
    refine ⟨h.relyingPartyId, h.allow, ?_⟩
    rw [h.other]
    rfl
  calculateAndSetUvAuth crypto protocol token h := by
    rw [h.other]
    refine exceptRel_bind fun param => .ok ⟨h.relyingPartyId, h.allow, ?_⟩
    rfl

/-- Nor does it in that of a registration. -/
theorem sameVerification_make (rp : String)
    (list list' : Option (List Ctap2PublicKeyCredentialDescriptor)) :
    SameVerification (Ctap2MakeCredentialRequest.Relisted rp list list') where
  permissions h := by rw [h.other]; rfl
  permissionsRpid h := by rw [h.other]; rfl
  canUseUv h := by rw [h.other]; rfl
  needsSharedSecret h := by rw [h.other]; rfl
  needsPinUvAuthToken h := by rw [h.other]; rfl
  ensureUvSet h := by
    refine ⟨h.relyingPartyId, h.exclude, ?_⟩
    rw [h.other]
    rfl
  calculateAndSetUvAuth crypto protocol token h := by
    rw [h.other]
    refine exceptRel_bind fun param => .ok ⟨h.relyingPartyId, h.exclude, ?_⟩
    rfl

namespace Platform

variable {p : Platform σ T} {a : Authenticator σ T}

/-- An assertion by a listed credential on the device. -/
def ByListed (a : Authenticator σ T) (op : GetAssertionRequest)
    (response : Ctap2GetAssertionResponse) : Prop :=
  a.Asserts op.relyingPartyId true op.allow response

/-- The full list and the kept one get the same answers, as long as the device
finds its credentials in both. -/
theorem inStep_get (h : p.Conforms a) {op : GetAssertionRequest}
    {list kept : List Ctap2PublicKeyCredentialDescriptor}
    (hlist : ∀ verified, ∀ credential ∈ a.found op.relyingPartyId verified list,
      credential ∈ a.found op.relyingPartyId true op.allow)
    (hkept : kept.map (·.denoted) = (a.found op.relyingPartyId false list).map (·.denoted))
    (hfound : kept ≠ []) :
    InStep (Ctap2GetAssertionRequest.Relisted op.relyingPartyId list kept)
      (fun response response' => ByListed a op response ∧ ByListed a op response')
      (p.getAssertionCeremony op) where
  verification := sameVerification_get _ _ _
  calculateHmac {r r'} iv authData hr := by
    rw [hr.other]
    unfold getAssertionCeremony
    dsimp only
    split
    · exact .ok ⟨hr.relyingPartyId, hr.allow, rfl⟩
    · exact exceptRel_bind fun ext => .ok ⟨hr.relyingPartyId, hr.allow, rfl⟩
  send {r r'} hr := by
    obtain ⟨hrp, hallow, hother⟩ := hr
    have hrp' : r'.relyingPartyId = op.relyingPartyId := by
      rw [hother]
      exact hrp
    have hallow' : r'.allow = kept := by rw [hother]
    -- neither request is without a credential, whether it is verified or not
    have hfound' : ∀ verified, a.found r'.relyingPartyId verified r'.allow ≠ [] := by
      intro verified
      rw [hrp', hallow', a.found_kept hkept]
      exact hfound
    have hfound : ∀ verified, a.found r.relyingPartyId verified r.allow ≠ [] := by
      intro verified
      rw [hrp, hallow]
      exact a.found_ne_nil_mono (fun h => by cases h) (mt (a.kept_eq_nil_iff hkept).mpr hfound)
    have hanswers : ∀ s, Proc.Tried Eq (fun response _ response' _ =>
        ByListed a op response ∧ ByListed a op response') (p.getAssertion r s).1
        (p.getAssertion r s).2 (p.getAssertion r' s).1 (p.getAssertion r' s).2 := by
      intro s
      rw [h.getAssertion]
      refine (a.getAssertion_alike (by rw [hallow']; exact hother) s hfound hfound').mono
        fun response _ response' _ hasserts => ?_
      rw [hrp, hallow, hrp', hallow'] at hasserts
      refine ⟨hasserts.1.relist fun credential hmem => ⟨credential, hlist _ credential hmem, rfl⟩,
        hasserts.2.relist fun credential hmem => ?_⟩
      -- a kept entry denotes one of the list
      rw [a.found_kept hkept] at hmem
      obtain ⟨credential', hmem', hdenoted⟩ := a.found_of_kept hkept hmem
      exact ⟨credential', hlist _ credential' hmem', congrArg Prod.fst hdenoted⟩
    exact Ctap.lockstep_command hanswers
  log _ hmade := hmade

/-- The full list and the kept one get the same answers, as long as both
exclude or neither does. -/
theorem inStep_make (h : p.Conforms a) (op : MakeCredentialRequest)
    {list list' : Option (List Ctap2PublicKeyCredentialDescriptor)}
    (hfound : ∀ verified, a.found op.relyingParty.id verified (list.getD []) = []
      ↔ a.found op.relyingParty.id verified (list'.getD []) = []) :
    InStep (Ctap2MakeCredentialRequest.Relisted op.relyingParty.id list list')
      (fun _ _ => True) (p.makeCredentialCeremony op) where
  verification := sameVerification_make _ _ _
  calculateHmac {r r'} iv authData hr := by
    rw [hr.other]
    unfold makeCredentialCeremony
    dsimp only
    split
    · exact .ok ⟨hr.relyingPartyId, hr.exclude, rfl⟩
    · exact exceptRel_bind fun ext => .ok ⟨hr.relyingPartyId, hr.exclude, rfl⟩
  send {r r'} hr := by
    obtain ⟨hrp, hexclude, hother⟩ := hr
    have hrp' : r'.relyingParty.id = op.relyingParty.id := by
      rw [hother]
      exact hrp
    have hexclude' : r'.exclude = list' := by rw [hother]
    have hanswers : ∀ s, Proc.Tried Eq (fun _ _ _ _ => True) (p.makeCredential r s).1
        (p.makeCredential r s).2 (p.makeCredential r' s).1 (p.makeCredential r' s).2 := by
      intro s
      -- a device that finds something in both lists, or in neither, gives one answer
      have hsame : a.makeCredential r' s = a.makeCredential r s := by
        refine a.makeCredential_same (by rw [hexclude']; exact hother) (fun verified => ?_) s
        rw [hrp, hexclude, hrp', hexclude']
        exact hfound verified
      rw [h.makeCredential, hsame]
      rcases a.makeCredential r s with ⟨result, s'⟩
      cases result with
      | ok response => exact .ok trivial
      | error e => exact .error e rfl
    exact Ctap.lockstep_command hanswers
  log {attempt attempt' l l'} hanswer hmade := by
    show (l.made ++ [attempt]).map (·.answer) = (l'.made ++ [attempt']).map (·.answer)
    rw [List.map_append, List.map_append, hmade]
    exact congrArg (fun answer => _ ++ [answer]) hanswer

/-! ## §4. One platform, with preflight and without. -/

variable (p) in
/-- The same platform on a transport that does the preflight, or does not. -/
def withPreflight (supportsPreflight : Bool) : Platform σ T :=
  { p with supportsPreflight := supportsPreflight }

/-- The device does not know whether the platform preflights. -/
theorem Conforms.withPreflight (h : p.Conforms a) (b : Bool) : (p.withPreflight b).Conforms a :=
  ⟨h.sha256, h.getAssertion, h.makeCredential, h.fits⟩

/-- Past the lists, the two platforms do the same. -/
theorem retryLoop_withPreflight_get (b : Bool) (op : GetAssertionRequest) (fuel : Nat)
    (request : Ctap2GetAssertionRequest) :
    (p.withPreflight b).retryLoop ((p.withPreflight b).getAssertionCeremony op) fuel request
      = p.retryLoop (p.getAssertionCeremony op) fuel request := rfl

theorem nextAssertions_withPreflight (b : Bool) (op : GetAssertionRequest) (n : Nat) :
    (p.withPreflight b).nextAssertions op n = p.nextAssertions op n := by
  induction n with
  | zero => rfl
  | succ n ih =>
      unfold nextAssertions
      rw [ih]
      rfl

/-- And so they do with the answer. -/
theorem finishAssertion_withPreflight (b : Bool) (op : GetAssertionRequest)
    (info : Ctap2GetInfoResponse) (response : Ctap2GetAssertionResponse) :
    (p.withPreflight b).finishAssertion op info response = p.finishAssertion op info response := by
  unfold finishAssertion
  rw [nextAssertions_withPreflight]
  rfl

/-- Without a list there is nothing to probe for. -/
theorem allowList_unlisted {op : GetAssertionRequest} (hallow : op.allow = [])
    (info : Ctap2GetInfoResponse) : p.allowList op info [] = pure [] := by
  have hshort : filterOversizedCredentials info [] = [] := by
    rw [filterOversizedCredentials_eq, List.filter_nil]
  unfold allowList
  rw [hshort, hallow]
  cases p.supportsPreflight with
  | true => rfl
  | false => rfl

/-- Without a list there is nothing to do beforehand. -/
theorem getAssertionFido2_unlisted (b : Bool) {op : GetAssertionRequest} (hallow : op.allow = [])
    (fuel : Nat) (w : World σ T) :
    (p.withPreflight b).getAssertionFido2 fuel op w = p.getAssertionFido2 fuel op w := by
  have hopening : (p.withPreflight b).openAssertion op w = p.openAssertion op w := by
    unfold openAssertion
    split
    · rfl
    show (p.ctap2GetInfo >>= _) w = (p.ctap2GetInfo >>= _) w
    rw [Proc.bind_apply, Proc.bind_apply]
    rcases p.ctap2GetInfo w with ⟨outcome, w₁⟩
    cases outcome with
    | error e => rfl
    | running => rfl
    -- only the allow list is treated otherwise, and it is empty
    | ok info =>
        cases hrequest : Ctap2GetAssertionRequest.fromWebauthnRequest p.crypto op info with
        | error e =>
            have hlift : (Ctap.liftPlatform (Ctap2GetAssertionRequest.fromWebauthnRequest p.crypto
                op info) : Ctap σ T _) w₁ = (.error (.platform e), w₁) := by
              rw [hrequest]
              rfl
            exact (Proc.bind_of_error hlift _).trans (Proc.bind_of_error hlift _).symm
        | ok request =>
            have hlift := liftPlatform_eq_ok_iff (T := T).mpr ⟨hrequest, rfl (a := w₁)⟩
            refine (Proc.bind_of_ok hlift _).trans (Eq.trans ?_ (Proc.bind_of_ok hlift _).symm)
            rw [(Ctap2GetAssertionRequest.allow_fromWebauthnRequest hrequest).trans hallow,
              allowList_unlisted hallow, allowList_unlisted hallow]
  rw [getAssertionFido2_eq, getAssertionFido2_eq, Proc.bind_apply, Proc.bind_apply, hopening]
  rcases p.openAssertion op w with ⟨outcome, w'⟩
  cases outcome with
  | ok opened =>
      dsimp only
      rw [retryLoop_withPreflight_get]
      refine congrFun (congrArg _ ?_) w'
      funext response
      exact finishAssertion_withPreflight b op opened.1 response
  | error e => rfl
  | running => rfl

/-! ## §5. The two openings. -/

theorem getInfo_of_ctap2GetInfo {info : Ctap2GetInfoResponse} {w w' : World σ T}
    (h : p.ctap2GetInfo w = (.ok info, w')) : (p.getInfo w.env).1 = .ok info := by
  have hcommand : (Proc.attempt p.ctap2GetInfo : Ctap σ T _) w = _ :=
    Ctap.attempt_command p.getInfo .getInfo w
  unfold Proc.attempt at hcommand
  rw [h] at hcommand
  exact (Outcome.ok.inj (Prod.mk.inj hcommand).1).symm

/-- An opening without preflight. -/
theorem openAssertion_direct {op : GetAssertionRequest} (hallow : op.allow ≠ [])
    {w w₁ : World σ T} {info : Ctap2GetInfoResponse} {request : Ctap2GetAssertionRequest}
    (hopened : (p.withPreflight false).openAssertion op w = (.ok (info, request), w₁)) :
    writesManyCredentials op = false ∧ p.ctap2GetInfo w = (.ok info, w₁)
      ∧ WithinLimits info request.ctapHidData request.allow.length
      ∧ ∃ request₀, Ctap2GetAssertionRequest.fromWebauthnRequest p.crypto op info = .ok request₀
        ∧ request = { request₀ with allow := filterOversizedCredentials info op.allow } := by
  have hwrites : writesManyCredentials op = false := by
    by_contra hwrites
    unfold openAssertion at hopened
    rw [if_pos (Bool.not_eq_false _ ▸ hwrites)] at hopened
    cases hopened
  obtain ⟨request₀, allow, w₀, hinfo, hrequest, hlist, hlimits, hsame⟩ :=
    (p.withPreflight false).openAssertion_ok hopened
  -- without preflight only the length filter shortens the list
  rw [Ctap2GetAssertionRequest.allow_fromWebauthnRequest hrequest, allowList_eq _ hallow,
    Proc.bind_of_ok (show (p.withPreflight false).remaining op info w₀
      = (.ok (filterOversizedCredentials info op.allow), w₀) from rfl)] at hlist
  split at hlist
  · have hrefused := (p.withPreflight false).refuseList_error w₀
    rw [hlist] at hrefused
    cases hrefused
  · obtain ⟨hout, rfl⟩ := Prod.mk.inj hlist
    obtain rfl := Outcome.ok.inj hout
    refine ⟨hwrites, hinfo, ?_, request₀, hrequest, hsame⟩
    rcases limits_cases info request.ctapHidData request.allow.length with
      ⟨-, hwithin⟩ | ⟨herror, -⟩
    · exact hwithin
    · cases hlimits.symm.trans herror

/-- The opening with preflight, next to one without: only what the probes find
is left, and the ceremony ends when that is nothing. -/
theorem openAssertion_probing (h : p.Conforms a) {op : GetAssertionRequest}
    (hallow : op.allow ≠ []) {w w₁ : World σ T} {info : Ctap2GetInfoResponse}
    {request : Ctap2GetAssertionRequest}
    (hopened : (p.withPreflight false).openAssertion op w = (.ok (info, request), w₁)) :
    ∃ kept w₂, w₁.Abreast w₂
      ∧ kept.map (·.denoted) = (a.found op.relyingPartyId false op.allow).map (·.denoted)
      ∧ (kept = [] → ((p.withPreflight true).openAssertion op w).1
          = .error (.ctap .noCredentials))
      ∧ (kept ≠ [] → (p.withPreflight true).openAssertion op w
          = (.ok (info, { request with allow := kept }), w₂)) := by
  obtain ⟨hwrites, hinfo, hwithin, request₀, hrequest, rfl⟩ := openAssertion_direct hallow hopened
  obtain ⟨kept, w₂, hprobed, habreast, hkept⟩ := (p.withPreflight true).ctap2Preflight_found
    (h.withPreflight true) (op.clientDataHash p.crypto) op.relyingPartyId
    (filterOversizedCredentials info op.allow) w₁
  have hremaining : (p.withPreflight true).remaining op info w₁ = (.ok kept, w₂) := hprobed
  -- what is kept is part of the list, so it is within the limits as well
  have hsublist : (kept.map (·.denoted)).Sublist
      ((filterOversizedCredentials info op.allow).map (·.denoted)) := by
    rw [hkept]
    exact List.filter_sublist.map _
  rw [h.found_filterOversized (getInfo_of_ctap2GetInfo hinfo)] at hkept
  refine ⟨kept, w₂, habreast, hkept, fun hnil => ?_, fun hne => ?_⟩
  · rw [hnil] at hremaining
    exact (p.withPreflight true).openAssertion_of_findsNothing hallow
      ⟨hwrites, info, w₁, request₀, w₂, hinfo, hrequest, hremaining⟩
  · refine (p.withPreflight true).openAssertion_of_within ?_ (hwithin.allow hne hsublist)
    unfold listAssertion
    rw [hwrites, if_neg (by simp)]
    refine (Proc.bind_of_ok hinfo _).trans ?_
    refine (Proc.bind_of_ok (liftPlatform_eq_ok_iff.mpr ⟨hrequest, rfl⟩) _).trans ?_
    rw [Ctap2GetAssertionRequest.allow_fromWebauthnRequest hrequest, allowList_eq _ hallow,
      bind_assoc, Proc.bind_of_ok hremaining, if_neg (mt List.isEmpty_iff.mp hne)]
    rfl

/-! ## §6. Assertions. -/

/-- The run ends with an assertion by a listed credential on the device. -/
def EndsAsserted (a : Authenticator σ T) (op : GetAssertionRequest)
    (run : Outcome (WebAuthnError T) (List Assertion) × World σ T) : Prop :=
  (∃ out, run.1 = .ok out) ∧ ∃ response ∈ run.2.session.log.responses, ByListed a op response

/-- Two runs that come to the same: an assertion by a listed credential on the
device, or that there is none. -/
structure SameAssertion (a : Authenticator σ T) (op : GetAssertionRequest)
    (run run' : Outcome (WebAuthnError T) (List Assertion) × World σ T) : Prop where
  asserted : EndsAsserted a op run ↔ EndsAsserted a op run'
  noCredentials : run.1 = .error (.ctap .noCredentials) ↔ run'.1 = .error (.ctap .noCredentials)

/-- The device's assertion is accepted. -/
theorem asserted_finishAssertion (h : p.Conforms a) {op : GetAssertionRequest}
    {response : Ctap2GetAssertionResponse} (hby : ByListed a op response)
    (info : Ctap2GetInfoResponse) (w : World σ T) :
    EndsAsserted a op (p.finishAssertion op info response w) := by
  have hrp : p.ForRelyingParty op response := by
    unfold ForRelyingParty
    rw [hby.rpIdHash, h.sha256]
  have hcount :
      assertionCount info response - 1 ≤ ([] : List Ctap2GetAssertionResponse).length := by
    unfold assertionCount
    rw [hby.count, Option.getD_none]
    exact Nat.le_of_eq (Nat.sub_eq_zero_of_le (Nat.min_le_left _ _))
  have hrps : ∀ r ∈ response :: [], p.ForRelyingParty op r :=
    fun r hmem => List.mem_singleton.mp hmem ▸ hrp
  obtain ⟨out, hout, -⟩ := p.finishAssertion_total info hrps (w := w) (.nil _) hcount
  obtain ⟨-, -, rest, outputs, hresponses, -⟩ := (p.finishAssertion_spec op info response
    w.session.authData w.session.log).ok ⟨rfl, rfl⟩ (Prod.ext hout rfl)
  refine ⟨⟨out, hout⟩, response, ?_, hby⟩
  rw [hresponses]
  exact List.mem_append_right _ List.mem_cons_self

/-- A run that was opened, from its loop on. -/
theorem getAssertionFido2_opened {op : GetAssertionRequest} {w w₁ : World σ T}
    {info : Ctap2GetInfoResponse} {request : Ctap2GetAssertionRequest} (b : Bool) (fuel : Nat)
    (hopened : (p.withPreflight b).openAssertion op w = (.ok (info, request), w₁)) :
    (p.withPreflight b).getAssertionFido2 fuel op w
      = (p.retryLoop (p.getAssertionCeremony op) fuel request
          >>= fun response => p.finishAssertion op info response) w₁ := by
  rw [getAssertionFido2_eq, Proc.bind_of_ok hopened, retryLoop_withPreflight_get]
  refine congrFun (congrArg _ ?_) w₁
  funext response
  exact finishAssertion_withPreflight b op info response

/-- Loops in step lead to the same. -/
theorem sameAssertion_of_alike (h : p.Conforms a) {op : GetAssertionRequest}
    {info : Ctap2GetInfoResponse} {w w' : World σ T}
    {m m' : Ctap σ T Ctap2GetAssertionResponse}
    (halike : Proc.Alike World.Abreast
      (fun response _ response' _ => ByListed a op response ∧ ByListed a op response')
      (m w) (m' w')) :
    SameAssertion a op ((m >>= fun response => p.finishAssertion op info response) w)
      ((m' >>= fun response => p.finishAssertion op info response) w') := by
  have hstopped : ∀ {outcome : Outcome (WebAuthnError T) (List Assertion)} {s : World σ T},
      (∀ out, outcome ≠ .ok out) → ¬EndsAsserted a op (outcome, s) := by
    intro outcome s hne hasserted
    obtain ⟨out, hout⟩ := hasserted.1
    exact hne out hout
  rw [Proc.bind_apply, Proc.bind_apply]
  generalize m w = x, m' w' = x' at halike ⊢
  -- two responses, or the same error on either side, or neither has ended
  cases halike with
  | @ok response response' s s' hby =>
      have hasserted := asserted_finishAssertion h hby.1 info s
      have hasserted' := asserted_finishAssertion h hby.2 info s'
      refine ⟨iff_of_true hasserted hasserted', iff_of_false (fun herror => ?_) fun herror => ?_⟩
      · obtain ⟨out, hout⟩ := hasserted.1
        cases herror.symm.trans hout
      · obtain ⟨out, hout⟩ := hasserted'.1
        cases herror.symm.trans hout
  | error _ =>
      have hne : ∀ {e : WebAuthnError T} (out : List Assertion),
          (Outcome.error e : Outcome (WebAuthnError T) (List Assertion)) ≠ .ok out :=
        fun out h => by cases h
      exact ⟨iff_of_false (hstopped hne) (hstopped hne), Iff.rfl⟩
  | running _ =>
      have hne : ∀ out : List Assertion,
          (Outcome.running : Outcome (WebAuthnError T) (List Assertion)) ≠ .ok out :=
        fun out h => by cases h
      exact ⟨iff_of_false (hstopped hne) (hstopped hne), Iff.rfl⟩

/-- The device's answer, with the user verified, decides a run without
preflight. -/
def DecidedAssertion (p : Platform σ T) (fuel : Nat) (op : GetAssertionRequest)
    (w : World σ T) : Prop :=
  ∃ attempt ∈ p.assertedAttempts fuel op w, attempt.sent.asksVerification = true
    ∧ (attempt.answer = .error (.ctap .noCredentials) ∨ ∃ response, attempt.answer = .ok response)

/-- A decided run, by what the device has of the list. -/
theorem DecidedAssertion.outcome (h : p.Conforms a) {fuel : Nat} {op : GetAssertionRequest}
    (hallow : op.allow ≠ []) {w w₁ : World σ T} (hlog : w.session.log = {})
    {info : Ctap2GetInfoResponse} {request : Ctap2GetAssertionRequest}
    (hopened : (p.withPreflight false).openAssertion op w = (.ok (info, request), w₁))
    (hdecided : DecidedAssertion (p.withPreflight false) fuel op w) :
    (a.found op.relyingPartyId true op.allow = []
        ∧ ((p.withPreflight false).getAssertionFido2 fuel op w).1 = .error (.ctap .noCredentials))
      ∨ (a.found op.relyingPartyId true op.allow ≠ []
        ∧ EndsAsserted a op ((p.withPreflight false).getAssertionFido2 fuel op w)) := by
  obtain ⟨attempt, hmem, hasks, hanswer⟩ := hdecided
  obtain ⟨-, hinfo, -, request₀, hrequest, hsame⟩ := openAssertion_direct hallow hopened
  have hfields := Ctap2GetAssertionRequest.fields_fromWebauthnRequest hrequest
  -- the device has answered for the list, after a verification
  have hlogged := (p.withPreflight false).assertedAttempts_opened fuel hlog hopened
  have hentry := hlogged.invariant
    (I := fun r => r.allow = request.allow ∧ r.relyingPartyId = request.relyingPartyId) ⟨rfl, rfl⟩
    (fun b hb hI => ⟨hb.allow.trans hI.1,
      (hb.keeps_get (f := (·.relyingPartyId)) fun _ _ _ _ _ => rfl).trans hI.2⟩) attempt hmem
  have hattempted := hlogged.attempted attempt hmem
  have hlist : attempt.sent.allow = filterOversizedCredentials info op.allow := by
    rw [hattempted.allow, hentry.1, hsame]
  have hrp : attempt.sent.relyingPartyId = op.relyingPartyId := by
    rw [hattempted.keeps_get (f := (·.relyingPartyId)) fun _ _ _ _ _ => rfl, hentry.2, hsame]
    exact hfields.2
  have hne : attempt.sent.allow ≠ [] :=
    (p.withPreflight false).assertedAttempts_allow hallow hlog attempt hmem
  obtain ⟨env, henv⟩ := (p.withPreflight false).answered_assertedAttempts fuel op hlog attempt
    hmem
  have hanswered : (a.getAssertion attempt.sent env).1 = attempt.answer := by
    rw [← h.getAssertion]
    exact henv
  have hcases := a.getAssertion_decided hne env
  rw [hanswered, hasks, hrp, hlist, h.found_filterOversized (getInfo_of_ctap2GetInfo hinfo)]
    at hcases
  -- and its answer settles the loop
  have hsettled := (p.withPreflight false).assertedAttempts_settle fuel hlog hopened attempt hmem
  rw [getAssertionFido2_opened false fuel hopened]
  rw [retryLoop_withPreflight_get] at hsettled
  rcases hrun : p.retryLoop (p.getAssertionCeremony op) fuel request w₁ with ⟨outcome, w₂⟩
  rw [hrun] at hsettled
  rcases hcases with ⟨e, herror, hother⟩ | ⟨herror, hnone⟩ | ⟨response, hok, hfound, hasserts⟩
  · -- no other status is an answer for the list
    rcases hanswer with hanswer | ⟨response, hanswer⟩
    · rw [hanswer] at herror
      obtain rfl := Except.error.inj herror
      cases hother
    · cases hanswer.symm.trans herror
  · rw [herror] at hsettled
    obtain rfl : outcome = _ := hsettled rfl
    exact Or.inl ⟨hnone, congrArg Prod.fst (Proc.bind_of_error hrun _)⟩
  · rw [hok] at hsettled
    obtain rfl : outcome = _ := hsettled
    rw [Proc.bind_of_ok hrun]
    refine Or.inr ⟨hfound, asserted_finishAssertion h (hasserts.relist fun credential hmem => ?_)
      info w₂⟩
    refine ⟨credential, ?_, rfl⟩
    rwa [h.found_filterOversized (getInfo_of_ctap2GetInfo hinfo)] at hmem

/-- The loops with what the preflight left, and without preflight. -/
theorem sameAssertion_of_kept (h : p.Conforms a) (fuel : Nat) {op : GetAssertionRequest}
    (hallow : op.allow ≠ []) {w w₁ w₂ : World σ T} {info : Ctap2GetInfoResponse}
    {request : Ctap2GetAssertionRequest} {kept : List Ctap2PublicKeyCredentialDescriptor}
    (hopened : (p.withPreflight false).openAssertion op w = (.ok (info, request), w₁))
    (hopened' : (p.withPreflight true).openAssertion op w
      = (.ok (info, { request with allow := kept }), w₂)) (habreast : w₁.Abreast w₂)
    (hkept : kept.map (·.denoted) = (a.found op.relyingPartyId false op.allow).map (·.denoted))
    (hne : kept ≠ []) :
    SameAssertion a op ((p.withPreflight false).getAssertionFido2 fuel op w)
      ((p.withPreflight true).getAssertionFido2 fuel op w) := by
  obtain ⟨-, hinfo, -, request₀, hrequest, hsame⟩ := openAssertion_direct hallow hopened
  have hshort : ∀ verified, a.found op.relyingPartyId verified request.allow
      = a.found op.relyingPartyId verified op.allow := by
    intro verified
    rw [hsame]
    exact h.found_filterOversized (getInfo_of_ctap2GetInfo hinfo) _ _ _
  have hrelisted : Ctap2GetAssertionRequest.Relisted op.relyingPartyId request.allow kept request
      { request with allow := kept } := by
    refine ⟨?_, rfl, rfl⟩
    rw [hsame]
    exact (Ctap2GetAssertionRequest.fields_fromWebauthnRequest hrequest).2
  -- whatever signs is a credential of the caller's list
  have hlisted : ∀ verified, ∀ credential ∈ a.found op.relyingPartyId verified request.allow,
      credential ∈ a.found op.relyingPartyId true op.allow := by
    intro verified credential hmem
    rw [hshort, Authenticator.mem_found] at hmem
    exact Authenticator.mem_found.mpr ⟨hmem.1, Authenticator.sees_mono (fun _ => rfl) hmem.2⟩
  have hinStep := inStep_get h hlisted (by rw [hshort]; exact hkept) hne
  rw [getAssertionFido2_opened false fuel hopened, getAssertionFido2_opened true fuel hopened']
  exact sameAssertion_of_alike h (p.abreast_retryLoop hinStep fuel hrelisted w₁ w₂ habreast)

/-- When the probes find nothing of the list, the ceremony ends. -/
theorem getAssertionFido2_refused {op : GetAssertionRequest} {w : World σ T} (fuel : Nat)
    (hopening : ((p.withPreflight true).openAssertion op w).1 = .error (.ctap .noCredentials)) :
    ((p.withPreflight true).getAssertionFido2 fuel op w).1 = .error (.ctap .noCredentials) := by
  rw [getAssertionFido2_eq]
  refine ((Proc.bind_of_not_ok fun opened h => ?_).2 _).mpr hopening
  cases hopening.symm.trans h

/-- An assertion decided without preflight comes to the same with it, just
when the probes find something if anything is there. -/
theorem sameAssertion_iff (h : p.Conforms a) {fuel : Nat} {op : GetAssertionRequest}
    {w : World σ T} (hlog : w.session.log = {})
    (hdecided : DecidedAssertion (p.withPreflight false) fuel op w) :
    SameAssertion a op ((p.withPreflight false).getAssertionFido2 fuel op w)
        ((p.withPreflight true).getAssertionFido2 fuel op w)
      ↔ a.Probeable op.relyingPartyId op.allow := by
  by_cases hallow : op.allow = []
  · refine iff_of_true ?_ fun hfound => absurd (by rw [hallow]; rfl) hfound
    rw [getAssertionFido2_unlisted false hallow, getAssertionFido2_unlisted true hallow]
    exact ⟨Iff.rfl, Iff.rfl⟩
  rcases hopening : (p.withPreflight false).openAssertion op w with ⟨outcome, w₁⟩
  by_cases hopened : ∃ opened, outcome = .ok opened
  · obtain ⟨⟨info, request⟩, rfl⟩ := hopened
    obtain ⟨kept, w₂, habreast, hkept, hnothing, hsomething⟩ :=
      openAssertion_probing h hallow hopening
    by_cases hnil : kept = []
    · -- the preflight ends the ceremony: what would the device have said?
      have hprobed : a.found op.relyingPartyId false op.allow = [] :=
        (a.kept_eq_nil_iff hkept).mp hnil
      have hrefused := getAssertionFido2_refused fuel (hnothing hnil)
      have hnot : ¬EndsAsserted a op ((p.withPreflight true).getAssertionFido2 fuel op w) := by
        intro hasserted
        obtain ⟨out, hout⟩ := hasserted.1
        cases hrefused.symm.trans hout
      rcases hdecided.outcome h hallow hlog hopening with ⟨hfound, herror⟩ | ⟨hfound, hasserted⟩
      · refine iff_of_true ⟨iff_of_false (fun hasserted => ?_) hnot, iff_of_true herror hrefused⟩
          fun hthere => absurd hfound hthere
        obtain ⟨out, hout⟩ := hasserted.1
        cases herror.symm.trans hout
      · exact iff_of_false (fun hsame => hnot (hsame.asserted.mp hasserted))
          fun hprobeable => hprobeable hfound hprobed
    -- something is kept: both loops run, in step
    · refine iff_of_true ?_ fun _ => mt (a.kept_eq_nil_iff hkept).mpr hnil
      exact sameAssertion_of_kept h fuel hallow hopening (hsomething hnil) habreast hkept hnil
  -- a run that is not opened is not decided either
  · obtain ⟨attempt, hmem, -⟩ := hdecided
    rw [(p.withPreflight false).assertedAttempts_stopped fuel hlog
      fun opened h => hopened ⟨opened, by rw [← h, hopening]⟩] at hmem
    cases hmem

/-! ## §7. Registrations. -/

/-- The device has excluded the credential, and the run ends with that. -/
def EndsExcluded (run : Outcome (WebAuthnError T) MakeCredentialResponse × World σ T) : Prop :=
  run.1 = .error (.ctap .credentialExcluded)
    ∧ .error (.ctap .credentialExcluded) ∈ run.2.session.log.made.map (·.answer)

/-- Two runs that come to the same: `CredentialExcluded`, or a credential. -/
structure SameRegistration
    (run run' : Outcome (WebAuthnError T) MakeCredentialResponse × World σ T) : Prop where
  excluded : EndsExcluded run ↔ EndsExcluded run'
  created : (∃ out, run.1 = .ok out) ↔ ∃ out, run'.1 = .ok out

/-- The device's answer, with the user verified, decides a run. -/
def DecidedRegistration (p : Platform σ T) (fuel : Nat) (op : MakeCredentialRequest)
    (w : World σ T) : Prop :=
  ∃ attempt ∈ p.madeAttempts fuel op w, attempt.sent.asksVerification = true
    ∧ (attempt.answer = .error (.ctap .credentialExcluded)
      ∨ ∃ response, attempt.answer = .ok response)

theorem getD_filterOversized (info : Ctap2GetInfoResponse)
    (exclude : Option (List Ctap2PublicKeyCredentialDescriptor)) :
    (exclude.map (filterOversizedCredentials info)).getD []
      = filterOversizedCredentials info (exclude.getD []) := by
  cases exclude with
  | none =>
      rw [filterOversizedCredentials_eq]
      rfl
  | some list => rfl

/-- An opening without preflight. -/
theorem openMake_direct {op : MakeCredentialRequest} {w w₁ : World σ T}
    {info : Ctap2GetInfoResponse} {request : Ctap2MakeCredentialRequest}
    (hopened : (p.withPreflight false).openMake op w = (.ok (info, request), w₁)) :
    p.ctap2GetInfo w = (.ok info, w₁)
      ∧ WithinLimits info request.ctapHidData (request.exclude.elim 0 List.length)
      ∧ request.relyingParty = op.relyingParty
      ∧ ∃ request₀, (Ctap2MakeCredentialRequest.fromWebauthnRequest p.crypto op info :
          Except (WebAuthnError T) Ctap2MakeCredentialRequest) = .ok request₀
        ∧ request = { request₀ with
            exclude := op.exclude.map (filterOversizedCredentials info) } := by
  obtain ⟨request₀, exclude, w₀, hinfo, hrequest, hlist, hlimits, hsame⟩ :=
    (p.withPreflight false).openMake_ok hopened
  have hfields := fields_fromWebauthnRequest hrequest
  rw [hfields.1] at hlist
  -- without the preflight the exclude list is filtered by size and sends nothing
  have hexclude : (p.withPreflight false).excludeList op info op.exclude w₀
      = (.ok (op.exclude.map (filterOversizedCredentials info)), w₀) := by
    unfold excludeList
    cases op.exclude with
    | none => rfl
    | some list => rfl
  obtain ⟨hout, rfl⟩ := Prod.mk.inj (hexclude.symm.trans hlist)
  obtain rfl := Outcome.ok.inj hout
  refine ⟨hinfo, ?_, by rw [hsame]; exact hfields.2, request₀, hrequest, hsame⟩
  rcases limits_cases info request.ctapHidData (request.exclude.elim 0 List.length) with
    ⟨-, hwithin⟩ | ⟨herror, -⟩
  · exact hwithin
  · cases hlimits.symm.trans herror

/-- The opening with preflight, next to one without: what the probes find is
sent, if it is nothing. -/
theorem openMake_probing (h : p.Conforms a) {op : MakeCredentialRequest}
    (happid : op.extensions.bind (·.appidExclude) = none) {w w₁ : World σ T}
    {info : Ctap2GetInfoResponse} {request : Ctap2MakeCredentialRequest}
    (hopened : (p.withPreflight false).openMake op w = (.ok (info, request), w₁)) :
    ∃ exclude w₂, w₁.Abreast w₂
      ∧ (exclude.getD []).map (·.denoted)
        = (a.found op.relyingParty.id false (op.exclude.getD [])).map (·.denoted)
      ∧ (p.withPreflight true).openMake op w
        = (.ok (info, { request with exclude := exclude }), w₂) := by
  obtain ⟨hinfo, hwithin, -, request₀, hrequest, rfl⟩ := openMake_direct hopened
  have hfields := fields_fromWebauthnRequest hrequest
  -- the opening, once its list is known
  have hopens : ∀ {exclude w₂}, (p.withPreflight true).excludeList op info op.exclude w₁
      = (.ok exclude, w₂) →
      WithinLimits info ({ request₀ with exclude := exclude }).ctapHidData
        (exclude.elim 0 List.length) →
      (p.withPreflight true).openMake op w
        = (.ok (info, { request₀ with exclude := exclude }), w₂) := by
    intro exclude w₂ hexclude hwithin
    refine (p.withPreflight true).openMake_of_within ?_ hwithin
    unfold listMake
    refine (Proc.bind_of_ok hinfo _).trans ?_
    refine (Proc.bind_of_ok (Proc.ofExcept_eq_ok_iff.mpr ⟨hrequest, rfl⟩) _).trans ?_
    rw [hfields.1, Proc.bind_of_ok hexclude]
    rfl
  cases hexclude : op.exclude with
  | none =>
      rw [hexclude] at hopens hwithin
      refine ⟨none, w₁, ⟨rfl, rfl, rfl⟩, rfl, ?_⟩
      exact hopens rfl hwithin
  | some list =>
      rw [hexclude] at hopens hwithin
      obtain ⟨kept, w₂, hprobed, habreast, hkept⟩ := (p.withPreflight true).ctap2Preflight_found
        (h.withPreflight true) (op.clientDataHash p.crypto) op.relyingParty.id
        (filterOversizedCredentials info list) w₁
      have hsublist : (kept.map (·.denoted)).Sublist
          ((filterOversizedCredentials info list).map (·.denoted)) := by
        rw [hkept]
        exact List.filter_sublist.map _
      rw [h.found_filterOversized (getInfo_of_ctap2GetInfo hinfo)] at hkept
      refine ⟨some kept, w₂, habreast, hkept, hopens ?_ ?_⟩
      · unfold excludeList
        dsimp only [Option.map_some]
        rw [happid]
        exact Proc.bind_of_ok hprobed _
      · have hlisted : ({ request₀ with exclude := some (filterOversizedCredentials info list) } :
            Ctap2MakeCredentialRequest).exclude = some (filterOversizedCredentials info list) := rfl
        have hshorter := WithinLimits.exclude hlisted hwithin hsublist
        exact hshorter

/-- A run that was opened, from its loop on. -/
theorem makeCredentialFido2_opened {op : MakeCredentialRequest} {w w₁ : World σ T}
    {info : Ctap2GetInfoResponse} {request : Ctap2MakeCredentialRequest} (b : Bool) (fuel : Nat)
    (hopened : (p.withPreflight b).openMake op w = (.ok (info, request), w₁)) :
    (p.withPreflight b).makeCredentialFido2 fuel op w
      = (p.retryLoop (p.makeCredentialCeremony op) fuel request
          >>= fun response => p.finishMake op info response) w₁ := by
  rw [makeCredentialFido2_eq, Proc.bind_of_ok hopened]
  rfl

/-- Loops in step lead to the same. -/
theorem sameRegistration_of_alike {op : MakeCredentialRequest} {info : Ctap2GetInfoResponse}
    {w w' : World σ T} {m m' : Ctap σ T Ctap2MakeCredentialResponse}
    (halike : Proc.Alike World.Abreast (fun _ _ _ _ => True) (m w) (m' w')) :
    SameRegistration ((m >>= fun response => p.finishMake op info response) w)
      ((m' >>= fun response => p.finishMake op info response) w') := by
  rw [Proc.bind_apply, Proc.bind_apply]
  generalize m w = x, m' w' = x' at halike ⊢
  cases halike with
  | ok _ =>
      exact ⟨iff_of_false (fun h => by cases h.1) (fun h => by cases h.1),
        iff_of_true ⟨_, rfl⟩ ⟨_, rfl⟩⟩
  | @error e s s' hworlds =>
      refine ⟨?_, iff_of_false (fun h => by cases h.choose_spec) fun h => by cases h.choose_spec⟩
      show (_ ∧ _ ∈ s.session.log.made.map (·.answer))
        ↔ (_ ∧ _ ∈ s'.session.log.made.map (·.answer))
      rw [hworlds.made]
  | running _ =>
      exact ⟨iff_of_false (fun h => by cases h.1) (fun h => by cases h.1),
        iff_of_false (fun h => by cases h.choose_spec) fun h => by cases h.choose_spec⟩

/-- What the device has answered in a run, by the list of its requests. -/
theorem makeCredential_answered (h : p.Conforms a) (fuel : Nat) {op : MakeCredentialRequest}
    {w w₁ : World σ T} (hlog : w.session.log = {}) {info : Ctap2GetInfoResponse}
    {request : Ctap2MakeCredentialRequest} (hopened : p.openMake op w = (.ok (info, request), w₁))
    (hrp : request.relyingParty = op.relyingParty)
    {attempt : Attempt T Ctap2MakeCredentialRequest Ctap2MakeCredentialResponse}
    (hmem : attempt ∈ p.madeAttempts fuel op w) :
    (∃ e, attempt.answer = .error e ∧ e.ofList = false)
      ∨ (attempt.answer = .error (.ctap .credentialExcluded)
        ∧ a.found op.relyingParty.id attempt.sent.asksVerification (request.exclude.getD []) ≠ [])
      ∨ ∃ response, attempt.answer = .ok response
        ∧ a.found op.relyingParty.id attempt.sent.asksVerification (request.exclude.getD [])
          = [] := by
  have hlogged := p.madeAttempts_opened fuel hlog hopened
  have hentry := hlogged.invariant
    (I := fun r => r.exclude = request.exclude ∧ r.relyingParty = request.relyingParty) ⟨rfl, rfl⟩
    (fun b hb hI => ⟨hb.exclude.trans hI.1,
      (hb.keeps_make (f := (·.relyingParty)) fun _ _ _ _ _ => rfl).trans hI.2⟩) attempt hmem
  have hattempted := hlogged.attempted attempt hmem
  have hlist : attempt.sent.exclude = request.exclude := hattempted.exclude.trans hentry.1
  have hsent : attempt.sent.relyingParty = op.relyingParty := by
    rw [hattempted.keeps_make (f := (·.relyingParty)) fun _ _ _ _ _ => rfl, hentry.2, hrp]
  obtain ⟨env, henv⟩ := p.answered_madeAttempts fuel op hlog attempt hmem
  have hcases := a.makeCredential_decided attempt.sent env
  rw [← h.makeCredential, henv, hsent, hlist] at hcases
  exact hcases

/-- A registration decided without preflight comes to the same with it, just
when the probes find something if anything is there. -/
theorem sameRegistration_iff (h : p.Conforms a) {fuel : Nat} {op : MakeCredentialRequest}
    (happid : op.extensions.bind (·.appidExclude) = none) {w : World σ T}
    (hlog : w.session.log = {})
    (hdecided : DecidedRegistration (p.withPreflight false) fuel op w) :
    SameRegistration ((p.withPreflight false).makeCredentialFido2 fuel op w)
        ((p.withPreflight true).makeCredentialFido2 fuel op w)
      ↔ a.Probeable op.relyingParty.id (op.exclude.getD []) := by
  obtain ⟨attempt, hmem, hasks, hanswer⟩ := hdecided
  rcases hopening : (p.withPreflight false).openMake op w with ⟨outcome, w₁⟩
  by_cases hopened : ∃ opened, outcome = .ok opened
  · obtain ⟨⟨info, request⟩, rfl⟩ := hopened
    obtain ⟨hinfo, -, hrp, request₀, -, hrequest⟩ := openMake_direct hopening
    obtain ⟨exclude, w₂, habreast, hkept, hopening'⟩ := openMake_probing h happid hopening
    have hshort : ∀ verified, a.found op.relyingParty.id verified (request.exclude.getD [])
        = a.found op.relyingParty.id verified (op.exclude.getD []) := by
      intro verified
      rw [hrequest, getD_filterOversized]
      exact h.found_filterOversized (getInfo_of_ctap2GetInfo hinfo) _ _ _
    constructor
    · intro hsame hthere
      by_contra hprobed
      -- the device excludes the unfiltered list, and has no reason to exclude an empty one
      have hsettled := (p.withPreflight false).madeAttempts_settle fuel hlog hopening attempt hmem
      have hexcluded : attempt.answer = .error (.ctap .credentialExcluded) := by
        rcases makeCredential_answered (h.withPreflight false) fuel hlog hopening hrp hmem with
          ⟨e, herror, hother⟩ | ⟨herror, -⟩ | ⟨response, -, hnone⟩
        · rcases hanswer with hanswer | ⟨response, hanswer⟩
          · rw [hanswer] at herror
            obtain rfl := Except.error.inj herror
            cases hother
          · cases hanswer.symm.trans herror
        · exact herror
        · rw [hasks, hshort] at hnone
          exact absurd hnone hthere
      rw [hexcluded] at hsettled
      have hends : EndsExcluded ((p.withPreflight false).makeCredentialFido2 fuel op w) := by
        refine ⟨?_, List.mem_map.mpr ⟨attempt, hmem, hexcluded⟩⟩
        rw [makeCredentialFido2_eq, Proc.bind_of_ok hopening]
        exact congrArg Prod.fst (Proc.bind_of_error (Prod.ext (hsettled rfl) rfl) _)
      obtain ⟨-, hmem'⟩ := hsame.excluded.mp hends
      obtain ⟨attempt', hattempt', hanswer'⟩ := List.mem_map.mp hmem'
      have hnil : exclude.getD [] = [] := (a.kept_eq_nil_iff hkept).mpr hprobed
      rcases makeCredential_answered (h.withPreflight true) fuel hlog hopening' hrp hattempt' with
        ⟨e, herror, hother⟩ | ⟨-, hfound⟩ | ⟨response, hok, -⟩
      · rw [hanswer'] at herror
        obtain rfl := Except.error.inj herror
        cases hother
      · exact hfound (by rw [hnil]; rfl)
      · cases hanswer'.symm.trans hok
    · intro hprobeable
      have hfound : ∀ verified,
          a.found op.relyingParty.id verified (request.exclude.getD []) = []
            ↔ a.found op.relyingParty.id verified (exclude.getD []) = [] := by
        intro verified
        rw [hshort]
        exact hprobeable.found_iff hkept
      have hinStep := inStep_make h op hfound
      rw [makeCredentialFido2_opened false fuel hopening,
        makeCredentialFido2_opened true fuel hopening']
      exact sameRegistration_of_alike (p.abreast_retryLoop hinStep fuel
        ⟨congrArg (·.id) hrp, rfl, rfl⟩ w₁ w₂ habreast)
  · rw [(p.withPreflight false).madeAttempts_stopped fuel hlog
      fun opened h => hopened ⟨opened, by rw [← h, hopening]⟩] at hmem
    cases hmem

end Platform

/-- **When preflight is transparent**: with the user verified, the outcome of
either ceremony is the one without preflight exactly when no listed credential
is on the device under the relying party, or one of those that are is visible
without user verification. -/
theorem preflight_transparent_iff {p : Platform σ T} {a : Authenticator σ T} (h : p.Conforms a)
    (fuel : Nat) {w : World σ T} (hlog : w.session.log = {}) :
    (∀ op, DecidedAssertion (p.withPreflight false) fuel op w →
      (SameAssertion a op ((p.withPreflight false).getAssertionFido2 fuel op w)
          ((p.withPreflight true).getAssertionFido2 fuel op w)
        ↔ a.Probeable op.relyingPartyId op.allow))
      ∧ ∀ op, op.extensions.bind (·.appidExclude) = none →
        DecidedRegistration (p.withPreflight false) fuel op w →
        (SameRegistration ((p.withPreflight false).makeCredentialFido2 fuel op w)
            ((p.withPreflight true).makeCredentialFido2 fuel op w)
          ↔ a.Probeable op.relyingParty.id (op.exclude.getD [])) :=
  ⟨fun _ hdecided => sameAssertion_iff h hlog hdecided,
    fun _ happid hdecided => sameRegistration_iff h happid hlog hdecided⟩

/-! ## §8. A device with one credential. -/

/-- An authenticator that verifies its user, who consents to everything. -/
def Authenticator.attended (credentials : Keyed Bytes StoredCredential) :
    Authenticator Unit Empty where
  sha256 := transparentCrypto.sha256
  credentials := credentials
  discoverable := []
  verify _ s := (.ok (), s)
  consent s := (.ok (), s)
  sign request ids _ s :=
    ({ plainGetAssertionResponse (ids.head?.map fun id => ⟨id, .publicKey, none⟩) with
        authenticatorData := { plainAuthenticatorData with
          rpIdHash := transparentCrypto.sha256 (utf8 request.relyingPartyId) } }, s)
  create _ _ s := (.ok plainMakeCredentialResponse, s)
  signedBy response id := response.credentialId = some ⟨id, .publicKey, none⟩
  verify_status _ _ _ h := by cases h
  consent_status _ _ h := by cases h
  create_status _ _ _ _ h := by cases h
  sign_rpIdHash _ _ _ _ := rfl
  sign_attested _ _ _ _ := rfl
  sign_count _ _ _ _ _ := rfl
  sign_names _ ids _ _ hids := by
    obtain ⟨id, rest, rfl⟩ := List.exists_cons_of_ne_nil hids
    exact ⟨id, List.mem_cons_self, rfl, Or.inl rfl⟩

/-- A platform with this authenticator, and the built-in UV of CTAP 2.0. -/
def attendedPlatform (a : Authenticator Unit Empty) : Platform Unit Empty :=
  { storedPlatform [] with
    getInfo := fun s => (.ok { options := some [("uv", true)] }, s)
    makeCredential := a.makeCredential
    getAssertion := a.getAssertion }

theorem conforms_attendedPlatform (credentials : Keyed Bytes StoredCredential) :
    (attendedPlatform (.attended credentials)).Conforms (.attended credentials) where
  sha256 := rfl
  getAssertion := rfl
  makeCredential := rfl
  fits h _ := by
    obtain rfl := Except.ok.inj h
    rfl

/-- The credential of id 1, at a protection level. -/
def oneCredential (credProtect : CredentialProtectionPolicy) : Keyed Bytes StoredCredential :=
  fun id => if id = [1] then
    some ⟨transparentCrypto.sha256 (utf8 "example.org"), credProtect⟩
  else none

def oneCredentialDevice (credProtect : CredentialProtectionPolicy) : Platform Unit Empty :=
  attendedPlatform (.attended (oneCredential credProtect))

/-- An assertion by it. -/
def allowOneOp : GetAssertionRequest :=
  { plainGetAssertionOp with allow := [listedCredential 1] }

/-- A credential where it is excluded. -/
def excludeOneOp : MakeCredentialRequest :=
  { plainMakeCredentialOp with exclude := some [listedCredential 1] }

/-- Sent as it is, the list is answered with the user verified. -/
theorem decided_oneCredential (credProtect : CredentialProtectionPolicy) :
    DecidedAssertion ((oneCredentialDevice credProtect).withPreflight false) 3 allowOneOp
        (.start () none)
      ∧ DecidedRegistration ((oneCredentialDevice credProtect).withPreflight false) 3 excludeOneOp
        (.start () none) := by
  constructor
  · have hasserted : ∃ attempt ∈ ((oneCredentialDevice credProtect).withPreflight
        false).assertedAttempts 3 allowOneOp (.start () none),
        attempt.sent.asksVerification = true ∧ attempt.answer.isOk = true := by
      cases credProtect
      all_goals decide +kernel
    obtain ⟨attempt, hmem, hasks, hok⟩ := hasserted
    refine ⟨attempt, hmem, hasks, Or.inr ?_⟩
    cases hanswer : attempt.answer with
    | ok response => exact ⟨response, rfl⟩
    | error e =>
        rw [hanswer] at hok
        cases hok
  · have hmade : ∃ attempt ∈ ((oneCredentialDevice credProtect).withPreflight
        false).madeAttempts 3 excludeOneOp (.start () none),
        attempt.sent.asksVerification = true
          ∧ attempt.answer = .error (.ctap .credentialExcluded) := by
      cases credProtect
      all_goals decide +kernel
    obtain ⟨attempt, hmem, hasks, hexcluded⟩ := hmade
    exact ⟨attempt, hmem, hasks, Or.inl hexcluded⟩

/-- A credential that the probes see. -/
theorem preflight_transparent_optional :
    SameAssertion (.attended (oneCredential .userVerificationOptional)) allowOneOp
        (((oneCredentialDevice .userVerificationOptional).withPreflight false).getAssertionFido2 3
          allowOneOp (.start () none))
        (((oneCredentialDevice .userVerificationOptional).withPreflight true).getAssertionFido2 3
          allowOneOp (.start () none))
      ∧ SameRegistration
        (((oneCredentialDevice .userVerificationOptional).withPreflight false).makeCredentialFido2 3
          excludeOneOp (.start () none))
        (((oneCredentialDevice .userVerificationOptional).withPreflight true).makeCredentialFido2 3
          excludeOneOp (.start () none)) := by
  have hiff := preflight_transparent_iff
    (conforms_attendedPlatform (oneCredential .userVerificationOptional)) 3
    (w := .start () none) rfl
  obtain ⟨hasserted, hmade⟩ := decided_oneCredential .userVerificationOptional
  refine ⟨(hiff.1 allowOneOp hasserted).mpr fun _ => ?_,
    (hiff.2 excludeOneOp rfl hmade).mpr fun _ => ?_⟩
  · exact List.cons_ne_nil (listedCredential 1) []
  · exact List.cons_ne_nil (listedCredential 1) []

set_option maxRecDepth 8000 in
/-- One that they do not see: the device would sign, and would refuse to make
another credential; after the probes nothing is signed, and another is made. -/
theorem preflight_not_transparent :
    (oneCredentialDevice .userVerificationRequired).Conforms
        (.attended (oneCredential .userVerificationRequired))
      ∧ DecidedAssertion ((oneCredentialDevice .userVerificationRequired).withPreflight false) 3
        allowOneOp (.start () none)
      ∧ ¬SameAssertion (.attended (oneCredential .userVerificationRequired)) allowOneOp
        (((oneCredentialDevice .userVerificationRequired).withPreflight false).getAssertionFido2 3
          allowOneOp (.start () none))
        (((oneCredentialDevice .userVerificationRequired).withPreflight true).getAssertionFido2 3
          allowOneOp (.start () none))
      ∧ DecidedRegistration ((oneCredentialDevice .userVerificationRequired).withPreflight false) 3
        excludeOneOp (.start () none)
      ∧ ¬SameRegistration
        (((oneCredentialDevice .userVerificationRequired).withPreflight false).makeCredentialFido2 3
          excludeOneOp (.start () none))
        (((oneCredentialDevice .userVerificationRequired).withPreflight true).makeCredentialFido2 3
          excludeOneOp (.start () none)) := by
  obtain ⟨hasserted, hmade⟩ := decided_oneCredential .userVerificationRequired
  refine ⟨conforms_attendedPlatform _, hasserted, fun hsame => ?_, hmade, fun hsame => ?_⟩
  · have hrefused : (((oneCredentialDevice .userVerificationRequired).withPreflight
        false).getAssertionFido2 3 allowOneOp (.start () none)).1
          = .error (.ctap .noCredentials) := hsame.noCredentials.mpr rfl
    cases hrefused
  · obtain ⟨out, hcreated⟩ := hsame.created.mpr ⟨_, rfl⟩
    cases hcreated

end Libwebauthn
