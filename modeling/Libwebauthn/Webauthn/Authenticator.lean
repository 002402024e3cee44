/-
  Libwebauthn.Webauthn.Authenticator — what a conforming authenticator does
  with lists of credentials.

  An `Authenticator` is a map from credential ids to what is kept with them,
  and what else it answers by.  Its answers follow the rules of CTAP: the user
  is verified first, then the list is looked up, where a credential that takes
  user verification is invisible to a request without it; only then the user's
  consent is asked for.
-/
import Libwebauthn.Lib.Keyed
import Libwebauthn.Webauthn.AppidExclude
import Libwebauthn.Webauthn.Lockstep
import Libwebauthn.Webauthn.Settled

namespace Libwebauthn

variable {σ T : Type}

/-! ## §1. Requests. -/

/-- The request has the user verified: by a token, or by the deprecated option. -/
def Ctap2GetAssertionRequest.asksVerification (self : Ctap2GetAssertionRequest) : Bool :=
  self.pinAuthParam.isSome || self.options.any (·.requireUserVerification)

def Ctap2MakeCredentialRequest.asksVerification (self : Ctap2MakeCredentialRequest) : Bool :=
  self.pinAuthParam.isSome
    || self.options.any fun options => options.deprecatedRequireUserVerification == some true

/-- `up` is true unless the request says otherwise. -/
def Ctap2GetAssertionRequest.asksPresence (self : Ctap2GetAssertionRequest) : Bool :=
  self.options.all (·.requireUserPresence)

/-- The commands that verify a user, without their lists. -/
inductive VerifiedCommand where
  | makeCredential (request : Ctap2MakeCredentialRequest)
  | getAssertion (request : Ctap2GetAssertionRequest)

/-! ## §2. Authenticators. -/

/-- What is kept with a credential id. -/
structure StoredCredential where
  rpIdHash : Bytes
  credProtect : CredentialProtectionPolicy
  deriving Repr, DecidableEq

/-- Whether a request for this credential sees it. -/
def StoredCredential.visible (self : StoredCredential) (verified : Bool) : Bool :=
  verified || self.credProtect != .userVerificationRequired

/-- An authenticator.  `signedBy response id` says that the signature of the
response verifies under the key of the credential. -/
structure Authenticator (σ T : Type) where
  sha256 : Bytes → Bytes
  credentials : Keyed Bytes StoredCredential
  discoverable : List Bytes
  verify : VerifiedCommand → σ → Except (WebAuthnError T) Unit × σ
  consent : σ → Except (WebAuthnError T) Unit × σ
  sign : Ctap2GetAssertionRequest → (ids : List Bytes) → (verified : Bool) → σ →
    Ctap2GetAssertionResponse × σ
  create : Ctap2MakeCredentialRequest → (verified : Bool) → σ →
    Except (WebAuthnError T) Ctap2MakeCredentialResponse × σ
  signedBy : Ctap2GetAssertionResponse → (id : Bytes) → Prop
  verify_status : ∀ command s e, (verify command s).1 = .error e → e.ofList = false
  consent_status : ∀ s e, (consent s).1 = .error e → e.ofList = false
  create_status : ∀ request verified s e, (create request verified s).1 = .error e →
    e.ofList = false
  sign_rpIdHash : ∀ request ids verified s,
    (sign request ids verified s).1.authenticatorData.rpIdHash
      = sha256 (utf8 request.relyingPartyId)
  sign_attested : ∀ request ids verified s,
    (sign request ids verified s).1.authenticatorData.attestedCredential = none
  /-- One assertion for a list of credentials, not one for each. -/
  sign_count : ∀ request ids verified s, request.allow ≠ [] →
    (sign request ids verified s).1.credentialsCount = none
  /-- By one of the applicable credentials, which a list of one need not name. -/
  sign_names : ∀ request ids verified s, ids ≠ [] →
    ∃ id ∈ ids, signedBy (sign request ids verified s).1 id
      ∧ ((sign request ids verified s).1.credentialId = some ⟨id, .publicKey, none⟩
        ∨ (sign request ids verified s).1.credentialId = none ∧ request.allow.length = 1)

namespace Authenticator

variable (a : Authenticator σ T)

/-- A credential under the relying party that a request sees. -/
def shows (rp : String) (verified : Bool) (id : Bytes) : Bool :=
  (a.credentials id).any fun stored =>
    stored.rpIdHash == a.sha256 (utf8 rp) && stored.visible verified

/-- An entry of a list is seen: one of an unknown type is passed over. -/
def sees (rp : String) (verified : Bool) (credential : Ctap2PublicKeyCredentialDescriptor) : Bool :=
  credential.type == .publicKey && a.shows rp verified credential.id

/-- The entries of a list that a request sees. -/
def found (rp : String) (verified : Bool) (list : List Ctap2PublicKeyCredentialDescriptor) :
    List Ctap2PublicKeyCredentialDescriptor :=
  list.filter (a.sees rp verified)

/-- The discoverable credentials that a request without a list sees. -/
def discovered (rp : String) (verified : Bool) : List Bytes :=
  a.discoverable.filter fun id => a.shows rp verified id
    && (verified || (a.credentials id).any fun stored =>
      stored.credProtect == .userVerificationOptional)

def applicable (request : Ctap2GetAssertionRequest) (verified : Bool) : List Bytes :=
  if request.allow.isEmpty then a.discovered request.relyingPartyId verified
  else (a.found request.relyingPartyId verified request.allow).map (·.id)

def verification (asked : Bool) (command : VerifiedCommand) (s : σ) :
    Except (WebAuthnError T) Unit × σ :=
  if asked then a.verify command s else (.ok (), s)

def presence (asked : Bool) (s : σ) : Except (WebAuthnError T) Unit × σ :=
  if asked then a.consent s else (.ok (), s)

/-- A silent request is signed without the user, and changes nothing. -/
def assertion (request : Ctap2GetAssertionRequest) (verified : Bool) (s : σ) :
    Except (WebAuthnError T) Ctap2GetAssertionResponse × σ :=
  match a.presence request.asksPresence s with
  | (.error e, s) => (.error e, s)
  | (.ok (), s) =>
      let signed := a.sign request (a.applicable request verified) verified s
      (.ok signed.1, if request.asksPresence then signed.2 else s)

/-- authenticatorGetAssertion. -/
def getAssertion (request : Ctap2GetAssertionRequest) (s : σ) :
    Except (WebAuthnError T) Ctap2GetAssertionResponse × σ :=
  match a.verification request.asksVerification (.getAssertion { request with allow := [] }) s with
  | (.error e, s) => (.error e, s)
  | (.ok (), s) =>
      if a.applicable request request.asksVerification = [] then
        (.error (.ctap .noCredentials), s)
      else a.assertion request request.asksVerification s

/-- The refusal of a listed credential, which takes the user's consent as well. -/
def exclusion (s : σ) : Except (WebAuthnError T) Ctap2MakeCredentialResponse × σ :=
  match a.consent s with
  | (.error e, s) => (.error e, s)
  | (.ok (), s) => (.error (.ctap .credentialExcluded), s)

/-- authenticatorMakeCredential. -/
def makeCredential (request : Ctap2MakeCredentialRequest) (s : σ) :
    Except (WebAuthnError T) Ctap2MakeCredentialResponse × σ :=
  match a.verification request.asksVerification
    (.makeCredential { request with exclude := none }) s with
  | (.error e, s) => (.error e, s)
  | (.ok (), s) =>
      if a.found request.relyingParty.id request.asksVerification
          (request.exclude.getD []) = [] then
        a.create { request with exclude := none } request.asksVerification s
      else a.exclusion s

/-! ## §3. What an answer tells about the list. -/

variable {a}

/-- An assertion for a list, by one of its credentials that `verified`
requests see. -/
structure Asserts (a : Authenticator σ T) (rp : String) (verified : Bool)
    (list : List Ctap2PublicKeyCredentialDescriptor) (response : Ctap2GetAssertionResponse) :
    Prop where
  rpIdHash : response.authenticatorData.rpIdHash = a.sha256 (utf8 rp)
  count : response.credentialsCount = none
  signed : ∃ credential ∈ a.found rp verified list, a.signedBy response credential.id

theorem applicable_listed {request : Ctap2GetAssertionRequest} (hlist : request.allow ≠ [])
    (verified : Bool) : a.applicable request verified
      = (a.found request.relyingPartyId verified request.allow).map (·.id) := by
  unfold applicable
  rw [if_neg]
  rw [List.isEmpty_iff]
  exact hlist

theorem applicable_eq_nil_iff {request : Ctap2GetAssertionRequest} (hlist : request.allow ≠ [])
    (verified : Bool) : a.applicable request verified = []
      ↔ a.found request.relyingPartyId verified request.allow = [] := by
  rw [applicable_listed hlist, List.map_eq_nil_iff]

theorem asserts_sign {request : Ctap2GetAssertionRequest} (hlist : request.allow ≠ [])
    {verified : Bool} (hfound : a.found request.relyingPartyId verified request.allow ≠ [])
    (s : σ) :
    a.Asserts request.relyingPartyId verified request.allow
      (a.sign request (a.applicable request verified) verified s).1 := by
  refine ⟨a.sign_rpIdHash _ _ _ _, a.sign_count _ _ _ _ hlist, ?_⟩
  rw [applicable_listed hlist]
  obtain ⟨id, hid, hsigned, -⟩ := a.sign_names request
    ((a.found request.relyingPartyId verified request.allow).map (·.id)) verified s
    (fun hnil => hfound (List.map_eq_nil_iff.mp hnil))
  obtain ⟨credential, hcredential, rfl⟩ := List.mem_map.mp hid
  exact ⟨credential, hcredential, hsigned⟩

/-- A credential that is found: it signs, if the user consents. -/
theorem assertion_cases {request : Ctap2GetAssertionRequest} (hlist : request.allow ≠ [])
    {verified : Bool} (hfound : a.found request.relyingPartyId verified request.allow ≠ [])
    (s : σ) :
    (∃ e, (a.presence request.asksPresence s).1 = .error e
        ∧ a.assertion request verified s = (.error e, (a.presence request.asksPresence s).2))
      ∨ ((a.presence request.asksPresence s).1 = .ok ()
        ∧ ∃ response s', a.assertion request verified s = (.ok response, s')
          ∧ a.Asserts request.relyingPartyId verified request.allow response) := by
  unfold assertion
  rcases a.presence request.asksPresence s with ⟨result, s'⟩
  cases result with
  | error e => exact Or.inl ⟨e, rfl, rfl⟩
  | ok u => exact Or.inr ⟨rfl, _, _, rfl, asserts_sign hlist hfound s'⟩

theorem presence_error {asked : Bool} {s : σ} {e : WebAuthnError T}
    (h : (a.presence asked s).1 = .error e) : e.ofList = false := by
  unfold presence at h
  split at h
  · exact a.consent_status s e h
  · cases h

theorem verification_error {asked : Bool} {command : VerifiedCommand} {s s' : σ}
    {e : WebAuthnError T} (h : a.verification asked command s = (.error e, s')) :
    e.ofList = false := by
  unfold verification at h
  split at h
  · exact a.verify_status command s e (by rw [h])
  · cases h

/-- An answer to a listed getAssertion: verification or consent failed, which
is not the list's status, or the list decides. -/
theorem getAssertion_decided {request : Ctap2GetAssertionRequest} (hlist : request.allow ≠ [])
    (s : σ) :
    (∃ e, (a.getAssertion request s).1 = .error e ∧ e.ofList = false)
      ∨ ((a.getAssertion request s).1 = .error (.ctap .noCredentials)
        ∧ a.found request.relyingPartyId request.asksVerification request.allow = [])
      ∨ ∃ response, (a.getAssertion request s).1 = .ok response
        ∧ a.found request.relyingPartyId request.asksVerification request.allow ≠ []
        ∧ a.Asserts request.relyingPartyId request.asksVerification request.allow response := by
  unfold getAssertion
  rcases hverified : a.verification request.asksVerification
    (.getAssertion { request with allow := [] }) s with ⟨result, s₁⟩
  cases result with
  | error e => exact Or.inl ⟨e, rfl, verification_error hverified⟩
  | ok u =>
      dsimp only
      by_cases hfound :
          a.found request.relyingPartyId request.asksVerification request.allow = []
      · rw [if_pos ((applicable_eq_nil_iff hlist _).mpr hfound)]
        exact Or.inr (Or.inl ⟨rfl, hfound⟩)
      · rw [if_neg (mt (applicable_eq_nil_iff hlist _).mp hfound)]
        rcases assertion_cases hlist hfound s₁ with ⟨e, hpresence, heq⟩ |
          ⟨-, response, s', heq, hasserts⟩
        · rw [heq]
          exact Or.inl ⟨e, rfl, presence_error hpresence⟩
        · rw [heq]
          exact Or.inr (Or.inr ⟨response, rfl, hfound, hasserts⟩)

/-- An answer to a makeCredential, likewise. -/
theorem makeCredential_decided (request : Ctap2MakeCredentialRequest) (s : σ) :
    (∃ e, (a.makeCredential request s).1 = .error e ∧ e.ofList = false)
      ∨ ((a.makeCredential request s).1 = .error (.ctap .credentialExcluded)
        ∧ a.found request.relyingParty.id request.asksVerification (request.exclude.getD []) ≠ [])
      ∨ ∃ response, (a.makeCredential request s).1 = .ok response
        ∧ a.found request.relyingParty.id request.asksVerification (request.exclude.getD [])
          = [] := by
  unfold makeCredential
  rcases hverified : a.verification request.asksVerification
    (.makeCredential { request with exclude := none }) s with ⟨result, s₁⟩
  cases result with
  | error e => exact Or.inl ⟨e, rfl, verification_error hverified⟩
  | ok u =>
      dsimp only
      by_cases hfound : a.found request.relyingParty.id request.asksVerification
          (request.exclude.getD []) = []
      · rw [if_pos hfound]
        rcases hcreated : a.create { request with exclude := none } request.asksVerification s₁
          with ⟨created, s₂⟩
        cases created with
        | ok response => exact Or.inr (Or.inr ⟨response, rfl, hfound⟩)
        | error e => exact Or.inl ⟨e, rfl, a.create_status _ _ s₁ e (by rw [hcreated])⟩
      · rw [if_neg hfound]
        unfold exclusion
        rcases hconsent : a.consent s₁ with ⟨consented, s₂⟩
        cases consented with
        | ok u => exact Or.inr (Or.inl ⟨rfl, hfound⟩)
        | error e => exact Or.inl ⟨e, rfl, a.consent_status s₁ e (by rw [hconsent])⟩

/-! ## §4. Two lists. -/

/-- Requests that find something, and differ in their lists only: the same
steps, up to which credential signs. -/
theorem getAssertion_alike {request request' : Ctap2GetAssertionRequest}
    (hsame : request' = { request with allow := request'.allow }) (s : σ)
    (hfound : ∀ verified, a.found request.relyingPartyId verified request.allow ≠ [])
    (hfound' : ∀ verified, a.found request'.relyingPartyId verified request'.allow ≠ []) :
    Proc.Tried Eq (fun response _ response' _ =>
        a.Asserts request.relyingPartyId request.asksVerification request.allow response
          ∧ a.Asserts request'.relyingPartyId request'.asksVerification request'.allow response')
      (a.getAssertion request s).1 (a.getAssertion request s).2
      (a.getAssertion request' s).1 (a.getAssertion request' s).2 := by
  have hlist : request.allow ≠ [] := by
    intro hnil
    exact hfound true (by rw [hnil]; rfl)
  have hlist' : request'.allow ≠ [] := by
    intro hnil
    exact hfound' true (by rw [hnil]; rfl)
  have hasks : request'.asksVerification = request.asksVerification :=
    (congrArg Ctap2GetAssertionRequest.asksVerification hsame :)
  have hasksPresence : request'.asksPresence = request.asksPresence :=
    (congrArg Ctap2GetAssertionRequest.asksPresence hsame :)
  have hcommand : { request' with allow := [] } = { request with allow := [] } :=
    congrArg (fun r : Ctap2GetAssertionRequest => { r with allow := [] }) hsame
  unfold getAssertion
  rw [hcommand, hasks]
  rcases a.verification request.asksVerification (.getAssertion { request with allow := [] }) s
    with ⟨result, s₁⟩
  cases result with
  | error e => exact .error e rfl
  | ok u =>
      dsimp only
      rw [if_neg (mt (applicable_eq_nil_iff hlist _).mp (hfound _)),
        if_neg (mt (applicable_eq_nil_iff hlist' _).mp (hfound' _))]
      -- both ask for the same consent
      have hcases := assertion_cases hlist (hfound request.asksVerification) s₁
      have hcases' := assertion_cases hlist' (hfound' request.asksVerification) s₁
      rw [hasksPresence] at hcases'
      rcases hcases with ⟨e, hpresence, heq⟩ | ⟨hpresence, response, t, heq, hasserts⟩
      · rcases hcases' with ⟨e', hpresence', heq'⟩ | ⟨hpresence', -⟩
        · obtain rfl := Except.error.inj (hpresence.symm.trans hpresence')
          rw [heq, heq']
          exact .error e rfl
        · cases hpresence.symm.trans hpresence'
      · rcases hcases' with ⟨e', hpresence', -⟩ | ⟨-, response', t', heq', hasserts'⟩
        · cases hpresence.symm.trans hpresence'
        · rw [heq, heq']
          exact .ok ⟨hasserts, hasserts'⟩

/-- Lists in which a makeCredential finds something, or in which it finds
nothing, come to the same. -/
theorem makeCredential_same {request request' : Ctap2MakeCredentialRequest}
    (hsame : request' = { request with exclude := request'.exclude })
    (h : ∀ verified, a.found request.relyingParty.id verified (request.exclude.getD []) = []
      ↔ a.found request'.relyingParty.id verified (request'.exclude.getD []) = []) (s : σ) :
    a.makeCredential request' s = a.makeCredential request s := by
  have hasks : request'.asksVerification = request.asksVerification :=
    (congrArg Ctap2MakeCredentialRequest.asksVerification hsame :)
  have hcommand : { request' with exclude := none } = { request with exclude := none } :=
    congrArg (fun r : Ctap2MakeCredentialRequest => { r with exclude := none }) hsame
  unfold makeCredential
  rw [hcommand, hasks]
  rcases a.verification request.asksVerification
    (.makeCredential { request with exclude := none }) s with ⟨result, s₁⟩
  cases result with
  | error e => rfl
  | ok u =>
      dsimp only
      by_cases hfound : a.found request.relyingParty.id request.asksVerification
          (request.exclude.getD []) = []
      · rw [if_pos hfound, if_pos ((h _).mp hfound)]
      · rw [if_neg hfound, if_neg (mt (h _).mpr hfound)]

end Authenticator

/-- A platform with such an authenticator, which has no credential with a
longer id than it says. -/
structure Platform.Conforms (p : Platform σ T) (a : Authenticator σ T) : Prop where
  sha256 : a.sha256 = p.crypto.sha256
  getAssertion : p.getAssertion = a.getAssertion
  makeCredential : p.makeCredential = a.makeCredential
  fits : ∀ {s info id}, (p.getInfo s).1 = .ok info → (a.credentials id).isSome = true →
    info.maxCredentialIdLength.all fun maxLen => decide (id.length ≤ maxLen)

/-! ## §5. The preflight. -/

/-- What of an entry is on the wire. -/
def Ctap2PublicKeyCredentialDescriptor.denoted (self : Ctap2PublicKeyCredentialDescriptor) :
    Bytes × Ctap2PublicKeyCredentialType :=
  (self.id, self.type)

namespace Authenticator

variable (a : Authenticator σ T)

/-- A probe finds the credential or not, and leaves no trace. -/
theorem getAssertion_probe (credential : Ctap2PublicKeyCredentialDescriptor) (hash : Bytes)
    (rp : String) (s : σ) :
    (a.found rp false [credential] = []
        ∧ a.getAssertion (Platform.preflightRequest credential hash rp) s
          = (.error (.ctap .noCredentials), s))
      ∨ (a.found rp false [credential] = [credential]
        ∧ ∃ response, a.getAssertion (Platform.preflightRequest credential hash rp) s
            = (.ok response, s) ∧ (response.probed credential).denoted = credential.denoted) := by
  have hlist : (Platform.preflightRequest credential hash rp).allow ≠ [] := List.cons_ne_nil _ _
  -- nothing of the user is asked for
  have hanswer : a.getAssertion (Platform.preflightRequest credential hash rp) s
      = if a.applicable (Platform.preflightRequest credential hash rp) false = [] then
          (.error (.ctap .noCredentials), s)
        else (.ok (a.sign (Platform.preflightRequest credential hash rp)
          (a.applicable (Platform.preflightRequest credential hash rp) false) false s).1, s) := rfl
  rw [hanswer]
  by_cases hshown : a.sees rp false credential = true
  · have hfound : a.found rp false [credential] = [credential] := by
      unfold found
      rw [List.filter_cons_of_pos hshown, List.filter_nil]
    have happlicable : a.applicable (Platform.preflightRequest credential hash rp) false
        = [credential.id] := by
      rw [applicable_listed hlist]
      show (a.found rp false [credential]).map (·.id) = _
      rw [hfound]
      rfl
    rw [happlicable, if_neg (List.cons_ne_nil _ _)]
    refine Or.inr ⟨hfound, _, rfl, ?_⟩
    obtain ⟨id, hid, -, hnames⟩ := a.sign_names (Platform.preflightRequest credential hash rp)
      [credential.id] false s (List.cons_ne_nil _ _)
    obtain rfl := List.mem_singleton.mp hid
    have htype : credential.type = .publicKey :=
      eq_of_beq (Bool.and_eq_true_iff.mp hshown).1
    unfold Ctap2GetAssertionResponse.probed
    rcases hnames with hnamed | ⟨hunnamed, -⟩
    · rw [hnamed]
      show (credential.id, Ctap2PublicKeyCredentialType.publicKey) = credential.denoted
      rw [← htype]
      rfl
    · rw [hunnamed, a.sign_attested]
      rfl
  · have hfound : a.found rp false [credential] = [] := by
      unfold found
      rw [List.filter_cons_of_neg hshown, List.filter_nil]
    exact Or.inl ⟨hfound, if_pos ((applicable_eq_nil_iff hlist _).mpr hfound)⟩

end Authenticator

namespace Platform

variable {p : Platform σ T} {a : Authenticator σ T}

/-- A test for one credential. -/
theorem preflightOne_found (h : p.Conforms a) (credential : Ctap2PublicKeyCredentialDescriptor)
    (hash : Bytes) (rp : String) (w : World σ T) :
    ∃ kept w', p.preflightOne credential hash rp w = (.ok kept, w') ∧ w.Abreast w'
      ∧ kept.toList.map (·.denoted) = (a.found rp false [credential]).map (·.denoted) := by
  have hattempt : (Proc.attempt (p.ctap2GetAssertion (preflightRequest credential hash rp)) :
      Ctap σ T _) w = _ :=
    Ctap.attempt_command (p.getAssertion (preflightRequest credential hash rp))
      (.getAssertion (preflightRequest credential hash rp)) w
  unfold preflightOne
  rw [Proc.bind_of_ok hattempt, h.getAssertion]
  rcases a.getAssertion_probe credential hash rp w.env with ⟨hfound, hanswer⟩ |
    ⟨hfound, response, hanswer, hdenoted⟩
  · rw [hanswer, hfound]
    exact ⟨none, _, rfl, ⟨rfl, rfl, rfl⟩, rfl⟩
  · rw [hanswer, hfound]
    refine ⟨some (response.probed credential), _, rfl, ⟨rfl, rfl, rfl⟩, ?_⟩
    show [(response.probed credential).denoted] = [credential.denoted]
    rw [hdenoted]

/-- **What the preflight keeps**: the entries that a request without user
verification sees. -/
theorem ctap2Preflight_found (h : p.Conforms a) (hash : Bytes) (rp : String)
    (list : List Ctap2PublicKeyCredentialDescriptor) :
    ∀ w : World σ T, ∃ kept w', p.ctap2PreflightWithAppid list hash rp none w = (.ok kept, w')
      ∧ w.Abreast w' ∧ kept.map (·.denoted) = (a.found rp false list).map (·.denoted) := by
  induction list with
  | nil => exact fun w => ⟨[], w, rfl, ⟨rfl, rfl, rfl⟩, rfl⟩
  | cons credential list ih =>
      intro w
      obtain ⟨first, w₁, hfirst, hw₁, hkept⟩ := preflightOne_found h credential hash rp w
      obtain ⟨rest, w₂, hrest, hw₂, hkept'⟩ := ih w₁
      have hcredential : p.preflightCredential credential hash rp none w = (.ok first, w₁) := by
        unfold preflightCredential
        rw [Proc.bind_of_ok hfirst]
        cases first with
        | none => rfl
        | some matched => rfl
      refine ⟨first.toList ++ rest, w₂, ?_, hw₁.trans hw₂, ?_⟩
      · unfold ctap2PreflightWithAppid
        rw [Proc.bind_of_ok hcredential, Proc.bind_of_ok hrest]
        rfl
      · rw [List.map_append, hkept, hkept', ← List.map_append]
        unfold Authenticator.found
        rw [← List.filter_append]
        rfl

end Platform

/-! ## §6. What the lists come to. -/

namespace Authenticator

variable (a : Authenticator σ T)

/-- The credentials that an authenticator shows. -/
def shown : CredentialsShown := fun verified rpIdHash id =>
  ∃ stored, a.credentials id = some stored ∧ stored.rpIdHash = rpIdHash
    ∧ stored.visible verified = true

theorem sees_iff_takes (rp : String) (verified : Bool)
    (credential : Ctap2PublicKeyCredentialDescriptor) : a.sees rp verified credential = true
      ↔ a.shown.takes verified (a.sha256 (utf8 rp)) credential := by
  unfold sees shows shown CredentialsShown.takes
  simp only [Bool.and_eq_true, beq_iff_eq, Option.any_eq_true]

/-- A list in which something is found. -/
theorem found_ne_nil_iff (rp : String) (verified : Bool)
    (list : List Ctap2PublicKeyCredentialDescriptor) : a.found rp verified list ≠ []
      ↔ ∃ credential ∈ list, a.shown.takes verified (a.sha256 (utf8 rp)) credential := by
  unfold found
  simp only [ne_eq, List.filter_eq_nil_iff, a.sees_iff_takes, not_forall, not_not, exists_prop]

end Authenticator

/-- An authenticator that follows the rules answers by the credentials that it
shows, so that what is said of such devices holds of it. -/
theorem Platform.Conforms.holdsCredentials {p : Platform σ T} {a : Authenticator σ T}
    (h : p.Conforms a) :
    p.HoldsCredentials a.shown Ctap2MakeCredentialRequest.asksVerification where
  found {credential hash rp env response} hanswer := by
    rw [h.getAssertion] at hanswer
    rcases a.getAssertion_probe credential hash rp env with ⟨-, hprobe⟩ |
      ⟨hfound, probed, hprobe, hdenoted⟩
    · rw [hprobe] at hanswer
      cases hanswer
    · rw [hprobe] at hanswer
      obtain rfl := Except.ok.inj hanswer
      obtain ⟨hid, htype⟩ := Prod.mk.inj hdenoted
      have hsome : a.found rp false [credential] ≠ [] := by
        rw [hfound]
        exact List.cons_ne_nil _ _
      obtain ⟨only, honly, htakes⟩ := (a.found_ne_nil_iff rp false [credential]).mp hsome
      rw [List.mem_singleton.mp honly, h.sha256] at htakes
      exact ⟨htakes, hid, htype⟩
  missing {credential hash rp env} hanswer := by
    rw [h.getAssertion] at hanswer
    rcases a.getAssertion_probe credential hash rp env with ⟨hfound, -⟩ | ⟨-, probed, hprobe, -⟩
    · intro htakes
      rw [← h.sha256] at htakes
      exact (a.found_ne_nil_iff rp false [credential]).mpr
        ⟨credential, List.mem_singleton.mpr rfl, htakes⟩ hfound
    · rw [hprobe] at hanswer
      cases hanswer
  excluded {request env} hanswer := by
    rw [h.makeCredential] at hanswer
    rw [← h.sha256, ← a.found_ne_nil_iff]
    rcases a.makeCredential_decided request env with ⟨e, herror, hother⟩ | ⟨-, hfound⟩ |
      ⟨response, hok, -⟩
    · rw [herror] at hanswer
      rw [Except.error.inj hanswer] at hother
      cases hother
    · exact hfound
    · rw [hok] at hanswer
      cases hanswer
  created {request env response} hanswer := by
    rw [h.makeCredential] at hanswer
    rw [← h.sha256, ← a.found_ne_nil_iff, not_not]
    rcases a.makeCredential_decided request env with ⟨e, herror, -⟩ | ⟨herror, -⟩ |
      ⟨created, -, hfound⟩
    · rw [herror] at hanswer
      cases hanswer
    · rw [herror] at hanswer
      cases hanswer
    · exact hfound

end Libwebauthn
