/-
  Libwebauthn.Webauthn.PrfSalts — whose PRF salts are sent
  (`prf_to_hmac_input` and `calculate_hmac` of
  `src/proto/ctap2/model/get_assertion.rs`).

  Where the device has no PRF extension of its own, the salts are chosen
  before it has answered: those of the first entry of the map that names a
  credential of the caller's list, or else those of `eval`.  What
  `evalByCredential` has for the credential that answers may be other salts.
-/
import Libwebauthn.Webauthn.HmacEnvelope
import Libwebauthn.Transport.Mock

namespace Libwebauthn

open Platform

variable {σ T : Type}

/-! ## §1. The value for a credential, and the one that is chosen. -/

namespace PrfInput

variable (crypto : Crypto) (self : PrfInput)

/-- `evalByCredential[base64url(c.id)]` if that entry exists, and otherwise
`eval`. -/
def valueFor (credential : Ctap2PublicKeyCredentialDescriptor) : Option PrfInputValue :=
  ((self.evalByCredential.find? fun entry =>
    entry.1 == crypto.base64UrlEncode credential.id).map (·.2)).or self.eval

/-- The first entry, in iteration order, whose key decodes to the id of a
listed credential, and `eval` where there is none. -/
def chosenValue (allow : List Ctap2PublicKeyCredentialDescriptor) : Option PrfInputValue :=
  ((self.evalByCredential.find? fun entry =>
    (crypto.base64UrlDecode entry.1).any fun id => allow.any fun listed => listed.id == id).map
      (·.2)).or self.eval

end PrfInput

/-- The bytes that are sealed for a value. -/
def PrfInputValue.salts (crypto : Crypto) (self : PrfInputValue) : Bytes :=
  (self.toHmacSecretInput crypto).salts

/-- The first of the elements that count has a value exactly when every
element of another value is behind one of this value. -/
theorem find?_map_eq_some_iff {α β : Type} (counts : α → Bool) (f : α → β) (b : β)
    (xs : List α) :
    (xs.find? counts).map f = some b
      ↔ (∃ x ∈ xs, counts x = true)
        ∧ ∀ before x after, xs = before ++ x :: after → counts x = true → f x ≠ b →
            ∃ y ∈ before, counts y = true ∧ f y = b := by
  constructor
  · intro h
    obtain ⟨x, hfind, rfl⟩ := Option.map_eq_some_iff.mp h
    obtain ⟨hcounts, front, rest, rfl, hfront⟩ := List.find?_eq_some_iff_append.mp hfind
    refine ⟨⟨x, List.mem_append_right _ List.mem_cons_self, hcounts⟩, ?_⟩
    intro before y after hsplit hy hne
    -- `x` comes first, so that `y` is behind it
    rcases List.append_eq_append_iff.mp hsplit with ⟨mid, rfl, hmid⟩ | ⟨mid, rfl, hmid⟩
    · cases mid with
      | nil => exact absurd (congrArg f (List.cons.inj hmid).1.symm) hne
      | cons z mid =>
          obtain rfl := (List.cons.inj hmid).1
          exact ⟨_, List.mem_append_right _ List.mem_cons_self, hcounts, rfl⟩
    · cases mid with
      | nil => exact absurd (congrArg f (List.cons.inj hmid).1) hne
      | cons z mid =>
          obtain rfl := (List.cons.inj hmid).1
          have hz := hfront y (List.mem_append_right _ List.mem_cons_self)
          rw [hy] at hz
          cases hz
  · rintro ⟨⟨x, hmem, hx⟩, hbehind⟩
    obtain ⟨y, hfind⟩ := Option.isSome_iff_exists.mp (List.find?_isSome.mpr ⟨x, hmem, hx⟩)
    obtain ⟨hy, front, rest, rfl, hfront⟩ := List.find?_eq_some_iff_append.mp hfind
    rw [hfind, Option.map_some]
    by_contra hne
    obtain ⟨z, hz, hcounts, -⟩ :=
      hbehind front y rest rfl hy fun heq => hne (congrArg some heq)
    have hnot := hfront z hz
    rw [hcounts] at hnot
    cases hnot

namespace PrfInput

variable (crypto : Crypto) (self : PrfInput)

/-- The entry is that of a listed credential: its key decodes to the id of
one. -/
def names (allow : List Ctap2PublicKeyCredentialDescriptor) (entry : String × PrfInputValue) :
    Bool :=
  (crypto.base64UrlDecode entry.1).any fun id => allow.any fun listed => listed.id == id

/-- The salts that the map has for a credential. -/
def saltsFor (credential : Ctap2PublicKeyCredentialDescriptor) : Option Bytes :=
  (self.valueFor crypto credential).map (·.salts crypto)

end PrfInput

/-- The map, in the order it is met, does not mislead about `credential`: an
entry of a listed credential that has other salts is met only behind one that
has the same; and where no listed credential has an entry, one under the key of
`credential` itself has the salts of `eval`. -/
structure PrfInput.SaltsBelong (crypto : Crypto) (prf : PrfInput)
    (allow : List Ctap2PublicKeyCredentialDescriptor)
    (credential : Ctap2PublicKeyCredentialDescriptor) : Prop where
  behind : ∀ before entry after, prf.evalByCredential = before ++ entry :: after →
    PrfInput.names crypto allow entry = true →
    some (entry.2.salts crypto) ≠ prf.saltsFor crypto credential →
      ∃ other ∈ before, PrfInput.names crypto allow other = true
        ∧ some (other.2.salts crypto) = prf.saltsFor crypto credential
  unlisted : (∀ entry ∈ prf.evalByCredential, PrfInput.names crypto allow entry = false) →
    ∀ entry, prf.evalByCredential.find?
        (fun entry => entry.1 == crypto.base64UrlEncode credential.id) = some entry →
      prf.eval.map (·.salts crypto) = some (entry.2.salts crypto)

namespace PrfInput

variable {crypto : Crypto} {self : PrfInput}

/-- **When the salts that are chosen are those of a credential.** -/
theorem saltsBelong_iff {allow : List Ctap2PublicKeyCredentialDescriptor}
    {credential : Ctap2PublicKeyCredentialDescriptor} :
    (self.chosenValue crypto allow).map (·.salts crypto) = self.saltsFor crypto credential
      ↔ self.SaltsBelong crypto allow credential := by
  have hchosen : (self.chosenValue crypto allow).map (·.salts crypto)
      = ((self.evalByCredential.find? (names crypto allow)).map
          fun entry => entry.2.salts crypto).or (self.eval.map (·.salts crypto)) := by
    unfold chosenValue
    rw [Option.map_or, Option.map_map]
    rfl
  rw [hchosen]
  by_cases hnames : ∃ entry ∈ self.evalByCredential, names crypto allow entry = true
  · -- the first entry of a listed credential decides
    obtain ⟨first, hfind⟩ := Option.isSome_iff_exists.mp (List.find?_isSome.mpr hnames)
    have hfirst := find?_map_eq_some_iff (names crypto allow)
      (fun entry => some (entry.2.salts crypto)) (self.saltsFor crypto credential)
      self.evalByCredential
    rw [hfind, Option.map_some, Option.some.injEq] at hfirst
    rw [hfind, Option.map_some, Option.some_or, hfirst]
    constructor
    · rintro ⟨-, hbehind⟩
      refine ⟨hbehind, fun hnone => ?_⟩
      obtain ⟨entry, hmem, hnamed⟩ := hnames
      rw [hnone entry hmem] at hnamed
      cases hnamed
    · exact fun h => ⟨hnames, h.behind⟩
  · -- `eval` decides
    have hnone : ∀ entry ∈ self.evalByCredential, names crypto allow entry = false :=
      fun entry hmem => Bool.eq_false_iff.mpr fun h => hnames ⟨entry, hmem, h⟩
    have hfind : self.evalByCredential.find? (names crypto allow) = none :=
      List.find?_eq_none.mpr fun entry hmem h => hnames ⟨entry, hmem, h⟩
    have hbehind : ∀ before entry after, self.evalByCredential = before ++ entry :: after →
        names crypto allow entry = true →
        some (entry.2.salts crypto) ≠ self.saltsFor crypto credential →
          ∃ other ∈ before, names crypto allow other = true
            ∧ some (other.2.salts crypto) = self.saltsFor crypto credential := by
      rintro before entry after hsplit hnamed -
      exact absurd ⟨entry, hsplit ▸ List.mem_append_right _ List.mem_cons_self, hnamed⟩ hnames
    rw [hfind, Option.map_none, Option.none_or]
    rcases hown : self.evalByCredential.find? (fun entry =>
        entry.1 == crypto.base64UrlEncode credential.id) with _ | own
    · have hsalts : self.saltsFor crypto credential = self.eval.map (·.salts crypto) := by
        unfold saltsFor valueFor
        rw [hown]
        rfl
      refine ⟨fun _ => ⟨hbehind, fun _ entry hentry => ?_⟩, fun _ => hsalts.symm⟩
      rw [hown] at hentry
      cases hentry
    · have hsalts : self.saltsFor crypto credential = some (own.2.salts crypto) := by
        unfold saltsFor valueFor
        rw [hown]
        rfl
      rw [hsalts]
      refine ⟨fun h => ⟨hbehind, fun _ entry hentry => ?_⟩, fun h => h.unlisted hnone own hown⟩
      rw [← Option.some.inj (hown.symm.trans hentry)]
      exact h

end PrfInput

/-- A search that succeeds has met only keys that decode. -/
theorem Ctap2GetAssertionRequestExtensions.findPrfEntry_ok {crypto : Crypto}
    {allow : List Ctap2PublicKeyCredentialDescriptor} {entries : List (String × PrfInputValue)}
    {found : Option PrfInputValue} (h : findPrfEntry crypto allow entries = .ok found) :
    found = (entries.find? fun entry =>
      (crypto.base64UrlDecode entry.1).any fun id =>
        allow.any fun listed => listed.id == id).map (·.2) := by
  -- by induction on the entries; one that does not decode is an error before any hit
  induction entries with
  | nil => exact (Except.ok.inj h).symm
  | cons entry entries ih =>
      obtain ⟨key, value⟩ := entry
      unfold findPrfEntry at h
      by_cases hempty : key = ""
      · rw [if_pos hempty] at h
        cases h
      rw [if_neg hempty] at h
      rcases hdecode : crypto.base64UrlDecode key with _ | id
      · rw [hdecode] at h
        cases h
      rw [hdecode] at h
      dsimp only at h
      rw [List.find?_cons]
      simp only [hdecode, Option.any_some]
      by_cases hlisted : (allow.find? fun x => x.id == id).isSome = true
      · rw [if_pos hlisted] at h
        rw [List.any_eq_true.mpr (List.find?_isSome.mp hlisted), ← Except.ok.inj h]
        rfl
      · rw [if_neg hlisted] at h
        have hnone : (allow.any fun listed => listed.id == id) = false :=
          Bool.eq_false_iff.mpr fun hany =>
            hlisted (List.find?_isSome.mpr (List.any_eq_true.mp hany))
        rw [hnone]
        exact ih h

theorem Ctap2GetAssertionRequestExtensions.hmacInput_prf {crypto : Crypto}
    {allow : List Ctap2PublicKeyCredentialDescriptor}
    {ext : Ctap2GetAssertionRequestExtensions} {prf : PrfInput}
    (hprf : ext.hmacOrPrf = some (.prf prf)) {input : Option HMACGetSecretInput}
    (h : ext.hmacInput crypto allow = .ok input) :
    input = (prf.chosenValue crypto allow).map (PrfInputValue.toHmacSecretInput crypto) := by
  unfold hmacInput at h
  rw [hprf] at h
  dsimp only at h
  unfold prfToHmacInput at h
  split at h
  · cases h
  obtain ⟨found, hfound, h⟩ := except_bind_eq_ok_iff.mp h
  have hchosen : prf.chosenValue crypto allow = found.or prf.eval := by
    rw [findPrfEntry_ok hfound]
    rfl
  rw [← Except.ok.inj h, hchosen]
  cases found <;> rfl

/-! ## §2. The salts that are sent. -/

/-- AES-CBC without padding: whole blocks are encrypted to whole blocks, and
decryption gets them back. -/
def Crypto.CbcInverts (crypto : Crypto) : Prop :=
  ∀ {key iv plaintext ciphertext}, plaintext.length % 16 = 0 →
    crypto.aes256CbcEncrypt key iv plaintext = some ciphertext →
      ciphertext.length % 16 = 0 ∧ crypto.aes256CbcDecrypt key iv ciphertext = some plaintext

theorem Ctap2PinUvAuthProtocol.decrypt_encrypt {crypto : Crypto} (hcbc : crypto.CbcInverts)
    {version : Ctap2PinUvAuthProtocol} {iv key plaintext ciphertext : Bytes}
    (hiv : iv.length = 16) (hblocks : plaintext.length % 16 = 0)
    (h : version.encrypt crypto iv key plaintext = .ok ciphertext) :
    version.decrypt crypto key ciphertext = .ok plaintext := by
  cases version with
  | one =>
      unfold encrypt at h
      dsimp only at h
      split at h
      next sealed hsealed =>
        obtain rfl := Except.ok.inj h
        obtain ⟨hlength, hdecrypt⟩ := hcbc hblocks hsealed
        unfold decrypt
        dsimp only
        rw [if_neg (by omega), hdecrypt]
      next => cases h
  -- the iv in front of the ciphertext is taken off again
  | two =>
      unfold encrypt at h
      dsimp only at h
      by_cases hkey : key.length < 32
      · rw [if_pos hkey] at h
        cases h
      rw [if_neg hkey] at h
      split at h
      next sealed hsealed =>
        obtain rfl := Except.ok.inj h
        obtain ⟨hlength, hdecrypt⟩ := hcbc hblocks hsealed
        unfold decrypt
        dsimp only
        rw [if_neg hkey, List.length_append, if_neg (by omega), List.take_left' hiv,
          List.drop_left' hiv, hdecrypt]
      next => cases h

/-- The device finds the salts that were sealed. -/
theorem decrypt_sealSalts {crypto : Crypto} (hcbc : crypto.CbcInverts) {iv : Bytes}
    {data : AuthTokenData} {input : HMACGetSecretInput} {envelope : CalculatedHMACGetSecretInput}
    (hiv : iv.length = 16) (hblocks : input.salts.length % 16 = 0)
    (h : sealSalts crypto iv data input = .ok (some envelope)) :
    data.protocolVersion.decrypt crypto data.sharedSecret envelope.saltEnc = .ok input.salts := by
  unfold sealSalts at h
  split at h
  · cases Except.ok.inj h
  next saltEnc hsaltEnc =>
    obtain ⟨saltAuth, -, h⟩ := except_bind_eq_ok_iff.mp h
    rw [← Option.some.inj (Except.ok.inj h)]
    exact Ctap2PinUvAuthProtocol.decrypt_encrypt hcbc hiv hblocks hsaltEnc

/-- The salts of a sent request, as the device decrypts them. -/
def Attempt.saltsSent (crypto : Crypto) (data : AuthTokenData)
    (a : Attempt T Ctap2GetAssertionRequest Ctap2GetAssertionResponse) :
    Option (Except PlatformError Bytes) :=
  a.sent.envelope.map fun envelope =>
    data.protocolVersion.decrypt crypto data.sharedSecret envelope.saltEnc

/-- The hmac-secret path of an attempt: the PRF input has not been turned
into the device's own extension, and the channel has a secret that seals. -/
structure UsesHmacSecret (crypto : Crypto) (data : AuthTokenData)
    (a : Attempt T Ctap2GetAssertionRequest Ctap2GetAssertionResponse) : Prop where
  input : a.sent.hmacRequested = true
  authData : a.authData = some data
  canSeal : data.CanSeal crypto

/-- The device answered by `credential`: it says so, or does not have to. -/
def Ctap2GetAssertionResponse.AnsweredBy (sent : Ctap2GetAssertionRequest)
    (credential : Ctap2PublicKeyCredentialDescriptor) (response : Ctap2GetAssertionResponse) :
    Prop :=
  response.credentialId = some credential
    ∨ (response.credentialId = none ∧ sent.allow = [credential])

/-- The PRF input of a request is the operation's. -/
def Ctap2GetAssertionRequest.PrfOf (op : GetAssertionRequest)
    (request : Ctap2GetAssertionRequest) : Prop :=
  ∀ ext input, request.extensions = some ext → ext.hmacOrPrf = some input →
    ∃ prf, input = .prf prf ∧ op.extensions.bind (·.prf) = some prf

theorem Ctap2GetAssertionRequest.PrfOf.of_extensions {op : GetAssertionRequest}
    {request request' : Ctap2GetAssertionRequest} (h : request.PrfOf op)
    (hext : request'.extensions = request.extensions) : request'.PrfOf op :=
  fun ext input hsome => h ext input (hext ▸ hsome)

theorem Ctap2GetAssertionRequest.prfOf_toCtap2 (crypto : Crypto) {op op' : GetAssertionRequest}
    (hprf : op'.extensions.bind (·.prf) = op.extensions.bind (·.prf)) :
    (op'.toCtap2 crypto).PrfOf op := by
  intro ext input hext hinput
  obtain ⟨ext₀, hext₀, rfl⟩ := Option.map_eq_some_iff.mp hext
  obtain ⟨prf, hsome, rfl⟩ := Option.map_eq_some_iff.mp hinput
  refine ⟨prf, rfl, ?_⟩
  rw [← hprf, hext₀]
  exact hsome

/-- The conversion to the device's own extension takes the PRF input away. -/
theorem Ctap2GetAssertionRequestExtensions.hmacOrPrf_convertPrfToNative {crypto : Crypto}
    {allow : List Ctap2PublicKeyCredentialDescriptor}
    {ext ext' : Ctap2GetAssertionRequestExtensions}
    (hconvert : ext.convertPrfToNative crypto allow = .ok ext') :
    ext'.hmacOrPrf = none ∨ ext' = ext := by
  unfold convertPrfToNative at hconvert
  split at hconvert
  · split at hconvert
    · cases hconvert
    · obtain ⟨entries, -, hconvert⟩ := except_bind_eq_ok_iff.mp hconvert
      rw [← Except.ok.inj hconvert]
      exact Or.inl rfl
  · exact Or.inr (Except.ok.inj hconvert).symm

theorem Ctap2GetAssertionRequest.prfOf_of_opens {p : Platform σ T} {op : GetAssertionRequest}
    {info : Ctap2GetInfoResponse} {request : Ctap2GetAssertionRequest}
    (h : p.OpensGet op info request) : request.PrfOf op := by
  obtain ⟨request₀, allow, hrequest, rfl⟩ := h
  suffices hopened : request₀.PrfOf op from hopened.of_extensions rfl
  obtain ⟨op', hop', rfl | ⟨ext, ext', hext, hconvert, rfl⟩⟩ := fromWebauthnRequest_ok hrequest
  · exact prfOf_toCtap2 p.crypto hop'
  · intro ext'' input hsome hinput
    obtain rfl := Option.some.inj hsome
    rcases Ctap2GetAssertionRequestExtensions.hmacOrPrf_convertPrfToNative hconvert with
      hnone | rfl
    · rw [hnone] at hinput
      cases hinput
    · exact prfOf_toCtap2 p.crypto hop' _ input hext hinput

/-! ## §3. Turns and runs. -/

theorem Ctap2GetAssertionRequest.hmacInput_of_sealed (p : Platform σ T) {op : GetAssertionRequest}
    {data : AuthTokenData} {request sent : Ctap2GetAssertionRequest}
    (hsealed : (p.getAssertionCeremony op).Sealed (some data) request sent)
    {ext : Ctap2GetAssertionRequestExtensions} (hext : request.extensions = some ext) :
    ∃ input, ext.hmacInput p.crypto op.allow = .ok input := by
  obtain ⟨iv, -, hiv⟩ := hsealed
  unfold getAssertionCeremony at hiv
  dsimp only at hiv
  rw [hext] at hiv
  obtain ⟨ext', hcalc, -⟩ := except_bind_eq_ok_iff.mp hiv
  unfold Ctap2GetAssertionRequestExtensions.calculateHmac at hcalc
  obtain ⟨input, hinput, -⟩ := except_bind_eq_ok_iff.mp hcalc
  exact ⟨input, hinput⟩

/-- Sealing leaves the PRF input where it is. -/
theorem Ctap2GetAssertionRequest.hmacOrPrf_of_sealed (p : Platform σ T) {op : GetAssertionRequest}
    {authData : Option AuthTokenData} {request sent : Ctap2GetAssertionRequest}
    (hsealed : (p.getAssertionCeremony op).Sealed authData request sent) :
    sent.extensions.map (·.hmacOrPrf) = request.extensions.map (·.hmacOrPrf) := by
  rcases sealed_cases p hsealed with ⟨rfl, -⟩ | ⟨_, _, ext, _, _, -, hext, -, -, -, rfl⟩
  · rfl
  · rw [hext]
    rfl

theorem Ctap2GetAssertionRequest.PrfOf.of_hmacOrPrf {op : GetAssertionRequest}
    {request request' : Ctap2GetAssertionRequest} (h : request.PrfOf op)
    (hsame : request'.extensions.map (·.hmacOrPrf) = request.extensions.map (·.hmacOrPrf)) :
    request'.PrfOf op := by
  intro ext input hext hinput
  rw [hext] at hsame
  obtain ⟨ext', hext', hinput'⟩ := Option.map_eq_some_iff.mp hsame.symm
  exact h ext' input hext' (hinput'.trans hinput)

theorem Attempted.prfOf {p : Platform σ T} {op : GetAssertionRequest}
    {a : Attempt T Ctap2GetAssertionRequest Ctap2GetAssertionResponse}
    (h : Attempted p.crypto (p.getAssertionCeremony op) a) (hentry : a.entry.PrfOf op) :
    a.sent.PrfOf op := by
  obtain ⟨houtcome, hsealed⟩ := h
  have hprf := hentry.of_extensions (Ctap2GetAssertionRequest.extensions_of_uvOutcome houtcome)
  exact hprf.of_hmacOrPrf (Ctap2GetAssertionRequest.hmacOrPrf_of_sealed p hsealed)

/-- What a turn on the hmac-secret path sends: the salts of the value that
is chosen, and none without one. -/
theorem Attempted.saltsSent {p : Platform σ T} (hcbc : p.crypto.CbcInverts)
    {op : GetAssertionRequest} {a : Attempt T Ctap2GetAssertionRequest Ctap2GetAssertionResponse}
    (h : Attempted p.crypto (p.getAssertionCeremony op) a)
    (hentry : a.entry.Resealable p.crypto op.allow) (hprfOf : a.entry.PrfOf op) {prf : PrfInput}
    (hprf : op.extensions.bind (·.prf) = some prf) {data : AuthTokenData}
    (huses : UsesHmacSecret p.crypto data a) :
    a.saltsSent p.crypto data
      = (prf.chosenValue p.crypto op.allow).map fun value => .ok (value.salts p.crypto) := by
  obtain ⟨hrequested, hdata, hcan⟩ := huses
  obtain @⟨info, verified, houtcome, hsealed, -⟩ := h
  rw [hdata] at hsealed
  have hsame := Ctap2GetAssertionRequest.extensions_of_uvOutcome houtcome
  have hverified := hentry.of_extensions hsame
  -- the extension of the turn, which has the operation's PRF input
  obtain ⟨ext, hext, hinput⟩ : ∃ ext, verified.extensions = some ext
      ∧ ext.hmacOrPrf = some (.prf prf) := by
    have hkept := Ctap2GetAssertionRequest.hmacOrPrf_of_sealed p hsealed
    unfold Ctap2GetAssertionRequest.hmacRequested at hrequested
    rcases hsent : a.sent.extensions with _ | sentExt
    · rw [hsent] at hrequested
      cases hrequested
    rw [hsent] at hrequested hkept
    obtain ⟨ext, hext, hext'⟩ := Option.map_eq_some_iff.mp hkept.symm
    obtain ⟨input, hsome⟩ := Option.isSome_iff_exists.mp hrequested
    obtain ⟨prf', rfl, hprf'⟩ := hprfOf.of_extensions hsame ext input hext (hext'.trans hsome)
    rw [hprf] at hprf'
    obtain rfl := Option.some.inj hprf'
    exact ⟨ext, hext, hext'.trans hsome⟩
  obtain ⟨input, hok⟩ := Ctap2GetAssertionRequest.hmacInput_of_sealed p hsealed hext
  have hchosen := Ctap2GetAssertionRequestExtensions.hmacInput_prf hinput hok
  have honly := fun raw => hverified.onlyPrf ext raw hext
  unfold Attempt.saltsSent
  rcases Ctap2GetAssertionRequest.sealed_cases p hsealed with
    ⟨hsent, hcannot⟩ | ⟨data', iv, ext', input', envelope, hdata', hext', hiv, hok', hseal, hsent⟩
  · have hnone : input = none := by
      cases input with
      | none => rfl
      | some input =>
          exact absurd ⟨ext, input, hext, hok,
              Ctap2GetAssertionRequestExtensions.hmacInput_length honly hok⟩
            (hcannot data rfl hcan)
    have henvelope : a.sent.envelope = none := by
      by_contra hne
      rw [hsent] at hne
      exact hcannot data rfl hcan (hverified.hasSalts hne)
    rw [hnone] at hchosen
    rw [henvelope, Option.map_eq_none_iff.mp hchosen.symm]
    rfl
  · obtain rfl := Option.some.inj hdata'
    obtain rfl := Option.some.inj (hext.symm.trans hext')
    rw [hok] at hok'
    obtain rfl := Except.ok.inj hok'
    obtain ⟨value, hvalue, rfl⟩ := Option.map_eq_some_iff.mp hchosen.symm
    rw [hsent, hvalue]
    exact congrArg some (decrypt_sealSalts hcbc hiv (value.salts_length p.crypto) hseal)

/-- **Whose salts are sent**: in a run of getAssertion that returns and whose
last request took the hmac-secret path, the salts are those of the credential
that answered, or none where it has none, exactly when the map does not mislead
about that credential. -/
theorem prfSalts_belong_iff (p : Platform σ T) (hcbc : p.crypto.CbcInverts) (fuel : Nat)
    (op : GetAssertionRequest) (env : σ) (authData : Option AuthTokenData) {out : List Assertion}
    (hok : (p.getAssertionFido2 fuel op (.start env authData)).1 = .ok out) :
    ∃ a response rest, (p.assertedAttempts fuel op (.start env authData)).getLast? = some a
      ∧ a.answer = .ok response
      ∧ (p.getAssertionFido2 fuel op (.start env authData)).2.session.log.responses
        = response :: rest
      ∧ ∀ prf data, op.extensions.bind (·.prf) = some prf → UsesHmacSecret p.crypto data a →
          ∀ r ∈ response :: rest, ∀ c, r.AnsweredBy a.sent c →
            (a.saltsSent p.crypto data = (prf.saltsFor p.crypto c).map .ok
              ↔ prf.SaltsBelong p.crypto op.allow c) := by
  obtain ⟨info, request, response, rest, as, a, hasserted⟩ :=
    p.getAssertionFido2_ok fuel op (.start env authData) rfl hok
  refine ⟨a, response, rest, hasserted.getLast?_assertedAttempts, hasserted.answer,
    hasserted.responses, ?_⟩
  intro prf data hprf huses r _ c _
  have hentry := (hasserted.retried.invariant
    (I := fun request => request.Resealable p.crypto op.allow ∧ request.PrfOf op)
    ⟨(Ctap2GetAssertionRequest.resealable_of_opens hasserted.opens).2,
      Ctap2GetAssertionRequest.prfOf_of_opens hasserted.opens⟩
    fun a hattempted hentry =>
      ⟨hattempted.resealable hentry.1, hattempted.prfOf hentry.2⟩).2
  have hsent : a.saltsSent p.crypto data
      = ((prf.chosenValue p.crypto op.allow).map (·.salts p.crypto)).map .ok := by
    rw [hasserted.attempted.saltsSent hcbc hentry.1 hentry.2 hprf huses, Option.map_map]
    rfl
  -- a decryption that succeeds tells the salts apart
  rw [hsent, (Option.map_injective fun _ _ => Except.ok.inj).eq_iff, PrfInput.saltsBelong_iff]

theorem cbcInverts_transparent : transparentCrypto.CbcInverts := by
  intro key iv plaintext ciphertext hblocks hencrypt
  have hencrypt' : (if key.length = 32 ∧ iv.length = 16 then some plaintext else none)
      = some ciphertext := hencrypt
  split at hencrypt'
  next hlengths =>
    obtain rfl := Option.some.inj hencrypt'
    exact ⟨hblocks, if_pos ⟨hlengths.1, hlengths.2, hblocks⟩⟩
  next => cases hencrypt'

/-- PRF values for both listed credentials. -/
def listingPrfOp : GetAssertionRequest :=
  { plainGetAssertionOp with
    allow := [listedCredential 1, listedCredential 2]
    extensions := some
      { credBlob := false
        prf := some ⟨none, [(transparentCrypto.base64UrlEncode [1], ⟨[10], none⟩),
          (transparentCrypto.base64UrlEncode [2], ⟨[20], none⟩)]⟩
        largeBlob := none
        appid := none } }

/-- A device that holds one of the two credentials it is asked about. -/
def holdingDevice (id : UInt8) : MockChannel :=
  let held := Except.ok (plainGetAssertionResponse (some (listedCredential id)))
  let probes := [1, 2].map fun listed =>
    if listed = id then held else Except.error (.ctap .noCredentials)
  { getInfo := [hmacSecretInfo, hmacSecretInfo]
    getAssertion := probes ++ [held] }

theorem AuthTokenData.canSeal_cachedToken : cachedToken.CanSeal transparentCrypto :=
  AuthTokenData.canSeal_transparent rfl rfl

set_option maxRecDepth 8000 in
theorem prfSalts_belong_iff_first :
    ∃ a response rest, ((mockPlatform true).assertedAttempts 3 listingPrfOp
        (.start (holdingDevice 1) (some cachedToken))).getLast? = some a
      ∧ a.answer = .ok response
      ∧ ((mockPlatform true).getAssertionFido2 3 listingPrfOp
          (.start (holdingDevice 1) (some cachedToken))).2.session.log.responses
        = response :: rest
      ∧ ∀ prf data, listingPrfOp.extensions.bind (·.prf) = some prf →
          UsesHmacSecret transparentCrypto data a →
          ∀ r ∈ response :: rest, ∀ c, r.AnsweredBy a.sent c →
            (a.saltsSent transparentCrypto data = (prf.saltsFor transparentCrypto c).map .ok
              ↔ prf.SaltsBelong transparentCrypto listingPrfOp.allow c) :=
  prfSalts_belong_iff (mockPlatform true) cbcInverts_transparent 3 listingPrfOp (holdingDevice 1)
    (some cachedToken) rfl

set_option maxRecDepth 8000 in
/-- Of two listed credentials with values of their own, the device holds the
second: that one alone is sent, with the salts of the first. -/
theorem prfSalts_not_belong :
    ∃ a response prf, ((mockPlatform true).assertedAttempts 3 listingPrfOp
        (.start (holdingDevice 2) (some cachedToken))).getLast? = some a
      ∧ a.answer = .ok response ∧ listingPrfOp.extensions.bind (·.prf) = some prf
      ∧ UsesHmacSecret transparentCrypto cachedToken a
      ∧ response.AnsweredBy a.sent (listedCredential 2)
      ∧ a.sent.allow = [listedCredential 2]
      ∧ a.saltsSent transparentCrypto cachedToken
        ≠ (prf.saltsFor transparentCrypto (listedCredential 2)).map .ok :=
  ⟨_, _, _, rfl, rfl, rfl, ⟨rfl, rfl, AuthTokenData.canSeal_cachedToken⟩, Or.inl rfl, rfl,
    by decide +kernel⟩

end Libwebauthn
