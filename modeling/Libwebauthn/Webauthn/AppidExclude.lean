/-
  Libwebauthn.Webauthn.AppidExclude — the AppID exclusion extension
  (`ctap2_preflight_with_appid` of `src/proto/ctap2/preflight.rs`, and the
  registrations of `src/webauthn.rs`).

  The preflight tests the listed credentials under the legacy AppID as well;
  but the device checks the list of a makeCredential under its relying party
  only, and so does the U2F downgrade.  What refuses a registration is a listed
  credential that the device has under the relying party.
-/
import Libwebauthn.Ctap1.Exclusion
import Libwebauthn.Webauthn.Restricted
import Libwebauthn.Webauthn.U2f
import Libwebauthn.Transport.Mock

namespace Libwebauthn

open Platform

variable {σ T : Type}

/-! ## §1. Devices with credentials. -/

/-- Which credentials a device shows to requests that are verified, and to
those that are not: by the hash of the relying party and the id. -/
abbrev CredentialsShown := (verified : Bool) → (rpIdHash id : Bytes) → Prop

/-- An entry of a list that such a device takes for a credential of its own: one
of a type that it does not know is passed over. -/
def CredentialsShown.takes (shown : CredentialsShown) (verified : Bool) (rpIdHash : Bytes)
    (credential : Ctap2PublicKeyCredentialDescriptor) : Prop :=
  credential.type = .publicKey ∧ shown verified rpIdHash credential.id

theorem CredentialsShown.takes_congr {shown : CredentialsShown} {verified : Bool}
    {rpIdHash : Bytes} {credential credential' : Ctap2PublicKeyCredentialDescriptor}
    (hid : credential'.id = credential.id) (htype : credential'.type = credential.type) :
    shown.takes verified rpIdHash credential' ↔ shown.takes verified rpIdHash credential := by
  unfold CredentialsShown.takes
  rw [hid, htype]

/-- The credential that the answer to a silent request for `credential` is
about. -/
def Ctap2GetAssertionResponse.probed (self : Ctap2GetAssertionResponse)
    (credential : Ctap2PublicKeyCredentialDescriptor) : Ctap2PublicKeyCredentialDescriptor :=
  (self.credentialId.or (self.authenticatorData.attestedCredential.map
    AttestedCredentialData.descriptor)).getD credential

/-- A device that answers by the credentials it has: a silent request for one
of them, and the list of a makeCredential, which it checks under the request's
own relying party. -/
structure Platform.HoldsCredentials (p : Platform σ T) (shown : CredentialsShown)
    (verified : Ctap2MakeCredentialRequest → Bool) : Prop where
  found : ∀ {credential hash rp env response},
    (p.getAssertion (preflightRequest credential hash rp) env).1 = .ok response →
      shown.takes false (p.crypto.sha256 (utf8 rp)) credential
        ∧ (response.probed credential).id = credential.id
        ∧ (response.probed credential).type = credential.type
  missing : ∀ {credential hash rp env},
    (p.getAssertion (preflightRequest credential hash rp) env).1 = .error (.ctap .noCredentials) →
      ¬shown.takes false (p.crypto.sha256 (utf8 rp)) credential
  excluded : ∀ {request env},
    (p.makeCredential request env).1 = .error (.ctap .credentialExcluded) →
      ∃ credential ∈ request.exclude.getD [], shown.takes (verified request)
        (p.crypto.sha256 (utf8 request.relyingParty.id)) credential
  created : ∀ {request env response}, (p.makeCredential request env).1 = .ok response →
    ¬∃ credential ∈ request.exclude.getD [], shown.takes (verified request)
        (p.crypto.sha256 (utf8 request.relyingParty.id)) credential

namespace Platform

variable {p : Platform σ T} {shown : CredentialsShown}
  {verified : Ctap2MakeCredentialRequest → Bool}

/-! ## §2. The preflight. -/

theorem preflightOne_known (h : p.HoldsCredentials shown verified)
    {credential : Ctap2PublicKeyCredentialDescriptor} {hash : Bytes} {rp : String}
    {w w' : World σ T} {found : Option Ctap2PublicKeyCredentialDescriptor}
    (hrun : p.preflightOne credential hash rp w = (.ok found, w')) :
    (found.isSome ↔ shown.takes false (p.crypto.sha256 (utf8 rp)) credential)
      ∧ ∀ matched, found = some matched →
          matched.id = credential.id ∧ matched.type = credential.type := by
  obtain ⟨answer, w₁, hanswer, hrun⟩ := Proc.bind_eq_ok_iff.mp hrun
  -- the command is sent once and its answer is what the match below reads
  have hattempt : (Proc.attempt (p.ctap2GetAssertion (preflightRequest credential hash rp)) :
      Ctap σ T _) w = _ :=
    Ctap.attempt_command (p.getAssertion (preflightRequest credential hash rp))
      (.getAssertion (preflightRequest credential hash rp)) w
  have hsent : (p.getAssertion (preflightRequest credential hash rp) w.env).1 = answer := by
    rw [hanswer] at hattempt
    exact (Outcome.ok.inj (Prod.mk.inj hattempt).1).symm
  split at hrun
  next response =>
    obtain ⟨hfound, hsame⟩ := h.found hsent
    obtain ⟨hout, -⟩ := Prod.mk.inj hrun
    rw [← Outcome.ok.inj hout]
    refine ⟨⟨fun _ => hfound, fun _ => rfl⟩, fun matched hmatched => ?_⟩
    rw [← Option.some.inj hmatched]
    exact hsame
  · obtain ⟨hout, -⟩ := Prod.mk.inj hrun
    rw [← Outcome.ok.inj hout]
    exact ⟨⟨fun hsome => (by cases hsome), fun hshown => absurd hshown (h.missing hsent)⟩,
      fun matched hmatched => (by cases hmatched)⟩
  · cases hrun

/-- A credential of the caller's list that the preflight keeps. -/
def Tested (p : Platform σ T) (shown : CredentialsShown) (rp : String)
    (appidExclude : Option String) (credential : Ctap2PublicKeyCredentialDescriptor) : Prop :=
  shown.takes false (p.crypto.sha256 (utf8 rp)) credential
    ∨ ∃ appid, appidExclude = some appid
        ∧ shown.takes false (p.crypto.sha256 (utf8 appid)) credential

theorem preflightCredential_known (h : p.HoldsCredentials shown verified)
    {credential : Ctap2PublicKeyCredentialDescriptor} {hash : Bytes} {rp : String}
    {appidExclude : Option String} {w w' : World σ T}
    {found : Option Ctap2PublicKeyCredentialDescriptor}
    (hrun : p.preflightCredential credential hash rp appidExclude w = (.ok found, w')) :
    (found.isSome ↔ p.Tested shown rp appidExclude credential)
      ∧ ∀ matched, found = some matched →
          matched.id = credential.id ∧ matched.type = credential.type := by
  obtain ⟨first, w₁, hfirst, hrun⟩ := Proc.bind_eq_ok_iff.mp hrun
  obtain ⟨hsome, hid⟩ := preflightOne_known h hfirst
  -- known under the relying party: the AppID is not tried
  cases first with
  | some matched =>
      obtain ⟨hout, -⟩ := Prod.mk.inj hrun
      rw [← Outcome.ok.inj hout]
      exact ⟨⟨fun _ => Or.inl (hsome.mp rfl), fun _ => rfl⟩, hid⟩
  | none =>
      have hnot : ¬shown.takes false (p.crypto.sha256 (utf8 rp)) credential :=
        fun hshown => by cases hsome.mpr hshown
      cases appidExclude with
      | none =>
          obtain ⟨hout, -⟩ := Prod.mk.inj hrun
          rw [← Outcome.ok.inj hout]
          refine ⟨⟨fun hsome => (by cases hsome), ?_⟩, fun matched hmatched => (by cases hmatched)⟩
          rintro (hshown | ⟨appid, happid, -⟩)
          · exact absurd hshown hnot
          · cases happid
      | some appid =>
          obtain ⟨hsome', hid'⟩ := preflightOne_known h hrun
          refine ⟨hsome'.trans ⟨fun hshown => Or.inr ⟨appid, rfl, hshown⟩, ?_⟩, hid'⟩
          rintro (hshown | ⟨appid', happid, hshown⟩)
          · exact absurd hshown hnot
          · rw [Option.some.inj happid]
            exact hshown

/-- The list after the preflight, by what the device takes of it. -/
theorem ctap2PreflightWithAppid_known (h : p.HoldsCredentials shown verified) {hash : Bytes}
    {rp : String} {appidExclude : Option String}
    {credentials kept : List Ctap2PublicKeyCredentialDescriptor} {w w' : World σ T}
    (hrun : p.ctap2PreflightWithAppid credentials hash rp appidExclude w = (.ok kept, w'))
    (isVerified : Bool) (rpIdHash : Bytes) :
    (∃ credential ∈ kept, shown.takes isVerified rpIdHash credential)
      ↔ ∃ credential ∈ credentials, p.Tested shown rp appidExclude credential
          ∧ shown.takes isVerified rpIdHash credential := by
  -- by induction on the list, with a test for each entry
  induction credentials generalizing kept w w' with
  | nil =>
      obtain ⟨hout, -⟩ := Prod.mk.inj hrun
      rw [← Outcome.ok.inj hout]
      simp
  | cons credential credentials ih =>
      obtain ⟨found, w₁, hfound, hrun⟩ := Proc.bind_eq_ok_iff.mp hrun
      obtain ⟨filtered, w₂, hfiltered, hrun⟩ := Proc.bind_eq_ok_iff.mp hrun
      obtain ⟨hsome, hsame⟩ := preflightCredential_known h hfound
      obtain ⟨hout, -⟩ := Prod.mk.inj hrun
      rw [← Outcome.ok.inj hout, List.exists_mem_cons_iff, ← ih hfiltered]
      cases found with
      | none =>
          have hnot : ¬p.Tested shown rp appidExclude credential :=
            fun htested => by cases hsome.mpr htested
          simp [hnot]
      | some matched =>
          show (∃ x ∈ matched :: filtered, shown.takes isVerified rpIdHash x) ↔ _
          rw [List.exists_mem_cons_iff,
            CredentialsShown.takes_congr (hsame matched rfl).1 (hsame matched rfl).2]
          simp [hsome.mp rfl]

/-! ## §3. The FIDO2 ceremony. -/

theorem fields_fromWebauthnRequest {T : Type} {crypto : Crypto} {op : MakeCredentialRequest}
    {info : Ctap2GetInfoResponse} {request : Ctap2MakeCredentialRequest}
    (h : (Ctap2MakeCredentialRequest.fromWebauthnRequest crypto op info :
      Except (WebAuthnError T) Ctap2MakeCredentialRequest) = .ok request) :
    request.exclude = op.exclude ∧ request.relyingParty = op.relyingParty := by
  obtain ⟨extensions, -, h⟩ := except_bind_eq_ok_iff.mp h
  rw [← Except.ok.inj h]
  exact ⟨rfl, rfl⟩

/-- A listed credential that the device may have, that the preflight keeps,
and that the device shows to the final request under the relying party. -/
def Refuses (p : Platform σ T) (shown : CredentialsShown) (op : MakeCredentialRequest)
    (info : Ctap2GetInfoResponse) (isVerified : Bool) : Prop :=
  ∃ credential ∈ filterOversizedCredentials info (op.exclude.getD []),
    (p.supportsPreflight = true →
      p.Tested shown op.relyingParty.id (op.extensions.bind (·.appidExclude)) credential)
    ∧ shown.takes isVerified (p.crypto.sha256 (utf8 op.relyingParty.id)) credential

/-- The list that is sent, by what the device takes of it. -/
theorem excludeList_known (h : p.HoldsCredentials shown verified) {op : MakeCredentialRequest}
    {info : Ctap2GetInfoResponse} {exclude : Option (List Ctap2PublicKeyCredentialDescriptor)}
    {w w' : World σ T} (hrun : p.excludeList op info op.exclude w = (.ok exclude, w'))
    (isVerified : Bool) (rpIdHash : Bytes) :
    (∃ credential ∈ exclude.getD [], shown.takes isVerified rpIdHash credential)
      ↔ ∃ credential ∈ filterOversizedCredentials info (op.exclude.getD []),
          (p.supportsPreflight = true →
            p.Tested shown op.relyingParty.id (op.extensions.bind (·.appidExclude)) credential)
          ∧ shown.takes isVerified rpIdHash credential := by
  unfold excludeList at hrun
  cases hexclude : op.exclude with
  | none =>
      rw [hexclude] at hrun
      obtain ⟨hout, -⟩ := Prod.mk.inj hrun
      rw [← Outcome.ok.inj hout]
      have hnil : filterOversizedCredentials info [] = [] := by
        unfold filterOversizedCredentials
        split <;> rfl
      simp [hnil]
  | some credentials =>
      rw [hexclude] at hrun
      dsimp only [Option.map_some] at hrun
      -- with preflight what passes the tests is left, without it the whole list
      by_cases hsupports : p.supportsPreflight = true
      · rw [if_pos hsupports] at hrun
        obtain ⟨kept, w₁, hkept, hrun⟩ := Proc.bind_eq_ok_iff.mp hrun
        obtain ⟨hout, -⟩ := Prod.mk.inj hrun
        rw [← Outcome.ok.inj hout]
        simp only [hsupports, forall_const, Option.getD_some]
        exact ctap2PreflightWithAppid_known h hkept isVerified rpIdHash
      · rw [if_neg hsupports] at hrun
        obtain ⟨hout, -⟩ := Prod.mk.inj hrun
        rw [← Outcome.ok.inj hout]
        simp [hsupports]

/-- Every turn sends the list that the opening came to, for the relying party of
the caller. -/
theorem madeAttempts_exclude {fuel : Nat} {op : MakeCredentialRequest} {w w₁ : World σ T}
    (hlog : w.session.log = {}) {info : Ctap2GetInfoResponse}
    (hinfo : p.ctap2GetInfo w = (.ok info, w₁))
    {a : Attempt T Ctap2MakeCredentialRequest Ctap2MakeCredentialResponse}
    (hmem : a ∈ p.madeAttempts fuel op w) :
    ∃ w', p.excludeList op info op.exclude w₁ = (.ok a.sent.exclude, w')
      ∧ a.sent.relyingParty = op.relyingParty := by
  rcases hopening : p.openMake op w with ⟨outcome, w'⟩
  by_cases hopened : ∃ opened, outcome = .ok opened
  · obtain ⟨⟨info', request⟩, rfl⟩ := hopened
    obtain ⟨request₀, exclude, w₂, hinfo', hrequest, hlist, -, rfl⟩ := p.openMake_ok hopening
    rw [hinfo] at hinfo'
    obtain ⟨hsame, rfl⟩ := Prod.mk.inj hinfo'
    obtain rfl := Outcome.ok.inj hsame
    obtain ⟨hexclude, hrp⟩ := fields_fromWebauthnRequest hrequest
    rw [hexclude] at hlist
    have hlogged := p.madeAttempts_opened fuel hlog hopening
    -- no attempt changes the list, or the relying party
    have hentry := hlogged.invariant
      (I := fun r => r.exclude = exclude ∧ r.relyingParty = op.relyingParty) ⟨rfl, hrp⟩
      (fun b hb hI => ⟨hb.exclude.trans hI.1,
        (hb.keeps_make (f := (·.relyingParty)) fun _ _ _ _ _ => rfl).trans hI.2⟩) a hmem
    have hattempted := hlogged.attempted a hmem
    refine ⟨w', ?_, ?_⟩
    · rw [hattempted.exclude, hentry.1]
      exact hlist
    · rw [hattempted.keeps_make (f := (·.relyingParty)) fun _ _ _ _ _ => rfl, hentry.2]
  · rw [p.madeAttempts_stopped fuel hlog fun opened hok =>
      hopened ⟨opened, by rw [← hok, hopening]⟩] at hmem
    cases hmem

/-- What a turn sends lists a credential that the device shows, or not. -/
theorem refuses_iff (h : p.HoldsCredentials shown verified) {fuel : Nat}
    {op : MakeCredentialRequest} {w w₁ : World σ T} (hlog : w.session.log = {})
    {info : Ctap2GetInfoResponse} (hinfo : p.ctap2GetInfo w = (.ok info, w₁))
    {a : Attempt T Ctap2MakeCredentialRequest Ctap2MakeCredentialResponse}
    (hmem : a ∈ p.madeAttempts fuel op w) (isVerified : Bool) :
    (∃ credential ∈ a.sent.exclude.getD [], shown.takes isVerified
        (p.crypto.sha256 (utf8 a.sent.relyingParty.id)) credential)
      ↔ p.Refuses shown op info isVerified := by
  obtain ⟨w', hlist, hrp⟩ := madeAttempts_exclude hlog hinfo hmem
  rw [hrp]
  exact excludeList_known h hlist _ _

/-- A registration that comes to an end: a credential is made, or the device
refuses the list. -/
theorem makeCredentialFido2_refused_iff (h : p.HoldsCredentials shown verified) {fuel : Nat}
    {op : MakeCredentialRequest} {w w₁ : World σ T} (hlog : w.session.log = {})
    {info : Ctap2GetInfoResponse} (hinfo : p.ctap2GetInfo w = (.ok info, w₁))
    {a : Attempt T Ctap2MakeCredentialRequest Ctap2MakeCredentialResponse}
    (hlast : (p.madeAttempts fuel op w).getLast? = some a)
    (hconcludes : (∃ out, (p.makeCredentialFido2 fuel op w).1 = .ok out)
      ∨ a.answer = .error (.ctap .credentialExcluded)) :
    (∀ out, (p.makeCredentialFido2 fuel op w).1 ≠ .ok out)
      ↔ p.Refuses shown op info (verified a.sent) := by
  have hmem := List.mem_of_getLast? hlast
  obtain ⟨env, hanswer⟩ := p.answered_madeAttempts fuel op hlog a hmem
  rw [← refuses_iff h hlog hinfo hmem]
  constructor
  · intro hnever
    rcases hconcludes with ⟨out, hok⟩ | hexcluded
    · exact absurd hok (hnever out)
    · exact h.excluded (hanswer.trans hexcluded)
  · intro hlisted out hok
    obtain ⟨info', request, response, as, last, hresponded, -⟩ :=
      p.makeCredentialFido2_ok fuel op w hlog hok
    have hsame := hresponded.getLast?_madeAttempts
    rw [hlast] at hsame
    obtain rfl := Option.some.inj hsame
    exact h.created (hanswer.trans hresponded.answer) hlisted

end Platform

/-! ## §4. The downgrade to U2F. -/

namespace U2fPlatform

variable (p : U2fPlatform σ T)

/-- The device signs in the check of some listed key, under the relying
party. -/
def Refuses (crypto : Crypto) (op : MakeCredentialRequest) (env : σ) : Prop :=
  p.Finds (op.tryDowngrade crypto).preflight.2 (p.uxUpdate .presenceRequired env)

theorem makeCredentialU2f_of_refuses {crypto : Crypto} {op : MakeCredentialRequest} {env : σ}
    (h : p.Refuses crypto op env) : Excluded (p.makeCredentialU2f crypto op ⟨env, []⟩) := by
  obtain ⟨⟨e, herror⟩, hsent⟩ := p.register_of_finds h
  have hstopped : ∀ response,
      (p.ctap1Register (op.tryDowngrade crypto) ⟨env, []⟩).1 ≠ .ok response := by
    intro response hok
    rw [herror] at hok
    cases hok
  obtain ⟨hstate, houtcome⟩ := Proc.bind_of_not_ok (f := fun response =>
    (Proc.ofExcept (response.tryUpgrade crypto p.encodedPoint op) :
      U2f σ T MakeCredentialResponse)) hstopped
  exact ⟨⟨e, (houtcome e).mpr herror⟩, fun pair hpair => hsent pair (hstate ▸ hpair)⟩

/-- Apart from that, the device is asked to register a key. -/
theorem makeCredentialU2f_of_not_refuses {crypto : Crypto} {op : MakeCredentialRequest}
    {env : σ} (h : ¬p.Refuses crypto op env) :
    ∃ pair ∈ (p.makeCredentialU2f crypto op ⟨env, []⟩).2.apdus, pair.1.ins = U2F_REGISTER := by
  obtain ⟨pair, hpair, hins⟩ := p.register_of_not_finds h
  refine ⟨pair, ?_, hins⟩
  unfold makeCredentialU2f
  rw [Proc.Keeps.after (f := U2fWorld.apdus) fun _ => Proc.Keeps.ofExcept _]
  exact hpair

theorem makeCredentialU2f_refused_iff {crypto : Crypto} {op : MakeCredentialRequest} {env : σ}
    (hconcludes : (∃ out, (p.makeCredentialU2f crypto op ⟨env, []⟩).1 = .ok out)
      ∨ ∀ pair ∈ (p.makeCredentialU2f crypto op ⟨env, []⟩).2.apdus, pair.1.ins ≠ U2F_REGISTER) :
    (∀ out, (p.makeCredentialU2f crypto op ⟨env, []⟩).1 ≠ .ok out)
      ↔ p.Refuses crypto op env := by
  constructor
  · intro hnever
    by_contra hnot
    rcases hconcludes with ⟨out, hok⟩ | hquiet
    · exact hnever out hok
    · obtain ⟨pair, hpair, hins⟩ := p.makeCredentialU2f_of_not_refuses hnot
      exact hquiet pair hpair hins
  · intro hrefuses out hok
    obtain ⟨⟨e, herror⟩, -⟩ := p.makeCredentialU2f_of_refuses hrefuses
    rw [herror] at hok
    cases hok

end U2fPlatform

/-! ## §5. Registrations. -/

/-- A credential of the exclude list is on the device under the legacy
AppID. -/
def ListsLegacy (crypto : Crypto) (shown : CredentialsShown) (op : MakeCredentialRequest) : Prop :=
  ∃ appid, op.extensions.bind (·.appidExclude) = some appid
    ∧ ∃ credential ∈ op.exclude.getD [], ∃ isVerified,
        shown isVerified (crypto.sha256 (utf8 appid)) credential.id

/-- A forced user verification changes nothing else. -/
theorem upgraded_eq (op : MakeCredentialRequest) :
    ∃ uv, op.upgraded = { op with userVerification := uv } := by
  unfold MakeCredentialRequest.upgraded
  split
  · exact ⟨_, rfl⟩
  · exact ⟨_, rfl⟩

namespace FidoPlatform

variable (c : FidoPlatform σ T)

theorem keeps_overU2f {α : Type} (m : U2f σ T α) :
    Proc.Keeps World.session (overU2f m : Ctap σ T α) :=
  fun _ => rfl

theorem keeps_negotiateProtocol (allowU2f : Bool) :
    Proc.Keeps World.session (c.negotiateProtocol allowU2f) := by
  refine Proc.Keeps.bind (fun _ => rfl) fun answer => ?_
  refine Proc.Keeps.bind (Proc.Keeps.ofExcept _) fun supported => ?_
  split
  · exact Proc.Keeps.throw _
  · split
    · exact Proc.Keeps.throw _
    · split
      · exact Proc.Keeps.pure _
      · exact Proc.Keeps.bind (keeps_overU2f _) fun _ => Proc.Keeps.pure _

theorem webauthnMakeCredential_fido2 {fuel : Nat} {op : MakeCredentialRequest} {w w' : World σ T}
    (h : c.negotiateProtocol op.upgraded.isDowngradable w = (.ok .fido2, w')) :
    c.webauthnMakeCredential fuel op w = c.ctap2.makeCredentialFido2 fuel op.upgraded w' :=
  Proc.bind_of_ok h _

theorem webauthnMakeCredential_u2f {fuel : Nat} {op : MakeCredentialRequest} {w w' : World σ T}
    (h : c.negotiateProtocol op.upgraded.isDowngradable w = (.ok .u2f, w')) :
    c.webauthnMakeCredential fuel op w
      = overU2f (c.ctap1.makeCredentialU2f c.ctap2.crypto op.upgraded) w' :=
  Proc.bind_of_ok h _

end FidoPlatform

/-- **When appidExclude is enforced**: a registration with a listed credential
under the legacy AppID that comes to an end makes no credential exactly when
some listed credential is known under the relying party, to the final request
or, over U2F, in its check. -/
theorem appidExclude_enforced_iff (c : FidoPlatform σ T) {shown : CredentialsShown}
    {verified : Ctap2MakeCredentialRequest → Bool}
    (hdevice : c.ctap2.HoldsCredentials shown verified) (fuel : Nat) (op : MakeCredentialRequest)
    (env : σ) (authData : Option AuthTokenData) (w : World σ T) :
    (∀ info w₁ a,
      c.negotiateProtocol op.upgraded.isDowngradable (.start env authData) = (.ok .fido2, w) →
      c.ctap2.ctap2GetInfo w = (.ok info, w₁) →
      (c.ctap2.madeAttempts fuel op.upgraded w).getLast? = some a →
      ((∃ out, (c.webauthnMakeCredential fuel op (.start env authData)).1 = .ok out)
        ∨ a.answer = .error (.ctap .credentialExcluded)) →
        ((ListsLegacy c.ctap2.crypto shown op →
            ∀ out, (c.webauthnMakeCredential fuel op (.start env authData)).1 ≠ .ok out)
          ↔ (ListsLegacy c.ctap2.crypto shown op →
              c.ctap2.Refuses shown op info (verified a.sent))))
    ∧ (c.negotiateProtocol op.upgraded.isDowngradable (.start env authData) = (.ok .u2f, w) →
      ((∃ out, (c.webauthnMakeCredential fuel op (.start env authData)).1 = .ok out)
        ∨ ∀ pair ∈ (c.ctap1.makeCredentialU2f c.ctap2.crypto op.upgraded ⟨w.env, []⟩).2.apdus,
            pair.1.ins ≠ U2F_REGISTER) →
        ((ListsLegacy c.ctap2.crypto shown op →
            ∀ out, (c.webauthnMakeCredential fuel op (.start env authData)).1 ≠ .ok out)
          ↔ (ListsLegacy c.ctap2.crypto shown op →
              c.ctap1.Refuses c.ctap2.crypto op w.env))) := by
  obtain ⟨uv, hupgraded⟩ := upgraded_eq op
  constructor
  · intro info w₁ a hnegotiated hinfo hlast hconcludes
    -- the negotiation logs nothing
    have hlog : w.session.log = {} := by
      have hkept := c.keeps_negotiateProtocol op.upgraded.isDowngradable (.start env authData)
      rw [hnegotiated] at hkept
      rw [hkept]
      rfl
    rw [c.webauthnMakeCredential_fido2 hnegotiated] at hconcludes ⊢
    have hiff := makeCredentialFido2_refused_iff hdevice hlog hinfo hlast hconcludes
    rw [show c.ctap2.Refuses shown op.upgraded info (verified a.sent)
      = c.ctap2.Refuses shown op info (verified a.sent) by rw [hupgraded]; rfl] at hiff
    exact imp_congr_right fun _ => hiff
  · intro hnegotiated hconcludes
    rw [c.webauthnMakeCredential_u2f hnegotiated] at hconcludes ⊢
    have hiff := c.ctap1.makeCredentialU2f_refused_iff hconcludes
    rw [show c.ctap1.Refuses c.ctap2.crypto op.upgraded w.env
      = c.ctap1.Refuses c.ctap2.crypto op w.env by rw [hupgraded]; rfl] at hiff
    exact imp_congr_right fun _ => hiff

/-! ## §6. A device of fixed credentials. -/

/-- A credential of the list under the relying party. -/
def listsStored (stored : List (Bytes × Bytes)) (rp : String)
    (credentials : List Ctap2PublicKeyCredentialDescriptor) : Bool :=
  credentials.any fun credential => credential.type == .publicKey
    && stored.contains (transparentCrypto.sha256 (utf8 rp), credential.id)

/-- A FIDO2 device with these credentials, of relying party and id. -/
def storedPlatform (stored : List (Bytes × Bytes)) : Platform Unit Empty where
  crypto := transparentCrypto
  codecs := absentCodecs
  supportsPreflight := true
  getInfo s := (.ok {}, s)
  clientPin _ s := (.error (.ctap .other), s)
  makeCredential request s :=
    (if listsStored stored request.relyingParty.id (request.exclude.getD []) then
      .error (.ctap .credentialExcluded)
    else .ok plainMakeCredentialResponse, s)
  getAssertion request s :=
    (if listsStored stored request.relyingPartyId request.allow then
      .ok (plainGetAssertionResponse request.allow.head?)
    else .error (.ctap .noCredentials), s)
  getNextAssertion s := (.error (.ctap .other), s)
  largeBlobs _ s := (.error (.ctap .other), s)
  uxUpdate _ s := s
  pinRequired _ _ s := (none, s)
  pinNotSet _ s := (none, s)
  persistentTokenStore := false
  storeList s := ([], s)
  storePut _ _ s := s
  storeDelete _ s := s
  random n s := (List.replicate n 0, s)
  random_length _ _ := List.length_replicate

def storedCredentials (stored : List (Bytes × Bytes)) : CredentialsShown :=
  fun _ rpIdHash id => (rpIdHash, id) ∈ stored

theorem listsStored_eq_true_iff {stored : List (Bytes × Bytes)} {rp : String}
    {credentials : List Ctap2PublicKeyCredentialDescriptor} :
    listsStored stored rp credentials = true ↔ ∃ credential ∈ credentials,
      (storedCredentials stored).takes false (transparentCrypto.sha256 (utf8 rp)) credential := by
  unfold listsStored
  simp only [List.any_eq_true, Bool.and_eq_true, beq_iff_eq, List.contains_iff_mem]
  rfl

theorem holdsCredentials_storedPlatform (stored : List (Bytes × Bytes)) :
    (storedPlatform stored).HoldsCredentials (storedCredentials stored) fun _ => false where
  found {credential hash rp env response} h := by
    by_cases hlists : listsStored stored rp [credential] = true
    · have hanswer : (.ok (plainGetAssertionResponse (some credential)) :
          Except MockError Ctap2GetAssertionResponse) = .ok response :=
        (if_pos hlists).symm.trans h
      obtain ⟨only, honly, hstored⟩ := listsStored_eq_true_iff.mp hlists
      rw [List.mem_singleton.mp honly] at hstored
      rw [← Except.ok.inj hanswer]
      exact ⟨hstored, rfl, rfl⟩
    · cases (if_neg hlists).symm.trans h
  missing {credential hash rp env} h := by
    intro hstored
    have hlists : listsStored stored rp [credential] = true :=
      listsStored_eq_true_iff.mpr ⟨credential, List.mem_singleton.mpr rfl, hstored⟩
    cases (if_pos hlists).symm.trans h
  excluded {request env} h := by
    by_cases hlists : listsStored stored request.relyingParty.id (request.exclude.getD []) = true
    · exact listsStored_eq_true_iff.mp hlists
    · cases (if_neg hlists).symm.trans h
  created {request env response} h := by
    intro hstored
    have hlists := listsStored_eq_true_iff.mpr hstored
    cases (if_pos hlists).symm.trans h

/-- The device, on a channel for FIDO2. -/
def storedDevice (stored : List (Bytes × Bytes)) : FidoPlatform Unit Empty where
  ctap2 := storedPlatform stored
  ctap1 := U2fPlatform.keyedDevice [] true
  supportedProtocols s := (.ok ⟨false, true⟩, s)

def legacyAppid : String := "https://example.org/u2f"

/-- One listed credential, and an AppID to exclude. -/
def appidExcludeOp : MakeCredentialRequest :=
  { plainMakeCredentialOp with
    userVerification := .discouraged
    exclude := some [listedCredential 1]
    extensions := some ⟨some legacyAppid, none, none, none, none, none, none, none⟩ }

/-- The hash of a relying party, or of an AppID. -/
def storedUnder (rp : String) (id : UInt8) : Bytes × Bytes :=
  (transparentCrypto.sha256 (utf8 rp), [id])

/-- The credential under both. -/
def storedTwice : List (Bytes × Bytes) := [storedUnder legacyAppid 1, storedUnder "example.org" 1]

set_option maxRecDepth 8000 in
/-- Known under the relying party as well: no credential is made. -/
theorem appidExclude_enforced_both :
    ¬∃ out, ((storedDevice storedTwice).webauthnMakeCredential 3 appidExcludeOp
      (.start () none)).1 = .ok out := by
  have henforced := (appidExclude_enforced_iff (storedDevice storedTwice)
    (holdsCredentials_storedPlatform storedTwice) 3 appidExcludeOp () none _).1 _ _ _ rfl rfl rfl
    (Or.inr rfl)
  rintro ⟨out, hok⟩
  refine henforced.mpr (fun _ => ?_) ?_ out hok
  · have htakes : (storedCredentials storedTwice).takes false
        (transparentCrypto.sha256 (utf8 "example.org")) (listedCredential 1) :=
      ⟨rfl, List.mem_cons_of_mem _ (List.mem_singleton.mpr rfl)⟩
    exact ⟨listedCredential 1, List.mem_singleton.mpr rfl, fun _ => Or.inl htakes, htakes⟩
  · exact ⟨legacyAppid, rfl, listedCredential 1, List.mem_singleton.mpr rfl, false,
      List.mem_cons_self⟩

set_option maxRecDepth 8000 in
/-- Known under the AppID only: a credential is made all the same. -/
theorem appidExclude_not_enforced :
    (storedPlatform [storedUnder legacyAppid 1]).HoldsCredentials
        (storedCredentials [storedUnder legacyAppid 1]) (fun _ => false)
      ∧ ListsLegacy transparentCrypto (storedCredentials [storedUnder legacyAppid 1])
          appidExcludeOp
      ∧ ∃ out, ((storedDevice [storedUnder legacyAppid 1]).webauthnMakeCredential 3
          appidExcludeOp (.start () none)).1 = .ok out := by
  refine ⟨holdsCredentials_storedPlatform _, ⟨legacyAppid, rfl, listedCredential 1,
    List.mem_singleton.mpr rfl, false, List.mem_singleton.mpr rfl⟩, _, rfl⟩

end Libwebauthn
