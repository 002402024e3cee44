/-
  Libwebauthn.Webauthn.ExcludeList — the exclude list of a makeCredential
  request (`make_credential_fido2` of `src/webauthn.rs`,
  `src/proto/ctap2/preflight.rs`).

  `foundEntries` are the entries of the caller that are short enough for the
  device and, with preflight, found by its answers to the probes, sent one
  after the other.  The request lists exactly these (`madeAttempts_listed`);
  but a caller's list of which nothing is left is sent as an empty list.

    • `hasExcludeList_iff` — when the request has an excludeList member;
    • `exclude_onWire_iff` — when the member is what the protocol asks for.
-/
import Libwebauthn.Webauthn.AppidExclude
import Libwebauthn.Webauthn.CanonicalRequests

namespace Libwebauthn

open Platform

variable {σ T : Type}

/-! ## §1. The member. -/

/-- The request has an excludeList member. -/
def Ctap2MakeCredentialRequest.HasExcludeList (request : Ctap2MakeCredentialRequest) : Prop :=
  ∃ entries value, request.toCbor = .map entries ∧ (.uint 5, value) ∈ entries

theorem Cbor.mem_entry?_iff {key key' value : Cbor} {value? : Option Cbor} :
    (key', value) ∈ Cbor.entry? key value? ↔ key' = key ∧ value? = some value := by
  unfold Cbor.entry?
  rw [Option.mem_toList, Option.map_eq_some_iff]
  constructor
  · rintro ⟨v, hv, heq⟩
    obtain ⟨rfl, rfl⟩ := Prod.mk.inj heq
    exact ⟨rfl, hv⟩
  · rintro ⟨rfl, hv⟩
    exact ⟨value, hv, rfl⟩

/-- The serializer skips the member of an absent list, and of no other. -/
theorem Ctap2MakeCredentialRequest.hasExcludeList_iff (request : Ctap2MakeCredentialRequest) :
    request.HasExcludeList ↔ request.exclude.isSome = true := by
  constructor
  · rintro ⟨entries, value, hentries, hmem⟩
    rw [← Cbor.map.inj hentries] at hmem
    by_contra hnone
    rw [Option.not_isSome_iff_eq_none.mp hnone] at hmem
    simp only [List.mem_append, List.mem_cons, Prod.mk.injEq, Cbor.uint.injEq] at hmem
    split at hmem <;> split at hmem <;>
      simp [Cbor.mem_entry?_iff] at hmem
  · intro hsome
    obtain ⟨exclude, hexclude⟩ := Option.isSome_iff_exists.mp hsome
    refine ⟨_, .array (exclude.map Ctap2PublicKeyCredentialDescriptor.toCbor), rfl, ?_⟩
    simp [hexclude, Cbor.mem_entry?_iff]

/-! ## §2. Probes. -/

namespace Platform

variable (p : Platform σ T)

/-- Whether the device answers the probe of a credential with an assertion, and
its state afterwards. -/
def probe (clientDataHash : Bytes) (rp : String)
    (credential : Ctap2PublicKeyCredentialDescriptor) (s : σ) : Bool × σ :=
  ((p.getAssertion (preflightRequest credential clientDataHash rp) s).1.isOk,
    (p.getAssertion (preflightRequest credential clientDataHash rp) s).2)

/-- The probes of one credential: under the relying party, and if that does not
find it, under the legacy AppID. -/
def probes (clientDataHash : Bytes) (rp : String) (appidExclude : Option String)
    (credential : Ctap2PublicKeyCredentialDescriptor) (s : σ) : Bool × σ :=
  let first := p.probe clientDataHash rp credential s
  if first.1 then first
  else appidExclude.elim first fun appid => p.probe clientDataHash appid credential first.2

/-- The credentials found, when they are probed in order. -/
def probed (clientDataHash : Bytes) (rp : String) (appidExclude : Option String) :
    List Ctap2PublicKeyCredentialDescriptor → σ → List Ctap2PublicKeyCredentialDescriptor
  | [], _ => []
  | credential :: credentials, s =>
      let found := p.probes clientDataHash rp appidExclude credential s
      let rest := probed clientDataHash rp appidExclude credentials found.2
      if found.1 then credential :: rest else rest

/-- The caller's entries that the device may hold: short enough for it, and
with preflight found by its probes from `s` on. -/
def foundEntries (op : MakeCredentialRequest) (info : Ctap2GetInfoResponse) (s : σ) :
    List Ctap2PublicKeyCredentialDescriptor :=
  let short := (op.exclude.getD []).filter fun credential =>
    info.maxCredentialIdLength.all fun maxLen => decide (credential.id.length ≤ maxLen)
  if p.supportsPreflight then
    p.probed (op.clientDataHash p.crypto) op.relyingParty.id
      (op.extensions.bind (·.appidExclude)) short s
  else short

/-- The device's answer to a probe is about the credential probed, as far as
`key` tells. -/
def NamesProbed {κ : Type} (key : Ctap2PublicKeyCredentialDescriptor → κ) : Prop :=
  ∀ {credential clientDataHash rp s response},
    (p.getAssertion (preflightRequest credential clientDataHash rp) s).1 = .ok response →
      key (response.probed credential) = key credential

theorem probed_sublist (clientDataHash : Bytes) (rp : String) (appidExclude : Option String)
    (credentials : List Ctap2PublicKeyCredentialDescriptor) :
    ∀ s, (p.probed clientDataHash rp appidExclude credentials s).Sublist credentials := by
  induction credentials with
  | nil => intro s; exact List.Sublist.slnil
  | cons credential credentials ih =>
      intro s
      unfold probed
      dsimp only
      split
      · exact (ih _).cons_cons credential
      · exact (ih _).cons credential

/-- They are a sub-list of the caller's entries, in the caller's order. -/
theorem foundEntries_sublist (op : MakeCredentialRequest) (info : Ctap2GetInfoResponse) (s : σ) :
    (p.foundEntries op info s).Sublist (op.exclude.getD []) := by
  unfold foundEntries
  dsimp only
  split
  · exact (p.probed_sublist _ _ _ _ _).trans List.filter_sublist
  · exact List.filter_sublist

variable {p} {κ : Type} {key : Ctap2PublicKeyCredentialDescriptor → κ}

theorem preflightOne_probe (h : p.NamesProbed key)
    {credential : Ctap2PublicKeyCredentialDescriptor} {hash : Bytes} {rp : String}
    {w w' : World σ T} {found : Option Ctap2PublicKeyCredentialDescriptor}
    (hrun : p.preflightOne credential hash rp w = (.ok found, w')) :
    p.probe hash rp credential w.env = (found.isSome, w'.env)
      ∧ ∀ matched, found = some matched → key matched = key credential := by
  obtain ⟨answer, w₁, hanswer, hrun⟩ := Proc.bind_eq_ok_iff.mp hrun
  have hattempt : (Proc.attempt (p.ctap2GetAssertion (preflightRequest credential hash rp)) :
      Ctap σ T _) w = _ :=
    Ctap.attempt_command (p.getAssertion (preflightRequest credential hash rp))
      (.getAssertion (preflightRequest credential hash rp)) w
  rw [hanswer] at hattempt
  obtain ⟨hsame, hworld⟩ := Prod.mk.inj hattempt
  have hsent : (p.getAssertion (preflightRequest credential hash rp) w.env).1 = answer :=
    (Outcome.ok.inj hsame).symm
  have henv : (p.getAssertion (preflightRequest credential hash rp) w.env).2 = w₁.env := by
    rw [hworld]
  -- a test is its probe: found, not found, or an error that is passed on
  unfold probe
  rw [hsent, henv]
  split at hrun
  next response =>
    obtain ⟨hout, hw⟩ := Prod.mk.inj hrun
    rw [← Outcome.ok.inj hout, ← hw]
    refine ⟨rfl, fun matched hmatched => ?_⟩
    rw [← Option.some.inj hmatched]
    exact h hsent
  · obtain ⟨hout, hw⟩ := Prod.mk.inj hrun
    rw [← Outcome.ok.inj hout, ← hw]
    exact ⟨rfl, fun matched hmatched => (by cases hmatched)⟩
  · cases hrun

theorem preflightCredential_probes (h : p.NamesProbed key)
    {credential : Ctap2PublicKeyCredentialDescriptor} {hash : Bytes} {rp : String}
    {appidExclude : Option String} {w w' : World σ T}
    {found : Option Ctap2PublicKeyCredentialDescriptor}
    (hrun : p.preflightCredential credential hash rp appidExclude w = (.ok found, w')) :
    p.probes hash rp appidExclude credential w.env = (found.isSome, w'.env)
      ∧ ∀ matched, found = some matched → key matched = key credential := by
  obtain ⟨first, w₁, hfirst, hrun⟩ := Proc.bind_eq_ok_iff.mp hrun
  obtain ⟨hprobe, hnamed⟩ := preflightOne_probe h hfirst
  unfold probes
  rw [hprobe]
  cases first with
  | some matched =>
      obtain ⟨hout, hw⟩ := Prod.mk.inj hrun
      rw [← Outcome.ok.inj hout, ← hw]
      exact ⟨rfl, hnamed⟩
  | none =>
      cases appidExclude with
      | none =>
          obtain ⟨hout, hw⟩ := Prod.mk.inj hrun
          rw [← Outcome.ok.inj hout, ← hw]
          exact ⟨rfl, fun matched hmatched => (by cases hmatched)⟩
      | some appid => exact preflightOne_probe h hrun

/-- **The preflight keeps what the probes find**, as the device names it. -/
theorem ctap2PreflightWithAppid_probed (h : p.NamesProbed key) {hash : Bytes} {rp : String}
    {appidExclude : Option String} {credentials kept : List Ctap2PublicKeyCredentialDescriptor}
    {w w' : World σ T}
    (hrun : p.ctap2PreflightWithAppid credentials hash rp appidExclude w = (.ok kept, w')) :
    kept.map key = (p.probed hash rp appidExclude credentials w.env).map key := by
  induction credentials generalizing kept w w' with
  | nil =>
      obtain ⟨hout, -⟩ := Prod.mk.inj hrun
      rw [← Outcome.ok.inj hout]
      rfl
  | cons credential credentials ih =>
      obtain ⟨found, w₁, hfound, hrun⟩ := Proc.bind_eq_ok_iff.mp hrun
      obtain ⟨filtered, w₂, hfiltered, hrun⟩ := Proc.bind_eq_ok_iff.mp hrun
      obtain ⟨hprobes, hnamed⟩ := preflightCredential_probes h hfound
      obtain ⟨hout, -⟩ := Prod.mk.inj hrun
      rw [← Outcome.ok.inj hout]
      unfold probed
      rw [hprobes]
      dsimp only
      cases found with
      | none => exact ih hfiltered
      | some matched =>
          show (matched :: filtered).map key = List.map key (credential :: _)
          rw [List.map_cons, List.map_cons, hnamed matched rfl, ih hfiltered]

/-! ## §3. The list that is sent. -/

theorem filterOversizedCredentials_eq (info : Ctap2GetInfoResponse)
    (credentials : List Ctap2PublicKeyCredentialDescriptor) :
    filterOversizedCredentials info credentials
      = credentials.filter fun credential =>
          info.maxCredentialIdLength.all fun maxLen => decide (credential.id.length ≤ maxLen) := by
  unfold filterOversizedCredentials
  cases info.maxCredentialIdLength with
  | none => simp
  | some maxLen => rfl

theorem excludeList_found (h : p.NamesProbed key) {op : MakeCredentialRequest}
    {info : Ctap2GetInfoResponse} {exclude : Option (List Ctap2PublicKeyCredentialDescriptor)}
    {w w' : World σ T} (hrun : p.excludeList op info op.exclude w = (.ok exclude, w')) :
    exclude.map (List.map key)
      = op.exclude.map fun _ => (p.foundEntries op info w.env).map key := by
  unfold excludeList at hrun
  unfold foundEntries
  cases hexclude : op.exclude with
  | none =>
      rw [hexclude] at hrun
      obtain ⟨hout, -⟩ := Prod.mk.inj hrun
      rw [← Outcome.ok.inj hout]
      rfl
  | some credentials =>
      rw [hexclude] at hrun
      dsimp only [Option.map_some, Option.getD_some] at hrun ⊢
      rw [filterOversizedCredentials_eq] at hrun
      by_cases hsupports : p.supportsPreflight = true
      · rw [if_pos hsupports] at hrun ⊢
        obtain ⟨kept, w₁, hkept, hrun⟩ := Proc.bind_eq_ok_iff.mp hrun
        obtain ⟨hout, -⟩ := Prod.mk.inj hrun
        rw [← Outcome.ok.inj hout, Option.map_some, ctap2PreflightWithAppid_probed h hkept]
      · rw [if_neg hsupports] at hrun ⊢
        obtain ⟨hout, -⟩ := Prod.mk.inj hrun
        rw [← Outcome.ok.inj hout, Option.map_some]

/-- Every request of a run lists the entries found; a caller without a list
sends none. -/
theorem madeAttempts_listed (h : p.NamesProbed key) {fuel : Nat} {op : MakeCredentialRequest}
    {w w₁ : World σ T} (hlog : w.session.log = {}) {info : Ctap2GetInfoResponse}
    (hinfo : p.ctap2GetInfo w = (.ok info, w₁))
    {a : Attempt T Ctap2MakeCredentialRequest Ctap2MakeCredentialResponse}
    (hmem : a ∈ p.madeAttempts fuel op w) :
    a.sent.exclude.map (List.map key)
      = op.exclude.map fun _ => (p.foundEntries op info w₁.env).map key := by
  obtain ⟨w', hlist, _⟩ := madeAttempts_exclude hlog hinfo hmem
  exact excludeList_found h hlist

/-- The excludeList of a request is `found`, in this order, and is left out
when that is empty. -/
structure ExcludeOnWire (key : Ctap2PublicKeyCredentialDescriptor → κ)
    (found : List Ctap2PublicKeyCredentialDescriptor) (sent : Ctap2MakeCredentialRequest) :
    Prop where
  listed : (sent.exclude.getD []).map key = found.map key
  omitted : found = [] → ¬sent.HasExcludeList

/-- **The excludeList on the wire**: every request of a run has it as the
protocol asks for, exactly when the caller gave no list or something of it is
found; of the rest, an empty list is sent. -/
theorem exclude_onWire_iff (h : p.NamesProbed key) {fuel : Nat} {op : MakeCredentialRequest}
    {w w₁ : World σ T} (hlog : w.session.log = {}) {info : Ctap2GetInfoResponse}
    (hinfo : p.ctap2GetInfo w = (.ok info, w₁))
    {a : Attempt T Ctap2MakeCredentialRequest Ctap2MakeCredentialResponse}
    (hmem : a ∈ p.madeAttempts fuel op w) :
    ExcludeOnWire key (p.foundEntries op info w₁.env) a.sent
      ↔ op.exclude = none ∨ p.foundEntries op info w₁.env ≠ [] := by
  have hlisted := madeAttempts_listed h hlog hinfo hmem
  constructor
  · intro hwire
    by_cases hfound : p.foundEntries op info w₁.env = []
    · refine Or.inl ?_
      have homitted := hwire.omitted hfound
      rw [Ctap2MakeCredentialRequest.hasExcludeList_iff, Option.not_isSome_iff_eq_none] at homitted
      rw [homitted] at hlisted
      exact Option.map_eq_none_iff.mp hlisted.symm
    · exact Or.inr hfound
  · intro hcond
    -- without a list nothing was probed, and nothing can have been found
    cases hexclude : op.exclude with
    | none =>
        rw [hexclude] at hlisted
        have hnone := Option.map_eq_none_iff.mp hlisted
        have hempty : p.foundEntries op info w₁.env = [] := by
          have hsub := p.foundEntries_sublist op info w₁.env
          rw [hexclude] at hsub
          exact List.sublist_nil.mp hsub
        rw [hempty]
        refine ⟨by rw [hnone]; rfl, fun _ => ?_⟩
        rw [Ctap2MakeCredentialRequest.hasExcludeList_iff, hnone]
        simp
    | some credentials =>
        rw [hexclude] at hlisted hcond
        obtain ⟨exclude, hsent, hkeys⟩ := Option.map_eq_some_iff.mp hlisted
        rcases hcond with hnone | hfound
        · cases hnone
        · exact ⟨by rw [hsent]; exact hkeys, fun hempty => absurd hempty hfound⟩

end Platform

/-! ## §4. A credential found, and one that is not. -/

theorem namesProbed_storedPlatform (stored : List (Bytes × Bytes)) :
    (storedPlatform stored).NamesProbed (·.id) :=
  fun h => ((holdsCredentials_storedPlatform stored).found h).2.1

/-- One listed credential, under the relying party alone. -/
def listingOp : MakeCredentialRequest :=
  { plainMakeCredentialOp with
    userVerification := .discouraged
    exclude := some [listedCredential 1] }

set_option maxRecDepth 8000 in
/-- A device that holds the listed credential: the list is sent. -/
theorem exclude_onWire_held :
    ∃ a ∈ (storedPlatform [storedUnder "example.org" 1]).madeAttempts 3 listingOp (.start () none),
      ExcludeOnWire (·.id) ((storedPlatform [storedUnder "example.org" 1]).foundEntries listingOp
        {} ()) a.sent := by
  have hmem : _ ∈ (storedPlatform [storedUnder "example.org" 1]).madeAttempts 3 listingOp
      (.start () none) := List.mem_of_head? rfl
  refine ⟨_, hmem, (exclude_onWire_iff (namesProbed_storedPlatform _) rfl rfl hmem).mpr
    (Or.inr ?_)⟩
  show (storedPlatform [storedUnder "example.org" 1]).foundEntries listingOp {} () ≠ []
  decide

set_option maxRecDepth 8000 in
/-- A device that does not: an empty list is sent. -/
theorem exclude_not_onWire :
    (storedPlatform []).NamesProbed (·.id)
      ∧ (storedPlatform []).foundEntries listingOp {} () = []
      ∧ ∃ a ∈ (storedPlatform []).madeAttempts 3 listingOp (.start () none),
          a.sent.exclude = some [] ∧ a.sent.HasExcludeList :=
  ⟨namesProbed_storedPlatform [], rfl, _, List.mem_of_head? rfl, rfl,
    (Ctap2MakeCredentialRequest.hasExcludeList_iff _).mpr rfl⟩

end Libwebauthn
