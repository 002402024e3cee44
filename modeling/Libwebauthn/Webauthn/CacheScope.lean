/-
  Libwebauthn.Webauthn.CacheScope — the scope of the ephemeral token cache.

  Over any run of moves on a channel, a token that is found there was minted
  by one of the verifications of the run, and nothing has touched the store
  since (`exists_mint`).  The permission kept with it is that of the request
  it was minted for, so a lookup that succeeds is within that scope
  (`ephemeral_cache_scope`).
-/
import Libwebauthn.Lib.Steps
import Libwebauthn.Webauthn.TokenCache
import Libwebauthn.Webauthn.Operations
import Libwebauthn.Webauthn.Required

namespace Libwebauthn

open Ctap2UserVerifiableRequest

variable {σ T R : Type} [Ctap2UserVerifiableRequest R]

/-! ## §1. The move that minted a token. -/

/-- A verification that, in `w`, minted `token` within `scope` and left it
on the channel in `data`. -/
inductive MintedBy (p : ManagedPlatform σ T) (w : World σ T) (scope : Ctap2AuthTokenPermission)
    (data : AuthTokenData) (token : Bytes) : ChannelMove σ T → Prop where
  | intro {R : Type} [Ctap2UserVerifiableRequest R] {fuel : Nat}
      {requirement : UserVerificationRequirement} {request : R} {info : Ctap2GetInfoResponse}
      (hinfo : (p.getInfo w.env).1 = .ok info)
      (hscope : scope = ⟨data.protocolVersion, permissions (p.prepareRequest info request),
        permissionsRpid (p.prepareRequest info request)⟩)
      (hminted : Minted p.crypto (w.wire ++ [.getInfo (.ok info)]) (p.prepareRequest info request)
        data token (p.userVerification fuel requirement request w).2.wire) :
      MintedBy p w scope data token (.userVerification fuel requirement request)

namespace MintedBy

variable {p : ManagedPlatform σ T} {w : World σ T} {scope : Ctap2AuthTokenPermission}
  {data : AuthTokenData} {token : Bytes} {move : ChannelMove σ T}

/-- What is kept with a token is the scope it was minted for. -/
theorem permission (h : MintedBy p w scope data token move) : data.permission = some scope := by
  cases h with
  | intro hinfo hscope hminted => rw [hminted.permission, hscope]

theorem holds (h : MintedBy p w scope data token move) : data.pinUvAuthToken = some token := by
  cases h with
  | intro hinfo hscope hminted => exact hminted.holds

end MintedBy

/-- **A move that changes the auth data** to data with a token minted it. -/
theorem mintedBy_of_change {p : ManagedPlatform σ T} {w : World σ T} {move : ChannelMove σ T}
    {data : AuthTokenData} {token : Bytes}
    (hchange : (move.run p w).session.authData ≠ w.session.authData)
    (hdata : (move.run p w).session.authData = some data)
    (htoken : data.pinUvAuthToken = some token) :
    ∃ scope, MintedBy p w scope data token move := by
  cases move with
  | clearUvAuthTokenStore => cases hdata
  | reset => exact absurd (congrArg Session.authData (p.dialogue_reset.keeps_session w)) hchange
  | other effect keeps => exact absurd (keeps w) hchange
  | userVerification fuel requirement request =>
      rcases p.userVerification_leaves fuel requirement request w with hkept | ⟨info, hinfo, hleft⟩
      · exact absurd hkept hchange
      rcases hleft with hkept | ⟨data', hdata', hwhat⟩
      · exact absurd hkept hchange
      obtain rfl := Option.some.inj (hdata.symm.trans hdata')
      rcases hwhat with hnone | ⟨token', hminted⟩
      · cases htoken.symm.trans hnone
      · obtain rfl := Option.some.inj (htoken.symm.trans hminted.holds)
        exact ⟨_, .intro hinfo rfl hminted⟩

/-- **Where a token on the channel comes from**: one move of the run minted
it, and the store is the same after every move since. -/
theorem exists_mint (p : ManagedPlatform σ T) (env : σ) (moves : List (ChannelMove σ T))
    {data : AuthTokenData} {token : Bytes}
    (hdata : (channelRun p (.start env none) moves).session.authData = some data)
    (htoken : data.pinUvAuthToken = some token) :
    ∃ earlier move later scope, moves = earlier ++ move :: later
      ∧ MintedBy p (channelRun p (.start env none) earlier) scope data token move
      ∧ ∀ mid, mid <+: later →
          (channelRun p (.start env none) (earlier ++ move :: mid)).session.authData
            = some data := by
  obtain ⟨earlier, move, later, hmoves, hchange, hsame⟩ := exists_last_change
    (fun w : World σ T => w.session.authData) (.start env none) moves
    (show (channelRun p (.start env none) moves).session.authData ≠ none by
      rw [hdata]
      exact Option.some_ne_none data)
  have hkept : ∀ mid, mid <+: later →
      (channelRun p (.start env none) (earlier ++ move :: mid)).session.authData = some data :=
    fun mid hmid => (hsame mid hmid).trans hdata
  have hafter := hkept [] (List.nil_prefix)
  rw [channelRun, List.foldl_append] at hafter
  obtain ⟨scope, hminted⟩ := mintedBy_of_change hchange hafter htoken
  exact ⟨earlier, move, later, scope, hmoves, hminted, hkept⟩

/-! ## §2. Lookups. -/

/-- A stored permission that covers a requested one: same protocol, same
relying party or none, and at least the requested roles. -/
theorem getUvAuthToken_scope {data : AuthTokenData} {scope requested : Ctap2AuthTokenPermission}
    {token : Bytes} (hscope : data.permission = some scope)
    (h : getUvAuthToken (some data) requested = some token) :
    scope.pinUvAuthProtocol = requested.pinUvAuthProtocol ∧ scope.rpid = requested.rpid
      ∧ scope.role.contains requested.role = true := by
  unfold getUvAuthToken Ctap2AuthTokenPermission.contains at h
  simp only [hscope] at h
  by_cases hprotocol : scope.pinUvAuthProtocol = requested.pinUvAuthProtocol
  · by_cases hrpid : scope.rpid = requested.rpid
    · by_cases hrole : scope.role.contains requested.role = true
      · exact ⟨hprotocol, hrpid, hrole⟩
      · simp [hprotocol, hrpid, hrole] at h
    · simp [hprotocol, hrpid] at h
  · simp [hprotocol] at h

/-- `request'` is `request` authenticated with a token that was minted in
the run of `moves`, within a scope that covers it, and that has been in the
store ever since. -/
def AuthenticatedWithinScope (p : ManagedPlatform σ T) (env : σ)
    (moves : List (ChannelMove σ T)) (request request' : R) : Prop :=
  ∃ info version token,
    (p.getInfo (channelRun p (.start env none) moves).env).1 = .ok info
      ∧ calculateAndSetUvAuth p.crypto (p.prepareRequest info request) version token
        = .ok request'
      ∧ ∃ earlier mint later scope data, moves = earlier ++ mint :: later
        ∧ MintedBy p (channelRun p (.start env none) earlier) scope data token mint
        ∧ scope.pinUvAuthProtocol = version
        ∧ scope.rpid = permissionsRpid (p.prepareRequest info request)
        ∧ scope.role.contains (permissions (p.prepareRequest info request)) = true
        ∧ ∀ mid, mid <+: later →
            (channelRun p (.start env none) (earlier ++ mint :: mid)).session.authData
              = some data

/-- **The scope of the ephemeral token cache.**  After any run of moves on a
channel, a verification that takes its token from the cache takes one that
was minted for its protocol, its relying party and at least its permissions,
with nothing cleared or stored since; and a verification of a request that
wants a persistent token puts no token there.  Every sequence of operations
is such a run. -/
theorem ephemeral_cache_scope (p : ManagedPlatform σ T) (env : σ)
    (moves : List (ChannelMove σ T)) (fuel : Nat) (requirement : UserVerificationRequirement)
    (request : R) :
    (∀ request' w', p.userVerification fuel requirement request
        (channelRun p (.start env none) moves) = (.ok (.fromEphemeralStorage, request'), w') →
      AuthenticatedWithinScope p env moves request request')
    ∧ (∀ info, (p.getInfo (channelRun p (.start env none) moves).env).1 = .ok info →
        wantsPersistentToken (p.prepareRequest info request) = true →
        let w' := (p.userVerification fuel requirement request
          (channelRun p (.start env none) moves)).2
        w'.session.authData = (channelRun p (.start env none) moves).session.authData
          ∨ ∃ data, w'.session.authData = some data ∧ data.pinUvAuthToken = none)
    ∧ ∀ ops : List (ChannelOperation σ T), ∃ run,
        channelRun p (.start env none) run
          = ops.foldl (ChannelOperation.run p) (.start env none) := by
  refine ⟨?_, ?_, fun ops => operations_reach p ops _⟩
  · intro request' w' hrun
    have hused := (p.userVerification_cached fuel requirement request _).ok rfl hrun rfl
    generalize hw : channelRun p (.start env none) moves = w at hused
    cases hused with
    | @ephemeral info version token _ hinfo htoken hauth =>
        obtain ⟨data, hdata, hholds⟩ := getUvAuthToken_eq_some htoken
        -- the token was minted by an earlier move, and kept since
        obtain ⟨earlier, mint, later, scope, hmoves, hminted, hkept⟩ :=
          exists_mint p env moves (hw ▸ hdata) hholds
        rw [hdata] at htoken
        obtain ⟨hprotocol, hrpid, hrole⟩ := getUvAuthToken_scope hminted.permission htoken
        exact ⟨info, version, token, hw ▸ hinfo, hauth, earlier, mint, later, scope, data,
          hmoves, hminted, hprotocol, hrpid, hrole, hkept⟩
  · intro info hinfo hwants
    rcases p.userVerification_leaves fuel requirement request _ with hkept | ⟨info', hinfo', hleft⟩
    · exact Or.inl hkept
    obtain rfl := Except.ok.inj (hinfo.symm.trans hinfo')
    rcases hleft with hkept | ⟨data, hdata, hnone | ⟨token, hminted⟩⟩
    · exact Or.inl hkept
    · exact Or.inr ⟨data, hdata, hnone⟩
    · exact absurd (hwants.symm.trans hminted.ephemeral) (by decide)

/-- Queued answers, with a persistent token store that stays empty. -/
def storePlatform : ManagedPlatform MockChannel Empty where
  toPlatform := { mockPlatform true with persistentTokenStore := true }
  authenticatorReset s := (.ok (), s)

/-- A device with built-in UV that has persistent tokens for credential
management, and hands out one token. -/
def persistentInfo : Ctap2GetInfoResponse :=
  { builtInUvInfo with
    options := some [("uv", true), ("pinUvAuthToken", true), ("clientPin", false),
      ("credMgmt", true), ("perCredMgmtRO", true)] }

def persistentDevice : MockChannel :=
  { verifyingDevice with getInfo := [persistentInfo, persistentInfo] }

def metadataRequest : Ctap2CredentialManagementRequest where
  subcommand := some .getCredsMetadata
  subcommandParams := none
  protocol := none
  uvAuthParam := none
  useLegacyPreview := false
  usePersistentToken := false
  persistentTokenRejected := false

/-- A token minted for a registration serves the next one, and a persistent
one for credential management leaves the cache empty. -/
theorem ephemeral_cache_scope_reused :
    (∃ request', AuthenticatedWithinScope storePlatform persistentDevice
      [.userVerification 3 .required plainMakeCredential] plainMakeCredential request')
    ∧ ((storePlatform.userVerification 3 .required metadataRequest
        (.start persistentDevice none)).2.session.authData = none
      ∨ ∃ data, (storePlatform.userVerification 3 .required metadataRequest
        (.start persistentDevice none)).2.session.authData = some data
          ∧ data.pinUvAuthToken = none) :=
  ⟨⟨_, (ephemeral_cache_scope storePlatform persistentDevice
      [.userVerification 3 .required plainMakeCredential] 3 .required
      plainMakeCredential).1 _ _ rfl⟩,
    (ephemeral_cache_scope storePlatform persistentDevice [] 3 .required metadataRequest).2.1
      persistentInfo rfl (by decide)⟩

end Libwebauthn
