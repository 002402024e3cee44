/-
  Libwebauthn.Webauthn.StaleTokens — tokens across a reset and a changed PIN
  (`src/management/authenticator_reset.rs`, `src/pin/mod.rs`).

  A reset, and setting or changing the PIN, end the validity of every token
  obtained before.  The code drops the recognized record of the persistent
  store then, and nothing else: a token on the channel stays there, and so
  do the other records (`leftBehind`).
-/
import Libwebauthn.Webauthn.CacheScope

namespace Libwebauthn

open Ctap2UserVerifiableRequest

variable {σ T : Type}

/-! ## §1. Moves that invalidate tokens. -/

/-- A PIN that was set or changed. -/
def Exchange.changesPin : Exchange T → Bool
  | .clientPin request (.ok _) =>
      decide (request.command = .setPin) || decide (request.command = .changePin)
  | _ => false

/-- Whether a move is a successful reset, or sets or changes the PIN, which
a verification may do as well. -/
def ChannelMove.invalidates (p : ManagedPlatform σ T) (w : World σ T)
    (move : ChannelMove σ T) : Bool :=
  match move with
  | .reset =>
      match (p.reset w).1 with
      | .ok () => true
      | _ => false
  | move => ((move.run p w).wire.drop w.wire.length).any Exchange.changesPin

/-- The token on the channel. -/
def World.cachedToken (w : World σ T) : Option Bytes :=
  w.session.authData.bind (·.pinUvAuthToken)

/-- The records that were listed before a move and still are after it. -/
def leftBehind (p : ManagedPlatform σ T) (w w' : World σ T) :
    List (PersistentTokenRecordId × PersistentTokenRecord) :=
  (p.storeList w'.env).1.filter fun entry => decide (entry ∈ (p.storeList w.env).1)

/-! ## §2. Runs without stale tokens. -/

section

variable (p : ManagedPlatform σ T) (env : σ)

/-- The world a run on a new channel leads to. -/
abbrev worldAfter (moves : List (ChannelMove σ T)) : World σ T :=
  channelRun p (.start env none) moves

/-- The token on the channel after `moves` is one of theirs: a move minted
it, and none after that invalidated it. -/
def ObtainedSince (moves : List (ChannelMove σ T)) (token : Bytes) : Prop :=
  ∃ earlier mint later scope data, moves = earlier ++ mint :: later
    ∧ MintedBy p (worldAfter p env earlier) scope data token mint
    ∧ (worldAfter p env moves).session.authData = some data
    ∧ ∀ before move after, later = before ++ move :: after →
        move.invalidates p (worldAfter p env (earlier ++ mint :: before)) = false

/-- No move that invalidated tokens left the record behind. -/
def NotLeftBehind (moves : List (ChannelMove σ T))
    (entry : PersistentTokenRecordId × PersistentTokenRecord) : Prop :=
  ∀ earlier move later, moves = earlier ++ move :: later →
    move.invalidates p (worldAfter p env earlier) = true →
      entry ∉ leftBehind p (worldAfter p env earlier) (move.run p (worldAfter p env earlier))

/-- What a verification after `moves` used is no token from before a move
that invalidated it. -/
def UsesCurrentToken {R : Type} [Ctap2UserVerifiableRequest R] (moves : List (ChannelMove σ T))
    (request : R) (used : UsedPinUvAuthToken) (request' : R) : Prop :=
  match used with
  | .fromEphemeralStorage => ∃ info version token,
      (worldAfter p env moves).cachedToken = some token ∧ ObtainedSince p env moves token
      ∧ calculateAndSetUvAuth p.crypto (p.prepareRequest info request) version token
        = .ok request'
  | .fromPersistentStorage id => ∃ info record,
      (id, record) ∈ (p.storeList (p.getInfo (worldAfter p env moves).env).2).1
      ∧ NotLeftBehind p env moves (id, record)
      ∧ calculateAndSetUvAuth p.crypto (p.prepareRequest info request)
        record.pinUvAuthProtocol record.persistentToken = .ok request'
  | _ => True

/-- **Stale tokens are not used**: not by the verifications of the run, nor
is there one on the channel for a command that takes what it finds. -/
structure TokensCurrent (moves : List (ChannelMove σ T)) : Prop where
  used : ∀ {R : Type} [Ctap2UserVerifiableRequest R] {earlier later : List (ChannelMove σ T)}
    {fuel : Nat} {requirement : UserVerificationRequirement} {request : R}
    {used : UsedPinUvAuthToken} {request' : R} {w' : World σ T},
    moves = earlier ++ .userVerification fuel requirement request :: later →
      p.userVerification fuel requirement request (worldAfter p env earlier)
        = (.ok (used, request'), w') →
      UsesCurrentToken p env earlier request used request'
  held : ∀ {earlier later : List (ChannelMove σ T)} {token : Bytes}, moves = earlier ++ later →
    (worldAfter p env earlier).cachedToken = some token → ObtainedSince p env earlier token

end

/-! ## §3. The condition. -/

/-- A world, with the records that moves which invalidated tokens have left
behind so far. -/
structure Watched (σ T : Type) where
  world : World σ T
  stale : List (PersistentTokenRecordId × PersistentTokenRecord) := []

def Watched.step (p : ManagedPlatform σ T) (s : Watched σ T) (move : ChannelMove σ T) :
    Option (Watched σ T) :=
  some
    { world := move.run p s.world
      stale := if move.invalidates p s.world then
          s.stale ++ leftBehind p s.world (move.run p s.world)
        else s.stale }

/-- Whether one of the records recognizes the device that answers next. -/
def recognizesAny (p : ManagedPlatform σ T) (w : World σ T)
    (records : List (PersistentTokenRecordId × PersistentTokenRecord)) : Bool :=
  match (p.getInfo w.env).1 with
  | .ok info =>
      (info.encIdentifier.map fun encIdentifier =>
        records.any fun entry => entry.2.recognizes p.crypto encIdentifier).getD false
  | .error _ => false

def ChannelMove.isUserVerification : ChannelMove σ T → Bool
  | @ChannelMove.userVerification _ _ _ _ _ _ _ => true
  | _ => false

/-- Tokens are invalidated only while the channel holds none, and a
verification meets no device that a record left behind recognizes. -/
def LeavesNoToken (p : ManagedPlatform σ T) (s : Watched σ T) (move : ChannelMove σ T) : Prop :=
  (move.invalidates p s.world = true → s.world.cachedToken = none)
    ∧ (move.isUserVerification = true → recognizesAny p s.world s.stale = false)

instance (p : ManagedPlatform σ T) (s : Watched σ T) (move : ChannelMove σ T) :
    Decidable (LeavesNoToken p s move) :=
  inferInstanceAs (Decidable (_ ∧ _))

/-- The splits of a list with one more element. -/
theorem concat_eq_append_cons {α : Type*} {xs ys zs : List α} {x y : α}
    (h : xs ++ [x] = ys ++ y :: zs) :
    (ys = xs ∧ y = x) ∨ ∃ zs', xs = ys ++ y :: zs' := by
  rcases List.eq_nil_or_concat zs with rfl | ⟨zs', z, rfl⟩
  · obtain ⟨hys, hy⟩ := List.append_inj' h rfl
    exact Or.inl ⟨hys.symm, (List.cons.inj hy).1.symm⟩
  · rw [List.concat_eq_append, ← List.cons_append, ← List.append_assoc] at h
    exact Or.inr ⟨zs', (List.append_inj' h rfl).1⟩

/-- What is watched in a run: every record that was left behind. -/
theorem runSteps_watched (p : ManagedPlatform σ T) (env : σ) (moves : List (ChannelMove σ T)) :
    ∃ stale, runSteps (Watched.step p) { world := .start env none } moves
        = some ⟨worldAfter p env moves, stale⟩
      ∧ ∀ entry, entry ∉ stale → NotLeftBehind p env moves entry := by
  induction moves using List.reverseRecOn with
  | nil =>
      refine ⟨[], rfl, fun entry _ earlier move later hmoves => ?_⟩
      simp at hmoves
  | append_singleton moves last ih =>
      obtain ⟨stale, hrun, hstale⟩ := ih
      have hworld : worldAfter p env (moves ++ [last]) = last.run p (worldAfter p env moves) :=
        List.foldl_append
      refine ⟨if last.invalidates p (worldAfter p env moves) then
          stale ++ leftBehind p (worldAfter p env moves) (last.run p (worldAfter p env moves))
        else stale, ?_, ?_⟩
      · rw [runSteps_append, hrun, hworld]
        rfl
      · intro entry hentry earlier move later hmoves hinvalidates
        rcases concat_eq_append_cons hmoves with ⟨rfl, rfl⟩ | ⟨later', rfl⟩
        · rw [if_pos hinvalidates, List.mem_append] at hentry
          exact fun hmem => hentry (Or.inr hmem)
        · refine hstale entry (fun hmem => hentry ?_) earlier move later' rfl hinvalidates
          split
          · exact List.mem_append_left _ hmem
          · exact hmem

/-! ## §4. Runs that meet it. -/

section

variable {p : ManagedPlatform σ T} {env : σ} {moves earlier later : List (ChannelMove σ T)}

/-- The condition at a move of the run. -/
theorem leavesNoToken_at
    (halong : Along (Watched.step p) (LeavesNoToken p) { world := .start env none } moves)
    {move : ChannelMove σ T} (hmoves : moves = earlier ++ move :: later) :
    ∃ stale, LeavesNoToken p ⟨worldAfter p env earlier, stale⟩ move
      ∧ ∀ entry, entry ∉ stale → NotLeftBehind p env earlier entry := by
  obtain ⟨stale, hrun, hstale⟩ := runSteps_watched p env earlier
  exact ⟨stale, Along.at_step (hmoves ▸ halong) hrun, hstale⟩

/-- A token on the channel has been minted since the last invalidation: had
it been there then, the condition would not have held. -/
theorem obtainedSince_of_held
    (halong : Along (Watched.step p) (LeavesNoToken p) { world := .start env none } moves)
    (hmoves : moves = earlier ++ later) {token : Bytes}
    (hheld : (worldAfter p env earlier).cachedToken = some token) :
    ObtainedSince p env earlier token := by
  obtain ⟨data, hdata, hholds⟩ := Option.bind_eq_some_iff.mp hheld
  obtain ⟨before, mint, after, scope, rfl, hminted, hkept⟩ :=
    exists_mint p env earlier hdata hholds
  refine ⟨before, mint, after, scope, data, rfl, hminted, hdata, ?_⟩
  rintro first move rest rfl
  have hsplit : moves = (before ++ mint :: first) ++ move :: (rest ++ later) := by
    rw [hmoves]
    simp
  obtain ⟨stale, hcondition, -⟩ := leavesNoToken_at halong hsplit
  by_contra hinvalidates
  have hnone := hcondition.1 (by simpa using hinvalidates)
  have hsome : (worldAfter p env (before ++ mint :: first)).cachedToken = some token :=
    Option.bind_eq_some_iff.mpr ⟨data, hkept first (List.prefix_append _ _), hholds⟩
  exact absurd (hsome.symm.trans hnone) (by simp)

end

/-- **Tokens stay current** in every run that resets the authenticator and
sets or changes its PIN only while the channel holds no token, and that
meets no device which a record left behind recognizes. -/
theorem tokens_current (p : ManagedPlatform σ T) (env : σ) (moves : List (ChannelMove σ T))
    (halong : Along (Watched.step p) (LeavesNoToken p) { world := .start env none } moves) :
    TokensCurrent p env moves where
  held hmoves hheld := obtainedSince_of_held halong hmoves hheld
  used := by
    intro R _ earlier later fuel requirement request used request' w' hmoves hrun
    by_cases hcached : used.isCached = true
    · have huse := (p.userVerification_cached fuel requirement request _).ok rfl hrun hcached
      obtain ⟨stale, hcondition, hstale⟩ := leavesNoToken_at halong hmoves
      generalize hw : worldAfter p env earlier = w at huse
      cases huse with
      | @ephemeral info version token _ hinfo htoken hauth =>
          obtain ⟨data, hdata, hholds⟩ := getUvAuthToken_eq_some htoken
          have hheld : (worldAfter p env earlier).cachedToken = some token :=
            Option.bind_eq_some_iff.mpr ⟨data, hw ▸ hdata, hholds⟩
          exact ⟨info, version, token, hheld, obtainedSince_of_held halong hmoves hheld, hauth⟩
      | @persistent info encIdentifier id record _ hinfo henc hlisted hrecognizes hauth =>
          refine ⟨info, record, hw ▸ hlisted, hstale _ fun hmem => ?_, hauth⟩
          -- a record left behind would have recognized the device
          have hnone := hcondition.2 rfl
          unfold recognizesAny at hnone
          rw [hw, hinfo] at hnone
          simp only [henc, Option.map_some, Option.getD_some, List.any_eq_false] at hnone
          exact hnone _ hmem hrecognizes
    · -- no token was reused
      cases used <;> trivial

/-! ## §5. A token that outlives its validity. -/

/-- Setting or changing the PIN, as a move. -/
def pinChange (p : ManagedPlatform σ T) (newPin : String) : ChannelMove σ T :=
  .other (fun w => (p.changePin newPin w).2) fun w =>
    congrArg Session.authData ((p.dialogue_changePin newPin).keeps_session w)

theorem MintedBy.isUserVerification {p : ManagedPlatform σ T} {w : World σ T}
    {scope : Ctap2AuthTokenPermission} {data : AuthTokenData} {token : Bytes}
    {move : ChannelMove σ T} (h : MintedBy p w scope data token move) :
    move.isUserVerification = true := by
  cases h with
  | intro => rfl

/-- A first move that mints, a second one that invalidates, and then a
verification that finds a token on the channel. -/
theorem not_tokensCurrent {p : ManagedPlatform σ T} {env : σ} {first second : ChannelMove σ T}
    {R : Type} [Ctap2UserVerifiableRequest R] {fuel : Nat}
    {requirement : UserVerificationRequirement} {request request' : R} {w' : World σ T}
    (hsecond : second.isUserVerification = false)
    (hinvalidates : second.invalidates p (worldAfter p env [first]) = true)
    (hrun : p.userVerification fuel requirement request (worldAfter p env [first, second])
      = (.ok (.fromEphemeralStorage, request'), w')) :
    ¬ TokensCurrent p env [first, second, .userVerification fuel requirement request] := by
  intro h
  have hmoves : [first, second, .userVerification fuel requirement request]
      = [first, second] ++ .userVerification fuel requirement request :: [] := rfl
  obtain ⟨info, version, token, -, hobtained, -⟩ := h.used hmoves hrun
  obtain ⟨earlier, mint, later, scope, data, hsplit, hminted, -, hnone⟩ := hobtained
  rcases earlier with _ | ⟨_, earlier⟩
  · -- the first move minted it, and the second one came after
    obtain ⟨rfl, rfl⟩ := List.cons.inj hsplit
    exact absurd ((hnone [] second [] rfl).symm.trans hinvalidates) (by decide)
  · obtain ⟨rfl, hrest⟩ := List.cons.inj hsplit
    rcases earlier with _ | ⟨_, earlier⟩
    · obtain ⟨rfl, -⟩ := List.cons.inj hrest
      exact absurd (hsecond.symm.trans hminted.isUserVerification) (by decide)
    · exact absurd (List.cons.inj hrest).2 (by simp)

/-- The device of the counterexample: one token, and a PIN that can be set. -/
def invalidatingDevice : MockChannel :=
  { getInfo := [builtInUvInfo, builtInUvInfo, builtInUvInfo]
    clientPin := [.ok keyAgreementAnswer, .ok { pinUvAuthToken := some (List.replicate 32 9) },
      .ok keyAgreementAnswer, .ok {}] }

/-- The token minted for a registration is used for the next one, although
the PIN was set in between, or the authenticator reset. -/
theorem tokens_not_current :
    ¬ TokensCurrent storePlatform invalidatingDevice
        [.userVerification 3 .required plainMakeCredential, pinChange storePlatform "1234",
          .userVerification 3 .required plainMakeCredential]
    ∧ ¬ TokensCurrent storePlatform invalidatingDevice
        [.userVerification 3 .required plainMakeCredential, .reset,
          .userVerification 3 .required plainMakeCredential] :=
  ⟨not_tokensCurrent rfl (by decide +kernel) rfl, not_tokensCurrent rfl (by decide +kernel) rfl⟩

/-- A PIN set before there is a token: the token minted then may be used
again. -/
theorem tokens_current_renewed :
    TokensCurrent storePlatform
      { invalidatingDevice with
        clientPin := invalidatingDevice.clientPin.drop 2 ++ invalidatingDevice.clientPin.take 2 }
      [pinChange storePlatform "1234", .userVerification 3 .required plainMakeCredential,
        .userVerification 3 .required plainMakeCredential] :=
  tokens_current _ _ _ (by decide +kernel)

end Libwebauthn
