/-
  Libwebauthn.Webauthn.PinAgreement — the PIN that is set and the PIN that is
  verified (`change_pin_internal` and `pin_hash` of `src/pin/mod.rs`,
  `obtain_pin` of `src/webauthn/pin_uv_auth_token.rs`).

  An authenticator decrypts what it is sent under the secret it shares with
  the platform.  A new PIN comes padded with zero bytes, which it drops; a PIN
  to verify comes as its hash.

    • `seals_changePinInternal`, `seals_userVerification` — every PIN of a run
      is sealed for the key that the authenticator has just named;
    • `pins_agree_iff` — when it finds the same PIN in both.
-/
import Libwebauthn.Webauthn.CacheScope
import Libwebauthn.Webauthn.PrfSalts
import Libwebauthn.Lib.Trace
import Libwebauthn.Lib.Utf8
import Mathlib.Data.List.DropRight

namespace Libwebauthn

open Platform

variable {σ T R : Type} [Ctap2UserVerifiableRequest R]

/-! ## §1. What an authenticator finds in a request. -/

/-- Drop all trailing zero bytes. -/
def stripZeros (bytes : Bytes) : Bytes := bytes.rdropWhile (· == 0)

/-- The bytes of a PIN. -/
def Crypto.pinBytes (crypto : Crypto) (pin : String) : Bytes := utf8 (crypto.nfc pin)

/-- ECDH gives both sides the same point. -/
def Crypto.DhAgrees (crypto : Crypto) : Prop :=
  ∀ a b, crypto.diffieHellman a (crypto.publicKey b).1 (crypto.publicKey b).2
    = crypto.diffieHellman b (crypto.publicKey a).1 (crypto.publicKey a).2

/-- The secret an authenticator with this private key shares with the owner of
a public key. -/
def authenticatorSecret (crypto : Crypto) (privateKey : Bytes)
    (version : Ctap2PinUvAuthProtocol) : PublicKey → Option Bytes
  | .ecdhEsHkdf256Key x y => (crypto.diffieHellman privateKey x y).map fun shared =>
      (⟨version, privateKey⟩ : PinUvAuthProtocol).kdf crypto shared
  | _ => none

/-- What an authenticator decrypts a part of the request to. -/
def opened (crypto : Crypto) (privateKey : Bytes) (request : Ctap2ClientPinRequest)
    (ciphertext : Option Bytes) : Option Bytes :=
  request.protocol.bind fun version => request.keyAgreement.bind fun key =>
    (authenticatorSecret crypto privateKey version key).bind fun secret =>
      ciphertext.bind fun ciphertext => (version.decrypt crypto secret ciphertext).toOption

/-- The PIN that is set. -/
def recoveredPin (crypto : Crypto) (privateKey : Bytes) (request : Ctap2ClientPinRequest) :
    Option Bytes :=
  (opened crypto privateKey request request.newPinEncrypted).map stripZeros

/-- The hash of the PIN that is entered. -/
def recoveredHash (crypto : Crypto) (privateKey : Bytes) (request : Ctap2ClientPinRequest) :
    Option Bytes :=
  opened crypto privateKey request request.pinHashEncrypted

/-- A PIN hash in the request is that of an entered PIN, and a new PIN is a
chosen one with its padding. -/
structure SealsPins (crypto : Crypto) (privateKey : Bytes) (entered chosen : String → Prop)
    (request : Ctap2ClientPinRequest) : Prop where
  hash : request.pinHashEncrypted.isSome = true → ∃ pin, entered pin
    ∧ recoveredHash crypto privateKey request = some (pinHash crypto (crypto.pinBytes pin))
  newPin : request.newPinEncrypted.isSome = true → ∃ pin, chosen pin
    ∧ recoveredPin crypto privateKey request = some (stripZeros (crypto.pinBytes pin))

/-- A request without either. -/
theorem SealsPins.plain {crypto : Crypto} {privateKey : Bytes} {entered chosen : String → Prop}
    {request : Ctap2ClientPinRequest} (hhash : request.pinHashEncrypted = none)
    (hnew : request.newPinEncrypted = none) :
    SealsPins crypto privateKey entered chosen request :=
  ⟨fun h => (by rw [hhash] at h; cases h), fun h => (by rw [hnew] at h; cases h)⟩

/-- A PIN hash or a new PIN is in the request. -/
def Ctap2ClientPinRequest.CarriesPin (request : Ctap2ClientPinRequest) : Prop :=
  request.pinHashEncrypted.isSome = true ∨ request.newPinEncrypted.isSome = true

/-- Neither a PIN hash nor a new PIN is sent. -/
def Exchange.Pinless : Exchange T → Prop
  | .clientPin request _ => ¬ request.CarriesPin
  | _ => True

/-- What only reads carries no PIN. -/
theorem Exchange.Query.pinless {x : Exchange T} (h : x.Query) : x.Pinless := by
  cases x with
  | clientPin request answer =>
      rintro (hhash | hnew) <;> cases h <;> contradiction
  | _ => exact h.elim

/-- The key agreement key of the authenticator with this private key. -/
def Crypto.coseKey (crypto : Crypto) (privateKey : Bytes) : PublicKey :=
  .ecdhEsHkdf256Key (crypto.publicKey privateKey).1 (crypto.publicKey privateKey).2

/-- The key agreement key that the answer names. -/
def Exchange.named : Exchange T → Option PublicKey
  | .clientPin request (.ok response) =>
      if request.command = .getKeyAgreement then response.keyAgreement else none
  | _ => none

/-- Whoever has the private key of the one that was named, which is in `K`,
finds in the request what it says to seal. -/
def SealsFor (crypto : Crypto) (K : PublicKey → Prop) (entered chosen : String → Prop)
    (named : Option PublicKey) (request : Ctap2ClientPinRequest) : Prop :=
  ∃ key, named = some key ∧ K key ∧ ∀ privateKey, key = crypto.coseKey privateKey →
    SealsPins crypto privateKey entered chosen request

/-- PINs are sealed for the key that the exchange right before has named. -/
def sealing (T : Type) (crypto : Crypto) (K : PublicKey → Prop) (entered chosen : String → Prop) :
    Monitor (Option PublicKey) (Exchange T) where
  next _ x := x.named
  allows
    | named, .clientPin request _ =>
        request.CarriesPin → SealsFor crypto K entered chosen named request
    | _, _ => True

/-- What is put on the wire. -/
def wireRecord (σ T : Type) : Record (World σ T) (Exchange T) where
  grows w w' events := w'.wire = w.wire ++ events
  refl w := (List.append_nil w.wire).symm
  trans h h' := by rw [h', h, List.append_assoc]

/-- The monitor lets pass what was sent since, whatever came before. -/
def World.Obeys {V : Type} (M : Monitor V (Exchange T)) (w w' : World σ T) : Prop :=
  ∃ sent, w'.wire = w.wire ++ sent ∧ ∀ v, M.Accepts v sent

instance {V : Type} (M : Monitor V (Exchange T)) : IsPreorder (World σ T) (World.Obeys M) where
  refl _ := ⟨[], (List.append_nil _).symm, fun _ => trivial⟩
  trans _ _ _ h h' := by
    obtain ⟨sent, hsent, haccepts⟩ := h
    obtain ⟨sent', hsent', haccepts'⟩ := h'
    refine ⟨sent ++ sent', ?_, fun v => Monitor.accepts_append.mpr ⟨haccepts v, haccepts' _⟩⟩
    rw [hsent', hsent, List.append_assoc]

namespace Platform

variable (p : Platform σ T)

/-- The device's key agreement key. -/
def HasKey (privateKey : Bytes) : Prop :=
  ∀ version s response key,
    (p.clientPin (.newGetKeyAgreement version) s).1 = .ok response →
      response.keyAgreement = some key →
        key = .ecdhEsHkdf256Key (p.crypto.publicKey privateKey).1 (p.crypto.publicKey privateKey).2

/-- The key agreement keys that the device names. -/
def Names (K : PublicKey → Prop) : Prop :=
  ∀ version s response key,
    (p.clientPin (.newGetKeyAgreement version) s).1 = .ok response →
      response.keyAgreement = some key → K key

/-- What the user enters when asked for the PIN. -/
def Enters (entered : String → Prop) : Prop :=
  ∀ reason attemptsLeft s pin, (p.pinRequired reason attemptsLeft s).1 = some pin → entered pin

/-- What the user chooses when asked to set one. -/
def Chooses (chosen : String → Prop) : Prop :=
  ∀ reason s pin, (p.pinNotSet reason s).1 = some pin → chosen pin

/-- The monitor lets pass what `m` puts on the wire. -/
abbrev Obeys {V : Type} (M : Monitor V (Exchange T)) {ε α : Type} (m : Proc (World σ T) ε α) :
    Prop :=
  Proc.Advances (World.Obeys M) m

/-- Every run of `m` that returns does so with a result in `Q`. -/
abbrev Yields {ε α : Type} (m : Proc (World σ T) ε α) (Q : α → Prop) : Prop :=
  Proc.Triple (fun _ => True) m (fun a _ => Q a) fun _ => True

variable {p}

/-- Sequences obey a monitor when the second part does after whatever the first
yields. -/
theorem obeys_bind {V : Type} {M : Monitor V (Exchange T)} {ε α β : Type}
    {m : Proc (World σ T) ε α} {k : α → Proc (World σ T) ε β} {Q : α → Prop} (hm : Obeys M m)
    (hyields : Yields m Q) (hk : ∀ a, Q a → Obeys M (k a)) : Obeys M (m >>= k) :=
  hm.bind_returning (fun _ => trivial) hyields hk

/-- What is yielded is what a run can return. -/
theorem yields_of_run {ε α : Type} {m : Proc (World σ T) ε α} {Q : α → Prop}
    (h : ∀ w a w', m w = (.ok a, w') → Q a) : Yields m Q := by
  intro w _
  rcases hrun : m w with ⟨outcome, w'⟩
  cases outcome with
  | ok a => exact h w a w' hrun
  | error e => trivial
  | running => trivial

theorem yields_liftPlatform {α : Type} (r : Except PlatformError α) :
    Yields (Ctap.liftPlatform r : Ctap σ T α) fun a => r = .ok a :=
  (returns_liftPlatform r fun _ => True).post fun _ _ h => h.1

/-! ## §2. Agreeing on a secret, encrypting, asking. -/

variable {K : PublicKey → Prop} {d : Bytes} {entered chosen : String → Prop}

/-- One exchange, and its answer. -/
theorem leaves_ctap2ClientPin (request : Ctap2ClientPinRequest) :
    Proc.Leaves (wireRecord σ T) (p.ctap2ClientPin request) fun outcome events =>
      (∃ response s, outcome = .ok response ∧ (p.clientPin request s).1 = .ok response
          ∧ events = [.clientPin request (.ok response)])
        ∨ ∃ e, outcome = .error e ∧ events = [.clientPin request (.error e)] := by
  intro w
  unfold ctap2ClientPin Ctap.command
  dsimp only
  cases hanswer : (p.clientPin request w.env).1 with
  | ok response => exact ⟨_, rfl, Or.inl ⟨response, w.env, rfl, hanswer, rfl⟩⟩
  | error e => exact ⟨_, rfl, Or.inr ⟨e, rfl, rfl⟩⟩

/-- What puts nothing on the wire. -/
theorem leaves_silent {α : Type} {m : Ctap σ T α} {Q : α → Prop}
    (h : Ctap.Dialogue (fun _ => False) m) (hyields : Yields m Q) :
    Proc.Leaves (wireRecord σ T) m fun outcome events =>
      events = [] ∧ ∀ a, outcome = .ok a → Q a := by
  intro w
  obtain ⟨sent, hsent, hnone⟩ := (h.sends w).wire
  obtain rfl := List.eq_nil_iff_forall_not_mem.mpr hnone
  exact ⟨[], hsent, rfl, fun a ha => hyields.ok trivial (Prod.ext ha rfl)⟩

/-- Whoever has the private key of `key` has the secret as well. -/
def SharedWith (crypto : Crypto) (version : Ctap2PinUvAuthProtocol) (keys : PublicKey × Bytes)
    (key : PublicKey) : Prop :=
  ∀ privateKey, key = crypto.coseKey privateKey →
    authenticatorSecret crypto privateKey version keys.1 = some keys.2

/-- The secret that is encapsulated for a key. -/
theorem sharedWith_encapsulate {crypto : Crypto} (hdh : crypto.DhAgrees)
    {uvProto : PinUvAuthProtocol} {key : PublicKey} {keys : PublicKey × Bytes}
    (h : uvProto.encapsulate crypto key = .ok keys) :
    SharedWith crypto uvProto.version keys key := by
  rintro d rfl
  obtain ⟨shared, hshared, hencapsulated⟩ := except_bind_eq_ok_iff.mp h
  obtain rfl := Except.ok.inj hencapsulated
  unfold PinUvAuthProtocol.ecdh Crypto.coseKey at hshared
  dsimp only at hshared
  split at hshared
  · split at hshared
    next point hpoint =>
      obtain rfl := Except.ok.inj hshared
      show (crypto.diffieHellman d _ _).map _ = _
      rw [hdh, hpoint]
      rfl
    next => cases hshared
  · cases hshared

/-- The device names its key, and the secret is for that key. -/
theorem leaves_obtainSharedSecret (hdh : p.crypto.DhAgrees) (hnames : p.Names K)
    (uvProto : PinUvAuthProtocol) :
    Proc.Leaves (wireRecord σ T) (p.obtainSharedSecret uvProto) fun outcome events =>
      (∃ answer, events = [.clientPin (.newGetKeyAgreement uvProto.version) answer])
        ∧ ∀ keys, outcome = .ok keys → ∃ x key, events = [x] ∧ x.named = some key ∧ K key
          ∧ SharedWith p.crypto uvProto.version keys key := by
  refine Proc.Leaves.bind (leaves_ctap2ClientPin _) ?_ ?_ ?_
  · rintro response _ (⟨_, s, hok, hanswer, rfl⟩ | ⟨_, h, -⟩)
    · obtain rfl := Outcome.ok.inj hok
      split
      · exact Proc.Leaves.throw ⟨⟨_, rfl⟩, fun _ h => by cases h⟩
      next key hkey =>
        refine (leaves_silent (.liftPlatform _) (yields_liftPlatform _)).mono ?_
        rintro outcome _ ⟨rfl, hkeys⟩
        refine ⟨⟨_, rfl⟩, fun keys houtcome => ⟨_, key, rfl, hkey, hnames _ _ _ _ hanswer hkey, ?_⟩⟩
        exact sharedWith_encapsulate hdh (hkeys keys houtcome)
    · cases h
  · rintro e _ (⟨_, _, h, -⟩ | ⟨_, -, rfl⟩)
    · cases h
    · exact ⟨⟨_, rfl⟩, fun _ h => by cases h⟩
  · rintro _ (⟨_, _, h, -⟩ | ⟨_, h, -⟩) <;> cases h

/-- What is encrypted decrypts to itself. -/
theorem yields_encrypt (hcbc : p.crypto.CbcInverts) (version : Ctap2PinUvAuthProtocol)
    (key : Bytes) {plaintext : Bytes} (hblocks : plaintext.length % 16 = 0) :
    Yields (p.encrypt version key plaintext) fun ciphertext =>
      version.decrypt p.crypto key ciphertext = .ok plaintext := by
  refine yields_of_run fun w ciphertext w' hrun => ?_
  obtain ⟨iv, w₁, hiv, hrun⟩ := Proc.bind_eq_ok_iff.mp hrun
  have hlength : iv.length = 16 := by
    rw [← Outcome.ok.inj (Prod.mk.inj hiv).1]
    exact p.random_length 16 _
  exact Ctap2PinUvAuthProtocol.decrypt_encrypt hcbc hlength hblocks
    ((yields_liftPlatform _).ok trivial hrun)

/-- The bytes of an entered PIN. -/
theorem yields_obtainPin (henters : p.Enters entered) (info : Ctap2GetInfoResponse)
    (pinProto : Ctap2PinUvAuthProtocol) (reason : PinRequestReason) :
    Yields (p.obtainPin info pinProto reason) fun bytes =>
      ∃ pin, entered pin ∧ bytes = p.crypto.pinBytes pin := by
  refine yields_of_run fun w bytes w' hrun => ?_
  obtain ⟨left, w₁, -, hrun⟩ := Proc.bind_eq_ok_iff.mp hrun
  obtain ⟨pin?, w₂, hask, hrun⟩ := Proc.bind_eq_ok_iff.mp hrun
  split at hrun
  · cases hrun
  next pin =>
    have hpin := Outcome.ok.inj (Prod.mk.inj hask).1
    rw [← Outcome.ok.inj (Prod.mk.inj hrun).1]
    exact ⟨pin, henters _ _ _ _ hpin, rfl⟩

/-- A hash is cut to sixteen bytes. -/
theorem length_pinHash (crypto : Crypto) (pin : Bytes) : (pinHash crypto pin).length = 16 := by
  unfold pinHash
  rw [List.length_take, crypto.sha256_length]
  rfl

/-- A request under the authenticator's secret, opened. -/
theorem opened_eq {request : Ctap2ClientPinRequest} {version : Ctap2PinUvAuthProtocol}
    {key : PublicKey} {secret ciphertext plaintext : Bytes}
    (hprotocol : request.protocol = some version) (hkeyAgreement : request.keyAgreement = some key)
    (hsecret : authenticatorSecret p.crypto d version key = some secret)
    (hdecrypt : version.decrypt p.crypto secret ciphertext = .ok plaintext) :
    opened p.crypto d request (some ciphertext) = some plaintext := by
  unfold opened
  rw [hprotocol, Option.bind_some, hkeyAgreement, Option.bind_some, hsecret, Option.bind_some,
    Option.bind_some, hdecrypt]
  rfl

/-! ## §3. Setting a PIN. -/

/-- Padding is what the device strips. -/
theorem stripZeros_padded (pin : Bytes) (n : Nat) :
    stripZeros (pin ++ List.replicate n 0) = stripZeros pin := by
  induction n with
  | zero => rw [List.replicate_zero, List.append_nil]
  | succ n ih =>
      unfold stripZeros at ih ⊢
      rw [List.replicate_succ', ← List.append_assoc, List.rdropWhile_concat_pos _ _ _ (by decide),
        ih]

/-- The request made of a new PIN and the current one, for an authenticator. -/
theorem yields_changePinRequest (hcbc : p.crypto.CbcInverts) {version : Ctap2PinUvAuthProtocol}
    {publicKey : PublicKey} {sharedSecret newPinEnc : Bytes} {currentPin : Option Bytes}
    (hsecret : authenticatorSecret p.crypto d version publicKey = some sharedSecret)
    {newPin : String} {n : Nat} (hchosen : chosen newPin)
    (hnew : version.decrypt p.crypto sharedSecret newPinEnc
      = .ok (p.crypto.pinBytes newPin ++ List.replicate n 0))
    (hcurrent : ∀ bytes, currentPin = some bytes →
      ∃ pin, entered pin ∧ bytes = p.crypto.pinBytes pin) :
    Yields (p.changePinRequest version publicKey sharedSecret newPinEnc currentPin)
      fun request => SealsPins p.crypto d entered chosen request := by
  refine yields_of_run fun w request w' hrun => ?_
  unfold changePinRequest at hrun
  -- the device recovers the new PIN from its padding
  have hpin : ∀ {request : Ctap2ClientPinRequest}, request.protocol = some version →
      request.keyAgreement = some publicKey → request.newPinEncrypted = some newPinEnc →
        recoveredPin p.crypto d request = some (stripZeros (p.crypto.pinBytes newPin)) := by
    intro request hprotocol hkeyAgreement hnewPin
    unfold recoveredPin
    rw [hnewPin, opened_eq hprotocol hkeyAgreement hsecret hnew, Option.map_some,
      stripZeros_padded]
  split at hrun
  next currPin =>
    obtain ⟨pin, hentered, rfl⟩ := hcurrent currPin rfl
    obtain ⟨pinHashEnc, w₁, hhash, hrun⟩ := Proc.bind_eq_ok_iff.mp hrun
    obtain ⟨uvAuthParam, w₂, -, hrun⟩ := Proc.bind_eq_ok_iff.mp hrun
    have hdecrypt := (p.yields_encrypt hcbc version sharedSecret
      (by rw [length_pinHash])).ok trivial hhash
    rw [← Outcome.ok.inj (Prod.mk.inj hrun).1]
    exact ⟨fun _ => ⟨pin, hentered, opened_eq rfl rfl hsecret hdecrypt⟩,
      fun _ => ⟨newPin, hchosen, hpin rfl rfl rfl⟩⟩
  next =>
    obtain ⟨uvAuthParam, w₁, -, hrun⟩ := Proc.bind_eq_ok_iff.mp hrun
    rw [← Outcome.ok.inj (Prod.mk.inj hrun).1]
    exact ⟨fun h => (by cases h), fun _ => ⟨newPin, hchosen, hpin rfl rfl rfl⟩⟩

/-! ## §4. Sealing for the key that was named. -/

/-- Exchanges without a PIN seal nothing, whatever key was named. -/
theorem accepts_pinless {crypto : Crypto} {events : List (Exchange T)}
    (h : ∀ x ∈ events, x.Pinless) (v : Option PublicKey) :
    (sealing T crypto K entered chosen).Accepts v events := by
  refine Monitor.accepts_iff.mpr fun before x rest heq => ?_
  have hx : x.Pinless := h x (heq ▸ List.mem_append_right _ List.mem_cons_self)
  cases x with
  | clientPin request answer => exact fun hcarries => absurd hcarries hx
  | _ => trivial

/-- So a dialogue of such exchanges obeys. -/
theorem obeys_pinless {ε α : Type} {m : Proc (World σ T) ε α}
    (h : Ctap.Dialogue Exchange.Pinless m) : Obeys (sealing T p.crypto K entered chosen) m := by
  intro w
  obtain ⟨sent, hsent, hpinless⟩ := (h.sends w).wire
  exact ⟨sent, hsent, accepts_pinless hpinless⟩

/-- And so do queries, which bring keys but no PINs. -/
theorem obeys_queries {ε α : Type} {m : Proc (World σ T) ε α}
    (h : Ctap.Concludes Exchange.Query m) : Obeys (sealing T p.crypto K entered chosen) m :=
  obeys_pinless (h.dialogue.mono fun _ => Exchange.Query.pinless)

/-- The monitor lets pass what `m` puts on the wire, from what it knows. -/
abbrev ObeysFrom {V : Type} (M : Monitor V (Exchange T)) (v : V) {α : Type} (m : Ctap σ T α) :
    Prop :=
  Proc.Leaves (wireRecord σ T) m fun _ events => M.Accepts v events

/-- From a given key on, the first part obeys, and the second from wherever
that leaves off. -/
theorem obeysFrom_bind {V : Type} {M : Monitor V (Exchange T)} {v : V} {α β : Type}
    {m : Ctap σ T α} {k : α → Ctap σ T β} (hm : ObeysFrom M v m) (hk : ∀ a, Obeys M (k a)) :
    ObeysFrom M v (m >>= k) := by
  refine Proc.Leaves.bind hm (fun a xs hxs w => ?_) (fun _ _ h => h) fun _ h => h
  obtain ⟨ys, hys, haccepts⟩ := hk a w
  exact ⟨ys, hys, Monitor.accepts_append.mpr ⟨hxs, haccepts _⟩⟩

/-- The monitor knows the same after what puts nothing on the wire. -/
theorem obeysFrom_silent_bind {V : Type} {M : Monitor V (Exchange T)} {v : V} {α β : Type}
    {m : Ctap σ T α} {k : α → Ctap σ T β} {Q : α → Prop}
    (hm : Ctap.Dialogue (fun _ => False) m) (hyields : Yields m Q)
    (hk : ∀ a, Q a → ObeysFrom M v (k a)) : ObeysFrom M v (m >>= k) := by
  refine Proc.Leaves.bind (leaves_silent hm hyields) ?_ ?_ ?_
  · rintro a _ ⟨rfl, hQ⟩
    exact hk a (hQ a rfl)
  · rintro e _ ⟨rfl, -⟩
    trivial
  · rintro _ ⟨rfl, -⟩
    trivial

/-- With a key agreement right before, the monitor knows the device's key. -/
theorem obeys_secret_bind (hdh : p.crypto.DhAgrees) (hnames : p.Names K)
    {uvProto : PinUvAuthProtocol} {β : Type} {k : PublicKey × Bytes → Ctap σ T β}
    (hk : ∀ keys key, K key → SharedWith p.crypto uvProto.version keys key →
      ObeysFrom (sealing T p.crypto K entered chosen) (some key) (k keys)) :
    Obeys (sealing T p.crypto K entered chosen) (p.obtainSharedSecret uvProto >>= k) := by
  intro w
  obtain ⟨_, hwire, ⟨answer, rfl⟩, hagreed⟩ := leaves_obtainSharedSecret hdh hnames uvProto w
  have hpasses : ∀ v, (sealing T p.crypto K entered chosen).Accepts v
      [.clientPin (.newGetKeyAgreement uvProto.version) answer] :=
    accepts_pinless fun x hx => List.mem_singleton.mp hx ▸
      Exchange.Query.pinless (.keyAgreement uvProto.version)
  rw [Proc.bind_apply]
  rcases hrun : p.obtainSharedSecret uvProto w with ⟨outcome, w'⟩
  rw [hrun] at hwire hagreed
  cases outcome with
  | error e => exact ⟨_, hwire, hpasses⟩
  | running => exact ⟨_, hwire, hpasses⟩
  | ok keys =>
      obtain ⟨x, key, hx, hnamed, hK, hshared⟩ := hagreed keys rfl
      obtain ⟨sent, hsent, haccepts⟩ := hk keys key hK hshared w'
      refine ⟨[x] ++ sent, ?_, fun v => Monitor.accepts_append.mpr ⟨hx ▸ hpasses v, ?_⟩⟩
      · exact (wireRecord σ T).trans (hx ▸ hwire) hsent
      · rw [show (sealing T p.crypto K entered chosen).after v [x] = some key from hnamed]
        exact haccepts

/-- What holds of a result for every private key of `key`. -/
theorem yields_forall {α : Type} {m : Ctap σ T α} {key : PublicKey} {Q : Bytes → α → Prop}
    (h : ∀ d, key = p.crypto.coseKey d → Yields m (Q d)) :
    Yields m fun a => ∀ d, key = p.crypto.coseKey d → Q d a :=
  yields_of_run fun _ _ _ hrun d hd => (h d hd).ok trivial hrun

/-- A request sealed for the key that was named. -/
theorem obeysFrom_ctap2ClientPin {request : Ctap2ClientPinRequest} {key : PublicKey} (hK : K key)
    (hseals : ∀ d, key = p.crypto.coseKey d → SealsPins p.crypto d entered chosen request) :
    ObeysFrom (sealing T p.crypto K entered chosen) (some key) (p.ctap2ClientPin request) := by
  have hallows : ∀ answer, (sealing T p.crypto K entered chosen).Accepts (some key)
      [.clientPin request answer] := fun _ => ⟨fun _ => ⟨key, rfl, hK, hseals⟩, trivial⟩
  refine (leaves_ctap2ClientPin request).mono ?_
  rintro _ _ (⟨_, _, -, -, rfl⟩ | ⟨_, -, rfl⟩)
  · exact hallows _
  · exact hallows _

/-- The current PIN is one that the user entered. -/
theorem yields_obtainCurrentPin (henters : p.Enters entered) (info : Ctap2GetInfoResponse)
    (version : Ctap2PinUvAuthProtocol) :
    Yields (p.obtainCurrentPin info version) fun currentPin => ∀ bytes, currentPin = some bytes →
      ∃ pin, entered pin ∧ bytes = p.crypto.pinBytes pin := by
  have hnone : Yields (pure none : Ctap σ T (Option Bytes)) fun currentPin => ∀ bytes,
      currentPin = some bytes → ∃ pin, entered pin ∧ bytes = p.crypto.pinBytes pin :=
    Proc.Triple.pure fun _ _ bytes hbytes => (by cases hbytes)
  unfold obtainCurrentPin
  split
  · exact Proc.Triple.throw fun _ _ => trivial
  split
  · refine Proc.Triple.bind _ (yields_obtainPin henters _ _ _) fun pin => ?_
    exact Proc.Triple.pure fun _ hpin bytes hbytes => Option.some.inj hbytes ▸ hpin
  · exact hnone
  · exact Proc.Triple.throw fun _ _ => trivial

/-- A PIN change. -/
theorem seals_changePinInternal (hcbc : p.crypto.CbcInverts) (hdh : p.crypto.DhAgrees)
    (hnames : p.Names K) (henters : p.Enters entered) (info : Ctap2GetInfoResponse)
    {newPin : String} (hchosen : chosen newPin) :
    Obeys (sealing T p.crypto K entered chosen) (p.changePinInternal info newPin) := by
  unfold changePinInternal
  dsimp only
  split
  · exact Proc.Advances.throw _
  split
  · exact Proc.Advances.throw _
  next hlong =>
    refine Proc.Advances.bind (obeys_pinless (p.concludes_recognizeForEviction _).dialogue)
      fun id => ?_
    refine Proc.Advances.bind (obeys_pinless (p.concludes_selectUvProto _).dialogue)
      fun uvProto => ?_
    cases uvProto with
    | none => exact Proc.Advances.throw _
    | some uvProto =>
        -- the current PIN as it was entered, and a secret for the key that the device names
        refine obeys_bind (obeys_queries (p.queries_obtainCurrentPin _ _))
          (yields_obtainCurrentPin henters _ _) fun currentPin hcurrent => ?_
        refine obeys_secret_bind hdh hnames fun keys key hK hshared => ?_
        refine obeysFrom_silent_bind (p.concludes_encrypt _ _ _).dialogue
          (yields_encrypt hcbc _ _ ?_) fun newPinEnc hnew => ?_
        · -- padded to 64 bytes
          rw [List.length_append, List.length_replicate]
          omega
        refine obeysFrom_silent_bind (p.concludes_changePinRequest _ _ _ _ _).dialogue
          (yields_forall fun d hd =>
            yields_changePinRequest hcbc (hshared d hd) hchosen hnew hcurrent)
          fun request hseals => ?_
        exact obeysFrom_bind (obeysFrom_ctap2ClientPin hK hseals) fun _ =>
          obeys_pinless (p.concludes_evict _).dialogue

/-- **Setting a PIN on the way** seals a chosen one, however often the user is
asked. -/
theorem seals_tryToSetPin (hcbc : p.crypto.CbcInverts) (hdh : p.crypto.DhAgrees)
    (hnames : p.Names K) (henters : p.Enters entered) (hchooses : p.Chooses chosen) (fuel : Nat)
    (info : Ctap2GetInfoResponse) (reason : PinNotSetReason) :
    Obeys (sealing T p.crypto K entered chosen) (p.tryToSetPin fuel info reason) := by
  unfold tryToSetPin
  split
  · exact Proc.Advances.pure _
  refine Proc.Advances.loop (fun reason => ?_) fuel reason
  refine obeys_bind (Q := fun pin => ∀ newPin, pin = some newPin → chosen newPin)
    (obeys_pinless (.ask _)) (yields_of_run fun w pin w' hrun newPin hpin => ?_)
    fun pin hpin => ?_
  · exact hchooses reason w.env newPin ((Outcome.ok.inj (Prod.mk.inj hrun).1).trans hpin)
  cases pin with
  | none => exact Proc.Advances.throw _
  | some newPin =>
      refine Proc.Advances.bind (Proc.Advances.attempt
        (seals_changePinInternal hcbc hdh hnames henters info (hpin newPin rfl))) fun result => ?_
      split
      all_goals first | exact Proc.Advances.pure _ | exact Proc.Advances.throw _

/-! ## §5. Verifying a PIN. -/

/-- The PIN of a token request is one that the user entered. -/
theorem yields_pinFor (henters : p.Enters entered) (plan : UvPlan) (info : Ctap2GetInfoResponse)
    (version : Ctap2PinUvAuthProtocol) (uvOperation : Ctap2UserVerificationOperation)
    (uvBlocked : Bool) :
    Yields (p.pinFor plan info version uvOperation uvBlocked) fun pin => ∀ bytes,
      pin = some bytes → ∃ entry, entered entry ∧ bytes = p.crypto.pinBytes entry := by
  refine yields_of_run fun w pin w' hrun bytes hbytes => ?_
  unfold pinFor at hrun
  split at hrun
  · obtain ⟨entry, w₁, hentry, hrun⟩ := Proc.bind_eq_ok_iff.mp hrun
    rw [← Outcome.ok.inj (Prod.mk.inj hrun).1] at hbytes
    exact Option.some.inj hbytes ▸ (yields_obtainPin henters _ _ _).ok trivial hentry
  · rw [← Outcome.ok.inj (Prod.mk.inj hrun).1] at hbytes
    cases hbytes

/-- What is sealed is the hash of a PIN that was entered. -/
theorem yields_pinHashEnc (hcbc : p.crypto.CbcInverts) (version : Ctap2PinUvAuthProtocol)
    (sharedSecret : Bytes) {pin : Option Bytes}
    (hpin : ∀ bytes, pin = some bytes → ∃ entry, entered entry ∧ bytes = p.crypto.pinBytes entry) :
    Yields (p.pinHashEnc version sharedSecret pin) fun pinHashEnc => ∃ entry, entered entry
      ∧ version.decrypt p.crypto sharedSecret pinHashEnc
        = .ok (pinHash p.crypto (p.crypto.pinBytes entry)) := by
  cases pin with
  | none => exact yields_of_run fun w _ w' hrun => (by cases hrun)
  | some bytes =>
      obtain ⟨entry, hentered, rfl⟩ := hpin bytes rfl
      refine (yields_encrypt hcbc version sharedSecret (by rw [length_pinHash])).post ?_
      exact fun pinHashEnc _ hdecrypt => ⟨entry, hentered, hdecrypt⟩

/-- A token request is sealed for the key it was made with. -/
theorem yields_tokenRequest (hcbc : p.crypto.CbcInverts) (request : R)
    (uvOperation : Ctap2UserVerificationOperation) {version : Ctap2PinUvAuthProtocol}
    {sharedSecret : Bytes} {publicKey : PublicKey} {pin : Option Bytes}
    (hsecret : authenticatorSecret p.crypto d version publicKey = some sharedSecret)
    (hpin : ∀ bytes, pin = some bytes → ∃ entry, entered entry ∧ bytes = p.crypto.pinBytes entry) :
    Yields (p.tokenRequest request uvOperation version sharedSecret publicKey pin)
      fun tokenRequest => ∀ req, tokenRequest = some req →
        SealsPins p.crypto d entered chosen req := by
  have hplain : ∀ {req : Ctap2ClientPinRequest}, req.pinHashEncrypted = none →
      req.newPinEncrypted = none → ∀ req', some req = some req' →
        SealsPins p.crypto d entered chosen req' :=
    fun hhash hnew req' heq => Option.some.inj heq ▸ SealsPins.plain hhash hnew
  -- with a PIN hash, the device recovers the hash of what was entered
  have hsealed : ∀ {w w' : World σ T} {pinHashEnc : Bytes} {req : Ctap2ClientPinRequest},
      p.pinHashEnc version sharedSecret pin w = (.ok pinHashEnc, w') →
        req.protocol = some version → req.keyAgreement = some publicKey →
          req.pinHashEncrypted = some pinHashEnc → req.newPinEncrypted = none →
            SealsPins p.crypto d entered chosen req := by
    intro w w' pinHashEnc req hrun hprotocol hkeyAgreement hhash hnew
    obtain ⟨entry, hentered, hdecrypt⟩ :=
      (yields_pinHashEnc hcbc version sharedSecret hpin).ok trivial hrun
    refine ⟨fun _ => ⟨entry, hentered, ?_⟩, fun h => (by rw [hnew] at h; cases h)⟩
    unfold recoveredHash
    rw [hhash]
    exact opened_eq hprotocol hkeyAgreement hsecret hdecrypt
  refine yields_of_run fun w tokenRequest w' hrun => ?_
  cases uvOperation with
  | legacyUv =>
      rw [← Outcome.ok.inj (Prod.mk.inj hrun).1]
      exact fun req heq => (by cases heq)
  | onlyForSharedSecret =>
      rw [← Outcome.ok.inj (Prod.mk.inj hrun).1]
      exact fun req heq => (by cases heq)
  | getPinToken =>
      obtain ⟨pinHashEnc, w₁, hhash, hrun⟩ := Proc.bind_eq_ok_iff.mp hrun
      rw [← Outcome.ok.inj (Prod.mk.inj hrun).1]
      exact fun req heq => Option.some.inj heq ▸ hsealed hhash rfl rfl rfl rfl
  | getPinUvAuthTokenUsingPinWithPermissions =>
      obtain ⟨pinHashEnc, w₁, hhash, hrun⟩ := Proc.bind_eq_ok_iff.mp hrun
      rw [← Outcome.ok.inj (Prod.mk.inj hrun).1]
      exact fun req heq => Option.some.inj heq ▸ hsealed hhash rfl rfl rfl rfl
  | getPinUvAuthTokenUsingUvWithPermissions =>
      obtain ⟨_, w₁, -, hrun⟩ := Proc.bind_eq_ok_iff.mp hrun
      rw [← Outcome.ok.inj (Prod.mk.inj hrun).1]
      exact hplain rfl rfl

/-- **A negotiation** seals the hash of an entered PIN for the key it has just
been given. -/
theorem seals_negotiate (hcbc : p.crypto.CbcInverts) (hdh : p.crypto.DhAgrees)
    (hnames : p.Names K) (henters : p.Enters entered) (plan : UvPlan) (state : UvState R)
    (uvProto : PinUvAuthProtocol) (uvOperation : Ctap2UserVerificationOperation) :
    Obeys (sealing T p.crypto K entered chosen) (p.negotiate plan state uvProto uvOperation) := by
  refine obeys_bind (obeys_queries (p.queries_pinFor _ _ _ _ _))
    (yields_pinFor henters _ _ _ _ _) fun pin hpin => ?_
  refine obeys_secret_bind hdh hnames fun keys key hK hshared => ?_
  have hyields : Yields
      (p.tokenRequest state.request uvOperation uvProto.version keys.2 keys.1 pin)
      fun tokenRequest => ∀ d, key = p.crypto.coseKey d → ∀ req, tokenRequest = some req →
        SealsPins p.crypto d entered chosen req :=
    yields_forall fun d hd => yields_tokenRequest hcbc _ _ (hshared d hd) hpin
  refine obeysFrom_silent_bind (p.concludes_tokenRequest _ _ _ _ _ _).dialogue hyields
    fun tokenRequest hseals => ?_
  cases tokenRequest with
  | none => exact Proc.Leaves.pure trivial
  | some tokenRequest =>
      refine obeysFrom_bind (Proc.Leaves.attempt (obeysFrom_ctap2ClientPin hK
        fun d hd => hseals d hd tokenRequest rfl) (fun _ _ h => h) (fun _ _ h => h) fun _ h => h)
        fun answer => ?_
      exact obeys_queries (p.queries_tokenAnswer _ _ _ _ _ _)

theorem seals_ctap2GetInfo : Obeys (sealing T p.crypto K entered chosen) p.ctap2GetInfo :=
  obeys_pinless (.command _ _ fun _ => trivial)

theorem obeys_modifySession {V : Type} {M : Monitor V (Exchange T)} (f : Session T → Session T) :
    Obeys M (Ctap.modifySession f : Ctap σ T Unit) :=
  Proc.Advances.modify fun _ => ⟨[], (List.append_nil _).symm, fun _ => trivial⟩

/-- **Each turn of the loop** seals what the user entered or chose, for the key
named right before. -/
theorem seals_uvTurn (hcbc : p.crypto.CbcInverts) (hdh : p.crypto.DhAgrees) (hnames : p.Names K)
    (henters : p.Enters entered) (hchooses : p.Chooses chosen) (fuel : Nat) (plan : UvPlan)
    (state : UvState R) :
    Obeys (sealing T p.crypto K entered chosen) (p.uvTurn fuel plan state) := by
  have hcarry : ∀ state uvOperation, Obeys (sealing T p.crypto K entered chosen)
      (p.carryOut (R := R) fuel plan state uvOperation) := by
    intro state uvOperation
    refine Proc.Advances.bind (obeys_pinless (.liftPlatform _)) fun uvOperation => ?_
    split
    · refine Proc.Advances.bind (seals_tryToSetPin hcbc hdh hnames henters hchooses _ _ _)
        fun _ => ?_
      exact Proc.Advances.bind seals_ctap2GetInfo fun _ => Proc.Advances.pure _
    · refine Proc.Advances.bind (obeys_pinless (p.concludes_selectUvProto _).dialogue)
        fun uvProto => ?_
      cases uvProto with
      | none => exact Proc.Advances.throw _
      | some uvProto => exact seals_negotiate hcbc hdh hnames henters _ _ _ _
  refine Proc.Advances.bind (obeys_modifySession _) fun _ => ?_
  split
  · exact Proc.Advances.throw _
  · dsimp only
    split
    · exact Proc.Advances.pure _
    · exact hcarry _ _
  · exact hcarry _ _

theorem seals_packageResult (state : UvState R) (exit : UvExit) :
    Obeys (sealing T p.crypto K entered chosen) (p.packageResult state exit) := by
  cases exit with
  | legacyUv => exact Proc.Advances.pure _
  | negotiated uvProto sharedSecret publicKey uvOperation tokenResponse =>
      unfold packageResult
      dsimp only
      split
      · refine Proc.Advances.bind (obeys_pinless (p.concludes_decryptToken _ _ _).dialogue)
          fun _ => ?_
        refine Proc.Advances.bind ?_ fun _ => Proc.Advances.bind
          (obeys_pinless (.liftPlatform _)) fun _ => Proc.Advances.pure _
        unfold storeToken
        split
        · split
          · exact Proc.Advances.bind (Proc.Advances.attempt
              (obeys_pinless (p.concludes_storeMintedToken _ _ _).dialogue))
              fun _ => Proc.Advances.pure _
          · exact Proc.Advances.pure _
        · exact obeys_modifySession _
      · exact Proc.Advances.bind (obeys_modifySession _) fun _ => Proc.Advances.pure _

/-- A user verification, whatever it turns to. -/
theorem seals_userVerification (hcbc : p.crypto.CbcInverts) (hdh : p.crypto.DhAgrees)
    (hnames : p.Names K) (henters : p.Enters entered) (hchooses : p.Chooses chosen) (fuel : Nat)
    (requirement : UserVerificationRequirement) (request : R) :
    Obeys (sealing T p.crypto K entered chosen)
      (p.userVerification fuel requirement request) := by
  -- PINs are only sealed in the helper: by a change, and by the turns of its loop
  have hhelper : ∀ info request, Obeys (sealing T p.crypto K entered chosen)
      (p.userVerificationHelper (R := R) fuel info requirement request) := by
    intro info request
    refine Proc.Advances.bind ?_ fun info => ?_
    · unfold ensureUvProtected
      split
      · refine Proc.Advances.bind (seals_tryToSetPin hcbc hdh hnames henters hchooses _ _ _)
          fun _ => ?_
        refine Proc.Advances.bind seals_ctap2GetInfo fun info => ?_
        split
        · exact Proc.Advances.throw _
        · exact Proc.Advances.pure _
      · exact Proc.Advances.pure _
    · split
      · exact Proc.Advances.pure _
      · refine Proc.Advances.bind (Proc.Advances.loop (fun state =>
          seals_uvTurn hcbc hdh hnames henters hchooses _ _ state) _ _) fun result => ?_
        exact seals_packageResult _ _
  refine Proc.Advances.bind seals_ctap2GetInfo fun info => ?_
  refine Proc.Advances.bind (obeys_pinless (p.dialogue_reusablePersistentToken _ _))
    fun record => ?_
  cases record with
  | some record =>
      exact Proc.Advances.bind (obeys_pinless (.liftPlatform _)) fun _ => Proc.Advances.pure _
  | none =>
      refine Proc.Advances.bind (obeys_pinless (p.dialogue_reusableEphemeralToken _ _))
        fun token => ?_
      cases token with
      | some token =>
          exact Proc.Advances.bind (obeys_pinless (.liftPlatform _)) fun _ => Proc.Advances.pure _
      | none => exact hhelper _ _

end Platform

/-! ## §6. Agreement. -/

/-- The last character is U+0000. -/
def EndsInNul (s : String) : Prop := s.toList.getLast? = some '\x00'

/-- In UTF-8 a zero byte is U+0000 and nothing else. -/
theorem utf8EncodeChar_eq_nul_iff {c : Char} : 0 ∈ String.utf8EncodeChar c ↔ c = '\x00' := by
  constructor
  · intro hmem
    have hbytes : utf8 (String.ofList [c]) = utf8 (String.ofList ['\x00']) := by
      rw [utf8_eq_flatMap, utf8_eq_flatMap, String.toList_ofList, String.toList_ofList,
        List.flatMap_singleton, List.flatMap_singleton, utf8EncodeChar_ascii hmem (by decide)]
      rfl
    exact List.singleton_inj.mp (String.ofList_inj.mp (utf8_injective hbytes))
  · rintro rfl
    decide

/-- The bytes of a string end in zero with the string. -/
theorem stripZeros_utf8_iff (s : String) : stripZeros (utf8 s) = utf8 s ↔ ¬ EndsInNul s := by
  unfold stripZeros EndsInNul
  rw [utf8_eq_flatMap]
  rcases List.eq_nil_or_concat s.toList with hnil | ⟨front, c, hconcat⟩
  · rw [hnil]
    simp
  · rw [hconcat, List.concat_eq_append, List.flatMap_append, List.flatMap_singleton,
      List.getLast?_concat, List.rdropWhile_eq_self_iff, Option.some_inj,
      ← utf8EncodeChar_eq_nul_iff]
    have hne : String.utf8EncodeChar c ≠ [] := String.utf8EncodeChar_ne_nil
    constructor
    · intro hlast hmem
      obtain rfl := utf8EncodeChar_eq_nul_iff.mp hmem
      refine hlast (List.append_ne_nil_of_right_ne_nil _ hne) ?_
      rw [List.getLast_append_right hne]
      rfl
    · intro hmem hl hzero
      rw [List.getLast_append_right hne] at hzero
      exact hmem (eq_of_beq hzero ▸ List.getLast_mem hne)

/-- The hash tells two PINs apart. -/
def Crypto.TellsApart (crypto : Crypto) (pin pin' : Bytes) : Prop :=
  pinHash crypto pin = pinHash crypto pin' → pin = pin'

/-- `pin` is what an authenticator recovers from a request to change its PIN
to `newPin`. -/
inductive StoresPin (crypto : Crypto) (newPin : String) (pin : Bytes) : Prop where
  | changing {σ T : Type} {p : Platform σ T} {privateKey : Bytes} {info : Ctap2GetInfoResponse}
      {w : World σ T} {sent : List (Exchange T)} {request : Ctap2ClientPinRequest}
      {answer : Except (WebAuthnError T) Ctap2ClientPinResponse}
      (hcrypto : p.crypto = crypto) (hkey : p.HasKey privateKey)
      (hsent : (p.changePinInternal info newPin w).2.wire = w.wire ++ sent)
      (hmem : .clientPin request answer ∈ sent)
      (hpin : recoveredPin crypto privateKey request = some pin)

/-- `hash` is what an authenticator finds of a PIN to verify, when the user
enters `entry`. -/
inductive SendsHash (crypto : Crypto) (entry : String) (hash : Bytes) : Prop where
  | changing {σ T : Type} {p : Platform σ T} {privateKey : Bytes} {info : Ctap2GetInfoResponse}
      {newPin : String} {w : World σ T} {sent : List (Exchange T)}
      {request : Ctap2ClientPinRequest}
      {answer : Except (WebAuthnError T) Ctap2ClientPinResponse}
      (hcrypto : p.crypto = crypto) (hkey : p.HasKey privateKey) (henters : p.Enters (· = entry))
      (hsent : (p.changePinInternal info newPin w).2.wire = w.wire ++ sent)
      (hmem : .clientPin request answer ∈ sent)
      (hhash : recoveredHash crypto privateKey request = some hash)
  | verifying {σ T R : Type} [Ctap2UserVerifiableRequest R] {p : Platform σ T}
      {privateKey : Bytes} {fuel : Nat} {requirement : UserVerificationRequirement} {r : R}
      {w : World σ T} {sent : List (Exchange T)} {request : Ctap2ClientPinRequest}
      {answer : Except (WebAuthnError T) Ctap2ClientPinResponse}
      (hcrypto : p.crypto = crypto) (hkey : p.HasKey privateKey) (henters : p.Enters (· = entry))
      (hsent : (p.userVerification fuel requirement r w).2.wire = w.wire ++ sent)
      (hmem : .clientPin request answer ∈ sent)
      (hhash : recoveredHash crypto privateKey request = some hash)

/-- What was opened was there. -/
theorem isSome_of_opened {crypto : Crypto} {d : Bytes} {request : Ctap2ClientPinRequest}
    {ciphertext : Option Bytes} {plaintext : Bytes}
    (h : opened crypto d request ciphertext = some plaintext) : ciphertext.isSome = true := by
  cases ciphertext with
  | some _ => rfl
  | none =>
      unfold opened at h
      simp at h

/-- On the wire of a device with one key. -/
theorem sealsPins_of_mem {crypto : Crypto} {d : Bytes} {entered chosen : String → Prop}
    {sent : List (Exchange T)} {request : Ctap2ClientPinRequest}
    {answer : Except (WebAuthnError T) Ctap2ClientPinResponse}
    (h : ∀ v, (sealing T crypto (· = crypto.coseKey d) entered chosen).Accepts v sent)
    (hmem : .clientPin request answer ∈ sent) : SealsPins crypto d entered chosen request := by
  obtain ⟨before, rest, rfl⟩ := List.append_of_mem hmem
  have hallowed : request.CarriesPin → _ := Monitor.accepts_iff.mp (h none) before _ rest rfl
  constructor
  · intro hhash
    obtain ⟨key, -, hkey, hseals⟩ := hallowed (Or.inl hhash)
    exact (hseals d hkey).hash hhash
  · intro hnew
    obtain ⟨key, -, hkey, hseals⟩ := hallowed (Or.inr hnew)
    exact (hseals d hkey).newPin hnew

section

variable {crypto : Crypto} (hcbc : crypto.CbcInverts) (hdh : crypto.DhAgrees)
include hcbc hdh

/-- What the device stores is the PIN without the zeros at its end. -/
theorem StoresPin.eq {newPin : String} {pin : Bytes} (h : StoresPin crypto newPin pin) :
    pin = stripZeros (crypto.pinBytes newPin) := by
  obtain @⟨σ, T, p, d, info, w, sent, request, answer, rfl, hkey, hsent, hmem, hpin⟩ := h
  have hobeys : Obeys (sealing T p.crypto (· = p.crypto.coseKey d) (fun _ => True) (· = newPin))
      (p.changePinInternal info newPin) :=
    p.seals_changePinInternal hcbc hdh hkey (fun _ _ _ _ _ => trivial) info rfl
  obtain ⟨sent', hsent', haccepts⟩ := hobeys w
  obtain rfl := List.append_cancel_left (hsent.symm.trans hsent')
  have hseal := sealsPins_of_mem haccepts hmem
  obtain ⟨plaintext, hopened, -⟩ := Option.map_eq_some_iff.mp hpin
  obtain ⟨_, rfl, hrecovered⟩ := hseal.newPin (isSome_of_opened hopened)
  exact Option.some.inj (hpin.symm.trans hrecovered)

/-- What is compared is the hash of the PIN as it was entered. -/
theorem SendsHash.eq {entry : String} {hash : Bytes} (h : SendsHash crypto entry hash) :
    hash = pinHash crypto (crypto.pinBytes entry) := by
  -- what the device opens is the digest that was sealed, so the two ceremonies share this
  -- step
  have hsealed : ∀ {d : Bytes} {chosen : String → Prop} {request : Ctap2ClientPinRequest},
      SealsPins crypto d (· = entry) chosen request →
        recoveredHash crypto d request = some hash →
          hash = pinHash crypto (crypto.pinBytes entry) := by
    intro d chosen request hseal hhash
    obtain ⟨_, rfl, hrecovered⟩ := hseal.hash (isSome_of_opened hhash)
    exact Option.some.inj (hhash.symm.trans hrecovered)
  cases h with
  | @changing σ T p d info newPin w sent request answer hcrypto hkey henters hsent hmem hhash =>
      subst hcrypto
      have hobeys : Obeys (sealing T p.crypto (· = p.crypto.coseKey d) (· = entry) (· = newPin))
          (p.changePinInternal info newPin) :=
        p.seals_changePinInternal hcbc hdh hkey henters info rfl
      obtain ⟨sent', hsent', haccepts⟩ := hobeys w
      obtain rfl := List.append_cancel_left (hsent.symm.trans hsent')
      exact hsealed (sealsPins_of_mem haccepts hmem) hhash
  | @verifying σ T R _ p d fuel requirement r w sent request answer hcrypto hkey henters hsent
      hmem hhash =>
      subst hcrypto
      have hobeys : Obeys (sealing T p.crypto (· = p.crypto.coseKey d) (· = entry) (fun _ => True))
          (p.userVerification fuel requirement r) :=
        p.seals_userVerification hcbc hdh hkey henters (fun _ _ _ _ => trivial) fuel requirement r
      obtain ⟨sent', hsent', haccepts⟩ := hobeys w
      obtain rfl := List.append_cancel_left (hsent.symm.trans hsent')
      exact hsealed (sealsPins_of_mem haccepts hmem) hhash

/-- What is set is what is verified, and different PINs are kept apart, unless
one ends in U+0000: the authenticator takes that for padding. -/
theorem pins_agree_iff {s t : String} {pinS pinT hashS hashT : Bytes}
    (hapart : ∀ pin, pin = s ∨ pin = t →
      crypto.TellsApart (stripZeros (crypto.pinBytes pin)) (crypto.pinBytes pin))
    (hsetS : StoresPin crypto s pinS) (hsetT : StoresPin crypto t pinT)
    (hverifyS : SendsHash crypto s hashS) (hverifyT : SendsHash crypto t hashT) :
    (pinHash crypto pinS = hashS ∧ pinHash crypto pinT = hashT
        ∧ (crypto.nfc s ≠ crypto.nfc t → pinS ≠ pinT))
      ↔ ¬ EndsInNul (crypto.nfc s) ∧ ¬ EndsInNul (crypto.nfc t) := by
  rw [hsetS.eq hcbc hdh, hsetT.eq hcbc hdh, hverifyS.eq hcbc hdh, hverifyT.eq hcbc hdh,
    ← stripZeros_utf8_iff, ← stripZeros_utf8_iff]
  constructor
  · rintro ⟨hagreeS, hagreeT, -⟩
    exact ⟨hapart s (Or.inl rfl) hagreeS, hapart t (Or.inr rfl) hagreeT⟩
  · intro h
    have hS : stripZeros (crypto.pinBytes s) = crypto.pinBytes s := h.1
    have hT : stripZeros (crypto.pinBytes t) = crypto.pinBytes t := h.2
    rw [hS, hT]
    exact ⟨rfl, rfl, fun hne hsame => hne (utf8_injective hsame)⟩

end

/-! ## §7. A PIN that ends in U+0000. -/

/-- A hash of the length and the first bytes, and the same point for both
sides. -/
def lengthCrypto : Crypto :=
  { transparentCrypto with
    sha256 := fun bytes => fitBytes 32 (UInt8.ofNat bytes.length :: bytes)
    sha256_length := fun _ => fitBytes_length 32 _
    diffieHellman := fun privateKey x _ => some (List.zipWith (· ^^^ ·) privateKey x) }

/-- A getInfo with a PIN that is set. -/
def pinInfo : Ctap2GetInfoResponse :=
  { options := some [("clientPin", true)], pinAuthProtos := some [1] }

/-- A device with a PIN, and a user who enters and chooses `pin`. -/
def pinPlatform (pin : String) : Platform Unit Empty where
  crypto := lengthCrypto
  codecs := absentCodecs
  supportsPreflight := false
  getInfo s := (.ok pinInfo, s)
  clientPin _ s :=
    (.ok
      { keyAgreement := some (.ecdhEsHkdf256Key (List.replicate 32 2) (List.replicate 32 2)) }, s)
  makeCredential _ s := (.error (.ctap .other), s)
  getAssertion _ s := (.error (.ctap .other), s)
  getNextAssertion s := (.error (.ctap .other), s)
  largeBlobs _ s := (.error (.ctap .other), s)
  uxUpdate _ s := s
  pinRequired _ _ s := (some pin, s)
  pinNotSet _ s := (some pin, s)
  persistentTokenStore := false
  storeList s := ([], s)
  storePut _ _ s := s
  storeDelete _ s := s
  random n s := (List.replicate n 1, s)
  random_length _ _ := List.length_replicate

theorem cbcInverts_lengthCrypto : lengthCrypto.CbcInverts := cbcInverts_transparent

theorem dhAgrees_lengthCrypto : lengthCrypto.DhAgrees := by
  intro a b
  exact congrArg some (List.zipWith_comm_of_comm (fun x y => UInt8.xor_comm x y))

theorem hasKey_pinPlatform (pin : String) : (pinPlatform pin).HasKey (List.replicate 32 2) := by
  intro version s response key hresponse hkey
  obtain rfl := Except.ok.inj hresponse
  exact (Option.some.inj hkey).symm

theorem enters_pinPlatform (pin : String) : (pinPlatform pin).Enters (· = pin) :=
  fun _ _ _ _ hpin => (Option.some.inj hpin).symm

/-- The last request of a PIN change. -/
theorem storesPin_pinPlatform {pin : String} {stored : Bytes} {request : Ctap2ClientPinRequest}
    (hlast : ((pinPlatform pin).changePinInternal pinInfo pin (.start () none)).2.wire.getLast?
      = some (.clientPin request ((pinPlatform pin).clientPin request ()).1))
    (hpin : recoveredPin lengthCrypto (List.replicate 32 2) request = some stored) :
    StoresPin lengthCrypto pin stored :=
  .changing (w := .start () none) rfl (hasKey_pinPlatform pin) rfl
    (List.mem_of_getLast? hlast) hpin

/-- The last request of a verification. -/
theorem sendsHash_pinPlatform {pin : String} {hash : Bytes} {request : Ctap2ClientPinRequest}
    (hlast : ((pinPlatform pin).userVerification 1 .required metadataRequest
        (.start () none)).2.wire.getLast?
      = some (.clientPin request ((pinPlatform pin).clientPin request ()).1))
    (hhash : recoveredHash lengthCrypto (List.replicate 32 2) request = some hash) :
    SendsHash lengthCrypto pin hash :=
  .verifying (w := .start () none) rfl (hasKey_pinPlatform pin) (enters_pinPlatform pin) rfl
    (List.mem_of_getLast? hlast) hhash

set_option maxRecDepth 8000 in
theorem storesPin_plain : StoresPin lengthCrypto "1234" (utf8 "1234") :=
  storesPin_pinPlatform rfl (by decide +kernel)

set_option maxRecDepth 8000 in
theorem sendsHash_plain :
    SendsHash lengthCrypto "1234" (pinHash lengthCrypto (utf8 "1234")) :=
  sendsHash_pinPlatform rfl (by decide +kernel)

set_option maxRecDepth 8000 in
theorem pins_agree_plain :
    (pinHash lengthCrypto (utf8 "1234") = pinHash lengthCrypto (utf8 "1234")
        ∧ pinHash lengthCrypto (utf8 "5678") = pinHash lengthCrypto (utf8 "5678")
        ∧ (lengthCrypto.nfc "1234" ≠ lengthCrypto.nfc "5678" → utf8 "1234" ≠ utf8 "5678"))
      ↔ ¬ EndsInNul (lengthCrypto.nfc "1234") ∧ ¬ EndsInNul (lengthCrypto.nfc "5678") :=
  pins_agree_iff cbcInverts_lengthCrypto dhAgrees_lengthCrypto
    (by rintro _ (rfl | rfl) <;> exact fun _ => by decide +kernel)
    storesPin_plain (storesPin_pinPlatform rfl (by decide +kernel))
    sendsHash_plain (sendsHash_pinPlatform rfl (by decide +kernel))

set_option maxRecDepth 8000 in
/-- The PIN that is set is not the one that is verified afterwards, and
another PIN is. -/
theorem nulPin_disagrees :
    ∃ pin hash, StoresPin lengthCrypto "1234\x00" pin ∧ SendsHash lengthCrypto "1234\x00" hash
      ∧ pinHash lengthCrypto pin ≠ hash ∧ StoresPin lengthCrypto "1234" pin
      ∧ lengthCrypto.nfc "1234\x00" ≠ lengthCrypto.nfc "1234" :=
  ⟨utf8 "1234", pinHash lengthCrypto (utf8 "1234\x00"),
    storesPin_pinPlatform rfl (by decide +kernel), sendsHash_pinPlatform rfl (by decide +kernel),
    by decide +kernel, storesPin_plain, by decide⟩

end Libwebauthn
