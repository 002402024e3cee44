/-
  Libwebauthn.Transport.Cable.Tunnel — connecting to the tunnel service
  (`src/transport/cable/tunnel.rs`) and forgetting a device it no longer
  knows (`connect_data_channel` of `src/transport/cable/connection_stages.rs`).

  The headers of the requests are left out; nothing here reads them.

    • `connectLoop_gone_iff` — when the service's answers come to a 410 Gone;
    • `mem_connectDataChannel` — a device is forgotten on a 410 Gone alone;
    • `decodeTunnelServerDomain_spec` — which codes have which domain.
-/
import Libwebauthn.Pin.Protocol
import Libwebauthn.Transport.Cable.DigitEncode
import Libwebauthn.Transport.Cable.Protocol
import Mathlib.Data.Nat.Digits.Lemmas

namespace Libwebauthn.Transport.Cable

/-! ## §1. The tunnel service. -/

def MAX_TUNNEL_REDIRECTS : Nat := 5

/-- HTTP 101 Switching Protocols. -/
def SWITCHING_PROTOCOLS : UInt16 := 101
def GONE : UInt16 := 410

/-- What `connect_async` comes to. -/
inductive TunnelAnswer where
  | connected (status : UInt16)
  /-- An HTTP response, with its `Location` where that is usable text. -/
  | http (status : UInt16) (location : Option String)
  | failed (cause : String)
  deriving Repr, DecidableEq

def isRedirection (status : UInt16) : Bool := 300 ≤ status && status < 400

/-- The URL library, and base64url without padding. -/
structure TunnelPrimitives where
  /-- `into_client_request`: the cause when the URL is refused. -/
  intoClientRequest : (url : String) → Except String Unit
  /-- `resolve_redirect_target`. -/
  resolveRedirectTarget : (base location : String) → Except String String
  base64UrlEncode : Bytes → String

def tunnelStatusError (status : UInt16) : CableError :=
  if status = GONE then .cableTunnel .gone else .cableTunnel (.unexpectedStatus status)

def connectUrl (tunnelDomain : String) : CableTunnelConnectionType → String
  | .qrCode routingId tunnelId _ =>
      s!"wss://{tunnelDomain}/cable/connect/{routingId}/{tunnelId}"
  | .knownDevice contactId _ _ => s!"wss://{tunnelDomain}/cable/contact/{contactId}"

variable (tunnel : TunnelPrimitives)

/-- The attempts of `connect`; `none` while an answer is outstanding. -/
def connectLoop :
    (attempts : Nat) → (url : String) → (answers : List TunnelAnswer) →
      Option (Except CableError Unit)
  | 0, _, _ => some (.error (.cableTunnel .tooManyRedirects))
  | attempts + 1, url, answers =>
      match tunnel.intoClientRequest url with
      | .error cause => some (.error (.webSocket cause))
      | .ok () =>
          match answers with
          | [] => none
          | .connected status :: _ =>
              if status = SWITCHING_PROTOCOLS then some (.ok ())
              else some (.error .connectionFailed)
          | .failed cause :: _ => some (.error (.webSocket cause))
          | .http status location :: answers =>
              if isRedirection status then
                match location with
                | none => some (.error .connectionFailed)
                | some location =>
                    match tunnel.resolveRedirectTarget url location with
                    | .error cause => some (.error (.url cause))
                    | .ok url => connectLoop attempts url answers
              else some (.error (tunnelStatusError status))

def connect (tunnelDomain : String) (connectionType : CableTunnelConnectionType)
    (answers : List TunnelAnswer) : Option (Except CableError Unit) :=
  connectLoop tunnel (MAX_TUNNEL_REDIRECTS + 1) (connectUrl tunnelDomain connectionType) answers

/-- The last answer a connection got was 410 Gone, behind redirects only. -/
def AnsweredGone (answers : List TunnelAnswer) : Prop :=
  ∃ redirects location rest, answers = redirects ++ .http GONE location :: rest
    ∧ ∀ answer ∈ redirects, ∃ status location,
        answer = .http status location ∧ isRedirection status = true

/-- The service answers 410 Gone, behind at most so many redirects that can be
followed. -/
inductive GoneBehind : (redirects : Nat) → (url : String) → List TunnelAnswer → Prop where
  | gone {redirects : Nat} {url : String} {location : Option String} {rest : List TunnelAnswer}
      (hrequest : tunnel.intoClientRequest url = .ok ()) :
      GoneBehind redirects url (.http GONE location :: rest)
  | redirect {redirects : Nat} {url location target : String} {status : UInt16}
      {rest : List TunnelAnswer} (hrequest : tunnel.intoClientRequest url = .ok ())
      (hredirect : isRedirection status = true)
      (htarget : tunnel.resolveRedirectTarget url location = .ok target)
      (hrest : GoneBehind redirects target rest) :
      GoneBehind (redirects + 1) url (.http status (some location) :: rest)

theorem GoneBehind.answered {redirects : Nat} {url : String} {answers : List TunnelAnswer}
    (h : GoneBehind tunnel redirects url answers) : AnsweredGone answers := by
  induction h with
  | @gone _ _ location rest _ => exact ⟨[], location, rest, rfl, fun answer hmem => nomatch hmem⟩
  | redirect _ hredirect _ _ ih =>
      obtain ⟨redirects, location, rest, hrest, hall⟩ := ih
      exact ⟨_ :: redirects, location, rest, congrArg (_ :: ·) hrest,
        List.forall_mem_cons.mpr ⟨⟨_, _, rfl, hredirect⟩, hall⟩⟩

theorem goneBehind_of_connectLoop (redirects : Nat) :
    ∀ url answers, connectLoop tunnel (redirects + 1) url answers
        = some (.error (.cableTunnel .gone)) → GoneBehind tunnel redirects url answers := by
  induction redirects with
  | zero =>
      intro url answers h
      unfold connectLoop at h
      split at h
      · cases h
      next hrequest =>
        split at h
        · cases h
        · split at h <;> cases h
        · cases h
        · split at h
          -- no redirect is followed
          · split at h
            · cases h
            · split at h
              · cases h
              · cases h
          · unfold tunnelStatusError at h
            split at h
            next hgone =>
              rw [hgone]
              exact .gone hrequest
            next => cases h
  | succ redirects ih =>
      intro url answers h
      unfold connectLoop at h
      split at h
      · cases h
      next hrequest =>
        split at h
        · cases h
        · split at h <;> cases h
        · cases h
        · split at h
          -- a redirect: by induction, from where it leads
          next hredirect =>
            split at h
            · cases h
            · split at h
              · cases h
              next htarget => exact .redirect hrequest hredirect htarget (ih _ _ h)
          next =>
            unfold tunnelStatusError at h
            split at h
            next hgone =>
              rw [hgone]
              exact .gone hrequest
            next => cases h

/-- **What comes to a 410 Gone.** -/
theorem connectLoop_gone_iff {redirects : Nat} {url : String} {answers : List TunnelAnswer} :
    connectLoop tunnel (redirects + 1) url answers = some (.error (.cableTunnel .gone))
      ↔ GoneBehind tunnel redirects url answers := by
  refine ⟨goneBehind_of_connectLoop tunnel redirects url answers, fun h => ?_⟩
  induction h with
  | gone hrequest =>
      unfold connectLoop
      rw [hrequest]
      rfl
  | redirect hrequest hredirect htarget _ ih =>
      unfold connectLoop
      rw [hrequest]
      dsimp only
      rw [if_pos hredirect, htarget]
      exact ih

/-! ## §2. The data channel. -/

/-- What the connection stage is given. -/
structure ConnectionInput where
  tunnelDomain : String
  connectionType : CableTunnelConnectionType
  /-- Whether the phone offered an L2CAP channel. -/
  ble : Bool
  /-- Whether there is a `known_device_store`. -/
  hasKnownDeviceStore : Bool
  deriving Repr, DecidableEq

namespace ConnectionInput

def newForQrCode (tunnelDomain routingId tunnelId : String) (privateKey : Bytes) (ble : Bool) :
    ConnectionInput where
  tunnelDomain := tunnelDomain
  connectionType := .qrCode routingId tunnelId privateKey
  ble := ble
  hasKnownDeviceStore := false

def newForKnownDevice (deviceInfo : CableKnownDeviceInfo) (hint : ClientPayloadHint)
    (clientNonce : Bytes) : ConnectionInput where
  tunnelDomain := deviceInfo.tunnelDomain
  connectionType := .knownDevice (tunnel.base64UrlEncode deviceInfo.contactId)
    deviceInfo.publicKey ⟨deviceInfo.linkId, clientNonce, hint⟩
  ble := false
  hasKnownDeviceStore := true

end ConnectionInput

def knownDeviceIdToForget :
    CableError → CableTunnelConnectionType → Option CableKnownDeviceId
  | .cableTunnel .gone, .knownDevice _ authenticatorPublicKey _ =>
      some (hexEncode authenticatorPublicKey)
  | _, _ => none

/-- The WebSocket tunnel, and the calls made to the store when it fails. -/
def connectTunnel (input : ConnectionInput) (answers : List TunnelAnswer) :
    Option (Except CableError Unit) × List StoreCall :=
  match connect tunnel input.tunnelDomain input.connectionType answers with
  | some (.error error) =>
      match knownDeviceIdToForget error input.connectionType with
      | some deviceId =>
          if input.hasKnownDeviceStore then
            (some (.error error), [.deleteKnownDevice deviceId])
          else (some (.error error), [])
      | none => (some (.error error), [])
  | result => (result, [])

/-- `connect_data_channel`: L2CAP if it is offered, and the tunnel if that
fails. -/
def connectDataChannel (input : ConnectionInput) (l2cap : Except CableError Unit)
    (answers : List TunnelAnswer) : Option (Except CableError Unit) × List StoreCall :=
  if input.ble then
    match l2cap with
    | .ok () => (some (.ok ()), [])
    | .error _ => connectTunnel tunnel input answers
  else connectTunnel tunnel input answers

theorem knownDeviceIdToForget_eq_some_iff {e : CableError}
    {connectionType : CableTunnelConnectionType} {id : CableKnownDeviceId} :
    knownDeviceIdToForget e connectionType = some id
      ↔ e = .cableTunnel .gone ∧ ∃ contactId publicKey payload,
          connectionType = .knownDevice contactId publicKey payload ∧ id = hexEncode publicKey := by
  constructor
  · intro h
    unfold knownDeviceIdToForget at h
    split at h
    · exact ⟨rfl, _, _, _, rfl, (Option.some.inj h).symm⟩
    · cases h
  · rintro ⟨rfl, contactId, publicKey, payload, rfl, rfl⟩
    rfl

/-- The service answers a connection with 410 Gone. -/
def ConnectionInput.Gone (input : ConnectionInput) (answers : List TunnelAnswer) : Prop :=
  GoneBehind tunnel MAX_TUNNEL_REDIRECTS (connectUrl input.tunnelDomain input.connectionType)
    answers

/-- What a connection may do to the store before there is a data channel:
forget the device it was made with, on a 410 Gone. -/
theorem mem_connectDataChannel {input : ConnectionInput} {l2cap : Except CableError Unit}
    {answers : List TunnelAnswer} {call : StoreCall}
    (h : call ∈ (connectDataChannel tunnel input l2cap answers).2) :
    ∃ contactId publicKey payload,
      input.connectionType = .knownDevice contactId publicKey payload
        ∧ (connectDataChannel tunnel input l2cap answers).2
          = [.deleteKnownDevice (hexEncode publicKey)]
        ∧ input.Gone tunnel answers := by
  have htunnel : (connectDataChannel tunnel input l2cap answers).2
      = (connectTunnel tunnel input answers).2 := by
    unfold connectDataChannel at h ⊢
    split
    next hble =>
      rw [if_pos hble] at h
      split
      · cases h
      · rfl
    next => rfl
  rw [htunnel] at h ⊢
  unfold connectTunnel at h ⊢
  split
  next error herror =>
    rw [herror] at h
    dsimp only at h
    split
    next deviceId hforget =>
      obtain ⟨rfl, contactId, publicKey, payload, htype, rfl⟩ :=
        knownDeviceIdToForget_eq_some_iff.mp hforget
      rw [hforget] at h
      dsimp only at h
      split at h
      next hstore =>
        rw [if_pos hstore]
        exact ⟨contactId, publicKey, payload, htype, rfl, (connectLoop_gone_iff tunnel).mp herror⟩
      next => cases h
    next hforget =>
      rw [hforget] at h
      cases h
  next hother =>
    split at h
    next error herror => exact absurd herror (hother error)
    next => cases h

/-- A known device is forgotten whenever the service answers 410 Gone. -/
theorem connectDataChannel_gone {deviceInfo : CableKnownDeviceInfo} {hint : ClientPayloadHint}
    {clientNonce : Bytes} (l2cap : Except CableError Unit) {answers : List TunnelAnswer}
    (h : (ConnectionInput.newForKnownDevice tunnel deviceInfo hint clientNonce).Gone tunnel
      answers) :
    (connectDataChannel tunnel (.newForKnownDevice tunnel deviceInfo hint clientNonce) l2cap
      answers).2 = [.deleteKnownDevice (hexEncode deviceInfo.publicKey)] := by
  show (connectTunnel tunnel _ answers).2 = _
  unfold connectTunnel
  rw [show connect tunnel _ _ answers = _ from (connectLoop_gone_iff tunnel).mpr h]
  rfl

/-! ## §3. The domain of a tunnel service. -/

def KNOWN_TUNNEL_DOMAINS : List String := ["cable.ua5v.com", "cable.auth.com"]
def SHA_INPUT : Bytes := utf8 "caBLEv2 tunnel server domain"
def BASE32_CHARS : List Char := "abcdefghijklmnopqrstuvwxyz234567".toList
def TLDS : List String := [".com", ".org", ".net", ".info"]

/-- The digits of a number in base 32, the lowest first, and none for zero. -/
def base32 (v : Nat) : List Char :=
  if v = 0 then [] else BASE32_CHARS.getD (v % 32) 'a' :: base32 (v / 32)

section

variable (crypto : Crypto)

/-- The first eight bytes of the digest that a code stands for. -/
def digestHead (encoded : UInt16) : Bytes :=
  (crypto.sha256 (SHA_INPUT ++ [encoded.toUInt8, (encoded >>> 8).toUInt8, 0])).take 8

def decodeTunnelServerDomain (encoded : UInt16) : Option String :=
  if encoded.toNat < 256 then KNOWN_TUNNEL_DOMAINS[encoded.toNat]?
  else
    let v := leDecode (digestHead crypto encoded)
    some ("cable." ++ String.ofList (base32 (v / 4)) ++ TLDS.getD (v % 4) "")

theorem base32_eq (v : Nat) :
    base32 v = (Nat.digits 32 v).map fun digit => BASE32_CHARS.getD digit 'a' := by
  induction v using Nat.strong_induction_on with
  | _ v ih =>
      rw [base32]
      split
      · rename_i hzero
        rw [hzero, Nat.digits_zero, List.map_nil]
      · rename_i hne
        rw [Nat.digits_def' (by decide) (Nat.pos_of_ne_zero hne), List.map_cons,
          ih _ (Nat.div_lt_self (Nat.pos_of_ne_zero hne) (by decide))]

theorem idxOf_base32 (v : Nat) : (base32 v).map (BASE32_CHARS.idxOf ·) = Nat.digits 32 v := by
  have hchars : ∀ a < 32, BASE32_CHARS.idxOf (BASE32_CHARS.getD a 'a') = a := by decide
  rw [base32_eq, List.map_map]
  refine (List.map_congr_left fun digit hdigit => ?_).trans (List.map_id _)
  exact hchars digit (Nat.digits_lt_base (by decide) hdigit)

theorem base32_injective : Function.Injective base32 := by
  intro v w h
  have hdigits := congrArg (List.map (BASE32_CHARS.idxOf ·)) h
  rw [idxOf_base32, idxOf_base32] at hdigits
  exact Nat.digits.injective 32 hdigits

theorem mem_base32 {v : Nat} {c : Char} (h : c ∈ base32 v) : c ∈ BASE32_CHARS := by
  have hchars : ∀ a < 32, BASE32_CHARS.getD a 'a' ∈ BASE32_CHARS := by decide
  rw [base32_eq] at h
  obtain ⟨digit, hdigit, rfl⟩ := List.mem_map.mp h
  exact hchars digit (Nat.digits_lt_base (by decide) hdigit)

theorem base32_length_le {v : Nat} (h : v < 2 ^ 62) : (base32 v).length ≤ 13 := by
  rw [base32_eq, List.length_map, Nat.digits_length_le_iff (by decide)]
  exact Nat.lt_of_lt_of_le h (by decide)

/-- What a label and a top-level domain are put together from. -/
theorem domain_inj {label label' : List Char} {tld tld' : String}
    (hlabel : ∀ c ∈ label, c ≠ '.') (hlabel' : ∀ c ∈ label', c ≠ '.')
    (htld : tld.toList.head? = some '.') (htld' : tld'.toList.head? = some '.')
    (h : "cable." ++ String.ofList label ++ tld = "cable." ++ String.ofList label' ++ tld') :
    label = label' ∧ tld = tld' := by
  have hcut : ∀ {label : List Char} {tld : String}, (∀ c ∈ label, c ≠ '.') →
      tld.toList.head? = some '.' →
      (label ++ tld.toList).takeWhile (· ≠ '.') = label := by
    intro label tld hlabel htld
    obtain ⟨rest, hrest⟩ := List.head?_eq_some_iff.mp htld
    rw [hrest, List.takeWhile_append_of_pos (by simpa using hlabel)]
    exact List.append_nil label
  have hlists := congrArg String.toList h
  simp only [String.toList_append, String.toList_ofList, List.append_assoc,
    List.append_cancel_left_eq] at hlists
  have heq : label = label' := by rw [← hcut hlabel htld, hlists, hcut hlabel' htld']
  rw [heq, List.append_cancel_left_eq] at hlists
  exact ⟨heq, String.toList_injective hlists⟩

theorem digestHead_length (encoded : UInt16) : (digestHead crypto encoded).length = 8 := by
  unfold digestHead
  rw [List.length_take, crypto.sha256_length]
  rfl

/-- **The domains of the codes.**  None is known for the codes 2 to 255.  From
256 on a domain is the label and the top-level domain that the digest of the
code spells, and two codes have one domain only where the digests begin alike. -/
theorem decodeTunnelServerDomain_spec :
    (∀ encoded : UInt16, decodeTunnelServerDomain crypto encoded = none
      ↔ 2 ≤ encoded.toNat ∧ encoded.toNat < 256) ∧
    (∀ encoded : UInt16, 256 ≤ encoded.toNat → ∃ (label : List Char) (tld : String),
      decodeTunnelServerDomain crypto encoded
          = some ("cable." ++ String.ofList label ++ tld)
        ∧ label.length ≤ 13 ∧ (∀ c ∈ label, c ∈ BASE32_CHARS) ∧ tld ∈ TLDS) ∧
    (∀ a b : UInt16, 256 ≤ a.toNat → 256 ≤ b.toNat →
      (decodeTunnelServerDomain crypto a = decodeTunnelServerDomain crypto b
        ↔ digestHead crypto a = digestHead crypto b)) := by
  have hhashed : ∀ encoded : UInt16, 256 ≤ encoded.toNat →
      decodeTunnelServerDomain crypto encoded
        = some ("cable." ++ String.ofList (base32 (leDecode (digestHead crypto encoded) / 4))
            ++ TLDS.getD (leDecode (digestHead crypto encoded) % 4) "") := by
    intro encoded h
    exact if_neg (by omega)
  have htlds : ∀ i < 4, TLDS.getD i "" ∈ TLDS := by decide
  have hlt : ∀ encoded : UInt16, leDecode (digestHead crypto encoded) < 2 ^ 64 := by
    intro encoded
    have hle := leDecode_lt (digestHead crypto encoded)
    rw [digestHead_length] at hle
    exact Nat.lt_of_lt_of_eq hle (by decide)
  refine ⟨fun encoded => ?_, fun encoded h => ?_, fun a b ha hb => ?_⟩
  · unfold decodeTunnelServerDomain
    split
    · rw [List.getElem?_eq_none_iff]
      show 2 ≤ encoded.toNat ↔ _
      omega
    · simp
      omega
  · refine ⟨_, _, hhashed encoded h, base32_length_le ?_, fun c hc => mem_base32 hc,
      htlds _ (Nat.mod_lt _ (by decide))⟩
    have := hlt encoded
    omega
  · -- the label tells the digest but for two bits, and the top-level domain those
    rw [hhashed a ha, hhashed b hb]
    refine ⟨fun h => ?_, fun h => by rw [h]⟩
    have hdots : ∀ {v : Nat}, ∀ c ∈ base32 v, c ≠ '.' := by
      intro v c hc hdot
      have hmem := mem_base32 hc
      rw [hdot] at hmem
      revert hmem
      decide
    have hheads : ∀ i < 4, (TLDS.getD i "").toList.head? = some '.' := by decide
    have hapart : ∀ i < 4, ∀ j < 4, TLDS.getD i "" = TLDS.getD j "" → i = j := by decide
    obtain ⟨hlabel, htld⟩ := domain_inj hdots hdots (hheads _ (Nat.mod_lt _ (by decide)))
      (hheads _ (Nat.mod_lt _ (by decide))) (Option.some.inj h)
    have hdiv := base32_injective hlabel
    have hmod := hapart _ (Nat.mod_lt _ (by decide)) _ (Nat.mod_lt _ (by decide)) htld
    refine leDecode_inj ?_ (by omega)
    rw [digestHead_length, digestHead_length]

end

end Libwebauthn.Transport.Cable
