/-
  Libwebauthn.Transport.Cable.Proximity — waiting for the phone's BLE
  advertisement (`src/transport/cable/{crypto,advertisement}.rs`, the
  discovery of `src/transport/ble/btleplug/manager.rs`).

  An advert is one AES block and four bytes of its HMAC, and behind them a
  suffix that neither covers.  The keys are halves of the EID key, which only
  the party that scanned the code, or was linked before, can derive.

    • `trialDecryptAdvert_eq_some_iff` — the adverts under a key are those
      that the holder of the key puts together, whatever follows them;
    • `awaitAdvertisement_eq_ok_iff` — the scan ends with the first of them.
-/
import Libwebauthn.Transport.Cable.QrCode
import Mathlib.Logic.Equiv.Defs

namespace Libwebauthn.Transport.Cable

/-! ## §1. Keys. -/

/-- The primitives of the hybrid transport.  AES-256 under a key permutes the
blocks. -/
structure CableCrypto extends Crypto where
  hkdfSha256_length : ∀ salt ikm info n, n ≤ 8160 → (hkdfSha256 salt ikm info n).length = n
  aes256 : FixedBytes 32 → Equiv.Perm (FixedBytes 16)

inductive KeyPurpose where
  | eidKey
  | tunnelId
  | psk
  deriving Repr, DecidableEq

def KeyPurpose.toU8 : KeyPurpose → UInt8
  | .eidKey => 1
  | .tunnelId => 2
  | .psk => 3

variable (crypto : CableCrypto)

/-- HKDF without a salt takes 32 zeros for it. -/
def derive (secret : Bytes) (salt : Option Bytes) (purpose : KeyPurpose) : FixedBytes 64 :=
  ⟨crypto.hkdfSha256 (salt.getD (List.replicate 32 0)) secret [purpose.toU8, 0, 0, 0] 64,
    crypto.hkdfSha256_length _ _ _ _ (by decide)⟩

def firstHalf (bytes : FixedBytes 64) : FixedBytes 32 :=
  ⟨bytes.val.take 32, by rw [List.length_take, bytes.property]; rfl⟩

/-- The key of the cipher, and that of the tag. -/
def aesKey (eidKey : FixedBytes 64) : FixedBytes 32 := firstHalf eidKey

def macKey (eidKey : FixedBytes 64) : Bytes := eidKey.val.drop 32

/-! ## §2. Adverts. -/

def reservedBitsAreZero (plaintext : Bytes) : Bool := plaintext.head? = some 0

/-- Only the first 20 bytes are the encrypted advert. -/
def trialDecryptAdvert (eidKey candidateAdvert : Bytes) : Option (FixedBytes 16) :=
  if candidateAdvert.length < 20 then none
  else if eidKey.length ≠ 64 then none
  else
    let advertBody := candidateAdvert.take 16
    let advertTag := (candidateAdvert.take 20).drop 16
    if (crypto.hmacSha256 (eidKey.drop 32) advertBody).take 4 ≠ advertTag then none
    else
      match fixedBytes? 32 (eidKey.take 32), fixedBytes? 16 advertBody with
      | some key, some block =>
          let block := (crypto.aes256 key).symm block
          if reservedBitsAreZero block.val then some block else none
      | _, _ => none

/-- The first four bytes of the tag of a block. -/
def advertTag (eidKey : FixedBytes 64) (block : Bytes) : Bytes :=
  (crypto.hmacSha256 (macKey eidKey) block).take 4

/-- What the holder of the key makes of a plaintext. -/
def makeAdvert (eidKey : FixedBytes 64) (plaintext : FixedBytes 16) : Bytes :=
  (crypto.aes256 (aesKey eidKey) plaintext).val
    ++ advertTag crypto eidKey (crypto.aes256 (aesKey eidKey) plaintext).val

section

variable {crypto} {eidKey : FixedBytes 64} {data : Bytes} {plaintext : FixedBytes 16}

theorem makeAdvert_length : (makeAdvert crypto eidKey plaintext).length = 20 := by
  unfold makeAdvert advertTag
  rw [List.length_append, List.length_take, crypto.hmacSha256_length,
    (crypto.aes256 (aesKey eidKey) plaintext).property]
  rfl

/-- With a block and a tag in front, these decide. -/
theorem trialDecryptAdvert_append (block : FixedBytes 16) {tag : Bytes} (htag : tag.length = 4)
    (suffix : Bytes) :
    trialDecryptAdvert crypto eidKey.val (block.val ++ tag ++ suffix)
      = if advertTag crypto eidKey block.val = tag
          ∧ reservedBitsAreZero ((crypto.aes256 (aesKey eidKey)).symm block).val = true then
          some ((crypto.aes256 (aesKey eidKey)).symm block)
        else none := by
  have hlength : (block.val ++ tag).length = 20 := by
    rw [List.length_append, block.property, htag]
  have hlong : ¬ (block.val ++ tag ++ suffix).length < 20 := by
    rw [List.length_append, hlength]
    omega
  have hbody : (block.val ++ tag ++ suffix).take 16 = block.val := by
    rw [List.append_assoc]
    exact List.take_left' block.property
  have hrest : ((block.val ++ tag ++ suffix).take 20).drop 16 = tag := by
    rw [List.take_left' hlength]
    exact List.drop_left' block.property
  have hkey : fixedBytes? 32 (eidKey.val.take 32) = some (aesKey eidKey) :=
    fixedBytes?_val (aesKey eidKey)
  unfold trialDecryptAdvert
  rw [if_neg hlong, if_neg (not_not_intro eidKey.property), hbody, hrest, hkey]
  dsimp only
  rw [fixedBytes?_val]
  show (if advertTag crypto eidKey block.val ≠ tag then none else _) = _
  by_cases heq : advertTag crypto eidKey block.val = tag
  · rw [if_neg (not_not_intro heq)]
    simp only [heq, true_and]
  · rw [if_pos heq]
    exact (if_neg fun h => heq h.1).symm

/-- **The adverts under a key** are those made with it. -/
theorem trialDecryptAdvert_eq_some_iff :
    trialDecryptAdvert crypto eidKey.val data = some plaintext
      ↔ reservedBitsAreZero plaintext.val = true
        ∧ ∃ suffix, data = makeAdvert crypto eidKey plaintext ++ suffix := by
  constructor
  · intro h
    have hlong : 20 ≤ data.length := by
      by_contra hshort
      unfold trialDecryptAdvert at h
      rw [if_pos (by omega)] at h
      cases h
    have hblock : (data.take 16).length = 16 := by
      rw [List.length_take]
      omega
    have htag : ((data.drop 16).take 4).length = 4 := by
      rw [List.length_take, List.length_drop]
      omega
    have hdata : data = data.take 16 ++ (data.drop 16).take 4 ++ (data.drop 16).drop 4 := by
      rw [List.append_assoc, List.take_append_drop, List.take_append_drop]
    rw [hdata, trialDecryptAdvert_append ⟨data.take 16, hblock⟩ htag] at h
    split at h
    · rename_i hboth
      obtain rfl := Option.some.inj h
      refine ⟨hboth.2, (data.drop 16).drop 4, hdata.trans ?_⟩
      unfold makeAdvert
      rw [Equiv.apply_symm_apply, hboth.1]
    · cases h
  · rintro ⟨hreserved, suffix, rfl⟩
    have htag : (advertTag crypto eidKey (crypto.aes256 (aesKey eidKey) plaintext).val).length
        = 4 := by
      unfold advertTag
      rw [List.length_take, crypto.hmacSha256_length]
      rfl
    unfold makeAdvert
    rw [trialDecryptAdvert_append _ htag, Equiv.symm_apply_apply, if_pos ⟨rfl, hreserved⟩]

end

/-- The CTAP 2.3 suffix: channel identifiers with what each channel needs. -/
structure AdvertisementSuffix where
  channels : List (Cbor × Cbor)

/-- `transport_channel_identifier` of the BLE data channel. -/
def TRANSPORT_CHANNEL_BLE : Nat := 1

def isInteger : Cbor → Bool
  | .uint _ => true
  | .nint _ => true
  | _ => false

namespace AdvertisementSuffix

/-- `decodeMap` gives the entries of a CBOR map, each key once; entries under
other keys than integers are dropped. -/
def fromCbor (decodeMap : Bytes → Option (List (Cbor × Cbor))) (bytes : Bytes) :
    Option AdvertisementSuffix :=
  (decodeMap bytes).map fun entries => ⟨entries.filter fun entry => isInteger entry.1⟩

/-- The PSM of the L2CAP server, if it is a `u16`. -/
def blePsm (self : AdvertisementSuffix) : Option UInt16 :=
  match getInteger TRANSPORT_CHANNEL_BLE self.channels with
  | some (.uint psm) => if psm < 2 ^ 16 then some (UInt16.ofNat psm) else none
  | _ => none

end AdvertisementSuffix

structure DecryptedAdvert where
  plaintext : FixedBytes 16
  nonce : Bytes
  routingId : Bytes
  encodedTunnelServerDomain : UInt16
  suffix : Option AdvertisementSuffix

namespace DecryptedAdvert

/-- The fields of a plaintext; the suffix is not part of it. -/
def fromPlaintext (plaintext : FixedBytes 16) : DecryptedAdvert where
  plaintext := plaintext
  nonce := (plaintext.val.drop 1).take 10
  routingId := (plaintext.val.drop 11).take 3
  encodedTunnelServerDomain := UInt16.ofNat (leDecode (plaintext.val.drop 14))
  suffix := none

/-- The advert with what follows it.  A suffix that does not parse is ignored,
as an empty one is. -/
def withSuffix (decodeMap : Bytes → Option (List (Cbor × Cbor))) (plaintext : FixedBytes 16)
    (suffixBytes : Bytes) : DecryptedAdvert :=
  if suffixBytes.isEmpty then fromPlaintext plaintext
  else { fromPlaintext plaintext with suffix := AdvertisementSuffix.fromCbor decodeMap suffixBytes }

theorem withSuffix_eq (decodeMap : Bytes → Option (List (Cbor × Cbor)))
    (plaintext : FixedBytes 16) (suffixBytes : Bytes) :
    ∃ suffix, withSuffix decodeMap plaintext suffixBytes
      = { fromPlaintext plaintext with suffix := suffix } := by
  unfold withSuffix
  split
  · exact ⟨none, rfl⟩
  · exact ⟨_, rfl⟩

theorem withSuffix_plaintext (decodeMap : Bytes → Option (List (Cbor × Cbor)))
    (plaintext : FixedBytes 16) (suffixBytes : Bytes) :
    (withSuffix decodeMap plaintext suffixBytes).plaintext = plaintext := by
  obtain ⟨suffix, h⟩ := withSuffix_eq decodeMap plaintext suffixBytes
  rw [h]
  rfl

end DecryptedAdvert

/-! ## §3. The scan. -/

def CABLE_UUID_FIDO : String := "0000fff9-0000-1000-8000-00805f9b34fb"

/-- Deprecated, but may still be in use. -/
def CABLE_UUID_GOOGLE : String := "0000fde2-0000-1000-8000-00805f9b34fb"

/-- A service data advertisement: the data of each service, whether the
adapter knows the peripheral, what `get_device` returns, and whether the scan
can be stopped behind it. -/
structure Advertisement (D : Type) where
  serviceData : List (String × Bytes)
  peripheral : Bool
  device : Except Unit (Option D)
  stopScan : Bool

inductive ScanEvent (D : Type) where
  | advertised (advertisement : Advertisement D)
  | terminated

variable {D : Type}

/-- The data of the first service on the list, if the peripheral is there. -/
def onPeripheralServiceData (uuids : List String) (advertisement : Advertisement D) :
    Option Bytes :=
  match uuids.findSome? fun uuid => advertisement.serviceData.lookup uuid with
  | none => none
  | some data => if advertisement.peripheral then some data else none

variable (decodeMap : Bytes → Option (List (Cbor × Cbor)))

/-- What an advertisement comes to; `none` when it is passed over. -/
def tryAdvertisement (eidKey : Bytes) (advertisement : Advertisement D) :
    Option (Except CableError (D × DecryptedAdvert)) :=
  match onPeripheralServiceData [CABLE_UUID_FIDO, CABLE_UUID_GOOGLE] advertisement with
  | none => none
  | some data =>
      match advertisement.device with
      | .error () => some (.error .transportUnavailable)
      | .ok none => none
      | .ok (some device) =>
          match trialDecryptAdvert crypto eidKey data with
          | none => none
          | some decrypted =>
              if advertisement.stopScan then
                some (.ok (device, .withSuffix decodeMap decrypted (data.drop 20)))
              else some (.error .transportUnavailable)

/-- `none` while the scan goes on. -/
def awaitAdvertisement (eidKey : Bytes) :
    List (ScanEvent D) → Option (Except CableError (D × DecryptedAdvert))
  | [] => none
  | .terminated :: _ => some (.error .transportUnavailable)
  | .advertised advertisement :: events =>
      match tryAdvertisement crypto decodeMap eidKey advertisement with
      | some result => some result
      | none => awaitAdvertisement eidKey events

/-- `data` is what the advertisement says under the services of interest, and
its device can be had. -/
structure Readable (advertisement : Advertisement D) (device : D) (data : Bytes) : Prop where
  data_eq : onPeripheralServiceData [CABLE_UUID_FIDO, CABLE_UUID_GOOGLE] advertisement = some data
  device_eq : advertisement.device = .ok (some device)

/-- Not an advertisement for the holder of this key. -/
def Foreign (eidKey : Bytes) : ScanEvent D → Prop
  | .terminated => False
  | .advertised advertisement => tryAdvertisement crypto decodeMap eidKey advertisement = none

variable {crypto decodeMap}

theorem tryAdvertisement_eq_ok_iff {eidKey : FixedBytes 64} {advertisement : Advertisement D}
    {device : D} {advert : DecryptedAdvert} :
    tryAdvertisement crypto decodeMap eidKey.val advertisement = some (.ok (device, advert))
      ↔ ∃ plaintext suffix,
          Readable advertisement device (makeAdvert crypto eidKey plaintext ++ suffix)
            ∧ reservedBitsAreZero plaintext.val = true ∧ advertisement.stopScan = true
            ∧ advert = .withSuffix decodeMap plaintext suffix := by
  unfold tryAdvertisement
  constructor
  · intro h
    split at h
    · cases h
    · rename_i data hdata
      split at h
      · cases h
      · cases h
      · rename_i device' hdevice
        split at h
        · cases h
        · rename_i plaintext hdecrypt
          split at h
          · rename_i hstop
            obtain ⟨rfl, rfl⟩ := Prod.mk.inj (Except.ok.inj (Option.some.inj h))
            obtain ⟨hreserved, suffix, rfl⟩ := trialDecryptAdvert_eq_some_iff.mp hdecrypt
            refine ⟨plaintext, suffix, ⟨hdata, hdevice⟩, hreserved, hstop, ?_⟩
            rw [List.drop_left' makeAdvert_length]
          · cases h
  · rintro ⟨plaintext, suffix, ⟨hdata, hdevice⟩, hreserved, hstop, rfl⟩
    have hdecrypt : trialDecryptAdvert crypto eidKey.val
        (makeAdvert crypto eidKey plaintext ++ suffix) = some plaintext :=
      trialDecryptAdvert_eq_some_iff.mpr ⟨hreserved, suffix, rfl⟩
    simp only [hdata, hdevice, hdecrypt, hstop, if_true,
      List.drop_left' makeAdvert_length]

/-- **The scan ends with the first advert under the key**, and with nothing
that another sender made up. -/
theorem awaitAdvertisement_eq_ok_iff {eidKey : FixedBytes 64} {device : D}
    {advert : DecryptedAdvert} (events : List (ScanEvent D)) :
    awaitAdvertisement crypto decodeMap eidKey.val events = some (.ok (device, advert))
      ↔ ∃ before advertisement after plaintext suffix,
          events = before ++ .advertised advertisement :: after
            ∧ (∀ event ∈ before, Foreign crypto decodeMap eidKey.val event)
            ∧ Readable advertisement device (makeAdvert crypto eidKey plaintext ++ suffix)
            ∧ reservedBitsAreZero plaintext.val = true ∧ advertisement.stopScan = true
            ∧ advert = .withSuffix decodeMap plaintext suffix := by
  induction events with
  | nil =>
      constructor
      · intro h
        cases h
      · rintro ⟨before, _, _, _, _, hsplit, _⟩
        cases before <;> cases hsplit
  | cons event events ih =>
      constructor
      · intro h
        cases event with
        | terminated => cases h
        | advertised advertisement =>
            unfold awaitAdvertisement at h
            split at h
            · -- the scan ends here
              rename_i result hresult
              rw [Option.some.inj h] at hresult
              obtain ⟨plaintext, suffix, hread, hreserved, hstop, hadvert⟩ :=
                tryAdvertisement_eq_ok_iff.mp hresult
              exact ⟨[], advertisement, events, plaintext, suffix, rfl, List.forall_mem_nil _,
                hread, hreserved, hstop, hadvert⟩
            · -- it goes on
              rename_i hforeign
              obtain ⟨before, advertisement', after, plaintext, suffix, rfl, hbefore, hread⟩ :=
                ih.mp h
              exact ⟨.advertised advertisement :: before, advertisement', after, plaintext, suffix,
                rfl, List.forall_mem_cons.mpr ⟨hforeign, hbefore⟩, hread⟩
      · rintro ⟨before, advertisement, after, plaintext, suffix, hsplit, hbefore, hread, hreserved,
          hstop, hadvert⟩
        cases before with
        | nil =>
            obtain ⟨rfl, rfl⟩ := List.cons.inj hsplit
            unfold awaitAdvertisement
            rw [tryAdvertisement_eq_ok_iff.mpr
              ⟨plaintext, suffix, hread, hreserved, hstop, hadvert⟩]
        | cons first before =>
            obtain ⟨hforeign, hothers⟩ := List.forall_mem_cons.mp hbefore
            obtain ⟨rfl, rfl⟩ := List.cons.inj hsplit
            cases event with
            | terminated => exact hforeign.elim
            | advertised first =>
                unfold awaitAdvertisement
                rw [show tryAdvertisement crypto decodeMap eidKey.val first = none from hforeign]
                exact ih.mpr ⟨before, advertisement, after, plaintext, suffix, rfl, hothers, hread,
                  hreserved, hstop, hadvert⟩

end Libwebauthn.Transport.Cable
