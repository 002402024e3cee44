/-
  Libwebauthn.Ctap2.Cose — COSE_Keys as SubjectPublicKeyInfos
  (`src/proto/ctap2/cose.rs`).

  `CoseMap.IsKey` says which public key a COSE_Key has, and `readKey` which one
  a SubjectPublicKeyInfo has; `toSpki` gets from one to the other.  `parse`
  stands for `serde_cbor_2::from_slice`, and `DerCrate` for the `der` and `spki`
  crates, which are documented to give the encodings of `Lib.Der`.
-/
import Libwebauthn.Lib.CborReader
import Libwebauthn.Lib.Der
import Libwebauthn.Lib.Proc
import Libwebauthn.Webauthn.Error

namespace Libwebauthn

namespace Cose

open Der

/-! ## §1. COSE_Keys. -/

abbrev COSE_KEY_LABEL_KTY : Int := 1
abbrev COSE_KEY_LABEL_ALG : Int := 3

abbrev COSE_KEY_LABEL_CRV : Int := -1
abbrev COSE_KEY_LABEL_X : Int := -2
abbrev COSE_KEY_LABEL_Y : Int := -3

abbrev COSE_KEY_LABEL_N : Int := -1
abbrev COSE_KEY_LABEL_E : Int := -2

abbrev COSE_KTY_OKP : Int := 1
abbrev COSE_KTY_EC2 : Int := 2
abbrev COSE_KTY_RSA : Int := 3

abbrev COSE_CRV_P256 : Int := 1
abbrev COSE_CRV_ED25519 : Int := 6

/-- `Ctap2COSEAlgorithmIdentifier`, by its `i32`. -/
abbrev Ctap2COSEAlgorithmIdentifier := Int

abbrev ES256 : Ctap2COSEAlgorithmIdentifier := -7
abbrev EDDSA : Ctap2COSEAlgorithmIdentifier := -8
abbrev ESP256 : Ctap2COSEAlgorithmIdentifier := -9
abbrev RS256 : Ctap2COSEAlgorithmIdentifier := -257

/-- The number of a `Value::Integer`. -/
def integer? : Cbor → Option Int
  | .uint n => some n
  | .nint n => some (-1 - n)
  | _ => none

/-- A `BTreeMap<Value, Value>`, by the entries that it was read from. -/
abbrev CoseMap := List (Cbor × Cbor)

/-- `BTreeMap::get` of an integer: of entries with one key the last is kept. -/
def CoseMap.get (map : CoseMap) (label : Int) : Option Cbor :=
  (map.reverse.find? fun entry => integer? entry.1 = some label).map (·.2)

section

variable (parse : Bytes → Option Cbor)

def parseCoseMap (bytes : Bytes) : Except PlatformError CoseMap :=
  match parse bytes with
  | some (.map map) => .ok map
  | _ => .error .invalidDeviceResponse

def mapInteger (map : CoseMap) (label : Int) : Except PlatformError Int :=
  match (map.get label).bind integer? with
  | some i => .ok i
  | none => .error .invalidDeviceResponse

def mapBytes (map : CoseMap) (label : Int) : Except PlatformError Bytes :=
  match map.get label with
  | some (.bytes b) => .ok b
  | _ => .error .invalidDeviceResponse

def readAlgFromMap (map : CoseMap) : Except PlatformError Ctap2COSEAlgorithmIdentifier := do
  let alg ← mapInteger map COSE_KEY_LABEL_ALG
  if -2 ^ 31 ≤ alg ∧ alg < 2 ^ 31 then pure alg else .error .invalidDeviceResponse

def readAlg (bytes : Bytes) : Except PlatformError Ctap2COSEAlgorithmIdentifier := do
  let map ← parseCoseMap parse bytes
  readAlgFromMap map

/-- `require_kty` and `require_crv`. -/
def requireInteger (label : Int) (map : CoseMap) (expected : Int) : Except PlatformError Unit := do
  let found ← mapInteger map label
  if found ≠ expected then .error .invalidDeviceResponse else pure ()

def requireKty : CoseMap → Int → Except PlatformError Unit := requireInteger COSE_KEY_LABEL_KTY

def requireCrv : CoseMap → Int → Except PlatformError Unit := requireInteger COSE_KEY_LABEL_CRV

/-! ## §2. SubjectPublicKeyInfos. -/

def OID_EC_PUBLIC_KEY : Bytes := oid [1, 2, 840, 10045, 2, 1]

def OID_SECP256R1 : Bytes := oid [1, 2, 840, 10045, 3, 1, 7]

def OID_ED25519 : Bytes := oid [1, 3, 101, 112]

def OID_RSA_ENCRYPTION : Bytes := oid [1, 2, 840, 113549, 1, 1, 1]

/-- What is called of the `der` and `spki` crates; `none` is an error. -/
structure DerCrate where
  /-- `UintRef::new`, by the bytes that it keeps. -/
  newUintRef : Bytes → Option Bytes
  /-- `to_der` of a derived `Sequence` of two `UintRef`s. -/
  uintRefsToDer : (first second : Bytes) → Option Bytes
  /-- `to_der` of an `ObjectIdentifier`, by its content. -/
  objectIdentifierToDer : (oid : Bytes) → Option Bytes
  /-- `to_der` of `Null`. -/
  nullToDer : Option Bytes
  /-- `Any::from_der`. -/
  anyFromDer : Bytes → Option Any
  /-- `BitString::from_bytes`, by the bytes that it holds. -/
  bitStringFromBytes : Bytes → Option Bytes
  /-- `to_der` of a `SubjectPublicKeyInfoOwned`. -/
  spkiToDer : PublicKeyInfo → Option Bytes

/-- `Length::MAX` of the `der` crate. -/
abbrev LENGTH_MAX : Nat := 0xfffffff

/-- Bytes that a `Length` can count. -/
def fitting (bytes : Bytes) : Option Bytes := if bytes.length ≤ LENGTH_MAX then some bytes else none

/-- The sequence of two numbers, by their bytes. -/
def uintSequence (first second : Bytes) : Bytes := tlv sequenceTag (uint first ++ uint second)

/-- **What the crates are documented to do**: to write distinguished encodings,
to read them back, to strip a number of its leading zeros, and to refuse what a
`Length` cannot count. -/
structure DerCrate.Documented (crate : DerCrate) : Prop where
  newUintRef : ∀ bytes, crate.newUintRef bytes = fitting (stripLeadingZeroes bytes)
  uintRefsToDer : ∀ first second,
    crate.uintRefsToDer first second = fitting (uintSequence first second)
  objectIdentifierToDer : ∀ oid,
    crate.objectIdentifierToDer oid = fitting (tlv objectIdentifierTag oid)
  nullToDer : crate.nullToDer = some (tlv nullTag [])
  anyFromDer : ∀ any : Any, any.toDer.length ≤ LENGTH_MAX → crate.anyFromDer any.toDer = some any
  bitStringFromBytes : ∀ bytes, crate.bitStringFromBytes bytes = fitting bytes
  spkiToDer : ∀ info, crate.spkiToDer info = fitting info.toDer

/-- `map_err(|_| PlatformError::InvalidDeviceResponse)`. -/
def orInvalid {α : Type} : Option α → Except PlatformError α
  | some a => .ok a
  | none => .error .invalidDeviceResponse

variable (crate : DerCrate)

def p256Spki (x y : Bytes) : Except PlatformError Bytes :=
  if x.length ≠ 32 ∨ y.length ≠ 32 then .error .invalidDeviceResponse
  else do
    let point := 0x04 :: (x ++ y)
    let curveOidDer ← orInvalid (crate.objectIdentifierToDer OID_SECP256R1)
    let parameters ← orInvalid (crate.anyFromDer curveOidDer)
    let subjectPublicKey ← orInvalid (crate.bitStringFromBytes point)
    orInvalid (crate.spkiToDer ⟨OID_EC_PUBLIC_KEY, some parameters, subjectPublicKey⟩)

def ed25519Spki (x : Bytes) : Except PlatformError Bytes :=
  if x.length ≠ 32 then .error .invalidDeviceResponse
  else do
    let subjectPublicKey ← orInvalid (crate.bitStringFromBytes x)
    orInvalid (crate.spkiToDer ⟨OID_ED25519, none, subjectPublicKey⟩)

def rs256Spki (n e : Bytes) : Except PlatformError Bytes := do
  let modulus ← orInvalid (crate.newUintRef n)
  let publicExponent ← orInvalid (crate.newUintRef e)
  let innerDer ← orInvalid (crate.uintRefsToDer modulus publicExponent)
  let nullDer ← orInvalid crate.nullToDer
  let parameters ← orInvalid (crate.anyFromDer nullDer)
  let subjectPublicKey ← orInvalid (crate.bitStringFromBytes innerDer)
  orInvalid (crate.spkiToDer ⟨OID_RSA_ENCRYPTION, some parameters, subjectPublicKey⟩)

/-- The `match` of `to_spki` on the algorithm. -/
def spkiFromMap (map : CoseMap) (alg : Ctap2COSEAlgorithmIdentifier) :
    Except PlatformError (Option Bytes) :=
  if alg = ES256 ∨ alg = ESP256 then do
    requireKty map COSE_KTY_EC2
    requireCrv map COSE_CRV_P256
    let x ← mapBytes map COSE_KEY_LABEL_X
    let y ← mapBytes map COSE_KEY_LABEL_Y
    let der ← p256Spki crate x y
    pure (some der)
  else if alg = EDDSA then do
    requireKty map COSE_KTY_OKP
    requireCrv map COSE_CRV_ED25519
    let x ← mapBytes map COSE_KEY_LABEL_X
    let der ← ed25519Spki crate x
    pure (some der)
  else if alg = RS256 then do
    requireKty map COSE_KTY_RSA
    let n ← mapBytes map COSE_KEY_LABEL_N
    let e ← mapBytes map COSE_KEY_LABEL_E
    let der ← rs256Spki crate n e
    pure (some der)
  else pure none

def toSpki (bytes : Bytes) : Except PlatformError (Option Bytes) := do
  let map ← parseCoseMap parse bytes
  let alg ← readAlgFromMap map
  spkiFromMap crate map alg

/-! ## §3. What is turned into what. -/

/-- The SubjectPublicKeyInfo of a point of P-256. -/
def p256Info (x y : Bytes) : PublicKeyInfo where
  oid := OID_EC_PUBLIC_KEY
  parameters := some ⟨objectIdentifierTag, OID_SECP256R1⟩
  subjectPublicKey := 0x04 :: (x ++ y)

def ed25519Info (x : Bytes) : PublicKeyInfo := ⟨OID_ED25519, none, x⟩

def rs256Info (n e : Bytes) : PublicKeyInfo where
  oid := OID_RSA_ENCRYPTION
  parameters := some ⟨nullTag, []⟩
  subjectPublicKey := uintSequence n e

/-- A public key, as the parameters of a COSE_Key give it. -/
inductive CoseKey where
  | p256 (x y : Bytes) (hx : x.length = 32) (hy : y.length = 32)
  | ed25519 (x : Bytes) (hx : x.length = 32)
  | rsa (n e : Bytes)

def CoseKey.info : CoseKey → PublicKeyInfo
  | .p256 x y _ _ => p256Info x y
  | .ed25519 x _ => ed25519Info x
  | .rsa n e => rs256Info n e

def CoseMap.HasInteger (map : CoseMap) (label i : Int) : Prop :=
  (map.get label).bind integer? = some i

def CoseMap.HasBytes (map : CoseMap) (label : Int) (bs : Bytes) : Prop :=
  map.get label = some (.bytes bs)

/-- The public key of a COSE_Key. -/
def CoseMap.IsKey (map : CoseMap) : CoseKey → Prop
  | .p256 x y _ _ =>
      (map.HasInteger COSE_KEY_LABEL_ALG ES256 ∨ map.HasInteger COSE_KEY_LABEL_ALG ESP256)
        ∧ map.HasInteger COSE_KEY_LABEL_KTY COSE_KTY_EC2
        ∧ map.HasInteger COSE_KEY_LABEL_CRV COSE_CRV_P256
        ∧ map.HasBytes COSE_KEY_LABEL_X x ∧ map.HasBytes COSE_KEY_LABEL_Y y
  | .ed25519 x _ =>
      map.HasInteger COSE_KEY_LABEL_ALG EDDSA ∧ map.HasInteger COSE_KEY_LABEL_KTY COSE_KTY_OKP
        ∧ map.HasInteger COSE_KEY_LABEL_CRV COSE_CRV_ED25519 ∧ map.HasBytes COSE_KEY_LABEL_X x
  | .rsa n e =>
      map.HasInteger COSE_KEY_LABEL_ALG RS256 ∧ map.HasInteger COSE_KEY_LABEL_KTY COSE_KTY_RSA
        ∧ map.HasBytes COSE_KEY_LABEL_N n ∧ map.HasBytes COSE_KEY_LABEL_E e

/-- A COSE_Key is a CBOR map, and every other item is refused. -/
theorem parseCoseMap_eq_ok_iff {bytes : Bytes} {map : CoseMap} :
    parseCoseMap parse bytes = .ok map ↔ parse bytes = some (.map map) := by
  unfold parseCoseMap
  constructor
  · intro h
    split at h
    next hparse => rw [hparse, Except.ok.inj h]
    next => cases h
  · intro h
    rw [h]

theorem mapInteger_eq_ok_iff {map : CoseMap} {label i : Int} :
    mapInteger map label = .ok i ↔ map.HasInteger label i := by
  unfold mapInteger CoseMap.HasInteger
  constructor
  · intro h
    split at h
    next hget => rw [hget, Except.ok.inj h]
    next => cases h
  · intro h
    rw [h]

theorem mapBytes_eq_ok_iff {map : CoseMap} {label : Int} {bs : Bytes} :
    mapBytes map label = .ok bs ↔ map.HasBytes label bs := by
  unfold mapBytes CoseMap.HasBytes
  constructor
  · intro h
    split at h
    next hget => rw [hget, Except.ok.inj h]
    next => cases h
  · intro h
    rw [h]

/-- The key type and the curve are compared as integers. -/
theorem requireInteger_eq_ok_iff {label expected : Int} {map : CoseMap} :
    requireInteger label map expected = .ok () ↔ map.HasInteger label expected := by
  rw [← mapInteger_eq_ok_iff]
  unfold requireInteger
  cases mapInteger map label with
  | error e => exact ⟨fun h => (by cases h), fun h => (by cases h)⟩
  | ok found =>
      show (if found ≠ expected then _ else _) = _ ↔ _
      by_cases hfound : found = expected
      · rw [if_neg (not_not_intro hfound), hfound]
        exact ⟨fun _ => rfl, fun _ => rfl⟩
      · rw [if_pos hfound]
        exact ⟨fun h => (by cases h), fun h => absurd (Except.ok.inj h) hfound⟩

/-- An algorithm is an `i32`; a larger number is no algorithm. -/
theorem readAlgFromMap_eq_ok_iff {map : CoseMap} {alg : Int} :
    readAlgFromMap map = .ok alg
      ↔ map.HasInteger COSE_KEY_LABEL_ALG alg ∧ -2 ^ 31 ≤ alg ∧ alg < 2 ^ 31 := by
  rw [← mapInteger_eq_ok_iff]
  unfold readAlgFromMap
  cases mapInteger map COSE_KEY_LABEL_ALG with
  | error e => exact ⟨fun h => (by cases h), fun h => (by cases h.1)⟩
  | ok found =>
      show (if _ then Except.ok found else _) = _ ↔ _
      constructor
      · intro h
        split at h
        next hrange =>
          obtain rfl := Except.ok.inj h
          exact ⟨rfl, hrange⟩
        next => cases h
      · rintro ⟨h, hrange⟩
        obtain rfl := Except.ok.inj h
        rw [if_pos hrange]

/-! ### With the crates as documented. -/

section

variable {crate : DerCrate}

@[simp] theorem orInvalid_some_bind {α β : Type} (a : α) (k : α → Except PlatformError β) :
    (orInvalid (some a) >>= k) = k a := rfl

@[simp] theorem orInvalid_none_bind {α β : Type} (k : α → Except PlatformError β) :
    (orInvalid none >>= k) = .error .invalidDeviceResponse := rfl

theorem fitting_of_le {bytes : Bytes} (h : bytes.length ≤ LENGTH_MAX) :
    fitting bytes = some bytes := if_pos h

theorem eq_of_fitting {bytes bytes' : Bytes} (h : fitting bytes = some bytes') :
    bytes' = bytes := by
  unfold fitting at h
  split at h
  next => exact (Option.some.inj h).symm
  next => cases h

/-- A point of P-256 is encoded as such, and always fits. -/
theorem p256Spki_of_length (hcrate : crate.Documented) {x y : Bytes} (hx : x.length = 32)
    (hy : y.length = 32) : p256Spki crate x y = orInvalid (fitting (p256Info x y).toDer) := by
  have hoid : crate.objectIdentifierToDer OID_SECP256R1
      = some (tlv objectIdentifierTag OID_SECP256R1) :=
    (hcrate.objectIdentifierToDer _).trans (fitting_of_le (by decide))
  have hany : crate.anyFromDer (tlv objectIdentifierTag OID_SECP256R1)
      = some ⟨objectIdentifierTag, OID_SECP256R1⟩ :=
    hcrate.anyFromDer ⟨objectIdentifierTag, OID_SECP256R1⟩ (by decide)
  have hpoint : (0x04 :: (x ++ y) : Bytes).length ≤ LENGTH_MAX := by
    rw [List.length_cons, List.length_append, hx, hy]
    decide
  have hbits : crate.bitStringFromBytes (0x04 :: (x ++ y)) = some (0x04 :: (x ++ y)) :=
    (hcrate.bitStringFromBytes _).trans (fitting_of_le hpoint)
  unfold p256Spki
  rw [if_neg (not_or.mpr ⟨not_not_intro hx, not_not_intro hy⟩), hoid]
  simp only [orInvalid_some_bind, hany, hbits, hcrate.spkiToDer]
  rfl

/-- A point of Ed25519 is encoded as such, and always fits. -/
theorem ed25519Spki_of_length (hcrate : crate.Documented) {x : Bytes} (hx : x.length = 32) :
    ed25519Spki crate x = orInvalid (fitting (ed25519Info x).toDer) := by
  have hbits : crate.bitStringFromBytes x = some x :=
    (hcrate.bitStringFromBytes _).trans (fitting_of_le (hx ▸ by decide))
  unfold ed25519Spki
  rw [if_neg (not_not_intro hx), hbits, orInvalid_some_bind, hcrate.spkiToDer]
  rfl

/-- The sequence of the two numbers is inside the whole encoding. -/
theorem length_uintSequence_le (n e : Bytes) :
    (uintSequence n e).length ≤ (rs256Info n e).toDer.length := by
  have hbits := length_lt_tlv bitStringTag (rs256Info n e).bits
  have hcontent := length_lt_tlv sequenceTag (rs256Info n e).content
  have hparts : (tlv bitStringTag (rs256Info n e).bits).length ≤ (rs256Info n e).content.length :=
    (List.sublist_append_right _ _).length_le
  have hkey : (uintSequence n e).length ≤ (rs256Info n e).bits.length := Nat.le_succ _
  exact hkey.trans <| hbits.le.trans <| hparts.trans hcontent.le

/-- The numbers are in their sequence. -/
theorem length_stripLeadingZeroes_le (n e : Bytes) :
    (stripLeadingZeroes n).length ≤ (uintSequence n e).length
      ∧ (stripLeadingZeroes e).length ≤ (uintSequence n e).length := by
  have hcontent := length_lt_tlv sequenceTag (uint n ++ uint e)
  rw [List.length_append] at hcontent
  have hn := (length_stripLeadingZeroes_le_uintContent n).trans
    (length_lt_tlv integerTag (uintContent n)).le
  have he := (length_stripLeadingZeroes_le_uintContent e).trans
    (length_lt_tlv integerTag (uintContent e)).le
  exact ⟨hn.trans ((Nat.le_add_right _ _).trans hcontent.le),
    he.trans ((Nat.le_add_left _ _).trans hcontent.le)⟩

/-- Leading zeros do not show. -/
theorem uintSequence_strip (n e : Bytes) :
    uintSequence (stripLeadingZeroes n) (stripLeadingZeroes e) = uintSequence n e := by
  unfold uintSequence uint
  rw [uintContent_stripLeadingZeroes, uintContent_stripLeadingZeroes]

/-- Wherever it is refused for its length, it is refused the same way. -/
theorem rs256Spki_eq (hcrate : crate.Documented) (n e : Bytes) :
    rs256Spki crate n e = orInvalid (fitting (rs256Info n e).toDer) := by
  have hany : crate.anyFromDer (tlv nullTag []) = some ⟨nullTag, []⟩ :=
    hcrate.anyFromDer ⟨nullTag, []⟩ (by decide)
  have hspki : crate.spkiToDer ⟨OID_RSA_ENCRYPTION, some ⟨nullTag, []⟩, uintSequence n e⟩
      = fitting (rs256Info n e).toDer := hcrate.spkiToDer (rs256Info n e)
  obtain ⟨hn, he⟩ := length_stripLeadingZeroes_le n e
  unfold rs256Spki
  rw [hcrate.newUintRef, hcrate.newUintRef, hcrate.nullToDer]
  by_cases hinner : (uintSequence n e).length ≤ LENGTH_MAX
  · simp only [fitting_of_le (hn.trans hinner), fitting_of_le (he.trans hinner),
      orInvalid_some_bind, hcrate.uintRefsToDer, uintSequence_strip, fitting_of_le hinner, hany,
      hcrate.bitStringFromBytes, hspki]
  · -- the whole does not fit when the sequence inside does not
    have hwhole : fitting (rs256Info n e).toDer = none :=
      if_neg fun h => hinner ((length_uintSequence_le n e).trans h)
    have hsequence : fitting (uintSequence n e) = none := if_neg hinner
    rw [hwhole]
    rcases hmodulus : fitting (stripLeadingZeroes n) with _ | modulus
    · rw [orInvalid_none_bind]
      rfl
    rcases hexponent : fitting (stripLeadingZeroes e) with _ | exponent
    · rw [orInvalid_some_bind, orInvalid_none_bind]
      rfl
    obtain rfl := eq_of_fitting hmodulus
    obtain rfl := eq_of_fitting hexponent
    rw [orInvalid_some_bind, orInvalid_some_bind, hcrate.uintRefsToDer, uintSequence_strip,
      hsequence, orInvalid_none_bind]
    rfl

end

/-- The steps before the `match` on the algorithm. -/
theorem toSpki_of_alg {bytes : Bytes} {map : CoseMap} {alg : Ctap2COSEAlgorithmIdentifier}
    (hparse : parse bytes = some (.map map)) (hname : map.HasInteger COSE_KEY_LABEL_ALG alg)
    (hlow : -2 ^ 31 ≤ alg) (hhigh : alg < 2 ^ 31) :
    toSpki parse crate bytes = spkiFromMap crate map alg := by
  unfold toSpki
  rw [(parseCoseMap_eq_ok_iff parse).mpr hparse]
  show (readAlgFromMap map).bind _ = _
  rw [readAlgFromMap_eq_ok_iff.mpr ⟨hname, hlow, hhigh⟩]
  rfl

/-- A COSE_Key with a public key is turned into the encoding of that key. -/
theorem toSpki_of_isKey (hcrate : crate.Documented) {bytes : Bytes} {map : CoseMap}
    (hparse : parse bytes = some (.map map)) {key : CoseKey} (hkey : map.IsKey key) :
    toSpki parse crate bytes = (orInvalid (fitting key.info.toDer)).map some := by
  cases key with
  | p256 x y hx hy =>
      obtain ⟨hname, hkty, hcrv, hx', hy'⟩ := hkey
      have hspki : ∀ alg, alg = ES256 ∨ alg = ESP256 →
          spkiFromMap crate map alg
            = (orInvalid (fitting (p256Info x y).toDer)).map some := by
        intro alg hes
        unfold spkiFromMap
        rw [if_pos hes, requireKty, requireInteger_eq_ok_iff.mpr hkty, requireCrv,
          requireInteger_eq_ok_iff.mpr hcrv, mapBytes_eq_ok_iff.mpr hx',
          mapBytes_eq_ok_iff.mpr hy']
        show (p256Spki crate x y).bind _ = _
        rw [p256Spki_of_length hcrate hx hy]
        cases fitting (p256Info x y).toDer <;> rfl
      rcases hname with h | h
      · rw [toSpki_of_alg parse crate hparse h (by decide) (by decide)]
        exact hspki _ (Or.inl rfl)
      · rw [toSpki_of_alg parse crate hparse h (by decide) (by decide)]
        exact hspki _ (Or.inr rfl)
  | ed25519 x hx =>
      obtain ⟨hname, hkty, hcrv, hx'⟩ := hkey
      rw [toSpki_of_alg parse crate hparse hname (by decide) (by decide), spkiFromMap,
        if_neg (by decide), if_pos rfl, requireKty, requireInteger_eq_ok_iff.mpr hkty,
        requireCrv, requireInteger_eq_ok_iff.mpr hcrv, mapBytes_eq_ok_iff.mpr hx']
      show (ed25519Spki crate x).bind _ = _
      rw [ed25519Spki_of_length hcrate hx]
      show _ = (orInvalid (fitting (ed25519Info x).toDer)).map some
      cases fitting (ed25519Info x).toDer <;> rfl
  | rsa n e =>
      obtain ⟨hname, hkty, hn, he⟩ := hkey
      rw [toSpki_of_alg parse crate hparse hname (by decide) (by decide), spkiFromMap,
        if_neg (by decide), if_neg (by decide), if_pos rfl, requireKty,
        requireInteger_eq_ok_iff.mpr hkty, mapBytes_eq_ok_iff.mpr hn, mapBytes_eq_ok_iff.mpr he]
      show (rs256Spki crate n e).bind _ = _
      rw [rs256Spki_eq hcrate]
      show _ = (orInvalid (fitting (rs256Info n e).toDer)).map some
      cases fitting (rs256Info n e).toDer <;> rfl

/-- The algorithms that `toSpki` knows. -/
def Supported (alg : Ctap2COSEAlgorithmIdentifier) : Prop :=
  alg = ES256 ∨ alg = ESP256 ∨ alg = EDDSA ∨ alg = RS256

/-- What is turned into an encoding has a public key, and what is not has an
algorithm that is not supported. -/
theorem toSpki_cases {bytes : Bytes} {result : Option Bytes}
    (h : toSpki parse crate bytes = .ok result) :
    ∃ (map : CoseMap) (alg : Int), parse bytes = some (.map map)
      ∧ map.HasInteger COSE_KEY_LABEL_ALG alg ∧ -2 ^ 31 ≤ alg ∧ alg < 2 ^ 31
      ∧ ((¬ Supported alg ∧ result = none)
        ∨ (Supported alg ∧ result ≠ none ∧ ∃ key : CoseKey, map.IsKey key)) := by
  obtain ⟨map, hmap, h⟩ := except_bind_eq_ok_iff.mp h
  obtain ⟨alg, halg, h⟩ := except_bind_eq_ok_iff.mp h
  obtain ⟨hname, hlow, hhigh⟩ := readAlgFromMap_eq_ok_iff.mp halg
  refine ⟨map, alg, (parseCoseMap_eq_ok_iff parse).mp hmap, hname, hlow, hhigh, ?_⟩
  unfold spkiFromMap at h
  split at h
  next hes =>
    obtain ⟨_, hkty, h⟩ := except_bind_eq_ok_iff.mp h
    obtain ⟨_, hcrv, h⟩ := except_bind_eq_ok_iff.mp h
    obtain ⟨x, hx, h⟩ := except_bind_eq_ok_iff.mp h
    obtain ⟨y, hy, h⟩ := except_bind_eq_ok_iff.mp h
    obtain ⟨der, hspki, h⟩ := except_bind_eq_ok_iff.mp h
    obtain rfl := Except.ok.inj h
    unfold p256Spki at hspki
    split at hspki
    next => cases hspki
    next hlengths =>
      obtain ⟨hx', hy'⟩ := not_or.mp hlengths
      refine Or.inr ⟨hes.imp_right Or.inl, Option.some_ne_none _,
        .p256 x y (not_not.mp hx') (not_not.mp hy'), ?_, requireInteger_eq_ok_iff.mp hkty,
        requireInteger_eq_ok_iff.mp hcrv, mapBytes_eq_ok_iff.mp hx, mapBytes_eq_ok_iff.mp hy⟩
      exact hes.imp (fun h : alg = ES256 => h ▸ hname) (fun h : alg = ESP256 => h ▸ hname)
  next hes =>
    split at h
    next hed =>
      obtain ⟨_, hkty, h⟩ := except_bind_eq_ok_iff.mp h
      obtain ⟨_, hcrv, h⟩ := except_bind_eq_ok_iff.mp h
      obtain ⟨x, hx, h⟩ := except_bind_eq_ok_iff.mp h
      obtain ⟨der, hspki, h⟩ := except_bind_eq_ok_iff.mp h
      obtain rfl := Except.ok.inj h
      unfold ed25519Spki at hspki
      split at hspki
      next => cases hspki
      next hlength =>
        exact Or.inr ⟨Or.inr (Or.inr (Or.inl hed)), Option.some_ne_none _,
          .ed25519 x (not_not.mp hlength), hed ▸ hname, requireInteger_eq_ok_iff.mp hkty,
          requireInteger_eq_ok_iff.mp hcrv, mapBytes_eq_ok_iff.mp hx⟩
    next hed =>
      split at h
      next hrs =>
        obtain ⟨_, hkty, h⟩ := except_bind_eq_ok_iff.mp h
        obtain ⟨n, hn, h⟩ := except_bind_eq_ok_iff.mp h
        obtain ⟨e, he, h⟩ := except_bind_eq_ok_iff.mp h
        obtain ⟨der, hspki, h⟩ := except_bind_eq_ok_iff.mp h
        obtain rfl := Except.ok.inj h
        exact Or.inr ⟨Or.inr (Or.inr (Or.inr hrs)), Option.some_ne_none _, .rsa n e,
          hrs ▸ hname, requireInteger_eq_ok_iff.mp hkty, mapBytes_eq_ok_iff.mp hn,
          mapBytes_eq_ok_iff.mp he⟩
      next hrs =>
        refine Or.inl ⟨?_, (Except.ok.inj h).symm⟩
        rintro (h | h | h | h)
        · exact hes (Or.inl h)
        · exact hes (Or.inr h)
        · exact hed h
        · exact hrs h

/-- **What becomes of a COSE_Key**: the encoding of its public key, when that
is no longer than a `Length`; and nothing when its algorithm is not
supported. -/
theorem toSpki_eq_ok_iff (hcrate : crate.Documented) (bytes : Bytes) :
    (∀ der, toSpki parse crate bytes = .ok (some der)
      ↔ ∃ (map : CoseMap) (key : CoseKey), parse bytes = some (.map map) ∧ map.IsKey key
        ∧ key.info.toDer.length ≤ LENGTH_MAX ∧ der = key.info.toDer)
      ∧ (toSpki parse crate bytes = .ok none
        ↔ ∃ (map : CoseMap) (alg : Int), parse bytes = some (.map map)
          ∧ map.HasInteger COSE_KEY_LABEL_ALG alg ∧ -2 ^ 31 ≤ alg ∧ alg < 2 ^ 31
            ∧ ¬ Supported alg) := by
  refine ⟨fun der => ⟨fun h => ?_, ?_⟩, fun h => ?_, ?_⟩
  · obtain ⟨map, alg, hparse, -, -, -, ⟨-, hnone⟩ | ⟨-, -, key, hkey⟩⟩ := toSpki_cases parse crate h
    · cases hnone
    · rw [toSpki_of_isKey parse crate hcrate hparse hkey, fitting] at h
      split at h
      next hfits =>
        exact ⟨map, key, hparse, hkey, hfits, (Option.some.inj (Except.ok.inj h)).symm⟩
      next => cases h
  · rintro ⟨map, key, hparse, hkey, hfits, rfl⟩
    rw [toSpki_of_isKey parse crate hcrate hparse hkey, fitting_of_le hfits]
    rfl
  · obtain ⟨map, alg, hparse, hname, hlow, hhigh, ⟨hnot, -⟩ | ⟨-, hne, -⟩⟩ :=
      toSpki_cases parse crate h
    · exact ⟨map, alg, hparse, hname, hlow, hhigh, hnot⟩
    · exact absurd rfl hne
  · rintro ⟨map, alg, hparse, hname, hlow, hhigh, hnot⟩
    obtain ⟨hes, hesp, hed, hrs⟩ := (not_or.trans (and_congr_right fun _ => not_or.trans
      (and_congr_right fun _ => not_or))).mp hnot
    rw [toSpki_of_alg parse crate hparse hname hlow hhigh, spkiFromMap,
      if_neg (not_or.mpr ⟨hes, hesp⟩), if_neg hed, if_neg hrs]
    rfl

end

/-! ## §4. What the encoding says. -/

/-- A public key, as a SubjectPublicKeyInfo gives it. -/
inductive SpkiKey where
  | p256 (x y : Bytes)
  | ed25519 (x : Bytes)
  | rsa (n e : Nat)
  deriving Repr, DecidableEq

def readRsaKey (bytes : Bytes) : Option SpkiKey := do
  let content ← Reader.whole (readTlv sequenceTag) bytes
  let (n, rest) ← readUint content
  let e ← Reader.whole readUint rest
  some (.rsa n e)

/-- The key of an algorithm: an uncompressed point of P-256, a point of
Ed25519, or a modulus with its exponent. -/
def keyOfInfo (info : PublicKeyInfo) : Option SpkiKey :=
  if info.oid = OID_EC_PUBLIC_KEY
      ∧ info.parameters = some ⟨objectIdentifierTag, OID_SECP256R1⟩ then
    match info.subjectPublicKey with
    | 0x04 :: point =>
        if point.length = 64 then some (.p256 (point.take 32) (point.drop 32)) else none
    | _ => none
  else if info.oid = OID_ED25519 ∧ info.parameters = none then
    if info.subjectPublicKey.length = 32 then some (.ed25519 info.subjectPublicKey) else none
  else if info.oid = OID_RSA_ENCRYPTION ∧ info.parameters = some ⟨nullTag, []⟩ then
    readRsaKey info.subjectPublicKey
  else none

def readKey (der : Bytes) : Option SpkiKey := (readPublicKeyInfo der).bind keyOfInfo

/-- There is no RSA key without a modulus or an exponent. -/
def rsaMeaning (n e : Bytes) : Option SpkiKey :=
  if n ≠ [] ∧ e ≠ [] then some (.rsa (beDecode n) (beDecode e)) else none

/-- The public key that a COSE_Key names. -/
def CoseKey.meaning : CoseKey → Option SpkiKey
  | .p256 x y _ _ => some (.p256 x y)
  | .ed25519 x _ => some (.ed25519 x)
  | .rsa n e => rsaMeaning n e

/-- The two numbers are read back, or there is no key where one has no bytes. -/
theorem readRsaKey_uintSequence {n e : Bytes}
    (h : (uintSequence n e).length ≤ LENGTH_MAX) :
    readRsaKey (uintSequence n e) = rsaMeaning n e := by
  have hcontent : (uint n ++ uint e).length < (uintSequence n e).length := length_lt_tlv _ _
  have hn : (uintContent n).length < (uint n).length := length_lt_tlv _ _
  have he : (uintContent e).length < (uint e).length := length_lt_tlv _ _
  have hparts := @List.length_append _ (uint n) (uint e)
  have hlimit : LENGTH_MAX < 256 ^ 4 := by decide
  have hread := (@reads_tlv sequenceTag (uint n ++ uint e) (by omega)).whole
  unfold readRsaKey uintSequence rsaMeaning
  rw [hread]
  show (readUint (uint n ++ uint e)).bind _ = _
  by_cases hempty : n = []
  · rw [if_neg fun h => h.1 hempty, hempty, readUint_uint_nil]
    rfl
  rw [reads_uint hempty (by omega)]
  show (Reader.whole readUint (uint e)).bind _ = _
  by_cases hempty' : e = []
  · have hnone := readUint_uint_nil []
    rw [List.append_nil] at hnone
    rw [if_neg fun h => h.2 hempty', hempty', Reader.whole, hnone]
    rfl
  · rw [if_pos ⟨hempty, hempty'⟩, (reads_uint hempty' (by omega)).whole]
    rfl

/-- The encoding of a key says which key it is. -/
theorem readKey_toDer {key : CoseKey} (h : key.info.toDer.length ≤ LENGTH_MAX) :
    readKey key.info.toDer = key.meaning := by
  have hlimit : LENGTH_MAX < 256 ^ 4 := by decide
  have hed : OID_ED25519 ≠ OID_EC_PUBLIC_KEY := by decide
  have hrsa : OID_RSA_ENCRYPTION ≠ OID_EC_PUBLIC_KEY := by decide
  have hrsa' : OID_RSA_ENCRYPTION ≠ OID_ED25519 := by decide
  unfold readKey
  rw [readPublicKeyInfo_toDer (Nat.lt_of_le_of_lt h hlimit), Option.bind_some]
  cases key with
  | p256 x y hx hy =>
      show (if _ then _ else _) = _
      rw [if_pos ⟨rfl, rfl⟩]
      show (if (x ++ y).length = 64 then _ else _) = _
      rw [if_pos (by rw [List.length_append, hx, hy]), List.take_left' hx, List.drop_left' hx]
      rfl
  | ed25519 x hx =>
      show (if _ then _ else if _ then _ else _) = _
      rw [if_neg fun h => hed h.1, if_pos ⟨rfl, rfl⟩]
      exact if_pos hx
  | rsa n e =>
      show (if _ then _ else if _ then _ else if _ then _ else _) = _
      rw [if_neg fun h => hrsa h.1, if_neg fun h => hrsa' h.1, if_pos ⟨rfl, rfl⟩]
      refine readRsaKey_uintSequence (Nat.le_trans ?_ h)
      exact length_uintSequence_le n e

/-- Of one key there is one encoding. -/
theorem info_congr {key key' : CoseKey} (hkey : key.meaning ≠ none)
    (h : key'.meaning = key.meaning) : key'.info = key.info := by
  have hrsa : ∀ {n e k}, rsaMeaning n e = some k →
      (n ≠ [] ∧ e ≠ []) ∧ k = .rsa (beDecode n) (beDecode e) := by
    intro n e k h
    unfold rsaMeaning at h
    split at h
    next hne => exact ⟨hne, (Option.some.inj h).symm⟩
    next => cases h
  obtain ⟨k, hk⟩ := Option.ne_none_iff_exists'.mp hkey
  rw [hk] at h
  cases key with
  | p256 x y hx hy =>
      obtain rfl := Option.some.inj hk
      cases key' with
      | p256 x' y' hx' hy' =>
          obtain ⟨rfl, rfl⟩ := SpkiKey.p256.inj (Option.some.inj h)
          rfl
      | ed25519 x' hx' => cases h
      | rsa n e => cases (hrsa h).2
  | ed25519 x hx =>
      obtain rfl := Option.some.inj hk
      cases key' with
      | p256 x' y' hx' hy' => cases h
      | ed25519 x' hx' =>
          obtain rfl := SpkiKey.ed25519.inj (Option.some.inj h)
          rfl
      | rsa n e => cases (hrsa h).2
  | rsa n e =>
      obtain ⟨⟨hn, he⟩, rfl⟩ := hrsa hk
      cases key' with
      | p256 x' y' hx' hy' => cases h
      | ed25519 x' hx' => cases h
      | rsa n' e' =>
          obtain ⟨⟨hn', he'⟩, hsame⟩ := hrsa h
          obtain ⟨hmodulus, hexponent⟩ := SpkiKey.rsa.inj hsame
          -- the bytes may differ in leading zeros, but not the INTEGERs
          show rs256Info n' e' = rs256Info n e
          unfold rs256Info uintSequence uint
          rw [uintContent_congr hn hn' hmodulus, uintContent_congr he he' hexponent]

/-- The public key of a COSE_Key, from its bytes. -/
def HasKey (parse : Bytes → Option Cbor) (bytes : Bytes) (key : CoseKey) : Prop :=
  ∃ map : CoseMap, parse bytes = some (.map map) ∧ map.IsKey key

/-- **The encoding of a public key** says just that key, and it is the same for
all COSE_Keys of the key. -/
theorem toSpki_preserves {parse : Bytes → Option Cbor} {crate : DerCrate}
    (hcrate : crate.Documented) {bytes der : Bytes} {key : CoseKey}
    (hkey : HasKey parse bytes key) (hspki : toSpki parse crate bytes = .ok (some der)) :
    readKey der = key.meaning
      ∧ ∀ bytes' key' der', HasKey parse bytes' key' → toSpki parse crate bytes' = .ok (some der') →
        key.meaning ≠ none → (der' = der ↔ key'.meaning = key.meaning) := by
  have hencodes : ∀ {bytes key der}, HasKey parse bytes key →
      toSpki parse crate bytes = .ok (some der) →
      der = key.info.toDer ∧ readKey der = key.meaning := by
    rintro bytes key der ⟨map, hparse, hkey⟩ hspki
    rw [toSpki_of_isKey parse crate hcrate hparse hkey, fitting] at hspki
    split at hspki
    next hfits =>
      obtain rfl := Option.some.inj (Except.ok.inj hspki)
      exact ⟨rfl, readKey_toDer hfits⟩
    next => cases hspki
  obtain ⟨rfl, hread⟩ := hencodes hkey hspki
  refine ⟨hread, fun bytes' key' der' hkey' hspki' hmeaning => ?_⟩
  obtain ⟨rfl, hread'⟩ := hencodes hkey' hspki'
  constructor
  · intro hsame
    rw [← hread', hsame, hread]
  · intro hsame
    rw [info_congr hmeaning hsame]

def p256Key : CoseKey := .p256 (List.replicate 32 0x06) (List.replicate 32 0x07) rfl rfl

/-- A COSE_Key of that key. -/
def p256Cose : CoseMap :=
  [(.uint 1, .uint 2), (.uint 3, .nint 6), (.nint 0, .uint 1),
    (.nint 1, .bytes (List.replicate 32 0x06)), (.nint 2, .bytes (List.replicate 32 0x07))]

/-- The crates, by the encodings that they are documented to give. -/
def derCrate : DerCrate where
  newUintRef bytes := fitting (stripLeadingZeroes bytes)
  uintRefsToDer first second := fitting (uintSequence first second)
  objectIdentifierToDer oid := fitting (tlv objectIdentifierTag oid)
  nullToDer := some (tlv nullTag [])
  anyFromDer := Reader.whole readAny
  bitStringFromBytes := fitting
  spkiToDer info := fitting info.toDer

/-- What was encoded is read back. -/
theorem readAny_toDer {any : Any} (h : any.toDer.length ≤ LENGTH_MAX) :
    Reader.whole readAny any.toDer = some any := by
  have hcontent : any.content.length < any.toDer.length := length_lt_tlv _ _
  have hlimit : LENGTH_MAX < 256 ^ 4 := by decide
  exact (reads_any (by omega)).whole

theorem documented_derCrate : derCrate.Documented where
  newUintRef _ := rfl
  uintRefsToDer _ _ := rfl
  objectIdentifierToDer _ := rfl
  nullToDer := rfl
  anyFromDer _ h := readAny_toDer h
  bitStringFromBytes _ := rfl
  spkiToDer _ := by simp only [derCrate]

theorem parse_p256Cose :
    Reader.whole (Cbor.readItem 2) (Cbor.map p256Cose).encode = some (.map p256Cose) :=
  (Cbor.reads_encode 2 _ (by simp [p256Cose, Cbor.Fits])).whole

theorem isKey_p256Cose : CoseMap.IsKey p256Cose p256Key := ⟨Or.inl rfl, rfl, rfl, rfl, rfl⟩

theorem toSpki_eq_ok_p256 :
    toSpki (Reader.whole (Cbor.readItem 2)) derCrate (Cbor.map p256Cose).encode
      = .ok (some p256Key.info.toDer) :=
  ((toSpki_eq_ok_iff _ _ documented_derCrate _).1 _).mpr
    ⟨p256Cose, p256Key, parse_p256Cose, isKey_p256Cose, by decide, rfl⟩

theorem toSpki_preserves_p256 :
    readKey p256Key.info.toDer = p256Key.meaning
      ∧ ∀ bytes' key' der', HasKey (Reader.whole (Cbor.readItem 2)) bytes' key' →
        toSpki (Reader.whole (Cbor.readItem 2)) derCrate bytes' = .ok (some der') →
        p256Key.meaning ≠ none →
        (der' = p256Key.info.toDer ↔ key'.meaning = p256Key.meaning) := by
  refine toSpki_preserves documented_derCrate ⟨p256Cose, parse_p256Cose, isKey_p256Cose⟩ ?_
  rw [toSpki_of_isKey _ _ documented_derCrate parse_p256Cose isKey_p256Cose,
    fitting_of_le (by decide)]
  rfl

end Cose

end Libwebauthn
