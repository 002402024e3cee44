/-
  Libwebauthn.Ops.AuthenticatorData — authenticator data read from bytes
  (`Deserialize for AuthenticatorData` of `src/fido.rs`).

  A header of 37 bytes, and after it, as the flags tell, the attested
  credential with its COSE key, and the extensions.  The two readers of
  `serde_cbor` are a parameter: one passes over any item, the other reads the
  extensions.

    • `visitBytes_eq_ok_iff` — just what is accepted;
    • `authenticatorData_roundTrip` — bytes and fields, both ways.
-/
import Libwebauthn.Lib.CborReader
import Libwebauthn.Lib.Cursor
import Libwebauthn.Ops.U2f

namespace Libwebauthn

/-! ## §1. Flags. -/

def RFU_1 : UInt8 := 0x02
def USER_VERIFIED : UInt8 := 0x04
def BACKUP_ELIGIBILITY : UInt8 := 0x08
def BACKUP_STATE : UInt8 := 0x10
def RFU_2_3 : UInt8 := 0x20

/-- `AuthenticatorDataFlags::from_bits_truncate`: bits without a name are
dropped. -/
def flagsFromBitsTruncate (bits : UInt8) : UInt8 :=
  bits &&& (USER_PRESENT ||| RFU_1 ||| USER_VERIFIED ||| BACKUP_ELIGIBILITY ||| BACKUP_STATE
    ||| RFU_2_3 ||| ATTESTED_CREDENTIALS ||| EXTENSION_DATA)

/-- Every bit has a name. -/
@[simp] theorem flagsFromBitsTruncate_eq (bits : UInt8) : flagsFromBitsTruncate bits = bits := by
  have hall : USER_PRESENT ||| RFU_1 ||| USER_VERIFIED ||| BACKUP_ELIGIBILITY ||| BACKUP_STATE
      ||| RFU_2_3 ||| ATTESTED_CREDENTIALS ||| EXTENSION_DATA = -1 := by decide
  unfold flagsFromBitsTruncate
  rw [hall, UInt8.and_neg_one]

/-- `contains`. -/
def flagsContain (flags flag : UInt8) : Bool := flags &&& flag == flag

/-! ## §2. The decoder. -/

/-- `serde::de::Error`; the texts of the CBOR reader are its own. -/
inductive DesError where
  | invalidLength (len : Nat) (expected : String)
  | custom (message : String)
  | cbor
  deriving Repr, DecidableEq

/-- `cbor::from_cursor`, for a `cbor::Value` of type `V` and for the extensions. -/
structure FromCursor (V X : Type) where
  value : Reader UInt8 V
  extensions : Reader UInt8 (Option X)

/-- Each takes exactly one item. -/
structure FromCursor.Lawful {V X : Type} (cursor : FromCursor V X) : Prop where
  value : Reader.Exact cursor.value
  extensions : Reader.Exact cursor.extensions

section

variable {V X : Type} (cursor : FromCursor V X) (data : Bytes)

/-- A read that fails at the end of the bytes. -/
def failedToRead (field : String) : DesError :=
  .custom ("failed to read " ++ field ++ ": failed to fill whole buffer")

def readBytes (n : Nat) (field : String) : Cursor DesError Bytes :=
  Cursor.readExact data n (failedToRead field)

def readU8 (field : String) : Cursor DesError UInt8 :=
  Cursor.read data Reader.next (failedToRead field)

/-- `read_u16::<BigEndian>` and `read_u32::<BigEndian>`. -/
def readBigEndian (n : Nat) (field : String) : Cursor DesError Nat := do
  let bytes ← readBytes data n field
  pure (beDecode bytes)

/-- The COSE key as it stands: the reader only finds its end. -/
def readCredentialPublicKey : Cursor DesError Bytes :=
  Cursor.taken data (Cursor.read data cursor.value DesError.cbor)
    (.custom "cursor reported COSE_Key span outside authData")

def readAttestedCredential : Cursor DesError AttestedCredentialData := do
  Cursor.refuse (data.length < 55) (.invalidLength data.length "55")
  let aaguid ← readBytes data 16 "aaguid"
  let credentialIdLen ← readBigEndian data 2 "credential_id_len"
  Cursor.refuse (data.length < 55 + credentialIdLen) (.invalidLength data.length "55+L")
  let credentialId ← readBytes data credentialIdLen "credential_id"
  let credentialPublicKey ← readCredentialPublicKey cursor data
  pure { aaguid, credentialId, credentialPublicKey }

/-- A part that the flags announce, or its default. -/
def readIf {α : Type} (announced : Bool) (c : Cursor DesError (Option α)) :
    Cursor DesError (Option α) :=
  if announced then c else pure none

def readAuthenticatorData : Cursor DesError (AuthenticatorData X) := do
  Cursor.refuse (data.length < 37) (.invalidLength data.length "37")
  let rpIdHash ← readBytes data 32 "rp_id_hash"
  let flagsRaw ← readU8 data "flags"
  let flags := flagsFromBitsTruncate flagsRaw
  let signatureCount ← readBigEndian data 4 "signature_count"
  let attestedCredential ← readIf (flagsContain flags ATTESTED_CREDENTIALS) do
    let attestedCredential ← readAttestedCredential cursor data
    pure (some attestedCredential)
  let extensions ← readIf (flagsContain flags EXTENSION_DATA)
    (Cursor.read data cursor.extensions DesError.cbor)
  pure { rpIdHash, flags, signatureCount, attestedCredential, extensions, raw := some data }

/-- `visit_bytes`: the fields, and nothing after them. -/
def visitBytes : Except DesError (AuthenticatorData X) :=
  match readAuthenticatorData cursor data 0 with
  | .error e => .error e
  | .ok (self, pos) =>
      if data.length < pos then
        .error (.custom "cursor advanced past end of authenticator data")
      else if data.drop pos ≠ [] then .error (.invalidLength data.length "trailing data")
      else .ok self

end

/-! ## §3. What is accepted. -/

/-- A COSE key of one item, and fields of their widths. -/
structure AttestedCredentialData.Formed {V : Type} (value : Reader UInt8 V)
    (attested : AttestedCredentialData) : Prop where
  aaguid : attested.aaguid.length = 16
  credentialId : attested.credentialId.length ≤ 65535
  credentialPublicKey : ∃ item, value attested.credentialPublicKey = some (item, [])

/-- Fields of their widths, and the attested credential the flags tell of. -/
structure AuthenticatorData.Formed {V X : Type} (value : Reader UInt8 V)
    (data : AuthenticatorData X) : Prop where
  rpIdHash : data.rpIdHash.length = 32
  signatureCount : data.signatureCount < 2 ^ 32
  attested : data.attestedCredential.isSome = flagsContain data.flags ATTESTED_CREDENTIALS
  credential : ∀ attested ∈ data.attestedCredential, attested.Formed value

/-- The bytes of what stands before the extensions. -/
def AuthenticatorData.front {X : Type} (self : AuthenticatorData X) : Bytes :=
  self.rpIdHash ++ self.flags :: beEncode 4 self.signatureCount
    ++ (self.attestedCredential.map AttestedCredentialData.toBytes).getD []

/-- The bytes of the extensions: none, or an item that reads as them. -/
def FromCursor.ReadsExtensions {V X : Type} (cursor : FromCursor V X) (flags : UInt8)
    (bytes : Bytes) (extensions : Option X) : Prop :=
  if flagsContain flags EXTENSION_DATA then cursor.extensions bytes = some (extensions, [])
  else bytes = [] ∧ extensions = none

section

open Cursor

variable {V X : Type} {cursor : FromCursor V X} {data : Bytes}

theorem parses_readBytes (n : Nat) (field : String) :
    Parses data (readBytes data n field) fun xs a => a = xs ∧ xs.length = n :=
  Parses.readExact n _

theorem parses_readU8 (field : String) :
    Parses data (readU8 data field) fun xs a => xs = [a] := by
  refine (Parses.read Reader.Exact.next _).congr fun xs a => ?_
  constructor
  · intro h
    cases xs with
    | nil => cases h
    | cons x xs =>
        obtain ⟨rfl, rfl⟩ := Prod.mk.inj (Option.some.inj h)
        rfl
  · intro h
    rw [h]
    rfl

theorem parses_readBigEndian (n : Nat) (field : String) :
    Parses data (readBigEndian data n field) fun xs a => a < 256 ^ n ∧ xs = beEncode n a := by
  refine (parses_readBytes n field).map.congr fun xs a => ?_
  constructor
  · intro h
    obtain ⟨_, ⟨rfl, rfl⟩, rfl⟩ := h
    exact ⟨beDecode_lt _, (beEncode_beDecode _).symm⟩
  · intro h
    obtain ⟨hlt, rfl⟩ := h
    exact ⟨beEncode n a, ⟨rfl, beEncode_length n a⟩, beDecode_beEncode_of_lt hlt⟩

theorem parses_readIf {α : Type} {announced : Bool} {c : Cursor DesError (Option α)}
    {P : Bytes → Option α → Prop} (hc : Parses data c P) :
    Parses data (readIf announced c) fun xs a =>
      if announced then P xs a else xs = [] ∧ a = none := by
  cases announced with
  | true => exact hc
  | false => exact (Parses.pure none).congr fun xs a => and_congr_right fun _ => eq_comm

variable (hcursor : cursor.Lawful)

include hcursor

theorem parses_readCredentialPublicKey :
    Parses data (readCredentialPublicKey cursor data) fun xs key =>
      key = xs ∧ ∃ item, cursor.value xs = some (item, []) :=
  (Parses.read hcursor.value _).taken _

omit hcursor in
theorem AttestedCredentialData.toBytes_eq (self : AttestedCredentialData) :
    self.toBytes = self.aaguid ++ (beEncode 2 self.credentialId.length
      ++ (self.credentialId ++ self.credentialPublicKey)) := by
  simp only [AttestedCredentialData.toBytes, List.append_assoc]

/-- The attested credential, and the two bounds that were checked. -/
theorem parses_readAttestedCredential :
    Parses data (readAttestedCredential cursor data) fun xs attested =>
      xs = attested.toBytes ∧ attested.Formed cursor.value ∧
        55 + attested.credentialId.length ≤ data.length := by
  refine ((Parses.refuse _ _).bind fun _ => (parses_readBytes 16 _).bind fun aaguid =>
    (parses_readBigEndian 2 _).bind fun length => (Parses.refuse _ _).bind fun _ =>
      (parses_readBytes length _).bind fun id =>
        (parses_readCredentialPublicKey hcursor).map).congr fun xs attested => ?_
  -- the fields are cut in order, and the announced length is the id's
  constructor
  · intro h
    obtain ⟨_, _, _, rfl, ⟨rfl, _⟩, _, _, aaguid, rfl, ⟨rfl, haaguid⟩, _, _, length, rfl,
      ⟨hlength, rfl⟩, _, _, _, rfl, ⟨rfl, hfits⟩, _, _, id, rfl, ⟨rfl, hid⟩, key, ⟨rfl, hkey⟩,
      rfl⟩ := h
    subst hid
    refine ⟨?_, ⟨haaguid, Nat.le_of_lt_succ hlength, hkey⟩, Nat.le_of_not_lt hfits⟩
    rw [AttestedCredentialData.toBytes_eq]
    rfl
  · intro h
    obtain ⟨hxs, hformed, hfits⟩ := h
    have hlength := hformed.credentialId
    refine ⟨[], xs, (), rfl, ⟨rfl, by omega⟩, attested.aaguid,
      beEncode 2 attested.credentialId.length
        ++ (attested.credentialId ++ attested.credentialPublicKey), attested.aaguid, ?_,
      ⟨rfl, hformed.aaguid⟩, _, _, attested.credentialId.length, rfl, ⟨by omega, rfl⟩, [], _, (),
      rfl, ⟨rfl, Nat.not_lt.mpr hfits⟩, attested.credentialId, attested.credentialPublicKey,
      attested.credentialId, rfl, ⟨rfl, rfl⟩, attested.credentialPublicKey,
      ⟨rfl, hformed.credentialPublicKey⟩, rfl⟩
    rw [hxs, AttestedCredentialData.toBytes_eq]

/-- The attested credential that the flags announce, if they do. -/
theorem parses_announcedCredential (announced : Bool) :
    Parses data (readIf announced (readAttestedCredential cursor data >>= fun attested =>
        pure (some attested))) fun xs attested =>
      xs = (attested.map AttestedCredentialData.toBytes).getD [] ∧ attested.isSome = announced ∧
        ∀ credential ∈ attested, credential.Formed cursor.value ∧
          55 + credential.credentialId.length ≤ data.length := by
  refine (parses_readIf (parses_readAttestedCredential hcursor).map).congr fun xs attested => ?_
  cases announced with
  | true =>
      constructor
      · intro h
        obtain ⟨credential, ⟨hxs, hformed⟩, rfl⟩ := h
        exact ⟨hxs, rfl, fun _ hmem => Option.some.inj hmem ▸ hformed⟩
      · intro h
        obtain ⟨hxs, hsome, hformed⟩ := h
        obtain ⟨credential, rfl⟩ := Option.isSome_iff_exists.mp hsome
        exact ⟨credential, ⟨hxs, hformed credential rfl⟩, rfl⟩
  | false =>
      constructor
      · intro h
        obtain ⟨rfl, rfl⟩ := h
        exact ⟨rfl, rfl, fun _ hmem => absurd hmem (Option.not_mem_none _)⟩
      · intro h
        obtain ⟨hxs, hnone, _⟩ := h
        have hattested : attested = none := Option.not_isSome_iff_eq_none.mp (by rw [hnone]; simp)
        rw [hattested] at hxs
        exact ⟨hxs, hattested⟩

/-- The fields, the item of the extensions, and the bounds that were checked. -/
theorem parses_readAuthenticatorData :
    Parses data (readAuthenticatorData cursor data) fun xs self =>
      self.raw = some data ∧ self.Formed cursor.value ∧
        (∃ bytes, xs = self.front ++ bytes ∧
          cursor.ReadsExtensions self.flags bytes self.extensions) ∧
        37 ≤ data.length ∧ ∀ credential ∈ self.attestedCredential,
          55 + credential.credentialId.length ≤ data.length := by
  refine ((Parses.refuse _ _).bind fun _ => (parses_readBytes 32 _).bind fun rpIdHash =>
    (parses_readU8 _).bind fun flagsRaw => (parses_readBigEndian 4 _).bind fun signatureCount =>
      (parses_announcedCredential hcursor _).bind fun attestedCredential =>
        (parses_readIf (Parses.read hcursor.extensions _)).map).congr fun xs self => ?_
  -- each field is read behind the one before it, and the front is all of them in order
  simp only [flagsFromBitsTruncate_eq]
  constructor
  · intro h
    obtain ⟨_, _, _, rfl, ⟨rfl, hshort⟩, _, _, rpIdHash, rfl, ⟨rfl, hrp⟩, _, _, flags, rfl, rfl,
      _, _, count, rfl, ⟨hcount, rfl⟩, _, bytes, attested, rfl, ⟨rfl, hflags, hformed⟩,
      extensions, hextensions, rfl⟩ := h
    refine ⟨rfl, ⟨hrp, hcount, hflags, fun _ hmem => (hformed _ hmem).1⟩, ⟨bytes, ?_, hextensions⟩,
      Nat.le_of_not_lt hshort, fun _ hmem => (hformed _ hmem).2⟩
    simp only [AuthenticatorData.front, List.nil_append, List.append_assoc, List.cons_append]
  · intro h
    obtain ⟨hraw, hformed, ⟨bytes, hxs, hextensions⟩, hshort, hcredential⟩ := h
    refine ⟨[], xs, (), rfl, ⟨rfl, Nat.not_lt.mpr hshort⟩, self.rpIdHash, _, self.rpIdHash, ?_,
      ⟨rfl, hformed.rpIdHash⟩, [self.flags], _, self.flags, rfl, rfl,
      beEncode 4 self.signatureCount, _, self.signatureCount, rfl, ⟨hformed.signatureCount, rfl⟩,
      (self.attestedCredential.map AttestedCredentialData.toBytes).getD [], bytes,
      self.attestedCredential, rfl, ⟨rfl, hformed.attested, fun credential hmem =>
        ⟨hformed.credential _ hmem, hcredential _ hmem⟩⟩, self.extensions, hextensions, ?_⟩
    · rw [hxs]
      simp only [AuthenticatorData.front, List.nil_append, List.append_assoc, List.cons_append]
    · rw [← hraw]

end

/-! ## §4. The codec. -/

section

variable {V X : Type} {cursor : FromCursor V X} (hcursor : cursor.Lawful)

include hcursor

theorem readAuthenticatorData_eq_ok_iff {data : Bytes} {self : AuthenticatorData X} {pos : Nat} :
    readAuthenticatorData cursor data 0 = .ok (self, pos)
      ↔ self.raw = some data ∧ self.Formed cursor.value ∧
        ∃ bytes rest, data = self.front ++ bytes ++ rest ∧
          cursor.ReadsExtensions self.flags bytes self.extensions ∧
          pos = (self.front ++ bytes).length := by
  rw [parses_readAuthenticatorData hcursor 0 (Nat.zero_le _) self pos]
  constructor
  · intro h
    obtain ⟨_, ⟨rest, hrest⟩, ⟨hraw, hformed, ⟨bytes, rfl, hextensions⟩, _⟩, hpos⟩ := h
    exact ⟨hraw, hformed, bytes, rest, hrest.symm, hextensions, by rw [hpos, Nat.zero_add]⟩
  · intro h
    obtain ⟨hraw, hformed, bytes, rest, hdata, hextensions, hpos⟩ := h
    -- the bounds that are checked hold of what has these fields
    have hfront : self.front.length ≤ data.length := by
      rw [hdata, List.append_assoc, List.length_append]
      omega
    have hheader : 37 ≤ self.front.length := by
      simp only [AuthenticatorData.front, List.length_append, List.length_cons, beEncode_length,
        hformed.rpIdHash]
      omega
    refine ⟨self.front ++ bytes, ⟨rest, hdata.symm⟩, ⟨hraw, hformed, ⟨bytes, rfl, hextensions⟩,
      by omega, ?_⟩, by rw [hpos, Nat.zero_add]⟩
    intro credential hmem
    have hcredential : 55 + credential.credentialId.length ≤ self.front.length := by
      have hattested : self.attestedCredential = some credential := hmem
      simp only [AuthenticatorData.front, hattested, Option.map_some, Option.getD_some,
        AttestedCredentialData.toBytes, List.length_append, List.length_cons, beEncode_length,
        hformed.rpIdHash, (hformed.credential credential hmem).aaguid]
      omega
    omega

/-- **What is accepted**: fields of their widths, spelled one after the other
as the flags tell, with nothing after them. -/
theorem visitBytes_eq_ok_iff {data : Bytes} {self : AuthenticatorData X} :
    visitBytes cursor data = .ok self
      ↔ self.raw = some data ∧ self.Formed cursor.value ∧
        ∃ bytes, data = self.front ++ bytes ∧
          cursor.ReadsExtensions self.flags bytes self.extensions := by
  constructor
  · intro h
    unfold visitBytes at h
    cases hread : readAuthenticatorData cursor data 0 with
    | error e =>
        rw [hread] at h
        cases h
    | ok cut =>
        obtain ⟨parsed, pos⟩ := cut
        rw [hread] at h
        obtain ⟨hraw, hformed, bytes, rest, hdata, hextensions, rfl⟩ :=
          (readAuthenticatorData_eq_ok_iff hcursor).mp hread
        dsimp only at h
        split at h
        next => cases h
        next =>
          split at h
          next => cases h
          next hrest =>
            obtain rfl := Except.ok.inj h
            -- nothing is left behind the extensions
            have hempty := not_not.mp hrest
            rw [hdata, List.drop_left] at hempty
            rw [hempty, List.append_nil] at hdata
            exact ⟨hraw, hformed, bytes, hdata, hextensions⟩
  · intro h
    obtain ⟨hraw, hformed, bytes, hdata, hextensions⟩ := h
    have hread : readAuthenticatorData cursor data 0 = .ok (self, data.length) :=
      (readAuthenticatorData_eq_ok_iff hcursor).mpr
        ⟨hraw, hformed, bytes, [], by rw [List.append_nil, hdata], hextensions, by rw [hdata]⟩
    unfold visitBytes
    rw [hread]
    dsimp only
    rw [if_neg (Nat.lt_irrefl _), if_neg (by rw [List.drop_length]; simp)]

/-- Nothing is accepted with more bytes after it. -/
theorem visitBytes_append {data extra : Bytes} {self : AuthenticatorData X} (hextra : extra ≠ [])
    (h : visitBytes cursor data = .ok self) :
    visitBytes cursor (data ++ extra)
      = .error (.invalidLength (data ++ extra).length "trailing data") := by
  obtain ⟨_, hformed, bytes, hdata, hextensions⟩ := (visitBytes_eq_ok_iff hcursor).mp h
  have hread : readAuthenticatorData cursor (data ++ extra) 0
      = .ok ({ self with raw := some (data ++ extra) }, data.length) :=
    (readAuthenticatorData_eq_ok_iff hcursor).mpr
      ⟨rfl, ⟨hformed.rpIdHash, hformed.signatureCount, hformed.attested, hformed.credential⟩, bytes,
        extra, by rw [hdata]; rfl, hextensions, by rw [hdata]; rfl⟩
  have hbeyond : ¬ (data ++ extra).length < data.length := by
    rw [List.length_append]
    omega
  unfold visitBytes
  rw [hread]
  dsimp only
  rw [if_neg hbeyond, List.drop_left, if_pos hextra]

/-- **Authenticator data and its bytes.**  What is put together from fields
that agree with the flags is read back as it was, with the bytes beside it; and
what is read was read to its last byte, and is given back as it came.  The
writer `toVec` of the extensions is one that the reader undoes. -/
theorem authenticatorData_roundTrip {toVec : Option X → Option Bytes}
    (htoVec : ∀ extensions : X, ∃ bytes, toVec (some extensions) = some bytes ∧
      cursor.extensions bytes = some (some extensions, [])) :
    (∀ self : AuthenticatorData X, self.raw = none → self.Formed cursor.value →
      self.extensions.isSome = flagsContain self.flags EXTENSION_DATA →
      ∃ bytes, self.toResponseBytes toVec = .ok bytes ∧
        visitBytes cursor bytes = .ok { self with raw := some bytes }) ∧
    ∀ (data : Bytes) (self : AuthenticatorData X), visitBytes cursor data = .ok self →
      self.toResponseBytes toVec = .ok data ∧
      (self.Formed cursor.value ∧ ∃ bytes, data = self.front ++ bytes ∧
        cursor.ReadsExtensions self.flags bytes self.extensions) ∧
      ∀ extra, extra ≠ [] → visitBytes cursor (data ++ extra)
        = .error (.invalidLength (data ++ extra).length "trailing data") := by
  constructor
  · intro self hraw hformed hflags
    -- the extensions are written just when their flag is set
    obtain ⟨bytes, hbytes, hextensions⟩ : ∃ bytes,
        self.toResponseBytes toVec = .ok (self.front ++ bytes) ∧
          cursor.ReadsExtensions self.flags bytes self.extensions := by
      unfold AuthenticatorData.toResponseBytes FromCursor.ReadsExtensions
      rw [← hflags]
      cases hself : self.extensions with
      | none =>
          rw [hself] at hflags
          have hnone : (self.flags &&& EXTENSION_DATA == EXTENSION_DATA) = false := hflags.symm
          refine ⟨[], ?_, ⟨rfl, rfl⟩⟩
          simp only [hraw, hnone]
          exact congrArg Except.ok (List.append_nil _).symm
      | some extensions =>
          obtain ⟨bytes, hwrite, hread⟩ := htoVec extensions
          refine ⟨bytes, ?_, hread⟩
          simp only [hraw, hwrite]
          rfl
    refine ⟨self.front ++ bytes, hbytes, (visitBytes_eq_ok_iff hcursor).mpr ⟨rfl, ?_, bytes, rfl,
      hextensions⟩⟩
    exact ⟨hformed.rpIdHash, hformed.signatureCount, hformed.attested, hformed.credential⟩
  · intro data self h
    obtain ⟨hraw, hformed, hparts⟩ := (visitBytes_eq_ok_iff hcursor).mp h
    refine ⟨?_, ⟨hformed, hparts⟩, fun extra hextra => visitBytes_append hcursor hextra h⟩
    unfold AuthenticatorData.toResponseBytes
    rw [hraw]

end

/-! ### A registration of a key with one extension output. -/

/-- A reader of extensions that are a boolean. -/
def boolExtensions (item : Cbor) : Reader UInt8 (Option Bool) :=
  match item with
  | .bool b => pure (some b)
  | .null => pure none
  | _ => Reader.fail

def sampleCursor : FromCursor Cbor Bool where
  value := Cbor.readItem 4
  extensions := Cbor.readItem 4 >>= boolExtensions

def sampleToVec (extensions : Option Bool) : Option Bytes :=
  some (extensions.elim Cbor.null Cbor.bool).encode

theorem lawful_sampleCursor : sampleCursor.Lawful where
  value := Cbor.exact_readItem 4
  extensions := by
    refine (Cbor.exact_readItem 4).bind fun item => ?_
    unfold boolExtensions
    split
    · exact Reader.Exact.pure _
    · exact Reader.Exact.pure _
    · exact Reader.Exact.fail

/-- A credential whose key is `{1: 1, 3: -8, -1: 6}`. -/
def sampleAuthenticatorData : AuthenticatorData Bool where
  rpIdHash := List.replicate 32 0xA3
  flags := 0xDD
  signatureCount := 7
  attestedCredential := some
    { aaguid := List.replicate 16 0x24
      credentialId := [0x01, 0x01, 0x03]
      credentialPublicKey := [0xA3, 0x01, 0x01, 0x03, 0x27, 0x20, 0x06] }
  extensions := some true
  raw := none

theorem formed_sampleAuthenticatorData :
    sampleAuthenticatorData.Formed sampleCursor.value where
  rpIdHash := by decide
  signatureCount := by decide
  attested := by decide
  credential := by
    intro attested hmem
    obtain rfl := Option.some.inj hmem
    exact ⟨by decide, by decide, ⟨_, rfl⟩⟩

theorem authenticatorData_roundTrip_sample :
    ∃ bytes, sampleAuthenticatorData.toResponseBytes sampleToVec = .ok bytes ∧
      visitBytes sampleCursor bytes = .ok { sampleAuthenticatorData with raw := some bytes } ∧
      visitBytes sampleCursor (bytes ++ [0x00])
        = .error (.invalidLength (bytes ++ [0x00]).length "trailing data") := by
  have hcodec := @authenticatorData_roundTrip _ _ _ lawful_sampleCursor sampleToVec
    (fun extensions => ⟨_, rfl, by cases extensions <;> rfl⟩)
  obtain ⟨bytes, hbytes, hread⟩ := hcodec.1 sampleAuthenticatorData rfl
    formed_sampleAuthenticatorData (by decide)
  exact ⟨bytes, hbytes, hread, (hcodec.2 bytes _ hread).2.2 [0x00] (by decide)⟩

end Libwebauthn
