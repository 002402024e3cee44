/-
  Libwebauthn.LargeBlob.Array — the serialized largeBlobArray
  (`src/ops/webauthn/large_blob.rs`).

  The array is a CBOR array of entries with a truncated hash behind it.  A
  reader takes the whole array apart (`parseLargeBlobArray`); a writer keeps
  the bytes of every entry (`parseArrayRawEntries`) and drops only those
  that verify under its own key (`rebuildSerializedArray`).

  The CBOR parser and the deflate codec come from third-party crates and
  are the fields of `Codecs`.
-/
import Libwebauthn.Pin.Protocol

namespace Libwebauthn

/-- The codecs the code takes from elsewhere.  An error is its text. -/
structure Codecs where
  deflate : Bytes → Bytes
  /-- Decompress, reading at most `limit` bytes of output. -/
  inflate : Bytes → (limit : Nat) → Except String Bytes
  /-- `from_cursor::<IgnoredAny>`: the length of the first data item. -/
  skipItem : Bytes → Except String Nat
  /-- `from_slice::<Value>`: the bytes as one data item. -/
  readValue : Bytes → Except String Cbor
  /-- The `Debug` text of a value. -/
  debugValue : Cbor → String

abbrev LARGE_BLOB_MAX_ORIG_SIZE : Nat := 1024 * 1024
abbrev LARGE_BLOB_MAX_ARRAY_BYTES : Nat := 4 * 1024 * 1024
abbrev LARGE_BLOB_HASH_LEN : Nat := 16
abbrev LARGE_BLOB_NONCE_LEN : Nat := 12

inductive LargeBlobError (T : Type) where
  | corrupted (message : String)
  | noMatch
  | webauthn (e : WebAuthnError T)
  deriving Repr, DecidableEq

/-- `uN::to_le_bytes`, `k` bytes. -/
def leEncode (k n : Nat) : Bytes := (beEncode k n).reverse

section

variable {T : Type} (crypto : Crypto) (codecs : Codecs)

/-! ## §1. The trailer. -/

def arrayTrailer (data : Bytes) : Bytes := (crypto.sha256 data).take LARGE_BLOB_HASH_LEN

def stripArrayTrailer (serialized : Bytes) : Except (LargeBlobError T) Bytes :=
  if serialized.length < LARGE_BLOB_HASH_LEN then
    .error (.corrupted ("serialized array length " ++ toString serialized.length
      ++ " < trailer length " ++ toString LARGE_BLOB_HASH_LEN))
  else
    let array := serialized.take (serialized.length - LARGE_BLOB_HASH_LEN)
    let expectedHash := serialized.drop (serialized.length - LARGE_BLOB_HASH_LEN)
    if arrayTrailer crypto array = expectedHash then .ok array
    else .error (.corrupted "trailer SHA-256 verification failed")

/-! ## §2. Entries. -/

structure LargeBlobMapEntry where
  ciphertext : Bytes
  nonce : Bytes
  origSize : Nat
  deriving Repr, DecidableEq

/-- The members collected so far by the loop over an entry's map. -/
structure EntryMembers where
  ciphertext : Option Bytes := none
  nonce : Option Bytes := none
  origSize : Option Nat := none

/-- One map entry; a member of another key or type is passed over. -/
def EntryMembers.step (members : EntryMembers) : Cbor × Cbor → EntryMembers
  | (.uint 1, .bytes b) => { members with ciphertext := some b }
  | (.uint 2, .bytes b) => { members with nonce := some b }
  | (.uint 3, .uint i) => { members with origSize := some i }
  | _ => members

/-- The entry a CBOR value stands for: a map with all three members. -/
def largeBlobMapEntry? : Cbor → Option LargeBlobMapEntry
  | .map entries =>
      match entries.foldl EntryMembers.step {} with
      | ⟨some ciphertext, some nonce, some origSize⟩ => some ⟨ciphertext, nonce, origSize⟩
      | _ => none
  | _ => none

/-- The associated data: `blob` and the size, little endian. -/
def entryAd (origSize : Nat) : Bytes := utf8 "blob" ++ leEncode 8 origSize

/-- `ok none` when the entry does not verify under the key. -/
def LargeBlobMapEntry.tryDecrypt (self : LargeBlobMapEntry) (key : Bytes) :
    Except (LargeBlobError T) (Option Bytes) :=
  if self.nonce.length ≠ LARGE_BLOB_NONCE_LEN then .ok none
  else if self.origSize > LARGE_BLOB_MAX_ORIG_SIZE then .ok none
  else
    match crypto.aes256GcmDecrypt key self.nonce (entryAd self.origSize) self.ciphertext with
    | none => .ok none
    | some plaintextCompressed =>
        match codecs.inflate plaintextCompressed (self.origSize + 1) with
        | .error e => .error (.corrupted ("deflate decompression failed: " ++ e))
        | .ok decompressed =>
            if decompressed.length ≠ self.origSize then
              .error (.corrupted ("decompressed length " ++ toString decompressed.length
                ++ " != origSize " ++ toString self.origSize))
            else .ok (some decompressed)

/-- The first entry that verifies. -/
def decryptFirstMatching (key : Bytes) :
    List LargeBlobMapEntry → Except (LargeBlobError T) (Option Bytes)
  | [] => .ok none
  | entry :: entries => do
      match ← entry.tryDecrypt crypto codecs key with
      | some plaintext => pure (some plaintext)
      | none => decryptFirstMatching key entries

/-- The whole array, entries of another structure passed over. -/
def parseLargeBlobArray (bytes : Bytes) : Except (LargeBlobError T) (List LargeBlobMapEntry) :=
  if bytes = [] then .ok []
  else
    match codecs.readValue bytes with
    | .error e => .error (.corrupted ("failed to parse largeBlobArray CBOR: " ++ e))
    | .ok (.array values) => .ok (values.filterMap largeBlobMapEntry?)
    | .ok value =>
        .error (.corrupted ("expected CBOR array at top level, got " ++ codecs.debugValue value))

/-- Compress and encrypt one entry; its encoding has the members in order. -/
def encryptEntry (key nonce plaintext : Bytes) : Except (LargeBlobError T) Bytes :=
  if nonce.length ≠ LARGE_BLOB_NONCE_LEN then
    .error (.corrupted ("nonce length " ++ toString nonce.length ++ " != 12"))
  else
    match crypto.aes256GcmEncrypt key nonce (entryAd plaintext.length)
        (codecs.deflate plaintext) with
    | none => .error (.corrupted "AES-256-GCM encryption failed")
    | some ciphertext =>
        .ok (Cbor.encode (.map [(.uint 1, .bytes ciphertext), (.uint 2, .bytes nonce),
          (.uint 3, .uint plaintext.length)]))

/-! ## §3. Raw entries. -/

/-- One array element: its exact bytes, and its value where it has one. -/
structure RawArrayEntry where
  raw : Bytes
  value : Option Cbor

def readByte : Bytes → Except (LargeBlobError T) (UInt8 × Bytes)
  | [] => .error (.corrupted "truncated CBOR")
  | b :: cursor => .ok (b, cursor)

/-- `n` bytes, most significant first. -/
def readUint (n : Nat) (cursor : Bytes) : Except (LargeBlobError T) (Nat × Bytes) :=
  if n ≤ cursor.length then .ok (beDecode (cursor.take n), cursor.drop n)
  else .error (.corrupted "truncated CBOR")

/-- The element count, and the bytes behind the header. -/
def readArrayHeader (cursor : Bytes) : Except (LargeBlobError T) (Nat × Bytes) := do
  let (initial, cursor) ← readByte cursor
  if initial.toNat / 32 ≠ 4 then
    .error (.corrupted ("expected CBOR array, got initial byte 0x"
      ++ String.ofList (Nat.toDigits 16 initial.toNat)))
  else if initial.toNat % 32 ≤ 23 then .ok (initial.toNat % 32, cursor)
  else if initial.toNat % 32 = 24 then readUint 1 cursor
  else if initial.toNat % 32 = 25 then readUint 2 cursor
  else if initial.toNat % 32 = 26 then readUint 4 cursor
  else if initial.toNat % 32 = 27 then readUint 8 cursor
  else
    .error (.corrupted ("unsupported CBOR array length encoding (additional info "
      ++ toString (initial.toNat % 32) ++ ")"))

def encodeArrayHeader (n : Nat) : Bytes :=
  if n ≤ 23 then [UInt8.ofNat (0x80 + n)]
  else if n ≤ 0xff then 0x98 :: beEncode 1 n
  else if n ≤ 0xffff then 0x99 :: beEncode 2 n
  else 0x9a :: beEncode 4 n

/-- The loop of `parse_array_raw_entries` over `count` elements. -/
def rawEntries : (count : Nat) → Bytes → Except (LargeBlobError T) (List RawArrayEntry × Bytes)
  | 0, cursor => .ok ([], cursor)
  | count + 1, cursor =>
      match codecs.skipItem cursor with
      | .error e => .error (.corrupted ("array element parse: " ++ e))
      | .ok n =>
          if n ≤ cursor.length then do
            let raw := cursor.take n
            let (entries, cursor) ← rawEntries count (cursor.drop n)
            pure (⟨raw, (codecs.readValue raw).toOption⟩ :: entries, cursor)
          else .error (.corrupted "array element span out of range")

def parseArrayRawEntries (bytes : Bytes) : Except (LargeBlobError T) (List RawArrayEntry) :=
  if bytes = [] then .ok []
  else do
    let (count, cursor) ← readArrayHeader bytes
    let (entries, cursor) ← rawEntries codecs count cursor
    if cursor ≠ [] then .error (.corrupted "trailing bytes after largeBlobArray")
    else .ok entries

def entryDecryptsUnderKey (entry : Cbor) (key : Bytes) : Bool :=
  match largeBlobMapEntry? entry with
  | none => false
  | some ⟨ct, n, os⟩ =>
      n.length == LARGE_BLOB_NONCE_LEN
        && (crypto.aes256GcmDecrypt key n (entryAd os) ct).isSome

/-- Whether the entry belongs to the credential of the key. -/
def RawArrayEntry.ownedBy (self : RawArrayEntry) (key : Bytes) : Bool :=
  match self.value with
  | none => false
  | some value => entryDecryptsUnderKey crypto value key

def rebuildSerializedArray (existing : List RawArrayEntry) (dropKey : Bytes)
    (newEntry : Option Bytes) : Bytes :=
  let kept := (existing.filter fun entry => !entry.ownedBy crypto dropKey).map (·.raw)
    ++ newEntry.toList
  let bytes := encodeArrayHeader kept.length ++ kept.flatten
  bytes ++ arrayTrailer crypto bytes

end

end Libwebauthn
