/-
  Libwebauthn.LargeBlob.Entries — what the functions on the largeBlobArray
  do to the list of its entries.

  `SerializedArray crypto raws stored` says that `stored` is the array with
  the elements `raws` and its trailer.  A writer finds just these elements
  (`parseArrayRawEntries_of_header`) and leaves the foreign ones with its
  own behind them (`rebuildSerializedArray_eq`); a reader gets the blob of
  the first one that verifies (`decryptFirstMatching_written`).

  The CBOR parser and the deflate codec are third-party code.
  `Codecs.Lawful` is what is relied on.
-/
import Libwebauthn.LargeBlob.Array
import Libwebauthn.Lib.CborReader

namespace Libwebauthn

/-! ## §1. What is relied on. -/

/-- The value of an entry as it is written. -/
def largeBlobEntry (ciphertext nonce : Bytes) (origSize : Nat) : Cbor :=
  .map [(.uint 1, .bytes ciphertext), (.uint 2, .bytes nonce), (.uint 3, .uint origSize)]

/-- A data item for the parser that splits the array, which ends where its own
bytes say. -/
def Codecs.Skips (codecs : Codecs) (raw : Bytes) : Prop :=
  ∀ rest, codecs.skipItem (raw ++ rest) = .ok raw.length

/-- The codecs undo each other.  `readElement` is the parser of an element of
the array, which nests one level deeper than a value of its own. -/
structure Codecs.Lawful (codecs : Codecs) (readElement : Bytes → Option Cbor) : Prop where
  inflate_deflate : ∀ bytes limit, bytes.length ≤ limit →
    codecs.inflate (codecs.deflate bytes) limit = .ok bytes
  skipItem_element : ∀ {raw value}, readElement raw = some value → codecs.Skips raw
  readValue_element : ∀ {raw value}, readElement raw = some value →
    codecs.readValue raw = .ok value
  readValue_array : ∀ {raws values}, raws.length < 2 ^ 32 →
    List.Forall₂ (fun raw value => readElement raw = some value) raws values →
    codecs.readValue (encodeArrayHeader raws.length ++ raws.flatten) = .ok (.array values)
  /-- An array is not read where one of its data items nests too deep in it. -/
  readValue_deep : ∀ {raws : List Bytes}, raws.length < 2 ^ 32 → (∀ raw ∈ raws, codecs.Skips raw) →
    (∃ raw ∈ raws, readElement raw = none) →
    ∃ e, codecs.readValue (encodeArrayHeader raws.length ++ raws.flatten) = .error e
  /-- What is written is read back. -/
  readElement_encode : ∀ {ciphertext nonce origSize}, ciphertext.length < 2 ^ 64 →
    nonce.length < 2 ^ 64 → origSize < 2 ^ 64 →
    readElement (Cbor.encode (largeBlobEntry ciphertext nonce origSize))
      = some (largeBlobEntry ciphertext nonce origSize)

/-- AES-GCM decryption inverts encryption. -/
def Crypto.GcmInverts (crypto : Crypto) : Prop :=
  ∀ {key nonce aad plaintext ciphertext}, key.length = 32 → nonce.length = 12 →
    crypto.aes256GcmEncrypt key nonce aad plaintext = some ciphertext →
      crypto.aes256GcmDecrypt key nonce aad ciphertext = some plaintext

/-- An item has bytes. -/
theorem Codecs.Lawful.ne_nil_of_skips {codecs : Codecs} {readElement : Bytes → Option Cbor}
    (h : codecs.Lawful readElement) {raw : Bytes} (hraw : codecs.Skips raw) : raw ≠ [] := by
  intro hnil
  -- no item is empty, since one that is written is not
  have hwritten : readElement (Cbor.encode (largeBlobEntry [] [] 0)) = some _ :=
    h.readElement_encode (by decide) (by decide) (by decide)
  have hskip := h.skipItem_element hwritten []
  have hskip' := hraw (Cbor.encode (largeBlobEntry [] [] 0) ++ [])
  rw [hnil, List.nil_append, hskip] at hskip'
  cases hskip'

/-! ## §2. Arrays. -/

/-- The head of an array of `n` elements, shortest or not. -/
inductive IsArrayHeader : Nat → Bytes → Prop where
  | short {n : Nat} (hn : n < 24) : IsArrayHeader n [UInt8.ofNat (0x80 + n)]
  | long {n k : Nat} (hk : k < 4) (hn : n < 256 ^ 2 ^ k) :
      IsArrayHeader n (UInt8.ofNat (0x98 + k) :: beEncode (2 ^ k) n)

/-- `stored` is an array of the elements `raws`, and its trailer. -/
def SerializedArray (crypto : Crypto) (raws : List Bytes) (stored : Bytes) : Prop :=
  ∃ header, IsArrayHeader raws.length header
    ∧ stored = header ++ raws.flatten ++ arrayTrailer crypto (header ++ raws.flatten)

section

variable {T : Type}

/-- A number of a given width is read back. -/
theorem readUint_beEncode {k n : Nat} (hn : n < 256 ^ k) (rest : Bytes) :
    (readUint k (beEncode k n ++ rest) : Except (LargeBlobError T) _) = .ok (n, rest) := by
  unfold readUint
  have hlength := beEncode_length k n
  rw [if_pos (by rw [List.length_append]; omega), List.take_left' hlength,
    List.drop_left' hlength, beDecode_beEncode_of_lt hn]

/-- Each form of the header is read as its count. -/
theorem IsArrayHeader.readArrayHeader {n : Nat} {header : Bytes} (h : IsArrayHeader n header)
    (rest : Bytes) :
    (readArrayHeader (header ++ rest) : Except (LargeBlobError T) _) = .ok (n, rest) := by
  cases h with
  | short hn =>
      have hbyte : (UInt8.ofNat (0x80 + n)).toNat = 128 + n := by
        rw [UInt8.toNat_ofNat']
        omega
      show (if _ then _ else _) = _
      rw [hbyte, if_neg (by omega), if_pos (by omega)]
      congr 2
      omega
  | @long k hk hn =>
      have hbyte : (UInt8.ofNat (0x98 + k)).toNat = 152 + k := by
        rw [UInt8.toNat_ofNat']
        omega
      show (if _ then _ else _) = _
      rw [hbyte, if_neg (by omega), if_neg (by omega)]
      have hcases : k = 0 ∨ k = 1 ∨ k = 2 ∨ k = 3 := by omega
      rcases hcases with rfl | rfl | rfl | rfl
      · exact readUint_beEncode hn rest
      · exact readUint_beEncode hn rest
      · exact readUint_beEncode hn rest
      · exact readUint_beEncode hn rest

theorem isArrayHeader_encode {n : Nat} (hn : n < 2 ^ 32) :
    IsArrayHeader n (encodeArrayHeader n) := by
  unfold encodeArrayHeader
  split
  next h => exact .short (by omega)
  split
  next h => exact .long (k := 0) (by omega) (by omega)
  split
  next h => exact .long (k := 1) (by omega) (by omega)
  next => exact .long (k := 2) (by omega) (by omega)

theorem arrayTrailer_length (crypto : Crypto) (data : Bytes) :
    (arrayTrailer crypto data).length = 16 := by
  unfold arrayTrailer
  rw [List.length_take, crypto.sha256_length]
  rfl

/-- A trailer over the array is taken off. -/
theorem stripArrayTrailer_append (crypto : Crypto) (array : Bytes) :
    (stripArrayTrailer crypto (array ++ arrayTrailer crypto array)
      : Except (LargeBlobError T) Bytes) = .ok array := by
  have hlength : (array ++ arrayTrailer crypto array).length = array.length + 16 := by
    rw [List.length_append, arrayTrailer_length]
  unfold stripArrayTrailer
  dsimp only
  rw [show LARGE_BLOB_HASH_LEN = 16 from rfl, hlength, if_neg (by omega), Nat.add_sub_cancel,
    List.take_left, List.drop_left, if_pos rfl]

/-! ## §3. What a writer finds. -/

/-- The entry of an element, as `parse_array_raw_entries` returns it. -/
def Codecs.rawEntry (codecs : Codecs) (raw : Bytes) : RawArrayEntry :=
  ⟨raw, (codecs.readValue raw).toOption⟩

/-- An element that AEAD-verifies under the key. -/
def verifiesUnder (crypto : Crypto) (codecs : Codecs) (key raw : Bytes) : Bool :=
  (codecs.rawEntry raw).ownedBy crypto key

/-- Items one behind the other are split where they end. -/
theorem rawEntries_flatten {codecs : Codecs} {raws : List Bytes}
    (hitems : ∀ raw ∈ raws, codecs.Skips raw) (rest : Bytes) :
    (rawEntries codecs raws.length (raws.flatten ++ rest) : Except (LargeBlobError T) _)
      = .ok (raws.map codecs.rawEntry, rest) := by
  induction raws with
  | nil => rfl
  | cons raw raws ih =>
      obtain ⟨hraw, hraws⟩ := List.forall_mem_cons.mp hitems
      rw [List.length_cons, List.flatten_cons, List.append_assoc]
      unfold rawEntries
      rw [hraw]
      dsimp only
      rw [if_pos (by rw [List.length_append]; omega), List.take_left, List.drop_left, ih hraws]
      rfl

/-- A writer takes an array apart into its elements. -/
theorem parseArrayRawEntries_of_header {codecs : Codecs} {raws : List Bytes} {header : Bytes}
    (hheader : IsArrayHeader raws.length header)
    (hitems : ∀ raw ∈ raws, codecs.Skips raw) :
    (parseArrayRawEntries codecs (header ++ raws.flatten) : Except (LargeBlobError T) _)
      = .ok (raws.map codecs.rawEntry) := by
  have hne : header ++ raws.flatten ≠ [] := by
    cases hheader <;> exact List.cons_ne_nil _ _
  have hentries := rawEntries_flatten (T := T) hitems []
  rw [List.append_nil] at hentries
  unfold parseArrayRawEntries
  rw [if_neg hne, hheader.readArrayHeader]
  show (do let cut ← rawEntries codecs raws.length raws.flatten; _) = _
  rw [hentries]
  rfl

/-! ## §4. What a writer leaves. -/

/-- The elements that are kept under a key. -/
def foreignEntries (crypto : Crypto) (codecs : Codecs) (key : Bytes) (raws : List Bytes) :
    List Bytes :=
  raws.filter fun raw => !verifiesUnder crypto codecs key raw

/-- What is kept of them are the foreign ones, in order. -/
theorem kept_rawEntries (crypto : Crypto) (codecs : Codecs) (key : Bytes) (raws : List Bytes) :
    ((raws.map codecs.rawEntry).filter fun entry => !entry.ownedBy crypto key).map (·.raw)
      = foreignEntries crypto codecs key raws := by
  rw [List.filter_map, List.map_map]
  exact List.map_id _

/-- The array that is uploaded for the elements `kept`. -/
def arrayOf (crypto : Crypto) (kept : List Bytes) : Bytes :=
  encodeArrayHeader kept.length ++ kept.flatten
    ++ arrayTrailer crypto (encodeArrayHeader kept.length ++ kept.flatten)

/-- The array that is written holds the foreign entries and the new one. -/
theorem rebuildSerializedArray_eq (crypto : Crypto) (codecs : Codecs) (key : Bytes)
    (raws : List Bytes) (newEntry : Option Bytes) :
    rebuildSerializedArray crypto (raws.map codecs.rawEntry) key newEntry
      = arrayOf crypto (foreignEntries crypto codecs key raws ++ newEntry.toList) := by
  unfold rebuildSerializedArray
  dsimp only
  rw [kept_rawEntries]
  rfl

/-- An array has no more entries than bytes. -/
theorem count_lt_of_arrayOf {crypto : Crypto} {kept : List Bytes} {n : Nat}
    (hlength : (arrayOf crypto kept).length < n) (hne : ∀ raw ∈ kept, raw ≠ []) :
    kept.length < n :=
  ((length_le_flatten hne).trans (List.infix_append _ _ _).length_le).trans_lt hlength

theorem length_le_arrayOf (crypto : Crypto) {kept : List Bytes} {raw : Bytes} (h : raw ∈ kept) :
    raw.length ≤ (arrayOf crypto kept).length :=
  (List.sublist_flatten_of_mem h).length_le.trans (List.infix_append _ _ _).length_le

/-- What is written is a serialized array of its entries. -/
theorem serializedArray_arrayOf (crypto : Crypto) {kept : List Bytes}
    (hcount : kept.length < 2 ^ 32) : SerializedArray crypto kept (arrayOf crypto kept) :=
  ⟨_, isArrayHeader_encode hcount, rfl⟩

/-! ## §5. The new entry. -/

/-- What `encrypt_entry` returns decrypts to what it was given. -/
theorem encryptEntry_ok {crypto : Crypto} {codecs : Codecs} (hgcm : crypto.GcmInverts)
    {key nonce plaintext entry : Bytes} (hkey : key.length = 32)
    (h : (encryptEntry crypto codecs key nonce plaintext : Except (LargeBlobError T) Bytes)
      = .ok entry) :
    ∃ ciphertext, nonce.length = 12
      ∧ entry = Cbor.encode (largeBlobEntry ciphertext nonce plaintext.length)
      ∧ crypto.aes256GcmDecrypt key nonce (entryAd plaintext.length) ciphertext
        = some (codecs.deflate plaintext) := by
  unfold encryptEntry at h
  split at h
  · cases h
  next hnonce =>
    have hnonce' : nonce.length = 12 := not_not.mp hnonce
    split at h
    next => cases h
    next ciphertext hencrypt =>
      exact ⟨ciphertext, hnonce', (Except.ok.inj h).symm, hgcm hkey hnonce' hencrypt⟩

/-- The written bytes hold the ciphertext. -/
theorem length_le_encode_entry (ciphertext nonce : Bytes) (origSize : Nat) :
    ciphertext.length ≤ (Cbor.encode (largeBlobEntry ciphertext nonce origSize)).length := by
  have hinfix : ciphertext <:+: Cbor.encode (largeBlobEntry ciphertext nonce origSize) := by
    unfold largeBlobEntry
    rw [Cbor.encode, Cbor.encodeEntries, Cbor.encode, Cbor.encode]
    refine List.IsInfix.trans ?_ (List.suffix_append _ _).isInfix
    refine List.IsInfix.trans ?_ (List.prefix_append _ _).isInfix
    refine List.IsInfix.trans ?_ (List.suffix_append _ _).isInfix
    exact (List.suffix_append _ _).isInfix
  exact hinfix.length_le

/-! ## §6. What a reader finds. -/

/-- An entry that does not verify is passed over. -/
theorem tryDecrypt_of_not_verifies {crypto : Crypto} (codecs : Codecs) {key : Bytes}
    {value : Cbor} {entry : LargeBlobMapEntry} (hentry : largeBlobMapEntry? value = some entry)
    (h : entryDecryptsUnderKey crypto value key = false) :
    (entry.tryDecrypt crypto codecs key : Except (LargeBlobError T) _) = .ok none := by
  obtain ⟨ciphertext, nonce, origSize⟩ := entry
  unfold entryDecryptsUnderKey at h
  rw [hentry] at h
  dsimp only at h
  unfold LargeBlobMapEntry.tryDecrypt
  dsimp only
  split
  · rfl
  next hnonce =>
    split
    · rfl
    next =>
      have hnone : crypto.aes256GcmDecrypt key nonce (entryAd origSize) ciphertext = none := by
        rw [not_not.mp hnonce] at h
        simpa using h
      rw [hnone]

/-- An entry that was written for a blob gives it back. -/
theorem tryDecrypt_written {crypto : Crypto} {codecs : Codecs}
    {readElement : Bytes → Option Cbor} (hcodecs : codecs.Lawful readElement)
    {key nonce plaintext ciphertext : Bytes} (hnonce : nonce.length = 12)
    (hsize : plaintext.length ≤ LARGE_BLOB_MAX_ORIG_SIZE)
    (hdecrypt : crypto.aes256GcmDecrypt key nonce (entryAd plaintext.length) ciphertext
      = some (codecs.deflate plaintext)) :
    (LargeBlobMapEntry.tryDecrypt crypto codecs ⟨ciphertext, nonce, plaintext.length⟩ key
      : Except (LargeBlobError T) _) = .ok (some plaintext) := by
  unfold LargeBlobMapEntry.tryDecrypt
  dsimp only
  rw [if_neg (not_not.mpr hnonce), if_neg (by omega), hdecrypt]
  dsimp only
  rw [hcodecs.inflate_deflate _ _ (Nat.le_succ _)]
  dsimp only
  rw [if_neg (by omega)]

theorem verifiesUnder_of_element {crypto : Crypto} {codecs : Codecs}
    {readElement : Bytes → Option Cbor} (hcodecs : codecs.Lawful readElement) (key : Bytes)
    {raw : Bytes} {value : Cbor} (h : readElement raw = some value) :
    verifiesUnder crypto codecs key raw = entryDecryptsUnderKey crypto value key := by
  unfold verifiesUnder Codecs.rawEntry RawArrayEntry.ownedBy
  rw [hcodecs.readValue_element h]
  rfl

/-- Behind elements that do not verify, the first match is the next one. -/
theorem decryptFirstMatching_append {crypto : Crypto} {codecs : Codecs} {key : Bytes}
    {values : List Cbor} (h : ∀ value ∈ values, entryDecryptsUnderKey crypto value key = false)
    (entries : List LargeBlobMapEntry) :
    (decryptFirstMatching crypto codecs key (values.filterMap largeBlobMapEntry? ++ entries)
      : Except (LargeBlobError T) _) = decryptFirstMatching crypto codecs key entries := by
  induction values with
  | nil => rfl
  | cons value values ih =>
      have hrest := ih fun value hmem => h value (List.mem_cons_of_mem _ hmem)
      rw [List.filterMap_cons]
      cases hentry : largeBlobMapEntry? value with
      | none => exact hrest
      | some entry =>
          have hskip := tryDecrypt_of_not_verifies (T := T) codecs hentry
            (h value (List.mem_cons_self ..))
          rw [List.cons_append, decryptFirstMatching, hskip]
          exact hrest

theorem encodeArrayHeader_append_ne_nil {n : Nat} (hn : n < 2 ^ 32) (rest : Bytes) :
    encodeArrayHeader n ++ rest ≠ [] := by
  have hheader := isArrayHeader_encode hn
  revert hheader
  generalize encodeArrayHeader n = header
  intro hheader
  cases hheader <;> exact List.cons_ne_nil _ _

/-- A reader takes an uploaded array apart into the values of its elements. -/
theorem parseLargeBlobArray_arrayOf (crypto : Crypto) {codecs : Codecs}
    {readElement : Bytes → Option Cbor} (hcodecs : codecs.Lawful readElement)
    {raws : List Bytes} {values : List Cbor}
    (hvalues : List.Forall₂ (fun raw value => readElement raw = some value) raws values)
    (hcount : raws.length < 2 ^ 32) :
    ∃ arrayBytes,
      (stripArrayTrailer crypto (arrayOf crypto raws) : Except (LargeBlobError T) Bytes)
          = .ok arrayBytes
        ∧ (parseLargeBlobArray codecs arrayBytes : Except (LargeBlobError T) _)
          = .ok (values.filterMap largeBlobMapEntry?) := by
  refine ⟨_, stripArrayTrailer_append crypto _, ?_⟩
  unfold parseLargeBlobArray
  rw [if_neg (encodeArrayHeader_append_ne_nil hcount _), hcodecs.readValue_array hcount hvalues]

/-- And refuses one of which an element nests too deep for it. -/
theorem parseLargeBlobArray_deep (crypto : Crypto) {codecs : Codecs}
    {readElement : Bytes → Option Cbor} (hcodecs : codecs.Lawful readElement) {raws : List Bytes}
    (hitems : ∀ raw ∈ raws, codecs.Skips raw) (hdeep : ∃ raw ∈ raws, readElement raw = none)
    (hcount : raws.length < 2 ^ 32) :
    ∃ arrayBytes e,
      (stripArrayTrailer crypto (arrayOf crypto raws) : Except (LargeBlobError T) Bytes)
          = .ok arrayBytes
        ∧ (parseLargeBlobArray codecs arrayBytes : Except (LargeBlobError T) _)
          = .error (.corrupted ("failed to parse largeBlobArray CBOR: " ++ e)) := by
  obtain ⟨e, herror⟩ := hcodecs.readValue_deep hcount hitems hdeep
  refine ⟨_, e, stripArrayTrailer_append crypto _, ?_⟩
  unfold parseLargeBlobArray
  rw [if_neg (encodeArrayHeader_append_ne_nil hcount _), herror]

/-- A reader of an array that ends with the entry of a blob, and has no other
that verifies, gets the blob. -/
theorem decryptFirstMatching_written {crypto : Crypto} {codecs : Codecs}
    {readElement : Bytes → Option Cbor} (hcodecs : codecs.Lawful readElement)
    {key nonce blob ciphertext new : Bytes} {foreign : List Bytes}
    (hitems : ∀ raw ∈ foreign, (readElement raw).isSome)
    (hforeign : ∀ raw ∈ foreign, verifiesUnder crypto codecs key raw = false)
    (hnonce : nonce.length = 12) (hsize : blob.length ≤ LARGE_BLOB_MAX_ORIG_SIZE)
    (hdecrypt : crypto.aes256GcmDecrypt key nonce (entryAd blob.length) ciphertext
      = some (codecs.deflate blob))
    (hnew : readElement new = some (largeBlobEntry ciphertext nonce blob.length))
    (hcount : (foreign ++ [new]).length < 2 ^ 32) :
    ∃ arrayBytes entries,
      (stripArrayTrailer crypto (arrayOf crypto (foreign ++ [new]))
          : Except (LargeBlobError T) Bytes) = .ok arrayBytes
        ∧ (parseLargeBlobArray codecs arrayBytes : Except (LargeBlobError T) _) = .ok entries
        ∧ (decryptFirstMatching crypto codecs key entries : Except (LargeBlobError T) _)
          = .ok (some blob) := by
  -- the values of the foreign elements
  obtain ⟨values, hvalues, hskipped⟩ : ∃ values : List Cbor,
      List.Forall₂ (fun raw value => readElement raw = some value) foreign values
        ∧ ∀ value ∈ values, entryDecryptsUnderKey crypto value key = false := by
    refine ⟨foreign.map fun raw => (readElement raw).getD .null, ?_, fun value hmem => ?_⟩
    · rw [List.forall₂_map_right_iff, List.forall₂_same]
      intro raw hmem
      obtain ⟨value, hvalue⟩ := Option.isSome_iff_exists.mp (hitems raw hmem)
      rw [hvalue]
      rfl
    · obtain ⟨raw, hraw, rfl⟩ := List.mem_map.mp hmem
      obtain ⟨value, hvalue⟩ := Option.isSome_iff_exists.mp (hitems raw hraw)
      rw [hvalue, Option.getD_some, ← verifiesUnder_of_element hcodecs key hvalue]
      exact hforeign raw hraw
  have hall := List.rel_append hvalues (List.Forall₂.cons hnew List.Forall₂.nil)
  obtain ⟨arrayBytes, hstrip, hparse⟩ :=
    parseLargeBlobArray_arrayOf (T := T) crypto hcodecs hall hcount
  refine ⟨arrayBytes, _, hstrip, hparse, ?_⟩
  have hlast : [largeBlobEntry ciphertext nonce blob.length].filterMap largeBlobMapEntry?
      = [⟨ciphertext, nonce, blob.length⟩] := rfl
  rw [List.filterMap_append, decryptFirstMatching_append hskipped, hlast, decryptFirstMatching,
    tryDecrypt_written hcodecs hnonce hsize hdecrypt]
  rfl

end

end Libwebauthn
