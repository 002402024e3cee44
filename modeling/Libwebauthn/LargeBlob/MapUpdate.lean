/-
  Libwebauthn.LargeBlob.MapUpdate — writing and deleting a blob as updates of
  a map from keys to blobs (`write_authenticator_large_blob` and
  `delete_authenticator_large_blob` of `src/ops/webauthn/large_blob.rs`).

  `HoldsEntries` is the array of a device as its elements.  A write leaves
  those that do not verify under the key, byte for byte and in order, and one
  that does; a delete leaves just the former; and nothing is sent where the
  array does not parse.  But a reader parses the array as a whole, where its
  elements nest one level deeper than for a writer, so what was written is
  read back just where none of the others is too deep for it
  (`largeBlob_mapUpdate`).
-/
import Libwebauthn.LargeBlob.Entries
import Libwebauthn.LargeBlob.Store
import Libwebauthn.Transport.Mock

namespace Libwebauthn

open Proc

variable {σ T : Type}

/-! ## §1. The elements a device holds. -/

theorem stripArrayTrailer_eq_ok_iff {crypto : Crypto} {stored array : Bytes} :
    (stripArrayTrailer crypto stored : Except (LargeBlobError T) Bytes) = .ok array
      ↔ stored = array ++ arrayTrailer crypto array := by
  constructor
  · intro h
    unfold stripArrayTrailer at h
    split at h
    · cases h
    · dsimp only at h
      split at h
      next htrailer =>
        obtain rfl := Except.ok.inj h
        rw [htrailer, List.take_append_drop]
      next => cases h
  · rintro rfl
    exact stripArrayTrailer_append crypto array

/-- The elements of a stored array; one without a valid trailer stands for
the initial empty array. -/
inductive HoldsEntries (crypto : Crypto) (codecs : Codecs) (stored : Bytes) :
    List Bytes → Prop where
  | array {raws : List Bytes} (hitems : ∀ raw ∈ raws, codecs.Skips raw)
      (harray : SerializedArray crypto raws stored) : HoldsEntries crypto codecs stored raws
  | initial (htrailer : ∀ array, stored ≠ array ++ arrayTrailer crypto array) :
      HoldsEntries crypto codecs stored []

namespace HoldsEntries

variable {crypto : Crypto} {codecs : Codecs} {stored : Bytes} {raws : List Bytes}

theorem items (h : HoldsEntries crypto codecs stored raws) : ∀ raw ∈ raws, codecs.Skips raw := by
  cases h with
  | array hitems => exact hitems
  | initial => intro raw hmem; cases hmem

/-- A writer finds these elements. -/
theorem parse (h : HoldsEntries crypto codecs stored raws) :
    (∃ array, (stripArrayTrailer crypto stored : Except (LargeBlobError T) Bytes) = .ok array
        ∧ (parseArrayRawEntries codecs array : Except (LargeBlobError T) _)
          = .ok (raws.map codecs.rawEntry))
      ∨ ((∃ e, (stripArrayTrailer crypto stored : Except (LargeBlobError T) Bytes) = .error e)
        ∧ raws = []) := by
  cases h with
  | array hitems harray =>
      obtain ⟨header, hheader, rfl⟩ := harray
      exact Or.inl ⟨_, stripArrayTrailer_append crypto _,
        parseArrayRawEntries_of_header hheader hitems⟩
  | initial htrailer =>
      refine Or.inr ⟨?_, rfl⟩
      rcases hstrip : (stripArrayTrailer crypto stored : Except (LargeBlobError T) Bytes) with
        e | array
      · exact ⟨e, rfl⟩
      · exact absurd (stripArrayTrailer_eq_ok_iff.mp hstrip) (htrailer array)

end HoldsEntries

namespace Platform

variable {p : Platform σ T} {store : σ → BlobStore} {limit : Nat}
  {readElement : Bytes → Option Cbor}

/-- What `fetch_or_initial` returns is what its parser makes of the array. -/
theorem fetchOrInitial_stored (hstore : StoresBlobs p store limit) {maxFragment : Nat}
    (hpos : 0 < maxFragment) (hlimit : maxFragment ≤ limit) (w : World σ T) :
    ∃ outcome w', p.fetchOrInitial maxFragment w = (outcome, w')
      ∧ arrayAt store w' = arrayAt store w ∧ w'.setsSent = w.setsSent
      ∧ ∀ existing, outcome = .ok existing →
        (∃ array, (stripArrayTrailer p.crypto (arrayAt store w)
              : Except (LargeBlobError T) Bytes) = .ok array
            ∧ parseArrayRawEntries p.codecs array = (.ok existing : Except (LargeBlobError T) _))
          ∨ ((∃ e, (stripArrayTrailer p.crypto (arrayAt store w)
              : Except (LargeBlobError T) Bytes) = .error e) ∧ existing = []) := by
  obtain ⟨outcome, w', hrun, hkept, hsets, hout, -⟩ :=
    fetchSerializedArray_stored (hstore.serves hlimit) hpos w
  unfold fetchOrInitial
  rw [Proc.bind_apply, hrun]
  cases outcome with
  | error e => exact ⟨_, w', rfl, hkept, hsets, fun existing hexisting => by cases hexisting⟩
  | running => exact ⟨_, w', rfl, hkept, hsets, fun existing hexisting => by cases hexisting⟩
  | ok serialized =>
      obtain rfl := hout serialized rfl
      dsimp only
      -- a bad trailer counts as no entries, entries that do not parse as an error
      rcases hstrip : (stripArrayTrailer p.crypto (arrayAt store w)
          : Except (LargeBlobError T) Bytes) with e | array
      · exact ⟨_, w', rfl, hkept, hsets, fun existing hexisting =>
          Or.inr ⟨⟨e, rfl⟩, (Outcome.ok.inj hexisting).symm⟩⟩
      · dsimp only
        rcases hparse : (parseArrayRawEntries p.codecs array : Except (LargeBlobError T) _) with
          e | entries
        · exact ⟨_, w', rfl, hkept, hsets, fun existing hexisting => by cases hexisting⟩
        · refine ⟨_, w', rfl, hkept, hsets, fun existing hexisting => Or.inl ⟨array, rfl, ?_⟩⟩
          rw [hparse, Outcome.ok.inj hexisting]

/-- What a writer works on: the elements the device holds. -/
theorem fetchOrInitial_holds (hstore : StoresBlobs p store limit) {maxFragment : Nat}
    (hpos : 0 < maxFragment) (hlimit : maxFragment ≤ limit) {w w' : World σ T} {raws : List Bytes}
    (hraws : HoldsEntries p.crypto p.codecs (arrayAt store w) raws)
    {existing : List RawArrayEntry} (h : p.fetchOrInitial maxFragment w = (.ok existing, w')) :
    existing = raws.map p.codecs.rawEntry := by
  obtain ⟨outcome, w'', hrun, -, -, hexisting⟩ := fetchOrInitial_stored hstore hpos hlimit w
  obtain ⟨rfl, rfl⟩ := Prod.mk.inj (hrun.symm.trans h)
  rcases hraws.parse (T := T) with ⟨array, hstrip, hparse⟩ | ⟨⟨e, hstrip⟩, rfl⟩
  · rcases hexisting existing rfl with ⟨array', hstrip', hparse'⟩ | ⟨⟨e', hstrip'⟩, -⟩
    · rw [hstrip] at hstrip'
      obtain rfl := Except.ok.inj hstrip'
      rw [hparse] at hparse'
      exact (Except.ok.inj hparse').symm
    · rw [hstrip] at hstrip'
      cases hstrip'
  · rcases hexisting existing rfl with ⟨array', hstrip', -⟩ | ⟨-, hnil⟩
    · rw [hstrip] at hstrip'
      cases hstrip'
    · exact hnil

/-- An upload of some elements that returns leaves the device with them. -/
theorem holdsEntries_upload (hstore : StoresBlobs p store limit)
    (hcodecs : p.codecs.Lawful readElement) {kept : List Bytes}
    (hitems : ∀ raw ∈ kept, p.codecs.Skips raw) {maxFragment : Nat}
    {pinUvAuth : Option (Bytes × Ctap2PinUvAuthProtocol)} {w w' : World σ T}
    (h : p.uploadSerializedArray (arrayOf p.crypto kept) maxFragment pinUvAuth w = (.ok (), w')) :
    arrayAt store w' = arrayOf p.crypto kept ∧ (arrayOf p.crypto kept).length ≤ 4 * 1024 * 1024
      ∧ kept.length < 2 ^ 32 ∧ HoldsEntries p.crypto p.codecs (arrayAt store w') kept := by
  obtain ⟨hcap, harray⟩ := uploadSerializedArray_stored hstore h
  have hcount : kept.length < 2 ^ 32 := count_lt_of_arrayOf (lt_of_le_of_lt hcap (by decide))
    fun raw hmem => hcodecs.ne_nil_of_skips (hitems raw hmem)
  exact ⟨harray, hcap, hcount, .array hitems (harray ▸ serializedArray_arrayOf p.crypto hcount)⟩

theorem skips_foreignEntries {raws : List Bytes} (hitems : ∀ raw ∈ raws, p.codecs.Skips raw)
    (key : Bytes) : ∀ raw ∈ foreignEntries p.crypto p.codecs key raws, p.codecs.Skips raw :=
  fun raw hmem => hitems raw (List.mem_of_mem_filter hmem)

theorem not_verifies_foreignEntries (key : Bytes) (raws : List Bytes) :
    ∀ raw ∈ foreignEntries p.crypto p.codecs key raws,
      verifiesUnder p.crypto p.codecs key raw = false := by
  intro raw hmem
  have hkept := List.of_mem_filter hmem
  simpa using hkept

/-- A read of an array that was uploaded, as far as its entries go. -/
theorem fetchLargeBlobEntries_uploaded (hstore : StoresBlobs p store limit) {maxFragment : Nat}
    (hpos : 0 < maxFragment) (hlimit : maxFragment ≤ limit) {w : World σ T} {kept : List Bytes}
    (harray : arrayAt store w = arrayOf p.crypto kept)
    (hcap : (arrayOf p.crypto kept).length ≤ 4 * 1024 * 1024) {arrayBytes : Bytes}
    (hstrip : (stripArrayTrailer p.crypto (arrayOf p.crypto kept)
      : Except (LargeBlobError T) Bytes) = .ok arrayBytes) :
    ∃ w', p.fetchLargeBlobEntries maxFragment w
      = (Proc.ofExcept (parseLargeBlobArray p.codecs arrayBytes) : BlobProc σ T _) w' := by
  obtain ⟨outcome, w', hrun, -, -, -, htotal⟩ :=
    fetchSerializedArray_stored (hstore.serves hlimit) hpos w
  rw [htotal (harray ▸ hcap), harray] at hrun
  refine ⟨w', ?_⟩
  unfold fetchLargeBlobEntries
  rw [Proc.bind_of_ok hrun, Proc.bind_of_ok (Proc.ofExcept_eq_ok_iff.mpr ⟨hstrip, rfl⟩)]

/-- A write that returned: the foreign elements, the new one, and when a reader
gets it. -/
theorem writeAuthenticatorLargeBlob_holds (hstore : StoresBlobs p store limit)
    (hcodecs : p.codecs.Lawful readElement) (hgcm : p.crypto.GcmInverts) {maxFragment : Nat}
    (hpos : 0 < maxFragment) (hlimit : maxFragment ≤ limit) {key blob : Bytes}
    (hkey : key.length = 32) {pinUvAuth : Option (Bytes × Ctap2PinUvAuthProtocol)}
    {w w' : World σ T} {raws : List Bytes}
    (hraws : HoldsEntries p.crypto p.codecs (arrayAt store w) raws)
    (h : p.writeAuthenticatorLargeBlob key blob maxFragment pinUvAuth w = (.ok (), w')) :
    ∃ new, HoldsEntries p.crypto p.codecs (arrayAt store w')
        (foreignEntries p.crypto p.codecs key raws ++ [new])
      ∧ verifiesUnder p.crypto p.codecs key new = true
      ∧ ((∃ w'', p.readAuthenticatorLargeBlob key maxFragment w' = (.ok (some blob), w''))
        ↔ ∀ raw ∈ foreignEntries p.crypto p.codecs key raws, (readElement raw).isSome) := by
  unfold writeAuthenticatorLargeBlob at h
  split at h
  · cases h
  next hsize =>
    obtain ⟨existing, w₁, hfetch, h⟩ := Proc.bind_eq_ok_iff.mp h
    obtain ⟨nonce, w₂, -, h⟩ := Proc.bind_eq_ok_iff.mp h
    obtain ⟨new, w₃, hentry, hupload⟩ := Proc.bind_eq_ok_iff.mp h
    obtain ⟨hsealed, -⟩ := Proc.ofExcept_eq_ok_iff.mp hentry
    obtain ⟨ciphertext, hnonce, hwritten, hdecrypt⟩ := encryptEntry_ok hgcm hkey hsealed
    obtain rfl := fetchOrInitial_holds hstore hpos hlimit hraws hfetch
    rw [rebuildSerializedArray_eq, Option.toList_some] at hupload
    have hforeign := skips_foreignEntries (p := p) hraws.items key
    -- the new element is within the cap of an upload, and so is what it holds
    have hnew : readElement new = some (largeBlobEntry ciphertext nonce blob.length) := by
      have hcap : _ ≤ 4 * 1024 * 1024 := (uploadSerializedArray_stored hstore hupload).1
      have hblob : blob.length ≤ 1024 * 1024 := not_lt.mp hsize
      have hlength := length_le_arrayOf p.crypto (List.mem_append_right
        (foreignEntries p.crypto p.codecs key raws) (List.mem_singleton_self new))
      have hciphertext := length_le_encode_entry ciphertext nonce blob.length
      rw [← hwritten] at hciphertext
      rw [hwritten]
      exact hcodecs.readElement_encode (by omega) (by omega) (by omega)
    have hitems : ∀ raw ∈ foreignEntries p.crypto p.codecs key raws ++ [new],
        p.codecs.Skips raw := by
      intro raw hmem
      rcases List.mem_append.mp hmem with hmem | hmem
      · exact hforeign raw hmem
      · rw [List.mem_singleton.mp hmem]
        exact hcodecs.skipItem_element hnew
    obtain ⟨harray, hcap, hcount, hholds⟩ := holdsEntries_upload hstore hcodecs hitems hupload
    refine ⟨new, hholds, ?_, ?_, fun hread => ?_⟩
    · rw [verifiesUnder_of_element hcodecs key hnew]
      show (nonce.length == 12 && (p.crypto.aes256GcmDecrypt key nonce (entryAd blob.length)
        ciphertext).isSome) = true
      rw [hdecrypt, hnonce]
      rfl
    -- one element that is too deep, and the array as a whole is refused
    · rintro ⟨w'', hread⟩
      by_contra hsome
      push Not at hsome
      obtain ⟨raw, hraw, hnone⟩ := hsome
      obtain ⟨arrayBytes, e, hstrip, hparse⟩ := parseLargeBlobArray_deep (T := T) p.crypto hcodecs
        hitems ⟨raw, List.mem_append_left _ hraw, by simpa using hnone⟩ hcount
      obtain ⟨w₄, hentries⟩ :=
        fetchLargeBlobEntries_uploaded hstore hpos hlimit harray hcap hstrip
      obtain ⟨entries, w₅, hrun, -⟩ := Proc.bind_eq_ok_iff.mp hread
      rw [hentries, hparse] at hrun
      cases (Prod.mk.inj hrun).1
    · obtain ⟨arrayBytes, entries, hstrip, hparse, hfirst⟩ :=
        decryptFirstMatching_written (T := T) hcodecs hread (not_verifies_foreignEntries key raws)
          hnonce (not_lt.mp hsize) hdecrypt hnew hcount
      obtain ⟨w'', hentries⟩ :=
        fetchLargeBlobEntries_uploaded hstore hpos hlimit harray hcap hstrip
      have hentries : p.fetchLargeBlobEntries maxFragment w' = (.ok entries, w'') :=
        hentries.trans (Proc.ofExcept_eq_ok_iff.mpr ⟨hparse, rfl⟩)
      exact ⟨w'', Proc.bind_eq_ok_iff.mpr
        ⟨entries, w'', hentries, Proc.ofExcept_eq_ok_iff.mpr ⟨hfirst, rfl⟩⟩⟩

/-- A delete that returned: the foreign elements. -/
theorem deleteAuthenticatorLargeBlob_holds (hstore : StoresBlobs p store limit)
    (hcodecs : p.codecs.Lawful readElement) {maxFragment : Nat} (hpos : 0 < maxFragment)
    (hlimit : maxFragment ≤ limit) {key : Bytes}
    {pinUvAuth : Option (Bytes × Ctap2PinUvAuthProtocol)} {w w' : World σ T}
    {raws : List Bytes} (hraws : HoldsEntries p.crypto p.codecs (arrayAt store w) raws)
    (h : p.deleteAuthenticatorLargeBlob key maxFragment pinUvAuth w = (.ok (), w')) :
    HoldsEntries p.crypto p.codecs (arrayAt store w')
      (foreignEntries p.crypto p.codecs key raws) := by
  obtain ⟨existing, w₁, hfetch, h⟩ := Proc.bind_eq_ok_iff.mp h
  obtain rfl := fetchOrInitial_holds hstore hpos hlimit hraws hfetch
  split at h
  · rw [rebuildSerializedArray_eq, Option.toList_none, List.append_nil] at h
    exact (holdsEntries_upload hstore hcodecs (skips_foreignEntries hraws.items key) h).2.2.2
  · cases h

/-- Where no element verifies, a delete sends nothing. -/
theorem deleteAuthenticatorLargeBlob_none (hstore : StoresBlobs p store limit)
    {maxFragment : Nat} (hpos : 0 < maxFragment) (hlimit : maxFragment ≤ limit) {key : Bytes}
    (pinUvAuth : Option (Bytes × Ctap2PinUvAuthProtocol)) {w : World σ T}
    {raws : List Bytes} (hraws : HoldsEntries p.crypto p.codecs (arrayAt store w) raws)
    (hnone : ∀ raw ∈ raws, verifiesUnder p.crypto p.codecs key raw = false) :
    (p.deleteAuthenticatorLargeBlob key maxFragment pinUvAuth w).2.setsSent = w.setsSent := by
  obtain ⟨outcome, w', hrun, -, hsets, -⟩ := fetchOrInitial_stored hstore hpos hlimit w
  unfold deleteAuthenticatorLargeBlob
  rw [Proc.bind_apply, hrun]
  cases outcome with
  | error e => exact hsets
  | running => exact hsets
  | ok existing =>
      obtain rfl := fetchOrInitial_holds hstore hpos hlimit hraws hrun
      have hany : ((raws.map p.codecs.rawEntry).any fun e => e.ownedBy p.crypto key) = false := by
        rw [List.any_map, List.any_eq_false]
        intro raw hmem
        exact Bool.eq_false_iff.mp (hnone raw hmem)
      dsimp only
      rw [hany]
      exact hsets

/-- Where the array behind a valid trailer does not parse, whatever follows
the fetch does not run. -/
theorem setsSent_of_unparsed (hstore : StoresBlobs p store limit) {maxFragment : Nat}
    (hpos : 0 < maxFragment) (hlimit : maxFragment ≤ limit) {w : World σ T} {array : Bytes}
    (hstrip : (stripArrayTrailer p.crypto (arrayAt store w) : Except (LargeBlobError T) Bytes)
      = .ok array)
    (hparse : ∀ entries, (parseArrayRawEntries p.codecs array : Except (LargeBlobError T) _)
      ≠ .ok entries)
    (k : List RawArrayEntry → BlobProc σ T Unit) :
    ((p.fetchOrInitial maxFragment >>= k) w).2.setsSent = w.setsSent := by
  obtain ⟨outcome, w', hrun, -, hsets, hexisting⟩ := fetchOrInitial_stored hstore hpos hlimit w
  rw [Proc.bind_apply, hrun]
  cases outcome with
  | error e => exact hsets
  | running => exact hsets
  | ok existing =>
      rcases hexisting existing rfl with ⟨array', hstrip', hparse'⟩ | ⟨⟨e, hstrip'⟩, -⟩
      · rw [hstrip] at hstrip'
        obtain rfl := Except.ok.inj hstrip'
        exact absurd hparse' (hparse existing)
      · rw [hstrip] at hstrip'
        cases hstrip'

/-- What a write of `blob` under `key` is to leave of an array of `raws`: the
foreign elements as they were, one that verifies, and the blob for a reader. -/
structure WroteBlob (p : Platform σ T) (store : σ → BlobStore) (key blob : Bytes)
    (maxFragment : Nat) (raws : List Bytes) (w' : World σ T) : Prop where
  elements : ∃ new, HoldsEntries p.crypto p.codecs (arrayAt store w')
      (foreignEntries p.crypto p.codecs key raws ++ [new])
    ∧ (foreignEntries p.crypto p.codecs key raws ++ [new]).filter
        (verifiesUnder p.crypto p.codecs key) = [new]
  readBack : ∃ w'', p.readAuthenticatorLargeBlob key maxFragment w' = (.ok (some blob), w'')

end Platform

open Platform

/-- **Blobs as a map**: a write that returns changes the elements that verify
under its key and no other, and does all that it is to do just where each of the
others is read inside an array as well; a delete that returns changes no other
element; and a device whose array does not parse, or holds nothing to delete, is
sent no set command. -/
theorem largeBlob_mapUpdate {p : Platform σ T} {store : σ → BlobStore} {limit : Nat}
    (hstore : StoresBlobs p store limit) {readElement : Bytes → Option Cbor}
    (hcodecs : p.codecs.Lawful readElement) (hgcm : p.crypto.GcmInverts) {maxFragment : Nat}
    (hpos : 0 < maxFragment) (hlimit : maxFragment ≤ limit) {key : Bytes} (hkey : key.length = 32)
    (pinUvAuth : Option (Bytes × Ctap2PinUvAuthProtocol)) (w : World σ T) :
    (∀ raws, HoldsEntries p.crypto p.codecs (arrayAt store w) raws →
      (∀ blob w', p.writeAuthenticatorLargeBlob key blob maxFragment pinUvAuth w = (.ok (), w') →
        (∃ new, HoldsEntries p.crypto p.codecs (arrayAt store w')
            (foreignEntries p.crypto p.codecs key raws ++ [new])
          ∧ (foreignEntries p.crypto p.codecs key raws ++ [new]).filter
              (verifiesUnder p.crypto p.codecs key) = [new])
        ∧ (p.WroteBlob store key blob maxFragment raws w'
          ↔ ∀ raw ∈ foreignEntries p.crypto p.codecs key raws, (readElement raw).isSome))
      ∧ (∀ w', p.deleteAuthenticatorLargeBlob key maxFragment pinUvAuth w = (.ok (), w') →
        HoldsEntries p.crypto p.codecs (arrayAt store w')
          (foreignEntries p.crypto p.codecs key raws))
      ∧ ((∀ raw ∈ raws, verifiesUnder p.crypto p.codecs key raw = false) →
        (p.deleteAuthenticatorLargeBlob key maxFragment pinUvAuth w).2.setsSent = w.setsSent))
    ∧ ∀ array,
      (stripArrayTrailer p.crypto (arrayAt store w) : Except (LargeBlobError T) Bytes)
          = .ok array →
        (∀ entries, (parseArrayRawEntries p.codecs array : Except (LargeBlobError T) _)
          ≠ .ok entries) →
        (∀ blob, (p.writeAuthenticatorLargeBlob key blob maxFragment pinUvAuth w).2.setsSent
            = w.setsSent)
          ∧ (p.deleteAuthenticatorLargeBlob key maxFragment pinUvAuth w).2.setsSent
            = w.setsSent := by
  refine ⟨fun raws hraws => ⟨fun blob w' hwrite => ?_, fun w' hdelete => ?_, fun hnone => ?_⟩,
    fun array hstrip hparse => ⟨fun blob => ?_, ?_⟩⟩
  · obtain ⟨new, hholds, hverifies, hread⟩ :=
      writeAuthenticatorLargeBlob_holds hstore hcodecs hgcm hpos hlimit hkey hraws hwrite
    -- what is kept does not verify under the key, so the new entry is the only one
    have hforeign : (foreignEntries p.crypto p.codecs key raws).filter
        (verifiesUnder p.crypto p.codecs key) = [] := by
      rw [List.filter_eq_nil_iff]
      intro raw hmem
      exact Bool.eq_false_iff.mp (not_verifies_foreignEntries key raws raw hmem)
    have honly : (foreignEntries p.crypto p.codecs key raws ++ [new]).filter
        (verifiesUnder p.crypto p.codecs key) = [new] := by
      rw [List.filter_append, hforeign, List.nil_append, List.filter_cons_of_pos hverifies,
        List.filter_nil]
    exact ⟨⟨new, hholds, honly⟩, fun hwrote => hread.mp hwrote.readBack,
      fun hsome => ⟨⟨new, hholds, honly⟩, hread.mpr hsome⟩⟩
  · exact deleteAuthenticatorLargeBlob_holds hstore hcodecs hpos hlimit hraws hdelete
  · exact deleteAuthenticatorLargeBlob_none hstore hpos hlimit pinUvAuth hraws hnone
  · unfold writeAuthenticatorLargeBlob
    split
    · rfl
    · exact setsSent_of_unparsed hstore hpos hlimit hstrip hparse _
  · exact setsSent_of_unparsed hstore hpos hlimit hstrip hparse _

/-! ## §3. A device that is a store. -/

/-- CBOR items in at most `depth` others, and no compression. -/
def cborCodecs (depth : Nat) : Codecs where
  deflate bytes := bytes
  inflate bytes limit := .ok (bytes.take limit)
  skipItem bytes :=
    match Cbor.readItem (depth + 1) bytes with
    | some (_, rest) => .ok (bytes.length - rest.length)
    | none => .error "recursion limit exceeded"
  readValue bytes :=
    match Reader.whole (Cbor.readItem (depth + 1)) bytes with
    | some value => .ok value
    | none => .error "recursion limit exceeded"
  debugValue _ := ""

theorem encodeArrayHeader_eq {n : Nat} (hn : n < 2 ^ 32) :
    encodeArrayHeader n = Cbor.head 4 n := by
  unfold encodeArrayHeader Cbor.head
  split_ifs <;> first | rfl | omega

theorem fits_largeBlobEntry (depth : Nat) {ciphertext nonce : Bytes} {origSize : Nat}
    (hciphertext : ciphertext.length < 2 ^ 64) (hnonce : nonce.length < 2 ^ 64)
    (hsize : origSize < 2 ^ 64) : (largeBlobEntry ciphertext nonce origSize).Fits (depth + 2) := by
  have hkeys : ∀ n : Nat, n ≤ 3 → (Cbor.uint n).Fits (depth + 1) := by
    intro n hn
    show n < 2 ^ 64
    omega
  refine ⟨show 3 < 2 ^ 64 by omega, fun entry hentry => ?_⟩
  rcases List.mem_cons.mp hentry with rfl | hentry
  · exact ⟨hkeys 1 (by omega), hciphertext⟩
  rcases List.mem_cons.mp hentry with rfl | hentry
  · exact ⟨hkeys 2 (by omega), hnonce⟩
  · rw [List.mem_singleton.mp hentry]
    exact ⟨hkeys 3 (by omega), hsize⟩

theorem skips_of_reads {depth : Nat} {raw : Bytes} {value : Cbor}
    (h : Reader.Reads (Cbor.readItem (depth + 1)) raw value) : (cborCodecs depth).Skips raw := by
  intro rest
  unfold cborCodecs
  dsimp only
  rw [h rest]
  dsimp only
  rw [List.length_append, Nat.add_sub_cancel]

/-- What the codecs split off is an item for the reader of values. -/
theorem reads_of_skips {depth : Nat} {raw : Bytes} (h : (cborCodecs depth).Skips raw) :
    ∃ value, Reader.Reads (Cbor.readItem (depth + 1)) raw value := by
  have hskip := h []
  rw [List.append_nil] at hskip
  unfold cborCodecs at hskip
  dsimp only at hskip
  split at hskip
  next value rest hread =>
    obtain ⟨xs, hxs, hreads⟩ := Cbor.exact_readItem (depth + 1) _ _ _ hread
    have hlength := congrArg List.length hxs
    rw [List.length_append] at hlength
    have hsame := Except.ok.inj hskip
    -- an item takes a byte at least, so that nothing is left of it
    have hne : xs ≠ [] := by
      rintro rfl
      have hnone : Cbor.readItem (depth + 1) [] = some (value, []) := hreads.apply
      cases hnone
    have hpos := List.length_pos_iff.mpr hne
    obtain rfl : rest = [] := List.eq_nil_of_length_eq_zero (by omega)
    rw [hxs, List.append_nil]
    exact ⟨value, hreads⟩
  next => cases hskip

theorem lawful_cborCodecs (depth : Nat) :
    (cborCodecs (depth + 2)).Lawful (Reader.whole (Cbor.readItem (depth + 2))) where
  inflate_deflate bytes limit hlength := congrArg Except.ok (List.take_of_length_le hlength)
  skipItem_element hraw :=
    skips_of_reads ((Cbor.extends_readItem _).reads ((Cbor.exact_readItem _).reads_of_whole hraw))
  readValue_element hraw := by
    have hread := (Cbor.extends_readItem _).reads ((Cbor.exact_readItem _).reads_of_whole hraw)
    unfold cborCodecs
    dsimp only
    rw [hread.whole]
  readValue_array hcount hvalues := by
    obtain ⟨info, hhead⟩ := Cbor.reads_head 4 (by omega) (hcount.trans (by decide))
    have hitems := Reader.Reads.many (hvalues.imp fun _ _ hraw =>
      (Cbor.exact_readItem (depth + 2)).reads_of_whole hraw)
    have hread : Reader.Reads (Cbor.readItem (depth + 3)) _ _ :=
      hhead.bind (hitems.bind_pure rfl)
    unfold cborCodecs
    dsimp only
    rw [encodeArrayHeader_eq hcount, hread.whole]
  readValue_deep {raws} hcount hitems hdeep := by
    obtain ⟨info, hhead⟩ := Cbor.reads_head 4 (by omega) (hcount.trans (by decide))
    obtain ⟨deep, hmem, hnone⟩ := hdeep
    unfold cborCodecs
    dsimp only
    cases hwhole : Reader.whole (Cbor.readItem (depth + 3))
      (encodeArrayHeader raws.length ++ raws.flatten) with
    | none => exact ⟨_, rfl⟩
    | some value =>
        -- a reader of the array takes the elements where the writer cuts them
        rw [Reader.whole_eq_some_iff, encodeArrayHeader_eq hcount] at hwhole
        obtain ⟨head, rest, hread, hbody⟩ := Reader.bind_eq_some_iff.mp hwhole
        obtain ⟨rfl, rfl⟩ := Prod.mk.inj (Option.some.inj ((hhead _).symm.trans hread))
        obtain ⟨values, rest', hmany, -⟩ := Reader.bind_eq_some_iff.mp hbody
        obtain ⟨element, helement⟩ := (Cbor.extends_readItem (depth + 2)).pieces_of_many
          (Cbor.exact_readItem _) (fun raw hraw => reads_of_skips (hitems raw hraw))
          (by rw [List.append_nil]; exact hmany) deep hmem
        rw [helement.whole] at hnone
        cases hnone
  readElement_encode hciphertext hnonce hsize :=
    (Cbor.reads_encode _ _ (fits_largeBlobEntry depth hciphertext hnonce hsize)).whole

/-- A device that does nothing but store. -/
def blobPlatform : Platform BlobStore Empty where
  crypto := transparentCrypto
  codecs := cborCodecs 127
  supportsPreflight := false
  getInfo s := (.error (.ctap .other), s)
  clientPin _ s := (.error (.ctap .other), s)
  makeCredential _ s := (.error (.ctap .other), s)
  getAssertion _ s := (.error (.ctap .other), s)
  getNextAssertion s := (.error (.ctap .other), s)
  largeBlobs request s :=
    match request.set with
    | some chunk =>
        match s.accept chunk request.offset request.length with
        | some s' => (.ok ⟨none⟩, s')
        | none => (.error (.ctap .other), s)
    | none =>
        if request.offset ≤ s.array.length then
          (.ok ⟨some ((s.array.drop request.offset).take (request.get.getD 0))⟩, s)
        else (.error (.ctap .other), s)
  uxUpdate _ s := s
  pinRequired _ _ s := (none, s)
  pinNotSet _ s := (none, s)
  persistentTokenStore := false
  storeList s := ([], s)
  storePut _ _ s := s
  storeDelete _ s := s
  random n s := (List.replicate n 0, s)
  random_length _ _ := List.length_replicate

theorem storesBlobs_blobPlatform (limit : Nat) : StoresBlobs blobPlatform id limit where
  get s offset length _ hoffset := ⟨_, s, if_pos hoffset, rfl, rfl⟩
  set {s s' request chunk response} hset hanswer := by
    unfold blobPlatform at hanswer
    dsimp only at hanswer
    rw [hset] at hanswer
    dsimp only at hanswer
    split at hanswer
    next s'' haccept =>
      rw [← (Prod.mk.inj hanswer).2]
      exact haccept
    next => cases (Prod.mk.inj hanswer).1
  random _ _ := rfl

theorem gcmInverts_transparent : transparentCrypto.GcmInverts := by
  intro key nonce aad plaintext ciphertext _ _ hencrypt
  obtain rfl := Option.some.inj hencrypt
  show (if _ then _ else _) = _
  rw [List.take_left, if_pos rfl, List.drop_left]

/-- What a key of this byte has encrypted of `blob`. -/
def entryUnder (keyByte : UInt8) (blob : Bytes) : Bytes :=
  Cbor.encode (largeBlobEntry (List.replicate 32 keyByte ++ entryAd blob.length ++ blob)
    (List.replicate 12 0) blob.length)

/-- A number, a blob of another key and one of the key 1. -/
def sharedArray : List Bytes := [Cbor.encode (.uint 5), entryUnder 2 [20], entryUnder 1 [10]]

/-- A device with these elements. -/
def sharedWorld : World BlobStore Empty := .start ⟨arrayOf transparentCrypto sharedArray, none⟩ none

theorem items_sharedArray :
    ∀ raw ∈ sharedArray, (Reader.whole (Cbor.readItem 127) raw).isSome := by
  decide +kernel

theorem holdsEntries_of_items {raws : List Bytes} (hcount : raws.length < 2 ^ 32)
    (hitems : ∀ raw ∈ raws, (Reader.whole (Cbor.readItem 127) raw).isSome) :
    HoldsEntries transparentCrypto (cborCodecs 127) (arrayOf transparentCrypto raws) raws := by
  refine .array (fun raw hmem => ?_) (serializedArray_arrayOf _ hcount)
  obtain ⟨value, hvalue⟩ := Option.isSome_iff_exists.mp (hitems raw hmem)
  exact (lawful_cborCodecs 125).skipItem_element hvalue

theorem write_sharedWorld :
    (blobPlatform.writeAuthenticatorLargeBlob (List.replicate 32 1) [7, 8] 40 none
      sharedWorld).1 = .ok () := by
  decide +kernel

/-- The blob of the key 1 is replaced, in an array that is shared, and read back
by a device that gives fragments of up to 40 bytes. -/
theorem largeBlob_mapUpdate_shared :
    ∃ w', blobPlatform.writeAuthenticatorLargeBlob (List.replicate 32 1) [7, 8] 40 none
        sharedWorld = (.ok (), w')
      ∧ blobPlatform.WroteBlob id (List.replicate 32 1) [7, 8] 40 sharedArray w' := by
  have hok := write_sharedWorld
  rcases hrun : blobPlatform.writeAuthenticatorLargeBlob (List.replicate 32 1) [7, 8] 40 none
    sharedWorld with ⟨outcome, w'⟩
  rw [hrun] at hok
  obtain rfl : outcome = .ok () := hok
  have hupdate := largeBlob_mapUpdate (p := blobPlatform) (storesBlobs_blobPlatform 40)
    (lawful_cborCodecs 125) gcmInverts_transparent (by decide : 0 < 40) (Nat.le_refl 40)
    (List.length_replicate : (List.replicate 32 (1 : UInt8)).length = 32) none sharedWorld
  obtain ⟨-, hiff⟩ := (hupdate.1 sharedArray (holdsEntries_of_items (by decide)
    items_sharedArray)).1 [7, 8] w' hrun
  refine ⟨w', rfl, hiff.mpr fun raw hraw => items_sharedArray raw ?_⟩
  exact List.mem_of_mem_filter hraw

/-- Arrays of one element each, around a number. -/
def nested : Nat → Cbor
  | 0 => .uint 0
  | depth + 1 => .array [nested depth]

theorem fits_nested (depth : Nat) : (nested depth).Fits (depth + 1) := by
  induction depth with
  | zero => exact Nat.two_pow_pos 64
  | succ depth ih =>
      refine ⟨show 1 < 2 ^ 64 by omega, fun item hitem => ?_⟩
      rw [List.mem_singleton.mp hitem]
      exact ih

/-- An item that is taken as such, and is too deep by one in an array. -/
def deepItem : Bytes := Cbor.encode (nested 127)

/-- A device that stores no more than this item. -/
def deepWorld : World BlobStore Empty := .start ⟨arrayOf transparentCrypto [deepItem], none⟩ none

/-- A blob that is written beside it is not read back. -/
theorem largeBlob_mapUpdate_deep :
    HoldsEntries transparentCrypto (cborCodecs 127) deepWorld.env.array [deepItem]
      ∧ ∃ w', blobPlatform.writeAuthenticatorLargeBlob (List.replicate 32 1) [7, 8] 40 none
          deepWorld = (.ok (), w')
        ∧ (blobPlatform.readAuthenticatorLargeBlob (List.replicate 32 1) 40 w').1
          = .error (.corrupted "failed to parse largeBlobArray CBOR: recursion limit exceeded")
        ∧ ¬blobPlatform.WroteBlob id (List.replicate 32 1) [7, 8] 40 [deepItem] w' := by
  have hok : (blobPlatform.writeAuthenticatorLargeBlob (List.replicate 32 1) [7, 8] 40 none
      deepWorld).1 = .ok () := by decide +kernel
  have hread : (blobPlatform.readAuthenticatorLargeBlob (List.replicate 32 1) 40
      (blobPlatform.writeAuthenticatorLargeBlob (List.replicate 32 1) [7, 8] 40 none
        deepWorld).2).1
      = .error (.corrupted "failed to parse largeBlobArray CBOR: recursion limit exceeded") := by
    decide +kernel
  rcases hrun : blobPlatform.writeAuthenticatorLargeBlob (List.replicate 32 1) [7, 8] 40 none
    deepWorld with ⟨outcome, w'⟩
  rw [hrun] at hok hread
  obtain rfl : outcome = .ok () := hok
  refine ⟨.array (fun raw hmem => ?_) (serializedArray_arrayOf _ (by decide)), w', rfl, hread,
    fun hwrote => ?_⟩
  · rw [List.mem_singleton.mp hmem]
    exact skips_of_reads (Cbor.reads_encode 128 _ (fits_nested 127))
  · obtain ⟨w'', hback⟩ := hwrote.readBack
    rw [hback] at hread
    cases hread

end Libwebauthn
