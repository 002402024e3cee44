/-
  Libwebauthn.LargeBlob.RawEntries — the elements that a writer splits a
  largeBlobArray into (`read_array_header`, `encode_array_header` and
  `parse_array_raw_entries` of `src/ops/webauthn/large_blob.rs`).

  `scanArray` is `parse_array_raw_entries` with the vector that it fills.  The
  CBOR parser is third-party code; `Codecs.Splits` is what is relied on.
-/
import Libwebauthn.Lib.CborItem
import Libwebauthn.Lib.Proc
import Libwebauthn.LargeBlob.MapUpdate

namespace Libwebauthn

/-! ## §1. The scan. -/

/-- A scan of an array: the bytes that are left, and the vector of entries. -/
structure ArrayScan where
  cursor : Bytes
  /-- What `Vec::with_capacity` was called with. -/
  reserved : Nat := 0
  entries : List RawArrayEntry := []

section

variable {T : Type} (codecs : Codecs)

def scanHeader : Proc ArrayScan (LargeBlobError T) Nat := do
  let scan ← Proc.get
  let (count, cursor) ← Proc.ofExcept (readArrayHeader scan.cursor)
  Proc.modify fun scan => { scan with cursor := cursor }
  pure count

/-- One turn of the loop. -/
def scanEntry : Proc ArrayScan (LargeBlobError T) Unit := do
  let scan ← Proc.get
  match codecs.skipItem scan.cursor with
  | .error e => Proc.throw (.corrupted ("array element parse: " ++ e))
  | .ok n =>
      if n ≤ scan.cursor.length then
        let raw := scan.cursor.take n
        let value := (codecs.readValue raw).toOption
        Proc.modify fun scan =>
          { scan with cursor := scan.cursor.drop n, entries := scan.entries ++ [⟨raw, value⟩] }
      else Proc.throw (.corrupted "array element span out of range")

def scanEntries : (count : Nat) → Proc ArrayScan (LargeBlobError T) Unit
  | 0 => pure ()
  | count + 1 => do
      scanEntry codecs
      scanEntries count

def scanArray : Proc ArrayScan (LargeBlobError T) (List RawArrayEntry) := do
  let scan ← Proc.get
  if scan.cursor = [] then pure []
  else do
    let count ← scanHeader
    -- each element takes at least one byte
    Proc.modify fun scan => { scan with reserved := min count scan.cursor.length }
    scanEntries codecs count
    let scan ← Proc.get
    if scan.cursor ≠ [] then Proc.throw (.corrupted "trailing bytes after largeBlobArray")
    else pure scan.entries

/-! ## §2. What it returns. -/

/-- A turn stops, or pushes the entry that is in front; and so does
`rawEntries`. -/
theorem scanEntry_cases (scan : ArrayScan) :
    (∃ e : LargeBlobError T, scanEntry codecs scan = (.error e, scan)
        ∧ ∀ count, rawEntries codecs (count + 1) scan.cursor = .error e)
      ∨ ∃ n, codecs.skipItem scan.cursor = .ok n ∧ n ≤ scan.cursor.length
        ∧ scanEntry (T := T) codecs scan = (.ok (), ⟨scan.cursor.drop n, scan.reserved,
            scan.entries ++ [codecs.rawEntry (scan.cursor.take n)]⟩)
        ∧ ∀ count, (rawEntries codecs (count + 1) scan.cursor : Except (LargeBlobError T) _)
          = (rawEntries codecs count (scan.cursor.drop n)).bind fun cut =>
              .ok (codecs.rawEntry (scan.cursor.take n) :: cut.1, cut.2) := by
  have hscan : scanEntry (T := T) codecs scan = _ := Proc.bind_of_ok (m := Proc.get) rfl _
  rw [hscan]
  cases hskip : codecs.skipItem scan.cursor with
  | error message =>
      refine Or.inl ⟨_, rfl, fun count => ?_⟩
      rw [rawEntries, hskip]
  | ok n =>
      dsimp only
      by_cases hlength : n ≤ scan.cursor.length
      · refine Or.inr ⟨n, rfl, hlength, congrFun (if_pos hlength) scan, fun count => ?_⟩
        rw [rawEntries, hskip]
        dsimp only
        rw [if_pos hlength]
        rfl
      -- the item claims more bytes than are left: both readers stop with one error
      · refine Or.inl ⟨_, congrFun (if_neg hlength) scan, fun count => ?_⟩
        rw [rawEntries, hskip]
        dsimp only
        rw [if_neg hlength]

theorem scanEntries_cases (count : Nat) (scan : ArrayScan) :
    (∃ (e : LargeBlobError T) (scan' : ArrayScan),
        scanEntries codecs count scan = (.error e, scan')
          ∧ rawEntries codecs count scan.cursor = .error e)
      ∨ ∃ entries rest,
        (rawEntries codecs count scan.cursor : Except (LargeBlobError T) _) = .ok (entries, rest)
          ∧ scanEntries (T := T) codecs count scan
            = (.ok (), ⟨rest, scan.reserved, scan.entries ++ entries⟩) := by
  -- by induction on the count: the scan and the reader take the same item, or fail alike
  induction count generalizing scan with
  | zero =>
      refine Or.inr ⟨[], scan.cursor, rfl, ?_⟩
      rw [List.append_nil]
      rfl
  | succ count ih =>
      rcases scanEntry_cases (T := T) codecs scan with ⟨e, hscan, hraw⟩ | ⟨n, -, -, hscan, hraw⟩
      · exact Or.inl ⟨e, scan, Proc.bind_of_error hscan _, hraw count⟩
      · have hbind := Proc.bind_of_ok hscan fun _ => scanEntries codecs count
        rcases ih ⟨scan.cursor.drop n, scan.reserved,
            scan.entries ++ [codecs.rawEntry (scan.cursor.take n)]⟩ with
          ⟨e, scan', hscan', hraw'⟩ | ⟨entries, rest, hraw', hscan'⟩
        · refine Or.inl ⟨e, scan', hbind.trans hscan', ?_⟩
          rw [hraw, hraw']
          rfl
        · refine Or.inr ⟨codecs.rawEntry (scan.cursor.take n) :: entries, rest, ?_, ?_⟩
          · rw [hraw, hraw']
            rfl
          · refine (hbind.trans hscan').trans ?_
            rw [List.append_assoc, List.singleton_append]

/-- Behind the last entry nothing is left. -/
def scanEnd : Proc ArrayScan (LargeBlobError T) (List RawArrayEntry) := do
  let scan ← Proc.get
  if scan.cursor ≠ [] then Proc.throw (.corrupted "trailing bytes after largeBlobArray")
  else pure scan.entries

/-- The scan of an array, once its header is read. -/
theorem scanArray_of_header {bytes cursor : Bytes} {count : Nat} (hne : bytes ≠ [])
    (hheader : (readArrayHeader bytes : Except (LargeBlobError T) _) = .ok (count, cursor)) :
    scanArray (T := T) codecs ⟨bytes, 0, []⟩
      = (scanEntries codecs count >>= fun _ => scanEnd) ⟨cursor, min count cursor.length, []⟩ := by
  have hscan : scanHeader (T := T) ⟨bytes, 0, []⟩ = (.ok count, ⟨cursor, 0, []⟩) := by
    unfold scanHeader
    rw [Proc.bind_of_ok (m := Proc.get) rfl]
    dsimp only
    rw [hheader]
    rfl
  unfold scanArray
  rw [Proc.bind_of_ok (m := Proc.get) rfl, if_neg hne, Proc.bind_of_ok hscan]
  rfl

theorem scanArray_of_no_header {bytes : Bytes} {e : LargeBlobError T} (hne : bytes ≠ [])
    (hheader : readArrayHeader bytes = .error e) :
    scanArray codecs ⟨bytes, 0, []⟩ = (.error e, ⟨bytes, 0, []⟩) := by
  have hscan : scanHeader (T := T) ⟨bytes, 0, []⟩ = (.error e, ⟨bytes, 0, []⟩) := by
    unfold scanHeader
    rw [Proc.bind_of_ok (m := Proc.get) rfl]
    dsimp only
    rw [hheader]
    rfl
  unfold scanArray
  rw [Proc.bind_of_ok (m := Proc.get) rfl, if_neg hne, Proc.bind_of_error hscan]

/-- The scan returns what `parseArrayRawEntries` does. -/
theorem scanArray_outcome (bytes : Bytes) :
    (scanArray (T := T) codecs ⟨bytes, 0, []⟩).1
      = (Proc.ofExcept (parseArrayRawEntries codecs bytes) (⟨bytes, 0, []⟩ : ArrayScan)).1 := by
  unfold parseArrayRawEntries
  by_cases hnil : bytes = []
  · rw [if_pos hnil, hnil]
    rfl
  rw [if_neg hnil]
  cases hheader : (readArrayHeader bytes : Except (LargeBlobError T) _) with
  | error e =>
      rw [scanArray_of_no_header codecs hnil hheader]
      rfl
  | ok header =>
      obtain ⟨count, cursor⟩ := header
      rw [scanArray_of_header codecs hnil hheader]
      rcases scanEntries_cases (T := T) codecs count
          ⟨cursor, min count cursor.length, []⟩ with
        ⟨e, scan', hscan, hraw⟩ | ⟨entries, rest, hraw, hscan⟩
      · rw [Proc.bind_of_error hscan]
        show _ = (Proc.ofExcept (rawEntries codecs count cursor >>= _) _).1
        rw [hraw]
        rfl
      · rw [Proc.bind_of_ok hscan]
        show _ = (Proc.ofExcept (rawEntries codecs count cursor >>= _) _).1
        rw [hraw]
        cases rest with
        | nil => rfl
        | cons b rest => rfl

/-! ## §3. What is accepted. -/

variable {codecs}

theorem readUint_eq_ok {k n : Nat} {cursor rest : Bytes}
    (h : (readUint k cursor : Except (LargeBlobError T) _) = .ok (n, rest)) :
    n < 256 ^ k ∧ cursor = beEncode k n ++ rest := by
  unfold readUint at h
  split at h
  next hlength =>
    obtain ⟨rfl, rfl⟩ := Prod.mk.inj (Except.ok.inj h)
    have htake : (cursor.take k).length = k := List.length_take_of_le hlength
    have hlt := beDecode_lt (cursor.take k)
    have hencode := beEncode_beDecode (cursor.take k)
    rw [htake] at hlt hencode
    refine ⟨hlt, ?_⟩
    rw [hencode, List.take_append_drop]
  next => cases h

/-- What is read as the header of an array is one. -/
theorem readArrayHeader_eq_ok {n : Nat} {bytes rest : Bytes}
    (h : (readArrayHeader bytes : Except (LargeBlobError T) _) = .ok (n, rest)) :
    ∃ header, IsArrayHeader n header ∧ bytes = header ++ rest := by
  cases bytes with
  | nil => cases h
  | cons initial cursor =>
      -- the initial byte is its major type and additional information
      have hbyte : ∀ info, initial.toNat / 32 = 4 → initial.toNat % 32 = info →
          initial = UInt8.ofNat (0x80 + info) := by
        intro info hmajor hinfo
        rw [← UInt8.ofNat_toNat (x := initial)]
        congr 1
        omega
      have hlong : ∀ k, k < 4 → initial.toNat / 32 = 4 → initial.toNat % 32 = 24 + k →
          (readUint (2 ^ k) cursor : Except (LargeBlobError T) _) = .ok (n, rest) →
          ∃ header, IsArrayHeader n header ∧ initial :: cursor = header ++ rest := by
        intro k hk hmajor hinfo hread
        obtain ⟨hn, hcursor⟩ := readUint_eq_ok hread
        refine ⟨_, .long hk hn, ?_⟩
        rw [hcursor, hbyte (24 + k) hmajor hinfo, ← Nat.add_assoc]
        rfl
      -- the count is in the initial byte, or in 1, 2, 4 or 8 bytes behind it
      change (if _ then _ else _) = _ at h
      split at h
      next => cases h
      next hmajor =>
        replace hmajor := not_not.mp hmajor
        split at h
        next hinfo =>
          obtain ⟨rfl, rfl⟩ := Prod.mk.inj (Except.ok.inj h)
          exact ⟨_, .short (by omega), congrArg (· :: cursor) (hbyte _ hmajor rfl)⟩
        next =>
          split at h
          next hinfo => exact hlong 0 (by omega) hmajor hinfo h
          next =>
            split at h
            next hinfo => exact hlong 1 (by omega) hmajor hinfo h
            next =>
              split at h
              next hinfo => exact hlong 2 (by omega) hmajor hinfo h
              next =>
                split at h
                next hinfo => exact hlong 3 (by omega) hmajor hinfo h
                next => cases h

/-- The entries are what the parser took, one after the other. -/
theorem rawEntries_eq_ok {count : Nat} {cursor rest : Bytes} {entries : List RawArrayEntry}
    (h : (rawEntries codecs count cursor : Except (LargeBlobError T) _) = .ok (entries, rest)) :
    entries.length = count ∧ cursor = (entries.map (·.raw)).flatten ++ rest
      ∧ ∀ entry ∈ entries, entry = codecs.rawEntry entry.raw
        ∧ ∃ tail, codecs.skipItem (entry.raw ++ tail) = .ok entry.raw.length := by
  -- by induction on the count, each entry cut off the front of the cursor
  induction count generalizing cursor entries with
  | zero =>
      obtain ⟨rfl, rfl⟩ := Prod.mk.inj (Except.ok.inj h)
      exact ⟨rfl, rfl, fun _ hmem => (by cases hmem)⟩
  | succ count ih =>
      rcases scanEntry_cases (T := T) codecs ⟨cursor, 0, []⟩ with
        ⟨e, -, hraw⟩ | ⟨n, hskip, hlength, -, hraw⟩
      · rw [hraw] at h
        cases h
      · rw [hraw] at h
        dsimp only at h hskip hlength
        cases hrest : (rawEntries codecs count (cursor.drop n) : Except (LargeBlobError T) _) with
        | error e =>
            rw [hrest] at h
            cases h
        | ok cut =>
            rw [hrest] at h
            obtain ⟨rfl, rfl⟩ := Prod.mk.inj (Except.ok.inj h)
            obtain ⟨hcount, hcursor, hentries⟩ := ih hrest
            have htake : (cursor.take n).length = n := List.length_take_of_le hlength
            refine ⟨congrArg Nat.succ hcount, ?_, ?_⟩
            · rw [List.map_cons, List.flatten_cons, List.append_assoc, ← hcursor]
              exact (List.take_append_drop n cursor).symm
            · refine List.forall_mem_cons.mpr ⟨⟨rfl, cursor.drop n, ?_⟩, hentries⟩
              show codecs.skipItem (cursor.take n ++ cursor.drop n) = .ok (cursor.take n).length
              rw [List.take_append_drop, htake, hskip]

/-! ## §4. Well-formed elements. -/

/-- The CBOR parser takes a well-formed item off the front where it supports
it, and nothing that is not well formed. -/
structure Codecs.Splits (codecs : Codecs) (supported : Bytes → Prop) : Prop where
  takes : ∀ {item}, Cbor.WellFormed item → supported item →
    ∀ rest, codecs.skipItem (item ++ rest) = .ok item.length
  wellFormed : ∀ {cursor n}, codecs.skipItem cursor = .ok n →
    n ≤ cursor.length ∧ Cbor.WellFormed (cursor.take n)

/-- The bytes start with `n` data items. -/
def HoldsItems (n : Nat) (body : Bytes) : Prop :=
  ∃ (items : List Bytes) (rest : Bytes), items.length = n
    ∧ (∀ item ∈ items, Cbor.WellFormed item) ∧ body = items.flatten ++ rest

variable {supported : Bytes → Prop}

theorem Codecs.Splits.pos (hcodecs : codecs.Splits supported) {cursor : Bytes} {n : Nat}
    (h : codecs.skipItem cursor = .ok n) : 0 < n := by
  obtain ⟨-, depth, hitem⟩ := hcodecs.wellFormed h
  have hne := hitem.starts.1
  refine Nat.pos_of_ne_zero fun hzero => hne ?_
  rw [hzero, List.take_zero]

/-- Each item takes a byte at least. -/
theorem HoldsItems.le {n : Nat} {body : Bytes} (h : HoldsItems n body) : n ≤ body.length := by
  obtain ⟨items, rest, hcount, hitems, rfl⟩ := h
  have hle := length_le_flatten fun item hmem => (hitems item hmem).elim fun _ h => h.starts.1
  rw [List.length_append]
  omega

/-- The vector never outgrows what was reserved, since every element takes a
byte of what was left. -/
theorem scanEntries_within (hcodecs : codecs.Splits supported) (remaining count : Nat)
    (scan : ArrayScan) (hreserved : scan.reserved = min (scan.entries.length + count) remaining)
    (hbytes : scan.entries.length + scan.cursor.length ≤ remaining) :
    (scanEntries (T := T) codecs count scan).2.reserved = scan.reserved
      ∧ (scanEntries (T := T) codecs count scan).2.entries.length ≤ scan.reserved := by
  have hlength : scan.entries.length ≤ scan.reserved := by omega
  induction count generalizing scan with
  | zero => exact ⟨rfl, hlength⟩
  | succ count ih =>
      rcases scanEntry_cases (T := T) codecs scan with ⟨e, hscan, -⟩ | ⟨n, hskip, hn, hscan, -⟩
      · have hstop := Proc.bind_of_error hscan fun _ => scanEntries codecs count
        refine ⟨congrArg (·.2.reserved) hstop, ?_⟩
        exact (congrArg (·.2.entries.length) hstop).trans_le hlength
      · have hnext := Proc.bind_of_ok hscan fun _ => scanEntries codecs count
        have hpos := hcodecs.pos hskip
        have hpushed : (scan.entries ++ [codecs.rawEntry (scan.cursor.take n)]).length
            = scan.entries.length + 1 := List.length_append
        have hleft : (scan.cursor.drop n).length = scan.cursor.length - n := List.length_drop
        have hih := ih ⟨scan.cursor.drop n, scan.reserved,
          scan.entries ++ [codecs.rawEntry (scan.cursor.take n)]⟩
          (by dsimp only; omega) (by dsimp only; omega) (by dsimp only; omega)
        rw [← hnext] at hih
        exact hih

/-- What is reserved is no more than the bytes behind the header. -/
theorem scanArray_within (hcodecs : codecs.Splits supported) {bytes cursor : Bytes} {count : Nat}
    (hheader : (readArrayHeader bytes : Except (LargeBlobError T) _) = .ok (count, cursor)) :
    (scanArray (T := T) codecs ⟨bytes, 0, []⟩).2.reserved = min count cursor.length
      ∧ (scanArray (T := T) codecs ⟨bytes, 0, []⟩).2.entries.length
        ≤ (scanArray (T := T) codecs ⟨bytes, 0, []⟩).2.reserved := by
  have hne : bytes ≠ [] := by
    intro hnil
    rw [hnil] at hheader
    cases hheader
  have hend : Proc.Keeps id (scanEnd : Proc ArrayScan (LargeBlobError T) _) := by
    refine Proc.Keeps.bind Proc.Keeps.get fun scan => ?_
    split
    · exact Proc.Keeps.throw _
    · exact Proc.Keeps.pure _
  have hstate : (scanArray (T := T) codecs ⟨bytes, 0, []⟩).2
      = (scanEntries (T := T) codecs count ⟨cursor, min count cursor.length, []⟩).2 := by
    rw [scanArray_of_header codecs hne hheader]
    exact Proc.Keeps.after (fun _ => hend) _
  obtain ⟨hreserved, hentries⟩ := scanEntries_within (T := T) hcodecs cursor.length count
    ⟨cursor, min count cursor.length, []⟩ (by rw [List.length_nil, Nat.zero_add])
    (by rw [List.length_nil, Nat.zero_add])
  rw [hstate, hreserved]
  exact ⟨rfl, hentries⟩

/-! ## §5. Splitting. -/

/-- What is accepted, but for no bytes at all, has well-formed entries behind
its header. -/
theorem parseArrayRawEntries_eq_ok (hcodecs : codecs.Splits supported) {bytes : Bytes}
    {entries : List RawArrayEntry} (hne : bytes ≠ [])
    (h : (parseArrayRawEntries codecs bytes : Except (LargeBlobError T) _) = .ok entries) :
    (readArrayHeader bytes : Except (LargeBlobError T) _)
        = .ok (entries.length, (entries.map (·.raw)).flatten)
      ∧ ∀ entry ∈ entries, Cbor.WellFormed entry.raw := by
  unfold parseArrayRawEntries at h
  rw [if_neg hne] at h
  obtain ⟨⟨count, cursor⟩, hheader, h⟩ := except_bind_eq_ok_iff.mp h
  obtain ⟨⟨entries', rest⟩, hraw, h⟩ := except_bind_eq_ok_iff.mp h
  dsimp only at h
  by_cases hrest : rest = []
  · rw [if_neg (not_not.mpr hrest)] at h
    obtain rfl := Except.ok.inj h
    obtain ⟨hcount, hcursor, hentries⟩ := rawEntries_eq_ok hraw
    rw [hrest, List.append_nil] at hcursor
    refine ⟨by rw [hheader, hcount, hcursor], fun entry hmem => ?_⟩
    obtain ⟨-, tail, hskip⟩ := hentries entry hmem
    have hitem := (hcodecs.wellFormed hskip).2
    rwa [List.take_left] at hitem
  · rw [if_pos hrest] at h
    cases h

/-- The elements of an array are what it is split into, byte for byte, and only
an array is split; no bytes at all are the array without elements.  A header
that announces more elements than there are is refused, and room is reserved
for no more than there are bytes behind it. -/
theorem arrayEntries_split (hcodecs : codecs.Splits supported) :
    (∀ items : List Bytes, items.length < 2 ^ 32 →
        (∀ item ∈ items, Cbor.WellFormed item ∧ supported item) →
        ∃ entries, (parseArrayRawEntries codecs
            (encodeArrayHeader items.length ++ items.flatten)
              : Except (LargeBlobError T) _) = .ok entries
          ∧ entries.map (·.raw) = items)
      ∧ (∀ bytes entries, bytes ≠ [] →
        (parseArrayRawEntries codecs bytes : Except (LargeBlobError T) _) = .ok entries →
        ∃ header, IsArrayHeader entries.length header
          ∧ bytes = header ++ (entries.map (·.raw)).flatten
          ∧ ∀ entry ∈ entries, Cbor.WellFormed entry.raw)
      ∧ (∀ entries,
        (parseArrayRawEntries codecs [] : Except (LargeBlobError T) _) = .ok entries ↔ entries = [])
      ∧ ∀ n header body, IsArrayHeader n header → ¬HoldsItems n body →
        ∃ (e : LargeBlobError T) (scan : ArrayScan),
          parseArrayRawEntries codecs (header ++ body) = .error e
            ∧ scanArray codecs ⟨header ++ body, 0, []⟩ = (.error e, scan)
            ∧ scan.reserved = min n body.length ∧ scan.entries.length ≤ scan.reserved := by
  refine ⟨fun items hcount hitems => ?_, fun bytes entries hne h => ?_, fun entries => ?_,
    fun n header body hheader hholds => ?_⟩
  -- every item is taken as it stands, and nothing is left
  · have hskip : ∀ item ∈ items, ∀ rest, codecs.skipItem (item ++ rest) = .ok item.length :=
      fun item hmem => hcodecs.takes (hitems item hmem).1 (hitems item hmem).2
    refine ⟨_, parseArrayRawEntries_of_header (isArrayHeader_encode hcount) hskip, ?_⟩
    rw [List.map_map]
    exact List.map_id items
  · obtain ⟨hread, hentries⟩ := parseArrayRawEntries_eq_ok hcodecs hne h
    obtain ⟨header, hheader, hbytes⟩ := readArrayHeader_eq_ok hread
    exact ⟨header, hheader, hbytes, hentries⟩
  · constructor
    · intro h
      exact (Except.ok.inj h).symm
    · rintro rfl
      rfl
  · have hread := hheader.readArrayHeader (T := T) body
    have hne : header ++ body ≠ [] := by
      cases hheader <;> exact List.cons_ne_nil _ _
    cases hparse : (parseArrayRawEntries codecs (header ++ body)
        : Except (LargeBlobError T) _) with
    | ok entries =>
        obtain ⟨hread', hentries⟩ := parseArrayRawEntries_eq_ok hcodecs hne hparse
        obtain ⟨hcount, hbody⟩ := Prod.mk.inj (Except.ok.inj (hread.symm.trans hread'))
        -- entries that were read would be the items the body does not hold
        refine absurd ⟨entries.map (·.raw), [], ?_, ?_, ?_⟩ hholds
        · rw [List.length_map, hcount]
        · intro item hmem
          obtain ⟨entry, hentry, rfl⟩ := List.mem_map.mp hmem
          exact hentries entry hentry
        · rw [List.append_nil, hbody]
    | error e =>
        have houtcome := scanArray_outcome (T := T) codecs (header ++ body)
        rw [hparse] at houtcome
        obtain ⟨hreserved, hentries⟩ := scanArray_within (T := T) hcodecs hread
        exact ⟨e, (scanArray codecs ⟨header ++ body, 0, []⟩).2, rfl, Prod.ext houtcome rfl,
          hreserved, hentries⟩

end

/-! ## §6. A parser that reads no values. -/

/-- Items nested at most 128 deep are taken. -/
def itemCodecs : Codecs where
  deflate := (cborCodecs 127).deflate
  inflate := (cborCodecs 127).inflate
  skipItem bytes :=
    match Cbor.skipItem 128 bytes with
    | some (_, rest) => .ok (bytes.length - rest.length)
    | none => .error "recursion limit exceeded"
  readValue := (cborCodecs 127).readValue
  debugValue := (cborCodecs 127).debugValue

theorem splits_itemCodecs : itemCodecs.Splits (Cbor.Item 128) where
  takes _ hitem rest := by
    have hskip := (Cbor.parses_skipItem 128).reads (a := ()) hitem rest
    unfold itemCodecs
    dsimp only
    rw [hskip]
    dsimp only
    rw [List.length_append, Nat.add_sub_cancel]
  wellFormed {cursor n} h := by
    unfold itemCodecs at h
    dsimp only at h
    cases hskip : Cbor.skipItem 128 cursor with
    | none =>
        rw [hskip] at h
        cases h
    | some cut =>
        obtain ⟨u, rest⟩ := cut
        rw [hskip] at h
        obtain ⟨item, rfl, hitem⟩ := (Cbor.parses_skipItem 128 _ _ _).mp hskip
        obtain rfl := Except.ok.inj h
        rw [List.length_append, Nat.add_sub_cancel, List.take_left]
        exact ⟨Nat.le_add_right _ _, 128, hitem⟩

theorem item_of_skipItem {depth : Nat} {item : Bytes}
    (h : Cbor.skipItem depth item = some ((), [])) : Cbor.Item depth item := by
  obtain ⟨bs, hbs, hitem⟩ := (Cbor.parses_skipItem depth _ _ _).mp h
  rw [List.append_nil] at hbs
  rwa [hbs]

/-- An array of one element that the parser does not take. -/
theorem parseArrayRawEntries_refused {codecs : Codecs} {item : Bytes} {e : String}
    (h : codecs.skipItem item = .error e) :
    (parseArrayRawEntries codecs (encodeArrayHeader 1 ++ item) : Except (LargeBlobError Unit) _)
      = .error (.corrupted ("array element parse: " ++ e)) := by
  have hhead : (readArrayHeader (encodeArrayHeader 1 ++ item) :
      Except (LargeBlobError Unit) _) = .ok (1, item) := rfl
  unfold parseArrayRawEntries
  rw [if_neg (encodeArrayHeader_append_ne_nil (by decide) _), hhead]
  show (do let cut ← rawEntries codecs 1 item; _) = _
  unfold rawEntries
  rw [h]
  rfl

/-- An element that is well formed, of 128 arrays around a number, is refused, for
it nests too deep; no bytes at all are accepted, though they are no array; and
two elements of which there is none are refused with room reserved for both. -/
theorem parseArrayRawEntries_nil :
    (Cbor.WellFormed (Cbor.encode (nested 128))
        ∧ ∃ e : LargeBlobError Unit, parseArrayRawEntries itemCodecs
          (encodeArrayHeader 1 ++ Cbor.encode (nested 128)) = .error e)
      ∧ ((parseArrayRawEntries itemCodecs [] : Except (LargeBlobError Unit) _) = .ok []
        ∧ ¬∃ n header, IsArrayHeader n header ∧ ([] : Bytes) = header ++ [])
      ∧ ¬HoldsItems 2 [0xff, 0xff]
      ∧ (scanArray (T := Unit) itemCodecs ⟨encodeArrayHeader 2 ++ [0xff, 0xff], 0, []⟩).2.reserved
        = 2 := by
  have hdeep : Cbor.skipItem 129 (Cbor.encode (nested 128)) = some ((), []) := by decide +kernel
  have hskip : itemCodecs.skipItem (Cbor.encode (nested 128))
      = .error "recursion limit exceeded" := by decide +kernel
  refine ⟨⟨⟨129, item_of_skipItem hdeep⟩, _, parseArrayRawEntries_refused hskip⟩,
    ⟨rfl, ?_⟩, ?_, by decide +kernel⟩
  · rintro ⟨n, header, hheader, hnil⟩
    cases hheader with
    | short => cases hnil
    | long => cases hnil
  · rintro ⟨items, rest, hcount, hitems, hbody⟩
    obtain ⟨item, items, rfl⟩ := List.exists_cons_of_length_eq_add_one hcount
    obtain ⟨depth, hitem⟩ := hitems item (List.mem_cons_self ..)
    obtain ⟨hne, hhead⟩ := hitem.starts
    rw [List.flatten_cons, List.append_assoc] at hbody
    have hfirst := congrArg List.head? hbody
    rw [List.head?_append_of_ne_nil _ hne] at hfirst
    exact hhead hfirst.symm

/-- A number, bytes of indefinite length, a tagged array of arrays, and a blob. -/
def foreignItems : List Bytes :=
  [Cbor.encode (.uint 5), [0x5f, 0x41, 0x07, 0x40, 0xff],
    [0xc1, 0x82, 0x80, 0x9f, 0x81, 0xf4, 0xff], entryUnder 2 [20]]

/-- They are split as they are, and a header that announces any number of
elements is refused where none follows. -/
theorem arrayEntries_split_foreign :
    (∃ entries, (parseArrayRawEntries itemCodecs
          (encodeArrayHeader foreignItems.length ++ foreignItems.flatten)
            : Except (LargeBlobError Unit) _) = .ok entries
        ∧ entries.map (·.raw) = foreignItems)
      ∧ ∃ (e : LargeBlobError Unit) (scan : ArrayScan),
        scanArray itemCodecs ⟨encodeArrayHeader (2 ^ 32 - 1) ++ [], 0, []⟩ = (.error e, scan)
          ∧ scan.reserved = 0 := by
  have hsplit := arrayEntries_split (T := Unit) splits_itemCodecs
  obtain ⟨hitems, -, -, hrefused⟩ := hsplit
  have hforeign : ∀ item ∈ foreignItems, Cbor.skipItem 128 item = some ((), []) := by
    decide +kernel
  refine ⟨hitems foreignItems (by decide) fun item hmem => ?_, ?_⟩
  · have hitem := item_of_skipItem (hforeign item hmem)
    exact ⟨⟨128, hitem⟩, hitem⟩
  · obtain ⟨e, scan, -, hscan, hreserved, -⟩ := hrefused (2 ^ 32 - 1) _ []
      (isArrayHeader_encode (by omega)) fun hholds => absurd hholds.le (by decide)
    exact ⟨e, scan, hscan, hreserved⟩

end Libwebauthn
