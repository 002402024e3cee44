/-
  Libwebauthn.Lib.CborReader — reading CBOR data items.

  `readItem depth` takes one data item of definite length, nested at most
  `depth` deep, off the front of a byte string.  Heads need not be shortest,
  and the entries of a map come as they are written.

    • `reads_encode` — the encoding of an item is read as that item;
    • `exact_readItem` — an item is read from its own bytes alone;
    • `extends_readItem` — a greater depth reads no less.
-/
import Libwebauthn.Lib.Cbor
import Libwebauthn.Lib.Reader

namespace Libwebauthn

namespace Cbor

open Reader

/-! ## §1. Heads. -/

/-- A head: major type, additional information and argument. -/
structure Head where
  major : Nat
  info : Nat
  argument : Nat
  deriving Repr, DecidableEq

def readHead : Reader UInt8 Head := do
  let initial ← next
  if initial.toNat % 32 < 24 then
    pure ⟨initial.toNat / 32, initial.toNat % 32, initial.toNat % 32⟩
  else if initial.toNat % 32 < 28 then do
    let argument ← take (2 ^ (initial.toNat % 32 - 24))
    pure ⟨initial.toNat / 32, initial.toNat % 32, beDecode argument⟩
  else fail

/-- A head is read up to its last byte, and no further. -/
theorem exact_readHead : Exact readHead := by
  refine Exact.next.bind fun initial => ?_
  split
  · exact Exact.pure _
  · split
    · exact (Exact.take _).bind fun _ => Exact.pure _
    · exact Exact.fail

/-- An argument below 24 stands in the head itself. -/
theorem reads_shortHead (major n : Nat) (hmajor : major < 8) (hn : n < 24) :
    Reads readHead [UInt8.ofNat (major * 32 + n)] ⟨major, n, n⟩ := by
  have hbyte : (UInt8.ofNat (major * 32 + n)).toNat = major * 32 + n := by
    rw [UInt8.toNat_ofNat']
    omega
  refine (Reads.next _).bind_pure ?_
  rw [hbyte, if_pos (by omega)]
  congr 2 <;> omega

/-- A larger one stands behind it, in one, two, four or eight bytes. -/
theorem reads_longHead (major k : Nat) {n : Nat} (hmajor : major < 8) (hk : k < 4)
    (hn : n < 256 ^ 2 ^ k) :
    Reads readHead (UInt8.ofNat (major * 32 + (24 + k)) :: beEncode (2 ^ k) n)
      ⟨major, 24 + k, n⟩ := by
  have hbyte : (UInt8.ofNat (major * 32 + (24 + k))).toNat = major * 32 + (24 + k) := by
    rw [UInt8.toNat_ofNat']
    omega
  show Reads _ ([_] ++ beEncode (2 ^ k) n) _
  refine (Reads.next (UInt8.ofNat (major * 32 + (24 + k)))).bind ?_
  have hinfo : (UInt8.ofNat (major * 32 + (24 + k))).toNat % 32 = 24 + k := by omega
  have htake := Reads.take (beEncode (2 ^ k) n)
  rw [beEncode_length] at htake
  rw [hinfo, if_neg (by omega), if_pos (by omega), show 24 + k - 24 = k from by omega]
  refine htake.bind_pure ?_
  rw [beDecode_beEncode_of_lt hn, hbyte]
  congr 2
  omega

/-- A shortest head is read as its major type and argument. -/
theorem reads_head (major : Nat) {n : Nat} (hmajor : major < 8) (hn : n < 2 ^ 64) :
    ∃ info, Reads readHead (head major n) ⟨major, info, n⟩ := by
  unfold head
  split
  next h => exact ⟨n, reads_shortHead major n hmajor h⟩
  split
  next h => exact ⟨24, reads_longHead major 0 hmajor (by omega) (by omega)⟩
  split
  next h => exact ⟨25, reads_longHead major 1 hmajor (by omega) (by omega)⟩
  split
  next h => exact ⟨26, reads_longHead major 2 hmajor (by omega) (by omega)⟩
  next => exact ⟨27, reads_longHead major 3 hmajor (by omega) (by omega)⟩

/-! ## §2. Items. -/

/-- The text that some bytes encode. -/
def text? (bs : Bytes) : Option String := String.fromUTF8? ⟨bs.toArray⟩

theorem text?_utf8 (s : String) : text? (utf8 s) = some s := by
  have hbytes : (⟨(utf8 s).toArray⟩ : ByteArray) = s.toUTF8 := by
    unfold utf8
    rw [Array.toArray_toList]
  unfold text? String.fromUTF8?
  rw [hbytes, String.toUTF8_eq_toByteArray, dif_pos s.isValidUTF8]
  rfl

def readEntry (item : Reader UInt8 Cbor) : Reader UInt8 (Cbor × Cbor) := do
  let key ← item
  let value ← item
  pure (key, value)

/-- What follows a head, with a reader for the items inside. -/
def readBody (item : Reader UInt8 Cbor) (head : Head) : Reader UInt8 Cbor :=
  match head.major with
  | 0 => pure (.uint head.argument)
  | 1 => pure (.nint head.argument)
  | 2 => do
      let bs ← take head.argument
      pure (.bytes bs)
  | 3 => do
      let bs ← take head.argument
      match text? bs with
      | some s => pure (.text s)
      | none => fail
  | 4 => do
      let items ← many item head.argument
      pure (.array items)
  | 5 => do
      let entries ← many (readEntry item) head.argument
      pure (.map entries)
  | 7 =>
      match head.info with
      | 20 => pure (.bool false)
      | 21 => pure (.bool true)
      | 22 => pure .null
      | 27 => pure (.float head.argument)
      | _ => fail
  | _ => fail

/-- An item that is nested at most `depth` deep. -/
def readItem : (depth : Nat) → Reader UInt8 Cbor
  | 0 => fail
  | depth + 1 => do
      let head ← readHead
      readBody (readItem depth) head

theorem exact_readEntry {item : Reader UInt8 Cbor} (h : Exact item) : Exact (readEntry item) :=
  h.bind fun _ => h.bind fun _ => Exact.pure _

/-- The body of an item is exact when the items in it are. -/
theorem exact_readBody {item : Reader UInt8 Cbor} (h : Exact item) (head : Head) :
    Exact (readBody item head) := by
  unfold readBody
  split
  · exact Exact.pure _
  · exact Exact.pure _
  · exact (Exact.take _).bind fun _ => Exact.pure _
  · refine (Exact.take _).bind fun bs => ?_
    split
    · exact Exact.pure _
    · exact Exact.fail
  · exact (h.many _).bind fun _ => Exact.pure _
  · exact ((exact_readEntry h).many _).bind fun _ => Exact.pure _
  · split
    · exact Exact.pure _
    · exact Exact.pure _
    · exact Exact.pure _
    · exact Exact.pure _
    · exact Exact.fail
  · exact Exact.fail

/-- **Items are exact**, by induction on their depth. -/
theorem exact_readItem (depth : Nat) : Exact (readItem depth) := by
  induction depth with
  | zero => exact Exact.fail
  | succ depth ih => exact exact_readHead.bind fun head => exact_readBody ih head

/-- A deeper reader reads what a shallower one does. -/
theorem extends_readBody {item item' : Reader UInt8 Cbor} (h : Extends item item')
    (head : Head) : Extends (readBody item head) (readBody item' head) := by
  have hentry : Extends (readEntry item) (readEntry item') :=
    h.bind fun _ => h.bind fun _ => Extends.refl _
  unfold readBody
  split
  · exact Extends.refl _
  · exact Extends.refl _
  · exact Extends.refl _
  · exact Extends.refl _
  · exact (h.many _).bind fun _ => Extends.refl _
  · exact (hentry.many _).bind fun _ => Extends.refl _
  · exact Extends.refl _
  · exact Extends.refl _

/-- So the depth limit only ever refuses. -/
theorem extends_readItem (depth : Nat) : Extends (readItem depth) (readItem (depth + 1)) := by
  induction depth with
  | zero => exact Extends.fail _
  | succ depth ih => exact (Extends.refl _).bind fun head => extends_readBody ih head

/-! ## §3. The encoding is read back. -/

/-- Arguments of at most eight bytes, and items nested at most `depth` deep. -/
def Fits : (depth : Nat) → Cbor → Prop
  | 0, _ => False
  | _ + 1, .uint n => n < 2 ^ 64
  | _ + 1, .nint n => n < 2 ^ 64
  | _ + 1, .bytes bs => bs.length < 2 ^ 64
  | _ + 1, .text s => (utf8 s).length < 2 ^ 64
  | depth + 1, .array items => items.length < 2 ^ 64 ∧ ∀ item ∈ items, Fits depth item
  | depth + 1, .map entries =>
      entries.length < 2 ^ 64 ∧ ∀ entry ∈ entries, Fits depth entry.1 ∧ Fits depth entry.2
  | _ + 1, .bool _ => True
  | _ + 1, .null => True
  | _ + 1, .float bits => bits < 2 ^ 64

theorem encodeItems_eq (items : List Cbor) : encodeItems items = (items.map encode).flatten := by
  induction items with
  | nil => rfl
  | cons item items ih =>
      rw [encodeItems, ih]
      rfl

theorem encodeEntries_eq (entries : List (Cbor × Cbor)) :
    encodeEntries entries
      = (entries.map fun entry => encode entry.1 ++ encode entry.2).flatten := by
  induction entries with
  | nil => rfl
  | cons entry entries ih =>
      obtain ⟨key, value⟩ := entry
      rw [encodeEntries, ih]
      rfl

/-- A repetition reads the codes of its values one after the other. -/
theorem reads_many_map {α : Type} {r : Reader UInt8 α} {code : α → Bytes} {values : List α}
    (h : ∀ a ∈ values, Reads r (code a) a) :
    Reads (many r values.length) (values.map code).flatten values := by
  have hmany : List.Forall₂ (Reads r) (values.map code) values := by
    rw [List.forall₂_map_left_iff, List.forall₂_same]
    exact h
  have hreads := Reads.many hmany
  rwa [List.length_map] at hreads

/-- **What was encoded is read back**, where the depth allows it. -/
theorem reads_encode (depth : Nat) :
    ∀ v : Cbor, v.Fits depth → Reads (readItem depth) (encode v) v := by
  -- by induction on the depth; each kind of item is a head and what the head announces
  induction depth with
  | zero => exact fun v h => h.elim
  | succ depth ih =>
      intro v h
      cases v with
      | uint n =>
          obtain ⟨info, hhead⟩ := reads_head 0 (by omega) h
          rw [encode]
          exact hhead.bind_pure rfl
      | nint n =>
          obtain ⟨info, hhead⟩ := reads_head 1 (by omega) h
          rw [encode]
          exact hhead.bind_pure rfl
      | bytes bs =>
          obtain ⟨info, hhead⟩ := reads_head 2 (by omega) h
          rw [encode]
          exact hhead.bind ((Reads.take bs).bind_pure rfl)
      | text s =>
          obtain ⟨info, hhead⟩ := reads_head 3 (by omega) h
          rw [encode]
          refine hhead.bind ((Reads.take (utf8 s)).bind_pure ?_)
          rw [text?_utf8]
      | array items =>
          obtain ⟨info, hhead⟩ := reads_head 4 (by omega) h.1
          rw [encode, encodeItems_eq]
          exact hhead.bind
            ((reads_many_map fun item hitem => ih item (h.2 item hitem)).bind_pure rfl)
      | map entries =>
          obtain ⟨info, hhead⟩ := reads_head 5 (by omega) h.1
          rw [encode, encodeEntries_eq]
          refine hhead.bind ((reads_many_map fun entry hentry => ?_).bind_pure rfl)
          obtain ⟨hkey, hvalue⟩ := h.2 entry hentry
          exact (ih _ hkey).bind ((ih _ hvalue).bind_pure rfl)
      | bool b =>
          rw [encode]
          cases b
          · exact (reads_shortHead 7 20 (by omega) (by omega)).bind_pure rfl
          · exact (reads_shortHead 7 21 (by omega) (by omega)).bind_pure rfl
      | null =>
          rw [encode]
          exact (reads_shortHead 7 22 (by omega) (by omega)).bind_pure rfl
      | float bits =>
          rw [encode]
          have hbits : bits < 256 ^ 2 ^ 3 := lt_of_lt_of_eq h (by norm_num)
          exact (reads_longHead 7 3 (by omega) (by omega) hbits).bind_pure rfl

end Cbor

end Libwebauthn
