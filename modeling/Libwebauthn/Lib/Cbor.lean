/-
  Libwebauthn.Lib.Cbor — CBOR data items and their shortest encoding.

  A head is a major type with an unsigned argument, written with the fewest
  bytes that hold the argument.  Arrays and maps have definite lengths; the
  entries of a map are written in the order they are given.
-/
import Libwebauthn.Lib.Bytes

namespace Libwebauthn

/-- A CBOR data item. -/
inductive Cbor where
  | uint (n : Nat)
  /-- The integer `-1 - n`. -/
  | nint (n : Nat)
  | bytes (bs : Bytes)
  | text (s : String)
  | array (items : List Cbor)
  | map (entries : List (Cbor × Cbor))
  | bool (b : Bool)
  | null
  /-- A double-precision float, by its bits. -/
  | float (bits : Nat)
  deriving Repr

/-- The UTF-8 bytes of a string. -/
def utf8 (s : String) : Bytes := s.toUTF8.data.toList

namespace Cbor

/-- The head of an item: major type and argument. -/
def head (major n : Nat) : Bytes :=
  if n < 24 then [UInt8.ofNat (major * 32 + n)]
  else if n < 256 then UInt8.ofNat (major * 32 + 24) :: beEncode 1 n
  else if n < 65536 then UInt8.ofNat (major * 32 + 25) :: beEncode 2 n
  else if n < 4294967296 then UInt8.ofNat (major * 32 + 26) :: beEncode 4 n
  else UInt8.ofNat (major * 32 + 27) :: beEncode 8 n

/-- An integer of either sign. -/
def int : Int → Cbor
  | .ofNat n => .uint n
  | .negSucc n => .nint n

mutual

/-- The encoding of an item. -/
def encode : Cbor → Bytes
  | .uint n => head 0 n
  | .nint n => head 1 n
  | .bytes bs => head 2 bs.length ++ bs
  | .text s => head 3 (utf8 s).length ++ utf8 s
  | .array items => head 4 items.length ++ encodeItems items
  | .map entries => head 5 entries.length ++ encodeEntries entries
  | .bool b => [if b then 0xF5 else 0xF4]
  | .null => [0xF6]
  | .float bits => 0xFB :: beEncode 8 bits

def encodeItems : List Cbor → Bytes
  | [] => []
  | item :: items => encode item ++ encodeItems items

def encodeEntries : List (Cbor × Cbor) → Bytes
  | [] => []
  | (key, value) :: entries => encode key ++ encode value ++ encodeEntries entries

end

/-- A map entry that is left out when there is no value. -/
def entry? (key : Cbor) (value : Option Cbor) : List (Cbor × Cbor) :=
  (value.map fun v => (key, v)).toList

theorem encodeEntries_append (entries entries' : List (Cbor × Cbor)) :
    encodeEntries (entries ++ entries') = encodeEntries entries ++ encodeEntries entries' := by
  induction entries with
  | nil => rfl
  | cons entry entries ih =>
      obtain ⟨key, value⟩ := entry
      show encode key ++ encode value ++ encodeEntries (entries ++ entries') = _
      rw [ih]
      simp only [encodeEntries, List.append_assoc]

/-- What only depends on how many entries there are, and how long they are. -/
theorem length_encode_map_congr {entries entries' : List (Cbor × Cbor)}
    (hcount : entries.length = entries'.length)
    (hlength : (encodeEntries entries).length = (encodeEntries entries').length) :
    (encode (.map entries)).length = (encode (.map entries')).length := by
  simp only [encode, List.length_append]
  rw [hcount, hlength]

theorem length_encode_bytes_congr {bs bs' : Bytes} (h : bs.length = bs'.length) :
    (encode (.bytes bs)).length = (encode (.bytes bs')).length := by
  simp only [encode, List.length_append]
  rw [h]

theorem length_encodeEntries_optional (key : Cbor) (value : Option Cbor) :
    (encodeEntries ( entry? key value)).length
      = value.elim 0 fun v => (encode key).length + (encode v).length := by
  cases value with
  | none => rfl
  | some v =>
      show (encode key ++ encode v ++ []).length = (encode key).length + (encode v).length
      rw [List.append_nil, List.length_append]

end Cbor

end Libwebauthn
