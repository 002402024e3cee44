/-
  Libwebauthn.Lib.Der — distinguished encodings.

  An element is a tag, the length of its content in as few octets as it takes,
  and the content.  `readTlv tag` takes one element with that tag off the front
  of a byte string, and `readUint` an INTEGER that is not negative.

    • `reads_tlv` — an element is read as its content;
    • `reads_uint` — the INTEGER that is written for the bytes of a number is
      read as that number, and `uintContent_congr` — is the only one;
    • `readPublicKeyInfo_toDer` — and a SubjectPublicKeyInfo as what it encodes.
-/
import Libwebauthn.Lib.Bytes
import Libwebauthn.Lib.Reader

namespace Libwebauthn

namespace Der

open Reader

/-! ## §1. Lengths. -/

/-- The octets behind the first of a length. -/
def lengthSize (n : Nat) : Nat :=
  if n < 0x80 then 0 else if n < 256 then 1 else if n < 256 ^ 2 then 2
  else if n < 256 ^ 3 then 3 else 4

/-- A length, in as few octets as it takes. -/
def lengthOctets (n : Nat) : Bytes :=
  if n < 0x80 then [UInt8.ofNat n]
  else UInt8.ofNat (0x80 + lengthSize n) :: beEncode (lengthSize n) n

/-- Four octets are enough for any length that is written here. -/
theorem lengthSize_le (n : Nat) : lengthSize n ≤ 4 := by
  unfold lengthSize
  repeat' split
  all_goals omega

/-- A long length fits in the octets that are counted for it. -/
theorem lt_pow_lengthSize {n : Nat} (hlong : ¬ n < 0x80) (hn : n < 256 ^ 4) :
    n < 256 ^ lengthSize n := by
  unfold lengthSize
  rw [if_neg hlong]
  repeat' split
  all_goals omega

/-- A length of at most four octets, refused when it takes fewer. -/
def readLength : Reader UInt8 Nat := do
  let first ← next
  if first.toNat < 0x80 then pure first.toNat
  else do
    let octets ← take (first.toNat - 0x80)
    if lengthOctets (beDecode octets) = first :: octets then pure (beDecode octets)
    else fail

/-- A length is read back, in the short form and in the long one. -/
theorem reads_readLength {n : Nat} (hn : n < 256 ^ 4) : Reads readLength (lengthOctets n) n := by
  unfold lengthOctets
  split
  next hshort =>
    have hbyte : (UInt8.ofNat n).toNat = n := by
      rw [UInt8.toNat_ofNat']
      omega
    refine (Reads.next _).bind_pure ?_
    rw [hbyte, if_pos hshort]
  next hlong =>
    have hsize := lengthSize_le n
    have hbyte : (UInt8.ofNat (0x80 + lengthSize n)).toNat = 0x80 + lengthSize n := by
      rw [UInt8.toNat_ofNat']
      omega
    have hdecode := beDecode_beEncode_of_lt (lt_pow_lengthSize hlong hn)
    show Reads _ ([_] ++ beEncode (lengthSize n) n) n
    refine (Reads.next _).bind ?_
    rw [hbyte, if_neg (by omega), Nat.add_sub_cancel_left]
    refine (Reads.take_of_length (beEncode_length _ _)).bind_pure ?_
    rw [hdecode, if_pos]
    unfold lengthOctets
    rw [if_neg hlong]

/-! ## §2. Elements. -/

/-- An element: its tag, the length of its content, and the content. -/
def tlv (tag : UInt8) (content : Bytes) : Bytes :=
  tag :: (lengthOctets content.length ++ content)

/-- An element is longer than its content. -/
theorem length_lt_tlv (tag : UInt8) (content : Bytes) :
    content.length < (tlv tag content).length := by
  rw [tlv, List.length_cons, List.length_append]
  omega

/-- An element of any tag. -/
structure Any where
  tag : UInt8
  content : Bytes
  deriving Repr, DecidableEq

def Any.toDer (any : Any) : Bytes := tlv any.tag any.content

def readAny : Reader UInt8 Any := do
  let tag ← next
  let length ← readLength
  let content ← take length
  pure ⟨tag, content⟩

/-- The content of the next element, which has this tag. -/
def readTlv (tag : UInt8) : Reader UInt8 Bytes := do
  let any ← readAny
  if any.tag = tag then pure any.content else fail

/-- An element of any tag is read as its tag and its content. -/
theorem reads_any {any : Any} (h : any.content.length < 256 ^ 4) :
    Reads readAny any.toDer any := by
  show Reads _ ([any.tag] ++ (lengthOctets any.content.length ++ any.content)) any
  exact (Reads.next _).bind <| (reads_readLength h).bind <|
    (Reads.take_of_length rfl).bind_pure rfl

/-- And one of a given tag as its content. -/
theorem reads_tlv (tag : UInt8) {content : Bytes} (h : content.length < 256 ^ 4) :
    Reads (readTlv tag) (tlv tag content) content :=
  (@reads_any ⟨tag, content⟩ h).bind_pure (if_pos rfl)

/-! ## §3. Numbers. -/

def integerTag : UInt8 := 0x02

/-- Without leading zeros, but for the last byte. -/
def stripLeadingZeroes : Bytes → Bytes
  | 0 :: b :: bs => stripLeadingZeroes (b :: bs)
  | bs => bs

/-- The content of the INTEGER for the bytes of a number that is not negative:
a first byte with the sign bit stands behind a zero. -/
def uintContent (bytes : Bytes) : Bytes :=
  match stripLeadingZeroes bytes with
  | [] => []
  | b :: bs => if 0x80 ≤ b.toNat then 0 :: b :: bs else b :: bs

def uint (bytes : Bytes) : Bytes := tlv integerTag (uintContent bytes)

/-- The next INTEGER, refused when it is negative or is not written as short
as it can be. -/
def readUint : Reader UInt8 Nat := do
  let content ← readTlv integerTag
  if content ≠ [] ∧ uintContent content = content then pure (beDecode content) else fail

theorem beDecode_zero_cons (bs : Bytes) : beDecode (0 :: bs) = beDecode bs := rfl

/-- Leading zeros take no part in the number. -/
theorem beDecode_stripLeadingZeroes (bytes : Bytes) :
    beDecode (stripLeadingZeroes bytes) = beDecode bytes := by
  induction bytes with
  | nil => rfl
  | cons b bs ih =>
      unfold stripLeadingZeroes
      split
      next heq =>
        obtain ⟨rfl, rfl⟩ := List.cons.inj heq
        rw [ih, beDecode_zero_cons]
      next => rfl

/-- Nor does the zero in front of a sign bit. -/
theorem beDecode_uintContent (bytes : Bytes) : beDecode (uintContent bytes) = beDecode bytes := by
  rw [← beDecode_stripLeadingZeroes bytes]
  unfold uintContent
  split
  next hnil => rw [hnil]
  next hcons =>
    rw [hcons]
    split
    · exact beDecode_zero_cons _
    · rfl

theorem stripLeadingZeroes_eq_nil_iff {bytes : Bytes} :
    stripLeadingZeroes bytes = [] ↔ bytes = [] := by
  induction bytes with
  | nil => exact Iff.rfl
  | cons b bs ih =>
      unfold stripLeadingZeroes
      split
      next heq =>
        obtain ⟨rfl, rfl⟩ := List.cons.inj heq
        rw [ih]
        exact ⟨fun h => (by cases h), fun h => (by cases h)⟩
      next => exact Iff.rfl

/-- Only no bytes at all have no content; a zero keeps its byte. -/
theorem uintContent_eq_nil_iff {bytes : Bytes} : uintContent bytes = [] ↔ bytes = [] := by
  unfold uintContent
  split
  next hnil => exact ⟨fun _ => stripLeadingZeroes_eq_nil_iff.mp hnil, fun _ => rfl⟩
  next hcons =>
    refine ⟨fun h => ?_, fun h => ?_⟩
    · split at h <;> cases h
    · rw [h] at hcons
      cases hcons

/-- What is left starts with no zero, or is one zero. -/
theorem head_stripLeadingZeroes {bytes : Bytes} {b : UInt8} {bs : Bytes}
    (h : stripLeadingZeroes bytes = b :: bs) : b ≠ 0 ∨ bs = [] := by
  induction bytes with
  | nil => cases h
  | cons first rest ih =>
      unfold stripLeadingZeroes at h
      split at h
      next heq =>
        obtain ⟨rfl, rfl⟩ := List.cons.inj heq
        exact ih h
      next hother =>
        obtain ⟨rfl, rfl⟩ := List.cons.inj h
        by_cases hzero : first = 0
        · cases rest with
          | nil => exact Or.inr rfl
          | cons second rest => exact absurd (by rw [hzero]) (hother second rest)
        · exact Or.inl hzero

/-- Without a leading zero there is nothing to strip. -/
theorem stripLeadingZeroes_of_head {b : UInt8} {bs : Bytes} (h : b ≠ 0 ∨ bs = []) :
    stripLeadingZeroes (b :: bs) = b :: bs := by
  unfold stripLeadingZeroes
  split
  next heq =>
    obtain ⟨rfl, rfl⟩ := List.cons.inj heq
    rcases h with h | h
    · exact absurd rfl h
    · cases h
  next => rfl

theorem stripLeadingZeroes_stripLeadingZeroes (bytes : Bytes) :
    stripLeadingZeroes (stripLeadingZeroes bytes) = stripLeadingZeroes bytes := by
  cases hstrip : stripLeadingZeroes bytes with
  | nil => rfl
  | cons b bs => exact stripLeadingZeroes_of_head (head_stripLeadingZeroes hstrip)

/-- Stripping first makes no difference. -/
theorem uintContent_stripLeadingZeroes (bytes : Bytes) :
    uintContent (stripLeadingZeroes bytes) = uintContent bytes := by
  unfold uintContent
  rw [stripLeadingZeroes_stripLeadingZeroes]

theorem length_stripLeadingZeroes_le_uintContent (bytes : Bytes) :
    (stripLeadingZeroes bytes).length ≤ (uintContent bytes).length := by
  unfold uintContent
  split
  next hnil => rw [hnil]
  next hcons =>
    rw [hcons]
    split
    · exact Nat.le_succ _
    · exact Nat.le_refl _

/-- The content of an INTEGER is written as it is. -/
theorem uintContent_uintContent (bytes : Bytes) :
    uintContent (uintContent bytes) = uintContent bytes := by
  cases hstrip : stripLeadingZeroes bytes with
  | nil =>
      rw [stripLeadingZeroes_eq_nil_iff.mp hstrip]
      rfl
  | cons b bs =>
      have hcontent : uintContent bytes = if 0x80 ≤ b.toNat then 0 :: b :: bs else b :: bs := by
        unfold uintContent
        rw [hstrip]
      have hhead := stripLeadingZeroes_of_head (head_stripLeadingZeroes hstrip)
      have hsame : ∀ bytes', stripLeadingZeroes bytes' = b :: bs →
          uintContent bytes' = uintContent bytes := by
        intro bytes' hstrip'
        unfold uintContent
        rw [hstrip, hstrip']
      refine hsame _ ?_
      rw [hcontent]
      split
      · show stripLeadingZeroes (b :: bs) = _
        exact hhead
      · exact hhead

/-- A number whose bytes start with no zero has as many as it takes. -/
theorem length_le_of_beDecode {b b' : UInt8} {bs bs' : Bytes} (hhead : b ≠ 0 ∨ bs = [])
    (h : beDecode (b :: bs) = beDecode (b' :: bs')) : bs.length ≤ bs'.length := by
  rcases hhead with hb | rfl
  · have hpos : 0 < b.toNat := Nat.pos_of_ne_zero fun hzero => hb (UInt8.toNat_inj.mp hzero)
    have hvalue : beDecode (b :: bs) = b.toNat * 256 ^ bs.length + beDecode bs := by
      show bs.foldl beStep (beStep 0 b) = _
      rw [foldl_beStep_add, beStep, Nat.zero_mul, Nat.zero_add]
    have hle : 256 ^ bs.length ≤ beDecode (b' :: bs') := by
      rw [← h, hvalue]
      exact (Nat.le_mul_of_pos_left _ hpos).trans (Nat.le_add_right _ _)
    have hlt := Nat.lt_of_le_of_lt hle (beDecode_lt (b' :: bs'))
    exact Nat.le_of_lt_succ ((Nat.pow_lt_pow_iff_right (by decide)).mp hlt)
  · exact Nat.zero_le _

/-- The INTEGER of a number does not depend on the bytes that it came in. -/
theorem uintContent_congr {bytes bytes' : Bytes} (hne : bytes ≠ []) (hne' : bytes' ≠ [])
    (h : beDecode bytes = beDecode bytes') : uintContent bytes = uintContent bytes' := by
  have hstrip : stripLeadingZeroes bytes = stripLeadingZeroes bytes' := by
    rw [← beDecode_stripLeadingZeroes bytes, ← beDecode_stripLeadingZeroes bytes'] at h
    obtain ⟨b, bs, hcons⟩ :=
      List.exists_cons_of_ne_nil fun hnil => hne (stripLeadingZeroes_eq_nil_iff.mp hnil)
    obtain ⟨b', bs', hcons'⟩ :=
      List.exists_cons_of_ne_nil fun hnil => hne' (stripLeadingZeroes_eq_nil_iff.mp hnil)
    rw [hcons, hcons'] at h ⊢
    have hlength : (b :: bs).length = (b' :: bs').length := congrArg Nat.succ <| Nat.le_antisymm
      (length_le_of_beDecode (head_stripLeadingZeroes hcons) h)
      (length_le_of_beDecode (head_stripLeadingZeroes hcons') h.symm)
    rw [← beEncode_beDecode (b :: bs), ← beEncode_beDecode (b' :: bs'), hlength, h]
  unfold uintContent
  rw [hstrip]

/-- A number that has bytes is read as itself, whatever leading zeros it came
with. -/
theorem reads_uint {bytes : Bytes} (hne : bytes ≠ [])
    (hlength : (uintContent bytes).length < 256 ^ 4) :
    Reads readUint (uint bytes) (beDecode bytes) := by
  refine (reads_tlv integerTag hlength).bind_pure ?_
  rw [if_pos ⟨fun h => hne (uintContent_eq_nil_iff.mp h), uintContent_uintContent bytes⟩,
    beDecode_uintContent]

/-- There is no number without a byte. -/
theorem readUint_uint_nil (rest : Bytes) : readUint (uint [] ++ rest) = none := by
  refine Option.eq_none_iff_forall_ne_some.mpr fun cut h => ?_
  obtain ⟨content, mid, hread, hbody⟩ := bind_eq_some_iff.mp h
  have hempty : readTlv integerTag (uint [] ++ rest) = some ([], rest) :=
    reads_tlv integerTag (Nat.pow_pos (by decide)) rest
  obtain ⟨rfl, rfl⟩ := Prod.mk.inj (Option.some.inj (hempty.symm.trans hread))
  rw [if_neg (fun h => h.1 rfl)] at hbody
  cases hbody

/-! ## §4. Public keys. -/

def bitStringTag : UInt8 := 0x03

def nullTag : UInt8 := 0x05

def objectIdentifierTag : UInt8 := 0x06

def sequenceTag : UInt8 := 0x30

/-- The groups of an arc before its last. -/
def highGroups : (fuel : Nat) → (n : Nat) → Bytes
  | 0, _ => []
  | fuel + 1, n =>
      if n = 0 then [] else highGroups fuel (n / 128) ++ [UInt8.ofNat (0x80 + n % 128)]

/-- An arc of at most 32 bits, in groups of seven. -/
def arc (n : Nat) : Bytes := highGroups 4 (n / 128) ++ [UInt8.ofNat (n % 128)]

/-- The content of an OBJECT IDENTIFIER, from its arcs. -/
def oid : (arcs : List Nat) → Bytes
  | first :: second :: arcs => arc (first * 40 + second) ++ arcs.flatMap arc
  | _ => []

example : oid [1, 2, 840, 113549, 1, 1, 1] = [0x2A, 0x86, 0x48, 0x86, 0xF7, 0x0D, 1, 1, 1] := by
  decide

/-- A SubjectPublicKeyInfo: what the algorithm's OBJECT IDENTIFIER contains,
the parameters of the algorithm, and the bytes of the key. -/
structure PublicKeyInfo where
  oid : Bytes
  parameters : Option Any
  subjectPublicKey : Bytes
  deriving Repr, DecidableEq

namespace PublicKeyInfo

/-- The content of the AlgorithmIdentifier. -/
def algorithm (info : PublicKeyInfo) : Bytes :=
  tlv objectIdentifierTag info.oid ++ (info.parameters.map Any.toDer).getD []

/-- The content of a BIT STRING without unused bits. -/
def bits (info : PublicKeyInfo) : Bytes := 0 :: info.subjectPublicKey

def content (info : PublicKeyInfo) : Bytes :=
  tlv sequenceTag info.algorithm ++ tlv bitStringTag info.bits

def toDer (info : PublicKeyInfo) : Bytes := tlv sequenceTag info.content

end PublicKeyInfo

def readAlgorithm (content : Bytes) : Option (Bytes × Option Any) :=
  match readTlv objectIdentifierTag content with
  | some (oid, []) => some (oid, none)
  | some (oid, rest) => (whole readAny rest).map fun any => (oid, some any)
  | none => none

def readPublicKeyInfo (bytes : Bytes) : Option PublicKeyInfo := do
  let content ← whole (readTlv sequenceTag) bytes
  let (algorithm, rest) ← readTlv sequenceTag content
  let bits ← whole (readTlv bitStringTag) rest
  let (oid, parameters) ← readAlgorithm algorithm
  match bits with
  | 0 :: subjectPublicKey => some ⟨oid, parameters, subjectPublicKey⟩
  | _ => none

/-- The algorithm is read back, with its parameters or without. -/
theorem readAlgorithm_algorithm {info : PublicKeyInfo}
    (h : info.algorithm.length < 256 ^ 4) :
    readAlgorithm info.algorithm = some (info.oid, info.parameters) := by
  obtain ⟨oid, parameters, subjectPublicKey⟩ := info
  unfold PublicKeyInfo.algorithm at h ⊢
  dsimp only at h ⊢
  rw [List.length_append] at h
  have hoid := length_lt_tlv objectIdentifierTag oid
  have hread := @reads_tlv objectIdentifierTag oid (by omega)
    ((parameters.map Any.toDer).getD [])
  unfold readAlgorithm
  rw [hread]
  cases parameters with
  | none => rfl
  | some any =>
      have hany : any.content.length < any.toDer.length := length_lt_tlv _ _
      have hread := (@reads_any any (by
        rw [Option.map_some, Option.getD_some] at h
        omega)).whole
      rw [Option.map_some, Option.getD_some]
      split
      next heq =>
        obtain ⟨rfl, hnil⟩ := Prod.mk.inj (Option.some.inj heq)
        rw [hnil] at hany
        cases hany
      next heq =>
        obtain ⟨rfl, rfl⟩ := Prod.mk.inj (Option.some.inj heq)
        rw [hread]
        rfl
      next heq => cases heq

/-- **A public key's encoding** is read as what it encodes. -/
theorem readPublicKeyInfo_toDer {info : PublicKeyInfo} (h : info.toDer.length < 256 ^ 4) :
    readPublicKeyInfo info.toDer = some info := by
  have hcontent : info.content.length < info.toDer.length := length_lt_tlv _ _
  have hparts : info.content.length
      = (tlv sequenceTag info.algorithm).length + (tlv bitStringTag info.bits).length :=
    List.length_append
  have halgorithm := length_lt_tlv sequenceTag info.algorithm
  have hbits := length_lt_tlv bitStringTag info.bits
  unfold readPublicKeyInfo
  rw [PublicKeyInfo.toDer, (@reads_tlv sequenceTag info.content (by omega)).whole]
  show (readTlv sequenceTag (tlv sequenceTag info.algorithm ++ _)).bind _ = _
  rw [@reads_tlv sequenceTag info.algorithm (by omega) (tlv bitStringTag info.bits)]
  show (whole (readTlv bitStringTag) (tlv bitStringTag info.bits)).bind _ = _
  rw [(@reads_tlv bitStringTag info.bits (by omega)).whole]
  show (readAlgorithm info.algorithm).bind _ = _
  rw [readAlgorithm_algorithm (by omega)]
  rfl

end Der

end Libwebauthn
