/-
  Libwebauthn.Psl.DafsaFormat — the format of a `.dafsa` graph, and that
  `lookup` reads it.

  A node is a run of characters that ends in a return byte, or in a character
  with the high bit set, which a list of children follows.  The offsets of the
  list are distances from one child to the next, of one, two or three bytes; the
  high bit of the first byte ends the list.

    • `Children`, `Spells` — the format as relations on the bytes;
    • `lookup_eq_some_iff` — `lookup` finds exactly what the graph spells.
-/
import Libwebauthn.Psl.Dafsa

namespace Libwebauthn.Psl

/-! ## §1. The format. -/

/-- A character of a key. -/
def IsChar (b : UInt8) : Prop := 0x20 ≤ b ∧ b < 0x80

instance (b : UInt8) : Decidable (IsChar b) := inferInstanceAs (Decidable (_ ∧ _))

/-- The end of a key. -/
def IsReturn (b : UInt8) : Prop := 0x80 ≤ b ∧ b < 0xA0

instance (b : UInt8) : Decidable (IsReturn b) := inferInstanceAs (Decidable (_ ∧ _))

/-- An offset at `pos`: its distance, its size, and whether it ends a list.
The two bits under the highest one tell the size. -/
inductive OffsetAt (graph : Bytes) (pos : Nat) : Nat → Nat → Bool → Prop
  | short {b : UInt8} : graph[pos]? = some b → b.toNat % 128 < 64 →
      OffsetAt graph pos (b.toNat % 128) 1 (128 ≤ b.toNat)
  | medium {b lo : UInt8} : graph[pos]? = some b → graph[pos + 1]? = some lo →
      64 ≤ b.toNat % 128 → b.toNat % 128 < 96 →
      OffsetAt graph pos ((b.toNat % 128 - 64) * 256 + lo.toNat) 2 (128 ≤ b.toNat)
  | long {b hi lo : UInt8} : graph[pos]? = some b → graph[pos + 1]? = some hi →
      graph[pos + 2]? = some lo → 96 ≤ b.toNat % 128 →
      OffsetAt graph pos ((b.toNat % 128 - 96) * 65536 + hi.toNat * 256 + lo.toNat) 3
        (128 ≤ b.toNat)

/-- The places of the children that the list at `pos` names, counted from
`base`. -/
inductive Children (graph : Bytes) : Nat → Nat → List Nat → Prop
  | last {pos base distance size : Nat} : OffsetAt graph pos distance size true →
      Children graph pos base [base + distance]
  | more {pos base distance size : Nat} {places : List Nat} :
      OffsetAt graph pos distance size false →
      Children graph (pos + size) (base + distance) places →
      Children graph pos base ((base + distance) :: places)

/-- The node at `place` spells `key`, and its flags are `flags`. -/
inductive Spells (graph : Bytes) : Nat → Bytes → UInt8 → Prop
  | value {place : Nat} {b : UInt8} : graph[place]? = some b → IsReturn b →
      Spells graph place [] (b &&& 0x0F)
  | char {place : Nat} {c flags : UInt8} {key : Bytes} : graph[place]? = some c →
      IsChar c → Spells graph (place + 1) key flags → Spells graph place (c :: key) flags
  | endChar {place child : Nat} {c flags : UInt8} {key : Bytes} {places : List Nat} :
      graph[place]? = some (c ^^^ 0x80) → IsChar c →
      Children graph (place + 1) (place + 1) places → child ∈ places →
      Spells graph child key flags → Spells graph place (c :: key) flags

/-- The character a node starts with; none for a return byte. -/
def firstChar (graph : Bytes) (place : Nat) : Option UInt8 :=
  graph[place]?.bind fun b => if IsReturn b then none else some (b &&& 0x7F)

/-- A well-formed node, with everything under it. -/
inductive Node (graph : Bytes) : Nat → Prop
  | value {place : Nat} {b : UInt8} : graph[place]? = some b → IsReturn b → Node graph place
  | char {place : Nat} {c : UInt8} : graph[place]? = some c → IsChar c →
      Node graph (place + 1) → Node graph place
  | endChar {place : Nat} {c : UInt8} {places : List Nat} :
      graph[place]? = some (c ^^^ 0x80) → IsChar c →
      Children graph (place + 1) (place + 1) places →
      (places.map (firstChar graph)).Nodup →
      (∀ child ∈ places, Node graph child) → Node graph place

/-- The children of one list: well-formed nodes that start differently. -/
structure Siblings (graph : Bytes) (pos : Nat) (places : List Nat) : Prop where
  children : Children graph pos pos places
  distinct : (places.map (firstChar graph)).Nodup
  node : ∀ child ∈ places, Node graph child

def WellFormed (graph : Bytes) : Prop := ∃ places, Siblings graph 0 places

/-- The graph maps `key` to `flags`. -/
def HasKey (graph key : Bytes) (flags : UInt8) : Prop :=
  ∃ places, Children graph 0 0 places ∧ ∃ child ∈ places, Spells graph child key flags

/-! ## §2. Bytes. -/

/-- A property of all bytes is checked byte by byte. -/
@[elab_as_elim] theorem forall_byte {P : UInt8 → Prop}
    (h : ∀ n : Fin 256, P (UInt8.ofNat n)) (b : UInt8) : P b := by
  have hb := h ⟨b.toNat, b.toNat_lt⟩
  rwa [UInt8.ofNat_toNat] at hb

section Bytes

variable {b c : UInt8}

/-- A character, and the same with the high bit set. -/
theorem char_bits : IsChar c →
    (c &&& 0x80 = 0 ∧ c &&& 0x7F = c ∧ ¬IsReturn c)
      ∧ (c ^^^ 0x80) &&& 0x80 ≠ 0 ∧ (c ^^^ 0x80) &&& 0x7F = c ∧ ¬IsReturn (c ^^^ 0x80) := by
  refine forall_byte ?_ c
  decide +kernel

/-- A return byte is no character with the high bit set. -/
theorem return_bits :
    (IsReturn b ↔ b &&& 0xE0 = 0x80) ∧ (IsReturn b → b &&& 0x80 ≠ 0 ∧ ¬IsChar (b ^^^ 0x80)) := by
  refine forall_byte ?_ b
  decide +kernel

/-- The first byte of an offset: the bits that tell its size and the end of its
list, and those of the distance. -/
theorem offset_bits :
    (b &&& 0x80 ≠ 0 ↔ 128 ≤ b.toNat)
      ∧ (b &&& 0x60 = 0x60 ↔ 96 ≤ b.toNat % 128)
      ∧ (b &&& 0x60 = 0x40 ↔ 64 ≤ b.toNat % 128 ∧ b.toNat % 128 < 96)
      ∧ (b.toNat % 128 < 64 → (b &&& 0x3F).toNat = b.toNat % 128)
      ∧ (64 ≤ b.toNat % 128 → b.toNat % 128 < 96 →
          (b &&& 0x1F).toNat = b.toNat % 128 - 64)
      ∧ (96 ≤ b.toNat % 128 → (b &&& 0x1F).toNat = b.toNat % 128 - 96) := by
  refine forall_byte ?_ b
  decide +kernel

/-- The three high bits tell a return value from a character. -/
theorem isReturn_iff : IsReturn b ↔ b &&& 0xE0 = 0x80 := return_bits.1

theorem and_high_return (h : IsReturn b) : b &&& 0x80 ≠ 0 := (return_bits.2 h).1

/-- A return value is no last character either. -/
theorem not_isChar_return (h : IsReturn b) : ¬IsChar (b ^^^ 0x80) := (return_bits.2 h).2

theorem and_high_char (h : IsChar c) : c &&& 0x80 = 0 := (char_bits h).1.1

theorem and_low_char (h : IsChar c) : c &&& 0x7F = c := (char_bits h).1.2.1

theorem not_isReturn_char (h : IsChar c) : ¬IsReturn c := (char_bits h).1.2.2

theorem and_high_endChar (h : IsChar c) : (c ^^^ 0x80) &&& 0x80 ≠ 0 := (char_bits h).2.1

/-- The high bit marks the last character of a label and is no part of it. -/
theorem and_low_endChar (h : IsChar c) : (c ^^^ 0x80) &&& 0x7F = c := (char_bits h).2.2.1

/-- A last character is not taken for a return value. -/
theorem not_isReturn_endChar (h : IsChar c) : ¬IsReturn (c ^^^ 0x80) := (char_bits h).2.2.2

/-- The high bit is put on and taken off by the same step. -/
theorem xor_xor_high (b : UInt8) : b ^^^ 0x80 ^^^ 0x80 = b := by
  rw [UInt8.xor_assoc]
  exact UInt8.xor_zero

/-- The high bit marks the last offset of a list. -/
theorem and_end_iff : b &&& 0x80 ≠ 0 ↔ 128 ≤ b.toNat := offset_bits.1

/-- Both size bits: an offset of three bytes. -/
theorem and_size_long_iff : b &&& 0x60 = 0x60 ↔ 96 ≤ b.toNat % 128 := offset_bits.2.1

/-- The first size bit alone: an offset of two bytes. -/
theorem and_size_medium_iff :
    b &&& 0x60 = 0x40 ↔ 64 ≤ b.toNat % 128 ∧ b.toNat % 128 < 96 :=
  offset_bits.2.2.1

/-- The distance of a short offset is the rest of the byte. -/
theorem and_distance_short (h : b.toNat % 128 < 64) : (b &&& 0x3F).toNat = b.toNat % 128 :=
  offset_bits.2.2.2.1 h

/-- The distance of a medium offset begins with the rest of its first byte. -/
theorem and_distance_medium (h : 64 ≤ b.toNat % 128) (h' : b.toNat % 128 < 96) :
    (b &&& 0x1F).toNat = b.toNat % 128 - 64 :=
  offset_bits.2.2.2.2.1 h h'

theorem and_distance_long (h : 96 ≤ b.toNat % 128) :
    (b &&& 0x1F).toNat = b.toNat % 128 - 96 :=
  offset_bits.2.2.2.2.2 h

end Bytes

/-! ## §3. Offsets. -/

section Offsets

variable {graph : Bytes} {pos base distance size : Nat} {ends : Bool}

/-- Two bytes of a number do not overlap. -/
theorem shift_or (n m k : Nat) (h : m < 2 ^ k) : n <<< k ||| m = n * 2 ^ k + m := by
  rw [← Nat.shiftLeft_add_eq_or_of_lt h, Nat.shiftLeft_eq]

section

variable {b hi lo : UInt8}

/-- The three sizes of an offset. -/
theorem distanceAt_short (hshort : b.toNat % 128 < 64) :
    distanceAt graph pos b = some (b.toNat % 128, 1) := by
  have hlong : ¬b &&& 0x60 = 0x60 := by
    rw [and_size_long_iff]
    omega
  have hmedium : ¬b &&& 0x60 = 0x40 := by
    rw [and_size_medium_iff]
    omega
  unfold distanceAt
  rw [if_neg hlong, if_neg hmedium, and_distance_short hshort]

/-- A medium offset read: five bits and one byte. -/
theorem distanceAt_medium (hlo : graph[pos + 1]? = some lo) (hle : 64 ≤ b.toNat % 128)
    (hlt : b.toNat % 128 < 96) :
    distanceAt graph pos b = some ((b.toNat % 128 - 64) * 256 + lo.toNat, 2) := by
  have hlong : ¬b &&& 0x60 = 0x60 := by
    rw [and_size_long_iff]
    omega
  have hdistance : (b &&& 0x1F).toNat <<< 8 ||| lo.toNat
      = (b.toNat % 128 - 64) * 256 + lo.toNat := by
    rw [shift_or _ _ _ lo.toNat_lt, and_distance_medium hle hlt]
    omega
  unfold distanceAt
  simp only [hlo, Option.bind_eq_bind, Option.bind_some, if_neg hlong,
    if_pos (and_size_medium_iff.mpr ⟨hle, hlt⟩), hdistance]

/-- A long offset read: five bits and two bytes. -/
theorem distanceAt_long (hhi : graph[pos + 1]? = some hi) (hlo : graph[pos + 2]? = some lo)
    (hle : 96 ≤ b.toNat % 128) :
    distanceAt graph pos b
      = some ((b.toNat % 128 - 96) * 65536 + hi.toNat * 256 + lo.toNat, 3) := by
  have hlow : hi.toNat <<< 8 ||| lo.toNat = hi.toNat * 256 + lo.toNat :=
    shift_or _ _ _ lo.toNat_lt
  have hlow_lt : hi.toNat * 256 + lo.toNat < 2 ^ 16 := by
    have := hi.toNat_lt
    have := lo.toNat_lt
    omega
  have hdistance : (b &&& 0x1F).toNat <<< 16 ||| hi.toNat <<< 8 ||| lo.toNat
      = (b.toNat % 128 - 96) * 65536 + hi.toNat * 256 + lo.toNat := by
    rw [Nat.or_assoc, hlow, shift_or _ _ _ hlow_lt, and_distance_long hle]
    omega
  unfold distanceAt
  simp only [hhi, hlo, Option.bind_eq_bind, Option.bind_some,
    if_pos (and_size_long_iff.mpr hle), hdistance]

/-- The next child is as far behind the last as its offset says; the last
offset of a list ends it. -/
theorem getNextOffset_of_distanceAt (hb : graph[pos]? = some b)
    (hdistance : distanceAt graph pos b = some (distance, size))
    (hlt : base + distance < 2 ^ 64) :
    getNextOffset graph pos base
      = some (if 128 ≤ b.toNat then graph.length else pos + size, base + distance) := by
  unfold getNextOffset
  simp only [hb, Option.bind_eq_bind, Option.bind_some, hdistance, checkedAdd, if_pos hlt,
    and_end_iff]

end

/-- **Reading an offset** of the format. -/
theorem getNextOffset_of_offsetAt (h : OffsetAt graph pos distance size ends)
    (hlt : base + distance < 2 ^ 64) :
    getNextOffset graph pos base
      = some (if ends then graph.length else pos + size, base + distance) := by
  cases h with
  | short hb hshort =>
      rw [getNextOffset_of_distanceAt hb (distanceAt_short hshort) hlt]
      simp only [decide_eq_true_eq]
  | medium hb hlo hle hlt' =>
      rw [getNextOffset_of_distanceAt hb (distanceAt_medium hlo hle hlt') hlt]
      simp only [decide_eq_true_eq]
  | long hb hhi hlo hle =>
      rw [getNextOffset_of_distanceAt hb (distanceAt_long hhi hlo hle) hlt]
      simp only [decide_eq_true_eq]

/-- Bytes are one offset only. -/
theorem OffsetAt.unique {distance' size' : Nat} {ends' : Bool}
    (h : OffsetAt graph pos distance size ends)
    (h' : OffsetAt graph pos distance' size' ends') :
    distance = distance' ∧ size = size' ∧ ends = ends' := by
  cases h <;> cases h' <;> simp_all <;> omega

/-- A node has one list of children. -/
theorem Children.unique {places places' : List Nat} (h : Children graph pos base places)
    (h' : Children graph pos base places') : places = places' := by
  induction h generalizing places' with
  | last hoffset =>
      cases h' with
      | last hoffset' => rw [(hoffset.unique hoffset').1]
      | more hoffset' _ => cases (hoffset.unique hoffset').2.2
  | more hoffset _ ih =>
      cases h' with
      | last hoffset' => cases (hoffset.unique hoffset').2.2
      | more hoffset' hrest =>
          obtain ⟨rfl, rfl, -⟩ := hoffset.unique hoffset'
          rw [ih hrest]

end Offsets

/-! ## §4. One turn of the walk. -/

section Visits

variable {graph key : Bytes} {place : Nat} {flags : UInt8}

/-- The end of a label is the high bit. -/
theorem isEol_iff {b : UInt8} (hb : graph[place]? = some b) :
    isEol graph place = true ↔ b &&& 0x80 ≠ 0 := by
  unfold isEol
  rw [hb, Option.any_some, decide_eq_true_eq]

theorem isMatch_iff {b k : UInt8} (hb : graph[place]? = some b) :
    isMatch graph place (k :: key) = true ↔ b = k := by
  unfold isMatch
  rw [hb, List.head?_cons, decide_eq_true_eq]

theorem isEndCharMatch_iff {b k : UInt8} (hb : graph[place]? = some b) :
    isEndCharMatch graph place (k :: key) = true ↔ b ^^^ 0x80 = k := by
  unfold isEndCharMatch
  rw [hb, List.head?_cons, decide_eq_true_eq]

theorem getReturnValue_of {b : UInt8} (hb : graph[place]? = some b) :
    getReturnValue graph place = if IsReturn b then some (b &&& 0x0F) else none := by
  unfold getReturnValue
  rw [hb, Option.bind_some]
  simp only [isReturn_iff]

/-- A key starts with the character its node starts with. -/
theorem Spells.firstChar (h : Spells graph place key flags) :
    firstChar graph place = key.head? := by
  unfold Psl.firstChar
  cases h with
  | value hb hreturn => rw [hb, Option.bind_some, if_pos hreturn, List.head?_nil]
  | char hc hchar _ =>
      rw [hc, Option.bind_some, if_neg (not_isReturn_char hchar), and_low_char hchar,
        List.head?_cons]
  | endChar hc hchar _ _ _ =>
      rw [hc, Option.bind_some, if_neg (not_isReturn_endChar hchar), and_low_endChar hchar,
        List.head?_cons]

/-- A return byte spells the end of a key only. -/
theorem spells_value_iff {b : UInt8} (hb : graph[place]? = some b) (hreturn : IsReturn b) :
    Spells graph place key flags ↔ key = [] ∧ flags = b &&& 0x0F := by
  constructor
  · intro h
    cases h with
    | value hb' _ =>
        cases hb.symm.trans hb'
        exact ⟨rfl, rfl⟩
    | char hc hchar _ =>
        cases hb.symm.trans hc
        exact absurd hreturn (not_isReturn_char hchar)
    | endChar hc hchar _ _ _ =>
        cases hb.symm.trans hc
        exact absurd hreturn (not_isReturn_endChar hchar)
  · rintro ⟨rfl, rfl⟩
    exact Spells.value hb hreturn

/-- A character of a node is the next one of the key. -/
theorem spells_char_iff {c : UInt8} (hc : graph[place]? = some c) (hchar : IsChar c) :
    Spells graph place key flags
      ↔ ∃ rest, key = c :: rest ∧ Spells graph (place + 1) rest flags := by
  constructor
  · intro h
    cases h with
    | value hb hreturn =>
        cases hc.symm.trans hb
        exact absurd hreturn (not_isReturn_char hchar)
    | char hc' _ hrest =>
        cases hc.symm.trans hc'
        exact ⟨_, rfl, hrest⟩
    | endChar hc' hchar' _ _ _ =>
        cases hc.symm.trans hc'
        exact absurd (and_high_char hchar) (and_high_endChar hchar')
  · rintro ⟨rest, rfl, hrest⟩
    exact Spells.char hc hchar hrest

/-- A character that is not the last spells what stands behind it. -/
theorem spells_char_cons_iff {c : UInt8} (hc : graph[place]? = some c) (hchar : IsChar c) :
    Spells graph place (c :: key) flags ↔ Spells graph (place + 1) key flags := by
  rw [spells_char_iff hc hchar]
  constructor
  · rintro ⟨rest, hrest, h⟩
    rw [(List.cons.inj hrest).2]
    exact h
  · intro h
    exact ⟨key, rfl, h⟩

/-- After its last character a node goes on in one of its children. -/
theorem spells_endChar_iff {c : UInt8} {places : List Nat}
    (hc : graph[place]? = some (c ^^^ 0x80)) (hchar : IsChar c)
    (hplaces : Children graph (place + 1) (place + 1) places) :
    Spells graph place key flags
      ↔ ∃ rest, key = c :: rest ∧ ∃ child ∈ places, Spells graph child rest flags := by
  constructor
  · intro h
    cases h with
    | value hb hreturn =>
        cases hc.symm.trans hb
        exact absurd hreturn (not_isReturn_endChar hchar)
    | char hc' hchar' _ =>
        cases hc.symm.trans hc'
        exact absurd (and_high_char hchar') (and_high_endChar hchar)
    | @endChar _ child c' _ rest _ hc' _ hplaces' hmem hrest =>
        have heq : c = c' := by
          have hxor := Option.some.inj (hc.symm.trans hc')
          rw [← xor_xor_high c, hxor, xor_xor_high]
        subst heq
        rw [hplaces.unique hplaces']
        exact ⟨rest, rfl, child, hmem, hrest⟩
  · rintro ⟨rest, rfl, child, hmem, hrest⟩
    exact Spells.endChar hc hchar hplaces hmem hrest

theorem getElem?_of_prefix_drop {c : UInt8} {rest : Bytes}
    (h : c :: rest <+: graph.drop place) :
    graph[place]? = some c ∧ rest <+: graph.drop (place + 1) := by
  obtain ⟨more, hmore⟩ := h
  have htail := congrArg List.tail hmore
  rw [List.tail_drop] at htail
  refine ⟨?_, more, htail⟩
  rw [← List.head?_drop, ← hmore]
  rfl

/-- A node without children spells its characters only. -/
theorem spells_run_iff {run : Bytes} {b : UInt8} (hrun : ∀ c ∈ run, IsChar c)
    (hreturn : IsReturn b) (h : run ++ [b] <+: graph.drop place) :
    Spells graph place key flags ↔ key = run ∧ flags = b &&& 0x0F := by
  induction run generalizing place key with
  | nil => exact spells_value_iff (getElem?_of_prefix_drop h).1 hreturn
  | cons c run ih =>
      obtain ⟨hc, hrest⟩ := getElem?_of_prefix_drop h
      rw [spells_char_iff hc (hrun c List.mem_cons_self)]
      constructor
      · rintro ⟨rest, rfl, hspells⟩
        rw [ih (fun d hd => hrun d (List.mem_cons_of_mem c hd)) hrest] at hspells
        exact ⟨congrArg (c :: ·) hspells.1, hspells.2⟩
      · rintro ⟨rfl, hflags⟩
        refine ⟨run, rfl, ?_⟩
        rw [ih (fun d hd => hrun d (List.mem_cons_of_mem c hd)) hrest]
        exact ⟨rfl, hflags⟩

/-- Characters in front of a return value are a node. -/
theorem node_run (run : Bytes) {b : UInt8} (hrun : ∀ c ∈ run, IsChar c)
    (hreturn : IsReturn b) (h : run ++ [b] <+: graph.drop place) : Node graph place := by
  induction run generalizing place with
  | nil => exact Node.value (getElem?_of_prefix_drop h).1 hreturn
  | cons c run ih =>
      obtain ⟨hc, hrest⟩ := getElem?_of_prefix_drop h
      exact Node.char hc (hrun c List.mem_cons_self)
        (ih (fun d hd => hrun d (List.mem_cons_of_mem c hd)) hrest)

/-- **What a turn of the loop says** about the keys under `place`. -/
def Answers (graph : Bytes) (place : Nat) (key : Bytes) : Visit → Prop
  | .next => ∀ flags, ¬Spells graph place key flags
  | .finished found => ∀ flags, Spells graph place key flags ↔ found = some flags
  | .dive pos rest =>
      (∀ c ∈ rest, IsChar c)
        ∧ ∃ places, Siblings graph pos places
          ∧ ∀ flags, Spells graph place key flags
            ↔ ∃ child ∈ places, Spells graph child rest flags

/-- Where nothing is spelt, the search goes to the next sibling, or ends once a
character was consumed. -/
theorem answers_unspelt (h : ∀ flags, ¬Spells graph place key flags) (didConsume : Bool) :
    Answers graph place key (if didConsume then .finished none else .next) := by
  split
  · intro flags
    exact ⟨fun hs => absurd hs (h flags), (by intro hs; cases hs)⟩
  · exact h

/-- Another place that spells the same. -/
theorem Answers.congr {place' : Nat} {key' : Bytes} {v : Visit}
    (h : Answers graph place' key' v)
    (hiff : ∀ flags, Spells graph place key flags ↔ Spells graph place' key' flags) :
    Answers graph place key v := by
  cases v with
  | next =>
      intro flags
      rw [hiff]
      exact h flags
  | finished found =>
      intro flags
      rw [hiff]
      exact h flags
  | dive pos rest =>
      obtain ⟨hrest, places, hplaces, hspells⟩ := h
      exact ⟨hrest, places, hplaces, fun flags => (hiff flags).trans (hspells flags)⟩

/-- The last character of a label leads to the children. -/
theorem settle_hit {k : UInt8} (h : isEndCharMatch graph place (k :: key) = true)
    (didConsume : Bool) :
    settle graph didConsume place (k :: key) = .dive (place + 1) key := by
  simp [settle, h]

/-- Any other one gives the label up. -/
theorem settle_miss {k : UInt8} (h : ¬isEndCharMatch graph place (k :: key) = true)
    (didConsume : Bool) :
    settle graph didConsume place (k :: key)
      = if didConsume then .finished none else .next := by
  simp [settle, h]

/-- At the last byte of a node. -/
theorem settle_answers (hnode : Node graph place) (hkey : ∀ c ∈ key, IsChar c)
    (hat : key = [] ∨ isEol graph place = true) (didConsume : Bool) :
    Answers graph place key (settle graph didConsume place key) := by
  -- the key is used up, or a character is left at the end of a label
  cases key with
  | nil =>
      unfold settle
      cases hnode with
      | @value _ b hb hreturn =>
          rw [getReturnValue_of hb, if_pos hreturn]
          intro flags
          rw [spells_value_iff hb hreturn, Option.some.injEq]
          exact ⟨fun h => h.2.symm, fun h => ⟨rfl, h.symm⟩⟩
      | char hc hchar _ =>
          rw [getReturnValue_of hc, if_neg (not_isReturn_char hchar)]
          apply answers_unspelt
          intro flags h
          obtain ⟨_, hnil, _⟩ := (spells_char_iff hc hchar).mp h
          cases hnil
      | endChar hc hchar hplaces _ _ =>
          rw [getReturnValue_of hc, if_neg (not_isReturn_endChar hchar)]
          apply answers_unspelt
          intro flags h
          obtain ⟨_, hnil, _⟩ := (spells_endChar_iff hc hchar hplaces).mp h
          cases hnil
  | cons k key =>
      have heol : isEol graph place = true := by
        rcases hat with hnil | heol
        · cases hnil
        · exact heol
      cases hnode with
      | @value _ b hb hreturn =>
          -- a value is no character of a key
          have hmiss : ¬isEndCharMatch graph place (k :: key) = true := by
            rw [isEndCharMatch_iff hb]
            rintro rfl
            exact not_isChar_return hreturn (hkey _ List.mem_cons_self)
          rw [settle_miss hmiss]
          apply answers_unspelt
          intro flags h
          cases ((spells_value_iff hb hreturn).mp h).1
      | char hc hchar _ =>
          exact absurd (and_high_char hchar) ((isEol_iff hc).mp heol)
      | @endChar _ c places hc hchar hplaces hdistinct hnodes =>
          by_cases hmatch : isEndCharMatch graph place (k :: key) = true
          -- the last character of the label: on to the children
          · have hk : c = k := by
              rw [isEndCharMatch_iff hc, xor_xor_high] at hmatch
              exact hmatch
            subst hk
            rw [settle_hit hmatch]
            refine ⟨fun d hd => hkey d (List.mem_cons_of_mem c hd), places,
              ⟨hplaces, hdistinct, hnodes⟩, fun flags => ?_⟩
            rw [spells_endChar_iff hc hchar hplaces]
            constructor
            · rintro ⟨rest, hrest, hchild⟩
              rw [(List.cons.inj hrest).2]
              exact hchild
            · intro hchild
              exact ⟨key, rfl, hchild⟩
          · rw [settle_miss hmatch]
            apply answers_unspelt
            intro flags h
            obtain ⟨rest, hrest, _⟩ := (spells_endChar_iff hc hchar hplaces).mp h
            apply hmatch
            rw [isEndCharMatch_iff hc, xor_xor_high]
            exact (List.cons.inj hrest).1.symm

/-- **The characters before the last byte** of a node. -/
theorem consume_answers (hkey : ∀ c ∈ key, IsChar c) :
    ∀ {place : Nat}, Node graph place →
      (consume graph place key = none → ∀ flags, ¬Spells graph place key flags)
      ∧ ∀ place' rest, consume graph place key = some (place', rest) →
        Node graph place' ∧ (∀ c ∈ rest, IsChar c)
        ∧ (rest = [] ∨ isEol graph place' = true)
        ∧ ∀ flags, Spells graph place key flags ↔ Spells graph place' rest flags := by
  -- by induction on the key: each character is the node's, and the next node has the rest
  induction key with
  | nil =>
      intro place hnode
      refine ⟨(by intro h; cases h), ?_⟩
      intro place' rest h
      cases h
      exact ⟨hnode, hkey, Or.inl rfl, fun _ => Iff.rfl⟩
  | cons k key ih =>
      intro place hnode
      -- the walk stops where a label ends
      by_cases heol : isEol graph place = true
      · have hconsume : consume graph place (k :: key) = some (place, k :: key) := by
          rw [consume, if_pos heol]
        rw [hconsume]
        refine ⟨(by intro h; cases h), ?_⟩
        intro place' rest h
        cases h
        exact ⟨hnode, hkey, Or.inr heol, fun _ => Iff.rfl⟩
      · cases hnode with
        -- a value and a last character are ends of labels
        | value hb hreturn => exact absurd ((isEol_iff hb).mpr (and_high_return hreturn)) heol
        | endChar hc hchar _ _ _ =>
            exact absurd ((isEol_iff hc).mpr (and_high_endChar hchar)) heol
        | @char _ c hc hchar hnext =>
            by_cases hmatch : isMatch graph place (k :: key) = true
            · have hk : c = k := (isMatch_iff hc).mp hmatch
              subst hk
              have hconsume : consume graph place (c :: key) = consume graph (place + 1) key := by
                simp [consume, heol, hmatch]
              have hspells : ∀ flags, Spells graph place (c :: key) flags
                  ↔ Spells graph (place + 1) key flags :=
                fun flags => spells_char_cons_iff hc hchar
              obtain ⟨hnone, hsome⟩ := ih (fun d hd => hkey d (List.mem_cons_of_mem c hd)) hnext
              rw [hconsume]
              constructor
              · intro h flags
                rw [hspells]
                exact hnone h flags
              · intro place' rest h
                obtain ⟨hnode', hrest, hat, hiff⟩ := hsome place' rest h
                exact ⟨hnode', hrest, hat, fun flags => (hspells flags).trans (hiff flags)⟩
            · have hconsume : consume graph place (k :: key) = none := by
                simp [consume, heol, hmatch]
              rw [hconsume]
              refine ⟨?_, (by intro _ _ h; cases h)⟩
              intro _ flags h
              obtain ⟨rest, hrest, _⟩ := (spells_char_iff hc hchar).mp h
              exact hmatch ((isMatch_iff hc).mpr (List.cons.inj hrest).1.symm)

/-- **One turn of the loop** is right about the keys of the child it looks
at. -/
theorem visit_answers (hnode : Node graph place) (hkey : ∀ c ∈ key, IsChar c) :
    Answers graph place key (visit graph place key) := by
  cases key with
  | nil => exact settle_answers hnode hkey (Or.inl rfl) false
  | cons k key =>
      -- at the end of a label there is nothing to consume
      by_cases heol : isEol graph place = true
      · have hvisit : visit graph place (k :: key) = settle graph false place (k :: key) := by
          simp [visit, heol]
        rw [hvisit]
        exact settle_answers hnode hkey (Or.inr heol) false
      · obtain ⟨hnone, hsome⟩ := consume_answers hkey hnode
        by_cases hmatch : isMatch graph place (k :: key) = true
        · -- the first character is tested like the ones after it
          have hconsume : consume graph place (k :: key) = consume graph (place + 1) key := by
            simp [consume, heol, hmatch]
          rw [hconsume] at hnone hsome
          cases hwent : consume graph (place + 1) key with
          | none =>
              have hvisit : visit graph place (k :: key) = .finished none := by
                simp [visit, heol, hmatch, hwent]
              rw [hvisit]
              intro flags
              exact ⟨fun h => absurd h (hnone hwent flags), (by intro h; cases h)⟩
          | some went =>
              obtain ⟨place', rest⟩ := went
              obtain ⟨hnode', hrest, hat, hiff⟩ := hsome place' rest hwent
              have hvisit : visit graph place (k :: key) = settle graph true place' rest := by
                simp [visit, heol, hmatch, hwent]
              rw [hvisit]
              exact (settle_answers hnode' hrest hat true).congr hiff
        · have hconsume : consume graph place (k :: key) = none := by
            simp [consume, heol, hmatch]
          have hvisit : visit graph place (k :: key) = .next := by
            simp [visit, heol, hmatch]
          rw [hvisit]
          exact hnone hconsume

theorem visit_eol {k : UInt8} (h : isEol graph place = true) :
    visit graph place (k :: key) = settle graph false place (k :: key) := by
  simp [visit, h]

/-- The walk leaves a list only at a child that starts like the key. -/
theorem firstChar_of_visit (hnode : Node graph place) (hkey : ∀ c ∈ key, IsChar c)
    (h : visit graph place key ≠ .next) : firstChar graph place = key.head? := by
  unfold firstChar
  -- a value only ends a key; a character that is not the key's sends the walk on
  cases hnode with
  | @value _ b hb hreturn =>
      rw [hb, Option.bind_some, if_pos hreturn]
      cases key with
      | nil => rfl
      | cons k key =>
          have hmiss : ¬isEndCharMatch graph place (k :: key) = true := by
            rw [isEndCharMatch_iff hb]
            rintro rfl
            exact not_isChar_return hreturn (hkey _ List.mem_cons_self)
          rw [visit_eol ((isEol_iff hb).mpr (and_high_return hreturn)),
            settle_miss hmiss] at h
          exact absurd rfl h
  | @char _ c hc hchar _ =>
      rw [hc, Option.bind_some, if_neg (not_isReturn_char hchar), and_low_char hchar]
      cases key with
      | nil =>
          exfalso
          apply h
          simp [visit, settle, getReturnValue_of hc, not_isReturn_char hchar]
      | cons k key =>
          have heol : ¬isEol graph place = true := by
            rw [isEol_iff hc, not_not]
            exact and_high_char hchar
          by_cases hmatch : isMatch graph place (k :: key) = true
          · rw [(isMatch_iff hc).mp hmatch, List.head?_cons]
          · exfalso
            apply h
            simp [visit, heol, hmatch]
  | @endChar _ c _ hc hchar _ _ _ =>
      rw [hc, Option.bind_some, if_neg (not_isReturn_endChar hchar), and_low_endChar hchar]
      cases key with
      | nil =>
          exfalso
          apply h
          simp [visit, settle, getReturnValue_of hc, not_isReturn_endChar hchar]
      | cons k key =>
          rw [visit_eol ((isEol_iff hc).mpr (and_high_endChar hchar))] at h
          by_cases hmatch : isEndCharMatch graph place (k :: key) = true
          · rw [isEndCharMatch_iff hc, xor_xor_high] at hmatch
            rw [hmatch, List.head?_cons]
          · rw [settle_miss hmatch] at h
            exact absurd rfl h

end Visits

/-! ## §5. The whole walk. -/

section Walk

variable {graph key : Bytes} {pos pos' base place : Nat}

/-- Without a further child the search ends with nothing. -/
theorem lookupFrom_none (h : getNextOffset graph pos base = none) :
    lookupFrom graph key pos base = none := by
  unfold lookupFrom
  split
  · rfl
  · next hsome =>
      rw [h] at hsome
      cases hsome

theorem lookupFrom_some (h : getNextOffset graph pos base = some (pos', place)) :
    lookupFrom graph key pos base
      = match visit graph place key with
        | .next => lookupFrom graph key pos' place
        | .finished flags => flags
        | .dive offset key => lookupFrom graph key offset offset := by
  rw [lookupFrom]
  split
  · next hnone =>
      rw [h] at hnone
      cases hnone
  · next hsome =>
      rw [h] at hsome
      cases hsome
      split <;> simp_all

theorem lookupFrom_end (key : Bytes) (base : Nat) :
    lookupFrom graph key graph.length base = none := by
  apply lookupFrom_none
  unfold getNextOffset
  rw [List.getElem?_eq_none (Nat.le_refl graph.length)]
  rfl

/-- A node is in the graph. -/
theorem Node.lt (h : Node graph place) : place < graph.length := by
  cases h with
  | value hb _ => exact (List.getElem?_eq_some_iff.mp hb).1
  | char hc _ _ => exact (List.getElem?_eq_some_iff.mp hc).1
  | endChar hc _ _ _ _ => exact (List.getElem?_eq_some_iff.mp hc).1

/-- **At one child of a list**: the keys under it are looked up there, the
others in the rest of the list. -/
theorem lookupFrom_child {others : List Nat} (hkey : ∀ c ∈ key, IsChar c)
    (hnext : getNextOffset graph pos base = some (pos', place)) (hnode : Node graph place)
    (hdistinct : ((place :: others).map (firstChar graph)).Nodup)
    (hothers : ∀ flags, lookupFrom graph key pos' place = some flags
      ↔ ∃ child ∈ others, Spells graph child key flags)
    (hdive : ∀ offset rest places, rest.length < key.length → (∀ c ∈ rest, IsChar c) →
      Siblings graph offset places → ∀ flags, lookupFrom graph rest offset offset = some flags
        ↔ ∃ child ∈ places, Spells graph child rest flags) (flags : UInt8) :
    lookupFrom graph key pos base = some flags
      ↔ ∃ child ∈ place :: others, Spells graph child key flags := by
  have hanswers := visit_answers hnode hkey
  -- another child that spells the key would start like this one
  have hothers_none : visit graph place key ≠ .next →
      ¬∃ child ∈ others, Spells graph child key flags := by
    rintro hvisit ⟨child, hmem, hspells⟩
    have hsame : firstChar graph child = firstChar graph place :=
      hspells.firstChar.trans (firstChar_of_visit hnode hkey hvisit).symm
    rw [List.map_cons, List.nodup_cons] at hdistinct
    exact hdistinct.1 (List.mem_map.mpr ⟨child, hmem, hsame⟩)
  rw [lookupFrom_some hnext]
  rw [List.exists_mem_cons_iff]
  cases hvisit : visit graph place key with
  | next =>
      rw [hvisit] at hanswers
      rw [hothers flags, or_iff_right (hanswers flags)]
  | finished found =>
      rw [hvisit] at hanswers
      rw [or_iff_left (hothers_none (by rw [hvisit]; intro h; cases h))]
      exact (hanswers flags).symm
  | dive offset rest =>
      rw [hvisit] at hanswers
      obtain ⟨hrest, places, hplaces, hspells⟩ := hanswers
      rw [or_iff_left (hothers_none (by rw [hvisit]; intro h; cases h)), hspells]
      exact hdive offset rest places (visit_dive_length hvisit) hrest hplaces flags

theorem lookupFrom_children {places : List Nat} (hlen : graph.length < 2 ^ 63)
    (hkey : ∀ c ∈ key, IsChar c)
    (hdive : ∀ offset rest places, rest.length < key.length → (∀ c ∈ rest, IsChar c) →
      Siblings graph offset places → ∀ flags, lookupFrom graph rest offset offset = some flags
        ↔ ∃ child ∈ places, Spells graph child rest flags)
    (hchildren : Children graph pos base places)
    (hdistinct : (places.map (firstChar graph)).Nodup)
    (hnode : ∀ child ∈ places, Node graph child) :
    ∀ flags, lookupFrom graph key pos base = some flags
      ↔ ∃ child ∈ places, Spells graph child key flags := by
  induction hchildren with
  | last hoffset =>
      have hplace := hnode _ List.mem_cons_self
      have hlt := hplace.lt
      refine lookupFrom_child hkey (getNextOffset_of_offsetAt hoffset (by omega)) hplace
        hdistinct ?_ hdive
      intro flags
      rw [if_pos rfl, lookupFrom_end]
      exact ⟨(by intro h; cases h), (by rintro ⟨_, hmem, _⟩; cases hmem)⟩
  | more hoffset _ ih =>
      have hplace := hnode _ List.mem_cons_self
      have hlt := hplace.lt
      refine lookupFrom_child hkey (getNextOffset_of_offsetAt hoffset (by omega)) hplace
        hdistinct ?_ hdive
      rw [if_neg Bool.false_ne_true]
      exact ih (List.nodup_cons.mp hdistinct).2
        fun child hmem => hnode child (List.mem_cons_of_mem _ hmem)

/-- **The walk from a list of siblings** finds what one of them spells. -/
theorem lookupFrom_siblings (hlen : graph.length < 2 ^ 63) {places : List Nat}
    (hkey : ∀ c ∈ key, IsChar c) (hplaces : Siblings graph pos places) (flags : UInt8) :
    lookupFrom graph key pos pos = some flags
      ↔ ∃ child ∈ places, Spells graph child key flags := by
  induction hn : key.length using Nat.strongRecOn generalizing key pos places flags with
  | ind n ih =>
      subst hn
      refine lookupFrom_children hlen hkey ?_ hplaces.children hplaces.distinct hplaces.node
        flags
      intro offset rest places' hlt hrest hplaces' flags'
      exact ih rest.length hlt hrest hplaces' flags' rfl

/-- **`lookup` finds what a well-formed graph spells**, and nothing else. -/
theorem lookup_eq_some (hlen : graph.length < 2 ^ 63) (hformed : WellFormed graph)
    (hkey : ∀ c ∈ key, IsChar c) (flags : UInt8) :
    lookup graph key = some flags ↔ HasKey graph key flags := by
  obtain ⟨places, hplaces⟩ := hformed
  unfold lookup HasKey
  rw [lookupFrom_siblings hlen hkey hplaces flags]
  constructor
  · intro h
    exact ⟨places, hplaces.children, h⟩
  · rintro ⟨places', hchildren, h⟩
    rw [hplaces.children.unique hchildren]
    exact h

end Walk

end Libwebauthn.Psl
