/-
  Libwebauthn.Lib.Canonical — the canonical order of CBOR map keys.

  Keys are ordered by their encodings: by major type, then the shorter one
  first, then bytewise.  An item is canonical when the keys of every map in it
  are in this order, which also makes them distinct (`Canonical.orderedMaps`).

    • `Cbor.Fields` — entries taken from a fixed list of keys, as a record
      with optional fields gives them;
    • `Fields.canonical` — such a map is canonical when the list is ordered;
    • `keyLt_bytes` — byte-string keys, shorter first.
-/
import Libwebauthn.Lib.Cbor
import Mathlib.Data.List.Lex

namespace Libwebauthn

namespace Cbor

/-- The major type of an encoded item. -/
def majorType (item : Bytes) : Nat := (item.headD 0).toNat / 32

/-- The key `a` is written before `b`. -/
def keyLt (a b : Cbor) : Prop :=
  majorType (encode a) < majorType (encode b)
    ∨ (majorType (encode a) = majorType (encode b)
      ∧ ((encode a).length < (encode b).length
        ∨ ((encode a).length = (encode b).length
          ∧ (encode a).map UInt8.toNat < (encode b).map UInt8.toNat)))

instance : DecidableRel keyLt := fun _ _ => inferInstanceAs (Decidable (_ ∨ _))

mutual

/-- The keys of every map of the item are in order. -/
def Canonical : Cbor → Prop
  | .array items => CanonicalItems items
  | .map entries => (entries.map Prod.fst).Pairwise keyLt ∧ CanonicalEntries entries
  | .uint _ | .nint _ | .bytes _ | .text _ | .bool _ | .null | .float _ => True

def CanonicalItems : List Cbor → Prop
  | [] => True
  | item :: items => Canonical item ∧ CanonicalItems items

def CanonicalEntries : List (Cbor × Cbor) → Prop
  | [] => True
  | (key, value) :: entries => Canonical key ∧ Canonical value ∧ CanonicalEntries entries

end

mutual

/-- The maps of the item, at every level. -/
def maps : Cbor → List (List (Cbor × Cbor))
  | .array items => mapsItems items
  | .map entries => entries :: mapsEntries entries
  | .uint _ | .nint _ | .bytes _ | .text _ | .bool _ | .null | .float _ => []

def mapsItems : List Cbor → List (List (Cbor × Cbor))
  | [] => []
  | item :: items => maps item ++ mapsItems items

def mapsEntries : List (Cbor × Cbor) → List (List (Cbor × Cbor))
  | [] => []
  | (key, value) :: entries => maps key ++ maps value ++ mapsEntries entries

end

/-- Every map of the item, at every level, has distinct keys in order. -/
def OrderedMaps (item : Cbor) : Prop :=
  ∀ entries ∈ item.maps, (entries.map Prod.fst).Nodup ∧ (entries.map Prod.fst).Pairwise keyLt

/-! ## §1. The order. -/

theorem keyLt_irrefl (key : Cbor) : ¬keyLt key key := by
  intro h
  rcases h with h | ⟨-, h | ⟨-, h⟩⟩
  · omega
  · omega
  · exact List.lt_irrefl _ h

/-- Keys in order are distinct. -/
theorem nodup_of_pairwise {keys : List Cbor} (h : keys.Pairwise keyLt) : keys.Nodup := by
  refine h.imp fun hlt heq => ?_
  subst heq
  exact keyLt_irrefl _ hlt

/-- The bytes in front of an item, by its argument. -/
theorem length_head (major n : Nat) :
    (head major n).length = if n < 24 then 1 else if n < 256 then 2 else if n < 65536 then 3
      else if n < 4294967296 then 5 else 9 := by
  unfold head
  split_ifs <;> simp only [List.length_cons, List.length_nil, beEncode_length]

theorem head_ne_nil (major n : Nat) : head major n ≠ [] := by
  intro h
  have hlength := length_head major n
  rw [h] at hlength
  split_ifs at hlength

theorem encode_ne_nil (c : Cbor) : c.encode ≠ [] := by
  cases c with
  | uint n => exact head_ne_nil 0 n
  | nint n => exact head_ne_nil 1 n
  | bytes bs => exact List.append_ne_nil_of_left_ne_nil (head_ne_nil _ _) _
  | text s => exact List.append_ne_nil_of_left_ne_nil (head_ne_nil _ _) _
  | array items => exact List.append_ne_nil_of_left_ne_nil (head_ne_nil _ _) _
  | map entries => exact List.append_ne_nil_of_left_ne_nil (head_ne_nil _ _) _
  | bool b => exact List.cons_ne_nil _ _
  | null => exact List.cons_ne_nil _ _
  | float bits => exact List.cons_ne_nil _ _

/-- A larger argument takes no fewer bytes. -/
theorem length_head_mono (major : Nat) {m n : Nat} (h : m ≤ n) :
    (head major m).length ≤ (head major n).length := by
  rw [length_head, length_head]
  split_ifs <;> omega

/-- Part of an array is no longer than the array. -/
theorem length_encode_array_mono {items items' : List Cbor} (h : items.Sublist items') :
    (encode (.array items)).length ≤ (encode (.array items')).length := by
  have hitems : (encodeItems items).length ≤ (encodeItems items').length := by
    induction h with
    | slnil => exact Nat.le_refl _
    | cons item _ ih =>
        show _ ≤ (encode item ++ encodeItems _).length
        rw [List.length_append]
        omega
    | cons_cons item _ ih =>
        show (encode item ++ encodeItems _).length ≤ (encode item ++ encodeItems _).length
        rw [List.length_append, List.length_append]
        omega
  have hhead := length_head_mono 4 h.length_le
  simp only [encode, List.length_append]
  omega

/-- A map with more and longer entries is no shorter. -/
theorem length_encode_map_mono {entries entries' : List (Cbor × Cbor)}
    (hcount : entries.length ≤ entries'.length)
    (hlength : (encodeEntries entries).length ≤ (encodeEntries entries').length) :
    (encode (.map entries)).length ≤ (encode (.map entries')).length := by
  have hhead := length_head_mono 5 hcount
  simp only [encode, List.length_append]
  omega

/-- The major type stands in the first three bits. -/
theorem majorType_head (major n : Nat) (rest : Bytes) (h : major < 8) :
    majorType (head major n ++ rest) = major := by
  have hbyte : ∀ k, k < 32 → (UInt8.ofNat (major * 32 + k)).toNat / 32 = major := by
    intro k hk
    rw [UInt8.toNat_ofNat']
    omega
  unfold majorType head
  split
  · exact hbyte n (by omega)
  · split
    · exact hbyte 24 (by omega)
    · split
      · exact hbyte 25 (by omega)
      · split
        · exact hbyte 26 (by omega)
        · exact hbyte 27 (by omega)

/-- Byte-string keys: the shorter one first, then bytewise. -/
theorem keyLt_bytes {a b : Bytes} (h : a.length < b.length
    ∨ a.length = b.length ∧ a.map UInt8.toNat < b.map UInt8.toNat) :
    keyLt (.bytes a) (.bytes b) := by
  refine Or.inr ⟨?_, ?_⟩
  · simp only [encode]
    rw [majorType_head 2 _ _ (by omega), majorType_head 2 _ _ (by omega)]
  · simp only [encode, List.length_append, List.map_append]
    rcases h with hshort | ⟨hlength, hlt⟩
    · have hhead := length_head_mono 2 hshort.le
      exact Or.inl (by omega)
    · rw [hlength]
      exact Or.inr ⟨rfl, List.append_left_lt hlt⟩

/-! ## §2. Canonical items. -/

/-- An array is canonical item by item. -/
theorem canonicalItems_iff {items : List Cbor} :
    CanonicalItems items ↔ ∀ item ∈ items, Canonical item := by
  induction items with
  | nil => simp [CanonicalItems]
  | cons item items ih => simp [CanonicalItems, ih]

/-- So are the keys and values of a map; the order is said apart. -/
theorem canonicalEntries_iff {entries : List (Cbor × Cbor)} :
    CanonicalEntries entries ↔ ∀ entry ∈ entries, Canonical entry.1 ∧ Canonical entry.2 := by
  induction entries with
  | nil => simp [CanonicalEntries]
  | cons entry entries ih =>
      obtain ⟨key, value⟩ := entry
      simp [CanonicalEntries, ih, and_assoc]

/-- An array of canonical items of one kind. -/
theorem canonical_array_map {α : Type} {f : α → Cbor} {xs : List α}
    (h : ∀ x ∈ xs, Canonical (f x)) : Canonical (.array (xs.map f)) := by
  unfold Canonical
  rw [canonicalItems_iff]
  intro item hitem
  obtain ⟨x, hx, rfl⟩ := List.mem_map.mp hitem
  exact h x hx

mutual

/-- In each map inside, however deep, the keys go up. -/
theorem Canonical.pairwise_maps : ∀ {item : Cbor}, Canonical item →
    ∀ entries ∈ maps item, (entries.map Prod.fst).Pairwise keyLt
  | .array _, h, entries, hmem => CanonicalItems.pairwise_maps h entries hmem
  | .map _, h, entries, hmem => by
      rcases List.mem_cons.mp hmem with rfl | hmem
      · exact h.1
      · exact CanonicalEntries.pairwise_maps h.2 entries hmem

theorem CanonicalItems.pairwise_maps : ∀ {items : List Cbor}, CanonicalItems items →
    ∀ entries ∈ mapsItems items, (entries.map Prod.fst).Pairwise keyLt
  | _ :: _, h, entries, hmem => (List.mem_append.mp hmem).elim
      (Canonical.pairwise_maps h.1 entries) (CanonicalItems.pairwise_maps h.2 entries)

theorem CanonicalEntries.pairwise_maps : ∀ {es : List (Cbor × Cbor)}, CanonicalEntries es →
    ∀ entries ∈ mapsEntries es, (entries.map Prod.fst).Pairwise keyLt
  | (_, _) :: _, h, entries, hmem => by
      rcases List.mem_append.mp hmem with hmem | hmem
      · exact (List.mem_append.mp hmem).elim (Canonical.pairwise_maps h.1 entries)
          (Canonical.pairwise_maps h.2.1 entries)
      · exact CanonicalEntries.pairwise_maps h.2.2 entries hmem

end

/-- So no map inside has a key twice, or out of order. -/
theorem Canonical.orderedMaps {item : Cbor} (h : Canonical item) : OrderedMaps item :=
  fun entries hmem =>
    ⟨nodup_of_pairwise (h.pairwise_maps entries hmem), h.pairwise_maps entries hmem⟩

/-- Entries whose keys are taken, in order, from `keys`, with canonical values. -/
structure Fields (keys : List Cbor) (entries : List (Cbor × Cbor)) : Prop where
  listed : (entries.map Prod.fst).Sublist keys
  values : ∀ entry ∈ entries, Canonical entry.2

/-- An item without items of its own. -/
def isScalar : Cbor → Bool
  | .array _ | .map _ => false
  | .uint _ | .nint _ | .bytes _ | .text _ | .bool _ | .null | .float _ => true

/-- Where there is no map inside there is nothing to order. -/
theorem canonical_of_isScalar {item : Cbor} (h : item.isScalar = true) : Canonical item := by
  cases item <;> trivial

/-- Field names as a record declares them: scalars, in order. -/
def FieldNames (keys : List Cbor) : Prop := keys.Pairwise keyLt ∧ keys.all isScalar = true

instance : DecidablePred FieldNames := fun _ => inferInstanceAs (Decidable (_ ∧ _))

namespace Fields

theorem none {keys : List Cbor} : Fields keys [] :=
  ⟨List.nil_sublist keys, fun _ h => absurd h List.not_mem_nil⟩

theorem nil : Fields [] [] := none

/-- A field that is there, in front of those that may follow. -/
theorem cons {key value : Cbor} {keys : List Cbor} {entries : List (Cbor × Cbor)}
    (hvalue : Canonical value) (h : Fields keys entries) :
    Fields (key :: keys) ((key, value) :: entries) := by
  refine ⟨h.listed.cons_cons key, fun entry hentry => ?_⟩
  rcases List.mem_cons.mp hentry with rfl | hentry
  · exact hvalue
  · exact h.values entry hentry

/-- Two groups of fields stand one behind the other. -/
theorem append {keys keys' : List Cbor} {entries entries' : List (Cbor × Cbor)}
    (h : Fields keys entries) (h' : Fields keys' entries') :
    Fields (keys ++ keys') (entries ++ entries') := by
  refine ⟨?_, fun entry hentry => ?_⟩
  · rw [List.map_append]
    exact h.listed.append h'.listed
  · exact (List.mem_append.mp hentry).elim (h.values entry) (h'.values entry)

/-- A field with a value or without one. -/
theorem optional {α : Type} {key : Cbor} {value : Option α} {f : α → Cbor}
    (hvalue : ∀ x, value = some x → Canonical (f x)) :
    Fields [key] ( Cbor.entry? key (value.map f)) := by
  cases value with
  | none => exact Fields.none
  | some x => exact cons (hvalue x rfl) nil

/-- A field left out under a condition. -/
theorem skipped {c : Prop} [Decidable c] {keys : List Cbor} {entries : List (Cbor × Cbor)}
    (h : Fields keys entries) : Fields keys (if c then [] else entries) := by
  split
  · exact none
  · exact h

/-- **Fields in the order of their names** are a canonical map, whichever of
them are there. -/
theorem canonical {keys : List Cbor} {entries : List (Cbor × Cbor)} (h : Fields keys entries)
    (hnames : FieldNames keys) : Canonical (.map entries) := by
  unfold Canonical
  refine ⟨hnames.1.sublist h.listed, canonicalEntries_iff.mpr fun entry hentry => ⟨?_, ?_⟩⟩
  · have hkey := h.listed.subset (List.mem_map_of_mem hentry)
    exact canonical_of_isScalar (List.all_eq_true.mp hnames.2 _ hkey)
  · exact h.values entry hentry

end Fields

end Cbor

end Libwebauthn
