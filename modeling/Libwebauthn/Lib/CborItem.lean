/-
  Libwebauthn.Lib.CborItem — well-formed CBOR data items.

  `Item depth bs` says that the bytes `bs` are one data item, nested at most
  `depth` deep: of definite or indefinite length, with tags, and with heads
  that need not be shortest.  `skipItem depth` takes such an item off the front
  of a byte string without a value for it.

    • `parses_skipItem` — what it takes are just the items;
    • `Item.starts` — no item is empty, and none starts like a break.
-/
import Libwebauthn.Lib.CborReader

namespace Libwebauthn

namespace Cbor

open Reader

/-! ## §1. Heads. -/

/-- The head of an item, with its additional information and argument. -/
inductive IsHead (major : Nat) : (info argument : Nat) → Bytes → Prop where
  | short {n : Nat} (hn : n < 24) : IsHead major n n [UInt8.ofNat (major * 32 + n)]
  | long {k n : Nat} (hk : k < 4) (hn : n < 256 ^ 2 ^ k) :
      IsHead major (24 + k) n (UInt8.ofNat (major * 32 + (24 + k)) :: beEncode (2 ^ k) n)

/-- The head of an item of indefinite length. -/
def openHead (major : Nat) : UInt8 := UInt8.ofNat (major * 32 + 31)

/-- What ends an item of indefinite length. -/
def breakByte : UInt8 := 0xff

theorem parses_readHead : Parses readHead fun bs head =>
    head.major < 8 ∧ IsHead head.major head.info head.argument bs := by
  intro input head rest
  constructor
  · intro h
    obtain ⟨initial, mid, hnext, hbody⟩ := bind_eq_some_iff.mp h
    obtain ⟨_, rfl, rfl⟩ := (Parses.next _ _ _).mp hnext
    have hmajor : initial.toNat / 32 < 8 := by
      have := initial.toNat_lt
      omega
    -- the initial byte is put together again from what was read of it
    have hbyte : initial = UInt8.ofNat (initial.toNat / 32 * 32 + initial.toNat % 32) := by
      rw [Nat.div_add_mod', UInt8.ofNat_toNat]
    split at hbody
    next hinfo =>
      obtain ⟨rfl, rfl⟩ := pure_eq_some_iff.mp hbody
      refine ⟨[initial], rfl, hmajor, ?_⟩
      have hshort : IsHead (initial.toNat / 32) _ _ _ := .short hinfo
      rwa [← hbyte] at hshort
    next =>
      split at hbody
      next hinfo =>
        obtain ⟨argument, mid', htake, hbody⟩ := bind_eq_some_iff.mp hbody
        obtain ⟨_, rfl, rfl, hlength⟩ := (Parses.take _ _ _ _).mp htake
        obtain ⟨rfl, rfl⟩ := pure_eq_some_iff.mp hbody
        refine ⟨initial :: _, rfl, hmajor, ?_⟩
        obtain ⟨k, hk⟩ := Nat.exists_eq_add_of_le (show 24 ≤ initial.toNat % 32 by omega)
        rw [hk, Nat.add_sub_cancel_left] at hlength
        have hlong : IsHead (initial.toNat / 32) (24 + k) _ _ :=
          .long (by omega) (hlength ▸ beDecode_lt _)
        rwa [← hk, ← hbyte, ← hlength, beEncode_beDecode] at hlong
      next => cases hbody
  · rintro ⟨bs, rfl, hmajor, hhead⟩
    obtain ⟨major, info, argument⟩ := head
    cases hhead with
    | short hn => exact reads_shortHead _ _ hmajor hn rest
    | long hk hn => exact reads_longHead _ _ hmajor hk hn rest

/-! ## §2. Items. -/

/-- What follows a head, with items `P` inside. -/
def Content (P : Bytes → Prop) (head : Head) (bs : Bytes) : Prop :=
  match head.major with
  | 0 => bs = []
  | 1 => bs = []
  | 2 => bs.length = head.argument
  | 3 => bs.length = head.argument
  | 4 => ∃ items : List Bytes, items.length = head.argument ∧ (∀ item ∈ items, P item)
      ∧ bs = items.flatten
  -- keys and values, one after the other
  | 5 => ∃ items : List Bytes, items.length = 2 * head.argument ∧ (∀ item ∈ items, P item)
      ∧ bs = items.flatten
  | 6 => P bs
  -- a float, or a simple value with the shortest head
  | 7 => bs = [] ∧ (head.info = 24 → 32 ≤ head.argument)
  | _ => False

/-- An item of definite length. -/
def Definite (P : Bytes → Prop) (bs : Bytes) : Prop :=
  ∃ head : Head, ∃ ys zs, bs = ys ++ zs
    ∧ (head.major < 8 ∧ IsHead head.major head.info head.argument ys) ∧ Content P head zs

/-- A string of definite length, as it stands in one of indefinite length. -/
def IsString (major : Nat) (bs : Bytes) : Prop :=
  ∃ head : Head, ∃ ys zs, bs = ys ++ zs
    ∧ (head.major < 8 ∧ IsHead head.major head.info head.argument ys)
    ∧ head.major = major ∧ zs.length = head.argument

/-- What is repeated in an item of indefinite length. -/
def Piece (P : Bytes → Prop) (major : Nat) (bs : Bytes) : Prop :=
  match major with
  | 2 => IsString 2 bs
  | 3 => IsString 3 bs
  | 4 => P bs
  | 5 => ∃ key value, bs = key ++ value ∧ P key ∧ P value
  | _ => False

/-- An item of indefinite length. -/
def Indefinite (P : Bytes → Prop) (bs : Bytes) : Prop :=
  ∃ major, 2 ≤ major ∧ major ≤ 5 ∧ ∃ pieces : List Bytes,
    (∀ piece ∈ pieces, Piece P major piece)
      ∧ bs = openHead major :: (pieces.flatten ++ [breakByte])

/-- One data item, nested at most `depth` deep. -/
def Item : (depth : Nat) → Bytes → Prop
  | 0, _ => False
  | depth + 1, bs => Definite (Item depth) bs ∨ Indefinite (Item depth) bs

/-- One data item, however deep. -/
def WellFormed (bs : Bytes) : Prop := ∃ depth, Item depth bs

/-- Not empty, and not like a break at the start. -/
def Starts (bs : Bytes) : Prop := bs ≠ [] ∧ bs.head? ≠ some breakByte

/-- Whether bytes start an item shows in their first byte. -/
theorem Starts.append {bs : Bytes} (h : Starts bs) (bs' : Bytes) : Starts (bs ++ bs') := by
  refine ⟨List.append_ne_nil_of_left_ne_nil h.1 _, ?_⟩
  rw [List.head?_append_of_ne_nil _ h.1]
  exact h.2

/-- The first byte of a head announces no indefinite length. -/
theorem IsHead.head? {major info argument : Nat} {bs : Bytes}
    (h : IsHead major info argument bs) : ∃ b, bs.head? = some b ∧ b.toNat % 32 < 28 := by
  have hinfo : ∀ n, n < 28 → (UInt8.ofNat (major * 32 + n)).toNat % 32 < 28 := by
    intro n hn
    rw [UInt8.toNat_ofNat']
    omega
  cases h with
  | short hn => exact ⟨_, rfl, hinfo _ (by omega)⟩
  | long hk hn => exact ⟨_, rfl, hinfo _ (by omega)⟩

theorem starts_of_head? {bs : Bytes} {b : UInt8} (hhead : bs.head? = some b)
    (hb : b ≠ breakByte) : Starts bs := by
  refine ⟨fun hnil => ?_, fun hbreak => ?_⟩
  · rw [hnil] at hhead
    cases hhead
  · rw [hhead] at hbreak
    exact hb (Option.some.inj hbreak)

/-- A head starts an item: it is no break. -/
theorem IsHead.starts {major info argument : Nat} {bs : Bytes}
    (h : IsHead major info argument bs) : Starts bs := by
  obtain ⟨b, hhead, hinfo⟩ := h.head?
  refine starts_of_head? hhead fun hbreak => ?_
  rw [hbreak] at hinfo
  exact absurd hinfo (by decide)

/-- A definite item shows its kind in the first byte. -/
theorem Definite.head? {P : Bytes → Prop} {bs : Bytes} (h : Definite P bs) :
    ∃ b, bs.head? = some b ∧ b.toNat % 32 < 28 := by
  obtain ⟨head, ys, zs, rfl, ⟨-, hhead⟩, -⟩ := h
  rw [List.head?_append_of_ne_nil _ hhead.starts.1]
  exact hhead.head?

/-- An indefinite head has all its low bits set. -/
theorem toNat_openHead {major : Nat} (h : major ≤ 5) :
    (openHead major).toNat = major * 32 + 31 := by
  unfold openHead
  rw [UInt8.toNat_ofNat']
  omega

/-- An indefinite item shows it in the first byte, which is not the break. -/
theorem Indefinite.head? {P : Bytes → Prop} {bs : Bytes} (h : Indefinite P bs) :
    ∃ b, bs.head? = some b ∧ b.toNat % 32 = 31 ∧ b ≠ breakByte := by
  obtain ⟨major, -, hmajor, pieces, -, rfl⟩ := h
  have hbyte := toNat_openHead hmajor
  refine ⟨openHead major, rfl, by omega, fun hbreak => ?_⟩
  rw [hbreak, show breakByte.toNat = 255 from rfl] at hbyte
  omega

theorem IsString.starts {major : Nat} {bs : Bytes} (h : IsString major bs) : Starts bs := by
  obtain ⟨head, ys, zs, rfl, ⟨-, hhead⟩, -⟩ := h
  exact hhead.starts.append zs

/-- No item begins as a break does. -/
theorem Item.starts {depth : Nat} {bs : Bytes} (h : Item depth bs) : Starts bs := by
  cases depth with
  | zero => exact h.elim
  | succ depth =>
      rcases h with ⟨head, ys, zs, rfl, ⟨-, hhead⟩, -⟩ | hopen
      · exact hhead.starts.append zs
      · obtain ⟨b, hhead, -, hb⟩ := hopen.head?
        exact starts_of_head? hhead hb

theorem Piece.starts {P : Bytes → Prop} (hP : ∀ bs, P bs → Starts bs) {major : Nat} {bs : Bytes}
    (h : Piece P major bs) : Starts bs := by
  unfold Piece at h
  split at h
  · exact h.starts
  · exact h.starts
  · exact hP bs h
  · obtain ⟨key, value, rfl, hkey, -⟩ := h
    exact (hP key hkey).append value
  · exact h.elim

/-! ## §3. Taking an item. -/

/-- What follows a head, with a reader for the items inside. -/
def skipBody (item : Reader UInt8 Unit) (head : Head) : Reader UInt8 Unit :=
  match head.major with
  | 0 => pure ()
  | 1 => pure ()
  | 2 => do
      let _ ← take head.argument
      pure ()
  | 3 => do
      let _ ← take head.argument
      pure ()
  | 4 => skipMany item head.argument
  | 5 => skipMany item (2 * head.argument)
  | 6 => item
  | 7 => if head.info = 24 ∧ head.argument < 32 then fail else pure ()
  | _ => fail

def skipDefinite (item : Reader UInt8 Unit) : Reader UInt8 Unit := do
  let head ← readHead
  skipBody item head

def skipString (major : Nat) : Reader UInt8 Unit := do
  let head ← readHead
  if head.major = major then do
    let _ ← take head.argument
    pure ()
  else fail

def skipPiece (item : Reader UInt8 Unit) (major : Nat) : Reader UInt8 Unit :=
  match major with
  | 2 => skipString 2
  | 3 => skipString 3
  | 4 => item
  | 5 => do
      item
      item
  | _ => fail

def skipIndefinite (item : Reader UInt8 Unit) : Reader UInt8 Unit := do
  let initial ← next
  if initial.toNat % 32 = 31 ∧ 2 ≤ initial.toNat / 32 ∧ initial.toNat / 32 ≤ 5 then
    fun input => skipUntil breakByte (skipPiece item (initial.toNat / 32)) input.length input
  else fail

/-- An item that is nested at most `depth` deep. -/
def skipItem : (depth : Nat) → Reader UInt8 Unit
  | 0 => fail
  | depth + 1 => skipDefinite (skipItem depth) <|> skipIndefinite (skipItem depth)

section

variable {item : Reader UInt8 Unit} {P : Bytes → Prop}

theorem parses_skipTake (n : Nat) :
    Parses (do let _ ← take n; pure () : Reader UInt8 Unit) fun bs _ => bs.length = n := by
  refine ((Parses.take n).bind fun _ => Parses.pure ()).congr fun bs _ => ⟨?_, ?_⟩
  · rintro ⟨_, ys, zs, rfl, ⟨rfl, hlength⟩, rfl, -⟩
    rwa [List.append_nil]
  · intro hlength
    exact ⟨bs, bs, [], (List.append_nil bs).symm, ⟨rfl, hlength⟩, rfl, rfl⟩

theorem parses_skipNone : Parses (pure () : Reader UInt8 Unit) fun bs _ => bs = [] :=
  (Parses.pure ()).congr fun _ _ => and_iff_left rfl

/-- A body is skipped as the grammar has it. -/
theorem parses_skipBody (h : Parses item fun bs _ => P bs) (head : Head) :
    Parses (skipBody item head) fun bs _ => Content P head bs := by
  obtain ⟨major, info, argument⟩ := head
  rcases major with _ | _ | _ | _ | _ | _ | _ | _ | major
  · exact parses_skipNone
  · exact parses_skipNone
  · exact parses_skipTake argument
  · exact parses_skipTake argument
  · exact h.skipMany argument
  · exact h.skipMany (2 * argument)
  · exact h
  · show Parses (if info = 24 ∧ argument < 32 then fail else pure ()) fun bs _ =>
      bs = [] ∧ (info = 24 → 32 ≤ argument)
    split
    next hvalue =>
      refine Parses.fail.congr fun _ _ => iff_of_false id fun h => ?_
      exact Nat.not_lt.mpr (h.2 hvalue.1) hvalue.2
    next hvalue =>
      refine parses_skipNone.congr fun _ _ => (and_iff_left fun hinfo => ?_).symm
      exact Nat.not_lt.mp fun hlow => hvalue ⟨hinfo, hlow⟩
  · exact Parses.fail

/-- So is a definite item. -/
theorem parses_skipDefinite (h : Parses item fun bs _ => P bs) :
    Parses (skipDefinite item) fun bs _ => Definite P bs :=
  parses_readHead.bind (parses_skipBody h)

/-- So is a string, which an indefinite one is made of. -/
theorem parses_skipString (major : Nat) :
    Parses (skipString major) fun bs _ => IsString major bs := by
  refine parses_readHead.bind fun head => ?_
  split
  next hmajor => exact (parses_skipTake head.argument).congr fun _ _ => (and_iff_right hmajor).symm
  next hmajor => exact Parses.fail.congr fun _ _ => (iff_of_false id fun h => hmajor h.1)

theorem parses_skipPiece (h : Parses item fun bs _ => P bs) (major : Nat) :
    Parses (skipPiece item major) fun bs _ => Piece P major bs := by
  unfold skipPiece Piece
  split
  · exact parses_skipString 2
  · exact parses_skipString 3
  · exact h
  · refine (h.bind fun _ => h).congr fun bs _ => ⟨?_, ?_⟩
    · rintro ⟨-, key, value, hbs, hkey, hvalue⟩
      exact ⟨key, value, hbs, hkey, hvalue⟩
    · rintro ⟨key, value, hbs, hkey, hvalue⟩
      exact ⟨(), key, value, hbs, hkey, hvalue⟩
  · exact Parses.fail

/-- Up to the first break that is not inside an item. -/
theorem parses_skipIndefinite (h : Parses item fun bs _ => P bs)
    (hP : ∀ bs, P bs → Starts bs) :
    Parses (skipIndefinite item) fun bs _ => Indefinite P bs := by
  -- behind an open head there are pieces up to the break
  have hrest : ∀ initial : UInt8, Parses
      (if initial.toNat % 32 = 31 ∧ 2 ≤ initial.toNat / 32 ∧ initial.toNat / 32 ≤ 5 then
        fun input =>
          Reader.skipUntil breakByte (skipPiece item (initial.toNat / 32)) input.length input
      else fail) fun bs _ =>
        (initial.toNat % 32 = 31 ∧ 2 ≤ initial.toNat / 32 ∧ initial.toNat / 32 ≤ 5)
          ∧ ∃ pieces : List Bytes, (∀ piece ∈ pieces, Piece P (initial.toNat / 32) piece)
            ∧ bs = pieces.flatten ++ [breakByte] := by
    intro initial
    split
    next hopen =>
      refine Parses.congr ?_ fun _ _ => (and_iff_right hopen).symm
      exact (parses_skipPiece h _).skipUntil fun _ hpiece => hpiece.starts hP
    next hopen => exact Parses.fail.congr fun _ _ => iff_of_false id fun h => hopen h.1
  refine (Parses.next.bind hrest).congr fun bs _ => ⟨?_, ?_⟩
  · rintro ⟨initial, _, _, rfl, rfl, ⟨hinfo, hmin, hmax⟩, pieces, hpieces, rfl⟩
    refine ⟨initial.toNat / 32, hmin, hmax, pieces, hpieces, ?_⟩
    have hbyte : openHead (initial.toNat / 32) = initial := by
      unfold openHead
      rw [← hinfo, Nat.div_add_mod', UInt8.ofNat_toNat]
    rw [hbyte]
    rfl
  · rintro ⟨major, hmin, hmax, pieces, hpieces, rfl⟩
    have hbyte := toNat_openHead hmax
    have hmajor : (openHead major).toNat / 32 = major := by omega
    refine ⟨openHead major, [openHead major], _, rfl, rfl, ⟨by omega, by omega, by omega⟩,
      pieces, ?_, rfl⟩
    rwa [hmajor]

end

/-- **An item is skipped** exactly when the grammar has it, by induction on its
depth. -/
theorem parses_skipItem (depth : Nat) : Parses (skipItem depth) fun bs _ => Item depth bs := by
  induction depth with
  | zero => exact Parses.fail
  | succ depth ih =>
      have hdefinite := parses_skipDefinite ih
      have hindefinite := parses_skipIndefinite ih fun _ hitem => hitem.starts
      refine hdefinite.orElse hindefinite fun input hopen => ?_
      -- the first byte tells the two kinds apart
      by_contra hboth
      obtain ⟨⟨_, rest⟩, hread⟩ := Option.ne_none_iff_exists'.mp hopen
      obtain ⟨⟨_, rest'⟩, hread'⟩ := Option.ne_none_iff_exists'.mp hboth
      obtain ⟨xs, rfl, hitem⟩ := (hindefinite _ _ _).mp hread
      obtain ⟨ys, happend, hitem'⟩ := (hdefinite _ _ _).mp hread'
      obtain ⟨b, hb, hinfo, -⟩ := hitem.head?
      obtain ⟨b', hb', hinfo'⟩ := hitem'.head?
      have hhead := congrArg List.head? happend
      rw [List.head?_append, hb, List.head?_append, hb'] at hhead
      obtain rfl := Option.some.inj hhead
      omega

end Cbor

end Libwebauthn
