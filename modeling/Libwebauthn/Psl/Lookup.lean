/-
  Libwebauthn.Psl.Lookup — `lookup` of `psl/dafsa.rs` on machine integers, and
  on any bytes at all.

  The state of the loop is what the source has in its variables.  Every addition
  but `checked_add` panics where it overflows; the graph and the key are read
  with `get`, which gives nothing outside of them.

    • `lookup_halts` — whatever the bytes are, the loop returns;
    • `lookup_decodes` — a well-formed graph is looked up as the map it encodes.
-/
import Libwebauthn.Lib.Machine
import Libwebauthn.Psl.Backends

namespace Libwebauthn.Psl

/-! ## §1. The loop. -/

/-- A `&[u8]`; an allocation has fewer than `2 ^ 63` bytes. -/
structure ByteSlice where
  bytes : Bytes
  length_lt : bytes.length < 2 ^ 63

/-- The distance of the offset at `pos`, and its size; `some none` where it is
cut off, and `none` where an addition overflows. -/
def distanceFrom (graph : Bytes) (pos : Nat) (b : UInt8) : Option (Option (Nat × Nat)) :=
  if b &&& 0x60 = 0x60 then do
    let hiPos ← usizeAdd pos 1
    match graph[hiPos]? with
    | none => some none
    | some hi => do
        let loPos ← usizeAdd pos 2
        match graph[loPos]? with
        | none => some none
        | some lo =>
            some (some ((b &&& 0x1F).toNat <<< 16 ||| hi.toNat <<< 8 ||| lo.toNat, 3))
  else if b &&& 0x60 = 0x40 then do
    let loPos ← usizeAdd pos 1
    match graph[loPos]? with
    | none => some none
    | some lo => some (some ((b &&& 0x1F).toNat <<< 8 ||| lo.toNat, 2))
  else some (some ((b &&& 0x3F).toNat, 1))

/-- `get_next_offset`: the new position and offset; `some none` where it
returns `None`, and `none` where it panics. -/
def nextOffsetFrom (graph : Bytes) (pos offset : Nat) : Option (Option (Nat × Nat)) :=
  match graph[pos]? with
  | none => some none
  | some b => do
      match ← distanceFrom graph pos b with
      | none => some none
      | some (distance, consumed) =>
          match checkedAdd offset distance with
          | none => some none
          | some offset =>
              if b &&& 0x80 ≠ 0 then some (some (graph.length, offset))
              else do
                let pos ← usizeAdd pos consumed
                some (some (pos, offset))

def isMatchAt (graph : Bytes) (offset : Nat) (key : Bytes) (keyPos : Nat) : Bool :=
  match graph[offset]?, key[keyPos]? with
  | some g, some k => g = k
  | _, _ => false

def isEndCharMatchAt (graph : Bytes) (offset : Nat) (key : Bytes) (keyPos : Nat) : Bool :=
  match graph[offset]?, key[keyPos]? with
  | some g, some k => g ^^^ 0x80 = k
  | _, _ => false

/-- The variables of `lookup`, and whether the inner loop is running. -/
structure LookupState where
  pos : Nat
  offset : Nat
  keyPos : Nat
  inner : Bool
  deriving DecidableEq

/-- `offset += 1; key_pos += 1`, and what follows. -/
def advance (offset keyPos : Nat) (goOn : Nat → Nat → LookupState) :
    LoopTurn LookupState (Option UInt8) :=
  match usizeAdd offset 1, usizeAdd keyPos 1 with
  | some offset, some keyPos => .goOn (goOn offset keyPos)
  | _, _ => .panicked

/-- What follows the inner loop. -/
def settleTurn (graph key : Bytes) (didConsume : Bool) (pos offset keyPos : Nat) :
    LoopTurn LookupState (Option UInt8) :=
  if keyPos = key.length then
    match getReturnValue graph offset with
    | some rv => .returned (some rv)
    | none => if didConsume then .returned none else .goOn ⟨pos, offset, keyPos, false⟩
  else if !isEndCharMatchAt graph offset key keyPos then
    if didConsume then .returned none else .goOn ⟨pos, offset, keyPos, false⟩
  else advance offset keyPos fun offset keyPos => ⟨offset, offset, keyPos, false⟩

/-- One turn of the inner loop, or of the outer one up to it. -/
def lookupTurn (graph key : Bytes) (s : LookupState) : LoopTurn LookupState (Option UInt8) :=
  if s.inner then
    if !isEol graph s.offset && s.keyPos < key.length then
      if !isMatchAt graph s.offset key s.keyPos then .returned none
      else advance s.offset s.keyPos fun offset keyPos => ⟨s.pos, offset, keyPos, true⟩
    else settleTurn graph key true s.pos s.offset s.keyPos
  else
    match nextOffsetFrom graph s.pos s.offset with
    | none => .panicked
    | some none => .returned none
    | some (some (pos, offset)) =>
        if s.keyPos < key.length && !isEol graph offset then
          if !isMatchAt graph offset key s.keyPos then .goOn ⟨pos, offset, s.keyPos, false⟩
          else advance offset s.keyPos fun offset keyPos => ⟨pos, offset, keyPos, true⟩
        else settleTurn graph key false pos offset s.keyPos

/-- `lookup`, for up to `fuel` turns. -/
def runLookup (graph key : Bytes) (fuel : Nat) : Execution (Option UInt8) :=
  execute (lookupTurn graph key) fuel ⟨0, 0, 0, false⟩

/-! ## §2. Nothing overflows. -/

section

variable {graph key : Bytes}

theorem distanceFrom_eq {pos : Nat} (b : UInt8) (hpos : pos + 2 < 2 ^ 64) :
    distanceFrom graph pos b = some (distanceAt graph pos b) := by
  have hhi : usizeAdd pos 1 = some (pos + 1) := usizeAdd_of_lt (by omega)
  have hlo : usizeAdd pos 2 = some (pos + 2) := usizeAdd_of_lt hpos
  unfold distanceFrom distanceAt
  rw [hhi, hlo]
  split
  · -- three bytes
    simp only [Option.bind_eq_bind, Option.bind_some]
    cases graph[pos + 1]? with
    | none => rfl
    | some hi => cases graph[pos + 2]? <;> rfl
  split
  · -- two bytes
    simp only [Option.bind_eq_bind, Option.bind_some]
    cases graph[pos + 1]? <;> rfl
  · rfl

theorem distanceAt_le {pos distance consumed : Nat} {b : UInt8}
    (h : distanceAt graph pos b = some (distance, consumed)) : consumed ≤ 3 := by
  unfold distanceAt at h
  split at h
  · simp only [Option.bind_eq_bind, Option.bind_eq_some_iff, Option.some.injEq,
      Prod.mk.injEq] at h
    obtain ⟨_, _, _, _, _, rfl⟩ := h
    omega
  split at h
  · simp only [Option.bind_eq_bind, Option.bind_eq_some_iff, Option.some.injEq,
      Prod.mk.injEq] at h
    obtain ⟨_, _, _, rfl⟩ := h
    omega
  · obtain ⟨-, rfl⟩ := Prod.mk.inj (Option.some.inj h)
    omega

/-- Every offset is read inside the graph, so its position fits. -/
theorem nextOffsetFrom_eq (hgraph : graph.length < 2 ^ 63) (pos offset : Nat) :
    nextOffsetFrom graph pos offset = some (getNextOffset graph pos offset) := by
  unfold nextOffsetFrom getNextOffset
  cases hb : graph[pos]? with
  | none => rfl
  | some b =>
      have hpos : pos < graph.length := (List.getElem?_eq_some_iff.mp hb).1
      simp only [distanceFrom_eq b (show pos + 2 < 2 ^ 64 by omega), Option.bind_eq_bind,
        Option.bind_some]
      cases hdistance : distanceAt graph pos b with
      | none => rfl
      | some read =>
          obtain ⟨distance, consumed⟩ := read
          have hconsumed := distanceAt_le hdistance
          have hnext : usizeAdd pos consumed = some (pos + consumed) :=
            usizeAdd_of_lt (by omega)
          simp only [Option.bind_some, hnext]
          cases checkedAdd offset distance with
          | none => rfl
          | some offset =>
              simp only [Option.bind_some]
              split <;> rfl

theorem isMatchAt_eq (offset keyPos : Nat) :
    isMatchAt graph offset key keyPos = isMatch graph offset (key.drop keyPos) := by
  have hhead : (key.drop keyPos).head? = key[keyPos]? := List.head?_drop
  unfold isMatchAt isMatch
  cases graph[offset]? <;> cases hkey : key[keyPos]? <;> simp only [hhead, hkey]

theorem isEndCharMatchAt_eq (offset keyPos : Nat) :
    isEndCharMatchAt graph offset key keyPos = isEndCharMatch graph offset (key.drop keyPos) := by
  have hhead : (key.drop keyPos).head? = key[keyPos]? := List.head?_drop
  unfold isEndCharMatchAt isEndCharMatch
  cases graph[offset]? <;> cases hkey : key[keyPos]? <;> simp only [hhead, hkey]

/-- A character that matches lies inside the graph. -/
theorem lt_of_isMatch {offset : Nat} (h : isMatch graph offset key = true) :
    offset < graph.length := by
  unfold isMatch at h
  cases hg : graph[offset]? with
  | none =>
      rw [hg] at h
      cases h
  | some g => exact (List.getElem?_eq_some_iff.mp hg).1

theorem lt_of_isEndCharMatch {offset : Nat} (h : isEndCharMatch graph offset key = true) :
    offset < graph.length := by
  unfold isEndCharMatch at h
  cases hg : graph[offset]? with
  | none =>
      rw [hg] at h
      cases h
  | some g => exact (List.getElem?_eq_some_iff.mp hg).1

theorem advance_eq {offset keyPos : Nat} (hoffset : offset < 2 ^ 63) (hkeyPos : keyPos < 2 ^ 63)
    (goOn : Nat → Nat → LookupState) :
    advance offset keyPos goOn = .goOn (goOn (offset + 1) (keyPos + 1)) := by
  unfold advance
  rw [usizeAdd_of_lt (show offset + 1 < 2 ^ 64 by omega),
    usizeAdd_of_lt (show keyPos + 1 < 2 ^ 64 by omega)]

/-! ## §3. The loop against the walk. -/

/-- What the walk gives after a turn of its own. -/
def answerVisit (graph key : Bytes) (pos offset : Nat) : Visit → Option UInt8
  | .next => lookupFrom graph key pos offset
  | .finished flags => flags
  | .dive offset key => lookupFrom graph key offset offset

/-- What the walk gives after the characters of a node. -/
def answerConsume (graph : Bytes) (pos : Nat) : Option (Nat × Bytes) → Option UInt8
  | none => none
  | some (offset, rest) => answerVisit graph rest pos offset (settle graph true offset rest)

/-- What the walk gives from a state on. -/
def LookupState.answer (graph key : Bytes) (s : LookupState) : Option UInt8 :=
  if s.inner then answerConsume graph s.pos (consume graph s.offset (key.drop s.keyPos))
  else lookupFrom graph (key.drop s.keyPos) s.pos s.offset

/-- The turns still to come: as many lists of children as the key has characters
left, and what is left of the list. -/
def LookupState.measure (graph key : Bytes) (s : LookupState) : Nat :=
  (key.length - s.keyPos) * (graph.length + 2)
    + if s.inner then graph.length + 1 else graph.length - s.pos

theorem lookupFrom_visit {pos offset pos' place : Nat}
    (h : getNextOffset graph pos offset = some (pos', place)) :
    lookupFrom graph key pos offset
      = answerVisit graph key pos' place (visit graph place key) := by
  rw [lookupFrom_some h]
  cases visit graph place key <;> rfl

/-- The last byte of a node that was begun never sends the walk to the next
child. -/
theorem settle_ne_next (offset : Nat) (rest : Bytes) : settle graph true offset rest ≠ .next := by
  cases rest with
  | nil =>
      simp only [settle]
      cases getReturnValue graph offset <;> exact fun h => Visit.noConfusion h
  | cons k rest =>
      simp only [settle]
      split <;> exact fun h => Visit.noConfusion h

theorem answerVisit_of_ne_next {v : Visit} (h : v ≠ .next) (key key' : Bytes)
    (pos offset offset' : Nat) :
    answerVisit graph key pos offset v = answerVisit graph key' pos offset' v := by
  cases v with
  | next => exact absurd rfl h
  | finished flags => rfl
  | dive offset key => rfl

/-- One character of the key pays for a whole list of children. -/
theorem measure_advance {keyPos : Nat} (h : keyPos < key.length) :
    (key.length - keyPos) * (graph.length + 2)
      = (key.length - (keyPos + 1)) * (graph.length + 2) + (graph.length + 2) := by
  obtain ⟨left, hleft⟩ : ∃ left, key.length - keyPos = left + 1 :=
    ⟨key.length - keyPos - 1, by omega⟩
  rw [hleft, show key.length - (keyPos + 1) = left by omega, Nat.succ_mul]

section

variable (hgraph : graph.length < 2 ^ 63) (hkey : key.length < 2 ^ 63)
include hgraph hkey

/-- The last byte of a node. -/
theorem settleTurn_follows {didConsume : Bool} {pos offset keyPos : Nat} {s : LookupState}
    (hkeyPos : keyPos ≤ key.length)
    (hnext : didConsume = false → LookupState.measure graph key ⟨pos, offset, keyPos, false⟩
      < s.measure graph key)
    (hdive : keyPos < key.length →
      (key.length - (keyPos + 1)) * (graph.length + 2) + graph.length < s.measure graph key)
    (hanswer : s.answer graph key = answerVisit graph (key.drop keyPos) pos offset
      (settle graph didConsume offset (key.drop keyPos))) :
    (settleTurn graph key didConsume pos offset keyPos).Follows
      (fun s => s.keyPos ≤ key.length) (LookupState.measure graph key)
      (LookupState.answer graph key) s := by
  -- the last byte did not fit: the loop goes on where nothing was consumed yet
  have hmiss : settle graph didConsume offset (key.drop keyPos)
        = (if didConsume then .finished none else .next) →
      (if didConsume then LoopTurn.returned none
        else .goOn (⟨pos, offset, keyPos, false⟩ : LookupState)).Follows
        (fun s => s.keyPos ≤ key.length) (LookupState.measure graph key)
        (LookupState.answer graph key) s := by
    intro hsettle
    rw [hsettle] at hanswer
    cases didConsume with
    | true => exact hanswer.symm
    | false => exact ⟨hkeyPos, hnext rfl, hanswer.symm⟩
  unfold settleTurn
  by_cases hend : keyPos = key.length
  · have hnil : key.drop keyPos = [] := by
      rw [hend]
      exact List.drop_length
    rw [if_pos hend]
    rw [hnil] at hanswer hmiss
    cases hvalue : getReturnValue graph offset with
    | some rv =>
        unfold settle at hanswer
        rw [hvalue] at hanswer
        exact hanswer.symm
    | none =>
        apply hmiss
        unfold settle
        rw [hvalue]
  · have hlt : keyPos < key.length := by omega
    have hcons : key.drop keyPos = key[keyPos] :: key.drop (keyPos + 1) :=
      List.drop_eq_getElem_cons hlt
    rw [if_neg hend, isEndCharMatchAt_eq]
    by_cases hmatch : isEndCharMatch graph offset (key.drop keyPos) = true
    · rw [hmatch, Bool.not_true, if_neg Bool.false_ne_true]
      have hoffset := lt_of_isEndCharMatch hmatch
      rw [advance_eq (by omega) (by omega)]
      rw [hcons] at hanswer hmatch
      rw [settle_hit hmatch] at hanswer
      refine ⟨hlt, ?_, hanswer.symm⟩
      have hless := hdive hlt
      show (key.length - (keyPos + 1)) * (graph.length + 2)
        + (graph.length - (offset + 1)) < _
      omega
    · rw [Bool.not_eq_true] at hmatch
      rw [hmatch, Bool.not_false, if_pos rfl]
      apply hmiss
      rw [hcons] at hmatch ⊢
      exact settle_miss (by rw [hmatch]; exact Bool.false_ne_true) didConsume

/-- A turn of the inner loop. -/
theorem innerTurn_follows {s : LookupState} (hinner : s.inner = true)
    (hkeyPos : s.keyPos ≤ key.length) :
    (lookupTurn graph key s).Follows (fun s => s.keyPos ≤ key.length)
      (LookupState.measure graph key) (LookupState.answer graph key) s := by
  obtain ⟨pos, offset, keyPos, inner⟩ := s
  obtain rfl : inner = true := hinner
  unfold lookupTurn
  rw [if_pos rfl]
  dsimp only at hkeyPos ⊢
  have hmeasure : LookupState.measure graph key ⟨pos, offset, keyPos, true⟩
      = (key.length - keyPos) * (graph.length + 2) + (graph.length + 1) := rfl
  have hanswer : LookupState.answer graph key ⟨pos, offset, keyPos, true⟩
      = answerConsume graph pos (consume graph offset (key.drop keyPos)) := rfl
  -- where the inner loop ends, the rest of the key is where it is
  have hsettles : consume graph offset (key.drop keyPos) = some (offset, key.drop keyPos) →
      (settleTurn graph key true pos offset keyPos).Follows (fun s => s.keyPos ≤ key.length)
        (LookupState.measure graph key) (LookupState.answer graph key)
        ⟨pos, offset, keyPos, true⟩ := by
    intro hconsume
    rw [hconsume] at hanswer
    refine settleTurn_follows hgraph hkey hkeyPos (fun h => (by cases h)) (fun hlt => ?_) hanswer
    have hpays : (key.length - keyPos) * (graph.length + 2) = _ := measure_advance hlt
    omega
  by_cases hlt : keyPos < key.length
  · have hcons : key.drop keyPos = key[keyPos] :: key.drop (keyPos + 1) :=
      List.drop_eq_getElem_cons hlt
    by_cases heol : isEol graph offset = true
    · rw [heol, Bool.not_true, Bool.false_and, if_neg Bool.false_ne_true]
      apply hsettles
      rw [hcons, consume, if_pos heol]
    · rw [Bool.not_eq_true] at heol
      rw [heol, decide_eq_true hlt, Bool.not_false, Bool.and_self, if_pos rfl, isMatchAt_eq]
      by_cases hmatch : isMatch graph offset (key.drop keyPos) = true
      · rw [hmatch, Bool.not_true, if_neg Bool.false_ne_true]
        have hoffset := lt_of_isMatch hmatch
        rw [advance_eq (by omega) (by omega)]
        refine ⟨hlt, ?_, ?_⟩
        · have hpays : (key.length - keyPos) * (graph.length + 2) = _ := measure_advance hlt
          show (key.length - (keyPos + 1)) * (graph.length + 2) + (graph.length + 1) < _
          omega
        · rw [hanswer, hcons, consume, heol, if_neg Bool.false_ne_true, ← hcons, hmatch]
          rfl
      · rw [Bool.not_eq_true] at hmatch
        rw [hmatch, Bool.not_false, if_pos rfl]
        rw [hcons] at hmatch
        rw [hcons, consume, heol, if_neg Bool.false_ne_true, hmatch] at hanswer
        exact hanswer.symm
  · have hnil : key.drop keyPos = [] := List.drop_eq_nil_of_le (by omega)
    rw [decide_eq_false hlt, Bool.and_false, if_neg Bool.false_ne_true]
    apply hsettles
    rw [hnil, consume]

/-- **One turn** leaves what the walk gives as it is. -/
theorem lookupTurn_follows {s : LookupState} (hkeyPos : s.keyPos ≤ key.length) :
    (lookupTurn graph key s).Follows (fun s => s.keyPos ≤ key.length)
      (LookupState.measure graph key) (LookupState.answer graph key) s := by
  cases hinner : s.inner with
  | true => exact innerTurn_follows hgraph hkey hinner hkeyPos
  | false =>
      obtain ⟨pos, offset, keyPos, inner⟩ := s
      obtain rfl : inner = false := hinner
      unfold lookupTurn
      rw [if_neg Bool.false_ne_true, nextOffsetFrom_eq hgraph]
      dsimp only at hkeyPos ⊢
      have hmeasure : LookupState.measure graph key ⟨pos, offset, keyPos, false⟩
          = (key.length - keyPos) * (graph.length + 2) + (graph.length - pos) := rfl
      -- the list of children ends, or there is a child to look at
      cases hnext : getNextOffset graph pos offset with
      | none => exact (lookupFrom_none hnext).symm
      | some read =>
          obtain ⟨pos', place⟩ := read
          obtain ⟨hpos, hgrows⟩ := getNextOffset_lt hnext
          have hanswer : LookupState.answer graph key ⟨pos, offset, keyPos, false⟩
              = answerVisit graph (key.drop keyPos) pos' place
                (visit graph place (key.drop keyPos)) := lookupFrom_visit hnext
          have hrest : LookupState.measure graph key ⟨pos', place, keyPos, false⟩
              < LookupState.measure graph key ⟨pos, offset, keyPos, false⟩ := by
            show (key.length - keyPos) * (graph.length + 2) + (graph.length - pos') < _
            omega
          have hsettles : visit graph place (key.drop keyPos)
                = settle graph false place (key.drop keyPos) →
              (settleTurn graph key false pos' place keyPos).Follows
                (fun s => s.keyPos ≤ key.length) (LookupState.measure graph key)
                (LookupState.answer graph key) ⟨pos, offset, keyPos, false⟩ := by
            intro hvisit
            rw [hvisit] at hanswer
            refine settleTurn_follows hgraph hkey hkeyPos (fun _ => hrest) (fun hlt => ?_) hanswer
            have hpays : (key.length - keyPos) * (graph.length + 2) = _ := measure_advance hlt
            omega
          dsimp only
          -- a child that is compared, unless the key or its label is used up
          by_cases hlt : keyPos < key.length
          · have hcons : key.drop keyPos = key[keyPos] :: key.drop (keyPos + 1) :=
              List.drop_eq_getElem_cons hlt
            by_cases heol : isEol graph place = true
            · rw [heol, Bool.not_true, Bool.and_false, if_neg Bool.false_ne_true]
              apply hsettles
              rw [hcons, visit_eol heol]
            · rw [Bool.not_eq_true] at heol
              rw [heol, decide_eq_true hlt, Bool.not_false, Bool.and_self, if_pos rfl,
                isMatchAt_eq]
              by_cases hmatch : isMatch graph place (key.drop keyPos) = true
              -- the first character fits: the inner loop takes the rest of the label
              · rw [hmatch, Bool.not_true, if_neg Bool.false_ne_true]
                have hplace := lt_of_isMatch hmatch
                rw [advance_eq (by omega) (by omega)]
                refine ⟨hlt, ?_, ?_⟩
                · have hpays : (key.length - keyPos) * (graph.length + 2) = _ :=
                    measure_advance hlt
                  show (key.length - (keyPos + 1)) * (graph.length + 2)
                    + (graph.length + 1) < _
                  omega
                · rw [hanswer, hcons, visit, heol, if_neg Bool.false_ne_true, ← hcons, hmatch]
                  show answerConsume graph pos' (consume graph (place + 1) _) = _
                  rw [if_neg (by decide)]
                  cases consume graph (place + 1) (key.drop (keyPos + 1)) with
                  | none => rfl
                  | some went =>
                      exact answerVisit_of_ne_next (settle_ne_next went.1 went.2) _ _ _ _ _
              -- another child, at the same place of the key
              · rw [Bool.not_eq_true] at hmatch
                rw [hmatch, Bool.not_false, if_pos rfl]
                refine ⟨hkeyPos, hrest, ?_⟩
                rw [hcons] at hmatch
                rw [hcons, visit, heol, if_neg Bool.false_ne_true, hmatch] at hanswer
                rw [hanswer]
                show lookupFrom graph (key.drop keyPos) pos' place = _
                rw [hcons]
                rfl
          · have hnil : key.drop keyPos = [] := List.drop_eq_nil_of_le (by omega)
            rw [decide_eq_false hlt, Bool.false_and, if_neg Bool.false_ne_true]
            apply hsettles
            rw [hnil, visit]

end

/-- **On any bytes**: the loop returns within a number of turns that the two
lengths bound, and no addition overflows. -/
theorem lookup_halts (graph key : ByteSlice) (extra : Nat) :
    runLookup graph.bytes key.bytes
        ((key.bytes.length + 1) * (graph.bytes.length + 2) + extra)
      = .returned (lookup graph.bytes key.bytes) := by
  refine execute_eq_returned (fun s hs => lookupTurn_follows graph.length_lt key.length_lt hs)
    _ ⟨0, 0, 0, false⟩ (Nat.zero_le _) ?_
  show key.bytes.length * (graph.bytes.length + 2) + graph.bytes.length < _
  rw [Nat.succ_mul]
  omega

end

/-! ## §4. Well-formed graphs. -/

/-- A graph that spells exactly the keys of a map, with their flags. -/
structure EncodesMap (graph : Bytes) (flagsOf : Bytes → Option UInt8) : Prop where
  wellFormed : WellFormed graph
  hasKey_iff : ∀ key flags, HasKey graph key flags ↔ flagsOf key = some flags

/-- **A well-formed graph is looked up as the map it encodes.** -/
theorem lookup_decodes (psl : DafsaFilePublicSuffixList) {flagsOf : Bytes → Option UInt8}
    (hencodes : EncodesMap psl.graph flagsOf) {key : Bytes} (hkey : ∀ c ∈ key, IsChar c) :
    lookup psl.graph key = flagsOf key := by
  apply Option.ext
  intro flags
  rw [lookup_eq_some psl.graph_lt hencodes.wellFormed hkey flags]
  exact hencodes.hasKey_iff key flags

/-- The flags of `jp` and of `*.kawasaki.jp`. -/
def kawasakiFlags (key : Bytes) : Option UInt8 :=
  if key = jp.text then some 4 else if key = kawasaki.text then some 6 else none

theorem kawasaki_encodesMap : EncodesMap kawasakiFile.graph kawasakiFlags := by
  refine ⟨⟨_, kawasaki_siblings⟩, fun key flags => ?_⟩
  rw [kawasaki_hasKey_iff]
  unfold kawasakiFlags
  have hne : jp.text ≠ kawasaki.text := by decide
  constructor
  · rintro (⟨rfl, rfl⟩ | ⟨rfl, rfl⟩)
    · exact if_pos rfl
    · rw [if_neg hne.symm, if_pos rfl]
  · intro h
    split at h
    next hkey => exact Or.inl ⟨hkey, (Option.some.inj h).symm⟩
    next =>
      split at h
      next hkey => exact Or.inr ⟨hkey, (Option.some.inj h).symm⟩
      next => cases h

theorem lookup_decodes_kawasaki :
    lookup kawasakiFile.graph kawasaki.text = kawasakiFlags kawasaki.text
      ∧ kawasakiFlags kawasaki.text = some 6 :=
  ⟨lookup_decodes kawasakiFile kawasaki_encodesMap (forall_mem_of_all (by decide)), by decide⟩

end Libwebauthn.Psl
