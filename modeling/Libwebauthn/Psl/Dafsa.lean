/-
  Libwebauthn.Psl.Dafsa — the reader of libpsl's binary Public Suffix List
  (`psl/dafsa.rs`).

  `lookup` walks a graph of bytes from the list of the root's children;
  `isPublicSuffix` asks it for a name and for the name without its first label,
  and `publicSuffix` shortens the host until the answer is yes.  The walk keeps
  what is left of the key where the source keeps a position in it.
-/
import Libwebauthn.Psl.PublicSuffixList

namespace Libwebauthn.Psl

/-! ## §1. Reading the graph. -/

def FLAG_EXCEPTION : UInt8 := (1 : UInt8) <<< 0

def FLAG_WILDCARD : UInt8 := (1 : UInt8) <<< 1

/-- `usize::checked_add`. -/
def checkedAdd (a b : Nat) : Option Nat := if a + b < 2 ^ 64 then some (a + b) else none

/-- The distance that the offset at `pos` spells, `b` its first byte, and its
size. -/
def distanceAt (graph : Bytes) (pos : Nat) (b : UInt8) : Option (Nat × Nat) :=
  if b &&& 0x60 = 0x60 then do
    let hi ← graph[pos + 1]?
    let lo ← graph[pos + 2]?
    some ((b &&& 0x1F).toNat <<< 16 ||| hi.toNat <<< 8 ||| lo.toNat, 3)
  else if b &&& 0x60 = 0x40 then do
    let lo ← graph[pos + 1]?
    some ((b &&& 0x1F).toNat <<< 8 ||| lo.toNat, 2)
  else some ((b &&& 0x3F).toNat, 1)

/-- The next child of a list: the list's position after it, and its place. -/
def getNextOffset (graph : Bytes) (pos offset : Nat) : Option (Nat × Nat) := do
  let b ← graph[pos]?
  let (distance, consumed) ← distanceAt graph pos b
  let offset ← checkedAdd offset distance
  some (if b &&& 0x80 ≠ 0 then graph.length else pos + consumed, offset)

def isEol (graph : Bytes) (offset : Nat) : Bool :=
  graph[offset]?.any fun b => b &&& 0x80 ≠ 0

def isMatch (graph : Bytes) (offset : Nat) (key : Bytes) : Bool :=
  match graph[offset]?, key.head? with
  | some g, some k => g = k
  | _, _ => false

def isEndCharMatch (graph : Bytes) (offset : Nat) (key : Bytes) : Bool :=
  match graph[offset]?, key.head? with
  | some g, some k => g ^^^ 0x80 = k
  | _, _ => false

def getReturnValue (graph : Bytes) (offset : Nat) : Option UInt8 :=
  graph[offset]?.bind fun b => if b &&& 0xE0 = 0x80 then some (b &&& 0x0F) else none

/-! ## §2. The walk. -/

/-- How the loop of `lookup` goes on after a child. -/
inductive Visit
  /-- `continue` with the next child. -/
  | next
  /-- `return`. -/
  | finished (flags : Option UInt8)
  /-- The list of children at `offset`, for the rest of the key. -/
  | dive (offset : Nat) (key : Bytes)
  deriving DecidableEq

/-- The inner loop: the characters of a node before its last byte. -/
def consume (graph : Bytes) : Nat → Bytes → Option (Nat × Bytes)
  | offset, [] => some (offset, [])
  | offset, k :: key =>
      if isEol graph offset then some (offset, k :: key)
      else if !isMatch graph offset (k :: key) then none
      else consume graph (offset + 1) key

/-- What follows the inner loop: the last byte of a node. -/
def settle (graph : Bytes) (didConsume : Bool) (offset : Nat) : Bytes → Visit
  | [] =>
      match getReturnValue graph offset with
      | some rv => .finished (some rv)
      | none => if didConsume then .finished none else .next
  | k :: key =>
      if !isEndCharMatch graph offset (k :: key) then
        if didConsume then .finished none else .next
      else .dive (offset + 1) key

/-- One turn of the loop, at the child at `offset`. -/
def visit (graph : Bytes) (offset : Nat) : Bytes → Visit
  | [] => settle graph false offset []
  | k :: key =>
      if isEol graph offset then settle graph false offset (k :: key)
      else if !isMatch graph offset (k :: key) then .next
      else
        match consume graph (offset + 1) key with
        | none => .finished none
        | some (offset, key) => settle graph true offset key

theorem distanceAt_pos {graph : Bytes} {pos distance consumed : Nat} {b : UInt8}
    (h : distanceAt graph pos b = some (distance, consumed)) : 0 < consumed := by
  unfold distanceAt at h
  split at h
  · simp only [Option.bind_eq_bind, Option.bind_eq_some_iff, Option.some.injEq,
      Prod.mk.injEq] at h
    obtain ⟨_, _, _, _, _, rfl⟩ := h
    omega
  · split at h
    · simp only [Option.bind_eq_bind, Option.bind_eq_some_iff, Option.some.injEq,
        Prod.mk.injEq] at h
      obtain ⟨_, _, _, rfl⟩ := h
      omega
    · cases h
      omega

theorem getNextOffset_lt {graph : Bytes} {pos offset pos' offset' : Nat}
    (h : getNextOffset graph pos offset = some (pos', offset')) :
    pos < graph.length ∧ pos < pos' := by
  simp only [getNextOffset, Option.bind_eq_bind, Option.bind_eq_some_iff, Option.some.injEq,
    Prod.mk.injEq] at h
  obtain ⟨b, hb, ⟨distance, consumed⟩, hread, _, _, hpos', _⟩ := h
  have hpos : pos < graph.length := (List.getElem?_eq_some_iff.mp hb).1
  have hconsumed := distanceAt_pos hread
  refine ⟨hpos, ?_⟩
  rw [← hpos']
  split <;> omega

theorem consume_length_le {graph : Bytes} {key : Bytes} :
    ∀ {offset offset' : Nat} {key' : Bytes},
      consume graph offset key = some (offset', key') → key'.length ≤ key.length := by
  induction key with
  | nil =>
      intro offset offset' key' h
      cases h
      exact Nat.le_refl 0
  | cons k key ih =>
      intro offset offset' key' h
      simp only [consume] at h
      split at h
      · cases h
        exact Nat.le_refl _
      · split at h
        · cases h
        · exact Nat.le_succ_of_le (ih h)

theorem settle_dive_length {graph key key' : Bytes} {didConsume : Bool} {offset offset' : Nat}
    (h : settle graph didConsume offset key = .dive offset' key') :
    key'.length < key.length := by
  cases key with
  | nil =>
      simp only [settle] at h
      split at h
      · cases h
      · split at h <;> cases h
  | cons k key =>
      simp only [settle] at h
      split at h
      · split at h <;> cases h
      · cases h
        exact Nat.lt_succ_self _

/-- Diving uses up a character of the key. -/
theorem visit_dive_length {graph key key' : Bytes} {offset offset' : Nat}
    (h : visit graph offset key = .dive offset' key') : key'.length < key.length := by
  cases key with
  | nil => exact settle_dive_length h
  | cons k key =>
      simp only [visit] at h
      split at h
      · exact settle_dive_length h
      · split at h
        · cases h
        · split at h
          · cases h
          · next hconsume =>
              have hle := consume_length_le hconsume
              have hlt := settle_dive_length h
              rw [List.length_cons]
              omega

/-- The loop of `lookup`. -/
def lookupFrom (graph key : Bytes) (pos offset : Nat) : Option UInt8 :=
  match _hnext : getNextOffset graph pos offset with
  | none => none
  | some (pos', offset') =>
      match _hvisit : visit graph offset' key with
      | .next => lookupFrom graph key pos' offset'
      | .finished flags => flags
      | .dive offset key => lookupFrom graph key offset offset
termination_by (key.length, graph.length - pos)
decreasing_by
  · have := getNextOffset_lt _hnext
    apply Prod.Lex.right
    omega
  · exact Prod.Lex.left _ _ (visit_dive_length _hvisit)

def lookup (graph key : Bytes) : Option UInt8 := lookupFrom graph key 0 0

/-! ## §3. The public suffix of a host. -/

def isPublicSuffix (graph domain : Bytes) : Bool :=
  match lookup graph domain with
  | some flags => flags &&& FLAG_EXCEPTION = 0
  | none =>
      match splitFirst [dot] domain with
      | some (_, parent) =>
          match lookup graph parent with
          | some flags => flags &&& FLAG_WILDCARD ≠ 0
          | none => false
      | none => false

/-- The loop of `public_suffix`. -/
def publicSuffix (graph current : Bytes) : Option Bytes :=
  if isPublicSuffix graph current then some current
  else
    match _hsplit : splitFirst [dot] current with
    | some (_, rest) => publicSuffix graph rest
    | none => none
termination_by current.length
decreasing_by exact length_lt_of_splitFirst _hsplit

/-- `DafsaFilePublicSuffixList`; a `Vec` has fewer than `2 ^ 63` bytes. -/
structure DafsaFilePublicSuffixList where
  graph : Bytes
  graph_lt : graph.length < 2 ^ 63

def DafsaFilePublicSuffixList.toPublicSuffixList (self : DafsaFilePublicSuffixList) :
    PublicSuffixList where
  publicSuffix := publicSuffix self.graph

/-- **In labels**, the public suffix is the longest suffix of the host that
`isPublicSuffix` accepts. -/
theorem publicSuffix_eq (graph host : Bytes) :
    publicSuffix graph host
      = (longestSuffix (fun ls => isPublicSuffix graph (join ls)) (labels host)).map join := by
  induction hn : host.length using Nat.strongRecOn generalizing host with
  | ind n ih =>
      subst hn
      unfold publicSuffix
      split
      · next haccepts =>
          obtain ⟨l, ls, hls⟩ := List.exists_cons_of_ne_nil (labels_ne_nil host)
          have hjoin : join (l :: ls) = host := by rw [← hls, join_labels]
          rw [hls, longestSuffix, hjoin, if_pos haccepts, Option.map_some, hjoin]
      · next haccepts =>
          split
          · next label rest hsplit =>
              have hlabels : labels host = label :: labels rest := splitOn_of_splitFirst hsplit
              have hjoin : join (label :: labels rest) = host := by
                rw [← hlabels, join_labels]
              rw [hlabels, longestSuffix, hjoin, if_neg haccepts]
              exact ih rest.length (length_lt_of_splitFirst hsplit) rest rfl
          · next hsplit =>
              have hlabels : labels host = [host] := splitOn_of_splitFirst_none hsplit
              have hjoin : join [host] = host := by rw [← hlabels, join_labels]
              rw [hlabels, longestSuffix, hjoin, if_neg haccepts]
              rfl

end Libwebauthn.Psl
