/-
  Libwebauthn.Lib.Escape — strings written by an escape table.

  A table gives the symbols of one character; a string is written character by
  character, up to a terminator that no character starts with.

    • `flatMap_stop_inj` — what a table with a decoder writes determines the
      string and where it ends;
    • `flatMap_prefix_iff` — when one table writes a prefix of what another
      one does.
-/
import Mathlib.Data.List.Basic

namespace Libwebauthn

variable {α β : Type*}

/-! ## §1. One table. -/

/-- A decoder for one character, and no character at the terminator. -/
structure EscapeTable (escape : α → List β) (stop : β) (decode : List β → Option (α × List β)) :
    Prop where
  decode_escape : ∀ c rest, decode (escape c ++ rest) = some (c, rest)
  decode_stop : ∀ rest, decode (stop :: rest) = none

/-- **Reading a string back**: up to the terminator nothing is lost. -/
theorem EscapeTable.flatMap_stop_inj {escape : α → List β} {stop : β}
    {decode : List β → Option (α × List β)} (h : EscapeTable escape stop decode) (s : List α) :
    ∀ {t : List α} {x y : List β},
      s.flatMap escape ++ stop :: x = t.flatMap escape ++ stop :: y → s = t ∧ x = y := by
  -- by induction on the first string: what decodes first is the same on both sides
  induction s with
  | nil =>
      intro t x y heq
      cases t with
      | nil => exact ⟨rfl, List.cons.inj heq |>.2⟩
      | cons d t =>
          rw [List.flatMap_cons, List.append_assoc] at heq
          have hnone := h.decode_stop x
          rw [show stop :: x = _ from heq, h.decode_escape] at hnone
          cases hnone
  | cons c s ih =>
      intro t x y heq
      rw [List.flatMap_cons, List.append_assoc] at heq
      cases t with
      | nil =>
          have hnone := h.decode_stop y
          rw [show stop :: y = _ from heq.symm, h.decode_escape] at hnone
          cases hnone
      | cons d t =>
          rw [List.flatMap_cons, List.append_assoc] at heq
          have hread := h.decode_escape c (s.flatMap escape ++ stop :: x)
          rw [heq, h.decode_escape] at hread
          obtain ⟨rfl, hrest⟩ := Prod.mk.inj (Option.some.inj hread)
          obtain ⟨rfl, rfl⟩ := ih hrest.symm
          exact ⟨rfl, rfl⟩

/-! ## §2. Two tables. -/

/-- The tables write the same for `P`, and part for anything else. -/
structure PartsFrom (escape escape' : α → List β) (P : α → Prop) : Prop where
  same : ∀ c, P c → escape c = escape' c
  parts : ∀ c, ¬ P c → ∀ x y, ¬ escape c ++ x <+: escape' c ++ y

theorem PartsFrom.flatMap_eq {escape escape' : α → List β} {P : α → Prop}
    (h : PartsFrom escape escape' P) {s : List α} (hs : ∀ c ∈ s, P c) :
    s.flatMap escape = s.flatMap escape' := by
  induction s with
  | nil => rfl
  | cons c s ih =>
      rw [List.flatMap_cons, List.flatMap_cons, h.same c (hs c (List.mem_cons_self ..)),
        ih fun d hd => hs d (List.mem_cons_of_mem _ hd)]

/-- **When one table writes a prefix** of what the other one writes. -/
theorem PartsFrom.flatMap_prefix_iff {escape escape' : α → List β} {P : α → Prop}
    (h : PartsFrom escape escape' P) (s : List α) (x y : List β) :
    s.flatMap escape ++ x <+: s.flatMap escape' ++ y ↔ (∀ c ∈ s, P c) ∧ x <+: y := by
  induction s with
  | nil => simp
  | cons c s ih =>
      rw [List.flatMap_cons, List.flatMap_cons, List.append_assoc, List.append_assoc]
      by_cases hc : P c
      · rw [h.same c hc, List.prefix_append_right_inj, ih]
        simp [hc]
      · constructor
        · intro hprefix
          exact absurd hprefix (h.parts c hc _ _)
        · intro hall
          exact absurd (hall.1 c (List.mem_cons_self ..)) hc

end Libwebauthn
