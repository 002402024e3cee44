/-
  Libwebauthn.Lib.Delimited — messages in a stream, each ended by a
  delimiter.

  `splitFirst d xs` cuts a stream at the first place where the delimiter
  stands; `terminated d ms` is the stream of the messages `ms`, and `Pieces` a
  stream cut at its successive leftmost delimiters.
-/
import Mathlib.Data.List.Infix
import Mathlib.Data.List.Basic

namespace Libwebauthn

variable {α : Type*} [DecidableEq α]

/-! ## §1. The first delimiter. -/

/-- The index of the first window of `xs` that is `d`. -/
def positionOf (d : List α) : List α → Option Nat
  | [] => none
  | x :: xs => if d <+: x :: xs then some 0 else (positionOf d xs).map (· + 1)

/-- What stands before the first delimiter, and what follows it. -/
def splitFirst (d xs : List α) : Option (List α × List α) :=
  (positionOf d xs).map fun i => (xs.take i, xs.drop (i + d.length))

@[simp] theorem splitFirst_nil (d : List α) : splitFirst d [] = none := rfl

theorem splitFirst_cons_hit {d : List α} {x : α} {xs : List α} (h : d <+: x :: xs) :
    splitFirst d (x :: xs) = some ([], (x :: xs).drop d.length) := by
  rw [splitFirst, positionOf, if_pos h, Option.map_some, Nat.zero_add]
  rfl

theorem splitFirst_cons_miss {d : List α} {x : α} {xs : List α}
    (h : ¬ d <+: x :: xs) :
    splitFirst d (x :: xs) = (splitFirst d xs).map fun cut => (x :: cut.1, cut.2) := by
  rw [splitFirst, positionOf, if_neg h, splitFirst, Option.map_map, Option.map_map]
  congr 1
  funext i
  show (_, _) = (_, _)
  rw [Nat.add_right_comm]
  rfl

omit [DecidableEq α] in
/-- A delimiter in front of a longer list does not overlap its last part. -/
theorem infix_of_prefix_append {d m rest : List α} (hd : d ≠ []) (hm : m ≠ [])
    (h : d <+: m ++ d ++ rest) : d <:+: m ++ d.dropLast := by
  have hpos := List.length_pos_iff.mpr hm
  have hlast : m ++ d.dropLast <+: m ++ d ++ rest := by
    refine List.IsPrefix.trans ?_ (List.prefix_append (m ++ d) rest)
    exact List.prefix_append_right_inj m |>.mpr (List.dropLast_prefix d)
  refine (List.prefix_of_prefix_length_le h hlast ?_).isInfix
  have := List.length_pos_iff.mpr hd
  rw [List.length_append, List.length_dropLast]
  omega

/-- **What is cut off**: everything up to a delimiter that no other one
precedes. -/
theorem splitFirst_eq_some_iff {d : List α} (hd : d ≠ []) (xs : List α) :
    ∀ m rest, splitFirst d xs = some (m, rest)
      ↔ xs = m ++ d ++ rest ∧ ¬ d <:+: m ++ d.dropLast := by
  have hshort : ¬ d <:+: d.dropLast := by
    intro h
    have hlen := h.length_le
    have := List.length_pos_iff.mpr hd
    rw [List.length_dropLast] at hlen
    omega
  -- by induction on the input: the delimiter starts here, or the first element belongs to
  -- the message
  induction xs with
  | nil =>
      intro m rest
      rw [splitFirst_nil]
      constructor
      · intro h
        cases h
      · rintro ⟨h, _⟩
        have hnil := (List.append_eq_nil_iff.mp h.symm).1
        exact absurd (List.append_eq_nil_iff.mp hnil).2 hd
  | cons x xs ih =>
      intro m rest
      by_cases hpre : d <+: x :: xs
      · rw [splitFirst_cons_hit hpre, Option.some.injEq, Prod.mk.injEq]
        constructor
        · rintro ⟨rfl, rfl⟩
          exact ⟨(List.prefix_iff_eq_append.mp hpre).symm, hshort⟩
        · rintro ⟨hxs, hno⟩
          -- a longer message would have the delimiter inside
          have hm : m = [] := by
            by_contra hm
            exact hno (infix_of_prefix_append hd hm (hxs ▸ hpre))
          rw [hm, List.nil_append] at hxs
          refine ⟨hm.symm, ?_⟩
          rw [hxs, List.drop_left]
      · rw [splitFirst_cons_miss hpre, Option.map_eq_some_iff]
        constructor
        · rintro ⟨⟨m', rest'⟩, hcut, heq⟩
          obtain ⟨rfl, rfl⟩ := Prod.mk.inj heq
          obtain ⟨rfl, hno⟩ := (ih m' rest').mp hcut
          refine ⟨rfl, ?_⟩
          show ¬ d <:+: x :: (m' ++ d.dropLast)
          rw [List.infix_cons_iff, not_or]
          refine ⟨fun h => hpre (h.trans ?_), hno⟩
          rw [List.append_assoc, ← List.cons_append, ← List.cons_append,
            List.prefix_append_right_inj]
          exact (List.dropLast_prefix d).trans (List.prefix_append d rest')
        · rintro ⟨hxs, hno⟩
          cases m with
          | nil => exact absurd (hxs ▸ List.prefix_append d rest) hpre
          | cons y m =>
              obtain ⟨rfl, htail⟩ := List.cons.inj hxs
              refine ⟨(m, rest), (ih m rest).mpr ⟨htail, ?_⟩, rfl⟩
              exact fun h => hno (List.infix_cons h)

/-- A delimiter somewhere is found. -/
theorem splitFirst_ne_none_of_infix {d xs : List α} (hd : d ≠ []) (h : d <:+: xs) :
    splitFirst d xs ≠ none := by
  induction xs with
  | nil => exact absurd (List.infix_nil.mp h) hd
  | cons x xs ih =>
      by_cases hpre : d <+: x :: xs
      · rw [splitFirst_cons_hit hpre]
        exact Option.some_ne_none _
      · rw [splitFirst_cons_miss hpre]
        have htail := ih ((List.infix_cons_iff.mp h).resolve_left hpre)
        rw [Ne, Option.map_eq_none_iff]
        exact htail

/-- More of the stream does not move the cut. -/
theorem splitFirst_append {d : List α} (hd : d ≠ []) {xs m rest : List α}
    (h : splitFirst d xs = some (m, rest)) (ys : List α) :
    splitFirst d (xs ++ ys) = some (m, rest ++ ys) := by
  rw [splitFirst_eq_some_iff hd] at h ⊢
  refine ⟨?_, h.2⟩
  rw [h.1, List.append_assoc]

/-! ## §2. Streams of messages. -/

/-- Every message followed by the delimiter. -/
def terminated (d : List α) (messages : List (List α)) : List α :=
  messages.flatMap (· ++ d)

theorem splitFirst_terminated_iff {d : List α} (hd : d ≠ []) (m rest : List α) :
    splitFirst d (m ++ d ++ rest) = some (m, rest) ↔ ¬ d <:+: m ++ d.dropLast := by
  rw [splitFirst_eq_some_iff hd]
  exact ⟨fun h => h.2, fun h => ⟨rfl, h⟩⟩

omit [DecidableEq α] in
/-- Two different elements stand in `m` as soon as they do in `m ++ [a]`. -/
theorem pair_infix_append_iff {a b : α} (hab : a ≠ b) (m : List α) :
    [a, b] <:+: m ++ [a] ↔ [a, b] <:+: m := by
  constructor
  · rintro ⟨s, t, h⟩
    rcases List.eq_nil_or_concat t with rfl | ⟨t', c, rfl⟩
    · have hsplit : (s ++ [a]) ++ [b] = m ++ [a] := by simpa using h
      exact absurd (List.append_inj' hsplit rfl).2 (by simpa using hab.symm)
    · have hsplit : (s ++ [a, b] ++ t') ++ [c] = m ++ [a] := by simpa using h
      exact ⟨s, t', (List.append_inj' hsplit rfl).1⟩
  · exact fun h => h.trans (List.prefix_append m [a]).isInfix

/-! ## §3. All the cuts of a stream. -/

/-- The pieces of a stream that its leftmost delimiters end, one after the
other, and what is left behind the last of them. -/
inductive Pieces (d : List α) : List α → List (List α) → List α → Prop
  | last {rest : List α} (hnone : ¬ d <:+: rest) : Pieces d rest [] rest
  | cut {piece rest last : List α} {pieces : List (List α)}
      (hleftmost : ¬ d <:+: piece ++ d.dropLast) (hrest : Pieces d rest pieces last) :
      Pieces d (piece ++ d ++ rest) (piece :: pieces) last

omit [DecidableEq α] in
/-- Every stream can be cut up so. -/
theorem exists_pieces {d : List α} (hd : d ≠ []) (stream : List α) :
    ∃ pieces last, Pieces d stream pieces last := by
  classical
  induction hn : stream.length using Nat.strongRecOn generalizing stream with
  | ind n ih =>
      subst hn
      cases hcut : splitFirst d stream with
      | none =>
          refine ⟨[], stream, .last fun hinfix => ?_⟩
          exact splitFirst_ne_none_of_infix hd hinfix hcut
      | some cut =>
          obtain ⟨piece, rest⟩ := cut
          obtain ⟨rfl, hleftmost⟩ := (splitFirst_eq_some_iff hd stream piece rest).mp hcut
          have hpos := List.length_pos_iff.mpr hd
          have hshorter : rest.length < (piece ++ d ++ rest).length := by
            rw [List.length_append, List.length_append]
            omega
          obtain ⟨pieces, last, hpieces⟩ := ih rest.length hshorter rest rfl
          exact ⟨piece :: pieces, last, .cut hleftmost hpieces⟩

end Libwebauthn
