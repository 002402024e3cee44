/-
  Libwebauthn.Lib.Labels — words of labels, and their suffixes.

  A word over an alphabet with a separator is a list of labels:
  `xs.splitOn dot` cuts it and `[dot].intercalate` puts it together again.
  `longestSuffix` is the longest suffix that a test accepts, the first one found
  when a list is shortened from the front.
-/
import Mathlib.Data.List.Infix
import Libwebauthn.Lib.Delimited

namespace Libwebauthn

variable {α : Type*}

/-! ## §1. The labels of a word. -/

section Labels

variable [DecidableEq α]

omit [DecidableEq α] in
theorem intercalate_append (dot : α) (ls : List (List α)) {ms : List (List α)}
    (hls : ls ≠ []) (hms : ms ≠ []) :
    [dot].intercalate (ls ++ ms)
      = [dot].intercalate ls ++ dot :: [dot].intercalate ms := by
  induction ls with
  | nil => exact absurd rfl hls
  | cons l ls ih =>
      rw [List.cons_append]
      cases ls with
      | nil =>
          rw [List.nil_append, List.intercalate_cons_of_ne_nil hms,
            List.intercalate_singleton, List.append_assoc]
          rfl
      | cons l' ls =>
          have hne : l' :: ls ++ ms ≠ [] := List.cons_ne_nil l' (ls ++ ms)
          rw [List.intercalate_cons_of_ne_nil hne, ih (List.cons_ne_nil l' ls),
            List.intercalate_cons_of_ne_nil (List.cons_ne_nil l' ls)]
          simp only [List.append_assoc]

theorem splitOn_inj (dot : α) {xs ys : List α} (h : xs.splitOn dot = ys.splitOn dot) :
    xs = ys := by
  have hjoin := congrArg [dot].intercalate h
  rwa [List.intercalate_splitOn, List.intercalate_splitOn] at hjoin

/-- **A suffix of the labels** is the word itself, or what stands after a
separator. -/
theorem splitOn_suffix_iff (dot : α) (xs ys : List α) :
    xs.splitOn dot <:+ ys.splitOn dot ↔ xs = ys ∨ ∃ front, ys = front ++ dot :: xs := by
  constructor
  · rintro ⟨ls, hls⟩
    by_cases hnil : ls = []
    · rw [hnil, List.nil_append] at hls
      exact Or.inl (splitOn_inj dot hls)
    · refine Or.inr ⟨[dot].intercalate ls, ?_⟩
      have hjoin := congrArg [dot].intercalate hls
      rw [intercalate_append dot ls hnil (List.splitOn_ne_nil dot xs),
        List.intercalate_splitOn, List.intercalate_splitOn] at hjoin
      exact hjoin.symm
  · intro h
    rcases h with rfl | ⟨front, rfl⟩
    · exact List.suffix_refl _
    · rw [List.splitOn_append_cons_self]
      exact List.suffix_append _ _

/-- A label is put in front with a separator. -/
theorem splitOn_cons_label {dot : α} {label : List α} (h : dot ∉ label) (xs : List α) :
    (label ++ dot :: xs).splitOn dot = label :: xs.splitOn dot :=
  List.splitOn_append_cons_self_of_not_mem h xs

theorem not_mem_of_mem_splitOn {dot : α} {xs label : List α} (h : label ∈ xs.splitOn dot) :
    dot ∉ label := by
  induction xs generalizing label with
  | nil =>
      rw [List.splitOn_nil, List.mem_singleton] at h
      rw [h]
      exact List.not_mem_nil
  | cons x xs ih =>
      rw [List.splitOn_cons_eq_if_modifyHead] at h
      by_cases hx : x = dot
      · rw [if_pos (beq_iff_eq.mpr hx), List.mem_cons] at h
        rcases h with rfl | h
        · exact List.not_mem_nil
        · exact ih h
      · rw [if_neg (fun hb => hx (beq_iff_eq.mp hb))] at h
        cases hs : xs.splitOn dot with
        | nil => exact absurd hs (List.splitOn_ne_nil dot xs)
        | cons l ls =>
            rw [hs] at h ih
            rcases List.mem_cons.mp h with rfl | h
            · intro hmem
              rcases List.mem_cons.mp hmem with hd | hd
              · exact hx hd.symm
              · exact ih List.mem_cons_self hd
            · exact ih (List.mem_cons_of_mem l h)

/-- **Cutting at the first separator** takes the first label off. -/
theorem splitOn_of_splitFirst {dot : α} {xs label rest : List α}
    (h : splitFirst [dot] xs = some (label, rest)) :
    xs.splitOn dot = label :: rest.splitOn dot := by
  obtain ⟨hxs, hno⟩ := (splitFirst_eq_some_iff (List.cons_ne_nil dot []) xs label rest).mp h
  have hlabel : dot ∉ label := by
    intro hmem
    apply hno
    obtain ⟨s, t, rfl⟩ := List.append_of_mem hmem
    exact ⟨s, t, by simp⟩
  rw [hxs, List.append_assoc]
  exact splitOn_cons_label hlabel rest

theorem length_lt_of_splitFirst {dot : α} {xs label rest : List α}
    (h : splitFirst [dot] xs = some (label, rest)) : rest.length < xs.length := by
  obtain ⟨rfl, -⟩ := (splitFirst_eq_some_iff (List.cons_ne_nil dot []) xs label rest).mp h
  simp only [List.length_append, List.length_singleton]
  omega

/-- Without a separator the word is one label. -/
theorem splitOn_of_splitFirst_none {dot : α} {xs : List α}
    (h : splitFirst [dot] xs = none) : xs.splitOn dot = [xs] := by
  apply List.splitOn_eq_singleton
  intro hmem
  obtain ⟨s, t, rfl⟩ := List.append_of_mem hmem
  cases hs : splitFirst [dot] (s ++ dot :: t) with
  | some cut => rw [hs] at h; cases h
  | none =>
      -- the first separator lies in `s ++ [dot]`, so the cut exists
      clear hmem h
      induction s with
      | nil =>
          rw [List.nil_append, splitFirst_cons_hit ⟨t, rfl⟩] at hs
          cases hs
      | cons x s ih =>
          by_cases hpre : [dot] <+: x :: (s ++ dot :: t)
          · rw [List.cons_append, splitFirst_cons_hit hpre] at hs
            cases hs
          · rw [List.cons_append, splitFirst_cons_miss hpre, Option.map_eq_none_iff] at hs
            exact ih hs

end Labels

/-! ## §2. The longest suffix that passes a test. -/

/-- The longest non-empty suffix that `accepts` takes. -/
def longestSuffix (accepts : List α → Bool) : List α → Option (List α)
  | [] => none
  | x :: xs => if accepts (x :: xs) then some (x :: xs) else longestSuffix accepts xs

theorem longestSuffix_eq_some_iff (accepts : List α → Bool) (xs s : List α) :
    longestSuffix accepts xs = some s
      ↔ (s <:+ xs ∧ s ≠ [] ∧ accepts s)
        ∧ ∀ t, t <:+ xs → s.length < t.length → ¬accepts t := by
  -- by induction on the list, which is its own longest suffix
  induction xs with
  | nil =>
      constructor
      · intro h
        cases h
      · rintro ⟨⟨hs, hne, -⟩, -⟩
        exact absurd (List.suffix_nil.mp hs) hne
  | cons x xs ih =>
      unfold longestSuffix
      by_cases haccepts : accepts (x :: xs)
      · rw [if_pos haccepts, Option.some.injEq]
        constructor
        · rintro rfl
          refine ⟨⟨List.suffix_refl _, List.cons_ne_nil x xs, haccepts⟩, ?_⟩
          intro t ht hlen
          have := ht.length_le
          omega
        · rintro ⟨⟨hs, -, -⟩, hlongest⟩
          by_contra hne
          have hlt : s.length < (x :: xs).length := by
            refine lt_of_le_of_ne hs.length_le ?_
            intro heq
            exact hne (hs.eq_of_length heq).symm
          exact hlongest _ (List.suffix_refl _) hlt haccepts
      · rw [if_neg haccepts, ih]
        constructor
        · rintro ⟨⟨hs, hne, hacc⟩, hlongest⟩
          refine ⟨⟨hs.trans (List.suffix_cons x xs), hne, hacc⟩, ?_⟩
          intro t ht hlen
          rcases List.suffix_cons_iff.mp ht with rfl | ht
          · exact haccepts
          · exact hlongest t ht hlen
        · rintro ⟨⟨hs, hne, hacc⟩, hlongest⟩
          refine ⟨⟨?_, hne, hacc⟩, ?_⟩
          · rcases List.suffix_cons_iff.mp hs with rfl | hs
            · exact absurd hacc haccepts
            · exact hs
          · intro t ht
            exact hlongest t (ht.trans (List.suffix_cons x xs))

theorem longestSuffix_eq_none_iff (accepts : List α → Bool) (xs : List α) :
    longestSuffix accepts xs = none ↔ ∀ s, s <:+ xs → s ≠ [] → ¬accepts s := by
  induction xs with
  | nil =>
      constructor
      · intro _ s hs hne
        exact absurd (List.suffix_nil.mp hs) hne
      · intro _
        rfl
  | cons x xs ih =>
      unfold longestSuffix
      by_cases haccepts : accepts (x :: xs)
      · rw [if_pos haccepts]
        constructor
        · intro h
          cases h
        · intro h
          exact absurd haccepts (h _ (List.suffix_refl _) (List.cons_ne_nil x xs))
      · rw [if_neg haccepts, ih]
        constructor
        · intro h s hs hne
          rcases List.suffix_cons_iff.mp hs with rfl | hs
          · exact haccepts
          · exact h s hs hne
        · intro h s hs
          exact h s (hs.trans (List.suffix_cons x xs))

/-- **Between a list and its longest accepted suffix** every list has the
same one. -/
theorem longestSuffix_of_between {accepts : List α → Bool} {xs ys s : List α}
    (h : longestSuffix accepts xs = some s) (hs : s <:+ ys) (hys : ys <:+ xs) :
    longestSuffix accepts ys = some s := by
  rw [longestSuffix_eq_some_iff] at h ⊢
  obtain ⟨⟨-, hne, hacc⟩, hlongest⟩ := h
  exact ⟨⟨hs, hne, hacc⟩, fun t ht => hlongest t (ht.trans hys)⟩

/-- Two tests that agree on the suffixes find the same one. -/
theorem longestSuffix_congr {p q : List α → Bool} {xs : List α}
    (h : ∀ s, s <:+ xs → s ≠ [] → p s = q s) : longestSuffix p xs = longestSuffix q xs := by
  induction xs with
  | nil => rfl
  | cons x xs ih =>
      unfold longestSuffix
      rw [h _ (List.suffix_refl _) (List.cons_ne_nil x xs),
        ih fun s hs => h s (hs.trans (List.suffix_cons x xs))]

end Libwebauthn
