/-
  Libwebauthn.Lib.FirstDistinct — the first distinct elements of a list.

  `firstDistinct cap xs` are the elements of `xs`, each where it occurs first,
  and at most `cap` of them.

    • `firstDistinct_concat_of_new` — one more element at the end;
    • `mem_firstDistinct_append_cons` — whether an element in the middle is among
      them, by what stands before it.
-/
import Mathlib.Data.List.Dedup
import Mathlib.Data.List.Induction

namespace Libwebauthn

variable {α : Type*} [DecidableEq α]

def firstDistinct (cap : Nat) (xs : List α) : List α := xs.eraseDups.take cap

theorem firstDistinct_subset {cap cap' : Nat} (h : cap ≤ cap') (xs : List α) :
    firstDistinct cap xs ⊆ firstDistinct cap' xs :=
  List.take_subset_take_left xs.eraseDups h

@[simp] theorem firstDistinct_nil (cap : Nat) : firstDistinct cap ([] : List α) = [] :=
  List.take_nil

/-- What follows an element: nothing of it is new where the element is not. -/
theorem eraseDups_append_cons (xs ys : List α) (x : α) :
    ∃ zs, (xs ++ x :: ys).eraseDups
      = (if x ∈ xs then xs.eraseDups else xs.eraseDups ++ [x]) ++ zs := by
  rw [List.eraseDups_append, List.cons_removeAll]
  by_cases h : x ∈ xs
  · rw [if_pos h]
    exact ⟨_, rfl⟩
  · have hnew : xs.contains x = false := by simpa using h
    rw [if_neg h, if_pos hnew, List.eraseDups_cons]
    exact ⟨_, List.append_cons ..⟩

theorem eraseDups_concat (xs : List α) (x : α) :
    (xs ++ [x]).eraseDups = if x ∈ xs then xs.eraseDups else xs.eraseDups ++ [x] := by
  rw [List.eraseDups_append, List.cons_removeAll]
  by_cases h : x ∈ xs
  · have hold : ¬ xs.contains x = false := by simpa using h
    rw [if_pos h, if_neg hold]
    exact List.append_nil _
  · have hnew : xs.contains x = false := by simpa using h
    rw [if_neg h, if_pos hnew]
    rfl

theorem nodup_firstDistinct (cap : Nat) (xs : List α) : (firstDistinct cap xs).Nodup := by
  have hnodup : xs.eraseDups.Nodup := by
    induction xs using List.reverseRecOn with
    | nil => exact List.nodup_nil
    | append_singleton xs x ih =>
        rw [eraseDups_concat]
        split
        · exact ih
        · next h =>
            rw [← List.concat_eq_append]
            exact ih.concat fun hmem => h (List.mem_eraseDups.mp hmem)
  exact hnodup.sublist (List.take_sublist cap _)

section

variable {cap : Nat} {xs : List α}

/-- Fewer than the cap: these are all of them. -/
theorem firstDistinct_eq_of_lt (h : (firstDistinct cap xs).length < cap) :
    firstDistinct cap xs = xs.eraseDups ∧ xs.eraseDups.length < cap := by
  unfold firstDistinct at *
  rw [List.length_take] at h
  have hlt : xs.eraseDups.length < cap := by omega
  exact ⟨List.take_of_length_le (by omega), hlt⟩

theorem mem_firstDistinct_of_lt (h : (firstDistinct cap xs).length < cap) {x : α} (hx : x ∈ xs) :
    x ∈ firstDistinct cap xs := by
  rw [(firstDistinct_eq_of_lt h).1]
  exact List.mem_eraseDups.mpr hx

/-- As many as the cap: nothing that follows is among them. -/
theorem firstDistinct_eq_of_not_lt (h : ¬ (firstDistinct cap xs).length < cap)
    (zs : List α) : (xs.eraseDups ++ zs).take cap = firstDistinct cap xs := by
  unfold firstDistinct at *
  rw [List.length_take] at h
  exact List.take_append_of_le_length (by omega)

/-- One more element that is known, or beyond the cap. -/
theorem firstDistinct_concat_of_old {x : α}
    (h : x ∈ xs ∨ ¬ (firstDistinct cap xs).length < cap) :
    firstDistinct cap (xs ++ [x]) = firstDistinct cap xs := by
  by_cases hmem : x ∈ xs
  · unfold firstDistinct
    rw [eraseDups_concat, if_pos hmem]
  · have hfull := firstDistinct_eq_of_not_lt (h.resolve_left hmem) [x]
    rw [← hfull]
    unfold firstDistinct
    rw [eraseDups_concat, if_neg hmem]

/-- One more element that there is room for. -/
theorem firstDistinct_concat_of_new {x : α} (hmem : x ∉ xs)
    (hlt : (firstDistinct cap xs).length < cap) :
    firstDistinct cap (xs ++ [x]) = firstDistinct cap xs ++ [x] := by
  obtain ⟨heq, hlt'⟩ := firstDistinct_eq_of_lt hlt
  rw [heq]
  unfold firstDistinct
  rw [eraseDups_concat, if_neg hmem]
  refine List.take_of_length_le ?_
  rw [List.length_append, List.length_singleton]
  omega

/-- **An element in the middle** is among the first ones where there is room
for it, or where it is known already. -/
theorem mem_firstDistinct_append_cons (x : α) (ys : List α) :
    x ∈ firstDistinct cap (xs ++ x :: ys)
      ↔ x ∈ firstDistinct cap xs ∨ (firstDistinct cap xs).length < cap := by
  obtain ⟨zs, hzs⟩ := eraseDups_append_cons xs ys x
  by_cases hlt : (firstDistinct cap xs).length < cap
  · obtain ⟨heq, hlt'⟩ := firstDistinct_eq_of_lt hlt
    refine ⟨fun _ => Or.inr hlt, fun _ => ?_⟩
    unfold firstDistinct
    rw [hzs]
    by_cases h : x ∈ xs
    · rw [if_pos h, List.take_append]
      refine List.mem_append_left _ ?_
      rw [List.take_of_length_le (by omega)]
      exact List.mem_eraseDups.mpr h
    · rw [if_neg h, List.take_append]
      refine List.mem_append_left _ ?_
      rw [List.take_of_length_le]
      · exact List.mem_append_right _ (List.mem_singleton_self x)
      · rw [List.length_append, List.length_singleton]
        omega
  · rw [or_iff_left hlt]
    -- the list is full before `x`
    have hfull : firstDistinct cap (xs ++ x :: ys) = firstDistinct cap xs := by
      unfold firstDistinct
      rw [hzs]
      by_cases h : x ∈ xs
      · rw [if_pos h]
        exact firstDistinct_eq_of_not_lt hlt zs
      · rw [if_neg h, List.append_assoc]
        exact firstDistinct_eq_of_not_lt hlt _
    rw [hfull]

end

end Libwebauthn
