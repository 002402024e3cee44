/-
  Libwebauthn.Lib.Segments — cutting a sequence into frames.

  A transport with a frame size sends a long message in segments, each in a
  frame of its own.  `chunksOf k xs` are the pieces of size `k`, in order.

    • `chunksOf_flatten` — nothing is lost;
    • `chunksOf_full` — every piece but the last is full;
    • `chunksOf_length_le_iff` — how many pieces a sequence needs;
    • `numberFrom` — the pieces with consecutive numbers;
    • `foldl_length_sub` — summing frame lengths less their headers.
-/
import Mathlib.Data.List.Basic
import Mathlib.Tactic.Ring

namespace Libwebauthn

variable {α : Type*}

/-! ## §1. Pieces of one size. -/

/-- The pieces of `xs`, `k` elements each except for a shorter last one. -/
def chunksOf (k : Nat) (xs : List α) : List (List α) :=
  go xs.length xs
where
  /-- The first argument bounds the number of pieces still to cut. -/
  go : Nat → List α → List (List α)
    | 0, _ => []
    | _ + 1, [] => []
    | fuel + 1, x :: xs => (x :: xs).take k :: go fuel ((x :: xs).drop k)

theorem chunksOf_go_fuel {k : Nat} (hk : 0 < k) :
    ∀ (m n : Nat) (xs : List α), xs.length ≤ m → xs.length ≤ n →
      chunksOf.go k m xs = chunksOf.go k n xs := by
  intro m
  induction m with
  | zero =>
      intro n xs hm _
      have hnil : xs = [] := List.length_eq_zero_iff.mp (Nat.le_zero.mp hm)
      subst hnil
      cases n <;> rfl
  | succ m ih =>
      intro n xs hm hn
      cases xs with
      | nil => cases n <;> rfl
      | cons x xs =>
          cases n with
          | zero => exact absurd hn (by simp)
          | succ n =>
              simp only [chunksOf.go]
              rw [ih n]
              · simp only [List.length_drop, List.length_cons] at hm ⊢
                omega
              · simp only [List.length_drop, List.length_cons] at hn ⊢
                omega

@[simp] theorem chunksOf_nil (k : Nat) : chunksOf k ([] : List α) = [] := rfl

/-- The defining equation: cut one piece off and go on with the rest. -/
theorem chunksOf_of_ne_nil {k : Nat} (hk : 0 < k) {xs : List α} (h : xs ≠ []) :
    chunksOf k xs = xs.take k :: chunksOf k (xs.drop k) := by
  cases xs with
  | nil => exact absurd rfl h
  | cons x xs =>
      show chunksOf.go k (xs.length + 1) (x :: xs) = _
      simp only [chunksOf.go]
      congr 1
      refine chunksOf_go_fuel hk _ _ _ ?_ (Nat.le_refl _)
      simp only [List.length_drop, List.length_cons]
      omega

/-- Induction that follows `chunksOf`: from the rest to the whole. -/
theorem chunksOf_induction {motive : List α → Prop} {k : Nat} (hk : 0 < k)
    (nil : motive [])
    (step : ∀ xs, xs ≠ [] → motive (xs.drop k) → motive xs) :
    ∀ xs, motive xs := by
  intro xs
  induction hn : xs.length using Nat.strong_induction_on generalizing xs with
  | _ n ih =>
      by_cases h : xs = []
      · exact h ▸ nil
      · refine step xs h (ih _ ?_ _ rfl)
        have hpos := List.length_pos_iff.mpr h
        rw [List.length_drop, ← hn]
        omega

theorem chunksOf_flatten {k : Nat} (hk : 0 < k) (xs : List α) :
    (chunksOf k xs).flatten = xs := by
  induction xs using chunksOf_induction hk with
  | nil => rfl
  | step xs h ih =>
      rw [chunksOf_of_ne_nil hk h, List.flatten_cons, ih, List.take_append_drop]

theorem chunksOf_ne_nil {k : Nat} (hk : 0 < k) (xs : List α) :
    ∀ c ∈ chunksOf k xs, c ≠ [] := by
  induction xs using chunksOf_induction hk with
  | nil => simp
  | step xs h ih =>
      rw [chunksOf_of_ne_nil hk h]
      intro c hc
      rcases List.mem_cons.mp hc with hhead | htail
      · subst hhead
        simpa [List.take_eq_nil_iff, h] using hk.ne'
      · exact ih c htail

theorem chunksOf_length_le {k : Nat} (hk : 0 < k) (xs : List α) :
    ∀ c ∈ chunksOf k xs, c.length ≤ k := by
  induction xs using chunksOf_induction hk with
  | nil => simp
  | step xs h ih =>
      rw [chunksOf_of_ne_nil hk h]
      intro c hc
      rcases List.mem_cons.mp hc with hhead | htail
      · subst hhead
        exact List.length_take_le k xs
      · exact ih c htail

theorem chunksOf_eq_nil_iff {k : Nat} (hk : 0 < k) {xs : List α} :
    chunksOf k xs = [] ↔ xs = [] := by
  constructor
  · intro h
    by_contra hne
    rw [chunksOf_of_ne_nil hk hne] at h
    exact List.cons_ne_nil _ _ h
  · intro h
    rw [h, chunksOf_nil]

/-- A piece that another one follows is full. -/
theorem chunksOf_full {k : Nat} (hk : 0 < k) (xs : List α) :
    ∀ c ∈ (chunksOf k xs).dropLast, c.length = k := by
  induction xs using chunksOf_induction hk with
  | nil => simp
  | step xs h ih =>
      rw [chunksOf_of_ne_nil hk h]
      by_cases hrest : xs.drop k = []
      · simp [hrest]
      · have hne : chunksOf k (xs.drop k) ≠ [] := by
          rwa [Ne, chunksOf_eq_nil_iff hk]
        rw [List.dropLast_cons_of_ne_nil hne]
        intro c hc
        rcases List.mem_cons.mp hc with hhead | htail
        · have hlt : k < xs.length := by
            by_contra hle
            exact hrest (List.drop_eq_nil_of_le (Nat.le_of_not_lt hle))
          rw [hhead, List.length_take, Nat.min_eq_left hlt.le]
        · exact ih c htail

/-- `n` pieces are enough exactly when the sequence has at most `n * k`
elements. -/
theorem chunksOf_length_le_iff {k : Nat} (hk : 0 < k) (xs : List α) (n : Nat) :
    (chunksOf k xs).length ≤ n ↔ xs.length ≤ n * k := by
  induction xs using chunksOf_induction hk generalizing n with
  | nil => simp
  | step xs h ih =>
      have hpos := List.length_pos_iff.mpr h
      rw [chunksOf_of_ne_nil hk h, List.length_cons]
      cases n with
      | zero => simp; exact h
      | succ n =>
          rw [Nat.add_le_add_iff_right, ih, List.length_drop, Nat.succ_mul]
          omega

/-! ## §2. Numbering the pieces. -/

/-- Frame the pieces with consecutive numbers from `n` on. -/
def numberFrom {β : Type*} (frame : Nat → α → β) : (n : Nat) → List α → List β
  | _, [] => []
  | n, x :: xs => frame n x :: numberFrom frame (n + 1) xs

@[simp] theorem numberFrom_length {β : Type*} (frame : Nat → α → β) (xs : List α) :
    ∀ n : Nat, (numberFrom frame n xs).length = xs.length := by
  induction xs with
  | nil => intro n; rfl
  | cons x xs ih => intro n; simp [numberFrom, ih]

/-- The `i`-th frame is the `i`-th piece under number `n + i`. -/
theorem numberFrom_getElem? {β : Type*} (frame : Nat → α → β) (xs : List α) :
    ∀ n i : Nat, (numberFrom frame n xs)[i]? = xs[i]?.map (frame (n + i)) := by
  induction xs with
  | nil => intro n i; simp [numberFrom]
  | cons x xs ih =>
      intro n i
      cases i with
      | zero => simp [numberFrom]
      | succ i =>
          rw [numberFrom, List.getElem?_cons_succ, ih, List.getElem?_cons_succ,
            show n + 1 + i = n + (i + 1) from by omega]

/-! ## §3. Taking the frames apart again. -/

/-- Adding up the frame lengths less an `h`-element header counts the
elements behind the headers. -/
theorem foldl_length_sub (h : Nat) (frames : List (List α)) :
    ∀ len : Nat, frames.foldl (fun len frame => len + (frame.length - h)) len
      = len + (frames.flatMap (List.drop h)).length := by
  induction frames with
  | nil => intro len; rfl
  | cons frame frames ih =>
      intro len
      rw [List.foldl_cons, ih, List.flatMap_cons, List.length_append, List.length_drop]
      omega

end Libwebauthn
