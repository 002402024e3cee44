/-
  Libwebauthn.Lib.Keyed — values kept under keys, each with a label.

  A store is a partial map from keys.  The label of a value is part of it, and
  not its key, so that nothing in the map itself keeps a label from turning up
  twice.

    • `Single` — no two keys have values of one label;
    • `Change` — what one writer does to the values of its label: nothing,
      erase one of them, or put a new one in the place of all of them;
    • `Change.single`, `Change.other` — that keeps labels single, and the
      values of other labels as they were.
-/
import Mathlib.Data.Option.Basic
import Mathlib.Logic.Function.Basic

namespace Libwebauthn

/-- A store of values under keys. -/
abbrev Keyed (K V : Type) := K → Option V

namespace Keyed

variable {K V L : Type} [DecidableEq K] [DecidableEq L] {label : V → L} {l : L}
  {store store' : Keyed K V} {k k' : K} {v v' : V}

def insert (store : Keyed K V) (k : K) (v : V) : Keyed K V := Function.update store k (some v)

def erase (store : Keyed K V) (k : K) : Keyed K V := Function.update store k none

/-- The store without the values of a label. -/
def without (store : Keyed K V) (label : V → L) (l : L) : Keyed K V :=
  fun k => (store k).filter fun v => label v ≠ l

theorem insert_eq_some : store.insert k v k' = some v' ↔
    (k' = k ∧ v = v') ∨ (k' ≠ k ∧ store k' = some v') := by
  unfold insert
  by_cases h : k' = k
  · rw [h, Function.update_self]
    simp
  · rw [Function.update_of_ne h]
    simp [h]

theorem erase_eq_some : store.erase k k' = some v ↔ k' ≠ k ∧ store k' = some v := by
  unfold erase
  by_cases h : k' = k
  · rw [h, Function.update_self]
    simp
  · rw [Function.update_of_ne h]
    simp [h]

omit [DecidableEq K] in
theorem without_eq_some : store.without label l k = some v ↔
    store k = some v ∧ label v ≠ l := by
  unfold without
  rw [Option.filter_eq_some_iff, decide_eq_true_eq]

/-- No two keys have values of one label. -/
def Single (label : V → L) (store : Keyed K V) : Prop :=
  ∀ ⦃k k' v v'⦄, store k = some v → store k' = some v' → label v = label v' → k = k'

/-- What a writer does to the values of its label. -/
inductive Change (label : V → L) (l : L) (store : Keyed K V) : Keyed K V → Prop
  | kept : Change label l store store
  | erased {k : K} {v : V} (hstored : store k = some v) (hlabel : label v = l) :
      Change label l store (store.erase k)
  | renewed {k : K} {v : V} (hnew : store k = none) (hlabel : label v = l) :
      Change label l store ((store.without label l).insert k v)

omit [DecidableEq K] [DecidableEq L] in
theorem Single.of_subset (h : Single label store)
    (hsubset : ∀ k v, store' k = some v → store k = some v) : Single label store' :=
  fun _ _ _ _ hv hv' => h (hsubset _ _ hv) (hsubset _ _ hv')

/-- Labels stay single. -/
theorem Change.single (h : Change label l store store') (hsingle : Single label store) :
    Single label store' := by
  cases h with
  | kept => exact hsingle
  | erased => exact hsingle.of_subset fun _ _ h => (erase_eq_some.mp h).2
  | @renewed k v hnew hlabel =>
      intro a b va vb ha hb hsame
      rcases insert_eq_some.mp ha with ⟨ha, hva⟩ | ⟨-, ha'⟩
      · rcases insert_eq_some.mp hb with ⟨hb, -⟩ | ⟨-, hb'⟩
        · exact ha.trans hb.symm
        · rw [← hva, hlabel] at hsame
          exact absurd hsame.symm (without_eq_some.mp hb').2
      · rcases insert_eq_some.mp hb with ⟨-, hvb⟩ | ⟨-, hb'⟩
        · rw [← hvb, hlabel] at hsame
          exact absurd hsame (without_eq_some.mp ha').2
        · exact hsingle (without_eq_some.mp ha').1 (without_eq_some.mp hb').1 hsame

/-- The values of other labels stay as they are. -/
theorem Change.other (h : Change label l store store') (hother : label v ≠ l) :
    store' k = some v ↔ store k = some v := by
  cases h with
  | kept => exact Iff.rfl
  | @erased k' v' hstored hlabel =>
      rw [erase_eq_some]
      refine ⟨fun h => h.2, fun h => ⟨fun heq => ?_, h⟩⟩
      rw [heq, hstored] at h
      exact hother (Option.some.inj h ▸ hlabel)
  | @renewed k' v' hnew hlabel =>
      rw [insert_eq_some, without_eq_some]
      constructor
      · rintro (⟨-, rfl⟩ | ⟨-, h, -⟩)
        · exact absurd hlabel hother
        · exact h
      · refine fun h => Or.inr ⟨fun heq => ?_, h, hother⟩
        rw [heq, hnew] at h
        cases h

end Keyed

end Libwebauthn
