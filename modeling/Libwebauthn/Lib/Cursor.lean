/-
  Libwebauthn.Lib.Cursor — cursors over a list.

  A cursor computation starts at a position of a list, fails, or returns a
  value and the position it comes to.  `Parses input c P` says just when it
  succeeds: when it goes over elements `xs` of which `P xs a` holds, with `a`
  what it returns.

    • `Parses.bind` — sequences;
    • `Parses.readExact`, `Parses.read`, `Parses.refuse` — the basic reads;
    • `Parses.taken` — what a read went over, sliced out of the list.
-/
import Libwebauthn.Lib.Reader

namespace Libwebauthn

/-- A computation on a position that can fail. -/
abbrev Cursor (ε α : Type) := StateT Nat (Except ε) α

namespace Cursor

variable {τ ε α β : Type} (input : List τ)

/-! ## §1. Cursors. -/

/-- The next `n` elements. -/
def readExact (n : Nat) (error : ε) : Cursor ε (List τ) := fun pos =>
  if n ≤ (input.drop pos).length then .ok ((input.drop pos).take n, pos + n) else .error error

/-- The value that a reader takes off what is left. -/
def read (r : Reader τ α) (error : ε) : Cursor ε α := fun pos =>
  match r (input.drop pos) with
  | some (a, rest) => .ok (a, pos + ((input.drop pos).length - rest.length))
  | none => .error error

/-- The elements from `start` up to `stop`. -/
def slice (start stop : Nat) (error : ε) : Cursor ε (List τ) := fun pos =>
  if start ≤ stop ∧ stop ≤ input.length then .ok ((input.take stop).drop start, pos)
  else .error error

def refuse (c : Prop) [Decidable c] (error : ε) : Cursor ε Unit :=
  if c then throw error else pure ()

/-- The elements that `c` goes over. -/
def taken (c : Cursor ε α) (error : ε) : Cursor ε (List τ) := do
  let start ← get
  let _ ← c
  let stop ← get
  slice input start stop error

theorem bind_eq_ok_iff {c : Cursor ε α} {f : α → Cursor ε β} {pos pos' : Nat} {b : β} :
    (c >>= f) pos = .ok (b, pos') ↔ ∃ a mid, c pos = .ok (a, mid) ∧ f a mid = .ok (b, pos') := by
  show ((c pos).bind fun cut => f cut.1 cut.2) = _ ↔ _
  cases hread : c pos with
  | error e =>
      constructor
      · intro h
        cases h
      · intro h
        obtain ⟨a, mid, hread, _⟩ := h
        cases hread
  | ok cut =>
      constructor
      · intro h
        exact ⟨cut.1, cut.2, rfl, h⟩
      · intro h
        obtain ⟨a, mid, hread, h⟩ := h
        rw [Except.ok.inj hread]
        exact h

/-! ## §2. What a cursor goes over. -/

/-- `c` succeeds just where it goes over elements of which `P` holds. -/
def Parses (c : Cursor ε α) (P : List τ → α → Prop) : Prop :=
  ∀ pos ≤ input.length, ∀ a pos',
    c pos = .ok (a, pos') ↔ ∃ xs, xs <+: input.drop pos ∧ P xs a ∧ pos' = pos + xs.length

variable {input}

/-- Elements one after the other. -/
theorem append_isPrefix_drop_iff {xs ys : List τ} {pos : Nat} :
    xs ++ ys <+: input.drop pos
      ↔ xs <+: input.drop pos ∧ ys <+: input.drop (pos + xs.length) := by
  constructor
  · intro h
    obtain ⟨rest, hrest⟩ := h
    refine ⟨⟨ys ++ rest, by rw [← hrest, List.append_assoc]⟩, rest, ?_⟩
    rw [← List.drop_drop, ← hrest, List.append_assoc, List.drop_left]
  · intro h
    obtain ⟨⟨rest, hrest⟩, rest', hrest'⟩ := h
    refine ⟨rest', ?_⟩
    rw [← List.drop_drop, ← hrest, List.drop_left] at hrest'
    rw [← hrest, List.append_assoc, hrest']

/-- What is gone over lies in the list. -/
theorem add_length_le {xs : List τ} {pos : Nat} (hpos : pos ≤ input.length)
    (h : xs <+: input.drop pos) : pos + xs.length ≤ input.length := by
  have hle := h.length_le
  rw [List.length_drop] at hle
  omega

namespace Parses

variable {c : Cursor ε α} {f : α → Cursor ε β} {P : List τ → α → Prop}
  {Q : α → List τ → β → Prop}

/-- The same said otherwise. -/
theorem congr {P' : List τ → α → Prop} (h : Parses input c P) (hP : ∀ xs a, P xs a ↔ P' xs a) :
    Parses input c P' := by
  intro pos hpos a pos'
  rw [h pos hpos a pos']
  exact exists_congr fun xs => and_congr_right fun _ => and_congr_left fun _ => hP xs a

protected theorem pure (a : α) :
    Parses input (Pure.pure a : Cursor ε α) fun xs b => xs = [] ∧ a = b := by
  intro pos hpos b pos'
  show Except.ok (a, pos) = Except.ok (b, pos') ↔ _
  rw [Except.ok.injEq, Prod.mk.injEq]
  constructor
  · intro h
    exact ⟨[], List.nil_prefix, ⟨rfl, h.1⟩, h.2.symm⟩
  · intro h
    obtain ⟨xs, _, ⟨rfl, rfl⟩, rfl⟩ := h
    exact ⟨rfl, rfl⟩

theorem bind (hc : Parses input c P) (hf : ∀ a, Parses input (f a) (Q a)) :
    Parses input (c >>= f) fun zs b => ∃ xs ys a, zs = xs ++ ys ∧ P xs a ∧ Q a ys b := by
  intro pos hpos b pos'
  rw [bind_eq_ok_iff]
  constructor
  · intro h
    obtain ⟨a, mid, hread, hread'⟩ := h
    obtain ⟨xs, hxs, hP, rfl⟩ := (hc pos hpos a mid).mp hread
    obtain ⟨ys, hys, hQ, rfl⟩ := (hf a _ (add_length_le hpos hxs) b pos').mp hread'
    exact ⟨xs ++ ys, append_isPrefix_drop_iff.mpr ⟨hxs, hys⟩, ⟨xs, ys, a, rfl, hP, hQ⟩,
      by rw [List.length_append, Nat.add_assoc]⟩
  · intro h
    obtain ⟨_, hzs, ⟨xs, ys, a, rfl, hP, hQ⟩, rfl⟩ := h
    obtain ⟨hxs, hys⟩ := append_isPrefix_drop_iff.mp hzs
    exact ⟨a, pos + xs.length, (hc pos hpos a _).mpr ⟨xs, hxs, hP, rfl⟩,
      (hf a _ (add_length_le hpos hxs) b _).mpr
        ⟨ys, hys, hQ, by rw [List.length_append, Nat.add_assoc]⟩⟩

/-- A sequence whose second part goes over nothing. -/
theorem map {g : α → β} (hc : Parses input c P) :
    Parses input (c >>= fun a => Pure.pure (g a)) fun xs b => ∃ a, P xs a ∧ g a = b := by
  refine (hc.bind fun a => Parses.pure (g a)).congr fun zs b => ?_
  constructor
  · intro h
    obtain ⟨xs, _, a, rfl, hP, rfl, hb⟩ := h
    exact ⟨a, by rwa [List.append_nil], hb⟩
  · intro h
    obtain ⟨a, hP, hb⟩ := h
    exact ⟨zs, [], a, (List.append_nil zs).symm, hP, rfl, hb⟩

theorem readExact (n : Nat) (error : ε) :
    Parses input (readExact input n error) fun xs a => a = xs ∧ xs.length = n := by
  intro pos hpos a pos'
  show (if _ then _ else _) = _ ↔ _
  constructor
  · intro h
    split at h
    next hle =>
      obtain ⟨rfl, rfl⟩ := Prod.mk.inj (Except.ok.inj h)
      have hlength : ((input.drop pos).take n).length = n := by
        rw [List.length_take, Nat.min_eq_left hle]
      exact ⟨_, List.take_prefix n _, ⟨rfl, hlength⟩, by rw [hlength]⟩
    next => cases h
  · intro h
    obtain ⟨xs, ⟨rest, hrest⟩, ⟨rfl, rfl⟩, rfl⟩ := h
    rw [← hrest, if_pos (by rw [List.length_append]; omega), List.take_left]

theorem read {r : Reader τ α} (hr : Reader.Exact r) (error : ε) :
    Parses input (read input r error) fun xs a => r xs = some (a, []) := by
  intro pos hpos a pos'
  unfold Cursor.read
  constructor
  · intro h
    cases hread : r (input.drop pos) with
    | none =>
        rw [hread] at h
        cases h
    | some cut =>
        obtain ⟨b, rest⟩ := cut
        rw [hread] at h
        obtain ⟨rfl, rfl⟩ := Prod.mk.inj (Except.ok.inj h)
        obtain ⟨xs, hxs, hreads⟩ := hr _ _ _ hread
        refine ⟨xs, ⟨rest, hxs.symm⟩, hreads.apply, ?_⟩
        rw [hxs, List.length_append, Nat.add_sub_cancel]
  · intro h
    obtain ⟨xs, ⟨rest, hrest⟩, hread, rfl⟩ := h
    have hreads : Reader.Reads r xs a := hr.reads_of_whole (Reader.whole_eq_some_iff.mpr hread)
    rw [← hrest, hreads rest]
    show Except.ok (a, pos + ((xs ++ rest).length - rest.length)) = _
    rw [List.length_append, Nat.add_sub_cancel]

theorem refuse (p : Prop) [Decidable p] (error : ε) :
    Parses input (refuse p error) fun xs _ => xs = [] ∧ ¬ p := by
  intro pos hpos a pos'
  unfold Cursor.refuse
  by_cases hp : p
  · rw [if_pos hp]
    constructor
    · intro h
      cases h
    · intro h
      obtain ⟨_, _, ⟨_, hnot⟩, _⟩ := h
      exact absurd hp hnot
  · rw [if_neg hp]
    refine (Parses.pure () pos hpos a pos').trans ?_
    exact exists_congr fun xs => and_congr_right fun _ => and_congr_left fun _ =>
      and_congr_right fun _ => ⟨fun _ => hp, fun _ => rfl⟩

/-- What is left of a list up to a position after `pos`. -/
theorem drop_take_of_isPrefix {xs : List τ} {pos : Nat} (h : xs <+: input.drop pos) :
    (input.take (pos + xs.length)).drop pos = xs := by
  obtain ⟨rest, hrest⟩ := h
  rw [← List.take_drop, ← hrest, List.take_left]

theorem taken (hc : Parses input c P) (error : ε) :
    Parses input (Cursor.taken input c error) fun xs ys => ys = xs ∧ ∃ a, P xs a := by
  intro pos hpos ys pos'
  have hslice : ∀ xs : List τ, xs <+: input.drop pos →
      slice input pos (pos + xs.length) error (pos + xs.length) = .ok (xs, pos + xs.length) := by
    intro xs hxs
    show (if _ then _ else _) = _
    rw [if_pos ⟨Nat.le_add_right _ _, add_length_le hpos hxs⟩, drop_take_of_isPrefix hxs]
  have hrun : Cursor.taken input c error pos = .ok (ys, pos')
      ↔ ∃ a mid, c pos = .ok (a, mid) ∧ slice input pos mid error mid = .ok (ys, pos') := by
    show (c >>= fun _ => get >>= fun stop => slice input pos stop error) pos = _ ↔ _
    rw [bind_eq_ok_iff]
    rfl
  rw [hrun]
  constructor
  · intro h
    obtain ⟨a, mid, hread, hcut⟩ := h
    obtain ⟨xs, hxs, hP, rfl⟩ := (hc pos hpos a mid).mp hread
    rw [hslice xs hxs] at hcut
    obtain ⟨rfl, rfl⟩ := Prod.mk.inj (Except.ok.inj hcut)
    exact ⟨xs, hxs, ⟨rfl, a, hP⟩, rfl⟩
  · intro h
    obtain ⟨xs, hxs, ⟨rfl, a, hP⟩, rfl⟩ := h
    exact ⟨a, pos + ys.length, (hc pos hpos a _).mpr ⟨ys, hxs, hP, rfl⟩, hslice ys hxs⟩

end Parses

end Cursor

end Libwebauthn
