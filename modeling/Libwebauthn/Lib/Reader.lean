/-
  Libwebauthn.Lib.Reader — readers that take a value off the front of a list.

    • `Reads r xs a` — `xs` is a code of `a`: whatever follows it, `r` takes
      just `xs` and returns `a`;
    • `Exact r` — `r` takes nothing but codes;
    • `Extends r r'` — `r'` reads all that `r` reads;
    • `Parses r P` — `r` takes `xs` and returns `a` just where `P xs a`.
-/
import Mathlib.Data.List.Forall2

namespace Libwebauthn

/-- There are no more pieces than elements. -/
theorem length_le_flatten {α : Type} {pieces : List (List α)}
    (hne : ∀ piece ∈ pieces, piece ≠ []) : pieces.length ≤ pieces.flatten.length := by
  induction pieces with
  | nil => exact Nat.le_refl 0
  | cons piece pieces ih =>
      obtain ⟨hpiece, hpieces⟩ := List.forall_mem_cons.mp hne
      have hpos := List.length_pos_iff.mpr hpiece
      have hle := ih hpieces
      rw [List.length_cons, List.flatten_cons, List.length_append]
      omega

/-- A reader of lists over `τ` with values in `α`. -/
abbrev Reader (τ α : Type) := StateT (List τ) Option α

namespace Reader

variable {τ α β : Type}

/-! ## §1. Readers. -/

def fail : Reader τ α := fun _ => none

def next : Reader τ τ
  | [] => none
  | x :: xs => some (x, xs)

/-- The next `n` elements. -/
def take (n : Nat) : Reader τ (List τ) := fun xs =>
  if n ≤ xs.length then some (xs.take n, xs.drop n) else none

/-- `n` values in a row. -/
def many (r : Reader τ α) : (n : Nat) → Reader τ (List α)
  | 0 => pure []
  | n + 1 => do
      let a ← r
      let as ← many r n
      pure (a :: as)

/-- The value of a list that is read to its end. -/
def whole (r : Reader τ α) (xs : List τ) : Option α :=
  match r xs with
  | some (a, []) => some a
  | _ => none

theorem whole_eq_some_iff {r : Reader τ α} {xs : List τ} {a : α} :
    whole r xs = some a ↔ r xs = some (a, []) := by
  unfold whole
  constructor
  · intro h
    split at h
    next hread =>
      rw [hread, Option.some.inj h]
    next => cases h
  · intro h
    rw [h]

/-- One reader behind the other cuts the input in two places. -/
theorem bind_eq_some_iff {r : Reader τ α} {f : α → Reader τ β} {xs rest : List τ} {b : β} :
    (r >>= f) xs = some (b, rest)
      ↔ ∃ a mid, r xs = some (a, mid) ∧ f a mid = some (b, rest) := by
  show (r xs).bind (fun cut => f cut.1 cut.2) = some (b, rest) ↔ _
  rw [Option.bind_eq_some_iff]
  exact Prod.exists

theorem pure_eq_some_iff {a b : α} {xs rest : List τ} :
    (pure a : Reader τ α) xs = some (b, rest) ↔ a = b ∧ xs = rest := by
  show some (a, xs) = some (b, rest) ↔ _
  rw [Option.some.injEq, Prod.mk.injEq]

/-! ## §2. Codes. -/

/-- `xs` is a code of `a`. -/
def Reads (r : Reader τ α) (xs : List τ) (a : α) : Prop :=
  ∀ rest, r (xs ++ rest) = some (a, rest)

namespace Reads

variable {r : Reader τ α} {f : α → Reader τ β} {xs ys : List τ} {a : α} {b : β}

/-- The bytes alone are read, with nothing left. -/
theorem apply (h : Reads r xs a) : r xs = some (a, []) := by
  have hread := h []
  rwa [List.append_nil] at hread

/-- A reader that reads the bytes takes them as a whole. -/
theorem whole (h : Reads r xs a) : whole r xs = some a := whole_eq_some_iff.mpr h.apply

protected theorem pure (a : α) : Reads (Pure.pure a : Reader τ α) [] a := fun _ => rfl

/-- One piece behind the other is read by one reader behind the other. -/
theorem bind (hr : Reads r xs a) (hf : Reads (f a) ys b) : Reads (r >>= f) (xs ++ ys) b := by
  intro rest
  rw [List.append_assoc, bind_eq_some_iff]
  exact ⟨a, ys ++ rest, hr _, hf rest⟩

/-- A sequence whose second part takes nothing. -/
theorem bind_pure (hr : Reads r xs a) (hf : f a = Pure.pure b) : Reads (r >>= f) xs b := by
  have hbind := hr.bind (f := f) (hf ▸ Reads.pure b)
  rwa [List.append_nil] at hbind

theorem next (x : τ) : Reads next [x] x := fun _ => rfl

/-- As many as there are. -/
theorem take (xs : List τ) : Reads (take xs.length) xs xs := by
  intro rest
  show (if _ then _ else _) = _
  rw [if_pos (by rw [List.length_append]; omega), List.take_left, List.drop_left]

theorem take_of_length {n : Nat} {xs : List τ} (h : xs.length = n) :
    Reads (Reader.take n) xs xs := by
  rw [← h]
  exact Reads.take xs

/-- Pieces that are read one by one are read as a list. -/
theorem many {pieces : List (List τ)} {values : List α}
    (h : List.Forall₂ (Reads r) pieces values) :
    Reads (many r pieces.length) pieces.flatten values := by
  induction h with
  | nil => exact Reads.pure []
  | cons hhead _ ih => exact hhead.bind (ih.bind_pure rfl)

end Reads

/-! ## §3. Exact readers. -/

/-- What is taken is a code of what is returned. -/
def Exact (r : Reader τ α) : Prop :=
  ∀ input a rest, r input = some (a, rest) → ∃ xs, input = xs ++ rest ∧ Reads r xs a

namespace Exact

variable {r : Reader τ α} {f : α → Reader τ β}

theorem fail : Exact (fail : Reader τ α) := by
  intro input a rest h
  cases h

protected theorem pure (a : α) : Exact (Pure.pure a : Reader τ α) := by
  intro input b rest h
  obtain ⟨rfl, rfl⟩ := pure_eq_some_iff.mp h
  exact ⟨[], rfl, Reads.pure a⟩

/-- Two exact readers, one behind the other, are exact. -/
theorem bind (hr : Exact r) (hf : ∀ a, Exact (f a)) : Exact (r >>= f) := by
  intro input b rest h
  obtain ⟨a, mid, hread, hread'⟩ := bind_eq_some_iff.mp h
  obtain ⟨xs, rfl, hxs⟩ := hr _ _ _ hread
  obtain ⟨ys, rfl, hys⟩ := hf a _ _ _ hread'
  exact ⟨xs ++ ys, (List.append_assoc xs ys rest).symm, hxs.bind hys⟩

theorem next : Exact (next : Reader τ τ) := by
  intro input x rest h
  cases input with
  | nil => cases h
  | cons y ys =>
      obtain ⟨rfl, rfl⟩ := Prod.mk.inj (Option.some.inj h)
      exact ⟨[y], rfl, Reads.next y⟩

/-- A cut at a fixed length is exact. -/
theorem take (n : Nat) : Exact (take n : Reader τ (List τ)) := by
  intro input xs rest h
  have h' : (if n ≤ input.length then some (input.take n, input.drop n) else none)
      = some (xs, rest) := h
  split at h'
  next hlength =>
    obtain ⟨rfl, rfl⟩ := Prod.mk.inj (Option.some.inj h')
    refine ⟨input.take n, (List.take_append_drop n input).symm, ?_⟩
    have htake := Reads.take (input.take n)
    rwa [List.length_take, Nat.min_eq_left hlength] at htake
  next => cases h'

/-- The pieces of a repetition. -/
theorem pieces_of_many (hr : Exact r) {n : Nat} {input rest : List τ} {values : List α}
    (h : Reader.many r n input = some (values, rest)) :
    ∃ pieces, pieces.length = n ∧ input = pieces.flatten ++ rest
      ∧ List.Forall₂ (Reads r) pieces values := by
  induction n generalizing input values with
  | zero =>
      obtain ⟨rfl, rfl⟩ := pure_eq_some_iff.mp h
      exact ⟨[], rfl, rfl, .nil⟩
  | succ n ih =>
      obtain ⟨a, mid, hread, h⟩ := bind_eq_some_iff.mp h
      obtain ⟨as, mid', hread', h⟩ := bind_eq_some_iff.mp h
      obtain ⟨rfl, rfl⟩ := pure_eq_some_iff.mp h
      obtain ⟨xs, rfl, hxs⟩ := hr _ _ _ hread
      obtain ⟨pieces, rfl, rfl, hpieces⟩ := ih hread'
      exact ⟨xs :: pieces, rfl, (List.append_assoc _ _ _).symm, .cons hxs hpieces⟩

/-- A list of exact pieces is exact. -/
theorem many (hr : Exact r) (n : Nat) : Exact (many r n) := by
  intro input values rest h
  obtain ⟨pieces, rfl, rfl, hpieces⟩ := hr.pieces_of_many h
  exact ⟨pieces.flatten, rfl, Reads.many hpieces⟩

/-- A list that is read to its end is a code. -/
theorem reads_of_whole (hr : Exact r) {xs : List τ} {a : α} (h : whole r xs = some a) :
    Reads r xs a := by
  obtain ⟨ys, hys, hread⟩ := hr _ _ _ (whole_eq_some_iff.mp h)
  rw [List.append_nil] at hys
  exact hys ▸ hread

end Exact

/-! ## §4. Readers that read more. -/

/-- `r'` reads all that `r` reads. -/
def Extends (r r' : Reader τ α) : Prop := ∀ xs cut, r xs = some cut → r' xs = some cut

namespace Extends

variable {r r' : Reader τ α} {f f' : α → Reader τ β}

protected theorem refl (r : Reader τ α) : Extends r r := fun _ _ h => h

theorem fail (r : Reader τ α) : Extends Reader.fail r := by
  intro xs cut h
  cases h

/-- What the smaller reader reads, the larger one does. -/
theorem reads (h : Extends r r') {xs : List τ} {a : α} (hr : Reads r xs a) : Reads r' xs a :=
  fun rest => h _ _ (hr rest)

/-- Sequences extend when their parts do. -/
theorem bind (hr : Extends r r') (hf : ∀ a, Extends (f a) (f' a)) :
    Extends (r >>= f) (r' >>= f') := by
  intro xs cut h
  obtain ⟨a, mid, hread, hread'⟩ := bind_eq_some_iff.mp h
  exact bind_eq_some_iff.mpr ⟨a, mid, hr _ _ hread, hf a _ _ hread'⟩

theorem many (hr : Extends r r') (n : Nat) : Extends (many r n) (many r' n) := by
  induction n with
  | zero => exact Extends.refl _
  | succ n ih => exact hr.bind fun a => ih.bind fun as => Extends.refl _

/-- Where `r` reads a row of pieces that `r'` reads one by one, it reads each of
them: they end at the same places. -/
theorem pieces_of_many (h : Extends r r') (hr : Exact r) {pieces : List (List τ)}
    (hpieces : ∀ piece ∈ pieces, ∃ a, Reads r' piece a) {rest rest' : List τ} {values : List α}
    (hmany : Reader.many r pieces.length (pieces.flatten ++ rest) = some (values, rest')) :
    ∀ piece ∈ pieces, ∃ a, Reads r piece a := by
  induction pieces generalizing values rest' with
  | nil => exact fun piece hmem => by cases hmem
  | cons first pieces ih =>
      obtain ⟨⟨a', hfirst⟩, hothers⟩ := List.forall_mem_cons.mp hpieces
      obtain ⟨a, mid, hread, hmany⟩ := bind_eq_some_iff.mp hmany
      obtain ⟨as, mid', hread', -⟩ := bind_eq_some_iff.mp hmany
      rw [List.flatten_cons, List.append_assoc] at hread
      have hmid : mid = pieces.flatten ++ rest := by
        have hsame := (h _ _ hread).symm.trans (hfirst (pieces.flatten ++ rest))
        exact (Prod.mk.inj (Option.some.inj hsame)).2
      obtain ⟨xs, hxs, hreads⟩ := hr _ _ _ hread
      rw [hmid, List.append_cancel_right_eq] at hxs
      rw [hmid] at hread'
      exact List.forall_mem_cons.mpr ⟨⟨a, hxs ▸ hreads⟩, ih hothers hread'⟩

end Extends

/-! ## §5. What a reader takes. -/

/-- `r` succeeds just where it takes a list of which `P` holds. -/
def Parses (r : Reader τ α) (P : List τ → α → Prop) : Prop :=
  ∀ input a rest, r input = some (a, rest) ↔ ∃ xs, input = xs ++ rest ∧ P xs a

/-- `n` times over, for what is taken and not for a value. -/
def skipMany (r : Reader τ Unit) : (n : Nat) → Reader τ Unit
  | 0 => pure ()
  | n + 1 => do
      r
      skipMany r n

/-- Up to a `stop` and over it, at most `fuel - 1` times. -/
def skipUntil [DecidableEq τ] (stop : τ) (r : Reader τ Unit) : (fuel : Nat) → Reader τ Unit
  | 0 => fail
  | fuel + 1 => fun input =>
      if input.head? = some stop then some ((), input.tail)
      else (r >>= fun _ => skipUntil stop r fuel) input

namespace Parses

variable {r : Reader τ α} {f : α → Reader τ β} {P : List τ → α → Prop}
  {Q : α → List τ → β → Prop}

/-- The same said otherwise. -/
theorem congr {P' : List τ → α → Prop} (h : Parses r P) (hP : ∀ xs a, P xs a ↔ P' xs a) :
    Parses r P' := by
  intro input a rest
  rw [h input a rest]
  exact exists_congr fun xs => and_congr_right fun _ => hP xs a

/-- What is described is read. -/
theorem reads (h : Parses r P) {xs : List τ} {a : α} (hP : P xs a) : Reads r xs a :=
  fun _ => (h _ _ _).mpr ⟨xs, rfl, hP⟩

protected theorem fail : Parses (fail : Reader τ α) fun _ _ => False := by
  intro input a _
  constructor
  · intro h
    cases h
  · rintro ⟨xs, -, h⟩
    exact h.elim

protected theorem pure (a : α) :
    Parses (Pure.pure a : Reader τ α) fun xs b => xs = [] ∧ a = b := by
  intro input b rest
  rw [pure_eq_some_iff]
  constructor
  · rintro ⟨hvalue, hrest⟩
    exact ⟨[], hrest, rfl, hvalue⟩
  · rintro ⟨xs, hinput, hnil, hvalue⟩
    rw [hnil] at hinput
    exact ⟨hvalue, hinput⟩

theorem next : Parses (next : Reader τ τ) fun xs x => xs = [x] := by
  intro input x rest
  constructor
  · intro h
    cases input with
    | nil => cases h
    | cons y ys =>
        obtain ⟨rfl, rfl⟩ := Prod.mk.inj (Option.some.inj h)
        exact ⟨[y], rfl, rfl⟩
  · rintro ⟨xs, rfl, rfl⟩
    exact Reads.next x rest

/-- Any `n` are read by `take n`, and nothing else. -/
theorem take (n : Nat) : Parses (take n : Reader τ (List τ)) fun xs ys =>
    xs = ys ∧ ys.length = n := by
  intro input ys rest
  constructor
  · intro h
    have h' : (if n ≤ input.length then some (input.take n, input.drop n) else none)
        = some (ys, rest) := h
    split at h'
    next hlength =>
      obtain ⟨rfl, rfl⟩ := Prod.mk.inj (Option.some.inj h')
      refine ⟨input.take n, (List.take_append_drop n input).symm, rfl, ?_⟩
      rw [List.length_take, Nat.min_eq_left hlength]
    next => cases h'
  · rintro ⟨xs, rfl, rfl, hlength⟩
    exact Reads.take_of_length hlength rest

/-- A sequence reads two pieces, each as its part describes it. -/
theorem bind (hr : Parses r P) (hf : ∀ a, Parses (f a) (Q a)) :
    Parses (r >>= f) fun xs b => ∃ a ys zs, xs = ys ++ zs ∧ P ys a ∧ Q a zs b := by
  intro input b rest
  rw [bind_eq_some_iff]
  constructor
  · rintro ⟨a, mid, hread, hread'⟩
    obtain ⟨ys, rfl, hys⟩ := (hr _ _ _).mp hread
    obtain ⟨zs, rfl, hzs⟩ := (hf a _ _ _).mp hread'
    exact ⟨ys ++ zs, (List.append_assoc ys zs rest).symm, a, ys, zs, rfl, hys, hzs⟩
  · rintro ⟨xs, rfl, a, ys, zs, rfl, hys, hzs⟩
    rw [List.append_assoc]
    exact ⟨a, zs ++ rest, hr.reads hys _, (hf a).reads hzs rest⟩

/-- Of two readers the one that succeeds, where they do not both. -/
theorem orElse {r' : Reader τ α} {P' : List τ → α → Prop} (hr : Parses r P) (hr' : Parses r' P')
    (hdisjoint : ∀ input, r' input ≠ none → r input = none) :
    Parses (r <|> r') fun xs a => P xs a ∨ P' xs a := by
  intro input a rest
  have hcases : (r <|> r') input = some (a, rest)
      ↔ r input = some (a, rest) ∨ r' input = some (a, rest) := by
    have hdisjoint := hdisjoint input
    show (r input <|> r' input) = _ ↔ _
    cases hread : r input with
    | none => exact ⟨Or.inr, fun h => h.elim (fun h => by cases h) id⟩
    | some cut =>
        refine ⟨Or.inl, fun h => h.elim id fun h => ?_⟩
        rw [hdisjoint (by rw [h]; exact Option.some_ne_none _)] at hread
        cases hread
  rw [hcases, hr input a rest, hr' input a rest, ← exists_or]
  exact exists_congr fun xs => and_or_left.symm

section

variable {skip : Reader τ Unit} {R : List τ → Prop}

/-- `n` pieces in a row. -/
theorem skipMany (h : Parses skip fun xs _ => R xs) (n : Nat) :
    Parses (skipMany skip n) fun xs _ =>
      ∃ pieces : List (List τ), pieces.length = n ∧ (∀ piece ∈ pieces, R piece)
        ∧ xs = pieces.flatten := by
  induction n with
  | zero =>
      refine (Parses.pure ()).congr fun xs _ => ⟨?_, ?_⟩
      · rintro ⟨rfl, -⟩
        exact ⟨[], rfl, fun _ h => (by cases h), rfl⟩
      · rintro ⟨pieces, hlength, -, rfl⟩
        rw [List.length_eq_zero_iff.mp hlength]
        exact ⟨rfl, rfl⟩
  | succ n ih =>
      refine (h.bind fun _ => ih).congr fun xs _ => ⟨?_, ?_⟩
      · rintro ⟨-, ys, zs, rfl, hys, pieces, hlength, hpieces, rfl⟩
        refine ⟨ys :: pieces, by rw [List.length_cons, hlength], ?_, rfl⟩
        exact List.forall_mem_cons.mpr ⟨hys, hpieces⟩
      · rintro ⟨pieces, hlength, hpieces, rfl⟩
        obtain ⟨ys, pieces, rfl⟩ := List.exists_cons_of_length_eq_add_one hlength
        obtain ⟨hys, hpieces⟩ := List.forall_mem_cons.mp hpieces
        exact ⟨(), ys, pieces.flatten, rfl, hys, pieces, Nat.succ.inj hlength, hpieces, rfl⟩

/-- Any number of pieces that do not start with `stop`, and then `stop`. -/
theorem skipUntil [DecidableEq τ] {stop : τ} (h : Parses skip fun xs _ => R xs)
    (hstart : ∀ xs, R xs → xs ≠ [] ∧ xs.head? ≠ some stop) :
    Parses (fun input => skipUntil stop skip input.length input) fun xs _ =>
      ∃ pieces : List (List τ), (∀ piece ∈ pieces, R piece) ∧ xs = pieces.flatten ++ [stop] := by
  intro input _ rest
  constructor
  · intro hread
    -- whatever the fuel
    replace hread : ∃ fuel, Reader.skipUntil stop skip fuel input = some ((), rest) := ⟨_, hread⟩
    obtain ⟨fuel, hread⟩ := hread
    induction fuel generalizing input with
    | zero => cases hread
    | succ fuel ih =>
        unfold Reader.skipUntil at hread
        split at hread
        next hhead =>
          obtain ⟨-, rfl⟩ := Prod.mk.inj (Option.some.inj hread)
          refine ⟨[stop], ?_, [], fun _ h => (by cases h), rfl⟩
          exact (List.cons_head?_tail hhead).symm
        next =>
          obtain ⟨_, mid, hread, hread'⟩ := bind_eq_some_iff.mp hread
          obtain ⟨ys, rfl, hys⟩ := (h _ _ _).mp hread
          obtain ⟨zs, rfl, pieces, hpieces, rfl⟩ := ih mid hread'
          refine ⟨ys ++ (pieces.flatten ++ [stop]), (List.append_assoc _ _ _).symm,
            ys :: pieces, List.forall_mem_cons.mpr ⟨hys, hpieces⟩, ?_⟩
          rw [List.flatten_cons, List.append_assoc]
  · rintro ⟨xs, rfl, pieces, hpieces, rfl⟩
    -- enough fuel, since no piece is empty
    have hfuel : ∀ fuel, pieces.length < fuel → Reader.skipUntil stop skip fuel
        (pieces.flatten ++ [stop] ++ rest) = some ((), rest) := by
      intro fuel hfuel
      induction pieces generalizing fuel with
      | nil =>
          obtain ⟨fuel, rfl⟩ := Nat.exists_eq_add_one_of_ne_zero (Nat.ne_of_gt hfuel)
          unfold Reader.skipUntil
          exact if_pos rfl
      | cons ys pieces ih =>
          obtain ⟨hys, hpieces⟩ := List.forall_mem_cons.mp hpieces
          obtain ⟨hne, hhead⟩ := hstart ys hys
          rw [List.length_cons] at hfuel
          obtain ⟨fuel, rfl⟩ := Nat.exists_eq_add_one_of_ne_zero
            (Nat.ne_of_gt (Nat.zero_lt_of_lt hfuel))
          unfold Reader.skipUntil
          rw [List.flatten_cons, List.append_assoc, List.append_assoc,
            List.head?_append_of_ne_nil _ hne, if_neg hhead]
          refine bind_eq_some_iff.mpr ⟨(), _, h.reads hys _, ?_⟩
          rw [← List.append_assoc]
          exact ih hpieces fuel (by omega)
    refine hfuel _ ?_
    have hcount := length_le_flatten fun piece hmem => (hstart piece (hpieces piece hmem)).1
    rw [List.length_append, List.length_append, List.length_singleton]
    omega

end

end Parses

end Reader

end Libwebauthn
