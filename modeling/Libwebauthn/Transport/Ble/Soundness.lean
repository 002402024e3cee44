/-
  Libwebauthn.Transport.Ble.Soundness — what the parser makes of any
  fragments.

  `BleFrameParser` counts bytes and looks at nothing else of a continuation,
  so it completes a frame on fragments that are none: out of order, lost and
  made up for by others, or longer than announced.  `parser_sound_iff` says
  for which fragments the frame is right; a delivery that is in order is
  intact as well (`intact_of_inOrder`), as long as the 128 sequence numbers
  tell the continuations apart.
-/
import Libwebauthn.Transport.Ble.Connection

namespace Libwebauthn.Transport.Ble

open BleFrameParser

/-! ## §1. The fragments that count. -/

/-- The fragments a fresh parser keeps: from the first that can be an initial
fragment on, all that are not empty. -/
def kept (fragments : List Bytes) : List Bytes :=
  match fragments.dropWhile fun f => decide (f.length < INITIAL_FRAGMENT_MIN_LENGTH) with
  | [] => []
  | initial :: rest => initial :: rest.filter fun f => !f.isEmpty

/-- Behind an initial fragment, only an empty one is rejected. -/
theorem feed_conts (fragments : List Bytes) :
    ∀ held : List Bytes, held ≠ [] →
      (feed update ⟨held⟩ fragments).2.fragments
        = held ++ fragments.filter fun f => !f.isEmpty := by
  induction fragments with
  | nil =>
      intro held _
      exact (List.append_nil held).symm
  | cons f fragments ih =>
      intro held hne
      rw [feed_cons_state]
      -- an empty fragment is refused, and nothing is pushed
      by_cases hnil : f = []
      · subst hnil
        have hsame : (update ⟨held⟩ []).2 = ⟨held⟩ := by
          rw [update, if_pos (.inr (by decide))]
        rw [hsame]
        exact ih held hne
      · have hlong : ¬ f.length < CONT_FRAGMENT_MIN_LENGTH := by
          have := List.length_pos_iff.mpr hnil
          simp only [CONT_FRAGMENT_MIN_LENGTH, CONT_FRAGMENT_HEADER_LENGTH]
          omega
        have hnext : (update ⟨held⟩ f).2 = ⟨held ++ [f]⟩ := by
          rw [update, if_neg]
          rintro (⟨h, _⟩ | h)
          · exact hne h
          · exact hlong h
        rw [hnext, List.filter_cons_of_pos (by simpa using hnil)]
        refine (ih (held ++ [f]) (by simp)).trans ?_
        rw [List.append_assoc]
        rfl

theorem feed_kept (fragments : List Bytes) :
    (new.feedFragments fragments).2.fragments = kept fragments := by
  unfold kept feedFragments
  induction fragments with
  | nil => rfl
  | cons f fragments ih =>
      rw [feed_cons_state]
      by_cases hshort : f.length < INITIAL_FRAGMENT_MIN_LENGTH
      · have hsame : (update new f).2 = new := by
          rw [update, if_pos (.inl ⟨rfl, hshort⟩)]
        rw [hsame, List.dropWhile_cons_of_pos (by simpa using hshort)]
        exact ih
      · have hnext : (update new f).2 = ⟨[f]⟩ := by
          rw [update, if_neg]
          · rfl
          · simp only [INITIAL_FRAGMENT_MIN_LENGTH, INITIAL_FRAGMENT_HEADER_LENGTH,
              CONT_FRAGMENT_MIN_LENGTH, CONT_FRAGMENT_HEADER_LENGTH] at hshort ⊢
            omega
        rw [hnext, List.dropWhile_cons_of_neg (by simpa using hshort)]
        exact feed_conts fragments [f] (List.cons_ne_nil _ _)

/-- The first fragment that is kept has a header. -/
theorem kept_header {fragments : List Bytes} {initial : Bytes} {conts : List Bytes}
    (h : kept fragments = initial :: conts) : INITIAL_FRAGMENT_MIN_LENGTH ≤ initial.length := by
  unfold kept at h
  rcases hdrop : fragments.dropWhile fun f => decide (f.length < INITIAL_FRAGMENT_MIN_LENGTH)
    with _ | ⟨f, rest⟩
  · rw [hdrop] at h
    cases h
  · rw [hdrop] at h
    obtain ⟨rfl, _⟩ := List.cons.inj h
    have hhead := List.head?_dropWhile_not
      (fun f : Bytes => decide (f.length < INITIAL_FRAGMENT_MIN_LENGTH)) fragments
    rw [hdrop] at hhead
    simpa using hhead

/-! ## §2. Sound frames. -/

/-- `update` answered `done` on the last fragment, and `frame` is what the
parser gives then. -/
def Yields (fragments : List Bytes) (frame : BleFrame) : Prop :=
  (new.feedFragments fragments).1.getLast? = some (.ok .done)
    ∧ (new.feedFragments fragments).2.frame = .ok frame

/-- The frame is as long as announced, and the continuations are numbered
from 0, modulo 128. -/
structure Sound (held : List Bytes) (frame : BleFrame) : Prop where
  declared : expectedBytes ⟨held⟩ = some frame.data.length
  numbered : ∀ i cont, held.tail[i]? = some cont → cont.head? = some (UInt8.ofNat (i % 128))

/-- The continuations of `chunks`, numbered modulo 128. -/
def numberedConts (chunks : List Bytes) : List Bytes :=
  numberFrom (fun n chunk => contFragment (UInt8.ofNat (n % 128)) chunk) 0 chunks

/-- `held` is a frame cut in pieces, wherever the cuts are. -/
def CutFrom (frame : BleFrame) (held : List Bytes) : Prop :=
  ∃ head chunks, frame.data = head ++ chunks.flatten ∧ frame.data.length ≤ 65535
    ∧ held = initialFragment frame.cmd (UInt16.ofNat frame.data.length) head
        :: numberedConts chunks

/-- The fragments are, in order, those of some frame. -/
def InOrder (held : List Bytes) : Prop := ∃ frame, CutFrom frame held

theorem tryFrom_eq_some {b : UInt8} {cmd : BleCommand} (h : BleCommand.tryFrom b = some cmd) :
    b = cmd.toU8 := by
  unfold BleCommand.tryFrom at h
  split_ifs at h <;> cases h <;> assumption

/-- The data of fragments, whatever the numbers of the continuations. -/
theorem bodies_numberFrom (number : Nat → UInt8) (initial : Bytes) (chunks : List Bytes) :
    bodies (initial :: numberFrom (fun n chunk => contFragment (number n) chunk) 0 chunks)
      = initial.drop INITIAL_FRAGMENT_HEADER_LENGTH ++ chunks.flatten := by
  have hconts : ∀ k, (numberFrom (fun n chunk => contFragment (number n) chunk) k
      chunks).flatMap (List.drop CONT_FRAGMENT_HEADER_LENGTH) = chunks.flatten := by
    induction chunks with
    | nil => exact fun _ => rfl
    | cons chunk chunks ih =>
        intro k
        rw [numberFrom, List.flatMap_cons, ih (k + 1)]
        rfl
  rw [bodies, hconts 0]

/-- Continuations with the right numbers are the numbered ones. -/
theorem eq_numberedConts {conts : List Bytes}
    (h : ∀ i cont, conts[i]? = some cont → cont.head? = some (UInt8.ofNat (i % 128))) :
    conts = numberedConts (conts.map (List.drop 1)) := by
  refine List.ext_getElem? fun i => ?_
  rw [numberedConts, numberFrom_getElem?, List.getElem?_map, Option.map_map]
  cases hi : conts[i]? with
  | none => rfl
  | some cont =>
      have hhead := h i cont hi
      cases cont with
      | nil => cases hhead
      | cons seq chunk =>
          obtain rfl := Option.some.inj hhead
          rw [Option.map_some, Function.comp_apply, Nat.zero_add]
          rfl

/-- The frame of fragments in order is the one they were cut from. -/
theorem sound_of_cutFrom {frame f : BleFrame} {held : List Bytes} (h : CutFrom f held)
    (hframe : BleFrameParser.frame ⟨held⟩ = .ok frame) : frame = f ∧ Sound held frame := by
  obtain ⟨head, chunks, hdata, hlen, rfl⟩ := h
  obtain ⟨cmd, data⟩ := frame
  obtain ⟨_, ⟨b, initial, conts, hheld, htry⟩, hbodies⟩ := (frame_eq_ok_iff _ _ _).mp hframe
  obtain ⟨hinitial, _⟩ := List.cons.inj hheld
  obtain ⟨rfl, _⟩ := List.cons.inj hinitial
  rw [BleCommand.tryFrom_toU8] at htry
  have hcmd := Option.some.inj htry
  rw [numberedConts, bodies_numberFrom] at hbodies
  have hsame : data = f.data := by
    rw [hbodies, hdata]
    rfl
  subst hsame hcmd
  refine ⟨rfl, expectedBytes_initialFragment hlen rfl, ?_⟩
  intro i cont hi
  rw [List.tail_cons, numberedConts, numberFrom_getElem?, Option.map_eq_some_iff] at hi
  obtain ⟨chunk, _, rfl⟩ := hi
  rw [Nat.zero_add]
  rfl

/-- **A sound frame was cut into the fragments that were kept.** -/
theorem cutFrom_of_sound {frame : BleFrame} {held : List Bytes}
    (hheader : ∀ initial conts, held = initial :: conts →
      INITIAL_FRAGMENT_MIN_LENGTH ≤ initial.length)
    (hframe : BleFrameParser.frame ⟨held⟩ = .ok frame) (h : Sound held frame) :
    CutFrom frame held := by
  obtain ⟨cmd, data⟩ := frame
  obtain ⟨_, ⟨b, initial, conts, hheld, htry⟩, hbodies⟩ := (frame_eq_ok_iff _ _ _).mp hframe
  obtain rfl : held = (b :: initial) :: conts := hheld
  obtain rfl := tryFrom_eq_some htry
  match initial, hheader _ _ rfl with
  | l0 :: l1 :: head, _ =>
      -- the two length bytes are those of the payload
      have hvalue : beDecode [l0, l1] = data.length := Option.some.inj h.declared
      have hlt : beDecode [l0, l1] < 65536 := by simpa using beDecode_lt [l0, l1]
      have hconts := eq_numberedConts h.numbered
      rw [List.tail_cons] at hconts
      refine ⟨head, conts.map (List.drop 1), ?_, ?_, ?_⟩
      · show data = _
        rw [hbodies]
        show head ++ conts.flatMap (List.drop 1) = _
        rw [List.flatMap_def]
      · show data.length ≤ 65535
        omega
      · rw [← hconts, initialFragment]
        congr 2
        have hbytes : beEncode 2 (UInt16.ofNat data.length).toNat = [l0, l1] := by
          rw [UInt16.toNat_ofNat', ← hvalue, Nat.mod_eq_of_lt (by omega)]
          exact beEncode_beDecode [l0, l1]
        rw [hbytes]
        rfl

/-! ## §3. Deliveries. -/

variable {overflowChecks : Bool}

/-- What becomes of the fragments of a frame on the way. -/
inductive Delivered (sent : List Bytes) : List Bytes → Prop
  /-- Some are lost, some come twice, the order is another. -/
  | shuffled {fragments : List Bytes} (h : ∀ f ∈ fragments, f ∈ sent) : Delivered sent fragments
  /-- Others come after them. -/
  | followed (others : List Bytes) : Delivered sent (sent ++ others)
  /-- Bytes are appended to them. -/
  | lengthened {tails : List Bytes} (h : tails.length = sent.length) :
      Delivered sent (List.zipWith (· ++ ·) sent tails)

/-- The fragments that were kept hold what was sent. -/
def Intact (sent : BleFrame) (held : List Bytes) : Prop :=
  held.head?.bind List.head? = some sent.cmd.toU8 ∧ bodies held = sent.data

theorem eq_iff_intact {frame sent : BleFrame} {held : List Bytes}
    (hframe : BleFrameParser.frame ⟨held⟩ = .ok frame) : frame = sent ↔ Intact sent held := by
  obtain ⟨cmd, data⟩ := frame
  obtain ⟨_, ⟨b, initial, conts, hheld, htry⟩, hbodies⟩ := (frame_eq_ok_iff _ _ _).mp hframe
  obtain rfl : held = (b :: initial) :: conts := hheld
  obtain rfl := tryFrom_eq_some htry
  have hinj : cmd.toU8 = sent.cmd.toU8 ↔ cmd = sent.cmd := by
    constructor
    · intro h
      rw [h, BleCommand.tryFrom_toU8] at htry
      exact (Option.some.inj htry).symm
    · exact fun h => by rw [h]
  obtain ⟨sentCmd, sentData⟩ := sent
  unfold Intact
  rw [BleFrame.mk.injEq, List.head?_cons, Option.bind_some, List.head?_cons, Option.some.injEq,
    hinj, hbodies]

/-- The first byte of a frame is a command, never a sequence number. -/
theorem toU8_ne_seq (cmd : BleCommand) {i : Nat} (hi : i < 128) : cmd.toU8 ≠ UInt8.ofNat i := by
  intro h
  have hval := congrArg UInt8.toNat h
  rw [UInt8.toNat_ofNat', Nat.mod_eq_of_lt (by omega)] at hval
  cases cmd <;> simp only [BleCommand.toU8, UInt8.reduceToNat] at hval <;> omega

/-- Two lists that agree as far as both go. -/
theorem prefix_total {α : Type} {xs ys : List α}
    (h : ∀ i, i < xs.length → i < ys.length → xs[i]? = ys[i]?) : xs <+: ys ∨ ys <+: xs := by
  have htake : xs.take ys.length = ys.take xs.length := by
    refine List.ext_getElem? fun i => ?_
    rw [List.getElem?_take, List.getElem?_take]
    by_cases hx : i < xs.length
    · by_cases hy : i < ys.length
      · rw [if_pos hx, if_pos hy, h i hx hy]
      · rw [if_neg hy, if_pos hx, List.getElem?_eq_none (Nat.le_of_not_lt hy)]
    · by_cases hy : i < ys.length
      · rw [if_pos hy, if_neg hx, List.getElem?_eq_none (Nat.le_of_not_lt hx)]
      · rw [if_neg hx, if_neg hy]
  rcases Nat.le_total xs.length ys.length with hle | hle
  · rw [List.take_of_length_le hle] at htake
    exact .inl (htake ▸ List.take_prefix _ _)
  · rw [List.take_of_length_le hle] at htake
    exact .inr (htake ▸ List.take_prefix _ _)

theorem bodies_mono (initial : Bytes) {conts conts' : List Bytes} (h : conts <+: conts') :
    bodies (initial :: conts) <+: bodies (initial :: conts') := by
  obtain ⟨more, rfl⟩ := h
  refine ⟨more.flatMap (List.drop CONT_FRAGMENT_HEADER_LENGTH), ?_⟩
  rw [bodies, bodies, List.flatMap_append, List.append_assoc]

/-! ## §4. What was sent. -/

/-- The fragments of a sent frame. -/
theorem sentFrame_fragments (sent : SentFrame overflowChecks) :
    ∃ head chunks, sent.fragments
        = initialFragment sent.frame.cmd (UInt16.ofNat sent.frame.data.length) head
          :: numbered 0 chunks
      ∧ chunks = sent.frame.contChunks sent.maxFragmentLength
      ∧ sent.frame.data = head ++ chunks.flatten := by
  obtain ⟨frame, maxFragmentLength, fragments, hfits, hmax, hsent⟩ := sent
  rw [frame.fragments_eq overflowChecks hmax] at hsent
  split at hsent
  · cases hsent
  obtain rfl := Except.ok.inj hsent
  refine ⟨_, _, rfl, rfl, ?_⟩
  show frame.data = _ ++ (chunksOf _ _).flatten
  rw [chunksOf_flatten (by omega), List.take_append_drop]

theorem mem_kept {fragments : List Bytes} {f : Bytes} (h : f ∈ kept fragments) :
    f ∈ fragments := by
  unfold kept at h
  have hsub := List.dropWhile_sublist (l := fragments)
    fun f => decide (f.length < INITIAL_FRAGMENT_MIN_LENGTH)
  rcases hdrop : fragments.dropWhile fun f => decide (f.length < INITIAL_FRAGMENT_MIN_LENGTH)
    with _ | ⟨initial, rest⟩
  · rw [hdrop] at h
    cases h
  · rw [hdrop] at h hsub
    refine hsub.subset ?_
    rcases List.mem_cons.mp h with hhead | htail
    · exact hhead ▸ List.mem_cons_self
    · exact List.mem_cons_of_mem _ (List.mem_filter.mp htail).1

/-- An initial fragment and continuations are all kept. -/
theorem kept_cons (cmd : BleCommand) (length : UInt16) (head : Bytes) (conts : List Bytes) :
    kept (initialFragment cmd length head :: conts)
      = initialFragment cmd length head :: conts.filter fun f => !f.isEmpty := by
  have hlong : ¬ (initialFragment cmd length head).length < INITIAL_FRAGMENT_MIN_LENGTH := by
    simp [initialFragment, INITIAL_FRAGMENT_MIN_LENGTH, INITIAL_FRAGMENT_HEADER_LENGTH]
  unfold kept
  rw [List.dropWhile_cons_of_neg (by simpa using hlong)]

theorem filter_numbered (n : Nat) (chunks : List Bytes) :
    (numbered n chunks).filter (fun f => !f.isEmpty) = numbered n chunks := by
  refine List.filter_eq_self.mpr fun f hf => ?_
  obtain ⟨i, hi⟩ := List.mem_iff_getElem?.mp hf
  rw [numbered, numberFrom_getElem?, Option.map_eq_some_iff] at hi
  obtain ⟨chunk, _, rfl⟩ := hi
  rfl

/-- What a delivery in order is compared with: as many bytes as the initial
fragment of the sent frame announces. -/
theorem length_of_inOrder {frame f : BleFrame} {head : Bytes} {conts : List Bytes}
    (hfits : f.data.length ≤ 65535)
    (hframe : BleFrameParser.frame
      ⟨initialFragment f.cmd (UInt16.ofNat f.data.length) head :: conts⟩ = .ok frame)
    (horder : InOrder (initialFragment f.cmd (UInt16.ofNat f.data.length) head :: conts)) :
    (bodies (initialFragment f.cmd (UInt16.ofNat f.data.length) head :: conts)).length
      = f.data.length := by
  obtain ⟨g, hcut⟩ := horder
  have hdeclared := (sound_of_cutFrom hcut hframe).2.declared
  rw [expectedBytes_initialFragment hfits rfl, Option.some.injEq] at hdeclared
  have hbodies := ((frame_eq_ok_iff _ frame.cmd frame.data).mp hframe).2.2
  exact (congrArg List.length hbodies).symm.trans hdeclared.symm

/-- **Shuffled fragments in order are intact**: the numbers name the
continuations, as long as there are no more of them than numbers. -/
theorem intact_of_shuffled (sent : SentFrame overflowChecks)
    (hcount : (sent.frame.contChunks sent.maxFragmentLength).length ≤ 128)
    {fragments : List Bytes} {frame : BleFrame}
    (hmem : ∀ f ∈ kept fragments, f ∈ sent.fragments)
    (hframe : BleFrameParser.frame ⟨kept fragments⟩ = .ok frame)
    (horder : InOrder (kept fragments)) : Intact sent.frame (kept fragments) := by
  obtain ⟨head, chunks, hsent, hchunks, hdata⟩ := sentFrame_fragments sent
  rw [← hchunks] at hcount
  -- a continuation that was sent, with its number
  have hnumber : ∀ f ∈ numbered 0 chunks, ∃ i, i < 128 ∧ f.head? = some (UInt8.ofNat i)
      ∧ (numbered 0 chunks)[i]? = some f := by
    intro f hf
    obtain ⟨i, hi⟩ := List.mem_iff_getElem?.mp hf
    have hnamed := hi
    rw [numbered, numberFrom_getElem?, Option.map_eq_some_iff] at hi
    obtain ⟨chunk, hchunk, rfl⟩ := hi
    obtain ⟨hlt, _⟩ := List.getElem?_eq_some_iff.mp hchunk
    exact ⟨i, by omega, by rw [Nat.zero_add]; rfl, hnamed⟩
  obtain ⟨_, ⟨b, initial, conts, hkept, htry⟩, _⟩ :=
    (frame_eq_ok_iff _ frame.cmd frame.data).mp hframe
  have hkept' : kept fragments = (b :: initial) :: conts := hkept
  obtain ⟨g, hcut⟩ := horder
  have hsound := (sound_of_cutFrom hcut hframe).2
  have horder : InOrder (kept fragments) := ⟨g, hcut⟩
  rw [hkept'] at hmem hframe hsound horder ⊢
  -- the first fragment begins with a command
  have hinitial : b :: initial
      = initialFragment sent.frame.cmd (UInt16.ofNat sent.frame.data.length) head := by
    have hfirst := hmem (b :: initial) (by simp)
    rw [hsent] at hfirst
    rcases List.mem_cons.mp hfirst with heq | hcont
    · exact heq
    · obtain ⟨i, hi, hhead, _⟩ := hnumber _ hcont
      refine absurd ?_ (toU8_ne_seq frame.cmd hi)
      rw [← tryFrom_eq_some htry]
      exact Option.some.inj hhead
  -- the others begin with a number
  have hagree : ∀ i, i < conts.length → i < (numbered 0 chunks).length →
      conts[i]? = (numbered 0 chunks)[i]? := by
    intro i hi hi'
    rw [numbered, numberFrom_length] at hi'
    have hcont := List.getElem?_eq_getElem hi
    have hhead := hsound.numbered i _ hcont
    rw [Nat.mod_eq_of_lt (by omega)] at hhead
    have hfrom := hmem conts[i] (List.mem_cons_of_mem _ (List.getElem_mem hi))
    rw [hsent] at hfrom
    rcases List.mem_cons.mp hfrom with heq | hnamed
    · rw [heq] at hhead
      exact absurd (Option.some.inj hhead) (toU8_ne_seq sent.frame.cmd (by omega))
    · obtain ⟨j, hj, hhead', hj'⟩ := hnumber _ hnamed
      rw [hhead, Option.some.injEq, ← UInt8.toNat_inj, UInt8.toNat_ofNat', UInt8.toNat_ofNat',
        Nat.mod_eq_of_lt (by omega), Nat.mod_eq_of_lt (by omega)] at hhead'
      rw [hcont, ← hj', ← hhead']
  rw [hinitial] at hframe horder ⊢
  have hlength := length_of_inOrder sent.fits hframe horder
  have hwhole : bodies (initialFragment sent.frame.cmd (UInt16.ofNat sent.frame.data.length) head
      :: numbered 0 chunks) = sent.frame.data := by
    rw [numbered, bodies_numberFrom, hdata]
    rfl
  refine ⟨rfl, ?_⟩
  rcases prefix_total hagree with hpre | hpre
  · have hbodies := bodies_mono (initialFragment sent.frame.cmd
      (UInt16.ofNat sent.frame.data.length) head) hpre
    rw [hwhole] at hbodies
    exact hbodies.eq_of_length hlength
  · have hbodies := bodies_mono (initialFragment sent.frame.cmd
      (UInt16.ofNat sent.frame.data.length) head) hpre
    rw [hwhole] at hbodies
    exact (hbodies.eq_of_length hlength.symm).symm

/-- Appending bytes to continuations makes their data longer. -/
theorem flatMap_drop_zipWith (conts : List Bytes) :
    ∀ tails : List Bytes, tails.length = conts.length → (∀ f ∈ conts, f ≠ []) →
      ((List.zipWith (· ++ ·) conts tails).flatMap (List.drop CONT_FRAGMENT_HEADER_LENGTH)).length
        = (conts.flatMap (List.drop CONT_FRAGMENT_HEADER_LENGTH)).length
          + tails.flatten.length := by
  induction conts with
  | nil =>
      intro tails hlen _
      obtain rfl := List.length_eq_zero_iff.mp hlen
      rfl
  | cons f conts ih =>
      intro tails hlen hne
      cases tails with
      | nil => cases hlen
      | cons tail tails =>
          have hpos := List.length_pos_iff.mpr (hne f (by simp))
          have hrest := ih tails (by simpa using hlen) fun g hg => hne g (List.mem_cons_of_mem _ hg)
          simp only [List.zipWith_cons_cons, List.flatMap_cons, List.flatten_cons,
            List.length_append, List.length_drop, hrest, CONT_FRAGMENT_HEADER_LENGTH]
          omega

theorem zipWith_append_nil (conts : List Bytes) :
    ∀ tails : List Bytes, tails.length = conts.length → tails.flatten = [] →
      List.zipWith (· ++ ·) conts tails = conts := by
  induction conts with
  | nil =>
      intro tails _ _
      rfl
  | cons f conts ih =>
      intro tails hlen hnil
      cases tails with
      | nil => cases hlen
      | cons tail tails =>
          rw [List.flatten_cons, List.append_eq_nil_iff] at hnil
          rw [List.zipWith_cons_cons, hnil.1, List.append_nil,
            ih tails (by simpa using hlen) hnil.2]

theorem zipWith_append_ne_nil (conts : List Bytes) :
    ∀ tails : List Bytes, (∀ f ∈ conts, f ≠ []) →
      ∀ f ∈ List.zipWith (· ++ ·) conts tails, f ≠ [] := by
  induction conts with
  | nil =>
      intro tails _ f hf
      simp at hf
  | cons g conts ih =>
      intro tails hne f hf
      cases tails with
      | nil => simp at hf
      | cons tail tails =>
          rw [List.zipWith_cons_cons] at hf
          rcases List.mem_cons.mp hf with heq | hmem
          · simp [heq, hne g (by simp)]
          · exact ih tails (fun k hk => hne k (List.mem_cons_of_mem _ hk)) f hmem

/-- **A delivery in order is intact.** -/
theorem intact_of_inOrder (sent : SentFrame overflowChecks)
    (hcount : (sent.frame.contChunks sent.maxFragmentLength).length ≤ 128)
    {fragments : List Bytes} {frame : BleFrame}
    (hframe : BleFrameParser.frame ⟨kept fragments⟩ = .ok frame)
    (horder : InOrder (kept fragments)) (h : Delivered sent.fragments fragments) :
    Intact sent.frame (kept fragments) := by
  obtain ⟨head, chunks, hsent, _, hdata⟩ := sentFrame_fragments sent
  have hwhole : bodies (initialFragment sent.frame.cmd (UInt16.ofNat sent.frame.data.length) head
      :: numbered 0 chunks) = sent.frame.data := by
    rw [numbered, bodies_numberFrom, hdata]
    rfl
  cases h with
  | shuffled hmem =>
      exact intact_of_shuffled sent hcount (fun f hf => hmem f (mem_kept hf)) hframe horder
  | followed others =>
      -- everything that was sent is kept, and the rest has no data
      have hkept : kept (sent.fragments ++ others)
          = initialFragment sent.frame.cmd (UInt16.ofNat sent.frame.data.length) head
            :: (numbered 0 chunks ++ others.filter fun f => !f.isEmpty) := by
        rw [hsent, List.cons_append, kept_cons, List.filter_append, filter_numbered]
      rw [hkept] at hframe horder ⊢
      have hlength := length_of_inOrder sent.fits hframe horder
      have hbodies := bodies_mono (initialFragment sent.frame.cmd
        (UInt16.ofNat sent.frame.data.length) head)
        (List.prefix_append (numbered 0 chunks) (others.filter fun f => !f.isEmpty))
      rw [hwhole] at hbodies
      exact ⟨rfl, (hbodies.eq_of_length hlength.symm).symm⟩
  | @lengthened tails htails =>
      obtain ⟨tail, tails', rfl⟩ : ∃ tail tails', tails = tail :: tails' := by
        cases tails with
        | nil =>
            rw [hsent] at htails
            cases htails
        | cons tail tails' => exact ⟨tail, tails', rfl⟩
      have htails' : tails'.length = (numbered 0 chunks).length := by
        rw [hsent] at htails
        simpa using htails
      have hne : ∀ f ∈ numbered 0 chunks, f ≠ [] := by
        intro f hf
        have := List.mem_filter.mp ((filter_numbered 0 chunks).symm ▸ hf)
        simpa using this.2
      have hzip : List.zipWith (· ++ ·) sent.fragments (tail :: tails')
          = initialFragment sent.frame.cmd (UInt16.ofNat sent.frame.data.length) (head ++ tail)
            :: List.zipWith (· ++ ·) (numbered 0 chunks) tails' := by
        rw [hsent, List.zipWith_cons_cons, initialFragment, initialFragment, List.cons_append,
          List.append_assoc]
      have hall : (List.zipWith (· ++ ·) (numbered 0 chunks) tails').filter (fun f => !f.isEmpty)
          = List.zipWith (· ++ ·) (numbered 0 chunks) tails' := by
        refine List.filter_eq_self.mpr fun f hf => ?_
        simpa using zipWith_append_ne_nil (numbered 0 chunks) tails' hne f hf
      rw [hzip, kept_cons, hall] at hframe horder ⊢
      have hlength := length_of_inOrder sent.fits hframe horder
      -- as many bytes as announced: nothing was appended
      have hgrown := flatMap_drop_zipWith (numbered 0 chunks) tails' htails' hne
      have hsize := congrArg List.length hwhole
      have hheads : ∀ extra : Bytes, (initialFragment sent.frame.cmd
          (UInt16.ofNat sent.frame.data.length) extra).drop INITIAL_FRAGMENT_HEADER_LENGTH
          = extra := fun _ => rfl
      rw [bodies, List.length_append, hheads] at hlength hsize
      rw [List.length_append] at hlength
      have hempty : tail = [] ∧ tails'.flatten = [] := by
        rw [← List.length_eq_zero_iff, ← List.length_eq_zero_iff]
        omega
      rw [hempty.1, List.append_nil, zipWith_append_nil _ _ htails' hempty.2]
      exact ⟨rfl, hwhole⟩

/-! ## §5. When the parser is right. -/

/-- **The frame is sound, and is the one that was sent, exactly for
fragments in order** whose delivery is intact; the second follows from the
first where 128 numbers are enough. -/
theorem parser_sound_iff (fragments : List Bytes) (frame : BleFrame)
    (sent : SentFrame overflowChecks) (h : Yields fragments frame) :
    (Sound (kept fragments) frame ∧ (Delivered sent.fragments fragments → frame = sent.frame)
      ↔ InOrder (kept fragments)
        ∧ (Delivered sent.fragments fragments → Intact sent.frame (kept fragments)))
    ∧ ((sent.frame.contChunks sent.maxFragmentLength).length ≤ 128 →
        InOrder (kept fragments) → Delivered sent.fragments fragments →
          Intact sent.frame (kept fragments)) := by
  have hparser : (new.feedFragments fragments).2 = ⟨kept fragments⟩ :=
    congrArg BleFrameParser.mk (feed_kept fragments)
  have hframe := h.2
  rw [hparser] at hframe
  refine ⟨?_, fun hcount horder => intact_of_inOrder sent hcount hframe horder⟩
  rw [eq_iff_intact hframe]
  refine and_congr_left fun _ => ?_
  constructor
  · exact fun hsound => ⟨frame, cutFrom_of_sound (fun _ _ => kept_header) hframe hsound⟩
  · rintro ⟨f, hcut⟩
    exact (sound_of_cutFrom hcut hframe).2

/-- A frame of two fragments, delivered as it was sent. -/
theorem parser_sound_iff_honest :
    Sound (kept [[0x83, 0, 2, 1], [0, 2]]) ⟨.msg, [1, 2]⟩ :=
  ((parser_sound_iff [[0x83, 0, 2, 1], [0, 2]] ⟨.msg, [1, 2]⟩
    (⟨⟨.msg, [1, 2]⟩, 4, [[0x83, 0, 2, 1], [0, 2]], by decide, by decide, rfl⟩ : SentFrame true)
    ⟨rfl, rfl⟩).1.mpr
      ⟨⟨⟨.msg, [1, 2]⟩, [1], [[2]], rfl, by decide, rfl⟩, fun _ => ⟨rfl, rfl⟩⟩).1

/-- The second of three fragments lost and the third delivered twice: the
frame is complete, its numbers are not, and it is not the one sent. -/
theorem parser_not_sound :
    Yields [[0x83, 0, 5, 1], [1, 5], [1, 5], [1, 5], [1, 5]] ⟨.msg, [1, 5, 5, 5, 5]⟩
      ∧ ¬ Sound (kept [[0x83, 0, 5, 1], [1, 5], [1, 5], [1, 5], [1, 5]]) ⟨.msg, [1, 5, 5, 5, 5]⟩
      ∧ Delivered [[0x83, 0, 5, 1], [0, 2, 3, 4], [1, 5]]
          [[0x83, 0, 5, 1], [1, 5], [1, 5], [1, 5], [1, 5]]
      ∧ (BleFrame.mk .msg [1, 2, 3, 4, 5]).fragments true 4
          = .ok [[0x83, 0, 5, 1], [0, 2, 3, 4], [1, 5]] := by
  refine ⟨⟨rfl, rfl⟩, ?_, .shuffled (by decide), rfl⟩
  intro h
  have hhead := h.numbered 0 [1, 5] rfl
  cases hhead

end Libwebauthn.Transport.Ble
