/-
  Libwebauthn.Transport.Ble.RoundTrip — when the parser undoes the framing.

  `RoundTrips` is what GATT framing is for: well-numbered fragments of the
  negotiated size, from which a fresh parser rebuilds the frame on the last
  one.  The counter of `fragments` is a `u8` that nothing wraps at 128, so
  the data must fit 128 continuations:
  `fragments_roundTrips_iff` is the exact bound.
-/
import Libwebauthn.Transport.Ble.Framing

namespace Libwebauthn.Transport.Ble

/-! ## §1. What the encoder emits. -/

theorem BleCommand.tryFrom_toU8 (cmd : BleCommand) :
    BleCommand.tryFrom cmd.toU8 = some cmd := by
  cases cmd <;> decide

/-- Continuation fragments for `chunks`, numbered from `seq` as a `u8`
counts. -/
def numbered (seq : Nat) (chunks : List Bytes) : List Bytes :=
  numberFrom (fun n chunk => contFragment (UInt8.ofNat n) chunk) seq chunks

namespace BleFrame

/-- The loop returns the numbered fragments, unless the counter passes 255
in a build that checks it. -/
theorem contFragments_eq (overflowChecks : Bool) (chunks : List Bytes) :
    ∀ seq : Nat, (overflowChecks = true → seq ≤ 255) →
      contFragments overflowChecks (UInt8.ofNat seq) chunks
        = if overflowChecks = true ∧ 255 < seq + chunks.length then .error .overflow
          else .ok (numbered seq chunks) := by
  induction chunks with
  | nil =>
      intro seq hseq
      rw [if_neg (fun h => absurd (hseq h.1) (by simpa using h.2))]
      rfl
  | cons chunk chunks ih =>
      intro seq hseq
      have hnext : UInt8.ofNat seq + 1 = UInt8.ofNat (seq + 1) := by simp
      -- the sequence number is a byte; it overflows after 255
      have hlast : seq ≤ 255 → (UInt8.ofNat seq = 255 ↔ seq = 255) := by
        intro hle
        rw [← UInt8.toNat_inj, UInt8.toNat_ofNat']
        simp
        omega
      rw [contFragments, hnext, List.length_cons]
      by_cases hover : overflowChecks = true ∧ UInt8.ofNat seq = 255
      · have h255 := (hlast (hseq hover.1)).mp hover.2
        rw [if_pos hover, if_pos ⟨hover.1, by omega⟩]
      · have hseq' : overflowChecks = true → seq + 1 ≤ 255 := by
          intro hchecks
          have hne : seq ≠ 255 := fun h => hover ⟨hchecks, (hlast (hseq hchecks)).mpr h⟩
          have := hseq hchecks
          omega
        rw [if_neg hover, ih (seq + 1) hseq',
          show seq + (chunks.length + 1) = seq + 1 + chunks.length from by omega]
        by_cases hmany : overflowChecks = true ∧ 255 < seq + 1 + chunks.length
        · rw [if_pos hmany, if_pos hmany]
          rfl
        · rw [if_neg hmany, if_neg hmany]
          rfl

/-- The continuation chunks of a frame. -/
def contChunks (frame : BleFrame) (maxFragmentLength : Nat) : List Bytes :=
  chunksOf (maxFragmentLength - 1) (frame.data.drop (maxFragmentLength - 3))

/-- The fragments of a frame, whatever their number. -/
def allFragments (frame : BleFrame) (maxFragmentLength : Nat) : List Bytes :=
  initialFragment frame.cmd (UInt16.ofNat frame.data.length)
      (frame.data.take (maxFragmentLength - 3))
    :: numbered 0 (frame.contChunks maxFragmentLength)

/-- **What `fragments` returns**, for every frame and both builds. -/
theorem fragments_eq (overflowChecks : Bool) (frame : BleFrame) {maxFragmentLength : Nat}
    (hmax : 4 ≤ maxFragmentLength) :
    frame.fragments overflowChecks maxFragmentLength
      = if overflowChecks = true ∧ 255 < (frame.contChunks maxFragmentLength).length then
          .error .overflow
        else .ok (frame.allFragments maxFragmentLength) := by
  unfold fragments
  rw [if_neg (by omega)]
  show (contFragments overflowChecks (UInt8.ofNat 0) (frame.contChunks maxFragmentLength)).map _ = _
  rw [contFragments_eq overflowChecks _ 0 (by simp), Nat.zero_add]
  by_cases hmany : overflowChecks = true ∧ 255 < (frame.contChunks maxFragmentLength).length
  · rw [if_pos hmany, if_pos hmany]
    rfl
  · rw [if_neg hmany, if_neg hmany]
    rfl

/-- How many continuations a frame needs. -/
theorem contChunks_length_le_iff (frame : BleFrame) {maxFragmentLength : Nat}
    (hmax : 4 ≤ maxFragmentLength) (n : Nat) :
    (frame.contChunks maxFragmentLength).length ≤ n
      ↔ frame.data.length ≤ (maxFragmentLength - 3) + n * (maxFragmentLength - 1) := by
  unfold contChunks
  rw [chunksOf_length_le_iff (by omega), List.length_drop]
  omega

theorem allFragments_length_le (frame : BleFrame) {maxFragmentLength : Nat}
    (hmax : 4 ≤ maxFragmentLength) :
    ∀ f ∈ frame.allFragments maxFragmentLength, f.length ≤ maxFragmentLength := by
  intro f hf
  rcases List.mem_cons.mp hf with hinit | hcont
  · rw [hinit, initialFragment, List.length_cons, List.length_append, beEncode_length,
      List.length_take]
    omega
  · obtain ⟨i, hi⟩ := List.mem_iff_getElem?.mp hcont
    rw [numbered, numberFrom_getElem?, Option.map_eq_some_iff] at hi
    obtain ⟨chunk, hchunk, rfl⟩ := hi
    have hle := chunksOf_length_le (by omega) _ chunk (List.mem_of_getElem? hchunk)
    rw [contFragment, List.length_cons]
    omega

end BleFrame

/-! ## §2. What the parser does with a fragment. -/

namespace BleFrameParser

theorem dataLen_eq (self : BleFrameParser) : self.dataLen = (bodies self.fragments).length := by
  unfold dataLen bodies
  cases self.fragments with
  | nil => rfl
  | cons initial conts => simp only [foldl_length_sub, List.length_append, List.length_drop]

/-- One more continuation appends its data. -/
theorem bodies_append (initial : Bytes) (conts : List Bytes) (seq : UInt8) (chunk : Bytes) :
    bodies (initial :: (conts ++ [contFragment seq chunk]))
      = bodies (initial :: conts) ++ chunk := by
  simp [bodies, contFragment]

/-- The announced length is the data length. -/
theorem expectedBytes_initialFragment {self : BleFrameParser} {frame : BleFrame}
    (hlen : frame.data.length ≤ 65535) {chunk : Bytes} {conts : List Bytes}
    (h : self.fragments
      = initialFragment frame.cmd (UInt16.ofNat frame.data.length) chunk :: conts) :
    self.expectedBytes = some frame.data.length := by
  have hval : beDecode (beEncode 2 (UInt16.ofNat frame.data.length).toNat)
      = frame.data.length := by
    rw [beDecode_beEncode_of_lt (UInt16.toNat_lt _), UInt16.toNat_ofNat']
    exact Nat.mod_eq_of_lt (by omega)
  simpa [expectedBytes, h, initialFragment, beEncode] using hval

/-- More is needed while the collected data is short. -/
theorem moreFragmentsNeeded_initialFragment {self : BleFrameParser} {frame : BleFrame}
    (hlen : frame.data.length ≤ 65535) {chunk : Bytes} {conts : List Bytes}
    (h : self.fragments
      = initialFragment frame.cmd (UInt16.ofNat frame.data.length) chunk :: conts) :
    self.moreFragmentsNeeded = decide (frame.data.length > (bodies self.fragments).length) := by
  unfold moreFragmentsNeeded
  rw [expectedBytes_initialFragment hlen h, dataLen_eq,
    if_neg (by rw [h]; exact List.cons_ne_nil _ _), Option.getD_some]

/-- The parser of a frame in transit: the initial fragment and some
continuations arrived, `rest` is still to come. -/
def Awaits (frame : BleFrame) (self : BleFrameParser) (rest : List Bytes) : Prop :=
  ∃ (chunk : Bytes) (conts chunks : List Bytes) (seq : Nat),
    self.fragments
        = initialFragment frame.cmd (UInt16.ofNat frame.data.length) chunk :: conts
      ∧ rest = numbered seq chunks
      ∧ (∀ c ∈ chunks, c ≠ [])
      ∧ bodies self.fragments ++ chunks.flatten = frame.data

/-- Everything arrived. -/
def Holds (frame : BleFrame) (self : BleFrameParser) : Prop :=
  ∃ (chunk : Bytes) (conts : List Bytes),
    self.fragments
        = initialFragment frame.cmd (UInt16.ofNat frame.data.length) chunk :: conts
      ∧ bodies self.fragments = frame.data

/-- A continuation is always kept; what the parser answers depends only on
the data collected then. -/
theorem update_contFragment {frame : BleFrame} (hlen : frame.data.length ≤ 65535)
    {self : BleFrameParser} {head : Bytes} {conts : List Bytes}
    (hself : self.fragments
      = initialFragment frame.cmd (UInt16.ofNat frame.data.length) head :: conts)
    (seq : UInt8) (chunk : Bytes) :
    ∃ self', self.update (contFragment seq chunk)
        = (.ok (if frame.data.length > (bodies self'.fragments).length
            then .moreFragmentsExpected else .done), self')
      ∧ self'.fragments
          = initialFragment frame.cmd (UInt16.ofNat frame.data.length) head
            :: (conts ++ [contFragment seq chunk])
      ∧ bodies self'.fragments = bodies self.fragments ++ chunk := by
  refine ⟨⟨self.fragments ++ [contFragment seq chunk]⟩, ?_, ?_, ?_⟩
  · unfold update
    -- a continuation is long enough with its header alone
    have hvalid : ¬ ((self.fragments = [] ∧
        (contFragment seq chunk).length < INITIAL_FRAGMENT_MIN_LENGTH)
        ∨ (contFragment seq chunk).length < CONT_FRAGMENT_MIN_LENGTH) := by
      rw [hself, contFragment, List.length_cons]
      simp [INITIAL_FRAGMENT_MIN_LENGTH, CONT_FRAGMENT_MIN_LENGTH]
    rw [if_neg hvalid]
    have hnext : self.fragments ++ [contFragment seq chunk]
        = initialFragment frame.cmd (UInt16.ofNat frame.data.length) head
          :: (conts ++ [contFragment seq chunk]) := by
      rw [hself]
      rfl
    show (Except.ok (if moreFragmentsNeeded _ = true then _ else _), _) = _
    rw [@moreFragmentsNeeded_initialFragment ⟨_⟩ frame hlen _ _ hnext]
    simp only [decide_eq_true_eq]
  · rw [hself]
    rfl
  · show bodies (self.fragments ++ _) = _
    rw [hself, List.cons_append, bodies_append]

/-- **Step lemma**: a continuation that others follow asks for more. -/
theorem update_awaits_more {frame : BleFrame} (hlen : frame.data.length ≤ 65535)
    (self : BleFrameParser) (f next : Bytes) (rest : List Bytes)
    (h : Awaits frame self (f :: next :: rest)) :
    ∃ self', self.update f = (.ok .moreFragmentsExpected, self')
      ∧ Awaits frame self' (next :: rest) := by
  obtain ⟨head, conts, chunks, seq, hself, hrest, hne, hsum⟩ := h
  match chunks with
  | [] => cases hrest
  | [_] => cases hrest
  | chunk :: chunk' :: chunks =>
      obtain ⟨rfl, hnext⟩ := List.cons.inj hrest
      obtain ⟨self', hupdate, hself', hbodies⟩ :=
        update_contFragment hlen hself (UInt8.ofNat seq) chunk
      have hpos := List.length_pos_iff.mpr (hne chunk' (by simp))
      have hshort : frame.data.length > (bodies self'.fragments).length := by
        rw [hbodies, ← hsum]
        simp only [List.length_append, List.flatten_cons]
        omega
      rw [if_pos hshort] at hupdate
      refine ⟨self', hupdate, head, conts ++ [_], chunk' :: chunks, seq + 1, hself', hnext,
        fun c hc => hne c (List.mem_cons_of_mem _ hc), ?_⟩
      rw [hbodies, ← hsum, List.flatten_cons, List.append_assoc]
      rfl

/-- **Step lemma**: the last continuation completes the frame. -/
theorem update_awaits_done {frame : BleFrame} (hlen : frame.data.length ≤ 65535)
    (self : BleFrameParser) (f : Bytes) (h : Awaits frame self [f]) :
    ∃ self', self.update f = (.ok .done, self') ∧ Holds frame self' := by
  obtain ⟨head, conts, chunks, seq, hself, hrest, _, hsum⟩ := h
  match chunks with
  | [] => cases hrest
  | _ :: _ :: _ => cases hrest
  | [chunk] =>
      obtain ⟨rfl, _⟩ := List.cons.inj hrest
      obtain ⟨self', hupdate, hself', hbodies⟩ :=
        update_contFragment hlen hself (UInt8.ofNat seq) chunk
      have hdata : bodies self'.fragments = frame.data := by
        rw [hbodies, ← hsum, List.flatten_cons, List.flatten_nil, List.append_nil]
      rw [if_neg (by rw [hdata]; exact Nat.lt_irrefl _)] at hupdate
      exact ⟨self', hupdate, head, conts ++ [_], hself', hdata⟩

/-- The initial fragment: it holds everything, or continuations are
awaited. -/
theorem update_initialFragment {frame : BleFrame} (hlen : frame.data.length ≤ 65535)
    {maxFragmentLength : Nat} (hmax : 4 ≤ maxFragmentLength) :
    let chunks := frame.contChunks maxFragmentLength
    let initial := initialFragment frame.cmd (UInt16.ofNat frame.data.length)
      (frame.data.take (maxFragmentLength - 3))
    ∃ self', new.update initial
        = (.ok (if chunks = [] then .done else .moreFragmentsExpected), self')
      ∧ (chunks = [] → Holds frame self') ∧ Awaits frame self' (numbered 0 chunks) := by
  intro chunks initial
  have hpos : 0 < maxFragmentLength - 1 := by omega
  have hbodies : bodies [initial] = frame.data.take (maxFragmentLength - 3) := by
    simp [bodies, initial, initialFragment, beEncode]
  -- the first fragment and the chunks have the whole payload
  have hflat : bodies [initial] ++ chunks.flatten = frame.data := by
    show _ ++ (chunksOf _ _).flatten = _
    rw [hbodies, chunksOf_flatten hpos, List.take_append_drop]
  have hne : ∀ c ∈ chunks, c ≠ [] := chunksOf_ne_nil hpos _
  have hneeded := @moreFragmentsNeeded_initialFragment ⟨[initial]⟩ frame hlen _ [] rfl
  -- more is awaited just when there are chunks
  have hshort : frame.data.length > (bodies [initial]).length ↔ chunks ≠ [] := by
    rw [← hflat, List.length_append]
    constructor
    · intro h hnil
      rw [hnil] at h
      simp at h
    · intro h
      obtain ⟨c, cs, hcs⟩ := List.exists_cons_of_ne_nil h
      have := List.length_pos_iff.mpr (hne c (by rw [hcs]; simp))
      rw [hcs, List.flatten_cons, List.length_append]
      omega
  refine ⟨⟨[initial]⟩, ?_, ?_, _, [], chunks, 0, rfl, rfl, hne, hflat⟩
  · unfold update
    have hvalid : ¬ ((new.fragments = [] ∧ initial.length < INITIAL_FRAGMENT_MIN_LENGTH)
        ∨ initial.length < CONT_FRAGMENT_MIN_LENGTH) := by
      simp only [initial, initialFragment, INITIAL_FRAGMENT_MIN_LENGTH,
        INITIAL_FRAGMENT_HEADER_LENGTH, CONT_FRAGMENT_MIN_LENGTH, CONT_FRAGMENT_HEADER_LENGTH,
        List.length_cons, List.length_append, beEncode_length]
      omega
    rw [if_neg hvalid]
    show (Except.ok (if moreFragmentsNeeded ⟨[initial]⟩ = true then _ else _), _) = _
    rw [hneeded]
    by_cases hnil : chunks = []
    · rw [if_pos hnil, if_neg (by simpa using fun h => hshort.mp h hnil)]
      rfl
    · rw [if_neg hnil, if_pos (by simpa using hshort.mpr hnil)]
      rfl
  · intro hnil
    rw [hnil, List.flatten_nil, List.append_nil] at hflat
    exact ⟨_, [], rfl, hflat⟩

theorem frame_of_holds {self : BleFrameParser} {frame : BleFrame}
    (hlen : frame.data.length ≤ 65535) (h : Holds frame self) : self.frame = .ok frame := by
  obtain ⟨head, conts, hself, hbodies⟩ := h
  have hneeded := moreFragmentsNeeded_initialFragment hlen hself
  rw [hbodies] at hneeded
  unfold BleFrameParser.frame
  rw [hneeded, if_neg (by simp), hbodies, hself]
  simp only [initialFragment, BleCommand.tryFrom_toU8]

/-- What `frame` reads off the fragments it returns a frame for. -/
theorem frame_eq_ok_iff (self : BleFrameParser) (cmd : BleCommand) (data : Bytes) :
    self.frame = .ok ⟨cmd, data⟩
      ↔ self.moreFragmentsNeeded = false
        ∧ (∃ b initial conts, self.fragments = (b :: initial) :: conts
            ∧ BleCommand.tryFrom b = some cmd)
        ∧ data = bodies self.fragments := by
  obtain ⟨fragments⟩ := self
  unfold BleFrameParser.frame
  by_cases hmore : moreFragmentsNeeded ⟨fragments⟩ = true
  · simp [hmore]
  rw [if_neg hmore]
  match fragments with
  | [] => simp
  | [] :: conts => simp
  | (b :: initial) :: conts =>
      cases htry : BleCommand.tryFrom b with
      | none => simp [htry]
      | some cmd' =>
          simp only [htry, Except.ok.injEq, BleFrame.mk.injEq, List.cons.injEq]
          constructor
          · rintro ⟨rfl, rfl⟩
            exact ⟨by simpa using hmore, ⟨b, initial, conts, ⟨⟨rfl, rfl⟩, rfl⟩, htry⟩, rfl⟩
          · rintro ⟨_, ⟨b', _, _, ⟨⟨rfl, rfl⟩, rfl⟩, htry'⟩, rfl⟩
            rw [htry] at htry'
            exact ⟨Option.some.inj htry', rfl⟩

/-- A complete parser stays complete. -/
theorem moreFragmentsNeeded_snoc {fragments : List Bytes}
    (h : moreFragmentsNeeded ⟨fragments⟩ = false) (fragment : Bytes) :
    moreFragmentsNeeded ⟨fragments ++ [fragment]⟩ = false := by
  cases fragments with
  | nil => cases h
  | cons initial conts =>
      have hexpected : expectedBytes ⟨initial :: conts ++ [fragment]⟩
          = expectedBytes ⟨initial :: conts⟩ := rfl
      have hgrown : (bodies (initial :: conts)).length
          ≤ (bodies (initial :: conts ++ [fragment])).length := by
        simp [bodies]
      unfold moreFragmentsNeeded at h ⊢
      rw [if_neg (List.cons_ne_nil _ _), dataLen_eq] at h
      rw [if_neg (by simp), hexpected, dataLen_eq]
      simp only [gt_iff_lt, decide_eq_false_iff_not, Nat.not_lt] at h ⊢
      exact h.trans hgrown

/-- **Run lemma**: a fresh parser fed all fragments of a frame finishes on
the last one and holds the frame. -/
theorem feed_allFragments {frame : BleFrame} (hlen : frame.data.length ≤ 65535)
    {maxFragmentLength : Nat} (hmax : 4 ≤ maxFragmentLength) :
    let fs := frame.allFragments maxFragmentLength
    (new.feedFragments fs).1
        = List.replicate (fs.length - 1) (.ok .moreFragmentsExpected) ++ [.ok .done]
      ∧ (new.feedFragments fs).2.frame = .ok frame := by
  intro fs
  obtain ⟨self', hupdate, hholds, hawaits⟩ := update_initialFragment hlen hmax
  rw [feedFragments]
  show (feed update new (_ :: _)).1 = _ ∧ _
  rw [show fs = _ :: numbered 0 (frame.contChunks maxFragmentLength) from rfl,
    feed_cons hupdate]
  by_cases hnil : frame.contChunks maxFragmentLength = []
  · rw [if_pos hnil, hnil]
    exact ⟨rfl, frame_of_holds hlen (hholds hnil)⟩
  · have hne : numbered 0 (frame.contChunks maxFragmentLength) ≠ [] := by
      intro h
      have hzero := congrArg List.length h
      rw [numbered, numberFrom_length] at hzero
      exact hnil (List.length_eq_zero_iff.mp hzero)
    obtain ⟨houts, hcomplete⟩ := feed_to_last (Awaits frame) (Holds frame)
      (update_awaits_more hlen) (update_awaits_done hlen) _ self' hne hawaits
    refine ⟨?_, frame_of_holds hlen hcomplete⟩
    obtain ⟨f, fs', hfs⟩ := List.exists_cons_of_ne_nil hne
    rw [if_neg hnil, houts, hfs]
    rfl

end BleFrameParser

/-! ## §3. The round trip and its exact bound. -/

/-- What the framing of `frame` at this fragment length is to give. -/
def RoundTrips (overflowChecks : Bool) (frame : BleFrame) (maxFragmentLength : Nat) : Prop :=
  ∃ initial conts,
    frame.fragments overflowChecks maxFragmentLength = .ok (initial :: conts)
      ∧ initial.take 3 = frame.cmd.toU8 :: beEncode 2 frame.data.length
      ∧ (∀ i f, conts[i]? = some f → f.head? = some (UInt8.ofNat (i % 128)))
      ∧ (∀ f ∈ initial :: conts, f.length ≤ maxFragmentLength)
      ∧ (BleFrameParser.new.feedFragments (initial :: conts)).1
          = List.replicate conts.length (.ok .moreFragmentsExpected) ++ [.ok .done]
      ∧ (BleFrameParser.new.feedFragments (initial :: conts)).2.frame = .ok frame

/-- A frame with a continuation 128 does not round trip: its sequence
number is 128, where 0 is due. -/
theorem contChunks_length_le_of_roundTrips {overflowChecks : Bool} {frame : BleFrame}
    {maxFragmentLength : Nat} (hmax : 4 ≤ maxFragmentLength)
    (h : RoundTrips overflowChecks frame maxFragmentLength) :
    (frame.contChunks maxFragmentLength).length ≤ 128 := by
  obtain ⟨initial, conts, hfs, _, hseq, _⟩ := h
  rw [frame.fragments_eq overflowChecks hmax] at hfs
  by_cases hover : overflowChecks = true ∧ 255 < (frame.contChunks maxFragmentLength).length
  · rw [if_pos hover] at hfs
    cases hfs
  · rw [if_neg hover] at hfs
    obtain ⟨_, hconts⟩ := List.cons.inj (Except.ok.inj hfs)
    by_contra hmany
    obtain ⟨chunk, hchunk⟩ : ∃ chunk, (frame.contChunks maxFragmentLength)[128]? = some chunk :=
      ⟨_, List.getElem?_eq_getElem (by omega)⟩
    have hwire : conts[128]? = some (contFragment (UInt8.ofNat (0 + 128)) chunk) := by
      rw [← hconts, numbered, numberFrom_getElem?, hchunk, Option.map_some]
    have hhead := hseq 128 _ hwire
    rw [contFragment, List.head?_cons] at hhead
    exact absurd hhead (by decide)

theorem roundTrips_of_contChunks_length_le (overflowChecks : Bool) {frame : BleFrame}
    {maxFragmentLength : Nat} (hlen : frame.data.length ≤ 65535)
    (hmax : 4 ≤ maxFragmentLength) (hcount : (frame.contChunks maxFragmentLength).length ≤ 128) :
    RoundTrips overflowChecks frame maxFragmentLength := by
  obtain ⟨houts, hframe⟩ := BleFrameParser.feed_allFragments hlen hmax
  have hfs : frame.fragments overflowChecks maxFragmentLength
      = .ok (frame.allFragments maxFragmentLength) := by
    rw [frame.fragments_eq overflowChecks hmax, if_neg (fun h => absurd h.2 (by omega))]
  refine ⟨_, _, hfs, ?_, ?_, frame.allFragments_length_le hmax, houts, hframe⟩
  · have hval : (UInt16.ofNat frame.data.length).toNat = frame.data.length := by
      rw [UInt16.toNat_ofNat', Nat.mod_eq_of_lt (by omega)]
    rw [initialFragment, hval]
    rfl
  · intro i f hf
    rw [numbered, numberFrom_getElem?, Option.map_eq_some_iff] at hf
    obtain ⟨chunk, hchunk, rfl⟩ := hf
    obtain ⟨hi, _⟩ := List.getElem?_eq_some_iff.mp hchunk
    rw [contFragment, List.head?_cons, Nat.zero_add, Nat.mod_eq_of_lt (by omega)]

/-- **The round trip holds exactly for data that fits 128 continuations**,
with and without overflow checks. -/
theorem fragments_roundTrips_iff (overflowChecks : Bool) (frame : BleFrame)
    (maxFragmentLength : Nat) (hlen : frame.data.length ≤ 65535)
    (hmax : 4 ≤ maxFragmentLength) :
    RoundTrips overflowChecks frame maxFragmentLength
      ↔ frame.data.length ≤ (maxFragmentLength - 3) + 128 * (maxFragmentLength - 1) := by
  rw [← frame.contChunks_length_le_iff hmax 128]
  exact ⟨contChunks_length_le_of_roundTrips hmax,
    roundTrips_of_contChunks_length_le overflowChecks hlen hmax⟩

/-- The largest frame of fragment length 4 that round trips. -/
theorem fragments_roundTrips_iff_longest :
    RoundTrips true ⟨.msg, List.replicate 385 0⟩ 4 :=
  (fragments_roundTrips_iff true ⟨.msg, List.replicate 385 0⟩ 4
    (by rw [List.length_replicate]; decide) (Nat.le_refl 4)).mpr
    (by rw [List.length_replicate])

/-- 386 bytes in 4-byte fragments need 129 continuations. -/
theorem fragments_not_roundTrips :
    ¬ RoundTrips true ⟨.msg, List.replicate 386 0⟩ 4
      ∧ ¬ RoundTrips false ⟨.msg, List.replicate 386 0⟩ 4 := by
  have hcount : ¬ (BleFrame.contChunks ⟨.msg, List.replicate 386 0⟩ 4).length ≤ 128 := by
    rw [BleFrame.contChunks_length_le_iff _ (Nat.le_refl 4), List.length_replicate]
    decide
  exact ⟨fun h => hcount (contChunks_length_le_of_roundTrips (Nat.le_refl 4) h),
    fun h => hcount (contChunks_length_le_of_roundTrips (Nat.le_refl 4) h)⟩

end Libwebauthn.Transport.Ble
