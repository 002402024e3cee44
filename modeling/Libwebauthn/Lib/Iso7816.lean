/-
  Libwebauthn.Lib.Iso7816 — command APDUs of ISO 7816-4.

  A command is a header of four bytes and a body of one of four cases: nothing,
  `Le`, `Lc data`, or `Lc data Le`, in the extended form behind a zero byte.  A
  length field has one byte in the short form and two in the extended one.  No
  `Lc` is zero, and `Le` is zero for the largest length there is.
-/
import Libwebauthn.Lib.Bytes

namespace Libwebauthn

/-- No data and empty data are the same; `ne` is the longest response that is
expected, if one is. -/
structure CommandApdu where
  cla : UInt8
  ins : UInt8
  p1 : UInt8
  p2 : UInt8
  data : Bytes
  ne : Option Nat
  deriving Repr, DecidableEq

/-- How lengths are written. -/
structure LengthFields where
  marker : Bytes
  width : Nat
  width_pos : 0 < width

namespace LengthFields

def short : LengthFields := ⟨[], 1, by decide⟩
def extended : LengthFields := ⟨[0x00], 2, by decide⟩

variable (fields : LengthFields)

/-! ## §1. The grammar. -/

/-- The largest expected length. -/
def maxNe : Nat := 256 ^ fields.width

def readLe (le : Bytes) : Nat := if beDecode le = 0 then fields.maxNe else beDecode le

/-- The data and the expected length of a body. -/
def parseBody (body : Bytes) : Option (Bytes × Option Nat) :=
  if body = [] then some ([], none)
  else if body.take fields.marker.length ≠ fields.marker then none
  else
    let rest := body.drop fields.marker.length
    if rest.length < fields.width then none
    else if rest.length = fields.width then some ([], some (fields.readLe rest))
    else
      let nc := beDecode (rest.take fields.width)
      let tail := rest.drop fields.width
      if nc = 0 then none
      else if tail.length = nc then some (tail, none)
      else if tail.length = nc + fields.width then
        some (tail.take nc, some (fields.readLe (tail.drop nc)))
      else none

def parse (bytes : Bytes) : Option CommandApdu :=
  match bytes with
  | cla :: ins :: p1 :: p2 :: body =>
      (fields.parseBody body).map fun (data, ne) => ⟨cla, ins, p1, p2, data, ne⟩
  | _ => none

end LengthFields

/-! ## §2. Codes. -/

namespace CommandApdu

variable (fields : LengthFields) (c : CommandApdu)

/-- The lengths can be written. -/
structure Fits : Prop where
  data : c.data.length < 256 ^ fields.width
  ne : ∀ ne ∈ c.ne, 1 ≤ ne ∧ ne ≤ fields.maxNe

/-- `Le` of the largest length is zero. -/
def le : Bytes := (c.ne.map (beEncode fields.width)).getD []

def body : Bytes :=
  if c.data = [] then if c.ne.isSome then fields.marker ++ c.le fields else []
  else fields.marker ++ beEncode fields.width c.data.length ++ c.data ++ c.le fields

def encode : Bytes := c.cla :: c.ins :: c.p1 :: c.p2 :: c.body fields

end CommandApdu

/-! ## §3. The one code of a command. -/

namespace LengthFields

variable {fields : LengthFields}

theorem readLe_beEncode {ne : Nat} (hpos : 1 ≤ ne) (hle : ne ≤ fields.maxNe) :
    fields.readLe (beEncode fields.width ne) = ne := by
  unfold readLe maxNe at *
  rw [beDecode_beEncode]
  by_cases hmax : ne = 256 ^ fields.width
  · rw [hmax, Nat.mod_self, if_pos rfl]
  · rw [Nat.mod_eq_of_lt (Nat.lt_of_le_of_ne hle hmax), if_neg (by omega)]

theorem beEncode_readLe {le : Bytes} (h : le.length = fields.width) :
    beEncode fields.width (fields.readLe le) = le
      ∧ 1 ≤ fields.readLe le ∧ fields.readLe le ≤ fields.maxNe := by
  have hlt := beDecode_lt le
  have hcode := beEncode_beDecode le
  rw [h] at hlt hcode
  have hpos : 0 < 256 ^ fields.width := Nat.pow_pos (by decide)
  unfold readLe maxNe
  by_cases hzero : beDecode le = 0
  · rw [if_pos hzero]
    refine ⟨?_, hpos, Nat.le_refl _⟩
    -- the largest length is written as zero is
    have hmax : beEncode fields.width (256 ^ fields.width) = beEncode fields.width 0 := by
      have hmul := beEncode_add_mul fields.width 1 0
      rwa [Nat.one_mul, Nat.add_zero] at hmul
    rw [hmax, ← hzero, hcode]
  · rw [if_neg hzero]
    exact ⟨hcode, Nat.pos_of_ne_zero hzero, Nat.le_of_lt hlt⟩

/-- A body is that of one command. -/
theorem parseBody_body {c : CommandApdu} (h : c.Fits fields) :
    fields.parseBody (c.body fields) = some (c.data, c.ne) := by
  have hwidth := fields.width_pos
  unfold parseBody CommandApdu.body
  -- no data: at most an Le field
  by_cases hdata : c.data = []
  · rw [if_pos hdata]
    cases hne : c.ne with
    | none => rw [hdata]; rfl
    | some ne =>
        obtain ⟨hpos, hle⟩ := h.ne ne hne
        have hfield : c.le fields = beEncode fields.width ne := by
          unfold CommandApdu.le
          rw [hne]
          rfl
        have hlength : (beEncode fields.width ne).length = fields.width := beEncode_length _ _
        have hsome : fields.marker ++ beEncode fields.width ne ≠ [] := by
          intro hnil
          rw [(List.append_eq_nil_iff.mp hnil).2] at hlength
          exact absurd hlength (Nat.ne_of_lt hwidth)
        simp only [Option.isSome_some, if_true, hfield]
        rw [if_neg hsome, List.take_left, if_neg (not_not.mpr rfl), List.drop_left, hlength,
          if_neg (Nat.lt_irrefl _), if_pos rfl, readLe_beEncode hpos hle, hdata]
  · rw [if_neg hdata]
    have hpos := List.length_pos_iff.mpr hdata
    have hlc : (beEncode fields.width c.data.length).length = fields.width := beEncode_length _ _
    have hnc : beDecode (beEncode fields.width c.data.length) = c.data.length :=
      beDecode_beEncode_of_lt h.data
    -- data: its Lc field gives back its length, and what follows it is the Le field
    have hsome : fields.marker ++ beEncode fields.width c.data.length ++ c.data ++ c.le fields
        ≠ [] := by
      intro hnil
      exact hdata (List.append_eq_nil_iff.mp (List.append_eq_nil_iff.mp hnil).1).2
    rw [if_neg hsome, List.append_assoc, List.append_assoc, List.take_left,
      if_neg (not_not.mpr rfl), List.drop_left]
    dsimp only
    -- the length field does not take up the whole body
    have hrest : fields.width
        < (beEncode fields.width c.data.length ++ (c.data ++ c.le fields)).length := by
      rw [List.length_append, List.length_append, hlc]
      omega
    have htake : (beEncode fields.width c.data.length ++ (c.data ++ c.le fields)).take fields.width
        = beEncode fields.width c.data.length := by
      rw [List.take_append_of_le_length (Nat.le_of_eq hlc.symm), List.take_of_length_le
        (Nat.le_of_eq hlc)]
    have hdrop : (beEncode fields.width c.data.length ++ (c.data ++ c.le fields)).drop fields.width
        = c.data ++ c.le fields := by
      rw [List.drop_append_of_le_length (Nat.le_of_eq hlc.symm), List.drop_of_length_le
        (Nat.le_of_eq hlc), List.nil_append]
    rw [if_neg (Nat.lt_asymm hrest), if_neg (Nat.ne_of_gt hrest), htake, hdrop, hnc,
      if_neg (Nat.ne_of_gt hpos)]
    cases hne : c.ne with
    | none =>
        have hfield : c.le fields = [] := by
          unfold CommandApdu.le
          rw [hne]
          rfl
        rw [hfield, List.append_nil, if_pos rfl]
    | some ne =>
        obtain ⟨hone, hle⟩ := h.ne ne hne
        have hfield : c.le fields = beEncode fields.width ne := by
          unfold CommandApdu.le
          rw [hne]
          rfl
        rw [hfield, List.length_append, beEncode_length, if_neg (by omega), if_pos rfl,
          List.take_left, List.drop_left, readLe_beEncode hone hle]

/-- A body that parses is that of a command. -/
theorem body_of_parseBody {body : Bytes} {c : CommandApdu}
    (h : fields.parseBody body = some (c.data, c.ne)) : c.Fits fields ∧ body = c.body fields := by
  have hpow : 0 < 256 ^ fields.width := Nat.pow_pos (by decide)
  unfold parseBody at h
  split at h
  next hnil =>
    obtain ⟨hdata, hne⟩ := Prod.mk.inj (Option.some.inj h)
    refine ⟨⟨by rw [← hdata]; exact hpow, by rw [← hne]; simp⟩, ?_⟩
    unfold CommandApdu.body
    rw [← hdata, ← hne, hnil]
    rfl
  next =>
    split at h
    next => cases h
    next hmarker =>
      have hbody : body = fields.marker ++ body.drop fields.marker.length := by
        have hsplit := List.take_append_drop fields.marker.length body
        rw [not_not.mp hmarker] at hsplit
        exact hsplit.symm
      generalize body.drop fields.marker.length = rest at h hbody
      dsimp only at h
      split at h
      next => cases h
      next hlength =>
        split at h
        next hle =>
          -- case 2
          obtain ⟨hdata, hne⟩ := Prod.mk.inj (Option.some.inj h)
          obtain ⟨hcode, hone, hmax⟩ := beEncode_readLe hle
          refine ⟨⟨by rw [← hdata]; exact hpow, ?_⟩, ?_⟩
          · intro ne hmem
            rw [← hne] at hmem
            rw [← Option.some.inj hmem]
            exact ⟨hone, hmax⟩
          · unfold CommandApdu.body CommandApdu.le
            rw [← hdata, ← hne, hbody]
            simp only [if_true, Option.isSome_some, Option.map_some, Option.getD_some, hcode]
        next hmore =>
          have hlc : (rest.take fields.width).length = fields.width := by
            rw [List.length_take]
            omega
          have hnc := beDecode_lt (rest.take fields.width)
          have hcode := beEncode_beDecode (rest.take fields.width)
          rw [hlc] at hnc hcode
          have hrest := List.take_append_drop fields.width rest
          generalize rest.drop fields.width = tail at h hrest
          generalize rest.take fields.width = lc at h hrest hlc hnc hcode
          split at h
          next => cases h
          next hzero =>
            split at h
            next htail =>
              -- case 3
              obtain ⟨hdata, hne⟩ := Prod.mk.inj (Option.some.inj h)
              refine ⟨⟨by rw [← hdata]; omega, by rw [← hne]; simp⟩, ?_⟩
              unfold CommandApdu.body CommandApdu.le
              have hsome : tail ≠ [] := by
                rw [← List.length_pos_iff]
                omega
              rw [← hdata, ← hne, if_neg hsome, htail, hcode, hbody, ← hrest]
              simp only [Option.map_none, Option.getD_none, List.append_nil, List.append_assoc]
            next =>
              split at h
              next htail =>
                -- case 4
                obtain ⟨hdata, hne⟩ := Prod.mk.inj (Option.some.inj h)
                have hleft : (tail.take (beDecode lc)).length = beDecode lc := by
                  rw [List.length_take]
                  omega
                have hright : (tail.drop (beDecode lc)).length = fields.width := by
                  rw [List.length_drop]
                  omega
                obtain ⟨hle, hone, hmax⟩ := beEncode_readLe hright
                have hsome : tail.take (beDecode lc) ≠ [] := by
                  rw [← List.length_pos_iff]
                  omega
                refine ⟨⟨by rw [← hdata]; omega, ?_⟩, ?_⟩
                · intro ne hmem
                  rw [← hne] at hmem
                  rw [← Option.some.inj hmem]
                  exact ⟨hone, hmax⟩
                · unfold CommandApdu.body CommandApdu.le
                  rw [← hdata, ← hne, if_neg hsome, hleft, hcode, hbody, ← hrest]
                  simp only [Option.map_some, Option.getD_some, hle, List.append_assoc,
                    List.take_append_drop]
              next => cases h

/-- **The one code**: bytes parse as a command just if its lengths can be
written and the bytes are its code. -/
theorem parse_eq_some_iff {bytes : Bytes} {c : CommandApdu} :
    fields.parse bytes = some c ↔ c.Fits fields ∧ bytes = c.encode fields := by
  constructor
  · intro h
    unfold parse at h
    split at h
    next cla ins p1 p2 body =>
      obtain ⟨cut, hbody, rfl⟩ := Option.map_eq_some_iff.mp h
      obtain ⟨hfits, hcode⟩ := body_of_parseBody
        (c := ⟨cla, ins, p1, p2, cut.1, cut.2⟩) hbody
      exact ⟨hfits, congrArg (fun body => cla :: ins :: p1 :: p2 :: body) hcode⟩
    next => cases h
  · intro h
    obtain ⟨hfits, rfl⟩ := h
    show (fields.parseBody (c.body fields)).map _ = _
    rw [parseBody_body hfits]
    rfl

end LengthFields

end Libwebauthn
