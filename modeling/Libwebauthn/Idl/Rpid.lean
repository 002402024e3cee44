/-
  Libwebauthn.Idl.Rpid — relying party ids as a request names them
  (`idl/rpid.rs`).

  `idna::domain_to_ascii` is a parameter; reading an IP address is the
  standard library's.

    • `checkLabels_eq_ok_iff`, `checkLabels_eq_error_iff` — the loop over the
      labels, and the label it stops at;
    • `tryFrom_eq_ok_iff` — which values name a relying party;
    • `tryFrom_labelTooLong_iff` — which label an error names.
-/
import Libwebauthn.Ops.RelatedOrigins

namespace Libwebauthn.Idl

open RelatedOrigins

/-! ## §1. IP addresses (`core::net`). -/

/-- `char::to_digit`. -/
def toDigit (radix : Nat) (c : Char) : Option Nat :=
  let n :=
    if '0' ≤ c ∧ c ≤ '9' then some (c.toNat - '0'.toNat)
    else if 'a' ≤ c ∧ c ≤ 'z' then some (c.toNat - 'a'.toNat + 10)
    else if 'A' ≤ c ∧ c ≤ 'Z' then some (c.toNat - 'A'.toNat + 10)
    else none
  n.filter (· < radix)

/-- `read_number`: the digits that come next, at most `maxDigits` of them, of a
number below `bound`. -/
def readNumber (radix maxDigits bound : Nat) (allowZeroPrefix : Bool) (p : List Char) :
    Option (Nat × List Char) :=
  let digits := p.takeWhile fun c => (toDigit radix c).isSome
  if maxDigits < digits.length then none
  else if digits = [] then none
  else if !allowZeroPrefix && digits.head? == some '0' && 1 < digits.length then none
  else
    let n := (digits.filterMap (toDigit radix)).foldl (fun n digit => radix * n + digit) 0
    if n < bound then some (n, p.drop digits.length) else none

/-- `read_given_char`. -/
def readGivenChar (c : Char) : List Char → Option (List Char)
  | [] => none
  | x :: p => if x = c then some p else none

/-- `read_separator`: in front of all items but the first. -/
def readSeparator (sep : Char) (index : Nat) (p : List Char) : Option (List Char) :=
  if 0 < index then readGivenChar sep p else some p

/-- One octet of an address. -/
def readOctet (index : Nat) (p : List Char) : Option (UInt8 × List Char) := do
  let p ← readSeparator '.' index p
  let (n, p) ← readNumber 10 3 256 false p
  pure (UInt8.ofNat n, p)

/-- `read_ipv4_addr`. -/
def readIpv4Addr (p : List Char) : Option (Ipv4Addr × List Char) := do
  let (a, p) ← readOctet 0 p
  let (b, p) ← readOctet 1 p
  let (c, p) ← readOctet 2 p
  let (d, p) ← readOctet 3 p
  pure (⟨a, b, c, d⟩, p)

/-- `read_groups`: `left` groups from the `index`th on, the last two of which an
IPv4 address may stand for; the groups, whether it did, and the rest. -/
def readGroups : Nat → Nat → List Char → List UInt16 × Bool × List Char
  | 0, _, p => ([], false, p)
  | left + 1, index, p =>
      let ipv4 := if 0 < left then (readSeparator ':' index p).bind readIpv4Addr else none
      match ipv4 with
      | some (ip, p) =>
          ([(ip.a.toUInt16 <<< 8) ||| ip.b.toUInt16, (ip.c.toUInt16 <<< 8) ||| ip.d.toUInt16],
            true, p)
      | none =>
          match (readSeparator ':' index p).bind (readNumber 16 4 (2 ^ 16) true) with
          | none => ([], false, p)
          | some (group, p) =>
              let (groups, ipv4, p) := readGroups left (index + 1) p
              (UInt16.ofNat group :: groups, ipv4, p)

/-- `read_ipv6_addr`: the segments. -/
def readIpv6Addr (p : List Char) : Option (List UInt16 × List Char) :=
  let (head, headIpv4, p) := readGroups 8 0 p
  if head.length = 8 then some (head, p)
  else if headIpv4 then none
  else do
    let p ← readGivenChar ':' p
    let p ← readGivenChar ':' p
    let (tail, _, p) := readGroups (8 - (head.length + 1)) 0 p
    pure (head ++ List.replicate (8 - head.length - tail.length) 0 ++ tail, p)

/-- `parse::<IpAddr>().is_ok()`. -/
def isIpAddr (text : String) : Bool :=
  match readIpv4Addr text.toList with
  | some (_, rest) => rest = []
  | none =>
      match readIpv6Addr text.toList with
      | some (_, rest) => rest = []
      | none => false

/-! ## §2. The labels of a domain. -/

inductive RpidError where
  | emptyRelyingPartyId
  | invalidRelyingPartyId (value : String)
  | ipAddressNotAllowed (value : String)
  | domainTooLong
  | labelTooLong (label : String)
  deriving Repr, DecidableEq

def RpidError.toString : RpidError → String
  | .emptyRelyingPartyId => "Empty Relying Party ID is not allowed"
  | .invalidRelyingPartyId value => s!"Relying Party ID must be a valid domain string: {value}"
  | .ipAddressNotAllowed value => s!"Relying Party ID must not be an IP address: {value}"
  | .domainTooLong => "Relying Party ID exceeds maximum length"
  | .labelTooLong label => s!"Relying Party ID label exceeds maximum length: {label}"

/-- `str::len`, in bytes. -/
def byteLen (text : List Char) : Nat := (utf8 (String.ofList text)).length

/-- `is_ascii_alphanumeric` or a hyphen. -/
def isLdh (c : Char) : Bool := c.isAlphanum || c == '-'

def checkLabel (value : String) (label : List Char) : Except RpidError Unit :=
  if label = [] then .error (.invalidRelyingPartyId value)
  else if 63 < byteLen label then .error (.labelTooLong (String.ofList label))
  else if label.head? = some '-' ∨ label.getLast? = some '-' then
    .error (.invalidRelyingPartyId value)
  else if ¬label.all isLdh then .error (.invalidRelyingPartyId value)
  else .ok ()

/-- The loop over the labels. -/
def checkLabels (value : String) : List (List Char) → Except RpidError Unit
  | [] => .ok ()
  | label :: labels => do
      checkLabel value label
      checkLabels value labels

/-- Letters, digits and hyphens, no hyphen at either end, and at most 63
bytes. -/
structure ValidLabel (label : List Char) : Prop where
  nonempty : label ≠ []
  short : byteLen label ≤ 63
  starts : label.head? ≠ some '-'
  ends : label.getLast? ≠ some '-'
  ldh : ∀ c ∈ label, isLdh c = true

structure ValidDomain (text : String) : Prop where
  short : byteLen text.toList ≤ 253
  labels : ∀ label ∈ text.toList.splitOn '.', ValidLabel label

theorem checkLabel_eq_ok_iff (value : String) (label : List Char) :
    checkLabel value label = .ok () ↔ ValidLabel label := by
  unfold checkLabel
  constructor
  · intro h
    split at h
    · cases h
    next hne =>
    split at h
    · cases h
    next hshort =>
    split at h
    · cases h
    next hends =>
    split at h
    · cases h
    next hldh =>
    rw [not_not, List.all_eq_true] at hldh
    exact ⟨hne, Nat.le_of_not_lt hshort, fun h => hends (Or.inl h), fun h => hends (Or.inr h),
      hldh⟩
  · intro h
    rw [if_neg h.nonempty, if_neg (Nat.not_lt.mpr h.short), if_neg (not_or.mpr ⟨h.starts, h.ends⟩),
      if_neg (not_not.mpr (List.all_eq_true.mpr h.ldh))]

theorem checkLabels_cons (value : String) (label : List Char) (labels : List (List Char)) :
    checkLabels value (label :: labels)
      = match checkLabel value label with
        | .error e => .error e
        | .ok () => checkLabels value labels := by
  show checkLabel value label >>= _ = _
  cases checkLabel value label <;> rfl

/-- **The loop** gets to its end when every label is valid. -/
theorem checkLabels_eq_ok_iff (value : String) (labels : List (List Char)) :
    checkLabels value labels = .ok () ↔ ∀ label ∈ labels, ValidLabel label := by
  induction labels with
  | nil => exact iff_of_true rfl fun _ h => absurd h List.not_mem_nil
  | cons label labels ih =>
      rw [checkLabels_cons, List.forall_mem_cons, ← checkLabel_eq_ok_iff value, ← ih]
      cases checkLabel value label with
      | error e => exact iff_of_false (fun h => by cases h) (fun h => by cases h.1)
      | ok u => exact (and_iff_right rfl).symm

/-- It stops at the first label that is not. -/
theorem checkLabels_eq_error_iff (value : String) (labels : List (List Char)) (e : RpidError) :
    checkLabels value labels = .error e
      ↔ ∃ front label back, labels = front ++ label :: back
        ∧ (∀ l ∈ front, ValidLabel l) ∧ checkLabel value label = .error e := by
  induction labels with
  | nil =>
      refine iff_of_false (fun h => by cases h) ?_
      rintro ⟨front, label, back, hnil, -⟩
      exact List.append_ne_nil_of_right_ne_nil front (List.cons_ne_nil label back) hnil.symm
  | cons first labels ih =>
      rw [checkLabels_cons]
      constructor
      · intro h
        cases hfirst : checkLabel value first with
        | error e' =>
            rw [hfirst] at h
            obtain rfl := Except.error.inj h
            exact ⟨[], first, labels, rfl, fun _ h => absurd h List.not_mem_nil, hfirst⟩
        | ok u =>
            rw [hfirst] at h
            obtain ⟨front, label, back, rfl, hfront, hlabel⟩ := ih.mp h
            refine ⟨first :: front, label, back, rfl, ?_, hlabel⟩
            exact List.forall_mem_cons.mpr ⟨(checkLabel_eq_ok_iff value first).mp hfirst, hfront⟩
      · rintro ⟨front, label, back, hlabels, hfront, hlabel⟩
        cases front with
        | nil =>
            obtain ⟨rfl, rfl⟩ := List.cons.inj hlabels
            rw [hlabel]
        | cons l front =>
            obtain ⟨rfl, rfl⟩ := List.cons.inj hlabels
            rw [List.forall_mem_cons] at hfront
            rw [(checkLabel_eq_ok_iff value first).mpr hfront.1]
            exact ih.mpr ⟨front, label, back, rfl, hfront.2, hlabel⟩

/-! ## §3. Relying party ids. -/

/-- An id that passed the checks. -/
structure RelyingPartyId where
  text : String
  valid : ValidDomain text
  deriving DecidableEq

/-- `TryFrom<&str>`. -/
def RelyingPartyId.tryFrom (domainToAscii : String → Option String) (value : String) :
    Except RpidError RelyingPartyId :=
  if value = "" then .error .emptyRelyingPartyId
  else if isIpAddr value then .error (.ipAddressNotAllowed value)
  else
    match domainToAscii value with
    | none => .error (.invalidRelyingPartyId value)
    | some ascii =>
        if ascii = "" then .error (.invalidRelyingPartyId value)
        else if hlong : 253 < byteLen ascii.toList then .error .domainTooLong
        else if ascii.toList.head? = some '.' ∨ ascii.toList.getLast? = some '.' then
          .error (.invalidRelyingPartyId value)
        else
          match hlabels : checkLabels value (ascii.toList.splitOn '.') with
          | .error e => .error e
          | .ok () =>
              .ok ⟨ascii, Nat.le_of_not_lt hlong, (checkLabels_eq_ok_iff value _).mp hlabels⟩

/-- A full stop at either end makes an empty label. -/
theorem nil_mem_splitOn {text : List Char} (h : text.head? = some '.' ∨ text.getLast? = some '.') :
    [] ∈ text.splitOn '.' := by
  rcases h with h | h
  · obtain ⟨rest, rfl⟩ := List.head?_eq_some_iff.mp h
    have hsplit : ([] ++ '.' :: rest).splitOn '.' = [] :: rest.splitOn '.' :=
      splitOn_cons_label List.not_mem_nil rest
    rw [List.nil_append] at hsplit
    rw [hsplit]
    exact List.mem_cons_self
  · obtain ⟨front, rfl⟩ := List.getLast?_eq_some_iff.mp h
    rw [List.splitOn_append_cons_self, List.splitOn_nil]
    exact List.mem_append_right _ (List.mem_singleton.mpr rfl)

theorem not_validDomain_of_edge {text : String}
    (h : text.toList.head? = some '.' ∨ text.toList.getLast? = some '.') : ¬ValidDomain text :=
  fun hvalid => (hvalid.labels [] (nil_mem_splitOn h)).nonempty rfl

theorem not_validDomain_empty : ¬ValidDomain "" :=
  fun hvalid => (hvalid.labels [] (List.mem_singleton.mpr rfl)).nonempty rfl

section

variable (domainToAscii : String → Option String) {value ascii : String}

/-- The checks of a value that is no IP address, once it is in ASCII. -/
theorem tryFrom_of_ascii (hne : value ≠ "") (hip : isIpAddr value = false)
    (hascii : domainToAscii value = some ascii) (hshort : byteLen ascii.toList ≤ 253)
    (hedge : ¬(ascii.toList.head? = some '.' ∨ ascii.toList.getLast? = some '.'))
    (hempty : ascii ≠ "") :
    (∀ hvalid : ValidDomain ascii,
        RelyingPartyId.tryFrom domainToAscii value = .ok ⟨ascii, hvalid⟩)
      ∧ ∀ e, checkLabels value (ascii.toList.splitOn '.') = .error e →
        RelyingPartyId.tryFrom domainToAscii value = .error e := by
  unfold RelyingPartyId.tryFrom
  rw [if_neg hne, hip, if_neg Bool.false_ne_true, hascii]
  dsimp only
  rw [if_neg hempty, dif_neg (Nat.not_lt.mpr hshort), if_neg hedge]
  constructor
  · intro hvalid
    split
    · next e herror =>
        rw [(checkLabels_eq_ok_iff value _).mpr hvalid.labels] at herror
        cases herror
    · rfl
  · intro e herror
    split
    · next e' herror' =>
        rw [herror] at herror'
        rw [Except.error.inj herror']
    · next hok =>
        rw [herror] at hok
        cases hok

/-- **The values that name a relying party**: not empty, no IP address, and a
valid domain in ASCII. -/
theorem tryFrom_eq_ok_iff (rpId : RelyingPartyId) :
    RelyingPartyId.tryFrom domainToAscii value = .ok rpId
      ↔ value ≠ "" ∧ isIpAddr value = false ∧ domainToAscii value = some rpId.text := by
  constructor
  · intro h
    unfold RelyingPartyId.tryFrom at h
    split at h
    · cases h
    next hne =>
    split at h
    · cases h
    next hip =>
    split at h
    · cases h
    next ascii hascii =>
    split at h
    · cases h
    split at h
    · cases h
    split at h
    · cases h
    split at h
    · cases h
    · obtain rfl := Except.ok.inj h
      exact ⟨hne, Bool.eq_false_iff.mpr hip, hascii⟩
  · rintro ⟨hne, hip, hascii⟩
    obtain ⟨text, hvalid⟩ := rpId
    have hempty : text ≠ "" := fun h => not_validDomain_empty (h ▸ hvalid)
    exact (tryFrom_of_ascii domainToAscii hne hip hascii hvalid.short
      (fun hedge => not_validDomain_of_edge hedge hvalid) hempty).1 hvalid

/-- **The label an error names** is the first that is not valid, and is so for
its length. -/
theorem tryFrom_labelTooLong_iff (label : String) :
    RelyingPartyId.tryFrom domainToAscii value = .error (.labelTooLong label)
      ↔ value ≠ "" ∧ isIpAddr value = false
        ∧ ∃ ascii, domainToAscii value = some ascii ∧ byteLen ascii.toList ≤ 253
          ∧ ascii.toList.head? ≠ some '.' ∧ ascii.toList.getLast? ≠ some '.'
          ∧ ∃ front back, ascii.toList.splitOn '.' = front ++ label.toList :: back
            ∧ (∀ l ∈ front, ValidLabel l) ∧ 63 < byteLen label.toList := by
  have hlabel : ∀ l, checkLabel value l = .error (.labelTooLong label)
      ↔ l = label.toList ∧ 63 < byteLen label.toList := by
    intro l
    unfold checkLabel
    constructor
    · intro h
      split at h
      · cases h
      split at h
      · next hlong =>
          obtain rfl := RpidError.labelTooLong.inj (Except.error.inj h)
          rw [String.toList_ofList]
          exact ⟨rfl, hlong⟩
      split at h
      · cases h
      split at h <;> cases h
    · rintro ⟨rfl, hlong⟩
      have hne : label.toList ≠ [] := by
        rintro hnil
        rw [hnil] at hlong
        exact absurd hlong (by decide)
      rw [if_neg hne, if_pos hlong, String.ofList_toList]
  constructor
  · intro h
    unfold RelyingPartyId.tryFrom at h
    split at h
    · cases h
    next hne =>
    split at h
    · cases h
    next hip =>
    split at h
    · cases h
    next ascii hascii =>
    split at h
    · cases h
    split at h
    · cases h
    next hshort =>
    split at h
    · cases h
    next hedge =>
    split at h
    · next e herror =>
        obtain rfl := Except.error.inj h
        obtain ⟨front, l, back, hsplit, hfront, hcheck⟩ :=
          (checkLabels_eq_error_iff value _ _).mp herror
        obtain ⟨rfl, hlong⟩ := (hlabel l).mp hcheck
        rw [not_or] at hedge
        exact ⟨hne, Bool.eq_false_iff.mpr hip, ascii, hascii, Nat.le_of_not_lt hshort, hedge.1,
          hedge.2, front, back, hsplit, hfront, hlong⟩
    · cases h
  · rintro ⟨hne, hip, ascii, hascii, hshort, hhead, hlast, front, back, hsplit, hfront, hlong⟩
    have herror : checkLabels value (ascii.toList.splitOn '.') = .error (.labelTooLong label) :=
      (checkLabels_eq_error_iff value _ _).mpr
        ⟨front, label.toList, back, hsplit, hfront, (hlabel _).mpr ⟨rfl, hlong⟩⟩
    have hempty : ascii ≠ "" := by
      rintro rfl
      have hmem : label.toList ∈ "".toList.splitOn '.' := by
        rw [hsplit]
        exact List.mem_append_right _ List.mem_cons_self
      rw [List.mem_singleton.mp hmem] at hlong
      exact absurd hlong (by decide)
    exact (tryFrom_of_ascii domainToAscii hne hip hascii hshort (not_or.mpr ⟨hhead, hlast⟩)
      hempty).2 _ herror

end

end Libwebauthn.Idl
