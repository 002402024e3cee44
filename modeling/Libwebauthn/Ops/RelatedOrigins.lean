/-
  Libwebauthn.Ops.RelatedOrigins — matching a caller against the related origins
  of a relying party (`ops/webauthn/related_origins/mod.rs`).

  Parsing a URL is a parameter.  The loop goes through the listed origins and
  keeps the registrable labels it has seen, up to a cap.

    • `matchOrigins_eq_ok_iff` — the loop, from any point on: the labels seen are
      the first distinct ones of what came before;
    • `relatedOrigins_iff` — which callers match, that a higher cap keeps them,
      and that entries without a registrable label do not matter.
-/
import Mathlib.Data.Finset.Dedup
import Libwebauthn.Lib.FirstDistinct
import Libwebauthn.Lib.Cbor
import Libwebauthn.Psl.PublicSuffixList

namespace Libwebauthn.RelatedOrigins

open Psl

/-! ## §1. Origins and URLs. -/

inductive Scheme where
  | https
  | http
  deriving Repr, DecidableEq

def Scheme.asStr : Scheme → String
  | .https => "https"
  | .http => "http"

/-- The origin of the caller; its host as it is written. -/
structure Origin where
  scheme : Scheme
  host : Bytes
  port : Option UInt16
  deriving Repr, DecidableEq

/-- `Ipv4Addr`. -/
structure Ipv4Addr where
  a : UInt8
  b : UInt8
  c : UInt8
  d : UInt8
  deriving Repr, DecidableEq

def Ipv4Addr.toString (self : Ipv4Addr) : String :=
  ".".intercalate ([self.a, self.b, self.c, self.d].map fun octet => s!"{octet}")

/-- `Ipv6Addr`: eight segments. -/
structure Ipv6Addr where
  segments : List UInt16
  segments_length : segments.length = 8
  deriving Repr, DecidableEq

/-- Segments in hexadecimal, with colons between them. -/
def hexSegments (segments : List UInt16) : String :=
  ":".intercalate (segments.map fun segment => String.ofList (Nat.toDigits 16 segment.toNat))

/-- The longest run of zero segments, the first of them where there are more:
its start and its length. -/
def longestZeros (segments : List UInt16) : Nat × Nat :=
  let scan := segments.zipIdx.foldl
    (fun (acc : (Nat × Nat) × (Nat × Nat)) (entry : UInt16 × Nat) =>
      if entry.1 = 0 then
        let start := if acc.1.2 = 0 then entry.2 else acc.1.1
        let current := (start, acc.1.2 + 1)
        (current, if acc.2.2 < current.2 then current else acc.2)
      else ((0, 0), acc.2))
    ((0, 0), (0, 0))
  scan.2

/-- The address as it is displayed: an IPv4 address that is mapped as such, and
the longest run of zeros as `::`. -/
def Ipv6Addr.toString (self : Ipv6Addr) : String :=
  match self.segments with
  | [0, 0, 0, 0, 0, 0xFFFF, ab, cd] =>
      "::ffff:" ++ Ipv4Addr.toString
        ⟨(ab >>> 8).toUInt8, ab.toUInt8, (cd >>> 8).toUInt8, cd.toUInt8⟩
  | segments =>
      let zeros := longestZeros segments
      if 1 < zeros.2 then
        hexSegments (segments.take zeros.1) ++ "::"
          ++ hexSegments (segments.drop (zeros.1 + zeros.2))
      else hexSegments segments

/-- `url::Host`. -/
inductive Host where
  | domain (d : Bytes)
  | ipv4 (ip : Ipv4Addr)
  | ipv6 (ip : Ipv6Addr)
  deriving Repr, DecidableEq

/-- What is read of a parsed URL: `scheme()`, `host()` and
`port_or_known_default()`. -/
structure Url where
  scheme : String
  host : Option Host
  portOrKnownDefault : Option UInt16
  deriving Repr, DecidableEq

/-- `effective_domain_of`. -/
def effectiveDomainOf (url : Url) : Option Bytes :=
  url.host.map fun
    | .domain d => d
    | .ipv4 ip => utf8 ip.toString
    | .ipv6 ip => utf8 ("[" ++ ip.toString ++ "]")

def defaultPort : Scheme → UInt16
  | .https => 443
  | .http => 80

/-- `same_origin`. -/
def sameOrigin (caller : Origin) (listed : Url) : Bool :=
  if caller.scheme.asStr ≠ listed.scheme then false
  else
    match effectiveDomainOf listed with
    | none => false
    | some listedHost =>
        if caller.host ≠ listedHost then false
        else (caller.port.or (some (defaultPort caller.scheme))) = listed.portOrKnownDefault

/-- `registrable_origin_label`. -/
def registrableOriginLabel (host : Bytes) (psl : PublicSuffixList) : Option Bytes := do
  let registrable ← psl.registrableDomain host
  let label ← (labels registrable).head?
  if label = [] then none else some label

/-! ## §2. The loop. -/

/-- `MaxRegistrableLabels`. -/
structure MaxRegistrableLabels where
  max : Nat
  floor : 5 ≤ max

namespace MaxRegistrableLabels

def new (n : Nat) : Option MaxRegistrableLabels := if h : 5 ≤ n then some ⟨n, h⟩ else none

/-- `n` beyond the floor, saturating. -/
def extra (n : Nat) : MaxRegistrableLabels :=
  ⟨min (5 + n) (2 ^ 64 - 1), by omega⟩

def default : MaxRegistrableLabels := ⟨5, Nat.le_refl 5⟩

end MaxRegistrableLabels

inductive RelatedOriginsError where
  | noMatchingOrigin
  deriving Repr, DecidableEq

section

variable (parse : String → Option Url) (psl : PublicSuffixList)

/-- The registrable label of a listed origin, with its URL; nothing where the
loop skips it. -/
def labelled (item : String) : Option (Url × Bytes) := do
  let url ← parse item
  let domain ← effectiveDomainOf url
  let label ← registrableOriginLabel domain psl
  if label = [] then none else some (url, label)

/-- The loop, with the labels seen so far. -/
def matchOrigins (caller : Origin) (cap : Nat) :
    Finset Bytes → List String → Except RelatedOriginsError Unit
  | _, [] => .error .noMatchingOrigin
  | labelsSeen, item :: origins =>
      match labelled parse psl item with
      | none => matchOrigins caller cap labelsSeen origins
      | some (url, label) =>
          if cap ≤ labelsSeen.card ∧ label ∉ labelsSeen then
            matchOrigins caller cap labelsSeen origins
          else if sameOrigin caller url then .ok ()
          else if labelsSeen.card < cap then
            matchOrigins caller cap (insert label labelsSeen) origins
          else matchOrigins caller cap labelsSeen origins

def validateRelatedOrigins (caller : Origin) (origins : List String)
    (maxLabels : MaxRegistrableLabels) : Except RelatedOriginsError Unit :=
  matchOrigins parse psl caller maxLabels.max ∅ origins

/-! ## §3. The labels seen. -/

/-- The registrable labels in list order. -/
def labelsOf (origins : List String) : List Bytes :=
  origins.filterMap fun item => (labelled parse psl item).map Prod.snd

/-- Some of the listed origins, after those with the labels `before`, is the
caller's, and its label among the first `cap`. -/
def Matches (caller : Origin) (cap : Nat) (before : List Bytes) (origins : List String) : Prop :=
  ∃ item ∈ origins, ∃ url label, labelled parse psl item = some (url, label)
    ∧ sameOrigin caller url = true
    ∧ label ∈ firstDistinct cap (before ++ labelsOf parse psl origins)

end

/-- The labels that the loop has seen, with one more. -/
theorem labelsSeen_concat (cap : Nat) (before : List Bytes) (label : Bytes) :
    (firstDistinct cap (before ++ [label])).toFinset
      = if (firstDistinct cap before).toFinset.card < cap then
          insert label (firstDistinct cap before).toFinset
        else (firstDistinct cap before).toFinset := by
  rw [List.toFinset_card_of_nodup (nodup_firstDistinct cap before)]
  by_cases hlt : (firstDistinct cap before).length < cap
  · rw [if_pos hlt]
    by_cases hold : label ∈ before
    · have hmem : label ∈ (firstDistinct cap before).toFinset :=
        List.mem_toFinset.mpr (mem_firstDistinct_of_lt hlt hold)
      rw [firstDistinct_concat_of_old (Or.inl hold), Finset.insert_eq_of_mem hmem]
    · rw [firstDistinct_concat_of_new hold hlt]
      ext x
      rw [List.mem_toFinset, List.mem_append, List.mem_singleton, Finset.mem_insert,
        List.mem_toFinset]
      exact or_comm
  · rw [if_neg hlt, firstDistinct_concat_of_old (Or.inr hlt)]

section

variable {parse : String → Option Url} {psl : PublicSuffixList} {caller : Origin}

theorem labelsOf_cons_none {item : String} (h : labelled parse psl item = none)
    (origins : List String) :
    labelsOf parse psl (item :: origins) = labelsOf parse psl origins := by
  unfold labelsOf
  rw [List.filterMap_cons, h]
  rfl

theorem labelsOf_cons_some {item : String} {url : Url} {label : Bytes}
    (h : labelled parse psl item = some (url, label)) (origins : List String) :
    labelsOf parse psl (item :: origins) = label :: labelsOf parse psl origins := by
  unfold labelsOf
  rw [List.filterMap_cons, h]
  rfl

theorem matches_cons_none {cap : Nat} {before : List Bytes} {item : String}
    (h : labelled parse psl item = none) (origins : List String) :
    Matches parse psl caller cap before (item :: origins)
      ↔ Matches parse psl caller cap before origins := by
  unfold Matches
  rw [labelsOf_cons_none h, List.exists_mem_cons_iff, h]
  refine or_iff_right ?_
  rintro ⟨url, label, hlabelled, -⟩
  cases hlabelled

theorem matches_cons_some {cap : Nat} {before : List Bytes} {item : String} {url : Url}
    {label : Bytes} (h : labelled parse psl item = some (url, label)) (origins : List String) :
    Matches parse psl caller cap before (item :: origins)
      ↔ (sameOrigin caller url = true
          ∧ (label ∈ firstDistinct cap before ∨ (firstDistinct cap before).length < cap))
        ∨ Matches parse psl caller cap (before ++ [label]) origins := by
  unfold Matches
  rw [labelsOf_cons_some h, List.exists_mem_cons_iff, h, List.append_assoc, List.singleton_append]
  refine or_congr_left ?_
  constructor
  · rintro ⟨url', label', hlabelled, hsame, hmem⟩
    obtain ⟨rfl, rfl⟩ := Prod.mk.inj (Option.some.inj hlabelled)
    exact ⟨hsame, (mem_firstDistinct_append_cons label _).mp hmem⟩
  · rintro ⟨hsame, hmem⟩
    exact ⟨url, label, rfl, hsame, (mem_firstDistinct_append_cons label _).mpr hmem⟩

/-- **The loop** from any point on. -/
theorem matchOrigins_eq_ok_iff (cap : Nat) (origins : List String) :
    ∀ before, matchOrigins parse psl caller cap (firstDistinct cap before).toFinset origins
        = .ok ()
      ↔ Matches parse psl caller cap before origins := by
  -- by induction on the list, with the labels seen so far general
  induction origins with
  | nil =>
      intro before
      constructor
      · intro h
        cases h
      · rintro ⟨_, hmem, -⟩
        cases hmem
  | cons item origins ih =>
      intro before
      unfold matchOrigins
      cases hlabelled : labelled parse psl item with
      | none =>
          rw [matches_cons_none hlabelled]
          exact ih before
      | some entry =>
          obtain ⟨url, label⟩ := entry
          have hcard := List.toFinset_card_of_nodup (nodup_firstDistinct cap before)
          have hnext := ih (before ++ [label])
          rw [labelsSeen_concat] at hnext
          rw [matches_cons_some hlabelled, ← hnext]
          dsimp only
          rw [hcard]
          by_cases hover : cap ≤ (firstDistinct cap before).length
              ∧ label ∉ (firstDistinct cap before).toFinset
          · -- a label beyond the cap
            have hlt : ¬ (firstDistinct cap before).length < cap := by omega
            rw [if_pos hover, if_neg hlt]
            refine (or_iff_right ?_).symm
            rintro ⟨-, hmem | hlt'⟩
            · exact hover.2 (List.mem_toFinset.mpr hmem)
            · exact hlt hlt'
          · have hwithin : label ∈ firstDistinct cap before
                ∨ (firstDistinct cap before).length < cap := by
              by_cases hmem : label ∈ firstDistinct cap before
              · exact Or.inl hmem
              · refine Or.inr (Nat.lt_of_not_le fun hle => hover ⟨hle, ?_⟩)
                exact fun h => hmem (List.mem_toFinset.mp h)
            rw [if_neg hover]
            by_cases hsame : sameOrigin caller url = true
            · rw [if_pos hsame]
              exact iff_of_true rfl (Or.inl ⟨hsame, hwithin⟩)
            · rw [if_neg hsame, or_iff_right fun h => hsame h.1]
              by_cases hlt : (firstDistinct cap before).length < cap
              · rw [if_pos hlt, if_pos hlt]
              · rw [if_neg hlt, if_neg hlt]

/-! ## §4. Which callers match. -/

/-- Scheme, host and port agree, the port as it is by default. -/
theorem sameOrigin_iff (url : Url) :
    sameOrigin caller url = true
      ↔ url.scheme = caller.scheme.asStr ∧ effectiveDomainOf url = some caller.host
        ∧ url.portOrKnownDefault = some (caller.port.getD (defaultPort caller.scheme)) := by
  have hport : caller.port.or (some (defaultPort caller.scheme))
      = some (caller.port.getD (defaultPort caller.scheme)) := by
    cases caller.port <;> rfl
  unfold sameOrigin
  rw [hport]
  by_cases hscheme : caller.scheme.asStr = url.scheme
  · rw [if_neg (not_not.mpr hscheme), and_iff_right hscheme.symm]
    cases hhost : effectiveDomainOf url with
    | none => exact iff_of_false Bool.false_ne_true fun h => (by cases h.1)
    | some listedHost =>
        dsimp only
        by_cases hsame : caller.host = listedHost
        · rw [if_neg (not_not.mpr hsame), decide_eq_true_eq, hsame, and_iff_right rfl]
          exact eq_comm
        · rw [if_pos hsame]
          exact iff_of_false Bool.false_ne_true fun h => hsame (Option.some.inj h.1).symm
  · rw [if_pos hscheme]
    exact iff_of_false Bool.false_ne_true fun h => hscheme h.1.symm

theorem labelled_eq_some_iff (item : String) (url : Url) (label : Bytes) :
    labelled parse psl item = some (url, label)
      ↔ parse item = some url ∧ ∃ domain, effectiveDomainOf url = some domain
        ∧ registrableOriginLabel domain psl = some label := by
  have hne : ∀ domain, registrableOriginLabel domain psl = some label → label ≠ [] := by
    intro domain h
    simp only [registrableOriginLabel, Option.bind_eq_bind, Option.bind_eq_some_iff] at h
    obtain ⟨_, -, first, -, h⟩ := h
    split at h
    · cases h
    · next hfirst => exact Option.some.inj h ▸ hfirst
  simp only [labelled, Option.bind_eq_bind, Option.bind_eq_some_iff]
  constructor
  · rintro ⟨url', hparse, domain, hdomain, label', hlabel, h⟩
    split at h
    · cases h
    · obtain ⟨rfl, rfl⟩ := Prod.mk.inj (Option.some.inj h)
      exact ⟨hparse, domain, hdomain, hlabel⟩
  · rintro ⟨hparse, domain, hdomain, hlabel⟩
    exact ⟨url, hparse, domain, hdomain, label, hlabel, if_neg (hne domain hlabel)⟩

end

/-- Entries without a registrable label do not matter. -/
theorem matchOrigins_filter (parse : String → Option Url) (psl : PublicSuffixList)
    (caller : Origin) (cap : Nat) (origins : List String) :
    ∀ labelsSeen, matchOrigins parse psl caller cap labelsSeen
        (origins.filter fun item => (labelled parse psl item).isSome)
      = matchOrigins parse psl caller cap labelsSeen origins := by
  -- by induction on the list: an item without a label leaves the loop as it was
  induction origins with
  | nil => exact fun _ => rfl
  | cons item origins ih =>
      intro labelsSeen
      cases hlabelled : labelled parse psl item with
      | none =>
          have hskip : ¬ (labelled parse psl item).isSome = true := by
            rw [hlabelled]
            exact Bool.false_ne_true
          have hfilter : (item :: origins).filter (fun item => (labelled parse psl item).isSome)
              = origins.filter fun item => (labelled parse psl item).isSome :=
            List.filter_cons_of_neg hskip
          rw [hfilter, ih, matchOrigins, hlabelled]
      | some entry =>
          have hkeep : (labelled parse psl item).isSome = true := by
            rw [hlabelled]
            rfl
          have hfilter : (item :: origins).filter (fun item => (labelled parse psl item).isSome)
              = item :: origins.filter fun item => (labelled parse psl item).isSome :=
            List.filter_cons_of_pos hkeep
          rw [hfilter, matchOrigins, matchOrigins, hlabelled]
          dsimp only
          rw [ih, ih]

/-- The related origins that let a caller in: same origin, and a label among the
first ones. -/
theorem relatedOrigins_iff (parse : String → Option Url) (psl : PublicSuffixList)
    (caller : Origin) (origins : List String) (maxLabels : MaxRegistrableLabels) :
    (validateRelatedOrigins parse psl caller origins maxLabels = .ok ()
        ↔ ∃ item ∈ origins, ∃ url label,
          (parse item = some url ∧ ∃ domain, effectiveDomainOf url = some domain
            ∧ registrableOriginLabel domain psl = some label)
          ∧ (url.scheme = caller.scheme.asStr ∧ effectiveDomainOf url = some caller.host
            ∧ url.portOrKnownDefault = some (caller.port.getD (defaultPort caller.scheme)))
          ∧ label ∈ firstDistinct maxLabels.max (labelsOf parse psl origins))
      ∧ (∀ higher : MaxRegistrableLabels, maxLabels.max ≤ higher.max →
        validateRelatedOrigins parse psl caller origins maxLabels = .ok () →
          validateRelatedOrigins parse psl caller origins higher = .ok ())
      ∧ validateRelatedOrigins parse psl caller origins maxLabels
        = validateRelatedOrigins parse psl caller
          (origins.filter fun item => (labelled parse psl item).isSome) maxLabels := by
  -- the loop starts with no label seen
  have hmatches : ∀ maxLabels : MaxRegistrableLabels,
      validateRelatedOrigins parse psl caller origins maxLabels = .ok ()
        ↔ Matches parse psl caller maxLabels.max [] origins := by
    intro maxLabels
    have hloop : matchOrigins parse psl caller maxLabels.max
        (firstDistinct maxLabels.max []).toFinset origins = .ok () ↔ _ :=
      matchOrigins_eq_ok_iff maxLabels.max origins []
    rwa [firstDistinct_nil, List.toFinset_nil] at hloop
  refine ⟨?_, ?_, ?_⟩
  · rw [hmatches]
    unfold Matches
    simp only [labelled_eq_some_iff, sameOrigin_iff, List.nil_append]
  · intro higher hle h
    obtain ⟨item, hitem, url, label, hlabelled, hsame, hmem⟩ := (hmatches maxLabels).mp h
    exact (hmatches higher).mpr ⟨item, hitem, url, label, hlabelled, hsame,
      firstDistinct_subset hle _ hmem⟩
  · exact (matchOrigins_filter parse psl caller maxLabels.max origins ∅).symm

end Libwebauthn.RelatedOrigins
