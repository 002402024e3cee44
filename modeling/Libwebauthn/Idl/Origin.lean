/-
  Libwebauthn.Idl.Origin — which relying party ids an origin may claim
  (`idl/origin.rs`).

  The code compares byte offsets and slices strings; it panics where a slice
  does not start on a character boundary or a subtraction goes below zero.

    • `isRegistrableDomainSuffixOrEqual_eq` — it never does, and its answer
      in labels;
    • `rpId_authorised` — the same, and that two hosts share their
      registrable domain when one id is authorised for both of them.
-/
import Libwebauthn.Lib.Utf8
import Libwebauthn.Psl.Backends

namespace Libwebauthn.Idl

open Psl

/-! ## §1. The check. -/

/-- `a - b`; nothing where it panics. -/
def checkedSub (a b : Nat) : Option Nat := if b ≤ a then some (a - b) else none

/-- `is_registrable_domain_suffix_or_equal`; nothing where it panics. -/
def isRegistrableDomainSuffixOrEqual (rpId effectiveDomain : Bytes)
    (psl : PublicSuffixList) : Option Bool :=
  if rpId = [] then some false
  else if rpId = effectiveDomain then some true
  else if effectiveDomain.length ≤ rpId.length then some false
  else do
    let boundary ← checkedSub effectiveDomain.length rpId.length
    let boundary ← checkedSub boundary 1
    if effectiveDomain[boundary]? ≠ some dot then some false
    else
      let tail ← sliceFrom effectiveDomain (boundary + 1)
      if tail ≠ rpId then some false
      else
        match psl.registrableDomain effectiveDomain with
        | none => some false
        | some rd =>
            if rpId = rd then some true
            else if rpId.length ≤ rd.length then some false
            else
              let rdBoundary ← checkedSub rpId.length rd.length
              let rdBoundary ← checkedSub rdBoundary 1
              if rpId[rdBoundary]? ≠ some dot then some false
              else
                let tail ← sliceFrom rpId (rdBoundary + 1)
                some (tail = rd)

/-! ## §2. The end of a string. -/

/-- The text ends with a full stop and `tail`. -/
theorem endsWith_iff (text tail : Bytes) (h : tail.length < text.length) :
    (∃ front, text = front ++ dot :: tail)
      ↔ text[text.length - tail.length - 1]? = some dot
        ∧ text.drop (text.length - tail.length - 1 + 1) = tail := by
  constructor
  · rintro ⟨front, rfl⟩
    have hlen : (front ++ dot :: tail).length - tail.length - 1 = front.length := by
      simp only [List.length_append, List.length_cons]
      omega
    rw [hlen]
    refine ⟨by simp, ?_⟩
    rw [List.drop_append]
    simp
  · rintro ⟨hdot, htail⟩
    refine ⟨text.take (text.length - tail.length - 1), ?_⟩
    obtain ⟨hlt, hget⟩ := List.getElem?_eq_some_iff.mp hdot
    conv_lhs => rw [← List.take_append_drop (text.length - tail.length - 1) text]
    rw [List.drop_eq_getElem_cons hlt, hget, htail]

/-- **Cutting behind a full stop** does not panic. -/
theorem sliceFrom_dot (s : String) {k : Nat} (h : (utf8 s)[k]? = some dot) :
    sliceFrom (utf8 s) (k + 1) = some ((utf8 s).drop (k + 1)) :=
  if_pos (isCharBoundary_succ s h (by decide))

theorem checkedSub_of_le {a b : Nat} (h : b ≤ a) : checkedSub a b = some (a - b) := if_pos h

/-- Looking for a full stop in front of the last `tail.length` bytes, and
cutting behind it. -/
theorem cut_eq (s : String) {tail : Bytes} (h : tail.length < (utf8 s).length)
    (goOn : Bytes → Option Bool) :
    (do
      let boundary ← checkedSub (utf8 s).length tail.length
      let boundary ← checkedSub boundary 1
      if (utf8 s)[boundary]? ≠ some dot then some false
      else
        let rest ← sliceFrom (utf8 s) (boundary + 1)
        goOn rest)
      = if (utf8 s)[(utf8 s).length - tail.length - 1]? = some dot then
          goOn ((utf8 s).drop ((utf8 s).length - tail.length - 1 + 1))
        else some false := by
  have hone : 1 ≤ (utf8 s).length - tail.length := by omega
  simp only [checkedSub_of_le (Nat.le_of_lt h), checkedSub_of_le hone, Option.bind_eq_bind,
    Option.bind_some, ite_not]
  split
  · next hdot => rw [sliceFrom_dot s hdot, Option.bind_some]
  · rfl

/-! ## §3. The answer. -/

instance (xs ys : Bytes) : Decidable (labels xs <:+ labels ys) :=
  inferInstanceAs (Decidable (List.IsSuffix _ _))

/-- The last test: the registrable domain ends the relying party id. -/
theorem endsIn_eq (rpId : String) (rd : Bytes) :
    (if utf8 rpId = rd then some true
      else if (utf8 rpId).length ≤ rd.length then some false
      else do
        let rdBoundary ← checkedSub (utf8 rpId).length rd.length
        let rdBoundary ← checkedSub rdBoundary 1
        if (utf8 rpId)[rdBoundary]? ≠ some dot then some false
        else
          let tail ← sliceFrom (utf8 rpId) (rdBoundary + 1)
          some (decide (tail = rd)))
      = some (decide (labels rd <:+ labels (utf8 rpId))) := by
  by_cases heq : utf8 rpId = rd
  · rw [if_pos heq, heq, decide_eq_true (List.suffix_refl _)]
  rw [if_neg heq]
  -- a proper suffix of labels stands behind a dot
  have hiff : labels rd <:+ labels (utf8 rpId) ↔ ∃ front, utf8 rpId = front ++ dot :: rd := by
    rw [labels_suffix_iff, or_iff_right fun h => heq h.symm]
  by_cases hlen : (utf8 rpId).length ≤ rd.length
  · rw [if_pos hlen, decide_eq_false]
    rw [hiff]
    rintro ⟨front, hfront⟩
    rw [hfront, List.length_append, List.length_cons] at hlen
    omega
  have hlt := Nat.lt_of_not_le hlen
  rw [if_neg hlen, cut_eq rpId hlt]
  rw [endsWith_iff _ _ hlt] at hiff
  split
  · next hdot =>
      rw [Option.some.injEq]
      apply decide_eq_decide.mpr
      rw [hiff, and_iff_right hdot]
  · next hdot =>
      rw [decide_eq_false]
      rw [hiff]
      exact fun h => hdot h.1

section Answer

variable (rpId effectiveDomain : String) (publicSuffix : Bytes → Option Bytes)

/-- The relying party id is the domain, or labels at its end that its
registrable domain ends. -/
def Authorised (rpId effectiveDomain : Bytes) (publicSuffix : Bytes → Option Bytes) : Prop :=
  rpId ≠ [] ∧ (rpId = effectiveDomain
    ∨ (labels rpId <:+ labels effectiveDomain ∧ labels rpId ≠ labels effectiveDomain)
      ∧ ∃ rd, defaultRegistrableDomain publicSuffix effectiveDomain = some rd
        ∧ labels rd <:+ labels rpId)

/-- The same with whatever the list takes for the registrable domain. -/
def AuthorisedUnder (rpId effectiveDomain : Bytes) (registrable : Option Bytes) : Prop :=
  rpId ≠ [] ∧ (rpId = effectiveDomain
    ∨ (labels rpId <:+ labels effectiveDomain ∧ labels rpId ≠ labels effectiveDomain)
      ∧ ∃ rd, registrable = some rd ∧ labels rd <:+ labels rpId)

/-- **The check does not panic**, and answers in labels, over any list. -/
theorem isRegistrableDomainSuffixOrEqual_answers (psl : PublicSuffixList) :
    ∃ answer, isRegistrableDomainSuffixOrEqual (utf8 rpId) (utf8 effectiveDomain) psl
        = some answer
      ∧ (answer = true ↔ AuthorisedUnder (utf8 rpId) (utf8 effectiveDomain)
        (psl.registrableDomain (utf8 effectiveDomain))) := by
  unfold isRegistrableDomainSuffixOrEqual AuthorisedUnder
  by_cases hempty : utf8 rpId = []
  · rw [if_pos hempty]
    exact ⟨false, rfl, (by intro h; cases h), fun h => absurd hempty h.1⟩
  rw [if_neg hempty]
  by_cases heq : utf8 rpId = utf8 effectiveDomain
  · rw [if_pos heq]
    exact ⟨true, rfl, fun _ => ⟨hempty, Or.inl heq⟩, fun _ => rfl⟩
  rw [if_neg heq]
  -- being a proper suffix in labels is to stand behind a full stop
  have hproper : (labels (utf8 rpId) <:+ labels (utf8 effectiveDomain)
        ∧ labels (utf8 rpId) ≠ labels (utf8 effectiveDomain))
      ↔ ∃ front, utf8 effectiveDomain = front ++ dot :: utf8 rpId := by
    rw [labels_suffix_iff, or_iff_right heq]
    exact and_iff_left fun h => heq (labels_inj h)
  rw [hproper]
  by_cases hlen : (utf8 effectiveDomain).length ≤ (utf8 rpId).length
  · rw [if_pos hlen]
    refine ⟨false, rfl, (by intro h; cases h), ?_⟩
    rintro ⟨-, h | ⟨⟨front, hfront⟩, -⟩⟩
    · exact absurd h heq
    · rw [hfront, List.length_append, List.length_cons] at hlen
      omega
  rw [if_neg hlen]
  have hlt := Nat.lt_of_not_le hlen
  rw [cut_eq effectiveDomain hlt]
  by_cases hends : ∃ front, utf8 effectiveDomain = front ++ dot :: utf8 rpId
  · obtain ⟨hdot, htail⟩ := (endsWith_iff _ _ hlt).mp hends
    rw [if_pos hdot, htail, if_neg (not_not.mpr rfl)]
    cases hrd : psl.registrableDomain (utf8 effectiveDomain) with
    | none =>
        refine ⟨false, rfl, (by intro h; cases h), ?_⟩
        rintro ⟨-, h | ⟨-, rd, hnone, -⟩⟩
        · exact absurd h heq
        · cases hnone
    | some rd =>
        refine ⟨_, endsIn_eq rpId rd, ?_⟩
        rw [decide_eq_true_iff]
        constructor
        · intro h
          exact ⟨hempty, Or.inr ⟨hends, rd, rfl, h⟩⟩
        · rintro ⟨-, h | ⟨-, rd', hsome, h⟩⟩
          · exact absurd h heq
          · rw [Option.some.inj hsome]
            exact h
  · have hfalse : ¬(utf8 rpId ≠ [] ∧ (utf8 rpId = utf8 effectiveDomain
        ∨ (∃ front, utf8 effectiveDomain = front ++ dot :: utf8 rpId)
          ∧ ∃ rd, psl.registrableDomain (utf8 effectiveDomain) = some rd
            ∧ labels rd <:+ labels (utf8 rpId))) := by
      rintro ⟨-, h | ⟨h, -⟩⟩
      · exact heq h
      · exact hends h
    refine ⟨false, ?_, (by intro h; cases h), fun h => absurd h hfalse⟩
    by_cases hdot : (utf8 effectiveDomain)[(utf8 effectiveDomain).length
        - (utf8 rpId).length - 1]? = some dot
    · rw [if_pos hdot, if_pos fun htail => hends ((endsWith_iff _ _ hlt).mpr ⟨hdot, htail⟩)]
    · rw [if_neg hdot]

/-- With a list that keeps the default method. -/
theorem isRegistrableDomainSuffixOrEqual_eq :
    ∃ answer, isRegistrableDomainSuffixOrEqual (utf8 rpId) (utf8 effectiveDomain)
        { publicSuffix := publicSuffix } = some answer
      ∧ (answer = true ↔ Authorised (utf8 rpId) (utf8 effectiveDomain) publicSuffix) :=
  isRegistrableDomainSuffixOrEqual_answers rpId effectiveDomain { publicSuffix := publicSuffix }

end Answer

/-! ## §4. Two hosts and one id. -/

/-- Labels of which the registrable domain of a host is the end have its public
suffix. -/
theorem longestSuffix_of_registrableDomain {graph host rd name : Bytes}
    (hrd : defaultRegistrableDomain (publicSuffix graph) host = some rd)
    (hname : labels rd <:+ labels name) (hhost : labels name <:+ labels host) :
    ∃ x label, longestSuffix (fun ls => isPublicSuffix graph (join ls)) (labels name) = some x
      ∧ labels rd = label :: x := by
  obtain ⟨suffix, hsuffix, label, hlabels, _⟩ :=
    (defaultRegistrableDomain_eq_some_iff _ _ _).mp hrd
  rw [publicSuffix_eq, Option.map_eq_some_iff] at hsuffix
  obtain ⟨x, hx, rfl⟩ := hsuffix
  obtain ⟨⟨hxhost, hxne, _⟩, _⟩ := (longestSuffix_eq_some_iff _ _ _).mp hx
  rw [labels_join_of_suffix hxhost hxne] at hlabels
  refine ⟨x, label, longestSuffix_of_between hx ?_ hhost, hlabels⟩
  have hxrd : x <:+ labels rd := by
    rw [hlabels]
    exact List.suffix_cons label x
  exact hxrd.trans hname

/-- **One registrable domain**: of two hosts with the same labels at their end
that hold both registrable domains. -/
theorem registrableDomain_unique {graph host host' rd rd' name : Bytes}
    (hrd : defaultRegistrableDomain (publicSuffix graph) host = some rd)
    (hrd' : defaultRegistrableDomain (publicSuffix graph) host' = some rd')
    (hname : labels rd <:+ labels name) (hname' : labels rd' <:+ labels name)
    (hhost : labels name <:+ labels host) (hhost' : labels name <:+ labels host') :
    rd = rd' := by
  obtain ⟨x, label, hx, hlabels⟩ := longestSuffix_of_registrableDomain hrd hname hhost
  obtain ⟨x', label', hx', hlabels'⟩ := longestSuffix_of_registrableDomain hrd' hname' hhost'
  cases hx.symm.trans hx'
  -- both are the last labels of the id, and one more than its public suffix
  have hlen : (labels rd).length = (labels rd').length := by
    rw [hlabels, hlabels', List.length_cons, List.length_cons]
  apply labels_inj
  exact (List.suffix_of_suffix_length_le hname hname' (Nat.le_of_eq hlen)).eq_of_length hlen

/-- **Relying party ids are authorised** by the labels of the domain, and with
the `.dafsa` list an id that two hosts may claim puts both under one
registrable domain. -/
theorem rpId_authorised :
    (∀ (rpId effectiveDomain : String) (publicSuffix : Bytes → Option Bytes),
      ∃ answer, isRegistrableDomainSuffixOrEqual (utf8 rpId) (utf8 effectiveDomain)
          { publicSuffix := publicSuffix } = some answer
        ∧ (answer = true
          ↔ Authorised (utf8 rpId) (utf8 effectiveDomain) publicSuffix))
    ∧ ∀ (psl : DafsaFilePublicSuffixList) (rpId h1 h2 : String),
      rpId ≠ h1 → rpId ≠ h2 →
      isRegistrableDomainSuffixOrEqual (utf8 rpId) (utf8 h1) psl.toPublicSuffixList
        = some true →
      isRegistrableDomainSuffixOrEqual (utf8 rpId) (utf8 h2) psl.toPublicSuffixList
        = some true →
      psl.toPublicSuffixList.registrableDomain (utf8 h1)
          = psl.toPublicSuffixList.registrableDomain (utf8 h2)
        ∧ (psl.toPublicSuffixList.registrableDomain (utf8 h1)).isSome := by
  refine ⟨isRegistrableDomainSuffixOrEqual_eq, ?_⟩
  intro psl rpId h1 h2 hne1 hne2 hallowed1 hallowed2
  -- an id of another name lies between the host and its registrable domain
  have hunder : ∀ host : String, rpId ≠ host →
      isRegistrableDomainSuffixOrEqual (utf8 rpId) (utf8 host) psl.toPublicSuffixList
        = some true →
      labels (utf8 rpId) <:+ labels (utf8 host)
        ∧ ∃ rd, defaultRegistrableDomain (publicSuffix psl.graph) (utf8 host) = some rd
          ∧ labels rd <:+ labels (utf8 rpId) := by
    intro host hne hallowed
    obtain ⟨answer, hanswer, hiff⟩ :=
      isRegistrableDomainSuffixOrEqual_eq rpId host (publicSuffix psl.graph)
    have htrue : answer = true := Option.some.inj (hanswer.symm.trans hallowed)
    obtain ⟨-, heq | ⟨⟨hsuffix, -⟩, hrd⟩⟩ := hiff.mp htrue
    · exact absurd (utf8_injective heq) hne
    · exact ⟨hsuffix, hrd⟩
  obtain ⟨hsuffix1, rd1, hrd1, hends1⟩ := hunder h1 hne1 hallowed1
  obtain ⟨hsuffix2, rd2, hrd2, hends2⟩ := hunder h2 hne2 hallowed2
  have hsame : rd1 = rd2 :=
    registrableDomain_unique hrd1 hrd2 hends1 hends2 hsuffix1 hsuffix2
  show defaultRegistrableDomain (publicSuffix psl.graph) _
      = defaultRegistrableDomain (publicSuffix psl.graph) _
    ∧ (defaultRegistrableDomain (publicSuffix psl.graph) _).isSome
  rw [hrd1, hrd2, hsame]
  exact ⟨rfl, rfl⟩

/-- `www.example.jp`. -/
def wwwExampleJp : HostName where
  labels := [[0x77, 0x77, 0x77], [0x65, 0x78, 0x61, 0x6D, 0x70, 0x6C, 0x65], [0x6A, 0x70]]
  labels_ne := by decide
  label_ne := by decide
  chars := hostChars_of_all (by decide)

/-- `id.example.jp`. -/
def idExampleJp : HostName where
  labels := [[0x69, 0x64], [0x65, 0x78, 0x61, 0x6D, 0x70, 0x6C, 0x65], [0x6A, 0x70]]
  labels_ne := by decide
  label_ne := by decide
  chars := hostChars_of_all (by decide)

/-- Hosts that may claim `example.jp` under a list with `jp`. -/
theorem authorised_exampleJp {host : String} {name : HostName} (hhost : utf8 host = name.text)
    (hsuffix : longestSuffix (Accepts kawasakiRules) name.labels = some jp.labels)
    (hends : labels (utf8 "example.jp") <:+ name.labels)
    (hne : labels (utf8 "example.jp") ≠ name.labels) :
    Authorised (utf8 "example.jp") (utf8 host)
      kawasakiFile.toPublicSuffixList.publicSuffix := by
  have hps : kawasakiFile.toPublicSuffixList.publicSuffix name.text = some jp.text := by
    rw [dafsa_publicSuffix kawasaki_encodes, hsuffix]
    rfl
  have hrd : defaultRegistrableDomain kawasakiFile.toPublicSuffixList.publicSuffix name.text
      = some (utf8 "example.jp") := by
    rw [defaultRegistrableDomain_eq_some_iff]
    refine ⟨jp.text, hps, [0x65, 0x78, 0x61, 0x6D, 0x70, 0x6C, 0x65], by decide +kernel, ?_⟩
    rw [HostName.labels_text]
    exact hends
  refine ⟨by decide +kernel, Or.inr ⟨⟨?_, ?_⟩, utf8 "example.jp", ?_, List.suffix_refl _⟩⟩
  · rw [hhost, HostName.labels_text]
    exact hends
  · rw [hhost, HostName.labels_text]
    exact hne
  · rw [hhost]
    exact hrd

/-- `www.example.jp` and `id.example.jp`, which may both claim `example.jp`. -/
theorem rpId_authorised_exampleJp :
    kawasakiFile.toPublicSuffixList.registrableDomain (utf8 "www.example.jp")
        = kawasakiFile.toPublicSuffixList.registrableDomain (utf8 "id.example.jp")
      ∧ (kawasakiFile.toPublicSuffixList.registrableDomain (utf8 "www.example.jp")).isSome := by
  have hclaims : ∀ {host : String} {name : HostName}, utf8 host = name.text →
      longestSuffix (Accepts kawasakiRules) name.labels = some jp.labels →
        labels (utf8 "example.jp") <:+ name.labels →
          labels (utf8 "example.jp") ≠ name.labels →
            isRegistrableDomainSuffixOrEqual (utf8 "example.jp") (utf8 host)
              kawasakiFile.toPublicSuffixList = some true := by
    intro host name hhost hsuffix hends hne
    obtain ⟨answer, hanswer, hiff⟩ := isRegistrableDomainSuffixOrEqual_eq "example.jp" host
      kawasakiFile.toPublicSuffixList.publicSuffix
    rw [hiff.mpr (authorised_exampleJp hhost hsuffix hends hne)] at hanswer
    exact hanswer
  exact rpId_authorised.2 kawasakiFile "example.jp" "www.example.jp" "id.example.jp"
    (by decide) (by decide)
    (@hclaims _ wwwExampleJp (by decide +kernel) (by decide +kernel) (by decide +kernel)
      (by decide +kernel))
    (@hclaims _ idExampleJp (by decide +kernel) (by decide +kernel) (by decide +kernel)
      (by decide +kernel))

end Libwebauthn.Idl
