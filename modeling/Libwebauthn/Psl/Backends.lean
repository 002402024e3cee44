/-
  Libwebauthn.Psl.Backends — the same rules behind either backend
  (`psl/dafsa.rs`, `psl/dat.rs`).

  `Encodes` says that a `.dafsa` file holds a set of rules, and
  `ImplementsPsl` that the list behind a `.dat` file follows the algorithm
  of the Public Suffix List on it.  `backends_agree_iff` names the hosts on
  which the two agree with the algorithm and with each other.
-/
import Libwebauthn.Lib.Utf8
import Libwebauthn.Psl.DafsaFormat
import Libwebauthn.Psl.Rules

namespace Libwebauthn.Psl

/-! ## §1. The text of a host name. -/

theorem HostChar.ascii {b : UInt8} (h : HostChar b) : b < 0x80 :=
  UInt8.lt_trans h.2.1 (by decide)

/-- What a host is written in can be on an edge of the graph. -/
theorem HostChar.isChar {b : UInt8} (h : HostChar b) : IsChar b :=
  ⟨UInt8.le_of_lt h.1, h.ascii⟩

theorem HostChar.ne_dot {b : UInt8} (h : HostChar b) : b ≠ dot := h.2.2.1

/-- Labels hold no dots. -/
theorem HostName.dot_not_mem (host : HostName) : ∀ label ∈ host.labels, dot ∉ label :=
  fun label hlabel hmem => (host.chars label hlabel dot hmem).ne_dot rfl

@[simp] theorem HostName.labels_text (host : HostName) : Psl.labels host.text = host.labels :=
  labels_join host.labels_ne host.dot_not_mem

/-- A character of a joined name is one of a label, or a full stop. -/
theorem mem_join {ls : List Bytes} {b : UInt8} (h : b ∈ join ls) :
    b = dot ∨ ∃ label ∈ ls, b ∈ label := by
  induction ls with
  | nil => cases h
  | cons label ls ih =>
      cases ls with
      | nil =>
          refine Or.inr ⟨label, List.mem_cons_self, ?_⟩
          rwa [join, List.intercalate_singleton] at h
      | cons label' ls =>
          rw [join_cons label (List.cons_ne_nil label' ls), List.mem_append,
            List.mem_cons] at h
          rcases h with h | h | h
          · exact Or.inr ⟨label, List.mem_cons_self, h⟩
          · exact Or.inl h
          · rcases ih h with h | ⟨l, hl, hb⟩
            · exact Or.inl h
            · exact Or.inr ⟨l, List.mem_cons_of_mem label hl, hb⟩

section Text

variable {host : HostName} {x : List Bytes}

theorem isChar_join (hx : x <:+ host.labels) : ∀ b ∈ join x, IsChar b := by
  intro b hb
  rcases mem_join hb with rfl | ⟨label, hlabel, hmem⟩
  · decide
  · exact (host.chars label (hx.subset hlabel) b hmem).isChar

theorem ascii_join (hx : x <:+ host.labels) : ∀ b ∈ join x, b < 0x80 := by
  intro b hb
  rcases mem_join hb with rfl | ⟨label, hlabel, hmem⟩
  · decide
  · exact (host.chars label (hx.subset hlabel) b hmem).ascii

/-- The labels of a name and its text say the same. -/
theorem labels_join_of_host (hx : x <:+ host.labels) (hne : x ≠ []) : labels (join x) = x :=
  labels_join hne fun label hlabel => host.dot_not_mem label (hx.subset hlabel)

/-- A rule's text is this suffix exactly when its labels are. -/
theorem text_eq_join_iff {domain : HostName} (hx : x <:+ host.labels) (hne : x ≠ []) :
    domain.text = join x ↔ domain.labels = x := by
  constructor
  · intro h
    rw [← domain.labels_text, h, labels_join_of_host hx hne]
  · intro h
    rw [← h]
    rfl

/-- The part behind the first dot is the name without its first label. -/
theorem splitFirst_join_cons {label : Bytes} (hlabel : dot ∉ label) (hne : x ≠ []) :
    splitFirst [dot] (join (label :: x)) = some (label, join x) := by
  rw [splitFirst_eq_some_iff (List.cons_ne_nil dot [])]
  refine ⟨?_, ?_⟩
  · rw [join_cons label hne, List.append_assoc]
    rfl
  · rintro ⟨s, t, h⟩
    apply hlabel
    have hlast : ([dot] : Bytes).dropLast = [] := rfl
    rw [hlast, List.append_nil] at h
    rw [← h]
    simp

theorem splitFirst_join_singleton {label : Bytes} (hlabel : dot ∉ label) :
    splitFirst [dot] (join [label]) = none := by
  have hjoin : join [label] = label := List.intercalate_singleton
  cases h : splitFirst [dot] (join [label]) with
  | none => rfl
  | some cut =>
      have hsplit := splitOn_of_splitFirst h
      rw [hjoin, List.splitOn_eq_singleton hlabel] at hsplit
      exact absurd (List.cons.inj hsplit).2.symm (List.splitOn_ne_nil dot cut.2)

end Text

/-! ## §2. The `.dafsa` file. -/

/-- **The graph maps the domain of each rule to its flags**, and nothing
else. -/
structure Encodes (graph : Bytes) (rules : List Rule) : Prop where
  wellFormed : WellFormed graph
  domains : ∀ key, (∃ flags, HasKey graph key flags) ↔ ∃ rule ∈ rules, rule.domain.text = key
  exceptions : ∀ key flags, HasKey graph key flags → (flags &&& FLAG_EXCEPTION ≠ 0
    ↔ ∃ rule ∈ rules, rule.kind = .exception ∧ rule.domain.text = key)
  wildcards : ∀ key flags, HasKey graph key flags → (flags &&& FLAG_WILDCARD ≠ 0
    ↔ ∃ rule ∈ rules, rule.kind = .wildcard ∧ rule.domain.text = key)

section Dafsa

variable {psl : DafsaFilePublicSuffixList} {rules : List Rule} {host : HostName}
  {x : List Bytes}

/-- A rule names a suffix when its text is that of the suffix. -/
theorem named_iff_text {kind : RuleKind} (hx : x <:+ host.labels) (hne : x ≠ []) :
    named rules kind x = true
      ↔ ∃ rule ∈ rules, rule.kind = kind ∧ rule.domain.text = join x := by
  rw [named_iff]
  refine exists_congr fun rule => and_congr_right fun _ => and_congr_right fun _ => ?_
  exact (text_eq_join_iff hx hne).symm

/-- A file that encodes the rules is looked up by text. -/
theorem lookup_join (h : Encodes psl.graph rules) (hx : x <:+ host.labels) (flags : UInt8) :
    lookup psl.graph (join x) = some flags ↔ HasKey psl.graph (join x) flags :=
  lookup_eq_some psl.graph_lt h.wellFormed (isChar_join hx) flags

/-- A miss in the file is a name that no rule has. -/
theorem lookup_join_none (h : Encodes psl.graph rules) (hx : x <:+ host.labels)
    (hne : x ≠ []) :
    lookup psl.graph (join x) = none
      ↔ ¬(rules.any fun rule => rule.domain.labels = x) = true := by
  have hsome : (∃ flags, lookup psl.graph (join x) = some flags)
      ↔ ∃ rule ∈ rules, rule.domain.text = join x := by
    rw [← h.domains]
    exact exists_congr fun flags => lookup_join h hx flags
  have hany : (rules.any fun rule => rule.domain.labels = x) = true
      ↔ ∃ rule ∈ rules, rule.domain.text = join x := by
    simp only [List.any_eq_true, decide_eq_true_eq, text_eq_join_iff hx hne]
  rw [hany, ← hsome, Option.eq_none_iff_forall_ne_some, not_exists]

/-- The wildcard bit of the parent. -/
theorem wildcard_join (h : Encodes psl.graph rules) (hx : x <:+ host.labels) (hne : x ≠ []) :
    (match lookup psl.graph (join x) with
      | some flags => decide (flags &&& FLAG_WILDCARD ≠ 0)
      | none => false) = named rules .wildcard x := by
  cases hl : lookup psl.graph (join x) with
  | none =>
      symm
      rw [← Bool.not_eq_true]
      intro hnamed
      obtain ⟨rule, hmem, _, hdomain⟩ := named_iff.mp hnamed
      exact (lookup_join_none h hx hne).mp hl
        (List.any_eq_true.mpr ⟨rule, hmem, decide_eq_true hdomain⟩)
  | some flags =>
      have hkey := (lookup_join h hx flags).mp hl
      rw [Bool.eq_iff_iff, named_iff_text hx hne, ← h.wildcards _ _ hkey]
      exact decide_eq_true_iff

/-- **The local test** of the reader, in rules. -/
theorem isPublicSuffix_join (h : Encodes psl.graph rules) (hx : x <:+ host.labels)
    (hne : x ≠ []) : isPublicSuffix psl.graph (join x) = Accepts rules x := by
  unfold isPublicSuffix Accepts
  cases hl : lookup psl.graph (join x) with
  | some flags =>
      have hkey := (lookup_join h hx flags).mp hl
      have hlisted : (rules.any fun rule => rule.domain.labels = x) = true := by
        by_contra hnot
        rw [(lookup_join_none h hx hne).mpr hnot] at hl
        cases hl
      rw [if_pos hlisted]
      show decide (flags &&& FLAG_EXCEPTION = 0) = _
      rw [Bool.eq_iff_iff, Bool.not_eq_true', decide_eq_true_eq, ← Bool.not_eq_true,
        named_iff_text hx hne, ← h.exceptions _ _ hkey, not_not]
  | none =>
      rw [if_neg ((lookup_join_none h hx hne).mp hl)]
      obtain ⟨label, rest, rfl⟩ := List.exists_cons_of_ne_nil hne
      have hlabel := host.dot_not_mem label (hx.subset List.mem_cons_self)
      have hrest : rest <:+ host.labels := (List.suffix_cons label rest).trans hx
      by_cases hnil : rest = []
      · subst hnil
        rw [splitFirst_join_singleton hlabel]
        exact (Bool.eq_false_iff.mpr (not_named_nil _)).symm
      · rw [splitFirst_join_cons hlabel hnil]
        exact wildcard_join h hrest hnil

/-- The public suffix of the reader, in rules. -/
theorem dafsa_publicSuffix (h : Encodes psl.graph rules) (host : HostName) :
    psl.toPublicSuffixList.publicSuffix host.text
      = (longestSuffix (Accepts rules) host.labels).map join := by
  show publicSuffix psl.graph host.text = _
  rw [publicSuffix_eq, HostName.labels_text]
  congr 1
  exact longestSuffix_congr fun x hx hne => isPublicSuffix_join h hx hne

end Dafsa

/-! ## §3. The public suffix and one more label. -/

section Default

variable {publicSuffix : Bytes → Option Bytes} {host : HostName} {n : Nat}

theorem labels_join_lastLabels (hpos : 0 < n) (hle : n ≤ host.labels.length) :
    labels (join (lastLabels n host.labels)) = lastLabels n host.labels := by
  apply labels_join_of_host (lastLabels_suffix n host.labels)
  rw [← List.length_pos_iff, length_lastLabels hle]
  exact hpos

/-- A name without a public suffix has no registrable domain. -/
theorem defaultRegistrableDomain_of_none {name : Bytes} (h : publicSuffix name = none) :
    defaultRegistrableDomain publicSuffix name = none := by
  unfold defaultRegistrableDomain
  rw [h]
  rfl

/-- The trait's default on a public suffix of `n` labels. -/
theorem defaultRegistrableDomain_lastLabels (hpos : 0 < n) (hle : n ≤ host.labels.length)
    (h : publicSuffix host.text = some (join (lastLabels n host.labels))) :
    defaultRegistrableDomain publicSuffix host.text
      = if n < host.labels.length then some (join (lastLabels (n + 1) host.labels))
        else none := by
  have hlabels : labels (join (lastLabels n host.labels)) = lastLabels n host.labels :=
    labels_join_lastLabels hpos hle
  apply Option.ext
  intro domain
  rw [defaultRegistrableDomain_eq_some_iff]
  split
  -- one label more than the suffix, when the host has one
  · next hlt =>
      rw [Option.some.injEq]
      obtain ⟨label, hlast⟩ := lastLabels_succ hlt
      constructor
      · rintro ⟨suffix, hsome, _, hdomain, hin⟩
        cases h.symm.trans hsome
        rw [hlabels] at hdomain
        rw [host.labels_text] at hin
        have hlen : (labels domain).length = n + 1 := by
          rw [hdomain, List.length_cons, length_lastLabels hle]
        rw [← hlen, lastLabels_of_suffix hin, join_labels]
      · rintro rfl
        refine ⟨_, h, label, ?_, ?_⟩
        · rw [labels_join_lastLabels (Nat.succ_pos n) hlt, hlabels, hlast]
        · rw [labels_join_lastLabels (Nat.succ_pos n) hlt, host.labels_text]
          exact lastLabels_suffix _ _
  · next hlt =>
      constructor
      · rintro ⟨suffix, hsome, _, hdomain, hin⟩
        cases h.symm.trans hsome
        have hlen := hin.length_le
        rw [hdomain, List.length_cons, hlabels, length_lastLabels hle,
          host.labels_text] at hlen
        omega
      · intro hnone
        cases hnone

end Default

/-! ## §4. The `.dat` file. -/

/-- `publicsuffix::Suffix`; not known where only the implicit `*` matches. -/
structure Suffix where
  bytes : Bytes
  isKnown : Bool

/-- `publicsuffix::List`. -/
structure PublicSuffixCrate where
  suffix : Bytes → Option Suffix
  domain : Bytes → Option Bytes

/-- `str::from_utf8(..).ok()`. -/
def fromUtf8 (bytes : Bytes) : Option Bytes :=
  if (Cbor.text? bytes).isSome then some bytes else none

structure DatFilePublicSuffixList where
  list : PublicSuffixCrate

def DatFilePublicSuffixList.toPublicSuffixList (self : DatFilePublicSuffixList) :
    PublicSuffixList where
  registrableDomain host := do
    let suffix ← self.list.suffix host
    if !suffix.isKnown then none
    else
      let domain ← self.list.domain host
      fromUtf8 domain
  publicSuffix host := do
    let suffix ← self.list.suffix host
    if !suffix.isKnown then none
    else fromUtf8 suffix.bytes

/-- **The crate follows the algorithm** of the Public Suffix List, the
implicit `*` included: its suffix of a host, and one more label. -/
structure ImplementsPsl (list : PublicSuffixCrate) (rules : List Rule) : Prop where
  suffix : ∀ host : HostName, list.suffix host.text =
    match suffixLength rules host.labels with
    | some 0 => none
    | some n => some ⟨join (lastLabels n host.labels), true⟩
    | none => some ⟨join (lastLabels 1 host.labels), false⟩
  domain : ∀ host : HostName, list.domain host.text =
    let n := (suffixLength rules host.labels).getD 1
    if 0 < n ∧ n < host.labels.length then some (join (lastLabels (n + 1) host.labels))
    else none

/-- The public suffix by the algorithm, without the implicit `*`. -/
def pslPublicSuffix (rules : List Rule) (host : HostName) : Option Bytes :=
  (publicSuffixLabels rules host.labels).map join

section Dat

variable {psl : DatFilePublicSuffixList} {rules : List Rule}

/-- The last labels of a host are text, as the slices of the source have to be. -/
theorem fromUtf8_lastLabels (n : Nat) (host : HostName) :
    fromUtf8 (join (lastLabels n host.labels)) = some (join (lastLabels n host.labels)) :=
  if_pos (text?_ascii (ascii_join (List.drop_suffix _ host.labels)))

/-- The public suffix of the reader. -/
theorem dat_publicSuffix (h : ImplementsPsl psl.list rules) (host : HostName) :
    psl.toPublicSuffixList.publicSuffix host.text = pslPublicSuffix rules host := by
  show (psl.list.suffix host.text).bind
    (fun suffix => if !suffix.isKnown then none else fromUtf8 suffix.bytes) = _
  rw [h.suffix, pslPublicSuffix, publicSuffixLabels]
  cases hn : suffixLength rules host.labels with
  | none => rfl
  | some n =>
      cases n with
      | zero => rfl
      | succ n => exact fromUtf8_lastLabels (n + 1) host

/-- **The registrable domain of the reader** is the trait's default on its
public suffix. -/
theorem dat_registrableDomain (h : ImplementsPsl psl.list rules) (host : HostName) :
    psl.toPublicSuffixList.registrableDomain host.text
      = defaultRegistrableDomain psl.toPublicSuffixList.publicSuffix host.text := by
  have hsuffix := dat_publicSuffix h host
  rw [pslPublicSuffix, publicSuffixLabels] at hsuffix
  show (psl.list.suffix host.text).bind
    (fun suffix => if !suffix.isKnown then none
      else (psl.list.domain host.text).bind fromUtf8) = _
  rw [h.suffix, h.domain]
  -- no suffix, or one more label than it has, if there is one
  cases hn : suffixLength rules host.labels with
  | none =>
      rw [hn] at hsuffix
      rw [defaultRegistrableDomain_of_none hsuffix]
      rfl
  | some n =>
      rw [hn] at hsuffix
      cases n with
      | zero =>
          rw [defaultRegistrableDomain_of_none hsuffix]
          rfl
      | succ n =>
          rw [defaultRegistrableDomain_lastLabels (Nat.succ_pos n) (suffixLength_le hn) hsuffix]
          show (if 0 < n + 1 ∧ n + 1 < host.labels.length then _ else none).bind fromUtf8 = _
          by_cases hlt : n + 1 < host.labels.length
          · rw [if_pos ⟨Nat.succ_pos n, hlt⟩, if_pos hlt, Option.bind_some]
            exact fromUtf8_lastLabels (n + 2) host
          · rw [if_neg (fun hand => hlt hand.2), if_neg hlt]
            rfl

end Dat

/-! ## §5. The two backends. -/

/-- Joined suffixes of a host differ as their labels do. -/
theorem map_join_inj (host : HostName) {found found' : Option (List Bytes)}
    (h : ∀ x, found = some x → x <:+ host.labels ∧ x ≠ [])
    (h' : ∀ x, found' = some x → x <:+ host.labels ∧ x ≠ [])
    (heq : found.map join = found'.map join) : found = found' := by
  cases found with
  | none =>
      cases found' with
      | none => rfl
      | some y => cases heq
  | some x =>
      cases found' with
      | none => cases heq
      | some y =>
          obtain ⟨hx, hxne⟩ := h x rfl
          obtain ⟨hy, hyne⟩ := h' y rfl
          rw [← labels_join_of_host hx hxne, Option.some.inj heq, labels_join_of_host hy hyne]

/-- **The hosts on which the backends agree** with the algorithm and with
each other. -/
theorem backends_agree_iff (rules : List Rule) (dafsa : DafsaFilePublicSuffixList)
    (dat : DatFilePublicSuffixList) (hdafsa : Encodes dafsa.graph rules)
    (hdat : ImplementsPsl dat.list rules) (host : HostName) :
    (dafsa.toPublicSuffixList.publicSuffix host.text = pslPublicSuffix rules host
      ∧ dafsa.toPublicSuffixList.publicSuffix host.text
        = dat.toPublicSuffixList.publicSuffix host.text
      ∧ dafsa.toPublicSuffixList.registrableDomain host.text
        = dat.toPublicSuffixList.registrableDomain host.text)
      ↔ Agrees rules host.labels := by
  -- the two agree on a suffix just when they agree on its labels
  have hagree : dafsa.toPublicSuffixList.publicSuffix host.text = pslPublicSuffix rules host
      ↔ Agrees rules host.labels := by
    rw [← longestSuffix_accepts_iff, dafsa_publicSuffix hdafsa, pslPublicSuffix]
    constructor
    · refine map_join_inj host ?_ ?_
      · intro x hx
        exact ((longestSuffix_eq_some_iff _ _ _).mp hx).1.imp_right And.left
      · intro x hx
        exact publicSuffixLabels_suffix hx
    · intro h
      rw [h]
  rw [← hagree]
  constructor
  · rintro ⟨hsuffix, _⟩
    exact hsuffix
  · intro hsuffix
    -- and the registrable domain only depends on the suffix
    have hsame : dafsa.toPublicSuffixList.publicSuffix host.text
        = dat.toPublicSuffixList.publicSuffix host.text :=
      hsuffix.trans (dat_publicSuffix hdat host).symm
    refine ⟨hsuffix, hsame, ?_⟩
    rw [dat_registrableDomain hdat host]
    show defaultRegistrableDomain dafsa.toPublicSuffixList.publicSuffix host.text = _
    unfold defaultRegistrableDomain
    rw [hsame]

/-! ## §6. A wildcard's domain. -/

/-- Characters checked one by one. -/
theorem forall_mem_of_all {P : UInt8 → Prop} [DecidablePred P] {bs : Bytes}
    (h : (bs.all fun b => P b) = true) : ∀ b ∈ bs, P b :=
  fun b hb => of_decide_eq_true (List.all_eq_true.mp h b hb)

theorem hostChars_of_all {labels : List Bytes}
    (h : ∀ label ∈ labels, (label.all fun b => HostChar b) = true) :
    ∀ label ∈ labels, ∀ b ∈ label, HostChar b :=
  fun label hlabel => forall_mem_of_all (h label hlabel)

/-- `jp`. -/
def jp : HostName where
  labels := [[0x6A, 0x70]]
  labels_ne := by decide
  label_ne := by decide
  chars := hostChars_of_all (by decide)

/-- `kawasaki.jp`. -/
def kawasaki : HostName where
  labels := [[0x6B, 0x61, 0x77, 0x61, 0x73, 0x61, 0x6B, 0x69], [0x6A, 0x70]]
  labels_ne := by decide
  label_ne := by decide
  chars := hostChars_of_all (by decide)

/-- `jp` and `*.kawasaki.jp`. -/
def kawasakiRules : List Rule := [⟨.plain, jp⟩, ⟨.wildcard, kawasaki⟩]

/-- The root has two children without children: `jp`, whose flags are `ICANN`,
and `kawasaki.jp`, whose flags are `WILDCARD` and `ICANN`. -/
def kawasakiFile : DafsaFilePublicSuffixList where
  graph := [0x02, 0x83] ++ (jp.text ++ [0x84]) ++ (kawasaki.text ++ [0x86])
  graph_lt := by decide

/-- A list that follows the algorithm on these rules. -/
def listOf (rules : List Rule) : PublicSuffixCrate where
  suffix name :=
    match suffixLength rules (labels name) with
    | some 0 => none
    | some n => some ⟨join (lastLabels n (labels name)), true⟩
    | none => some ⟨join (lastLabels 1 (labels name)), false⟩
  domain name :=
    let n := (suffixLength rules (labels name)).getD 1
    if 0 < n ∧ n < (labels name).length then some (join (lastLabels (n + 1) (labels name)))
    else none

def kawasakiDat : DatFilePublicSuffixList where
  list := listOf kawasakiRules

/-- The list of the rules behaves as the crate is documented to. -/
theorem listOf_implementsPsl (rules : List Rule) : ImplementsPsl (listOf rules) rules := by
  constructor
  · intro host
    simp only [listOf, HostName.labels_text]
  · intro host
    simp only [listOf, HostName.labels_text]

theorem kawasaki_siblings : Siblings kawasakiFile.graph 0 [2, 5] := by
  have hfirst : OffsetAt kawasakiFile.graph 0 2 1 false :=
    OffsetAt.short (b := 0x02) rfl (by decide)
  have hsecond : OffsetAt kawasakiFile.graph 1 3 1 true :=
    OffsetAt.short (b := 0x83) rfl (by decide)
  refine ⟨Children.more hfirst (Children.last hsecond), by decide, ?_⟩
  intro place hplace
  rw [List.mem_cons, List.mem_singleton] at hplace
  rcases hplace with rfl | rfl
  · exact node_run jp.text (b := 0x84) (forall_mem_of_all (by decide)) (by decide) (by decide)
  · exact node_run kawasaki.text (b := 0x86) (forall_mem_of_all (by decide)) (by decide) (by decide)

theorem kawasaki_hasKey_iff (key : Bytes) (flags : UInt8) :
    HasKey kawasakiFile.graph key flags
      ↔ key = jp.text ∧ flags = 4 ∨ key = kawasaki.text ∧ flags = 6 := by
  have hjp : Spells kawasakiFile.graph 2 key flags ↔ key = jp.text ∧ flags = 4 :=
    spells_run_iff (b := 0x84) (forall_mem_of_all (by decide)) (by decide) (by decide)
  have hkawasaki : Spells kawasakiFile.graph 5 key flags
      ↔ key = kawasaki.text ∧ flags = 6 :=
    spells_run_iff (b := 0x86) (forall_mem_of_all (by decide)) (by decide) (by decide)
  rw [← hjp, ← hkawasaki]
  constructor
  · rintro ⟨places, hplaces, child, hmem, hspells⟩
    rw [← kawasaki_siblings.children.unique hplaces, List.mem_cons,
      List.mem_singleton] at hmem
    rcases hmem with rfl | rfl
    · exact Or.inl hspells
    · exact Or.inr hspells
  · intro h
    refine ⟨[2, 5], kawasaki_siblings.children, ?_⟩
    rcases h with hspells | hspells
    · exact ⟨2, by decide, hspells⟩
    · exact ⟨5, by decide, hspells⟩

/-- The small file is the small list. -/
theorem kawasaki_encodes : Encodes kawasakiFile.graph kawasakiRules := by
  have hne : jp.text ≠ kawasaki.text := by decide
  refine ⟨⟨_, kawasaki_siblings⟩, ?_, ?_, ?_⟩
  · intro key
    simp only [kawasaki_hasKey_iff, kawasakiRules, List.exists_mem_cons_iff,
      List.not_mem_nil, false_and, exists_false, or_false]
    constructor
    · rintro ⟨flags, ⟨rfl, _⟩ | ⟨rfl, _⟩⟩
      · exact Or.inl rfl
      · exact Or.inr rfl
    · rintro (rfl | rfl)
      · exact ⟨4, Or.inl ⟨rfl, rfl⟩⟩
      · exact ⟨6, Or.inr ⟨rfl, rfl⟩⟩
  · intro key flags h
    rw [kawasaki_hasKey_iff] at h
    rcases h with ⟨rfl, rfl⟩ | ⟨rfl, rfl⟩ <;> decide
  · intro key flags h
    rw [kawasaki_hasKey_iff] at h
    rcases h with ⟨rfl, rfl⟩ | ⟨rfl, rfl⟩ <;> decide

/-- The `.dafsa` reader takes the wildcard's domain for a public suffix. -/
theorem backends_disagree :
    Encodes kawasakiFile.graph kawasakiRules
      ∧ ImplementsPsl kawasakiDat.list kawasakiRules
      ∧ kawasakiFile.toPublicSuffixList.publicSuffix kawasaki.text = some kawasaki.text
      ∧ pslPublicSuffix kawasakiRules kawasaki = some jp.text
      ∧ kawasakiDat.toPublicSuffixList.publicSuffix kawasaki.text = some jp.text
      ∧ kawasakiFile.toPublicSuffixList.registrableDomain kawasaki.text = none
      ∧ kawasakiDat.toPublicSuffixList.registrableDomain kawasaki.text
        = some kawasaki.text := by
  have hlist : ImplementsPsl kawasakiDat.list kawasakiRules :=
    listOf_implementsPsl kawasakiRules
  have hdafsa : kawasakiFile.toPublicSuffixList.publicSuffix kawasaki.text
      = some kawasaki.text := by
    rw [dafsa_publicSuffix kawasaki_encodes]
    decide
  have hpsl : pslPublicSuffix kawasakiRules kawasaki = some jp.text := by decide
  have hdat : kawasakiDat.toPublicSuffixList.publicSuffix kawasaki.text = some jp.text := by
    rw [dat_publicSuffix hlist, hpsl]
  refine ⟨kawasaki_encodes, hlist, hdafsa, hpsl, hdat, ?_, ?_⟩
  · show defaultRegistrableDomain kawasakiFile.toPublicSuffixList.publicSuffix _ = none
    unfold defaultRegistrableDomain
    rw [hdafsa]
    rfl
  · rw [dat_registrableDomain hlist]
    unfold defaultRegistrableDomain
    rw [hdat]
    decide

/-- `a.kawasaki.jp`. -/
def underKawasaki : HostName where
  labels := [[0x61], [0x6B, 0x61, 0x77, 0x61, 0x73, 0x61, 0x6B, 0x69], [0x6A, 0x70]]
  labels_ne := by decide
  label_ne := by decide
  chars := hostChars_of_all (by decide)

theorem backends_agree_kawasaki :
    kawasakiFile.toPublicSuffixList.publicSuffix underKawasaki.text = some underKawasaki.text
      ∧ kawasakiDat.toPublicSuffixList.publicSuffix underKawasaki.text
        = some underKawasaki.text := by
  have hpsl : pslPublicSuffix kawasakiRules underKawasaki = some underKawasaki.text := by
    decide
  have hagrees : Agrees kawasakiRules underKawasaki.labels := by
    show named kawasakiRules .wildcard underKawasaki.labels = true → _
    decide
  obtain ⟨hdafsa, hsame, -⟩ := (backends_agree_iff kawasakiRules kawasakiFile
    kawasakiDat kawasaki_encodes (listOf_implementsPsl kawasakiRules) underKawasaki).mpr hagrees
  rw [← hsame, hdafsa, hpsl]
  exact ⟨rfl, rfl⟩

end Libwebauthn.Psl
