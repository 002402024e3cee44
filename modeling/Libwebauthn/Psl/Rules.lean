/-
  Libwebauthn.Psl.Rules — the rules of the Public Suffix List and its
  algorithm.

  Of the rules that match a host an exception prevails, and otherwise the one
  with the most labels; the public suffix has as many labels as that rule, and
  one fewer for an exception.  There is no implicit `*`.  `Accepts` is a test
  that asks for a suffix and its parent only, and `longestSuffix_accepts_iff`
  says where it finds the public suffix.
-/
import Libwebauthn.Psl.PublicSuffixList

namespace Libwebauthn.Psl

/-! ## §1. Host names and rules. -/

/-- A lowercase ASCII character of a label. -/
def HostChar (b : UInt8) : Prop := 0x20 < b ∧ b < 0x7F ∧ b ≠ dot ∧ ¬(0x41 ≤ b ∧ b ≤ 0x5A)

instance (b : UInt8) : Decidable (HostChar b) := inferInstanceAs (Decidable (_ ∧ _))

/-- A lowercase ASCII host name. -/
structure HostName where
  labels : List Bytes
  labels_ne : labels ≠ []
  label_ne : ∀ label ∈ labels, label ≠ []
  chars : ∀ label ∈ labels, ∀ b ∈ label, HostChar b

def HostName.text (self : HostName) : Bytes := join self.labels

inductive RuleKind
  | plain
  /-- `*.` before the domain. -/
  | wildcard
  /-- `!` before the domain. -/
  | exception
  deriving DecidableEq

structure Rule where
  kind : RuleKind
  domain : HostName

def Rule.labelCount (self : Rule) : Nat :=
  match self.kind with
  | .wildcard => self.domain.labels.length + 1
  | _ => self.domain.labels.length

/-- The rule matches the labels of a host. -/
def Rule.Matches (self : Rule) (host : List Bytes) : Prop :=
  self.domain.labels <:+ host ∧ self.labelCount ≤ host.length

instance (rule : Rule) (host : List Bytes) : Decidable (rule.Matches host) :=
  inferInstanceAs (Decidable (_ ∧ _))

/-! ## §2. The algorithm. -/

/-- The most labels of a rule. -/
def mostLabels (rules : List Rule) : Option Nat := (rules.map (·.labelCount)).max?

/-- The number of labels of the public suffix, by the prevailing rule. -/
def suffixLength (rules : List Rule) (host : List Bytes) : Option Nat :=
  let matching := rules.filter fun rule => rule.Matches host
  match mostLabels (matching.filter fun rule => rule.kind = .exception) with
  | some n => some (n - 1)
  | none => mostLabels matching

/-- The last `n` labels. -/
def lastLabels (n : Nat) (host : List Bytes) : List Bytes := host.drop (host.length - n)

/-- The labels of the public suffix. -/
def publicSuffixLabels (rules : List Rule) (host : List Bytes) : Option (List Bytes) :=
  match suffixLength rules host with
  | none => none
  | some 0 => none
  | some (n + 1) => some (lastLabels (n + 1) host)

/-! ## §3. The prevailing rule. -/

section Prevailing

variable (rules : List Rule)

/-- A rule of this kind names this domain. -/
def named (kind : RuleKind) (x : List Bytes) : Bool :=
  rules.any fun rule => rule.kind = kind && rule.domain.labels = x

/-- A plain or a wildcard rule matches the whole of `x`. -/
def covered (x : List Bytes) : Bool := named rules .plain x || named rules .wildcard x.tail

variable {rules}

theorem named_iff {kind : RuleKind} {x : List Bytes} :
    named rules kind x = true ↔ ∃ rule ∈ rules, rule.kind = kind ∧ rule.domain.labels = x := by
  simp [named]

theorem not_named_nil (kind : RuleKind) : ¬named rules kind [] = true := by
  rw [named_iff]
  rintro ⟨rule, _, _, hnil⟩
  exact rule.domain.labels_ne hnil

theorem Rule.labelCount_exception {rule : Rule} (h : rule.kind = .exception) :
    rule.labelCount = rule.domain.labels.length := by
  unfold Rule.labelCount
  rw [h]

/-- What a rule of another kind matches, in full. -/
theorem covered_of_matches {rule : Rule} {host : List Bytes} (hmem : rule ∈ rules)
    (hmatches : rule.Matches host) (hkind : rule.kind ≠ .exception) :
    ∃ x, x <:+ host ∧ x.length = rule.labelCount ∧ covered rules x = true := by
  obtain ⟨hsuffix, hcount⟩ := hmatches
  unfold Rule.labelCount at hcount ⊢
  unfold covered
  cases hk : rule.kind with
  | exception => exact absurd hk hkind
  | plain =>
      refine ⟨rule.domain.labels, hsuffix, rfl, ?_⟩
      rw [Bool.or_eq_true, named_iff]
      exact Or.inl ⟨rule, hmem, hk, rfl⟩
  | wildcard =>
      rw [hk] at hcount
      obtain ⟨front, hfront⟩ := hsuffix
      have hne : front ≠ [] := by
        rintro rfl
        rw [List.nil_append] at hfront
        rw [hfront] at hcount
        exact absurd hcount (by simp)
      refine ⟨front.getLast hne :: rule.domain.labels, ⟨front.dropLast, ?_⟩, rfl, ?_⟩
      · rw [← hfront, ← List.singleton_append, ← List.append_assoc,
          List.dropLast_append_getLast]
      · rw [Bool.or_eq_true]
        exact Or.inr (named_iff.mpr ⟨rule, hmem, hk, rfl⟩)

theorem matches_of_covered {x host : List Bytes} (hx : x <:+ host)
    (h : covered rules x = true) :
    ∃ rule ∈ rules, rule.Matches host ∧ rule.labelCount = x.length := by
  unfold covered at h
  rw [Bool.or_eq_true, named_iff, named_iff] at h
  have hlen := hx.length_le
  rcases h with ⟨rule, hmem, hkind, hdomain⟩ | ⟨rule, hmem, hkind, hdomain⟩
  · have hcount : rule.labelCount = x.length := by
      unfold Rule.labelCount
      rw [hkind, hdomain]
    refine ⟨rule, hmem, ⟨hdomain ▸ hx, ?_⟩, hcount⟩
    omega
  · have hpos : x ≠ [] := by
      rintro rfl
      exact rule.domain.labels_ne hdomain
    have hcount : rule.labelCount = x.length := by
      unfold Rule.labelCount
      rw [hkind, hdomain]
      simp only [List.length_tail]
      have := List.length_pos_iff.mpr hpos
      omega
    refine ⟨rule, hmem, ⟨?_, ?_⟩, hcount⟩
    · rw [hdomain]
      exact (List.tail_suffix x).trans hx
    · omega

theorem lastLabels_of_suffix {x host : List Bytes} (h : x <:+ host) :
    lastLabels x.length host = x := by
  obtain ⟨front, rfl⟩ := h
  unfold lastLabels
  rw [List.length_append, Nat.add_sub_cancel, List.drop_left]

theorem lastLabels_suffix (n : Nat) (host : List Bytes) : lastLabels n host <:+ host :=
  List.drop_suffix _ host

theorem length_lastLabels {n : Nat} {host : List Bytes} (hn : n ≤ host.length) :
    (lastLabels n host).length = n := by
  unfold lastLabels
  rw [List.length_drop]
  omega

theorem lastLabels_succ {n : Nat} {host : List Bytes} (hn : n < host.length) :
    ∃ label, lastLabels (n + 1) host = label :: lastLabels n host := by
  unfold lastLabels
  have hlt : host.length - (n + 1) < host.length := by omega
  refine ⟨host[host.length - (n + 1)], ?_⟩
  rw [List.drop_eq_getElem_cons hlt]
  congr 2
  omega

theorem mostLabels_eq_some_iff {n : Nat} :
    mostLabels rules = some n
      ↔ (∃ rule ∈ rules, rule.labelCount = n) ∧ ∀ rule ∈ rules, rule.labelCount ≤ n := by
  unfold mostLabels
  rw [List.max?_eq_some_iff, List.mem_map, List.forall_mem_map]

theorem mostLabels_eq_none_iff : mostLabels rules = none ↔ rules = [] := by
  unfold mostLabels
  rw [List.max?_eq_none_iff, List.map_eq_nil_iff]

/-- The exceptions that match, and the longest of their domains. -/
theorem mostLabels_exceptions {host : List Bytes} :
    mostLabels ((rules.filter fun rule => rule.Matches host).filter
        fun rule => rule.kind = .exception)
      = (longestSuffix (named rules .exception) host).map List.length := by
  -- an exception matches as soon as its domain is a suffix of the host
  have hmem : ∀ rule, rule ∈ (rules.filter fun rule => rule.Matches host).filter
        (fun rule => rule.kind = .exception)
      ↔ rule ∈ rules ∧ rule.domain.labels <:+ host ∧ rule.kind = .exception := by
    intro rule
    simp only [List.mem_filter, decide_eq_true_eq, and_assoc]
    refine and_congr_right fun _ => ?_
    constructor
    · rintro ⟨hmatches, hkind⟩
      exact ⟨hmatches.1, hkind⟩
    · rintro ⟨hsuffix, hkind⟩
      refine ⟨⟨hsuffix, ?_⟩, hkind⟩
      rw [Rule.labelCount_exception hkind]
      exact hsuffix.length_le
  cases he : longestSuffix (named rules .exception) host with
  | none =>
      rw [longestSuffix_eq_none_iff] at he
      rw [Option.map_none, mostLabels_eq_none_iff, List.eq_nil_iff_forall_not_mem]
      intro rule hrule
      obtain ⟨hin, hsuffix, hkind⟩ := (hmem rule).mp hrule
      exact he _ hsuffix rule.domain.labels_ne (named_iff.mpr ⟨rule, hin, hkind, rfl⟩)
  | some e =>
      obtain ⟨⟨hsuffix, -, hnamed⟩, hlongest⟩ := (longestSuffix_eq_some_iff _ _ _).mp he
      rw [Option.map_some, mostLabels_eq_some_iff]
      constructor
      · obtain ⟨rule, hin, hkind, rfl⟩ := named_iff.mp hnamed
        exact ⟨rule, (hmem rule).mpr ⟨hin, hsuffix, hkind⟩, Rule.labelCount_exception hkind⟩
      · intro rule hrule
        obtain ⟨hin, hsuffix', hkind⟩ := (hmem rule).mp hrule
        rw [Rule.labelCount_exception hkind]
        by_contra hlt
        exact hlongest _ hsuffix' (Nat.lt_of_not_le hlt)
          (named_iff.mpr ⟨rule, hin, hkind, rfl⟩)

/-- **Without an exception** the public suffix is the longest suffix that a
rule matches as a whole. -/
theorem publicSuffixLabels_of_no_exception {host : List Bytes}
    (h : longestSuffix (named rules .exception) host = none) :
    publicSuffixLabels rules host = longestSuffix (covered rules) host := by
  have hno := (longestSuffix_eq_none_iff _ _).mp h
  -- every other rule that matches covers a suffix of its own length
  have hcovered : ∀ rule ∈ rules, rule.Matches host →
      ∃ x, x <:+ host ∧ x.length = rule.labelCount ∧ covered rules x = true := by
    intro rule hmem hmatches
    apply covered_of_matches hmem hmatches
    intro hkind
    exact hno _ hmatches.1 rule.domain.labels_ne (named_iff.mpr ⟨rule, hmem, hkind, rfl⟩)
  unfold publicSuffixLabels suffixLength
  simp only [mostLabels_exceptions, h, Option.map_none]
  -- so the rule with the most labels covers the longest suffix
  cases hlongest : longestSuffix (covered rules) host with
  | none =>
      have hnone : mostLabels (rules.filter fun rule => rule.Matches host) = none := by
        rw [mostLabels_eq_none_iff, List.eq_nil_iff_forall_not_mem]
        intro rule hrule
        obtain ⟨hmem, hmatches⟩ := List.mem_filter.mp hrule
        obtain ⟨x, hx, hlen, hcov⟩ := hcovered rule hmem (of_decide_eq_true hmatches)
        refine (longestSuffix_eq_none_iff _ _).mp hlongest x hx ?_ hcov
        rintro rfl
        unfold covered at hcov
        rw [Bool.or_eq_true] at hcov
        rcases hcov with hcov | hcov <;> exact not_named_nil _ hcov
      rw [hnone]
  | some x =>
      obtain ⟨⟨hx, hne, hcov⟩, hmax⟩ := (longestSuffix_eq_some_iff _ _ _).mp hlongest
      have hsome : mostLabels (rules.filter fun rule => rule.Matches host)
          = some x.length := by
        rw [mostLabels_eq_some_iff]
        constructor
        · obtain ⟨rule, hmem, hmatches, hcount⟩ := matches_of_covered hx hcov
          exact ⟨rule, List.mem_filter.mpr ⟨hmem, decide_eq_true hmatches⟩, hcount⟩
        · intro rule hrule
          obtain ⟨hmem, hmatches⟩ := List.mem_filter.mp hrule
          obtain ⟨y, hy, hlen, hcov'⟩ := hcovered rule hmem (of_decide_eq_true hmatches)
          by_contra hlt
          exact hmax y hy (by omega) hcov'
      obtain ⟨n, hn⟩ : ∃ n, x.length = n + 1 :=
        Nat.exists_eq_succ_of_ne_zero (fun h0 => hne (List.length_eq_zero_iff.mp h0))
      rw [hsome, hn]
      show some (lastLabels (n + 1) host) = some x
      rw [← hn, lastLabels_of_suffix hx]

/-- **With an exception** it is what follows the first label of the longest
one. -/
theorem publicSuffixLabels_of_exception {host e : List Bytes}
    (h : longestSuffix (named rules .exception) host = some e) :
    publicSuffixLabels rules host = if e.tail = [] then none else some e.tail := by
  obtain ⟨⟨hsuffix, hne, -⟩, -⟩ := (longestSuffix_eq_some_iff _ _ _).mp h
  unfold publicSuffixLabels suffixLength
  simp only [mostLabels_exceptions, h, Option.map_some]
  obtain ⟨label, ls, rfl⟩ := List.exists_cons_of_ne_nil hne
  cases ls with
  | nil => rfl
  | cons label' ls =>
      have hls : label' :: ls <:+ host := (List.suffix_cons _ _).trans hsuffix
      show some (lastLabels (label' :: ls).length host) = _
      rw [lastLabels_of_suffix hls, List.tail_cons, if_neg (List.cons_ne_nil label' ls)]

/-! ## §4. A test of a suffix and its parent. -/

variable (rules) in
/-- A rule names it, and none makes an exception of it; or a wildcard rule
names what follows its first label. -/
def Accepts (x : List Bytes) : Bool :=
  if rules.any fun rule => rule.domain.labels = x then !named rules .exception x
  else named rules .wildcard x.tail

variable (rules) in
/-- **Where the longest accepted suffix is the public suffix.** -/
def Agrees (host : List Bytes) : Prop :=
  match longestSuffix (named rules .exception) host with
  | none => named rules .wildcard host = true → covered rules host = true
  | some e =>
      (∀ x, x <:+ host → e.length < x.length →
        ¬covered rules x = true ∧ ¬named rules .wildcard x = true)
      ∧ (e.tail ≠ [] → Accepts rules e.tail = true)

/-- Where no rule makes an exception of it, what is accepted is what a rule
matches as a whole, or the domain of a wildcard rule. -/
theorem accepts_iff {x : List Bytes} (h : ¬named rules .exception x = true) :
    Accepts rules x = true
      ↔ covered rules x = true ∨ named rules .wildcard x = true := by
  unfold Accepts covered
  rw [Bool.or_eq_true]
  split
  · next hlisted =>
      rw [Bool.not_eq_true] at h
      rw [h, Bool.not_false, eq_self_iff_true, true_iff]
      obtain ⟨rule, hmem, hdomain⟩ := List.any_eq_true.mp hlisted
      have hdomain := of_decide_eq_true hdomain
      cases hkind : rule.kind with
      | plain => exact Or.inl (Or.inl (named_iff.mpr ⟨rule, hmem, hkind, hdomain⟩))
      | wildcard => exact Or.inr (named_iff.mpr ⟨rule, hmem, hkind, hdomain⟩)
      | exception =>
          rw [named_iff.mpr ⟨rule, hmem, hkind, hdomain⟩] at h
          cases h
  · next hunlisted =>
      have hnone : ∀ kind, ¬named rules kind x = true := by
        intro kind hnamed
        obtain ⟨rule, hmem, _, hdomain⟩ := named_iff.mp hnamed
        exact hunlisted (List.any_eq_true.mpr ⟨rule, hmem, decide_eq_true hdomain⟩)
      rw [or_iff_left (hnone .wildcard), or_iff_right (hnone .plain)]

theorem not_accepts_exception {x : List Bytes} (h : named rules .exception x = true) :
    ¬Accepts rules x = true := by
  obtain ⟨rule, hmem, _, hdomain⟩ := named_iff.mp h
  have hlisted : (rules.any fun rule => rule.domain.labels = x) = true :=
    List.any_eq_true.mpr ⟨rule, hmem, decide_eq_true hdomain⟩
  unfold Accepts
  rw [if_pos hlisted, h]
  exact Bool.false_ne_true

/-! ## §5. The two agree. -/

theorem agrees_of_no_exception {host : List Bytes}
    (h : longestSuffix (named rules .exception) host = none) :
    longestSuffix (Accepts rules) host = publicSuffixLabels rules host
      ↔ (named rules .wildcard host = true → covered rules host = true) := by
  have hno := (longestSuffix_eq_none_iff _ _).mp h
  have haccepts : ∀ x, x <:+ host → x ≠ [] → (Accepts rules x = true
      ↔ covered rules x = true ∨ named rules .wildcard x = true) :=
    fun x hx hne => accepts_iff (hno x hx hne)
  rw [publicSuffixLabels_of_no_exception h]
  constructor
  -- a wildcard that covers nothing itself: the walk stops at the whole host
  · intro heq hwild
    by_cases hnil : host = []
    · rw [hnil] at hwild
      exact absurd hwild (not_named_nil _)
    · have hall : longestSuffix (Accepts rules) host = some host := by
        rw [longestSuffix_eq_some_iff]
        refine ⟨⟨List.suffix_refl host, hnil, ?_⟩, ?_⟩
        · exact (haccepts host (List.suffix_refl host) hnil).mpr (Or.inr hwild)
        · intro t ht hlt
          have := ht.length_le
          omega
      rw [hall] at heq
      exact ((longestSuffix_eq_some_iff _ _ _).mp heq.symm).1.2.2
  · intro himp
    -- what the walk accepts last is also the longest that a rule covers
    cases hlongest : longestSuffix (Accepts rules) host with
    | none =>
        symm
        rw [longestSuffix_eq_none_iff] at hlongest ⊢
        intro x hx hne hcov
        exact hlongest x hx hne ((haccepts x hx hne).mpr (Or.inl hcov))
    | some x =>
        symm
        rw [longestSuffix_eq_some_iff] at hlongest ⊢
        obtain ⟨⟨hx, hne, hacc⟩, hmax⟩ := hlongest
        have hlonger : ∀ t, t <:+ host → x.length < t.length → ¬covered rules t = true := by
          intro t ht hlt hcov
          have htne : t ≠ [] := by
            rintro rfl
            exact absurd hlt (Nat.not_lt_zero _)
          exact hmax t ht hlt ((haccepts t ht htne).mpr (Or.inl hcov))
        refine ⟨⟨hx, hne, ?_⟩, hlonger⟩
        rcases (haccepts x hx hne).mp hacc with hcov | hwild
        · exact hcov
        · -- a wildcard's domain with a label in front of it is no longest one
          obtain ⟨front, hfront⟩ := hx
          rcases List.eq_nil_or_concat front with hnil | ⟨front', label, hconcat⟩
          · rw [hnil, List.nil_append] at hfront
            rw [hfront] at hwild ⊢
            exact himp hwild
          · have hsuffix : label :: x <:+ host := by
              refine ⟨front', ?_⟩
              rw [← hfront, hconcat, List.concat_eq_append, List.append_assoc]
              rfl
            have hcov : covered rules (label :: x) = true := by
              unfold covered
              rw [List.tail_cons, hwild, Bool.or_true]
            exact absurd hcov (hlonger _ hsuffix (Nat.lt_succ_self _))

theorem agrees_of_exception {host e : List Bytes}
    (h : longestSuffix (named rules .exception) host = some e) :
    longestSuffix (Accepts rules) host = publicSuffixLabels rules host
      ↔ (∀ x, x <:+ host → e.length < x.length →
          ¬covered rules x = true ∧ ¬named rules .wildcard x = true)
        ∧ (e.tail ≠ [] → Accepts rules e.tail = true) := by
  obtain ⟨⟨hsuffix, hne, hnamed⟩, hmax⟩ := (longestSuffix_eq_some_iff _ _ _).mp h
  have hlonger : ∀ x, x <:+ host → e.length < x.length → (¬Accepts rules x = true
      ↔ ¬covered rules x = true ∧ ¬named rules .wildcard x = true) := by
    intro x hx hlt
    rw [accepts_iff (hmax x hx hlt), not_or]
  have hpos := List.length_pos_iff.mpr hne
  -- the exception itself is not accepted, so only its parent is left
  have hat : ∀ x, x <:+ host → e.length ≤ x.length →
      (∀ y, y <:+ host → e.length < y.length → ¬Accepts rules y = true) →
      ¬Accepts rules x = true := by
    intro x hx hle hlong
    rcases Nat.lt_or_eq_of_le hle with hlt | heq
    · exact hlong x hx hlt
    · have hxe : e = x := (List.suffix_of_suffix_length_le hsuffix hx hle).eq_of_length heq
      rw [← hxe]
      exact not_accepts_exception hnamed
  rw [publicSuffixLabels_of_exception h]
  by_cases htail : e.tail = []
  · rw [if_pos htail, longestSuffix_eq_none_iff]
    constructor
    · intro hnone
      refine ⟨fun x hx hlt => (hlonger x hx hlt).mp ?_, fun hcontra => absurd htail hcontra⟩
      apply hnone x hx
      rintro rfl
      exact absurd hlt (Nat.not_lt_zero _)
    · rintro ⟨hlong, -⟩ x hx hxne
      apply hat x hx
      · have hlen : e.length = 1 := by
          have := congrArg List.length htail
          rw [List.length_tail, List.length_nil] at this
          omega
        rw [hlen]
        exact List.length_pos_iff.mpr hxne
      · intro y hy hlt
        exact (hlonger y hy hlt).mpr (hlong y hy hlt)
  · rw [if_neg htail, longestSuffix_eq_some_iff]
    have htail_suffix : e.tail <:+ host := (List.tail_suffix e).trans hsuffix
    constructor
    · rintro ⟨⟨-, -, hacc⟩, hnot⟩
      refine ⟨fun x hx hlt => (hlonger x hx hlt).mp (hnot x hx ?_), fun _ => hacc⟩
      rw [List.length_tail]
      omega
    · rintro ⟨hlong, hacc⟩
      refine ⟨⟨htail_suffix, htail, hacc htail⟩, ?_⟩
      intro x hx hlt
      apply hat x hx
      · rw [List.length_tail] at hlt
        omega
      · intro y hy hlt'
        exact (hlonger y hy hlt').mpr (hlong y hy hlt')

/-- **The longest accepted suffix is the public suffix** exactly where the
rules agree on it. -/
theorem longestSuffix_accepts_iff (host : List Bytes) :
    longestSuffix (Accepts rules) host = publicSuffixLabels rules host
      ↔ Agrees rules host := by
  unfold Agrees
  cases h : longestSuffix (named rules .exception) host with
  | none => exact agrees_of_no_exception h
  | some e => exact agrees_of_exception h

/-- The prevailing rule is no longer than the host. -/
theorem suffixLength_le {host : List Bytes} {n : Nat} (h : suffixLength rules host = some n) :
    n ≤ host.length := by
  have hle : ∀ (l : List Rule) (m : Nat), (∀ rule ∈ l, rule.labelCount ≤ host.length) →
      mostLabels l = some m → m ≤ host.length := by
    intro l m hl hm
    obtain ⟨⟨rule, hmem, hcount⟩, _⟩ := mostLabels_eq_some_iff.mp hm
    rw [← hcount]
    exact hl rule hmem
  have hmatching : ∀ rule ∈ rules.filter (fun rule => rule.Matches host),
      rule.labelCount ≤ host.length :=
    fun rule hrule => (of_decide_eq_true (List.mem_filter.mp hrule).2).2
  simp only [suffixLength] at h
  split at h
  · next m hm =>
      cases h
      have := hle _ m (fun rule hrule => hmatching rule (List.mem_filter.mp hrule).1) hm
      omega
  · exact hle _ n hmatching h

/-- The public suffix is a suffix, and not empty. -/
theorem publicSuffixLabels_suffix {host x : List Bytes}
    (h : publicSuffixLabels rules host = some x) : x <:+ host ∧ x ≠ [] := by
  unfold publicSuffixLabels at h
  split at h
  · cases h
  · cases h
  · next n hn =>
      cases h
      refine ⟨lastLabels_suffix _ host, ?_⟩
      rw [← List.length_pos_iff, length_lastLabels (suffixLength_le hn)]
      exact Nat.succ_pos n

end Prevailing

end Libwebauthn.Psl
