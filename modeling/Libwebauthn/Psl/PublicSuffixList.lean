/-
  Libwebauthn.Psl.PublicSuffixList — public suffixes and registrable domains
  (`psl/mod.rs`).

  A string is the list of its UTF-8 bytes; its labels are what stands between
  its full stops.

    • `defaultRegistrableDomain` — the trait's default method, which cuts the
      public suffix off the host and puts one label back in front of it;
    • `defaultRegistrableDomain_eq_some_iff` — the same in labels: the
      public suffix and one more label of the host.
-/
import Libwebauthn.Lib.Bytes
import Libwebauthn.Lib.Labels

namespace Libwebauthn.Psl

/-! ## §1. Labels of a name. -/

/-- `'.'`. -/
def dot : UInt8 := 0x2E

/-- `split('.')`. -/
def labels (name : Bytes) : List Bytes := name.splitOn dot

/-- The labels with full stops between them. -/
def join (labels : List Bytes) : Bytes := [dot].intercalate labels

theorem labels_ne_nil (name : Bytes) : labels name ≠ [] := List.splitOn_ne_nil dot name

/-- A name is its labels, joined. -/
@[simp] theorem join_labels (name : Bytes) : join (labels name) = name :=
  List.intercalate_splitOn dot

/-- Labels without dots can be joined and split again. -/
theorem labels_join {ls : List Bytes} (hls : ls ≠ []) (hdot : ∀ l ∈ ls, dot ∉ l) :
    labels (join ls) = ls :=
  List.splitOn_intercalate dot hdot hls

theorem not_mem_label {name label : Bytes} (h : label ∈ labels name) : dot ∉ label :=
  not_mem_of_mem_splitOn h

theorem labels_inj {xs ys : Bytes} (h : labels xs = labels ys) : xs = ys :=
  splitOn_inj dot h

/-- Labels at the end of a name are those of a name. -/
theorem labels_join_of_suffix {name : Bytes} {ls : List Bytes} (h : ls <:+ labels name)
    (hls : ls ≠ []) : labels (join ls) = ls :=
  labels_join hls fun _ hl => not_mem_label (h.subset hl)

/-- A suffix of the labels is a suffix of the name that begins at a dot. -/
theorem labels_suffix_iff (xs ys : Bytes) :
    labels xs <:+ labels ys ↔ xs = ys ∨ ∃ front, ys = front ++ dot :: xs :=
  splitOn_suffix_iff dot xs ys

/-- A label in front of a name. -/
theorem labels_cons {label : Bytes} (h : dot ∉ label) (name : Bytes) :
    labels (label ++ dot :: name) = label :: labels name :=
  splitOn_cons_label h name

/-- A name splits at each of its dots. -/
theorem labels_append (front name : Bytes) :
    labels (front ++ dot :: name) = labels front ++ labels name :=
  List.splitOn_append_cons_self front name

theorem join_cons (label : Bytes) {ls : List Bytes} (hls : ls ≠ []) :
    join (label :: ls) = label ++ dot :: join ls := by
  unfold join
  rw [List.intercalate_cons_of_ne_nil hls, List.append_assoc]
  rfl

/-! ## §2. The trait. -/

/-- `strip_suffix`. -/
def stripSuffix (tail text : Bytes) : Option Bytes :=
  if tail <:+ text then some (text.take (text.length - tail.length)) else none

/-- `strip_suffix`, by what it leaves. -/
theorem stripSuffix_eq_some_iff (tail text front : Bytes) :
    stripSuffix tail text = some front ↔ text = front ++ tail := by
  unfold stripSuffix
  split
  · next h =>
      obtain ⟨s, rfl⟩ := h
      rw [List.length_append, Nat.add_sub_cancel, List.take_left, Option.some.injEq,
        List.append_left_inj]
  · next h =>
      constructor
      · intro hnone
        cases hnone
      · rintro rfl
        exact absurd (List.suffix_append front tail) h

/-- The default of `PublicSuffixList::registrable_domain`. -/
def defaultRegistrableDomain (publicSuffix : Bytes → Option Bytes) (host : Bytes) :
    Option Bytes := do
  let suffix ← publicSuffix host
  if host = suffix then none
  else
    let front ← stripSuffix suffix host
    let front ← stripSuffix [dot] front
    let lastLabel ← (labels front).getLast?
    some (lastLabel ++ dot :: suffix)

structure PublicSuffixList where
  publicSuffix : Bytes → Option Bytes
  registrableDomain : Bytes → Option Bytes := defaultRegistrableDomain publicSuffix

/-- **In labels**, the registrable domain is the public suffix and one more
label of the host. -/
theorem defaultRegistrableDomain_eq_some_iff (publicSuffix : Bytes → Option Bytes)
    (host domain : Bytes) :
    defaultRegistrableDomain publicSuffix host = some domain
      ↔ ∃ suffix, publicSuffix host = some suffix
        ∧ ∃ label, labels domain = label :: labels suffix
          ∧ labels domain <:+ labels host := by
  unfold defaultRegistrableDomain
  simp only [Option.bind_eq_bind, Option.bind_eq_some_iff]
  refine exists_congr fun suffix => and_congr_right fun _ => ?_
  constructor
  · intro h
    split at h
    · cases h
    · simp only [Option.bind_eq_some_iff, stripSuffix_eq_some_iff, Option.some.injEq] at h
      obtain ⟨_, rfl, front, rfl, label, hlast, rfl⟩ := h
      have hlabel := not_mem_label (List.mem_of_getLast? hlast)
      refine ⟨label, labels_cons hlabel suffix, ?_⟩
      -- the last label in front of the suffix is the one that is kept
      obtain ⟨ls, hls⟩ := List.getLast?_eq_some_iff.mp hlast
      have hhost : labels (front ++ [dot] ++ suffix) = ls ++ label :: labels suffix := by
        rw [List.append_assoc, List.singleton_append, labels_append, hls, List.append_assoc,
          List.singleton_append]
      rw [labels_cons hlabel, hhost]
      exact List.suffix_append _ _
  · rintro ⟨label, hdomain, hsuffix⟩
    have hmem : label ∈ labels domain := by
      rw [hdomain]
      exact List.mem_cons_self
    have hlabel : dot ∉ label := not_mem_label hmem
    have hname : domain = label ++ dot :: suffix := by
      rw [← join_labels domain, hdomain, join_cons label (labels_ne_nil suffix), join_labels]
    have hne : host ≠ suffix := by
      rintro rfl
      have hlen := hsuffix.length_le
      rw [hdomain, List.length_cons] at hlen
      omega
    rw [if_neg hne]
    simp only [Option.bind_eq_some_iff, stripSuffix_eq_some_iff, Option.some.injEq]
    -- the domain is the host itself, or there is more in front of it
    rcases (labels_suffix_iff domain host).mp hsuffix with rfl | ⟨front, rfl⟩
    · refine ⟨label ++ [dot], ?_, label, rfl, label, ?_, hname.symm⟩
      · rw [hname, List.append_assoc]
        rfl
      · unfold labels
        rw [List.splitOn_eq_singleton hlabel]
        rfl
    · refine ⟨front ++ dot :: label ++ [dot], ?_, front ++ dot :: label, rfl, label, ?_,
        hname.symm⟩
      · rw [hname]
        simp only [List.append_assoc, List.cons_append, List.nil_append]
      · have hone : labels label = [label] := List.splitOn_eq_singleton hlabel
        rw [labels_append, hone]
        exact List.getLast?_concat

end Libwebauthn.Psl
