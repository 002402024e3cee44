/-
  Libwebauthn.Ops.Hints — what a site says about the transports it prefers
  (`src/ops/webauthn/hints.rs`).

  Three signals are merged, one after the other, each transport kept where it
  comes first.

    • `pushAbsent_eraseDups` — appending what is absent keeps a list the
      distinct elements of what was appended;
    • `mergeTransportPreference_eq` — the preference is the signals in order of
      precedence, without repetitions, and without the platform authenticator
      where only a hybrid one was hinted at.
-/
import Libwebauthn.Lib.FirstDistinct
import Libwebauthn.Ops.MakeCredential

namespace Libwebauthn

/-! ## §1. Hints. -/

inductive PublicKeyCredentialHint where
  | securityKey
  | clientDevice
  | hybrid
  | unknown
  deriving Repr, DecidableEq

def PublicKeyCredentialHint.fromDomString : String → PublicKeyCredentialHint
  | "security-key" => .securityKey
  | "client-device" => .clientDevice
  | "hybrid" => .hybrid
  | _ => .unknown

inductive AuthenticatorAttachment where
  | platform
  | crossPlatform
  | unknown
  deriving Repr, DecidableEq

def AuthenticatorAttachment.fromDomString : String → AuthenticatorAttachment
  | "platform" => .platform
  | "cross-platform" => .crossPlatform
  | _ => .unknown

/-- A registration with the members that no CTAP request depends on; the
timeout in milliseconds. -/
structure HintedMakeCredentialRequest extends MakeCredentialRequest where
  hints : List PublicKeyCredentialHint
  authenticatorAttachment : Option AuthenticatorAttachment
  attestation : Option String
  timeout : Nat
  deriving Repr, DecidableEq

structure HintedGetAssertionRequest extends GetAssertionRequest where
  hints : List PublicKeyCredentialHint
  timeout : Nat
  deriving Repr, DecidableEq

/-! ## §2. The merge. -/

def pushAbsent (out ts : List Ctap2Transport) : List Ctap2Transport :=
  ts.foldl (fun out t => if t ∈ out then out else out ++ [t]) out

def Ctap2Transport.isOther : Ctap2Transport → Bool
  | .other _ => true
  | _ => false

/-- What a hint stands for. -/
def PublicKeyCredentialHint.transports : PublicKeyCredentialHint → List Ctap2Transport
  | .securityKey => [.usb, .nfc, .ble, .smartCard]
  | .clientDevice => [.internal]
  | .hybrid => [.hybrid]
  | .unknown => []

def AuthenticatorAttachment.transports : AuthenticatorAttachment → List Ctap2Transport
  | .platform => [.internal]
  | .crossPlatform => [.usb, .nfc, .ble, .smartCard, .hybrid]
  | .unknown => []

/-- The attachment only fills gaps. -/
def pushAttachment (out : List Ctap2Transport) :
    Option AuthenticatorAttachment → List Ctap2Transport
  | some attachment => pushAbsent out attachment.transports
  | none => out

def mergeTransportPreference (hints : List PublicKeyCredentialHint)
    (attachment : Option AuthenticatorAttachment) (descriptorTransports : List Ctap2Transport) :
    List Ctap2Transport :=
  let out := hints.foldl (fun out h => pushAbsent out h.transports) []
  let out := pushAttachment out attachment
  let out := descriptorTransports.foldl
    (fun out t => if !t.isOther ∧ t ∉ out then out ++ [t] else out) out
  if .hybrid ∈ hints ∧ .clientDevice ∉ hints then out.filter (· ≠ .internal) else out

def HintedGetAssertionRequest.preferredTransports (self : HintedGetAssertionRequest) :
    List Ctap2Transport :=
  mergeTransportPreference self.hints none (self.allow.flatMap fun d => d.transports.getD [])

def HintedMakeCredentialRequest.preferredTransports (self : HintedMakeCredentialRequest) :
    List Ctap2Transport :=
  mergeTransportPreference self.hints self.authenticatorAttachment []

/-! ## §3. The signals in order. -/

/-- **Appending what is absent** to the distinct elements of a list. -/
theorem pushAbsent_eraseDups (xs ts : List Ctap2Transport) :
    pushAbsent xs.eraseDups ts = (xs ++ ts).eraseDups := by
  unfold pushAbsent
  induction ts generalizing xs with
  | nil => rw [List.append_nil, List.foldl_nil]
  | cons t ts ih =>
      have hstep : (if t ∈ xs.eraseDups then xs.eraseDups else xs.eraseDups ++ [t])
          = (xs ++ [t]).eraseDups := by
        rw [eraseDups_concat]
        exact if_congr List.mem_eraseDups rfl rfl
      rw [List.foldl_cons, hstep, ih, List.append_assoc, List.singleton_append]

theorem pushAttachment_eraseDups (xs : List Ctap2Transport)
    (attachment : Option AuthenticatorAttachment) :
    pushAttachment xs.eraseDups attachment
      = (xs ++ attachment.toList.flatMap (·.transports)).eraseDups := by
  cases attachment with
  | none => rw [Option.toList_none, List.flatMap_nil, List.append_nil, pushAttachment]
  | some attachment =>
      rw [Option.toList_some, List.flatMap_singleton, pushAttachment, pushAbsent_eraseDups]

theorem foldl_pushAbsent (xs : List Ctap2Transport) (hints : List PublicKeyCredentialHint) :
    hints.foldl (fun out h => pushAbsent out h.transports) xs.eraseDups
      = (xs ++ hints.flatMap (·.transports)).eraseDups := by
  induction hints generalizing xs with
  | nil => rw [List.flatMap_nil, List.append_nil, List.foldl_nil]
  | cons h hints ih =>
      rw [List.foldl_cons, pushAbsent_eraseDups, ih, List.flatMap_cons, List.append_assoc]

/-- The loop over the transports of credentials appends those that are known. -/
theorem foldl_descriptors (ts : List Ctap2Transport) :
    ∀ out, ts.foldl (fun out t => if !t.isOther ∧ t ∉ out then out ++ [t] else out) out
      = pushAbsent out (ts.filter (!·.isOther)) := by
  unfold pushAbsent
  induction ts with
  | nil => exact fun _ => rfl
  | cons t ts ih =>
      intro out
      rw [List.foldl_cons, ih, List.filter_cons]
      by_cases hknown : (!t.isOther) = true
      · rw [if_pos hknown, List.foldl_cons]
        by_cases hmem : t ∈ out
        · rw [if_pos hmem, if_neg fun h => h.2 hmem]
        · rw [if_neg hmem, if_pos ⟨hknown, hmem⟩]
      · rw [if_neg hknown, if_neg fun h => hknown h.1]

/-- Everything the site says, hints first and the transports of credentials
last. -/
def signals (hints : List PublicKeyCredentialHint) (attachment : Option AuthenticatorAttachment)
    (descriptorTransports : List Ctap2Transport) : List Ctap2Transport :=
  hints.flatMap (·.transports) ++ attachment.toList.flatMap (·.transports)
    ++ descriptorTransports.filter (!·.isOther)

/-- The hints ask for another device than this one. -/
def Suppressed (hints : List PublicKeyCredentialHint) (t : Ctap2Transport) : Prop :=
  t = .internal ∧ .hybrid ∈ hints ∧ .clientDevice ∉ hints

instance (hints : List PublicKeyCredentialHint) : DecidablePred (Suppressed hints) :=
  fun t => inferInstanceAs (Decidable (t = .internal ∧ _ ∧ _))

/-- **The preference** of a site: its signals in order, each transport where it
comes first. -/
theorem mergeTransportPreference_eq (hints : List PublicKeyCredentialHint)
    (attachment : Option AuthenticatorAttachment) (descriptorTransports : List Ctap2Transport) :
    mergeTransportPreference hints attachment descriptorTransports
      = (signals hints attachment descriptorTransports).eraseDups.filter
          (¬Suppressed hints ·) := by
  have hhints : hints.foldl (fun out h => pushAbsent out h.transports) []
      = (hints.flatMap (·.transports)).eraseDups := foldl_pushAbsent [] hints
  unfold mergeTransportPreference
  dsimp only
  rw [hhints, pushAttachment_eraseDups, foldl_descriptors, pushAbsent_eraseDups]
  show (if _ then _ else _) = (signals hints attachment descriptorTransports).eraseDups.filter _
  by_cases hsuppress : PublicKeyCredentialHint.hybrid ∈ hints
      ∧ PublicKeyCredentialHint.clientDevice ∉ hints
  · rw [if_pos hsuppress]
    refine List.filter_congr fun t _ => decide_eq_decide.mpr (not_congr ?_)
    exact (and_iff_left hsuppress).symm
  · rw [if_neg hsuppress]
    refine (List.filter_eq_self.mpr fun t _ => decide_eq_true ?_).symm
    exact fun h => hsuppress h.2

end Libwebauthn
