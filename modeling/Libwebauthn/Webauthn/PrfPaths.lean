/-
  Libwebauthn.Webauthn.PrfPaths — the two readings of a PRF input
  (`convert_prf_to_native` and `prf_to_hmac_input` of
  `src/proto/ctap2/model/get_assertion.rs`).

  Both walk the `evalByCredential` hash map, in an order that differs from run
  to run.  One looks at every key; the other stops at the first that names a
  listed credential, before it has seen the keys behind it.

    • `findPrfEntry_of_decodes`, `nativeEvalByCredential_of_decodes` — what
      the walks come to when every key decodes;
    • `pathsAgree_iff` — when the two agree, in every order.
-/
import Libwebauthn.Webauthn.CanonicalRequests

namespace Libwebauthn

/-- The error of a computation that failed. -/
def failure {ε α : Type} : Except ε α → Option ε
  | .error e => some e
  | .ok _ => none

/-! ## §1. The walks. -/

namespace Ctap2GetAssertionRequestExtensions

variable (crypto : Crypto) (allow : List Ctap2PublicKeyCredentialDescriptor)

/-- The credential id that a key of `evalByCredential` encodes. -/
def decodedKey (key : String) : Option Bytes :=
  if key = "" then none else crypto.base64UrlDecode key

/-- The credential is listed. -/
def listed (id : Bytes) : Bool := allow.any fun cred => cred.id == id

/-- The key of an entry is the id of a listed credential. -/
def named (entry : String × PrfInputValue) : Bool :=
  (decodedKey crypto entry.1).any (listed allow)

/-- All keys of the map decode. -/
def Decodes (entries : List (String × PrfInputValue)) : Prop :=
  ∀ entry ∈ entries, (decodedKey crypto entry.1).isSome = true

variable {crypto allow} {key : String} {id : Bytes} {value : PrfInputValue}
  {entries : List (String × PrfInputValue)}

/-- A key that does not decode stops the search. -/
theorem findPrfEntry_of_none (hkey : decodedKey crypto key = none) :
    findPrfEntry crypto allow ((key, value) :: entries) = .error .syntaxError := by
  unfold decodedKey at hkey
  unfold findPrfEntry
  split at hkey
  next hempty => rw [if_pos hempty]
  next hempty => rw [if_neg hempty, hkey]

/-- One that decodes is taken when it names a listed credential, and passed
over else. -/
theorem findPrfEntry_of_some (hkey : decodedKey crypto key = some id) :
    findPrfEntry crypto allow ((key, value) :: entries)
      = if listed allow id then .ok (some value) else findPrfEntry crypto allow entries := by
  unfold decodedKey at hkey
  rw [findPrfEntry]
  split at hkey
  · cases hkey
  next hempty =>
    rw [if_neg hempty, hkey]
    dsimp only
    rw [List.isSome_find?]
    rfl

/-- A key that does not decode stops the conversion, wherever it stands. -/
theorem nativeEvalByCredential_of_none (hkey : decodedKey crypto key = none) :
    nativeEvalByCredential crypto allow ((key, value) :: entries) = .error .syntaxError := by
  unfold decodedKey at hkey
  unfold nativeEvalByCredential
  split at hkey
  next hempty => rw [if_pos hempty]
  next hempty => rw [if_neg hempty, hkey]

/-- One that decodes is converted when it names a listed credential. -/
theorem nativeEvalByCredential_of_some (hkey : decodedKey crypto key = some id) :
    nativeEvalByCredential crypto allow ((key, value) :: entries)
      = (nativeEvalByCredential crypto allow entries).map fun rest =>
          if listed allow id && !rest.any (fun entry => entry.1 == id) then
            (id, value.prfSalts crypto) :: rest
          else rest := by
  unfold decodedKey at hkey
  rw [nativeEvalByCredential]
  split at hkey
  · cases hkey
  next hempty =>
    rw [if_neg hempty, hkey]
    cases nativeEvalByCredential crypto allow entries with
    | error e => rfl
    | ok rest =>
        show (if _ then _ else _) = Except.ok (if _ then _ else _)
        unfold listed
        split <;> rfl

theorem named_iff {entry : String × PrfInputValue} : named crypto allow entry = true
    ↔ ∃ id, decodedKey crypto entry.1 = some id ∧ listed allow id = true :=
  Option.any_eq_true _ _

/-- A listed credential at the head ends the search. -/
theorem findPrfEntry_of_named {entry : String × PrfInputValue}
    (hnamed : named crypto allow entry = true) :
    findPrfEntry crypto allow (entry :: entries) = .ok (some entry.2) := by
  obtain ⟨id, hkey, hlisted⟩ := named_iff.mp hnamed
  rw [findPrfEntry_of_some hkey, if_pos hlisted]

/-- When every key decodes, the search finds the first listed credential. -/
theorem findPrfEntry_of_decodes (hall : Decodes crypto entries) :
    findPrfEntry crypto allow entries
      = .ok ((entries.find? (named crypto allow)).map (·.2)) := by
  induction entries with
  | nil => rfl
  | cons entry entries ih =>
      obtain ⟨id, hkey⟩ := Option.isSome_iff_exists.mp (hall entry List.mem_cons_self)
      have hnamed : named crypto allow entry = listed allow id := by
        unfold named
        rw [hkey, Option.any_some]
      rw [findPrfEntry_of_some hkey, List.find?_cons, hnamed]
      cases listed allow id with
      | true => rfl
      | false => exact ih fun entry hmem => hall entry (List.mem_cons_of_mem _ hmem)

/-- With no listed credential on the way, a key that does not decode is met. -/
theorem findPrfEntry_of_not_decodes (hnone : ∀ entry ∈ entries, named crypto allow entry = false)
    (hbad : ¬Decodes crypto entries) :
    findPrfEntry crypto allow entries = .error .syntaxError := by
  induction entries with
  | nil => exact absurd (fun entry hmem => absurd hmem List.not_mem_nil) hbad
  | cons entry entries ih =>
      cases hkey : decodedKey crypto entry.1 with
      | none => exact findPrfEntry_of_none hkey
      | some id =>
          have hnamed : listed allow id = false := by
            have hentry := hnone entry List.mem_cons_self
            unfold named at hentry
            rwa [hkey, Option.any_some] at hentry
          rw [findPrfEntry_of_some hkey, hnamed, if_neg (by decide)]
          refine ih (fun entry hmem => hnone entry (List.mem_cons_of_mem _ hmem)) fun hall => ?_
          refine hbad fun other hmem => ?_
          rcases List.mem_cons.mp hmem with rfl | hmem
          · rw [hkey]
            rfl
          · exact hall other hmem

/-- The conversion looks at every key. -/
theorem nativeEvalByCredential_of_not_decodes (hbad : ¬Decodes crypto entries) :
    nativeEvalByCredential crypto allow entries = .error .syntaxError := by
  induction entries with
  | nil => exact absurd (fun entry hmem => absurd hmem List.not_mem_nil) hbad
  | cons entry entries ih =>
      cases hkey : decodedKey crypto entry.1 with
      | none => exact nativeEvalByCredential_of_none hkey
      | some id =>
          have hrest : ¬Decodes crypto entries := by
            intro hall
            refine hbad fun other hmem => ?_
            rcases List.mem_cons.mp hmem with rfl | hmem
            · rw [hkey]
              rfl
            · exact hall other hmem
          rw [nativeEvalByCredential_of_some hkey, ih hrest]
          rfl

/-- What is converted when every key decodes: the listed credentials, each
with the salts of an entry that names it. -/
structure Converted (crypto : Crypto) (allow : List Ctap2PublicKeyCredentialDescriptor)
    (entries : List (String × PrfInputValue)) (converted : List (Bytes × Ctap2PrfSalts)) :
    Prop where
  sound : ∀ item ∈ converted, ∃ entry ∈ entries, named crypto allow entry = true
    ∧ decodedKey crypto entry.1 = some item.1 ∧ item.2 = entry.2.prfSalts crypto
  complete : ∀ entry ∈ entries, named crypto allow entry = true →
    ∃ item ∈ converted, decodedKey crypto entry.1 = some item.1

/-- Where all keys decode, the conversion goes through and keeps what names a
listed credential. -/
theorem nativeEvalByCredential_of_decodes (allow : List Ctap2PublicKeyCredentialDescriptor)
    (hall : Decodes crypto entries) :
    ∃ converted, nativeEvalByCredential crypto allow entries = .ok converted
      ∧ Converted crypto allow entries converted := by
  induction entries with
  | nil =>
      exact ⟨[], rfl, fun _ h => absurd h List.not_mem_nil, fun _ h => absurd h List.not_mem_nil⟩
  | cons entry entries ih =>
      obtain ⟨rest, hrest, hsound, hcomplete⟩ :=
        ih fun entry hmem => hall entry (List.mem_cons_of_mem _ hmem)
      obtain ⟨id, hkey⟩ := Option.isSome_iff_exists.mp (hall entry List.mem_cons_self)
      have hnamed : named crypto allow entry = listed allow id := by
        unfold named
        rw [hkey, Option.any_some]
      -- the entries behind keep what they have in `rest`
      have hbehind : ∀ item ∈ rest, ∃ other ∈ entry :: entries, named crypto allow other = true
          ∧ decodedKey crypto other.1 = some item.1 ∧ item.2 = other.2.prfSalts crypto := by
        intro item hitem
        obtain ⟨other, hother, hfacts⟩ := hsound item hitem
        exact ⟨other, List.mem_cons_of_mem _ hother, hfacts⟩
      rw [nativeEvalByCredential_of_some hkey, hrest]
      by_cases hnew : (listed allow id && !rest.any (fun entry => entry.1 == id)) = true
      · refine ⟨(id, entry.2.prfSalts crypto) :: rest, ?_, fun item hitem => ?_,
          fun other hother hlisted => ?_⟩
        · show Except.ok (if _ then _ else _) = _
          rw [if_pos hnew]
        · rcases List.mem_cons.mp hitem with rfl | hitem
          · refine ⟨entry, List.mem_cons_self, ?_, hkey, rfl⟩
            rw [hnamed]
            exact (Bool.and_eq_true _ _ ▸ hnew).1
          · exact hbehind item hitem
        · rcases List.mem_cons.mp hother with rfl | hother
          · exact ⟨_, List.mem_cons_self, hkey⟩
          · obtain ⟨item, hitem, hid⟩ := hcomplete other hother hlisted
            exact ⟨item, List.mem_cons_of_mem _ hitem, hid⟩
      · refine ⟨rest, ?_, hbehind, fun other hother hlisted => ?_⟩
        · show Except.ok (if _ then _ else _) = _
          rw [if_neg hnew]
        · rcases List.mem_cons.mp hother with rfl | hother
          · -- its credential has an entry already
            rw [hnamed] at hlisted
            rw [hlisted, Bool.true_and, Bool.not_eq_true, Bool.not_eq_false', List.any_eq_true]
              at hnew
            obtain ⟨item, hitem, hid⟩ := hnew
            exact ⟨item, hitem, hkey.trans (congrArg some (beq_iff_eq.mp hid).symm)⟩
          · exact hcomplete other hother hlisted

/-! ## §2. The order of the walks. -/

theorem Decodes.perm {entries' : List (String × PrfInputValue)} (hperm : entries'.Perm entries)
    (h : Decodes crypto entries) : Decodes crypto entries' :=
  fun entry hmem => h entry (hperm.mem_iff.mp hmem)

/-- The entries of listed credentials are hashed to the same salts. -/
def SameSalts (crypto : Crypto) (allow : List Ctap2PublicKeyCredentialDescriptor)
    (entries : List (String × PrfInputValue)) : Prop :=
  ∀ entry ∈ entries, named crypto allow entry = true →
    ∀ other ∈ entries, named crypto allow other = true →
      other.2.toHmacSecretInput crypto = entry.2.toHmacSecretInput crypto

theorem SameSalts.perm {entries' : List (String × PrfInputValue)} (hperm : entries'.Perm entries)
    (h : SameSalts crypto allow entries) : SameSalts crypto allow entries' :=
  fun entry hmem hnamed other hother hnamed' =>
    h entry (hperm.mem_iff.mp hmem) hnamed other (hperm.mem_iff.mp hother) hnamed'

/-- What is converted does not depend on the order of the map. -/
theorem Converted.subset {entries' : List (String × PrfInputValue)}
    {converted converted' : List (Bytes × Ctap2PrfSalts)}
    (h : Converted crypto allow entries converted)
    (h' : Converted crypto allow entries' converted') (hperm : entries.Perm entries')
    (hsame : SameSalts crypto allow entries') : converted ⊆ converted' := by
  intro item hitem
  obtain ⟨entry, hentry, hnamed, hid, hsalts⟩ := h.sound item hitem
  have hentry' := hperm.mem_iff.mp hentry
  obtain ⟨item', hitem', hid'⟩ := h'.complete entry hentry' hnamed
  obtain ⟨other, hother, hnamed', -, hsalts'⟩ := h'.sound item' hitem'
  have hkey : item'.1 = item.1 := Option.some.inj (hid'.symm.trans hid)
  have hvalue : item'.2 = item.2 := by
    rw [hsalts, hsalts']
    unfold PrfInputValue.prfSalts
    rw [hsame entry hentry' hnamed other hother hnamed']
  rw [← Prod.ext hkey hvalue]
  exact hitem'

theorem bytesLe_iff {a b : Bytes} :
    bytesLe a b = true ↔ a.map UInt8.toNat ≤ b.map UInt8.toNat := by
  simp [bytesLe]

theorem bytesLe_antisymm {a b : Bytes} (hab : bytesLe a b = true) (hba : bytesLe b a = true) :
    a = b :=
  List.map_injective_iff.mpr (fun _ _ => UInt8.toNat_inj.mp)
    (le_antisymm (bytesLe_iff.mp hab) (bytesLe_iff.mp hba))

/-- The map that is built of converted entries. -/
def builtMap (converted : List (Bytes × Ctap2PrfSalts)) : List (Bytes × Ctap2PrfSalts) :=
  converted.mergeSort fun a b => bytesLe a.1 b.1

/-- The map that is built is sorted by its keys. -/
theorem pairwise_builtMap (converted : List (Bytes × Ctap2PrfSalts)) :
    (builtMap converted).Pairwise fun a b => bytesLe a.1 b.1 = true := by
  unfold builtMap
  refine List.pairwise_mergeSort ?_ ?_ converted
  · intro a b c hab hbc
    exact bytesLe_iff.mpr (le_trans (bytesLe_iff.mp hab) (bytesLe_iff.mp hbc))
  · intro a b
    rw [Bool.or_eq_true, bytesLe_iff, bytesLe_iff]
    exact le_total _ _

/-- A map does not show the order its entries were inserted in. -/
theorem builtMap_eq_of_perm {converted converted' : List (Bytes × Ctap2PrfSalts)}
    (hkeys : (converted'.map Prod.fst).Nodup) (hperm : converted.Perm converted') :
    builtMap converted = builtMap converted' := by
  have hsorted := List.mergeSort_perm converted fun a b => bytesLe a.1 b.1
  have hsorted' := List.mergeSort_perm converted' fun a b => bytesLe a.1 b.1
  refine List.Perm.eq_of_pairwise ?_ (pairwise_builtMap converted) (pairwise_builtMap converted')
    (hsorted.trans (hperm.trans hsorted'.symm))
  intro a b ha hb hab hba
  exact List.inj_on_of_nodup_map hkeys (hperm.mem_iff.mp (hsorted.mem_iff.mp ha))
    (hsorted'.mem_iff.mp hb) (bytesLe_antisymm hab hba)

/-- **The native path** does not depend on the order, where entries for one
credential have one salt. -/
theorem builtMap_perm {entries' : List (String × PrfInputValue)} (hperm : entries'.Perm entries)
    (hsame : SameSalts crypto allow entries) :
    (nativeEvalByCredential crypto allow entries').map builtMap
      = (nativeEvalByCredential crypto allow entries).map builtMap := by
  by_cases hall : Decodes crypto entries
  · obtain ⟨converted, hconverted, hspec⟩ := nativeEvalByCredential_of_decodes allow hall
    obtain ⟨converted', hconverted', hspec'⟩ :=
      nativeEvalByCredential_of_decodes allow (hall.perm hperm)
    have hkeys := nodup_nativeEvalByCredential hconverted
    have hkeys' := nodup_nativeEvalByCredential hconverted'
    rw [hconverted, hconverted']
    refine congrArg Except.ok (builtMap_eq_of_perm hkeys ?_)
    refine (List.perm_ext_iff_of_nodup hkeys'.of_map hkeys.of_map).mpr fun item => ⟨?_, ?_⟩
    · exact fun hmem => hspec'.subset hspec hperm hsame hmem
    · exact fun hmem => hspec.subset hspec' hperm.symm (hsame.perm hperm) hmem
  · rw [nativeEvalByCredential_of_not_decodes hall,
      nativeEvalByCredential_of_not_decodes fun hall' => hall (hall'.perm hperm.symm)]

/-- Only the entries of listed credentials matter to the search. -/
theorem findPrfEntry_perm {entries' : List (String × PrfInputValue)} (hperm : entries'.Perm entries)
    (hall : Decodes crypto entries) (hsame : SameSalts crypto allow entries) :
    (findPrfEntry crypto allow entries').map (Option.map (PrfInputValue.toHmacSecretInput crypto))
      = (findPrfEntry crypto allow entries).map
        (Option.map (PrfInputValue.toHmacSecretInput crypto)) := by
  rw [findPrfEntry_of_decodes hall, findPrfEntry_of_decodes (hall.perm hperm)]
  refine congrArg Except.ok ?_
  rw [Option.map_map, Option.map_map]
  cases hfound : entries.find? (named crypto allow) with
  | none =>
      have hnone : entries'.find? (named crypto allow) = none :=
        List.find?_eq_none.mpr fun entry hmem =>
          List.find?_eq_none.mp hfound entry (hperm.mem_iff.mp hmem)
      rw [hnone]
  | some entry =>
      have hmem := List.mem_of_find?_eq_some hfound
      have hsome : (entries'.find? (named crypto allow)).isSome = true :=
        List.find?_isSome.mpr ⟨entry, hperm.mem_iff.mpr hmem, List.find?_some hfound⟩
      obtain ⟨other, hother⟩ := Option.isSome_iff_exists.mp hsome
      rw [hother]
      exact congrArg some (hsame entry hmem (List.find?_some hfound) other
        (hperm.mem_iff.mp (List.mem_of_find?_eq_some hother)) (List.find?_some hother))

end Ctap2GetAssertionRequestExtensions

/-! ## §3. The two paths. -/

open Ctap2GetAssertionRequestExtensions

namespace PrfInput

variable (crypto : Crypto) (allow : List Ctap2PublicKeyCredentialDescriptor)
  (ext : Ctap2GetAssertionRequestExtensions) (prf : PrfInput)

/-- The input with its map met in another order. -/
def inOrder (entries : List (String × PrfInputValue)) : PrfInput :=
  { prf with evalByCredential := entries }

/-- `convert_prf_to_native` of an extension that holds this input. -/
def nativePath : Except PlatformError Ctap2GetAssertionRequestExtensions :=
  { ext with hmacOrPrf := some (.prf prf) }.convertPrfToNative crypto allow

/-- `prf_to_hmac_input` of this input. -/
def hmacPath : Except PlatformError (Option HMACGetSecretInput) :=
  prfToHmacInput crypto prf.eval prf.evalByCredential allow

/-- In every order of the map the two paths fail alike, and neither result
depends on the order. -/
structure PathsAgree : Prop where
  failures : ∀ entries, entries.Perm prf.evalByCredential →
    failure ((prf.inOrder entries).nativePath crypto allow ext)
      = failure ((prf.inOrder entries).hmacPath crypto allow)
  native : ∀ entries, entries.Perm prf.evalByCredential →
    (prf.inOrder entries).nativePath crypto allow ext = prf.nativePath crypto allow ext
  hmac : ∀ entries, entries.Perm prf.evalByCredential →
    (prf.inOrder entries).hmacPath crypto allow = prf.hmacPath crypto allow

/-- Where an entry names a listed credential, every key decodes, and the
entries of listed credentials have the same salts. -/
def OrderFree : Prop :=
  (∃ entry ∈ prf.evalByCredential, named crypto allow entry = true) →
    Decodes crypto prf.evalByCredential ∧ SameSalts crypto allow prf.evalByCredential

variable {crypto allow ext prf}

/-- The native path, by what it makes of the map. -/
theorem nativePath_eq : prf.nativePath crypto allow ext
    = if prf.evalByCredential ≠ [] ∧ allow = [] then .error .notSupported
      else ((nativeEvalByCredential crypto allow prf.evalByCredential).map builtMap).map
        fun built =>
          { ext with
            prf := if (prf.eval.map (PrfInputValue.prfSalts crypto)).isSome || !built.isEmpty then
                some ⟨prf.eval.map (PrfInputValue.prfSalts crypto),
                  if built.isEmpty then none else some built⟩
              else ext.prf
            hmacOrPrf := none } := by
  unfold nativePath convertPrfToNative
  dsimp only
  split
  · rfl
  · cases nativeEvalByCredential crypto allow prf.evalByCredential <;> rfl

/-- The emulated path, by what it finds in the map. -/
theorem hmacPath_eq : prf.hmacPath crypto allow
    = if prf.evalByCredential ≠ [] ∧ allow = [] then .error .notSupported
      else ((findPrfEntry crypto allow prf.evalByCredential).map
        (Option.map (PrfInputValue.toHmacSecretInput crypto))).map
          fun found => found.or (prf.eval.map (PrfInputValue.toHmacSecretInput crypto)) := by
  unfold hmacPath prfToHmacInput
  split
  · rfl
  · rcases findPrfEntry crypto allow prf.evalByCredential with e | found
    · rfl
    · cases found <;> rfl

/-- Whoever names a listed credential has a list. -/
theorem allow_ne_nil {entry : String × PrfInputValue}
    (hnamed : named crypto allow entry = true) : allow ≠ [] := by
  obtain ⟨id, -, hlisted⟩ := named_iff.mp hnamed
  intro hnil
  rw [hnil] at hlisted
  cases hlisted

/-- The order in which `entry` is met first. -/
theorem perm_front {entry : String × PrfInputValue} (hmem : entry ∈ prf.evalByCredential) :
    (entry :: prf.evalByCredential.erase entry).Perm prf.evalByCredential :=
  (List.perm_cons_erase hmem).symm

/-- The emulated path takes the first entry that names a listed credential. -/
theorem hmacPath_front {entry : String × PrfInputValue} {entries : List (String × PrfInputValue)}
    (hnamed : named crypto allow entry = true) :
    (prf.inOrder (entry :: entries)).hmacPath crypto allow
      = .ok (some (entry.2.toHmacSecretInput crypto)) := by
  rw [hmacPath_eq, if_neg fun h => allow_ne_nil hnamed h.2]
  show ((findPrfEntry crypto allow (entry :: entries)).map _).map _ = _
  rw [findPrfEntry_of_named hnamed]
  rfl

/-- Paths that agree depend on no order: the native one does not. -/
theorem OrderFree.of_pathsAgree (h : PathsAgree crypto allow ext prf) :
    OrderFree crypto allow prf := by
  intro hexists
  obtain ⟨entry, hmem, hnamed⟩ := hexists
  refine ⟨?_, fun entry hmem hnamed other hother hnamed' => ?_⟩
  · -- an order that meets the listed credential first, where the search succeeds
    by_contra hbad
    have hfailures := h.failures _ (perm_front hmem)
    have hbad' : ¬Decodes crypto (entry :: prf.evalByCredential.erase entry) :=
      fun hall => hbad (hall.perm (perm_front hmem).symm)
    rw [hmacPath_front hnamed, nativePath_eq, if_neg fun h => allow_ne_nil hnamed h.2] at hfailures
    rw [show (prf.inOrder (entry :: prf.evalByCredential.erase entry)).evalByCredential
      = entry :: prf.evalByCredential.erase entry from rfl,
      nativeEvalByCredential_of_not_decodes hbad'] at hfailures
    cases hfailures
  · have hfirst := h.hmac _ (perm_front hmem)
    have hsecond := h.hmac _ (perm_front hother)
    rw [← hfirst, hmacPath_front hnamed, hmacPath_front hnamed'] at hsecond
    exact Option.some.inj (Except.ok.inj hsecond)

/-- Every key decodes and listed credentials have the same salts, or no
listed credential is named and some key does not decode. -/
theorem OrderFree.cases (h : OrderFree crypto allow prf) :
    (Decodes crypto prf.evalByCredential ∧ SameSalts crypto allow prf.evalByCredential)
      ∨ (¬Decodes crypto prf.evalByCredential
        ∧ ∀ entry ∈ prf.evalByCredential, named crypto allow entry = false) := by
  by_cases hexists : ∃ entry ∈ prf.evalByCredential, named crypto allow entry = true
  · exact Or.inl (h hexists)
  · have hnone : ∀ entry ∈ prf.evalByCredential, named crypto allow entry = false :=
      fun entry hmem => Bool.eq_false_iff.mpr fun hnamed => hexists ⟨entry, hmem, hnamed⟩
    by_cases hall : Decodes crypto prf.evalByCredential
    · exact Or.inl ⟨hall, fun entry hmem hnamed => absurd ⟨entry, hmem, hnamed⟩ hexists⟩
    · exact Or.inr ⟨hall, hnone⟩

/-- And conversely, any entry can be met first. -/
theorem PathsAgree.of_orderFree (h : OrderFree crypto allow prf) :
    PathsAgree crypto allow ext prf := by
  have hguard : ∀ {entries}, entries.Perm prf.evalByCredential →
      ((entries ≠ [] ∧ allow = []) ↔ prf.evalByCredential ≠ [] ∧ allow = []) := by
    intro entries hperm
    rw [ne_eq, ← List.length_eq_zero_iff, hperm.length_eq, List.length_eq_zero_iff]
  by_cases hnil : prf.evalByCredential ≠ [] ∧ allow = []
  · -- the first check fails, whatever the keys are
    have hnative : ∀ {entries}, entries.Perm prf.evalByCredential →
        (prf.inOrder entries).nativePath crypto allow ext = .error .notSupported := by
      intro entries hperm
      rw [nativePath_eq]
      exact if_pos ((hguard hperm).mpr hnil)
    have hhmac : ∀ {entries}, entries.Perm prf.evalByCredential →
        (prf.inOrder entries).hmacPath crypto allow = .error .notSupported := by
      intro entries hperm
      rw [hmacPath_eq]
      exact if_pos ((hguard hperm).mpr hnil)
    refine ⟨fun entries hperm => ?_, fun entries hperm => ?_, fun entries hperm => ?_⟩
    · rw [hnative hperm, hhmac hperm]
      rfl
    · rw [hnative hperm, ← hnative (List.Perm.refl _)]
      rfl
    · rw [hhmac hperm, ← hhmac (List.Perm.refl _)]
      rfl
  -- both walks are the same in any order: every key decodes, or none of those before the
  -- first bad one names a credential
  · have hwalks : ∀ {entries}, entries.Perm prf.evalByCredential →
        failure (nativeEvalByCredential crypto allow entries)
            = failure (findPrfEntry crypto allow entries)
          ∧ (nativeEvalByCredential crypto allow entries).map builtMap
            = (nativeEvalByCredential crypto allow prf.evalByCredential).map builtMap
          ∧ (findPrfEntry crypto allow entries).map
              (Option.map (PrfInputValue.toHmacSecretInput crypto))
            = (findPrfEntry crypto allow prf.evalByCredential).map
              (Option.map (PrfInputValue.toHmacSecretInput crypto)) := by
      intro entries hperm
      rcases h.cases with ⟨hall, hsame⟩ | ⟨hbad, hnone⟩
      · refine ⟨?_, builtMap_perm hperm hsame, findPrfEntry_perm hperm hall hsame⟩
        obtain ⟨converted, hconverted, -⟩ :=
          nativeEvalByCredential_of_decodes allow (hall.perm hperm)
        rw [hconverted, findPrfEntry_of_decodes (hall.perm hperm)]
        rfl
      · have hbad' : ¬Decodes crypto entries := fun hall => hbad (hall.perm hperm.symm)
        have hnone' : ∀ entry ∈ entries, named crypto allow entry = false :=
          fun entry hmem => hnone entry (hperm.mem_iff.mp hmem)
        rw [nativeEvalByCredential_of_not_decodes hbad,
          nativeEvalByCredential_of_not_decodes hbad', findPrfEntry_of_not_decodes hnone hbad,
          findPrfEntry_of_not_decodes hnone' hbad']
        exact ⟨rfl, rfl, rfl⟩
    have hskip : ∀ {entries}, entries.Perm prf.evalByCredential →
        ¬((prf.inOrder entries).evalByCredential ≠ [] ∧ allow = []) :=
      fun hperm h => hnil ((hguard hperm).mp h)
    refine ⟨fun entries hperm => ?_, fun entries hperm => ?_, fun entries hperm => ?_⟩
    · obtain ⟨hfailure, -, -⟩ := hwalks hperm
      rw [nativePath_eq, hmacPath_eq, if_neg (hskip hperm), if_neg (hskip hperm)]
      show failure (((nativeEvalByCredential crypto allow entries).map _).map _)
        = failure (((findPrfEntry crypto allow entries).map _).map _)
      cases hn : nativeEvalByCredential crypto allow entries <;>
        cases hf : findPrfEntry crypto allow entries <;> rw [hn, hf] at hfailure <;>
        exact hfailure
    · obtain ⟨-, hnative, -⟩ := hwalks hperm
      rw [nativePath_eq, nativePath_eq, if_neg (hskip hperm), if_neg hnil]
      show ((nativeEvalByCredential crypto allow entries).map builtMap).map _ = _
      rw [hnative]
      rfl
    · obtain ⟨-, -, hhmac⟩ := hwalks hperm
      rw [hmacPath_eq, hmacPath_eq, if_neg (hskip hperm), if_neg hnil]
      show ((findPrfEntry crypto allow entries).map _).map _ = _
      rw [hhmac]
      rfl

/-- **When the two paths agree**: in every order of the map both fail alike
and give the same result, exactly when no entry names a listed credential, or
every key decodes and those entries have the same salts. -/
theorem pathsAgree_iff :
    PathsAgree crypto allow ext prf ↔ OrderFree crypto allow prf :=
  ⟨OrderFree.of_pathsAgree, PathsAgree.of_orderFree⟩

end PrfInput

/-- A listed credential, and a key that is empty. -/
def mixedPrfInput : PrfInput where
  eval := none
  evalByCredential := [("YQ", ⟨[1], none⟩), ("", ⟨[2], none⟩)]

/-- The search stops before the empty key, the conversion rejects it. -/
theorem mixedPrfInput_disagrees :
    ¬mixedPrfInput.PathsAgree base64Crypto [listedCredential 97] {} := by
  intro h
  have hfailures := h.failures _ (List.Perm.refl _)
  revert hfailures
  decide

end Libwebauthn
