/-
  Libwebauthn.Webauthn.CanonicalRequests — the CBOR maps of makeCredential and
  getAssertion requests (`src/proto/ctap2/model/make_credential.rs`,
  `src/proto/ctap2/model/get_assertion.rs`).

  The keys of a record come in the order its fields are declared in; the one
  map with keys of its own, `evalByCredential`, is sorted before it is written.
  A `BTreeMap` has distinct keys (`KeysDistinct`), and so has the map of every
  request the library makes.

    • `canonical_toCbor` — a request is canonical, whatever its fields are;
    • `requests_canonical` — the requests of every run are.
-/
import Libwebauthn.Lib.Canonical
import Libwebauthn.Webauthn.PrfSalts

namespace Libwebauthn

open Platform
open Cbor (Canonical Fields)

variable {σ T : Type}

/-! ## §1. Entities and salts. -/

/-- An optional name does not change the order: `id` is shorter. -/
theorem Ctap2PublicKeyCredentialRpEntity.canonical_toCbor
    (self : Ctap2PublicKeyCredentialRpEntity) : Canonical self.toCbor :=
  Fields.canonical (.cons trivial (.optional fun _ _ => trivial)) (by decide)

theorem Ctap2PublicKeyCredentialUserEntity.canonical_toCbor
    (self : Ctap2PublicKeyCredentialUserEntity) : Canonical self.toCbor :=
  Fields.canonical (.cons trivial
    (.append (.optional fun _ _ => trivial) (.optional fun _ _ => trivial))) (by decide)

theorem Ctap2PublicKeyCredentialType.canonical_toCbor (self : Ctap2PublicKeyCredentialType) :
    Canonical self.toCbor := by
  cases self <;> trivial

/-- Its transports are never written, so that `id` and `type` are all there is
to order. -/
theorem Ctap2PublicKeyCredentialDescriptor.canonical_toCbor
    (self : Ctap2PublicKeyCredentialDescriptor) : Canonical self.toCbor :=
  Fields.canonical (.cons trivial (.cons self.type.canonical_toCbor .nil)) (by decide)

/-- Of either sign: an argument takes as few bytes as it needs. -/
theorem Cbor.canonical_int (i : Int) : Canonical (.int i) := by
  cases i <;> trivial

theorem Ctap2CredentialType.canonical_toCbor (self : Ctap2CredentialType) :
    Canonical self.toCbor :=
  Fields.canonical (.cons (Cbor.canonical_int self.algorithm)
    (.cons self.publicKeyType.canonical_toCbor .nil)) (by decide)

theorem PublicKey.canonical_toCbor (self : PublicKey) : Canonical self.toCbor := by
  cases self with
  | ecdhEsHkdf256Key x y =>
      exact Fields.canonical (.cons trivial (.cons trivial (.cons trivial
        (.cons trivial (.cons trivial .nil))))) (by decide)
  | p256Key x y =>
      exact Fields.canonical (.cons trivial (.cons trivial (.cons trivial
        (.cons trivial (.cons trivial .nil))))) (by decide)
  | ed25519Key x =>
      exact Fields.canonical (.cons trivial (.cons trivial (.cons trivial
        (.cons trivial .nil)))) (by decide)
  | totpKey => exact Fields.canonical (.cons trivial (.cons trivial .nil)) (by decide)

/-- The labels of the `hmac-secret` map go up, with or without the protocol. -/
theorem CalculatedHMACGetSecretInput.canonical_toCbor (self : CalculatedHMACGetSecretInput) :
    Canonical self.toCbor :=
  Fields.canonical (.append (.cons self.publicKey.canonical_toCbor (.cons trivial
    (.cons trivial .nil))) (.optional fun _ _ => trivial)) (by decide)

theorem Ctap2PrfSalts.canonical_toCbor (self : Ctap2PrfSalts) : Canonical self.toCbor :=
  Fields.canonical (.cons trivial (.optional fun _ _ => trivial)) (by decide)

/-! ## §2. The sorted map. -/

/-- The order in which the entries are written: by length first, and then byte
by byte as numbers. -/
theorem canonicalBytesLe_iff {a b : Bytes} : canonicalBytesLe a b = true
    ↔ a.length < b.length ∨ a.length = b.length ∧ a.map UInt8.toNat ≤ b.map UInt8.toNat := by
  simp [canonicalBytesLe, bytesLe]

theorem canonicalBytesLe_trans {a b c : Bytes} (hab : canonicalBytesLe a b = true)
    (hbc : canonicalBytesLe b c = true) : canonicalBytesLe a c = true := by
  rw [canonicalBytesLe_iff] at hab hbc ⊢
  rcases hab with hab | ⟨hab, hle⟩ <;> rcases hbc with hbc | ⟨hbc, hle'⟩
  · exact Or.inl (by omega)
  · exact Or.inl (by omega)
  · exact Or.inl (by omega)
  · exact Or.inr ⟨by omega, le_trans hle hle'⟩

/-- With transitivity, what sorting by it needs. -/
theorem canonicalBytesLe_total (a b : Bytes) :
    (canonicalBytesLe a b || canonicalBytesLe b a) = true := by
  rw [Bool.or_eq_true, canonicalBytesLe_iff, canonicalBytesLe_iff]
  rcases Nat.lt_trichotomy a.length b.length with hlt | heq | hlt
  · exact Or.inl (Or.inl hlt)
  · rcases le_total (a.map UInt8.toNat) (b.map UInt8.toNat) with hle | hle
    · exact Or.inl (Or.inr ⟨heq, hle⟩)
    · exact Or.inr (Or.inr ⟨heq.symm, hle⟩)
  · exact Or.inr (Or.inl hlt)

/-- The order of the sort is the order of the keys. -/
theorem keyLt_of_canonicalBytesLe {a b : Bytes} (hle : canonicalBytesLe a b = true)
    (hne : a ≠ b) : Cbor.keyLt (.bytes a) (.bytes b) := by
  apply Cbor.keyLt_bytes
  rcases canonicalBytesLe_iff.mp hle with hshort | ⟨hlength, hle⟩
  · exact Or.inl hshort
  · refine Or.inr ⟨hlength, ?_⟩
    rcases lt_or_eq_of_le hle with hlt | heq
    · exact hlt
    · exact absurd (List.map_injective_iff.mpr (fun _ _ => UInt8.toNat_inj.mp) heq) hne

/-- The keys of `evalByCredential` are distinct, as those of a map are. -/
def Ctap2PrfGetAssertionInput.KeysDistinct (self : Ctap2PrfGetAssertionInput) : Prop :=
  ∀ entries, self.evalByCredential = some entries → (entries.map Prod.fst).Nodup

/-- The entries in the order they are written in. -/
def writtenEntries (entries : List (Bytes × Ctap2PrfSalts)) : List (Bytes × Ctap2PrfSalts) :=
  entries.mergeSort fun a b => canonicalBytesLe a.1 b.1

/-- The writer sorts the entries before it writes them. -/
theorem pairwise_writtenEntries (entries : List (Bytes × Ctap2PrfSalts)) :
    (writtenEntries entries).Pairwise fun a b => canonicalBytesLe a.1 b.1 = true := by
  unfold writtenEntries
  refine List.pairwise_mergeSort ?_ ?_ entries
  · exact fun _ _ _ => canonicalBytesLe_trans
  · exact fun a b => canonicalBytesLe_total a.1 b.1

/-- Sorted entries are canonical when no two have one key; the sort itself does
not look for that. -/
theorem canonical_evalByCredential {entries : List (Bytes × Ctap2PrfSalts)}
    (hkeys : (entries.map Prod.fst).Nodup) :
    Canonical (.map ((writtenEntries entries).map fun (id, salts) =>
      (.bytes id, salts.toCbor))) := by
  have hdistinct : (writtenEntries entries).Pairwise fun a b => a.1 ≠ b.1 := by
    have hperm := (List.mergeSort_perm entries fun a b => canonicalBytesLe a.1 b.1).map Prod.fst
    exact List.pairwise_map.mp (hperm.nodup_iff.mpr hkeys)
  unfold Canonical
  refine ⟨?_, Cbor.canonicalEntries_iff.mpr fun entry hentry => ?_⟩
  · rw [List.map_map, List.pairwise_map]
    exact ((pairwise_writtenEntries entries).and hdistinct).imp fun h =>
      keyLt_of_canonicalBytesLe h.1 h.2
  · obtain ⟨⟨id, salts⟩, -, rfl⟩ := List.mem_map.mp hentry
    exact ⟨trivial, salts.canonical_toCbor⟩

/-- `eval` stands before the longer `evalByCredential`. -/
theorem Ctap2PrfGetAssertionInput.canonical_toCbor {self : Ctap2PrfGetAssertionInput}
    (hkeys : self.KeysDistinct) : Canonical self.toCbor :=
  Fields.canonical (.append (.optional fun salts _ => salts.canonical_toCbor)
    (.optional fun entries hentries => canonical_evalByCredential (hkeys entries hentries)))
    (by decide)

/-! ## §3. The requests. -/

theorem Ctap2PrfMakeCredentialInput.canonical_eval (self : Ctap2PrfMakeCredentialInput) :
    Canonical (.map (Cbor.entry? (.text "eval") (self.eval.map Ctap2PrfSalts.toCbor))) :=
  Fields.canonical (.optional fun salts _ => salts.canonical_toCbor) (by decide)

/-- Whichever extensions are there, the names stand in the order of the map. -/
theorem Ctap2MakeCredentialsRequestExtensions.canonical_toCbor
    (self : Ctap2MakeCredentialsRequestExtensions) : Canonical self.toCbor :=
  Fields.canonical (.append (.append (.append (.append (.append (.append
    (.optional fun prf _ => prf.canonical_eval) (.optional fun _ _ => trivial))
    (.optional fun _ _ => trivial)) (.optional fun _ _ => trivial))
    (.optional fun _ _ => trivial)) (.optional fun _ _ => trivial))
    (.optional fun envelope _ => envelope.canonical_toCbor)) (by decide)

theorem Ctap2MakeCredentialOptions.canonical_toCbor (self : Ctap2MakeCredentialOptions) :
    Canonical self.toCbor :=
  Fields.canonical (.append (.optional fun _ _ => trivial) (.optional fun _ _ => trivial))
    (by decide)

namespace Ctap2MakeCredentialRequest

variable (self : Ctap2MakeCredentialRequest)

/-- The map of a request. -/
def toCbor : Cbor :=
  .map (
    [(.uint 1, .bytes self.hash), (.uint 2, self.relyingParty.toCbor),
      (.uint 3, self.user.toCbor),
      (.uint 4, .array (self.algorithms.map Ctap2CredentialType.toCbor))]
    ++ Cbor.entry? (.uint 5) (self.exclude.map fun exclude =>
      .array (exclude.map Ctap2PublicKeyCredentialDescriptor.toCbor))
    ++ (if skipSerializingExtensions self.extensions then []
        else Cbor.entry? (.uint 6)
          (self.extensions.map Ctap2MakeCredentialsRequestExtensions.toCbor))
    ++ (if skipSerializingOptions self.options then []
        else Cbor.entry? (.uint 7) (self.options.map Ctap2MakeCredentialOptions.toCbor))
    ++ Cbor.entry? (.uint 8) (self.pinAuthParam.map .bytes)
    ++ Cbor.entry? (.uint 9) (self.pinAuthProto.map .uint)
    ++ Cbor.entry? (.uint 10) (self.enterpriseAttestation.map .uint))

theorem ctapHidData_eq : self.ctapHidData = 0x01 :: Cbor.encode self.toCbor := rfl

theorem canonical_toCbor : Canonical self.toCbor :=
  Fields.canonical (.append (.append (.append (.append (.append (.append
    (.cons trivial (.cons self.relyingParty.canonical_toCbor
      (.cons self.user.canonical_toCbor (.cons
        (Cbor.canonical_array_map fun algorithm _ => algorithm.canonical_toCbor) .nil))))
    (.optional fun _ _ => Cbor.canonical_array_map fun credential _ =>
      credential.canonical_toCbor))
    (.skipped (.optional fun extensions _ => extensions.canonical_toCbor)))
    (.skipped (.optional fun options _ => options.canonical_toCbor)))
    (.optional fun _ _ => trivial)) (.optional fun _ _ => trivial))
    (.optional fun _ _ => trivial)) (by decide)

end Ctap2MakeCredentialRequest

theorem Ctap2GetAssertionOptions.canonical_toCbor (self : Ctap2GetAssertionOptions) :
    Canonical self.toCbor := by
  unfold Ctap2GetAssertionOptions.toCbor
  split
  · exact Fields.canonical (.cons trivial (.cons trivial .nil)) (by decide)
  · exact Fields.canonical (.cons trivial .nil) (by decide)

/-- Every map of the extensions has distinct keys. -/
def Ctap2GetAssertionRequestExtensions.KeysDistinct (self : Ctap2GetAssertionRequestExtensions) :
    Prop :=
  ∀ prf, self.prf = some prf → prf.KeysDistinct

/-- The `prf` entries are the one member whose keys come from outside. -/
theorem Ctap2GetAssertionRequestExtensions.canonical_toCbor
    {self : Ctap2GetAssertionRequestExtensions} (hkeys : self.KeysDistinct) :
    Canonical self.toCbor := by
  have hcredBlob : Fields [.text "credBlob"]
      (if self.credBlob then [(.text "credBlob", .bool true)] else []) := by
    split
    · exact .cons trivial .nil
    · exact .none
  exact Fields.canonical (.append (.append (.append
    (.optional fun prf hprf => Ctap2PrfGetAssertionInput.canonical_toCbor (hkeys prf hprf))
    hcredBlob) (.optional fun envelope _ => envelope.canonical_toCbor))
    (.optional fun _ _ => trivial)) (by decide)

namespace Ctap2GetAssertionRequest

variable (self : Ctap2GetAssertionRequest)

/-- The map of a request. -/
def toCbor : Cbor :=
  .map (
    [(.uint 1, .text self.relyingPartyId), (.uint 2, .bytes self.clientDataHash)]
    ++ (if self.allow.isEmpty then []
        else [(.uint 3, .array (self.allow.map Ctap2PublicKeyCredentialDescriptor.toCbor))])
    ++ (if skipSerializingExtensions self.extensions then []
        else Cbor.entry? (.uint 4)
          (self.extensions.map Ctap2GetAssertionRequestExtensions.toCbor))
    ++ Cbor.entry? (.uint 5) (self.options.map Ctap2GetAssertionOptions.toCbor)
    ++ Cbor.entry? (.uint 6) (self.pinAuthParam.map .bytes)
    ++ Cbor.entry? (.uint 7) (self.pinAuthProto.map .uint))

theorem ctapHidData_eq : self.ctapHidData = 0x02 :: Cbor.encode self.toCbor := rfl

/-- Every map of the request has distinct keys. -/
def KeysDistinct : Prop := ∀ ext, self.extensions = some ext → ext.KeysDistinct

variable {self}

theorem canonical_toCbor (hkeys : self.KeysDistinct) : Canonical self.toCbor :=
  Fields.canonical (.append (.append (.append (.append (.append
    (.cons trivial (.cons trivial .nil))
    (.skipped (.cons
      (Cbor.canonical_array_map fun credential _ => credential.canonical_toCbor) .nil)))
    (.skipped (.optional fun ext hext =>
      Ctap2GetAssertionRequestExtensions.canonical_toCbor (hkeys ext hext))))
    (.optional fun options _ => options.canonical_toCbor))
    (.optional fun _ _ => trivial)) (.optional fun _ _ => trivial)) (by decide)

end Ctap2GetAssertionRequest

/-! ## §4. The map of a request is one. -/

namespace Ctap2GetAssertionRequestExtensions

variable {crypto : Crypto} {allow : List Ctap2PublicKeyCredentialDescriptor}

/-- An id is taken once, however many keys decode to it. -/
theorem nodup_nativeEvalByCredential {entries : List (String × PrfInputValue)} :
    ∀ {converted}, nativeEvalByCredential crypto allow entries = .ok converted →
      (converted.map Prod.fst).Nodup := by
  induction entries with
  | nil =>
      intro converted h
      rw [← Except.ok.inj h]
      exact List.nodup_nil
  | cons entry entries ih =>
      obtain ⟨encCredId, value⟩ := entry
      intro converted h
      unfold nativeEvalByCredential at h
      split at h
      · cases h
      · split at h
        · cases h
        · obtain ⟨rest, hrest, h⟩ := except_bind_eq_ok_iff.mp h
          split at h
          next hnew =>
            rw [← Except.ok.inj h, List.map_cons, List.nodup_cons]
            refine ⟨fun hmem => ?_, ih hrest⟩
            obtain ⟨entry, hentry, hid⟩ := List.mem_map.mp hmem
            have hany : rest.any (fun entry => entry.1 == _) = true :=
              List.any_eq_true.mpr ⟨entry, hentry, beq_iff_eq.mpr hid⟩
            rw [hany] at hnew
            simp at hnew
          · rw [← Except.ok.inj h]
            exact ih hrest

/-- The native form writes each credential ID once, however the caller's map
named them. -/
theorem KeysDistinct.convertPrfToNative {ext ext' : Ctap2GetAssertionRequestExtensions}
    (hkeys : ext.KeysDistinct) (hconvert : ext.convertPrfToNative crypto allow = .ok ext') :
    ext'.KeysDistinct := by
  unfold Ctap2GetAssertionRequestExtensions.convertPrfToNative at hconvert
  split at hconvert
  · split at hconvert
    · cases hconvert
    · obtain ⟨entries, hentries, hconvert⟩ := except_bind_eq_ok_iff.mp hconvert
      rw [← Except.ok.inj hconvert]
      intro prf hprf
      dsimp only at hprf
      split at hprf
      · obtain rfl := Option.some.inj hprf
        intro written hwritten
        dsimp only at hwritten
        split at hwritten
        · cases hwritten
        · obtain rfl := Option.some.inj hwritten
          have hperm := (List.mergeSort_perm entries fun a b => bytesLe a.1 b.1).map Prod.fst
          exact hperm.nodup_iff.mpr (nodup_nativeEvalByCredential hentries)
      · exact hkeys prf hprf
  · rw [← Except.ok.inj hconvert]
    exact hkeys

end Ctap2GetAssertionRequestExtensions

namespace Ctap2GetAssertionRequest

/-- A turn that leaves the extensions leaves their keys distinct. -/
theorem KeysDistinct.of_extensions {request request' : Ctap2GetAssertionRequest}
    (h : request.KeysDistinct) (hext : request'.extensions = request.extensions) :
    request'.KeysDistinct :=
  fun ext hsome => h ext (hext ▸ hsome)

/-- A request that was just built has no native `prf` entries yet. -/
theorem keysDistinct_toCtap2 (crypto : Crypto) (op : GetAssertionRequest) :
    (op.toCtap2 crypto).KeysDistinct := by
  intro ext hext prf hprf
  obtain ⟨ext₀, -, rfl⟩ := Option.map_eq_some_iff.mp hext
  cases hprf

/-- The request that the retry loop begins with is fit to be sent. -/
theorem keysDistinct_of_opens {p : Platform σ T} {op : GetAssertionRequest}
    {info : Ctap2GetInfoResponse} {request : Ctap2GetAssertionRequest}
    (h : p.OpensGet op info request) : request.KeysDistinct := by
  obtain ⟨request₀, allow, hrequest, rfl⟩ := h
  suffices hopened : request₀.KeysDistinct from hopened.of_extensions rfl
  obtain ⟨op', -, rfl | ⟨ext, ext', hext, hconvert, rfl⟩⟩ := fromWebauthnRequest_ok hrequest
  · exact keysDistinct_toCtap2 p.crypto op'
  · intro ext'' hsome
    obtain rfl := Option.some.inj hsome
    exact (keysDistinct_toCtap2 p.crypto op' ext hext).convertPrfToNative hconvert

end Ctap2GetAssertionRequest

/-- What a turn sends has the map it was entered with. -/
theorem Attempted.keysDistinct {p : Platform σ T} {op : GetAssertionRequest}
    {a : Attempt T Ctap2GetAssertionRequest Ctap2GetAssertionResponse}
    (h : Attempted p.crypto (p.getAssertionCeremony op) a) (hentry : a.entry.KeysDistinct) :
    a.sent.KeysDistinct := by
  obtain ⟨houtcome, hsealed⟩ := h
  have hverified := hentry.of_extensions (Ctap2GetAssertionRequest.extensions_of_uvOutcome houtcome)
  rcases Ctap2GetAssertionRequest.sealed_cases p hsealed with
    ⟨hsent, -⟩ | ⟨_, _, ext, _, _, -, hext, -, -, -, hsent⟩
  · rw [hsent]
    exact hverified
  · rw [hsent]
    intro ext' hsome
    obtain rfl := Option.some.inj hsome
    exact hverified ext hext

/-- **Canonical requests**: every map of a makeCredential request, and of a
getAssertion request whose `evalByCredential` is a map, has its keys in
canonical order; so have the probes of a preflight and all that is sent in a
run. -/
theorem requests_canonical (p : Platform σ T) :
    (∀ request : Ctap2MakeCredentialRequest,
        request.ctapHidData = 0x01 :: Cbor.encode request.toCbor ∧ request.toCbor.OrderedMaps)
      ∧ (∀ request : Ctap2GetAssertionRequest,
          request.ctapHidData = 0x02 :: Cbor.encode request.toCbor
            ∧ (request.KeysDistinct → request.toCbor.OrderedMaps))
      ∧ (∀ credential clientDataHash rp,
          (preflightRequest credential clientDataHash rp).toCbor.OrderedMaps)
      ∧ ∀ fuel op (w : World σ T), w.session.log = {} →
          ∀ a ∈ p.assertedAttempts fuel op w,
            a.sent.KeysDistinct ∧ a.sent.toCbor.OrderedMaps := by
  refine ⟨fun request => ⟨request.ctapHidData_eq, request.canonical_toCbor.orderedMaps⟩,
    fun request => ⟨request.ctapHidData_eq, fun hkeys =>
      (Ctap2GetAssertionRequest.canonical_toCbor hkeys).orderedMaps⟩,
    fun credential clientDataHash rp => ?_, fun fuel op w hlog a hmem => ?_⟩
  · refine (Ctap2GetAssertionRequest.canonical_toCbor fun ext hext => ?_).orderedMaps
    cases hext
  -- no attempt of the loop brings in a repeated key, so the opening decides
  · have hkeys : a.sent.KeysDistinct := by
      have hran := p.ran_assertedAttempts fuel op w hlog
      generalize p.assertedAttempts fuel op w = attempts at hran hmem
      cases hran with
      | stopped => cases hmem
      | looped hopens hlogged =>
          refine (hlogged.attempted a hmem).keysDistinct ?_
          exact hlogged.invariant (Ctap2GetAssertionRequest.keysDistinct_of_opens hopens)
            (fun b hattempted hentry => hattempted.keysDistinct hentry) a hmem
    exact ⟨hkeys, (Ctap2GetAssertionRequest.canonical_toCbor hkeys).orderedMaps⟩

end Libwebauthn
