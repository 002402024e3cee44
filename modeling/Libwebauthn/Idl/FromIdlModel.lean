/-
  Libwebauthn.Idl.FromIdlModel — requests prepared from what a site asks for
  (`idl/mod.rs`, `idl/origin.rs`, and `from_idl_model` of
  `make_credential.rs` and `get_assertion.rs`).

  The JSON is read already; parsing a URL and `idna::domain_to_ascii` are
  parameters.  A slice that panics gives nothing.
-/
import Libwebauthn.Idl.Origin
import Libwebauthn.Idl.Rpid
import Libwebauthn.Lib.Proc
import Libwebauthn.Ops.Hints
import Libwebauthn.Psl.Backends

namespace Libwebauthn.Idl

open Psl
open RelatedOrigins (Scheme Ipv4Addr Ipv6Addr MaxRegistrableLabels validateRelatedOrigins)

/-! ## §1. Origins. -/

/-- `url::Host`. -/
inductive UrlHost where
  | domain (d : String)
  | ipv4 (ip : Ipv4Addr)
  | ipv6 (ip : Ipv6Addr)
  deriving Repr, DecidableEq

/-- What is read of a parsed URL. -/
structure Url where
  scheme : String
  username : String
  password : Option String
  path : String
  query : Option String
  fragment : Option String
  host : Option UrlHost
  port : Option UInt16
  portOrKnownDefault : Option UInt16
  deriving Repr, DecidableEq

/-- The host as it is written, brackets included. -/
def UrlHost.text : UrlHost → String
  | .domain d => d
  | .ipv4 ip => ip.toString
  | .ipv6 ip => "[" ++ ip.toString ++ "]"

def UrlHost.related : UrlHost → RelatedOrigins.Host
  | .domain d => .domain (utf8 d)
  | .ipv4 ip => .ipv4 ip
  | .ipv6 ip => .ipv6 ip

/-- What the related-origins check reads of it. -/
def Url.related (self : Url) : RelatedOrigins.Url :=
  ⟨self.scheme, self.host.map UrlHost.related, self.portOrKnownDefault⟩

inductive ParseErrorKind where
  | emptyHost
  | idnaError
  | invalidPort
  | invalidIpv4Address
  | invalidIpv6Address
  | relativeUrlWithoutBase
  | other
  deriving Repr, DecidableEq

/-- `url::ParseError`, with its text. -/
structure ParseError where
  kind : ParseErrorKind
  text : String
  deriving Repr, DecidableEq

inductive HostParseError where
  | empty
  | invalidIp (text : String)
  | invalidDomain (text : String)
  deriving Repr, DecidableEq

inductive OriginParseError where
  | invalidScheme
  | insecureHttpHost (host : String)
  | missingHost
  | invalidHost (e : HostParseError)
  | invalidPort (text : String)
  | unexpectedPath (path : String)
  | unexpectedUserinfo
  deriving Repr, DecidableEq

structure Origin where
  scheme : Scheme
  host : String
  port : Option UInt16
  deriving Repr, DecidableEq

namespace Origin

/-- `Display`. -/
def toString (self : Origin) : String :=
  self.scheme.asStr ++ "://" ++ self.host
    ++ match self.port with
      | some port => s!":{port}"
      | none => ""

def related (self : Origin) : RelatedOrigins.Origin := ⟨self.scheme, utf8 self.host, self.port⟩

end Origin

/-- `map_url_parse_error`. -/
def mapUrlParseError (err : ParseError) : OriginParseError :=
  match err.kind with
  | .emptyHost => .missingHost
  | .invalidIpv4Address | .invalidIpv6Address => .invalidHost (.invalidIp err.text)
  | .invalidPort => .invalidPort err.text
  | .relativeUrlWithoutBase => .invalidScheme
  | .idnaError => .invalidHost (.invalidDomain err.text)
  | .other => .invalidHost (.invalidDomain err.text)

/-- `host_allows_http`. -/
def hostAllowsHttp (host : String) : Bool := host = "localhost"

def Url.originScheme (self : Url) : Except OriginParseError Scheme :=
  match self.scheme with
  | "https" => .ok .https
  | "http" => .ok .http
  | _ => .error .invalidScheme

/-- There is nothing in it but a scheme, a host and a port. -/
def Url.ensureBare (self : Url) : Except OriginParseError Unit :=
  if self.username ≠ "" ∨ self.password.isSome then .error .unexpectedUserinfo
  else if self.path ≠ "" ∧ self.path ≠ "/" then .error (.unexpectedPath self.path)
  else
    match self.query, self.fragment with
    | some q, _ => .error (.unexpectedPath ("?" ++ q))
    | none, some f => .error (.unexpectedPath ("#" ++ f))
    | none, none => .ok ()

/-- `FromStr` of an origin. -/
def Origin.fromStr (parseUrl : String → Except ParseError Url) (s : String) :
    Except OriginParseError Origin :=
  match parseUrl s with
  | .error err => .error (mapUrlParseError err)
  | .ok url => do
      let scheme ← url.originScheme
      url.ensureBare
      match url.host with
      | none => .error .missingHost
      | some host =>
          if scheme = .http ∧ ¬hostAllowsHttp host.text then
            .error (.insecureHttpHost host.text)
          else pure ⟨scheme, host.text, url.port⟩

/-- A URL of an origin, beside its host. -/
structure Url.Bare (url : Url) : Prop where
  username : url.username = ""
  password : url.password = none
  path : url.path = "" ∨ url.path = "/"
  query : url.query = none
  fragment : url.fragment = none

theorem Url.originScheme_eq_ok_iff {url : Url} {scheme : Scheme} :
    url.originScheme = .ok scheme ↔ url.scheme = scheme.asStr := by
  unfold Url.originScheme
  cases scheme <;> split <;> simp_all [Scheme.asStr]

theorem Url.ensureBare_eq_ok_iff {url : Url} : url.ensureBare = .ok () ↔ url.Bare := by
  obtain ⟨scheme, username, password, path, query, fragment, host, port, known⟩ := url
  unfold Url.ensureBare
  dsimp only
  constructor
  · intro h
    split at h
    next => cases h
    next huser =>
      split at h
      next => cases h
      next hpath =>
        obtain ⟨husername, hpassword⟩ := not_or.mp huser
        cases query <;> cases fragment <;> cases h
        exact ⟨not_not.mp husername, Option.not_isSome_iff_eq_none.mp hpassword,
          or_iff_not_and_not.mpr hpath, rfl, rfl⟩
  · rintro ⟨husername, hpassword, hpath, hquery, hfragment⟩
    dsimp only at husername hpassword hpath hquery hfragment
    subst husername hpassword hquery hfragment
    rw [if_neg (by simp), if_neg (not_and_or.mpr (hpath.imp not_not_intro not_not_intro))]

/-- The origin of a request, and that of the page it is nested in. -/
structure RequestOrigin where
  origin : Origin
  topOrigin : Option Origin
  deriving Repr, DecidableEq

/-! ## §2. Who may act for a relying party. -/

/-- The origins a relying party lists come from a source; nothing where it
fails. -/
inductive RelatedOriginsPolicy where
  | disabled
  | enabled (source : String → Option (List String)) (maxLabels : MaxRegistrableLabels)

inductive OriginValidation where
  | trust
  | validate (publicSuffixList : PublicSuffixList) (relatedOrigins : RelatedOriginsPolicy)

structure RequestSettings where
  origin : OriginValidation

inductive AppIdAuthorisationError where
  | empty
  | notHttps (appid : String)
  | invalidUrl (text : String)
  | noHost (appid : String)
  | invalidHost (text : String)
  | notAuthorised
  deriving Repr, DecidableEq

def AppIdAuthorisationError.toString : AppIdAuthorisationError → String
  | .empty => "appid must not be empty"
  | .notHttps appid => s!"appid must be an https URL: {appid}"
  | .invalidUrl text => s!"appid is not a valid URL: {text}"
  | .noHost appid => s!"appid has no host: {appid}"
  | .invalidHost text => s!"appid host is not a valid domain: {text}"
  | .notAuthorised => "appid is not authorised for the caller origin"

section

variable (parseUrl : String → Except ParseError Url) (domainToAscii : String → Option String)

/-- `Url::parse` as the related-origins check calls it. -/
def parseRelated (item : String) : Option RelatedOrigins.Url :=
  (parseUrl item).toOption.map Url.related

/-- `rp_id_authorised`. -/
def rpIdAuthorised (requestOrigin : RequestOrigin) (rpId : String) (settings : RequestSettings) :
    Option Bool :=
  match settings.origin with
  | .trust => some true
  | .validate publicSuffixList relatedOrigins => do
      let effectiveRpId := requestOrigin.origin.host
      if ← isRegistrableDomainSuffixOrEqual (utf8 rpId) (utf8 effectiveRpId) publicSuffixList then
        some true
      else
        match relatedOrigins with
        | .disabled => some false
        | .enabled source maxLabels =>
            match source rpId with
            | none => some false
            | some origins =>
                match validateRelatedOrigins (parseRelated parseUrl) publicSuffixList
                    requestOrigin.origin.related origins maxLabels with
                | .ok () => some true
                | .error _ => some false

/-- `appid_authorised`. -/
def appidAuthorised (requestOrigin : RequestOrigin) (settings : RequestSettings)
    (appid : String) : Option (Except AppIdAuthorisationError Unit) :=
  if appid = "" then some (.error .empty)
  else if ¬"https://".toList <+: appid.toList then some (.error (.notHttps appid))
  else
    match parseUrl appid with
    | .error err => some (.error (.invalidUrl err.text))
    | .ok url =>
        match url.host with
        | none => some (.error (.noHost appid))
        | some host =>
            match RelyingPartyId.tryFrom domainToAscii host.text with
            | .error err => some (.error (.invalidHost err.toString))
            | .ok appidRp => do
                if ← rpIdAuthorised parseUrl requestOrigin appidRp.text settings then
                  some (.ok ())
                else some (.error .notAuthorised)

/-- Whom the settings let act for a relying party. -/
def MayActFor (requestOrigin : RequestOrigin) (rpId : String) (settings : RequestSettings) :
    Prop :=
  match settings.origin with
  | .trust => True
  | .validate psl relatedOrigins =>
      AuthorisedUnder (utf8 rpId) (utf8 requestOrigin.origin.host)
          (psl.registrableDomain (utf8 requestOrigin.origin.host))
        ∨ ∃ source maxLabels origins, relatedOrigins = .enabled source maxLabels
          ∧ source rpId = some origins
          ∧ RelatedOrigins.Matches (parseRelated parseUrl) psl requestOrigin.origin.related
            maxLabels.max [] origins

/-- **The check does not panic**, and lets act whom the settings do. -/
theorem rpIdAuthorised_eq (requestOrigin : RequestOrigin) (rpId : String)
    (settings : RequestSettings) :
    ∃ answer, rpIdAuthorised parseUrl requestOrigin rpId settings = some answer
      ∧ (answer = true ↔ MayActFor parseUrl requestOrigin rpId settings) := by
  unfold rpIdAuthorised MayActFor
  cases settings.origin with
  | trust => exact ⟨true, rfl, fun _ => trivial, fun _ => rfl⟩
  | validate psl relatedOrigins =>
      obtain ⟨answer, hanswer, hiff⟩ :=
        isRegistrableDomainSuffixOrEqual_answers rpId requestOrigin.origin.host psl
      dsimp only
      rw [hanswer, Option.bind_eq_bind, Option.bind_some]
      cases answer with
      | true => exact ⟨true, rfl, fun _ => Or.inl (hiff.mp rfl), fun _ => rfl⟩
      | false =>
          rw [if_neg Bool.false_ne_true, or_iff_right (fun h => by cases hiff.mpr h)]
          cases relatedOrigins with
          | disabled =>
              refine ⟨false, rfl, (by intro h; cases h), ?_⟩
              rintro ⟨_, _, _, h, -⟩
              cases h
          | enabled source maxLabels =>
              dsimp only
              cases hsource : source rpId with
              | none =>
                  refine ⟨false, rfl, (by intro h; cases h), ?_⟩
                  rintro ⟨_, _, _, h, hsome, -⟩
                  cases h
                  rw [hsource] at hsome
                  cases hsome
              | some origins =>
                  have hloop : validateRelatedOrigins (parseRelated parseUrl) psl
                        requestOrigin.origin.related origins maxLabels = .ok ()
                      ↔ RelatedOrigins.Matches (parseRelated parseUrl) psl
                        requestOrigin.origin.related maxLabels.max [] origins := by
                    have := @RelatedOrigins.matchOrigins_eq_ok_iff (parseRelated parseUrl) psl
                      requestOrigin.origin.related maxLabels.max origins []
                    rwa [firstDistinct_nil, List.toFinset_nil] at this
                  have hlisted : (∃ source' maxLabels' origins',
                      RelatedOriginsPolicy.enabled source maxLabels = .enabled source' maxLabels'
                        ∧ source' rpId = some origins'
                        ∧ RelatedOrigins.Matches (parseRelated parseUrl) psl
                          requestOrigin.origin.related maxLabels'.max [] origins')
                      ↔ validateRelatedOrigins (parseRelated parseUrl) psl
                        requestOrigin.origin.related origins maxLabels = .ok () := by
                    rw [hloop]
                    constructor
                    · rintro ⟨_, _, origins', h, hsome, hmatches⟩
                      cases h
                      rw [hsource] at hsome
                      obtain rfl := Option.some.inj hsome
                      exact hmatches
                    · intro hmatches
                      exact ⟨source, maxLabels, origins, rfl, hsource, hmatches⟩
                  rw [hlisted]
                  dsimp only
                  cases validateRelatedOrigins (parseRelated parseUrl) psl
                      requestOrigin.origin.related origins maxLabels with
                  | ok u => exact ⟨true, rfl, fun _ => rfl, fun _ => rfl⟩
                  | error e => exact ⟨false, rfl, (by intro h; cases h), (by intro h; cases h)⟩

/-- The appids that are authorised. -/
def AppidAllowed (requestOrigin : RequestOrigin) (settings : RequestSettings) (appid : String) :
    Prop :=
  "https://".toList <+: appid.toList ∧ ∃ url host appidRp, parseUrl appid = .ok url
    ∧ url.host = some host ∧ RelyingPartyId.tryFrom domainToAscii host.text = .ok appidRp
    ∧ MayActFor parseUrl requestOrigin appidRp.text settings

/-- **An appid passes** when it is an `https` URL whose host may be acted for. -/
theorem appidAuthorised_eq (requestOrigin : RequestOrigin) (settings : RequestSettings)
    (appid : String) :
    ∃ result, appidAuthorised parseUrl domainToAscii requestOrigin settings appid = some result
      ∧ (result = .ok () ↔ AppidAllowed parseUrl domainToAscii requestOrigin settings appid) := by
  unfold appidAuthorised AppidAllowed
  by_cases hempty : appid = ""
  · rw [if_pos hempty, hempty]
    refine ⟨_, rfl, (by intro h; cases h), ?_⟩
    rintro ⟨hstarts, -⟩
    exact absurd (List.prefix_nil.mp hstarts) (by decide)
  rw [if_neg hempty]
  by_cases hhttps : "https://".toList <+: appid.toList
  · rw [if_neg (not_not.mpr hhttps), and_iff_right hhttps]
    cases parseUrl appid with
    | error err =>
        refine ⟨_, rfl, (by intro h; cases h), ?_⟩
        rintro ⟨_, _, _, h, -⟩
        cases h
    | ok url =>
        dsimp only
        cases hhost : url.host with
        | none =>
            refine ⟨_, rfl, (by intro h; cases h), ?_⟩
            rintro ⟨_, _, _, hurl, h, -⟩
            cases hurl
            rw [hhost] at h
            cases h
        | some host =>
            dsimp only
            cases hrp : RelyingPartyId.tryFrom domainToAscii host.text with
            | error err =>
                refine ⟨_, rfl, (by intro h; cases h), ?_⟩
                rintro ⟨_, _, _, hurl, h, hrp', -⟩
                cases hurl
                rw [hhost] at h
                cases h
                rw [hrp] at hrp'
                cases hrp'
            | ok appidRp =>
                obtain ⟨answer, hanswer, hiff⟩ :=
                  rpIdAuthorised_eq parseUrl requestOrigin appidRp.text settings
                have hallowed : (∃ url' host' appidRp', (.ok url : Except ParseError Url) = .ok url'
                    ∧ url'.host = some host'
                    ∧ RelyingPartyId.tryFrom domainToAscii host'.text = .ok appidRp'
                    ∧ MayActFor parseUrl requestOrigin appidRp'.text settings)
                    ↔ answer = true := by
                  rw [hiff]
                  constructor
                  · rintro ⟨_, _, _, hurl, h, hrp', hmay⟩
                    cases hurl
                    rw [hhost] at h
                    cases h
                    rw [hrp] at hrp'
                    cases hrp'
                    exact hmay
                  · exact fun hmay => ⟨url, host, appidRp, rfl, hhost, hrp, hmay⟩
                dsimp only
                rw [hallowed, hanswer, Option.bind_eq_bind, Option.bind_some]
                cases answer with
                | true => exact ⟨_, rfl, fun _ => rfl, fun _ => rfl⟩
                | false => exact ⟨_, rfl, (by intro h; cases h), (by intro h; cases h)⟩
  · rw [if_pos hhttps]
    exact ⟨_, rfl, (by intro h; cases h), fun h => absurd h.1 hhttps⟩

end

/-! ## §3. What a site asks for. -/

def DEFAULT_TIMEOUT : Nat := 300000

structure PublicKeyCredentialDescriptorJSON where
  id : Bytes
  type : Ctap2PublicKeyCredentialType
  transports : Option (List Ctap2Transport)
  deriving Repr, DecidableEq

def PublicKeyCredentialDescriptorJSON.descriptor (self : PublicKeyCredentialDescriptorJSON) :
    Ctap2PublicKeyCredentialDescriptor :=
  ⟨self.id, self.type, self.transports⟩

structure PublicKeyCredentialRpEntityJSON where
  id : Option String
  name : Option String
  deriving Repr, DecidableEq

structure PublicKeyCredentialUserEntity where
  id : Bytes
  name : String
  displayName : String
  deriving Repr, DecidableEq

def PublicKeyCredentialUserEntity.entity (self : PublicKeyCredentialUserEntity) :
    Ctap2PublicKeyCredentialUserEntity :=
  ⟨self.id, some self.name, some self.displayName⟩

structure AuthenticatorSelectionCriteria where
  authenticatorAttachment : Option AuthenticatorAttachment := none
  residentKey : Option ResidentKeyRequirement := none
  requireResidentKey : Bool := false
  userVerification : UserVerificationRequirement := .preferred
  deriving Repr, DecidableEq

structure PublicKeyCredentialCreationOptionsJSON where
  rp : PublicKeyCredentialRpEntityJSON
  user : PublicKeyCredentialUserEntity
  challenge : Bytes
  params : List Ctap2CredentialType
  timeout : Option UInt32
  excludeCredentials : List PublicKeyCredentialDescriptorJSON := []
  authenticatorSelection : Option AuthenticatorSelectionCriteria
  hints : Option (List PublicKeyCredentialHint)
  attestation : Option String
  extensions : Option MakeCredentialsRequestExtensions
  deriving Repr, DecidableEq

structure LargeBlobInputJson where
  support : Option String
  read : Option Bool
  write : Option Bytes
  deriving Repr, DecidableEq

structure PrfValuesJson where
  first : Bytes
  second : Option Bytes
  deriving Repr, DecidableEq

/-- `evalByCredential` is a hash map: its entries in the order an iteration
meets them. -/
structure PrfInputJson where
  eval : Option PrfValuesJson
  evalByCredential : Option (List (String × PrfValuesJson))
  deriving Repr, DecidableEq

structure GetAssertionRequestExtensionsJSON where
  credBlob : Option Bool
  largeBlob : Option LargeBlobInputJson
  prf : Option PrfInputJson
  appid : Option String
  deriving Repr, DecidableEq

structure PublicKeyCredentialRequestOptionsJSON where
  challenge : Bytes
  timeout : Option UInt32
  relyingPartyId : Option String
  allowCredentials : List PublicKeyCredentialDescriptorJSON := []
  userVerification : UserVerificationRequirement := .preferred
  hints : List PublicKeyCredentialHint := []
  extensions : Option GetAssertionRequestExtensionsJSON
  deriving Repr, DecidableEq

inductive MakeCredentialPrepareError where
  | invalidRelyingPartyId (text : String)
  | mismatchingRelyingPartyId (rpId effectiveRpId : String)
  | invalidAppId (text : String)
  deriving Repr, DecidableEq

inductive GetAssertionPrepareError where
  | notSupported (text : String)
  | invalidRelyingPartyId (text : String)
  | mismatchingRelyingPartyId (rpId effectiveRpId : String)
  | invalidAppId (text : String)
  deriving Repr, DecidableEq

def PrfValuesJson.value (self : PrfValuesJson) : PrfInputValue := ⟨self.first, self.second⟩

/-- `TryFrom<PrfInputJson>`, which does not fail. -/
def PrfInputJson.prfInput (self : PrfInputJson) : PrfInput where
  eval := self.eval.map PrfValuesJson.value
  evalByCredential :=
    (self.evalByCredential.getD []).map fun entry => (entry.1, entry.2.value)

/-- `TryFrom<LargeBlobInputJson>`. -/
def LargeBlobInputJson.extension (self : LargeBlobInputJson) :
    Except GetAssertionPrepareError GetAssertionLargeBlobExtension :=
  if self.support.isSome then
    .error (.notSupported "largeBlob.support is only valid at registration")
  else if self.read.isSome ∧ self.write.isSome then
    .error (.notSupported "largeBlob.read and largeBlob.write are mutually exclusive")
  else
    match self.write with
    | some write => .ok (.write write)
    | none =>
        match self.read with
        | some true => .ok .read
        | _ => .error (.notSupported "largeBlob input must set read=true or write")

/-- An input that asks for nothing is dropped. -/
def largeBlobExtension (input : Option LargeBlobInputJson) :
    Except GetAssertionPrepareError (Option GetAssertionLargeBlobExtension) :=
  match input with
  | none => .ok none
  | some lb =>
      if lb.support = none ∧ lb.read ≠ some true ∧ lb.write = none then .ok none
      else lb.extension.map some

/-! ## §4. The requests. -/

section

variable (parseUrl : String → Except ParseError Url) (domainToAscii : String → Option String)
  (requestOrigin : RequestOrigin) (settings : RequestSettings)

/-- The appid of an extension, where there is one. -/
def checkAppid (appid : Option String) : Option (Except AppIdAuthorisationError Unit) :=
  match appid with
  | none => some (.ok ())
  | some appid => appidAuthorised parseUrl domainToAscii requestOrigin settings appid

def residentKeyOf (selection : Option AuthenticatorSelectionCriteria) :
    Option ResidentKeyRequirement :=
  if selection.map (·.requireResidentKey) = some true then some .required
  else selection.bind (·.residentKey)

/-- The request for a relying party that is authorised. -/
def PublicKeyCredentialCreationOptionsJSON.request
    (inner : PublicKeyCredentialCreationOptionsJSON) (rpId : String) :
    HintedMakeCredentialRequest where
  challenge := inner.challenge
  origin := requestOrigin.origin.toString
  topOrigin := requestOrigin.topOrigin.map Origin.toString
  relyingParty := ⟨rpId, inner.rp.name⟩
  user := inner.user.entity
  residentKey := residentKeyOf inner.authenticatorSelection
  userVerification := (inner.authenticatorSelection.map (·.userVerification)).getD .preferred
  algorithms := inner.params
  exclude :=
    if inner.excludeCredentials = [] then none
    else some (inner.excludeCredentials.map (·.descriptor))
  hints := inner.hints.getD []
  authenticatorAttachment := inner.authenticatorSelection.bind (·.authenticatorAttachment)
  extensions := inner.extensions
  attestation := inner.attestation.or (some "none")
  timeout := (inner.timeout.map (·.toNat)).getD DEFAULT_TIMEOUT

/-- `from_idl_model` of a registration. -/
def makeCredentialFromIdlModel (inner : PublicKeyCredentialCreationOptionsJSON) :
    Option (Except MakeCredentialPrepareError HintedMakeCredentialRequest) :=
  let effectiveRpId := requestOrigin.origin.host
  match RelyingPartyId.tryFrom domainToAscii (inner.rp.id.getD effectiveRpId) with
  | .error err => some (.error (.invalidRelyingPartyId err.toString))
  | .ok rpId => do
      if ← rpIdAuthorised parseUrl requestOrigin rpId.text settings then
        match ← checkAppid parseUrl domainToAscii requestOrigin settings
            (inner.extensions.bind (·.appidExclude)) with
        | .error err => some (.error (.invalidAppId err.toString))
        | .ok () => some (.ok (inner.request requestOrigin rpId.text))
      else some (.error (.mismatchingRelyingPartyId rpId.text effectiveRpId))

/-- The relying party of an assertion: without an id of its own it is the
caller's host, unchecked. -/
def resolveRpId (relyingPartyId : Option String) :
    Option (Except GetAssertionPrepareError String) :=
  let effectiveRpId := requestOrigin.origin.host
  match relyingPartyId with
  | some relyingPartyId =>
      match RelyingPartyId.tryFrom domainToAscii relyingPartyId with
      | .error err => some (.error (.invalidRelyingPartyId err.toString))
      | .ok parsed => do
          if ← rpIdAuthorised parseUrl requestOrigin parsed.text settings then
            some (.ok parsed.text)
          else some (.error (.mismatchingRelyingPartyId parsed.text effectiveRpId))
  | none =>
      match RelyingPartyId.tryFrom domainToAscii effectiveRpId with
      | .error err => some (.error (.invalidRelyingPartyId err.toString))
      | .ok rpId => some (.ok rpId.text)

def PublicKeyCredentialRequestOptionsJSON.request
    (inner : PublicKeyCredentialRequestOptionsJSON) (rpId : String)
    (largeBlob : Option GetAssertionLargeBlobExtension) : HintedGetAssertionRequest where
  relyingPartyId := rpId
  challenge := inner.challenge
  origin := requestOrigin.origin.toString
  topOrigin := requestOrigin.topOrigin.map Origin.toString
  allow := inner.allowCredentials.map (·.descriptor)
  hints := inner.hints
  extensions := inner.extensions.map fun ext =>
    { credBlob := ext.credBlob.getD false
      largeBlob := largeBlob
      prf := ext.prf.map (·.prfInput)
      appid := ext.appid }
  userVerification := inner.userVerification
  timeout := (inner.timeout.map (·.toNat)).getD DEFAULT_TIMEOUT

/-- `from_idl_model` of an assertion. -/
def getAssertionFromIdlModel (inner : PublicKeyCredentialRequestOptionsJSON) :
    Option (Except GetAssertionPrepareError HintedGetAssertionRequest) := do
  match ← resolveRpId parseUrl domainToAscii requestOrigin settings inner.relyingPartyId with
  | .error e => some (.error e)
  | .ok rpId =>
      match ← checkAppid parseUrl domainToAscii requestOrigin settings
          (inner.extensions.bind (·.appid)) with
      | .error err => some (.error (.invalidAppId err.toString))
      | .ok () =>
          match largeBlobExtension (inner.extensions.bind (·.largeBlob)) with
          | .error e => some (.error e)
          | .ok largeBlob => some (.ok (inner.request requestOrigin rpId largeBlob))

theorem checkAppid_eq (appid : Option String) :
    ∃ result, checkAppid parseUrl domainToAscii requestOrigin settings appid = some result
      ∧ (result = .ok () ↔ ∀ a, appid = some a
        → AppidAllowed parseUrl domainToAscii requestOrigin settings a) := by
  cases appid with
  | none => exact ⟨.ok (), rfl, fun _ _ h => (by cases h), fun _ => rfl⟩
  | some a =>
      obtain ⟨result, hresult, hiff⟩ :=
        appidAuthorised_eq parseUrl domainToAscii requestOrigin settings a
      refine ⟨result, hresult, hiff.trans ?_⟩
      constructor
      · intro hallowed _ h
        cases h
        exact hallowed
      · exact fun hallowed => hallowed a rfl

/-- The relying party a registration names, or the caller's host. -/
theorem makeCredentialFromIdlModel_eq (inner : PublicKeyCredentialCreationOptionsJSON) :
    ∃ result, makeCredentialFromIdlModel parseUrl domainToAscii requestOrigin settings inner
        = some result
      ∧ ∀ request, result = .ok request
        ↔ ∃ rpId, RelyingPartyId.tryFrom domainToAscii
              (inner.rp.id.getD requestOrigin.origin.host) = .ok rpId
          ∧ MayActFor parseUrl requestOrigin rpId.text settings
          ∧ (∀ a, inner.extensions.bind (·.appidExclude) = some a
            → AppidAllowed parseUrl domainToAscii requestOrigin settings a)
          ∧ request = inner.request requestOrigin rpId.text := by
  unfold makeCredentialFromIdlModel
  dsimp only
  cases RelyingPartyId.tryFrom domainToAscii (inner.rp.id.getD requestOrigin.origin.host) with
  | error err =>
      refine ⟨_, rfl, fun request => ⟨(by intro h; cases h), ?_⟩⟩
      rintro ⟨_, h, -⟩
      cases h
  | ok rpId =>
      obtain ⟨answer, hanswer, hmay⟩ := rpIdAuthorised_eq parseUrl requestOrigin rpId.text settings
      obtain ⟨result, hresult, happid⟩ := checkAppid_eq parseUrl domainToAscii requestOrigin
        settings (inner.extensions.bind (·.appidExclude))
      dsimp only
      rw [hanswer, Option.bind_eq_bind, Option.bind_some]
      cases answer with
      | false =>
          refine ⟨_, rfl, fun request => ⟨(by intro h; cases h), ?_⟩⟩
          rintro ⟨_, hrpId, h, -⟩
          cases hrpId
          cases hmay.mpr h
      | true =>
          rw [if_pos rfl, hresult, Option.bind_eq_bind, Option.bind_some]
          cases result with
          | error err =>
              refine ⟨_, rfl, fun request => ⟨(by intro h; cases h), ?_⟩⟩
              rintro ⟨_, -, -, h, -⟩
              cases happid.mpr h
          | ok u =>
              refine ⟨_, rfl, fun request => ?_⟩
              rw [Except.ok.injEq]
              constructor
              · rintro rfl
                exact ⟨rpId, rfl, hmay.mp rfl, happid.mp rfl, rfl⟩
              · rintro ⟨_, hrpId, -, -, rfl⟩
                cases hrpId
                rfl

theorem resolveRpId_eq (relyingPartyId : Option String) :
    ∃ result, resolveRpId parseUrl domainToAscii requestOrigin settings relyingPartyId
        = some result
      ∧ ∀ text, result = .ok text
        ↔ ∃ rpId, RelyingPartyId.tryFrom domainToAscii
              (relyingPartyId.getD requestOrigin.origin.host) = .ok rpId
          ∧ (relyingPartyId.isSome → MayActFor parseUrl requestOrigin rpId.text settings)
          ∧ text = rpId.text := by
  cases relyingPartyId with
  | none =>
      unfold resolveRpId
      dsimp only [Option.getD_none]
      cases RelyingPartyId.tryFrom domainToAscii requestOrigin.origin.host with
      | error err =>
          refine ⟨_, rfl, fun text => ⟨(by intro h; cases h), ?_⟩⟩
          rintro ⟨_, h, -⟩
          cases h
      | ok rpId =>
          refine ⟨_, rfl, fun text => ?_⟩
          rw [Except.ok.injEq]
          constructor
          · rintro rfl
            exact ⟨rpId, rfl, (fun h => by cases h), rfl⟩
          · rintro ⟨_, hrpId, -, rfl⟩
            cases hrpId
            rfl
  | some value =>
      unfold resolveRpId
      dsimp only [Option.getD_some]
      cases RelyingPartyId.tryFrom domainToAscii value with
      | error err =>
          refine ⟨_, rfl, fun text => ⟨(by intro h; cases h), ?_⟩⟩
          rintro ⟨_, h, -⟩
          cases h
      | ok rpId =>
          obtain ⟨answer, hanswer, hmay⟩ :=
            rpIdAuthorised_eq parseUrl requestOrigin rpId.text settings
          dsimp only
          rw [hanswer, Option.bind_eq_bind, Option.bind_some]
          cases answer with
          | false =>
              refine ⟨_, rfl, fun text => ⟨(by intro h; cases h), ?_⟩⟩
              rintro ⟨_, hrpId, h, -⟩
              cases hrpId
              cases hmay.mpr (h rfl)
          | true =>
              refine ⟨_, rfl, fun text => ?_⟩
              rw [Except.ok.injEq]
              constructor
              · rintro rfl
                exact ⟨rpId, rfl, fun _ => hmay.mp rfl, rfl⟩
              · rintro ⟨_, hrpId, -, rfl⟩
                cases hrpId
                rfl

/-- The same for an assertion, with its `largeBlob` input. -/
theorem getAssertionFromIdlModel_eq (inner : PublicKeyCredentialRequestOptionsJSON) :
    ∃ result, getAssertionFromIdlModel parseUrl domainToAscii requestOrigin settings inner
        = some result
      ∧ ∀ request, result = .ok request
        ↔ ∃ rpId, RelyingPartyId.tryFrom domainToAscii
              (inner.relyingPartyId.getD requestOrigin.origin.host) = .ok rpId
          ∧ (inner.relyingPartyId.isSome → MayActFor parseUrl requestOrigin rpId.text settings)
          ∧ (∀ a, inner.extensions.bind (·.appid) = some a
            → AppidAllowed parseUrl domainToAscii requestOrigin settings a)
          ∧ ∃ largeBlob, largeBlobExtension (inner.extensions.bind (·.largeBlob)) = .ok largeBlob
            ∧ request = inner.request requestOrigin rpId.text largeBlob := by
  obtain ⟨resolved, hresolved, hrpId⟩ :=
    resolveRpId_eq parseUrl domainToAscii requestOrigin settings inner.relyingPartyId
  obtain ⟨result, hresult, happid⟩ := checkAppid_eq parseUrl domainToAscii requestOrigin settings
    (inner.extensions.bind (·.appid))
  unfold getAssertionFromIdlModel
  rw [hresolved, Option.bind_eq_bind, Option.bind_some]
  cases resolved with
  | error e =>
      refine ⟨_, rfl, fun request => ⟨(by intro h; cases h), ?_⟩⟩
      rintro ⟨rpId, hparsed, hmay, -⟩
      cases (hrpId rpId.text).mpr ⟨rpId, hparsed, hmay, rfl⟩
  | ok text =>
      obtain ⟨rpId, hparsed, hmay, rfl⟩ := (hrpId text).mp rfl
      dsimp only
      rw [hresult, Option.bind_eq_bind, Option.bind_some]
      cases result with
      | error err =>
          refine ⟨_, rfl, fun request => ⟨(by intro h; cases h), ?_⟩⟩
          rintro ⟨_, -, -, h, -⟩
          cases happid.mpr h
      | ok u =>
          dsimp only
          cases largeBlobExtension (inner.extensions.bind (·.largeBlob)) with
          | error e =>
              refine ⟨_, rfl, fun request => ⟨(by intro h; cases h), ?_⟩⟩
              rintro ⟨_, -, -, -, _, h, -⟩
              cases h
          | ok largeBlob =>
              refine ⟨_, rfl, fun request => ?_⟩
              rw [Except.ok.injEq]
              constructor
              · rintro rfl
                exact ⟨rpId, hparsed, hmay, happid.mp rfl, largeBlob, rfl, rfl⟩
              · rintro ⟨_, hparsed', -, -, _, hblob, rfl⟩
                cases hparsed.symm.trans hparsed'
                cases hblob
                rfl

end

/-! ## §5. What a request says. -/

/-- The value of an optional member, or its default. -/
structure Given {α : Type} (member : Option α) (default value : α) : Prop where
  given : ∀ a, member = some a → value = a
  absent : member = none → value = default

theorem given_iff {α : Type} {member : Option α} {default value : α} :
    Given member default value ↔ value = member.getD default := by
  cases member with
  | none => exact ⟨fun h => h.absent rfl, fun h => ⟨fun _ h => (by cases h), fun _ => h⟩⟩
  | some a =>
      refine ⟨fun h => h.given a rfl, fun h => ⟨fun b hb => ?_, fun h => (by cases h)⟩⟩
      rw [h, Option.getD_some, Option.some.inj hb]

/-- A descriptor of a list of credentials. -/
structure PublicKeyCredentialDescriptorJSON.Names (json : PublicKeyCredentialDescriptorJSON)
    (descriptor : Ctap2PublicKeyCredentialDescriptor) : Prop where
  id : descriptor.id = json.id
  type : descriptor.type = json.type
  transports : descriptor.transports = json.transports

theorem forall₂_names_iff {json : List PublicKeyCredentialDescriptorJSON}
    {list : List Ctap2PublicKeyCredentialDescriptor} :
    List.Forall₂ PublicKeyCredentialDescriptorJSON.Names json list
      ↔ list = json.map (·.descriptor) := by
  induction json generalizing list with
  | nil => exact List.forall₂_nil_left_iff
  | cons entry json ih =>
      rw [List.forall₂_cons_left_iff]
      constructor
      · rintro ⟨⟨id, type, transports⟩, rest, ⟨rfl, rfl, rfl⟩, hrest, rfl⟩
        rw [ih.mp hrest]
        rfl
      · rintro rfl
        exact ⟨_, _, ⟨rfl, rfl, rfl⟩, ih.mpr rfl, rfl⟩

/-- What a registration asks of the authenticator, member by member of the
options; an absent criteria dictionary counts as one with defaults. -/
structure PublicKeyCredentialCreationOptionsJSON.Asks
    (inner : PublicKeyCredentialCreationOptionsJSON) (requestOrigin : RequestOrigin)
    (rpId : String) (request : HintedMakeCredentialRequest) : Prop where
  challenge : request.challenge = inner.challenge
  origin : request.origin = requestOrigin.origin.toString
  topOrigin : request.topOrigin = requestOrigin.topOrigin.map Origin.toString
  rpId : request.relyingParty.id = rpId
  rpName : request.relyingParty.name = inner.rp.name
  userId : request.user.id = inner.user.id
  userName : request.user.name = some inner.user.name
  displayName : request.user.displayName = some inner.user.displayName
  /-- `requireResidentKey` is stronger than `residentKey`. -/
  residentKey : ∀ selection, Given inner.authenticatorSelection {} selection →
    request.residentKey
      = if selection.requireResidentKey then some .required else selection.residentKey
  userVerification : ∀ selection, Given inner.authenticatorSelection {} selection →
    request.userVerification = selection.userVerification
  attachment : ∀ selection, Given inner.authenticatorSelection {} selection →
    request.authenticatorAttachment = selection.authenticatorAttachment
  algorithms : request.algorithms = inner.params
  /-- An empty list is left out. -/
  excludesNone : inner.excludeCredentials = [] → request.exclude = none
  excludes : inner.excludeCredentials ≠ [] → ∃ list, request.exclude = some list
    ∧ List.Forall₂ PublicKeyCredentialDescriptorJSON.Names inner.excludeCredentials list
  hints : Given inner.hints [] request.hints
  attestation : Given (inner.attestation.map some) (some "none") request.attestation
  timeout : Given (inner.timeout.map UInt32.toNat) 300000 request.timeout
  extensions : request.extensions = inner.extensions

theorem PublicKeyCredentialCreationOptionsJSON.asks_iff
    {inner : PublicKeyCredentialCreationOptionsJSON} {requestOrigin : RequestOrigin}
    {rpId : String} {request : HintedMakeCredentialRequest} :
    inner.Asks requestOrigin rpId request ↔ request = inner.request requestOrigin rpId := by
  have hselected : Given inner.authenticatorSelection {}
      (inner.authenticatorSelection.getD {}) := given_iff.mpr rfl
  constructor
  · intro h
    obtain ⟨⟨challenge, origin, topOrigin, ⟨rpId', rpName⟩, ⟨userId, userName, displayName⟩,
      residentKey, userVerification, algorithms, exclude, extensions⟩, hints, attachment,
      attestation, timeout⟩ := request
    have hexclude : exclude = if inner.excludeCredentials = [] then none
        else some (inner.excludeCredentials.map (·.descriptor)) := by
      split
      next hnil => exact h.excludesNone hnil
      next hne =>
        obtain ⟨list, hlist, hnames⟩ := h.excludes hne
        rw [forall₂_names_iff.mp hnames] at hlist
        exact hlist
    have hresidentKey : residentKey = residentKeyOf inner.authenticatorSelection := by
      rw [show residentKey = _ from h.residentKey _ hselected]
      unfold residentKeyOf
      cases inner.authenticatorSelection with
      | none => rfl
      | some selection => simp
    have huserVerification : userVerification
        = (inner.authenticatorSelection.map (·.userVerification)).getD .preferred := by
      rw [show userVerification = _ from h.userVerification _ hselected]
      cases inner.authenticatorSelection <;> rfl
    have hattachment : attachment
        = inner.authenticatorSelection.bind (·.authenticatorAttachment) := by
      rw [show attachment = _ from h.attachment _ hselected]
      cases inner.authenticatorSelection <;> rfl
    have hattestation : attestation = inner.attestation.or (some "none") := by
      rw [show attestation = _ from given_iff.mp h.attestation]
      cases inner.attestation <;> rfl
    unfold request PublicKeyCredentialUserEntity.entity DEFAULT_TIMEOUT
    obtain rfl : challenge = _ := h.challenge
    obtain rfl : origin = _ := h.origin
    obtain rfl : topOrigin = _ := h.topOrigin
    obtain rfl : rpId' = _ := h.rpId
    obtain rfl : rpName = _ := h.rpName
    obtain rfl : userId = _ := h.userId
    obtain rfl : userName = _ := h.userName
    obtain rfl : displayName = _ := h.displayName
    obtain rfl : algorithms = _ := h.algorithms
    obtain rfl : extensions = _ := h.extensions
    obtain rfl : hints = _ := given_iff.mp h.hints
    obtain rfl : timeout = _ := given_iff.mp h.timeout
    rw [hexclude, hresidentKey, huserVerification, hattachment, hattestation]
  · rintro rfl
    have hselection : ∀ {selection : AuthenticatorSelectionCriteria},
        Given inner.authenticatorSelection {} selection →
        selection = inner.authenticatorSelection.getD {} := fun h => given_iff.mp h
    refine
      { challenge := rfl, origin := rfl, topOrigin := rfl, rpId := rfl, rpName := rfl,
        userId := rfl, userName := rfl, displayName := rfl, algorithms := rfl,
        extensions := rfl, hints := given_iff.mpr rfl, timeout := given_iff.mpr rfl,
        excludesNone := fun hnil => if_pos hnil,
        excludes := fun hne => ⟨_, if_neg hne, forall₂_names_iff.mpr rfl⟩,
        attestation := given_iff.mpr ?_, residentKey := ?_, userVerification := ?_,
        attachment := ?_ }
    · intro selection h
      rw [hselection h]
      show residentKeyOf inner.authenticatorSelection = _
      unfold residentKeyOf
      cases inner.authenticatorSelection with
      | none => rfl
      | some selection => simp
    · intro selection h
      rw [hselection h]
      show (inner.authenticatorSelection.map (·.userVerification)).getD .preferred = _
      cases inner.authenticatorSelection <;> rfl
    · intro selection h
      rw [hselection h]
      show inner.authenticatorSelection.bind (·.authenticatorAttachment) = _
      cases inner.authenticatorSelection <;> rfl
    · show inner.attestation.or (some "none") = _
      cases inner.attestation <;> rfl

/-- What a `largeBlob` input of an assertion asks for: a read or a write, of
which it may name one. -/
inductive AsksLargeBlob : Option LargeBlobInputJson → Option GetAssertionLargeBlobExtension → Prop
  | absent : AsksLargeBlob none none
  | nothing {read : Option Bool} (h : read ≠ some true) :
      AsksLargeBlob (some ⟨none, read, none⟩) none
  | read : AsksLargeBlob (some ⟨none, some true, none⟩) (some .read)
  | write {blob : Bytes} : AsksLargeBlob (some ⟨none, none, some blob⟩) (some (.write blob))

theorem asksLargeBlob_iff {input : Option LargeBlobInputJson}
    {asked : Option GetAssertionLargeBlobExtension} :
    AsksLargeBlob input asked ↔ largeBlobExtension input = .ok asked := by
  constructor
  · intro h
    cases h with
    | absent => rfl
    | nothing hread => exact if_pos ⟨rfl, hread, rfl⟩
    | read => rfl
    | write => rfl
  · intro h
    cases input with
    | none =>
        rw [← Except.ok.inj h]
        exact .absent
    | some lb =>
        obtain ⟨support, read, write⟩ := lb
        unfold largeBlobExtension at h
        dsimp only at h
        split at h
        next hnothing =>
          obtain ⟨rfl, hread, rfl⟩ := hnothing
          rw [← Except.ok.inj h]
          exact .nothing hread
        next hasks =>
          -- an input that asks for something names one thing, without `support`
          cases support with
          | some text => cases h
          | none =>
              cases write with
              | some blob =>
                  cases read with
                  | some flag => cases h
                  | none =>
                      rw [← Except.ok.inj h]
                      exact .write
              | none =>
                  obtain rfl : read = some true := by
                    by_contra hread
                    exact hasks ⟨rfl, hread, rfl⟩
                  rw [← Except.ok.inj h]
                  exact .read

/-- The salts of a PRF input. -/
structure PrfValuesJson.Are (json : PrfValuesJson) (value : PrfInputValue) : Prop where
  first : value.first = json.first
  second : value.second = json.second

theorem PrfValuesJson.are_iff {json : PrfValuesJson} {value : PrfInputValue} :
    json.Are value ↔ value = json.value :=
  ⟨fun h => by obtain ⟨first, second⟩ := value; obtain ⟨rfl, rfl⟩ := h; rfl,
    fun h => h ▸ ⟨rfl, rfl⟩⟩

/-- The PRF input of an assertion: `eval`, and the entries of the map, which
counts as empty when it is absent. -/
structure PrfInputJson.Asks (json : PrfInputJson) (input : PrfInput) : Prop where
  evalNone : json.eval = none → input.eval = none
  eval : ∀ values, json.eval = some values → ∃ value, input.eval = some value
    ∧ values.Are value
  evalByCredential : ∀ entries, Given json.evalByCredential [] entries →
    List.Forall₂ (fun given entry => entry.1 = given.1 ∧ given.2.Are entry.2) entries
      input.evalByCredential

theorem PrfInputJson.asks_iff {json : PrfInputJson} {input : PrfInput} :
    json.Asks input ↔ input = json.prfInput := by
  -- the entries of a map, one by one
  have hentries : ∀ (entries : List (String × PrfValuesJson)) list,
      List.Forall₂ (fun json entry => entry.1 = json.1 ∧ json.2.Are entry.2) entries list
        ↔ list = entries.map fun entry => (entry.1, entry.2.value) := by
    intro entries
    induction entries with
    | nil => exact fun list => List.forall₂_nil_left_iff
    | cons entry entries ih =>
        intro list
        rw [List.forall₂_cons_left_iff]
        constructor
        · rintro ⟨⟨key, value⟩, rest, ⟨rfl, hvalue⟩, hrest, rfl⟩
          obtain rfl : value = entry.2.value := PrfValuesJson.are_iff.mp hvalue
          rw [(ih rest).mp hrest]
          rfl
        · rintro rfl
          exact ⟨_, _, ⟨rfl, PrfValuesJson.are_iff.mpr rfl⟩, (ih _).mpr rfl, rfl⟩
  constructor
  · intro h
    obtain ⟨eval, evalByCredential⟩ := input
    have heval : eval = json.eval.map PrfValuesJson.value := by
      cases hjson : json.eval with
      | none => exact h.evalNone hjson
      | some values =>
          obtain ⟨value, hvalue, hare⟩ := h.eval values hjson
          rw [PrfValuesJson.are_iff.mp hare] at hvalue
          exact hvalue
    have hmap := (hentries _ _).mp (h.evalByCredential _ (given_iff.mpr rfl))
    unfold prfInput
    rw [heval, show evalByCredential = _ from hmap]
  · rintro rfl
    refine ⟨fun hnone => ?_, fun values hvalues => ?_, fun entries hgiven => ?_⟩
    · show json.eval.map _ = none
      rw [hnone]
      rfl
    · refine ⟨values.value, ?_, PrfValuesJson.are_iff.mpr rfl⟩
      show json.eval.map _ = _
      rw [hvalues]
      rfl
    · rw [given_iff.mp hgiven]
      exact (hentries _ _).mpr rfl

/-- The extensions of an assertion. -/
structure GetAssertionRequestExtensionsJSON.Asks (json : GetAssertionRequestExtensionsJSON)
    (extensions : GetAssertionRequestExtensions) : Prop where
  credBlob : extensions.credBlob = true ↔ json.credBlob = some true
  appid : extensions.appid = json.appid
  prfNone : json.prf = none → extensions.prf = none
  prf : ∀ asked, json.prf = some asked → ∃ input, extensions.prf = some input ∧ asked.Asks input
  largeBlob : AsksLargeBlob json.largeBlob extensions.largeBlob

/-- What an assertion asks of the authenticator, member by member of the
options. -/
structure PublicKeyCredentialRequestOptionsJSON.Asks
    (inner : PublicKeyCredentialRequestOptionsJSON) (requestOrigin : RequestOrigin)
    (rpId : String) (request : HintedGetAssertionRequest) : Prop where
  rpId : request.relyingPartyId = rpId
  challenge : request.challenge = inner.challenge
  origin : request.origin = requestOrigin.origin.toString
  topOrigin : request.topOrigin = requestOrigin.topOrigin.map Origin.toString
  allows : List.Forall₂ PublicKeyCredentialDescriptorJSON.Names inner.allowCredentials
    request.allow
  hints : request.hints = inner.hints
  userVerification : request.userVerification = inner.userVerification
  timeout : Given (inner.timeout.map UInt32.toNat) 300000 request.timeout
  extensionsNone : inner.extensions = none → request.extensions = none
  extensions : ∀ json, inner.extensions = some json → ∃ extensions,
    request.extensions = some extensions ∧ json.Asks extensions

theorem PublicKeyCredentialRequestOptionsJSON.asks_iff
    {inner : PublicKeyCredentialRequestOptionsJSON} {requestOrigin : RequestOrigin}
    {rpId : String} {request : HintedGetAssertionRequest} :
    inner.Asks requestOrigin rpId request
      ↔ ∃ largeBlob, largeBlobExtension (inner.extensions.bind (·.largeBlob)) = .ok largeBlob
        ∧ request = inner.request requestOrigin rpId largeBlob := by
  constructor
  · intro h
    obtain ⟨⟨rpId', challenge, origin, topOrigin, allow, extensions, userVerification⟩, hints,
      timeout⟩ := request
    obtain rfl : rpId' = _ := h.rpId
    obtain rfl : challenge = _ := h.challenge
    obtain rfl : origin = _ := h.origin
    obtain rfl : topOrigin = _ := h.topOrigin
    obtain rfl : allow = _ := forall₂_names_iff.mp h.allows
    obtain rfl : hints = _ := h.hints
    obtain rfl : userVerification = _ := h.userVerification
    obtain rfl : timeout = _ := given_iff.mp h.timeout
    unfold request
    cases hjson : inner.extensions with
    | none =>
        obtain rfl : extensions = none := h.extensionsNone hjson
        exact ⟨none, rfl, rfl⟩
    | some json =>
        obtain ⟨⟨credBlob, prf, largeBlob, appid⟩, hsome, hasks⟩ := h.extensions json hjson
        obtain rfl : extensions = _ := hsome
        refine ⟨largeBlob, asksLargeBlob_iff.mp hasks.largeBlob, ?_⟩
        obtain rfl : appid = _ := hasks.appid
        have hcredBlob : credBlob = json.credBlob.getD false := by
          have hiff := hasks.credBlob
          cases hcred : json.credBlob with
          | none => simpa [hcred] using hiff
          | some flag => cases flag <;> simpa [hcred] using hiff
        have hprf : prf = json.prf.map (·.prfInput) := by
          cases hinput : json.prf with
          | none => exact hasks.prfNone hinput
          | some input =>
              obtain ⟨value, hvalue, hare⟩ := hasks.prf input hinput
              rw [PrfInputJson.asks_iff.mp hare] at hvalue
              exact hvalue
        rw [hcredBlob, hprf]
        rfl
  · rintro ⟨largeBlob, hblob, rfl⟩
    refine ⟨rfl, rfl, rfl, rfl, forall₂_names_iff.mpr rfl, rfl, rfl, given_iff.mpr rfl,
      fun hnone => ?_, fun json hjson => ?_⟩
    · show inner.extensions.map _ = none
      rw [hnone]
      rfl
    · rw [hjson, Option.bind_some] at hblob
      have hextensions : (inner.request requestOrigin rpId largeBlob).extensions = some
          { credBlob := json.credBlob.getD false
            largeBlob := largeBlob
            prf := json.prf.map (·.prfInput)
            appid := json.appid } := by
        show inner.extensions.map _ = _
        rw [hjson]
        rfl
      refine ⟨_, hextensions, ?_, rfl, fun hnone => ?_, fun input hinput =>
        ⟨input.prfInput, ?_, PrfInputJson.asks_iff.mpr rfl⟩, asksLargeBlob_iff.mpr hblob⟩
      · dsimp only
        cases json.credBlob with
        | none => simp
        | some flag => simp
      · dsimp only
        rw [hnone]
        rfl
      · dsimp only
        rw [hinput]
        rfl

section

variable (parseUrl : String → Except ParseError Url) (domainToAscii : String → Option String)
  (requestOrigin : RequestOrigin) (settings : RequestSettings)

/-- **The requests that are prepared**: neither preparation panics, a
registration is prepared when its relying party and its appid may be acted
for, and an assertion also when it names no relying party; the request says
what the members of the options ask for. -/
theorem fromIdlModel_iff :
    (∀ inner, ∃ result,
      makeCredentialFromIdlModel parseUrl domainToAscii requestOrigin settings inner = some result
        ∧ ∀ request, result = .ok request
          ↔ ∃ rpId, RelyingPartyId.tryFrom domainToAscii
                (inner.rp.id.getD requestOrigin.origin.host) = .ok rpId
            ∧ MayActFor parseUrl requestOrigin rpId.text settings
            ∧ (∀ a, inner.extensions.bind (·.appidExclude) = some a
              → AppidAllowed parseUrl domainToAscii requestOrigin settings a)
            ∧ inner.Asks requestOrigin rpId.text request)
      ∧ ∀ inner, ∃ result,
        getAssertionFromIdlModel parseUrl domainToAscii requestOrigin settings inner = some result
          ∧ ∀ request, result = .ok request
            ↔ ∃ rpId, RelyingPartyId.tryFrom domainToAscii
                  (inner.relyingPartyId.getD requestOrigin.origin.host) = .ok rpId
              ∧ (inner.relyingPartyId.isSome → MayActFor parseUrl requestOrigin rpId.text settings)
              ∧ (∀ a, inner.extensions.bind (·.appid) = some a
                → AppidAllowed parseUrl domainToAscii requestOrigin settings a)
              ∧ inner.Asks requestOrigin rpId.text request := by
  constructor
  · intro inner
    obtain ⟨result, hresult, hiff⟩ :=
      makeCredentialFromIdlModel_eq parseUrl domainToAscii requestOrigin settings inner
    simp only [PublicKeyCredentialCreationOptionsJSON.asks_iff]
    exact ⟨result, hresult, hiff⟩
  · intro inner
    obtain ⟨result, hresult, hiff⟩ :=
      getAssertionFromIdlModel_eq parseUrl domainToAscii requestOrigin settings inner
    simp only [PublicKeyCredentialRequestOptionsJSON.asks_iff]
    exact ⟨result, hresult, hiff⟩

end

/-! ## §6. One relying party and one site. -/

/-- A name between a host and its registrable domain has that one too. -/
def KeepsSites (psl : PublicSuffixList) : Prop :=
  ∀ host rd name, psl.registrableDomain host = some rd → labels rd <:+ labels name →
    labels name <:+ labels host → psl.registrableDomain name = some rd

/-- The `.dafsa` list does so with any graph: the public suffix of the host is
that of the name. -/
theorem keepsSites_dafsa (psl : DafsaFilePublicSuffixList) :
    KeepsSites psl.toPublicSuffixList := by
  intro host rd name hrd hname hhost
  obtain ⟨x, label, hx, hlabels⟩ := longestSuffix_of_registrableDomain hrd hname hhost
  have hxname : x <:+ labels name := by
    refine List.IsSuffix.trans ?_ hname
    rw [hlabels]
    exact List.suffix_cons label x
  have hxne : x ≠ [] := ((longestSuffix_eq_some_iff _ _ _).mp hx).1.2.1
  refine (defaultRegistrableDomain_eq_some_iff _ _ _).mpr ⟨join x, ?_, label, ?_, hname⟩
  · rw [publicSuffix_eq, hx, Option.map_some]
  · rw [hlabels, labels_join_of_suffix hxname hxne]

/-- Two hosts that one id is authorised for. -/
theorem sameSite_of_authorised {psl : PublicSuffixList} (hkeeps : KeepsSites psl)
    {rpId host host' : Bytes} (h : AuthorisedUnder rpId host (psl.registrableDomain host))
    (h' : AuthorisedUnder rpId host' (psl.registrableDomain host')) :
    host = host' ∨ ∃ rd, psl.registrableDomain host = some rd
      ∧ psl.registrableDomain host' = some rd := by
  obtain ⟨-, rfl | ⟨⟨hsuffix, -⟩, rd, hrd, hends⟩⟩ := h
  · obtain ⟨-, rfl | ⟨⟨hsuffix', -⟩, rd', hrd', hends'⟩⟩ := h'
    · exact Or.inl rfl
    · exact Or.inr ⟨rd', hkeeps _ _ _ hrd' hends' hsuffix', hrd'⟩
  · obtain ⟨-, rfl | ⟨⟨hsuffix', -⟩, rd', hrd', hends'⟩⟩ := h'
    · exact Or.inr ⟨rd, hrd, hkeeps _ _ _ hrd hends hsuffix⟩
    · -- the id itself has both registrable domains
      have hsame := (hkeeps _ _ _ hrd hends hsuffix).symm.trans (hkeeps _ _ _ hrd' hends' hsuffix')
      obtain rfl := Option.some.inj hsame
      exact Or.inr ⟨rd, hrd, hrd'⟩

section

variable (parseUrl : String → Except ParseError Url) (domainToAscii : String → Option String)
  (settings : RequestSettings)

/-- The host of a parsed URL is in ASCII already. -/
def Origin.Normal (self : Origin) : Prop :=
  ∀ ascii, domainToAscii self.host = some ascii → ascii = self.host

/-- A request for the relying party `rpId` was prepared for the origin. -/
inductive Prepared (requestOrigin : RequestOrigin) (rpId : String) : Prop where
  | makeCredential (inner : PublicKeyCredentialCreationOptionsJSON)
      (request : HintedMakeCredentialRequest)
      (prepared : makeCredentialFromIdlModel parseUrl domainToAscii requestOrigin settings inner
        = some (.ok request))
      (names : request.relyingParty.id = rpId)
  | getAssertion (inner : PublicKeyCredentialRequestOptionsJSON)
      (request : HintedGetAssertionRequest)
      (prepared : getAssertionFromIdlModel parseUrl domainToAscii requestOrigin settings inner
        = some (.ok request))
      (names : request.relyingPartyId = rpId)

/-- What was prepared names a valid domain that may be acted for, or the host
itself. -/
theorem Prepared.mayActFor {requestOrigin : RequestOrigin} {rpId : String}
    (h : Prepared parseUrl domainToAscii settings requestOrigin rpId) :
    ValidDomain rpId ∧ (MayActFor parseUrl requestOrigin rpId settings
      ∨ domainToAscii requestOrigin.origin.host = some rpId) := by
  cases h with
  | makeCredential inner request prepared names =>
      obtain ⟨result, hresult, hiff⟩ :=
        makeCredentialFromIdlModel_eq parseUrl domainToAscii requestOrigin settings inner
      obtain rfl := Option.some.inj (hresult.symm.trans prepared)
      obtain ⟨rp, -, hmay, -, rfl⟩ := (hiff request).mp rfl
      subst names
      exact ⟨rp.valid, Or.inl hmay⟩
  | getAssertion inner request prepared names =>
      obtain ⟨result, hresult, hiff⟩ :=
        getAssertionFromIdlModel_eq parseUrl domainToAscii requestOrigin settings inner
      obtain rfl := Option.some.inj (hresult.symm.trans prepared)
      obtain ⟨rp, hparsed, hmay, -, _, -, rfl⟩ := (hiff request).mp rfl
      subst names
      refine ⟨rp.valid, ?_⟩
      cases hid : inner.relyingPartyId with
      | some value => exact Or.inl (hmay (by rw [hid]; rfl))
      | none =>
          rw [hid, Option.getD_none] at hparsed
          exact Or.inr ((tryFrom_eq_ok_iff domainToAscii rp).mp hparsed).2.2

/-- **One relying party, one site**: without related origins, all requests for
one relying party id come from one host, or from hosts of one registrable
domain, over every list that has one such domain from a host down to it, as
the `.dafsa` list does. -/
theorem prepared_sameSite :
    (∀ psl : DafsaFilePublicSuffixList, KeepsSites psl.toPublicSuffixList)
    ∧ ∀ psl : PublicSuffixList, KeepsSites psl →
      ∀ (rpId : String) (requestOrigin requestOrigin' : RequestOrigin),
        requestOrigin.origin.Normal domainToAscii →
        requestOrigin'.origin.Normal domainToAscii →
        Prepared parseUrl domainToAscii ⟨.validate psl .disabled⟩ requestOrigin rpId →
        Prepared parseUrl domainToAscii ⟨.validate psl .disabled⟩ requestOrigin' rpId →
        requestOrigin.origin.host = requestOrigin'.origin.host
          ∨ ∃ rd, psl.registrableDomain (utf8 requestOrigin.origin.host) = some rd
            ∧ psl.registrableDomain (utf8 requestOrigin'.origin.host) = some rd := by
  refine ⟨keepsSites_dafsa, ?_⟩
  intro psl hkeeps rpId requestOrigin requestOrigin' hnormal hnormal' h h'
  have hauthorised : ∀ requestOrigin : RequestOrigin,
      requestOrigin.origin.Normal domainToAscii →
      Prepared parseUrl domainToAscii ⟨.validate psl .disabled⟩ requestOrigin rpId →
      AuthorisedUnder (utf8 rpId) (utf8 requestOrigin.origin.host)
        (psl.registrableDomain (utf8 requestOrigin.origin.host)) := by
    intro requestOrigin hnormal hprepared
    obtain ⟨hvalid, hmay | hself⟩ := hprepared.mayActFor
    · rcases hmay with hmay | ⟨_, _, _, hdisabled, -⟩
      · exact hmay
      · cases hdisabled
    · have hne : utf8 rpId ≠ [] := by
        intro hnil
        obtain rfl : rpId = "" := utf8_injective hnil
        exact not_validDomain_empty hvalid
      exact ⟨hne, Or.inl (congrArg utf8 (hnormal rpId hself))⟩
  rcases sameSite_of_authorised hkeeps (hauthorised _ hnormal h) (hauthorised _ hnormal' h')
    with hsame | hshared
  · exact Or.inl (utf8_injective hsame)
  · exact Or.inr hshared

/-- The request of a caller that asks for its own relying party. -/
theorem prepared_of_authorised (psl : PublicSuffixList) {requestOrigin : RequestOrigin}
    {rp : RelyingPartyId} {inner : PublicKeyCredentialCreationOptionsJSON}
    (hid : inner.rp.id = some rp.text) (hextensions : inner.extensions = none)
    (hparsed : RelyingPartyId.tryFrom domainToAscii rp.text = .ok rp)
    (h : AuthorisedUnder (utf8 rp.text) (utf8 requestOrigin.origin.host)
      (psl.registrableDomain (utf8 requestOrigin.origin.host))) :
    Prepared parseUrl domainToAscii ⟨.validate psl .disabled⟩ requestOrigin rp.text := by
  obtain ⟨result, hresult, hiff⟩ := makeCredentialFromIdlModel_eq parseUrl domainToAscii
    requestOrigin ⟨.validate psl .disabled⟩ inner
  have hok : result = .ok (inner.request requestOrigin rp.text) := by
    refine (hiff _).mpr ⟨rp, ?_, Or.inl h, ?_, rfl⟩
    · rw [hid, Option.getD_some]
      exact hparsed
    · rw [hextensions]
      rintro _ hnone
      cases hnone
  exact .makeCredential inner _ (hresult.trans (congrArg some hok)) rfl

end

/-- `example.jp`. -/
def exampleJp : RelyingPartyId where
  text := "example.jp"
  valid := ⟨by decide +kernel, (checkLabels_eq_ok_iff "" _).mp (by decide +kernel)⟩

/-- The creation options of `example.jp`. -/
def exampleOptions : PublicKeyCredentialCreationOptionsJSON where
  rp := ⟨some "example.jp", none⟩
  user := ⟨[1], "a", "A"⟩
  challenge := [1, 2, 3]
  params := [.default]
  timeout := none
  authenticatorSelection := none
  hints := none
  attestation := none
  extensions := none

/-- An origin that may act for `example.jp` under a list with `jp`. -/
theorem prepared_exampleJp {host : String} {name : HostName} (hhost : utf8 host = name.text)
    (hsuffix : longestSuffix (Accepts kawasakiRules) name.labels = some jp.labels)
    (hends : labels (utf8 "example.jp") <:+ name.labels)
    (hne : labels (utf8 "example.jp") ≠ name.labels) :
    Prepared (fun _ => .error ⟨.other, ""⟩) some
      ⟨.validate kawasakiFile.toPublicSuffixList .disabled⟩ ⟨⟨.https, host, none⟩, none⟩
      "example.jp" := by
  have hparsed : RelyingPartyId.tryFrom some exampleJp.text = .ok exampleJp :=
    (tryFrom_eq_ok_iff some exampleJp).mpr ⟨by decide +kernel, by decide +kernel, rfl⟩
  exact @prepared_of_authorised _ some kawasakiFile.toPublicSuffixList _ exampleJp exampleOptions
    rfl rfl hparsed (authorised_exampleJp hhost hsuffix hends hne)

theorem prepared_sameSite_exampleJp :
    "www.example.jp" = "id.example.jp"
      ∨ ∃ rd, kawasakiFile.toPublicSuffixList.registrableDomain (utf8 "www.example.jp") = some rd
        ∧ kawasakiFile.toPublicSuffixList.registrableDomain (utf8 "id.example.jp") = some rd := by
  have hwww := @prepared_exampleJp "www.example.jp" wwwExampleJp (by decide +kernel)
    (by decide +kernel) (by decide +kernel) (by decide +kernel)
  have hid := @prepared_exampleJp "id.example.jp" idExampleJp (by decide +kernel)
    (by decide +kernel) (by decide +kernel) (by decide +kernel)
  have hsame := prepared_sameSite (fun _ => .error ⟨.other, ""⟩) some
  exact hsame.2 _ (hsame.1 kawasakiFile) _ _ _ (fun _ h => (Option.some.inj h).symm)
    (fun _ h => (Option.some.inj h).symm) hwww hid

end Libwebauthn.Idl
