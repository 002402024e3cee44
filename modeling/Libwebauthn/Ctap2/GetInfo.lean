/-
  Libwebauthn.Ctap2.GetInfo — the getInfo response and the decisions taken
  on it (`src/proto/ctap2/model/get_info.rs`).

  Of the members of the response, those that the modelled code reads.

    • `uvOperation` — the user verification operation a device offers;
    • `offersOnlySharedSecret` — when that is no verification at all, in
      terms of the options (`uvOperation_eq_onlyForSharedSecret_iff`).
-/
import Libwebauthn.Ctap2.Model

namespace Libwebauthn

structure Ctap2GetInfoResponse where
  versions : List String := []
  extensions : Option (List String) := none
  aaguid : Bytes := []
  options : Option (List (String × Bool)) := none
  maxMsgSize : Option Nat := none
  pinAuthProtos : Option (List Nat) := none
  maxCredentialCount : Option Nat := none
  maxCredentialIdLength : Option Nat := none
  transports : Option (List String) := none
  forcePinChange : Option Bool := none
  minPinLength : Option Nat := none
  encIdentifier : Option Bytes := none
  deriving Repr, DecidableEq

def DEFAULT_MAX_MSG_SIZE : Nat := 1024

namespace Ctap2GetInfoResponse

variable (self : Ctap2GetInfoResponse)

def maxMsgSizeOrDefault : Nat :=
  (self.maxMsgSize.filter fun size => size > 0).getD DEFAULT_MAX_MSG_SIZE

/-- `options.get(name)`. -/
def option? (name : String) : Option Bool := self.options.bind fun options => options.lookup name

def optionExists (name : String) : Bool := (self.option? name).isSome

def optionEnabled (name : String) : Bool := self.option? name == some true

def supportsFido21 : Bool := self.versions.any fun v => v == "FIDO_2_1"

def supportsExtension (name : String) : Bool :=
  match self.extensions with
  | some exts => exts.any fun e => e == name
  | none => false

def supportsPersistentCredentialManagementReadOnly : Bool := self.optionEnabled "perCredMgmtRO"

def isUvProtected : Bool :=
  self.optionEnabled "uv" || self.optionEnabled "clientPin"
    || (self.optionEnabled "pinUvAuthToken" && self.optionEnabled "uv")

def canEstablishSharedSecret : Bool :=
  self.optionExists "clientPin" || (self.optionExists "uv" && self.optionEnabled "pinUvAuthToken")

def uvOperation (uvBlocked : Bool) : Option Ctap2UserVerificationOperation :=
  if self.optionEnabled "uv" && !uvBlocked then
    if self.optionEnabled "pinUvAuthToken" then some .getPinUvAuthTokenUsingUvWithPermissions
    else some .legacyUv
  else if self.optionExists "clientPin" && !self.optionEnabled "clientPin" then
    -- a PIN is supported but not set yet
    some .onlyForSharedSecret
  else if !self.optionEnabled "clientPin" && self.optionExists "uv"
      && self.optionEnabled "pinUvAuthToken" then
    -- built-in UV is blocked or not set up yet
    some .onlyForSharedSecret
  else if self.optionEnabled "pinUvAuthToken" then
    if !self.optionEnabled "clientPin" then some .onlyForSharedSecret
    else some .getPinUvAuthTokenUsingPinWithPermissions
  else if self.optionEnabled "clientPin" then some .getPinToken
  else none

/-- The device can agree on a shared secret but offers no verification:
built-in UV is off or blocked, no PIN is set, and the clientPIN command is
there all the same. -/
def offersOnlySharedSecret (uvBlocked : Bool) : Bool :=
  !(self.optionEnabled "uv" && !uvBlocked) && !self.optionEnabled "clientPin"
    && (self.optionExists "clientPin" || self.optionEnabled "pinUvAuthToken")

variable {self}

theorem uvOperation_eq_onlyForSharedSecret_iff (uvBlocked : Bool) :
    self.uvOperation uvBlocked = some .onlyForSharedSecret
      ↔ self.offersOnlySharedSecret uvBlocked = true := by
  unfold uvOperation offersOnlySharedSecret
  cases self.optionEnabled "uv" <;> cases uvBlocked <;> cases self.optionEnabled "clientPin"
    <;> cases self.optionExists "clientPin" <;> cases self.optionEnabled "pinUvAuthToken"
    <;> cases self.optionExists "uv" <;> decide

end Ctap2GetInfoResponse

end Libwebauthn
