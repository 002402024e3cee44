/-
  Libwebauthn.Ops.ClientData — the client data a ceremony signs
  (`src/ops/webauthn/client_data.rs`).

  `serde_json` writes the members in declaration order, and escapes a string
  by RFC 8259: quote, backslash and the control characters below U+0020.
-/
import Libwebauthn.Pin.Protocol

namespace Libwebauthn

inductive Operation where
  | makeCredential
  | getAssertion
  deriving Repr, DecidableEq

structure ClientData where
  operation : Operation
  challenge : Bytes
  origin : String
  topOrigin : Option String
  deriving Repr, DecidableEq

/-- A lowercase hexadecimal digit. -/
def hexDigit (n : Nat) : Char :=
  if n < 10 then Char.ofNat (48 + n) else Char.ofNat (87 + n)

/-- One character inside a JSON string, as `serde_json` escapes it. -/
def jsonEscapeChar (c : Char) : List Char :=
  if c = '"' then ['\\', '"']
  else if c = '\\' then ['\\', '\\']
  else if c.toNat = 8 then ['\\', 'b']
  else if c.toNat = 9 then ['\\', 't']
  else if c.toNat = 10 then ['\\', 'n']
  else if c.toNat = 12 then ['\\', 'f']
  else if c.toNat = 13 then ['\\', 'r']
  else if c.toNat < 32 then
    ['\\', 'u', '0', '0', hexDigit (c.toNat / 16), hexDigit (c.toNat % 16)]
  else [c]

def jsonString (s : String) : String :=
  "\"" ++ String.ofList (s.toList.flatMap jsonEscapeChar) ++ "\""

def ClientData.toJson (crypto : Crypto) (self : ClientData) : String :=
  let operation := match self.operation with
    | .makeCredential => "webauthn.create"
    | .getAssertion => "webauthn.get"
  let crossOrigin := if self.topOrigin.isSome then "true" else "false"
  let topOrigin := match self.topOrigin with
    | some origin => ",\"topOrigin\":" ++ jsonString origin
    | none => ""
  "\x7b\"type\":" ++ jsonString operation
    ++ ",\"challenge\":" ++ jsonString (crypto.base64UrlEncode self.challenge)
    ++ ",\"origin\":" ++ jsonString self.origin
    ++ ",\"crossOrigin\":" ++ crossOrigin ++ topOrigin ++ "\x7d"

def ClientData.hash (crypto : Crypto) (self : ClientData) : Bytes :=
  crypto.sha256 (utf8 (self.toJson crypto))

end Libwebauthn
