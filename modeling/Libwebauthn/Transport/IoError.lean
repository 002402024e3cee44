/-
  Libwebauthn.Transport.IoError — the I/O errors the framing code returns.

  Only the parts the framing layers produce: the error kind, the message
  text, and reading a fixed number of bytes from a cursor.
-/
import Libwebauthn.Lib.Bytes

namespace Libwebauthn.Transport

/-- The `std::io::ErrorKind`s that occur. -/
inductive IoErrorKind where
  | invalidData
  | invalidInput
  | unexpectedEof
  deriving Repr, DecidableEq

structure IoError where
  kind : IoErrorKind
  message : String
  deriving Repr, DecidableEq

/-- `read_exact` on a cursor over a byte string: the bytes read and the
bytes left. -/
def readExact (n : Nat) (cursor : Bytes) : Except IoError (Bytes × Bytes) :=
  if n ≤ cursor.length then .ok (cursor.take n, cursor.drop n)
  else .error ⟨.unexpectedEof, "failed to fill whole buffer"⟩

/-- `slice.get(..n)`. -/
def getPrefix (n : Nat) (bytes : Bytes) : Option Bytes :=
  if n ≤ bytes.length then some (bytes.take n) else none

theorem readExact_append (a b : Bytes) : readExact a.length (a ++ b) = .ok (a, b) := by
  simp [readExact]

theorem getPrefix_append (a b : Bytes) : getPrefix a.length (a ++ b) = some a := by
  simp [getPrefix]

end Libwebauthn.Transport
