/-
# `AnyTlsError`

The error type of the crate, with the messages its `Display` implementation
(`thiserror`) gives them. The I/O error carries its own message.
-/

import Mathlib

namespace AnyTls

/-- `AnyTlsError`. -/
inductive AnyTlsError
  | io (message : List Char)
  | tls (message : List Char)
  | protocol (message : List Char)
  | authenticationFailed
  | streamNotFound (id : UInt32)
  | sessionClosed
  | invalidFrame (message : List Char)
  | paddingScheme (message : List Char)
  | config (message : List Char)
  deriving DecidableEq, Repr

namespace AnyTlsError

/-- The `#[error(...)]` messages. -/
def toString : AnyTlsError → List Char
  | io message => "IO error: ".toList ++ message
  | tls message => "TLS error: ".toList ++ message
  | protocol message => "Protocol error: ".toList ++ message
  | authenticationFailed => "Authentication failed".toList
  | streamNotFound id => "Stream not found: ".toList ++ Nat.toDigits 10 id.toNat
  | sessionClosed => "Session closed".toList
  | invalidFrame message => "Invalid frame: ".toList ++ message
  | paddingScheme message => "Padding scheme error: ".toList ++ message
  | config message => "Configuration error: ".toList ++ message

end AnyTlsError

end AnyTls
