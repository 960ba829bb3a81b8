/-
# Authentication

The first bytes a client writes on a connection authenticate it: the SHA-256
digest of the password, a sixteen-bit padding length, and that many zeros.
`send_authentication` takes the length from the first record size the padding
scheme draws for packet `0`; `authenticate_client` reads the digest, compares
it with the expected one, reads the length and skips the padding. SHA-256 is a
parameter.

`authenticateClient_sendAuthentication`: the server accepts exactly the
matching digest and stops right after the padding, whatever the first size
is. A check mark, a negative size or no size at all write no padding, and a
size past `u16::MAX` is narrowed once, before it is both written and counted.
-/

import AnyTls.Padding.Factory
import AnyTls.Util.Error
import AnyTls.Library.BigEndian

namespace AnyTls

/-- `[u8; 32]`: a SHA-256 digest. -/
@[ext]
structure PasswordHash where
  bytes : List UInt8
  length_eq : bytes.length = 32
  deriving DecidableEq

/-- `hash_password`: the digest of the password's UTF-8 bytes. -/
def hashPassword (sha256 : List UInt8 → PasswordHash) (password : List Char) : PasswordHash :=
  sha256 (RustText.intoBytes password)

/-- The padding length `send_authentication` writes: the first size drawn for
packet `0`, or `0` when there is none; `0` for a negative size, and otherwise
the size narrowed with `as u16`. -/
def paddingLength (sizes : List Int) : Nat :=
  let paddingLen := sizes.head?.getD 0
  if paddingLen < 0 then 0 else paddingLen.toNat % 2 ^ 16

/-- `send_authentication`, with the writes succeeding: the bytes written. -/
def sendAuthentication (random : Nat → Int → Int → Int) (passwordHash : PasswordHash)
    (paddingFactory : PaddingFactory) : List UInt8 :=
  let paddingLen := paddingLength (paddingFactory.generateRecordPayloadSizes random 0)
  passwordHash.bytes ++ BigEndian.toBytes 2 paddingLen ++
    if paddingLen > 0 then List.replicate paddingLen 0 else []

/-- `AsyncReadExt::read_exact` on the connection: the next `len` bytes and the
rest, or tokio's `UnexpectedEof` error when the connection ends first. -/
def readExact (len : Nat) (input : List UInt8) : Except AnyTlsError (List UInt8 × List UInt8) :=
  if len ≤ input.length then .ok (input.take len, input.drop len)
  else .error (.io "early eof".toList)

/-- `authenticate_client`: the bytes left on the connection after the padding. -/
def authenticateClient (expectedPasswordHash : PasswordHash) (input : List UInt8) :
    Except AnyTlsError (List UInt8) := do
  let (passwordHash, input) ← readExact 32 input
  if passwordHash ≠ expectedPasswordHash.bytes then throw .authenticationFailed
  let (paddingLenBytes, input) ← readExact 2 input
  let paddingLen := BigEndian.ofBytes paddingLenBytes
  if paddingLen > 0 then
    let (_, input) ← readExact paddingLen input
    pure input
  else pure input

theorem readExact_append {len : Nat} {bytes : List UInt8} (exact : bytes.length = len)
    (rest : List UInt8) : readExact len (bytes ++ rest) = .ok (bytes, rest) := by
  simp only [readExact, List.length_append]
  rw [if_pos (by omega), List.take_left' exact, List.drop_left' exact]

theorem paddingLength_lt (sizes : List Int) : paddingLength sizes < 2 ^ 16 := by
  unfold paddingLength
  dsimp only
  split <;> omega

/-- What `send_authentication` writes is the digest, the length field and the
padding: `32 + 2 + paddingLength` bytes. -/
theorem length_sendAuthentication (random : Nat → Int → Int → Int) (passwordHash : PasswordHash)
    (paddingFactory : PaddingFactory) :
    (sendAuthentication random passwordHash paddingFactory).length =
      32 + 2 + paddingLength (paddingFactory.generateRecordPayloadSizes random 0) := by
  simp only [sendAuthentication, List.length_append, passwordHash.length_eq,
    BigEndian.length_toBytes]
  split <;> simp_all

/-- `authenticate_client` reading what `send_authentication` wrote, with any
bytes after it: it accepts exactly when the two digests agree, and then
returns the bytes after the padding. The bytes consumed are the
`32 + 2 + paddingLength` that were written. -/
theorem authenticateClient_sendAuthentication (sha256 : List UInt8 → PasswordHash)
    (random : Nat → Int → Int → Int) (paddingFactory : PaddingFactory) (p q : List Char)
    (rest : List UInt8) :
    authenticateClient (hashPassword sha256 q)
        (sendAuthentication random (hashPassword sha256 p) paddingFactory ++ rest) =
      (if hashPassword sha256 p = hashPassword sha256 q then .ok rest
        else .error .authenticationFailed) ∧
    (sendAuthentication random (hashPassword sha256 p) paddingFactory).length =
      32 + 2 + paddingLength (paddingFactory.generateRecordPayloadSizes random 0) := by
  refine ⟨?_, length_sendAuthentication _ _ _⟩
  generalize paddingLen_def :
    paddingLength (paddingFactory.generateRecordPayloadSizes random 0) = paddingLen
  -- the length field reads back as the length that was written
  have field : BigEndian.ofBytes (BigEndian.toBytes 2 paddingLen) = paddingLen := by
    rw [← paddingLen_def]
    exact BigEndian.ofBytes_toBytes_of_lt (paddingLength_lt _)
  simp only [sendAuthentication, paddingLen_def, List.append_assoc]
  rw [authenticateClient, readExact_append (hashPassword sha256 p).length_eq]
  simp only [bind, Except.bind]
  by_cases same : hashPassword sha256 p = hashPassword sha256 q
  · rw [if_neg (by simp [same]), if_pos same,
      readExact_append (BigEndian.length_toBytes 2 paddingLen)]
    simp only [field]
    by_cases positive : paddingLen > 0
    · rw [if_pos positive, if_pos positive, readExact_append (List.length_replicate ..)]
      rfl
    · rw [if_neg positive, if_neg positive]
      rfl
  · have different : (hashPassword sha256 p).bytes ≠ (hashPassword sha256 q).bytes :=
      fun equal => same (PasswordHash.ext equal)
    rw [if_pos different, if_neg same]
    rfl

end AnyTls
