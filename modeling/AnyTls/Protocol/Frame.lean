/-
# AnyTLS frames

A frame is the unit the session multiplexes over one TLS connection: a command,
the stream it belongs to, and a payload. Commands travel as one byte; a byte
that names no command reads as `waste`, so the byte-to-command direction is
total while the command-to-byte direction is injective.
-/

import Mathlib

namespace AnyTls

/-- `HEADER_OVERHEAD_SIZE`: one command byte, a four-byte stream id and a
two-byte payload length. -/
def headerOverheadSize : Nat := 7

/-- `Command`, with the discriminants of its `#[repr(u8)]` declaration. -/
inductive Command
  | waste
  | syn
  | push
  | fin
  | settings
  | alert
  | updatePaddingScheme
  | synAck
  | heartRequest
  | heartResponse
  | serverSettings
  deriving DecidableEq, Repr

namespace Command

/-- `From<Command> for u8`: the discriminant. -/
def toU8 : Command → UInt8
  | waste => 0
  | syn => 1
  | push => 2
  | fin => 3
  | settings => 4
  | alert => 5
  | updatePaddingScheme => 6
  | synAck => 7
  | heartRequest => 8
  | heartResponse => 9
  | serverSettings => 10

/-- `From<u8> for Command`: unknown bytes are treated as waste. -/
def fromU8 (value : UInt8) : Command :=
  match value.toNat with
  | 0 => waste
  | 1 => syn
  | 2 => push
  | 3 => fin
  | 4 => settings
  | 5 => alert
  | 6 => updatePaddingScheme
  | 7 => synAck
  | 8 => heartRequest
  | 9 => heartResponse
  | 10 => serverSettings
  | _ => waste

/-- Every command survives the trip through its byte. -/
@[simp]
theorem fromU8_toU8 (cmd : Command) : fromU8 cmd.toU8 = cmd := by
  cases cmd <;> rfl

theorem toU8_injective : Function.Injective toU8 := by
  intro first second same
  rw [← fromU8_toU8 first, same, fromU8_toU8]

end Command

/-- `Frame`: a packet to or from the multiplexed connection. The payload is the
`Bytes` value as a list of bytes. -/
structure Frame where
  cmd : Command
  streamId : UInt32
  data : List UInt8
  deriving DecidableEq, Repr

namespace Frame

/-- `Frame::control`: a frame with no payload. -/
def control (cmd : Command) (streamId : UInt32) : Frame := ⟨cmd, streamId, []⟩

/-- `Frame::data`: a `Push` frame. -/
def dataFrame (streamId : UInt32) (data : List UInt8) : Frame := ⟨.push, streamId, data⟩

/-- `Frame::total_size`. -/
def totalSize (frame : Frame) : Nat := headerOverheadSize + frame.data.length

end Frame

end AnyTls
