/-
# The frame codec

`FrameCodec::encode` writes the seven-byte header and the payload, narrowing
the payload length to `u16` on the way; `FrameCodec::decode` peeks at the header
and consumes a frame only once all of it is buffered. Neither has an error path:
`encode` returns `Ok` for every frame and `decode` returns `Ok` on every buffer,
so both are total functions here.

The codec is a prefix code on frames whose payload fits in sixteen bits
(`prefixCode`), and `Session::recv_loop`'s decode loop therefore recovers such
frames from any chunking of the byte stream (`recvDecode_encodeAll`). A longer
payload is encoded with a length field that lies (`decode_encode_of_length`).
-/

import AnyTls.Library.BigEndian
import AnyTls.Library.Framing
import AnyTls.Protocol.Frame

namespace AnyTls

namespace FrameCodec

/-- `FrameCodec::encode`: `put_u8(cmd)`, `put_u32(stream_id)`,
`put_u16(data_len as u16)`, then the payload. -/
def encode (item : Frame) : List UInt8 :=
  item.cmd.toU8 :: BigEndian.toBytes 4 item.streamId.toNat ++
    BigEndian.toBytes 2 (item.data.length % 2 ^ 16) ++ item.data

/-- `FrameCodec::decode`: `None` until the header and the whole payload it
announces are buffered; then the frame and the bytes after it. -/
def decode : List UInt8 → Option (Frame × List UInt8)
  | cmdByte :: id0 :: id1 :: id2 :: id3 :: len0 :: len1 :: rest =>
      let dataLen := BigEndian.ofBytes [len0, len1]
      if rest.length < dataLen then none
      else
        some (⟨Command.fromU8 cmdByte, UInt32.ofNat (BigEndian.ofBytes [id0, id1, id2, id3]),
          rest.take dataLen⟩, rest.drop dataLen)
  | _ => none

/-- The bytes `write_frame` hands on for a sequence of frames. -/
def encodeAll (frames : List Frame) : List UInt8 := (frames.map encode).flatten

/-- The decode loop of `Session::recv_loop`: append each chunk that `read_buf`
delivered and call `decode` until it returns `None`. -/
def recvDecode (chunks : List (List UInt8)) : List Frame × List UInt8 :=
  Framing.feedAll decode [] chunks

/-! ### The shape of an encoding -/

theorem toBytes_four (value : Nat) :
    BigEndian.toBytes 4 value =
      [UInt8.ofNat (value / 256 / 256 / 256), UInt8.ofNat (value / 256 / 256),
        UInt8.ofNat (value / 256), UInt8.ofNat value] := by
  simp [BigEndian.toBytes]

theorem toBytes_two (value : Nat) :
    BigEndian.toBytes 2 value = [UInt8.ofNat (value / 256), UInt8.ofNat value] := by
  simp [BigEndian.toBytes]

/-- The stream id's four bytes read back as the stream id. -/
theorem streamId_roundtrip (streamId : UInt32) :
    UInt32.ofNat (BigEndian.ofBytes (BigEndian.toBytes 4 streamId.toNat)) = streamId := by
  rw [BigEndian.ofBytes_toBytes_of_lt (by simpa using streamId.toNat_lt), UInt32.ofNat_toNat]

/-- An encoding is the header followed by the payload. -/
theorem encode_eq (item : Frame) :
    encode item = item.cmd.toU8 :: BigEndian.toBytes 4 item.streamId.toNat ++
      BigEndian.toBytes 2 (item.data.length % 2 ^ 16) ++ item.data := rfl

@[simp]
theorem length_encode (item : Frame) :
    (encode item).length = headerOverheadSize + item.data.length := by
  simp [encode, headerOverheadSize]
  omega

/-- Buffers shorter than a header decode to nothing. -/
theorem decode_of_length_lt {buffer : List UInt8} (short : buffer.length < headerOverheadSize) :
    decode buffer = none := by
  match buffer, short with
  | [], _ | [_], _ | [_, _], _ | [_, _, _], _ | [_, _, _, _], _ | [_, _, _, _, _], _
  | [_, _, _, _, _, _], _ => rfl

/-- `decode` behind an encoded header: it waits until the announced number of
payload bytes is buffered, then takes exactly that many. -/
theorem decode_header_append (cmd : Command) (streamId : UInt32) (dataLen : Nat)
    (tail : List UInt8) (fits : dataLen < 2 ^ 16) :
    decode (cmd.toU8 :: BigEndian.toBytes 4 streamId.toNat ++ BigEndian.toBytes 2 dataLen ++ tail) =
      if tail.length < dataLen then none
      else some (⟨cmd, streamId, tail.take dataLen⟩, tail.drop dataLen) := by
  have lenValue := @BigEndian.ofBytes_toBytes_of_lt 2 _ fits
  have idBytes := streamId_roundtrip streamId
  rw [toBytes_four] at idBytes
  rw [toBytes_two] at lenValue
  simp only [toBytes_four, toBytes_two, List.cons_append, List.nil_append, decode]
  rw [lenValue, idBytes, Command.fromU8_toU8]

/-- Decoding a buffer that starts with an encoding and holds at least the
announced payload: the header's fields, the announced number of payload bytes,
and the rest. -/
theorem decode_encode_append_of_length (item : Frame) (rest : List UInt8)
    (enough : item.data.length % 2 ^ 16 ≤ (item.data ++ rest).length) :
    decode (encode item ++ rest) =
      some (⟨item.cmd, item.streamId, (item.data ++ rest).take (item.data.length % 2 ^ 16)⟩,
        (item.data ++ rest).drop (item.data.length % 2 ^ 16)) := by
  rw [encode, List.append_assoc, decode_header_append _ _ _ _ (Nat.mod_lt _ (by decide)),
    if_neg (by omega)]

/-- A payload that fits in sixteen bits decodes to the frame itself. -/
theorem decode_encode_append (item : Frame) (rest : List UInt8)
    (fits : item.data.length < 2 ^ 16) :
    decode (encode item ++ rest) = some (item, rest) := by
  have exact : item.data.length % 2 ^ 16 = item.data.length := Nat.mod_eq_of_lt fits
  rw [decode_encode_append_of_length item rest (by rw [exact]; simp), exact]
  simp

/-- The decoder waits on every strict prefix of an encoding whose payload fits. -/
theorem decode_of_strictPrefix (item : Frame) (pre : List UInt8)
    (fits : item.data.length < 2 ^ 16) (isPrefix : pre <+: encode item)
    (strict : pre.length < (encode item).length) : decode pre = none := by
  by_cases short : pre.length < headerOverheadSize
  · exact decode_of_length_lt short
  · have taken : pre = (encode item).take pre.length := List.prefix_iff_eq_take.mp isPrefix
    have headerLength : (item.cmd.toU8 :: BigEndian.toBytes 4 item.streamId.toNat ++
        BigEndian.toBytes 2 item.data.length).length = headerOverheadSize := by
      simp [headerOverheadSize]
    have split : pre = item.cmd.toU8 :: BigEndian.toBytes 4 item.streamId.toNat ++
        BigEndian.toBytes 2 item.data.length ++
          item.data.take (pre.length - headerOverheadSize) := by
      conv_lhs => rw [taken, encode_eq, Nat.mod_eq_of_lt fits]
      rw [List.take_append, headerLength, List.take_of_length_le (by omega)]
    rw [split, decode_header_append _ _ _ _ fits, if_pos]
    simp only [List.length_take, length_encode] at strict ⊢
    omega

/-- Every decoded frame consumes at least its header. -/
theorem decode_shrinks (buffer : List UInt8) (item : Frame) (rest : List UInt8)
    (decoded : decode buffer = some (item, rest)) : rest.length < buffer.length := by
  match buffer, decoded with
  | _ :: _ :: _ :: _ :: _ :: _ :: _ :: tail, decoded =>
      simp only [decode] at decoded
      split at decoded
      · cases decoded
      · cases decoded
        simp
        omega

/-- The frame codec is a prefix code on frames whose payload length fits the
sixteen-bit length field. -/
def prefixCode : Framing.PrefixCode UInt8 Frame where
  encode := encode
  decode := decode
  admissible item := item.data.length < 2 ^ 16
  decode_encode_append item rest fits := decode_encode_append item rest fits
  decode_of_strictPrefix := decode_of_strictPrefix
  decode_nil := rfl
  decode_shrinks := decode_shrinks

/-- `recv_loop`'s decode loop recovers every sequence of frames with payloads of
at most 65535 bytes from every chunking of their encodings, leaving an empty
buffer. -/
theorem recvDecode_encodeAll {frames : List Frame} {chunks : List (List UInt8)}
    (fits : ∀ item ∈ frames, item.data.length < 2 ^ 16)
    (chunking : chunks.flatten = encodeAll frames) :
    recvDecode chunks = (frames, []) :=
  prefixCode.feedAll_flatten fits chunking

/-- A `Syn` and a `Push` whose encodings arrive split inside the first header
are decoded whole. -/
theorem syn_then_push_split_decodes :
    recvDecode [(encodeAll [Frame.control .syn 1, Frame.dataFrame 1 [7]]).take 3,
        (encodeAll [Frame.control .syn 1, Frame.dataFrame 1 [7]]).drop 3] =
      ([Frame.control .syn 1, Frame.dataFrame 1 [7]], []) :=
  recvDecode_encodeAll (by decide) (by simp)

/-- Between two reads of `recv_loop`, the frames handled so far are a prefix of
the frames sent, and the buffer holds a strict prefix of the next encoding. -/
theorem recvDecode_take {frames : List Frame} {chunks : List (List UInt8)}
    (fits : ∀ item ∈ frames, item.data.length < 2 ^ 16)
    (chunking : chunks.flatten = encodeAll frames) (delivered : Nat) :
    ∃ taken, (recvDecode (chunks.take delivered)).1 = frames.take taken ∧
      Framing.StrictHead encode (recvDecode (chunks.take delivered)).2 (frames.drop taken) :=
  prefixCode.feedAll_take_strictHead fits chunking delivered

/-- A payload of exactly 65536 bytes is announced with length `0`: the decoder
returns the frame with an empty payload and leaves the payload in the buffer. -/
theorem decode_encode_of_length_eq (cmd : Command) (streamId : UInt32) (data : List UInt8)
    (wraps : data.length = 2 ^ 16) :
    decode (encode ⟨cmd, streamId, data⟩) = some (⟨cmd, streamId, []⟩, data) := by
  have decoded := decode_encode_append_of_length ⟨cmd, streamId, data⟩ []
    (by simp only [List.append_nil, wraps, Nat.mod_self]; omega)
  simp only [List.append_nil, wraps, Nat.mod_self, List.take_zero, List.drop_zero] at decoded
  exact decoded

/-- The decode loop's first frame for a 65536-byte payload is the frame with
its payload cut off. -/
theorem recvDecode_encode_of_length_eq (cmd : Command) (streamId : UInt32) (data : List UInt8)
    (wraps : data.length = 2 ^ 16) :
    (recvDecode [encode ⟨cmd, streamId, data⟩]).1.head? = some ⟨cmd, streamId, []⟩ := by
  have fuel : (encode ⟨cmd, streamId, data⟩).length = 65542 + 1 := by
    rw [length_encode, wraps]
    rfl
  simp only [recvDecode, Framing.feedAll, Framing.feed, List.nil_append, fuel,
    Framing.drain_succ_of_some decode (decode_encode_of_length_eq cmd streamId data wraps)]
  rfl

/-- A `Push` frame one byte too long for the length field comes out of the
decode loop with an empty payload. -/
theorem recvDecode_oversized_push :
    (recvDecode [encode ⟨.push, 1, List.replicate 65536 0⟩]).1.head? = some ⟨.push, 1, []⟩ :=
  recvDecode_encode_of_length_eq .push 1 _ List.length_replicate

end FrameCodec

end AnyTls
