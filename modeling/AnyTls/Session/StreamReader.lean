/-
# The stream reader

`StreamReader` serves reads from two sources: the bytes left over from the last
chunk, and the stream's unbounded channel. It reports end of stream with
`Ok(0)`, and so do its callers, which stop at the first `Ok(0)`.

A read that finds no leftover bytes and no queued chunk while a sender is still
alive waits; `Poll.pending` stands for that wait. Since only the reader consumes
the channel and senders only append, a call that completes returns what it would
return had every chunk it consumes been queued before it started.

`read_pendingBytes` says that every read returns the next bytes of the stream,
and `run_returned_append_pendingBytes` lifts it to every run. An empty chunk,
which `handle_frame` forwards for an empty `Push`, makes `read` return `Ok(0)`
while the stream goes on (`read_empty_chunk`). Without empty chunks the reader
is `Sound`: `Ok(0)` comes only at the true end (`read_eof_only_at_end`), and
`read_exact` returns exactly the next bytes when they are there
(`readExact_of_available`).
-/

import AnyTls.Library.Runs

namespace AnyTls

/-- `std::task::Poll`: a call completed with a value, or is still waiting. -/
inductive Poll (α : Type)
  | ready (value : α)
  | pending
  deriving DecidableEq, Repr

/-- The receiving half of an `mpsc::unbounded_channel`: the chunks sent and not
yet received, and whether every sender has been dropped. -/
structure Receiver where
  queue : List (List UInt8)
  closed : Bool
  deriving DecidableEq, Repr

namespace Receiver

/-- `UnboundedReceiver::recv`: the oldest queued chunk, `None` once the queue is
empty and every sender is gone, and a wait otherwise. -/
def recv (rx : Receiver) : Poll (Option (List UInt8) × Receiver) :=
  match rx.queue with
  | data :: rest => .ready (some data, { rx with queue := rest })
  | [] => if rx.closed then .ready (none, rx) else .pending

/-- `UnboundedSender::send`: queue a chunk. The send fails only once the
receiver is dropped, which a reader that is still read from never is. -/
def send (rx : Receiver) (data : List UInt8) : Receiver :=
  { rx with queue := rx.queue ++ [data] }

/-- Dropping the last sender. -/
def dropSender (rx : Receiver) : Receiver := { rx with closed := true }

end Receiver

/-- `StreamReader`: the channel from the session, the leftover bytes of a chunk
that did not fit the caller's buffer, and the end-of-stream flag. -/
structure StreamReader where
  id : UInt32
  readerRx : Receiver
  readerBuffer : List UInt8
  eof : Bool
  deriving DecidableEq, Repr

namespace StreamReader

/-- `StreamReader::new`. -/
def new (id : UInt32) (readerRx : Receiver) : StreamReader := ⟨id, readerRx, [], false⟩

/-- `StreamReader::read` into a buffer of `bufLen` bytes: the bytes copied into
`buf[..n]` (so `n` is their length) and the reader afterwards. -/
def read (reader : StreamReader) (bufLen : Nat) : Poll (List UInt8 × StreamReader) :=
  if reader.eof && reader.readerBuffer.isEmpty then .ready ([], reader)
  else if !reader.readerBuffer.isEmpty then
    let n := min reader.readerBuffer.length bufLen
    .ready (reader.readerBuffer.take n, { reader with readerBuffer := reader.readerBuffer.drop n })
  else
    match reader.readerRx.recv with
    | .ready (some data, rx) =>
        let n := min data.length bufLen
        -- the rest of the chunk is kept for the next call
        let buffer := if n < data.length then reader.readerBuffer ++ data.drop n
          else reader.readerBuffer
        .ready (data.take n, { reader with readerRx := rx, readerBuffer := buffer })
    | .ready (none, rx) => .ready ([], { reader with readerRx := rx, eof := true })
    | .pending => .pending

/-- The error `read_exact` reports. -/
inductive ReadError
  | unexpectedEof
  deriving DecidableEq, Repr

/-- The loop of `StreamReader::read_exact` with `remaining` bytes still to
fill, the bytes filled so far in `filled`. Each round either fills at least one
byte or stops, so `fuel = remaining` rounds suffice. -/
def readExactLoop : Nat → Nat → StreamReader → List UInt8 →
    Poll (Except ReadError (List UInt8) × StreamReader)
  | _, 0, reader, filled => .ready (.ok filled, reader)
  | 0, _ + 1, reader, filled => .ready (.ok filled, reader)
  | fuel + 1, remaining + 1, reader, filled =>
      match reader.read (remaining + 1) with
      | .ready (bytes, next) =>
          if bytes.length = 0 then .ready (.error .unexpectedEof, next)
          else readExactLoop fuel (remaining + 1 - bytes.length) next (filled ++ bytes)
      | .pending => .pending

/-- `StreamReader::read_exact` into a buffer of `total` bytes. -/
def readExact (reader : StreamReader) (total : Nat) :
    Poll (Except ReadError (List UInt8) × StreamReader) :=
  readExactLoop total total reader []

/-- The bytes the reader has yet to return: the leftover bytes, then the queued
chunks in order. -/
def pendingBytes (reader : StreamReader) : List UInt8 :=
  reader.readerBuffer ++ reader.readerRx.queue.flatten

/-! ### What one read does -/

section ReadCases

variable (reader : StreamReader) (bufLen : Nat)

theorem read_of_eof (atEof : reader.eof = true) (drained : reader.readerBuffer = []) :
    reader.read bufLen = .ready ([], reader) := by
  simp [read, atEof, drained]

theorem read_of_buffer (buffered : reader.readerBuffer ≠ []) :
    reader.read bufLen =
      .ready (reader.readerBuffer.take (min reader.readerBuffer.length bufLen),
        { reader with
          readerBuffer := reader.readerBuffer.drop (min reader.readerBuffer.length bufLen) }) := by
  simp [read, buffered]

theorem read_of_chunk {data : List UInt8} {rest : List (List UInt8)} (notEof : reader.eof = false)
    (drained : reader.readerBuffer = []) (queued : reader.readerRx.queue = data :: rest) :
    reader.read bufLen =
      .ready (data.take (min data.length bufLen),
        { reader with
          readerRx := ⟨rest, reader.readerRx.closed⟩
          readerBuffer := data.drop (min data.length bufLen) }) := by
  simp only [read, notEof, drained, Receiver.recv, queued]
  split <;> simp_all

theorem read_of_closed (notEof : reader.eof = false) (drained : reader.readerBuffer = [])
    (empty : reader.readerRx.queue = []) (closed : reader.readerRx.closed = true) :
    reader.read bufLen = .ready ([], { reader with eof := true }) := by
  simp [read, notEof, drained, Receiver.recv, empty, closed]

theorem read_of_waiting (notEof : reader.eof = false) (drained : reader.readerBuffer = [])
    (empty : reader.readerRx.queue = []) (open_ : reader.readerRx.closed = false) :
    reader.read bufLen = .pending := by
  simp [read, notEof, drained, Receiver.recv, empty, open_]

end ReadCases

/-- What a completed read can have done: take from the leftover bytes, find
the end of the stream again, take the next chunk, or find the channel closed
and empty. -/
theorem read_cases {reader next : StreamReader} {bufLen : Nat} {bytes : List UInt8}
    (completed : reader.read bufLen = .ready (bytes, next)) :
    (reader.readerBuffer ≠ [] ∧
        bytes = reader.readerBuffer.take (min reader.readerBuffer.length bufLen) ∧
        next = { reader with
          readerBuffer := reader.readerBuffer.drop (min reader.readerBuffer.length bufLen) }) ∨
      (reader.readerBuffer = [] ∧ reader.eof = true ∧ bytes = [] ∧ next = reader) ∨
      (∃ data rest, reader.readerBuffer = [] ∧ reader.eof = false ∧
        reader.readerRx.queue = data :: rest ∧ bytes = data.take (min data.length bufLen) ∧
        next = { reader with
          readerRx := ⟨rest, reader.readerRx.closed⟩
          readerBuffer := data.drop (min data.length bufLen) }) ∨
      (reader.readerBuffer = [] ∧ reader.eof = false ∧ reader.readerRx.queue = [] ∧
        reader.readerRx.closed = true ∧ bytes = [] ∧ next = { reader with eof := true }) := by
  by_cases buffered : reader.readerBuffer = []
  · cases atEof : reader.eof
    · cases queued : reader.readerRx.queue with
      | cons data rest =>
          rw [read_of_chunk reader bufLen atEof buffered queued] at completed
          obtain ⟨rfl, rfl⟩ := Prod.mk.inj (Poll.ready.inj completed)
          exact .inr (.inr (.inl ⟨data, rest, buffered, rfl, rfl, rfl, by rw [atEof]⟩))
      | nil =>
          cases closed : reader.readerRx.closed
          · rw [read_of_waiting reader bufLen atEof buffered queued closed] at completed
            cases completed
          · rw [read_of_closed reader bufLen atEof buffered queued closed] at completed
            obtain ⟨rfl, rfl⟩ := Prod.mk.inj (Poll.ready.inj completed)
            exact .inr (.inr (.inr ⟨buffered, rfl, rfl, rfl, rfl, rfl⟩))
    · rw [read_of_eof reader bufLen atEof buffered] at completed
      obtain ⟨rfl, rfl⟩ := Prod.mk.inj (Poll.ready.inj completed)
      exact .inr (.inl ⟨buffered, rfl, rfl, rfl⟩)
  · rw [read_of_buffer reader bufLen buffered] at completed
    obtain ⟨rfl, rfl⟩ := Prod.mk.inj (Poll.ready.inj completed)
    exact .inl ⟨buffered, rfl, rfl⟩

/-- Every completed read returns the next bytes of the stream, at most as many
as the caller's buffer holds. -/
theorem read_pendingBytes {reader next : StreamReader} {bufLen : Nat} {bytes : List UInt8}
    (completed : reader.read bufLen = .ready (bytes, next)) :
    bytes ++ next.pendingBytes = reader.pendingBytes ∧ bytes.length ≤ bufLen := by
  rcases read_cases completed with
    ⟨-, rfl, rfl⟩ | ⟨buffered, -, rfl, rfl⟩ | ⟨data, rest, buffered, -, queued, rfl, rfl⟩ |
      ⟨buffered, -, queued, -, rfl, rfl⟩
  · simp [pendingBytes, ← List.append_assoc]
  · simp
  · simp [pendingBytes, buffered, queued, ← List.append_assoc]
  · simp [pendingBytes, buffered, queued]

/-- A read neither opens nor closes the channel. -/
theorem read_closed {reader next : StreamReader} {bufLen : Nat} {bytes : List UInt8}
    (completed : reader.read bufLen = .ready (bytes, next)) :
    next.readerRx.closed = reader.readerRx.closed := by
  rcases read_cases completed with
    ⟨-, -, rfl⟩ | ⟨-, -, -, rfl⟩ | ⟨data, rest, -, -, -, -, rfl⟩ | ⟨-, -, -, -, -, rfl⟩ <;> rfl

/-- A read that returns no bytes found nothing buffered and either the end of
the stream or an empty chunk at the head of the queue. -/
theorem read_eq_nil {reader next : StreamReader} {bufLen : Nat} (room : 0 < bufLen)
    (completed : reader.read bufLen = .ready ([], next)) :
    reader.readerBuffer = [] ∧
      (reader.eof = true ∨ (reader.readerRx.queue = [] ∧ reader.readerRx.closed = true) ∨
        reader.readerRx.queue.head? = some []) := by
  rcases read_cases completed with
    ⟨buffered, taken, -⟩ | ⟨buffered, atEof, -, -⟩ | ⟨data, rest, buffered, -, queued, taken, -⟩ |
      ⟨buffered, -, queued, closed, -, -⟩
  · rcases List.take_eq_nil_iff.mp taken.symm with none | empty
    · exact absurd (List.eq_nil_of_length_eq_zero (by omega)) buffered
    · exact absurd empty buffered
  · exact ⟨buffered, .inl atEof⟩
  · have empty : data = [] := by
      rcases List.take_eq_nil_iff.mp taken.symm with none | empty
      · exact List.eq_nil_of_length_eq_zero (by omega)
      · exact empty
    exact ⟨buffered, .inr (.inr (by simp [queued, empty]))⟩
  · exact ⟨buffered, .inr (.inl ⟨queued, closed⟩)⟩

/-- An empty chunk at the head of the queue is returned as `Ok(0)`, although the
sender is alive and bytes follow; `read_exact` then fails with `UnexpectedEof`. -/
theorem read_empty_chunk :
    (StreamReader.new 1 ⟨[[], [7]], false⟩).read 1 =
        .ready ([], ⟨1, ⟨[[7]], false⟩, [], false⟩) ∧
      (StreamReader.new 1 ⟨[[], [7]], false⟩).readExact 1 =
        .ready (.error .unexpectedEof, ⟨1, ⟨[[7]], false⟩, [], false⟩) := by
  decide

/-! ### Without empty chunks, `Ok(0)` means the end -/

/-- No queued chunk is empty, and a reader that has seen the end has a closed,
drained channel. -/
structure Sound (reader : StreamReader) : Prop where
  nonempty : ∀ chunk ∈ reader.readerRx.queue, chunk ≠ []
  ended : reader.eof = true → reader.readerRx.closed = true ∧ reader.readerRx.queue = []

theorem Sound.new (id : UInt32) : (StreamReader.new id ⟨[], false⟩).Sound where
  nonempty _ mem := by cases mem
  ended atEof := by cases atEof

theorem read_sound {reader next : StreamReader} {bufLen : Nat} {bytes : List UInt8}
    (sound : reader.Sound) (completed : reader.read bufLen = .ready (bytes, next)) : next.Sound := by
  rcases read_cases completed with
    ⟨-, -, rfl⟩ | ⟨-, -, -, rfl⟩ | ⟨data, rest, -, notEof, queued, -, rfl⟩ |
      ⟨-, -, queued, closed, -, rfl⟩
  · exact ⟨sound.nonempty, sound.ended⟩
  · exact sound
  · refine ⟨fun chunk mem => sound.nonempty chunk (by simp [queued, mem]), ?_⟩
    intro atEof
    simp [notEof] at atEof
  · exact ⟨sound.nonempty, fun _ => ⟨closed, queued⟩⟩

/-- On a sound reader, a read into a buffer of at least one byte returns
nothing only once the channel is closed and every byte has been returned. -/
theorem read_nil_of_sound {reader next : StreamReader} {bufLen : Nat} (sound : reader.Sound)
    (room : 0 < bufLen) (completed : reader.read bufLen = .ready ([], next)) :
    reader.readerRx.closed = true ∧ reader.pendingBytes = [] := by
  obtain ⟨drained, cause⟩ := read_eq_nil room completed
  rcases cause with atEof | ⟨empty, closed⟩ | headEmpty
  · obtain ⟨closed, empty⟩ := sound.ended atEof
    exact ⟨closed, by simp [pendingBytes, drained, empty]⟩
  · exact ⟨closed, by simp [pendingBytes, drained, empty]⟩
  · -- the head of the queue would be an empty chunk
    exact absurd rfl (sound.nonempty [] (List.mem_of_mem_head? headEmpty))

/-- On a sound reader with bytes pending, a read into a buffer of at least one
byte completes and returns at least one byte. -/
theorem read_of_pending {reader : StreamReader} {bufLen : Nat} (sound : reader.Sound)
    (room : 0 < bufLen) (pending : reader.pendingBytes ≠ []) :
    ∃ bytes next, reader.read bufLen = .ready (bytes, next) ∧ bytes ≠ [] := by
  by_cases buffered : reader.readerBuffer = []
  · -- the bytes are in the next chunk, which is not empty
    obtain ⟨data, rest, queued⟩ : ∃ data rest, reader.readerRx.queue = data :: rest := by
      cases queue : reader.readerRx.queue with
      | nil => simp [pendingBytes, buffered, queue] at pending
      | cons data rest => exact ⟨data, rest, rfl⟩
    have notEof : reader.eof = false := by
      cases atEof : reader.eof
      · rfl
      · simp [(sound.ended atEof).2] at queued
    have filled : data ≠ [] := sound.nonempty data (by simp [queued])
    refine ⟨_, _, read_of_chunk reader bufLen notEof buffered queued, ?_⟩
    simpa [List.take_eq_nil_iff, filled] using room.ne'
  · refine ⟨_, _, read_of_buffer reader bufLen buffered, ?_⟩
    simpa [List.take_eq_nil_iff, buffered] using room.ne'

/-- The loop of `read_exact` on a sound reader that holds enough bytes fills
the rest of the buffer with exactly the next bytes. -/
theorem readExactLoop_of_available :
    ∀ (fuel remaining : Nat) (reader : StreamReader) (filled : List UInt8), remaining ≤ fuel →
      reader.Sound → remaining ≤ reader.pendingBytes.length →
      ∃ next, readExactLoop fuel remaining reader filled =
          .ready (.ok (filled ++ reader.pendingBytes.take remaining), next) ∧
        next.pendingBytes = reader.pendingBytes.drop remaining ∧ next.Sound
  | _, 0, reader, filled, _, sound, _ => ⟨reader, by simp [readExactLoop], by simp, sound⟩
  | 0, _ + 1, _, _, bound, _, _ => absurd bound (by omega)
  | fuel + 1, remaining + 1, reader, filled, bound, sound, enough => by
      obtain ⟨bytes, next, completed, nonempty⟩ :=
        read_of_pending sound (Nat.succ_pos remaining) (List.ne_nil_of_length_pos (by omega))
      obtain ⟨split, fits⟩ := read_pendingBytes completed
      have some : bytes.length ≠ 0 := fun zero => nonempty (List.eq_nil_of_length_eq_zero zero)
      have shorter : remaining + 1 - bytes.length ≤ next.pendingBytes.length := by
        have total := congrArg List.length split
        simp only [List.length_append] at total
        omega
      obtain ⟨final, loop, left, finalSound⟩ := readExactLoop_of_available fuel
        (remaining + 1 - bytes.length) next (filled ++ bytes) (by omega) (read_sound sound completed)
        shorter
      refine ⟨final, ?_, ?_, finalSound⟩
      · -- the bytes of this round, then the bytes of the later rounds
        rw [readExactLoop, completed]
        simp only [some, if_false, loop, ← split, List.take_append, List.take_of_length_le fits,
          List.append_assoc]
      · rw [left, ← split, List.drop_append, List.drop_eq_nil_of_le fits, List.nil_append]

/-- `read_exact` of `total` bytes on a sound reader that holds them returns
exactly the next `total` bytes. -/
theorem readExact_of_available {reader : StreamReader} {total : Nat} (sound : reader.Sound)
    (enough : total ≤ reader.pendingBytes.length) :
    ∃ next, reader.readExact total = .ready (.ok (reader.pendingBytes.take total), next) ∧
      next.pendingBytes = reader.pendingBytes.drop total ∧ next.Sound := by
  have loop := readExactLoop_of_available total total reader [] le_rfl sound enough
  rw [readExact]
  simpa using loop

/-- `read_exact` neither opens nor closes the channel. -/
theorem readExactLoop_closed :
    ∀ (fuel remaining : Nat) (reader : StreamReader) (filled : List UInt8)
      {result : Except ReadError (List UInt8)} {next : StreamReader},
      readExactLoop fuel remaining reader filled = .ready (result, next) →
      next.readerRx.closed = reader.readerRx.closed
  | _, 0, _, _, _, _, done => by
      simp only [readExactLoop, Poll.ready.injEq, Prod.mk.injEq] at done
      rw [done.2]
  | 0, _ + 1, _, _, _, _, done => by
      simp only [readExactLoop, Poll.ready.injEq, Prod.mk.injEq] at done
      rw [done.2]
  | fuel + 1, remaining + 1, reader, filled, _, _, done => by
      rw [readExactLoop] at done
      rcases completed : reader.read (remaining + 1) with ⟨bytes, afterRead⟩ | _ <;>
        rw [completed] at done
      · have same := read_closed completed
        dsimp only at done
        split_ifs at done
        · simp only [Poll.ready.injEq, Prod.mk.injEq] at done
          rw [← done.2, same]
        · rw [readExactLoop_closed fuel _ afterRead _ done, same]
      · cases done

/-- A sound reader that holds no more bytes and whose sender is gone returns
nothing, so `read_exact` fails having filled nothing. -/
theorem readExact_at_end {reader : StreamReader} (sound : reader.Sound)
    (drained : reader.pendingBytes = []) (closed : reader.readerRx.closed = true) (total : Nat) :
    ∃ next, reader.readExact (total + 1) = .ready (.error .unexpectedEof, next) ∧
      next.pendingBytes = [] := by
  have buffered : reader.readerBuffer = [] := (List.append_eq_nil_iff.mp drained).1
  have empty : reader.readerRx.queue = [] := by
    have flat : reader.readerRx.queue.flatten = [] := (List.append_eq_nil_iff.mp drained).2
    rcases queue : reader.readerRx.queue with _ | ⟨chunk, chunks⟩
    · rfl
    · have : chunk = [] := by simp_all
      exact absurd this (sound.nonempty chunk (by simp [queue]))
  -- the read finds the end again, or finds the channel closed and empty
  obtain ⟨next, completed, left⟩ : ∃ next, reader.read (total + 1) = .ready ([], next) ∧
      next.pendingBytes = [] := by
    cases atEof : reader.eof
    · exact ⟨_, read_of_closed reader _ atEof buffered empty closed,
        by simp [pendingBytes, buffered, empty]⟩
    · exact ⟨_, read_of_eof reader _ atEof buffered, drained⟩
  refine ⟨next, ?_, left⟩
  simp [readExact, readExactLoop, completed]

/-! ### Runs of one reader -/

/-- Around one reader the session sends a chunk or drops the sender, and the
owner calls `read` with a buffer of the given length. -/
inductive ReaderEvent
  | send (data : List UInt8)
  | dropSender
  | read (bufLen : Nat)
  deriving DecidableEq, Repr

/-- The reader together with the bytes sent to it and the bytes its reads
returned, each concatenated in order. -/
structure ReaderRun where
  reader : StreamReader
  sent : List UInt8
  returned : List UInt8
  deriving DecidableEq, Repr

/-- One event. A send after the sender was dropped cannot happen, and a read that
would wait is not enabled. -/
def ReaderRun.step (current : ReaderRun) : ReaderEvent → Option ReaderRun
  | .send data =>
      if current.reader.readerRx.closed then none
      else some { current with
        reader := { current.reader with readerRx := current.reader.readerRx.send data }
        sent := current.sent ++ data }
  | .dropSender =>
      some { current with
        reader := { current.reader with readerRx := current.reader.readerRx.dropSender } }
  | .read bufLen =>
      match current.reader.read bufLen with
      | .ready (bytes, next) => some { current with reader := next, returned := current.returned ++ bytes }
      | .pending => none

/-- What the reader has returned, followed by what it holds, is what was sent. -/
def ReaderRun.Conserves (current : ReaderRun) : Prop :=
  current.returned ++ current.reader.pendingBytes = current.sent

theorem ReaderRun.step_conserves {current next : ReaderRun} {event : ReaderEvent}
    (holds : current.Conserves) (stepped : current.step event = some next) : next.Conserves := by
  cases event with
  | send data =>
      simp only [step] at stepped
      split at stepped
      · cases stepped
      · cases stepped
        simp only [Conserves, pendingBytes, Receiver.send] at holds ⊢
        simp [← holds]
  | dropSender =>
      simp only [step] at stepped
      cases stepped
      simpa [Conserves, pendingBytes, Receiver.dropSender] using holds
  | read bufLen =>
      simp only [step] at stepped
      split at stepped
      · rename_i bytes after completed
        cases stepped
        simp only [Conserves] at holds ⊢
        rw [List.append_assoc, (read_pendingBytes completed).1, holds]
      · cases stepped

/-- Over every run of sends, a dropped sender and reads, the bytes the reads
returned are a prefix of the bytes sent, and what is missing is exactly what
the reader still holds. -/
theorem run_returned_append_pendingBytes {start final : ReaderRun} {events : List ReaderEvent}
    (fresh : start.Conserves) (done : Runs.run ReaderRun.step start events = some final) :
    final.returned ++ final.reader.pendingBytes = final.sent :=
  Runs.run_invariant ReaderRun.step ReaderRun.Conserves
    (fun _ _ _ holds stepped => ReaderRun.step_conserves holds stepped) fresh done

/-- Three bytes sent, two read, one more sent, the sender dropped, and a read
of up to five: what was returned and what is held is what was sent. -/
theorem reads_return_sent_bytes :
    ∃ final, Runs.run ReaderRun.step ⟨StreamReader.new 1 ⟨[], false⟩, [], []⟩
        [.send [1, 2, 3], .read 2, .send [4], .dropSender, .read 5] = some final ∧
      final.returned ++ final.reader.pendingBytes = final.sent :=
  ⟨_, rfl, @run_returned_append_pendingBytes ⟨StreamReader.new 1 ⟨[], false⟩, [], []⟩ _
    [.send [1, 2, 3], .read 2, .send [4], .dropSender, .read 5] rfl rfl⟩

/-- Sends of non-empty chunks keep the reader sound. -/
theorem ReaderRun.step_sound {current next : ReaderRun} {event : ReaderEvent}
    (allowed : ∀ data, event = .send data → data ≠ []) (sound : current.reader.Sound)
    (stepped : current.step event = some next) : next.reader.Sound := by
  cases event with
  | send data =>
      simp only [step] at stepped
      split at stepped
      · cases stepped
      · rename_i open_
        cases stepped
        refine ⟨fun chunk mem => ?_, fun atEof => ?_⟩
        · rcases List.mem_append.mp mem with old | new
          · exact sound.nonempty chunk old
          · rw [List.mem_singleton.mp new]
            exact allowed data rfl
        · simp [(sound.ended atEof).1] at open_
  | dropSender =>
      simp only [step] at stepped
      cases stepped
      exact ⟨sound.nonempty, fun atEof => ⟨rfl, (sound.ended atEof).2⟩⟩
  | read bufLen =>
      simp only [step] at stepped
      split at stepped
      · rename_i bytes after completed
        cases stepped
        exact read_sound sound completed
      · cases stepped

/-- Over every run in which no chunk sent is empty, a read into a buffer of at
least one byte returns `Ok(0)` only once the sender has been dropped and every
byte sent has been returned. -/
theorem read_eof_only_at_end {start current : ReaderRun} {events : List ReaderEvent}
    (fresh : start.Conserves) (sound : start.reader.Sound)
    (nonempty : ∀ data, .send data ∈ events → data ≠ [])
    (done : Runs.run ReaderRun.step start events = some current) {bufLen : Nat} (room : 0 < bufLen)
    {next : StreamReader} (ended : current.reader.read bufLen = .ready ([], next)) :
    current.reader.readerRx.closed = true ∧ current.returned = current.sent := by
  have conserves : current.Conserves := Runs.run_invariant ReaderRun.step ReaderRun.Conserves
    (fun _ _ _ holds stepped => ReaderRun.step_conserves holds stepped) fresh done
  have stillSound : current.reader.Sound :=
    Runs.run_invariant_of_forall ReaderRun.step (fun run => run.reader.Sound)
      (fun event => ∀ data, event = .send data → data ≠ [])
      (fun _ _ _ allowed holds stepped => ReaderRun.step_sound allowed holds stepped)
      (fun event mem data sent => nonempty data (sent ▸ mem)) sound done
  obtain ⟨closed, drained⟩ := read_nil_of_sound stillSound room ended
  refine ⟨closed, ?_⟩
  rw [← conserves, drained, List.append_nil]

/-- Three bytes sent, all three read, the sender dropped: the next read returns
`Ok(0)`, and by then everything sent has been returned. -/
theorem eof_after_all_bytes :
    ∃ current, Runs.run ReaderRun.step ⟨StreamReader.new 1 ⟨[], false⟩, [], []⟩
        [.send [1, 2, 3], .read 3, .dropSender] = some current ∧
      current.reader.read 1 = .ready ([], { current.reader with eof := true }) ∧
      (current.reader.readerRx.closed = true ∧ current.returned = current.sent) := by
  refine ⟨_, rfl, rfl, ?_⟩
  exact @read_eof_only_at_end ⟨StreamReader.new 1 ⟨[], false⟩, [], []⟩ _
    [.send [1, 2, 3], .read 3, .dropSender] rfl (Sound.new 1)
    (fun data mem => by simp at mem; simp [mem]) rfl 1 (by decide) _ rfl

end StreamReader

end AnyTls
