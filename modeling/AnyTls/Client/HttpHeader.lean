/-
# Reading the request header over any chunking

`read_http_header` appends each read to its buffer, refuses the buffer once it
holds more than `MAX_HEADER_SIZE` bytes, and otherwise looks for the first
`\r\n\r\n` in it. Whatever the chunking, what it returns is the stream's prefix
up to and including its first `\r\n\r\n`, followed by the rest of the bytes
read (`readHttpHeader_ok`), so two chunkings of one stream that are both read
return the same header (`readHttpHeader_same_header`). While all the bytes
the reads bring fit within `MAX_HEADER_SIZE`, the header is found
(`readHttpHeader_of_fits`).

The limit is checked against the whole buffer, though, body bytes of the same
read included, before the terminator is looked for: a header of exactly
`MAX_HEADER_SIZE` bytes is accepted when a read ends with it, and refused when
the read that completes it also brings a byte of the body
(`header_limit_depends_on_chunking`).
-/

import AnyTls.Client.HttpProxy

namespace AnyTls

namespace HttpProxy

/-! ### The first terminator -/

theorem isPrefixOf_append_of_length_le {α : Type} [BEq α] :
    ∀ {pattern buf : List α} (more : List α), pattern.length ≤ buf.length →
      pattern.isPrefixOf (buf ++ more) = pattern.isPrefixOf buf
  | [], _, _, _ => by simp [List.isPrefixOf]
  | _ :: _, [], _, long => by simp at long
  | _ :: pattern, _ :: buf, more, long => by
      simp only [List.cons_append, List.isPrefixOf]
      rw [isPrefixOf_append_of_length_le more (by simpa using long)]

/-- The first terminator ends after a whole terminator and within the buffer. -/
theorem findHeaderEnd_bounds {buf : List UInt8} {headerEnd : Nat}
    (found : findHeaderEnd buf = some headerEnd) :
    headerTerminator.length ≤ headerEnd ∧ headerEnd ≤ buf.length := by
  induction buf generalizing headerEnd with
  | nil => cases found
  | cons byte rest ih =>
      unfold findHeaderEnd at found
      split_ifs at found with atStart
      · cases found
        exact ⟨le_rfl, (List.isPrefixOf_iff_prefix.mp atStart).length_le⟩
      · obtain ⟨later, foundLater, rfl⟩ := Option.map_eq_some_iff.mp found
        have := ih foundLater
        simp only [List.length_cons]
        omega

/-- A terminator found in a buffer is found, at the same place, in every
extension of it. -/
theorem findHeaderEnd_append_of_eq_some {buf : List UInt8} {headerEnd : Nat}
    (found : findHeaderEnd buf = some headerEnd) (more : List UInt8) :
    findHeaderEnd (buf ++ more) = some headerEnd := by
  induction buf generalizing headerEnd with
  | nil => cases found
  | cons byte rest ih =>
      unfold findHeaderEnd at found
      split_ifs at found with atStart
      · cases found
        have extended : headerTerminator.isPrefixOf (byte :: (rest ++ more)) = true :=
          List.isPrefixOf_iff_prefix.mpr
            ((List.isPrefixOf_iff_prefix.mp atStart).trans (List.prefix_append _ _))
        rw [List.cons_append, findHeaderEnd, if_pos extended]
      · obtain ⟨later, foundLater, rfl⟩ := Option.map_eq_some_iff.mp found
        -- the rest holds a whole terminator, so the test at the start reads
        -- no byte of `more`
        have long : headerTerminator.length ≤ (byte :: rest).length := by
          have := findHeaderEnd_bounds foundLater
          simp only [List.length_cons]
          omega
        have stillNot : headerTerminator.isPrefixOf (byte :: (rest ++ more)) = false := by
          rw [← List.cons_append, isPrefixOf_append_of_length_le more long]
          exact Bool.eq_false_iff.mpr atStart
        rw [List.cons_append, findHeaderEnd, stillNot, if_neg Bool.false_ne_true, ih foundLater]
        rfl

/-- Bytes with no carriage return hold no terminator and start none. -/
theorem findHeaderEnd_append_of_not_mem {front : List UInt8} (noReturn : (13 : UInt8) ∉ front)
    (tail : List UInt8) :
    findHeaderEnd (front ++ tail) = (findHeaderEnd tail).map (· + front.length) := by
  induction front with
  | nil => simp
  | cons byte rest ih =>
      have notReturn : byte ≠ 13 := fun isReturn => noReturn (isReturn ▸ List.mem_cons_self)
      have notAtStart : ¬ headerTerminator.isPrefixOf (byte :: (rest ++ tail)) = true := by
        simp [headerTerminator, List.isPrefixOf, Ne.symm notReturn]
      rw [List.cons_append, findHeaderEnd, if_neg notAtStart,
        ih (fun mem => noReturn (List.mem_cons_of_mem _ mem)), Option.map_map]
      simp only [List.length_cons, Function.comp_def, Nat.add_assoc]

/-! ### The read loop -/

/-- One read that is not the end of the connection. -/
theorem readHttpHeaderLoop_cons {chunk : List UInt8} (notEnd : chunk ≠ [])
    (chunks : List (List UInt8)) (buf : List UInt8) :
    readHttpHeaderLoop (chunk :: chunks) buf =
      if (buf ++ chunk).length > maxHeaderSize then .error (.protocol "HTTP header too large".toList)
      else
        match findHeaderEnd (buf ++ chunk) with
        | some headerEnd => .ok ((buf ++ chunk).take headerEnd, (buf ++ chunk).drop headerEnd)
        | none => readHttpHeaderLoop chunks (buf ++ chunk) := by
  obtain ⟨byte, rest, rfl⟩ := List.exists_cons_of_ne_nil notEnd
  rfl

/-- Reads that bring no terminator and keep the buffer within the limit are
only appended to it. -/
theorem readHttpHeaderLoop_append_of_pending {reads : List (List UInt8)}
    (notEnd : ∀ chunk ∈ reads, chunk ≠ []) (later : List (List UInt8)) :
    ∀ {buf : List UInt8}, findHeaderEnd (buf ++ reads.flatten) = none →
      (buf ++ reads.flatten).length ≤ maxHeaderSize →
      readHttpHeaderLoop (reads ++ later) buf = readHttpHeaderLoop later (buf ++ reads.flatten) := by
  induction reads with
  | nil => simp
  | cons chunk chunks ih =>
      intro buf pending fits
      rw [List.flatten_cons, ← List.append_assoc] at pending fits
      -- the buffer after this read is a prefix of the one after all of them
      have chunkPending : findHeaderEnd (buf ++ chunk) = none := by
        cases found : findHeaderEnd (buf ++ chunk) with
        | none => rfl
        | some headerEnd =>
            rw [findHeaderEnd_append_of_eq_some found] at pending
            cases pending
      have chunkFits : ¬ (buf ++ chunk).length > maxHeaderSize := by
        simp only [List.length_append] at fits ⊢
        omega
      rw [List.cons_append, readHttpHeaderLoop_cons (notEnd chunk List.mem_cons_self),
        if_neg chunkFits, chunkPending,
        ih (fun other mem => notEnd other (List.mem_cons_of_mem _ mem)) pending fits,
        List.flatten_cons, List.append_assoc]

/-- What a successful read returns: the buffer and some of the reads, within
the limit, and their first terminator ends the header. -/
theorem readHttpHeaderLoop_ok :
    ∀ {reads : List (List UInt8)} {buf header remaining : List UInt8},
      readHttpHeaderLoop reads buf = .ok (header, remaining) →
      ∃ count, header ++ remaining = buf ++ (reads.take count).flatten ∧
        findHeaderEnd (header ++ remaining) = some header.length ∧
        (header ++ remaining).length ≤ maxHeaderSize
  | [], _, _, _, read => by cases read
  | [] :: _, _, _, _, read => by cases read
  | (byte :: rest) :: chunks, buf, header, remaining, read => by
      rw [readHttpHeaderLoop_cons (List.cons_ne_nil byte rest)] at read
      split_ifs at read with tooLarge
      split at read
      · next headerEnd found =>
          cases read
          have within := (findHeaderEnd_bounds found).2
          refine ⟨1, by simp, ?_, by rw [List.take_append_drop]; omega⟩
          rw [List.take_append_drop, found, List.length_take, Nat.min_eq_left within]
      · next pending =>
          obtain ⟨count, bytes, found, fits⟩ := readHttpHeaderLoop_ok read
          exact ⟨count + 1, by simp [bytes], found, fits⟩

/-! ### Any two chunkings -/

/-- Whatever the chunking, a header that `read_http_header` returns is the
stream's prefix up to and including its first `\r\n\r\n`, and what it returns
with it are the bytes read after it, within the limit. -/
theorem readHttpHeader_ok {reads : List (List UInt8)} {header remaining : List UInt8}
    (read : readHttpHeader reads = .ok (header, remaining)) :
    findHeaderEnd reads.flatten = some header.length ∧
      header = reads.flatten.take header.length ∧
      header ++ remaining <+: reads.flatten ∧ (header ++ remaining).length ≤ maxHeaderSize := by
  obtain ⟨count, bytes, found, fits⟩ := readHttpHeaderLoop_ok read
  have taken : header ++ remaining <+: reads.flatten := by
    have split : reads.flatten = (reads.take count).flatten ++ (reads.drop count).flatten := by
      rw [← List.flatten_append, List.take_append_drop]
    rw [bytes, List.nil_append, split]
    exact List.prefix_append _ _
  obtain ⟨unread, whole⟩ := taken
  refine ⟨?_, ?_, ⟨unread, whole⟩, fits⟩
  · rw [← whole]
    exact findHeaderEnd_append_of_eq_some found unread
  · rw [← whole, List.append_assoc, List.take_left]

/-- Two chunkings of one stream that are both read successfully give the same
header, and it is the stream's prefix up to and including its first
`\r\n\r\n`. -/
theorem readHttpHeader_same_header {reads other : List (List UInt8)}
    (sameStream : reads.flatten = other.flatten) {header remaining header' remaining' : List UInt8}
    (first : readHttpHeader reads = .ok (header, remaining))
    (second : readHttpHeader other = .ok (header', remaining')) :
    header = header' ∧
      ∃ headerEnd, findHeaderEnd reads.flatten = some headerEnd ∧ header = reads.flatten.take headerEnd := by
  obtain ⟨foundFirst, takenFirst, -⟩ := readHttpHeader_ok first
  obtain ⟨foundSecond, takenSecond, -⟩ := readHttpHeader_ok second
  refine ⟨?_, header.length, foundFirst, takenFirst⟩
  rw [sameStream, foundSecond, Option.some_inj] at foundFirst
  rw [takenFirst, takenSecond, sameStream, foundFirst]

/-- `G\r\n\r\nA` read whole, and read with the terminator split and the body
byte in a read of its own: the header is the same, what is left over is not. -/
theorem same_header_over_two_chunkings :
    ([[71, 13, 10, 13, 10, 65]] : List (List UInt8)).flatten = [[71, 13, 10], [13, 10], [65]].flatten ∧
    readHttpHeader [[71, 13, 10, 13, 10, 65]] = .ok ([71, 13, 10, 13, 10], [65]) ∧
    readHttpHeader [[71, 13, 10], [13, 10], [65]] = .ok ([71, 13, 10, 13, 10], []) ∧
    ([71, 13, 10, 13, 10] : List UInt8) = [71, 13, 10, 13, 10] ∧
      ∃ headerEnd, findHeaderEnd ([[71, 13, 10, 13, 10, 65]] : List (List UInt8)).flatten = some headerEnd ∧
        ([71, 13, 10, 13, 10] : List UInt8) = ([[71, 13, 10, 13, 10, 65]] : List (List UInt8)).flatten.take headerEnd := by
  have sameStream : ([[71, 13, 10, 13, 10, 65]] : List (List UInt8)).flatten =
      [[71, 13, 10], [13, 10], [65]].flatten := rfl
  have whole : readHttpHeader [[71, 13, 10, 13, 10, 65]] = .ok ([71, 13, 10, 13, 10], [65]) := rfl
  have split : readHttpHeader [[71, 13, 10], [13, 10], [65]] = .ok ([71, 13, 10, 13, 10], []) := rfl
  exact ⟨sameStream, whole, split, readHttpHeader_same_header sameStream whole split⟩

/-- While all the bytes the reads bring fit within the limit, a stream that
holds a terminator is read up to it, before any end of the connection. -/
theorem readHttpHeader_of_fits {reads : List (List UInt8)} (notEnd : ∀ chunk ∈ reads, chunk ≠ [])
    {headerEnd : Nat} (found : findHeaderEnd reads.flatten = some headerEnd)
    (fits : reads.flatten.length ≤ maxHeaderSize) :
    ∃ remaining, readHttpHeader reads = .ok (reads.flatten.take headerEnd, remaining) := by
  suffices general : ∀ {buf : List UInt8}, findHeaderEnd buf = none →
      findHeaderEnd (buf ++ reads.flatten) = some headerEnd →
      (buf ++ reads.flatten).length ≤ maxHeaderSize →
      ∃ remaining, readHttpHeaderLoop reads buf = .ok ((buf ++ reads.flatten).take headerEnd, remaining) by
    have fromEmpty := @general [] rfl (by simpa using found) (by simpa using fits)
    simpa [readHttpHeader] using fromEmpty
  clear found fits
  induction reads with
  | nil =>
      intro buf pending found _
      rw [List.flatten_nil, List.append_nil, pending] at found
      cases found
  | cons chunk chunks ih =>
      intro buf _ found fits
      rw [List.flatten_cons, ← List.append_assoc] at found fits
      have chunkFits : ¬ (buf ++ chunk).length > maxHeaderSize := by
        simp only [List.length_append] at fits ⊢
        omega
      rw [readHttpHeaderLoop_cons (notEnd chunk List.mem_cons_self), if_neg chunkFits,
        List.flatten_cons, ← List.append_assoc]
      cases foundHere : findHeaderEnd (buf ++ chunk) with
      | some here =>
          -- the first terminator of the stream is already in this buffer
          rw [findHeaderEnd_append_of_eq_some foundHere, Option.some_inj] at found
          subst found
          refine ⟨(buf ++ chunk).drop here, ?_⟩
          rw [List.take_append_of_le_length (findHeaderEnd_bounds foundHere).2]
      | none =>
          exact ih (fun other mem => notEnd other (List.mem_cons_of_mem _ mem)) foundHere found fits

/-- `G\r\n\r\nA` in three reads, far within the limit, is read up to its terminator. -/
theorem split_terminator_found :
    (∀ chunk ∈ ([[71, 13, 10], [13, 10], [65]] : List (List UInt8)), chunk ≠ []) ∧
    findHeaderEnd [[71, 13, 10], [13, 10], [65]].flatten = some 5 ∧
    [[71, 13, 10], [13, 10], [65]].flatten.length ≤ maxHeaderSize ∧
    ∃ remaining, readHttpHeader [[71, 13, 10], [13, 10], [65]] =
      .ok ([[71, 13, 10], [13, 10], [65]].flatten.take 5, remaining) := by
  have notEnd : ∀ chunk ∈ ([[71, 13, 10], [13, 10], [65]] : List (List UInt8)), chunk ≠ [] := by
    decide
  have found : findHeaderEnd [[71, 13, 10], [13, 10], [65]].flatten = some 5 := rfl
  have fits : [[71, 13, 10], [13, 10], [65]].flatten.length ≤ maxHeaderSize := by decide
  exact ⟨notEnd, found, fits, readHttpHeader_of_fits notEnd found fits⟩

/-! ### A header of exactly `MAX_HEADER_SIZE` bytes -/

/-- `GET http://example.com/aaa…a HTTP/1.1` with a path of 65,500 letters
after the host: with the blank line after it, `MAX_HEADER_SIZE` bytes. -/
def longRequestLine : List UInt8 :=
  RustText.intoBytes "GET http://example.com/".toList ++ List.replicate 65500 97 ++
    RustText.intoBytes " HTTP/1.1".toList

/-- The first 64,512 bytes of the request line, in reads of 1024 bytes. -/
def longRequestHead : List (List UInt8) :=
  (RustText.intoBytes "GET http://example.com/".toList ++ List.replicate 1001 97) ::
    List.replicate 62 (List.replicate 1024 97)

/-- The request and one byte of body, in reads of 1024 bytes: the last read
of the header ends with it. -/
def readsEndingWithHeader : List (List UInt8) :=
  longRequestHead ++
    [List.replicate 1011 97 ++ RustText.intoBytes " HTTP/1.1".toList ++ headerTerminator, [65]]

/-- The same bytes with the last read of the header one byte short: the read
after it brings the header's last byte with the body. -/
def readsSplittingTerminator : List (List UInt8) :=
  longRequestHead ++
    [List.replicate 1011 97 ++ RustText.intoBytes " HTTP/1.1".toList ++ [13, 10, 13], [10, 65]]

theorem longRequestHead_flatten : longRequestHead.flatten =
    RustText.intoBytes "GET http://example.com/".toList ++ List.replicate 64489 97 := by
  simp only [longRequestHead, List.flatten_cons, List.flatten_replicate_replicate, List.append_assoc,
    List.replicate_append_replicate, Nat.reduceMul, Nat.reduceAdd]

theorem longRequestLine_eq : longRequestLine =
    longRequestHead.flatten ++ (List.replicate 1011 97 ++ RustText.intoBytes " HTTP/1.1".toList) := by
  simp only [longRequestLine, longRequestHead_flatten, List.append_assoc]
  rw [← List.append_assoc (List.replicate 64489 97), List.replicate_append_replicate]

theorem not_return_mem_longRequestLine : (13 : UInt8) ∉ longRequestLine := by
  have inPrefix : (13 : UInt8) ∉ RustText.intoBytes "GET http://example.com/".toList := by decide
  have inSuffix : (13 : UInt8) ∉ RustText.intoBytes " HTTP/1.1".toList := by decide
  simp only [longRequestLine, List.mem_append, List.mem_replicate, inPrefix, inSuffix]
  decide

theorem length_requestPrefix : (RustText.intoBytes "GET http://example.com/".toList).length = 23 := by
  decide

theorem length_requestSuffix : (RustText.intoBytes " HTTP/1.1".toList).length = 9 := by
  decide

theorem length_longRequestLine : longRequestLine.length = 65532 := by
  simp only [longRequestLine, List.length_append, List.length_replicate, length_requestPrefix,
    length_requestSuffix]

/-- A read of `length` bytes, `0 < length ≤ 1024`, is one `stream.read(&mut tmp)` can return. -/
theorem readable_of_length {chunk : List UInt8} {length : Nat} (exact : chunk.length = length)
    (positive : 0 < length) (fits : length ≤ 1024) : chunk ≠ [] ∧ chunk.length ≤ 1024 :=
  ⟨List.ne_nil_of_length_pos (by omega), by omega⟩

theorem longRequestHead_reads : ∀ chunk ∈ longRequestHead, chunk ≠ [] ∧ chunk.length ≤ 1024 := by
  intro chunk mem
  simp only [longRequestHead, List.mem_cons, List.mem_replicate] at mem
  rcases mem with rfl | ⟨-, rfl⟩
  · refine readable_of_length ?_ (Nat.succ_pos 1023) le_rfl
    rw [List.length_append, length_requestPrefix, List.length_replicate]
  · exact readable_of_length (List.length_replicate ..) (Nat.succ_pos 1023) le_rfl

/-- The head of both chunkings holds no terminator and fits within the limit. -/
theorem longRequestHead_pending :
    findHeaderEnd ([] ++ longRequestHead.flatten) = none ∧
      ([] ++ longRequestHead.flatten).length ≤ maxHeaderSize := by
  have noReturn : (13 : UInt8) ∉ longRequestHead.flatten := by
    intro mem
    apply not_return_mem_longRequestLine
    rw [longRequestLine_eq]
    exact List.mem_append_left _ mem
  have headLength : longRequestHead.flatten.length ≤ longRequestLine.length := by
    rw [longRequestLine_eq, List.length_append]
    exact Nat.le_add_right _ _
  constructor
  · have pending := findHeaderEnd_append_of_not_mem noReturn []
    rw [List.append_nil] at pending
    rw [List.nil_append, pending]
    rfl
  · have := length_longRequestLine
    rw [List.nil_append, maxHeaderSize]
    omega

theorem length_longRequestHeader :
    (longRequestLine ++ headerTerminator).length = maxHeaderSize := by
  rw [List.length_append, length_longRequestLine]
  rfl

theorem findHeaderEnd_longRequestHeader :
    findHeaderEnd (longRequestLine ++ headerTerminator) = some maxHeaderSize := by
  rw [findHeaderEnd_append_of_not_mem not_return_mem_longRequestLine, length_longRequestLine]
  rfl

/-- Both chunkings go through the head alone, with nothing found. -/
theorem readHttpHeaderLoop_longRequestHead (later : List (List UInt8)) :
    readHttpHeaderLoop (longRequestHead ++ later) [] =
      readHttpHeaderLoop later ([] ++ longRequestHead.flatten) :=
  readHttpHeaderLoop_append_of_pending (fun chunk mem => (longRequestHead_reads chunk mem).1) later
    longRequestHead_pending.1 longRequestHead_pending.2

theorem readsEndingWithHeader_flatten :
    readsEndingWithHeader.flatten = longRequestLine ++ headerTerminator ++ [65] := by
  rw [readsEndingWithHeader, List.flatten_append, longRequestLine_eq]
  simp only [List.flatten_cons, List.flatten_nil, List.append_nil, List.append_assoc]

theorem readsSplittingTerminator_flatten :
    readsSplittingTerminator.flatten = longRequestLine ++ headerTerminator ++ [65] := by
  rw [readsSplittingTerminator, List.flatten_append, longRequestLine_eq]
  simp only [List.flatten_cons, List.flatten_nil, List.append_nil, List.append_assoc,
    headerTerminator, List.cons_append, List.nil_append]

/-- The head followed by two reads that `stream.read` can return. -/
theorem longRequestHead_append_reads {last body : List UInt8}
    (lastReadable : last ≠ [] ∧ last.length ≤ 1024) (bodyReadable : body ≠ [] ∧ body.length ≤ 1024) :
    ∀ chunk ∈ longRequestHead ++ [last, body], chunk ≠ [] ∧ chunk.length ≤ 1024 := by
  intro chunk mem
  simp only [List.mem_append, List.mem_cons, List.not_mem_nil, or_false] at mem
  rcases mem with head | rfl | rfl
  · exact longRequestHead_reads chunk head
  · exact lastReadable
  · exact bodyReadable

theorem readsEndingWithHeader_reads :
    ∀ chunk ∈ readsEndingWithHeader, chunk ≠ [] ∧ chunk.length ≤ 1024 := by
  refine longRequestHead_append_reads (readable_of_length ?_ (Nat.succ_pos 1023) le_rfl)
    (readable_of_length rfl Nat.one_pos (by decide))
  rw [List.length_append, List.length_append, List.length_replicate, length_requestSuffix]
  rfl

theorem readsSplittingTerminator_reads :
    ∀ chunk ∈ readsSplittingTerminator, chunk ≠ [] ∧ chunk.length ≤ 1024 := by
  refine longRequestHead_append_reads (readable_of_length ?_ (Nat.succ_pos 1022) (by omega))
    (readable_of_length rfl (Nat.succ_pos 1) (by decide))
  rw [List.length_append, List.length_append, List.length_replicate, length_requestSuffix]
  rfl

/-- The read that ends with the header leaves the buffer at the limit, where
the header is found. -/
theorem readHttpHeader_readsEndingWithHeader :
    readHttpHeader readsEndingWithHeader = .ok (longRequestLine ++ headerTerminator, []) := by
  -- `simp` is kept off `[] ++ _` here: closing it by unfolding would make the
  -- kernel build the 64,512 bytes of the head
  have ending : longRequestHead.flatten ++
      (List.replicate 1011 97 ++ RustText.intoBytes " HTTP/1.1".toList ++ headerTerminator) =
      longRequestLine ++ headerTerminator := by
    rw [longRequestLine_eq]
    simp only [List.append_assoc]
  rw [readHttpHeader, readsEndingWithHeader, readHttpHeaderLoop_longRequestHead,
    readHttpHeaderLoop_cons (List.append_ne_nil_of_right_ne_nil _ (show headerTerminator ≠ [] by decide)),
    List.nil_append, ending, length_longRequestHeader,
    if_neg (Nat.lt_irrefl _), findHeaderEnd_longRequestHeader]
  simp only [List.take_of_length_le length_longRequestHeader.le,
    List.drop_of_length_le length_longRequestHeader.le]

/-- One byte short of the terminator the buffer holds none, and the next read
takes it past the limit. -/
theorem readHttpHeader_readsSplittingTerminator :
    readHttpHeader readsSplittingTerminator = .error (.protocol "HTTP header too large".toList) := by
  have splitting : longRequestHead.flatten ++
      (List.replicate 1011 97 ++ RustText.intoBytes " HTTP/1.1".toList ++ [13, 10, 13]) =
      longRequestLine ++ [13, 10, 13] := by
    rw [longRequestLine_eq]
    simp only [List.append_assoc]
  have shortLength : (longRequestLine ++ [13, 10, 13]).length = 65535 := by
    rw [List.length_append, length_longRequestLine]
    rfl
  have shortPending : findHeaderEnd (longRequestLine ++ [13, 10, 13]) = none := by
    rw [findHeaderEnd_append_of_not_mem not_return_mem_longRequestLine]
    rfl
  have withinLimit : ¬ (longRequestLine ++ [13, 10, 13]).length > maxHeaderSize := by
    rw [shortLength, maxHeaderSize]
    omega
  have pastLimit : (longRequestLine ++ [13, 10, 13] ++ [10, 65]).length > maxHeaderSize := by
    rw [List.length_append, shortLength, maxHeaderSize]
    decide
  rw [readHttpHeader, readsSplittingTerminator, readHttpHeaderLoop_longRequestHead,
    readHttpHeaderLoop_cons (List.append_ne_nil_of_right_ne_nil _ (List.cons_ne_nil _ _)),
    List.nil_append, splitting, if_neg withinLimit, shortPending,
    readHttpHeaderLoop_cons (List.cons_ne_nil _ _), if_pos pastLimit]

/-- One stream, a request whose header is exactly `MAX_HEADER_SIZE` bytes and
a byte of body, read two ways in reads of at most 1024 bytes: when a read ends
with the header it is returned, and when the header's last byte comes with the
body the buffer is refused as too large. -/
theorem header_limit_depends_on_chunking :
    readsEndingWithHeader.flatten = longRequestLine ++ headerTerminator ++ [65] ∧
    readsSplittingTerminator.flatten = longRequestLine ++ headerTerminator ++ [65] ∧
    (∀ chunk ∈ readsEndingWithHeader, chunk ≠ [] ∧ chunk.length ≤ 1024) ∧
    (∀ chunk ∈ readsSplittingTerminator, chunk ≠ [] ∧ chunk.length ≤ 1024) ∧
    (longRequestLine ++ headerTerminator).length = maxHeaderSize ∧
    findHeaderEnd (longRequestLine ++ headerTerminator ++ [65]) = some maxHeaderSize ∧
    readHttpHeader readsEndingWithHeader = .ok (longRequestLine ++ headerTerminator, []) ∧
    readHttpHeader readsSplittingTerminator = .error (.protocol "HTTP header too large".toList) :=
  ⟨readsEndingWithHeader_flatten, readsSplittingTerminator_flatten, readsEndingWithHeader_reads,
    readsSplittingTerminator_reads, length_longRequestHeader,
    findHeaderEnd_append_of_eq_some findHeaderEnd_longRequestHeader [65],
    readHttpHeader_readsEndingWithHeader, readHttpHeader_readsSplittingTerminator⟩

end HttpProxy

end AnyTls
