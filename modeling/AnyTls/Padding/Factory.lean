/-
# The padding factory

A padding scheme is a `StringMap` whose key `stop` bounds the padded packets and
whose key `n` lists, for packet `n`, the record sizes to cut the traffic into:
comma-separated parts that are either `c` (a check mark: stop if nothing is left
to send) or a range `a-b`. `generate_record_payload_sizes` draws one size per
range; the draw is `rand::random_range`, a parameter here, called with the
part's position and its bounds.

Sizes are drawn as `i64` and narrowed with `as i32`, so a bound above `i32::MAX`
wraps, and `4294967295` becomes `CHECK_MARK`.
-/

import AnyTls.Util.StringMap

namespace AnyTls

/-- `CHECK_MARK`. -/
def checkMark : Int := -1

/-- `as i32` on an `i64`: the value modulo `2 ^ 32`, read as two's complement. -/
def asI32 (value : Int) : Int :=
  if value % 2 ^ 32 < 2 ^ 31 then value % 2 ^ 32 else value % 2 ^ 32 - 2 ^ 32

/-- `DEFAULT_PADDING_SCHEME`. -/
def defaultPaddingScheme : List Char :=
  "stop=8\n0=30-30\n1=100-400\n2=400-500,c,500-1000,c,500-1000,c,500-1000,c,500-1000\n3=9-9,500-1000\n4=500-1000\n5=500-1000\n6=500-1000\n7=500-1000".toList

/-- `PaddingFactory`. Its `md5` field is the MD5 digest of `raw_scheme`, a
function of the raw scheme that `PaddingFactory.md5` computes on demand. -/
structure PaddingFactory where
  scheme : StringMap
  rawScheme : List UInt8
  stop : Nat

namespace PaddingFactory

/-- `PaddingFactory::new`: the scheme is accepted exactly when its `stop` value
parses as a `u32`. -/
def new (rawScheme : List UInt8) : Except String PaddingFactory :=
  let scheme := StringMap.fromBytes rawScheme
  match scheme.get "stop".toList with
  | none => .error "missing 'stop' in padding scheme"
  | some value =>
      match RustText.parseU32 value with
      | none => .error "invalid 'stop' value"
      | some stop => .ok ⟨scheme, rawScheme, stop⟩

/-- The `md5` field: `format!("{:x}", md5::compute(raw_scheme))`, with the digest
function a parameter. -/
def md5 (md5Hex : List UInt8 → List Char) (factory : PaddingFactory) : List Char :=
  md5Hex factory.rawScheme

/-- The bytes of `DEFAULT_PADDING_SCHEME`. -/
def defaultSchemeBytes : List UInt8 := RustText.intoBytes defaultPaddingScheme

/-- The factory `PaddingFactory::new(DEFAULT_PADDING_SCHEME)` builds. -/
def defaultScheme : PaddingFactory := ⟨StringMap.fromBytes defaultSchemeBytes, defaultSchemeBytes, 8⟩

/-- The default scheme is valid, as the `expect` in `PaddingFactory::default` assumes. -/
theorem new_defaultSchemeBytes : new defaultSchemeBytes = .ok defaultScheme := by
  -- only the `stop` lookup is evaluated; the kernel does it without the elaborator's unfolding
  have stop : (StringMap.fromBytes defaultSchemeBytes).get "stop".toList = some "8".toList := by
    decide +kernel
  rw [new, stop]
  rfl

/-- `PaddingFactory::default`: the process-global `OnceLock`'s factory,
initialised with the default scheme on first use. Returns the lock's contents
afterwards and the factory. -/
def default (global : Option PaddingFactory) : Option PaddingFactory × PaddingFactory :=
  match global with
  | some factory => (some factory, factory)
  | none => (some defaultScheme, defaultScheme)

/-- `PaddingFactory::update_default`: the scheme must be accepted, and the
`OnceLock` must still be empty for `set` to succeed. -/
def updateDefault (global : Option PaddingFactory) (rawScheme : List UInt8) :
    Except String PaddingFactory :=
  match new rawScheme with
  | .error e => .error e
  | .ok factory =>
      match global with
      | some _ => .error "failed to update default factory"
      | none => .ok factory

/-- Once the `OnceLock` is set, every update fails. -/
theorem updateDefault_of_some (factory : PaddingFactory) (rawScheme : List UInt8) :
    ∃ e, updateDefault (some factory) rawScheme = .error e := by
  unfold updateDefault
  split <;> exact ⟨_, rfl⟩

/-- One part of a scheme entry: `c` is a check mark, a range with positive
bounds is one size (a draw between them when they differ), anything else is
skipped. -/
def partSize (random : Int → Int → Int) (part : List Char) : Option Int :=
  let part := RustText.trim part
  if part = ['c'] then some checkMark
  else
    match RustText.splitOnce '-' part with
    | none => none
    | some (minStr, maxStr) =>
        let minVal := (RustText.parseI64 (RustText.trim minStr)).getD 0
        let maxVal := (RustText.parseI64 (RustText.trim maxStr)).getD 0
        if minVal ≤ 0 ∨ maxVal ≤ 0 then none
        else
          let low := min minVal maxVal
          let high := max minVal maxVal
          if low = high then some (asI32 low) else some (asI32 (random low high))

/-- `generate_record_payload_sizes`: the sizes of the scheme entry for `pkt`,
part by part; `random index low high` is the draw for the part at `index`. -/
def generateRecordPayloadSizes (factory : PaddingFactory) (random : Nat → Int → Int → Int)
    (pkt : Nat) : List Int :=
  match factory.scheme.get (RustText.decimal pkt) with
  | none => []
  | some spec =>
      ((RustText.split ',' spec).zipIdx.map fun (part, index) =>
        partSize (random index) part).reduceOption

/-- A range whose bounds pass every check of `new` and of the part parser, but
lie past `i32::MAX`, narrows to `CHECK_MARK`: the scheme `stop=1` with packet
`0` drawing `4294967295-4294967295` is accepted, and its one record size reads
as a check mark whatever the draw. -/
theorem wrapping_size_reads_as_checkMark :
    ∃ factory, new (RustText.intoBytes "stop=1\n0=4294967295-4294967295".toList) = .ok factory ∧
      ∀ random, factory.generateRecordPayloadSizes random 0 = [checkMark] :=
  ⟨_, rfl, fun _ => rfl⟩

end PaddingFactory

end AnyTls
