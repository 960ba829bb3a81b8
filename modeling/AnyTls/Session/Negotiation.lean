/-
# The settings handshake

`start_client` writes the client's `Settings`: `v=2`, the client's name and the
MD5 digest of its padding scheme in hexadecimal. The server answers a digest
other than that of its own scheme with that scheme (`UpdatePaddingScheme`), and
a version of at least 2 by recording it and writing `ServerSettings`: `v=2`
with the hints it was configured with inserted after it. The client records the
version `ServerSettings` carries.

After one exchange both ends hold version 2, whatever the two schemes
(`settings_handshake`), as long as no configured hint is itself named `v`: the
hints are inserted after `v=2`, and a hint `v` would replace it.
-/

import AnyTls.Client.ProxyStream

namespace AnyTls

/-- `format!("{:x}", md5::compute(raw))`: each byte of the digest as two
lower-case hexadecimal digits. -/
def hexDigest (md5 : List UInt8 → List UInt8) (raw : List UInt8) : List Char :=
  (md5 raw).flatMap RustText.lowerHex2

theorem hexDigest_char {md5 : List UInt8 → List UInt8} {raw : List UInt8} {c : Char}
    (mem : c ∈ hexDigest md5 raw) : c ≠ '\n' ∧ RustText.isWhitespace c = false := by
  obtain ⟨byte, -, inByte⟩ := List.mem_flatMap.mp mem
  obtain ⟨d, small, rfl⟩ := RustText.digitChar_of_mem_lowerHex2 inByte
  have hex : ∀ d < 16, Nat.digitChar d ≠ '\n' ∧ RustText.isWhitespace (Nat.digitChar d) = false := by
    decide
  exact hex d small

/-- A hexadecimal digest survives a settings line under any key that does. -/
theorem hexDigest_roundTrips (md5 : List UInt8 → List UInt8) (raw : List UInt8) {key : List Char}
    (noEquals : '=' ∉ key) (noNewline : '\n' ∉ key) (trimmed : RustText.trim key = key) :
    StringMap.EntryRoundTrips key (hexDigest md5 raw) := by
  refine ⟨noEquals, noNewline, trimmed, fun mem => (hexDigest_char mem).1 rfl, ?_⟩
  apply RustText.trim_eq_self
  · intro c first
    exact (hexDigest_char (List.mem_of_mem_head? first)).2
  · intro c last
    exact (hexDigest_char (List.mem_of_getLast? last)).2

namespace Session

variable (md5Hex : List UInt8 → List Char)

/-! ### What the client says -/

/-- The settings `start_client` writes. -/
def helloMap (s : Session) : StringMap :=
  ((StringMap.new.insert "v".toList "2".toList).insert "client".toList
    "anytls-rs/0.1.0".toList).insert "padding-md5".toList (s.padding.md5 md5Hex)

theorem clientSettings_cmd (s : Session) : (s.clientSettings md5Hex).cmd = .settings := rfl

theorem clientSettings_data (s : Session) : (s.clientSettings md5Hex).data = (s.helloMap md5Hex).toBytes :=
  rfl

theorem helloMap_serialisable (s : Session)
    (digest : StringMap.EntryRoundTrips "padding-md5".toList (s.padding.md5 md5Hex)) :
    (s.helloMap md5Hex).Serialisable := by
  have version : StringMap.EntryRoundTrips "v".toList "2".toList := by decide +kernel
  have name : StringMap.EntryRoundTrips "client".toList "anytls-rs/0.1.0".toList := by decide +kernel
  exact StringMap.serialisable_insert (StringMap.serialisable_insert
    (StringMap.serialisable_insert StringMap.serialisable_new version) name) digest

theorem helloMap_version (s : Session) : (s.helloMap md5Hex).get "v".toList = some "2".toList := by
  have first : "v".toList ≠ "padding-md5".toList := by decide +kernel
  have second : "v".toList ≠ "client".toList := by decide +kernel
  rw [helloMap, StringMap.get_insert_ne _ _ first, StringMap.get_insert_ne _ _ second,
    StringMap.get_insert]

theorem helloMap_digest (s : Session) :
    (s.helloMap md5Hex).get "padding-md5".toList = some (s.padding.md5 md5Hex) :=
  StringMap.get_insert _ _ _

/-! ### What the server answers -/

/-- What a server writes in answer to `Settings` of version 2 with the digest
`digest`: its scheme when the digests differ, then `ServerSettings`. -/
def settingsReplies (s : Session) (digest : List Char) : List Frame :=
  (if digest ≠ s.padding.md5 md5Hex then [⟨.updatePaddingScheme, 0, s.padding.rawScheme⟩] else []) ++
    [⟨.serverSettings, 0, s.serverSettingsMap.toBytes⟩]

/-- The hints a server is configured with: none, or round-tripping ones none of
which is named `v`. -/
def HintsFit (s : Session) : Prop :=
  ∀ extra, s.serverSettings = some extra → extra.Serialisable ∧ extra.get "v".toList = none

/-- `ServerSettings` holds `v=2` under the hints: a hint looks up its value, and
`v` looks up `2` when no hint replaces it. -/
theorem serverSettingsMap_get (s : Session) (key : List Char) :
    s.serverSettingsMap.get key =
      ((s.serverSettings.bind fun extra => extra.get key)).or
        ((StringMap.new.insert "v".toList "2".toList).get key) := by
  unfold serverSettingsMap
  cases s.serverSettings with
  | none => rfl
  | some extra => exact StringMap.get_foldl_insert extra.map.nodupKeys _ key

theorem serverSettingsMap_version {s : Session} (fit : s.HintsFit) :
    s.serverSettingsMap.get "v".toList = some "2".toList := by
  rw [serverSettingsMap_get, StringMap.get_insert]
  cases configured : s.serverSettings with
  | none => rfl
  | some extra =>
      rw [Option.bind_some, (fit extra configured).2]
      rfl

theorem serverSettingsMap_serialisable {s : Session} (fit : s.HintsFit) :
    s.serverSettingsMap.Serialisable := by
  have version : StringMap.EntryRoundTrips "v".toList "2".toList := by decide +kernel
  have base := StringMap.serialisable_insert StringMap.serialisable_new version
  unfold serverSettingsMap
  cases configured : s.serverSettings with
  | none => exact base
  | some extra => exact StringMap.serialisable_foldl_insert (fit extra configured).1 base

/-- A server handling `Settings` whose version reads `2` records version 2 and
writes `settingsReplies`. -/
theorem handleSettings_of_version {s : Session} (server : s.isClient = false) {data : List UInt8}
    {digest : List Char} (version : (StringMap.fromBytes data).get "v".toList = some "2".toList)
    (digested : (StringMap.fromBytes data).get "padding-md5".toList = some digest) :
    s.handleSettings md5Hex data =
      { s with peerVersion := 2, written := s.written ++ s.settingsReplies md5Hex digest } := by
  -- no bytes hold no version
  have nonempty : data.isEmpty = false := by
    cases data with
    | nil => simp at version
    | cons => rfl
  have two : RustText.parseU8 "2".toList = some 2 := by decide +kernel
  unfold handleSettings answerVersion answerPaddingMd5
  simp only [server, nonempty, Bool.not_false, Bool.and_self, if_true, digested, version,
    Option.bind_some, two]
  by_cases same : digest = s.padding.md5 md5Hex
  · simp [server, same, settingsReplies, writeFrame]
  · simp [server, same, settingsReplies, writeFrame, serverSettingsMap]

/-! ### What the client makes of the answer -/

theorem handleUpdatePaddingScheme_isClient (s : Session) (data : List UInt8) :
    (s.handleUpdatePaddingScheme data).isClient = s.isClient := by
  unfold handleUpdatePaddingScheme
  split
  · split <;> rfl
  · rfl

/-- A client reading `ServerSettings` that holds `v=2` records version 2. -/
theorem handleServerSettings_of_version {c : Session} (client : c.isClient = true)
    {data : List UInt8} (version : (StringMap.fromBytes data).get "v".toList = some "2".toList) :
    c.handleServerSettings data = { c with peerVersion := 2 } := by
  have nonempty : data.isEmpty = false := by
    cases data with
    | nil => simp at version
    | cons => rfl
  have two : RustText.parseU8 "2".toList = some 2 := by decide +kernel
  simp only [handleServerSettings, client, nonempty, Bool.not_false, Bool.and_self, if_true, version,
    Option.bind_some, two]

/-- A client handling the server's answer takes the scheme it was sent, if any,
and records version 2. -/
theorem handleFrames_settingsReplies {c s : Session} (client : c.isClient = true) (fit : s.HintsFit)
    (digest : List Char) :
    c.handleFrames md5Hex (s.settingsReplies md5Hex digest) =
      { (if digest ≠ s.padding.md5 md5Hex then c.handleUpdatePaddingScheme s.padding.rawScheme else c) with
        peerVersion := 2 } := by
  have version : (StringMap.fromBytes s.serverSettingsMap.toBytes).get "v".toList = some "2".toList := by
    rw [StringMap.get_fromBytes_toBytes _ (serverSettingsMap_serialisable fit),
      serverSettingsMap_version fit]
  by_cases same : digest = s.padding.md5 md5Hex
  · simp only [settingsReplies, same, ne_eq, not_true_eq_false, if_false, List.nil_append]
    simp [handleFrames, handleFrame, handleServerSettings_of_version client version]
  · simp only [settingsReplies, same, ne_eq, not_false_eq_true, if_true, List.singleton_append]
    have stillClient := (handleUpdatePaddingScheme_isClient c s.padding.rawScheme).trans client
    simp [handleFrames, handleFrame, handleServerSettings_of_version stillClient version]

end Session

/-- One settings exchange between any client and any server whose hints fit:
the server handles the client's `Settings` without error, records version 2 and
writes its answer, and the client, handling the answer, takes the server's
scheme when the digests differ and records version 2. -/
theorem settings_handshake (md5 : List UInt8 → List UInt8) {c s : Session}
    (client : c.isClient = true) (server : s.isClient = false) (fit : s.HintsFit) :
    s.handleFrame (hexDigest md5) (c.clientSettings (hexDigest md5)) =
        ({ s with
            peerVersion := 2
            written := s.written ++ s.settingsReplies (hexDigest md5) (c.padding.md5 (hexDigest md5)) },
          .ok ()) ∧
      c.handleFrames (hexDigest md5) (s.settingsReplies (hexDigest md5) (c.padding.md5 (hexDigest md5))) =
        { (if c.padding.md5 (hexDigest md5) ≠ s.padding.md5 (hexDigest md5) then
            c.handleUpdatePaddingScheme s.padding.rawScheme else c) with peerVersion := 2 } := by
  have digest : StringMap.EntryRoundTrips "padding-md5".toList (c.padding.md5 (hexDigest md5)) :=
    hexDigest_roundTrips md5 _ (by decide +kernel) (by decide +kernel) (by decide +kernel)
  have hello := StringMap.get_fromBytes_toBytes _ (c.helloMap_serialisable (hexDigest md5) digest)
  have version : (StringMap.fromBytes (c.helloMap (hexDigest md5)).toBytes).get "v".toList =
      some "2".toList := by
    rw [hello, Session.helloMap_version]
  have digested : (StringMap.fromBytes (c.helloMap (hexDigest md5)).toBytes).get "padding-md5".toList =
      some (c.padding.md5 (hexDigest md5)) := by
    rw [hello, Session.helloMap_digest]
  refine ⟨?_, Session.handleFrames_settingsReplies _ client fit _⟩
  simp only [Session.handleFrame, Session.clientSettings_cmd, Session.clientSettings_data,
    Session.handleSettings_of_version _ server version digested]

end AnyTls
