/-
# Certificate expiry

`CertificateInfo::from_x509` turns the certificate's `notAfter` into a
`SystemTime` and counts the whole days from the analysis time to it:
`duration_since` one way or the other, `as_secs`, a division by `86400`, and a
minus sign when the certificate has expired. `is_expired`, `is_expiring_soon`
and `status` then read only that count, and `CertReloader::reload` refuses a
new certificate that `is_expired` when `check_expiry` is set.

Both branches round toward zero, so the count is `0` from one day before
`notAfter` to one day after it (`daysUntilExpiry_of_le`,
`daysUntilExpiry_of_lt`): a certificate is taken as expired only once a whole
day has passed since its `notAfter` (`isExpired_fromX509_iff`), and `reload`
installs one that expired hours ago (`reload_of_checkExpiry`).

The subject, issuer, serial number, algorithms and names are read from the
DER and only displayed; the certificate here is its validity period.
-/

import AnyTls.Util.Error

namespace AnyTls

/-- `SystemTime`, as nanoseconds from `UNIX_EPOCH`; it may lie before it. -/
structure SystemTime where
  sinceEpoch : Int
  deriving DecidableEq, Repr

/-- `Duration`, in nanoseconds. -/
structure Duration where
  nanos : Nat
  deriving DecidableEq, Repr

/-- `Duration::as_secs`: the whole seconds. -/
def Duration.asSecs (duration : Duration) : Nat := duration.nanos / 1000000000

/-- `SystemTime::duration_since`: the time from `earlier` to `self`, or, when
`earlier` is later, the error that carries the time the other way. -/
def SystemTime.durationSince (self earlier : SystemTime) : Except Duration Duration :=
  if earlier.sinceEpoch ≤ self.sinceEpoch then .ok ⟨(self.sinceEpoch - earlier.sinceEpoch).toNat⟩
  else .error ⟨(earlier.sinceEpoch - self.sinceEpoch).toNat⟩

/-- The validity period of an X.509 certificate, as the Unix timestamps
`ASN1Time::timestamp` gives. -/
structure Validity where
  notBefore : Int
  notAfter : Int
  deriving DecidableEq, Repr

/-- `asn1_time_to_system_time`: a timestamp before the epoch is refused. -/
def asn1TimeToSystemTime (timestamp : Int) : Except AnyTlsError SystemTime :=
  if timestamp < 0 then .error (.tls "Invalid timestamp (before UNIX epoch)".toList)
  else .ok ⟨timestamp * 1000000000⟩

/-- The `days_until_expiry` of `from_x509` at the analysis time `now`. -/
def daysUntilExpiry (notAfter now : SystemTime) : Int :=
  match notAfter.durationSince now with
  | .ok duration => (duration.asSecs / 86400 : Nat)
  | .error _ =>
      -- the certificate has expired, so the `unwrap` below cannot fail
      match now.durationSince notAfter with
      | .ok duration => -((duration.asSecs / 86400 : Nat) : Int)
      | .error _ => 0

section DaysUntilExpiry

variable (notAfter now : SystemTime)

/-- Up to `notAfter`, the whole days left, rounded down. -/
theorem daysUntilExpiry_of_le (h : now.sinceEpoch ≤ notAfter.sinceEpoch) :
    daysUntilExpiry notAfter now =
      ((notAfter.sinceEpoch - now.sinceEpoch).toNat / 1000000000 / 86400 : Nat) := by
  simp [daysUntilExpiry, SystemTime.durationSince, h, Duration.asSecs]

/-- After `notAfter`, minus the whole days since, rounded down as well. -/
theorem daysUntilExpiry_of_lt (h : notAfter.sinceEpoch < now.sinceEpoch) :
    daysUntilExpiry notAfter now =
      -(((now.sinceEpoch - notAfter.sinceEpoch).toNat / 1000000000 / 86400 : Nat) : Int) := by
  have later : ¬ now.sinceEpoch ≤ notAfter.sinceEpoch := by omega
  simp [daysUntilExpiry, SystemTime.durationSince, later, h.le, Duration.asSecs]

/-- The count is negative exactly once a whole day has passed since `notAfter`. -/
theorem daysUntilExpiry_neg_iff :
    daysUntilExpiry notAfter now < 0 ↔ notAfter.sinceEpoch + 86400000000000 ≤ now.sinceEpoch := by
  rcases le_or_gt now.sinceEpoch notAfter.sinceEpoch with before | after
  · rw [daysUntilExpiry_of_le notAfter now before]
    omega
  · rw [daysUntilExpiry_of_lt notAfter now after]
    omega

/-- Read as a `u64`, the count is the whole days left, and `0` once `notAfter`
has passed. -/
theorem daysUntilExpiry_toNat :
    (daysUntilExpiry notAfter now).toNat =
      (notAfter.sinceEpoch - now.sinceEpoch).toNat / 1000000000 / 86400 := by
  rcases le_or_gt now.sinceEpoch notAfter.sinceEpoch with before | after
  · rw [daysUntilExpiry_of_le notAfter now before]
    omega
  · rw [daysUntilExpiry_of_lt notAfter now after]
    omega

end DaysUntilExpiry

/-- The fields of `CertificateInfo` that `status`, `is_expired`,
`is_expiring_soon` and `reload` read. -/
structure CertificateInfo where
  notBefore : SystemTime
  notAfter : SystemTime
  daysUntilExpiry : Int
  deriving DecidableEq, Repr

/-- `CertStatus`. -/
inductive CertStatus
  | valid
  | expiringWarning (days : Nat)
  | expired
  | invalid (reason : List Char)
  deriving DecidableEq, Repr

namespace CertificateInfo

/-- `CertificateInfo::from_x509`, with `SystemTime::now()` as `now`. -/
def fromX509 (validity : Validity) (now : SystemTime) : Except AnyTlsError CertificateInfo := do
  let notBefore ← asn1TimeToSystemTime validity.notBefore
  let notAfter ← asn1TimeToSystemTime validity.notAfter
  pure ⟨notBefore, notAfter, AnyTls.daysUntilExpiry notAfter now⟩

/-- `from_x509` succeeds exactly on a validity period that starts and ends at
or after the epoch, and counts the days to its `notAfter`. -/
theorem fromX509_eq (validity : Validity) (now : SystemTime)
    (startsAfterEpoch : 0 ≤ validity.notBefore) (endsAfterEpoch : 0 ≤ validity.notAfter) :
    fromX509 validity now =
      .ok ⟨⟨validity.notBefore * 1000000000⟩, ⟨validity.notAfter * 1000000000⟩,
        AnyTls.daysUntilExpiry ⟨validity.notAfter * 1000000000⟩ now⟩ := by
  have early : ¬ validity.notBefore < 0 := by omega
  have late : ¬ validity.notAfter < 0 := by omega
  simp only [fromX509, asn1TimeToSystemTime, early, late, if_false, bind, Except.bind]
  rfl

/-- `CertificateInfo::status`. -/
def status (info : CertificateInfo) (warningDays : Nat) : CertStatus :=
  if info.daysUntilExpiry < 0 then .expired
  else if info.daysUntilExpiry.toNat < warningDays then .expiringWarning info.daysUntilExpiry.toNat
  else .valid

/-- `CertificateInfo::is_expired`. -/
def isExpired (info : CertificateInfo) : Bool := decide (info.daysUntilExpiry < 0)

/-- `CertificateInfo::is_expiring_soon`. -/
def isExpiringSoon (info : CertificateInfo) (warningDays : Nat) : Bool :=
  decide (0 ≤ info.daysUntilExpiry) && decide (info.daysUntilExpiry.toNat < warningDays)

/-- `status` reports `Expired` exactly when `is_expired` holds. -/
theorem status_eq_expired_iff (info : CertificateInfo) (warningDays : Nat) :
    info.status warningDays = .expired ↔ info.isExpired = true := by
  unfold status isExpired
  split_ifs <;> simp_all

section FromX509

variable {validity : Validity} {now : SystemTime} {info : CertificateInfo}

/-- Every certificate `from_x509` gives carries the days to its own `notAfter`. -/
theorem daysUntilExpiry_of_fromX509 (h : fromX509 validity now = .ok info) :
    info.daysUntilExpiry = AnyTls.daysUntilExpiry info.notAfter now := by
  simp only [fromX509, bind, Except.bind, asn1TimeToSystemTime] at h
  split_ifs at h
  cases h
  rfl

/-- A certificate counts as expired only once a whole day has passed since its
`notAfter`, not as soon as `notAfter` has. -/
theorem isExpired_fromX509_iff (h : fromX509 validity now = .ok info) :
    info.isExpired = true ↔ info.notAfter.sinceEpoch + 86400000000000 ≤ now.sinceEpoch := by
  rw [isExpired, daysUntilExpiry_of_fromX509 h, decide_eq_true_iff]
  exact daysUntilExpiry_neg_iff info.notAfter now

/-- `is_expiring_soon` holds up to one day after `notAfter`, when fewer than
`warningDays` whole days are left. -/
theorem isExpiringSoon_fromX509_iff (h : fromX509 validity now = .ok info) (warningDays : Nat) :
    info.isExpiringSoon warningDays = true ↔
      now.sinceEpoch < info.notAfter.sinceEpoch + 86400000000000 ∧
        (info.notAfter.sinceEpoch - now.sinceEpoch).toNat / 1000000000 / 86400 < warningDays := by
  have negative := daysUntilExpiry_neg_iff info.notAfter now
  have days := daysUntilExpiry_toNat info.notAfter now
  rw [isExpiringSoon, daysUntilExpiry_of_fromX509 h]
  simp only [Bool.and_eq_true, decide_eq_true_eq]
  omega

end FromX509

end CertificateInfo

/-- The parts of `CertReloaderConfig` that `reload` reads. -/
structure CertReloaderConfig where
  checkExpiry : Bool
  expiryWarningDays : Nat
  deriving DecidableEq, Repr

/-- `CertReloaderConfig::default`: the expiry is checked, with a warning 30 days ahead. -/
def CertReloaderConfig.default : CertReloaderConfig := ⟨true, 30⟩

/-- `CertReloader`, with the acceptor it serves left out. -/
structure CertReloader where
  config : CertReloaderConfig
  certInfo : Option CertificateInfo
  reloadCount : Nat
  deriving DecidableEq, Repr

/-- `CertReloader::reload`: `newConfig` is the outcome of
`create_server_config_from_files` and `newCertInfo` that of
`CertificateInfo::from_pem_file`. -/
def CertReloader.reload (reloader : CertReloader) (newConfig : Except AnyTlsError Unit)
    (newCertInfo : Except AnyTlsError CertificateInfo) : Except AnyTlsError CertReloader := do
  newConfig
  let info ← newCertInfo
  if reloader.config.checkExpiry && info.isExpired then
    throw (.tls "New certificate has expired".toList)
  pure { reloader with certInfo := some info, reloadCount := reloader.reloadCount + 1 }

namespace CertReloader

/-- With `check_expiry` set, `reload` refuses exactly the certificates that
`is_expired`, and otherwise installs the new one and counts the reload. -/
theorem reload_of_checkExpiry (reloader : CertReloader) (info : CertificateInfo)
    (checkExpiry : reloader.config.checkExpiry = true) :
    reloader.reload (.ok ()) (.ok info) =
      if info.isExpired then .error (.tls "New certificate has expired".toList)
      else .ok { reloader with certInfo := some info, reloadCount := reloader.reloadCount + 1 } := by
  cases expired : info.isExpired <;> simp only [reload, bind, Except.bind, checkExpiry, expired] <;> rfl

/-- Under `check_expiry`, a certificate read from a validity period after the
epoch is refused exactly once a whole day has passed since its `notAfter`. -/
theorem reload_fromX509_refused_iff (reloader : CertReloader) (validity : Validity)
    (now : SystemTime) (checkExpiry : reloader.config.checkExpiry = true)
    (startsAfterEpoch : 0 ≤ validity.notBefore) (endsAfterEpoch : 0 ≤ validity.notAfter) :
    (∃ error, reloader.reload (.ok ()) (CertificateInfo.fromX509 validity now) = .error error) ↔
      validity.notAfter * 1000000000 + 86400000000000 ≤ now.sinceEpoch := by
  have read := CertificateInfo.fromX509_eq validity now startsAfterEpoch endsAfterEpoch
  rw [read, reload_of_checkExpiry _ _ checkExpiry,
    ← CertificateInfo.isExpired_fromX509_iff read]
  split_ifs with expired <;> simp [expired]

/-- Under the default configuration, a certificate whose `notAfter` passed
two days before the analysis time is refused. -/
theorem reload_refuses_certificate_expired_two_days_ago :
    CertReloaderConfig.default.checkExpiry = true ∧ (0 : Int) ≤ 0 ∧ (0 : Int) ≤ 86400 ∧
    ∃ error, (⟨CertReloaderConfig.default, none, 0⟩ : CertReloader).reload (.ok ())
      (CertificateInfo.fromX509 ⟨0, 86400⟩ ⟨3 * 86400 * 1000000000⟩) = .error error := by
  refine ⟨rfl, le_rfl, by decide, ?_⟩
  -- two days after `notAfter` is past the whole day `is_expired` waits for
  exact (reload_fromX509_refused_iff _ ⟨0, 86400⟩ _ rfl le_rfl (by decide)).mpr (by decide)

/-- A certificate whose `notAfter` passed an hour ago: `from_x509` counts `0`
days to it, so it is not expired, `status 30` warns that it expires in `0`
days, and `reload` under the default configuration installs it. -/
theorem reload_installs_certificate_expired_an_hour_ago :
    CertificateInfo.fromX509 ⟨0, 86400⟩ ⟨90000 * 1000000000⟩ =
      .ok ⟨⟨0⟩, ⟨86400 * 1000000000⟩, 0⟩ ∧
    86400 * 1000000000 < (90000 * 1000000000 : Int) ∧
    CertificateInfo.isExpired ⟨⟨0⟩, ⟨86400 * 1000000000⟩, 0⟩ = false ∧
    CertificateInfo.status ⟨⟨0⟩, ⟨86400 * 1000000000⟩, 0⟩ 30 = .expiringWarning 0 ∧
    CertificateInfo.isExpiringSoon ⟨⟨0⟩, ⟨86400 * 1000000000⟩, 0⟩ 30 = true ∧
    reload ⟨CertReloaderConfig.default, none, 0⟩ (.ok ()) (.ok ⟨⟨0⟩, ⟨86400 * 1000000000⟩, 0⟩) =
      .ok ⟨CertReloaderConfig.default, some ⟨⟨0⟩, ⟨86400 * 1000000000⟩, 0⟩, 1⟩ :=
  ⟨by decide, by decide, rfl, rfl, rfl, rfl⟩

end CertReloader

end AnyTls
