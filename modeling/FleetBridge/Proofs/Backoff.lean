import FleetBridge.Proofs.Decimal.Least
import FleetBridge.Proofs.Settings.Load

/-!
How short a wait between attempts to connect can get. A delay that starts from two milliseconds or
more never falls below them, however the rounding of seconds goes; equal jitter then leaves at least
one millisecond of it. Of a delay of one millisecond it leaves nothing.
-/
namespace FleetBridge

open Decimal (NoLess OnScale)

namespace Duration

/-- A number that a quotient comes nearer to than half a unit is reached by rounding. -/
theorem le_roundQuotient {n d t : Nat} (hd : 0 < d) (h : 2 * (t * d) < 2 * n + d) :
    t ≤ roundQuotient n d := by
  have hsplit := Nat.div_add_mod n d
  have hrest := Nat.mod_lt n hd
  have hbelow {k : Nat} (hlt : n / d + k < t) : n + (k + 1) * d ≤ t * d + n % d := by
    have hle := Nat.mul_le_mul_right d (Nat.succ_le_of_lt hlt)
    have hexpand : (n / d + k).succ * d = d * (n / d) + (k + 1) * d := by
      rw [Nat.succ_eq_add_one, Nat.add_assoc, Nat.add_mul, Nat.mul_comm (n / d)]
    omega
  unfold roundQuotient
  simp only
  split
  next hdown =>
    by_contra hlt
    have := hbelow (k := 0) (by omega)
    omega
  next hdown =>
    split
    next hup =>
      by_contra hlt
      have := hbelow (k := 1) (by omega)
      omega
    next hup =>
      by_contra hlt
      have := hbelow (k := 0) (by omega)
      omega

variable {v : ℚ} {x : Float}

theorem le_ofSeconds (h : NoLess v x) (hfinite : x.isFinite = true) {t : Nat}
    (ht : 2 * (t : ℚ) < 2 * (v * 10 ^ 9) + 1) : t ≤ ofSeconds x := by
  obtain ⟨m, e, hparts, hle⟩ := h.exists_parts hfinite
  unfold ofSeconds
  rw [hparts]
  refine le_roundQuotient (Nat.two_pow_pos _) ?_
  have hscale := Decimal.zpow_mul_pow_neg (two_ne_zero (α := ℚ)) e
  have hunit : (0 : ℚ) < 2 ^ (-e).toNat := by positivity
  have hvalue : 2 * (t : ℚ) < 2 * (m * 2 ^ e * 10 ^ 9) + 1 := by linarith
  have hscaled := mul_lt_mul_of_pos_right hvalue hunit
  have hcast : (2 : ℚ) * (t * 2 ^ (-e).toNat) <
      2 * (m * 10 ^ 9 * 2 ^ e.toNat) + 2 ^ (-e).toNat := by
    rw [← hscale]
    linarith
  have hsecond : perSecond = 10 ^ 9 := rfl
  rw [hsecond, Nat.pow_eq, Nat.pow_eq]
  exact_mod_cast hcast

/-- The number by which nanoseconds are divided to give seconds. -/
theorem unpack_perSecond : (Float.ofScientific perSecond false 0).toModel.unpack =
    .finite .positive 8388608000000000 (-23) (by decide) := rfl

/-- The part of a second that some nanoseconds make. -/
theorem noLess_fraction (hv : OnScale v) {r : Nat} (hle : v * 10 ^ 9 ≤ r) (hr : 0 < r)
    (hbits : r ≤ 2 ^ 53) :
    NoLess v (Float.ofScientific r false 0 / Float.ofScientific perSecond false 0) := by
  have hnumerator := Decimal.noLess_ofScientific (Decimal.onScale_natCast hr hbits) le_rfl
  refine hnumerator.div hv (Nat.one_le_cast.mpr hr) (by decide) (by decide) unpack_perSecond ?_
  norm_num
  linarith

theorem onScale_thirtieth : OnScale ((2 : ℚ) ^ (-30 : ℤ)) where
  normal := zpow_le_zpow_right₀ one_le_two (by decide)
  fits := ⟨1, -30, by decide, by decide, by norm_num⟩

/-- A number of seconds is no less than any number from the scale, up to one, that it reaches. -/
theorem noLess_toSeconds (hv : OnScale v) (hone : v ≤ 1) {d : Nat} (hle : v * 10 ^ 9 ≤ d) :
    NoLess v (toSeconds d) := by
  have hsplit : perSecond * (d / perSecond) + d % perSecond = d := Nat.div_add_mod d perSecond
  have hrest : d % perSecond < perSecond := Nat.mod_lt d (by decide)
  have hsecond : perSecond = 10 ^ 9 := rfl
  unfold toSeconds
  generalize d / perSecond = q at hsplit ⊢
  generalize d % perSecond = r at hsplit hrest ⊢
  rw [hsecond] at hsplit hrest
  rcases Nat.eq_zero_or_pos q with rfl | hq
  · obtain rfl : r = d := by omega
    have hr : 0 < r := by
      have hpos : (0 : ℚ) < r := lt_of_lt_of_le (mul_pos hv.pos (by norm_num)) hle
      exact_mod_cast hpos
    exact .zero_add rfl (noLess_fraction hv hle hr (by omega))
  · have hwhole : NoLess v (Float.ofScientific q false 0) :=
      Decimal.noLess_ofScientific hv (hone.trans (Nat.one_le_cast.mpr hq))
    rcases Nat.eq_zero_or_pos r with rfl | hr
    · exact hwhole.add_zero rfl
    · have hfraction := noLess_fraction onScale_thirtieth (r := r)
        (le_trans (by norm_num) (Nat.one_le_cast.mpr hr)) hr (by omega)
      exact hwhole.add hv hfraction

/-- A bound of few bits just below two milliseconds, in seconds. -/
def nearlyTwoMillis : ℚ := 4294967 * 2 ^ (-31 : ℤ)

theorem onScale_nearlyTwoMillis : OnScale nearlyTwoMillis where
  normal := by
    have hpow : (2 : ℚ) ^ (-1022 : ℤ) ≤ 2 ^ (-31 : ℤ) := zpow_le_zpow_right₀ one_le_two (by decide)
    exact hpow.trans (le_mul_of_one_le_left (Decimal.two_zpow_pos _).le (by norm_num))
  fits := ⟨4294967, -31, by decide, by decide, rfl⟩

theorem nearlyTwoMillis_eq : nearlyTwoMillis = 4294967 / 2147483648 := by
  norm_num [nearlyTwoMillis]

theorem noLess_toSeconds_of_le {d : Nat} (hd : ofMillis 2 ≤ d) :
    NoLess nearlyTwoMillis (toSeconds d) := by
  have hnanos : ((2000000 : ℕ) : ℚ) ≤ d := Nat.cast_le.mpr hd
  refine noLess_toSeconds onScale_nearlyTwoMillis ?_ ?_
  · norm_num [nearlyTwoMillis_eq]
  · refine le_trans ?_ hnanos
    norm_num [nearlyTwoMillis_eq]

theorem two_millis_le_ofSeconds (h : NoLess nearlyTwoMillis x) (hfinite : x.isFinite = true) :
    ofMillis 2 ≤ ofSeconds x := by
  refine le_ofSeconds h hfinite ?_
  have hnanos : ofMillis 2 = 2000000 := rfl
  rw [hnanos]
  norm_num [nearlyTwoMillis_eq]

theorem two_le_wholeMillis {d : Nat} : 2 ≤ wholeMillis d ↔ ofMillis 2 ≤ d := by
  change 2 ≤ min (d / 1000000) 18446744073709551615 ↔ 2000000 ≤ d
  omega

end Duration

namespace Backoff

theorem noLess_powerFrom (bits : Nat) {r a : Float} (hr : NoLess 1 r) (ha : NoLess 1 a) (n : Nat) :
    NoLess 1 (powerFrom bits r a n) := by
  induction bits generalizing r a n with
  | zero => exact hr
  | succ bits ih =>
    have hr' : NoLess 1 (if n % 2 = 1 then r * a else r) := by
      split
      · exact hr.mul Decimal.onScale_one ha
      · exact hr
    unfold powerFrom
    simp only
    split
    · exact hr'
    · exact ih hr' (ha.mul Decimal.onScale_one ha) (n / 2)

theorem noLess_power {a : Float} (ha : NoLess 1 a) (n : Nat) : NoLess 1 (power a n) :=
  noLess_powerFrom _ (Decimal.noLess_one_of_le rfl (by decide +kernel)) ha n

theorem powerFrom_one (bits n : Nat) : powerFrom bits 1.0 1.0 n = 1.0 := by
  have hsquare : (1.0 : Float) * 1.0 = 1.0 := rfl
  induction bits generalizing n with
  | zero => rfl
  | succ bits ih =>
    rw [powerFrom, hsquare, ite_self, ih, ite_self]

/-- One is one to any power, as a double too. -/
theorem power_one (n : Nat) : power 1.0 n = 1.0 := powerFrom_one _ n

variable {b : Backoff}

/-- The delays before jitter do not fall below two milliseconds if they start there. -/
theorem two_millis_le_base (hfirst : Duration.ofMillis 2 ≤ b.first) (hbound : b.first ≤ b.most)
    (hfactor : NoLess 1 b.factor) (n : Nat) : Duration.ofMillis 2 ≤ b.base n := by
  have hproduct := (Duration.noLess_toSeconds_of_le hfirst).mul Duration.onScale_nearlyTwoMillis
    (noLess_power hfactor (min n lastExponent))
  unfold base
  simp only
  split
  next => exact hfirst.trans hbound
  next hinside =>
    refine Duration.two_millis_le_ofSeconds hproduct ?_
    by_contra hinfinite
    exact hinside (by simp [hinfinite])

/-- A first delay of one millisecond stays below two, whatever the factor and the bound. -/
theorem base_zero_lt (hfirst : b.first = Duration.ofMillis 1) :
    ¬ Duration.ofMillis 2 ≤ b.base 0 := by
  have hpower : power b.factor (min 0 lastExponent) = 1.0 := rfl
  have hunpack : (Duration.toSeconds (Duration.ofMillis 1) * 1.0).toModel.unpack =
    .finite .positive 4611686018427388 (-62) (by decide) := rfl
  have hfinite : (Duration.toSeconds (Duration.ofMillis 1) * 1.0).isFinite = true := rfl
  have hnonneg : ¬ Duration.toSeconds (Duration.ofMillis 1) * 1.0 < 0.0 := by decide +kernel
  unfold base
  simp only
  rw [hfirst, hpower, hfinite, decide_eq_false hnonneg]
  split
  next hover =>
    -- A bound from two milliseconds on is not below one millisecond, also in seconds.
    intro hmost
    have hover : b.most.toSeconds < Duration.toSeconds (Duration.ofMillis 1) * 1.0 := by
      simpa using hover
    refine (Duration.noLess_toSeconds_of_le hmost).not_lt (by decide) hunpack ?_ hover
    norm_num [Duration.nearlyTwoMillis_eq]
  next => decide +kernel

/-- With equal jitter a delay leaves a wait for any draw if and only if it has two milliseconds. -/
theorem apply_equal_pos_iff (d : Duration) :
    (∀ draw ≤ Jitter.equal.span d, 0 < Jitter.equal.apply d draw) ↔ Duration.ofMillis 2 ≤ d := by
  rw [← Duration.two_le_wholeMillis]
  constructor
  · intro h
    by_contra hlt
    have hnothing : Jitter.equal.apply d 0 = 0 := by
      have hhalf : d.wholeMillis / 2 = 0 := by omega
      unfold Jitter.apply
      split
      next => rfl
      next =>
        simp only
        rw [hhalf]
        rfl
    have hpos := h 0 (Nat.zero_le _)
    rw [hnothing] at hpos
    exact Nat.lt_irrefl 0 hpos
  · intro h draw _
    have hhalf : 0 < d.wholeMillis / 2 := by omega
    rw [Jitter.apply, if_neg (by omega)]
    have hmilli : 0 < Duration.perMilli := by decide
    exact Nat.mul_pos (Nat.add_pos_left hhalf draw) hmilli

end Backoff

theorem Setting.exists_of_millis {t : String} {d : Duration} (h : millis t = .ok d) :
    ∃ k, 0 < k ∧ d = Duration.ofMillis k := by
  unfold millis at h
  cases hn : positive t with
  | error e =>
    rw [hn] at h
    cases h
  | ok n =>
    rw [hn] at h
    cases h
    exact ⟨n, positive_pos hn, rfl⟩

namespace Settings

variable {env : Environment} {s : Settings}

/-- The first wait is a whole number of milliseconds. -/
theorem exists_millis_of_load (h : load env = .ok s) :
    ∃ k, 0 < k ∧ s.retry.first = Duration.ofMillis k := by
  have hretry := (loads_of_load h).retry
  generalize s.retry = r at hretry ⊢
  unfold loadRetry at hretry
  obtain ⟨first, hfirst, hretry⟩ := bind_eq_ok.mp hretry
  obtain ⟨most, -, hretry⟩ := bind_eq_ok.mp hretry
  obtain ⟨factor, -, hretry⟩ := bind_eq_ok.mp hretry
  split at hretry
  next => cases hretry
  next =>
    cases hretry
    exact of_read (P := fun d => ∃ k, 0 < k ∧ d = Duration.ofMillis k) ⟨100, by decide, rfl⟩
      Setting.exists_of_millis hfirst

/-- With the settings of any environment that are accepted every wait between attempts to connect
takes some time, whatever is drawn, unless the first wait is set to one millisecond: half of it is
less than a whole one. -/
theorem waits_take_time_iff (h : load env = .ok s) :
    (∀ n draw, draw ≤ s.retry.backoff.jitter.span (s.retry.backoff.base n) →
      0 < s.retry.backoff.delay n draw) ↔ s.retry.first ≠ Duration.ofMillis 1 := by
  have hgrows := loadRetry_grows (loads_of_load h).retry
  constructor
  · intro hwaits hfirst
    exact Backoff.base_zero_lt hfirst ((Backoff.apply_equal_pos_iff _).mp (hwaits 0))
  · intro hne n
    have hfirst : Duration.ofMillis 2 ≤ s.retry.first := by
      obtain ⟨k, hpos, hk⟩ := exists_millis_of_load h
      have hmore : k ≠ 1 := by
        rintro rfl
        exact hne hk
      rw [hk]
      exact Nat.mul_le_mul_right _ (by omega)
    refine (Backoff.apply_equal_pos_iff _).mpr (Backoff.two_millis_le_base hfirst hgrows.bound ?_ n)
    exact Decimal.noLess_one_of_le hgrows.factor.finite hgrows.factor.least

/-- The fleet's first wait is the usual one. -/
theorem fleet_waits : ∃ s, load fleet = .ok s ∧ s.retry.first ≠ Duration.ofMillis 1 ∧
    ∀ n draw, draw ≤ s.retry.backoff.jitter.span (s.retry.backoff.base n) →
      0 < s.retry.backoff.delay n draw := by
  obtain ⟨s, hload, -⟩ := fleet_sound
  have hretry : loadRetry fleet = .ok ⟨Duration.ofMillis 100, Duration.ofMillis 30000, 1.5⟩ := rfl
  have hfirst : s.retry.first ≠ Duration.ofMillis 1 := by
    rw [(loads_of_load hload).retry] at hretry
    rw [Except.ok.inj hretry]
    decide +kernel
  exact ⟨s, hload, hfirst, (waits_take_time_iff hload).mpr hfirst⟩

/-- An environment whose waits start at one millisecond and never grow. -/
def hasty (name : String) : Option String :=
  match name with
  | "TELEMATIC_CHANNEL" => some "ALL"
  | "DATABASE_URL" => some "postgres://db/fleet"
  | "TELEMATIC_CONNECT_RETRY_MS" => some "1"
  | "TELEMATIC_CONNECT_RETRY_FACTOR" => some "1.0"
  | _ => none

/-- It is accepted, and then no wait takes any time. -/
theorem hasty_never_waits : ∃ s, load hasty = .ok s ∧
    ∀ n draw, draw ≤ s.retry.backoff.jitter.span (s.retry.backoff.base n) →
      s.retry.backoff.delay n draw = 0 := by
  have hok : (load hasty).isOk = true := by decide +kernel
  have hfirst : millis hasty "TELEMATIC_CONNECT_RETRY_MS" 100 = .ok (Duration.ofMillis 1) := by
    decide +kernel
  have hretry : loadRetry hasty = .ok ⟨Duration.ofMillis 1, Duration.ofMillis 30000, 1.0⟩ := by
    rw [loadRetry, hfirst]
    rfl
  cases hload : load hasty with
  | error e =>
    rw [hload] at hok
    cases hok
  | ok s =>
    refine ⟨s, rfl, fun n draw hdraw => ?_⟩
    rw [(loads_of_load hload).retry] at hretry
    have hbase : s.retry.backoff.base n = Duration.ofMillis 1 := by
      rw [Except.ok.inj hretry]
      unfold Backoff.base RetrySettings.backoff
      simp only
      rw [Backoff.power_one]
      decide +kernel
    have hspan : draw = 0 := by
      rw [hbase, Except.ok.inj hretry] at hdraw
      exact Nat.le_zero.mp (hdraw.trans (by decide +kernel))
    rw [Backoff.delay, hbase, hspan, Except.ok.inj hretry]
    decide +kernel

end Settings
end FleetBridge
