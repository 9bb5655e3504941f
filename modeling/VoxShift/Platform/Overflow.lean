import VoxShift.Discord.Pacing
import VoxShift.Platform.Credentials

/-!
# Expiry times that overflow

The time of an expiry comes from the token endpoint, as `expires_in`, and from the
credential manager, as `expires_at_unix`. `RefreshTimer::arm` subtracts with
`checked_sub` and has a value for each failure; `store_from_response` and `win::load`
add with `+`, which panics where the sum is out of range.

## The model

An `Instant` is a `Duration` since some start: less than 2⁶⁴ seconds. What
`Instant::now()` returns is a count of nanoseconds in a `u64`.

## What is proved

* `checkedArm_eq` — `arm` does not overflow on any expiry.
* `expiry_arithmetic_total_iff` — the token responses and the blobs on which nothing
  overflows.
* `late_expiry_panics` — the largest `expires_in` and the largest `expires_at_unix`.
-/

namespace VoxShift.Platform

open VoxShift.Core VoxShift.Discord

/-- `Instant::checked_add`. -/
def Instant.checkedAdd (t : Instant) (d : Duration) : Option Instant :=
  if t + d < UInt64.size * 1000000000 then some (t + d) else none

/-- `arm`; `none` where the addition panics. -/
def checkedArm (now : Instant) (systemNow expiresAt : SystemTime) : Option RefreshTimer :=
  let refreshAt := (SystemTime.checkedSub expiresAt REFRESH_MARGIN).getD systemNow
  let delay := (SystemTime.durationSince refreshAt systemNow).getD 0
  (Instant.checkedAdd now delay).map fun deadline => ⟨some deadline⟩

/-- `store_from_response`, and `arm` for the token set it returns; `none` where one of them
panics. -/
def storeAndArm (storedAt : SystemTime) (resp : TokenResponse) (now : Instant)
    (armedAt : SystemTime) : Option RefreshTimer :=
  (storeFromResponse storedAt resp).bind fun tokens => checkedArm now armedAt tokens.expiresAt

theorem durationSince_lt {t earlier : ℤ} (ht : SystemTime.inRange t = true)
    (hearlier : SystemTime.inRange earlier = true) :
    (SystemTime.durationSince t earlier).getD 0 < 100 * UInt64.size := by
  simp only [SystemTime.inRange, decide_eq_true_eq] at ht hearlier
  unfold SystemTime.durationSince
  split_ifs with hle
  · show 100 * (t - earlier).toNat < 100 * 18446744073709551616
    omega
  · decide

/-- **`arm` is total**, and is what the refresh loop does. -/
theorem checkedArm_eq (env : FlowEnv) (hnow : env.now < UInt64.size)
    (hsystem : SystemTime.inRange env.systemNow = true) (expiresAt : SystemTime) :
    checkedArm env.now env.systemNow expiresAt = some (RefreshTimer.arm env expiresAt) := by
  have hrefresh : SystemTime.inRange
      ((SystemTime.checkedSub expiresAt REFRESH_MARGIN).getD env.systemNow) = true := by
    cases hsub : SystemTime.checkedSub expiresAt REFRESH_MARGIN with
    | none => exact hsystem
    | some refreshAt => exact SystemTime.inRange_of_checkedSub hsub
  have hdelay := durationSince_lt hrefresh hsystem
  simp only [checkedArm, RefreshTimer.arm, Instant.checkedAdd]
  rw [if_pos, Option.map_some]
  exact Nat.lt_of_lt_of_le (Nat.add_lt_add hnow hdelay) (by decide)

theorem isSome_storeFromResponse {systemNow : ℤ} (hsystem : SystemTime.inRange systemNow = true)
    (resp : TokenResponse) :
    (storeFromResponse systemNow resp).isSome = true ↔
      10000000 * (resp.expiresIn : ℤ) ≤ Int64.maxValue.toInt ∧
        systemNow + 10000000 * (resp.expiresIn : ℤ) ≤ Int64.maxValue.toInt := by
  have hmax : Int64.maxValue.toInt = 9223372036854775807 := rfl
  simp only [SystemTime.inRange, decide_eq_true_eq] at hsystem
  simp only [hmax, storeFromResponse, Option.isSome_map, SystemTime.checkedAdd,
    SystemTime.ticks_fromSecs, SystemTime.inRange, ← Bool.decide_and, decide_eq_true_eq]
  split_ifs with hfits
  · simp only [Option.isSome_some, true_iff]
    omega
  · simp only [Option.isSome_none, Bool.false_eq_true, false_iff]
    omega

theorem inRange_toInt (ticks : Int64) : SystemTime.inRange ticks.toInt = true := by
  have hlow := ticks.le_toInt
  have hhigh := ticks.toInt_lt
  simp only [SystemTime.inRange, decide_eq_true_eq]
  omega

/-- **No overflow, exactly.** For every token response and whatever the clocks read,
`store_from_response` followed by `arm` does not panic if and only if `expires_in`, counted in
ticks, fits in an `i64` and so does the time it leads to. For everything that the credential manager
may return, `load` does not panic if and only if a blob that is parsed expires no later than
`lastSecond`. -/
theorem expiry_arithmetic_total_iff (serde : SerdeJson) :
    (∀ (accessToken refreshToken : String) (expiresIn : UInt64) (storedAt armedAt : Int64)
      (now : UInt64),
      (storeAndArm storedAt.toInt ⟨accessToken, refreshToken, expiresIn.toNat⟩ now.toNat
          armedAt.toInt).isSome = true ↔
        10000000 * (expiresIn.toNat : ℤ) ≤ Int64.maxValue.toInt ∧
          storedAt.toInt + 10000000 * (expiresIn.toNat : ℤ) ≤ Int64.maxValue.toInt) ∧
    ∀ read, (load serde read).isSome = true ↔
      ∀ slice blob, read = .ok slice → serde.fromSlice slice = .ok blob →
        blob.expiresAtUnix.toInt ≤ lastSecond := by
  refine ⟨?_, ?_⟩
  · intro accessToken refreshToken expiresIn storedAt armedAt now
    rw [← isSome_storeFromResponse (inRange_toInt storedAt)
      ⟨accessToken, refreshToken, expiresIn.toNat⟩]
    unfold storeAndArm
    cases storeFromResponse storedAt.toInt ⟨accessToken, refreshToken, expiresIn.toNat⟩ with
    | none => exact Iff.rfl
    | some tokens =>
      have harm := checkedArm_eq (.plain now.toNat armedAt.toInt) now.toNat_lt_size
        (inRange_toInt armedAt) tokens.expiresAt
      exact iff_of_true (Option.isSome_iff_exists.mpr ⟨_, harm⟩) rfl
  · intro read
    rcases read with (_ | err) | slice
    · exact iff_of_true rfl nofun
    · exact iff_of_true rfl nofun
    · cases hparse : serde.fromSlice slice with
      | error err =>
        refine iff_of_true (by simp only [load, hparse, Option.isSome_some]) ?_
        rintro _ blob ⟨rfl⟩ hblob
        rw [hparse] at hblob
        cases hblob
      | ok blob =>
        rw [load_of_fromSlice hparse]
        constructor
        · rintro hsome _ blob' ⟨rfl⟩ hblob
          obtain rfl : blob = blob' := Except.ok.inj (hparse.symm.trans hblob)
          by_contra hlate
          rw [if_neg hlate] at hsome
          cases hsome
        · intro hfits
          rw [if_pos (hfits slice blob rfl hparse)]
          rfl

/-- A blob with the largest `expires_at_unix`. -/
def lateBlob : CredentialBlobV1 := ⟨1, "at", "rt", Int64.maxValue, ["rpc"]⟩

/-- The endpoint returns the largest `expires_in`, in 2024; the credential manager returns a blob
with the largest `expires_at_unix`. -/
theorem late_expiry_panics :
    storeFromResponse 133485408000000000 ⟨"at", "rt", UInt64.toNat 18446744073709551615⟩ = none ∧
      (compactSerde lateBlob).fromSlice (compactText lateBlob) = .ok lateBlob ∧
      load (compactSerde lateBlob) (.ok (compactText lateBlob)) = none := by
  have hparse : (compactSerde lateBlob).fromSlice (compactText lateBlob) = .ok lateBlob :=
    (faithfulOn_compactSerde lateBlob).roundTrip _ rfl
  refine ⟨by decide +kernel, hparse, ?_⟩
  rw [load_of_fromSlice hparse]
  exact if_neg (by decide)

end VoxShift.Platform
