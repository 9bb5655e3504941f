import VoxShift.Core.State

/-!
# Stored tokens

`voxshift-core`'s `token.rs`, and the arithmetic of `std::time::SystemTime` it and
the authorization flows use. On Windows a `SystemTime` is a count of 100 ns ticks
in an `i64`; the checked operations answer `None` where the result would leave it.
-/

namespace VoxShift.Core

namespace SystemTime

/-- The tick count fits in an `i64`. -/
def inRange (ticks : ℤ) : Bool :=
  decide (-9223372036854775808 ≤ ticks ∧ ticks ≤ 9223372036854775807)

/-- The ticks of a duration. -/
def ticks (d : Duration) : ℤ := (d / 100 : ℕ)

/-- `SystemTime::checked_add`. -/
def checkedAdd (t : SystemTime) (d : Duration) : Option SystemTime :=
  if inRange (ticks d) && inRange (t + ticks d) then some (t + ticks d) else none

/-- `SystemTime::checked_sub`. -/
def checkedSub (t : SystemTime) (d : Duration) : Option SystemTime :=
  if inRange (ticks d) && inRange (t - ticks d) then some (t - ticks d) else none

/-- `SystemTime::duration_since`; `none` where the other time is the later one. -/
def durationSince (t earlier : SystemTime) : Option Duration :=
  if earlier ≤ t then some (100 * (t - earlier).toNat) else none

theorem ticks_fromSecs (secs : ℕ) : ticks (Duration.fromSecs secs) = 10000000 * (secs : ℤ) := by
  unfold ticks Duration.fromSecs
  omega

theorem inRange_of_checkedSub {t difference : SystemTime} {d : Duration}
    (h : checkedSub t d = some difference) : inRange difference = true := by
  unfold checkedSub at h
  split_ifs at h with hsub
  obtain rfl := Option.some.inj h
  rw [Bool.and_eq_true] at hsub
  exact hsub.2

/-- A time in range less a duration is in range where an earlier time less it is. -/
theorem inRange_sub_of_le {t earlier d : ℤ} (ht : inRange t = true) (hd : 0 ≤ d)
    (hle : earlier ≤ t) (h : inRange (earlier - d) = true) : inRange (t - d) = true := by
  simp only [inRange, decide_eq_true_eq] at ht h ⊢
  omega

end SystemTime

/-- `StoredTokenSet`. -/
structure StoredTokenSet where
  accessToken : String
  refreshToken : String
  expiresAt : SystemTime
  scopes : List String
  deriving DecidableEq, Repr

/-- `StoredTokenSet::is_expired_within`, at a reading of the wall clock. -/
def StoredTokenSet.isExpiredWithin (tokens : StoredTokenSet) (systemNow : SystemTime)
    (margin : Duration) : Bool :=
  match SystemTime.checkedSub tokens.expiresAt margin with
  | some threshold => decide (threshold ≤ systemNow)
  | none => true

namespace StoredTokenSet

variable {tokens : StoredTokenSet} {systemNow : SystemTime}

/-- A token set that is not expired expires later. -/
theorem lt_expiresAt (h : tokens.isExpiredWithin systemNow 0 = false) :
    systemNow < tokens.expiresAt := by
  unfold isExpiredWithin SystemTime.checkedSub at h
  split at h
  · next threshold hsub =>
    split_ifs at hsub
    have hticks : SystemTime.ticks 0 = 0 := rfl
    rw [hticks, Int.sub_zero, Option.some.injEq] at hsub
    simpa [hsub] using h
  · cases h

theorem not_isExpiredWithin_of_le {earlier : SystemTime} {margin : Duration}
    (h : tokens.isExpiredWithin systemNow margin = false) (hle : earlier ≤ systemNow) :
    tokens.isExpiredWithin earlier margin = false := by
  unfold isExpiredWithin at h ⊢
  split at h
  · simp only [decide_eq_false_iff_not, Int.not_le] at h ⊢
    exact Int.lt_of_le_of_lt hle h
  · cases h

/-- A token set that expires no later than another is expired where the other is. -/
theorem isExpiredWithin_of_expiresAt_le {tokens' : StoredTokenSet} {margin : Duration}
    (hrange : SystemTime.inRange tokens.expiresAt = true)
    (hle : tokens'.expiresAt ≤ tokens.expiresAt)
    (h : tokens.isExpiredWithin systemNow margin = true) :
    tokens'.isExpiredWithin systemNow margin = true := by
  unfold isExpiredWithin SystemTime.checkedSub at h ⊢
  have hticks : 0 ≤ SystemTime.ticks margin := Int.natCast_nonneg _
  split_ifs at h ⊢ with hsub hsub'
  · exact decide_eq_true (Int.le_trans (Int.sub_le_sub_right hle _) (of_decide_eq_true h))
  · -- where the later threshold leaves the range, the earlier one does too
    rw [Bool.and_eq_true] at hsub hsub'
    exact absurd ⟨hsub.1, SystemTime.inRange_sub_of_le hrange hticks hle hsub.2⟩ hsub'
  · rfl
  · rfl

theorem isExpiredWithin_of_le {margin : Duration} (h : tokens.expiresAt ≤ systemNow) :
    tokens.isExpiredWithin systemNow margin = true := by
  unfold isExpiredWithin SystemTime.checkedSub
  have hticks : 0 ≤ SystemTime.ticks margin := Int.natCast_nonneg _
  split
  · next threshold hsub =>
    split_ifs at hsub
    obtain rfl := Option.some.inj hsub
    exact decide_eq_true (Int.le_trans (Int.sub_le_self _ hticks) h)
  · rfl

end StoredTokenSet

end VoxShift.Core
