import VoxShift.Discord.Restore
import VoxShift.Discord.Sessions

/-!
# A rotated refresh token

The token endpoint takes a refresh token once and returns another in its place. From
then on the new token set is in the memory of the flow that asked for it and nowhere
else, until that flow saves it. `run_refresh_loop` saves it at once. `try_refresh`
sends `AUTHENTICATE` first, and returns without saving where that fails.

## What is proved

* `run_authenticatingNew` — the other flows do not touch a token set that waits for
  its `AUTHENTICATE`.
* `rotated_pair_stored_iff` — which of the two flows leave the new token set in the
  store, and when.
* `refused_authenticate_drops_rotated_token` — the pipe closes during the
  `AUTHENTICATE`, and the store is left with a refresh token that is spent.
-/

namespace VoxShift.Discord

open VoxShift.Core VoxShift.Theory

/-- The turn resumes the restored session. -/
def Turn.ResumesRestore : Turn → Prop
  | .resume .restore _ => True
  | .resume .refreshLoop _ | .resume .authorize _ | .serve _ _ => False

theorem Turn.exists_env {t : Turn} (ht : t.ResumesRestore) : ∃ env, t = .resume .restore env := by
  cases t with
  | resume flow env =>
    cases flow with
    | restore => exact ⟨env, rfl⟩
    | refreshLoop | authorize => exact ht.elim
  | serve flow served => exact ht.elim

/-- The store holds the new token set, and not the refresh token that was presented for it. -/
structure Rotated (current tokens : StoredTokenSet) (stored : Option StoredTokenSet) : Prop where
  new : stored = some tokens
  old : ∀ kept, stored = some kept → kept.refreshToken ≠ current.refreshToken

/-- The endpoint's new refresh token is not the one it was given. -/
theorem rotated_iff {current tokens : StoredTokenSet} {stored : Option StoredTokenSet}
    (hnew : tokens.refreshToken ≠ current.refreshToken) :
    Rotated current tokens stored ↔ stored = some tokens := by
  refine ⟨Rotated.new, fun hstored => ⟨hstored, ?_⟩⟩
  intro kept hkept
  obtain rfl : tokens = kept := Option.some.inj (hstored.symm.trans hkept)
  exact hnew

/-! ### The new token set in memory -/

/-- **One turn** that does not resume the restored session leaves it where it is, unless it waits
for the endpoint. -/
theorem Sessions.restore_step (cfg : AuthConfig) {w : Sessions}
    (hw : ∀ current, w.restore ≠ .refreshing current none) {t : Turn} (ht : ¬ t.ResumesRestore) :
    (w.step cfg t).1.restore = w.restore := by
  cases t with
  | resume flow env =>
    cases flow with
    | refreshLoop | authorize => rfl
    | restore => exact absurd trivial ht
  | serve flow served =>
    cases flow with
    | refreshLoop | authorize =>
      simp only [Sessions.step, Sessions.serve]
      split <;> rfl
    | restore =>
      simp only [Sessions.step, Sessions.serve]

/-- **A run** of other turns leaves a new token set where it is until its `AUTHENTICATE` is
answered. -/
theorem run_authenticatingNew (cfg : AuthConfig) {w : Sessions} {current tokens : StoredTokenSet}
    (hw : w.restore = .authenticatingNew current tokens) {ts : List Turn}
    (hts : ∀ t ∈ ts, ¬ t.ResumesRestore) :
    ((sessions cfg).run w ts).restore = .authenticatingNew current tokens := by
  refine Machine.Along.inv (M := sessions cfg)
    (I := fun w => w.restore = .authenticatingNew current tokens) ?_
    (Machine.along_of_forall _ w hts) hw
  intro w t hw ht
  exact (Sessions.restore_step cfg (by simp [hw]) ht).trans hw

theorem run_panicked (cfg : AuthConfig) {w : Sessions} (hw : w.restore = .panicked)
    (ts : List Turn) : ((sessions cfg).run w ts).restore = .panicked := by
  refine Machine.inv_run (M := sessions cfg) (I := fun w => w.restore = .panicked) ?_ hw ts
  intro w t hw
  by_cases ht : t.ResumesRestore
  · obtain ⟨env, rfl⟩ := Turn.exists_env ht
    simp only [Machine.next, sessions, Sessions.step, RestoreState.resume, hw]
  · exact (Sessions.restore_step cfg (by simp [hw]) ht).trans hw

section Granted

variable {current : StoredTokenSet} {response : Option HttpResponse} {resp : TokenResponse}

theorem RestoreState.resume_granted (cfg : AuthConfig) (env : FlowEnv)
    (stored : Option StoredTokenSet) (hgranted : postToken response = .ok resp)
    {tokens : StoredTokenSet} (htokens : storeFromResponse env.systemNow resp = some tokens) :
    RestoreState.resume cfg env stored (.refreshing current (some response)) =
      ⟨.authenticatingNew current tokens, stored, [.authenticate tokens.accessToken]⟩ := by
  simp only [resume, refreshed, hgranted, htokens]

theorem RestoreState.resume_overflow (cfg : AuthConfig) (env : FlowEnv)
    (stored : Option StoredTokenSet) (hgranted : postToken response = .ok resp)
    (htokens : storeFromResponse env.systemNow resp = none) :
    RestoreState.resume cfg env stored (.refreshing current (some response)) =
      ⟨.panicked, stored, []⟩ := by
  simp only [resume, refreshed, hgranted, htokens]

/-- What the store holds when the reply to the `AUTHENTICATE` is there and the save does not
fail. -/
theorem RestoreState.stored_authenticatingNew (cfg : AuthConfig) {env : FlowEnv}
    (stored : Option StoredTokenSet) (tokens : StoredTokenSet) (hsave : env.saveError = none) :
    (RestoreState.resume cfg env stored (.authenticatingNew current tokens)).stored = some tokens ↔
      authenticate env.reply = .ok () ∨ stored = some tokens := by
  simp only [resume]
  rcases authenticate env.reply with err | ⟨⟩
  · simp
  · simp [afterSave, hsave]

theorem RefreshLoop.stored_refreshed {env : FlowEnv} (stored : Option StoredTokenSet)
    (l : RefreshLoop) (hsave : env.saveError = none)
    (hstate : (l.refreshed env stored current (.ok resp)).flow.state ≠ .panicked) :
    ∃ tokens, storeFromResponse env.systemNow resp = some tokens ∧
      (l.refreshed env stored current (.ok resp)).stored = some tokens := by
  cases htokens : storeFromResponse env.systemNow resp with
  | none =>
    refine absurd ?_ hstate
    simp only [refreshed, htokens]
  | some tokens =>
    refine ⟨tokens, rfl, ?_⟩
    simp [refreshed, htokens, afterSave, hsave]

/-- **Which refresh keeps the new token pair.** Let a refresh have presented the refresh token of
`current`, and the endpoint have returned another one, and let the store not fail to save.

* The refresh loop, unless it panics, leaves the new token set in the store.
* `try_refresh` — whatever the other flows do while it waits for the reply to its `AUTHENTICATE`,
  and whatever comes of that — leaves the new token set in the store when it returns, and not the
  refresh token it has presented, if and only if `AUTHENTICATE` succeeds or the store already holds
  that set. -/
theorem rotated_pair_stored_iff (cfg : AuthConfig) (w : Sessions)
    (hgranted : postToken response = .ok resp)
    (hnew : resp.refreshToken ≠ current.refreshToken) :
    (∀ env : FlowEnv, env.saveError = none →
      w.loop.state = .refreshing current (some response) →
      let w' := (sessions cfg).next w (.resume .refreshLoop env)
      w'.loop.state ≠ .panicked →
      ∃ tokens, storeFromResponse env.systemNow resp = some tokens ∧
        Rotated current tokens w'.stored) ∧
    (∀ (env₁ env₂ : FlowEnv) (ts : List Turn) (result : Except AuthError (Option StoredTokenSet)),
      env₂.saveError = none → (∀ t ∈ ts, ¬ t.ResumesRestore) →
      w.restore = .refreshing current (some response) →
      let w₁ := (sessions cfg).run w (.resume .restore env₁ :: ts)
      let w₂ := (sessions cfg).next w₁ (.resume .restore env₂)
      w₂.restore = .idle (some result) →
      ∃ tokens, storeFromResponse env₁.systemNow resp = some tokens ∧
        (Rotated current tokens w₂.stored ↔
          authenticate env₂.reply = .ok () ∨ w₁.stored = some tokens)) := by
  have hrotated : ∀ {systemNow : SystemTime} {tokens : StoredTokenSet},
      storeFromResponse systemNow resp = some tokens → ∀ stored,
        (Rotated current tokens stored ↔ stored = some tokens) :=
    fun htokens _ => rotated_iff ((storeFromResponse_tokens htokens).2 ▸ hnew)
  refine ⟨?_, ?_⟩
  · intro env hsave hstate w' hpanic
    have hflow : w.loop.resume cfg env w.stored =
        w.loop.refreshed env w.stored current (.ok resp) := by
      simp only [RefreshLoop.resume, hstate, hgranted]
    have hw' : w'.loop.state = (w.loop.resume cfg env w.stored).flow.state := rfl
    rw [hw', hflow] at hpanic
    obtain ⟨tokens, htokens, hstored⟩ := RefreshLoop.stored_refreshed w.stored w.loop hsave hpanic
    refine ⟨tokens, htokens, (hrotated htokens _).mpr ?_⟩
    show (w.loop.resume cfg env w.stored).stored = some tokens
    rw [hflow]
    exact hstored
  · intro env₁ env₂ ts result hsave hts hstate w₁ w₂ hreturn
    have hfirst : ((sessions cfg).next w (.resume .restore env₁)).restore =
        (RestoreState.resume cfg env₁ w.stored (.refreshing current (some response))).flow := by
      rw [← hstate]
      rfl
    cases htokens : storeFromResponse env₁.systemNow resp with
    | none =>
      rw [RestoreState.resume_overflow cfg env₁ w.stored hgranted htokens] at hfirst
      have hpanicked := run_panicked cfg hfirst (ts ++ [.resume .restore env₂])
      rw [Machine.run_append] at hpanicked
      exact absurd (hreturn.symm.trans hpanicked) (by simp)
    | some tokens =>
      rw [RestoreState.resume_granted cfg env₁ w.stored hgranted htokens] at hfirst
      have hw₁ : w₁.restore = .authenticatingNew current tokens :=
        run_authenticatingNew cfg hfirst hts
      have hw₂ : w₂.stored =
          (RestoreState.resume cfg env₂ w₁.stored (.authenticatingNew current tokens)).stored := by
        rw [← hw₁]
        rfl
      refine ⟨tokens, rfl, ?_⟩
      rw [hrotated htokens, hw₂, RestoreState.stored_authenticatingNew cfg w₁.stored tokens hsave]

end Granted

/-- The reply to an `AUTHENTICATE`, if there is nothing wrong. -/
def acceptedReply : RpcMessage := ⟨none, none, none, none, none, none⟩

/-- The restored session has presented an expired token set, and the endpoint has answered. -/
def grantedSessions : Sessions :=
  (sessions ⟨"client"⟩).run (.start (some expiredTokens) ⟨["rt-0"], []⟩)
    [.resume .restore (.plain 0 1), .serve .restore (.grant ⟨"at-1", "rt-1", 604800⟩)]

/-- The new access token is accepted, while the refresh loop starts: the new token set is saved. -/
theorem rotated_pair_stored_accepted :
    let w₁ := (sessions ⟨"client"⟩).run grantedSessions
      [.resume .restore (.plain 0 1), .resume .refreshLoop (.plain 0 1)]
    let w₂ := (sessions ⟨"client"⟩).next w₁
      (.resume .restore { FlowEnv.plain 0 1 with reply := .ok acceptedReply })
    Rotated expiredTokens newTokens w₂.stored := by
  intro w₁ w₂
  have hgranted : postToken (some ⟨200, some ⟨"at-1", "rt-1", 604800⟩⟩) =
      .ok ⟨"at-1", "rt-1", 604800⟩ := rfl
  have hnew : "rt-1" ≠ expiredTokens.refreshToken := by decide
  obtain ⟨tokens, htokens, hiff⟩ :=
    (rotated_pair_stored_iff ⟨"client"⟩ grantedSessions hgranted hnew).2 (.plain 0 1)
      { FlowEnv.plain 0 1 with reply := .ok acceptedReply } [.resume .refreshLoop (.plain 0 1)]
      (.ok (some newTokens)) rfl (by simp [Turn.ResumesRestore]) rfl rfl
  obtain rfl : tokens = newTokens := Option.some.inj (htokens.symm.trans (by decide +kernel))
  exact hiff.mpr (.inl rfl)

/-- The endpoint has taken the stored refresh token and returned another; the pipe closes during the
`AUTHENTICATE` that follows. The call returns an error, nothing was saved, and the store holds the
refresh token that is spent. -/
theorem refused_authenticate_drops_rotated_token :
    let w := (sessions ⟨"client"⟩).run grantedSessions
      [.resume .restore (.plain 0 1), .resume .restore (.plain 0 1)]
    w.restore = .idle (some (.error (.client .pipeClosed))) ∧
      w.stored = some expiredTokens ∧ expiredTokens.refreshToken ∈ w.endpoint.spent ∧
      ¬ Rotated expiredTokens newTokens w.stored := by
  intro w
  have hstored : w.stored = some expiredTokens := by decide +kernel
  refine ⟨rfl, hstored, by decide +kernel, fun hrotated => ?_⟩
  have hnew := hrotated.new
  rw [hstored] at hnew
  exact absurd hnew (by decide)

end VoxShift.Discord
