import VoxShift.Core.Pending

/-!
# The last-sync stamp

A manual resync, and a resume that synchronises from VRChat, end in
`resync_from_vrchat`. It reports an unknown VRChat state and leaves; otherwise it
hands the target to `set_discord_state`, which has no result, and stamps the time.

## What is proved

* `resync_honest_iff` — the stamp is true, or left alone with the reason reported,
  unless VRChat is known and Discord is not: then nothing is sent, nothing is
  reported, and the time is stamped all the same.
* `resync_stamps_without_sync` — so it is after Discord has disconnected.
-/

namespace VoxShift.Core

namespace Coordinator

/-- VRChat is known, and Discord is its inverse or a `SetMute` to the inverse is in flight. -/
structure Synced (c : Coordinator) : Prop where
  known : c.vrchatState ≠ .unknown
  inverse : c.discordState = c.vrchatState.inverse ∨
    ∃ p, c.pendingDiscord = some p ∧ p.target = c.vrchatState.inverse

/-- The error gives the reason why there was no sync, and it is true. -/
structure ReportsUnknown (c : Coordinator) : Prop where
  text : c.lastError = some "VRChat state unknown; toggle the mic once to sync"
  unknown : c.vrchatState = .unknown

/-- What a resync says of itself is true: it stamps the time of a sync that took place, or leaves
the stamp of `c` alone and reports why there was none. -/
inductive Honest (env : Env) (c c' : Coordinator) : Prop where
  | stamped (time : c'.lastSyncAt = some env.systemNow) (synced : Synced c')
  | reported (same : c'.lastSyncAt = c.lastSyncAt) (reports : ReportsUnknown c')

theorem honest_resync_of_unknown {c : Coordinator} (hv : c.vrchatState = .unknown) (env : Env) :
    Honest env c (resyncFromVrchat env c).1 := by
  unfold resyncFromVrchat
  rw [if_pos hv]
  exact .reported rfl ⟨rfl, hv⟩

theorem resyncFromVrchat_of_known {c : Coordinator} (hv : c.vrchatState ≠ .unknown) (env : Env) :
    (resyncFromVrchat env c).1 = stampSync env (syncDiscord env c).1 := by
  unfold resyncFromVrchat
  rw [if_neg hv]

/-- With both sides known, Discord follows or is already there. -/
theorem Slots.synced_syncDiscord {c : Coordinator} (h : Slots c) (hv : c.vrchatState ≠ .unknown)
    (hd : c.discordState ≠ .unknown) (env : Env) : Synced (syncDiscord env c).1 := by
  have hkept := kept_syncDiscord env c
  refine ⟨hkept.vrchatState ▸ hv, ?_⟩
  rw [hkept.vrchatState, hkept.discordState, syncDiscord_eq h]
  by_cases heq : c.discordState = c.vrchatState
  · right
    cases hp : c.pendingDiscord with
    | none =>
      rw [if_pos ⟨hv, heq, rfl⟩]
      exact ⟨_, rfl, rfl⟩
    | some p =>
      have htarget := (h.discord p hp).2
      rw [if_neg (by simp)]
      exact ⟨p, hp, by rw [htarget, heq]⟩
  · exact .inl ((MuteState.ne_iff_eq_inverse hd hv).mp heq)

theorem Slots.syncDiscord_of_unknown {c : Coordinator} (h : Slots c) (hv : c.vrchatState ≠ .unknown)
    (hd : c.discordState = .unknown) (env : Env) : (syncDiscord env c).1 = c ∧ ¬ Synced c := by
  constructor
  · rw [syncDiscord_eq h, if_neg fun hs => hv (hs.2.1.symm.trans hd)]
  · rintro ⟨-, hinv | ⟨p, hp, -⟩⟩
    · exact hv (MuteState.inverse_eq_unknown.mp (hinv.symm.trans hd))
    · exact (h.discord p hp).1 hd

/-- **A resync is honest** unless VRChat is known and Discord is not. -/
theorem Slots.honest_resync_iff {c : Coordinator} (h : Slots c) (env : Env) :
    Honest env c (resyncFromVrchat env c).1 ↔
      (c.vrchatState ≠ .unknown → c.discordState ≠ .unknown) := by
  by_cases hv : c.vrchatState = .unknown
  · exact iff_of_true (honest_resync_of_unknown hv env) fun hk => absurd hv hk
  rw [resyncFromVrchat_of_known hv]
  constructor
  · intro hhonest _ hd
    obtain ⟨hsame, hnot⟩ := h.syncDiscord_of_unknown hv hd env
    rw [hsame] at hhonest
    cases hhonest with
    | stamped _ hsynced => exact hnot ⟨hsynced.known, hsynced.inverse⟩
    | reported _ hreports => exact hv hreports.unknown
  · intro hd
    have hsynced := h.synced_syncDiscord hv (hd hv) env
    exact .stamped rfl ⟨hsynced.known, hsynced.inverse⟩

end Coordinator

/-- The input resynchronises Discord from VRChat. -/
def Input.Resyncs (c : Coordinator) : Input → Prop
  | .command .manualResync => True
  | .command (.setPaused false) => c.resumePolicy = .syncFromVrchat
  | _ => False

/-- **The last-sync stamp, exactly.** From every reachable state, a manual resync, and a resume that
synchronises from VRChat, does one of two things: it stamps the time, with VRChat known and Discord
inverse or a `SetMute` to the inverse in flight; or it leaves the stamp alone and reports that
VRChat is unknown. It does so exactly if Discord is known whenever VRChat is. -/
theorem resync_honest_iff {c : Coordinator} (h : Reachable c) {i : Input} (hi : i.Resyncs c)
    (env : Env) :
    Coordinator.Honest env c (c.step env i).1 ↔
      (c.vrchatState ≠ .unknown → c.discordState ≠ .unknown) := by
  have hslots := h.inv.toSlots
  have hresync : ∀ c' : Coordinator, c'.Slots → c'.lastSyncAt = c.lastSyncAt →
      c'.vrchatState = c.vrchatState → c'.discordState = c.discordState →
      (Coordinator.Honest env c (Coordinator.resyncFromVrchat env c').1 ↔
        (c.vrchatState ≠ .unknown → c.discordState ≠ .unknown)) := by
    intro c' hslots' hstamp hv hd
    rw [← hv, ← hd, ← hslots'.honest_resync_iff env]
    constructor
    · rintro (⟨htime, hsynced⟩ | ⟨hsame, hreports⟩)
      · exact .stamped htime hsynced
      · exact .reported (hsame.trans hstamp.symm) hreports
    · rintro (⟨htime, hsynced⟩ | ⟨hsame, hreports⟩)
      · exact .stamped htime hsynced
      · exact .reported (hsame.trans hstamp) hreports
  cases i with
  | command cmd =>
    cases cmd with
    | manualResync => exact hresync _ hslots.clear rfl rfl rfl
    | setPaused paused =>
      cases paused with
      | true => exact hi.elim
      | false =>
        have hpolicy : c.resumePolicy = .syncFromVrchat := hi
        have hstep : (c.step env (.command (.setPaused false))).1 =
            (Coordinator.resyncFromVrchat env { c with linkState := .active }).1 := by
          simp only [Coordinator.step, Coordinator.handleCommand, Coordinator.resume, hpolicy]
        rw [hstep]
        exact hresync { c with linkState := .active } (hslots.of_eq rfl) rfl rfl rfl
    | setLinkMode mode | shutdown => exact hi.elim
  | event ev => exact hi.elim
  | timeout => exact hi.elim

/-- Both sides have been seen, and then Discord has disconnected. -/
def disconnected : Coordinator := coordinator.run (.new .default)
  [(⟨0, 0, 1⟩, .event (.discordVoiceSettingsUpdate .unmuted)),
    (⟨0, 0, 2⟩, .event (.vrChatMuteSelf .muted)),
    (⟨0, 0, 3⟩, .event (.discordConnectionChanged .disconnected))]

/-- The user resyncs: the stamp moves on to the time 7, no command is sent, no error is reported,
and Discord is still unknown. -/
theorem resync_stamps_without_sync :
    let c' := (disconnected.step ⟨0, 7, 4⟩ (.command .manualResync)).1
    Reachable disconnected ∧ (disconnected.step ⟨0, 7, 4⟩ (.command .manualResync)).2 = [] ∧
      disconnected.lastSyncAt = some 0 ∧ c'.lastSyncAt = some 7 ∧ c'.vrchatState = .muted ∧
      c'.discordState = .unknown ∧ c'.pendingDiscord = none ∧ c'.lastError = none ∧
      ¬ Coordinator.Honest ⟨0, 7, 4⟩ disconnected c' := by
  refine ⟨reachable_run _ _, rfl, rfl, rfl, rfl, rfl, rfl, rfl, ?_⟩
  rintro (⟨-, hsynced⟩ | ⟨hsame, -⟩)
  · rcases hsynced.inverse with hinv | ⟨p, hp, -⟩
    · cases hinv
    · cases hp
  · cases hsame

/-- With Discord seen again, the resync is honest. -/
theorem resync_honest_reconnected :
    let c := coordinator.run disconnected [(⟨0, 0, 4⟩, .event (.discordVoiceSettingsUpdate .muted))]
    Coordinator.Honest ⟨0, 7, 5⟩ c (c.step ⟨0, 7, 5⟩ (.command .manualResync)).1 := by
  intro c
  have hreach : Reachable disconnected := reachable_run _ _
  exact (resync_honest_iff (hreach.run _) (i := .command .manualResync) trivial _).mpr
    fun _ => by decide

end VoxShift.Core
