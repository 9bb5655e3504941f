import VoxShift.Core.Issue

/-!
# What a turn can change

The observation handlers branch on two fields, `initial_sync_done` and the link
state. This module says what a turn of the loop does to them.

## What is proved

* `step_of_not_runsInitialSync` — a turn that does not run the body of
  `try_initial_sync` does what it would do without the call.
* `initialSyncDone_step_iff` — a turn sets `initial_sync_done` exactly by running
  that body.
* `linkState_step`, `linkState_setPaused` — outside `SetPaused`, a turn leaves the
  link state alone, faults a link with a command in flight, or activates a waiting
  link by the initial sync.
-/

namespace VoxShift.Core

namespace Coordinator

/-! ### The initial sync -/

/-- Both states are known. -/
def BothKnown (c : Coordinator) : Prop := c.vrchatState ≠ .unknown ∧ c.discordState ≠ .unknown

/-- `try_initial_sync` gets past its two early returns. -/
def StartsSync (c : Coordinator) : Prop := c.initialSyncDone = false ∧ BothKnown c

/-- `try_initial_sync` runs its body or does nothing. -/
theorem tryInitialSync_cases (env : Env) (c : Coordinator) :
    (StartsSync c ∧ tryInitialSync env c =
      (stampSync env (syncByAuthority env c.startSync).1, (syncByAuthority env c.startSync).2)) ∨
    (¬ StartsSync c ∧ tryInitialSync env c = (c, [])) := by
  cases hdone : c.initialSyncDone with
  | true =>
    refine .inr ⟨fun h => absurd (h.1.symm.trans hdone) (by decide), ?_⟩
    unfold tryInitialSync
    rw [if_pos hdone]
  | false =>
    by_cases hun : c.vrchatState = .unknown ∨ c.discordState = .unknown
    · exact .inr ⟨fun h => not_or.mpr h.2 hun, tryInitialSync_of_unknown env hdone hun⟩
    · obtain ⟨hv, hd⟩ := not_or.mp hun
      exact .inl ⟨⟨hdone, hv, hd⟩, tryInitialSync_of_known env hdone hv hd⟩

theorem StartsSync.tryInitialSync {c : Coordinator} (h : StartsSync c) (env : Env) :
    tryInitialSync env c =
      (stampSync env (syncByAuthority env c.startSync).1, (syncByAuthority env c.startSync).2) :=
  tryInitialSync_of_known env h.1 h.2.1 h.2.2

theorem tryInitialSync_of_not_startsSync {c : Coordinator} (h : ¬ StartsSync c) (env : Env) :
    tryInitialSync env c = (c, []) := by
  rcases tryInitialSync_cases env c with ⟨hs, -⟩ | ⟨-, he⟩
  · exact absurd hs h
  · exact he

/-- The turn runs the body of `try_initial_sync`: only the two observation handlers call it, after
they have recorded the observation. -/
def RunsInitialSync (c : Coordinator) : Input → Prop
  | .event (.vrChatMuteSelf state) => StartsSync (c.observeVrchat state)
  | .event (.discordVoiceSettingsUpdate mute) => StartsSync (c.observeDiscord mute)
  | _ => False

/-- The turn with nothing in the place of the two calls of `try_initial_sync`. -/
def stepWithoutSync (env : Env) (c : Coordinator) : Input → Coordinator × List Command
  | .event (.vrChatMuteSelf state) =>
    let c := c.observeVrchat state
    if !c.initialSyncDone then (c, [])
    else if c.linkState ≠ .active then (c, [])
    else syncDiscord env c
  | .event (.discordVoiceSettingsUpdate mute) =>
    let c := c.observeDiscord mute
    if !c.initialSyncDone then (c, [])
    else if c.linkState ≠ .active then (c, [])
    else if c.linkMode = .vrchatMaster then (c, [])
    else syncVrchat env c
  | i => c.step env i

/-- **A turn that does not run the body** does nothing by its call of `try_initial_sync`. -/
theorem step_of_not_runsInitialSync {c : Coordinator} {i : Input} (h : ¬ RunsInitialSync c i)
    (env : Env) : c.step env i = stepWithoutSync env c i := by
  unfold stepWithoutSync
  split
  · next state =>
    show handleVrchatMuteSelf env c state = _
    rw [handleVrchatMuteSelf_eq, tryInitialSync_of_not_startsSync h]
    rfl
  · next mute =>
    show handleDiscordVoiceSettingsUpdate env c mute = _
    rw [handleDiscordVoiceSettingsUpdate_eq, tryInitialSync_of_not_startsSync h]
    rfl
  · rfl

theorem RunsInitialSync.not_done {c : Coordinator} {i : Input} (h : RunsInitialSync c i) :
    c.initialSyncDone = false := by
  unfold RunsInitialSync at h
  split at h
  · exact h.1
  · exact h.1
  · exact h.elim

theorem RunsInitialSync.drives {c : Coordinator} {i : Input} (h : RunsInitialSync c i) :
    i.Drives := by
  unfold RunsInitialSync at h
  split at h
  · trivial
  · trivial
  · exact h.elim

theorem not_runsInitialSync {c : Coordinator} (h : c.initialSyncDone = true) (i : Input) :
    ¬ RunsInitialSync c i := fun hruns => absurd (h.symm.trans hruns.not_done) (by decide)

theorem initialSyncDone_tryInitialSync (env : Env) (c : Coordinator) :
    (tryInitialSync env c).1.initialSyncDone = true ↔ c.initialSyncDone = true ∨ StartsSync c := by
  rcases tryInitialSync_cases env c with ⟨hs, he⟩ | ⟨hs, he⟩
  · rw [he]
    exact iff_of_true ((kept_syncByAuthority env c.startSync).stamp env).initialSyncDone (.inr hs)
  · rw [he]
    exact (or_iff_left hs).symm

/-- **The flag and the body.** After a turn the initial sync is done exactly if it was done before
or the turn has run it. -/
theorem initialSyncDone_step_iff (env : Env) (c : Coordinator) (i : Input) :
    (c.step env i).1.initialSyncDone = true ↔
      c.initialSyncDone = true ∨ RunsInitialSync c i := by
  have hskip : ∀ {i : Input} {c' : Coordinator}, ¬ RunsInitialSync c i →
      c'.initialSyncDone = c.initialSyncDone →
      (c'.initialSyncDone = true ↔ c.initialSyncDone = true ∨ RunsInitialSync c i) := by
    intro i c' hruns he
    rw [he]
    exact (or_iff_left hruns).symm
  by_cases hi : i.Drives
  · rcases hi.cases with ⟨state, rfl⟩ | ⟨mute, rfl⟩ | rfl | rfl
    · show (handleVrchatMuteSelf env c state).1.initialSyncDone = true ↔ _
      rw [handleVrchatMuteSelf_eq]
      split_ifs with hdone
      · exact initialSyncDone_tryInitialSync env (c.observeVrchat state)
      · exact hskip (not_runsInitialSync (by simpa using hdone) _) rfl
      · exact hskip (not_runsInitialSync (by simpa using hdone) _)
          (kept_syncDiscord env (c.observeVrchat state)).initialSyncDone
    · show (handleDiscordVoiceSettingsUpdate env c mute).1.initialSyncDone = true ↔ _
      rw [handleDiscordVoiceSettingsUpdate_eq]
      split_ifs with hdone
      · exact initialSyncDone_tryInitialSync env (c.observeDiscord mute)
      · exact hskip (not_runsInitialSync (by simpa using hdone) _) rfl
      · exact hskip (not_runsInitialSync (by simpa using hdone) _) rfl
      · exact hskip (not_runsInitialSync (by simpa using hdone) _)
          (kept_syncVrchat env (c.observeDiscord mute)).initialSyncDone
    · exact hskip id (kept_resume env c).initialSyncDone
    · exact hskip id (kept_manualResync env c).initialSyncDone
  · have hruns : ¬ RunsInitialSync c i := fun hruns => hi hruns.drives
    exact hskip hruns (forgets_step env c hi).initialSyncDone

/-- The initial sync is never undone. -/
theorem initialSyncDone_step (env : Env) {c : Coordinator} (h : c.initialSyncDone = true)
    (i : Input) : (c.step env i).1.initialSyncDone = true :=
  (initialSyncDone_step_iff env c i).mpr (.inl h)

/-! ### The link state -/

/-- Something in flight means the initial sync has run. -/
theorem Inv.done_of_pending {c : Coordinator} (h : Inv c)
    (hp : c.pendingVrchat.isSome ∨ c.pendingDiscord.isSome) : c.initialSyncDone = true := by
  cases hdone : c.initialSyncDone with
  | true => rfl
  | false =>
    obtain ⟨hpd, hpv⟩ := h.idle hdone
    rw [hpd, hpv] at hp
    simp at hp

/-- A turn outside `SetPaused` leaves the link state alone, faults a link that has a command in
flight, or runs the initial sync and activates a waiting link. -/
inductive LinkMoves (c c' : Coordinator) : Prop where
  | same (h : c'.linkState = c.linkState)
  | faults (h : c'.linkState = .faulted)
      (hp : c.pendingVrchat.isSome ∨ c.pendingDiscord.isSome)
  | syncs (hdone : c.initialSyncDone = false) (hdone' : c'.initialSyncDone = true)
      (h : c'.linkState = c.startSync.linkState)

theorem linkMoves_tryInitialSync (env : Env) (c : Coordinator) :
    LinkMoves c (tryInitialSync env c).1 := by
  rcases tryInitialSync_cases env c with ⟨hs, he⟩ | ⟨-, he⟩
  · rw [he]
    have hkept := (kept_syncByAuthority env c.startSync).stamp env
    exact .syncs hs.1 hkept.initialSyncDone hkept.linkState
  · rw [he]
    exact .same rfl

theorem linkState_step (env : Env) (c : Coordinator) {i : Input}
    (hi : ∀ paused, i ≠ .command (.setPaused paused)) : LinkMoves c (c.step env i).1 := by
  cases i with
  | event ev =>
    cases ev with
    | vrChatMuteSelf state =>
      show LinkMoves c (handleVrchatMuteSelf env c state).1
      rw [handleVrchatMuteSelf_eq]
      split_ifs
      · cases linkMoves_tryInitialSync env (c.observeVrchat state) with
        | same h => exact .same h
        | faults h hp => exact .faults h (.inr (hp.resolve_left (by simp)))
        | syncs hdone hdone' h => exact .syncs hdone hdone' h
      · exact .same rfl
      · exact .same (kept_syncDiscord env (c.observeVrchat state)).linkState
    | discordVoiceSettingsUpdate mute =>
      show LinkMoves c (handleDiscordVoiceSettingsUpdate env c mute).1
      rw [handleDiscordVoiceSettingsUpdate_eq]
      split_ifs
      · cases linkMoves_tryInitialSync env (c.observeDiscord mute) with
        | same h => exact .same h
        | faults h hp => exact .faults h (.inl (hp.resolve_right (by simp)))
        | syncs hdone hdone' h => exact .syncs hdone hdone' h
      · exact .same rfl
      · exact .same rfl
      · exact .same (kept_syncVrchat env (c.observeDiscord mute)).linkState
    | discordConnectionChanged cs =>
      refine .same ?_
      simp only [step, handleEvent, handleDiscordConnectionChanged]
      split_ifs <;> rfl
    | discordCommandAck nonce result =>
      simp only [step, handleEvent, handleDiscordCommandAck]
      split_ifs with hp
      · cases result with
        | error message =>
          refine .faults rfl (.inr ?_)
          cases hpd : c.pendingDiscord with
          | none => simp [hpd] at hp
          | some p => rfl
        | ok _ => exact .same rfl
      · exact .same rfl
    | vrChatAvatarChanged | vrChatConnectionChanged _ | discordVoiceChannelStatus _
    | discordVoiceStateUnavailable _ => exact .same rfl
  | command cmd =>
    cases cmd with
    | setPaused paused => exact absurd rfl (hi paused)
    | manualResync => exact .same (kept_manualResync env c).linkState
    | setLinkMode _ | shutdown => exact .same rfl
  | timeout =>
    have hdiscord := (expireDiscord_frame env.now (expireVrchat env.now c)).2
    show LinkMoves c (expireDiscord env.now (expireVrchat env.now c))
    unfold expireVrchat at hdiscord ⊢
    split_ifs at hdiscord ⊢ with hp
    · refine .faults hdiscord (.inl ?_)
      cases hpv : c.pendingVrchat with
      | none => simp [hpv] at hp
      | some p => rfl
    · exact .same hdiscord

theorem linkState_setPaused (env : Env) (c : Coordinator) (paused : Bool) :
    (c.step env (.command (.setPaused paused))).1.linkState =
      if paused then .paused else .active := by
  cases paused with
  | true => rfl
  | false => exact (kept_resume env c).linkState

end Coordinator

end VoxShift.Core
