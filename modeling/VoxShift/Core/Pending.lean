import VoxShift.Core.Coordinator

/-!
# The pending slots

What the two pending slots of the coordinator say about the two mute states, and
from which states a command is issued.

## What is proved

* `handleVrchatMuteSelf_eq`, `handleDiscordVoiceSettingsUpdate_eq` — both
  observation handlers record the observation and then do what the initial sync
  and the resync do, so every command of the program comes from `syncDiscord` or
  `syncVrchat`.
* `silent_of_not_drives`, `forgets_step` — only the two observations, the resume and
  the manual resync send anything; all other turns forget, and no more.
* `syncDiscord_eq`, `syncVrchat_eq` — where the slots are sound, these two issue
  a command exactly when both states are known and equal and the slot is empty.
* `Slots.sound_step` — one turn keeps the slots sound, and issues at most one
  command, from a conflicting pair.
* `Inv.after_step`, `Reachable.inv` — the slots are sound in every state between
  turns, and nothing is in flight before the initial sync.
-/

namespace VoxShift.Core

namespace Coordinator

/-! ### The two places that issue commands -/

/-- After `set_discord_state` has sent its command. -/
def issueSetMute (env : Env) (c : Coordinator) (target : MuteState) : Coordinator :=
  { c with pendingDiscord := some ⟨env.nonce, target, env.now, env.now + DISCORD_COMMAND_TIMEOUT⟩ }

/-- After `toggle_vrchat` has sent its command. -/
def issueToggle (env : Env) (c : Coordinator) (expected : MuteState) : Coordinator :=
  { c with pendingVrchat := some ⟨c.vrchatState, expected, env.now,
    env.now + VRCHAT_COMMAND_TIMEOUT⟩ }

section Observations

variable (c : Coordinator) (state mute : MuteState)

@[simp] theorem observeVrchat_vrchatState : (c.observeVrchat state).vrchatState = state := rfl
@[simp] theorem observeVrchat_discordState :
    (c.observeVrchat state).discordState = c.discordState := rfl
@[simp] theorem observeVrchat_discordConnection :
    (c.observeVrchat state).discordConnection = c.discordConnection := rfl
@[simp] theorem observeVrchat_linkMode : (c.observeVrchat state).linkMode = c.linkMode := rfl
@[simp] theorem observeVrchat_linkState : (c.observeVrchat state).linkState = c.linkState := rfl
@[simp] theorem observeVrchat_resumePolicy :
    (c.observeVrchat state).resumePolicy = c.resumePolicy := rfl
@[simp] theorem observeVrchat_startupAuthority :
    (c.observeVrchat state).startupAuthority = c.startupAuthority := rfl
@[simp] theorem observeVrchat_initialSyncDone :
    (c.observeVrchat state).initialSyncDone = c.initialSyncDone := rfl
@[simp] theorem observeVrchat_pendingDiscord :
    (c.observeVrchat state).pendingDiscord = c.pendingDiscord := rfl
@[simp] theorem observeVrchat_pendingVrchat : (c.observeVrchat state).pendingVrchat = none := rfl

@[simp] theorem observeDiscord_vrchatState : (c.observeDiscord mute).vrchatState = c.vrchatState :=
  rfl
@[simp] theorem observeDiscord_discordState : (c.observeDiscord mute).discordState = mute := rfl
@[simp] theorem observeDiscord_discordConnection :
    (c.observeDiscord mute).discordConnection = .connected := rfl
@[simp] theorem observeDiscord_linkMode : (c.observeDiscord mute).linkMode = c.linkMode := rfl
@[simp] theorem observeDiscord_linkState : (c.observeDiscord mute).linkState = c.linkState := rfl
@[simp] theorem observeDiscord_resumePolicy :
    (c.observeDiscord mute).resumePolicy = c.resumePolicy := rfl
@[simp] theorem observeDiscord_startupAuthority :
    (c.observeDiscord mute).startupAuthority = c.startupAuthority := rfl
@[simp] theorem observeDiscord_initialSyncDone :
    (c.observeDiscord mute).initialSyncDone = c.initialSyncDone := rfl
@[simp] theorem observeDiscord_pendingDiscord : (c.observeDiscord mute).pendingDiscord = none := rfl
@[simp] theorem observeDiscord_pendingVrchat :
    (c.observeDiscord mute).pendingVrchat = c.pendingVrchat := rfl

end Observations

/-- An observation of VRChat is recorded, then `initial_sync_done` and the link state decide
whether Discord follows. -/
theorem handleVrchatMuteSelf_eq (env : Env) (c : Coordinator) (state : MuteState) :
    handleVrchatMuteSelf env c state =
      if !c.initialSyncDone then tryInitialSync env (c.observeVrchat state)
      else if c.linkState ≠ .active then (c.observeVrchat state, [])
      else syncDiscord env (c.observeVrchat state) := rfl

/-- An observation of Discord is recorded, then `initial_sync_done`, the link state and the link
mode decide whether VRChat follows. -/
theorem handleDiscordVoiceSettingsUpdate_eq (env : Env) (c : Coordinator) (mute : MuteState) :
    handleDiscordVoiceSettingsUpdate env c mute =
      if !c.initialSyncDone then tryInitialSync env (c.observeDiscord mute)
      else if c.linkState ≠ .active then (c.observeDiscord mute, [])
      else if c.linkMode = .vrchatMaster then (c.observeDiscord mute, [])
      else syncVrchat env (c.observeDiscord mute) := rfl

/-- After the initial sync, a `MuteSelf` is recorded and Discord follows if the link is active. -/
theorem step_muteSelf_of_done {c : Coordinator} (hdone : c.initialSyncDone = true) (env : Env)
    (state : MuteState) :
    c.step env (.event (.vrChatMuteSelf state)) =
      if c.linkState ≠ .active then (c.observeVrchat state, [])
      else syncDiscord env (c.observeVrchat state) := by
  show handleVrchatMuteSelf env c state = _
  rw [handleVrchatMuteSelf_eq, if_neg (by simp [hdone])]

/-- After the initial sync, a Discord update is recorded and VRChat follows if the link is active
and goes both ways. -/
theorem step_update_of_done {c : Coordinator} (hdone : c.initialSyncDone = true) (env : Env)
    (mute : MuteState) :
    c.step env (.event (.discordVoiceSettingsUpdate mute)) =
      if c.linkState ≠ .active then (c.observeDiscord mute, [])
      else if c.linkMode = .vrchatMaster then (c.observeDiscord mute, [])
      else syncVrchat env (c.observeDiscord mute) := by
  show handleDiscordVoiceSettingsUpdate env c mute = _
  rw [handleDiscordVoiceSettingsUpdate_eq, if_neg (by simp [hdone])]

/-- `syncDiscord` writes one field: the slot of the `SetMute` in flight. -/
theorem syncDiscord_frame (env : Env) (c : Coordinator) :
    (syncDiscord env c).1 = { c with pendingDiscord := (syncDiscord env c).1.pendingDiscord } := by
  unfold syncDiscord setDiscordState
  split
  · split_ifs <;> rfl
  · rfl

/-- `syncVrchat` writes one field: the slot of the toggle in flight. -/
theorem syncVrchat_frame (env : Env) (c : Coordinator) :
    (syncVrchat env c).1 = { c with pendingVrchat := (syncVrchat env c).1.pendingVrchat } := by
  unfold syncVrchat toggleVrchat
  split
  · split_ifs <;> rfl
  · rfl

theorem pendingVrchat_muteSelf {c : Coordinator} (hdone : c.initialSyncDone = true) (env : Env)
    (state : MuteState) : (c.step env (.event (.vrChatMuteSelf state))).1.pendingVrchat = none := by
  rw [step_muteSelf_of_done hdone]
  split_ifs
  · rfl
  · rw [syncDiscord_frame]
    rfl

theorem pendingDiscord_update {c : Coordinator} (hdone : c.initialSyncDone = true) (env : Env)
    (mute : MuteState) :
    (c.step env (.event (.discordVoiceSettingsUpdate mute))).1.pendingDiscord = none := by
  rw [step_update_of_done hdone]
  split_ifs
  · rfl
  · rfl
  · rw [syncVrchat_frame]
    rfl

/-- What the startup authority in force makes of a conflicting pair. -/
def syncByAuthority (env : Env) (c : Coordinator) : Coordinator × List Command :=
  match c.effectiveAuthority with
  | .vrchat => syncDiscord env c
  | .discord => syncVrchat env c
  | .none => (c, [])

theorem syncByAuthority_of_vrchat {c : Coordinator} (h : c.effectiveAuthority = .vrchat)
    (env : Env) : syncByAuthority env c = syncDiscord env c := by
  unfold syncByAuthority
  rw [h]

theorem syncByAuthority_of_discord {c : Coordinator} (h : c.effectiveAuthority = .discord)
    (env : Env) : syncByAuthority env c = syncVrchat env c := by
  unfold syncByAuthority
  rw [h]

theorem syncByAuthority_of_none {c : Coordinator} (h : c.effectiveAuthority = .none)
    (env : Env) : syncByAuthority env c = (c, []) := by
  unfold syncByAuthority
  rw [h]

/-- `syncByAuthority` writes the two slots and nothing else. -/
theorem syncByAuthority_frame (env : Env) (c : Coordinator) :
    (syncByAuthority env c).1 = { c with
      pendingDiscord := (syncByAuthority env c).1.pendingDiscord
      pendingVrchat := (syncByAuthority env c).1.pendingVrchat } := by
  unfold syncByAuthority
  split
  · rw [syncDiscord_frame]
  · rw [syncVrchat_frame]
  · rfl

/-- What issuing a command, stamping a sync and publishing a snapshot leave alone. -/
structure Kept (c c' : Coordinator) : Prop where
  vrchatState : c'.vrchatState = c.vrchatState
  discordState : c'.discordState = c.discordState
  discordConnection : c'.discordConnection = c.discordConnection
  linkMode : c'.linkMode = c.linkMode
  linkState : c'.linkState = c.linkState
  resumePolicy : c'.resumePolicy = c.resumePolicy
  startupAuthority : c'.startupAuthority = c.startupAuthority
  initialSyncDone : c'.initialSyncDone = c.initialSyncDone

theorem Kept.stamp {c c' : Coordinator} (h : Kept c c') (env : Env) : Kept c (stampSync env c') :=
  ⟨h.1, h.2, h.3, h.4, h.5, h.6, h.7, h.8⟩

theorem kept_syncDiscord (env : Env) (c : Coordinator) : Kept c (syncDiscord env c).1 := by
  rw [syncDiscord_frame]
  exact ⟨rfl, rfl, rfl, rfl, rfl, rfl, rfl, rfl⟩

theorem kept_syncVrchat (env : Env) (c : Coordinator) : Kept c (syncVrchat env c).1 := by
  rw [syncVrchat_frame]
  exact ⟨rfl, rfl, rfl, rfl, rfl, rfl, rfl, rfl⟩

theorem kept_syncByAuthority (env : Env) (c : Coordinator) : Kept c (syncByAuthority env c).1 := by
  rw [syncByAuthority_frame]
  exact ⟨rfl, rfl, rfl, rfl, rfl, rfl, rfl, rfl⟩

theorem kept_resyncFromVrchat (env : Env) (c : Coordinator) :
    Kept c (resyncFromVrchat env c).1 := by
  unfold resyncFromVrchat
  split_ifs
  · exact ⟨rfl, rfl, rfl, rfl, rfl, rfl, rfl, rfl⟩
  · exact (kept_syncDiscord env c).stamp env

theorem kept_resume (env : Env) (c : Coordinator) :
    Kept { c with linkState := .active } (resume env c).1 := by
  unfold resume
  split
  · exact ⟨rfl, rfl, rfl, rfl, rfl, rfl, rfl, rfl⟩
  · exact kept_resyncFromVrchat env _

theorem kept_manualResync (env : Env) (c : Coordinator) : Kept c (manualResync env c).1 := by
  have h := kept_resyncFromVrchat env { c with pendingDiscord := none, pendingVrchat := none }
  exact ⟨h.1, h.2, h.3, h.4, h.5, h.6, h.7, h.8⟩

theorem resyncFromVrchat_pendingVrchat (env : Env) (c : Coordinator) :
    (resyncFromVrchat env c).1.pendingVrchat = c.pendingVrchat := by
  unfold resyncFromVrchat
  split_ifs
  · rfl
  · show (syncDiscord env c).1.pendingVrchat = _
    rw [syncDiscord_frame]

theorem resume_pendingVrchat (env : Env) (c : Coordinator) :
    (resume env c).1.pendingVrchat = c.pendingVrchat := by
  unfold resume
  split
  · rfl
  · exact resyncFromVrchat_pendingVrchat env _

theorem tryInitialSync_of_unknown {c : Coordinator} (env : Env) (hdone : c.initialSyncDone = false)
    (hun : c.vrchatState = .unknown ∨ c.discordState = .unknown) :
    tryInitialSync env c = (c, []) := by
  unfold tryInitialSync
  rw [if_neg (by rw [hdone]; decide), if_pos hun]

/-- Before the initial sync, an observation that leaves both sides known runs it. -/
theorem tryInitialSync_of_known {c : Coordinator} (env : Env) (hdone : c.initialSyncDone = false)
    (hv : c.vrchatState ≠ .unknown) (hd : c.discordState ≠ .unknown) :
    tryInitialSync env c =
      (stampSync env (syncByAuthority env c.startSync).1, (syncByAuthority env c.startSync).2) := by
  unfold tryInitialSync
  rw [if_neg (by rw [hdone]; decide), if_neg (not_or.mpr ⟨hv, hd⟩)]
  rfl

/-! ### The two halves of the timeout branch -/

/-- VRChat's side: the toggle in flight, and what is known of VRChat. -/
def vrchatSide (c : Coordinator) : Option PendingVrChatCommand × MuteState × ConnectionState :=
  (c.pendingVrchat, c.vrchatState, c.vrchatConnection)

/-- Discord's side: the `SetMute` in flight, and what is known of Discord. -/
def discordSide (c : Coordinator) : Option PendingDiscordCommand × MuteState × ConnectionState :=
  (c.pendingDiscord, c.discordState, c.discordConnection)

theorem expireVrchat_of_le {now : Instant} {c : Coordinator} {p : PendingVrChatCommand}
    (hp : c.pendingVrchat = some p) (h : p.deadline ≤ now) :
    (expireVrchat now c).pendingVrchat = none ∧ (expireVrchat now c).vrchatState = .unknown ∧
      (expireVrchat now c).linkState = .faulted := by
  unfold expireVrchat
  rw [if_pos (by simpa [hp] using h)]
  exact ⟨rfl, rfl, rfl⟩

theorem expireVrchat_of_lt {now : Instant} {c : Coordinator}
    (h : ∀ p, c.pendingVrchat = some p → now < p.deadline) : expireVrchat now c = c := by
  unfold expireVrchat
  rw [if_neg]
  cases hp : c.pendingVrchat with
  | none => simp
  | some p => simpa using h p hp

theorem discordSide_expireVrchat (now : Instant) (c : Coordinator) :
    (expireVrchat now c).discordSide = c.discordSide := by
  unfold expireVrchat
  split_ifs <;> rfl

theorem expireDiscord_of_le {now : Instant} {c : Coordinator} {p : PendingDiscordCommand}
    (hp : c.pendingDiscord = some p) (h : p.deadline ≤ now) :
    (expireDiscord now c).discordSide = (none, .unknown, .degraded) := by
  unfold expireDiscord
  rw [if_pos (by simpa [hp] using h)]
  rfl

theorem expireDiscord_of_lt {now : Instant} {c : Coordinator}
    (h : ∀ p, c.pendingDiscord = some p → now < p.deadline) : expireDiscord now c = c := by
  unfold expireDiscord
  rw [if_neg]
  cases hp : c.pendingDiscord with
  | none => simp
  | some p => simpa using h p hp

theorem expireDiscord_frame (now : Instant) (c : Coordinator) :
    (expireDiscord now c).vrchatSide = c.vrchatSide ∧
      (expireDiscord now c).linkState = c.linkState := by
  unfold expireDiscord
  split_ifs <;> exact ⟨rfl, rfl⟩

/-! ### The turns that send nothing -/

end Coordinator

/-- The turns that may send: the two observations, and the two commands with which the user steps
in. -/
def Input.Drives : Input → Prop
  | .event (.vrChatMuteSelf _) | .event (.discordVoiceSettingsUpdate _) => True
  | .command (.setPaused false) | .command .manualResync => True
  | _ => False

theorem Input.Drives.cases {i : Input} (h : i.Drives) :
    (∃ state, i = .event (.vrChatMuteSelf state)) ∨
      (∃ mute, i = .event (.discordVoiceSettingsUpdate mute)) ∨
      i = .command (.setPaused false) ∨ i = .command .manualResync := by
  unfold Input.Drives at h
  split at h
  · exact .inl ⟨_, rfl⟩
  · exact .inr (.inl ⟨_, rfl⟩)
  · exact .inr (.inr (.inl rfl))
  · exact .inr (.inr (.inr rfl))
  · exact h.elim

namespace Coordinator

/-- All other turns send nothing. -/
theorem silent_of_not_drives (env : Env) (c : Coordinator) {i : Input} (hi : ¬ i.Drives) :
    (c.step env i).2 = [] := by
  cases i with
  | event ev =>
    cases ev with
    | vrChatMuteSelf _ | discordVoiceSettingsUpdate _ => exact absurd trivial hi
    | vrChatAvatarChanged | vrChatConnectionChanged _ | discordVoiceChannelStatus _
    | discordConnectionChanged _ | discordCommandAck _ _ | discordVoiceStateUnavailable _ => rfl
  | command cmd =>
    cases cmd with
    | setPaused paused =>
      cases paused with
      | true => rfl
      | false => exact absurd trivial hi
    | manualResync => exact absurd trivial hi
    | setLinkMode _ | shutdown => rfl
  | timeout => rfl

/-- What the other turns can do to the two sides and the initial sync. They forget: a toggle is
cleared together with what is known of VRChat, a `SetMute` with or without what is known of
Discord, and what is not forgotten stays. -/
structure Forgets (c c' : Coordinator) : Prop where
  initialSyncDone : c'.initialSyncDone = c.initialSyncDone
  vrchat : c'.pendingVrchat = c.pendingVrchat ∧ c'.vrchatState = c.vrchatState ∨
    c'.pendingVrchat = none ∧ c'.vrchatState = .unknown
  discord : c'.pendingDiscord = c.pendingDiscord ∧ c'.discordState = c.discordState ∨
    c'.pendingDiscord = none ∧
      (c'.discordState = c.discordState ∨ c'.discordState = .unknown)
  connected : c'.discordState ≠ .unknown →
    c'.discordConnection = c.discordConnection ∨ c'.discordConnection = .connected

section Forgets

variable {c c' : Coordinator} (h : Forgets c c')

include h

theorem Forgets.pendingVrchat : c'.pendingVrchat = c.pendingVrchat ∨ c'.pendingVrchat = none :=
  h.vrchat.imp And.left And.left

theorem Forgets.vrchatState : c'.vrchatState = c.vrchatState ∨ c'.vrchatState = .unknown :=
  h.vrchat.imp And.right And.right

theorem Forgets.pendingDiscord : c'.pendingDiscord = c.pendingDiscord ∨ c'.pendingDiscord = none :=
  h.discord.imp And.left And.left

theorem Forgets.discordState : c'.discordState = c.discordState ∨ c'.discordState = .unknown := by
  rcases h.discord with ⟨-, hsame⟩ | ⟨-, hforgotten⟩
  · exact .inl hsame
  · exact hforgotten

end Forgets

theorem forgets_of_same {c c' : Coordinator} (hdone : c'.initialSyncDone = c.initialSyncDone)
    (hpv : c'.pendingVrchat = c.pendingVrchat) (hv : c'.vrchatState = c.vrchatState)
    (hds : c'.discordSide = c.discordSide) : Forgets c c' := by
  simp only [discordSide, Prod.mk.injEq] at hds
  obtain ⟨hpd, hd, hcon⟩ := hds
  exact ⟨hdone, .inl ⟨hpv, hv⟩, .inl ⟨hpd, hd⟩, fun _ => .inl hcon⟩

/-- **The turns that send nothing** forget. -/
theorem forgets_step (env : Env) (c : Coordinator) {i : Input} (hi : ¬ i.Drives) :
    Forgets c (c.step env i).1 := by
  cases i with
  | event ev =>
    cases ev with
    | vrChatMuteSelf _ | discordVoiceSettingsUpdate _ => exact absurd trivial hi
    | vrChatAvatarChanged => exact ⟨rfl, .inr ⟨rfl, rfl⟩, .inl ⟨rfl, rfl⟩, fun _ => .inl rfl⟩
    | discordConnectionChanged cs =>
      simp only [step, handleEvent, handleDiscordConnectionChanged]
      split_ifs with hcs
      · exact ⟨rfl, .inl ⟨rfl, rfl⟩, .inr ⟨rfl, .inr rfl⟩, fun hk => absurd rfl hk⟩
      · exact ⟨rfl, .inl ⟨rfl, rfl⟩, .inl ⟨rfl, rfl⟩, fun _ => .inr (not_not.mp hcs)⟩
    | discordCommandAck nonce result =>
      simp only [step, handleEvent, handleDiscordCommandAck]
      split_ifs
      · cases result with
        | error message =>
          exact ⟨rfl, .inl ⟨rfl, rfl⟩, .inr ⟨rfl, .inl rfl⟩, fun _ => .inl rfl⟩
        | ok _ => exact forgets_of_same rfl rfl rfl rfl
      · exact forgets_of_same rfl rfl rfl rfl
    | vrChatConnectionChanged _ | discordVoiceChannelStatus _ | discordVoiceStateUnavailable _ =>
      exact forgets_of_same rfl rfl rfl rfl
  | command cmd =>
    cases cmd with
    | setPaused paused =>
      cases paused with
      | true => exact forgets_of_same rfl rfl rfl rfl
      | false => exact absurd trivial hi
    | manualResync => exact absurd trivial hi
    | setLinkMode _ | shutdown => exact forgets_of_same rfl rfl rfl rfl
  | timeout =>
    simp only [step, handlePendingTimeout, expireDiscord, expireVrchat]
    split_ifs
    · exact ⟨rfl, .inr ⟨rfl, rfl⟩, .inr ⟨rfl, .inr rfl⟩, fun hk => absurd rfl hk⟩
    · exact ⟨rfl, .inr ⟨rfl, rfl⟩, .inl ⟨rfl, rfl⟩, fun _ => .inl rfl⟩
    · exact ⟨rfl, .inl ⟨rfl, rfl⟩, .inr ⟨rfl, .inr rfl⟩, fun hk => absurd rfl hk⟩
    · exact forgets_of_same rfl rfl rfl rfl

/-! ### Sound slots -/

/-- The pending slots describe the two mute states: a toggle in flight leads from the known VRChat
state to its inverse, a `SetMute` in flight to the inverse of the known Discord state, and a known
Discord state means a live connection. -/
structure Slots (c : Coordinator) : Prop where
  /-- The toggle in flight. -/
  vrchat : ∀ p, c.pendingVrchat = some p →
    c.vrchatState ≠ .unknown ∧ p.previous = c.vrchatState ∧ p.expected = c.vrchatState.inverse
  /-- The `SetMute` in flight. -/
  discord : ∀ p, c.pendingDiscord = some p →
    c.discordState ≠ .unknown ∧ p.target = c.discordState.inverse
  /-- The connection. -/
  connected : c.discordState ≠ .unknown → c.discordConnection = .connected

/-- `set_discord_state` towards a known target, from sound slots: a command already in flight has
the same target, so it is never replaced. -/
theorem setDiscordState_of_pending {env : Env} {c : Coordinator} (h : Slots c) {target : MuteState}
    (ht : target ≠ .unknown) {p : PendingDiscordCommand} (hp : c.pendingDiscord = some p) :
    setDiscordState env c target = (c, []) := by
  obtain ⟨hd, hpt⟩ := h.discord p hp
  unfold setDiscordState
  rw [if_neg hd]
  split_ifs with h1 h2
  · rfl
  · rfl
  · refine absurd ?_ h2
    rw [hp, Option.any_some, decide_eq_true_eq, hpt]
    exact (MuteState.eq_inverse_comm.mp ((MuteState.ne_iff_eq_inverse hd ht).mp h1)).symm

/-- Discord is made to follow exactly when both states are known and equal and no `SetMute` is in
flight. -/
theorem syncDiscord_eq {c : Coordinator} (h : Slots c) (env : Env) :
    syncDiscord env c =
      if c.vrchatState ≠ .unknown ∧ c.discordState = c.vrchatState ∧ c.pendingDiscord = none then
        (c.issueSetMute env c.vrchatState.inverse,
          [.discord (.setMute c.vrchatState.inverse env.nonce)])
      else (c, []) := by
  unfold syncDiscord discordTargetFor
  rw [MuteState.target?_eq]
  by_cases hv : c.vrchatState = .unknown
  · simp [hv]
  have ht : c.vrchatState.inverse ≠ .unknown := mt MuteState.inverse_eq_unknown.mp hv
  rw [if_neg hv]
  cases hp : c.pendingDiscord with
  | some p => simp [setDiscordState_of_pending h ht hp]
  | none =>
    rcases eq_or_ne c.discordState c.vrchatState with he | he
    · have hne : c.vrchatState ≠ c.vrchatState.inverse := (MuteState.inverse_ne hv).symm
      simp [setDiscordState, issueSetMute, hp, he, hv, hne]
    · by_cases hd : c.discordState = .unknown
      · simp [setDiscordState, hd, Ne.symm hv]
      · have heq : c.discordState = c.vrchatState.inverse :=
          (MuteState.ne_iff_eq_inverse hd hv).mp he
        simp [heq, MuteState.inverse_ne hv]

theorem syncVrchat_eq (c : Coordinator) (env : Env) :
    syncVrchat env c =
      if c.discordState ≠ .unknown ∧ c.vrchatState = c.discordState ∧ c.pendingVrchat = none then
        (c.issueToggle env c.discordState.inverse, [.vrchat (.toggleVoice c.discordState.inverse)])
      else (c, []) := by
  unfold syncVrchat vrchatTargetFor
  rw [MuteState.target?_eq]
  by_cases hd : c.discordState = .unknown
  · simp [hd]
  rw [if_neg hd]
  cases hp : c.pendingVrchat with
  | some p => simp [toggleVrchat, hp]
  | none =>
    rcases eq_or_ne c.vrchatState c.discordState with he | he
    · have hne : c.discordState ≠ c.discordState.inverse := (MuteState.inverse_ne hd).symm
      simp [toggleVrchat, issueToggle, hp, he, hd, hne]
    · by_cases hv : c.vrchatState = .unknown
      · simp [toggleVrchat, hv, Ne.symm hd]
      · have heq : c.vrchatState = c.discordState.inverse :=
          (MuteState.ne_iff_eq_inverse hv hd).mp he
        simp [heq, MuteState.inverse_ne hd]

/-! ### Every turn keeps the slots sound -/

/-- The fields `Slots` reads. -/
def slotView (c : Coordinator) :
    MuteState × MuteState × ConnectionState × Option PendingVrChatCommand ×
    Option PendingDiscordCommand :=
  (c.vrchatState, c.discordState, c.discordConnection, c.pendingVrchat, c.pendingDiscord)

theorem Slots.of_eq {c c' : Coordinator} (h : Slots c) (he : c'.slotView = c.slotView) :
    Slots c' := by
  simp only [slotView, Prod.mk.injEq] at he
  obtain ⟨hv, hd, hcon, hpv, hpd⟩ := he
  constructor
  · rw [hv, hpv]
    exact h.vrchat
  · rw [hd, hpd]
    exact h.discord
  · rw [hd, hcon]
    exact h.connected

/-- Taking the toggle out of its slot leaves the slots sound, whatever VRChat is seen to be. -/
theorem Slots.take_vrchat {c c' : Coordinator} (h : Slots c) (hpv : c'.pendingVrchat = none)
    (hd : c'.discordState = c.discordState) (hpd : c'.pendingDiscord = c.pendingDiscord)
    (hcon : c'.discordConnection = c.discordConnection) : Slots c' := by
  constructor
  · intro p hp
    rw [hpv] at hp
    cases hp
  · intro p hp
    rw [hpd] at hp
    rw [hd]
    exact h.discord p hp
  · intro hk
    rw [hd] at hk
    rw [hcon]
    exact h.connected hk

/-- Taking the `SetMute` out of its slot leaves the slots sound, if Discord is then known only over
a live connection. -/
theorem Slots.take_discord {c c' : Coordinator} (h : Slots c) (hpd : c'.pendingDiscord = none)
    (hv : c'.vrchatState = c.vrchatState) (hpv : c'.pendingVrchat = c.pendingVrchat)
    (hcon : c'.discordState ≠ .unknown → c'.discordConnection = .connected) : Slots c' := by
  constructor
  · intro p hp
    rw [hpv] at hp
    rw [hv]
    exact h.vrchat p hp
  · intro p hp
    rw [hpd] at hp
    cases hp
  · exact hcon

theorem Slots.clear {c : Coordinator} (h : Slots c) :
    Slots { c with pendingDiscord := none, pendingVrchat := none } := by
  have hv : Slots { c with pendingVrchat := none } := h.take_vrchat rfl rfl rfl rfl
  exact hv.take_discord rfl rfl rfl h.connected

theorem Slots.forget {c c' : Coordinator} (h : Slots c) (hf : Forgets c c') : Slots c' := by
  constructor
  · intro p hp
    rcases hf.vrchat with ⟨hpv, hv⟩ | ⟨hpv, -⟩
    · rw [hpv] at hp
      rw [hv]
      exact h.vrchat p hp
    · rw [hpv] at hp
      cases hp
  · intro p hp
    rcases hf.discord with ⟨hpd, hd⟩ | ⟨hpd, -⟩
    · rw [hpd] at hp
      rw [hd]
      exact h.discord p hp
    · rw [hpd] at hp
      cases hp
  · intro hk
    have hd : c'.discordState = c.discordState := hf.discordState.resolve_right hk
    rcases hf.connected hk with hcon | hcon
    · rw [hd] at hk
      rw [hcon]
      exact h.connected hk
    · exact hcon

/-- What a turn may issue, in view of the two states it leaves behind: nothing, or one command,
towards the inverse of the two states, which are known and equal. A handler writes the two states
before it sends and not after, so these are the states at the moment of sending. -/
def Issued (c : Coordinator) : List Command → Prop
  | [] => True
  | [cmd] => c.vrchatState ≠ .unknown ∧ c.discordState = c.vrchatState ∧
    cmd.goal = c.vrchatState.inverse
  | _ => False

/-- A handler's result: sound slots, and a command only from a conflicting pair. -/
def Sound (r : Coordinator × List Command) : Prop := Slots r.1 ∧ Issued r.1 r.2

theorem Slots.silent {c : Coordinator} (h : Slots c) : Sound (c, []) := ⟨h, trivial⟩

/-- The stamp at the end of a sync changes neither the states nor the slots. -/
theorem Sound.stamp {r : Coordinator × List Command} (h : Sound r) (env : Env) :
    Sound (stampSync env r.1, r.2) := by
  obtain ⟨c, cmds⟩ := r
  refine ⟨h.1.of_eq rfl, ?_⟩
  have := h.2
  rcases cmds with _ | ⟨cmd, _ | ⟨_, _⟩⟩ <;> exact this

theorem Slots.sound_syncDiscord {c : Coordinator} (h : Slots c) (env : Env) :
    Sound (syncDiscord env c) := by
  rw [syncDiscord_eq h]
  split_ifs with hc
  · obtain ⟨hv, hd, -⟩ := hc
    refine ⟨⟨h.vrchat, fun p hp => ?_, h.connected⟩, hv, hd, rfl⟩
    simp only [issueSetMute, Option.some.injEq] at hp ⊢
    subst hp
    constructor
    · rw [hd]
      exact hv
    · rw [hd]
  · exact h.silent

theorem Slots.sound_syncVrchat {c : Coordinator} (h : Slots c) (env : Env) :
    Sound (syncVrchat env c) := by
  rw [syncVrchat_eq]
  split_ifs with hc
  · obtain ⟨hd, hv, -⟩ := hc
    refine ⟨⟨fun p hp => ?_, h.discord, h.connected⟩, ?_⟩
    · simp only [issueToggle, Option.some.injEq] at hp ⊢
      subst hp
      refine ⟨?_, rfl, ?_⟩
      · rw [hv]
        exact hd
      · rw [hv]
    · rw [← hv] at hd
      exact ⟨hd, hv.symm, by simp [Command.goal, issueToggle, hv]⟩
  · exact h.silent

theorem Slots.sound_syncByAuthority {c : Coordinator} (h : Slots c) (env : Env) :
    Sound (syncByAuthority env c) := by
  unfold syncByAuthority
  split
  · exact h.sound_syncDiscord env
  · exact h.sound_syncVrchat env
  · exact h.silent

theorem Slots.sound_tryInitialSync {c : Coordinator} (h : Slots c) (env : Env)
    (hdone : c.initialSyncDone = false) : Sound (tryInitialSync env c) := by
  by_cases hun : c.vrchatState = .unknown ∨ c.discordState = .unknown
  · rw [tryInitialSync_of_unknown env hdone hun]
    exact h.silent
  · obtain ⟨hv, hd⟩ := not_or.mp hun
    rw [tryInitialSync_of_known env hdone hv hd]
    have hstart : Slots c.startSync := h.of_eq rfl
    exact (hstart.sound_syncByAuthority env).stamp env

theorem Slots.sound_resyncFromVrchat {c : Coordinator} (h : Slots c) (env : Env) :
    Sound (resyncFromVrchat env c) := by
  unfold resyncFromVrchat
  split_ifs
  · refine Slots.silent ?_
    exact h.of_eq rfl
  · exact (h.sound_syncDiscord env).stamp env

theorem Slots.sound_handleVrchatMuteSelf {c : Coordinator} (h : Slots c) (env : Env)
    (state : MuteState) :
    Sound (handleVrchatMuteSelf env c state) := by
  have hobs : Slots (c.observeVrchat state) := h.take_vrchat rfl rfl rfl rfl
  rw [handleVrchatMuteSelf_eq]
  split_ifs with hdone
  · exact hobs.sound_tryInitialSync env (by simpa using hdone)
  · exact hobs.silent
  · exact hobs.sound_syncDiscord env

theorem Slots.sound_handleDiscordVoiceSettingsUpdate {c : Coordinator} (h : Slots c) (env : Env)
    (mute : MuteState) :
    Sound (handleDiscordVoiceSettingsUpdate env c mute) := by
  have hobs : Slots (c.observeDiscord mute) := h.take_discord rfl rfl rfl fun _ => rfl
  rw [handleDiscordVoiceSettingsUpdate_eq]
  split_ifs with hdone
  · exact hobs.sound_tryInitialSync env (by simpa using hdone)
  · exact hobs.silent
  · exact hobs.silent
  · exact hobs.sound_syncVrchat env

theorem Slots.sound_resume {c : Coordinator} (h : Slots c) (env : Env) : Sound (resume env c) := by
  have hactive : Slots { c with linkState := .active } := h.of_eq rfl
  unfold resume
  split
  · exact Slots.silent (h.of_eq rfl)
  · exact hactive.sound_resyncFromVrchat env

/-- **One turn**: the slots stay sound, and a command is issued only from a conflicting pair. -/
theorem Slots.sound_step {c : Coordinator} (h : Slots c) (env : Env) (i : Input) :
    Sound (c.step env i) := by
  by_cases hi : i.Drives
  · rcases hi.cases with ⟨state, rfl⟩ | ⟨mute, rfl⟩ | rfl | rfl
    · exact h.sound_handleVrchatMuteSelf env state
    · exact h.sound_handleDiscordVoiceSettingsUpdate env mute
    · exact h.sound_resume env
    · exact h.clear.sound_resyncFromVrchat env
  · refine ⟨h.forget (forgets_step env c hi), ?_⟩
    rw [silent_of_not_drives env c hi]
    trivial

theorem slots_new (cfg : CoordinatorConfig) : Slots (new cfg) :=
  ⟨by simp [new], by simp [new], by simp [new]⟩

/-! ### The initial sync -/

/-- What holds between turns: the slots are sound, the initial sync has run if both states are
known, and nothing is in flight before it has run. -/
structure Inv (c : Coordinator) : Prop extends Slots c where
  /-- Both states known only after the initial sync. -/
  synced : c.vrchatState ≠ .unknown → c.discordState ≠ .unknown → c.initialSyncDone = true
  /-- Nothing in flight before the initial sync. -/
  idle : c.initialSyncDone = false → c.pendingDiscord = none ∧ c.pendingVrchat = none

theorem Slots.inv_of_done {c : Coordinator} (h : Slots c) (hdone : c.initialSyncDone = true) :
    Inv c :=
  ⟨h, fun _ _ => hdone, fun hf => by simp [hdone] at hf⟩

/-- With one side unknown and nothing in flight the invariant holds. -/
theorem Slots.inv_of_idle {c : Coordinator} (h : Slots c)
    (hun : c.vrchatState = .unknown ∨ c.discordState = .unknown) (hpd : c.pendingDiscord = none)
    (hpv : c.pendingVrchat = none) : Inv c :=
  ⟨h, fun hv hd => absurd hun (not_or.mpr ⟨hv, hd⟩), fun _ => ⟨hpd, hpv⟩⟩

theorem Inv.unknown {c : Coordinator} (h : Inv c) (hdone : c.initialSyncDone = false) :
    c.vrchatState = .unknown ∨ c.discordState = .unknown := by
  by_contra hk
  obtain ⟨hv, hd⟩ := not_or.mp hk
  rw [h.synced hv hd] at hdone
  cases hdone

theorem Slots.after_tryInitialSync {c : Coordinator} (h : Slots c) (env : Env)
    (hdone : c.initialSyncDone = false) (hpd : c.pendingDiscord = none)
    (hpv : c.pendingVrchat = none) :
    Inv (tryInitialSync env c).1 := by
  have hsound := (h.sound_tryInitialSync env hdone).1
  by_cases hun : c.vrchatState = .unknown ∨ c.discordState = .unknown
  · rw [tryInitialSync_of_unknown env hdone hun]
    exact h.inv_of_idle hun hpd hpv
  · obtain ⟨hv, hd⟩ := not_or.mp hun
    rw [tryInitialSync_of_known env hdone hv hd] at hsound ⊢
    exact hsound.inv_of_done ((kept_syncByAuthority env c.startSync).stamp env).initialSyncDone

theorem Inv.after_handleVrchatMuteSelf {c : Coordinator} (h : Inv c) (env : Env)
    (state : MuteState) :
    Inv (handleVrchatMuteSelf env c state).1 := by
  have hobs : Slots (c.observeVrchat state) := h.take_vrchat rfl rfl rfl rfl
  have hsound := (h.toSlots.sound_handleVrchatMuteSelf env state).1
  rw [handleVrchatMuteSelf_eq] at hsound ⊢
  split_ifs at hsound ⊢ with hdone hactive
  · have hdone : c.initialSyncDone = false := by simpa using hdone
    exact hobs.after_tryInitialSync env hdone (h.idle hdone).1 rfl
  · exact hsound.inv_of_done (by simpa using hdone)
  · exact hsound.inv_of_done (by rw [(kept_syncDiscord _ _).initialSyncDone]; simpa using hdone)

theorem Inv.after_handleDiscordVoiceSettingsUpdate {c : Coordinator} (h : Inv c) (env : Env)
    (mute : MuteState) :
    Inv (handleDiscordVoiceSettingsUpdate env c mute).1 := by
  have hobs : Slots (c.observeDiscord mute) := h.take_discord rfl rfl rfl fun _ => rfl
  have hsound := (h.toSlots.sound_handleDiscordVoiceSettingsUpdate env mute).1
  rw [handleDiscordVoiceSettingsUpdate_eq] at hsound ⊢
  split_ifs at hsound ⊢ with hdone hactive hmode
  · have hdone : c.initialSyncDone = false := by simpa using hdone
    exact hobs.after_tryInitialSync env hdone rfl (h.idle hdone).2
  · exact hsound.inv_of_done (by simpa using hdone)
  · exact hsound.inv_of_done (by simpa using hdone)
  · exact hsound.inv_of_done (by rw [(kept_syncVrchat _ _).initialSyncDone]; simpa using hdone)

theorem Inv.after_resyncFromVrchat {c : Coordinator} (h : Inv c) (env : Env) :
    Inv (resyncFromVrchat env c).1 := by
  have hsound := (h.toSlots.sound_resyncFromVrchat env).1
  have hkept := kept_resyncFromVrchat env c
  cases hdone : c.initialSyncDone with
  | true => exact hsound.inv_of_done (hkept.initialSyncDone.trans hdone)
  | false =>
    have hun := h.unknown hdone
    obtain ⟨hpd, hpv⟩ := h.idle hdone
    refine hsound.inv_of_idle ?_ ?_ ?_
    · rw [hkept.vrchatState, hkept.discordState]
      exact hun
    · unfold resyncFromVrchat
      split_ifs with hv
      · exact hpd
      · have hd := hun.resolve_left hv
        have hnot : ¬ (c.vrchatState ≠ .unknown ∧ c.discordState = c.vrchatState ∧
            c.pendingDiscord = none) := by
          rintro ⟨-, he, -⟩
          rw [hd] at he
          exact hv he.symm
        rw [syncDiscord_eq h.toSlots, if_neg hnot]
        exact hpd
    · rw [resyncFromVrchat_pendingVrchat]
      exact hpv

theorem Inv.forget {c c' : Coordinator} (h : Inv c) (hf : Forgets c c') : Inv c' := by
  have hs := h.toSlots.forget hf
  cases hdone : c.initialSyncDone with
  | true => exact hs.inv_of_done (hf.initialSyncDone.trans hdone)
  | false =>
    obtain ⟨hpd, hpv⟩ := h.idle hdone
    refine hs.inv_of_idle ?_ (hf.pendingDiscord.elim (·.trans hpd) id)
      (hf.pendingVrchat.elim (·.trans hpv) id)
    rcases h.unknown hdone with hun | hun
    · exact .inl (hf.vrchatState.elim (·.trans hun) id)
    · exact .inr (hf.discordState.elim (·.trans hun) id)

theorem Inv.after_resume {c : Coordinator} (h : Inv c) (env : Env) : Inv (resume env c).1 := by
  have hactive : Inv { c with linkState := .active } := ⟨h.of_eq rfl, h.synced, h.idle⟩
  unfold resume
  split
  · exact hactive.forget (forgets_of_same rfl rfl rfl rfl)
  · exact hactive.after_resyncFromVrchat env

theorem Inv.after_manualResync {c : Coordinator} (h : Inv c) (env : Env) :
    Inv (manualResync env c).1 := by
  refine Inv.after_resyncFromVrchat ?_ env
  exact ⟨h.toSlots.clear, h.synced, fun _ => ⟨rfl, rfl⟩⟩

/-- **One turn** keeps the invariant. -/
theorem Inv.after_step {c : Coordinator} (h : Inv c) (env : Env) (i : Input) :
    Inv (c.step env i).1 := by
  by_cases hi : i.Drives
  · rcases hi.cases with ⟨state, rfl⟩ | ⟨mute, rfl⟩ | rfl | rfl
    · exact h.after_handleVrchatMuteSelf env state
    · exact h.after_handleDiscordVoiceSettingsUpdate env mute
    · exact h.after_resume env
    · exact h.after_manualResync env
  · exact h.forget (forgets_step env c hi)

theorem inv_new (cfg : CoordinatorConfig) : Inv (new cfg) :=
  (slots_new cfg).inv_of_idle (.inl rfl) rfl rfl

end Coordinator

/-- **Every run**: the invariant holds in every state between turns. -/
theorem Reachable.inv {c : Coordinator} (h : Reachable c) : c.Inv :=
  Theory.Machine.Reachable.inv (by rintro _ ⟨cfg, rfl⟩; exact Coordinator.inv_new cfg)
    (fun _ t hs => hs.after_step t.1 t.2) h

end VoxShift.Core
