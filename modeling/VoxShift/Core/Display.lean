import VoxShift.Core.Snapshot
import VoxShift.Core.Turns
import VoxShift.Theory.Unwinding

/-!
# For display only

Much of what the coordinator keeps is there to be shown: the two connections, the
voice channel, the last sync and the last error, and the snapshot itself. Nothing
is issued because of it, and some events, an established connection among them, do
nothing else than change it.

## What is proved

* `control_step` — what a turn issues, and what it makes of the rest, does not
  depend on what is for display.
* `commands_ignore_display` — so a run issues the commands that it would issue
  without the events that are for display, at whatever time of day.
-/

namespace VoxShift.Core

open VoxShift.Theory

/-- The time of day is for display. -/
def Env.control (env : Env) : Env := { env with systemNow := 0 }

namespace Coordinator

/-- The coordinator without what is for display. -/
def control (c : Coordinator) : Coordinator :=
  { c with
    vrchatConnection := .disconnected
    discordConnection := .disconnected
    discordInVoice := false
    nextSequence := 0
    lastCommandSequence := 0
    lastSyncAt := none
    lastError := none
    snapshotTx := .default }

section Fields

variable (c : Coordinator)

@[simp] theorem control_vrchatState : c.control.vrchatState = c.vrchatState := rfl
@[simp] theorem control_discordState : c.control.discordState = c.discordState := rfl
@[simp] theorem control_linkMode : c.control.linkMode = c.linkMode := rfl
@[simp] theorem control_linkState : c.control.linkState = c.linkState := rfl
@[simp] theorem control_resumePolicy : c.control.resumePolicy = c.resumePolicy := rfl
@[simp] theorem control_initialSyncDone : c.control.initialSyncDone = c.initialSyncDone := rfl
@[simp] theorem control_pendingDiscord : c.control.pendingDiscord = c.pendingDiscord := rfl
@[simp] theorem control_pendingVrchat : c.control.pendingVrchat = c.pendingVrchat := rfl
@[simp] theorem control_effectiveAuthority :
    c.control.effectiveAuthority = c.effectiveAuthority := rfl

end Fields

/-- A handler does the same without what is for display. -/
def SameControl (r r' : Coordinator × List Command) : Prop :=
  r.1.control = r'.1.control ∧ r.2 = r'.2

theorem sameControl_setDiscordState (env : Env) (c : Coordinator) (target : MuteState) :
    SameControl (setDiscordState env c target) (setDiscordState env.control c.control target) := by
  unfold setDiscordState
  rw [control_discordState, control_pendingDiscord]
  split_ifs <;> exact ⟨rfl, rfl⟩

theorem sameControl_toggleVrchat (env : Env) (c : Coordinator) (expected : MuteState) :
    SameControl (toggleVrchat env c expected) (toggleVrchat env.control c.control expected) := by
  unfold toggleVrchat
  rw [control_vrchatState, control_pendingVrchat]
  split_ifs <;> exact ⟨rfl, rfl⟩

theorem sameControl_syncDiscord (env : Env) (c : Coordinator) :
    SameControl (syncDiscord env c) (syncDiscord env.control c.control) := by
  unfold syncDiscord
  rw [control_vrchatState, control_discordState]
  split
  · split_ifs
    · exact sameControl_setDiscordState env c _
    · exact ⟨rfl, rfl⟩
  · exact ⟨rfl, rfl⟩

theorem sameControl_syncVrchat (env : Env) (c : Coordinator) :
    SameControl (syncVrchat env c) (syncVrchat env.control c.control) := by
  unfold syncVrchat
  rw [control_vrchatState, control_discordState]
  split
  · split_ifs
    · exact sameControl_toggleVrchat env c _
    · exact ⟨rfl, rfl⟩
  · exact ⟨rfl, rfl⟩

/-- A handler that does not go by what is for display does the same from two coordinators that
differ in nothing else. -/
theorem SameControl.of_control {f : Env → Coordinator → Coordinator × List Command}
    (hf : ∀ env c, SameControl (f env c) (f env.control c.control)) {c d : Coordinator}
    (h : c.control = d.control) (env : Env) : SameControl (f env c) (f env.control d) := by
  have hc := hf env c
  have hd := hf env.control d
  rw [← h] at hd
  exact ⟨hc.1.trans hd.1.symm, hc.2.trans hd.2.symm⟩

theorem SameControl.stamp {r r' : Coordinator × List Command} (h : SameControl r r')
    (env env' : Env) : SameControl (stampSync env r.1, r.2) (stampSync env' r'.1, r'.2) := h

theorem sameControl_syncByAuthority (env : Env) (c : Coordinator) :
    SameControl (syncByAuthority env c) (syncByAuthority env.control c.control) := by
  unfold syncByAuthority
  rw [control_effectiveAuthority]
  split
  · exact sameControl_syncDiscord env c
  · exact sameControl_syncVrchat env c
  · exact ⟨rfl, rfl⟩

theorem sameControl_tryInitialSync (env : Env) (c : Coordinator) :
    SameControl (tryInitialSync env c) (tryInitialSync env.control c.control) := by
  rcases tryInitialSync_cases env c with ⟨hs, he⟩ | ⟨hs, he⟩
  · rw [he, StartsSync.tryInitialSync (c := c.control) hs]
    have hstart : c.startSync.control = c.control.startSync.control := rfl
    exact (SameControl.of_control sameControl_syncByAuthority hstart env).stamp env env.control
  · rw [he, tryInitialSync_of_not_startsSync (c := c.control) hs]
    exact ⟨rfl, rfl⟩

theorem sameControl_resyncFromVrchat (env : Env) (c : Coordinator) :
    SameControl (resyncFromVrchat env c) (resyncFromVrchat env.control c.control) := by
  unfold resyncFromVrchat
  rw [control_vrchatState]
  split_ifs
  · exact ⟨rfl, rfl⟩
  · exact (sameControl_syncDiscord env c).stamp env env.control

theorem sameControl_expireVrchat (env : Env) (c : Coordinator) :
    SameControl (expireVrchat env.now c, []) (expireVrchat env.control.now c.control, []) := by
  refine ⟨?_, rfl⟩
  show (expireVrchat env.now c).control = (expireVrchat env.now c.control).control
  unfold expireVrchat
  rw [control_pendingVrchat]
  split_ifs <;> rfl

theorem sameControl_expireDiscord (env : Env) (c : Coordinator) :
    SameControl (expireDiscord env.now c, []) (expireDiscord env.control.now c.control, []) := by
  refine ⟨?_, rfl⟩
  show (expireDiscord env.now c).control = (expireDiscord env.now c.control).control
  unfold expireDiscord
  rw [control_pendingDiscord]
  split_ifs <;> rfl

/-- **A turn** issues the same, and makes the same of the rest, without what is for display. -/
theorem control_step (env : Env) (c : Coordinator) (i : Input) :
    SameControl (c.step env i) (c.control.step env.control i) := by
  cases i with
  | event ev =>
    cases ev with
    | vrChatMuteSelf state =>
      show SameControl (handleVrchatMuteSelf env c state)
        (handleVrchatMuteSelf env.control c.control state)
      have hobs : (c.observeVrchat state).control = (c.control.observeVrchat state).control := rfl
      rw [handleVrchatMuteSelf_eq, handleVrchatMuteSelf_eq, control_initialSyncDone,
        control_linkState]
      split_ifs
      · exact SameControl.of_control sameControl_tryInitialSync hobs env
      · exact ⟨rfl, rfl⟩
      · exact SameControl.of_control sameControl_syncDiscord hobs env
    | discordVoiceSettingsUpdate mute =>
      show SameControl (handleDiscordVoiceSettingsUpdate env c mute)
        (handleDiscordVoiceSettingsUpdate env.control c.control mute)
      have hobs : (c.observeDiscord mute).control = (c.control.observeDiscord mute).control := rfl
      rw [handleDiscordVoiceSettingsUpdate_eq, handleDiscordVoiceSettingsUpdate_eq,
        control_initialSyncDone, control_linkState, control_linkMode]
      split_ifs
      · exact SameControl.of_control sameControl_tryInitialSync hobs env
      · exact ⟨rfl, rfl⟩
      · exact ⟨rfl, rfl⟩
      · exact SameControl.of_control sameControl_syncVrchat hobs env
    | discordConnectionChanged cs =>
      refine ⟨?_, rfl⟩
      simp only [step, handleEvent, handleDiscordConnectionChanged]
      split_ifs <;> rfl
    | discordCommandAck nonce result =>
      refine ⟨?_, rfl⟩
      simp only [step, handleEvent, handleDiscordCommandAck]
      rw [control_pendingDiscord]
      split_ifs
      · cases result <;> rfl
      · rfl
    | vrChatAvatarChanged | vrChatConnectionChanged _ | discordVoiceChannelStatus _
    | discordVoiceStateUnavailable _ => exact ⟨rfl, rfl⟩
  | command cmd =>
    cases cmd with
    | setPaused paused =>
      cases paused with
      | true => exact ⟨rfl, rfl⟩
      | false =>
        have hactive : ({ c with linkState := .active } : Coordinator).control =
            ({ c.control with linkState := .active } : Coordinator).control := rfl
        simp only [step, handleCommand, resume]
        rw [control_resumePolicy]
        split
        · exact ⟨rfl, rfl⟩
        · exact SameControl.of_control sameControl_resyncFromVrchat hactive env
    | manualResync =>
      let clear (c : Coordinator) : Coordinator :=
        { c with pendingDiscord := none, pendingVrchat := none }
      have hclear : (clear c).control = (clear c.control).control := rfl
      exact SameControl.of_control sameControl_resyncFromVrchat hclear env
    | setLinkMode _ | shutdown => exact ⟨rfl, rfl⟩
  | timeout =>
    exact SameControl.of_control sameControl_expireDiscord (sameControl_expireVrchat env c).1 env

end Coordinator

/-- The event is for display: VRChat's connection, an established one to Discord, the voice channel,
and complaints. -/
def CoordinatorEvent.isDisplay : CoordinatorEvent → Bool
  | .vrChatConnectionChanged _ | .discordVoiceChannelStatus _ | .discordVoiceStateUnavailable _ =>
    true
  | .discordConnectionChanged cs => decide (cs = .connected)
  | .vrChatMuteSelf _ | .vrChatAvatarChanged | .discordVoiceSettingsUpdate _
  | .discordCommandAck _ _ => false

/-- The turn, without the time of day; none, if its event is for display. -/
def Turn.control? (t : Turn) : Option Turn :=
  match t.2 with
  | .event ev => if ev.isDisplay then none else some (t.1.control, t.2)
  | .command _ | .timeout => some (t.1.control, t.2)

theorem Turn.control?_eq_some {t t' : Turn} (h : t.control? = some t') :
    t' = (t.1.control, t.2) := by
  unfold control? at h
  split at h
  · split_ifs at h
    exact (Option.some.inj h).symm
  · exact (Option.some.inj h).symm
  · exact (Option.some.inj h).symm

theorem Turn.control?_eq_none {t : Turn} (h : t.control? = none) :
    ∃ ev, t.2 = .event ev ∧ ev.isDisplay := by
  unfold control? at h
  split at h
  · next ev heq =>
    split_ifs at h with hev
    exact ⟨ev, heq, hev⟩
  · cases h
  · cases h

/-- The coordinator does not go by what is for display. -/
theorem unwinds_coordinator :
    coordinator.Unwinds Coordinator.control Turn.control? where
  skip := by
    rintro c ⟨env, i⟩ h
    obtain ⟨ev, rfl, hev⟩ := Turn.control?_eq_none h
    cases ev with
    | discordConnectionChanged cs =>
      refine ⟨?_, rfl⟩
      show (c.handleDiscordConnectionChanged cs).control = c.control
      unfold Coordinator.handleDiscordConnectionChanged
      rw [if_neg (not_not.mpr (of_decide_eq_true hev))]
      rfl
    | vrChatConnectionChanged _ | discordVoiceChannelStatus _ | discordVoiceStateUnavailable _ =>
      exact ⟨rfl, rfl⟩
    | vrChatMuteSelf _ | vrChatAvatarChanged | discordVoiceSettingsUpdate _
    | discordCommandAck _ _ => cases hev
  step := by
    rintro c t t' h
    obtain rfl := Turn.control?_eq_some h
    exact Coordinator.control_step t.1 c t.2
  strip := by
    rintro t t' h
    obtain rfl := Turn.control?_eq_some h
    exact h

/-- **What is for display is for display only.** Take any run of the coordinator, and leave out
every event that reports VRChat's connection, an established connection to Discord, the voice
channel or a complaint, at whatever time of day the rest happens. The coordinator issues the same
commands, with the same nonces, and shows the same mute states, link mode and link state at the
end. -/
theorem commands_ignore_display (cfg : CoordinatorConfig) (ts : List Turn) :
    let c := coordinator.run (.new cfg) ts
    let c' := coordinator.run (.new cfg) (ts.filterMap Turn.control?)
    coordinator.outs (.new cfg) ts = coordinator.outs (.new cfg) (ts.filterMap Turn.control?) ∧
      c.snapshotTx.vrchatMute = c'.snapshotTx.vrchatMute ∧
      c.snapshotTx.discordMute = c'.snapshotTx.discordMute ∧
      c.snapshotTx.linkMode = c'.snapshotTx.linkMode ∧
      c.snapshotTx.linkState = c'.snapshotTx.linkState := by
  intro c c'
  obtain ⟨houts, hcontrol⟩ := unwinds_coordinator.run (s := .new cfg) rfl ts
  have hshown : c.snapshotTx = c.snapshot := (reachable_run cfg ts).published
  have hshown' : c'.snapshotTx = c'.snapshot := (reachable_run cfg _).published
  rw [hshown, hshown']
  exact ⟨houts, (congrArg Coordinator.vrchatState hcontrol :),
    (congrArg Coordinator.discordState hcontrol :), (congrArg Coordinator.linkMode hcontrol :),
    (congrArg Coordinator.linkState hcontrol :)⟩

end VoxShift.Core
