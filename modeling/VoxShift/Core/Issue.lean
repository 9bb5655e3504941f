import VoxShift.Core.Pending
import VoxShift.Discord.Client

/-!
# What a turn issues

From which states a turn of the coordinator's loop issues a command, and which.

## What is proved

* `commands_from_conflict` — between turns the pending slots describe the two
  mute states; a turn issues at most one command, from a known and conflicting
  pair and towards its inverse; a command in flight is never replaced by one with
  another target; the boolean the client writes for a `SetMute` is its target.
* `tryInitialSync_silent_iff` — when the initial sync issues nothing.
* `paused_silent_iff` — a paused link issues nothing, except where the turn is
  the observation that first makes both states known (`FirstConflict`): the pause
  check comes after the initial-sync branch in both observation handlers.
* `vrchat_master_one_way` — in VRChat-priority mode nothing goes from Discord to
  VRChat, under any startup authority.
-/

namespace VoxShift.Core

namespace Coordinator

/-! ### Slots across a turn -/

/-- A `SetMute` in flight before a turn and one in flight after it are for the same Discord state:
whatever changes that state empties the slot. -/
theorem Inv.discordState_of_pending {c : Coordinator} (h : Inv c) (env : Env) (i : Input)
    {p p' : PendingDiscordCommand} (hp : c.pendingDiscord = some p)
    (hp' : (c.step env i).1.pendingDiscord = some p') :
    (c.step env i).1.discordState = c.discordState := by
  have hdone : c.initialSyncDone = true := by
    by_contra hf
    rw [(h.idle (by simpa using hf)).1] at hp
    cases hp
  by_cases hi : i.Drives
  · rcases hi.cases with ⟨state, rfl⟩ | ⟨mute, rfl⟩ | rfl | rfl
    · rw [step_muteSelf_of_done hdone]
      split_ifs
      · rfl
      · exact (kept_syncDiscord _ _).discordState
    · rw [pendingDiscord_update hdone env mute] at hp'
      cases hp'
    · exact (kept_resume env c).discordState
    · exact (kept_manualResync env c).discordState
  · rcases (forgets_step env c hi).discord with ⟨-, hd⟩ | ⟨hnone, -⟩
    · exact hd
    · rw [hnone] at hp'
      cases hp'

theorem Issued.mem {c : Coordinator} {cmds : List Command} (h : Issued c cmds) :
    cmds.length ≤ 1 ∧ ∀ cmd ∈ cmds,
      c.vrchatState ≠ .unknown ∧ c.discordState = c.vrchatState ∧
        cmd.goal = c.vrchatState.inverse := by
  rcases cmds with _ | ⟨cmd, _ | ⟨_, _⟩⟩
  · simp
  · exact ⟨Nat.le_refl 1, fun _ hm => (List.mem_singleton.mp hm) ▸ h⟩
  · exact h.elim

end Coordinator

theorem step_muteSelf_of_not_done {c : Coordinator} (hdone : c.initialSyncDone = false) (env : Env)
    (state : MuteState) :
    c.step env (.event (.vrChatMuteSelf state)) =
      Coordinator.tryInitialSync env (c.observeVrchat state) := by
  show Coordinator.handleVrchatMuteSelf env c state = _
  rw [Coordinator.handleVrchatMuteSelf_eq, if_pos (by simp [hdone])]

theorem step_update_of_not_done {c : Coordinator} (hdone : c.initialSyncDone = false) (env : Env)
    (mute : MuteState) :
    c.step env (.event (.discordVoiceSettingsUpdate mute)) =
      Coordinator.tryInitialSync env (c.observeDiscord mute) := by
  show Coordinator.handleDiscordVoiceSettingsUpdate env c mute = _
  rw [Coordinator.handleDiscordVoiceSettingsUpdate_eq, if_pos (by simp [hdone])]

theorem step_muteSelf_of_active {c : Coordinator} (hdone : c.initialSyncDone = true)
    (hactive : c.linkState = .active) (env : Env) (state : MuteState) :
    c.step env (.event (.vrChatMuteSelf state)) =
      Coordinator.syncDiscord env (c.observeVrchat state) := by
  rw [Coordinator.step_muteSelf_of_done hdone, if_neg (by simp [hactive])]

theorem step_update_of_active {c : Coordinator} (hdone : c.initialSyncDone = true)
    (hactive : c.linkState = .active) (hmode : c.linkMode = .inverseBidirectional) (env : Env)
    (mute : MuteState) :
    c.step env (.event (.discordVoiceSettingsUpdate mute)) =
      Coordinator.syncVrchat env (c.observeDiscord mute) := by
  rw [Coordinator.step_update_of_done hdone, if_neg (by simp [hactive]), if_neg (by simp [hmode])]

/-- After the initial sync, in VRChat-priority mode a Discord update is recorded and nothing
follows. -/
theorem step_update_of_master {c : Coordinator} (hdone : c.initialSyncDone = true)
    (hactive : c.linkState = .active) (hmode : c.linkMode = .vrchatMaster) (env : Env)
    (mute : MuteState) :
    c.step env (.event (.discordVoiceSettingsUpdate mute)) = (c.observeDiscord mute, []) := by
  rw [Coordinator.step_update_of_done hdone, if_neg (by simp [hactive]), if_pos hmode]

/-- **Commands come from a known, conflicting pair, and the pending slots describe that pair.**
In every state `c` between turns:
a toggle in flight leads from the known VRChat state to its inverse, and a `SetMute` in flight,
over a live connection, to the inverse of the known Discord state;
the next turn, whatever it is, issues at most one command, and at that moment both states are
known and equal and the command's goal is their inverse, so the boolean the client writes for a
`SetMute` stands for its target;
a `SetMute` in flight after the turn has the target of the one in flight before it, and
`set_discord_state` with one in flight does nothing. -/
theorem commands_from_conflict {c : Coordinator} (h : Reachable c) :
    (∀ p, c.pendingVrchat = some p →
      c.vrchatState ≠ .unknown ∧ p.previous = c.vrchatState ∧ p.expected = c.vrchatState.inverse) ∧
    (∀ p, c.pendingDiscord = some p →
      c.discordState ≠ .unknown ∧ c.discordConnection = .connected ∧
        p.target = c.discordState.inverse) ∧
    (∀ env i c' cmds, c.step env i = (c', cmds) →
      cmds.length ≤ 1 ∧
      (∀ cmd ∈ cmds, c'.vrchatState ≠ .unknown ∧ c'.discordState = c'.vrchatState ∧
        cmd.goal = c'.vrchatState.inverse) ∧
      (∀ target nonce, .discord (.setMute target nonce) ∈ cmds →
        MuteState.ofBool (Discord.handleDiscordCommand (.setMute target nonce)).args.mute =
          target) ∧
      (∀ p p', c.pendingDiscord = some p → c'.pendingDiscord = some p' → p'.target = p.target)) ∧
    (∀ env p target, c.pendingDiscord = some p → target ≠ .unknown →
      c.setDiscordState env target = (c, [])) := by
  have hinv := h.inv
  refine ⟨hinv.vrchat, fun p hp => ?_, ?_, fun env p target hp ht => ?_⟩
  · obtain ⟨hd, ht⟩ := hinv.discord p hp
    exact ⟨hd, hinv.connected hd, ht⟩
  · intro env i c' cmds hstep
    obtain ⟨hslots, hissued⟩ := hinv.toSlots.sound_step env i
    rw [hstep] at hslots hissued
    obtain ⟨hlen, hmem⟩ := hissued.mem
    refine ⟨hlen, hmem, fun target nonce hm => ?_, fun p p' hp hp' => ?_⟩
    · obtain ⟨hv, -, hgoal⟩ := hmem _ hm
      refine Discord.ofBool_handleDiscordCommand ?_ nonce
      rw [show target = c'.vrchatState.inverse from hgoal]
      exact mt MuteState.inverse_eq_unknown.mp hv
    · have hsame := hinv.discordState_of_pending env i hp (by rw [hstep]; exact hp')
      rw [hstep] at hsame
      rw [(hslots.discord p' hp').2, (hinv.discord p hp).2, hsame]
  · exact Coordinator.setDiscordState_of_pending hinv.toSlots ht hp

/-- Discord was seen muted, then VRChat: a `SetMute` is in flight. -/
theorem commands_from_conflict_in_flight :
    let c := coordinator.run (.new .default)
      [(⟨0, 0, 1⟩, .event (.discordVoiceSettingsUpdate .muted)),
        (⟨0, 0, 2⟩, .event (.vrChatMuteSelf .muted))]
    c.pendingDiscord = some ⟨2, .unmuted, 0, DISCORD_COMMAND_TIMEOUT⟩ ∧
      c.discordState ≠ .unknown ∧ c.discordConnection = .connected ∧
        .unmuted = c.discordState.inverse := by
  intro c
  have hp : c.pendingDiscord = some ⟨2, .unmuted, 0, DISCORD_COMMAND_TIMEOUT⟩ := rfl
  exact ⟨hp, (commands_from_conflict (reachable_run _ _)).2.1 _ hp⟩

/-! ### A paused link -/

/-- The turn is the observation that first makes both states known, the two conflict, and the
startup authority in force names a side. -/
def FirstConflict (c : Coordinator) : Input → Prop
  | .event (.vrChatMuteSelf state) =>
    c.initialSyncDone = false ∧ state ≠ .unknown ∧ c.discordState = state ∧
      c.effectiveAuthority ≠ .none
  | .event (.discordVoiceSettingsUpdate mute) =>
    c.initialSyncDone = false ∧ mute ≠ .unknown ∧ c.vrchatState = mute ∧
      c.effectiveAuthority ≠ .none
  | _ => False

namespace Coordinator

/-- The startup authority issues nothing exactly where there is no conflict or it names no side. -/
theorem syncByAuthority_silent_iff {c : Coordinator} (h : Slots c) (hpd : c.pendingDiscord = none)
    (hpv : c.pendingVrchat = none) (env : Env) :
    (syncByAuthority env c).2 = [] ↔
      ¬ (c.vrchatState ≠ .unknown ∧ c.discordState = c.vrchatState ∧
        c.effectiveAuthority ≠ .none) := by
  cases hauth : c.effectiveAuthority with
  | vrchat =>
    simp only [syncByAuthority_of_vrchat hauth, syncDiscord_eq h, hpd, and_true]
    split_ifs with hc
    · simpa using hc
    · simpa using hc
  | discord =>
    simp only [syncByAuthority_of_discord hauth, syncVrchat_eq, hpv, and_true]
    split_ifs with hc
    · obtain ⟨hd, hv⟩ := hc
      simpa [hv] using hd
    · simp only [true_iff]
      rintro ⟨hv, hd, -⟩
      exact hc ⟨by rw [hd]; exact hv, hd.symm⟩
  | none => simp [syncByAuthority_of_none hauth]

/-- The same for the initial sync, before which nothing is in flight. -/
theorem tryInitialSync_silent_iff {c : Coordinator} (h : Slots c)
    (hdone : c.initialSyncDone = false)
    (hpd : c.pendingDiscord = none) (hpv : c.pendingVrchat = none) (env : Env) :
    (tryInitialSync env c).2 = [] ↔
      ¬ (c.vrchatState ≠ .unknown ∧ c.discordState = c.vrchatState ∧
        c.effectiveAuthority ≠ .none) := by
  by_cases hun : c.vrchatState = .unknown ∨ c.discordState = .unknown
  · rw [tryInitialSync_of_unknown env hdone hun]
    simp only [true_iff]
    rintro ⟨hv, hd, -⟩
    exact hv (hun.elim id fun hu => hd.symm.trans hu)
  · obtain ⟨hv, hd⟩ := not_or.mp hun
    rw [tryInitialSync_of_known env hdone hv hd]
    have hstart : Slots c.startSync := h.of_eq rfl
    exact syncByAuthority_silent_iff hstart hpd hpv env

end Coordinator

/-- **What a paused link sends.** In a paused state, a turn that is neither a resume nor a manual
resync issues nothing exactly when it is not the first conflicting observation. -/
theorem paused_silent_iff {c : Coordinator} (h : Reachable c) (hpaused : c.linkState = .paused)
    (env : Env)
    {i : Input} (hresume : i ≠ .command (.setPaused false)) (hresync : i ≠ .command .manualResync) :
    (c.step env i).2 = [] ↔ ¬ FirstConflict c i := by
  have hinv := h.inv
  cases i with
  | event ev =>
    cases ev with
    | vrChatMuteSelf state =>
      simp only [Coordinator.step, Coordinator.handleEvent, Coordinator.handleVrchatMuteSelf_eq,
        FirstConflict]
      cases hdone : c.initialSyncDone with
      | true => simp [hpaused]
      | false =>
        have hobs : (c.observeVrchat state).Slots := hinv.take_vrchat rfl rfl rfl rfl
        rw [if_pos (by decide), Coordinator.tryInitialSync_silent_iff hobs hdone
          (hinv.idle hdone).1 rfl]
        simp only [true_and]
        rfl
    | discordVoiceSettingsUpdate mute =>
      simp only [Coordinator.step, Coordinator.handleEvent,
        Coordinator.handleDiscordVoiceSettingsUpdate_eq, FirstConflict]
      cases hdone : c.initialSyncDone with
      | true => simp [hpaused]
      | false =>
        have hobs : (c.observeDiscord mute).Slots := hinv.take_discord rfl rfl rfl fun _ => rfl
        rw [if_pos (by decide), Coordinator.tryInitialSync_silent_iff hobs hdone rfl
          (hinv.idle hdone).2]
        simp only [true_and, Coordinator.observeDiscord_vrchatState,
          Coordinator.observeDiscord_discordState]
        apply not_congr
        constructor
        · rintro ⟨hv, hm, ha⟩
          rw [hm]
          exact ⟨hv, rfl, ha⟩
        · rintro ⟨hm, hv, ha⟩
          rw [hv]
          exact ⟨hm, rfl, ha⟩
    | vrChatAvatarChanged | vrChatConnectionChanged _ | discordVoiceChannelStatus _
    | discordConnectionChanged _ | discordCommandAck _ _ | discordVoiceStateUnavailable _ =>
      exact iff_of_true rfl id
  | command cmd =>
    cases cmd with
    | setPaused paused =>
      cases paused with
      | true => exact iff_of_true rfl id
      | false => exact absurd rfl hresume
    | manualResync => exact absurd rfl hresync
    | setLinkMode _ | shutdown => exact iff_of_true rfl id
  | timeout => exact iff_of_true rfl id

/-- The configuration of a user who left the link switched off. -/
def linkOff : CoordinatorConfig := { CoordinatorConfig.default with linkEnabled := false }

/-- A link switched off from the start sends a `SetMute` as soon as both sides are seen muted. -/
theorem paused_link_sends :
    let c := coordinator.run (.new linkOff)
      [(⟨0, 0, 1⟩, .event (.discordVoiceSettingsUpdate .muted))]
    Reachable c ∧ c.linkState = .paused ∧
      (c.step ⟨0, 0, 2⟩ (.event (.vrChatMuteSelf .muted))).2 = [.discord (.setMute .unmuted 2)] :=
  ⟨reachable_run _ _, rfl, rfl⟩

/-- The same user sees nothing sent while Discord is unmuted and VRChat muted. -/
theorem paused_silent_iff_inverse :
    let c := coordinator.run (.new linkOff)
      [(⟨0, 0, 1⟩, .event (.discordVoiceSettingsUpdate .unmuted))]
    (c.step ⟨0, 0, 2⟩ (.event (.vrChatMuteSelf .muted))).2 = [] := by
  intro c
  refine (paused_silent_iff (reachable_run _ _) rfl _ (by simp) (by simp)).mpr ?_
  rintro ⟨-, -, hd, -⟩
  cases hd

/-! ### VRChat-priority mode -/

/-- The events that report on Discord. -/
def CoordinatorEvent.FromDiscord : CoordinatorEvent → Prop
  | .discordVoiceSettingsUpdate _ | .discordVoiceChannelStatus _ | .discordConnectionChanged _
  | .discordCommandAck _ _ | .discordVoiceStateUnavailable _ => True
  | .vrChatMuteSelf _ | .vrChatAvatarChanged | .vrChatConnectionChanged _ => False

namespace Coordinator

theorem not_isToggle_syncDiscord (env : Env) (c : Coordinator) :
    ∀ cmd ∈ (syncDiscord env c).2, ¬ cmd.IsToggle := by
  unfold syncDiscord setDiscordState
  split
  · split_ifs <;> simp
  · simp

theorem not_isToggle_resyncFromVrchat (env : Env) (c : Coordinator) :
    ∀ cmd ∈ (resyncFromVrchat env c).2, ¬ cmd.IsToggle := by
  unfold resyncFromVrchat
  split_ifs
  · simp
  · exact not_isToggle_syncDiscord env c

theorem not_isToggle_resume (env : Env) (c : Coordinator) :
    ∀ cmd ∈ (resume env c).2, ¬ cmd.IsToggle := by
  unfold resume
  split
  · simp
  · exact not_isToggle_resyncFromVrchat env { c with linkState := .active }

/-- In VRChat-priority mode the startup authority is VRChat, so the initial sync sends no toggle. -/
theorem not_isToggle_tryInitialSync {c : Coordinator} (hmode : c.linkMode = .vrchatMaster)
    (env : Env) (hdone : c.initialSyncDone = false) :
    ∀ cmd ∈ (tryInitialSync env c).2, ¬ cmd.IsToggle := by
  by_cases hun : c.vrchatState = .unknown ∨ c.discordState = .unknown
  · rw [tryInitialSync_of_unknown env hdone hun]
    simp
  · obtain ⟨hv, hd⟩ := not_or.mp hun
    rw [tryInitialSync_of_known env hdone hv hd]
    have hauth : c.startSync.effectiveAuthority = .vrchat := if_pos hmode
    rw [syncByAuthority_of_vrchat hauth]
    exact not_isToggle_syncDiscord env c.startSync

/-- In VRChat-priority mode no turn sends a toggle. -/
theorem not_isToggle_step {c : Coordinator} (hmode : c.linkMode = .vrchatMaster) (env : Env)
    (i : Input) : ∀ cmd ∈ (c.step env i).2, ¬ cmd.IsToggle := by
  by_cases hi : i.Drives
  · rcases hi.cases with ⟨state, rfl⟩ | ⟨mute, rfl⟩ | rfl | rfl
    · show ∀ cmd ∈ (handleVrchatMuteSelf env c state).2, ¬ cmd.IsToggle
      rw [handleVrchatMuteSelf_eq]
      split_ifs with hdone
      · have hmode : (c.observeVrchat state).linkMode = .vrchatMaster := hmode
        exact not_isToggle_tryInitialSync hmode env (by simpa using hdone)
      · simp
      · exact not_isToggle_syncDiscord env (c.observeVrchat state)
    · show ∀ cmd ∈ (handleDiscordVoiceSettingsUpdate env c mute).2, ¬ cmd.IsToggle
      rw [handleDiscordVoiceSettingsUpdate_eq]
      split_ifs with hdone
      · have hmode : (c.observeDiscord mute).linkMode = .vrchatMaster := hmode
        exact not_isToggle_tryInitialSync hmode env (by simpa using hdone)
      · simp
      · simp
    · exact not_isToggle_resume env c
    · exact not_isToggle_resyncFromVrchat env _
  · rw [silent_of_not_drives env c hi]
    simp

/-- In VRChat-priority mode, after the initial sync, no event of Discord sends anything. -/
theorem silent_of_fromDiscord {c : Coordinator} (hmode : c.linkMode = .vrchatMaster)
    (hdone : c.initialSyncDone = true) (env : Env) {ev : CoordinatorEvent} (hev : ev.FromDiscord) :
    (c.step env (.event ev)).2 = [] := by
  cases ev with
  | discordVoiceSettingsUpdate mute =>
    rw [step_update_of_done hdone]
    split_ifs
    · rfl
    · rfl
  | discordVoiceChannelStatus _ | discordConnectionChanged _ | discordCommandAck _ _
  | discordVoiceStateUnavailable _ => rfl
  | vrChatMuteSelf _ | vrChatAvatarChanged | vrChatConnectionChanged _ => exact hev.elim

end Coordinator

/-- **VRChat-priority mode goes one way.** In every reachable state in that mode, whatever the
startup authority, the resume policy and the modes before, and for every turn:
no toggle is sent;
once the initial sync is done, an event of Discord sends nothing;
every `SetMute` goes to the inverse of the VRChat state, which is known. -/
theorem vrchat_master_one_way {c : Coordinator} (h : Reachable c)
    (hmode : c.linkMode = .vrchatMaster) (env : Env) (i : Input) :
    (∀ cmd ∈ (c.step env i).2, ¬ cmd.IsToggle) ∧
    (c.initialSyncDone = true → ∀ ev, i = .event ev → ev.FromDiscord →
      (c.step env i).2 = []) ∧
    (∀ target nonce, .discord (.setMute target nonce) ∈ (c.step env i).2 →
      (c.step env i).1.vrchatState ≠ .unknown ∧
        target = (c.step env i).1.vrchatState.inverse) := by
  refine ⟨Coordinator.not_isToggle_step hmode env i, ?_, ?_⟩
  · rintro hdone ev rfl hev
    exact Coordinator.silent_of_fromDiscord hmode hdone env hev
  · intro target nonce hmem
    obtain ⟨hv, -, hgoal⟩ := (h.inv.toSlots.sound_step env i).2.mem.2 _ hmem
    exact ⟨hv, hgoal⟩

/-- The configuration of a user who wants VRChat to lead, with the startup authority pointing the
other way. -/
def vrchatLeads : CoordinatorConfig :=
  { CoordinatorConfig.default with linkMode := .vrchatMaster, startupAuthority := .discord }

/-- Both sides are then seen muted: Discord is told to unmute. -/
theorem vrchat_master_one_way_first :
    let c := coordinator.run (.new vrchatLeads)
      [(⟨0, 0, 1⟩, .event (.vrChatMuteSelf .muted))]
    let r := c.step ⟨0, 0, 2⟩ (.event (.discordVoiceSettingsUpdate .muted))
    c.linkMode = .vrchatMaster ∧ r.2 = [.discord (.setMute .unmuted 2)] ∧
      MuteState.unmuted = r.1.vrchatState.inverse := by
  intro c r
  have hout : r.2 = [.discord (.setMute .unmuted 2)] := rfl
  have hmem : .discord (.setMute .unmuted 2) ∈ r.2 := hout ▸ List.mem_singleton_self _
  exact ⟨rfl, hout, ((vrchat_master_one_way (reachable_run _ _) rfl _ _).2.2 _ _ hmem).2⟩

end VoxShift.Core
