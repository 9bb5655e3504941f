import VoxShift.Core.Pending

/-!
# The published snapshot

The handlers publish a snapshot at the end of every change to a field the
snapshot shows; what they change after that are the pending slots, which it does
not show. A receiver is taken to be alive: without one `watch::Sender::send`
keeps the old value.

## What is proved

* `Published.after_step`, `Reachable.published` — between turns the value on the
  watch channel is the snapshot of the coordinator.
* `snapshot_never_stale` — so at every point of every run each field of the value
  last sent is the coordinator's.
* `Published.sends` — a turn that sends any snapshots ends with the last of them; one that
  sends none does nothing.
-/

namespace VoxShift.Core

namespace Coordinator

/-- The value last sent on the watch channel is the snapshot of the coordinator. -/
def Published (c : Coordinator) : Prop := c.snapshotTx = c.snapshot

theorem published_publishSnapshot (c : Coordinator) : Published c.publishSnapshot := rfl

theorem published_stampSync (env : Env) (c : Coordinator) : Published (stampSync env c) := rfl

theorem published_new (cfg : CoordinatorConfig) : Published (new cfg) := rfl

theorem Published.syncDiscord {c : Coordinator} (h : Published c) (env : Env) :
    Published (Coordinator.syncDiscord env c).1 := by
  rw [syncDiscord_frame]
  exact h

theorem Published.syncVrchat {c : Coordinator} (h : Published c) (env : Env) :
    Published (Coordinator.syncVrchat env c).1 := by
  rw [syncVrchat_frame]
  exact h

theorem Published.tryInitialSync {c : Coordinator} (h : Published c) (env : Env)
    (hdone : c.initialSyncDone = false) : Published (Coordinator.tryInitialSync env c).1 := by
  by_cases hun : c.vrchatState = .unknown ∨ c.discordState = .unknown
  · rw [tryInitialSync_of_unknown env hdone hun]
    exact h
  · obtain ⟨hv, hd⟩ := not_or.mp hun
    rw [tryInitialSync_of_known env hdone hv hd]
    exact published_stampSync env _

theorem published_resyncFromVrchat (env : Env) (c : Coordinator) :
    Published (resyncFromVrchat env c).1 := by
  unfold resyncFromVrchat
  split_ifs
  · exact published_publishSnapshot _
  · exact published_stampSync env _

theorem Published.handleEvent {c : Coordinator} (h : Published c) (env : Env)
    (ev : CoordinatorEvent) : Published (Coordinator.handleEvent env c ev).1 := by
  cases ev with
  | vrChatMuteSelf state =>
    have hobs : Published (c.observeVrchat state) := published_publishSnapshot _
    show Published (handleVrchatMuteSelf env c state).1
    rw [handleVrchatMuteSelf_eq]
    split_ifs with hdone
    · exact hobs.tryInitialSync env (by simpa using hdone)
    · exact hobs
    · exact hobs.syncDiscord env
  | discordVoiceSettingsUpdate mute =>
    have hobs : Published (c.observeDiscord mute) := published_publishSnapshot _
    show Published (handleDiscordVoiceSettingsUpdate env c mute).1
    rw [handleDiscordVoiceSettingsUpdate_eq]
    split_ifs with hdone
    · exact hobs.tryInitialSync env (by simpa using hdone)
    · exact hobs
    · exact hobs
    · exact hobs.syncVrchat env
  | discordConnectionChanged cs =>
    simp only [Coordinator.handleEvent, handleDiscordConnectionChanged]
    split_ifs
    · exact published_publishSnapshot _
    · exact published_publishSnapshot _
  | discordCommandAck nonce result =>
    simp only [Coordinator.handleEvent, handleDiscordCommandAck]
    split_ifs
    · cases result with
      | error message => exact published_publishSnapshot _
      | ok _ => exact h
    · exact h
  | vrChatAvatarChanged | vrChatConnectionChanged _ | discordVoiceChannelStatus _
  | discordVoiceStateUnavailable _ => exact published_publishSnapshot _

theorem Published.handleCommand {c : Coordinator} (h : Published c) (env : Env)
    (cmd : CoordinatorCommand) : Published (Coordinator.handleCommand env c cmd).1 := by
  cases cmd with
  | setPaused paused =>
    cases paused with
    | true => exact published_publishSnapshot _
    | false =>
      simp only [Coordinator.handleCommand, resume]
      split
      · exact published_publishSnapshot _
      · exact published_resyncFromVrchat env _
  | manualResync => exact published_resyncFromVrchat env _
  | setLinkMode mode => exact published_publishSnapshot _
  | shutdown => exact h

theorem Published.handlePendingTimeout {c : Coordinator} (h : Published c) (env : Env) :
    Published (Coordinator.handlePendingTimeout env c) := by
  have hv : Published (expireVrchat env.now c) := by
    unfold expireVrchat
    split_ifs
    · exact published_publishSnapshot _
    · exact h
  unfold Coordinator.handlePendingTimeout expireDiscord
  split_ifs
  · exact published_publishSnapshot _
  · exact hv

/-- **One turn** ends with the snapshot published. -/
theorem Published.after_step {c : Coordinator} (h : Published c) (env : Env) (i : Input) :
    Published (c.step env i).1 := by
  cases i with
  | event ev => exact h.handleEvent env ev
  | command cmd => exact h.handleCommand env cmd
  | timeout => exact h.handlePendingTimeout env

end Coordinator

/-- **Every run**: the snapshot is published in every state between turns. -/
theorem Reachable.published {c : Coordinator} (h : Reachable c) : c.Published :=
  Theory.Machine.Reachable.inv (by rintro _ ⟨cfg, rfl⟩; exact Coordinator.published_new cfg)
    (fun _ t hs => hs.after_step t.1 t.2) h

/-- **The published snapshot is never stale.** For every configuration and every run, at every point
between turns, and at the start: every field of the value last sent on the watch channel is the
coordinator's field at that point. -/
theorem snapshot_never_stale (cfg : CoordinatorConfig) (ts : List Turn) (k : ℕ) :
    let c := coordinator.run (.new cfg) (ts.take k)
    c.snapshotTx =
      { vrchatConnection := c.vrchatConnection
        vrchatMute := c.vrchatState
        discordConnection := c.discordConnection
        discordMute := c.discordState
        discordInVoiceChannel := c.discordInVoice
        linkMode := c.linkMode
        linkState := c.linkState
        lastSyncAt := c.lastSyncAt
        lastError := c.lastError } :=
  (reachable_run cfg (ts.take k)).published

/-! ### What a turn sends -/

namespace Coordinator

/-- What `try_initial_sync` sends on the watch channel. -/
def initialSyncSends (env : Env) (c : Coordinator) : List AppSnapshot :=
  if c.initialSyncDone then []
  else if c.vrchatState = .unknown ∨ c.discordState = .unknown then []
  else [(Coordinator.tryInitialSync env c).1.snapshot]

/-- What `handle_event` sends, in order. -/
def eventSends (env : Env) (c : Coordinator) : CoordinatorEvent → List AppSnapshot
  | .vrChatMuteSelf state =>
    (c.observeVrchat state).snapshot :: (c.observeVrchat state).initialSyncSends env
  | .discordVoiceSettingsUpdate mute =>
    (c.observeDiscord mute).snapshot :: (c.observeDiscord mute).initialSyncSends env
  | .discordCommandAck nonce (.error message) =>
    if c.pendingDiscord.any (fun p => decide (p.nonce = nonce)) then
      [(handleDiscordCommandAck c nonce (.error message)).snapshot]
    else []
  | .discordCommandAck _ (.ok _) => []
  | .vrChatAvatarChanged => [(handleVrchatAvatarChanged c).snapshot]
  | .vrChatConnectionChanged cs => [{ c with vrchatConnection := cs }.snapshot]
  | .discordVoiceChannelStatus inVoice => [{ c with discordInVoice := inVoice }.snapshot]
  | .discordConnectionChanged cs => [(handleDiscordConnectionChanged c cs).snapshot]
  | .discordVoiceStateUnavailable message => [{ c with lastError := some message }.snapshot]

/-- What `handle_command` sends. -/
def commandSends (env : Env) (c : Coordinator) : CoordinatorCommand → List AppSnapshot
  | .shutdown => []
  | cmd => [(Coordinator.handleCommand env c cmd).1.snapshot]

/-- What `handle_pending_timeout` sends, in order. -/
def timeoutSends (now : Instant) (c : Coordinator) : List AppSnapshot :=
  (if c.pendingVrchat.any (fun p => decide (p.deadline ≤ now)) then [(expireVrchat now c).snapshot]
    else []) ++
  (if c.pendingDiscord.any (fun p => decide (p.deadline ≤ now)) then
    [(expireDiscord now (expireVrchat now c)).snapshot] else [])

/-- What a turn sends on the watch channel, in order. -/
def sends (env : Env) (c : Coordinator) : Input → List AppSnapshot
  | .event ev => c.eventSends env ev
  | .command cmd => c.commandSends env cmd
  | .timeout => c.timeoutSends env.now

/-- A turn sends its last snapshot last, or it sends none and does nothing. -/
inductive Sends (env : Env) (c : Coordinator) (i : Input) : Prop where
  | last (before : List AppSnapshot) (h : c.sends env i = before ++ [(c.step env i).1.snapshotTx])
  | nothing (h : c.sends env i = []) (hc : c.step env i = (c, []))

/-- What `try_initial_sync` sends, and what is left on the channel when it sends nothing. -/
theorem initialSyncSends_cases (env : Env) (c : Coordinator) :
    (c.initialSyncSends env = [(Coordinator.tryInitialSync env c).1.snapshotTx]) ∨
    (c.initialSyncSends env = [] ∧ Coordinator.tryInitialSync env c = (c, [])) := by
  unfold initialSyncSends
  split_ifs with hdone hun
  · exact .inr ⟨rfl, if_pos hdone⟩
  · exact .inr ⟨rfl, tryInitialSync_of_unknown env (Bool.eq_false_iff.mpr hdone) hun⟩
  · obtain ⟨hv, hd⟩ := not_or.mp hun
    rw [tryInitialSync_of_known env (Bool.eq_false_iff.mpr hdone) hv hd]
    exact .inl rfl

/-- An observation is published before anything else. -/
theorem sends_observed {env : Env} {c' observed : Coordinator}
    (hobs : Published observed)
    (h : c' = (Coordinator.tryInitialSync env observed).1 ∨
      observed.initialSyncDone = true ∧ c'.snapshotTx = observed.snapshotTx) :
    ∃ before, observed.snapshot :: observed.initialSyncSends env = before ++ [c'.snapshotTx] := by
  rcases h with rfl | ⟨hdone, hsame⟩
  · rcases initialSyncSends_cases env observed with he | ⟨he, hsync⟩
    · exact ⟨[observed.snapshot], by rw [he]; rfl⟩
    · refine ⟨[], ?_⟩
      rw [he, hsync]
      exact congrArg ([·]) hobs.symm
  · refine ⟨[], ?_⟩
    rw [hsame, initialSyncSends, if_pos hdone]
    exact congrArg ([·]) hobs.symm

theorem sends_muteSelf (env : Env) (c : Coordinator) (state : MuteState) :
    Sends env c (.event (.vrChatMuteSelf state)) := by
  have hobs : Published (c.observeVrchat state) := published_publishSnapshot _
  have hafter : (handleVrchatMuteSelf env c state).1 =
        (Coordinator.tryInitialSync env (c.observeVrchat state)).1 ∨
      (c.observeVrchat state).initialSyncDone = true ∧
        (handleVrchatMuteSelf env c state).1.snapshotTx = (c.observeVrchat state).snapshotTx := by
    rw [handleVrchatMuteSelf_eq]
    split_ifs with hdone hactive
    · exact .inl rfl
    · exact .inr ⟨by simpa using hdone, rfl⟩
    · exact .inr ⟨by simpa using hdone, by rw [syncDiscord_frame]⟩
  obtain ⟨before, he⟩ := sends_observed hobs hafter
  exact .last before he

theorem sends_update (env : Env) (c : Coordinator) (mute : MuteState) :
    Sends env c (.event (.discordVoiceSettingsUpdate mute)) := by
  have hobs : Published (c.observeDiscord mute) := published_publishSnapshot _
  have hafter : (handleDiscordVoiceSettingsUpdate env c mute).1 =
        (Coordinator.tryInitialSync env (c.observeDiscord mute)).1 ∨
      (c.observeDiscord mute).initialSyncDone = true ∧
        (handleDiscordVoiceSettingsUpdate env c mute).1.snapshotTx =
          (c.observeDiscord mute).snapshotTx := by
    rw [handleDiscordVoiceSettingsUpdate_eq]
    split_ifs with hdone hactive hmaster
    · exact .inl rfl
    · exact .inr ⟨by simpa using hdone, rfl⟩
    · exact .inr ⟨by simpa using hdone, rfl⟩
    · exact .inr ⟨by simpa using hdone, by rw [syncVrchat_frame]⟩
  obtain ⟨before, he⟩ := sends_observed hobs hafter
  exact .last before he

theorem sends_event (env : Env) (c : Coordinator) (ev : CoordinatorEvent) :
    Sends env c (.event ev) := by
  cases ev with
  | vrChatMuteSelf state => exact sends_muteSelf env c state
  | discordVoiceSettingsUpdate mute => exact sends_update env c mute
  | discordCommandAck nonce result =>
    cases result with
    | ok state =>
      refine .nothing rfl ?_
      simp only [step, Coordinator.handleEvent, handleDiscordCommandAck, ite_self]
    | error message =>
      by_cases hp : c.pendingDiscord.any (fun p => decide (p.nonce = nonce))
      · refine .last [] ?_
        simp only [sends, eventSends, step, Coordinator.handleEvent, handleDiscordCommandAck,
          if_pos hp]
        rfl
      · refine .nothing (if_neg hp) ?_
        simp only [step, Coordinator.handleEvent, handleDiscordCommandAck, if_neg hp]
  | discordConnectionChanged cs =>
    refine .last [] ?_
    simp only [sends, eventSends, step, Coordinator.handleEvent, handleDiscordConnectionChanged]
    split_ifs <;> rfl
  | vrChatAvatarChanged | vrChatConnectionChanged _ | discordVoiceChannelStatus _
  | discordVoiceStateUnavailable _ => exact .last [] rfl

theorem sends_command {env : Env} {c : Coordinator} (hpub : Published c)
    (cmd : CoordinatorCommand) : Sends env c (.command cmd) := by
  cases cmd with
  | shutdown => exact .nothing rfl rfl
  | setPaused _ | setLinkMode _ | manualResync =>
    exact .last [] (congrArg ([·]) (hpub.handleCommand env _).symm)

theorem sends_timeout (env : Env) (c : Coordinator) : Sends env c .timeout := by
  by_cases hv : c.pendingVrchat.any (fun p => decide (p.deadline ≤ env.now)) <;>
    by_cases hd : c.pendingDiscord.any (fun p => decide (p.deadline ≤ env.now))
  · refine .last [(expireVrchat env.now c).snapshot] ?_
    simp only [sends, timeoutSends, step, Coordinator.handlePendingTimeout, expireVrchat,
      expireDiscord, publishSnapshot, if_pos hv, if_pos hd]
    rfl
  · refine .last [] ?_
    simp only [sends, timeoutSends, step, Coordinator.handlePendingTimeout, expireVrchat,
      expireDiscord, publishSnapshot, if_pos hv, if_neg hd]
    rfl
  · refine .last [] ?_
    simp only [sends, timeoutSends, step, Coordinator.handlePendingTimeout, expireVrchat,
      expireDiscord, publishSnapshot, if_neg hv, if_pos hd]
    rfl
  · refine .nothing ?_ ?_
    · simp only [sends, timeoutSends, if_neg hv, if_neg hd, List.append_nil]
    · simp only [step, Coordinator.handlePendingTimeout, expireVrchat, expireDiscord, if_neg hv,
        if_neg hd]

/-- **One turn.** -/
theorem Published.sends {c : Coordinator} (hpub : Published c) (env : Env) (i : Input) :
    Sends env c i := by
  cases i with
  | event ev => exact sends_event env c ev
  | command cmd => exact sends_command hpub cmd
  | timeout => exact sends_timeout env c

end Coordinator

end VoxShift.Core
