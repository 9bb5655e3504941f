import VoxShift.Core.Issue

/-!
# Settled implies inverse

`DiscordMuted = !VrChatMuted` is what the link maintains. It cannot hold at every
moment; it holds of every settled state: the link is active, both states are
known and no command is in flight.

## What is proved

* `settings_step` — the link mode, the resume policy and the startup authority
  change by `SetLinkMode` only.
* `Linked.after_step` — under the settings of the bidirectional mode every turn
  keeps the relation.
* `settled_inverse` — so it holds of every run.
-/

namespace VoxShift.Core

namespace Coordinator

/-! ### Settings -/

/-- The fields no event writes. -/
def settings (c : Coordinator) : LinkMode × ResumePolicy × StartupAuthority :=
  (c.linkMode, c.resumePolicy, c.startupAuthority)

theorem Kept.settings {c c' : Coordinator} (h : Kept c c') : c'.settings = c.settings := by
  unfold Coordinator.settings
  rw [h.linkMode, h.resumePolicy, h.startupAuthority]

theorem settings_tryInitialSync (env : Env) (c : Coordinator) :
    (tryInitialSync env c).1.settings = c.settings := by
  cases hdone : c.initialSyncDone with
  | true =>
    unfold tryInitialSync
    rw [if_pos hdone]
  | false =>
    by_cases hun : c.vrchatState = .unknown ∨ c.discordState = .unknown
    · rw [tryInitialSync_of_unknown env hdone hun]
    · obtain ⟨hv, hd⟩ := not_or.mp hun
      rw [tryInitialSync_of_known env hdone hv hd]
      exact ((kept_syncByAuthority env c.startSync).stamp env).settings

theorem settings_step (env : Env) (c : Coordinator) {i : Input}
    (hi : ∀ mode, i = .command (.setLinkMode mode) → mode = c.linkMode) :
    (c.step env i).1.settings = c.settings := by
  cases i with
  | event ev =>
    cases ev with
    | vrChatMuteSelf state =>
      show (handleVrchatMuteSelf env c state).1.settings = _
      rw [handleVrchatMuteSelf_eq]
      split_ifs
      · exact settings_tryInitialSync env (c.observeVrchat state)
      · rfl
      · exact (kept_syncDiscord env (c.observeVrchat state)).settings
    | discordVoiceSettingsUpdate mute =>
      show (handleDiscordVoiceSettingsUpdate env c mute).1.settings = _
      rw [handleDiscordVoiceSettingsUpdate_eq]
      split_ifs
      · exact settings_tryInitialSync env (c.observeDiscord mute)
      · rfl
      · rfl
      · exact (kept_syncVrchat env (c.observeDiscord mute)).settings
    | discordConnectionChanged cs =>
      simp only [step, handleEvent, handleDiscordConnectionChanged]
      split_ifs <;> rfl
    | discordCommandAck nonce result =>
      simp only [step, handleEvent, handleDiscordCommandAck]
      split_ifs
      · cases result <;> rfl
      · rfl
    | vrChatAvatarChanged | vrChatConnectionChanged _ | discordVoiceChannelStatus _
    | discordVoiceStateUnavailable _ => rfl
  | command cmd =>
    cases cmd with
    | setLinkMode mode => exact congrArg (·, c.resumePolicy, c.startupAuthority) (hi mode rfl)
    | setPaused paused =>
      cases paused with
      | true => rfl
      | false => exact (kept_resume env c).settings
    | manualResync => exact (kept_manualResync env c).settings
    | shutdown => rfl
  | timeout =>
    simp only [step, handlePendingTimeout, expireDiscord, expireVrchat]
    split_ifs <;> rfl

/-! ### Answered conflicts -/

/-- If both states are known and no command is in flight, the pair is inverse. -/
def Answered (c : Coordinator) : Prop :=
  c.vrchatState ≠ .unknown → c.discordState ≠ .unknown → c.pendingDiscord = none →
    c.pendingVrchat = none →
    c.discordState = c.vrchatState.inverse

theorem Answered.of_eq {c c' : Coordinator} (h : Answered c) (he : c'.slotView = c.slotView) :
    Answered c' := by
  simp only [slotView, Prod.mk.injEq] at he
  obtain ⟨hv, hd, -, hpv, hpd⟩ := he
  unfold Answered
  rw [hv, hd, hpd, hpv]
  exact h

/-- Making Discord follow answers a conflict, by a command or because there is one in flight. -/
theorem Slots.answered_syncDiscord {c : Coordinator} (h : Slots c) (env : Env) :
    Answered (syncDiscord env c).1 := by
  rw [syncDiscord_eq h]
  split_ifs with hc
  · intro _ _ hpd
    cases hpd
  · intro hv hd hpd _
    have hne : c.discordState ≠ c.vrchatState := by
      intro he
      exact hc ⟨hv, he, hpd⟩
    exact (MuteState.ne_iff_eq_inverse hd hv).mp hne

theorem answered_syncVrchat (env : Env) (c : Coordinator) : Answered (syncVrchat env c).1 := by
  rw [syncVrchat_eq]
  split_ifs with hc
  · intro _ _ _ hpv
    cases hpv
  · intro hv hd _ hpv
    have hne : c.vrchatState ≠ c.discordState := by
      intro he
      exact hc ⟨hd, he, hpv⟩
    exact MuteState.eq_inverse_comm.mp ((MuteState.ne_iff_eq_inverse hv hd).mp hne)

/-- A startup authority that names a side answers a conflict. -/
theorem Slots.answered_syncByAuthority {c : Coordinator} (h : Slots c) (env : Env)
    (hauth : c.effectiveAuthority ≠ .none) : Answered (syncByAuthority env c).1 := by
  unfold syncByAuthority
  split
  · exact h.answered_syncDiscord env
  · exact answered_syncVrchat env c
  · next hnone => exact absurd hnone hauth

theorem Slots.answered_tryInitialSync {c : Coordinator} (h : Slots c) (env : Env)
    (hdone : c.initialSyncDone = false) (hauth : c.effectiveAuthority ≠ .none) :
    Answered (tryInitialSync env c).1 := by
  by_cases hun : c.vrchatState = .unknown ∨ c.discordState = .unknown
  · rw [tryInitialSync_of_unknown env hdone hun]
    intro hv hd
    exact absurd hun (not_or.mpr ⟨hv, hd⟩)
  · obtain ⟨hv, hd⟩ := not_or.mp hun
    rw [tryInitialSync_of_known env hdone hv hd]
    have hstart : Slots c.startSync := h.of_eq rfl
    exact (hstart.answered_syncByAuthority env hauth).of_eq rfl

theorem Slots.answered_resyncFromVrchat {c : Coordinator} (h : Slots c) (env : Env) :
    Answered (resyncFromVrchat env c).1 := by
  unfold resyncFromVrchat
  split_ifs with hv
  · intro hk
    exact absurd hv hk
  · exact (h.answered_syncDiscord env).of_eq rfl

/-! ### The bidirectional link -/

/-- The settings under which the link keeps the two sides inverse, and that it does. -/
structure Linked (c : Coordinator) : Prop extends Inv c where
  mode : c.linkMode = .inverseBidirectional
  policy : c.resumePolicy = .syncFromVrchat
  authority : c.startupAuthority ≠ .none
  /-- An active link has answered every conflict. -/
  answered : c.linkState = .active → Answered c

theorem effectiveAuthority_ne {c : Coordinator} (hmode : c.linkMode = .inverseBidirectional)
    (hauth : c.startupAuthority ≠ .none) : c.effectiveAuthority ≠ .none := by
  unfold effectiveAuthority
  rw [if_neg (by rw [hmode]; decide)]
  exact hauth

/-- What a turn does to an active link's conflicts. -/
theorem Linked.answered_step {c : Coordinator} (h : Linked c) (env : Env) {i : Input}
    (hactive : (c.step env i).1.linkState = .active) : Answered (c.step env i).1 := by
  cases i with
  | event ev =>
    cases ev with
    | vrChatMuteSelf state =>
      have hobs : Slots (c.observeVrchat state) := h.take_vrchat rfl rfl rfl rfl
      revert hactive
      show (handleVrchatMuteSelf env c state).1.linkState = _ →
        Answered (handleVrchatMuteSelf env c state).1
      rw [handleVrchatMuteSelf_eq]
      split_ifs with hdone hlink
      · intro _
        exact hobs.answered_tryInitialSync env (by simpa using hdone)
          (effectiveAuthority_ne h.mode h.authority)
      · exact fun hactive => absurd hactive hlink
      · intro _
        exact hobs.answered_syncDiscord env
    | discordVoiceSettingsUpdate mute =>
      have hobs : Slots (c.observeDiscord mute) := h.take_discord rfl rfl rfl fun _ => rfl
      revert hactive
      show (handleDiscordVoiceSettingsUpdate env c mute).1.linkState = _ →
        Answered (handleDiscordVoiceSettingsUpdate env c mute).1
      rw [handleDiscordVoiceSettingsUpdate_eq]
      split_ifs with hdone hlink hmode
      · intro _
        exact hobs.answered_tryInitialSync env (by simpa using hdone)
          (effectiveAuthority_ne h.mode h.authority)
      · exact fun hactive => absurd hactive hlink
      · rw [h.mode] at hmode
        cases hmode
      · intro _
        exact answered_syncVrchat env _
    | vrChatAvatarChanged => exact fun hv => absurd rfl hv
    | discordConnectionChanged cs =>
      simp only [step, handleEvent, handleDiscordConnectionChanged] at hactive ⊢
      split_ifs at hactive ⊢
      · exact fun _ hd => absurd rfl hd
      · exact h.answered hactive
    | discordCommandAck nonce result =>
      simp only [step, handleEvent, handleDiscordCommandAck] at hactive ⊢
      split_ifs at hactive ⊢
      · cases result with
        | error m => cases hactive
        | ok _ => exact h.answered hactive
      · exact h.answered hactive
    | vrChatConnectionChanged _ | discordVoiceChannelStatus _ | discordVoiceStateUnavailable _ =>
      exact (h.answered hactive).of_eq rfl
  | command cmd =>
    cases cmd with
    | setLinkMode mode => exact (h.answered hactive).of_eq rfl
    | setPaused paused =>
      cases paused with
      | true => cases hactive
      | false =>
        simp only [step, handleCommand, resume, h.policy]
        refine Slots.answered_resyncFromVrchat ?_ env
        exact h.of_eq rfl
    | manualResync => exact h.toSlots.clear.answered_resyncFromVrchat env
    | shutdown => exact h.answered hactive
  | timeout =>
    simp only [step, handlePendingTimeout, expireDiscord, expireVrchat] at hactive ⊢
    split_ifs at hactive ⊢
    · exact fun hv => absurd rfl hv
    · exact fun hv => absurd rfl hv
    · exact fun _ hd => absurd rfl hd
    · exact h.answered hactive

/-- **One turn** keeps the link, unless it leaves the bidirectional mode. -/
theorem Linked.after_step {c : Coordinator} (h : Linked c) (env : Env) {i : Input}
    (hi : i ≠ .command (.setLinkMode .vrchatMaster)) : Linked (c.step env i).1 := by
  have hset : (c.step env i).1.settings = c.settings := settings_step env c fun mode hm => by
    cases mode with
    | inverseBidirectional => exact h.mode.symm
    | vrchatMaster => exact absurd hm hi
  simp only [settings, Prod.mk.injEq] at hset
  obtain ⟨hmode, hpolicy, hauth⟩ := hset
  refine ⟨h.toInv.after_step env i, hmode.trans h.mode, hpolicy.trans h.policy, ?_,
    h.answered_step env⟩
  rw [hauth]
  exact h.authority

theorem linked_new {cfg : CoordinatorConfig} (hmode : cfg.linkMode = .inverseBidirectional)
    (hpolicy : cfg.resumePolicy = .syncFromVrchat) (hauth : cfg.startupAuthority ≠ .none) :
    Linked (new cfg) :=
  ⟨inv_new cfg, hmode, hpolicy, hauth, fun _ hv => absurd rfl hv⟩

end Coordinator

/-- **Settled implies inverse.** Start the coordinator in the bidirectional mode, resuming from
VRChat and with a startup authority that names a side, and take any run that does not leave that
mode: in every state it reaches where the link is active, both states are known and no command is in
flight, Discord is the inverse of VRChat. -/
theorem settled_inverse {cfg : CoordinatorConfig} (hmode : cfg.linkMode = .inverseBidirectional)
    (hpolicy : cfg.resumePolicy = .syncFromVrchat) (hauth : cfg.startupAuthority ≠ .none)
    {ts : List Turn}
    (hts : ∀ t ∈ ts, t.2 ≠ .command (.setLinkMode .vrchatMaster)) {c : Coordinator}
    (hc : c = coordinator.run (.new cfg) ts) (hactive : c.linkState = .active)
    (hv : c.vrchatState ≠ .unknown) (hd : c.discordState ≠ .unknown)
    (hpd : c.pendingDiscord = none) (hpv : c.pendingVrchat = none) :
    c.discordState = c.vrchatState.inverse := by
  have hlinked : c.Linked := by
    subst hc
    have halong := coordinator.along_of_forall (.new cfg) hts
    exact halong.inv (fun _ t hs hp => hs.after_step t.1 hp)
      (Coordinator.linked_new hmode hpolicy hauth)
  exact hlinked.answered hactive hv hd hpd hpv

/-- VRChat was seen muted, then Discord unmuted. -/
theorem settled_inverse_start :
    let c := coordinator.run (.new .default)
      [(⟨0, 0, 1⟩, .event (.vrChatMuteSelf .muted)),
        (⟨0, 0, 2⟩, .event (.discordVoiceSettingsUpdate .unmuted))]
    c.discordState = c.vrchatState.inverse := by
  intro c
  exact settled_inverse rfl rfl (by decide) (by simp)
    (rfl : c = coordinator.run (.new .default) _) rfl
    (by decide) (by decide) rfl rfl

end VoxShift.Core
