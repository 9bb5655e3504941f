import VoxShift.Core.Settled

/-!
# Observations against commands in flight

What an observation does while a command in the other direction is in flight, and
what a reconnect and a manual resync make of the two states.

## What is proved

* `last_observation_wins_iff` — an observation decides the state the other side
  ends up in exactly when no command is in flight there, or the one in flight
  already leads the right way. The handlers compare the target with the last
  observed state, not with the state the command in flight will bring about.
* `reconnect_resync_iff` — the first update after a lost connection is handled as
  a live one. It is a resync from VRChat only when there is nothing to do.
* `toggle_needs_observation` — between two toggles there is a known `MuteSelf`,
  unless a manual resync discards a toggle in flight: that is the one way of
  emptying the slot that does not forget the VRChat state.
-/

namespace VoxShift.Core

namespace Coordinator

/-! ### The last observation -/

/-- The VRChat state once the toggle in flight, if any, has landed. -/
def vrchatAfter (c : Coordinator) : MuteState :=
  (c.pendingVrchat.map (·.expected)).getD c.vrchatState

/-- The Discord state once the `SetMute` in flight, if any, has landed. -/
def discordAfter (c : Coordinator) : MuteState :=
  (c.pendingDiscord.map (·.target)).getD c.discordState

/-- Discord follows VRChat, counting the command in flight, where there was none or it was issued
for the same pair. -/
theorem Slots.discordAfter_syncDiscord {c : Coordinator} (h : Slots c) (env : Env)
    (hv : c.vrchatState ≠ .unknown) (hd : c.discordState ≠ .unknown) :
    (syncDiscord env c).1.discordAfter = c.vrchatState.inverse ↔
      c.pendingDiscord = none ∨ c.discordState = c.vrchatState := by
  rw [syncDiscord_eq h]
  cases hp : c.pendingDiscord with
  | none =>
    by_cases he : c.discordState = c.vrchatState
    · rw [if_pos ⟨hv, he, rfl⟩]
      simp [discordAfter, issueSetMute]
    · rw [if_neg (by simp [he])]
      simp [discordAfter, hp, (MuteState.ne_iff_eq_inverse hd hv).mp he]
  | some p =>
    rw [if_neg (by simp)]
    simp [discordAfter, hp, (h.discord p hp).2]

theorem Slots.vrchatAfter_syncVrchat {c : Coordinator} (h : Slots c) (env : Env)
    (hv : c.vrchatState ≠ .unknown) (hd : c.discordState ≠ .unknown) :
    (syncVrchat env c).1.vrchatAfter = c.discordState.inverse ↔
      c.pendingVrchat = none ∨ c.vrchatState = c.discordState := by
  rw [syncVrchat_eq]
  cases hp : c.pendingVrchat with
  | none =>
    by_cases he : c.vrchatState = c.discordState
    · rw [if_pos ⟨hd, he, rfl⟩]
      simp [vrchatAfter, issueToggle]
    · rw [if_neg (by simp [he])]
      simp [vrchatAfter, hp, (MuteState.ne_iff_eq_inverse hv hd).mp he]
  | some p =>
    rw [if_neg (by simp)]
    simp [vrchatAfter, hp, (h.vrchat p hp).2.2]

end Coordinator

/-- **The last observation wins, exactly when.** In an active state between turns, after the initial
sync: a known `MuteSelf`, with Discord known, decides where Discord ends up, in either link mode,
exactly when no `SetMute` is in flight or Discord was last seen in the observed state; and in the
bidirectional mode a known Discord update, with VRChat known, decides where VRChat ends up exactly
when no toggle is in flight or VRChat was last seen in the observed state. -/
theorem last_observation_wins_iff {c : Coordinator} (h : Reachable c)
    (hactive : c.linkState = .active)
    (hdone : c.initialSyncDone = true) (env : Env) :
    (∀ state, state ≠ .unknown → c.discordState ≠ .unknown →
      ((c.step env (.event (.vrChatMuteSelf state))).1.discordAfter = state.inverse ↔
        c.pendingDiscord = none ∨ c.discordState = state)) ∧
    (c.linkMode = .inverseBidirectional → ∀ mute, mute ≠ .unknown → c.vrchatState ≠ .unknown →
      ((c.step env (.event (.discordVoiceSettingsUpdate mute))).1.vrchatAfter = mute.inverse ↔
        c.pendingVrchat = none ∨ c.vrchatState = mute)) := by
  have hslots := h.inv.toSlots
  constructor
  · intro state hs hd
    have hobs : (c.observeVrchat state).Slots := hslots.take_vrchat rfl rfl rfl rfl
    rw [step_muteSelf_of_active hdone hactive]
    exact hobs.discordAfter_syncDiscord env hs hd
  · intro hmode mute hm hv
    have hobs : (c.observeDiscord mute).Slots := hslots.take_discord rfl rfl rfl fun _ => rfl
    rw [step_update_of_active hdone hactive hmode]
    exact hobs.vrchatAfter_syncVrchat env hv hm

/-- Both sides are seen muted, and Discord is told to unmute; VRChat is unmuted before the answer
comes, and the command in flight still leads to an unmuted Discord. -/
theorem older_command_undoes_observation :
    let c := coordinator.run (.new .default)
      [(⟨0, 0, 1⟩, .event (.discordVoiceSettingsUpdate .muted)),
        (⟨0, 0, 2⟩, .event (.vrChatMuteSelf .muted))]
    Reachable c ∧ c.linkState = .active ∧ c.initialSyncDone = true ∧ c.discordState ≠ .unknown ∧
      (c.step ⟨0, 0, 3⟩ (.event (.vrChatMuteSelf .unmuted))).1.discordAfter = .unmuted ∧
      (c.step ⟨0, 0, 3⟩ (.event (.vrChatMuteSelf .unmuted))).1.discordAfter ≠
        MuteState.unmuted.inverse :=
  ⟨reachable_run _ _, rfl, rfl, by decide, rfl, by decide⟩

/-- In the same state a repeated `MuteSelf` does decide where Discord ends up. -/
theorem last_observation_wins_iff_repeated :
    let c := coordinator.run (.new .default)
      [(⟨0, 0, 1⟩, .event (.discordVoiceSettingsUpdate .muted)),
        (⟨0, 0, 2⟩, .event (.vrChatMuteSelf .muted))]
    (c.step ⟨0, 0, 3⟩ (.event (.vrChatMuteSelf .muted))).1.discordAfter =
      MuteState.muted.inverse := by
  intro c
  exact ((last_observation_wins_iff (reachable_run _ _) rfl rfl _).1 .muted (by decide)
    (by decide)).mpr (.inr rfl)

/-! ### The update after a reconnect -/

/-- The turn is not an observation of Discord. -/
def NotUpdate (t : Turn) : Prop := ∀ mute, t.2 ≠ .event (.discordVoiceSettingsUpdate mute)

namespace Coordinator

theorem discordState_unknown_step (c : Coordinator) (t : Turn) (hd : c.discordState = .unknown)
    (ht : NotUpdate t) : (coordinator.next c t).discordState = .unknown := by
  obtain ⟨env, i⟩ := t
  show (c.step env i).1.discordState = .unknown
  by_cases hi : i.Drives
  · rcases hi.cases with ⟨state, rfl⟩ | ⟨mute, rfl⟩ | rfl | rfl
    · show (handleVrchatMuteSelf env c state).1.discordState = _
      rw [handleVrchatMuteSelf_eq]
      split_ifs with hdone
      · have hun : (c.observeVrchat state).vrchatState = .unknown ∨
            (c.observeVrchat state).discordState = .unknown := .inr hd
        rw [tryInitialSync_of_unknown env (by simpa using hdone) hun]
        exact hd
      · exact hd
      · exact (kept_syncDiscord env (c.observeVrchat state)).discordState.trans hd
    · exact absurd rfl (ht mute)
    · exact (kept_resume env c).discordState.trans hd
    · exact (kept_manualResync env c).discordState.trans hd
  · exact (forgets_step env c hi).discordState.elim (·.trans hd) id

end Coordinator

/-- **The update after a reconnect.** A run gets to a state `c` where the initial sync is done and
the link is active; on the way `DiscordConnectionChanged(cs)`, with `cs` not `Connected`, was
handled and no Discord update after it. Then Discord is unknown in `c`, and of the next update it is
true that it issues no toggle, and issues a `SetMute` to the inverse of the VRChat state exactly
when it reports the VRChat state, if and only if it does not report the VRChat state. -/
theorem reconnect_resync_iff {cfg : CoordinatorConfig} {pre mid : List Turn} {env₀ : Env}
    {cs : ConnectionState} (hcs : cs ≠ .connected) (hmid : ∀ t ∈ mid, NotUpdate t) {c : Coordinator}
    (hc : c = coordinator.run (.new cfg)
      (pre ++ (env₀, .event (.discordConnectionChanged cs)) :: mid))
    (hdone : c.initialSyncDone = true) (hactive : c.linkState = .active) (mute : MuteState)
    (env : Env) :
    c.discordState = .unknown ∧
    (((∀ cmd ∈ (c.step env (.event (.discordVoiceSettingsUpdate mute))).2, ¬ cmd.IsToggle) ∧
        ((∃ nonce, .discord (.setMute c.vrchatState.inverse nonce) ∈
          (c.step env (.event (.discordVoiceSettingsUpdate mute))).2) ↔ mute = c.vrchatState)) ↔
      mute ≠ c.vrchatState) := by
  constructor
  · have hlost : (coordinator.next (coordinator.run (.new cfg) pre)
        (env₀, .event (.discordConnectionChanged cs))).discordState = .unknown := by
      show (Coordinator.handleDiscordConnectionChanged _ cs).discordState = _
      rw [Coordinator.handleDiscordConnectionChanged, if_pos hcs]
      rfl
    have hlast := Theory.Machine.Along.inv Coordinator.discordState_unknown_step
      (coordinator.along_of_forall _ hmid) hlost
    rw [hc, coordinator.run_append, Theory.Machine.run_cons]
    exact hlast
  · have hnoset : ∀ nonce, .discord (.setMute c.vrchatState.inverse nonce) ∉
        (c.step env (.event (.discordVoiceSettingsUpdate mute))).2 := by
      intro nonce
      cases hmode : c.linkMode with
      | vrchatMaster =>
        rw [step_update_of_master hdone hactive hmode]
        simp
      | inverseBidirectional =>
        rw [step_update_of_active hdone hactive hmode, Coordinator.syncVrchat_eq]
        split_ifs <;> simp
    constructor
    · rintro ⟨-, hiff⟩ he
      obtain ⟨nonce, hmem⟩ := hiff.mpr he
      exact hnoset nonce hmem
    · intro hne
      have hiff : (∃ nonce, .discord (.setMute c.vrchatState.inverse nonce) ∈
          (c.step env (.event (.discordVoiceSettingsUpdate mute))).2) ↔ mute = c.vrchatState := by
        constructor
        · rintro ⟨nonce, hmem⟩
          exact absurd hmem (hnoset nonce)
        · intro he
          exact absurd he hne
      refine ⟨?_, hiff⟩
      cases hmode : c.linkMode with
      | vrchatMaster =>
        rw [step_update_of_master hdone hactive hmode]
        simp
      | inverseBidirectional =>
        rw [step_update_of_active hdone hactive hmode, Coordinator.syncVrchat_eq,
          if_neg (fun h => hne h.2.1.symm)]
        simp

/-- VRChat is muted and Discord unmuted; Discord is lost, and comes back muted. The update is
answered with a toggle of the microphone, and Discord is left alone. -/
theorem reconnect_toggles_vrchat :
    let c := coordinator.run (.new .default)
      [(⟨0, 0, 1⟩, .event (.vrChatMuteSelf .muted)),
        (⟨0, 0, 2⟩, .event (.discordVoiceSettingsUpdate .unmuted)),
        (⟨0, 0, 3⟩, .event (.discordConnectionChanged .disconnected)),
        (⟨0, 0, 4⟩, .event (.discordConnectionChanged .connected))]
    c.initialSyncDone = true ∧ c.linkState = .active ∧ c.vrchatState = .muted ∧
      c.discordState = .unknown ∧
      (c.step ⟨0, 0, 5⟩ (.event (.discordVoiceSettingsUpdate .muted))).2 =
        [.vrchat (.toggleVoice .unmuted)] :=
  ⟨rfl, rfl, rfl, rfl, rfl⟩

/-- Had Discord come back unmuted, there would have been nothing to do. -/
theorem reconnect_resync_iff_inverse :
    let c := coordinator.run (.new .default)
      [(⟨0, 0, 1⟩, .event (.vrChatMuteSelf .muted)),
        (⟨0, 0, 2⟩, .event (.discordVoiceSettingsUpdate .unmuted)),
        (⟨0, 0, 3⟩, .event (.discordConnectionChanged .disconnected)),
        (⟨0, 0, 4⟩, .event (.discordConnectionChanged .connected))]
    ∀ cmd ∈ (c.step ⟨0, 0, 5⟩ (.event (.discordVoiceSettingsUpdate .unmuted))).2,
      ¬ cmd.IsToggle := by
  intro c
  have hc : c = coordinator.run (.new .default)
      ([(⟨0, 0, 1⟩, .event (.vrChatMuteSelf .muted)),
        (⟨0, 0, 2⟩, .event (.discordVoiceSettingsUpdate .unmuted))] ++
        (⟨0, 0, 3⟩, .event (.discordConnectionChanged .disconnected)) ::
          [(⟨0, 0, 4⟩, .event (.discordConnectionChanged .connected))]) := rfl
  have hmid : ∀ t ∈ [((⟨0, 0, 4⟩ : Env), Input.event (.discordConnectionChanged .connected))],
      NotUpdate t := by
    intro t ht mute hm
    rw [List.mem_singleton.mp ht] at hm
    cases hm
  exact ((reconnect_resync_iff (by decide) hmid hc rfl rfl .unmuted ⟨0, 0, 5⟩).2.mpr (by decide)).1

/-! ### Between two toggles -/

/-- The turn issues a toggle. -/
def Toggles (c : Coordinator) (t : Turn) : Prop := ∃ cmd ∈ coordinator.out c t, cmd.IsToggle

instance (c : Coordinator) (t : Turn) : Decidable (Toggles c t) :=
  inferInstanceAs (Decidable (∃ cmd ∈ coordinator.out c t, cmd.IsToggle))

/-- The turn is an observation of VRChat in a known state. -/
def KnownMuteSelf (t : Turn) : Prop :=
  ∃ state, state ≠ .unknown ∧ t.2 = .event (.vrChatMuteSelf state)

/-- The turn is no manual resync that finds a toggle in flight. -/
def KeepsToggle (c : Coordinator) (t : Turn) : Prop :=
  t.2 = .command .manualResync → c.pendingVrchat = none

namespace Coordinator

/-- What a toggle leaves behind until VRChat is seen again: it is in flight, or the VRChat state is
forgotten. -/
structure Spent (c : Coordinator) : Prop where
  done : c.initialSyncDone = true
  slot : c.pendingVrchat.isSome ∨ c.vrchatState = .unknown

theorem isSome_of_syncVrchat {env : Env} {c : Coordinator} (h : (syncVrchat env c).2 ≠ []) :
    (syncVrchat env c).1.pendingVrchat.isSome := by
  rw [syncVrchat_eq] at h ⊢
  split_ifs at h ⊢
  · rfl
  · exact absurd rfl h

theorem Spent.syncVrchat {c : Coordinator} (h : Spent c) (env : Env) :
    Coordinator.syncVrchat env c = (c, []) := by
  rw [syncVrchat_eq, if_neg]
  rintro ⟨hd, hv, hp⟩
  rcases h.slot with hs | hs
  · simp [hp] at hs
  · exact hd (hv.symm.trans hs)

/-- The initial sync leaves a toggle it issues in flight. -/
theorem spent_tryInitialSync {env : Env} {c : Coordinator} (hdone : c.initialSyncDone = false)
    (h : ∃ cmd ∈ (tryInitialSync env c).2, cmd.IsToggle) : Spent (tryInitialSync env c).1 := by
  obtain ⟨cmd, hmem, htog⟩ := h
  by_cases hun : c.vrchatState = .unknown ∨ c.discordState = .unknown
  · rw [tryInitialSync_of_unknown env hdone hun] at hmem
    cases hmem
  · obtain ⟨hv, hd⟩ := not_or.mp hun
    rw [tryInitialSync_of_known env hdone hv hd] at hmem ⊢
    refine ⟨((kept_syncByAuthority env c.startSync).stamp env).initialSyncDone, .inl ?_⟩
    show (syncByAuthority env c.startSync).1.pendingVrchat.isSome
    unfold syncByAuthority at hmem ⊢
    split at hmem
    · exact absurd htog (not_isToggle_syncDiscord env _ cmd hmem)
    · exact isSome_of_syncVrchat (List.ne_nil_of_mem hmem)
    · cases hmem

/-- A turn that issues a toggle leaves it in flight, the initial sync done. -/
theorem spent_of_toggles {c : Coordinator} {t : Turn} (h : Toggles c t) :
    Spent (coordinator.next c t) := by
  obtain ⟨env, i⟩ := t
  obtain ⟨cmd, hmem, htog⟩ := h
  by_cases hi : i.Drives
  · rcases hi.cases with ⟨state, rfl⟩ | ⟨mute, rfl⟩ | rfl | rfl
    · change cmd ∈ (handleVrchatMuteSelf env c state).2 at hmem
      show Spent (handleVrchatMuteSelf env c state).1
      rw [handleVrchatMuteSelf_eq] at hmem ⊢
      split_ifs at hmem ⊢ with hdone
      · exact spent_tryInitialSync (by simpa using hdone) ⟨cmd, hmem, htog⟩
      · cases hmem
      · exact absurd htog (not_isToggle_syncDiscord env _ cmd hmem)
    · change cmd ∈ (handleDiscordVoiceSettingsUpdate env c mute).2 at hmem
      show Spent (handleDiscordVoiceSettingsUpdate env c mute).1
      rw [handleDiscordVoiceSettingsUpdate_eq] at hmem ⊢
      split_ifs at hmem ⊢ with hdone
      · exact spent_tryInitialSync (by simpa using hdone) ⟨cmd, hmem, htog⟩
      · cases hmem
      · cases hmem
      · refine ⟨?_, .inl (isSome_of_syncVrchat (List.ne_nil_of_mem hmem))⟩
        rw [(kept_syncVrchat env (c.observeDiscord mute)).initialSyncDone]
        simpa using hdone
    · exact absurd htog (not_isToggle_resume env c cmd hmem)
    · exact absurd htog (not_isToggle_resyncFromVrchat env _ cmd hmem)
  · rw [coordinator_out, silent_of_not_drives env c hi] at hmem
    cases hmem

/-- With a toggle spent, no turn issues another. -/
theorem Spent.not_toggles {c : Coordinator} (h : Spent c) (t : Turn) : ¬ Toggles c t := by
  obtain ⟨env, i⟩ := t
  rintro ⟨cmd, hmem, htog⟩
  by_cases hi : i.Drives
  · rcases hi.cases with ⟨state, rfl⟩ | ⟨mute, rfl⟩ | rfl | rfl
    · rw [coordinator_out, step_muteSelf_of_done h.done] at hmem
      split_ifs at hmem
      · cases hmem
      · exact not_isToggle_syncDiscord env _ cmd hmem htog
    · have hobs : Spent (c.observeDiscord mute) := ⟨h.done, h.slot⟩
      rw [coordinator_out, step_update_of_done h.done, hobs.syncVrchat] at hmem
      split_ifs at hmem <;> cases hmem
    · exact not_isToggle_resume env c cmd hmem htog
    · exact not_isToggle_resyncFromVrchat env _ cmd hmem htog
  · rw [coordinator_out, silent_of_not_drives env c hi] at hmem
    cases hmem

theorem Spent.after_resyncFromVrchat {c : Coordinator} (h : Spent c) (env : Env) :
    Spent (resyncFromVrchat env c).1 := by
  have hkept := kept_resyncFromVrchat env c
  refine ⟨hkept.initialSyncDone.trans h.done, ?_⟩
  rw [resyncFromVrchat_pendingVrchat, hkept.vrchatState]
  exact h.slot

/-- A spent toggle stays spent until VRChat is seen again or a manual resync discards it. -/
theorem Spent.after_step {c : Coordinator} (h : Spent c) {t : Turn} (hkeep : KeepsToggle c t)
    (hobs : ¬ KnownMuteSelf t) : Spent (coordinator.next c t) := by
  obtain ⟨env, i⟩ := t
  by_cases hi : i.Drives
  · rcases hi.cases with ⟨state, rfl⟩ | ⟨mute, rfl⟩ | rfl | rfl
    · have hun : state = .unknown := by
        by_contra hk
        exact hobs ⟨state, hk, rfl⟩
      rw [coordinator_next, step_muteSelf_of_done h.done]
      split_ifs
      · exact ⟨h.done, .inr hun⟩
      · have hkept := kept_syncDiscord env (c.observeVrchat state)
        exact ⟨hkept.initialSyncDone.trans h.done, .inr (hkept.vrchatState.trans hun)⟩
    · have hseen : Spent (c.observeDiscord mute) := ⟨h.done, h.slot⟩
      rw [coordinator_next, step_update_of_done h.done, hseen.syncVrchat]
      split_ifs <;> exact hseen
    · have hkept := kept_resume env c
      refine ⟨hkept.initialSyncDone.trans h.done, ?_⟩
      show (resume env c).1.pendingVrchat.isSome ∨ (resume env c).1.vrchatState = .unknown
      rw [resume_pendingVrchat, hkept.vrchatState]
      exact h.slot
    · -- the slot the resync empties was empty, so VRChat is unknown
      have hun : c.vrchatState = .unknown := h.slot.resolve_left (by simp [hkeep rfl])
      have hcleared : Spent { c with pendingDiscord := none, pendingVrchat := none } :=
        ⟨h.done, .inr hun⟩
      exact hcleared.after_resyncFromVrchat env
  · have hforgets := forgets_step env c hi
    refine ⟨hforgets.initialSyncDone.trans h.done, ?_⟩
    rcases hforgets.vrchat with ⟨hslot, hstate⟩ | ⟨-, hun⟩
    · rw [coordinator_next, hslot, hstate]
      exact h.slot
    · exact .inr hun

end Coordinator

/-- **No blind second toggle.** Take any state and any run from it whose first and last turns issue
a toggle, no turn between them being a manual resync that finds a toggle in flight: one of the turns
between them is an observation of VRChat in a known state. -/
theorem toggle_needs_observation {c : Coordinator} {t₁ t₂ : Turn} {mid : List Turn}
    (h₁ : Toggles c t₁)
    (hmid : coordinator.Along KeepsToggle (coordinator.next c t₁) mid)
    (h₂ : Toggles (coordinator.run (coordinator.next c t₁) mid) t₂) :
    ∃ t ∈ mid, KnownMuteSelf t := by
  by_contra hnone
  have hblind : ∀ t ∈ mid, ¬ KnownMuteSelf t := fun t ht hk => hnone ⟨t, ht, hk⟩
  have halong : coordinator.Along (fun c t => KeepsToggle c t ∧ ¬ KnownMuteSelf t)
      (coordinator.next c t₁) mid := hmid.and (coordinator.along_of_forall _ hblind)
  have hkept : ∀ c t, c.Spent → KeepsToggle c t ∧ ¬ KnownMuteSelf t →
      (coordinator.next c t).Spent :=
    fun _ _ hs hp => hs.after_step hp.1 hp.2
  have hlast := halong.inv hkept (Coordinator.spent_of_toggles h₁)
  exact hlast.not_toggles t₂ h₂

/-- What the condition leaves out: an active link, after the initial sync and in the bidirectional
mode, with a toggle in flight. A manual resync discards the toggle, and if Discord is then seen in
the state VRChat was last seen in, VRChat is toggled again. -/
theorem resync_allows_second_toggle {c : Coordinator} (h : Reachable c)
    (hdone : c.initialSyncDone = true)
    (hactive : c.linkState = .active) (hmode : c.linkMode = .inverseBidirectional)
    (hpv : c.pendingVrchat.isSome) (env env' : Env) :
    Toggles (coordinator.next c (env, .command .manualResync))
      (env', .event (.discordVoiceSettingsUpdate c.vrchatState)) := by
  obtain ⟨p, hp⟩ := Option.isSome_iff_exists.mp hpv
  obtain ⟨hv, -, -⟩ := h.inv.vrchat p hp
  have hkept := Coordinator.kept_manualResync env c
  have hslot : (Coordinator.manualResync env c).1.pendingVrchat = none :=
    Coordinator.resyncFromVrchat_pendingVrchat env _
  refine ⟨.vrchat (.toggleVoice c.vrchatState.inverse), ?_, trivial⟩
  show _ ∈ ((Coordinator.manualResync env c).1.step env'
    (.event (.discordVoiceSettingsUpdate c.vrchatState))).2
  rw [step_update_of_active (hkept.initialSyncDone.trans hdone) (hkept.linkState.trans hactive)
    (hkept.linkMode.trans hmode), Coordinator.syncVrchat_eq, if_pos ⟨hv, hkept.vrchatState, hslot⟩]
  exact List.mem_singleton_self _

/-- VRChat was seen unmuted, then Discord muted. -/
def settledUnmuted : Coordinator := coordinator.run (.new .default)
  [(⟨0, 0, 1⟩, .event (.vrChatMuteSelf .unmuted)),
    (⟨0, 0, 2⟩, .event (.discordVoiceSettingsUpdate .muted))]

/-- Discord is unmuted, and VRChat toggled; a manual resync discards the toggle, and Discord is seen
unmuted once more: VRChat is toggled again, unseen in between. -/
theorem resync_toggles_twice :
    let ts : List Turn :=
      [(⟨0, 0, 3⟩, .event (.discordVoiceSettingsUpdate .unmuted)),
        (⟨0, 0, 4⟩, .command .manualResync),
        (⟨0, 0, 5⟩, .event (.discordVoiceSettingsUpdate .unmuted))]
    Reachable settledUnmuted ∧
      coordinator.outs settledUnmuted ts =
        [.vrchat (.toggleVoice .muted), .discord (.setMute .muted 4),
          .vrchat (.toggleVoice .muted)] ∧
      ∀ t ∈ ts, ¬ KnownMuteSelf t := by
  refine ⟨reachable_run _ _, by decide +kernel, ?_⟩
  rintro t ht ⟨state, -, hs⟩
  simp only [List.mem_cons, List.not_mem_nil, or_false] at ht
  obtain rfl | rfl | rfl := ht <;> cases hs

/-- Where VRChat answers the first toggle before Discord is muted again, it is seen in between. -/
theorem toggle_needs_observation_confirmed :
    ∃ t ∈ ([(⟨0, 0, 4⟩, .event (.vrChatMuteSelf .muted))] : List Turn), KnownMuteSelf t := by
  have hfirst : Toggles settledUnmuted
      (⟨0, 0, 3⟩, .event (.discordVoiceSettingsUpdate .unmuted)) := by
    decide +kernel
  have hsecond : Toggles
      (coordinator.run
        (coordinator.next settledUnmuted (⟨0, 0, 3⟩, .event (.discordVoiceSettingsUpdate .unmuted)))
        [(⟨0, 0, 4⟩, .event (.vrChatMuteSelf .muted))])
      (⟨0, 0, 6⟩, .event (.discordVoiceSettingsUpdate .muted)) := by
    decide +kernel
  exact toggle_needs_observation hfirst ⟨nofun, trivial⟩ hsecond

end VoxShift.Core
