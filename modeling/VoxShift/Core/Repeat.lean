import VoxShift.Core.Faulted
import VoxShift.Core.Snapshot

/-!
# Repeated observations

Both adapters deliver duplicates: Discord answers a command and then publishes
the change, and VRChat resends its parameters. A duplicate should change nothing.

Every observation empties the pending slot of its side. So a duplicate does harm
if the first copy has filled that slot, or has left a conflict that the second
one reacts to. Neither happens once the initial sync is done; the observation that
completes the initial sync can do both, since there the startup authority, and
not the side that was observed, decides who follows.

## What is proved

* `SeenVrchat.again`, `SeenDiscord.again` — handling an observation that is
  already recorded.
* `Linkage.absorbs_muteSelf_iff`, `Linkage.absorbs_update_iff` — the duplicate of
  the observation that completes the initial sync.
* `duplicate_absorbed_iff` — every other duplicate is absorbed.
-/

namespace VoxShift.Core

namespace Coordinator

/-- Handling `ev` a second time, right after the first, sends nothing more and ends in the same
state, up to sequence counters, nonces and timestamps. -/
def Absorbs (env₁ env₂ : Env) (c : Coordinator) (ev : CoordinatorEvent) : Prop :=
  let once := c.step env₁ (.event ev)
  let twice := once.1.step env₂ (.event ev)
  once.2 ++ twice.2 = once.2 ∧ twice.1.erase = once.1.erase

theorem absorbs_iff {env₁ env₂ : Env} {c : Coordinator} {ev : CoordinatorEvent}
    {once : Coordinator × List Command} (h : c.step env₁ (.event ev) = once) :
    Absorbs env₁ env₂ c ev ↔
      (once.1.step env₂ (.event ev)).2 = [] ∧
        (once.1.step env₂ (.event ev)).1.erase = once.1.erase := by
  subst h
  exact and_congr_left' List.append_right_eq_self

/-- The initial sync of a link that is not paused leaves it active. -/
theorem Linkage.startSync_active_iff {c o : Coordinator} (h : Linkage c)
    (hdone : c.initialSyncDone = false) (hlink : o.linkState = c.linkState) :
    o.startSync.linkState = .active ↔ c.linkState ≠ .paused := by
  have hf : c.linkState ≠ .faulted := fun hf => absurd (h.faulted hf) (by simp [hdone])
  show (if o.linkState = .waitingForState then LinkState.active else o.linkState) = .active ↔ _
  rw [hlink]
  cases hl : c.linkState with
  | faulted => exact absurd hl hf
  | active | paused | waitingForState => decide

/-! ### VRChat -/

/-- The coordinator has recorded that VRChat is in this state. -/
structure SeenVrchat (c : Coordinator) (state : MuteState) : Prop where
  vrchatState : c.vrchatState = state
  vrchatConnection : c.vrchatConnection = .connected
  pendingVrchat : c.pendingVrchat = none

/-- Discord need not be made to follow: `syncDiscord` does nothing. -/
def DiscordFollows (c : Coordinator) : Prop :=
  ¬ (c.vrchatState ≠ .unknown ∧ c.discordState = c.vrchatState ∧ c.pendingDiscord = none)

theorem SeenVrchat.syncDiscord {c : Coordinator} {state : MuteState} (h : SeenVrchat c state)
    (env : Env) : SeenVrchat (Coordinator.syncDiscord env c).1 state := by
  rw [syncDiscord_frame]
  exact ⟨h.vrchatState, h.vrchatConnection, h.pendingVrchat⟩

theorem Slots.discordFollows_syncDiscord {c : Coordinator} (h : Slots c) (env : Env) :
    DiscordFollows (syncDiscord env c).1 := by
  rw [syncDiscord_eq h]
  split_ifs with hc
  · rintro ⟨-, -, hp⟩
    cases hp
  · exact hc

theorem SeenVrchat.erase_observeVrchat {c : Coordinator} {state : MuteState}
    (h : SeenVrchat c state) (hpub : Published c) : (c.observeVrchat state).erase = c.erase := by
  obtain ⟨rfl, hcon, hp⟩ := h
  unfold Published at hpub
  unfold observeVrchat publishSnapshot erase
  simp only [snapshot, ← hcon, ← hp, hpub]

/-- An observation of VRChat that is already recorded, after the initial sync. -/
theorem SeenVrchat.again {c : Coordinator} {state : MuteState} (hseen : SeenVrchat c state)
    (hs : Slots c) (hdone : c.initialSyncDone = true)
    (hfollows : c.linkState = .active → DiscordFollows c) (env : Env) :
    c.step env (.event (.vrChatMuteSelf state)) = (c.observeVrchat state, []) := by
  rw [step_muteSelf_of_done hdone]
  split_ifs with hactive
  · rfl
  · have hobs : Slots (c.observeVrchat state) := hs.take_vrchat rfl rfl rfl rfl
    rw [syncDiscord_eq hobs, if_neg]
    rintro ⟨hv, hd, hp⟩
    refine hfollows (not_not.mp hactive) ⟨?_, ?_, hp⟩
    · rw [hseen.vrchatState]
      exact hv
    · rw [hseen.vrchatState]
      exact hd

/-- The first copy has recorded the observation and left nothing to react to: the second one is
absorbed. -/
theorem SeenVrchat.absorbs {env₁ : Env} {c : Coordinator} {state : MuteState}
    {once : Coordinator × List Command} (hstep : c.step env₁ (.event (.vrChatMuteSelf state)) =
      once)
    (hseen : SeenVrchat once.1 state) (hs : Slots once.1) (hpub : Published once.1)
    (hdone : once.1.initialSyncDone = true)
    (hfollows : once.1.linkState = .active → DiscordFollows once.1) (env₂ : Env) :
    Absorbs env₁ env₂ c (.vrChatMuteSelf state) := by
  rw [absorbs_iff hstep, hseen.again hs hdone hfollows]
  exact ⟨rfl, hseen.erase_observeVrchat hpub⟩

/-- After the initial sync, a repeated `MuteSelf` is absorbed. -/
theorem Inv.absorbs_muteSelf_of_done {c : Coordinator} (h : Inv c)
    (hdone : c.initialSyncDone = true) (env₁ env₂ : Env) (state : MuteState) :
    Absorbs env₁ env₂ c (.vrChatMuteSelf state) := by
  have hobs : Slots (c.observeVrchat state) := h.take_vrchat rfl rfl rfl rfl
  have hpub : Published (c.observeVrchat state) := published_publishSnapshot _
  have hseen : SeenVrchat (c.observeVrchat state) state := ⟨rfl, rfl, rfl⟩
  have hstep := step_muteSelf_of_done hdone env₁ state
  split_ifs at hstep with hactive
  · exact hseen.absorbs hstep hobs hpub hdone (fun ha => absurd ha hactive) env₂
  · have hkept := kept_syncDiscord env₁ (c.observeVrchat state)
    exact (hseen.syncDiscord env₁).absorbs hstep (hobs.sound_syncDiscord env₁).1
      (hpub.syncDiscord env₁) (hkept.initialSyncDone.trans hdone)
      (fun _ => hobs.discordFollows_syncDiscord env₁) env₂

theorem absorbs_muteSelf_of_not_startsSync {c : Coordinator} {state : MuteState}
    (hdone : c.initialSyncDone = false) (hs : ¬ StartsSync (c.observeVrchat state))
    (env₁ env₂ : Env) : Absorbs env₁ env₂ c (.vrChatMuteSelf state) := by
  have hskip : ∀ {c : Coordinator}, c.initialSyncDone = false →
      ¬ StartsSync (c.observeVrchat state) → ∀ env,
      c.step env (.event (.vrChatMuteSelf state)) = (c.observeVrchat state, []) := by
    intro c hdone hs env
    rw [step_muteSelf_of_not_done hdone, tryInitialSync_of_not_startsSync hs]
  rw [absorbs_iff (hskip hdone hs env₁), hskip (c := c.observeVrchat state) hdone hs env₂]
  exact ⟨rfl, SeenVrchat.erase_observeVrchat ⟨rfl, rfl, rfl⟩ (published_publishSnapshot _)⟩

/-- The `MuteSelf` that completes the initial sync: its duplicate is absorbed unless it conflicts
with Discord and the authority in force does not name VRChat. -/
theorem Linkage.absorbs_muteSelf_iff {c : Coordinator} (h : Linkage c) {state : MuteState}
    (hs : StartsSync (c.observeVrchat state)) (env₁ env₂ : Env) :
    Absorbs env₁ env₂ c (.vrChatMuteSelf state) ↔
      ¬ (c.discordState = state ∧ (c.effectiveAuthority = .discord ∨
        c.effectiveAuthority = .none ∧ c.linkState ≠ .paused)) := by
  have hdone : c.initialSyncDone = false := hs.1
  have hobs : Slots (c.observeVrchat state) := h.take_vrchat rfl rfl rfl rfl
  have hp : Slots (c.observeVrchat state).startSync := hobs.of_eq rfl
  have hseen : SeenVrchat (c.observeVrchat state).startSync state := ⟨rfl, rfl, rfl⟩
  have hactive := h.startSync_active_iff (o := c.observeVrchat state) hdone rfl
  have hstep := step_muteSelf_of_not_done hdone env₁ state
  rw [hs.tryInitialSync] at hstep
  have hquiet : c.step env₁ (.event (.vrChatMuteSelf state)) =
      (stampSync env₁ (c.observeVrchat state).startSync, []) →
      ((c.observeVrchat state).startSync.linkState = .active →
        DiscordFollows (c.observeVrchat state).startSync) →
      Absorbs env₁ env₂ c (.vrChatMuteSelf state) := fun hstep hfollows =>
    SeenVrchat.absorbs hstep ⟨rfl, rfl, rfl⟩ (hp.of_eq rfl) (published_stampSync _ _) rfl hfollows
      env₂
  cases ha : c.effectiveAuthority with
  | vrchat =>
    rw [syncByAuthority_of_vrchat (c := (c.observeVrchat state).startSync) ha] at hstep
    have hkept := (kept_syncDiscord env₁ (c.observeVrchat state).startSync).stamp env₁
    have hseen' := hseen.syncDiscord env₁
    refine iff_of_true ?_ (by simp)
    exact SeenVrchat.absorbs hstep ⟨hseen'.1, hseen'.2, hseen'.3⟩
      ((hp.sound_syncDiscord env₁).stamp env₁).1 (published_stampSync _ _) hkept.initialSyncDone
      (fun _ => hp.discordFollows_syncDiscord env₁) env₂
  | discord =>
    rw [syncByAuthority_of_discord (c := (c.observeVrchat state).startSync) ha, syncVrchat_eq]
      at hstep
    by_cases he : c.discordState = state
    · rw [if_pos ⟨hs.2.2, he.symm, rfl⟩] at hstep
      refine iff_of_false ?_ (by simp [he])
      rw [absorbs_iff hstep]
      rintro ⟨-, herase⟩
      have hslot := congrArg Coordinator.pendingVrchat herase
      simp only [erase] at hslot
      rw [pendingVrchat_muteSelf rfl] at hslot
      cases hslot
    · rw [if_neg fun hc => he hc.2.1.symm] at hstep
      exact iff_of_true (hquiet hstep fun _ hc => he hc.2.1) fun hc => he hc.1
  | none =>
    rw [syncByAuthority_of_none (c := (c.observeVrchat state).startSync) ha] at hstep
    by_cases he : c.discordState = state
    · by_cases hpaused : c.linkState = .paused
      · refine iff_of_true (hquiet hstep fun hl => ?_) (by simp [hpaused])
        exact absurd hpaused (hactive.mp hl)
      · refine iff_of_false ?_ (by simp [he, hpaused])
        rw [absorbs_iff hstep]
        rintro ⟨hout, -⟩
        have hagain : Slots ((stampSync env₁ (c.observeVrchat state).startSync).observeVrchat
            state) := hp.take_vrchat rfl rfl rfl rfl
        have htwice := step_muteSelf_of_active
          (c := stampSync env₁ (c.observeVrchat state).startSync) rfl
            (hactive.mpr hpaused) env₂ state
        rw [syncDiscord_eq hagain, if_pos ⟨hs.2.1, he, (h.idle hdone).1⟩] at htwice
        exact absurd ((congrArg Prod.snd htwice).symm.trans hout) (by simp)
    · exact iff_of_true (hquiet hstep fun _ hc => he hc.2.1) fun hc => he hc.1

/-! ### Discord -/

/-- The coordinator has recorded that Discord is in this state. -/
structure SeenDiscord (c : Coordinator) (mute : MuteState) : Prop where
  discordState : c.discordState = mute
  discordConnection : c.discordConnection = .connected
  pendingDiscord : c.pendingDiscord = none

/-- VRChat need not be made to follow: `syncVrchat` does nothing. -/
def VrchatFollows (c : Coordinator) : Prop :=
  ¬ (c.discordState ≠ .unknown ∧ c.vrchatState = c.discordState ∧ c.pendingVrchat = none)

theorem SeenDiscord.syncVrchat {c : Coordinator} {mute : MuteState} (h : SeenDiscord c mute)
    (env : Env) : SeenDiscord (Coordinator.syncVrchat env c).1 mute := by
  rw [syncVrchat_frame]
  exact ⟨h.discordState, h.discordConnection, h.pendingDiscord⟩

theorem vrchatFollows_syncVrchat (env : Env) (c : Coordinator) :
    VrchatFollows (syncVrchat env c).1 := by
  rw [syncVrchat_eq]
  split_ifs with hc
  · rintro ⟨-, -, hp⟩
    cases hp
  · exact hc

theorem SeenDiscord.erase_observeDiscord {c : Coordinator} {mute : MuteState}
    (h : SeenDiscord c mute) (hpub : Published c) : (c.observeDiscord mute).erase = c.erase := by
  obtain ⟨rfl, hcon, hp⟩ := h
  unfold Published at hpub
  unfold observeDiscord publishSnapshot erase
  simp only [snapshot, ← hcon, ← hp, hpub]

theorem SeenDiscord.again {c : Coordinator} {mute : MuteState} (hseen : SeenDiscord c mute)
    (hdone : c.initialSyncDone = true)
    (hfollows : c.linkState = .active → c.linkMode ≠ .vrchatMaster → VrchatFollows c) (env : Env) :
    c.step env (.event (.discordVoiceSettingsUpdate mute)) = (c.observeDiscord mute, []) := by
  rw [step_update_of_done hdone]
  split_ifs with hactive hmode
  · rfl
  · rfl
  · rw [syncVrchat_eq, if_neg]
    rintro ⟨hd, hv, hp⟩
    refine hfollows (not_not.mp hactive) hmode ⟨?_, ?_, hp⟩
    · rw [hseen.discordState]
      exact hd
    · rw [hseen.discordState]
      exact hv

theorem SeenDiscord.absorbs {env₁ : Env} {c : Coordinator} {mute : MuteState}
    {once : Coordinator × List Command}
    (hstep : c.step env₁ (.event (.discordVoiceSettingsUpdate mute)) = once)
    (hseen : SeenDiscord once.1 mute) (hpub : Published once.1)
    (hdone : once.1.initialSyncDone = true)
    (hfollows : once.1.linkState = .active → once.1.linkMode ≠ .vrchatMaster →
      VrchatFollows once.1)
    (env₂ : Env) : Absorbs env₁ env₂ c (.discordVoiceSettingsUpdate mute) := by
  rw [absorbs_iff hstep, hseen.again hdone hfollows]
  exact ⟨rfl, hseen.erase_observeDiscord hpub⟩

/-- After the initial sync, a repeated update is absorbed. -/
theorem absorbs_update_of_done {c : Coordinator} (hdone : c.initialSyncDone = true)
    (env₁ env₂ : Env) (mute : MuteState) :
    Absorbs env₁ env₂ c (.discordVoiceSettingsUpdate mute) := by
  have hpub : Published (c.observeDiscord mute) := published_publishSnapshot _
  have hseen : SeenDiscord (c.observeDiscord mute) mute := ⟨rfl, rfl, rfl⟩
  have hstep := step_update_of_done hdone env₁ mute
  split_ifs at hstep with hactive hmode
  · exact hseen.absorbs hstep hpub hdone (fun ha => absurd ha hactive) env₂
  · exact hseen.absorbs hstep hpub hdone (fun _ hm => absurd hmode hm) env₂
  · have hkept := kept_syncVrchat env₁ (c.observeDiscord mute)
    exact (hseen.syncVrchat env₁).absorbs hstep (hpub.syncVrchat env₁)
      (hkept.initialSyncDone.trans hdone) (fun _ _ => vrchatFollows_syncVrchat env₁ _) env₂

theorem absorbs_update_of_not_startsSync {c : Coordinator} {mute : MuteState}
    (hdone : c.initialSyncDone = false) (hs : ¬ StartsSync (c.observeDiscord mute))
    (env₁ env₂ : Env) : Absorbs env₁ env₂ c (.discordVoiceSettingsUpdate mute) := by
  have hskip : ∀ {c : Coordinator}, c.initialSyncDone = false →
      ¬ StartsSync (c.observeDiscord mute) → ∀ env,
      c.step env (.event (.discordVoiceSettingsUpdate mute)) = (c.observeDiscord mute, []) := by
    intro c hdone hs env
    rw [step_update_of_not_done hdone, tryInitialSync_of_not_startsSync hs]
  rw [absorbs_iff (hskip hdone hs env₁), hskip (c := c.observeDiscord mute) hdone hs env₂]
  exact ⟨rfl, SeenDiscord.erase_observeDiscord ⟨rfl, rfl, rfl⟩ (published_publishSnapshot _)⟩

theorem linkMode_of_authority_none {c : Coordinator} (h : c.effectiveAuthority = .none) :
    c.linkMode = .inverseBidirectional := by
  unfold effectiveAuthority at h
  cases hm : c.linkMode with
  | inverseBidirectional => rfl
  | vrchatMaster => simp [hm] at h

/-- The update that completes the initial sync: its duplicate is absorbed unless it conflicts with
VRChat and the authority in force does not name Discord. -/
theorem Linkage.absorbs_update_iff {c : Coordinator} (h : Linkage c) {mute : MuteState}
    (hs : StartsSync (c.observeDiscord mute)) (env₁ env₂ : Env) :
    Absorbs env₁ env₂ c (.discordVoiceSettingsUpdate mute) ↔
      ¬ (c.vrchatState = mute ∧ (c.effectiveAuthority = .vrchat ∨
        c.effectiveAuthority = .none ∧ c.linkState ≠ .paused)) := by
  have hdone : c.initialSyncDone = false := hs.1
  have hobs : Slots (c.observeDiscord mute) := h.take_discord rfl rfl rfl fun _ => rfl
  have hp : Slots (c.observeDiscord mute).startSync := hobs.of_eq rfl
  have hseen : SeenDiscord (c.observeDiscord mute).startSync mute := ⟨rfl, rfl, rfl⟩
  have hactive := h.startSync_active_iff (o := c.observeDiscord mute) hdone rfl
  have hstep := step_update_of_not_done hdone env₁ mute
  rw [hs.tryInitialSync] at hstep
  have hquiet : c.step env₁ (.event (.discordVoiceSettingsUpdate mute)) =
      (stampSync env₁ (c.observeDiscord mute).startSync, []) →
      ((c.observeDiscord mute).startSync.linkState = .active →
        VrchatFollows (c.observeDiscord mute).startSync) →
      Absorbs env₁ env₂ c (.discordVoiceSettingsUpdate mute) := fun hstep hfollows =>
    SeenDiscord.absorbs hstep ⟨rfl, rfl, rfl⟩ (published_stampSync _ _) rfl
      (fun hl _ => hfollows hl) env₂
  cases ha : c.effectiveAuthority with
  | vrchat =>
    rw [syncByAuthority_of_vrchat (c := (c.observeDiscord mute).startSync) ha, syncDiscord_eq hp]
      at hstep
    by_cases he : c.vrchatState = mute
    · rw [if_pos ⟨hs.2.1, he.symm, rfl⟩] at hstep
      refine iff_of_false ?_ (by simp [he])
      rw [absorbs_iff hstep]
      rintro ⟨-, herase⟩
      have hslot := congrArg Coordinator.pendingDiscord herase
      simp only [erase] at hslot
      rw [pendingDiscord_update rfl] at hslot
      cases hslot
    · rw [if_neg fun hc => he hc.2.1.symm] at hstep
      exact iff_of_true (hquiet hstep fun _ hc => he hc.2.1) fun hc => he hc.1
  | discord =>
    rw [syncByAuthority_of_discord (c := (c.observeDiscord mute).startSync) ha] at hstep
    have hkept := (kept_syncVrchat env₁ (c.observeDiscord mute).startSync).stamp env₁
    have hseen' := hseen.syncVrchat env₁
    refine iff_of_true ?_ (by simp)
    exact SeenDiscord.absorbs hstep ⟨hseen'.1, hseen'.2, hseen'.3⟩ (published_stampSync _ _)
      hkept.initialSyncDone (fun _ _ => vrchatFollows_syncVrchat env₁ _) env₂
  | none =>
    rw [syncByAuthority_of_none (c := (c.observeDiscord mute).startSync) ha] at hstep
    by_cases he : c.vrchatState = mute
    · by_cases hpaused : c.linkState = .paused
      · refine iff_of_true (hquiet hstep fun hl => ?_) (by simp [hpaused])
        exact absurd hpaused (hactive.mp hl)
      · refine iff_of_false ?_ (by simp [he, hpaused])
        rw [absorbs_iff hstep]
        rintro ⟨hout, -⟩
        have htwice := step_update_of_active
          (c := stampSync env₁ (c.observeDiscord mute).startSync) rfl (hactive.mpr hpaused)
          (linkMode_of_authority_none ha) env₂ mute
        rw [syncVrchat_eq, if_pos ⟨hs.2.2, he, (h.idle hdone).2⟩] at htwice
        exact absurd ((congrArg Prod.snd htwice).symm.trans hout) (by simp)
    · exact iff_of_true (hquiet hstep fun _ hc => he hc.2.1) fun hc => he hc.1

end Coordinator

/-- The event is an observation of a mute state. -/
def CoordinatorEvent.Observes : CoordinatorEvent → Prop
  | .vrChatMuteSelf _ | .discordVoiceSettingsUpdate _ => True
  | _ => False

/-- The observation is the one that makes both states known, the two conflict, and the authority in
force names the other side, or none on a link that is not paused. -/
def SyncsAgainst (c : Coordinator) : CoordinatorEvent → Prop
  | .vrChatMuteSelf state =>
    c.initialSyncDone = false ∧ state ≠ .unknown ∧ c.discordState = state ∧
      (c.effectiveAuthority = .discord ∨ c.effectiveAuthority = .none ∧ c.linkState ≠ .paused)
  | .discordVoiceSettingsUpdate mute =>
    c.initialSyncDone = false ∧ mute ≠ .unknown ∧ c.vrchatState = mute ∧
      (c.effectiveAuthority = .vrchat ∨ c.effectiveAuthority = .none ∧ c.linkState ≠ .paused)
  | _ => False

open Coordinator in
/-- **Which duplicates are absorbed.** In every reachable state, handling an observation twice in a
row sends what handling it once sends and ends in the same state, up to sequence counters, nonces
and timestamps, exactly when it is not the observation that completes the initial sync against its
own side. -/
theorem duplicate_absorbed_iff {c : Coordinator} (h : Reachable c) (env₁ env₂ : Env)
    {ev : CoordinatorEvent} (hev : ev.Observes) :
    Absorbs env₁ env₂ c ev ↔ ¬ SyncsAgainst c ev := by
  have hlinkage := h.linkage
  cases ev with
  | vrChatMuteSelf state =>
    cases hdone : c.initialSyncDone with
    | true =>
      refine iff_of_true (hlinkage.toInv.absorbs_muteSelf_of_done hdone env₁ env₂ state) ?_
      rintro ⟨hf, -⟩
      exact absurd (hdone.symm.trans hf) (by decide)
    | false =>
      by_cases hs : StartsSync (c.observeVrchat state)
      · rw [hlinkage.absorbs_muteSelf_iff hs]
        refine not_congr ⟨?_, ?_⟩
        · rintro ⟨hd, ha⟩
          exact ⟨hdone, hs.2.1, hd, ha⟩
        · rintro ⟨-, -, hd, ha⟩
          exact ⟨hd, ha⟩
      · refine iff_of_true (absorbs_muteSelf_of_not_startsSync hdone hs env₁ env₂) ?_
        rintro ⟨-, hk, hd, -⟩
        refine hs ⟨hdone, hk, ?_⟩
        show c.discordState ≠ .unknown
        rw [hd]
        exact hk
  | discordVoiceSettingsUpdate mute =>
    cases hdone : c.initialSyncDone with
    | true =>
      refine iff_of_true (absorbs_update_of_done hdone env₁ env₂ mute) ?_
      rintro ⟨hf, -⟩
      exact absurd (hdone.symm.trans hf) (by decide)
    | false =>
      by_cases hs : StartsSync (c.observeDiscord mute)
      · rw [hlinkage.absorbs_update_iff hs]
        refine not_congr ⟨?_, ?_⟩
        · rintro ⟨hv, ha⟩
          exact ⟨hdone, hs.2.2, hv, ha⟩
        · rintro ⟨-, -, hv, ha⟩
          exact ⟨hv, ha⟩
      · refine iff_of_true (absorbs_update_of_not_startsSync hdone hs env₁ env₂) ?_
        rintro ⟨-, hk, hv, -⟩
        refine hs ⟨hdone, ?_, hk⟩
        show c.vrchatState ≠ .unknown
        rw [hv]
        exact hk
  | vrChatAvatarChanged | vrChatConnectionChanged _ | discordVoiceChannelStatus _
  | discordConnectionChanged _ | discordCommandAck _ _ | discordVoiceStateUnavailable _ =>
    exact hev.elim

/-- VRChat is seen muted, then Discord is reported muted twice: the first report has Discord
unmuted, as the startup authority wants, and the second one takes that command out of its slot and
toggles VRChat. -/
theorem duplicate_toggles_vrchat :
    let c := coordinator.run (.new .default) [(⟨0, 0, 1⟩, .event (.vrChatMuteSelf .muted))]
    let once := c.step ⟨0, 0, 2⟩ (.event (.discordVoiceSettingsUpdate .muted))
    let twice := once.1.step ⟨0, 0, 3⟩ (.event (.discordVoiceSettingsUpdate .muted))
    Reachable c ∧ once.2 = [.discord (.setMute .unmuted 2)] ∧
      twice.2 = [.vrchat (.toggleVoice .unmuted)] ∧ twice.1.pendingDiscord = none ∧
      ¬ Coordinator.Absorbs ⟨0, 0, 2⟩ ⟨0, 0, 3⟩ c (.discordVoiceSettingsUpdate .muted) := by
  refine ⟨reachable_run _ _, rfl, rfl, rfl, ?_⟩
  rintro ⟨hout, -⟩
  have hne : [Command.discord (.setMute .unmuted 2), .vrchat (.toggleVoice .unmuted)] ≠
    [.discord (.setMute .unmuted 2)] := by decide
  exact hne hout

/-- The other way round, Discord first, the startup authority is on the side of the duplicate. -/
theorem duplicate_absorbed_iff_first :
    let c := coordinator.run (.new .default)
      [(⟨0, 0, 1⟩, .event (.discordVoiceSettingsUpdate .muted))]
    Coordinator.Absorbs ⟨0, 0, 2⟩ ⟨0, 0, 3⟩ c (.vrChatMuteSelf .muted) := by
  intro c
  have hev : CoordinatorEvent.Observes (.vrChatMuteSelf .muted) := trivial
  refine (duplicate_absorbed_iff (reachable_run _ _) _ _ hev).mpr ?_
  rintro ⟨-, -, -, ha | ⟨ha, -⟩⟩
  · cases ha
  · cases ha

end VoxShift.Core
