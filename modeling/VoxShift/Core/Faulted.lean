import VoxShift.Core.Turns

/-!
# A faulted link

A toggle that is not confirmed in time and a `SetMute` that Discord rejects fault
the link: it is to stay silent until the user steps in. The user has two buttons,
resume (`SetPaused(false)`) and resync (`ManualResync`); only the first one
touches the link state.

## What is proved

* `Linkage.after_step`, `Reachable.linkage` — a link faults after the initial
  sync only, since nothing is in flight before it.
* `faulted_stays_silent` — so a faulted link is silent, and stays faulted or
  paused, until a resume or a manual resync.
* `resync_never_recovers` — a manual resync does not recover the link. The toggle
  deadline says "manual resync required", but a resync leaves the link faulted,
  and no `MuteSelf` after it reaches Discord.
-/

namespace VoxShift.Core

/-- The user steps in: a resume or a manual resync. -/
def Input.Intervenes : Input → Prop
  | .command (.setPaused false) | .command .manualResync => True
  | _ => False

namespace Coordinator

/-! ### A link faults after the initial sync only -/

/-- The invariant of the slots, and: a faulted link has had its initial sync. -/
structure Linkage (c : Coordinator) : Prop extends Inv c where
  /-- No fault before the initial sync. -/
  faulted : c.linkState = .faulted → c.initialSyncDone = true

theorem linkage_new (cfg : CoordinatorConfig) : Linkage (new cfg) := by
  refine ⟨inv_new cfg, fun hf => ?_⟩
  have hstart : cfg.startState = .faulted := hf
  unfold CoordinatorConfig.startState at hstart
  split_ifs at hstart

/-- **One turn** keeps the invariant. -/
theorem Linkage.after_step {c : Coordinator} (h : Linkage c) (env : Env) (i : Input) :
    Linkage (c.step env i).1 := by
  refine ⟨h.toInv.after_step env i, fun hf => ?_⟩
  by_cases hi : ∃ paused, i = .command (.setPaused paused)
  · obtain ⟨paused, rfl⟩ := hi
    rw [linkState_setPaused] at hf
    cases paused <;> cases hf
  · cases linkState_step env c (not_exists.mp hi) with
    | same hsame => exact initialSyncDone_step env (h.faulted (hsame.symm.trans hf)) i
    | faults _ hp => exact initialSyncDone_step env (h.toInv.done_of_pending hp) i
    | syncs _ hdone' _ => exact hdone'

end Coordinator

/-- **Every run**: a faulted link has had its initial sync. -/
theorem Reachable.linkage {c : Coordinator} (h : Reachable c) : c.Linkage :=
  Theory.Machine.Reachable.inv (by rintro _ ⟨cfg, rfl⟩; exact Coordinator.linkage_new cfg)
    (fun _ t hs => hs.after_step t.1 t.2) h

/-! ### Silence -/

namespace Coordinator

/-- The link is faulted, or paused after the initial sync: no observation drives it. -/
structure Stopped (c : Coordinator) : Prop where
  done : c.initialSyncDone = true
  link : c.linkState = .faulted ∨ c.linkState = .paused

theorem Stopped.not_active {c : Coordinator} (h : Stopped c) : c.linkState ≠ .active := by
  rcases h.link with hl | hl <;> rw [hl] <;> decide

theorem Stopped.muteSelf {c : Coordinator} (h : Stopped c) (env : Env) (state : MuteState) :
    c.step env (.event (.vrChatMuteSelf state)) = (c.observeVrchat state, []) := by
  rw [step_muteSelf_of_done h.done, if_pos h.not_active]

theorem Stopped.update {c : Coordinator} (h : Stopped c) (env : Env) (mute : MuteState) :
    c.step env (.event (.discordVoiceSettingsUpdate mute)) = (c.observeDiscord mute, []) := by
  rw [step_update_of_done h.done, if_pos h.not_active]

/-- A stopped link sends nothing unless the user steps in. -/
theorem Stopped.silent {c : Coordinator} (h : Stopped c) (env : Env) {i : Input}
    (hi : ¬ i.Intervenes) : (c.step env i).2 = [] := by
  by_cases hdrives : i.Drives
  · rcases hdrives.cases with ⟨state, rfl⟩ | ⟨mute, rfl⟩ | rfl | rfl
    · rw [h.muteSelf]
    · rw [h.update]
    · exact absurd trivial hi
    · exact absurd trivial hi
  · exact silent_of_not_drives env c hdrives

/-- **One turn**: a stopped link stays stopped unless the user steps in. -/
theorem Stopped.after_step {c : Coordinator} (h : Stopped c) (env : Env) {i : Input}
    (hi : ¬ i.Intervenes) : Stopped (c.step env i).1 := by
  refine ⟨initialSyncDone_step env h.done i, ?_⟩
  by_cases hpause : ∃ paused, i = .command (.setPaused paused)
  · obtain ⟨paused, rfl⟩ := hpause
    cases paused with
    | true => exact .inr rfl
    | false => exact absurd trivial hi
  · cases linkState_step env c (not_exists.mp hpause) with
    | same hsame =>
      rw [hsame]
      exact h.link
    | faults hf _ => exact .inl hf
    | syncs hdone _ _ => exact absurd (h.done.symm.trans hdone) (by decide)

end Coordinator

/-- **A faulted link stays silent until the user steps in.** From every reachable faulted state, a
run of any turns other than a resume and a manual resync sends nothing, and no state on the way is
active or waiting. -/
theorem faulted_stays_silent {c : Coordinator} (h : Reachable c) (hf : c.linkState = .faulted)
    {ts : List Turn} (hts : ∀ t ∈ ts, ¬ t.2.Intervenes) :
    coordinator.outs c ts = [] ∧
      ∀ k, (coordinator.run c (ts.take k)).linkState ≠ .active ∧
        (coordinator.run c (ts.take k)).linkState ≠ .waitingForState := by
  have hstopped : c.Stopped := ⟨h.linkage.faulted hf, .inl hf⟩
  have hstep : ∀ (c : Coordinator) (t : Turn), c.Stopped → ¬ t.2.Intervenes →
      (coordinator.next c t).Stopped := fun _ t hs hi => hs.after_step t.1 hi
  have hout : ∀ (c : Coordinator) (t : Turn), c.Stopped → ¬ t.2.Intervenes →
      coordinator.out c t = [] := fun _ t hs hi => hs.silent t.1 hi
  constructor
  · have hall := coordinator.along_of_forall c hts
    exact (hall.mono_of_inv hstep hout hstopped).outs_eq_nil
  · intro k
    have htake : ∀ t ∈ ts.take k, ¬ t.2.Intervenes := fun t ht => hts t (List.mem_of_mem_take ht)
    have hlink := ((coordinator.along_of_forall c htake).inv hstep hstopped).link
    constructor
    · rcases hlink with hl | hl <;> rw [hl] <;> decide
    · rcases hlink with hl | hl <;> rw [hl] <;> decide

/-- A link whose toggle was not confirmed: Discord is seen unmuted and VRChat muted, then Discord
muted, and the toggle this issues runs into its deadline. -/
def unconfirmed : Coordinator := coordinator.run (.new .default)
  [(⟨0, 0, 1⟩, .event (.discordVoiceSettingsUpdate .unmuted)),
    (⟨0, 0, 2⟩, .event (.vrChatMuteSelf .muted)),
    (⟨0, 0, 3⟩, .event (.discordVoiceSettingsUpdate .muted)),
    (⟨VRCHAT_COMMAND_TIMEOUT, 0, 4⟩, .timeout)]

/-- The next two `MuteSelf`s, which conflict with Discord, send nothing. -/
theorem faulted_stays_silent_unconfirmed :
    let ts : List Turn := [(⟨0, 0, 5⟩, .event (.vrChatMuteSelf .muted)),
      (⟨0, 0, 6⟩, .command (.setPaused true)), (⟨0, 0, 7⟩, .event (.vrChatMuteSelf .muted))]
    unconfirmed.linkState = .faulted ∧ coordinator.outs unconfirmed ts = [] := by
  intro ts
  have hf : unconfirmed.linkState = .faulted := rfl
  refine ⟨hf, (faulted_stays_silent (reachable_run _ _) hf ?_).1⟩
  intro t ht
  simp only [ts, List.mem_cons, List.not_mem_nil, or_false] at ht
  rcases ht with rfl | rfl | rfl <;> exact id

/-! ### Manual resync -/

/-- What a manual resync after a fault is to leave behind: an active link, and Discord inverse to
VRChat or on its way there. -/
structure Recovered (c c' : Coordinator) : Prop where
  active : c'.linkState = .active
  driven : c'.discordState = c.vrchatState.inverse ∨
    ∃ p, c'.pendingDiscord = some p ∧ p.target = c.vrchatState.inverse

/-- **A manual resync does not recover a faulted link.** From every reachable faulted state,
whatever is known of the two sides, it leaves the link faulted, and the `MuteSelf` after it sends
nothing and leaves Discord's slot and state as they are. -/
theorem resync_never_recovers {c : Coordinator} (h : Reachable c) (hf : c.linkState = .faulted)
    (env : Env) :
    let c' := (c.step env (.command .manualResync)).1
    c'.linkState = .faulted ∧ ¬ Recovered c c' ∧
      ∀ env' state, c'.step env' (.event (.vrChatMuteSelf state)) =
        (c'.observeVrchat state, []) := by
  intro c'
  have hlink : c'.linkState = .faulted :=
    (Coordinator.kept_manualResync env c).linkState.trans hf
  have hstopped : c'.Stopped :=
    ⟨Coordinator.initialSyncDone_step env (h.linkage.faulted hf) _, .inl hlink⟩
  refine ⟨hlink, ?_, fun env' state => hstopped.muteSelf env' state⟩
  intro hrec
  have hactive := hrec.active
  rw [hlink] at hactive
  cases hactive

/-- After the fault VRChat is seen muted, Discord is known and connected, and the user resyncs:
Discord follows once, and then the user unmutes in VRChat and both sides stay unmuted. -/
theorem resync_leaves_faulted :
    let c := coordinator.run unconfirmed [(⟨0, 0, 5⟩, .event (.vrChatMuteSelf .muted))]
    let c' := (c.step ⟨0, 0, 6⟩ (.command .manualResync)).1
    let c'' := coordinator.run c' [(⟨0, 0, 7⟩, .event (.discordVoiceSettingsUpdate .unmuted)),
      (⟨0, 0, 8⟩, .event (.vrChatMuteSelf .unmuted))]
    Reachable c ∧ c.linkState = .faulted ∧ c.vrchatState = .muted ∧ c.discordState = .muted ∧
      c.discordConnection = .connected ∧ c'.linkState ≠ .active ∧
      c''.vrchatState = .unmuted ∧ c''.discordState = .unmuted ∧ c''.pendingDiscord = none := by
  have hreach : Reachable unconfirmed := reachable_run _ _
  exact ⟨hreach.run _, rfl, rfl, rfl, rfl, by decide, rfl, rfl, rfl⟩

/-- The resync after an unconfirmed toggle leaves the link faulted. -/
theorem resync_never_recovers_unconfirmed :
    (unconfirmed.step ⟨0, 0, 5⟩ (.command .manualResync)).1.linkState = .faulted :=
  (resync_never_recovers (reachable_run _ _) rfl ⟨0, 0, 5⟩).1

end VoxShift.Core
