import VoxShift.Core.Turns
import VoxShift.Core.Settled

/-!
# The initial sync

§12.2: when both states are first known, the startup authority decides which side
follows. Either side may be seen first, be forgotten again by an avatar change or
a lost connection, and the user may resume or resync in between.

## What is proved

* `syncByAuthority_eq` — what the authority makes of two known states.
* `Waiting.after_step`, `Waiting.silent` — before both states are known the link
  waits or is active, and nothing is sent.
* `initial_sync_once` — the initial sync runs at the first moment both states are
  known, in the configured direction, and never again.
-/

namespace VoxShift.Core

/-- §12.2: what the initial sync sends for the states `v` of VRChat and `d` of Discord. -/
def initialCommands (authority : StartupAuthority) (v d : MuteState) (nonce : Uuid) :
    List Command :=
  if v ≠ d then []
  else match authority with
    | .vrchat => [.discord (.setMute v.inverse nonce)]
    | .discord => [.vrchat (.toggleVoice d.inverse)]
    | .none => []

namespace Coordinator

/-- With both states known and nothing in flight, the authority is followed to the letter. -/
theorem syncByAuthority_eq {c : Coordinator} (h : Slots c) (hknown : BothKnown c)
    (hpd : c.pendingDiscord = none) (hpv : c.pendingVrchat = none) (env : Env) :
    (syncByAuthority env c).2 =
      initialCommands c.effectiveAuthority c.vrchatState c.discordState env.nonce := by
  obtain ⟨hv, hd⟩ := hknown
  unfold initialCommands
  by_cases he : c.vrchatState = c.discordState
  · rw [if_neg (not_not.mpr he)]
    cases ha : c.effectiveAuthority with
    | vrchat => rw [syncByAuthority_of_vrchat ha, syncDiscord_eq h, if_pos ⟨hv, he.symm, hpd⟩]
    | discord => rw [syncByAuthority_of_discord ha, syncVrchat_eq, if_pos ⟨hd, he, hpv⟩]
    | none => rw [syncByAuthority_of_none ha]
  · rw [if_pos he]
    cases ha : c.effectiveAuthority with
    | vrchat =>
      rw [syncByAuthority_of_vrchat ha, syncDiscord_eq h, if_neg fun hc => he hc.2.1.symm]
    | discord => rw [syncByAuthority_of_discord ha, syncVrchat_eq, if_neg fun hc => he hc.2.1]
    | none => rw [syncByAuthority_of_none ha]

/-- The state `o` in which a turn from `c` runs the body of the initial sync: the observation is
recorded, and nothing is in flight. -/
structure SyncsFrom (c o : Coordinator) : Prop where
  starts : StartsSync o
  slots : Slots o
  pendingDiscord : o.pendingDiscord = none
  pendingVrchat : o.pendingVrchat = none
  linkState : o.linkState = c.linkState
  settings : o.settings = c.settings

/-- A turn that runs the initial sync does nothing else. -/
theorem Inv.step_of_runsInitialSync {c : Coordinator} (h : Inv c) {i : Input}
    (hruns : RunsInitialSync c i) (env : Env) :
    ∃ o, SyncsFrom c o ∧ c.step env i =
      (stampSync env (syncByAuthority env o.startSync).1,
        (syncByAuthority env o.startSync).2) := by
  have hdone := hruns.not_done
  obtain ⟨hpd, hpv⟩ := h.idle hdone
  unfold RunsInitialSync at hruns
  split at hruns
  · rename_i state
    have hslots : Slots (c.observeVrchat state) := h.take_vrchat rfl rfl rfl rfl
    refine ⟨c.observeVrchat state, ⟨hruns, hslots, hpd, rfl, rfl, rfl⟩, ?_⟩
    rw [step_muteSelf_of_not_done hdone]
    exact hruns.tryInitialSync env
  · rename_i mute
    have hslots : Slots (c.observeDiscord mute) := h.take_discord rfl rfl rfl fun _ => rfl
    refine ⟨c.observeDiscord mute, ⟨hruns, hslots, rfl, hpv, rfl, rfl⟩, ?_⟩
    rw [step_update_of_not_done hdone]
    exact hruns.tryInitialSync env
  · exact hruns.elim

/-- The states and the commands after the initial sync. -/
theorem SyncsFrom.commands {c o : Coordinator} (h : SyncsFrom c o) (env : Env) :
    (syncByAuthority env o.startSync).2 =
      initialCommands c.effectiveAuthority o.vrchatState o.discordState env.nonce := by
  have hslots : Slots o.startSync := h.slots.of_eq rfl
  rw [syncByAuthority_eq hslots h.starts.2 h.pendingDiscord h.pendingVrchat env]
  have hset := h.settings
  simp only [Coordinator.settings, Prod.mk.injEq] at hset
  have hauth : o.startSync.effectiveAuthority = c.effectiveAuthority := by
    show o.effectiveAuthority = c.effectiveAuthority
    unfold effectiveAuthority
    rw [hset.1, hset.2.2]
  rw [hauth]
  rfl

theorem startupAuthority_step (env : Env) (c : Coordinator) (i : Input) :
    (c.step env i).1.startupAuthority = c.startupAuthority := by
  by_cases hi : ∃ mode, i = .command (.setLinkMode mode)
  · obtain ⟨mode, rfl⟩ := hi
    rfl
  · have hset := settings_step env c fun mode he => absurd ⟨mode, he⟩ hi
    simp only [settings, Prod.mk.injEq] at hset
    exact hset.2.2

/-- Before the initial sync of a link that was switched on: it waits, or a resume has activated
it. -/
structure Waiting (cfg : CoordinatorConfig) (c : Coordinator) : Prop extends Inv c where
  done : c.initialSyncDone = false
  link : c.linkState = .waitingForState ∨ c.linkState = .active
  authority : c.startupAuthority = cfg.startupAuthority

theorem waiting_new {cfg : CoordinatorConfig} (hen : cfg.linkEnabled = true) :
    Waiting cfg (new cfg) :=
  ⟨inv_new cfg, rfl, .inl (if_pos hen), rfl⟩

theorem Waiting.silent {cfg : CoordinatorConfig} {c : Coordinator} (h : Waiting cfg c) (env : Env)
    (i : Input) (hun : ¬ BothKnown (c.step env i).1) : (c.step env i).2 = [] := by
  obtain ⟨-, hmem⟩ := (h.toInv.toSlots.sound_step env i).2.mem
  refine List.eq_nil_iff_forall_not_mem.mpr fun cmd hcmd => ?_
  obtain ⟨hv, hd, -⟩ := hmem cmd hcmd
  refine hun ⟨hv, ?_⟩
  rw [hd]
  exact hv

/-- Nothing is in flight yet, so the link is not faulted, whatever arrives. -/
theorem Waiting.link_step {cfg : CoordinatorConfig} {c : Coordinator} (h : Waiting cfg c)
    (env : Env) {i : Input} (hi : i ≠ .command (.setPaused true)) :
    (c.step env i).1.linkState = .waitingForState ∨ (c.step env i).1.linkState = .active := by
  by_cases hpause : ∃ paused, i = .command (.setPaused paused)
  · obtain ⟨paused, rfl⟩ := hpause
    cases paused with
    | true => exact absurd rfl hi
    | false => exact .inr (linkState_setPaused env c false)
  · cases linkState_step env c (not_exists.mp hpause) with
    | same hsame =>
      rw [hsame]
      exact h.link
    | faults _ hp => exact absurd (h.toInv.done_of_pending hp) (by simp [h.done])
    | syncs _ _ hl =>
      rw [hl]
      unfold startSync
      rcases h.link with hl | hl
      · exact .inr (if_pos hl)
      · right
        simp [hl]

/-- **One turn** that leaves a side unknown keeps the link waiting, and does not run the initial
sync. -/
theorem Waiting.after_step {cfg : CoordinatorConfig} {c : Coordinator} (h : Waiting cfg c)
    (env : Env) {i : Input} (hi : i ≠ .command (.setPaused true))
    (hun : ¬ BothKnown (c.step env i).1) :
    Waiting cfg (c.step env i).1 ∧ ¬ RunsInitialSync c i := by
  have hruns : ¬ RunsInitialSync c i := by
    intro hr
    obtain ⟨o, ho, he⟩ := h.toInv.step_of_runsInitialSync hr env
    have hkept := (kept_syncByAuthority env o.startSync).stamp env
    rw [he] at hun
    refine hun ⟨?_, ?_⟩
    · rw [hkept.vrchatState]
      exact ho.starts.2.1
    · rw [hkept.discordState]
      exact ho.starts.2.2
  have hdone : (c.step env i).1.initialSyncDone = false := by
    rw [← Bool.not_eq_true, initialSyncDone_step_iff]
    exact not_or.mpr ⟨by simp [h.done], hruns⟩
  exact ⟨⟨h.toInv.after_step env i, hdone, h.link_step env hi,
    (startupAuthority_step env c i).trans h.authority⟩, hruns⟩

/-- **The turn that makes both states known** runs the initial sync: it activates the link and
sends what the authority says. -/
theorem Waiting.first_known {cfg : CoordinatorConfig} {c : Coordinator} (h : Waiting cfg c)
    (env : Env) {i : Input} (hknown : BothKnown (c.step env i).1) :
    RunsInitialSync c i ∧ (c.step env i).1.initialSyncDone = true ∧
      (c.step env i).1.linkState = .active ∧
      (c.step env i).2 = initialCommands
        (if c.linkMode = .vrchatMaster then .vrchat else cfg.startupAuthority)
        (c.step env i).1.vrchatState (c.step env i).1.discordState env.nonce := by
  have hdone := (h.toInv.after_step env i).synced hknown.1 hknown.2
  have hruns : RunsInitialSync c i :=
    ((initialSyncDone_step_iff env c i).mp hdone).resolve_left (by simp [h.done])
  obtain ⟨o, ho, he⟩ := h.toInv.step_of_runsInitialSync hruns env
  have hkept := (kept_syncByAuthority env o.startSync).stamp env
  refine ⟨hruns, hdone, ?_, ?_⟩
  · rw [he, hkept.linkState]
    show (if o.linkState = .waitingForState then LinkState.active else o.linkState) = .active
    rw [ho.linkState]
    rcases h.link with hl | hl <;> simp [hl]
  · rw [he]
    show (syncByAuthority env o.startSync).2 = _
    rw [ho.commands env, hkept.vrchatState, hkept.discordState, ← h.authority]
    rfl

/-- The turn does not run the body of `try_initial_sync`, and is as it would be without the call. -/
def SyncsNot (c : Coordinator) (t : Turn) : Prop :=
  ¬ RunsInitialSync c t.2 ∧ coordinator.step c t = stepWithoutSync t.1 c t.2

theorem SyncsNot.of_not_runs {c : Coordinator} {t : Turn} (h : ¬ RunsInitialSync c t.2) :
    SyncsNot c t := ⟨h, step_of_not_runsInitialSync h t.1⟩

end Coordinator

open Coordinator in
/-- **The initial sync happens once, at the first moment both sides are known.** Take a link that is
switched on and a run `ts` of any turns other than a pause, after none of which both states are
known. Then `ts` sends nothing. A turn after which both are known sets `initial_sync_done`,
activates the link, and sends exactly what the effective authority makes of the two states; and no
turn of any run runs the body of `try_initial_sync` before it or after it: it does what it would do
without the call. -/
theorem initial_sync_once {cfg : CoordinatorConfig} (hen : cfg.linkEnabled = true) {ts : List Turn}
    (hts : coordinator.Along
      (fun c t => t.2 ≠ .command (.setPaused true) ∧ ¬ BothKnown (coordinator.next c t))
      (.new cfg) ts) :
    let c := coordinator.run (.new cfg) ts
    coordinator.outs (.new cfg) ts = [] ∧
    coordinator.Along SyncsNot (.new cfg) ts ∧
    ∀ t : Turn, BothKnown (coordinator.next c t) →
      let c' := coordinator.next c t
      RunsInitialSync c t.2 ∧ c'.initialSyncDone = true ∧ c'.linkState = .active ∧
      coordinator.out c t = initialCommands
        (if c.linkMode = .vrchatMaster then .vrchat else cfg.startupAuthority)
        c'.vrchatState c'.discordState t.1.nonce ∧
      ∀ us, (coordinator.run c' us).initialSyncDone = true ∧
        coordinator.Along SyncsNot c' us := by
  intro c
  have hstep : ∀ (c : Coordinator) (t : Turn), Waiting cfg c →
      (t.2 ≠ .command (.setPaused true) ∧ ¬ BothKnown (coordinator.next c t)) →
      Waiting cfg (coordinator.next c t) := by
    rintro c t hw ⟨hi, hun⟩
    exact (hw.after_step t.1 hi hun).1
  have hdone : ∀ (c : Coordinator) (t : Turn), c.initialSyncDone = true →
      (coordinator.next c t).initialSyncDone = true :=
    fun c t hd => initialSyncDone_step t.1 hd t.2
  have hnew := waiting_new hen
  have hw : Waiting cfg c := hts.inv hstep hnew
  refine ⟨?_, ?_, ?_⟩
  · refine Theory.Machine.Along.outs_eq_nil (hts.mono_of_inv hstep ?_ hnew)
    rintro c t hw ⟨-, hun⟩
    exact hw.silent t.1 t.2 hun
  · refine hts.mono_of_inv hstep ?_ hnew
    rintro c t hw ⟨hi, hun⟩
    exact .of_not_runs (hw.after_step t.1 hi hun).2
  · intro t hknown c'
    obtain ⟨hruns, hd, hlink, hout⟩ := hw.first_known t.1 hknown
    refine ⟨hruns, hd, hlink, hout, fun us => ⟨?_, ?_⟩⟩
    · exact Theory.Machine.inv_run hdone hd us
    · have hall : coordinator.Along (fun _ _ => True) c' us :=
        coordinator.along_of_forall c' fun _ _ => trivial
      exact hall.mono_of_inv (fun c t hc _ => hdone c t hc)
        (fun _ t hc _ => .of_not_runs (not_runsInitialSync hc t.2)) hd

/-- VRChat is seen muted, forgotten on an avatar change, and seen muted again after Discord: Discord
is told to unmute. -/
theorem initial_sync_once_forgotten :
    let c := coordinator.run (.new .default)
      [(⟨0, 0, 1⟩, .event (.vrChatMuteSelf .muted)), (⟨0, 0, 2⟩, .event .vrChatAvatarChanged),
        (⟨0, 0, 3⟩, .event (.discordVoiceSettingsUpdate .muted))]
    coordinator.out c (⟨0, 0, 4⟩, .event (.vrChatMuteSelf .muted)) =
      [.discord (.setMute .unmuted 4)] := by
  have hts : coordinator.Along
      (fun c t => t.2 ≠ .command (.setPaused true) ∧ ¬ Coordinator.BothKnown (coordinator.next c t))
      (.new .default)
      [(⟨0, 0, 1⟩, .event (.vrChatMuteSelf .muted)), (⟨0, 0, 2⟩, .event .vrChatAvatarChanged),
        (⟨0, 0, 3⟩, .event (.discordVoiceSettingsUpdate .muted))] :=
    ⟨⟨by simp, fun h => h.2 rfl⟩, ⟨by simp, fun h => h.1 rfl⟩, ⟨by simp, fun h => h.1 rfl⟩, trivial⟩
  obtain ⟨-, -, hfirst⟩ := initial_sync_once rfl hts
  have hknown : Coordinator.BothKnown (coordinator.next (coordinator.run (.new .default)
      [(⟨0, 0, 1⟩, .event (.vrChatMuteSelf .muted)), (⟨0, 0, 2⟩, .event .vrChatAvatarChanged),
        (⟨0, 0, 3⟩, .event (.discordVoiceSettingsUpdate .muted))])
      (⟨0, 0, 4⟩, .event (.vrChatMuteSelf .muted))) := ⟨nofun, nofun⟩
  exact (hfirst _ hknown).2.2.2.1

end VoxShift.Core
