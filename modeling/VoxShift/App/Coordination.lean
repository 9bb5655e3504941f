import VoxShift.App.Delivery
import VoxShift.Core.Issue
import VoxShift.Core.Settled

/-!
# The coordinator among the tasks

What is proved of the coordinator's loop alone, in `Core`, is about runs on any turns.
Here its turns are read off the runs of the worker.

## What is proved

* `Worker.feeds` — a run of the worker is, for the coordinator, a run of its own.
* `worker_runs_coordinator` — whose events are, task by task, those sent to it, and
  whose commands are those that the tasks take, but for what is on its way.
* `master_mode_reaches_vrchat` — so in VRChat-priority mode no toggle reaches VRChat
  but for those that were on their way when the mode was chosen.
-/

namespace VoxShift.App

open VoxShift.Core VoxShift.Discord VoxShift.Theory

namespace Worker

variable {cfg : AuthConfig} {parseUuid : String → Option Uuid}

/-- The turn of the coordinator that a move is, if it is one. -/
def turns (w : Worker) : WorkerMove → List Core.Turn
  | .turn env pick =>
    match w.issuing, pick.input w.events with
    | [], some (i, _) => [(env, i)]
    | _, _ => []
  | _ => []

/-- The event a turn is handed. -/
def handedIn : Core.Turn → Option CoordinatorEvent
  | (_, .event ev) => some ev
  | _ => none

theorem coordinator_step (w : Worker) (m : WorkerMove) :
    (w.step cfg parseUuid m).1.coordinator = Core.coordinator.run w.coordinator (w.turns m) ∧
      w.issues m = Core.coordinator.outs w.coordinator (w.turns m) := by
  cases m with
  | turn env pick =>
    show (w.turn env pick).coordinator = _ ∧ _
    unfold turn turns issues
    simp only
    cases hissuing : w.issuing with
    | cons cmd rest => exact ⟨rfl, rfl⟩
    | nil =>
      cases hinput : pick.input w.events with
      | none => exact ⟨rfl, rfl⟩
      | some r => exact ⟨rfl, (List.append_nil _).symm⟩
  | issue =>
    show w.issue.coordinator = w.coordinator ∧ _
    refine ⟨?_, rfl⟩
    obtain ⟨heq, -⟩ | ⟨_, _, _, -, -, heq⟩ | ⟨_, _, _, -, -, heq⟩ := w.issue_cases <;> rw [heq]
  | discord m =>
    show (w.discord cfg parseUuid m).1.coordinator = w.coordinator ∧ _
    refine ⟨?_, rfl⟩
    obtain ⟨heq, -⟩ | ⟨r, -, -, heq⟩ := w.discord_cases cfg parseUuid m <;> rw [heq]
  | packet messages =>
    show (w.packet messages).coordinator = w.coordinator ∧ _
    refine ⟨?_, rfl⟩
    rcases w.packet_cases messages with heq | heq <;> rw [heq]
  | toggle sent =>
    show (w.toggle sent).coordinator = w.coordinator ∧ _
    refine ⟨?_, rfl⟩
    obtain heq | ⟨_, _, -, -, heq⟩ := w.toggle_cases sent <;> rw [heq]
  | report | forward | degrade => exact ⟨rfl, rfl⟩

/-- **The coordinator of the worker** runs on its turns, and emits what is issued. -/
theorem feeds :
    (worker cfg parseUuid).Feeds Core.coordinator Worker.coordinator turns issues :=
  ⟨fun w m => (w.coordinator_step m).1, fun w m => (@coordinator_step cfg parseUuid w m).2⟩

theorem handedIn_turns (w : Worker) (m : WorkerMove) :
    (w.turns m).filterMap handedIn = (w.handles m).toList := by
  cases m with
  | turn env pick =>
    cases hissuing : w.issuing with
    | cons cmd rest => cases pick <;> simp [turns, handles, hissuing]
    | nil =>
      cases pick with
      | event =>
        cases hrecv : w.events.recv? with
        | none =>
          simp [turns, handles, hissuing, Pick.input, hrecv, Channel.recv?_eq_none.mp hrecv]
        | some r =>
          simp [turns, handles, hissuing, Pick.input, hrecv, Channel.items_of_recv? hrecv,
            handedIn]
      | command cmd | timeout => simp [turns, handles, hissuing, Pick.input, handedIn]
  | issue | discord _ | report | packet _ | forward | toggle _ | degrade => rfl

theorem turns_ne (w : Worker) {m : WorkerMove} {cmd : CoordinatorCommand}
    (hm : ∀ env, m ≠ .turn env (.command cmd)) {t : Core.Turn} (ht : t ∈ w.turns m) :
    t.2 ≠ .command cmd := by
  cases m with
  | turn env pick =>
    unfold turns at ht
    simp only at ht
    split at ht
    · next i rest _ hinput =>
      rw [List.mem_singleton.mp ht]
      rintro rfl
      cases pick with
      | event =>
        obtain ⟨_, -, heq⟩ := Option.map_eq_some_iff.mp hinput
        cases heq
      | command cmd' =>
        obtain rfl : cmd' = cmd := by
          cases hinput
          rfl
        exact hm env rfl
      | timeout => cases hinput
    · cases ht
  | issue | discord _ | report | packet _ | forward | toggle _ | degrade => cases ht

end Worker

section Runs

variable (cfg : AuthConfig) (parseUuid : String → Option Uuid)

/-- **The coordinator among the tasks.** In every run of the worker, the coordinator is where a run
of its own on its turns leads. The events of these turns, with those on their way, are for each task
the ones it has sent, in order; and the commands which that run emits are, for each adapter, the
ones it has taken, in order, and those on their way to it (the supervisor not having panicked). -/
theorem worker_runs_coordinator (config : CoordinatorConfig) (ms : List WorkerMove) :
    let M := worker cfg parseUuid
    let w := M.run (.start config) ms
    let ts := M.collect Worker.turns (.start config) ms
    let issued := Core.coordinator.outs (.new config) ts
    w.coordinator = Core.coordinator.run (.new config) ts ∧
      (∀ o, (ts.filterMap Worker.handedIn).filter (origin · = o) ++ w.inTransit o =
        (Worker.start config).outbox o ++
          M.collect (Worker.posts cfg parseUuid o) (.start config) ms) ∧
      issued.filterMap Command.vrchat? =
        M.collect Worker.toggles (.start config) ms ++ w.togglesInTransit ∧
      issued.filterMap Command.discord? =
        M.collect Worker.setMutes (.start config) ms ++ w.setMutesInTransit := by
  intro M w ts issued
  have hissued : M.collect Worker.issues (.start config) ms = issued :=
    Worker.feeds.outs (.start config) ms
  rw [← hissued]
  refine ⟨Worker.feeds.run (.start config) ms, fun o => ?_,
    toggles_run cfg parseUuid (.start config) ms, setMutes_run cfg parseUuid (.start config) ms⟩
  have hhanded : (ts.filterMap Worker.handedIn).filter (origin · = o) =
      M.collect (Worker.handed o) (.start config) ms := by
    show ((M.collect Worker.turns (.start config) ms).filterMap Worker.handedIn).filter _ = _
    rw [List.filter_filterMap, M.filterMap_collect]
    refine M.collect_congr (M.along_all (fun w m => ?_) _ _)
    rw [← List.filter_filterMap, w.handedIn_turns]
    rfl
  rw [hhanded]
  exact (Worker.conserved_run cfg parseUuid config o ms).symm

/-- **VRChat priority, on the wire.** From a worker in VRChat-priority mode, however it got there,
and until the mode is changed: the toggles that the command loop takes, and those then on their way
to it, are those that were on their way at first. -/
theorem master_mode_reaches_vrchat {w : Worker} (hmode : w.coordinator.linkMode = .vrchatMaster)
    {ms : List WorkerMove}
    (hms : ∀ m ∈ ms, ∀ env, m ≠ .turn env (.command (.setLinkMode .inverseBidirectional))) :
    (worker cfg parseUuid).collect Worker.toggles w ms ++
      ((worker cfg parseUuid).run w ms).togglesInTransit = w.togglesInTransit := by
  have hturns : ∀ t ∈ (worker cfg parseUuid).collect Worker.turns w ms,
      t.2 ≠ .command (.setLinkMode .inverseBidirectional) := by
    intro t ht
    obtain ⟨w', m, hm, hmem⟩ := (worker cfg parseUuid).exists_of_mem_collect ht
    exact w'.turns_ne (hms m hm) hmem
  have hnone : ((worker cfg parseUuid).collect Worker.issues w ms).filterMap Command.vrchat? =
      [] := by
    rw [Worker.feeds.outs]
    refine List.filterMap_eq_nil_iff.mpr (Machine.forall_mem_outs_of_inv
      (I := fun c : Coordinator => c.linkMode = .vrchatMaster) (fun c t hc ht => ?_)
      (fun c t hc _ cmd hcmd => ?_) (Core.coordinator.along_of_forall _ hturns) hmode)
    · have hset : (c.step t.1 t.2).1.settings = c.settings :=
        c.settings_step t.1 fun mode hm => by
          cases mode with
          | vrchatMaster => exact hc.symm
          | inverseBidirectional => exact absurd hm ht
      exact (congrArg Prod.fst hset).trans hc
    · have hno := Coordinator.not_isToggle_step hc t.1 t.2 cmd hcmd
      cases cmd with
      | vrchat cmd => exact absurd trivial hno
      | discord cmd => rfl
  have hrun := toggles_run cfg parseUuid w ms
  rw [hnone, List.append_nil] at hrun
  exact hrun.symm

end Runs

/-- Discord reports that it is muted, or not, and the coordinator is told. -/
def toldDiscord (muted : Bool) : List WorkerMove :=
  [.discord (.run (quiet "n6") (.frame .frame (.ok (voiceSettingsUpdate muted)))), .report,
    takeEvent]

/-- The user unmutes in Discord, a toggle is sent, and the user then chooses VRChat priority. -/
def prioritized : List WorkerMove :=
  established ++ [.packet [.muteSelf .unmuted], .forward, takeEvent] ++ toldDiscord false ++
    [.issue, .turn ⟨0, 0, 0⟩ (.command (.setLinkMode .vrchatMaster))]

/-- The toggle is taken, and Discord's next report brings no other. -/
theorem master_mode_reaches_vrchat_prioritized :
    let M := worker ⟨"1"⟩ fun _ => none
    let w := M.run (.start .default) prioritized
    let ms := .toggle true :: toldDiscord true
    M.collect Worker.toggles w ms ++ (M.run w ms).togglesInTransit = [.toggleVoice .muted] := by
  intro M w ms
  have hms : ∀ m ∈ ms, ∀ env,
      m ≠ .turn env (.command (.setLinkMode .inverseBidirectional)) := by
    simp [ms, toldDiscord, takeEvent]
  have hmode : w.coordinator.linkMode = .vrchatMaster := by decide +kernel
  rw [master_mode_reaches_vrchat ⟨"1"⟩ (fun _ => none) hmode hms]
  decide +kernel

end VoxShift.App
