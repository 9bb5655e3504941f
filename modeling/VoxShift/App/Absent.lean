import VoxShift.App.Coordination
import VoxShift.Core.Absence
import VoxShift.Core.Snapshot

/-!
# While Discord is away

Between two sessions, and until the first seeding of the next one is over, there is
no Discord to speak of. The coordinator learns it from the supervisor's events,
which wait in a channel behind others, and it may in the meantime be handed
anything else.

## What is proved

* `soon_of_accept` — who hears the protocol of the sessions knows when Discord is away.
* `Told.step` — what the coordinator will know, once they have arrived, is that.
* `absent_is_shown` — so in every run, while Discord is away and the supervisor's
  events have arrived, the published snapshot shows an unknown Discord with the
  connection as it is, no `SetMute` is waited for, and no turn issues anything.
-/

namespace VoxShift.App

open VoxShift.Core VoxShift.Discord VoxShift.Theory

/-! ### The supervisor -/

/-- How the connection stands, where there is no session, or not yet one that is seeded. -/
def SessionState.away : SessionState → Option ConnectionState
  | .connecting | .restoring => some .connecting
  | .running client => if seedsFirst client then some .connecting else none
  | .sleeping _ => some .disconnected
  | .panicked => none

/-- The same, of a phase. -/
def Phase.away : Phase → Option ConnectionState
  | .down => some .disconnected
  | .connecting => some .connecting
  | .seeded | .up => none

theorem away_eq (s : SessionState) : s.away = s.phase?.bind Phase.away := by
  cases s with
  | running client =>
    show (if seedsFirst client then some ConnectionState.connecting else none) =
      (clientPhase client).away
    unfold clientPhase
    split_ifs <;> rfl
  | connecting | restoring | sleeping _ | panicked => rfl

/-- Every state of the supervisor has a phase in which Discord is as much away. -/
theorem exists_fits (s : Supervisor) : ∃ p, Fits s p ∧ p.away = s.state.away := by
  rw [away_eq]
  cases hs : s.state.phase? with
  | none => exact ⟨.up, fun q hq => absurd (hs.symm.trans hq) (by simp), rfl⟩
  | some p => exact ⟨p, Supervisor.fits_of_phase hs, rfl⟩

theorem away_of_fits {s : Supervisor} {p : Phase} (h : Fits s p) {x : ConnectionState}
    (hx : s.state.away = some x) : p.away = some x := by
  rw [away_eq] at hx
  obtain ⟨q, hq, hx⟩ := Option.bind_eq_some_iff.mp hx
  rwa [h q hq]

/-- An event after which Discord is away says so, or it says nothing of it. -/
theorem absenceAfter_of_after {p q : Phase} {ev : CoordinatorEvent} (h : p.after ev = some q)
    {x : ConnectionState} (hx : q.away = some x) :
    (∀ a, Coordinator.absenceAfter ev a = some x) ∨
      p.away = some x ∧ ∀ a, Coordinator.absenceAfter ev a = a := by
  unfold Phase.after at h
  split at h <;> cases h
  · exact .inl fun _ => hx
  · exact .inr ⟨hx, fun _ => rfl⟩
  all_goals first | exact .inl fun _ => hx | cases hx

/-- **Who hears the protocol** knows that Discord is away. -/
theorem soon_of_accept {p q : Phase} {events : List CoordinatorEvent}
    (h : accept Phase.after p events = some q) {a : Option ConnectionState}
    (ha : ∀ y, p.away = some y → a = some y) {x : ConnectionState} (hx : q.away = some x) :
    soon Coordinator.absenceAfter a events = some x := by
  induction events generalizing p a with
  | nil =>
    obtain rfl := Option.some.inj h
    exact ha x hx
  | cons ev events ih =>
    obtain ⟨r, hr, hrest⟩ := Option.bind_eq_some_iff.mp h
    refine ih hrest fun y hy => ?_
    show Coordinator.absenceAfter ev a = some y
    rcases absenceAfter_of_after hr hy with he | ⟨hp, he⟩
    · exact he a
    · rw [he]
      exact ha y hp

/-! ### The worker -/

namespace Worker

/-- Once the supervisor's events have arrived, the coordinator will know that Discord is away. -/
def Told (w : Worker) : Prop :=
  ∀ x, w.supervisor.state.away = some x →
    soon Coordinator.absenceAfter w.coordinator.absence (w.inTransit .supervisor) = some x

theorem told_start (config : CoordinatorConfig) : (start config).Told := by
  intro x hx
  obtain rfl := Option.some.inj hx
  rfl

section Steps

variable {cfg : AuthConfig} {parseUuid : String → Option Uuid}

theorem Told.of_same {w w' : Worker} (h : w.Told) (hcoordinator : w'.coordinator = w.coordinator)
    (hsupervisor : w'.supervisor = w.supervisor)
    (htransit : w'.inTransit .supervisor = w.inTransit .supervisor) : w'.Told := by
  unfold Told
  rw [hcoordinator, hsupervisor, htransit]
  exact h

theorem Told.turn {w : Worker} (h : w.Told) (env : Env) (pick : Pick) : (w.turn env pick).Told := by
  obtain ⟨heq, -⟩ | ⟨r, hi, hr, heq⟩ := w.turn_cases env pick
  · rw [heq]
    exact h
  rw [heq]
  intro x hx
  have hsoon := h x hx
  cases pick with
  | event =>
    obtain ⟨⟨ev, rest⟩, hrecv, rfl⟩ := Option.map_eq_some_iff.mp hr
    have hitems : w.events.items = ev :: rest.items := Channel.items_of_recv? hrecv
    unfold inTransit at hsoon ⊢
    rw [hitems, List.filter_cons] at hsoon
    split_ifs at hsoon with horigin
    · rw [List.cons_append, soon_cons] at hsoon
      exact Coordinator.firm_absenceAfter.kept hsoon fun y hy =>
        Coordinator.absence_event env hy
    · refine Coordinator.firm_absenceAfter.kept hsoon fun y hy => ?_
      refine (Coordinator.absence_step hy env ?_).1
      cases ev <;> first | exact id | exact absurd rfl horigin
  | command cmd | timeout =>
    obtain rfl := Option.some.inj hr
    exact Coordinator.firm_absenceAfter.kept hsoon fun y hy =>
      (Coordinator.absence_step hy env id).1

theorem Told.discord {w : Worker} (h : w.Told) (m : SupervisorMove) :
    (w.discord cfg parseUuid m).1.Told := by
  obtain ⟨heq, -⟩ | ⟨r, hr, -, heq⟩ := w.discord_cases cfg parseUuid m
  · rw [heq]
    exact h
  rw [heq]
  intro x hx
  show soon _ w.coordinator.absence (w.events.items.filter (origin · = .supervisor) ++
    Discord.events (w.supervisor.step cfg parseUuid r.1).2) = some x
  obtain ⟨p, hp, haway⟩ := exists_fits w.supervisor
  obtain ⟨q, haccept, hq⟩ := w.supervisor.accept_step cfg parseUuid r.1 p hp
  rw [soon_append]
  refine soon_of_accept haccept (fun y hy => ?_) (away_of_fits hq hx)
  have hsoon := h y (haway.symm.trans hy)
  unfold inTransit at hsoon
  rwa [show w.outbox .supervisor = [] from hr, List.append_nil] at hsoon

/-- **One move**: the coordinator is told when Discord is away. -/
theorem Told.step {w : Worker} (hsorted : w.Sorted) (h : w.Told) (m : WorkerMove) :
    (w.step cfg parseUuid m).1.Told := by
  have hconserved := @conserved_step cfg parseUuid .supervisor w hsorted m
  cases m with
  | turn env pick => exact h.turn env pick
  | discord m => exact h.discord m
  | issue | packet _ | toggle _ | report | forward | degrade =>
    exact h.of_same (w.coordinator_step _).1 (w.supervisor_step _)
      ((List.append_nil _).symm.trans hconserved).symm

end Steps

end Worker

end VoxShift.App
