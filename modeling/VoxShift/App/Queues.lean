import VoxShift.App.Worker
import VoxShift.Core.Pending

/-!
# The cycle of channels

The coordinator sends commands to the adapters over channels of 16, the adapters
send events to the coordinator over one of 64, and each of them sends from within
the handler of what it has just received.

A *knot* is tied when the coordinator waits for room for a command while the task
that would make it has an event to send first. With the event channel full besides,
both wait for each other.

## What is proved

* `step_crossed_iff` — which steps tie a knot, exactly.
* `no_deadlock` — a run without such a step never deadlocks.
* `crossed_reaches_deadlock` — and once a knot is tied, packets from VRChat alone
  lead to a deadlock.
* `deadlocked_for_ever` — from a deadlock nothing is handled any more.
* `updates_first_deadlocks` — it is reached where the client's `select!` takes frames
  and leaves 16 commands waiting.
-/

namespace VoxShift.App

open VoxShift.Core VoxShift.Discord VoxShift.Theory

/-- The coordinator is to send one of the commands `P` next, there is no room for it, and the task
that receives them has an event to send first. -/
structure Knot {α : Type} (P : Command → Prop) (commands : CommandChannel α)
    (outbox : List CoordinatorEvent) (issuing : List Command) : Prop where
  waiting : ∃ cmd ∈ issuing.head?, P cmd
  full : commands.Full
  busy : outbox ≠ []

instance {α : Type} (P : Command → Prop) [DecidablePred P] (commands : CommandChannel α)
    (outbox : List CoordinatorEvent) (issuing : List Command) :
    Decidable (Knot P commands outbox issuing) :=
  decidable_of_iff ((∃ cmd ∈ issuing.head?, P cmd) ∧ commands.Full ∧ outbox ≠ [])
    ⟨fun ⟨waiting, full, busy⟩ => ⟨waiting, full, busy⟩,
      fun ⟨waiting, full, busy⟩ => ⟨waiting, full, busy⟩⟩

/-- An outbox that has not grown ties no new knot. -/
theorem Knot.of_suffix {α : Type} {P : Command → Prop} {commands : CommandChannel α}
    {outbox outbox' : List CoordinatorEvent} {issuing : List Command}
    (h : Knot P commands outbox' issuing) (hs : outbox' <:+ outbox) :
    Knot P commands outbox issuing := by
  refine ⟨h.waiting, h.full, ?_⟩
  rintro rfl
  exact h.busy (List.suffix_nil.mp hs)

theorem Knot.head {α : Type} {P : Command → Prop} {commands : CommandChannel α}
    {outbox : List CoordinatorEvent} {cmd : Command} {rest : List Command}
    (h : Knot P commands outbox (cmd :: rest)) : P cmd := by
  obtain ⟨cmd', hmem, hP⟩ := h.waiting
  obtain rfl := Option.some.inj hmem
  exact hP

theorem not_knot_nil {α : Type} {P : Command → Prop} {commands : CommandChannel α}
    {outbox : List CoordinatorEvent} : ¬Knot P commands outbox [] := by
  rintro ⟨⟨cmd, hmem, -⟩, -, -⟩
  cases hmem

namespace Worker

/-- The coordinator and one of the adapters are in each other's way. -/
def Crossed (w : Worker) : Prop :=
  Knot Command.IsSetMute w.discordCommands w.reporting w.issuing ∨
    Knot Command.IsToggle w.vrchatCommands w.degrading w.issuing

instance (w : Worker) : Decidable w.Crossed := inferInstanceAs (Decidable (_ ∨ _))

/-- The coordinator is blocked on a full command channel, and the task that receives from it is
blocked on the full event channel. -/
def Deadlocked (w : Worker) : Prop := w.Crossed ∧ w.events.Full

instance (w : Worker) : Decidable w.Deadlocked := inferInstanceAs (Decidable (_ ∧ _))

/-- The steps that tie a knot: a turn of the coordinator that issues a command for a full channel
whose receiver has an event to send; and a step of the supervisor or its client that has an event to
send, takes no command, and leaves the coordinator waiting for room for a Discord command. -/
def Ties (cfg : AuthConfig) (parseUuid : String → Option Uuid) (w : Worker) : WorkerMove → Prop
  | .turn env pick =>
    w.issuing = [] ∧ ∃ r ∈ pick.input w.events,
      Knot Command.IsSetMute w.discordCommands w.reporting (w.coordinator.step env r.1).2 ∨
        Knot Command.IsToggle w.vrchatCommands w.degrading (w.coordinator.step env r.1).2
  | .discord m =>
    w.reporting = [] ∧ ∃ r ∈ w.told m,
      Knot Command.IsSetMute r.2 (Discord.events (w.supervisor.step cfg parseUuid r.1).2) w.issuing
  | _ => False

instance (cfg : AuthConfig) (parseUuid : String → Option Uuid) (w : Worker) :
    ∀ m, Decidable (w.Ties cfg parseUuid m)
  | .turn _ _ => inferInstanceAs (Decidable (_ ∧ _))
  | .discord _ => inferInstanceAs (Decidable (_ ∧ _))
  | .issue | .report | .packet _ | .forward | .toggle _ | .degrade => .isFalse id

variable {cfg : AuthConfig} {parseUuid : String → Option Uuid}

/-! ### At most one command to send -/

/-- What holds between the moves: the coordinator's slots are sound, and it has at most one command
to send. -/
structure Ok (w : Worker) : Prop where
  slots : w.coordinator.Slots
  issuing : w.issuing.length ≤ 1

theorem ok_start (cfg : CoordinatorConfig) : (start cfg).Ok :=
  ⟨Coordinator.slots_new cfg, Nat.zero_le 1⟩

/-- A turn of the coordinator issues at most one command. -/
theorem length_le_of_issued {c : Coordinator} {cmds : List Command}
    (h : Coordinator.Issued c cmds) :
    cmds.length ≤ 1 := by
  match cmds, h with
  | [], _ => exact Nat.zero_le 1
  | [_], _ => exact Nat.le_refl 1

theorem Ok.rest_eq_nil {w : Worker} (h : w.Ok) {cmd : Command} {rest : List Command}
    (hi : w.issuing = cmd :: rest) : rest = [] := by
  have hlen := h.issuing
  rw [hi, List.length_cons] at hlen
  exact List.eq_nil_of_length_eq_zero (by omega)

theorem Ok.step {w : Worker} (h : w.Ok) (m : WorkerMove) : (w.step cfg parseUuid m).1.Ok := by
  cases m with
  | turn env pick =>
    show (w.turn env pick).Ok
    obtain ⟨heq, -⟩ | ⟨r, -, -, heq⟩ := w.turn_cases env pick
    · rw [heq]
      exact h
    · rw [heq]
      obtain ⟨hslots, hissued⟩ := h.slots.sound_step env r.1
      exact ⟨hslots, length_le_of_issued hissued⟩
  | issue =>
    show w.issue.Ok
    obtain ⟨heq, -⟩ | ⟨cmd, rest, ch, hi, -, heq⟩ | ⟨cmd, rest, ch, hi, -, heq⟩ := w.issue_cases
    · rw [heq]
      exact h
    · rw [heq, h.rest_eq_nil hi]
      exact ⟨h.slots, Nat.zero_le 1⟩
    · rw [heq, h.rest_eq_nil hi]
      exact ⟨h.slots, Nat.zero_le 1⟩
  | discord m =>
    show (w.discord cfg parseUuid m).1.Ok
    obtain ⟨heq, -⟩ | ⟨r, -, -, heq⟩ := w.discord_cases cfg parseUuid m
    · rw [heq]
      exact h
    · rw [heq]
      exact ⟨h.slots, h.issuing⟩
  | toggle sent =>
    show (w.toggle sent).Ok
    obtain heq | ⟨cmd, rest, -, -, heq⟩ := w.toggle_cases sent
    · rw [heq]
      exact h
    · rw [heq]
      exact ⟨h.slots, h.issuing⟩
  | packet messages =>
    show (w.packet messages).Ok
    obtain heq | heq := w.packet_cases messages
    · rw [heq]
      exact h
    · rw [heq]
      exact ⟨h.slots, h.issuing⟩
  | report | forward | degrade => exact ⟨h.slots, h.issuing⟩

/-! ### Which steps tie a knot -/

/-- **The knot, exactly**: from a state without one, a step leads to one with one if and only if
`Ties` says so. -/
theorem step_crossed_iff {w : Worker} (h : w.Ok) (hw : ¬w.Crossed) (m : WorkerMove) :
    (w.step cfg parseUuid m).1.Crossed ↔ w.Ties cfg parseUuid m := by
  cases m with
  | turn env pick =>
    show (w.turn env pick).Crossed ↔ _
    obtain ⟨heq, hno⟩ | ⟨r, hi, hr, heq⟩ := w.turn_cases env pick
    · rw [heq]
      refine iff_of_false hw ?_
      rintro ⟨hi, r, hr, -⟩
      rcases hno with hno | hno
      · exact hno hi
      · cases hno.symm.trans hr
    · rw [heq]
      constructor
      · intro hc
        exact ⟨hi, r, hr, hc⟩
      · rintro ⟨-, r', hr', hk⟩
        obtain rfl := Option.some.inj (hr.symm.trans hr')
        exact hk
  | issue =>
    show w.issue.Crossed ↔ False
    refine iff_false_intro ?_
    obtain ⟨heq, -⟩ | ⟨cmd, rest, ch, hi, -, heq⟩ | ⟨cmd, rest, ch, hi, -, heq⟩ := w.issue_cases
    · rw [heq]
      exact hw
    · rw [heq, h.rest_eq_nil hi]
      rintro (hk | hk) <;> exact not_knot_nil hk
    · rw [heq, h.rest_eq_nil hi]
      rintro (hk | hk) <;> exact not_knot_nil hk
  | discord m =>
    show (w.discord cfg parseUuid m).1.Crossed ↔ _
    obtain ⟨heq, hno⟩ | ⟨r, hr, ht, heq⟩ := w.discord_cases cfg parseUuid m
    · rw [heq]
      refine iff_of_false hw ?_
      rintro ⟨hr, r, ht, -⟩
      rcases hno with hno | hno
      · exact hno hr
      · cases hno.symm.trans ht
    · rw [heq]
      constructor
      · rintro (hk | hk)
        · exact ⟨hr, r, ht, hk⟩
        · exact absurd (.inr hk) hw
      · rintro ⟨-, r', ht', hk⟩
        obtain rfl := Option.some.inj (ht.symm.trans ht')
        exact .inl hk
  | report =>
    refine iff_false_intro ?_
    rintro (hk | hk)
    · exact hw (.inl (hk.of_suffix (w.events.offer_suffix w.reporting)))
    · exact hw (.inr hk)
  | packet messages =>
    show (w.packet messages).Crossed ↔ False
    refine iff_false_intro ?_
    obtain heq | heq := w.packet_cases messages
    · rw [heq]
      exact hw
    · rw [heq]
      exact hw
  | forward => exact iff_false_intro hw
  | toggle sent =>
    show (w.toggle sent).Crossed ↔ False
    refine iff_false_intro ?_
    obtain heq | ⟨cmd, rest, hrecv, -, heq⟩ := w.toggle_cases sent
    · rw [heq]
      exact hw
    · rw [heq]
      rintro (hk | hk)
      · exact hw (.inl hk)
      · exact Channel.not_full_of_recv? hrecv hk.full
  | degrade =>
    refine iff_false_intro ?_
    rintro (hk | hk)
    · exact hw (.inl hk)
    · exact hw (.inr (hk.of_suffix (w.events.offer_suffix w.degrading)))

theorem not_crossed_start (cfg : CoordinatorConfig) : ¬(start cfg).Crossed := by
  rintro (hk | hk) <;> exact not_knot_nil hk

end Worker

/-- **No deadlock without a knot**: from the spawn of the worker, a run none of whose steps ties a
knot does not lead to a deadlock. -/
theorem no_deadlock {cfg : AuthConfig} {parseUuid : String → Option Uuid}
    {config : CoordinatorConfig}
    {ms : List WorkerMove}
    (h : (worker cfg parseUuid).Along (fun w m => ¬w.Ties cfg parseUuid m) (.start config) ms) :
    ¬((worker cfg parseUuid).run (.start config) ms).Deadlocked := by
  have hinv : ((worker cfg parseUuid).run (.start config) ms).Ok ∧
      ¬((worker cfg parseUuid).run (.start config) ms).Crossed :=
    Machine.Along.inv (M := worker cfg parseUuid) (I := fun w => w.Ok ∧ ¬w.Crossed)
      (fun _ m ⟨hok, hw⟩ hm => ⟨hok.step m, fun hc =>
        hm ((Worker.step_crossed_iff hok hw m).mp hc)⟩)
      h ⟨Worker.ok_start config, Worker.not_crossed_start config⟩
  rintro ⟨hc, -⟩
  exact hinv.2 hc

/-! ### From a knot to a deadlock -/

namespace Worker

variable {cfg : AuthConfig} {parseUuid : String → Option Uuid}

/-- A packet from VRChat, or the sending of what it holds. -/
def FromVrchat : WorkerMove → Prop
  | .packet _ => True
  | .forward => True
  | _ => False

/-- With room in the event channel the receive loop can put an event there, and a knot stays. -/
theorem fill (cfg : AuthConfig) (parseUuid : String → Option Uuid) {w : Worker} (hc : w.Crossed)
    (hroom : ¬w.events.Full) :
    ∃ ms, (∀ m ∈ ms, FromVrchat m) ∧ ((worker cfg parseUuid).run w ms).Crossed ∧
      ((worker cfg parseUuid).run w ms).events.items.length = w.events.items.length + 1 := by
  cases hf : w.forwarding with
  | nil =>
    have hrun : (worker cfg parseUuid).run w [.packet [.muteSelf .muted], .forward] =
        Worker.forward { w with forwarding := [.vrChatMuteSelf .muted] } := by
      show (w.packet [.muteSelf .muted]).forward = _
      unfold packet
      rw [hf]
      rfl
    refine ⟨[.packet [.muteSelf .muted], .forward], ?_, ?_, ?_⟩
    · intro m hm
      simp only [List.mem_cons, List.not_mem_nil, or_false] at hm
      rcases hm with rfl | rfl <;> exact trivial
    · exact hrun ▸ hc
    · rw [hrun]
      exact (congrArg List.length (Channel.offer_of_room hroom _ []).2).trans List.length_append
  | cons ev rest =>
    refine ⟨[.forward], ?_, hc, ?_⟩
    · intro m hm
      rw [List.mem_singleton.mp hm]
      exact trivial
    · show (w.events.offer w.forwarding).2.items.length = _
      rw [hf, (Channel.offer_of_room hroom ev rest).2, List.length_append, List.length_singleton]

/-- **A knot can be pulled tight**: from every state with a knot, packets from VRChat alone lead to
a deadlock. -/
theorem crossed_reaches_deadlock {w : Worker} (hc : w.Crossed) :
    ∃ ms, (∀ m ∈ ms, FromVrchat m) ∧ ((worker cfg parseUuid).run w ms).Deadlocked := by
  -- induction on the room left in the event channel
  generalize hn : 64 - w.events.items.length = n
  induction n generalizing w with
  | zero =>
    have hle := w.events.bounded
    have hfull : w.events.items.length = 64 := by omega
    exact ⟨[], by simp, hc, hfull⟩
  | succ n ih =>
    have hroom : ¬w.events.Full := by
      intro hfull
      unfold Channel.Full at hfull
      omega
    obtain ⟨ms, hms, hc', hlen⟩ := fill cfg parseUuid hc hroom
    obtain ⟨ks, hks, hdead⟩ := ih hc' (by omega)
    refine ⟨ms ++ ks, ?_, ?_⟩
    · intro m hm
      rcases List.mem_append.mp hm with hm | hm
      · exact hms m hm
      · exact hks m hm
    · rw [Machine.run_append]
      exact hdead

/-! ### A deadlock lasts -/

theorem sends_of_full {w : Worker} (h : w.events.Full) :
    w.report = w ∧ w.forward = w ∧ w.degrade = w := by
  refine ⟨?_, ?_, ?_⟩
  · unfold report
    rw [Channel.offer_of_full h]
  · unfold forward
    rw [Channel.offer_of_full h]
  · unfold degrade
    rw [Channel.offer_of_full h]

/-- In a deadlock no move gets anywhere that matters: the knot stays tied, the event channel stays
full, and the coordinator stays as it is. -/
theorem Deadlocked.step {w : Worker} (h : w.Deadlocked) (m : WorkerMove) :
    (w.step cfg parseUuid m).1.Deadlocked ∧
      (w.step cfg parseUuid m).1.coordinator = w.coordinator := by
  obtain ⟨hc, hfull⟩ := h
  cases m with
  | turn env pick =>
    show (w.turn env pick).Deadlocked ∧ (w.turn env pick).coordinator = w.coordinator
    have hi : w.issuing ≠ [] := by
      intro hnil
      rcases hc with hk | hk <;> exact not_knot_nil (hnil ▸ hk)
    rw [turn_of_issuing hi]
    exact ⟨⟨hc, hfull⟩, rfl⟩
  | issue =>
    show w.issue.Deadlocked ∧ w.issue.coordinator = w.coordinator
    obtain ⟨heq, -⟩ | ⟨cmd, rest, ch, hi, hs, -⟩ | ⟨cmd, rest, ch, hi, hs, -⟩ := w.issue_cases
    · rw [heq]
      exact ⟨⟨hc, hfull⟩, rfl⟩
    · rcases hc with hk | hk
      · exact (hi ▸ hk).head.elim
      · rw [Channel.send?_eq_none.mpr hk.full] at hs
        cases hs
    · rcases hc with hk | hk
      · rw [Channel.send?_eq_none.mpr hk.full] at hs
        cases hs
      · exact (hi ▸ hk).head.elim
  | discord m =>
    show (w.discord cfg parseUuid m).1.Deadlocked ∧
      (w.discord cfg parseUuid m).1.coordinator = w.coordinator
    obtain ⟨heq, -⟩ | ⟨r, hr, -, heq⟩ := w.discord_cases cfg parseUuid m
    · rw [heq]
      exact ⟨⟨hc, hfull⟩, rfl⟩
    · rw [heq]
      rcases hc with hk | hk
      · exact absurd hr hk.busy
      · exact ⟨⟨.inr hk, hfull⟩, rfl⟩
  | report =>
    show w.report.Deadlocked ∧ w.report.coordinator = w.coordinator
    rw [(sends_of_full hfull).1]
    exact ⟨⟨hc, hfull⟩, rfl⟩
  | packet messages =>
    show (w.packet messages).Deadlocked ∧ (w.packet messages).coordinator = w.coordinator
    obtain heq | heq := w.packet_cases messages <;> rw [heq]
    · exact ⟨⟨hc, hfull⟩, rfl⟩
    · exact ⟨⟨hc, hfull⟩, rfl⟩
  | forward =>
    show w.forward.Deadlocked ∧ w.forward.coordinator = w.coordinator
    rw [(sends_of_full hfull).2.1]
    exact ⟨⟨hc, hfull⟩, rfl⟩
  | toggle sent =>
    show (w.toggle sent).Deadlocked ∧ (w.toggle sent).coordinator = w.coordinator
    obtain heq | ⟨cmd, rest, -, hdeg, heq⟩ := w.toggle_cases sent
    · rw [heq]
      exact ⟨⟨hc, hfull⟩, rfl⟩
    · rw [heq]
      rcases hc with hk | hk
      · exact ⟨⟨.inl hk, hfull⟩, rfl⟩
      · exact absurd hdeg hk.busy
  | degrade =>
    show w.degrade.Deadlocked ∧ w.degrade.coordinator = w.coordinator
    rw [(sends_of_full hfull).2.2]
    exact ⟨⟨hc, hfull⟩, rfl⟩

/-- **A deadlock lasts**: whatever happens, it stays, and the coordinator handles nothing. -/
theorem deadlocked_for_ever {w : Worker} (h : w.Deadlocked) (ms : List WorkerMove) :
    ((worker cfg parseUuid).run w ms).Deadlocked ∧
      ((worker cfg parseUuid).run w ms).coordinator = w.coordinator :=
  Machine.inv_run (M := worker cfg parseUuid)
    (I := fun w' => w'.Deadlocked ∧ w'.coordinator = w.coordinator)
    (fun _ m ⟨hd, hco⟩ => ⟨(hd.step m).1, (hd.step m).2.trans hco⟩) ⟨h, rfl⟩ ms

end Worker

/-! ### A run into a deadlock -/

/-- Discord reports the settings. -/
def settings : WorkerMove :=
  .discord (.run (quiet "n6") (.frame .frame (.ok (voiceSettingsUpdate true))))

/-- The coordinator answers with a `SetMute`, which the client leaves in the channel; a report of
the settings clears its slot and is answered with a toggle. -/
def round : List WorkerMove :=
  muteSelf ++ [takeEvent, .issue, settings, .report, takeEvent, .issue, .toggle true]

/-- Sixteen commands wait, the coordinator waits with the next one, and the event channel is
full. -/
def flooded : List WorkerMove :=
  established ++ (List.replicate 16 round).flatten ++ muteSelf ++ [takeEvent, .issue] ++
    (List.replicate 64 muteSelf).flatten

/-- **Sixteen unread commands and one more update**: then the client reports an update, and
nothing goes on. -/
theorem updates_first_deadlocks :
    ¬∀ ms : List WorkerMove,
      ¬((worker ⟨"1"⟩ fun _ => none).run (.start .default) ms).Deadlocked := by
  intro h
  have hdead : ((worker ⟨"1"⟩ fun _ => none).run (.start .default)
      (flooded ++ [settings])).Deadlocked := by
    decide +kernel
  exact h _ hdead

/-- Up to the update no knot is tied. -/
theorem no_deadlock_flooded :
    ¬((worker ⟨"1"⟩ fun _ => none).run (.start .default) flooded).Deadlocked :=
  no_deadlock (by decide +kernel)

end VoxShift.App
