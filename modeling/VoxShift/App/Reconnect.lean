import VoxShift.App.Worker

/-!
# Commands across sessions

The receiving end of the Discord commands survives a session, and so do the
commands in it: the next session's client takes what the last one left. The
coordinator has meanwhile handled a `DiscordConnectionChanged` and forgotten both
the command and the Discord state it was issued for.

A run is watched for this: each command in the channel is stamped with what the
coordinator had been told of the connection when it sent it, and each session knows
what had been reported of the connection before its client began.

## What is proved

* `traced_worker` — the stamps do not disturb the run.
* `session_writes_own` — in every run in which no command waits while the coordinator
  is told of a lost connection, and the client takes none while it has still to be
  told, every command written belongs to the session that writes it.
* `next_session_writes_stale_command` — a command that waits when the pipe is lost is
  written by the next session.
-/

namespace VoxShift.App

open VoxShift.Core VoxShift.Discord VoxShift.Theory

/-- The event tells the coordinator of a connection other than an established one: it forgets the
Discord state and the command in flight. -/
def Forgets : CoordinatorEvent → Bool
  | .discordConnectionChanged cs => decide (cs ≠ .connected)
  | _ => false

/-- How many of them are among these events. -/
def forgettings (events : List CoordinatorEvent) : ℕ := events.countP Forgets

/-- An offer of events takes none away. -/
theorem forgettings_offer (events : EventChannel) (outbox : List CoordinatorEvent) :
    forgettings events.items ≤ forgettings (events.offer outbox).2.items := by
  cases outbox with
  | nil => exact Nat.le_refl _
  | cons ev rest =>
    by_cases hfull : events.Full
    · exact Nat.le_of_eq (by rw [Channel.offer_of_full hfull])
    · rw [(Channel.offer_of_room hfull ev rest).2]
      unfold forgettings
      rw [List.countP_append]
      exact Nat.le_add_right _ _

namespace Worker

/-- The event the coordinator is handed. -/
def handles (w : Worker) : WorkerMove → Option CoordinatorEvent
  | .turn _ .event => if w.issuing = [] then w.events.items.head? else none
  | _ => none

/-- The client takes a command. -/
def takes (w : Worker) : WorkerMove → Bool
  | .discord (.run env (.command cmd failed)) =>
    w.reporting.isEmpty && (w.told (.run env (.command cmd failed))).isSome
  | _ => false

/-- The client of a new session begins. -/
def begins (w : Worker) : WorkerMove → Bool
  | .discord (.restored (some _)) =>
    w.reporting.isEmpty && match w.supervisor.state with
      | .restoring => true
      | _ => false
  | _ => false

end Worker

/-- A worker, and what its commands and sessions know of the connection. -/
structure Traced where
  worker : Worker
  /-- The events that tell of a lost connection the coordinator has handled. -/
  noticed : ℕ
  /-- For each Discord command in the channel, `noticed` when it was put there. -/
  stamps : List ℕ
  /-- Those events that were sent before the client of the session began. -/
  due : ℕ

/-- A command written to the pipe, with its stamp and what the session that writes it knows. -/
structure Written where
  command : OutboundCommand
  stamp : ℕ
  due : ℕ

/-- The command was put into the channel before the coordinator handled an event that tells of a
lost connection, and the session that writes it began after that event was sent. -/
def Written.Outlived (o : Written) : Prop := o.stamp < o.due

instance (o : Written) : Decidable o.Outlived := inferInstanceAs (Decidable (_ < _))

namespace Traced

/-- The worker just spawned. -/
def start (config : CoordinatorConfig) : Traced := ⟨.start config, 0, [], 0⟩

/-- The stamps after a move. -/
def stampsAfter (t : Traced) (m : WorkerMove) : List ℕ :=
  match m, t.worker.issuing with
  | .issue, .discord _ :: _ =>
    if t.worker.discordCommands.Full then t.stamps else t.stamps ++ [t.noticed]
  | m, _ => if t.worker.takes m then t.stamps.tail else t.stamps

/-- One move. -/
def step (cfg : AuthConfig) (parseUuid : String → Option Uuid) (t : Traced) (m : WorkerMove) :
    Traced × List Written :=
  let (w, outs) := t.worker.step cfg parseUuid m
  ({ worker := w
     noticed := t.noticed + if (t.worker.handles m).any Forgets then 1 else 0
     stamps := t.stampsAfter m
     due := if t.worker.begins m then t.noticed + forgettings t.worker.events.items else t.due },
    (commands outs).map fun cmd => ⟨cmd, t.stamps.headD 0, t.due⟩)

end Traced

/-- The traced worker as a machine; it emits the commands written. -/
def traced (cfg : AuthConfig) (parseUuid : String → Option Uuid) :
    Machine Traced WorkerMove Written where
  step := Traced.step cfg parseUuid

/-- Tracing changes nothing. -/
theorem traced_worker (cfg : AuthConfig) (parseUuid : String → Option Uuid) (t : Traced)
    (ms : List WorkerMove) :
    ((traced cfg parseUuid).run t ms).worker = (worker cfg parseUuid).run t.worker ms := by
  induction ms generalizing t with
  | nil => rfl
  | cons m ms ih => exact ih ((traced cfg parseUuid).next t m)

/-! ### What is written, and when -/

section

variable {cfg : AuthConfig} {parseUuid : String → Option Uuid}

namespace Worker

theorem told_run_command {w : Worker} {env : RunEnv} {cmd : Option DiscordCommand}
    {failed : Option DiscordError} {r : SupervisorMove × CommandChannel DiscordCommand}
    (h : w.told (.run env (.command cmd failed)) = some r) :
    ∃ head, w.discordCommands.recv? = some (head, r.2) := by
  unfold told at h
  simp only at h
  split at h
  · obtain ⟨⟨head, rest⟩, hrecv, rfl⟩ := Option.map_eq_some_iff.mp h
    exact ⟨head, hrecv⟩
  · cases h

theorem told_of_ne {w : Worker} {m : SupervisorMove}
    (h : ∀ env cmd failed, m ≠ .run env (.command cmd failed)) :
    w.told m = some (m, w.discordCommands) := by
  unfold told
  split
  · next env cmd failed => exact absurd rfl (h env cmd failed)
  · rfl

theorem command_or (m : SupervisorMove) :
    (∃ env cmd failed, m = .run env (.command cmd failed)) ∨
      ∀ env cmd failed, m ≠ .run env (.command cmd failed) := by
  by_cases h : ∃ env cmd failed, m = .run env (.command cmd failed)
  · exact .inl h
  · refine .inr fun env cmd failed heq => h ⟨env, cmd, failed, heq⟩

theorem told_cases {w : Worker} {m : SupervisorMove}
    {r : SupervisorMove × CommandChannel DiscordCommand} (h : w.told m = some r) :
    (∃ env cmd failed, m = .run env (.command cmd failed)) ∧
        (∃ head, w.discordCommands.recv? = some (head, r.2)) ∨
      (∀ env cmd failed, m ≠ .run env (.command cmd failed)) ∧ r = (m, w.discordCommands) := by
  obtain ⟨env, cmd, failed, rfl⟩ | hne := command_or m
  · exact .inl ⟨⟨env, cmd, failed, rfl⟩, told_run_command h⟩
  · rw [told_of_ne hne, Option.some.injEq] at h
    exact .inr ⟨hne, h.symm⟩

/-- The supervisor goes on, and its client takes a command or does not. -/
theorem takes_cases (cfg : AuthConfig) (parseUuid : String → Option Uuid) (w : Worker)
    (m : SupervisorMove) :
    (w.discord cfg parseUuid m = (w, []) ∧ w.takes (.discord m) = false) ∨
      ∃ r : SupervisorMove × CommandChannel DiscordCommand,
        w.discord cfg parseUuid m =
          ({ w with
              supervisor := (w.supervisor.step cfg parseUuid r.1).1
              reporting := Discord.events (w.supervisor.step cfg parseUuid r.1).2
              discordCommands := r.2 },
            (w.supervisor.step cfg parseUuid r.1).2) ∧
        (w.takes (.discord m) ∧ (∃ head, w.discordCommands.recv? = some (head, r.2)) ∨
          w.takes (.discord m) = false ∧ r.2 = w.discordCommands ∧
            commands (w.supervisor.step cfg parseUuid r.1).2 = []) := by
  obtain ⟨heq, hno⟩ | ⟨r, hr, ht, heq⟩ := w.discord_cases cfg parseUuid m
  · refine .inl ⟨heq, ?_⟩
    unfold takes
    split
    · next env cmd failed hm =>
      obtain rfl := WorkerMove.discord.inj hm
      rcases hno with hr | ht
      · rw [List.isEmpty_eq_false_iff.mpr hr]
        rfl
      · rw [ht]
        exact Bool.and_false _
    · rfl
  · refine .inr ⟨r, heq, ?_⟩
    obtain ⟨⟨env, cmd, failed, rfl⟩, hrecv⟩ | ⟨hne, rfl⟩ := told_cases ht
    · refine .inl ⟨?_, hrecv⟩
      unfold takes
      simp only
      rw [hr, ht]
      rfl
    · refine .inr ⟨?_, rfl, w.supervisor.commands_step hne⟩
      unfold takes
      split
      · next env cmd failed hm => exact absurd (WorkerMove.discord.inj hm) (hne env cmd failed)
      · rfl

/-- A turn hands the coordinator the first event, or leaves the event channel as it is. -/
theorem handles_cases (w : Worker) (env : Env) (pick : Pick) :
    (w.turn env pick).discordCommands = w.discordCommands ∧
      (w.handles (.turn env pick) = none ∧ (w.turn env pick).events = w.events ∨
        ∃ ev, w.handles (.turn env pick) = some ev ∧
          w.events.items = ev :: (w.turn env pick).events.items) := by
  obtain ⟨heq, hno⟩ | ⟨r, hi, hr, heq⟩ := w.turn_cases env pick
  · rw [heq]
    refine ⟨rfl, .inl ⟨?_, rfl⟩⟩
    cases pick with
    | event =>
      unfold handles
      rcases hno with hi | hr
      · rw [if_neg hi]
      · rw [Channel.recv?_eq_none.mp (Option.map_eq_none_iff.mp hr)]
        exact ite_self none
    | command cmd | timeout => rfl
  · rw [heq]
    refine ⟨rfl, ?_⟩
    cases pick with
    | event =>
      obtain ⟨⟨ev, rest⟩, hrecv, rfl⟩ := Option.map_eq_some_iff.mp hr
      have hitems : w.events.items = ev :: rest.items := Channel.items_of_recv? hrecv
      refine .inr ⟨ev, ?_, hitems⟩
      unfold handles
      rw [if_pos hi, hitems]
      rfl
    | command cmd | timeout =>
      obtain rfl := Option.some.inj hr
      exact .inl ⟨rfl, rfl⟩

end Worker

namespace Traced

/-! ### The invariant -/

/-- The condition on a move: no command waits in the channel while the coordinator is handed an
event that tells of a lost connection, and the client takes none while such an event waits. -/
structure Fresh (t : Traced) (m : WorkerMove) : Prop where
  handed : (t.worker.handles m).any Forgets → t.worker.discordCommands.items = []
  taken : t.worker.takes m → forgettings t.worker.events.items = 0

instance (t : Traced) (m : WorkerMove) : Decidable (t.Fresh m) :=
  decidable_of_iff
    (((t.worker.handles m).any Forgets → t.worker.discordCommands.items = []) ∧
      (t.worker.takes m → forgettings t.worker.events.items = 0))
    ⟨fun ⟨handed, taken⟩ => ⟨handed, taken⟩, fun ⟨handed, taken⟩ => ⟨handed, taken⟩⟩

/-- What holds in a run of such moves: every command in the channel bears a stamp, which is up to
date, and what the session knows has been handled or waits in the event channel. -/
structure Ok (t : Traced) : Prop where
  length : t.stamps.length = t.worker.discordCommands.items.length
  current : ∀ n ∈ t.stamps, n = t.noticed
  due : t.due ≤ t.noticed + forgettings t.worker.events.items

theorem ok_start (config : CoordinatorConfig) : (start config).Ok :=
  ⟨rfl, fun _ hn => absurd hn List.not_mem_nil, Nat.le_refl 0⟩

/-- A move that neither hands the coordinator a loss, nor touches the Discord commands, nor takes
events away. -/
theorem Ok.of_frame {t t' : Traced} (h : t.Ok) (hnoticed : t'.noticed = t.noticed)
    (hstamps : t'.stamps = t.stamps)
    (hcommands : t'.worker.discordCommands = t.worker.discordCommands)
    (hevents : forgettings t.worker.events.items ≤ forgettings t'.worker.events.items)
    (hdue : t'.due = t.due ∨ t'.due = t.noticed + forgettings t.worker.events.items) : t'.Ok := by
  refine ⟨?_, ?_, ?_⟩
  · rw [hstamps, hcommands]
    exact h.length
  · rw [hstamps, hnoticed]
    exact h.current
  · have hle := h.due
    rw [hnoticed]
    omega

theorem Ok.of_same {t t' : Traced} (h : t.Ok) (hnoticed : t'.noticed = t.noticed)
    (hstamps : t'.stamps = t.stamps)
    (hcommands : t'.worker.discordCommands = t.worker.discordCommands)
    (hevents : t'.worker.events = t.worker.events)
    (hdue : t'.due = t.due ∨ t'.due = t.noticed + forgettings t.worker.events.items) : t'.Ok :=
  h.of_frame hnoticed hstamps hcommands
    (Nat.le_of_eq (congrArg (fun ch => forgettings ch.items) hevents.symm)) hdue

/-- What a session knows after a move. -/
theorem due_step (t : Traced) (m : WorkerMove) :
    (t.step cfg parseUuid m).1.due = t.due ∨
      (t.step cfg parseUuid m).1.due = t.noticed + forgettings t.worker.events.items := by
  show (if t.worker.begins m then _ else t.due) = t.due ∨ (if t.worker.begins m then _ else _) = _
  split
  · exact .inr rfl
  · exact .inl rfl

theorem Ok.turn {t : Traced} (h : t.Ok) {env : Env} {pick : Pick} (hm : t.Fresh (.turn env pick)) :
    (t.step cfg parseUuid (.turn env pick)).1.Ok := by
  obtain ⟨hcommands, ⟨hnone, hevents⟩ | ⟨ev, hev, hitems⟩⟩ := t.worker.handles_cases env pick
  · refine h.of_same ?_ rfl hcommands hevents (t.due_step _)
    show t.noticed + (if (t.worker.handles (.turn env pick)).any Forgets then 1 else 0) = t.noticed
    rw [hnone]
    rfl
  · have hnoticed : (t.step cfg parseUuid (.turn env pick)).1.noticed =
        t.noticed + if Forgets ev then 1 else 0 := by
      show t.noticed + (if (t.worker.handles (.turn env pick)).any Forgets then 1 else 0) = _
      rw [hev, Option.any_some]
    have hcount : forgettings t.worker.events.items =
        forgettings (t.worker.turn env pick).events.items + if Forgets ev then 1 else 0 := by
      rw [hitems]
      exact List.countP_cons
    refine ⟨?_, ?_, ?_⟩
    · exact h.length.trans (congrArg (fun ch => ch.items.length) hcommands.symm)
    · intro n hn
      have hn : n ∈ t.stamps := hn
      by_cases hf : Forgets ev
      · have hnil : t.worker.discordCommands.items = [] := by
          refine hm.handed ?_
          rw [hev]
          exact hf
        have hlen := h.length
        rw [hnil, List.length_nil, List.length_eq_zero_iff] at hlen
        rw [hlen] at hn
        cases hn
      · rw [hnoticed, if_neg hf]
        exact h.current n hn
    · have hle := h.due
      rw [hcount] at hle
      show t.due ≤ (t.step cfg parseUuid (.turn env pick)).1.noticed +
        forgettings (t.worker.turn env pick).events.items
      rw [hnoticed]
      omega

theorem Ok.issue {t : Traced} (h : t.Ok) : (t.step cfg parseUuid .issue).1.Ok := by
  have hstamps : (t.step cfg parseUuid .issue).1.stamps = t.stampsAfter .issue := rfl
  have hworker : (t.step cfg parseUuid .issue).1.worker = t.worker.issue := rfl
  obtain ⟨heq, hfull⟩ | ⟨cmd, rest, ch, hi, -, heq⟩ | ⟨cmd, rest, ch, hi, hs, heq⟩ :=
    t.worker.issue_cases
  · refine h.of_same rfl ?_ ?_ ?_ (t.due_step _)
    · rw [hstamps]
      unfold stampsAfter
      split
      · next cmd rest _ hi => exact if_pos (hfull cmd rest hi)
      · rfl
    · rw [hworker, heq]
    · rw [hworker, heq]
  · refine h.of_same rfl ?_ ?_ ?_ (t.due_step _)
    · rw [hstamps]
      unfold stampsAfter
      split
      · next hi' =>
        rw [hi] at hi'
        cases hi'
      · rfl
    · rw [hworker, heq]
    · rw [hworker, heq]
  · have hroom : ¬t.worker.discordCommands.Full := by
      intro hfull
      rw [Channel.send?_eq_none.mpr hfull] at hs
      cases hs
    have hstamped : t.stampsAfter .issue = t.stamps ++ [t.noticed] := by
      unfold stampsAfter
      split
      · exact if_neg hroom
      · next hno => exact absurd hi (hno cmd rest rfl)
    rw [hstamped] at hstamps
    rw [heq] at hworker
    refine ⟨?_, ?_, ?_⟩
    · rw [hstamps, hworker, List.length_append, h.length, Channel.items_of_send? hs,
        List.length_append]
      rfl
    · rw [hstamps]
      intro n hn
      rcases List.mem_append.mp hn with hn | hn
      · exact h.current n hn
      · exact List.mem_singleton.mp hn
    · rw [hworker]
      exact h.due

theorem Ok.discord {t : Traced} (h : t.Ok) (m : SupervisorMove) :
    (t.step cfg parseUuid (.discord m)).1.Ok := by
  have hstamps : (t.step cfg parseUuid (.discord m)).1.stamps =
      if t.worker.takes (.discord m) then t.stamps.tail else t.stamps := rfl
  have hdue : (t.step cfg parseUuid (.discord m)).1.due = t.due ∨
      (t.step cfg parseUuid (.discord m)).1.due =
        t.noticed + forgettings t.worker.events.items := t.due_step _
  have hworker : (t.step cfg parseUuid (.discord m)).1.worker =
      (t.worker.discord cfg parseUuid m).1 := rfl
  obtain ⟨heq, htakes⟩ | ⟨r, heq, ⟨htakes, head, hrecv⟩ | ⟨htakes, hrest, -⟩⟩ :=
    t.worker.takes_cases cfg parseUuid m
  · rw [heq] at hworker
    refine h.of_same rfl ?_ ?_ ?_ hdue
    · rw [hstamps, htakes]
      rfl
    · rw [hworker]
    · rw [hworker]
  · rw [heq] at hworker
    rw [if_pos htakes] at hstamps
    refine ⟨?_, ?_, ?_⟩
    · rw [hstamps, hworker, List.length_tail, h.length, Channel.items_of_recv? hrecv]
      rfl
    · rw [hstamps]
      intro n hn
      exact h.current n (List.mem_of_mem_tail hn)
    · have hle := h.due
      rw [hworker]
      show _ ≤ t.noticed + forgettings t.worker.events.items
      rcases hdue with hdue | hdue <;> omega
  · rw [heq] at hworker
    refine h.of_same rfl ?_ ?_ ?_ hdue
    · rw [hstamps, htakes]
      rfl
    · rw [hworker]
      exact hrest
    · rw [hworker]

/-- **The step.** The stamps stay up to date. -/
theorem Ok.step {t : Traced} (h : t.Ok) {m : WorkerMove} (hm : t.Fresh m) :
    (t.step cfg parseUuid m).1.Ok := by
  cases m with
  | turn env pick => exact h.turn hm
  | issue => exact h.issue
  | discord m => exact h.discord m
  | report => exact h.of_frame rfl rfl rfl (forgettings_offer _ _) (t.due_step _)
  | packet messages =>
    have hworker : (t.step cfg parseUuid (.packet messages)).1.worker = t.worker.packet messages :=
      rfl
    obtain heq | heq := t.worker.packet_cases messages
    · refine h.of_same rfl rfl ?_ ?_ (t.due_step _) <;> rw [hworker, heq]
    · refine h.of_same rfl rfl ?_ ?_ (t.due_step _) <;> rw [hworker, heq]
  | forward => exact h.of_frame rfl rfl rfl (forgettings_offer _ _) (t.due_step _)
  | toggle sent =>
    have hworker : (t.step cfg parseUuid (.toggle sent)).1.worker = t.worker.toggle sent := rfl
    obtain heq | ⟨cmd, rest, -, -, heq⟩ := t.worker.toggle_cases sent
    · refine h.of_same rfl rfl ?_ ?_ (t.due_step _) <;> rw [hworker, heq]
    · refine h.of_same rfl rfl ?_ ?_ (t.due_step _) <;> rw [hworker, heq]
  | degrade => exact h.of_frame rfl rfl rfl (forgettings_offer _ _) (t.due_step _)

/-- **What is written**: a command written is the first one in the channel, and its stamp is up to
date. -/
theorem Ok.written {t : Traced} (h : t.Ok) {m : WorkerMove} (hm : t.Fresh m) :
    ∀ o ∈ (t.step cfg parseUuid m).2, ¬o.Outlived := by
  intro o ho
  obtain ⟨cmd, hcmd, rfl⟩ := List.mem_map.mp ho
  cases m with
  | discord m =>
    have hcmd : cmd ∈ commands (t.worker.discord cfg parseUuid m).2 := hcmd
    obtain ⟨heq, -⟩ | ⟨r, heq, ⟨htakes, head, hrecv⟩ | ⟨-, -, hnone⟩⟩ :=
      t.worker.takes_cases cfg parseUuid m
    · rw [heq] at hcmd
      cases hcmd
    · have hdue := h.due
      rw [hm.taken htakes] at hdue
      have hlen := h.length
      rw [Channel.items_of_recv? hrecv, List.length_cons] at hlen
      obtain ⟨stamp, stamps, hstamps⟩ := List.exists_cons_of_length_eq_add_one hlen
      have hstamp : stamp = t.noticed := h.current stamp (by rw [hstamps]; exact List.mem_cons_self)
      show ¬t.stamps.headD 0 < t.due
      rw [hstamps, List.headD_cons, hstamp]
      omega
    · rw [heq] at hcmd
      rw [hnone] at hcmd
      cases hcmd
  | turn env pick | issue | report | packet messages | forward | toggle sent | degrade => cases hcmd

end Traced

/-- **No command outlives its session** where none is left behind: from the spawn of the worker, in
every run in which no command waits while the coordinator is handed a loss of the connection, and
the client takes none while such a loss waits to be handled, every command written was sent after
the coordinator had handled all losses reported before the session that writes it. -/
theorem session_writes_own {config : CoordinatorConfig} {ms : List WorkerMove}
    (h : (traced cfg parseUuid).Along (fun t m => t.Fresh m) (.start config) ms) :
    ∀ o ∈ (traced cfg parseUuid).outs (.start config) ms, ¬o.Outlived :=
  Machine.forall_mem_outs_of_inv (M := traced cfg parseUuid) (I := Traced.Ok)
    (fun _ _ hok hm => hok.step hm) (fun _ _ hok hm => hok.written hm) h (Traced.ok_start config)

end

/-! ### Two runs -/

/-- The user mutes in VRChat, and the coordinator sends a `SetMute`. -/
def answered : List WorkerMove := established ++ muteSelf ++ [takeEvent, .issue]

/-- The client takes a command. -/
def takeCommand : WorkerMove := .discord (.run (quiet "n6") (.command none none))

/-- The pipe is lost, the coordinator is told, and the next session is established. -/
def reconnected : List WorkerMove :=
  [.discord (.run (quiet "n6") (.lost .pipeClosed)), .report, takeEvent, .discord .woken, .report,
    takeEvent, .discord (.connected none), .discord (.restored (some "m1")),
    seedReply "SUBSCRIBE" "m1" "m2" none, seedReply "SUBSCRIBE" "m2" "m3" none,
    seedReply "SUBSCRIBE" "m3" "m4" none,
    seedReply "GET_VOICE_SETTINGS" "m4" "m5" (some (.object [("mute", .bool true)])),
    .report, .report]

/-- **A command waits while the pipe is lost**, and the next session writes it, though the
coordinator has forgotten it. -/
theorem next_session_writes_stale_command :
    ¬∀ ms : List WorkerMove,
      ∀ o ∈ (traced ⟨"1"⟩ fun _ => none).outs (.start .default) ms, ¬o.Outlived := by
  intro h
  have hstale : ∃ o ∈ (traced ⟨"1"⟩ fun _ => none).outs (.start .default)
      (answered ++ reconnected ++ [takeCommand]), o.Outlived := by
    decide +kernel
  obtain ⟨o, ho, houtlived⟩ := hstale
  exact h _ o ho houtlived

/-- A command that is taken before the pipe is lost is written by its own session only. -/
theorem session_writes_own_taken :
    let ms := answered ++ [takeCommand] ++ reconnected ++ [takeCommand]
    ((traced ⟨"1"⟩ fun _ => none).outs (.start .default) ms).length = 1 ∧
      ∀ o ∈ (traced ⟨"1"⟩ fun _ => none).outs (.start .default) ms, ¬o.Outlived :=
  ⟨by decide +kernel, session_writes_own (by decide +kernel)⟩

end VoxShift.App
