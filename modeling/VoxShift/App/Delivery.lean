import VoxShift.App.Phases
import VoxShift.App.Reconnect
import VoxShift.Core.Peers

/-!
# Exactly once, in order

Three tasks send events to the coordinator over one channel, and the coordinator
sends commands to two of them. Every send may have to wait, and a task that waits
may be overtaken by the others.

## What is proved

* `origin_step` — each task sends events of its own kinds.
* `events_conserved` — in every run, what a task had put into its outbox is, in
  order, what the coordinator was handed of its kinds, then what waits in the
  channel, then what is left in the outbox.
* `handed_in_sessions` — so what the coordinator is handed of Discord keeps to the
  protocol of its sessions, in every run.
* `commands_conserved` — and so for the commands of each kind, from the coordinator
  to the task that takes them.
* `written_exactly_once` — so with no `SetMute` on its way, and no failed write, each
  one issued has been written to the pipe once, in the order of their issue.
-/

namespace VoxShift.App

open VoxShift.Core VoxShift.Discord VoxShift.Theory

/-! ### Whose events -/

/-- The task that sends an event. -/
inductive Origin where
  /-- `receive_loop`. -/
  | receiveLoop
  /-- `run_command_loop`. -/
  | commandLoop
  /-- `discord_supervisor`, or the client in it. -/
  | supervisor
  deriving DecidableEq, Repr

/-- The task that sends events of this kind. -/
def origin : CoordinatorEvent → Origin
  | .vrChatMuteSelf _ | .vrChatAvatarChanged => .receiveLoop
  | .vrChatConnectionChanged _ => .commandLoop
  | .discordVoiceSettingsUpdate _ | .discordVoiceChannelStatus _ | .discordConnectionChanged _
  | .discordCommandAck _ _ | .discordVoiceStateUnavailable _ => .supervisor

/-- An event that is accepted in any phase of a session is the supervisor's. -/
theorem origin_of_after {p : Phase} {ev : CoordinatorEvent} (h : (p.after ev).isSome) :
    origin ev = .supervisor := by
  cases ev with
  | vrChatMuteSelf _ | vrChatAvatarChanged | vrChatConnectionChanged _ => cases p <;> cases h
  | discordVoiceSettingsUpdate _ | discordVoiceChannelStatus _ | discordConnectionChanged _
  | discordCommandAck _ _ | discordVoiceStateUnavailable _ => rfl

/-- The supervisor sends events of its own kinds. -/
theorem origin_step {cfg : AuthConfig} {parseUuid : String → Option Uuid} (s : Supervisor)
    (m : SupervisorMove) :
    ∀ ev ∈ Discord.events (s.step cfg parseUuid m).2, origin ev = .supervisor := by
  intro ev hev
  obtain ⟨p, hp⟩ : ∃ p, Fits s p := ⟨s.state.phase?.getD .down, fun q hq => by rw [hq]; rfl⟩
  obtain ⟨q, haccept, -⟩ := s.accept_step cfg parseUuid m p hp
  obtain ⟨r, hr⟩ := after_of_mem (by rw [haccept]; rfl) hev
  exact origin_of_after hr

/-! ### Events -/

namespace Worker

/-- The events a task has still to send. -/
def outbox (o : Origin) (w : Worker) : List CoordinatorEvent :=
  match o with
  | .receiveLoop => w.forwarding
  | .commandLoop => w.degrading
  | .supervisor => w.reporting

/-- What a move puts into a task's outbox. -/
def posts (cfg : AuthConfig) (parseUuid : String → Option Uuid) (o : Origin) (w : Worker)
    (m : WorkerMove) : List CoordinatorEvent :=
  match o, m with
  | .receiveLoop, .packet messages =>
    if w.forwarding = [] then messages.map ParsedOscEvent.event else []
  | .commandLoop, .toggle false =>
    if w.degrading = [] ∧ w.vrchatCommands.items ≠ [] then [.vrChatConnectionChanged .degraded]
    else []
  | .supervisor, .discord m => Discord.events (w.discord cfg parseUuid m).2
  | _, _ => []

/-- The event the coordinator is handed, if a task sent it. -/
def handed (o : Origin) (w : Worker) (m : WorkerMove) : List CoordinatorEvent :=
  (w.handles m).toList.filter (origin · = o)

/-- What is on its way from a task to the coordinator. -/
def inTransit (o : Origin) (w : Worker) : List CoordinatorEvent :=
  w.events.items.filter (origin · = o) ++ w.outbox o

/-- Each task's outbox holds events of its own kinds. -/
def Sorted (w : Worker) : Prop := ∀ o, ∀ ev ∈ w.outbox o, origin ev = o

theorem sorted_start (config : CoordinatorConfig) : (start config).Sorted := by
  intro o ev hev
  cases o with
  | receiveLoop | commandLoop => cases hev
  | supervisor =>
    rw [List.mem_singleton.mp hev]
    rfl

section Steps

variable {cfg : AuthConfig} {parseUuid : String → Option Uuid}

/-- A send of one task takes its event from the outbox to the end of the channel; of the other
tasks' events nothing changes. -/
theorem filter_offer (events : EventChannel) {outbox : List CoordinatorEvent} {o : Origin}
    (h : ∀ ev ∈ outbox, origin ev = o) (o' : Origin) :
    (events.offer outbox).2.items.filter (origin · = o') ++
        (if o' = o then (events.offer outbox).1 else []) =
      events.items.filter (origin · = o') ++ (if o' = o then outbox else []) := by
  obtain ⟨moved, hitems, hmoved⟩ := events.offer_moves outbox
  have hkind : ∀ ev ∈ moved, origin ev = o := fun ev hev =>
    h ev (hmoved ▸ List.mem_append_left _ hev)
  rw [hitems, List.filter_append]
  split_ifs with he
  · have hall : moved.filter (origin · = o') = moved :=
      List.filter_eq_self.mpr fun ev hev => by simp [hkind ev hev, he]
    rw [hall, List.append_assoc, ← hmoved]
  · have hnone : moved.filter (origin · = o') = [] :=
      List.filter_eq_nil_iff.mpr fun ev hev => by simp [hkind ev hev, Ne.symm he]
    rw [hnone, List.append_nil]

/-- A move that hands the coordinator nothing, and touches neither the channel nor the outbox. -/
theorem conserved_of_same {o : Origin} {w w' : Worker} {m : WorkerMove}
    (hposts : w.posts cfg parseUuid o m = []) (hhanded : w.handles m = none)
    (hevents : w'.events = w.events) (houtbox : w'.outbox o = w.outbox o) :
    w.inTransit o ++ w.posts cfg parseUuid o m = w.handed o m ++ w'.inTransit o := by
  unfold inTransit handed
  rw [hposts, hhanded, hevents, houtbox, List.append_nil]
  rfl

theorem conserved_of_post {o : Origin} {w w' : Worker} {m : WorkerMove}
    (hempty : w.outbox o = []) (hhanded : w.handles m = none) (hevents : w'.events = w.events)
    (houtbox : w'.outbox o = w.posts cfg parseUuid o m) :
    w.inTransit o ++ w.posts cfg parseUuid o m = w.handed o m ++ w'.inTransit o := by
  unfold inTransit handed
  rw [hempty, hhanded, hevents, houtbox, List.append_nil]
  rfl

/-- A turn of the coordinator takes the first event of the channel, or none. -/
theorem conserved_turn (o : Origin) (w : Worker) (env : Env) (pick : Pick) :
    w.inTransit o ++ w.posts cfg parseUuid o (.turn env pick) =
      w.handed o (.turn env pick) ++ (w.turn env pick).inTransit o := by
  have hposts : w.posts cfg parseUuid o (.turn env pick) = [] := by cases o <;> rfl
  have houtbox : (w.turn env pick).outbox o = w.outbox o := by
    obtain ⟨heq, -⟩ | ⟨r, -, -, heq⟩ := w.turn_cases env pick
    · rw [heq]
    · rw [heq]
      cases o <;> rfl
  obtain ⟨-, ⟨hnone, hevents⟩ | ⟨ev, hsome, hitems⟩⟩ := w.handles_cases env pick
  · exact conserved_of_same hposts hnone hevents houtbox
  · unfold inTransit handed
    rw [hposts, hsome, hitems, houtbox, List.append_nil, ← List.append_assoc,
      ← List.filter_append]
    rfl

/-- A send of an event, by the task `o'`. -/
theorem conserved_send (o' : Origin) {o : Origin} {w w' : Worker} {m : WorkerMove} (h : w.Sorted)
    (hposts : w.posts cfg parseUuid o m = []) (hhanded : w.handles m = none)
    (hevents : w'.events = (w.events.offer (w.outbox o')).2)
    (houtbox : w'.outbox o' = (w.events.offer (w.outbox o')).1)
    (hother : o ≠ o' → w'.outbox o = w.outbox o) :
    w.inTransit o ++ w.posts cfg parseUuid o m = w.handed o m ++ w'.inTransit o := by
  have hfilter := filter_offer w.events (h o') o
  unfold inTransit handed
  rw [hposts, hhanded, hevents, List.append_nil]
  show _ = [] ++ _
  rw [List.nil_append]
  by_cases ho : o = o'
  · subst ho
    rw [if_pos rfl, if_pos rfl] at hfilter
    rw [houtbox, hfilter]
  · rw [if_neg ho, if_neg ho, List.append_nil, List.append_nil] at hfilter
    rw [hother ho, hfilter]

theorem toggle_or (w : Worker) (sent : Bool) :
    (w.toggle sent = w ∧ (w.degrading ≠ [] ∨ w.vrchatCommands.items = [])) ∨
      ∃ cmd rest, w.degrading = [] ∧ w.vrchatCommands.items = cmd :: rest.items ∧
        w.toggle sent =
          { w with
            vrchatCommands := rest
            degrading := if sent then [] else [.vrChatConnectionChanged .degraded] } := by
  unfold toggle
  split
  · next cmd rest hdeg hrecv =>
    exact .inr ⟨cmd, rest, hdeg, Channel.items_of_recv? hrecv, rfl⟩
  · next hno =>
    refine .inl ⟨rfl, ?_⟩
    by_cases hdeg : w.degrading = []
    · cases hrecv : w.vrchatCommands.recv? with
      | none => exact .inr (Channel.recv?_eq_none.mp hrecv)
      | some r => exact (hno r.1 r.2 hdeg hrecv).elim
    · exact .inl hdeg

/-- **One move** loses no event and makes none up. -/
theorem conserved_step (o : Origin) {w : Worker} (h : w.Sorted) (m : WorkerMove) :
    w.inTransit o ++ w.posts cfg parseUuid o m =
      w.handed o m ++ (w.step cfg parseUuid m).1.inTransit o := by
  cases m with
  | turn env pick => exact conserved_turn o w env pick
  | issue =>
    have hsame : w.issue.events = w.events ∧ w.issue.outbox o = w.outbox o := by
      obtain ⟨heq, -⟩ | ⟨_, _, _, -, -, heq⟩ | ⟨_, _, _, -, -, heq⟩ := w.issue_cases <;> rw [heq]
      · exact ⟨rfl, rfl⟩
      · exact ⟨rfl, by cases o <;> rfl⟩
      · exact ⟨rfl, by cases o <;> rfl⟩
    exact conserved_of_same (by cases o <;> rfl) rfl hsame.1 hsame.2
  | discord m =>
    show _ = _ ++ (w.discord cfg parseUuid m).1.inTransit o
    obtain ⟨heq, -⟩ | ⟨r, hr, -, heq⟩ := w.discord_cases cfg parseUuid m
    · refine conserved_of_same ?_ rfl (by rw [heq]) (by rw [heq])
      cases o with
      | receiveLoop | commandLoop => rfl
      | supervisor => exact congrArg (fun r => Discord.events r.2) heq
    · cases o with
      | receiveLoop | commandLoop =>
        exact conserved_of_same rfl rfl (by rw [heq]) (by rw [heq]; rfl)
      | supervisor =>
        refine conserved_of_post hr rfl (by rw [heq]) ?_
        show (w.discord cfg parseUuid m).1.reporting =
          Discord.events (w.discord cfg parseUuid m).2
        rw [heq]
  | report =>
    refine conserved_send .supervisor h (by cases o <;> rfl) rfl rfl rfl fun ho => ?_
    cases o with
    | receiveLoop | commandLoop => rfl
    | supervisor => exact absurd rfl ho
  | forward =>
    refine conserved_send .receiveLoop h (by cases o <;> rfl) rfl rfl rfl fun ho => ?_
    cases o with
    | commandLoop | supervisor => rfl
    | receiveLoop => exact absurd rfl ho
  | degrade =>
    refine conserved_send .commandLoop h (by cases o <;> rfl) rfl rfl rfl fun ho => ?_
    cases o with
    | receiveLoop | supervisor => rfl
    | commandLoop => exact absurd rfl ho
  | packet messages =>
    show _ = _ ++ (w.packet messages).inTransit o
    unfold packet
    split
    · next hf =>
      cases o with
      | receiveLoop => exact conserved_of_post hf rfl rfl (if_pos hf).symm
      | commandLoop | supervisor => exact conserved_of_same rfl rfl rfl rfl
    · next ev rest hf =>
      refine conserved_of_same ?_ rfl rfl rfl
      cases o with
      | receiveLoop => exact if_neg (by rw [hf]; exact List.cons_ne_nil _ _)
      | commandLoop | supervisor => rfl
  | toggle sent =>
    show _ = _ ++ (w.toggle sent).inTransit o
    obtain ⟨heq, hno⟩ | ⟨cmd, rest, hdeg, hitems, heq⟩ := w.toggle_or sent
    · refine conserved_of_same ?_ rfl (by rw [heq]) (by rw [heq])
      cases o with
      | commandLoop =>
        cases sent with
        | true => rfl
        | false => exact if_neg fun hboth => hno.elim (absurd hboth.1) hboth.2
      | receiveLoop | supervisor => rfl
    · have hne : w.vrchatCommands.items ≠ [] := by
        rw [hitems]
        exact List.cons_ne_nil _ _
      cases o with
      | commandLoop =>
        refine conserved_of_post hdeg rfl (by rw [heq]) ?_
        rw [heq]
        cases sent with
        | true => rfl
        | false => exact (if_pos ⟨hdeg, hne⟩).symm
      | receiveLoop | supervisor => exact conserved_of_same rfl rfl (by rw [heq]) (by rw [heq]; rfl)

theorem origin_posts (o : Origin) (w : Worker) (m : WorkerMove) :
    ∀ ev ∈ w.posts cfg parseUuid o m, origin ev = o := by
  unfold posts
  split
  · split_ifs
    · intro ev hev
      obtain ⟨message, -, rfl⟩ := List.mem_map.mp hev
      cases message <;> rfl
    · simp
  · split_ifs
    · intro ev hev
      rw [List.mem_singleton.mp hev]
      rfl
    · simp
  · next m =>
    obtain ⟨heq, -⟩ | ⟨r, -, -, heq⟩ := w.discord_cases cfg parseUuid m
    · rw [heq]
      simp [Discord.events]
    · rw [heq]
      exact origin_step w.supervisor r.1
  · simp

theorem Sorted.step {w : Worker} (h : w.Sorted) (m : WorkerMove) :
    (w.step cfg parseUuid m).1.Sorted := by
  intro o ev hev
  have hmem : ev ∈ w.inTransit o ++ w.posts cfg parseUuid o m := by
    rw [conserved_step o h m]
    exact List.mem_append_right _ (List.mem_append_right _ hev)
  rcases List.mem_append.mp hmem with hold | hnew
  · rcases List.mem_append.mp hold with hchannel | houtbox
    · exact of_decide_eq_true (List.mem_filter.mp hchannel).2
    · exact h o ev houtbox
  · exact origin_posts o w m ev hnew

variable (cfg parseUuid) in
theorem conserved_run (config : CoordinatorConfig) (o : Origin) (ms : List WorkerMove) :
    (start config).inTransit o ++
        (worker cfg parseUuid).collect (posts cfg parseUuid o) (start config) ms =
      (worker cfg parseUuid).collect (handed o) (start config) ms ++
        ((worker cfg parseUuid).run (start config) ms).inTransit o := by
  have hstep : (worker cfg parseUuid).Along (fun w m =>
      w.inTransit o ++ w.posts cfg parseUuid o m =
        w.handed o m ++ ((worker cfg parseUuid).next w m).inTransit o) (start config) ms :=
    Machine.Along.mono_of_inv (M := worker cfg parseUuid) (I := Sorted)
      (fun _ m h _ => h.step m) (fun _ m h _ => conserved_step o h m)
      ((worker cfg parseUuid).along_all (fun _ _ => trivial) _ ms) (sorted_start config)
  exact hstep.conserved

theorem accept_posts (w : Worker) (m : WorkerMove) (p : Phase) (hp : Fits w.supervisor p) :
    ∃ q, accept Phase.after p (w.posts cfg parseUuid .supervisor m) = some q ∧
      Fits (w.step cfg parseUuid m).1.supervisor q := by
  have hposts : w.posts cfg parseUuid .supervisor m = (w.supervised m).elim [] fun m =>
      Discord.events (w.supervisor.step cfg parseUuid m).2 := by
    cases m with
    | discord m =>
      simp only [posts, discord, supervised]
      cases w.reporting with
      | cons ev rest => rfl
      | nil => cases w.told m <;> rfl
    | turn _ _ | issue | report | packet _ | forward | toggle _ | degrade => rfl
  rw [hposts, supervisor_step]
  cases w.supervised m with
  | none => exact ⟨p, rfl, hp⟩
  | some m => exact w.supervisor.accept_step cfg parseUuid m p hp

end Steps

end Worker

/-- **No event is lost, repeated or overtaken by another of the same task.** In every run of the
worker, what a task has put into its outbox is, in order, what the coordinator has been handed of
its kinds, what waits in the event channel, and what is left in the outbox. -/
theorem events_conserved (cfg : AuthConfig) (parseUuid : String → Option Uuid)
    (config : CoordinatorConfig) (ms : List WorkerMove) (o : Origin) :
    let w := (worker cfg parseUuid).run (.start config) ms
    (Worker.start config).outbox o ++
        (worker cfg parseUuid).collect (Worker.posts cfg parseUuid o) (.start config) ms =
      (worker cfg parseUuid).collect (Worker.handed o) (.start config) ms ++
        (w.events.items.filter (origin · = o) ++ w.outbox o) :=
  Worker.conserved_run cfg parseUuid config o ms

/-- **Sessions, one after another.** In every run of the worker, what the coordinator is handed
of Discord keeps to the protocol: each session begins with `Connecting`; while it is set up there
are complaints, then at most one voice setting, and `Connected`; only after that there are replies
and changes of the channel; and it ends with `Disconnected`, before the next one begins. -/
theorem handed_in_sessions (cfg : AuthConfig) (parseUuid : String → Option Uuid)
    (config : CoordinatorConfig) (ms : List WorkerMove) :
    (accept Phase.after .down
      ((worker cfg parseUuid).collect (Worker.handed .supervisor) (.start config) ms)).isSome := by
  obtain ⟨q, haccept, -⟩ : ∃ q, accept Phase.after .connecting
      ((worker cfg parseUuid).collect (Worker.posts cfg parseUuid .supervisor) (.start config) ms) =
        some q ∧ Fits ((worker cfg parseUuid).run (.start config) ms).supervisor q :=
    (worker cfg parseUuid).accept_collect (fun w p => Fits w.supervisor p)
      (fun w m p hp => w.accept_posts m p hp) (Supervisor.fits_of_phase rfl) ms
  refine accept_of_append (((worker cfg parseUuid).run (.start config) ms).inTransit .supervisor) ?_
  rw [← Worker.conserved_run cfg parseUuid config .supervisor ms, accept_append]
  show ((some Phase.connecting).bind _).isSome
  rw [Option.bind_some, haccept]
  rfl

/-! ### Commands -/

namespace Worker

/-- The commands a move makes the coordinator issue. -/
def issues (w : Worker) : WorkerMove → List Command
  | .turn env pick =>
    match w.issuing, pick.input w.events with
    | [], some (i, _) => (w.coordinator.step env i).2
    | _, _ => []
  | _ => []

/-- The toggle `run_command_loop` takes. -/
def toggles (w : Worker) : WorkerMove → List VrChatCommand
  | .toggle _ => if w.degrading = [] then w.vrchatCommands.items.head?.toList else []
  | _ => []

/-- The `SetMute` the client takes. -/
def setMutes (w : Worker) (m : WorkerMove) : List DiscordCommand :=
  if w.takes m then w.discordCommands.items.head?.toList else []

/-- The toggles on their way from the coordinator. -/
def togglesInTransit (w : Worker) : List VrChatCommand :=
  w.vrchatCommands.items ++ w.issuing.filterMap Command.vrchat?

/-- The `SetMute`s on their way from the coordinator. -/
def setMutesInTransit (w : Worker) : List DiscordCommand :=
  w.discordCommands.items ++ w.issuing.filterMap Command.discord?

section Steps

variable {cfg : AuthConfig} {parseUuid : String → Option Uuid}

theorem issues_turn (w : Worker) (env : Env) (pick : Pick) :
    (w.turn env pick).issuing = w.issuing ++ w.issues (.turn env pick) ∧
      (w.turn env pick).vrchatCommands = w.vrchatCommands ∧
      (w.turn env pick).discordCommands = w.discordCommands := by
  obtain ⟨heq, hno⟩ | ⟨r, hi, hr, heq⟩ := w.turn_cases env pick
  · have hnone : w.issues (.turn env pick) = [] := by
      unfold issues
      simp only
      split
      · next i rest hi hr =>
        rcases hno with hne | hnil
        · exact absurd hi hne
        · rw [hr] at hnil
          cases hnil
      · rfl
    rw [heq, hnone]
    exact ⟨(List.append_nil _).symm, rfl, rfl⟩
  · rw [heq]
    refine ⟨?_, rfl, rfl⟩
    unfold issues
    simp only [hi, hr]
    rfl

/-- **One move** loses no toggle and makes none up. -/
theorem toggles_step (w : Worker) (m : WorkerMove) :
    w.togglesInTransit ++ (w.issues m).filterMap Command.vrchat? =
      w.toggles m ++ (w.step cfg parseUuid m).1.togglesInTransit := by
  cases m with
  | turn env pick =>
    obtain ⟨hissuing, hchannel, -⟩ := w.issues_turn env pick
    show _ = [] ++ (w.turn env pick).togglesInTransit
    unfold togglesInTransit
    rw [hissuing, hchannel, List.filterMap_append, List.append_assoc, List.nil_append]
  | issue =>
    show w.togglesInTransit ++ [] = [] ++ w.issue.togglesInTransit
    rw [List.append_nil, List.nil_append]
    obtain ⟨heq, -⟩ | ⟨cmd, rest, ch, hi, hs, heq⟩ | ⟨cmd, rest, ch, hi, -, heq⟩ := w.issue_cases
    · rw [heq]
    · rw [heq]
      unfold togglesInTransit
      rw [hi, Channel.items_of_send? hs, List.append_assoc]
      rfl
    · rw [heq]
      unfold togglesInTransit
      rw [hi]
      rfl
  | toggle sent =>
    show w.togglesInTransit ++ [] =
      (if w.degrading = [] then w.vrchatCommands.items.head?.toList else []) ++
        (w.toggle sent).togglesInTransit
    rw [List.append_nil]
    obtain ⟨heq, hno⟩ | ⟨cmd, rest, hdeg, hitems, heq⟩ := w.toggle_or sent
    · rw [heq]
      rcases hno with hdeg | hnil
      · rw [if_neg hdeg]
        rfl
      · rw [hnil]
        exact (congrArg (· ++ w.togglesInTransit) (ite_self [])).symm
    · rw [heq, if_pos hdeg]
      unfold togglesInTransit
      rw [hitems]
      rfl
  | discord m =>
    show w.togglesInTransit ++ [] = [] ++ (w.discord cfg parseUuid m).1.togglesInTransit
    rw [List.append_nil, List.nil_append]
    obtain ⟨heq, -⟩ | ⟨r, -, -, heq⟩ := w.discord_cases cfg parseUuid m <;> rw [heq]
    rfl
  | packet messages =>
    show w.togglesInTransit ++ [] = [] ++ (w.packet messages).togglesInTransit
    rw [List.append_nil, List.nil_append]
    rcases w.packet_cases messages with heq | heq <;> rw [heq]
    rfl
  | report | forward | degrade => exact List.append_nil _

/-- **One move** loses no `SetMute` and makes none up. -/
theorem setMutes_step (w : Worker) (m : WorkerMove) :
    w.setMutesInTransit ++ (w.issues m).filterMap Command.discord? =
      w.setMutes m ++ (w.step cfg parseUuid m).1.setMutesInTransit := by
  cases m with
  | turn env pick =>
    obtain ⟨hissuing, -, hchannel⟩ := w.issues_turn env pick
    show _ = [] ++ (w.turn env pick).setMutesInTransit
    unfold setMutesInTransit
    rw [hissuing, hchannel, List.filterMap_append, List.append_assoc, List.nil_append]
  | issue =>
    show w.setMutesInTransit ++ [] = [] ++ w.issue.setMutesInTransit
    rw [List.append_nil, List.nil_append]
    obtain ⟨heq, -⟩ | ⟨cmd, rest, ch, hi, -, heq⟩ | ⟨cmd, rest, ch, hi, hs, heq⟩ := w.issue_cases
    · rw [heq]
    · rw [heq]
      unfold setMutesInTransit
      rw [hi]
      rfl
    · rw [heq]
      unfold setMutesInTransit
      rw [hi, Channel.items_of_send? hs, List.append_assoc]
      rfl
  | discord m =>
    show w.setMutesInTransit ++ [] =
      w.setMutes (.discord m) ++ (w.discord cfg parseUuid m).1.setMutesInTransit
    rw [List.append_nil]
    unfold setMutes
    obtain ⟨heq, hno⟩ | ⟨r, heq, ⟨htakes, head, hrecv⟩ | ⟨hno, hsame, -⟩⟩ :=
      takes_cases cfg parseUuid w m
    · rw [heq, hno]
      rfl
    · rw [heq, if_pos htakes]
      unfold setMutesInTransit
      rw [Channel.items_of_recv? hrecv]
      rfl
    · rw [heq, hno]
      unfold setMutesInTransit
      rw [hsame]
      rfl
  | packet messages =>
    show w.setMutesInTransit ++ [] = [] ++ (w.packet messages).setMutesInTransit
    rw [List.append_nil, List.nil_append]
    rcases w.packet_cases messages with heq | heq <;> rw [heq]
    rfl
  | toggle sent =>
    show w.setMutesInTransit ++ [] = [] ++ (w.toggle sent).setMutesInTransit
    rw [List.append_nil, List.nil_append]
    obtain heq | ⟨cmd, rest, -, -, heq⟩ := w.toggle_cases sent <;> rw [heq]
    rfl
  | report | forward | degrade => exact List.append_nil _

/-- The write of the command the move takes goes through, if it takes one. -/
def Written : WorkerMove → Prop
  | .discord (.run _ (.command _ (some _))) => False
  | _ => True

instance : DecidablePred Written
  | .discord (.run _ (.command _ (some _))) => .isFalse id
  | .discord (.run _ (.command _ none)) => .isTrue trivial
  | .discord (.run _ (.frame _ _)) | .discord (.run _ (.lost _)) | .discord (.run _ (.authorize _))
  | .discord (.run _ (.answer _)) | .discord (.connected _) | .discord (.restored _)
  | .discord .woken => .isTrue trivial
  | .turn _ _ | .issue | .report | .packet _ | .forward | .toggle _ | .degrade => .isTrue trivial

theorem eq_select_of_atSelect {s : Supervisor} (h : s.atSelect) :
    s.state = .running .select := by
  unfold Supervisor.atSelect at h
  split at h
  · next client heq =>
    rw [heq]
    cases client <;> first | rfl | cases h
  · cases h

theorem eq_run_of_takes {w : Worker} {m : SupervisorMove} (h : w.takes (.discord m)) :
    ∃ env cmd failed, m = .run env (.command cmd failed) ∧ w.reporting = [] ∧
      w.supervisor.atSelect ∧ ∃ head rest, w.discordCommands.recv? = some (head, rest) := by
  unfold takes at h
  split at h
  · next env cmd failed heq =>
    obtain rfl := WorkerMove.discord.inj heq
    rw [Bool.and_eq_true, List.isEmpty_iff] at h
    obtain ⟨hr, htold⟩ := h
    unfold told at htold
    simp only at htold
    split_ifs at htold with hselect
    · obtain ⟨r, hsome⟩ := Option.isSome_iff_exists.mp htold
      obtain ⟨⟨head, rest⟩, hrecv, -⟩ := Option.map_eq_some_iff.mp hsome
      exact ⟨env, cmd, failed, rfl, hr, hselect, head, rest, hrecv⟩
    · cases htold
  · cases h

/-- A `SetMute` taken is written, if its write goes through; and nothing else is written. -/
theorem written_step (w : Worker) {m : WorkerMove} (h : Written m) :
    commands (w.step cfg parseUuid m).2 = (w.setMutes m).map handleDiscordCommand := by
  cases m with
  | discord m =>
    show commands (w.discord cfg parseUuid m).2 = _
    unfold setMutes
    obtain ⟨heq, hno⟩ | ⟨r, heq, ⟨htakes, -⟩ | ⟨hno, -, hnone⟩⟩ := takes_cases cfg parseUuid w m
    · rw [heq, hno]
      rfl
    · obtain ⟨env, cmd, failed, rfl, hr, hselect, head, rest, hrecv⟩ := eq_run_of_takes htakes
      cases failed with
      | some err => exact h.elim
      | none =>
        have htold : w.told (.run env (.command cmd none)) =
            some (.run env (.command (some head) none), rest) := by
          unfold told
          simp only [hselect, if_true, hrecv, Option.map_some]
        rw [if_pos htakes, Channel.items_of_recv? hrecv]
        unfold discord
        rw [hr, htold]
        simp only [Supervisor.step, eq_select_of_atSelect hselect, Supervisor.commands_ran]
        rfl
    · rw [heq, hno]
      exact hnone
  | turn _ _ | issue | report | packet _ | forward | toggle _ | degrade => rfl

end Steps

end Worker

section Runs

variable (cfg : AuthConfig) (parseUuid : String → Option Uuid) (config : CoordinatorConfig)

/-- The toggles on their way before a run, and those issued in it, are those taken in it and those
on their way after it. -/
theorem toggles_run (w : Worker) (ms : List WorkerMove) :
    w.togglesInTransit ++
        ((worker cfg parseUuid).collect Worker.issues w ms).filterMap Command.vrchat? =
      (worker cfg parseUuid).collect Worker.toggles w ms ++
        ((worker cfg parseUuid).run w ms).togglesInTransit := by
  rw [Machine.filterMap_collect]
  exact Machine.Along.conserved (M := worker cfg parseUuid)
    ((worker cfg parseUuid).along_all (@Worker.toggles_step cfg parseUuid) w ms)

theorem setMutes_run (w : Worker) (ms : List WorkerMove) :
    w.setMutesInTransit ++
        ((worker cfg parseUuid).collect Worker.issues w ms).filterMap Command.discord? =
      (worker cfg parseUuid).collect Worker.setMutes w ms ++
        ((worker cfg parseUuid).run w ms).setMutesInTransit := by
  rw [Machine.filterMap_collect]
  exact Machine.Along.conserved (M := worker cfg parseUuid)
    ((worker cfg parseUuid).along_all (@Worker.setMutes_step cfg parseUuid) w ms)

/-- **No command is lost, repeated or overtaken by another of its kind.** In every run of the
worker, the toggles the coordinator has issued are, in order, those `run_command_loop` has taken and
those on their way to it; and the `SetMute`s it has issued are those the client has taken, in
whichever sessions, and those on their way (while the supervisor has not panicked). -/
theorem commands_conserved (ms : List WorkerMove) :
    let issued := (worker cfg parseUuid).collect Worker.issues (.start config) ms
    let w := (worker cfg parseUuid).run (.start config) ms
    issued.filterMap Command.vrchat? =
        (worker cfg parseUuid).collect Worker.toggles (.start config) ms ++ w.togglesInTransit ∧
      issued.filterMap Command.discord? =
        (worker cfg parseUuid).collect Worker.setMutes (.start config) ms ++
          w.setMutesInTransit :=
  ⟨toggles_run cfg parseUuid (.start config) ms, setMutes_run cfg parseUuid (.start config) ms⟩

/-- **Written exactly once.** In every run in which no write of a command to the pipe fails and the
supervisor has not panicked, with no `SetMute` on its way at its end: what has been written to the
pipe, over all sessions, is the envelope of each `SetMute` the coordinator has issued, once and in
the order of their issue. -/
theorem written_exactly_once {ms : List WorkerMove} (hms : ∀ m ∈ ms, Worker.Written m)
    (hend : ((worker cfg parseUuid).run (.start config) ms).setMutesInTransit = []) :
    commands ((worker cfg parseUuid).outs (.start config) ms) =
      (((worker cfg parseUuid).collect Worker.issues (.start config) ms).filterMap
        Command.discord?).map handleDiscordCommand := by
  have htaken : ((worker cfg parseUuid).collect Worker.issues (.start config) ms).filterMap
      Command.discord? = (worker cfg parseUuid).collect Worker.setMutes (.start config) ms ++
        ((worker cfg parseUuid).run (.start config) ms).setMutesInTransit :=
    setMutes_run cfg parseUuid (.start config) ms
  rw [hend, List.append_nil] at htaken
  rw [htaken, ← Machine.collect_out, commands, Machine.filterMap_collect, Machine.map_collect]
  refine Machine.collect_congr (worker cfg parseUuid) ?_
  exact ((worker cfg parseUuid).along_of_forall _ hms).mono fun w m h => w.written_step h

end Runs

/-- VRChat is muted once the session is established and Discord seen muted: the one `SetMute` issued
is written. -/
theorem written_exactly_once_answered :
    let ms := answered ++ [takeCommand]
    commands ((worker ⟨"1"⟩ fun _ => none).outs (.start .default) ms) =
      (((worker ⟨"1"⟩ fun _ => none).collect Worker.issues (.start .default) ms).filterMap
        Command.discord?).map handleDiscordCommand :=
  written_exactly_once ⟨"1"⟩ (fun _ => none) .default (by decide) (by decide +kernel)

end VoxShift.App
