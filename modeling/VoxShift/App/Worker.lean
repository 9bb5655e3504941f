import VoxShift.Core.Coordinator
import VoxShift.Discord.Run
import VoxShift.Theory.Channel

/-!
# The worker

`voxshift-app`'s `worker.rs`: the tasks that `spawn_worker` puts on the worker
thread and the channels between them. These are the coordinator's loop,
`discord_supervisor` with the Discord client in it, and from `voxshift-vrchat` the
receive loop and the command loop.

## The model

* Each task handles one thing at a time. What it has still to send while it does so is
  its outbox: `issuing` for the coordinator, `reporting`, `forwarding` and `degrading`
  for the three adapters. With a message in its outbox a task does nothing but send it.
* A move is one task going on from where it waits. Which task goes on, and what a
  `select!` takes, is up to the run; a move that is not possible does nothing.
* A step of the coordinator or of the client leaves its messages in the outbox when it
  is done. In the source `try_initial_sync` and `resync_from_vrchat` stamp `last_sync_at`
  and publish after their send: a snapshot that no task reads comes out earlier here.
* A panic of the supervisor takes the receiver of its commands with it. Here the queue
  stays open, so that what is said of the `SetMute`s in it is said of a worker whose
  supervisor has not panicked.
* The task of the UI is not modelled: its commands come at any time, and so do the
  packets from VRChat. After `Shutdown` the worker ends; a run goes on as if it had
  been ignored.
* Of `try_restore_session` the supervisor only logs what it returns, so it is one move.
-/

namespace VoxShift.App

open VoxShift.Core VoxShift.Discord VoxShift.Theory

/-- `mpsc::channel::<CoordinatorEvent>(64)`. -/
abbrev EventChannel := Channel CoordinatorEvent 64

/-- `mpsc::channel::<VrChatCommand>(16)` and `mpsc::channel::<DiscordCommand>(16)`. -/
abbrev CommandChannel (α : Type) := Channel α 16

/-! ### `discord_supervisor` -/

/-- `DISCORD_BACKOFF_SECS`. -/
def DISCORD_BACKOFF_SECS : List ℕ := [1, 2, 5, 10, 15, 30]

/-- Where `discord_supervisor` can be suspended, apart from its sends. -/
inductive SessionState where
  /-- In `discover_and_connect` or in `handshake`. -/
  | connecting
  /-- In `try_restore_session`. -/
  | restoring
  /-- In `client.run`. -/
  | running (client : RunState)
  /-- In `tokio::time::sleep`. -/
  | sleeping (secs : ℕ)
  /-- Ended by a panic. -/
  | panicked

/-- `discord_supervisor`. -/
structure Supervisor where
  state : SessionState
  attempt : ℕ

/-- What happens to the supervisor. -/
inductive SupervisorMove where
  /-- `discover_and_connect` and `handshake` have succeeded, or one of them failed. -/
  | connected (failed : Option DiscordError)
  /-- `try_restore_session` has returned, or it has panicked; the nonce is that of the next
  command. -/
  | restored (nonce : Option String)
  /-- The client goes on. -/
  | run (env : RunEnv) (m : RunMove)
  /-- The sleep is over. -/
  | woken

namespace Supervisor

/-- The head of the loop. -/
def connect (attempt : ℕ) : Supervisor × List Output :=
  (⟨.connecting, attempt⟩, [.event (.discordConnectionChanged .connecting)])

/-- The foot of the loop, up to the sleep. -/
def retry (attempt : ℕ) : Supervisor × List Output :=
  let secs := DISCORD_BACKOFF_SECS.getD (min attempt (DISCORD_BACKOFF_SECS.length - 1)) 0
  (⟨.sleeping secs, attempt + 1⟩, [.event (.discordConnectionChanged .disconnected)])

/-- The client has gone on. -/
def ran (attempt : ℕ) (r : RunState × List Output) : Supervisor × List Output :=
  match r.1 with
  | .returned _ => ((retry attempt).1, r.2 ++ (retry attempt).2)
  | .panicked => (⟨.panicked, attempt⟩, r.2)
  | client => (⟨.running client, attempt⟩, r.2)

/-- `discord_supervisor` from one suspension to the next. -/
def step (cfg : AuthConfig) (parseUuid : String → Option Uuid) (s : Supervisor) :
    SupervisorMove → Supervisor × List Output
  | .connected failed =>
    match s.state, failed with
    | .connecting, none => (⟨.restoring, 0⟩, [])
    | .connecting, some _ => retry s.attempt
    | _, _ => (s, [])
  | .restored nonce =>
    match s.state, nonce with
    | .restoring, some nonce => ran s.attempt (subscribeAndSeedState true nonce)
    | .restoring, none => (⟨.panicked, s.attempt⟩, [])
    | _, _ => (s, [])
  | .run env m =>
    match s.state with
    | .running client => ran s.attempt (client.step cfg parseUuid env m)
    | _ => (s, [])
  | .woken =>
    match s.state with
    | .sleeping _ => connect s.attempt
    | _ => (s, [])

variable {cfg : AuthConfig} {parseUuid : String → Option Uuid}

theorem commands_ran (attempt : ℕ) (r : RunState × List Output) :
    commands (ran attempt r).2 = commands r.2 := by
  unfold ran
  split
  · exact (commands_append r.2 _).trans (List.append_nil _)
  · rfl
  · rfl

/-- The supervisor writes a command only where its client takes one. -/
theorem commands_step (s : Supervisor) {m : SupervisorMove}
    (h : ∀ env cmd failed, m ≠ .run env (.command cmd failed)) :
    commands (s.step cfg parseUuid m).2 = [] := by
  unfold step
  cases m with
  | connected failed =>
    simp only
    split <;> rfl
  | restored nonce =>
    simp only
    split
    · exact commands_ran s.attempt _
    · rfl
    · rfl
  | run env m =>
    simp only
    split
    · next client _ =>
      rw [commands_ran]
      exact client.commands_step env fun cmd failed heq => h env cmd failed (heq ▸ rfl)
    · rfl
  | woken =>
    simp only
    split <;> rfl

/-- The client is at its `select!`. -/
def atSelect (s : Supervisor) : Bool :=
  match s.state with
  | .running client => client.atSelect
  | _ => false

end Supervisor

/-! ### The tasks together -/

/-- `ParsedOscEvent`. -/
inductive ParsedOscEvent where
  | muteSelf (state : MuteState)
  | avatarChanged

/-- The event `receive_loop` sends. -/
def ParsedOscEvent.event : ParsedOscEvent → CoordinatorEvent
  | .muteSelf state => .vrChatMuteSelf state
  | .avatarChanged => .vrChatAvatarChanged

/-- The tasks and the channels between them. -/
structure Worker where
  coordinator : Coordinator
  /-- The commands the coordinator has still to send. -/
  issuing : List Command
  /-- `event_rx`. -/
  events : EventChannel
  /-- `vrchat_cmd_rx`. -/
  vrchatCommands : CommandChannel VrChatCommand
  /-- `discord_cmd_rx`. -/
  discordCommands : CommandChannel DiscordCommand
  supervisor : Supervisor
  /-- The events the supervisor, or the client in it, has still to send. -/
  reporting : List CoordinatorEvent
  /-- The events `receive_loop` has still to send. -/
  forwarding : List CoordinatorEvent
  /-- The event `run_command_loop` has still to send, if there is one. -/
  degrading : List CoordinatorEvent

/-- What the coordinator's `select!` takes. -/
inductive Pick where
  | event
  | command (cmd : CoordinatorCommand)
  | timeout

/-- What happens next. -/
inductive WorkerMove where
  /-- The coordinator takes something. -/
  | turn (env : Env) (pick : Pick)
  /-- The coordinator's send goes through. -/
  | issue
  /-- The supervisor goes on. A command its client takes is the first one of the queue. -/
  | discord (m : SupervisorMove)
  /-- The supervisor's send goes through. -/
  | report
  /-- `receive_loop` gets a packet. -/
  | packet (messages : List ParsedOscEvent)
  /-- Its send goes through. -/
  | forward
  /-- `run_command_loop` takes a command, and the packets for it are sent or not. -/
  | toggle (sent : Bool)
  /-- Its send goes through. -/
  | degrade

/-- What the coordinator is handed, and the events left. -/
def Pick.input (events : EventChannel) : Pick → Option (Input × EventChannel)
  | .event => events.recv?.map fun (ev, rest) => (.event ev, rest)
  | .command cmd => some (.command cmd, events)
  | .timeout => some (.timeout, events)

namespace Worker

/-- A turn of the coordinator's loop, up to its sends. -/
def turn (w : Worker) (env : Env) (pick : Pick) : Worker :=
  match w.issuing, pick.input w.events with
  | [], some (i, rest) =>
    { w with
      coordinator := (w.coordinator.step env i).1
      issuing := (w.coordinator.step env i).2
      events := rest }
  | _, _ => w

/-- The coordinator's next send. -/
def issue (w : Worker) : Worker :=
  match w.issuing with
  | [] => w
  | .vrchat cmd :: rest =>
    match w.vrchatCommands.send? cmd with
    | some vrchatCommands => { w with vrchatCommands := vrchatCommands, issuing := rest }
    | none => w
  | .discord cmd :: rest =>
    match w.discordCommands.send? cmd with
    | some discordCommands => { w with discordCommands := discordCommands, issuing := rest }
    | none => w

/-- What the supervisor is told, and the commands left; `none` if it waits for something else. -/
def told (w : Worker) : SupervisorMove → Option (SupervisorMove × CommandChannel DiscordCommand)
  | .run env (.command _ failed) =>
    if w.supervisor.atSelect then
      w.discordCommands.recv?.map fun (cmd, rest) => (.run env (.command (some cmd) failed), rest)
    else none
  | m => some (m, w.discordCommands)

/-- The supervisor goes on, up to its sends. -/
def discord (cfg : AuthConfig) (parseUuid : String → Option Uuid) (w : Worker)
    (m : SupervisorMove) :
    Worker × List Output :=
  match w.reporting, w.told m with
  | [], some (m, rest) =>
    let (supervisor, outs) := w.supervisor.step cfg parseUuid m
    ({ w with supervisor := supervisor, reporting := Discord.events outs, discordCommands := rest },
      outs)
  | _, _ => (w, [])

/-- The supervisor's next send. -/
def report (w : Worker) : Worker :=
  { w with reporting := (w.events.offer w.reporting).1, events := (w.events.offer w.reporting).2 }

/-- `receive_loop` gets a packet. -/
def packet (w : Worker) (messages : List ParsedOscEvent) : Worker :=
  match w.forwarding with
  | [] => { w with forwarding := messages.map ParsedOscEvent.event }
  | _ :: _ => w

/-- The next send of `receive_loop`. -/
def forward (w : Worker) : Worker :=
  { w with forwarding := (w.events.offer w.forwarding).1, events :=
    (w.events.offer w.forwarding).2 }

/-- `run_command_loop` takes a command. -/
def toggle (w : Worker) (sent : Bool) : Worker :=
  match w.degrading, w.vrchatCommands.recv? with
  | [], some (_, rest) =>
    { w with
      vrchatCommands := rest
      degrading := if sent then [] else [.vrChatConnectionChanged .degraded] }
  | _, _ => w

/-- The next send of `run_command_loop`. -/
def degrade (w : Worker) : Worker :=
  { w with degrading := (w.events.offer w.degrading).1, events := (w.events.offer w.degrading).2 }

/-- One move. -/
def step (cfg : AuthConfig) (parseUuid : String → Option Uuid) (w : Worker) :
    WorkerMove → Worker × List Output
  | .turn env pick => (w.turn env pick, [])
  | .issue => (w.issue, [])
  | .discord m => w.discord cfg parseUuid m
  | .report => (w.report, [])
  | .packet messages => (w.packet messages, [])
  | .forward => (w.forward, [])
  | .toggle sent => (w.toggle sent, [])
  | .degrade => (w.degrade, [])

/-- The worker just spawned: the supervisor is about to report that it connects. -/
def start (cfg : CoordinatorConfig) : Worker where
  coordinator := .new cfg
  issuing := []
  events := .empty
  vrchatCommands := .empty
  discordCommands := .empty
  supervisor := (Supervisor.connect 0).1
  reporting := Discord.events (Supervisor.connect 0).2
  forwarding := []
  degrading := []

/-! ### What a move does -/

variable {cfg : AuthConfig} {parseUuid : String → Option Uuid}

/-- A turn is a step of the coordinator on what it is handed; or there is a command to send first,
or no event to be handed. -/
theorem turn_cases (w : Worker) (env : Env) (pick : Pick) :
    (w.turn env pick = w ∧ (w.issuing ≠ [] ∨ pick.input w.events = none)) ∨
      ∃ r, w.issuing = [] ∧ pick.input w.events = some r ∧
        w.turn env pick =
          { w with
            coordinator := (w.coordinator.step env r.1).1
            issuing := (w.coordinator.step env r.1).2
            events := r.2 } := by
  unfold turn
  split
  · next i rest hi hr => exact .inr ⟨(i, rest), hi, hr, rfl⟩
  · next hno =>
    refine .inl ⟨rfl, ?_⟩
    by_cases hi : w.issuing = []
    · cases hr : pick.input w.events with
      | none => exact .inr rfl
      | some r => exact (hno r.1 r.2 hi hr).elim
    · exact .inl hi

theorem turn_of_issuing {w : Worker} (h : w.issuing ≠ []) (env : Env) (pick : Pick) :
    w.turn env pick = w := by
  obtain ⟨heq, -⟩ | ⟨r, hi, -, -⟩ := w.turn_cases env pick
  · exact heq
  · exact absurd hi h

/-- The supervisor goes on with what it is told; or there is an event to send first, or no command
to be told. -/
theorem discord_cases (cfg : AuthConfig) (parseUuid : String → Option Uuid) (w : Worker)
    (m : SupervisorMove) :
    (w.discord cfg parseUuid m = (w, []) ∧ (w.reporting ≠ [] ∨ w.told m = none)) ∨
      ∃ r, w.reporting = [] ∧ w.told m = some r ∧
        w.discord cfg parseUuid m =
          ({ w with
              supervisor := (w.supervisor.step cfg parseUuid r.1).1
              reporting := Discord.events (w.supervisor.step cfg parseUuid r.1).2
              discordCommands := r.2 },
            (w.supervisor.step cfg parseUuid r.1).2) := by
  unfold discord
  split
  · next m' rest hr ht => exact .inr ⟨(m', rest), hr, ht, rfl⟩
  · next hno =>
    refine .inl ⟨rfl, ?_⟩
    by_cases hr : w.reporting = []
    · cases ht : w.told m with
      | none => exact .inr rfl
      | some r => exact (hno r.1 r.2 hr ht).elim
    · exact .inl hr

/-- A send of the coordinator is blocked, or it puts the first command into its channel. -/
theorem issue_cases (w : Worker) :
    (w.issue = w ∧ ∀ cmd rest, w.issuing = .discord cmd :: rest → w.discordCommands.Full) ∨
      (∃ cmd rest vrchatCommands, w.issuing = .vrchat cmd :: rest ∧
        w.vrchatCommands.send? cmd = some vrchatCommands ∧
        w.issue = { w with vrchatCommands := vrchatCommands, issuing := rest }) ∨
      ∃ cmd rest discordCommands, w.issuing = .discord cmd :: rest ∧
        w.discordCommands.send? cmd = some discordCommands ∧
        w.issue = { w with discordCommands := discordCommands, issuing := rest } := by
  unfold issue
  split
  · next h => exact .inl ⟨rfl, fun cmd rest heq => by rw [h] at heq; cases heq⟩
  · next cmd rest h =>
    cases hs : w.vrchatCommands.send? cmd with
    | none => exact .inl ⟨rfl, fun cmd rest heq => by rw [h] at heq; cases heq⟩
    | some vrchatCommands => exact .inr (.inl ⟨cmd, rest, vrchatCommands, h, hs, rfl⟩)
  · next cmd rest h =>
    cases hs : w.discordCommands.send? cmd with
    | none => exact .inl ⟨rfl, fun _ _ _ => Channel.send?_eq_none.mp hs⟩
    | some discordCommands => exact .inr (.inr ⟨cmd, rest, discordCommands, h, hs, rfl⟩)

theorem packet_cases (w : Worker) (messages : List ParsedOscEvent) :
    w.packet messages = w ∨
      w.packet messages = { w with forwarding := messages.map ParsedOscEvent.event } := by
  unfold packet
  split
  · exact .inr rfl
  · exact .inl rfl

theorem toggle_cases (w : Worker) (sent : Bool) :
    w.toggle sent = w ∨ ∃ cmd rest, w.vrchatCommands.recv? = some (cmd, rest) ∧
      w.degrading = [] ∧ w.toggle sent =
        { w with
          vrchatCommands := rest
          degrading := if sent then [] else [.vrChatConnectionChanged .degraded] } := by
  unfold toggle
  split
  · next cmd rest hdeg hrecv => exact .inr ⟨cmd, rest, hrecv, hdeg, rfl⟩
  · exact .inl rfl

end Worker

/-- The worker as a machine; it emits what goes over the pipe, and the supervisor's events. -/
def worker (cfg : AuthConfig) (parseUuid : String → Option Uuid) :
    Machine Worker WorkerMove Output where
  step := Worker.step cfg parseUuid

/-! ### The first moves of a run -/

/-- A reply to a command of the seeding. -/
def seedReply (cmd nonce next : String) (data : Option Json) : WorkerMove :=
  .discord (.run (quiet next) (.frame .frame (.ok (commandReply cmd nonce data))))

/-- The coordinator takes an event. -/
def takeEvent : WorkerMove := .turn ⟨0, 0, 0⟩ .event

/-- The session is established, and Discord is muted. -/
def established : List WorkerMove :=
  [.report, .discord (.connected none), .discord (.restored (some "n1")),
    seedReply "SUBSCRIBE" "n1" "n2" none, seedReply "SUBSCRIBE" "n2" "n3" none,
    seedReply "SUBSCRIBE" "n3" "n4" none,
    seedReply "GET_VOICE_SETTINGS" "n4" "n5" (some (.object [("mute", .bool true)])),
    .report, .report, takeEvent, takeEvent, takeEvent]

/-- The user mutes in VRChat, too. -/
def muteSelf : List WorkerMove := [.packet [.muteSelf .muted], .forward]

end VoxShift.App
