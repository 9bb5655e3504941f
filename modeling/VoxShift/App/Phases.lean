import VoxShift.App.Worker
import VoxShift.Theory.Transit

/-!
# The phases of a Discord session

What `discord_supervisor` and the client in it tell the coordinator, as a protocol: a
session begins with `Connecting`, and either ends in the same breath or is seeded, and then
`Connected`; only after that come the replies to the coordinator's commands and the changes
of the voice channel; and it ends with `Disconnected`. Between two sessions the supervisor
waits.

## What is proved

* `Supervisor.accept_step` — one step of the supervisor keeps to the protocol.
* `waits_since_handshake` — in every run, the waits since the last handshake are the start of
  the ladder `DISCORD_BACKOFF_SECS`, and then its last rung.
-/

namespace VoxShift.App

open VoxShift.Core VoxShift.Discord VoxShift.Theory

/-! ### The protocol -/

/-- Where a session is, for the coordinator. -/
inductive Phase where
  /-- There is none. -/
  | down
  /-- It is being set up. -/
  | connecting
  /-- It is seeded, and that has not been said yet. -/
  | seeded
  | up
  deriving DecidableEq, Repr

/-- The phase after an event; `none` where it is not the time for it. -/
def Phase.after : Phase → CoordinatorEvent → Option Phase
  | .down, .discordConnectionChanged .connecting => some .connecting
  | .connecting, .discordVoiceStateUnavailable _ => some .connecting
  | .connecting, .discordVoiceSettingsUpdate _ => some .seeded
  | .connecting, .discordConnectionChanged .connected => some .up
  | .connecting, .discordConnectionChanged .disconnected => some .down
  | .seeded, .discordConnectionChanged .connected => some .up
  | .up, .discordVoiceStateUnavailable _ => some .up
  | .up, .discordVoiceSettingsUpdate _ => some .up
  | .up, .discordVoiceChannelStatus _ => some .up
  | .up, .discordCommandAck _ (.error _) => some .up
  | .up, .discordConnectionChanged .disconnected => some .down
  | _, _ => none

/-- The events of a session that is up. -/
def Ordinary (ev : CoordinatorEvent) : Prop := Phase.up.after ev = some .up

/-! ### The client -/

/-- The client is in the seeding it begins with. -/
def seedsFirst : RunState → Bool
  | .subscribing first _ _ _ => first
  | .fetching first _ => first
  | _ => false

/-- Where the session is, for one who has heard everything the client has said. -/
def clientPhase (client : RunState) : Phase := if seedsFirst client then .connecting else .up

section Client

variable {cfg : AuthConfig} {parseUuid : String → Option Uuid}

theorem seedsFirst_subscribe (first : Bool) (nonce : String) (evts : List String) :
    seedsFirst (subscribe first nonce evts).1 = first := by
  cases evts <;> rfl

theorem not_seedsFirst_authorized (env : RunEnv) (r : Resumed AuthorizeState) :
    seedsFirst (RunState.authorized env r).1 = false := by
  unfold RunState.authorized
  split
  · exact seedsFirst_subscribe false env.nonce _
  · rfl
  · rfl
  · rfl

theorem ordinary_forwardVoiceSettings (msg : RpcMessage) :
    ∀ ev ∈ forwardVoiceSettings msg, Ordinary ev := by
  unfold forwardVoiceSettings
  split
  · simp
  · split
    · simp [Ordinary, Phase.after]
    · simp

theorem ordinary_handleIncomingFrame (payload : Option RpcMessage) :
    ∀ ev ∈ handleIncomingFrame parseUuid payload, Ordinary ev := by
  unfold handleIncomingFrame
  split
  · simp
  · next msg =>
    split_ifs
    · split <;> simp [Ordinary, Phase.after]
    · exact ordinary_forwardVoiceSettings msg
    · simp [Ordinary, Phase.after]
    · simp
    · exact ordinary_forwardVoiceSettings msg
    · simp

/-- A complaint is heard while the session is set up, and when it is up. -/
theorem accept_reportCommandError {p : Phase} (hp : p = .connecting ∨ p = .up) (msg : RpcMessage)
    (context : String) : accept Phase.after p (reportCommandError msg context) = some p := by
  unfold reportCommandError
  rcases hp with rfl | rfl <;> split <;> rfl

theorem ordinary_fetched (msg : RpcMessage) : ∀ ev ∈ fetched msg, Ordinary ev := by
  unfold fetched reportCommandError
  split_ifs
  · split <;> simp [Ordinary, Phase.after]
  · exact ordinary_forwardVoiceSettings msg

theorem accept_seeded (msg : RpcMessage) :
    accept Phase.after .connecting (fetched msg ++ [.discordConnectionChanged .connected]) =
      some .up := by
  unfold fetched
  split_ifs
  · rw [accept_append, accept_reportCommandError (.inl rfl)]
    rfl
  · unfold forwardVoiceSettings
    split
    · rfl
    · split <;> rfl

theorem ordinary_authorized (env : RunEnv) (r : Resumed AuthorizeState) :
    ∀ ev ∈ Discord.events (RunState.authorized env r).2, Ordinary ev := by
  unfold RunState.authorized
  split
  · obtain ⟨-, hevents, -⟩ := RunState.subscribe_cases false env.nonce SUBSCRIBED_EVENTS
    simp only [subscribeAndSeedState, events_append, events_map_action, hevents]
    simp
  · simp only [events_append, events_map_action]
    simp [Discord.events, Output.event?, Ordinary, Phase.after]
  · simp
  · simp

/-- What the client says leads from the phase `p` to that of its state, or of a session about to
end. -/
def KeepsTo (p : Phase) (r : RunState × List Output) : Prop :=
  ∃ q, accept Phase.after p (Discord.events r.2) = some q ∧ (q = .connecting ∨ q = .up) ∧
    ((∃ err, r.1 = .returned err) ∨ q = clientPhase r.1)

theorem clientPhase_cases (s : RunState) : clientPhase s = .connecting ∨ clientPhase s = .up := by
  unfold clientPhase
  split_ifs
  · exact .inl rfl
  · exact .inr rfl

theorem keepsTo_same (s : RunState) : KeepsTo (clientPhase s) (s, []) :=
  ⟨clientPhase s, rfl, clientPhase_cases s, .inr rfl⟩

theorem keepsTo_returned (s : RunState) (err : DiscordError) :
    KeepsTo (clientPhase s) (.returned err, []) :=
  ⟨clientPhase s, rfl, clientPhase_cases s, .inl ⟨err, rfl⟩⟩

theorem keepsTo_up {r : RunState × List Output} (h : ∀ ev ∈ Discord.events r.2, Ordinary ev)
    (hr : seedsFirst r.1 = false) : KeepsTo .up r := by
  refine ⟨.up, accept_of_stays h, .inr rfl, .inr ?_⟩
  rw [clientPhase, hr]
  rfl

/-- **One step of the client** keeps to the protocol. -/
theorem keepsTo_client (s : RunState) (env : RunEnv) (m : RunMove) :
    KeepsTo (clientPhase s) (s.step cfg parseUuid env m) := by
  cases s with
  | select =>
    unfold RunState.step
    split
    · exact keepsTo_up (ordinary_authorized env _) (not_seedsFirst_authorized env _)
    · simp only [RunState.selected]
      split
      · refine keepsTo_up ?_ rfl
        rw [events_map_event]
        exact ordinary_handleIncomingFrame _
      · exact keepsTo_returned .select _
      · exact keepsTo_up (by simp [Discord.events, Output.event?]) rfl
      · exact keepsTo_returned .select _
      · exact keepsTo_returned .select _
      · exact keepsTo_same .select
  | subscribing first evt rest nonce =>
    obtain ⟨msg, heq⟩ | ⟨err, heq⟩ | heq :=
      RunState.step_subscribing_cases first evt rest nonce env m
    · have hphase : clientPhase (subscribe first env.nonce rest).1 =
          clientPhase (.subscribing first evt rest nonce) := by
        rw [clientPhase, seedsFirst_subscribe]
        rfl
      rw [heq]
      refine ⟨_, ?_, clientPhase_cases _, .inr hphase.symm⟩
      rw [events_append, events_map_event, (RunState.subscribe_cases first env.nonce rest).2.1,
        List.append_nil]
      exact accept_reportCommandError (clientPhase_cases _) msg _
    · rw [heq]
      exact keepsTo_returned _ err
    · rw [heq]
      exact keepsTo_same _
  | fetching first nonce =>
    obtain ⟨msg, -, -, heq⟩ | ⟨err, heq⟩ | heq := RunState.step_fetching_cases first nonce env m
    · rw [heq]
      cases first with
      | true =>
        refine ⟨.up, ?_, .inr rfl, .inr rfl⟩
        rw [events_map_event]
        exact accept_seeded msg
      | false =>
        refine keepsTo_up ?_ rfl
        rw [events_map_event, seeded, if_neg Bool.false_ne_true, List.append_nil]
        exact ordinary_fetched msg
    · rw [heq]
      exact keepsTo_returned _ err
    · rw [heq]
      exact keepsTo_same _
  | authorizing flow nonce =>
    unfold RunState.step
    split
    · exact keepsTo_up (ordinary_authorized env _) (not_seedsFirst_authorized env _)
    · exact keepsTo_same _
  | returned err => exact keepsTo_same _
  | panicked => exact keepsTo_same _

end Client

/-! ### The supervisor -/

/-- Where the session is, for one who has heard everything the supervisor has said; a supervisor
that has panicked says nothing any more. -/
def SessionState.phase? : SessionState → Option Phase
  | .connecting | .restoring => some .connecting
  | .running client => some (clientPhase client)
  | .sleeping _ => some .down
  | .panicked => none

/-- The phase is that of the supervisor, if it has one. -/
def Fits (s : Supervisor) (p : Phase) : Prop := ∀ q, s.state.phase? = some q → p = q

namespace Supervisor

variable {cfg : AuthConfig} {parseUuid : String → Option Uuid}

theorem fits_of_phase {s : Supervisor} {p : Phase} (h : s.state.phase? = some p) : Fits s p :=
  fun _ hq => Option.some.inj (h.symm.trans hq)

/-- A session ends, or comes to nothing. -/
theorem accept_retry (attempt : ℕ) {p : Phase} (hp : p = .connecting ∨ p = .up) :
    accept Phase.after p (Discord.events (retry attempt).2) = some .down := by
  rcases hp with rfl | rfl <;> rfl

theorem accept_ran (attempt : ℕ) {p : Phase} {r : RunState × List Output} (h : KeepsTo p r) :
    ∃ q, accept Phase.after p (Discord.events (ran attempt r).2) = some q ∧
      Fits (ran attempt r).1 q := by
  obtain ⟨q, haccept, hq, hnext⟩ := h
  unfold ran
  split
  · refine ⟨.down, ?_, fits_of_phase rfl⟩
    rw [events_append, accept_append, haccept]
    exact accept_retry attempt hq
  · exact ⟨q, haccept, fun _ hq => by cases hq⟩
  · next client hclient _ =>
    refine ⟨q, haccept, fits_of_phase ?_⟩
    rcases hnext with ⟨err, herr⟩ | hphase
    · exact absurd herr (hclient err)
    · exact congrArg some hphase.symm

variable (cfg parseUuid) in
/-- **One step of the supervisor** keeps to the protocol. -/
theorem accept_step (s : Supervisor) (m : SupervisorMove) (p : Phase) (hs : Fits s p) :
    ∃ q, accept Phase.after p (Discord.events (s.step cfg parseUuid m).2) = some q ∧
      Fits (s.step cfg parseUuid m).1 q := by
  have hsame : ∃ q, accept Phase.after p [] = some q ∧ Fits s q := ⟨p, rfl, hs⟩
  unfold step
  cases m with
  | connected failed =>
    simp only
    split
    · next hstate =>
      obtain rfl : p = .connecting := hs _ (by rw [hstate]; rfl)
      exact ⟨.connecting, rfl, fits_of_phase rfl⟩
    · next hstate =>
      obtain rfl : p = .connecting := hs _ (by rw [hstate]; rfl)
      exact ⟨.down, accept_retry s.attempt (.inl rfl), fits_of_phase rfl⟩
    · exact hsame
  | restored nonce =>
    simp only
    split
    · next nonce hstate =>
      obtain rfl : p = .connecting := hs _ (by rw [hstate]; rfl)
      obtain ⟨-, hevents, -⟩ := RunState.subscribe_cases true nonce SUBSCRIBED_EVENTS
      refine accept_ran s.attempt ⟨.connecting, ?_, .inl rfl, .inr rfl⟩
      rw [subscribeAndSeedState, hevents]
      rfl
    · exact ⟨p, rfl, fun _ hq => by cases hq⟩
    · exact hsame
  | run env m =>
    simp only
    split
    · next client hstate =>
      obtain rfl : p = clientPhase client := hs _ (by rw [hstate]; rfl)
      exact accept_ran s.attempt (keepsTo_client client env m)
    · exact hsame
  | woken =>
    simp only
    split
    · next secs hstate =>
      obtain rfl : p = .down := hs _ (by rw [hstate]; rfl)
      exact ⟨.connecting, rfl, fits_of_phase rfl⟩
    · exact hsame

end Supervisor

/-! ### The waits between two sessions -/

/-- The wait before the next attempt, after this many since the last handshake. -/
def backoff (waits : ℕ) : ℕ :=
  DISCORD_BACKOFF_SECS.getD (min waits (DISCORD_BACKOFF_SECS.length - 1)) 0

/-- A handshake, or a wait of so many seconds. -/
inductive Mark where
  | handshake
  | wait (secs : ℕ)
  deriving DecidableEq, Repr

/-- The waits since the last handshake, if each is that of the ladder. -/
def Mark.after (waits : ℕ) : Mark → Option ℕ
  | .handshake => some 0
  | .wait secs => if secs = backoff waits then some (waits + 1) else none

/-- The waits since the last handshake, in order. -/
def sinceHandshake (marks : List Mark) : List ℕ :=
  marks.foldl (fun waits mark =>
    match mark with
    | .handshake => []
    | .wait secs => waits ++ [secs]) []

/-- Marks that keep to the ladder leave waits that climb it. -/
theorem sinceHandshake_of_accept {n : ℕ} {marks : List Mark}
    (h : accept Mark.after 0 marks = some n) :
    sinceHandshake marks = (List.range n).map backoff := by
  induction marks using List.reverseRecOn generalizing n with
  | nil =>
    obtain rfl := Option.some.inj h
    rfl
  | append_singleton marks mark ih =>
    rw [accept_append] at h
    obtain ⟨waits, hwaits, hlast⟩ := Option.bind_eq_some_iff.mp h
    unfold sinceHandshake at ih ⊢
    rw [List.foldl_append, ih hwaits]
    cases mark with
    | handshake =>
      obtain rfl := Option.some.inj hlast
      rfl
    | wait secs =>
      rw [accept_cons, Mark.after] at hlast
      split_ifs at hlast with hsecs
      · obtain rfl := Option.some.inj hlast
        rw [List.range_succ, List.map_append, hsecs]
        rfl
      · cases hlast

namespace Supervisor

variable (cfg : AuthConfig) (parseUuid : String → Option Uuid)

/-- The handshake a move makes, or the wait it begins. -/
def marks (s : Supervisor) (m : SupervisorMove) : List Mark :=
  match s.state, (s.step cfg parseUuid m).1.state with
  | .connecting, .restoring => [.handshake]
  | .sleeping _, _ => []
  | _, .sleeping secs => [.wait secs]
  | _, _ => []

variable {cfg : AuthConfig} {parseUuid : String → Option Uuid}

theorem accept_wait (attempt : ℕ) :
    accept Mark.after attempt [.wait (backoff attempt)] = some (attempt + 1) := by
  rw [accept_cons, Mark.after, if_pos rfl]
  rfl

theorem ran_cases (attempt : ℕ) (r : RunState × List Output) :
    (ran attempt r).1 = ⟨.sleeping (backoff attempt), attempt + 1⟩ ∨
      (ran attempt r).1 = ⟨.panicked, attempt⟩ ∨
      ∃ client, (ran attempt r).1 = ⟨.running client, attempt⟩ := by
  unfold ran
  split
  · exact .inl rfl
  · exact .inr (.inl rfl)
  · exact .inr (.inr ⟨_, rfl⟩)

theorem accept_marks_ran {s : Supervisor} {m : SupervisorMove} {r : RunState × List Output}
    (hawake : ∀ secs, s.state ≠ .sleeping secs) (hopen : s.state ≠ .connecting)
    (heq : s.step cfg parseUuid m = ran s.attempt r) :
    accept Mark.after s.attempt (s.marks cfg parseUuid m) =
      some (s.step cfg parseUuid m).1.attempt := by
  obtain ⟨state, attempt⟩ := s
  unfold marks
  rw [heq]
  rcases ran_cases attempt r with hr | hr | ⟨client, hr⟩
  · rw [hr]
    cases state with
    | sleeping secs => exact absurd rfl (hawake secs)
    | connecting => exact absurd rfl hopen
    | restoring | running client | panicked => exact accept_wait attempt
  · rw [hr]
    cases state <;> rfl
  · rw [hr]
    cases state <;> rfl

/-- **One step of the supervisor** keeps to the ladder. -/
theorem accept_marks (s : Supervisor) (m : SupervisorMove) :
    accept Mark.after s.attempt (s.marks cfg parseUuid m) =
      some (s.step cfg parseUuid m).1.attempt := by
  obtain ⟨state, attempt⟩ := s
  cases m with
  | connected failed =>
    cases state with
    | connecting =>
      cases failed with
      | none => rfl
      | some err => exact accept_wait attempt
    | restoring | running client | sleeping secs | panicked => rfl
  | restored nonce =>
    cases state with
    | restoring =>
      cases nonce with
      | none => rfl
      | some nonce =>
        exact accept_marks_ran (r := subscribeAndSeedState true nonce) (by simp) (by simp) rfl
    | connecting | running client | sleeping secs | panicked => rfl
  | run env m =>
    cases state with
    | running client =>
      exact accept_marks_ran (r := client.step cfg parseUuid env m) (by simp) (by simp) rfl
    | connecting | restoring | sleeping secs | panicked => rfl
  | woken => cases state <;> rfl

end Supervisor

/-! ### The worker -/

namespace Worker

variable (cfg : AuthConfig) (parseUuid : String → Option Uuid)

/-- What the supervisor does on a move, if it is told anything. -/
def supervised (w : Worker) : WorkerMove → Option SupervisorMove
  | .discord m =>
    match w.reporting, w.told m with
    | [], some (m, _) => some m
    | _, _ => none
  | _ => none

/-- The handshake a move makes, or the wait it begins. -/
def marks (w : Worker) (m : WorkerMove) : List Mark :=
  (w.supervised m).elim [] (w.supervisor.marks cfg parseUuid)

variable {cfg parseUuid}

theorem supervisor_step (w : Worker) (m : WorkerMove) :
    (w.step cfg parseUuid m).1.supervisor =
      (w.supervised m).elim w.supervisor fun m => (w.supervisor.step cfg parseUuid m).1 := by
  cases m with
  | discord m =>
    show (w.discord cfg parseUuid m).1.supervisor = _
    simp only [discord, supervised]
    cases w.reporting with
    | cons ev rest => rfl
    | nil => cases w.told m <;> rfl
  | turn env pick =>
    show (w.turn env pick).supervisor = w.supervisor
    unfold turn
    split <;> rfl
  | issue =>
    show w.issue.supervisor = w.supervisor
    obtain ⟨heq, -⟩ | ⟨_, _, _, -, -, heq⟩ | ⟨_, _, _, -, -, heq⟩ := w.issue_cases <;> rw [heq]
  | packet messages =>
    show (w.packet messages).supervisor = w.supervisor
    unfold packet
    split <;> rfl
  | toggle sent =>
    show (w.toggle sent).supervisor = w.supervisor
    unfold toggle
    split <;> rfl
  | report | forward | degrade => rfl

/-- **One move** keeps to the ladder. -/
theorem accept_marks (w : Worker) (m : WorkerMove) :
    accept Mark.after w.supervisor.attempt (w.marks cfg parseUuid m) =
      some (w.step cfg parseUuid m).1.supervisor.attempt := by
  rw [supervisor_step, marks]
  cases w.supervised m with
  | none => rfl
  | some m => exact w.supervisor.accept_marks m

end Worker

/-- **The waits climb the ladder.** In every run of the worker, the waits since the last handshake,
or since the start, are the first ones of `DISCORD_BACKOFF_SECS`, and after them its last one. -/
theorem waits_since_handshake (cfg : AuthConfig) (parseUuid : String → Option Uuid)
    (config : CoordinatorConfig) (ms : List WorkerMove) :
    let waits := sinceHandshake
      ((worker cfg parseUuid).collect (Worker.marks cfg parseUuid) (.start config) ms)
    waits = (List.range waits.length).map backoff := by
  intro waits
  obtain ⟨n, haccept, -⟩ : ∃ n, accept Mark.after 0
      ((worker cfg parseUuid).collect (Worker.marks cfg parseUuid) (.start config) ms) = some n ∧
      ((worker cfg parseUuid).run (.start config) ms).supervisor.attempt = n :=
    (worker cfg parseUuid).accept_collect (fun w n => w.supervisor.attempt = n)
      (fun w m n hn => ⟨_, hn ▸ w.accept_marks m, rfl⟩)
      (rfl : (Worker.start config).supervisor.attempt = 0) ms
  have hwaits : waits = (List.range n).map backoff := sinceHandshake_of_accept haccept
  rw [hwaits, List.length_map, List.length_range]

end VoxShift.App
