import VoxShift.Discord.Auth
import VoxShift.Discord.Frame
import VoxShift.Theory.Machine

/-!
# The Discord client's main loop

`voxshift-discord`'s `client.rs`: `send_command_with_evt`, the seeding, and
`DiscordRpcClient::run` with its `select!`.

## The model

* The client is a state for each point where it waits, and a step that runs it from
  there to the next one. In `select` it waits for any of three things; in the states
  of the request/response helper, for the reply with one nonce; in an exchange with
  the token endpoint, for the endpoint alone.
* A frame is what `read_frame` returns: the opcode, and the message or the text of the
  error `serde_json` gives for it. Frames arrive in the order of the inputs. A frame
  that comes while the pipe is not read stays there, and the step does nothing.
* A `write_all` that fails is followed by the loss of the pipe (`RunMove.lost`), except
  for a coordinator's command, where the failed write is part of the move.
* Events are listed in the order in which they are sent.

## What is proved

* `forwardVoiceSettings_updates` and `handleIncomingFrame_updates` — the loop forwards
  exactly the mute values the frames carry.
* `handleIncomingFrame_errorAck` — and reports exactly the error replies with a nonce.
* `watch_refines` — the history kept along a run does not disturb it.
* `reported_at_select` — in every run in which the helper drops no error reply to a
  `SetMute`, and no mute value that the rest of the errand does not replace, every
  return to `select` finds the last mute value and all error replies reported.
* `declined_authorization_loses_update` — a `VOICE_SETTINGS_UPDATE` that arrives while
  the consent dialog is open is lost when the user declines.
-/

namespace VoxShift.Discord

open VoxShift.Core VoxShift.Theory

/-! ### Texts -/

/-- `Display` of `DiscordError`. -/
def DiscordError.display : DiscordError → String
  | .pipeNotFound => "no discord named pipe found (tried discord-ipc-0..9)"
  | .pipeClosed => "discord named pipe closed"
  | .frame message => message
  | .json message => message
  | .io message => message
  | .unexpectedHandshakeResponse => "unexpected response during discord handshake"
  | .handshakeRejected message => "discord rejected the handshake: " ++ message
  | .commandFailed message => "discord command failed: " ++ message
  | .commandChannelClosed => "coordinator command channel closed"

/-- `Display` of `AuthError`. -/
def AuthError.display : AuthError → String
  | .notAuthorized => "discord did not authorize this application"
  | .rpcNotApproved =>
    "this application is not yet approved for RPC (or the tester limit was reached)"
  | .reauthorizationRequired => "refresh token is no longer valid; reauthorization is required"
  | .discordUnreachable => "could not reach discord's oauth2 endpoint"
  | .credentialStore message => "credential store error: " ++ message
  | .client err => err.display

/-! ### States and moves -/

/-- `SUBSCRIBED_EVENTS`. -/
def SUBSCRIBED_EVENTS : List String :=
  ["VOICE_SETTINGS_UPDATE", "VOICE_CHANNEL_SELECT", "VOICE_CONNECTION_STATUS"]

/-- Where `DiscordRpcClient::run` can be suspended. The seeding is the first one or not. -/
inductive RunState where
  /-- In `subscribe_and_seed_state`, waiting for the reply to the `SUBSCRIBE` to `evt`. -/
  | subscribing (first : Bool) (evt : String) (rest : List String) (nonce : String)
  /-- In `subscribe_and_seed_state`, waiting for the reply to `GET_VOICE_SETTINGS`. -/
  | fetching (first : Bool) (nonce : String)
  /-- In `select!`. -/
  | select
  /-- In `authorize_now`; `nonce` is the one of its last command. -/
  | authorizing (flow : AuthorizeState) (nonce : String)
  /-- `run` has returned. -/
  | returned (err : DiscordError)
  /-- Ended by a panic. -/
  | panicked

/-- What the client is told when it is resumed. -/
structure RunEnv where
  /-- For the authorization; its `reply` is not read. -/
  flow : FlowEnv
  /-- The token store. -/
  stored : Option StoredTokenSet
  /-- The text of the next `Uuid::new_v4`. -/
  nonce : String

/-- What happens to the client. -/
inductive RunMove where
  /-- `read_frame` returns a frame. -/
  | frame (opcode : OpCode) (payload : Except String RpcMessage)
  /-- `read_frame`, or the last write, fails. -/
  | lost (err : DiscordError)
  /-- `cmd_rx.recv()` returns; the write of the command may fail. -/
  | command (cmd : Option DiscordCommand) (failed : Option DiscordError)
  /-- `authorize_rx.recv()` returns. -/
  | authorize (request : Option Unit)
  /-- The token endpoint answers. -/
  | answer (response : Option HttpResponse)

/-- What the client does to the outside. -/
inductive Output where
  /-- An event sent to the coordinator. -/
  | event (e : CoordinatorEvent)
  /-- A coordinator's command written to the pipe. -/
  | command (cmd : OutboundCommand)
  /-- `write_command` for the seeding. -/
  | request (cmd : String) (evt : Option String) (nonce : String)
  /-- What `authorize_now` does. -/
  | action (a : Action)

/-! ### The seeding -/

/-- `report_command_error`. -/
def reportCommandError (resp : RpcMessage) (context : String) : List CoordinatorEvent :=
  match resp.code with
  | none => []
  | some code =>
    [.discordVoiceStateUnavailable
      ("Discord error " ++ context ++ " (code " ++ toString code ++ "): " ++ resp.message.getD "")]

/-- The loop of `subscribe_and_seed_state` with these events left, and the fetch after it. -/
def subscribe (first : Bool) (nonce : String) : List String → RunState × List Output
  | [] => (.fetching first nonce, [.request "GET_VOICE_SETTINGS" none nonce])
  | evt :: rest =>
    (.subscribing first evt rest nonce, [.request "SUBSCRIBE" (some evt) nonce])

/-- The head of `subscribe_and_seed_state`. -/
def subscribeAndSeedState (first : Bool) (nonce : String) : RunState × List Output :=
  subscribe first nonce SUBSCRIBED_EVENTS

/-- `subscribe_and_seed_state` from the reply to `GET_VOICE_SETTINGS` on. -/
def fetched (resp : RpcMessage) : List CoordinatorEvent :=
  if resp.code.isSome then reportCommandError resp "fetching discord voice settings"
  else forwardVoiceSettings resp

/-- The events a seeding ends with: the first one is followed by the connection's report. -/
def seeded (first : Bool) : List CoordinatorEvent :=
  if first then [.discordConnectionChanged .connected] else []

/-! ### The authorization -/

namespace RunState

/-- The nonce the request/response helper waits for. -/
def awaits : RunState → Option String
  | .subscribing _ _ _ nonce => some nonce
  | .fetching _ nonce => some nonce
  | .authorizing (.authorizing _) nonce => some nonce
  | .authorizing (.authenticating _) nonce => some nonce
  | _ => none

/-- The flow the move resumes, if it resumes `authorize_now`. -/
def resumes (s : RunState) (env : RunEnv) (m : RunMove) : Option (AuthorizeState × FlowEnv) :=
  match s, m with
  | .select, .authorize (some _) => some (.idle none, env.flow)
  | .authorizing (.exchanging code verifier none) _, .answer response =>
    some (.exchanging code verifier (some response), env.flow)
  | .authorizing flow nonce, .frame .frame (.ok msg) =>
    if s.awaits.isSome ∧ msg.nonce = some nonce then some (flow, { env.flow with reply := .ok msg })
    else none
  | .authorizing flow _, .frame .frame (.error message) =>
    if s.awaits.isSome then some (flow, { env.flow with reply := .error (.json message) }) else none
  | .authorizing flow _, .lost err =>
    if s.awaits.isSome then some (flow, { env.flow with reply := .error err }) else none
  | _, _ => none

/-- What `authorize_now` does on the move, if the move resumes it. -/
def authorizeNow (cfg : AuthConfig) (s : RunState) (env : RunEnv) (m : RunMove) :
    Option (Resumed AuthorizeState) :=
  (s.resumes env m).map fun (flow, fenv) => flow.resume cfg fenv env.stored

/-- `run` from a suspension or the return of `authorize_now` on. -/
def authorized (env : RunEnv) (r : Resumed AuthorizeState) : RunState × List Output :=
  match r.flow with
  | .idle (some (.ok _)) =>
    let (s, requests) := subscribeAndSeedState false env.nonce
    (s, r.actions.map .action ++ requests)
  | .idle (some (.error err)) =>
    (.select, r.actions.map .action ++
      [.event (.discordVoiceStateUnavailable ("Discord authorization failed: " ++ err.display))])
  | .panicked => (.panicked, r.actions.map .action)
  | flow => (.authorizing flow env.nonce, r.actions.map .action)

/-! ### `run` -/

/-- The branches of the `select!` other than a request for authorization. -/
def selected (parseUuid : String → Option Uuid) : RunMove → RunState × List Output
  | .frame .frame payload =>
    (.select, (handleIncomingFrame parseUuid payload.toOption).map .event)
  | .lost err => (.returned err, [])
  | .command (some cmd) none => (.select, [.command (handleDiscordCommand cmd)])
  | .command (some _) (some err) => (.returned err, [])
  | .command none _ => (.returned .commandChannelClosed, [])
  | _ => (.select, [])

/-- The request/response helper in the seeding: `onReply` is what follows the reply it waits for. -/
def awaiting (s : RunState) (nonce : String) (onReply : RpcMessage → RunState × List Output) :
    RunMove → RunState × List Output
  | .frame .frame (.ok msg) => if msg.nonce = some nonce then onReply msg else (s, [])
  | .frame .frame (.error message) => (.returned (.json message), [])
  | .lost err => (.returned err, [])
  | _ => (s, [])

/-- `run` from one suspension to the next. -/
def step (cfg : AuthConfig) (parseUuid : String → Option Uuid) (s : RunState) (env : RunEnv)
    (m : RunMove) : RunState × List Output :=
  match s.authorizeNow cfg env m with
  | some r => authorized env r
  | none =>
    match s with
    | .select => selected parseUuid m
    | .subscribing first evt rest nonce =>
      s.awaiting nonce (fun resp =>
        let (s', requests) := subscribe first env.nonce rest
        (s', (reportCommandError resp ("subscribing to " ++ evt)).map .event ++ requests)) m
    | .fetching first nonce =>
      s.awaiting nonce (fun resp => (.select, (fetched resp ++ seeded first).map .event)) m
    | .authorizing _ _ | .returned _ | .panicked => (s, [])

end RunState

/-- The client's main loop as a machine. -/
def client (cfg : AuthConfig) (parseUuid : String → Option Uuid) :
    Machine RunState (RunEnv × RunMove) Output where
  step s i := s.step cfg parseUuid i.1 i.2

/-! ### What frames carry -/

/-- A `VOICE_SETTINGS_UPDATE` event, or a reply to a voice-settings command, without an error
code. -/
def RpcMessage.IsVoiceSettings (msg : RpcMessage) : Prop :=
  msg.code = none ∧ (msg.evt = some "VOICE_SETTINGS_UPDATE" ∨
    msg.evt.all (· ∉ SUBSCRIBED_EVENTS) ∧
      (msg.cmd = some "GET_VOICE_SETTINGS" ∨ msg.cmd = some "SET_VOICE_SETTINGS"))

instance (msg : RpcMessage) : Decidable msg.IsVoiceSettings :=
  inferInstanceAs (Decidable (_ ∧ _))

/-- The mute value in the data of a message. -/
def RpcMessage.mute? (msg : RpcMessage) : Option MuteState :=
  msg.data.bind parseVoiceSettingsMute

/-- The event an error reply asks for: it names a nonce, and is no reply without one. -/
def RpcMessage.errorAck? (parseUuid : String → Option Uuid) (msg : RpcMessage) :
    Option (Uuid × CoordinatorEvent) :=
  if msg.code.isSome then
    (msg.nonce.bind parseUuid).map fun nonce =>
      (nonce, .discordCommandAck nonce (.error (msg.message.getD "discord rpc error")))
  else none

/-- The mute value an event tells the coordinator. -/
def mutedBy? : CoordinatorEvent → Option MuteState
  | .discordVoiceSettingsUpdate mute => some mute
  | _ => none

/-- The events among what the client does. -/
def Output.event? : Output → Option CoordinatorEvent
  | .event e => some e
  | _ => none

/-- The command among what the client does. -/
def Output.command? : Output → Option OutboundCommand
  | .command cmd => some cmd
  | _ => none

/-- The mute values told to the coordinator, in order. -/
def updates (events : List CoordinatorEvent) : List MuteState := events.filterMap mutedBy?

theorem updates_append (es fs : List CoordinatorEvent) :
    updates (es ++ fs) = updates es ++ updates fs := List.filterMap_append

@[simp] theorem updates_reportCommandError (resp : RpcMessage) (context : String) :
    updates (reportCommandError resp context) = [] := by
  unfold reportCommandError
  cases resp.code <;> rfl

@[simp] theorem updates_seeded (first : Bool) : updates (seeded first) = [] := by
  cases first <;> rfl

/-- `forward_voice_settings` forwards the value the message carries, and nothing else. -/
theorem forwardVoiceSettings_updates (msg : RpcMessage) :
    updates (forwardVoiceSettings msg) = msg.mute?.toList := by
  unfold forwardVoiceSettings RpcMessage.mute?
  cases msg.data with
  | none => rfl
  | some data =>
    simp only [Option.bind_some]
    cases parseVoiceSettingsMute data <;> rfl

/-- A message about one of the other subscribed events carries no voice settings. -/
theorem not_isVoiceSettings_of_evt {msg : RpcMessage} {evt : String} (hevt : msg.evt = some evt)
    (hmem : evt ∈ SUBSCRIBED_EVENTS) (hne : evt ≠ "VOICE_SETTINGS_UPDATE") :
    ¬msg.IsVoiceSettings := by
  rintro ⟨-, h | ⟨h, -⟩⟩
  · rw [hevt, Option.some.injEq] at h
    exact hne h
  · rw [hevt] at h
    simp only [Option.all_some, decide_eq_true_eq] at h
    exact h hmem

/-- **The dispatcher forwards exactly the mute values**: a frame read by the loop tells the
coordinator the value it carries if it is about voice settings, and none otherwise. -/
theorem handleIncomingFrame_updates (parseUuid : String → Option Uuid) (msg : RpcMessage) :
    updates (handleIncomingFrame parseUuid (some msg)) =
      if msg.IsVoiceSettings then msg.mute?.toList else [] := by
  unfold handleIncomingFrame
  simp only
  split
  · next hcode =>
    have hnot : ¬msg.IsVoiceSettings := by
      rintro ⟨h, -⟩
      rw [h] at hcode
      cases hcode
    rw [if_neg hnot]
    cases msg.nonce.bind parseUuid <;> rfl
  next hcode =>
  have hnone : msg.code = none := by simpa using hcode
  split
  · next hevt =>
    rw [if_pos ⟨hnone, .inl hevt⟩, forwardVoiceSettings_updates]
  next hsettings =>
  split
  · next hevt =>
    rw [if_neg (not_isVoiceSettings_of_evt hevt (by decide) (by decide))]
    rfl
  next hchannel =>
  split
  · next hevt =>
    rw [if_neg (not_isVoiceSettings_of_evt hevt (by decide) (by decide))]
    rfl
  next hstatus =>
  split
  · next hcmd =>
    have hevt : msg.evt.all (· ∉ SUBSCRIBED_EVENTS) := by
      cases h : msg.evt with
      | none => rfl
      | some evt =>
        rw [h, Option.some.injEq] at hsettings hchannel hstatus
        simp [SUBSCRIBED_EVENTS, hsettings, hchannel, hstatus]
    rw [if_pos ⟨hnone, .inr ⟨hevt, hcmd⟩⟩, forwardVoiceSettings_updates]
  · next hcmd =>
    have hnot : ¬msg.IsVoiceSettings := by
      rintro ⟨-, h | ⟨-, h⟩⟩
      · exact hsettings h
      · exact hcmd h
    rw [if_neg hnot]
    rfl

/-- **The dispatcher reports every error reply** that names a nonce. -/
theorem handleIncomingFrame_errorAck {parseUuid : String → Option Uuid} {msg : RpcMessage}
    {nonce : Uuid} {ack : CoordinatorEvent} (h : msg.errorAck? parseUuid = some (nonce, ack)) :
    handleIncomingFrame parseUuid (some msg) = [ack] := by
  unfold RpcMessage.errorAck? at h
  split at h
  · next hcode =>
    obtain ⟨n, hn, heq⟩ := Option.map_eq_some_iff.mp h
    obtain ⟨rfl, rfl⟩ := Prod.mk.inj heq
    unfold handleIncomingFrame
    simp only [if_pos hcode, hn]
  · cases h

/-! ### What a step does with the frame it reads -/

/-- The last call of `authorize_now` returned an error. -/
def AuthorizeState.failed : AuthorizeState → Bool
  | .idle (some (.error _)) => true
  | _ => false

namespace RunState

/-- The loop is at its `select!`. -/
def atSelect : RunState → Bool
  | .select => true
  | _ => false

/-- The message a step reads from the pipe. -/
def reads (s : RunState) : RunMove → Option RpcMessage
  | .frame .frame (.ok msg) => if s.atSelect ∨ s.awaits.isSome then some msg else none
  | _ => none

/-- The message is the reply to `GET_VOICE_SETTINGS` that the seeding waits for. -/
def Seeds (s : RunState) (msg : RpcMessage) : Prop :=
  match s with
  | .fetching _ nonce => msg.nonce = some nonce
  | _ => False

instance : ∀ (s : RunState) (msg : RpcMessage), Decidable (s.Seeds msg)
  | .fetching _ _, _ => inferInstanceAs (Decidable (_ = _))
  | .subscribing .., _ | .select, _ | .authorizing .., _ | .returned _, _ | .panicked, _ =>
    .isFalse id

/-- The mute value a message carries: it is about voice settings, or the reply to a fetch. -/
def carries (s : RunState) (msg : RpcMessage) : Option MuteState :=
  if msg.IsVoiceSettings ∨ s.Seeds msg ∧ msg.code = none then msg.mute? else none

/-- The mute value of the message a step reads. -/
def mute (s : RunState) (m : RunMove) : Option MuteState := (s.reads m).bind s.carries

/-- The move is the reply to `GET_VOICE_SETTINGS` that the seeding waits for. -/
def Fetches (s : RunState) (m : RunMove) : Prop := (s.reads m).any fun msg => s.Seeds msg

instance (s : RunState) (m : RunMove) : Decidable (s.Fetches m) :=
  inferInstanceAs (Decidable (_ = _))

/-- What a step reads goes to the dispatcher, or to the end of a seeding. -/
def Forwards (s : RunState) (m : RunMove) : Prop := s.atSelect ∨ s.Fetches m

instance (s : RunState) (m : RunMove) : Decidable (s.Forwards m) :=
  inferInstanceAs (Decidable (_ ∨ _))

/-- The move makes `authorize_now` return an error. -/
def AuthorizationFails (cfg : AuthConfig) (s : RunState) (env : RunEnv) (m : RunMove) : Prop :=
  (s.authorizeNow cfg env m).any fun r => r.flow.failed

instance (cfg : AuthConfig) (s : RunState) (env : RunEnv) (m : RunMove) :
    Decidable (s.AuthorizationFails cfg env m) := inferInstanceAs (Decidable (_ = _))

end RunState

/-- The events among the outputs of the client. -/
def events (outs : List Output) : List CoordinatorEvent := outs.filterMap Output.event?

theorem events_append (os ps : List Output) : events (os ++ ps) = events os ++ events ps :=
  List.filterMap_append

@[simp] theorem events_map_event (es : List CoordinatorEvent) : events (es.map .event) = es := by
  unfold events
  rw [List.filterMap_map]
  exact List.filterMap_some

theorem filterMap_map_none {α β : Type} {f : α → Output} {g : Output → Option β}
    (h : ∀ a, g (f a) = none) (as : List α) : (as.map f).filterMap g = [] := by
  refine List.filterMap_eq_nil_iff.mpr fun o ho => ?_
  obtain ⟨a, -, rfl⟩ := List.mem_map.mp ho
  exact h a

@[simp] theorem events_map_action (as : List Action) : events (as.map .action) = [] :=
  filterMap_map_none (fun _ => rfl) as

/-- The coordinator's commands among the outputs of the client. -/
def commands (outs : List Output) : List OutboundCommand := outs.filterMap Output.command?

theorem commands_append (os ps : List Output) : commands (os ++ ps) = commands os ++ commands ps :=
  List.filterMap_append

@[simp] theorem commands_map_event (es : List CoordinatorEvent) :
    commands (es.map .event) = [] := filterMap_map_none (fun _ => rfl) es

@[simp] theorem commands_map_action (as : List Action) : commands (as.map .action) = [] :=
  filterMap_map_none (fun _ => rfl) as

namespace RunState

variable {cfg : AuthConfig} {parseUuid : String → Option Uuid}

/-- Requests for subscriptions are no events and no commands, and do not lead to the `select!`. -/
theorem subscribe_cases (first : Bool) (nonce : String) (evts : List String) :
    (subscribe first nonce evts).1.atSelect = false ∧ events (subscribe first nonce evts).2 = [] ∧
      commands (subscribe first nonce evts).2 = [] := by
  cases evts <;> exact ⟨rfl, rfl, rfl⟩

theorem updates_authorized (env : RunEnv) (r : Resumed AuthorizeState) :
    updates (events (authorized env r).2) = [] := by
  unfold authorized
  split
  · obtain ⟨-, hevents, -⟩ := subscribe_cases false env.nonce SUBSCRIBED_EVENTS
    simp only [subscribeAndSeedState, events_append, events_map_action, hevents]
    rfl
  · simp only [events_append, events_map_action]
    rfl
  · rw [events_map_action]
    rfl
  · rw [events_map_action]
    rfl

theorem commands_authorized (env : RunEnv) (r : Resumed AuthorizeState) :
    commands (authorized env r).2 = [] := by
  unfold authorized
  split
  · obtain ⟨-, -, hcommands⟩ := subscribe_cases false env.nonce SUBSCRIBED_EVENTS
    simp only [subscribeAndSeedState, commands_append, commands_map_action, hcommands]
    rfl
  · simp only [commands_append, commands_map_action]
    rfl
  · exact commands_map_action r.actions
  · exact commands_map_action r.actions

/-- Only a failed authorization is back at the `select!` at once. -/
theorem authorized_atSelect {env : RunEnv} {r : Resumed AuthorizeState}
    (h : (authorized env r).1.atSelect) : r.flow.failed := by
  unfold authorized at h
  split at h
  · rw [subscribeAndSeedState, (subscribe_cases false env.nonce SUBSCRIBED_EVENTS).1] at h
    cases h
  · next err heq =>
    rw [heq]
    rfl
  · cases h
  · cases h

/-- What the helper does in the seeding: it goes on with the reply it waits for, or it ends the
loop, or it stays. -/
theorem awaiting_cases (s : RunState) (nonce : String)
    (onReply : RpcMessage → RunState × List Output) (m : RunMove) :
    (∃ msg, m = .frame .frame (.ok msg) ∧ msg.nonce = some nonce ∧
        s.awaiting nonce onReply m = onReply msg) ∨
      (∃ err, s.awaiting nonce onReply m = (.returned err, [])) ∨
      s.awaiting nonce onReply m = (s, []) := by
  unfold awaiting
  split
  · next msg =>
    split_ifs with h
    · exact .inl ⟨msg, rfl, h, rfl⟩
    · exact .inr (.inr rfl)
  · next message => exact .inr (.inl ⟨.json message, rfl⟩)
  · next err => exact .inr (.inl ⟨err, rfl⟩)
  · exact .inr (.inr rfl)

theorem step_subscribing_cases (first : Bool) (evt : String) (rest : List String) (nonce : String)
    (env : RunEnv) (m : RunMove) :
    (∃ msg, (RunState.subscribing first evt rest nonce).step cfg parseUuid env m =
        ((subscribe first env.nonce rest).1,
          (reportCommandError msg ("subscribing to " ++ evt)).map .event ++
            (subscribe first env.nonce rest).2)) ∨
      (∃ err, (RunState.subscribing first evt rest nonce).step cfg parseUuid env m =
        (.returned err, [])) ∨
      (RunState.subscribing first evt rest nonce).step cfg parseUuid env m =
        (.subscribing first evt rest nonce, []) := by
  obtain ⟨msg, -, -, heq⟩ | hrest := awaiting_cases (.subscribing first evt rest nonce) nonce
    (fun resp => ((subscribe first env.nonce rest).1,
      (reportCommandError resp ("subscribing to " ++ evt)).map .event ++
        (subscribe first env.nonce rest).2)) m
  · exact .inl ⟨msg, heq⟩
  · exact .inr hrest

theorem step_fetching_cases (first : Bool) (nonce : String) (env : RunEnv) (m : RunMove) :
    (∃ msg, m = .frame .frame (.ok msg) ∧ msg.nonce = some nonce ∧
        (RunState.fetching first nonce).step cfg parseUuid env m =
          (.select, (fetched msg ++ seeded first).map .event)) ∨
      (∃ err, (RunState.fetching first nonce).step cfg parseUuid env m = (.returned err, [])) ∨
      (RunState.fetching first nonce).step cfg parseUuid env m = (.fetching first nonce, []) :=
  awaiting_cases (.fetching first nonce) nonce
    (fun resp => (.select, (fetched resp ++ seeded first).map .event)) m

/-- Where a step forwards what it reads. -/
theorem forwards_cases {s : RunState} {m : RunMove} (h : s.Forwards m) :
    s = .select ∨ ∃ first nonce msg, s = .fetching first nonce ∧ m = .frame .frame (.ok msg) ∧
      msg.nonce = some nonce := by
  obtain h | h := h
  · cases s with
    | select => exact .inl rfl
    | subscribing first evt rest nonce | fetching first nonce | authorizing flow nonce
    | returned err | panicked => cases h
  · obtain ⟨msg, hreads, hseeds⟩ := (Option.any_eq_true _ _).mp h
    have hseeds : s.Seeds msg := of_decide_eq_true hseeds
    cases s with
    | fetching first nonce =>
      refine .inr ⟨first, nonce, msg, rfl, ?_, hseeds⟩
      unfold reads at hreads
      split at hreads
      · next msg' =>
        split_ifs at hreads with hif
        · rw [Option.some.inj hreads]
      · cases hreads
    | select | subscribing first evt rest nonce | authorizing flow nonce | returned err
    | panicked => exact hseeds.elim

theorem mute_select (msg : RpcMessage) :
    RunState.select.mute (.frame .frame (.ok msg)) =
      if msg.IsVoiceSettings then msg.mute? else none := by
  have hcarries : RunState.select.carries msg =
      if msg.IsVoiceSettings then msg.mute? else none := by
    unfold carries
    simp only [Seeds, false_and, or_false]
  exact hcarries

theorem mute_fetching {first : Bool} {nonce : String} {msg : RpcMessage}
    (h : msg.nonce = some nonce) :
    (RunState.fetching first nonce).mute (.frame .frame (.ok msg)) =
      if msg.code = none then msg.mute? else none := by
  have hcarries : (RunState.fetching first nonce).carries msg =
      if msg.code = none then msg.mute? else none := by
    unfold carries
    have hseeds : (RunState.fetching first nonce).Seeds msg := h
    by_cases hcode : msg.code = none
    · rw [if_pos (.inr ⟨hseeds, hcode⟩), if_pos hcode]
    · rw [if_neg hcode, if_neg]
      rintro (⟨hc, -⟩ | ⟨-, hc⟩) <;> exact hcode hc
  exact hcarries

theorem step_select_frame (env : RunEnv) (msg : RpcMessage) :
    RunState.select.step cfg parseUuid env (.frame .frame (.ok msg)) =
      (.select, (handleIncomingFrame parseUuid (some msg)).map .event) := rfl

theorem step_fetching_reply {first : Bool} {nonce : String} {msg : RpcMessage}
    (h : msg.nonce = some nonce) (env : RunEnv) :
    (RunState.fetching first nonce).step cfg parseUuid env (.frame .frame (.ok msg)) =
      (.select, (fetched msg ++ seeded first).map .event) := if_pos h

/-- What the end of a seeding tells of mute values. -/
theorem updates_fetched (msg : RpcMessage) :
    updates (fetched msg) = (if msg.code = none then msg.mute? else none).toList := by
  unfold fetched
  cases hcode : msg.code with
  | none => exact forwardVoiceSettings_updates msg
  | some code => exact updates_reportCommandError msg _

/-- **What the loop forwards**: a step that hands its frame to the dispatcher, or to the end of a
seeding, tells the coordinator exactly the mute value the frame carries. -/
theorem updates_of_forwards {s : RunState} {m : RunMove} (h : s.Forwards m) (env : RunEnv) :
    updates (events (s.step cfg parseUuid env m).2) = (s.mute m).toList := by
  obtain rfl | ⟨first, nonce, msg, rfl, rfl, hnonce⟩ := forwards_cases h
  · cases m with
    | frame opcode payload =>
      cases opcode with
      | frame =>
        cases payload with
        | error message => rfl
        | ok msg =>
          rw [step_select_frame, events_map_event, handleIncomingFrame_updates, mute_select]
          split_ifs <;> rfl
      | handshake | close | ping | pong => rfl
    | lost err => rfl
    | command cmd failed => cases cmd <;> cases failed <;> rfl
    | authorize request =>
      cases request with
      | none => rfl
      | some _ => exact updates_authorized _ _
    | answer response => rfl
  · rw [step_fetching_reply hnonce, events_map_event, updates_append, updates_seeded,
      List.append_nil, updates_fetched, mute_fetching hnonce]

/-- **What the helper drops**: any other step tells the coordinator no mute value, and is back at
the `select!` only if an authorization failed. -/
theorem step_of_not_forwards {s : RunState} {m : RunMove} (h : ¬s.Forwards m) (env : RunEnv) :
    updates (events (s.step cfg parseUuid env m).2) = [] ∧
      ((s.step cfg parseUuid env m).1.atSelect → s.AuthorizationFails cfg env m) := by
  cases s with
  | select => exact absurd (.inl rfl) h
  | subscribing first evt rest nonce =>
    obtain ⟨msg, heq⟩ | ⟨err, heq⟩ | heq := step_subscribing_cases first evt rest nonce env m
    · obtain ⟨hstate, hevents, -⟩ := subscribe_cases first env.nonce rest
      rw [heq, events_append, events_map_event, hevents, List.append_nil]
      refine ⟨updates_reportCommandError msg _, fun hsel => ?_⟩
      rw [hstate] at hsel
      cases hsel
    · rw [heq]
      exact ⟨rfl, nofun⟩
    · rw [heq]
      exact ⟨rfl, nofun⟩
  | fetching first nonce =>
    obtain ⟨msg, rfl, hnonce, -⟩ | ⟨err, heq⟩ | heq := step_fetching_cases first nonce env m
    · refine absurd (.inr ?_) h
      exact (Option.any_eq_true _ _).mpr ⟨msg, rfl, decide_eq_true hnonce⟩
    · rw [heq]
      exact ⟨rfl, nofun⟩
    · rw [heq]
      exact ⟨rfl, nofun⟩
  | authorizing flow nonce =>
    unfold step
    cases hr : (RunState.authorizing flow nonce).authorizeNow cfg env m with
    | none => exact ⟨rfl, nofun⟩
    | some r =>
      refine ⟨updates_authorized env r, fun hsel => ?_⟩
      exact (Option.any_eq_true _ _).mpr ⟨r, hr, authorized_atSelect hsel⟩
  | returned err => exact ⟨rfl, nofun⟩
  | panicked => exact ⟨rfl, nofun⟩

/-- A command of the coordinator's is written only where one is taken. -/
theorem commands_step (s : RunState) (env : RunEnv) {m : RunMove}
    (h : ∀ cmd failed, m ≠ .command cmd failed) :
    commands (s.step cfg parseUuid env m).2 = [] := by
  cases s with
  | select =>
    cases m with
    | frame opcode payload =>
      cases opcode with
      | frame => exact commands_map_event _
      | handshake | close | ping | pong => rfl
    | command cmd failed => exact absurd rfl (h cmd failed)
    | authorize request =>
      cases request with
      | none => rfl
      | some _ => exact commands_authorized _ _
    | lost err | answer response => rfl
  | subscribing first evt rest nonce =>
    obtain ⟨msg, heq⟩ | ⟨err, heq⟩ | heq := step_subscribing_cases first evt rest nonce env m
    · rw [heq, commands_append, commands_map_event, (subscribe_cases first env.nonce rest).2.2]
      rfl
    · rw [heq]
      rfl
    · rw [heq]
      rfl
  | fetching first nonce =>
    obtain ⟨msg, -, -, heq⟩ | ⟨err, heq⟩ | heq := step_fetching_cases first nonce env m
    · rw [heq]
      exact commands_map_event _
    · rw [heq]
      rfl
    · rw [heq]
      rfl
  | authorizing flow nonce =>
    unfold step
    cases (RunState.authorizing flow nonce).authorizeNow cfg env m with
    | none => rfl
    | some r => exact commands_authorized env r
  | returned err | panicked => rfl

end RunState

/-! ### Watching a run -/

/-- The client, and what has come and gone since it got to its main loop. -/
structure Watch where
  state : RunState
  /-- The mute values of the frames read. -/
  carried : List MuteState
  /-- Those the helper has dropped since the loop last forwarded what it read. -/
  missed : List MuteState
  /-- The reports due for the error replies read that answer a `SetMute`. -/
  owed : List CoordinatorEvent
  /-- The events sent. -/
  sent : List CoordinatorEvent
  /-- The nonces of the `SetMute`s written. -/
  written : List Uuid

namespace Watch

/-- The loop after its initial seeding. -/
def start : Watch := ⟨.select, [], [], [], [], []⟩

/-- The report due for the message a step reads. -/
def owes (parseUuid : String → Option Uuid) (w : Watch) (m : RunMove) : Option CoordinatorEvent :=
  ((w.state.reads m).bind fun msg => msg.errorAck? parseUuid).bind fun (nonce, ack) =>
    if nonce ∈ w.written then some ack else none

/-- One step. -/
def step (cfg : AuthConfig) (parseUuid : String → Option Uuid) (w : Watch) (env : RunEnv)
    (m : RunMove) : Watch × List Output :=
  let (state, outs) := w.state.step cfg parseUuid env m
  ({ state := state
     carried := w.carried ++ (w.state.mute m).toList
     missed := if w.state.Forwards m then [] else w.missed ++ (w.state.mute m).toList
     owed := w.owed ++ (w.owes parseUuid m).toList
     sent := w.sent ++ events outs
     written := w.written ++ (commands outs).map OutboundCommand.nonce }, outs)

end Watch

/-- A watched client. -/
def watch (cfg : AuthConfig) (parseUuid : String → Option Uuid) :
    Machine Watch (RunEnv × RunMove) Output where
  step w i := w.step cfg parseUuid i.1 i.2

/-- Watching changes nothing. -/
theorem watch_refines (cfg : AuthConfig) (parseUuid : String → Option Uuid) :
    (watch cfg parseUuid).Refines (client cfg parseUuid) (fun _ => True) Watch.state id id where
  inv _ _ _ := trivial
  next _ _ _ := rfl
  out _ _ _ := List.map_id _

namespace Watch

variable {cfg : AuthConfig} {parseUuid : String → Option Uuid}

/-- Nothing is lost: the last mute value told to the coordinator is the last one carried, and the
reports due have been sent, in order. -/
structure Reported (w : Watch) : Prop where
  mute : (updates w.sent).getLast? = w.carried.getLast?
  acks : w.owed.Sublist w.sent

/-- The condition on a step: the helper reads no error reply to a `SetMute`; and neither a fetch
that finds no mute value nor a failed authorization ends an errand in which the helper has dropped
a mute value. -/
structure Harmless (cfg : AuthConfig) (parseUuid : String → Option Uuid) (w : Watch) (env : RunEnv)
    (m : RunMove) : Prop where
  acks : w.state.atSelect = false → w.owes parseUuid m = none
  fetch : w.state.Fetches m → w.state.mute m = none → w.missed = []
  authorization : w.state.AuthorizationFails cfg env m →
    w.missed = [] ∧ w.state.mute m = none

instance (w : Watch) (env : RunEnv) (m : RunMove) : Decidable (w.Harmless cfg parseUuid env m) :=
  decidable_of_iff
    ((w.state.atSelect = false → w.owes parseUuid m = none) ∧
      (w.state.Fetches m → w.state.mute m = none → w.missed = []) ∧
      (w.state.AuthorizationFails cfg env m → w.missed = [] ∧ w.state.mute m = none))
    ⟨fun ⟨acks, fetch, authorization⟩ => ⟨acks, fetch, authorization⟩,
      fun ⟨acks, fetch, authorization⟩ => ⟨acks, fetch, authorization⟩⟩

/-- What holds in a run of harmless steps: up to what the helper has dropped, all is reported, and
at the `select!` it has dropped nothing. -/
structure Ok (w : Watch) : Prop where
  mute : ∃ told, w.carried = told ++ w.missed ∧ (updates w.sent).getLast? = told.getLast?
  acks : w.owed.Sublist w.sent
  caught : w.state.atSelect → w.missed = []

theorem ok_start : start.Ok := ⟨⟨[], rfl, rfl⟩, .refl _, fun _ => rfl⟩

/-- At the `select!` nothing is missing. -/
theorem Ok.reported {w : Watch} (h : w.Ok) (hsel : w.state.atSelect) : w.Reported := by
  obtain ⟨told, hcarried, hlast⟩ := h.mute
  rw [h.caught hsel, List.append_nil] at hcarried
  rw [← hcarried] at hlast
  exact ⟨hlast, h.acks⟩

theorem owes_select {w : Watch} {env : RunEnv} {m : RunMove} {ack : CoordinatorEvent}
    (hsel : w.state.atSelect) (h : w.owes parseUuid m = some ack) :
    events (w.state.step cfg parseUuid env m).2 = [ack] := by
  obtain ⟨⟨nonce, ack'⟩, hack, hif⟩ := Option.bind_eq_some_iff.mp h
  obtain ⟨msg, hreads, hack⟩ := Option.bind_eq_some_iff.mp hack
  simp only at hif
  split_ifs at hif
  obtain rfl := Option.some.inj hif
  unfold RunState.reads at hreads
  split at hreads
  · next msg' =>
    split_ifs at hreads
    obtain rfl := Option.some.inj hreads
    cases hs : w.state with
    | select =>
      rw [RunState.step_select_frame, events_map_event]
      exact handleIncomingFrame_errorAck hack
    | subscribing first evt rest nonce | fetching first nonce | authorizing flow nonce
    | returned err | panicked =>
      rw [hs] at hsel
      cases hsel
  · cases hreads

/-- The reports due stay sent: at the `select!` the dispatcher sends the new one, elsewhere there is
none. -/
theorem Ok.acks_step {w : Watch} (h : w.Ok) {env : RunEnv} {m : RunMove}
    (hm : w.Harmless cfg parseUuid env m) :
    (w.step cfg parseUuid env m).1.owed.Sublist (w.step cfg parseUuid env m).1.sent := by
  refine h.acks.append ?_
  cases howes : w.owes parseUuid m with
  | none => exact List.nil_sublist _
  | some ack =>
    have hsel : w.state.atSelect = true := by
      by_contra hne
      rw [hm.acks (by simpa using hne)] at howes
      cases howes
    have hout : events (w.state.step cfg parseUuid env m).2 = [ack] := owes_select hsel howes
    show [ack].Sublist (events (w.state.step cfg parseUuid env m).2)
    rw [hout]

/-- A step that forwards what it reads leaves nothing missing. -/
theorem Ok.missed_of_none {w : Watch} (h : w.Ok) {env : RunEnv} {m : RunMove}
    (hm : w.Harmless cfg parseUuid env m) (hforwards : w.state.Forwards m)
    (hnone : w.state.mute m = none) : w.missed = [] := by
  obtain hsel | hfetches := hforwards
  · exact h.caught hsel
  · exact hm.fetch hfetches hnone

/-- **The step.** A harmless step keeps everything reported up to what the helper has dropped. -/
theorem Ok.step {w : Watch} (h : w.Ok) {env : RunEnv} {m : RunMove}
    (hm : w.Harmless cfg parseUuid env m) : (w.step cfg parseUuid env m).1.Ok := by
  obtain ⟨told, hcarried, hlast⟩ := h.mute
  refine ⟨?_, h.acks_step hm, ?_⟩
  · show ∃ told, w.carried ++ (w.state.mute m).toList =
        told ++ (if w.state.Forwards m then [] else w.missed ++ (w.state.mute m).toList) ∧
      (updates (w.sent ++ events (w.state.step cfg parseUuid env m).2)).getLast? = told.getLast?
    by_cases hforwards : w.state.Forwards m
    · refine ⟨w.carried ++ (w.state.mute m).toList, ?_, ?_⟩
      · rw [if_pos hforwards, List.append_nil]
      · rw [updates_append, RunState.updates_of_forwards hforwards]
        cases hmute : w.state.mute m with
        | some mute => simp
        | none =>
          rw [h.missed_of_none hm hforwards hmute, List.append_nil] at hcarried
          simpa [hcarried] using hlast
    · refine ⟨told, ?_, ?_⟩
      · rw [if_neg hforwards, hcarried, List.append_assoc]
      · rw [updates_append, (RunState.step_of_not_forwards hforwards env).1, List.append_nil]
        exact hlast
  · intro hsel
    show (if w.state.Forwards m then [] else w.missed ++ (w.state.mute m).toList) = []
    split_ifs with hforwards
    · rfl
    · obtain ⟨hmissed, hmute⟩ :=
        hm.authorization ((RunState.step_of_not_forwards hforwards env).2 hsel)
      rw [hmissed, hmute]
      rfl

end Watch

/-- **What the main loop loses, and when**: in every run from the end of the initial seeding whose
steps are harmless, at every return to the `select!` the last mute value told to the coordinator is
that of the last frame read that carries one, and every error reply to a `SetMute` is reported. -/
theorem reported_at_select {cfg : AuthConfig} {parseUuid : String → Option Uuid}
    {is : List (RunEnv × RunMove)}
    (h : (watch cfg parseUuid).Along (fun w i => w.Harmless cfg parseUuid i.1 i.2) .start is)
    (hsel : ((watch cfg parseUuid).run .start is).state.atSelect) :
    ((watch cfg parseUuid).run .start is).Reported := by
  have hok : ((watch cfg parseUuid).run .start is).Ok :=
    Machine.Along.inv (M := watch cfg parseUuid) (I := Watch.Ok) (fun _ _ hw hi =>
      hw.step hi) h Watch.ok_start
  exact hok.reported hsel

/-! ### Two runs -/

/-- A `VOICE_SETTINGS_UPDATE`. -/
def voiceSettingsUpdate (mute : Bool) : RpcMessage where
  cmd := some "DISPATCH"
  evt := some "VOICE_SETTINGS_UPDATE"
  data := some (.object [("mute", .bool mute)])
  nonce := none
  code := none
  message := none

/-- A reply without an error code. -/
def commandReply (cmd nonce : String) (data : Option Json) : RpcMessage where
  cmd := some cmd
  evt := none
  data := data
  nonce := some nonce
  code := none
  message := none

/-- The environment of a step, with the nonce of the command the step writes; nothing is stored and
nothing fails. -/
def quiet (nonce : String) : RunEnv where
  flow :=
    { now := 0
      systemNow := 0
      reply := .error .pipeClosed
      pkce := ("verifier", "challenge")
      loadError := none
      armError := none
      saveError := none
      clearError := none }
  stored := none
  nonce := nonce

/-- The user asks for authorization, and mutes in Discord while the consent dialog is open. -/
def mutedInDialog : List (RunEnv × RunMove) :=
  [(quiet "n1", .authorize (some ())),
    (quiet "n2", .frame .frame (.ok (voiceSettingsUpdate true)))]

/-- The user then declines: the reply has no data. -/
def declined : List (RunEnv × RunMove) :=
  mutedInDialog ++ [(quiet "n2", .frame .frame (.ok (commandReply "AUTHORIZE" "n1" none)))]

/-- **A declined authorization loses the update** that arrived while its dialog was open. -/
theorem declined_authorization_loses_update :
    ¬∀ is : List (RunEnv × RunMove),
      ((watch ⟨"1"⟩ fun _ => none).run .start is).state.atSelect →
        ((watch ⟨"1"⟩ fun _ => none).run .start is).Reported := by
  intro h
  have hmute := (h declined rfl).mute
  have hcarried : ((watch ⟨"1"⟩ fun _ => none).run .start declined).carried = [.muted] := by
    decide +kernel
  have hsent : updates ((watch ⟨"1"⟩ fun _ => none).run .start declined).sent = [] := by
    decide +kernel
  rw [hcarried, hsent] at hmute
  cases hmute

/-- The user agrees instead, the code is exchanged, and the seeding reads the settings again. -/
def agreed : List (RunEnv × RunMove) :=
  mutedInDialog ++
    [(quiet "n2", .frame .frame (.ok (commandReply "AUTHORIZE" "n1"
        (some (.object [("code", .string "c")]))))),
      (quiet "n2", .answer (some ⟨200, some ⟨"at", "rt", 3600⟩⟩)),
      (quiet "n3", .frame .frame (.ok (commandReply "AUTHENTICATE" "n2" none))),
      (quiet "n4", .frame .frame (.ok (commandReply "SUBSCRIBE" "n3" none))),
      (quiet "n5", .frame .frame (.ok (commandReply "SUBSCRIBE" "n4" none))),
      (quiet "n6", .frame .frame (.ok (commandReply "SUBSCRIBE" "n5" none))),
      (quiet "n7", .frame .frame (.ok (commandReply "GET_VOICE_SETTINGS" "n6"
        (some (.object [("mute", .bool true)])))))]

/-- There nothing is lost. -/
theorem reported_at_select_agreed :
    ((watch ⟨"1"⟩ fun _ => none).run .start agreed).carried = [.muted, .muted] ∧
      ((watch ⟨"1"⟩ fun _ => none).run .start agreed).Reported :=
  ⟨by decide +kernel, reported_at_select (by decide +kernel) (by decide +kernel)⟩

end VoxShift.Discord
