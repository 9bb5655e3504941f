import VoxShift.Discord.Run

/-!
# Error replies

Five places of the client look at a reply and decide whether it is an error:
`authenticate`, `request_authorization`, the two replies of `subscribe_and_seed_state`
and `handle_incoming_frame`. All of them look at the top-level `code` only; none looks
at `evt`, though Discord marks its errors with the event `ERROR` (§6.1.3) and puts
their code and message inside `data`.

## What is proved

* `authenticate_refuses_iff`, `requestAuthorization_refuses_iff`, `seed_reports_iff`,
  `dispatch_acks_iff` — when each of them takes a reply for an error.
* `error_reply_refused_iff` — an error reply is an error to all of them exactly if it
  has a top-level code.
* `error_event_taken_for_success` — an `ERROR` event without one passes for a
  successful `AUTHENTICATE`, and for an empty reply elsewhere.
-/

namespace VoxShift.Discord

open VoxShift.Core

/-- Discord marks the message as an error: by the event, wherever the code is, or by a code. -/
def RpcMessage.IsError (msg : RpcMessage) : Prop := msg.evt = some "ERROR" ∨ msg.code.isSome

/-- The nonce of the reply that `subscribe_and_seed_state` waits for. -/
def RunState.seedNonce : RunState → Option String
  | .subscribing _ _ _ nonce => some nonce
  | .fetching _ nonce => some nonce
  | .select | .authorizing .. | .returned _ | .panicked => none

/-- The coordinator is told that the voice state is unavailable, and told no mute value. -/
def ReportsUnavailable (events : List CoordinatorEvent) : Prop :=
  (∃ message, .discordVoiceStateUnavailable message ∈ events) ∧ updates events = []

/-! ### Each consumer -/

/-- `authenticate` refuses a reply with a top-level code, and no other. -/
theorem authenticate_refuses_iff (msg : RpcMessage) :
    (∃ err, authenticate (.ok msg) = .error err) ↔ msg.code.isSome := by
  unfold authenticate
  cases hcode : msg.code with
  | none => simp [hcode]
  | some code => simp [hcode]

/-- `request_authorization` refuses a reply with a top-level code, or without an authorization
code in its data. -/
theorem requestAuthorization_refuses_iff (msg : RpcMessage) (verifier : String) :
    (∃ err, requestAuthorization verifier (.ok msg) = .error err) ↔
      msg.code.isSome ∨ msg.data.bind parseAuthorizeResponseData = none := by
  unfold requestAuthorization
  cases hcode : msg.code with
  | some code => simp [hcode]
  | none =>
    cases hdata : msg.data with
    | none => simp [hcode, hdata]
    | some data =>
      cases hparse : parseAuthorizeResponseData data with
      | none => simp [hcode, hdata, hparse]
      | some code => simp [hcode, hdata, hparse]

/-- `report_command_error` reports a reply with a top-level code, and no other. -/
theorem reportCommandError_reports_iff (msg : RpcMessage) (context : String) :
    ReportsUnavailable (reportCommandError msg context) ↔ msg.code.isSome := by
  unfold reportCommandError
  cases hcode : msg.code with
  | none => simp [ReportsUnavailable]
  | some code => simp [ReportsUnavailable, updates, mutedBy?]

theorem mem_forwardVoiceSettings {msg : RpcMessage} {e : CoordinatorEvent}
    (h : e ∈ forwardVoiceSettings msg) : ∃ mute, e = .discordVoiceSettingsUpdate mute := by
  unfold forwardVoiceSettings at h
  split at h
  · cases h
  · split at h
    · exact ⟨_, List.mem_singleton.mp h⟩
    · cases h

theorem not_reportsUnavailable_forward (msg : RpcMessage) (first : Bool) :
    ¬ ReportsUnavailable (forwardVoiceSettings msg ++ seeded first) := by
  rintro ⟨⟨message, hmem⟩, -⟩
  rcases List.mem_append.mp hmem with hmem | hmem
  · obtain ⟨mute, heq⟩ := mem_forwardVoiceSettings hmem
    cases heq
  · cases first with
    | true => cases List.mem_singleton.mp hmem
    | false => cases hmem

/-- The connection's report after the first seeding neither makes nor spoils a report. -/
theorem reportsUnavailable_seeded (es : List CoordinatorEvent) (first : Bool) :
    ReportsUnavailable (es ++ seeded first) ↔ ReportsUnavailable es := by
  unfold ReportsUnavailable
  rw [updates_append, updates_seeded, List.append_nil]
  cases first with
  | true => simp [seeded]
  | false => simp [seeded]

/-- `subscribe_and_seed_state` reports a reply with a top-level code, and no other. -/
theorem seed_reports_iff (cfg : AuthConfig) (parseUuid : String → Option Uuid) {s : RunState}
    (env : RunEnv) {msg : RpcMessage} {nonce : String} (hs : s.seedNonce = some nonce)
    (hmsg : msg.nonce = some nonce) :
    ReportsUnavailable (events (s.step cfg parseUuid env (.frame .frame (.ok msg))).2) ↔
      msg.code.isSome := by
  cases s with
  | subscribing first evt rest nonce' =>
    cases hs
    have hstep : (RunState.subscribing first evt rest nonce).step cfg parseUuid env
        (.frame .frame (.ok msg)) = ((subscribe first env.nonce rest).1,
          (reportCommandError msg ("subscribing to " ++ evt)).map .event ++
            (subscribe first env.nonce rest).2) := if_pos hmsg
    obtain ⟨-, hrequests, -⟩ := RunState.subscribe_cases first env.nonce rest
    rw [hstep, events_append, events_map_event, hrequests, List.append_nil]
    exact reportCommandError_reports_iff msg _
  | fetching first nonce' =>
    cases hs
    have hstep : (RunState.fetching first nonce).step cfg parseUuid env
        (.frame .frame (.ok msg)) = (.select, (fetched msg ++ seeded first).map .event) :=
      if_pos hmsg
    rw [hstep, events_map_event, fetched]
    split_ifs with hcode
    · rw [reportsUnavailable_seeded]
      exact reportCommandError_reports_iff msg _
    · exact iff_of_false (not_reportsUnavailable_forward msg first) hcode
  | select | authorizing _ _ | returned _ | panicked => cases hs

/-- `handle_incoming_frame` acknowledges a reply with a top-level code as failed, and no other. -/
theorem dispatch_acks_iff {parseUuid : String → Option Uuid} {msg : RpcMessage} {nonce : Uuid}
    (hnonce : msg.nonce.bind parseUuid = some nonce) :
    (∃ message, handleIncomingFrame parseUuid (some msg) =
      [.discordCommandAck nonce (.error message)]) ↔ msg.code.isSome := by
  have hforward : ∀ message,
      forwardVoiceSettings msg ≠ [.discordCommandAck nonce (.error message)] := by
    intro message heq
    obtain ⟨mute, hack⟩ := mem_forwardVoiceSettings (heq ▸ List.mem_singleton_self _)
    cases hack
  constructor
  · rintro ⟨message, hack⟩
    by_contra hcode
    unfold handleIncomingFrame at hack
    simp only [if_neg hcode] at hack
    split_ifs at hack
    · exact hforward message hack
    · cases List.singleton_inj.mp hack
    · exact hforward message hack
  · intro hcode
    unfold handleIncomingFrame
    simp only [if_pos hcode, hnonce]
    exact ⟨_, rfl⟩

/-! ### All of them -/

/-- **The message is taken for an error** by every consumer that gets it. -/
structure RpcMessage.Refused (msg : RpcMessage) : Prop where
  authenticate : ∃ err, Discord.authenticate (.ok msg) = .error err
  authorize : ∀ verifier, ∃ err, requestAuthorization verifier (.ok msg) = .error err
  seed : ∀ (cfg : AuthConfig) (parseUuid : String → Option Uuid) (s : RunState) (env : RunEnv)
    (nonce : String), s.seedNonce = some nonce → msg.nonce = some nonce →
      ReportsUnavailable (events (s.step cfg parseUuid env (.frame .frame (.ok msg))).2)
  dispatch : ∀ (parseUuid : String → Option Uuid) (nonce : Uuid),
    msg.nonce.bind parseUuid = some nonce →
      ∃ message, handleIncomingFrame parseUuid (some msg) =
        [.discordCommandAck nonce (.error message)]

/-- **An error reply is never taken for success**, exactly if it has a top-level code: of every
message, that being an error makes all consumers refuse it comes to the same as that being an
`ERROR` event makes it carry a top-level code. -/
theorem error_reply_refused_iff (msg : RpcMessage) :
    (msg.IsError → msg.Refused) ↔ (msg.evt = some "ERROR" → msg.code.isSome) := by
  constructor
  · intro h hevt
    exact (authenticate_refuses_iff msg).mp (h (.inl hevt)).authenticate
  · intro h herror
    have hcode : msg.code.isSome := herror.elim h id
    exact
      { authenticate := (authenticate_refuses_iff msg).mpr hcode
        authorize := fun verifier =>
          (requestAuthorization_refuses_iff msg verifier).mpr (.inl hcode)
        seed := fun cfg parseUuid _ env _ hs hmsg =>
          (seed_reports_iff cfg parseUuid env hs hmsg).mpr hcode
        dispatch := fun _ _ hnonce => (dispatch_acks_iff hnonce).mpr hcode }

/-- An `ERROR` event as Discord sends it in reply to a command. -/
def errorEvent : RpcMessage where
  cmd := some "AUTHENTICATE"
  evt := some "ERROR"
  data := some (.object [("code", .number "4009"), ("message", .string "Invalid token")])
  nonce := some "n1"
  code := none
  message := none

/-- It passes for a successful `AUTHENTICATE`; in reply to `GET_VOICE_SETTINGS` it only lets the
connection count as established; and in reply to a command it is dropped. -/
theorem error_event_taken_for_success :
    errorEvent.IsError ∧ ¬ errorEvent.Refused ∧ authenticate (.ok errorEvent) = .ok () ∧
      events ((RunState.fetching true "n1").step ⟨"client"⟩ (fun _ => some 1)
        (quiet "n2") (.frame .frame (.ok errorEvent))).2 = [.discordConnectionChanged .connected] ∧
      handleIncomingFrame (fun _ => some 1) (some errorEvent) = [] := by
  refine ⟨.inl rfl, fun h => ?_, rfl, rfl, rfl⟩
  have hcode := (authenticate_refuses_iff errorEvent).mp h.authenticate
  cases hcode

end VoxShift.Discord
