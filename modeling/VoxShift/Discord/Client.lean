import VoxShift.Core.State

/-!
# The Discord RPC client: messages in and out

`voxshift-discord`'s `models.rs`, `voice.rs` and the parts of `client.rs` that
turn a frame into coordinator events and a coordinator command into a frame.

A payload that is no valid `RpcMessage` gives no message at all, so the handlers
take what `serde_json::from_slice` returned as an `Option`. The text forms of a
nonce belong to the `uuid` crate; where the client parses one, the parser is a
parameter.
-/

namespace VoxShift.Discord

open VoxShift.Core

/-- `serde_json::Value`. A number is kept as its literal; no modelled function reads one. -/
inductive Json where
  | null
  | bool (b : Bool)
  | number (literal : String)
  | string (s : String)
  | array (items : List Json)
  | object (fields : List (String × Json))

namespace Json

/-- `Value::get`. -/
def get? (j : Json) (key : String) : Option Json :=
  match j with
  | .object fields => fields.lookup key
  | _ => none

/-- `Value::as_bool`. -/
def asBool? : Json → Option Bool
  | .bool b => some b
  | _ => none

/-- `Value::as_str`. -/
def asStr? : Json → Option String
  | .string s => some s
  | _ => none

end Json

/-- `RpcMessage`: command responses, subscribed events and `ERROR` frames share one shape. -/
structure RpcMessage where
  cmd : Option String
  evt : Option String
  data : Option Json
  nonce : Option String
  code : Option ℤ
  message : Option String

/-- `VoiceSettingsArgs`: only ever `mute`. -/
structure VoiceSettingsArgs where
  mute : Bool
  deriving DecidableEq, Repr

/-- `Command<VoiceSettingsArgs>`, the envelope of an outbound command. The nonce goes out as
text. -/
structure OutboundCommand where
  cmd : String
  args : VoiceSettingsArgs
  nonce : Uuid
  evt : Option String

/-! ### Voice settings -/

/-- `parse_voice_settings_mute`; `none` is `MissingMute`. -/
def parseVoiceSettingsMute (data : Json) : Option MuteState :=
  ((data.get? "mute").bind Json.asBool?).map MuteState.ofBool

/-- `parse_voice_channel_selected`. -/
def parseVoiceChannelSelected (data : Json) : Bool :=
  ((data.get? "channel_id").bind Json.asStr?).isSome

/-! ### Outgoing -/

/-- `handle_discord_command`: the envelope written to the pipe, with the coordinator's own nonce. -/
def handleDiscordCommand : DiscordCommand → OutboundCommand
  | .setMute target nonce =>
    { cmd := "SET_VOICE_SETTINGS"
      args := { mute := target.isMuted }
      nonce := nonce
      evt := none }

/-- The boolean written for a known target stands for that target; `Unknown` would be sent as
an unmute. -/
theorem ofBool_handleDiscordCommand {target : MuteState} (ht : target ≠ .unknown) (nonce : Uuid) :
    MuteState.ofBool (handleDiscordCommand (.setMute target nonce)).args.mute = target :=
  MuteState.ofBool_isMuted ht

/-! ### Incoming -/

/-- `forward_voice_settings`. -/
def forwardVoiceSettings (msg : RpcMessage) : List CoordinatorEvent :=
  match msg.data with
  | none => []
  | some data =>
    match parseVoiceSettingsMute data with
    | some mute => [.discordVoiceSettingsUpdate mute]
    | none => []

/-- `handle_incoming_frame`: the events one frame sends to the coordinator. -/
def handleIncomingFrame (parseUuid : String → Option Uuid) (payload : Option RpcMessage) :
    List CoordinatorEvent :=
  match payload with
  | none => []
  | some msg =>
    if msg.code.isSome then
      match msg.nonce.bind parseUuid with
      | some nonce => [.discordCommandAck nonce (.error (msg.message.getD "discord rpc error"))]
      | none => []
    else if msg.evt = some "VOICE_SETTINGS_UPDATE" then forwardVoiceSettings msg
    else if msg.evt = some "VOICE_CHANNEL_SELECT" then
      [.discordVoiceChannelStatus (msg.data.any parseVoiceChannelSelected)]
    else if msg.evt = some "VOICE_CONNECTION_STATUS" then []
    else if msg.cmd = some "GET_VOICE_SETTINGS" ∨ msg.cmd = some "SET_VOICE_SETTINGS" then
      forwardVoiceSettings msg
    else []

end VoxShift.Discord
