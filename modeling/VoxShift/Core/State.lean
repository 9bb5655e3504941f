import Mathlib.Data.Int.Notation
import Mathlib.Tactic.Common

/-!
# The internal state model

The enumerations of `voxshift-core`'s `state.rs`, the snapshot the UI sees, and
the events and commands of `event.rs` and `command.rs` that flow into and out of
the Voice Coordinator.

The point of the program is the relation `DiscordMuted = !VrChatMuted` between
two mute states. `MuteState.inverse` is that relation as a function; the source
writes it out as a `match` wherever it needs it, with a third arm for `Unknown`,
which is `MuteState.target?` here.
-/

namespace VoxShift.Core

/-- A length of time, in nanoseconds. -/
abbrev Duration := ℕ

/-- A reading of the monotonic clock (`tokio::time::Instant`), in nanoseconds. -/
abbrev Instant := ℕ

/-- A reading of the wall clock (`std::time::SystemTime`), in the ticks of 100 ns since
1601-01-01 in which Windows keeps it. -/
abbrev SystemTime := ℤ

/-- `Duration::from_millis`. -/
def Duration.fromMillis (ms : ℕ) : Duration := 1000000 * ms

/-- `Duration::from_secs`. -/
def Duration.fromSecs (s : ℕ) : Duration := 1000000000 * s

/-- A nonce, `uuid::Uuid`. -/
abbrev Uuid := BitVec 128

/-! ### Enumerations -/

/-- `MuteState`. -/
inductive MuteState where
  | unknown
  | muted
  | unmuted
  deriving DecidableEq, Repr

/-- `ConnectionState`. -/
inductive ConnectionState where
  | disconnected
  | connecting
  | authorizing
  | connected
  | degraded
  deriving DecidableEq, Repr

/-- `LinkMode`. -/
inductive LinkMode where
  | inverseBidirectional
  | vrchatMaster
  deriving DecidableEq, Repr

/-- `LinkState`. -/
inductive LinkState where
  | active
  | paused
  | waitingForState
  | faulted
  deriving DecidableEq, Repr

/-- `StartupAuthority`. -/
inductive StartupAuthority where
  | vrchat
  | discord
  | none
  deriving DecidableEq, Repr

/-- `ResumePolicy`. -/
inductive ResumePolicy where
  | keepState
  | syncFromVrchat
  deriving DecidableEq, Repr

/-- `AppSnapshot`: what the watch channel publishes. -/
structure AppSnapshot where
  vrchatConnection : ConnectionState
  vrchatMute : MuteState
  discordConnection : ConnectionState
  discordMute : MuteState
  discordInVoiceChannel : Bool
  linkMode : LinkMode
  linkState : LinkState
  lastSyncAt : Option SystemTime
  lastError : Option String
  deriving DecidableEq, Repr

/-- `AppSnapshot::default`. -/
def AppSnapshot.default : AppSnapshot where
  vrchatConnection := .disconnected
  vrchatMute := .unknown
  discordConnection := .disconnected
  discordMute := .unknown
  discordInVoiceChannel := false
  linkMode := .inverseBidirectional
  linkState := .waitingForState
  lastSyncAt := none
  lastError := none

/-! ### Events and commands -/

/-- `CoordinatorEvent`: what the adapters report. -/
inductive CoordinatorEvent where
  | vrChatMuteSelf (state : MuteState)
  | vrChatAvatarChanged
  | vrChatConnectionChanged (cs : ConnectionState)
  | discordVoiceSettingsUpdate (mute : MuteState)
  | discordVoiceChannelStatus (inVoice : Bool)
  | discordConnectionChanged (cs : ConnectionState)
  | discordCommandAck (nonce : Uuid) (result : Except String MuteState)
  | discordVoiceStateUnavailable (message : String)

/-- `CoordinatorCommand`: what the UI asks for. -/
inductive CoordinatorCommand where
  | setLinkMode (mode : LinkMode)
  | setPaused (paused : Bool)
  | manualResync
  | shutdown
  deriving DecidableEq, Repr

/-- `VrChatCommand`. -/
inductive VrChatCommand where
  | toggleVoice (expectedAfter : MuteState)
  deriving DecidableEq, Repr

/-- `DiscordCommand`. -/
inductive DiscordCommand where
  | setMute (target : MuteState) (nonce : Uuid)
  deriving DecidableEq, Repr

/-- A command on one of the coordinator's two command channels, `vrchat_tx` and `discord_tx`. -/
inductive Command where
  | vrchat (cmd : VrChatCommand)
  | discord (cmd : DiscordCommand)
  deriving DecidableEq, Repr

/-- The state a command is to bring about. -/
def Command.goal : Command → MuteState
  | .vrchat (.toggleVoice expected) => expected
  | .discord (.setMute target _) => target

/-- The command is a `ToggleVoice`. -/
def Command.IsToggle : Command → Prop
  | .vrchat _ => True
  | .discord _ => False

/-- The command is a `SetMute`. -/
def Command.IsSetMute : Command → Prop
  | .vrchat _ => False
  | .discord _ => True

instance : DecidablePred Command.IsToggle
  | .vrchat _ => .isTrue trivial
  | .discord _ => .isFalse id

instance : DecidablePred Command.IsSetMute
  | .vrchat _ => .isFalse id
  | .discord _ => .isTrue trivial

@[simp] theorem Command.isToggle_vrchat (cmd : VrChatCommand) : (Command.vrchat cmd).IsToggle :=
  trivial

@[simp] theorem Command.not_isToggle_discord (cmd : DiscordCommand) :
    ¬ (Command.discord cmd).IsToggle := id

@[simp] theorem Command.isSetMute_discord (cmd : DiscordCommand) :
    (Command.discord cmd).IsSetMute := trivial

@[simp] theorem Command.not_isSetMute_vrchat (cmd : VrChatCommand) :
    ¬ (Command.vrchat cmd).IsSetMute := id

/-! ### Inverse mute states -/

namespace MuteState

/-- The other known state; `Unknown` has no inverse and is left alone. -/
def inverse : MuteState → MuteState
  | .muted => .unmuted
  | .unmuted => .muted
  | .unknown => .unknown

/-- The state one side should have when the other has this one: the `match` of
`discord_target_for`, `vrchat_target_for` and the two observation handlers. -/
def target? : MuteState → Option MuteState
  | .muted => some .unmuted
  | .unmuted => some .muted
  | .unknown => none

/-- `matches!(state, MuteState::Muted)`. -/
def isMuted : MuteState → Bool
  | .muted => true
  | _ => false

/-- The mute state a boolean on either wire stands for: `true` is muted. -/
def ofBool (muted : Bool) : MuteState := if muted then .muted else .unmuted

@[simp] theorem ofBool_ne_unknown (b : Bool) : ofBool b ≠ .unknown := by cases b <;> simp [ofBool]

@[simp] theorem inverse_ofBool (b : Bool) : (ofBool b).inverse = ofBool (!b) := by cases b <;> rfl

@[simp] theorem ofBool_inj {a b : Bool} : ofBool a = ofBool b ↔ a = b := by
  cases a <;> cases b <;> simp [ofBool]

@[simp] theorem isMuted_ofBool (b : Bool) : (ofBool b).isMuted = b := by cases b <;> rfl

theorem ofBool_isMuted {s : MuteState} (hs : s ≠ .unknown) : ofBool s.isMuted = s := by
  cases s <;> simp_all [ofBool, isMuted]

theorem target?_eq (s : MuteState) : s.target? = if s = .unknown then none else some s.inverse := by
  cases s <;> rfl

@[simp] theorem inverse_inverse (s : MuteState) : s.inverse.inverse = s := by cases s <;> rfl

@[simp] theorem inverse_eq_unknown {s : MuteState} : s.inverse = .unknown ↔ s = .unknown := by
  cases s <;> simp [inverse]

@[simp] theorem inverse_inj {s t : MuteState} : s.inverse = t.inverse ↔ s = t := by
  cases s <;> cases t <;> simp [inverse]

theorem inverse_ne {s : MuteState} (hs : s ≠ .unknown) : s.inverse ≠ s := by
  cases s <;> simp_all [inverse]

theorem eq_inverse_comm {s t : MuteState} : s = t.inverse ↔ t = s.inverse := by
  cases s <;> cases t <;> simp [inverse]

theorem ne_iff_eq_inverse {s t : MuteState} (hs : s ≠ .unknown) (ht : t ≠ .unknown) :
    s ≠ t ↔ s = t.inverse := by
  cases s <;> cases t <;> simp_all [inverse]

end MuteState

end VoxShift.Core
