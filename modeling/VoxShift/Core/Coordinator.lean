import VoxShift.Core.State
import VoxShift.Theory.Machine

/-!
# The Voice Coordinator

`voxshift-core`'s `coordinator.rs`: the one place that reconciles the two mute
states and issues commands to the adapters.

## The model

* The `async` handlers of the source run to completion one after another, so
  each is a function from the coordinator to the coordinator after it and the
  commands it put on the two command channels, in order.
* What a handler asks the platform for is passed in as an `Env`: the monotonic
  clock (`TokioInstant::now()`), the wall clock (`SystemTime::now()`) and a fresh
  nonce (`Uuid::new_v4()`).
* The field `snapshotTx` is the value last sent on the watch channel.
* The sequence counters are `u64` in the source and `ℕ` here: `2⁶⁴` events do not
  arrive. The `tracing` calls are left out.
* `step` is one turn of the `select!` in `run`: an event, a UI command, or the
  timeout branch. The branch wakes at `next_deadline`, but the handler checks
  the deadlines itself, so here the timeout branch may be taken at any time.
-/

namespace VoxShift.Core

/-- §11.5: the VRChat toggle safety deadline, 1.5 s. -/
def VRCHAT_COMMAND_TIMEOUT : Duration := Duration.fromMillis 1500

/-- The Discord round-trip deadline, 2.0 s. -/
def DISCORD_COMMAND_TIMEOUT : Duration := Duration.fromMillis 2000

/-- §11.4: a `SET_VOICE_SETTINGS` command in flight. -/
structure PendingDiscordCommand where
  nonce : Uuid
  target : MuteState
  issuedAt : Instant
  deadline : Instant
  deriving DecidableEq, Repr

/-- §11.4: a VRChat toggle in flight. -/
structure PendingVrChatCommand where
  previous : MuteState
  expected : MuteState
  issuedAt : Instant
  deadline : Instant
  deriving DecidableEq, Repr

/-- `CoordinatorConfig`. -/
structure CoordinatorConfig where
  linkMode : LinkMode
  linkEnabled : Bool
  startupAuthority : StartupAuthority
  resumePolicy : ResumePolicy
  deriving DecidableEq, Repr

/-- `CoordinatorConfig::default`. -/
def CoordinatorConfig.default : CoordinatorConfig where
  linkMode := .inverseBidirectional
  linkEnabled := true
  startupAuthority := .vrchat
  resumePolicy := .syncFromVrchat

/-- The coordinator, less the sending ends of its command channels. -/
structure Coordinator where
  vrchatState : MuteState
  vrchatConnection : ConnectionState
  discordState : MuteState
  discordConnection : ConnectionState
  discordInVoice : Bool
  linkMode : LinkMode
  linkState : LinkState
  resumePolicy : ResumePolicy
  startupAuthority : StartupAuthority
  initialSyncDone : Bool
  pendingDiscord : Option PendingDiscordCommand
  pendingVrchat : Option PendingVrChatCommand
  nextSequence : ℕ
  lastCommandSequence : ℕ
  lastSyncAt : Option SystemTime
  lastError : Option String
  snapshotTx : AppSnapshot
  deriving DecidableEq, Repr

/-- What a handler reads from the platform. -/
structure Env where
  /-- `TokioInstant::now()`. -/
  now : Instant
  /-- `SystemTime::now()`. -/
  systemNow : SystemTime
  /-- `Uuid::new_v4()`. -/
  nonce : Uuid
  deriving DecidableEq, Repr

/-- The link state a configuration starts in. -/
def CoordinatorConfig.startState (cfg : CoordinatorConfig) : LinkState :=
  if cfg.linkEnabled then .waitingForState else .paused

namespace Coordinator

/-- `Coordinator::new`. -/
def new (cfg : CoordinatorConfig) : Coordinator where
  vrchatState := .unknown
  vrchatConnection := .disconnected
  discordState := .unknown
  discordConnection := .disconnected
  discordInVoice := false
  linkMode := cfg.linkMode
  linkState := cfg.startState
  resumePolicy := cfg.resumePolicy
  startupAuthority := cfg.startupAuthority
  initialSyncDone := false
  pendingDiscord := none
  pendingVrchat := none
  nextSequence := 0
  lastCommandSequence := 0
  lastSyncAt := none
  lastError := none
  snapshotTx := { AppSnapshot.default with linkMode := cfg.linkMode, linkState := cfg.startState }

/-- `next_deadline`. -/
def nextDeadline (c : Coordinator) : Option Instant :=
  match c.pendingVrchat, c.pendingDiscord with
  | some v, some d => some (min v.deadline d.deadline)
  | some v, none => some v.deadline
  | none, some d => some d.deadline
  | none, none => none

/-- The snapshot `publish_snapshot` sends. -/
def snapshot (c : Coordinator) : AppSnapshot where
  vrchatConnection := c.vrchatConnection
  vrchatMute := c.vrchatState
  discordConnection := c.discordConnection
  discordMute := c.discordState
  discordInVoiceChannel := c.discordInVoice
  linkMode := c.linkMode
  linkState := c.linkState
  lastSyncAt := c.lastSyncAt
  lastError := c.lastError

/-- The coordinator up to nonces, timestamps and sequence counters. -/
def erase (c : Coordinator) : Coordinator :=
  { c with
    pendingDiscord := c.pendingDiscord.map fun p =>
      { p with nonce := 0, issuedAt := 0, deadline := 0 }
    pendingVrchat := c.pendingVrchat.map fun p => { p with issuedAt := 0, deadline := 0 }
    nextSequence := 0
    lastCommandSequence := 0
    lastSyncAt := none
    snapshotTx := { c.snapshotTx with lastSyncAt := none } }

/-- `publish_snapshot`. -/
def publishSnapshot (c : Coordinator) : Coordinator := { c with snapshotTx := c.snapshot }

/-! ### Issuing commands -/

/-- `discord_target_for`. -/
def discordTargetFor (vrchat : MuteState) : Option MuteState := vrchat.target?

/-- `vrchat_target_for`. -/
def vrchatTargetFor (discord : MuteState) : Option MuteState := discord.target?

/-- `set_discord_state`: not from an unknown state, not to a state already reached, and not to a
state a command in flight will reach. -/
def setDiscordState (env : Env) (c : Coordinator) (target : MuteState) :
    Coordinator × List Command :=
  if c.discordState = .unknown then (c, [])
  else if c.discordState = target then (c, [])
  else if c.pendingDiscord.any (fun p => decide (p.target = target)) then (c, [])
  else
    ({ c with pendingDiscord := some {
        nonce := env.nonce
        target := target
        issuedAt := env.now
        deadline := env.now + DISCORD_COMMAND_TIMEOUT } },
      [.discord (.setMute target env.nonce)])

/-- `toggle_vrchat`: not from an unknown state, and not while a toggle is in flight. -/
def toggleVrchat (env : Env) (c : Coordinator) (expected : MuteState) :
    Coordinator × List Command :=
  if c.vrchatState = .unknown then (c, [])
  else if c.pendingVrchat.isSome then (c, [])
  else
    ({ c with pendingVrchat := some {
        previous := c.vrchatState
        expected := expected
        issuedAt := env.now
        deadline := env.now + VRCHAT_COMMAND_TIMEOUT } },
      [.vrchat (.toggleVoice expected)])

/-- What `try_initial_sync` and `resync_from_vrchat` end with: the last-sync stamp. -/
def stampSync (env : Env) (c : Coordinator) : Coordinator :=
  publishSnapshot { c with lastSyncAt := some env.systemNow }

/-- §12.2: the startup authority in force; VRChat-priority mode always favours VRChat. -/
def effectiveAuthority (c : Coordinator) : StartupAuthority :=
  if c.linkMode = .vrchatMaster then .vrchat else c.startupAuthority

/-- `if self.discord_state != target { self.set_discord_state(target).await }` with the target for
the current VRChat state, as `try_initial_sync` and `resync_from_vrchat` do it. -/
def syncDiscord (env : Env) (c : Coordinator) : Coordinator × List Command :=
  match discordTargetFor c.vrchatState with
  | some target => if c.discordState ≠ target then setDiscordState env c target else (c, [])
  | none => (c, [])

/-- The same in the other direction, as `try_initial_sync` does it. -/
def syncVrchat (env : Env) (c : Coordinator) : Coordinator × List Command :=
  match vrchatTargetFor c.discordState with
  | some target => if c.vrchatState ≠ target then toggleVrchat env c target else (c, [])
  | none => (c, [])

/-- The head of the body of `try_initial_sync`: the sync is marked done and a waiting link is
activated. -/
def startSync (c : Coordinator) : Coordinator :=
  { c with
    initialSyncDone := true
    linkState := if c.linkState = .waitingForState then .active else c.linkState }

/-- `try_initial_sync`. -/
def tryInitialSync (env : Env) (c : Coordinator) : Coordinator × List Command :=
  if c.initialSyncDone then (c, [])
  else if c.vrchatState = .unknown ∨ c.discordState = .unknown then (c, [])
  else
    let c := c.startSync
    let (c, cmds) := match c.effectiveAuthority with
      | .vrchat => syncDiscord env c
      | .discord => syncVrchat env c
      | .none => (c, [])
    (stampSync env c, cmds)

/-- `resync_from_vrchat`. -/
def resyncFromVrchat (env : Env) (c : Coordinator) : Coordinator × List Command :=
  if c.vrchatState = .unknown then
    (publishSnapshot
      { c with lastError := some "VRChat state unknown; toggle the mic once to sync" }, [])
  else
    let (c, cmds) := syncDiscord env c
    (stampSync env c, cmds)

/-- `manual_resync`. -/
def manualResync (env : Env) (c : Coordinator) : Coordinator × List Command :=
  resyncFromVrchat env { c with pendingDiscord := none, pendingVrchat := none }

/-! ### Handlers -/

/-- The head of `handle_vrchat_mute_self`: the pending toggle is taken, confirmed or not, and the
observation recorded. -/
def observeVrchat (c : Coordinator) (state : MuteState) : Coordinator :=
  publishSnapshot { c with
    nextSequence := c.nextSequence + 1
    lastCommandSequence := if c.pendingVrchat.isSome then c.nextSequence else c.lastCommandSequence
    pendingVrchat := none
    vrchatState := state
    vrchatConnection := .connected }

/-- `handle_vrchat_mute_self`. -/
def handleVrchatMuteSelf (env : Env) (c : Coordinator) (state : MuteState) :
    Coordinator × List Command :=
  let c := c.observeVrchat state
  if !c.initialSyncDone then tryInitialSync env c
  else if c.linkState ≠ .active then (c, [])
  else match state.target? with
    | some target => if c.discordState ≠ target then setDiscordState env c target else (c, [])
    | none => (c, [])

/-- `handle_vrchat_avatar_changed`. -/
def handleVrchatAvatarChanged (c : Coordinator) : Coordinator :=
  publishSnapshot { c with vrchatState := .unknown, pendingVrchat := none }

/-- The head of `handle_discord_voice_settings_update`: the pending command is taken, confirmed or
not, and the observation recorded. -/
def observeDiscord (c : Coordinator) (mute : MuteState) : Coordinator :=
  publishSnapshot { c with
    nextSequence := c.nextSequence + 1
    lastCommandSequence := if c.pendingDiscord.isSome then c.nextSequence else c.lastCommandSequence
    pendingDiscord := none
    discordState := mute
    discordConnection := .connected }

/-- `handle_discord_voice_settings_update`. -/
def handleDiscordVoiceSettingsUpdate (env : Env) (c : Coordinator) (mute : MuteState) :
    Coordinator × List Command :=
  let c := c.observeDiscord mute
  if !c.initialSyncDone then tryInitialSync env c
  else if c.linkState ≠ .active then (c, [])
  else if c.linkMode = .vrchatMaster then (c, [])
  else match mute.target? with
    | some target => if c.vrchatState ≠ target then toggleVrchat env c target else (c, [])
    | none => (c, [])

/-- `handle_discord_command_ack`. -/
def handleDiscordCommandAck (c : Coordinator) (nonce : Uuid) (result : Except String MuteState) :
    Coordinator :=
  if c.pendingDiscord.any (fun p => decide (p.nonce = nonce)) then
    match result with
    | .error message =>
      publishSnapshot { c with
        pendingDiscord := none
        linkState := .faulted
        lastError := some message }
    | .ok _ => c
  else c

/-- `handle_event`, `DiscordConnectionChanged`: §13.1, a lost connection makes the state unknown. -/
def handleDiscordConnectionChanged (c : Coordinator) (cs : ConnectionState) : Coordinator :=
  if cs ≠ .connected then
    publishSnapshot { c with
      discordConnection := cs
      discordState := .unknown
      pendingDiscord := none }
  else publishSnapshot { c with discordConnection := cs }

/-- `handle_event`. -/
def handleEvent (env : Env) (c : Coordinator) : CoordinatorEvent → Coordinator × List Command
  | .vrChatMuteSelf state => handleVrchatMuteSelf env c state
  | .vrChatAvatarChanged => (handleVrchatAvatarChanged c, [])
  | .vrChatConnectionChanged cs => (publishSnapshot { c with vrchatConnection := cs }, [])
  | .discordVoiceSettingsUpdate mute => handleDiscordVoiceSettingsUpdate env c mute
  | .discordVoiceChannelStatus inVoice => (publishSnapshot { c with discordInVoice := inVoice }, [])
  | .discordConnectionChanged cs => (handleDiscordConnectionChanged c cs, [])
  | .discordCommandAck nonce result => (handleDiscordCommandAck c nonce result, [])
  | .discordVoiceStateUnavailable message =>
    (publishSnapshot { c with lastError := some message }, [])

/-- `handle_command`, `SetPaused(false)`. -/
def resume (env : Env) (c : Coordinator) : Coordinator × List Command :=
  match c.resumePolicy with
  | .keepState => (publishSnapshot { c with linkState := .active }, [])
  | .syncFromVrchat => resyncFromVrchat env { c with linkState := .active }

/-- `handle_command`. `run` breaks on `Shutdown` before it gets here (the source's
`unreachable!`). -/
def handleCommand (env : Env) (c : Coordinator) : CoordinatorCommand → Coordinator × List Command
  | .setLinkMode mode => (publishSnapshot { c with linkMode := mode }, [])
  | .setPaused true => (publishSnapshot { c with linkState := .paused }, [])
  | .setPaused false => resume env c
  | .manualResync => manualResync env c
  | .shutdown => (c, [])

/-- The first half of `handle_pending_timeout`: §11.5, a toggle not confirmed in time is not
resent; the state is forgotten and the link faulted. -/
def expireVrchat (now : Instant) (c : Coordinator) : Coordinator :=
  if c.pendingVrchat.any (fun p => decide (p.deadline ≤ now)) then
    publishSnapshot { c with
      pendingVrchat := none
      vrchatState := .unknown
      linkState := .faulted
      lastError := some "VRChat toggle not confirmed; manual resync required" }
  else c

/-- The second half of `handle_pending_timeout`. -/
def expireDiscord (now : Instant) (c : Coordinator) : Coordinator :=
  if c.pendingDiscord.any (fun p => decide (p.deadline ≤ now)) then
    publishSnapshot { c with
      pendingDiscord := none
      discordState := .unknown
      discordConnection := .degraded
      lastError := some "Discord command not confirmed" }
  else c

/-- `handle_pending_timeout`. -/
def handlePendingTimeout (env : Env) (c : Coordinator) : Coordinator :=
  expireDiscord env.now (expireVrchat env.now c)

end Coordinator

/-! ### The loop -/

/-- What `select!` hands the coordinator. -/
inductive Input where
  | event (ev : CoordinatorEvent)
  | command (cmd : CoordinatorCommand)
  | timeout

/-- One turn of the loop in `run`. -/
def Coordinator.step (env : Env) (c : Coordinator) : Input → Coordinator × List Command
  | .event ev => c.handleEvent env ev
  | .command cmd => c.handleCommand env cmd
  | .timeout => (c.handlePendingTimeout env, [])

/-- A turn of the loop together with what it reads from the platform. -/
abbrev Turn := Env × Input

/-- The coordinator as a machine: `run`, one turn at a time. -/
def coordinator : Theory.Machine Coordinator Turn Command where
  step c t := c.step t.1 t.2

/-- The coordinator just built, from some configuration. -/
def IsNew (c : Coordinator) : Prop := ∃ cfg, c = Coordinator.new cfg

/-- The states between turns of the loop. -/
def Reachable : Coordinator → Prop := coordinator.Reachable IsNew

theorem reachable_run (cfg : CoordinatorConfig) (ts : List Turn) :
    Reachable (coordinator.run (.new cfg) ts) := ⟨_, ts, ⟨cfg, rfl⟩, rfl⟩

@[simp] theorem coordinator_next (c : Coordinator) (t : Turn) :
    coordinator.next c t = (c.step t.1 t.2).1 := rfl

@[simp] theorem coordinator_out (c : Coordinator) (t : Turn) :
    coordinator.out c t = (c.step t.1 t.2).2 := rfl

end VoxShift.Core
