import VoxShift.Core.Pair
import VoxShift.Discord.Client

/-!
# The coordinator between its two peers

The coordinator composed with a VRChat and a Discord: four FIFO channels, two from
the coordinator and two back, and moves that may come in any order.

## The peers

* VRChat flips its mute on a `ToggleVoice`, and sends one `MuteSelf` per change.
* Discord sets its mute on a `SetMute`, and answers with the reply to
  `SET_VOICE_SETTINGS` and with a `VOICE_SETTINGS_UPDATE` event, either always or
  when the value changed. The client forwards both alike
  (`handleIncomingFrame_toRpcMessage`).
* The user mutes and unmutes on either side, and may ask for a manual resync.

## What is proved

`refines` — while the link is live, the composition does what `view` does: the
same four channels around the four bits of `Pair`.
-/

namespace VoxShift.Core

open VoxShift.Discord

/-! ### Frames -/

/-- What Discord sends the client about its voice settings. -/
inductive DiscordFrame where
  | reply (muted : Bool)
  | event (muted : Bool)
  deriving DecidableEq, Repr

/-- The mute state in the frame. -/
def DiscordFrame.muted : DiscordFrame → Bool
  | .reply muted => muted
  | .event muted => muted

/-- The frame on the wire; a reply carries the nonce of its command. -/
def DiscordFrame.toRpcMessage (nonce : String) : DiscordFrame → RpcMessage
  | .reply muted =>
    { cmd := some "SET_VOICE_SETTINGS", evt := none, data := some (.object [("mute", .bool muted)]),
      nonce := some nonce, code := none, message := none }
  | .event muted =>
    { cmd := some "DISPATCH", evt := some "VOICE_SETTINGS_UPDATE",
      data := some (.object [("mute", .bool muted)]), nonce := none, code := none, message := none }

/-- The client makes the same event of a reply and of an event. -/
theorem handleIncomingFrame_toRpcMessage (parseUuid : String → Option Uuid) (nonce : String)
    (frame : DiscordFrame) :
    handleIncomingFrame parseUuid (some (frame.toRpcMessage nonce)) =
      [.discordVoiceSettingsUpdate (.ofBool frame.muted)] := by
  cases frame <;> rfl

/-- When Discord's answer to a `SetMute` includes an event. -/
inductive EchoPolicy where
  | always
  | onChange
  deriving DecidableEq, Repr

/-- Discord's answer to a `SetMute`. -/
def EchoPolicy.answer (policy : EchoPolicy) (old new : Bool) : List DiscordFrame :=
  .reply new :: if policy = .always ∨ old ≠ new then [.event new] else []

/-- The client forwards Discord's answer as one or two updates with the value set. -/
theorem EchoPolicy.answer_map_muted (policy : EchoPolicy) (old new : Bool) :
    (policy.answer old new).map DiscordFrame.muted = [new] ∨
      (policy.answer old new).map DiscordFrame.muted = [new, new] := by
  unfold EchoPolicy.answer
  split_ifs
  · exact .inr rfl
  · exact .inl rfl

/-! ### The composition -/

/-- What happens next. -/
inductive Move where
  /-- The user mutes or unmutes in VRChat. -/
  | flipVrchat
  /-- The user mutes or unmutes in Discord. -/
  | flipDiscord
  /-- The user asks for a manual resync. -/
  | resync
  /-- VRChat takes a `ToggleVoice`. -/
  | vrchat
  /-- Discord takes a `SetMute`. -/
  | discord
  /-- The coordinator handles a `MuteSelf`. -/
  | muteSelf
  /-- The client forwards a frame, and the coordinator handles the update. -/
  | update
  deriving DecidableEq, Repr

/-- The move is the user's. -/
def Move.IsUser : Move → Prop
  | .flipVrchat | .flipDiscord | .resync => True
  | .vrchat | .discord | .muteSelf | .update => False

instance : DecidablePred Move.IsUser
  | .flipVrchat | .flipDiscord | .resync => .isTrue trivial
  | .vrchat | .discord | .muteSelf | .update => .isFalse id

/-- The coordinator, its peers and what is in flight between them. -/
structure Network where
  coordinator : Coordinator
  /-- VRChat is muted. -/
  vrchat : Bool
  /-- Discord is muted. -/
  discord : Bool
  /-- Toggles on their way to VRChat. -/
  vrchatTx : List VrChatCommand
  /-- Commands on their way to Discord. -/
  discordTx : List DiscordCommand
  /-- What VRChat has reported and the coordinator not yet seen. -/
  muteSelfs : List Bool
  /-- What Discord has sent and the client not yet forwarded. -/
  frames : List DiscordFrame
  deriving DecidableEq, Repr

/-- The command, if it is for VRChat. -/
def Command.vrchat? : Command → Option VrChatCommand
  | .vrchat cmd => some cmd
  | .discord _ => none

/-- The command, if it is for Discord. -/
def Command.discord? : Command → Option DiscordCommand
  | .vrchat _ => none
  | .discord cmd => some cmd

namespace Network

/-- The coordinator's turn: what it issues goes out on its two channels. -/
def handle (env : Env) (n : Network) (i : Input) : Network × List Command :=
  let (c, cmds) := n.coordinator.step env i
  ({ n with
      coordinator := c
      vrchatTx := n.vrchatTx ++ cmds.filterMap Command.vrchat?
      discordTx := n.discordTx ++ cmds.filterMap Command.discord? }, cmds)

/-- VRChat changes its mute and reports it. -/
def flipVrchat (n : Network) : Network :=
  { n with vrchat := !n.vrchat, muteSelfs := n.muteSelfs ++ [!n.vrchat] }

/-- One move. Taking from an empty channel does nothing. -/
def step (policy : EchoPolicy) (n : Network) (m : Move × Env) : Network × List Command :=
  match m.1 with
  | .flipVrchat => (n.flipVrchat, [])
  | .flipDiscord =>
    ({ n with discord := !n.discord, frames := n.frames ++ [.event (!n.discord)] }, [])
  | .resync => handle m.2 n (.command .manualResync)
  | .vrchat =>
    match n.vrchatTx with
    | [] => (n, [])
    | _ :: rest => (flipVrchat { n with vrchatTx := rest }, [])
  | .discord =>
    match n.discordTx with
    | [] => (n, [])
    | cmd :: rest =>
      let muted := (handleDiscordCommand cmd).args.mute
      ({ n with
          discordTx := rest
          discord := muted
          frames := n.frames ++ policy.answer n.discord muted }, [])
  | .muteSelf =>
    match n.muteSelfs with
    | [] => (n, [])
    | muted :: rest =>
      handle m.2 { n with muteSelfs := rest } (.event (.vrChatMuteSelf (.ofBool muted)))
  | .update =>
    match n.frames with
    | [] => (n, [])
    | frame :: rest =>
      handle m.2 { n with frames := rest }
        (.event (.discordVoiceSettingsUpdate (.ofBool frame.muted)))

end Network

/-- The composition as a machine; it emits what the coordinator issues. -/
def network (policy : EchoPolicy) : Theory.Machine Network (Move × Env) Command where
  step := Network.step policy

/-! ### Its view -/

/-- What the composition comes down to while the link is live. -/
structure View where
  pair : Pair
  vrchat : Bool
  discord : Bool
  toggles : ℕ
  setMutes : List Bool
  muteSelfs : List Bool
  updates : List Bool
  deriving DecidableEq, Repr

/-- The value a `SetMute` sets. -/
def Order.setMute? : Order → Option Bool
  | .toggle => none
  | .setMute muted => some muted

@[simp] theorem Order.filterMap_setMute (muted : Bool) :
    [Order.setMute muted].filterMap Order.setMute? = [muted] := rfl

@[simp] theorem Order.filterMap_toggle : [Order.toggle].filterMap Order.setMute? = [] := rfl

namespace View

/-- The pair changes, and what it orders goes out. -/
def send (w : View) (q : Pair × List Order) : View × List Order :=
  ({ w with
      pair := q.1
      toggles := w.toggles + q.2.count .toggle
      setMutes := w.setMutes ++ q.2.filterMap Order.setMute? }, q.2)

/-- VRChat changes its mute and reports it. -/
def flipVrchat (w : View) : View :=
  { w with vrchat := !w.vrchat, muteSelfs := w.muteSelfs ++ [!w.vrchat] }

/-- One move. -/
def step (policy : EchoPolicy) (w : View) : Move → View × List Order
  | .flipVrchat => (w.flipVrchat, [])
  | .flipDiscord => ({ w with discord := !w.discord, updates := w.updates ++ [!w.discord] }, [])
  | .resync => w.send w.pair.resync
  | .vrchat =>
    match w.toggles with
    | 0 => (w, [])
    | k + 1 => (flipVrchat { w with toggles := k }, [])
  | .discord =>
    match w.setMutes with
    | [] => (w, [])
    | muted :: rest =>
      ({ w with
          setMutes := rest
          discord := muted
          updates := w.updates ++ (policy.answer w.discord muted).map DiscordFrame.muted }, [])
  | .muteSelf =>
    match w.muteSelfs with
    | [] => (w, [])
    | muted :: rest => send { w with muteSelfs := rest } (w.pair.seeVrchat muted)
  | .update =>
    match w.updates with
    | [] => (w, [])
    | muted :: rest => send { w with updates := rest } (w.pair.seeDiscord muted)

section Steps

variable (policy : EchoPolicy) {w : View}

theorem step_vrchat_zero (h : w.toggles = 0) : w.step policy .vrchat = (w, []) := by
  simp only [step, h]

theorem step_discord_nil (h : w.setMutes = []) : w.step policy .discord = (w, []) := by
  simp only [step, h]

theorem step_muteSelf_nil (h : w.muteSelfs = []) : w.step policy .muteSelf = (w, []) := by
  simp only [step, h]

theorem step_update_nil (h : w.updates = []) : w.step policy .update = (w, []) := by
  simp only [step, h]

theorem step_muteSelf_cons {muted : Bool} {rest : List Bool} (h : w.muteSelfs = muted :: rest) :
    w.step policy .muteSelf = send { w with muteSelfs := rest } (w.pair.seeVrchat muted) := by
  simp only [step, h]

theorem step_update_cons {muted : Bool} {rest : List Bool} (h : w.updates = muted :: rest) :
    w.step policy .update = send { w with updates := rest } (w.pair.seeDiscord muted) := by
  simp only [step, h]

end Steps

end View

/-- The view as a machine. -/
def view (policy : EchoPolicy) : Theory.Machine View Move Order where
  step := View.step policy

/-! ### The composition refines its view -/

namespace Network

/-- The view of the composition. -/
def view (n : Network) : View where
  pair := n.coordinator.pair
  vrchat := n.vrchat
  discord := n.discord
  toggles := n.vrchatTx.length
  setMutes := n.discordTx.map fun cmd => (handleDiscordCommand cmd).args.mute
  muteSelfs := n.muteSelfs
  updates := n.frames.map DiscordFrame.muted

/-- The link is live. -/
def Live (n : Network) : Prop := n.coordinator.Live

theorem length_filterMap_vrchat? (cmds : List Command) :
    (cmds.filterMap Command.vrchat?).length = (cmds.map Command.order).count .toggle := by
  induction cmds with
  | nil => rfl
  | cons cmd cmds ih => rcases cmd with ⟨⟨_⟩⟩ | ⟨⟨_, _⟩⟩ <;>
      simp [List.filterMap_cons, Command.vrchat?, Command.order, ih]

theorem map_filterMap_discord? (cmds : List Command) :
    (cmds.filterMap Command.discord?).map (fun cmd => (handleDiscordCommand cmd).args.mute) =
      (cmds.map Command.order).filterMap Order.setMute? := by
  induction cmds with
  | nil => rfl
  | cons cmd cmds ih =>
    rw [List.map_cons, List.filterMap_cons, List.filterMap_cons]
    rcases cmd with ⟨⟨_⟩⟩ | ⟨⟨_, _⟩⟩
    · exact ih
    · exact congrArg (_ :: ·) ih

theorem handle_view {n : Network} {env : Env} {i : Input} {q : Pair × List Order}
    (h : Coordinator.Shows (n.coordinator.step env i) q) :
    (n.handle env i).1.Live ∧ (n.handle env i).1.view = (n.view.send q).1 ∧
      (n.handle env i).2.map Command.order = (n.view.send q).2 := by
  refine ⟨h.live, ?_, h.orders⟩
  simp only [handle, view, View.send, List.length_append, List.map_append, length_filterMap_vrchat?,
    map_filterMap_discord?, h.orders, h.pair]

theorem step_view (policy : EchoPolicy) {n : Network} (h : n.Live) (m : Move × Env) :
    (n.step policy m).1.Live ∧ (n.step policy m).1.view = (n.view.step policy m.1).1 ∧
      (n.step policy m).2.map Command.order = (n.view.step policy m.1).2 := by
  obtain ⟨m, env⟩ := m
  cases m with
  | flipVrchat => exact ⟨h, rfl, rfl⟩
  | flipDiscord =>
    refine ⟨h, ?_, rfl⟩
    simp [step, View.step, view, DiscordFrame.muted]
  | resync => exact handle_view (h.resync env)
  | vrchat =>
    simp only [step, View.step]
    rcases hq : n.vrchatTx with _ | ⟨cmd, rest⟩
    · simp [view, hq, h]
    · refine ⟨h, ?_, ?_⟩ <;> simp [view, hq, flipVrchat, View.flipVrchat]
  | discord =>
    simp only [step, View.step]
    rcases hq : n.discordTx with _ | ⟨cmd, rest⟩
    · simp [view, hq, h]
    · refine ⟨h, ?_, ?_⟩ <;> simp [view, hq]
  | muteSelf =>
    simp only [step, View.step]
    rcases hq : n.muteSelfs with _ | ⟨muted, rest⟩
    · simp [view, hq, h]
    · have hlive : ({ n with muteSelfs := rest } : Network).coordinator.Live := h
      simpa [view, hq] using handle_view (hlive.seeVrchat env muted)
  | update =>
    simp only [step, View.step]
    rcases hq : n.frames with _ | ⟨frame, rest⟩
    · simp [view, hq, h]
    · have hlive : ({ n with frames := rest } : Network).coordinator.Live := h
      simpa [view, hq] using handle_view (hlive.seeDiscord env frame.muted)

end Network

/-- **The composition refines its view.** -/
theorem refines (policy : EchoPolicy) :
    (network policy).Refines (view policy) Network.Live Network.view Prod.fst Command.order where
  inv _ m h := (Network.step_view policy h m).1
  next _ m h := (Network.step_view policy h m).2.1
  out _ m h := (Network.step_view policy h m).2.2

/-! ### Where it starts -/

/-- A settled inverse pair with empty channels. -/
structure Network.Settled (n : Network) : Prop where
  reachable : Reachable n.coordinator
  done : n.coordinator.initialSyncDone = true
  active : n.coordinator.linkState = .active
  mode : n.coordinator.linkMode = .inverseBidirectional
  vrchat : n.coordinator.vrchatState = .ofBool n.vrchat
  discord : n.coordinator.discordState = .ofBool n.discord
  inverse : n.discord = !n.vrchat
  noToggle : n.coordinator.pendingVrchat = none
  noSetMute : n.coordinator.pendingDiscord = none
  vrchatTx : n.vrchatTx = []
  discordTx : n.discordTx = []
  muteSelfs : n.muteSelfs = []
  frames : n.frames = []

theorem Network.Settled.live {n : Network} (h : n.Settled) : n.Live :=
  ⟨h.reachable.inv.toSlots, h.done, h.active, h.mode, by simp [h.vrchat], by simp [h.discord]⟩

theorem Network.Settled.view {n : Network} (h : n.Settled) :
    n.view = ⟨⟨n.vrchat, !n.vrchat, false, false⟩, n.vrchat, !n.vrchat, 0, [], [], []⟩ := by
  simp [Network.view, Coordinator.pair, h.vrchat, h.discord, h.inverse, h.noToggle, h.noSetMute,
    h.vrchatTx, h.discordTx, h.muteSelfs, h.frames]

/-- VRChat was seen, then Discord in the inverse state. -/
def Network.start (muted : Bool) : Network where
  coordinator := VoxShift.Core.coordinator.run (.new .default)
    [(⟨0, 0, 1⟩, .event (.vrChatMuteSelf (.ofBool muted))),
      (⟨0, 0, 2⟩, .event (.discordVoiceSettingsUpdate (.ofBool (!muted))))]
  vrchat := muted
  discord := !muted
  vrchatTx := []
  discordTx := []
  muteSelfs := []
  frames := []

theorem Network.settled_start (muted : Bool) : (Network.start muted).Settled := by
  cases muted <;>
    exact ⟨reachable_run _ _, rfl, rfl, rfl, rfl, rfl, rfl, rfl, rfl, rfl, rfl, rfl, rfl⟩

end VoxShift.Core
