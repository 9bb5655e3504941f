import VoxShift.Core.Issue

/-!
# The link as four bits

On an active link in the bidirectional mode, once the initial sync is done and
both sides are known, all the coordinator goes by is what it last saw of each side
and whether a command is in flight to it. `Pair` is that view, with the two
observation handlers and the manual resync stated on it.

## What is proved

* `Live.seeVrchat`, `Live.seeDiscord`, `Live.resync` — the coordinator does what
  the view says, and the link stays live.
-/

namespace VoxShift.Core

/-- What the coordinator knows of a live link: whether each side was last seen muted, and whether a
command is in flight to it. -/
structure Pair where
  vrchat : Bool
  discord : Bool
  /-- A `ToggleVoice` is in flight. -/
  toggle : Bool
  /-- A `SetMute` is in flight. -/
  setMute : Bool
  deriving DecidableEq, Repr

/-- What a command asks of its receiver. -/
inductive Order where
  | toggle
  | setMute (muted : Bool)
  deriving DecidableEq, Repr

/-- The order a command carries. -/
def Command.order : Command → Order
  | .vrchat (.toggleVoice _) => .toggle
  | .discord (.setMute target _) => .setMute target.isMuted

namespace Pair

/-- Discord is made to follow VRChat: on a conflict, unless a `SetMute` is in flight. -/
def syncDiscord (p : Pair) : Pair × List Order :=
  if p.discord = p.vrchat ∧ p.setMute = false then
    ({ p with setMute := true }, [.setMute (!p.vrchat)])
  else (p, [])

/-- VRChat is made to follow Discord: on a conflict, unless a toggle is in flight. -/
def syncVrchat (p : Pair) : Pair × List Order :=
  if p.vrchat = p.discord ∧ p.toggle = false then ({ p with toggle := true }, [.toggle])
  else (p, [])

section Frame

variable (p : Pair)

@[simp] theorem syncDiscord_vrchat : p.syncDiscord.1.vrchat = p.vrchat := by
  unfold syncDiscord
  split_ifs <;> rfl

@[simp] theorem syncDiscord_discord : p.syncDiscord.1.discord = p.discord := by
  unfold syncDiscord
  split_ifs <;> rfl

@[simp] theorem syncDiscord_toggle : p.syncDiscord.1.toggle = p.toggle := by
  unfold syncDiscord
  split_ifs <;> rfl

@[simp] theorem syncVrchat_vrchat : p.syncVrchat.1.vrchat = p.vrchat := by
  unfold syncVrchat
  split_ifs <;> rfl

@[simp] theorem syncVrchat_discord : p.syncVrchat.1.discord = p.discord := by
  unfold syncVrchat
  split_ifs <;> rfl

@[simp] theorem syncVrchat_setMute : p.syncVrchat.1.setMute = p.setMute := by
  unfold syncVrchat
  split_ifs <;> rfl

end Frame

/-- VRChat is seen. -/
def seeVrchat (p : Pair) (muted : Bool) : Pair × List Order :=
  syncDiscord { p with vrchat := muted, toggle := false }

/-- Discord is seen. -/
def seeDiscord (p : Pair) (muted : Bool) : Pair × List Order :=
  syncVrchat { p with discord := muted, setMute := false }

/-- A manual resync. -/
def resync (p : Pair) : Pair × List Order :=
  syncDiscord { p with toggle := false, setMute := false }

end Pair

namespace Coordinator

/-- The view of the coordinator. -/
def pair (c : Coordinator) : Pair where
  vrchat := c.vrchatState.isMuted
  discord := c.discordState.isMuted
  toggle := c.pendingVrchat.isSome
  setMute := c.pendingDiscord.isSome

/-- An active link in the bidirectional mode, the initial sync done, both sides known, with sound
slots. -/
structure Live (c : Coordinator) : Prop extends Slots c where
  done : c.initialSyncDone = true
  active : c.linkState = .active
  mode : c.linkMode = .inverseBidirectional
  vrchatKnown : c.vrchatState ≠ .unknown
  discordKnown : c.discordState ≠ .unknown

/-- A handler's result is a live link, and what the view says. -/
structure Shows (r : Coordinator × List Command) (q : Pair × List Order) : Prop where
  live : Live r.1
  pair : r.1.pair = q.1
  orders : r.2.map Command.order = q.2

theorem Live.vrchatState {c : Coordinator} (h : Live c) : c.vrchatState = .ofBool c.pair.vrchat :=
  (MuteState.ofBool_isMuted h.vrchatKnown).symm

theorem Live.discordState {c : Coordinator} (h : Live c) :
    c.discordState = .ofBool c.pair.discord :=
  (MuteState.ofBool_isMuted h.discordKnown).symm

theorem Live.of_kept {c c' : Coordinator} (h : Live c) (hs : Slots c') (hk : Kept c c') :
    Live c' := by
  refine ⟨hs, hk.initialSyncDone.trans h.done, hk.linkState.trans h.active,
    hk.linkMode.trans h.mode, ?_, ?_⟩
  · rw [hk.vrchatState]
    exact h.vrchatKnown
  · rw [hk.discordState]
    exact h.discordKnown

/-- Discord is made to follow as the view says. -/
theorem Live.shows_syncDiscord {c : Coordinator} (h : Live c) (env : Env) :
    Shows (syncDiscord env c) c.pair.syncDiscord := by
  have hlive := h.of_kept (h.sound_syncDiscord env).1 (kept_syncDiscord env c)
  have hv := h.vrchatKnown
  have hsame : c.discordState = c.vrchatState ↔ c.pair.discord = c.pair.vrchat := by
    rw [h.discordState, h.vrchatState, MuteState.ofBool_inj]
  rw [syncDiscord_eq h.toSlots] at hlive ⊢
  unfold Pair.syncDiscord
  by_cases hc : c.discordState = c.vrchatState ∧ c.pendingDiscord = none
  · have hp : c.pair.discord = c.pair.vrchat ∧ c.pair.setMute = false :=
      ⟨hsame.mp hc.1, by simp [pair, hc.2]⟩
    rw [if_pos ⟨hv, hc⟩] at hlive ⊢
    rw [if_pos hp]
    refine ⟨hlive, rfl, ?_⟩
    rw [h.vrchatState]
    simp [Command.order]
  · have hp : ¬ (c.pair.discord = c.pair.vrchat ∧ c.pair.setMute = false) := by
      rintro ⟨hd, hs⟩
      exact hc ⟨hsame.mpr hd, by simpa [pair] using hs⟩
    rw [if_neg fun hall => hc hall.2] at hlive ⊢
    rw [if_neg hp]
    exact ⟨hlive, rfl, rfl⟩

theorem Live.shows_syncVrchat {c : Coordinator} (h : Live c) (env : Env) :
    Shows (syncVrchat env c) c.pair.syncVrchat := by
  have hlive := h.of_kept (h.sound_syncVrchat env).1 (kept_syncVrchat env c)
  have hd := h.discordKnown
  have hsame : c.vrchatState = c.discordState ↔ c.pair.vrchat = c.pair.discord := by
    rw [h.discordState, h.vrchatState, MuteState.ofBool_inj]
  rw [syncVrchat_eq] at hlive ⊢
  unfold Pair.syncVrchat
  by_cases hc : c.vrchatState = c.discordState ∧ c.pendingVrchat = none
  · have hp : c.pair.vrchat = c.pair.discord ∧ c.pair.toggle = false :=
      ⟨hsame.mp hc.1, by simp [pair, hc.2]⟩
    rw [if_pos ⟨hd, hc⟩] at hlive ⊢
    rw [if_pos hp]
    exact ⟨hlive, rfl, rfl⟩
  · have hp : ¬ (c.pair.vrchat = c.pair.discord ∧ c.pair.toggle = false) := by
      rintro ⟨hv, hs⟩
      exact hc ⟨hsame.mpr hv, by simpa [pair] using hs⟩
    rw [if_neg fun hall => hc hall.2] at hlive ⊢
    rw [if_neg hp]
    exact ⟨hlive, rfl, rfl⟩

/-- **An observation of VRChat.** -/
theorem Live.seeVrchat {c : Coordinator} (h : Live c) (env : Env) (muted : Bool) :
    Shows (c.step env (.event (.vrChatMuteSelf (.ofBool muted)))) (c.pair.seeVrchat muted) := by
  have hobs : Live (c.observeVrchat (.ofBool muted)) :=
    ⟨h.take_vrchat rfl rfl rfl rfl, h.done, h.active, h.mode, MuteState.ofBool_ne_unknown muted,
      h.discordKnown⟩
  have hpair : (c.observeVrchat (.ofBool muted)).pair =
      { c.pair with vrchat := muted, toggle := false } := by
    simp [pair]
  rw [step_muteSelf_of_active h.done h.active, Pair.seeVrchat, ← hpair]
  exact hobs.shows_syncDiscord env

/-- **An observation of Discord.** -/
theorem Live.seeDiscord {c : Coordinator} (h : Live c) (env : Env) (muted : Bool) :
    Shows (c.step env (.event (.discordVoiceSettingsUpdate (.ofBool muted))))
      (c.pair.seeDiscord muted) := by
  have hobs : Live (c.observeDiscord (.ofBool muted)) :=
    ⟨h.take_discord rfl rfl rfl fun _ => rfl, h.done, h.active, h.mode, h.vrchatKnown,
      MuteState.ofBool_ne_unknown muted⟩
  have hpair : (c.observeDiscord (.ofBool muted)).pair =
      { c.pair with discord := muted, setMute := false } := by
    simp [pair]
  rw [step_update_of_active h.done h.active h.mode, Pair.seeDiscord, ← hpair]
  exact hobs.shows_syncVrchat env

/-- **A manual resync.** -/
theorem Live.resync {c : Coordinator} (h : Live c) (env : Env) :
    Shows (c.step env (.command .manualResync)) c.pair.resync := by
  have hclear : Live { c with pendingDiscord := none, pendingVrchat := none } :=
    ⟨h.toSlots.clear, h.done, h.active, h.mode, h.vrchatKnown, h.discordKnown⟩
  have hshow := hclear.shows_syncDiscord env
  show Shows (resyncFromVrchat env _) _
  rw [resyncFromVrchat, if_neg hclear.vrchatKnown]
  exact ⟨⟨hshow.live.toSlots.of_eq rfl, hshow.live.2, hshow.live.3, hshow.live.4, hshow.live.5,
    hshow.live.6⟩, hshow.pair, hshow.orders⟩

end Coordinator

end VoxShift.Core
