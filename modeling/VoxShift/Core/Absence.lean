import VoxShift.Core.Pending
import VoxShift.Theory.Mirror

/-!
# A Discord that is away

Where the coordinator knows nothing of Discord and waits for no `SetMute`, all it
has of it is the state of the connection.

## What is proved

* `absence_step` — only a report of Discord's state or of the connection ends that,
  and until then nothing is issued at all.
* `absence_event` — what each event makes of it.
-/

namespace VoxShift.Core

open VoxShift.Theory

namespace Coordinator

/-- The connection, where nothing is known of Discord and no `SetMute` is waited for. -/
def absence (c : Coordinator) : Option ConnectionState :=
  if c.discordState = .unknown ∧ c.pendingDiscord = none then some c.discordConnection else none

theorem absence_eq_some {c : Coordinator} {x : ConnectionState} :
    c.absence = some x ↔
      c.discordState = .unknown ∧ c.pendingDiscord = none ∧ c.discordConnection = x := by
  unfold absence
  split_ifs with h
  · rw [Option.some.injEq]
    exact ⟨fun hx => ⟨h.1, h.2, hx⟩, fun hall => hall.2.2⟩
  · exact iff_of_false id fun hall => h ⟨hall.1, hall.2.1⟩

theorem syncDiscord_of_unknown {c : Coordinator} (h : c.discordState = .unknown) (env : Env) :
    syncDiscord env c = (c, []) := by
  unfold syncDiscord setDiscordState
  split
  · rw [if_pos h, ite_self]
  · rfl

theorem resyncFromVrchat_of_unknown {c : Coordinator} (h : c.discordState = .unknown) (env : Env) :
    (resyncFromVrchat env c).1.discordSide = c.discordSide ∧ (resyncFromVrchat env c).2 = [] := by
  unfold resyncFromVrchat
  split_ifs
  · exact ⟨rfl, rfl⟩
  · rw [syncDiscord_of_unknown h]
    exact ⟨rfl, rfl⟩

/-- The turn is on a report of Discord's state or of the connection. -/
def OfDiscord : Input → Prop
  | .event (.discordVoiceSettingsUpdate _) | .event (.discordConnectionChanged _) => True
  | _ => False

/-- **An absence** ends with a report of Discord's state or of the connection, and with nothing
else; until then nothing is issued. -/
theorem absence_step {c : Coordinator} {x : ConnectionState} (h : c.absence = some x) (env : Env)
    {i : Input} (hi : ¬ OfDiscord i) :
    (c.step env i).1.absence = some x ∧ (c.step env i).2 = [] := by
  obtain ⟨hd, hpd, hcon⟩ := absence_eq_some.mp h
  have hkept : ∀ {c' : Coordinator}, c'.discordSide = c.discordSide → c'.absence = some x := by
    intro c' hside
    simp only [discordSide, Prod.mk.injEq] at hside
    obtain ⟨hpd', hd', hcon'⟩ := hside
    exact absence_eq_some.mpr ⟨hd'.trans hd, hpd'.trans hpd, hcon'.trans hcon⟩
  cases i with
  | event ev =>
    cases ev with
    | discordVoiceSettingsUpdate mute | discordConnectionChanged cs => exact absurd trivial hi
    | vrChatMuteSelf state =>
      have hobs : (c.observeVrchat state).discordState = .unknown := hd
      show (handleVrchatMuteSelf env c state).1.absence = _ ∧
        (handleVrchatMuteSelf env c state).2 = _
      rw [handleVrchatMuteSelf_eq]
      split_ifs with hdone
      · rw [tryInitialSync_of_unknown env (by simpa using hdone) (.inr hobs)]
        exact ⟨hkept rfl, rfl⟩
      · exact ⟨hkept rfl, rfl⟩
      · rw [syncDiscord_of_unknown hobs]
        exact ⟨hkept rfl, rfl⟩
    | discordCommandAck nonce result =>
      have hstale : handleDiscordCommandAck c nonce result = c := by
        unfold handleDiscordCommandAck
        rw [hpd]
        rfl
      show (handleDiscordCommandAck c nonce result).absence = _ ∧ _
      rw [hstale]
      exact ⟨h, rfl⟩
    | vrChatAvatarChanged | vrChatConnectionChanged _ | discordVoiceChannelStatus _
    | discordVoiceStateUnavailable _ => exact ⟨hkept rfl, rfl⟩
  | command cmd =>
    cases cmd with
    | setPaused paused =>
      cases paused with
      | true => exact ⟨hkept rfl, rfl⟩
      | false =>
        simp only [step, handleCommand, resume]
        split
        · exact ⟨hkept rfl, rfl⟩
        · obtain ⟨hside, hnone⟩ :=
            resyncFromVrchat_of_unknown (c := { c with linkState := .active }) hd env
          exact ⟨hkept hside, hnone⟩
    | manualResync =>
      obtain ⟨hside, hnone⟩ := resyncFromVrchat_of_unknown
        (c := { c with pendingDiscord := none, pendingVrchat := none }) hd env
      refine ⟨hkept (hside.trans ?_), hnone⟩
      simp only [discordSide, hpd]
    | setLinkMode _ | shutdown => exact ⟨hkept rfl, rfl⟩
  | timeout =>
    have hnot : expireDiscord env.now (expireVrchat env.now c) = expireVrchat env.now c := by
      have hside := discordSide_expireVrchat env.now c
      simp only [discordSide, Prod.mk.injEq] at hside
      refine expireDiscord_of_lt fun p hp => ?_
      rw [hside.1, hpd] at hp
      cases hp
    show (expireDiscord env.now (expireVrchat env.now c)).absence = _ ∧ _
    rw [hnot]
    exact ⟨hkept (discordSide_expireVrchat env.now c), rfl⟩

/-- What an event makes of an absence. -/
def absenceAfter : CoordinatorEvent → Option ConnectionState → Option ConnectionState
  | .discordVoiceSettingsUpdate _, _ => none
  | .discordConnectionChanged cs, a => if cs = .connected then a.map fun _ => cs else some cs
  | _, a => a

theorem firm_absenceAfter : Firm absenceAfter := by
  intro ev
  cases ev with
  | discordVoiceSettingsUpdate mute => exact .inr rfl
  | discordConnectionChanged cs =>
    by_cases hcs : cs = .connected
    · exact .inr (if_pos hcs)
    · exact .inl ⟨some cs, funext fun _ => if_neg hcs⟩
  | vrChatMuteSelf _ | vrChatAvatarChanged | vrChatConnectionChanged _
  | discordVoiceChannelStatus _ | discordCommandAck _ _ | discordVoiceStateUnavailable _ =>
    exact .inr rfl

/-- The coordinator makes of it what it should. -/
theorem absence_event {c : Coordinator} {x : ConnectionState} (env : Env) {ev : CoordinatorEvent}
    (h : absenceAfter ev c.absence = some x) : (c.step env (.event ev)).1.absence = some x := by
  cases ev with
  | discordVoiceSettingsUpdate mute => cases h
  | discordConnectionChanged cs =>
    simp only [absenceAfter] at h
    simp only [step, handleEvent, handleDiscordConnectionChanged]
    split_ifs at h with hcs
    · obtain ⟨y, hy, rfl⟩ := Option.map_eq_some_iff.mp h
      obtain ⟨hd, hpd, -⟩ := absence_eq_some.mp hy
      rw [if_neg (not_not.mpr hcs)]
      exact absence_eq_some.mpr ⟨hd, hpd, rfl⟩
    · rw [if_pos hcs]
      exact absence_eq_some.mpr ⟨rfl, rfl, Option.some.inj h⟩
  | vrChatMuteSelf _ | vrChatAvatarChanged | vrChatConnectionChanged _
  | discordVoiceChannelStatus _ | discordCommandAck _ _ | discordVoiceStateUnavailable _ =>
    exact (absence_step h env id).1

end Coordinator

end VoxShift.Core
