import VoxShift.Core.Peers

/-!
# Self-induced feedback

A user who mutes and unmutes on one side only should see that side left alone: the
echoes of the coordinator's own commands to the other side are no operations of
the user.

## What is proved

* `feedback_iff` — for every policy of Discord's answers, in every run from a
  settled pair no toggle is issued exactly when every Discord update finds VRChat
  last seen in the inverse state; and with no manual resync, no `SetMute` is issued
  exactly when every `MuteSelf` finds Discord so.
* `quiet_user_silent` — a user of one side who waits until nothing is in flight
  before every operation meets these conditions.
* `double_flip_feeds_back` — a user who does not wait need not.
-/

namespace VoxShift.Core

open VoxShift.Theory

namespace View

variable (policy : EchoPolicy)

/-- A Discord update finds VRChat last seen in the inverse state. -/
def UpdateAnswered (w : View) (m : Move) : Prop :=
  m = .update → ∀ muted ∈ w.updates.head?, w.pair.vrchat = !muted

/-- A `MuteSelf` finds Discord last seen in the inverse state. -/
def MuteSelfAnswered (w : View) (m : Move) : Prop :=
  m = .muteSelf → ∀ muted ∈ w.muteSelfs.head?, w.pair.discord = !muted

/-- Only a Discord update toggles. -/
theorem toggle_not_mem_step (w : View) {m : Move} (hm : m ≠ .update) :
    ∀ o ∈ (w.step policy m).2, o ≠ .toggle := by
  cases m with
  | update => exact absurd rfl hm
  | muteSelf =>
    simp only [step]
    rcases w.muteSelfs with _ | ⟨muted, rest⟩
    · simp
    · simp only [send, Pair.seeVrchat, Pair.syncDiscord]
      split_ifs <;> simp
  | resync =>
    simp only [step, send, Pair.resync, Pair.syncDiscord]
    split_ifs <;> simp
  | flipVrchat | flipDiscord => simp [step]
  | vrchat =>
    simp only [step]
    rcases w.toggles with _ | k <;> simp
  | discord =>
    simp only [step]
    rcases w.setMutes with _ | ⟨muted, rest⟩ <;> simp

/-- Only a `MuteSelf` and a manual resync send a `SetMute`. -/
theorem toggle_of_mem_step (w : View) {m : Move} (hm : m ≠ .muteSelf) (hresync : m ≠ .resync) :
    ∀ o ∈ (w.step policy m).2, o = .toggle := by
  cases m with
  | muteSelf => exact absurd rfl hm
  | resync => exact absurd rfl hresync
  | update =>
    simp only [step]
    rcases w.updates with _ | ⟨muted, rest⟩
    · simp
    · simp only [send, Pair.seeDiscord, Pair.syncVrchat]
      split_ifs <;> simp
  | flipVrchat | flipDiscord => simp [step]
  | vrchat =>
    simp only [step]
    rcases w.toggles with _ | k <;> simp
  | discord =>
    simp only [step]
    rcases w.setMutes with _ | ⟨muted, rest⟩ <;> simp

/-- With no toggle in flight, an update toggles unless it is an answer. -/
theorem silent_iff_updateAnswered {w : View} (h : w.pair.toggle = false) (m : Move) :
    (∀ o ∈ (w.step policy m).2, o ≠ .toggle) ↔ w.UpdateAnswered m := by
  by_cases hm : m = .update
  · subst hm
    simp only [step, UpdateAnswered, true_implies]
    rcases w.updates with _ | ⟨muted, rest⟩
    · simp
    · simp only [send, Pair.seeDiscord, Pair.syncVrchat, h, and_true, List.head?_cons,
        Option.mem_some_iff, forall_eq']
      split_ifs with hc
      · simp [hc]
      · simpa [Bool.eq_not] using hc
  · exact iff_of_true (w.toggle_not_mem_step policy hm) fun he => absurd he hm

theorem silent_iff_muteSelfAnswered {w : View} (h : w.pair.setMute = false) {m : Move}
    (hresync : m ≠ .resync) :
    (∀ o ∈ (w.step policy m).2, o = .toggle) ↔ w.MuteSelfAnswered m := by
  by_cases hm : m = .muteSelf
  · subst hm
    simp only [step, MuteSelfAnswered, true_implies]
    rcases w.muteSelfs with _ | ⟨muted, rest⟩
    · simp
    · simp only [send, Pair.seeVrchat, Pair.syncDiscord, h, and_true, List.head?_cons,
        Option.mem_some_iff, forall_eq']
      split_ifs with hc
      · simp [hc]
      · simpa [Bool.eq_not] using hc
  · exact iff_of_true (w.toggle_of_mem_step policy hm hresync) fun he => absurd he hm

theorem toggle_step {w : View} (h : w.pair.toggle = false) {m : Move}
    (hsilent : ∀ o ∈ (w.step policy m).2, o ≠ .toggle) :
    (w.step policy m).1.pair.toggle = false := by
  cases m with
  | update =>
    simp only [step] at hsilent ⊢
    rcases hq : w.updates with _ | ⟨muted, rest⟩
    · exact h
    · simp only [hq, send, Pair.seeDiscord, Pair.syncVrchat] at hsilent ⊢
      split_ifs at hsilent ⊢
      · simp at hsilent
      · exact h
  | muteSelf =>
    simp only [step]
    rcases w.muteSelfs with _ | ⟨muted, rest⟩
    · exact h
    · simp only [send, Pair.seeVrchat, Pair.syncDiscord]
      split_ifs <;> rfl
  | resync =>
    simp only [step, send, Pair.resync, Pair.syncDiscord]
    split_ifs <;> rfl
  | flipVrchat | flipDiscord => exact h
  | vrchat =>
    simp only [step]
    rcases w.toggles with _ | k <;> exact h
  | discord =>
    simp only [step]
    rcases w.setMutes with _ | ⟨muted, rest⟩ <;> exact h

theorem setMute_step {w : View} (h : w.pair.setMute = false) {m : Move} (hresync : m ≠ .resync)
    (hsilent : ∀ o ∈ (w.step policy m).2, o = .toggle) :
    (w.step policy m).1.pair.setMute = false := by
  cases m with
  | resync => exact absurd rfl hresync
  | muteSelf =>
    simp only [step] at hsilent ⊢
    rcases hq : w.muteSelfs with _ | ⟨muted, rest⟩
    · exact h
    · simp only [hq, send, Pair.seeVrchat, Pair.syncDiscord] at hsilent ⊢
      split_ifs at hsilent ⊢
      · simp at hsilent
      · exact h
  | update =>
    simp only [step]
    rcases w.updates with _ | ⟨muted, rest⟩
    · exact h
    · simp only [send, Pair.seeDiscord, Pair.syncVrchat]
      split_ifs <;> rfl
  | flipVrchat | flipDiscord => exact h
  | vrchat =>
    simp only [step]
    rcases w.toggles with _ | k <;> exact h
  | discord =>
    simp only [step]
    rcases w.setMutes with _ | ⟨muted, rest⟩ <;> exact h

/-- From a view with no toggle in flight, a run toggles nothing exactly when every update is an
answer. -/
theorem run_silent_iff_updateAnswered {w : View} (h : w.pair.toggle = false) (ms : List Move) :
    (∀ o ∈ (view policy).outs w ms, o ≠ .toggle) ↔ (view policy).Along UpdateAnswered w ms := by
  have hiff : ∀ w m, w.pair.toggle = false → True →
      ((∀ o ∈ (view policy).out w m, o ≠ .toggle) ↔ UpdateAnswered w m) :=
    fun w m hw _ => silent_iff_updateAnswered policy hw m
  have hkept : ∀ w m, w.pair.toggle = false → True → UpdateAnswered w m →
      ((view policy).next w m).pair.toggle = false :=
    fun w m hw _ hans => toggle_step policy hw ((silent_iff_updateAnswered policy hw m).mpr hans)
  exact Machine.silent_iff_along hiff hkept h ((view policy).along_of_forall w fun _ _ => trivial)

theorem run_silent_iff_muteSelfAnswered {w : View} (h : w.pair.setMute = false) {ms : List Move}
    (hms : ∀ m ∈ ms, m ≠ .resync) :
    (∀ o ∈ (view policy).outs w ms, o = .toggle) ↔ (view policy).Along MuteSelfAnswered w ms := by
  have hiff : ∀ w m, w.pair.setMute = false → m ≠ .resync →
      ((∀ o ∈ (view policy).out w m, o = .toggle) ↔ MuteSelfAnswered w m) :=
    fun w m hw hr => silent_iff_muteSelfAnswered policy hw hr
  have hkept : ∀ w m, w.pair.setMute = false → m ≠ .resync → MuteSelfAnswered w m →
      ((view policy).next w m).pair.setMute = false :=
    fun w m hw hr hans => setMute_step policy hw hr
      ((silent_iff_muteSelfAnswered policy hw hr).mpr hans)
  exact Machine.silent_iff_along hiff hkept h ((view policy).along_of_forall w hms)

/-! ### A user who waits -/

/-- Nothing is in flight. -/
def Quiet (w : View) : Prop := w.toggles = 0 ∧ w.setMutes = [] ∧ w.muteSelfs = [] ∧ w.updates = []

/-- The user waits until nothing is in flight. -/
def Waits (w : View) (m : Move) : Prop := m.IsUser → w.Quiet

/-- Where a waiting user of VRChat can be: one change on its way to the coordinator, or Discord on
its way to the inverse of what the coordinator has seen. -/
structure VrchatUser (w : View) : Prop where
  toggles : w.toggles = 0
  toggle : w.pair.toggle = false
  flight : (w.muteSelfs = [] ∧ ∀ muted ∈ w.setMutes ++ w.updates, w.pair.vrchat = !muted) ∨
    (w.muteSelfs.length = 1 ∧ w.setMutes = [] ∧ w.updates = [])

/-- Where a waiting user of Discord can be. -/
inductive DiscordUser (w : View) : Prop where
  /-- Nothing is in flight. -/
  | idle (hs : w.pair.setMute = false) (hq : w.Quiet) (hv : w.vrchat = w.pair.vrchat)
  /-- A change is on its way to the coordinator. -/
  | seen (hs : w.pair.setMute = false) (ht : w.toggles = 0) (hset : w.setMutes = [])
    (hself : w.muteSelfs = [])
      (hup : w.updates.length = 1) (hv : w.vrchat = w.pair.vrchat)
  /-- A toggle is on its way to VRChat. -/
  | ordered (hs : w.pair.setMute = false) (ht : w.toggles = 1) (hset : w.setMutes = [])
    (hself : w.muteSelfs = [])
      (hup : w.updates = []) (hv : w.vrchat = w.pair.discord)
  /-- VRChat's answer is on its way to the coordinator. -/
  | answered (hs : w.pair.setMute = false) (ht : w.toggles = 0) (hset : w.setMutes = [])
      (hself : w.muteSelfs = [w.vrchat]) (hup : w.updates = []) (hv : w.vrchat = !w.pair.discord)

theorem VrchatUser.step {w : View} (h : VrchatUser w) {m : Move}
    (hm : m ≠ .flipDiscord ∧ m ≠ .resync)
    (hwait : w.Waits m) : VrchatUser (w.step policy m).1 := by
  cases m with
  | flipDiscord => exact absurd rfl hm.1
  | resync => exact absurd rfl hm.2
  | flipVrchat =>
    obtain ⟨-, hset, hself, hup⟩ := hwait trivial
    exact ⟨h.toggles, h.toggle, .inr ⟨by simp [View.step, flipVrchat, hself], hset, hup⟩⟩
  | vrchat =>
    rw [step_vrchat_zero policy h.toggles]
    exact h
  | discord =>
    simp only [View.step]
    rcases hq : w.setMutes with _ | ⟨muted, rest⟩
    · exact h
    · obtain ⟨hself, hall⟩ | ⟨-, hnone, -⟩ := h.flight
      · refine ⟨h.toggles, h.toggle, .inl ⟨hself, ?_⟩⟩
        intro b hb
        refine hall b ?_
        rw [hq]
        obtain he | he := policy.answer_map_muted w.discord muted <;> simp [he] at hb ⊢ <;> tauto
      · simp [hq] at hnone
  | muteSelf =>
    simp only [View.step]
    rcases hq : w.muteSelfs with _ | ⟨muted, rest⟩
    · exact h
    · obtain ⟨hnone, -⟩ | ⟨hone, hset, hup⟩ := h.flight
      · simp [hq] at hnone
      · have hrest : rest = [] := by simpa [hq] using hone
        simp only [send, Pair.seeVrchat, Pair.syncDiscord]
        split_ifs
        · refine ⟨by simp [h.toggles], rfl, .inl ⟨hrest, ?_⟩⟩
          simp [hset, hup, Order.setMute?]
        · refine ⟨by simp [h.toggles], rfl, .inl ⟨hrest, ?_⟩⟩
          simp [hset, hup]
  | update =>
    simp only [View.step]
    rcases hq : w.updates with _ | ⟨muted, rest⟩
    · exact h
    · obtain ⟨hself, hall⟩ | ⟨-, -, hnone⟩ := h.flight
      · have hne : w.pair.vrchat ≠ muted := by
          rw [hall muted (by simp [hq])]
          simp
        simp only [send, Pair.seeDiscord, Pair.syncVrchat]
        rw [if_neg fun hc => hne hc.1]
        refine ⟨by simp [h.toggles], h.toggle, .inl ⟨hself, ?_⟩⟩
        intro b hb
        refine hall b ?_
        rw [hq]
        simp at hb ⊢
        tauto
      · simp [hq] at hnone

/-- A waiting user of VRChat only meets answers. -/
theorem VrchatUser.updateAnswered {w : View} (h : VrchatUser w) (m : Move) :
    w.UpdateAnswered m := by
  rintro - muted hmuted
  obtain ⟨-, hall⟩ | ⟨-, -, hnone⟩ := h.flight
  · exact hall muted (List.mem_append_right _ (List.mem_of_mem_head? hmuted))
  · simp [hnone] at hmuted

theorem DiscordUser.step {w : View} (h : DiscordUser w) {m : Move}
    (hm : m ≠ .flipVrchat ∧ m ≠ .resync)
    (hwait : w.Waits m) : DiscordUser (w.step policy m).1 := by
  cases m with
  | flipVrchat => exact absurd rfl hm.1
  | resync => exact absurd rfl hm.2
  | flipDiscord =>
    obtain ⟨ht, hset, hself, hup⟩ := hwait trivial
    cases h with
    | idle hs hq hv => exact .seen hs ht hset hself (by simp [View.step, hup]) hv
    | seen hs _ _ _ hone hv => simp [hup] at hone
    | ordered hs hone _ _ _ hv => simp [ht] at hone
    | answered hs _ _ hone _ hv => simp [hself] at hone
  | vrchat =>
    cases h with
    | idle hs hq hv =>
      rw [step_vrchat_zero policy hq.1]
      exact .idle hs hq hv
    | seen hs ht hset hself hup hv =>
      rw [step_vrchat_zero policy ht]
      exact .seen hs ht hset hself hup hv
    | ordered hs ht hset hself hup hv =>
      simp only [View.step, ht]
      exact .answered hs rfl hset (by simp [flipVrchat, hself]) hup (by simp [flipVrchat, hv])
    | answered hs ht hset hself hup hv =>
      rw [step_vrchat_zero policy ht]
      exact .answered hs ht hset hself hup hv
  | discord =>
    have hset : w.setMutes = [] := by
      cases h with
      | idle _ hq _ => exact hq.2.1
      | seen _ _ hset _ _ _ | ordered _ _ hset _ _ _ | answered _ _ hset _ _ _ => exact hset
    rw [step_discord_nil policy hset]
    exact h
  | muteSelf =>
    cases h with
    | idle hs hq hv =>
      rw [step_muteSelf_nil policy hq.2.2.1]
      exact .idle hs hq hv
    | seen hs ht hset hself hup hv =>
      rw [step_muteSelf_nil policy hself]
      exact .seen hs ht hset hself hup hv
    | ordered hs ht hset hself hup hv =>
      rw [step_muteSelf_nil policy hself]
      exact .ordered hs ht hset hself hup hv
    | answered hs ht hset hself hup hv =>
      rw [step_muteSelf_cons policy hself]
      simp only [send, Pair.seeVrchat, Pair.syncDiscord]
      rw [if_neg (by simp [hv])]
      exact .idle hs ⟨by simp [ht], by simp [hset], rfl, hup⟩ rfl
  | update =>
    cases h with
    | idle hs hq hv =>
      rw [step_update_nil policy hq.2.2.2]
      exact .idle hs hq hv
    | seen hs ht hset hself hup hv =>
      obtain ⟨muted, hup⟩ := List.length_eq_one_iff.mp hup
      rw [step_update_cons policy hup]
      simp only [send, Pair.seeDiscord, Pair.syncVrchat]
      split_ifs with hc
      · exact .ordered rfl (by simp [ht]) (by simp [hset, Order.setMute?]) hself rfl (hv.trans hc.1)
      · exact .idle rfl ⟨by simp [ht], by simp [hset], hself, rfl⟩ hv
    | ordered hs ht hset hself hup hv =>
      rw [step_update_nil policy hup]
      exact .ordered hs ht hset hself hup hv
    | answered hs ht hset hself hup hv =>
      rw [step_update_nil policy hup]
      exact .answered hs ht hset hself hup hv

/-- A waiting user of Discord only meets answers. -/
theorem DiscordUser.muteSelfAnswered {w : View} (h : DiscordUser w) (m : Move) :
    w.MuteSelfAnswered m := by
  rintro - muted hmuted
  cases h with
  | idle hs hq hv => simp [hq.2.2.1] at hmuted
  | seen hs ht hset hself hup hv | ordered hs ht hset hself hup hv => simp [hself] at hmuted
  | answered hs ht hset hself hup hv =>
    have he : w.vrchat = muted := by simpa [hself] using hmuted
    rw [← he, hv, Bool.not_not]

end View

/-! ### The composition -/

/-- A Discord update finds VRChat last seen in the inverse state. -/
def UpdateAnswered (n : Network) (m : Move × Env) : Prop :=
  m.1 = .update → ∀ frame ∈ n.frames.head?,
    n.coordinator.vrchatState = (MuteState.ofBool frame.muted).inverse

/-- A `MuteSelf` finds Discord last seen in the inverse state. -/
def MuteSelfAnswered (n : Network) (m : Move × Env) : Prop :=
  m.1 = .muteSelf → ∀ muted ∈ n.muteSelfs.head?,
    n.coordinator.discordState = (MuteState.ofBool muted).inverse

/-- The user waits until nothing is in flight in any of the four channels. -/
def Waits (n : Network) (m : Move × Env) : Prop :=
  m.1.IsUser → n.vrchatTx = [] ∧ n.discordTx = [] ∧ n.muteSelfs = [] ∧ n.frames = []

theorem Network.Live.updateAnswered_iff {n : Network} (h : n.Live) (m : Move × Env) :
    UpdateAnswered n m ↔ n.view.UpdateAnswered m.1 := by
  have hv : n.coordinator.vrchatState = .ofBool n.view.pair.vrchat := Coordinator.Live.vrchatState h
  unfold UpdateAnswered View.UpdateAnswered
  rw [hv]
  simp [Network.view]

theorem Network.Live.muteSelfAnswered_iff {n : Network} (h : n.Live) (m : Move × Env) :
    MuteSelfAnswered n m ↔ n.view.MuteSelfAnswered m.1 := by
  have hd : n.coordinator.discordState = .ofBool n.view.pair.discord :=
    Coordinator.Live.discordState h
  unfold MuteSelfAnswered View.MuteSelfAnswered
  rw [hd]
  simp [Network.view]

theorem waits_iff (n : Network) (m : Move × Env) : Waits n m ↔ n.view.Waits m.1 := by
  simp [Waits, View.Waits, View.Quiet, Network.view]

theorem forall_not_isToggle_iff (cmds : List Command) :
    (∀ cmd ∈ cmds, ¬ cmd.IsToggle) ↔ ∀ o ∈ cmds.map Command.order, o ≠ .toggle := by
  simp only [List.forall_mem_map]
  refine forall₂_congr fun cmd _ => ?_
  rcases cmd with ⟨⟨_⟩⟩ | ⟨⟨_, _⟩⟩ <;> simp [Command.order]

theorem forall_not_isSetMute_iff (cmds : List Command) :
    (∀ cmd ∈ cmds, ¬ cmd.IsSetMute) ↔ ∀ o ∈ cmds.map Command.order, o = .toggle := by
  simp only [List.forall_mem_map]
  refine forall₂_congr fun cmd _ => ?_
  rcases cmd with ⟨⟨_⟩⟩ | ⟨⟨_, _⟩⟩ <;> simp [Command.order]

/-- **Feedback, exactly when.** Take any run of the composition from a settled pair, under either
policy of Discord's answers. If the user operates VRChat only, the coordinator issues no
`ToggleVoice` exactly when every Discord update it handles finds VRChat last seen in the inverse
state; if the user operates Discord only, it issues no `SetMute` exactly when every `MuteSelf` it
handles finds Discord last seen in the inverse state. -/
theorem feedback_iff (policy : EchoPolicy) {n : Network} (hn : n.Settled) (ms : List (Move × Env)) :
    ((∀ m ∈ ms, m.1 ≠ .flipDiscord ∧ m.1 ≠ .resync) →
      ((∀ cmd ∈ (network policy).outs n ms, ¬ cmd.IsToggle) ↔
        (network policy).Along UpdateAnswered n ms)) ∧
    ((∀ m ∈ ms, m.1 ≠ .flipVrchat ∧ m.1 ≠ .resync) →
      ((∀ cmd ∈ (network policy).outs n ms, ¬ cmd.IsSetMute) ↔
        (network policy).Along MuteSelfAnswered n ms)) := by
  have hlive := hn.live
  have hview := hn.view
  constructor
  · intro _
    rw [forall_not_isToggle_iff, (refines policy).outs hlive,
      (refines policy).along (fun n m h => Network.Live.updateAnswered_iff h m) hlive]
    exact View.run_silent_iff_updateAnswered policy (by rw [hview]) _
  · intro hms
    rw [forall_not_isSetMute_iff, (refines policy).outs hlive,
      (refines policy).along (fun n m h => Network.Live.muteSelfAnswered_iff h m) hlive]
    refine View.run_silent_iff_muteSelfAnswered policy (by rw [hview]) fun m hm => ?_
    obtain ⟨m', hm', rfl⟩ := List.mem_map.mp hm
    exact (hms m' hm').2

/-- The moves, each with the same reading of the clocks and the nonce. -/
def Move.list (ms : List Move) : List (Move × Env) := ms.map fun m => (m, ⟨0, 0, 7⟩)

/-- VRChat is muted and unmuted before Discord answers: the echo of the first `SetMute` toggles the
microphone. Discord is unmuted and muted before VRChat answers: the echo of the toggle sends a
`SetMute`. -/
theorem double_flip_feeds_back :
    let onVrchat := Move.list [.flipVrchat, .muteSelf, .flipVrchat, .muteSelf, .discord, .update]
    let onDiscord := Move.list [.flipDiscord, .update, .flipDiscord, .update, .vrchat, .muteSelf]
    (Network.start false).Settled ∧
      (∀ m ∈ onVrchat, m.1 ≠ .flipDiscord ∧ m.1 ≠ .resync) ∧
      (network .always).outs (Network.start false) onVrchat =
        [.discord (.setMute .unmuted 7), .vrchat (.toggleVoice .muted)] ∧
      (∀ m ∈ onDiscord, m.1 ≠ .flipVrchat ∧ m.1 ≠ .resync) ∧
      (network .always).outs (Network.start false) onDiscord =
        [.vrchat (.toggleVoice .muted), .discord (.setMute .unmuted 7)] :=
  ⟨Network.settled_start false, by decide, by decide +kernel, by decide, by decide +kernel⟩

/-- One mute in VRChat, and both echoes handled: one `SetMute`, and no toggle. -/
theorem feedback_iff_single_flip :
    let ms := Move.list [.flipVrchat, .muteSelf, .discord, .update, .update]
    (network .always).outs (Network.start false) ms = [.discord (.setMute .unmuted 7)] ∧
      ∀ cmd ∈ (network .always).outs (Network.start false) ms, ¬ cmd.IsToggle := by
  refine ⟨by decide +kernel, ((feedback_iff .always (Network.settled_start false) _).1
    (by decide)).mpr ?_⟩
  refine ⟨nofun, nofun, nofun, fun _ => ?_, fun _ => ?_, trivial⟩
  · decide +kernel
  · decide +kernel

/-- **A user who waits.** From a settled pair, a user of one side who operates it only when nothing
is in flight never sees that side changed. -/
theorem quiet_user_silent (policy : EchoPolicy) {n : Network} (hn : n.Settled)
    {ms : List (Move × Env)}
    (hwait : (network policy).Along Waits n ms) :
    ((∀ m ∈ ms, m.1 ≠ .flipDiscord ∧ m.1 ≠ .resync) →
      ∀ cmd ∈ (network policy).outs n ms, ¬ cmd.IsToggle) ∧
    ((∀ m ∈ ms, m.1 ≠ .flipVrchat ∧ m.1 ≠ .resync) →
      ∀ cmd ∈ (network policy).outs n ms, ¬ cmd.IsSetMute) := by
  have hlive := hn.live
  have hview := hn.view
  have hmoves : ∀ P : Move → Prop, (∀ m ∈ ms, P m.1) → ∀ m ∈ ms.map Prod.fst, P m := by
    intro P h m hm
    obtain ⟨m', hm', rfl⟩ := List.mem_map.mp hm
    exact h m' hm'
  have hwait' : (view policy).Along View.Waits n.view (ms.map Prod.fst) :=
    ((refines policy).along (fun n m _ => waits_iff n m) hlive).mp hwait
  constructor
  · intro hms
    rw [forall_not_isToggle_iff, (refines policy).outs hlive,
      View.run_silent_iff_updateAnswered policy (by rw [hview])]
    have hstart : View.VrchatUser n.view := by
      rw [hview]
      exact ⟨rfl, rfl, .inl ⟨rfl, by simp⟩⟩
    have halong := hwait'.and ((view policy).along_of_forall n.view
      (hmoves (fun m => m ≠ .flipDiscord ∧ m ≠ .resync) hms))
    refine halong.mono_of_inv ?_ ?_ hstart
    · intro w m hw hm
      exact hw.step policy hm.2 hm.1
    · intro w m hw _
      exact hw.updateAnswered m
  · intro hms
    have hno := hmoves (fun m => m ≠ .resync) fun m hm => (hms m hm).2
    rw [forall_not_isSetMute_iff, (refines policy).outs hlive,
      View.run_silent_iff_muteSelfAnswered policy (by rw [hview]) hno]
    have hstart : View.DiscordUser n.view := by
      rw [hview]
      exact .idle rfl ⟨rfl, rfl, rfl, rfl⟩ rfl
    have halong := hwait'.and ((view policy).along_of_forall n.view
      (hmoves (fun m => m ≠ .flipVrchat ∧ m ≠ .resync) hms))
    refine halong.mono_of_inv ?_ ?_ hstart
    · intro w m hw hm
      exact hw.step policy hm.2 hm.1
    · intro w m hw _
      exact hw.muteSelfAnswered m

end VoxShift.Core
