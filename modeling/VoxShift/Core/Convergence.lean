import VoxShift.Core.Flipping

/-!
# Coming to rest

The composition at rest, with nothing on its way, should be a settled pair again:
the coordinator knows both sides, they are inverse, and no command is waited for.
And left alone by the user it should get there. (In the composition no timeout of a
command fires; one that does leaves the link `Faulted`.)

## The argument

A command that the coordinator waits for is on its way, or its answer is: so at
rest it waits for none, and a conflict it sees is answered by waiting. For the way
there, every `MuteSelf` lowers `rank`, and the other moves of the system, which do
not raise it, bring what is on its way nearer to being handled. `potential` puts
the two together.

## What is proved

* `Held.step` — one move keeps what holds between the moves.
* `settled_of_quiet` — whatever the user and the system have done, at rest the pair
  is settled.
* `comes_to_rest` — left alone, the system makes no more moves than the potential
  says, if updates are fresh; and if it then can make none the pair is settled.
-/

namespace VoxShift.Core

open VoxShift.Theory

namespace View

variable (policy : EchoPolicy)

/-! ### What is waited for is on its way -/

/-- What holds between the moves: the view is coherent, what Discord has reported leads to what
Discord is, and a command that is waited for is on its way, or its answer is. -/
structure Held (w : View) : Prop extends Coherent w where
  reported : w.updates.getLastD w.pair.discord = w.discord
  toggle : w.pair.toggle = true → 0 < w.owed
  setMute : w.pair.setMute = true → 0 < w.setMutes.length + w.updates.length

theorem Held.flipVrchat {w : View} (h : Held w) : Held w.flipVrchat := by
  refine ⟨h.toCoherent.flipVrchat, h.reported, fun _ => ?_, h.setMute⟩
  simp only [owed, View.flipVrchat, List.length_append, List.length_singleton]
  omega

/-- A `SetMute` that is waited for was waited for before, or has just been sent. -/
theorem setMute_syncDiscord {p : Pair} (h : p.syncDiscord.1.setMute = true) :
    p.setMute = true ∨ 0 < (p.syncDiscord.2.filterMap Order.setMute?).length := by
  unfold Pair.syncDiscord at h ⊢
  split_ifs at h ⊢
  · exact .inr Nat.one_pos
  · exact .inl h

theorem toggle_syncVrchat {p : Pair} (h : p.syncVrchat.1.toggle = true) :
    p.toggle = true ∨ 0 < p.syncVrchat.2.count .toggle := by
  unfold Pair.syncVrchat at h ⊢
  split_ifs at h ⊢
  · exact .inr Nat.one_pos
  · exact .inl h

/-- **One move** keeps what holds between the moves. -/
theorem Held.step {w : View} (h : Held w) (m : Move) : Held (w.step policy m).1 := by
  have hcoherent := h.toCoherent.step policy m
  cases m with
  | flipVrchat => exact h.flipVrchat
  | flipDiscord =>
    refine ⟨hcoherent, by simp [View.step], h.toggle, fun _ => ?_⟩
    simp only [View.step, List.length_append, List.length_singleton]
    omega
  | resync =>
    refine ⟨hcoherent, ?_, fun ht => ?_, fun hs => ?_⟩
    · simpa [View.step, send, Pair.resync] using h.reported
    · simp [View.step, send, Pair.resync] at ht
    · simp only [View.step, send, Pair.resync] at hs ⊢
      obtain hs | hs := setMute_syncDiscord hs
      · cases hs
      · rw [List.length_append]
        omega
  | vrchat =>
    simp only [View.step]
    rcases w.toggles with _ | k
    · exact h
    · refine ⟨?_, h.reported, fun _ => ?_, h.setMute⟩
      · exact Coherent.flipVrchat ⟨h.answered, h.alternates, h.last⟩
      · simp only [owed, View.flipVrchat, List.length_append, List.length_singleton]
        omega
  | discord =>
    simp only [View.step]
    rcases w.setMutes with _ | ⟨muted, rest⟩
    · exact h
    · refine ⟨⟨h.answered, h.alternates, h.last⟩, ?_, h.toggle, fun _ => ?_⟩
      · obtain he | he := policy.answer_map_muted w.discord muted <;> simp [he]
      · rw [List.length_append]
        obtain he | he := policy.answer_map_muted w.discord muted <;> rw [he] <;>
          simp only [List.length_cons] <;> omega
  | muteSelf =>
    rcases hq : w.muteSelfs with _ | ⟨muted, rest⟩
    · rw [step_muteSelf_nil policy hq]
      exact h
    · rw [step_muteSelf_cons policy hq] at hcoherent ⊢
      refine ⟨hcoherent, ?_, fun ht => ?_, fun hs => ?_⟩
      · simpa [send, Pair.seeVrchat] using h.reported
      · simp [send, Pair.seeVrchat] at ht
      · simp only [send, Pair.seeVrchat] at hs ⊢
        rw [List.length_append]
        obtain hs | hs := setMute_syncDiscord hs
        · have hpos := h.setMute hs
          omega
        · omega
  | update =>
    rcases hq : w.updates with _ | ⟨muted, rest⟩
    · rw [step_update_nil policy hq]
      exact h
    · rw [step_update_cons policy hq] at hcoherent ⊢
      refine ⟨hcoherent, ?_, fun ht => ?_, fun hs => ?_⟩
      · have hreported := h.reported
        rw [hq, List.getLastD_cons] at hreported
        simpa [send, Pair.seeDiscord] using hreported
      · simp only [send, Pair.seeDiscord, owed] at ht ⊢
        obtain ht | ht := toggle_syncVrchat ht
        · have hpos := h.toggle ht
          rw [owed] at hpos
          omega
        · omega
      · simp [send, Pair.seeDiscord] at hs

/-- At rest nothing is waited for, and the two sides are seen as they are, inverse. -/
theorem Held.of_quiet {w : View} (h : Held w) (hquiet : w.Quiet) :
    w.pair = ⟨w.vrchat, w.discord, false, false⟩ ∧ w.discord = !w.vrchat := by
  obtain ⟨htoggles, hsetMutes, hmuteSelfs, hupdates⟩ := hquiet
  have ht : w.pair.toggle = false := by
    rw [← Bool.not_eq_true]
    intro ht
    have hpos := h.toggle ht
    simp [owed, htoggles, hmuteSelfs] at hpos
  have hs : w.pair.setMute = false := by
    rw [← Bool.not_eq_true]
    intro hs
    have hpos := h.setMute hs
    simp [hsetMutes, hupdates] at hpos
  have hv : w.pair.vrchat = w.vrchat := by
    have hlast := h.last
    rwa [hmuteSelfs] at hlast
  have hd : w.pair.discord = w.discord := by
    have hreported := h.reported
    rwa [hupdates] at hreported
  have hinverse := h.answered hs ht
  rw [hv, hd] at hinverse
  refine ⟨?_, hinverse⟩
  have heta : w.pair = ⟨w.pair.vrchat, w.pair.discord, w.pair.toggle, w.pair.setMute⟩ := rfl
  rw [heta, hv, hd, ht, hs]

theorem held_start (muted : Bool) :
    Held ⟨⟨muted, !muted, false, false⟩, muted, !muted, 0, [], [], []⟩ :=
  ⟨coherent_start muted, rfl, fun h => absurd h Bool.false_ne_true,
    fun h => absurd h Bool.false_ne_true⟩

/-! ### The way there -/

/-- The move has something to take. -/
def Enabled (w : View) : Move → Prop
  | .flipVrchat | .flipDiscord | .resync => True
  | .vrchat => w.toggles ≠ 0
  | .discord => w.setMutes ≠ []
  | .muteSelf => w.muteSelfs ≠ []
  | .update => w.updates ≠ []

instance (w : View) : DecidablePred w.Enabled
  | .flipVrchat | .flipDiscord | .resync => .isTrue trivial
  | .vrchat => inferInstanceAs (Decidable (_ ≠ _))
  | .discord | .muteSelf | .update => inferInstanceAs (Decidable (_ ≠ _))

/-- How far what is on its way is from being handled. A `SetMute` becomes at most two updates, and
an update at most one toggle. -/
def distance (w : View) : ℕ := 5 * w.setMutes.length + 2 * w.updates.length + w.toggles

/-- What is left to do. A `MuteSelf` lowers the rank, and sends at most one `SetMute`. -/
def potential (w : View) : ℕ := w.distance + 6 * w.rank

theorem distance_vrchat {w : View} (h : w.Enabled .vrchat) :
    (w.step policy .vrchat).1.distance < w.distance := by
  simp only [View.step]
  rcases hq : w.toggles with _ | k
  · exact absurd hq h
  · simp only [distance, flipVrchat, hq]
    omega

theorem distance_discord {w : View} (h : w.Enabled .discord) :
    (w.step policy .discord).1.distance < w.distance := by
  simp only [View.step]
  rcases hq : w.setMutes with _ | ⟨muted, rest⟩
  · exact absurd hq h
  · have hlen : ((policy.answer w.discord muted).map DiscordFrame.muted).length ≤ 2 := by
      obtain he | he := policy.answer_map_muted w.discord muted <;> simp [he]
    simp only [distance, hq, List.length_cons, List.length_append]
    omega

theorem distance_update {w : View} (h : w.Enabled .update) :
    (w.step policy .update).1.distance < w.distance := by
  rcases hq : w.updates with _ | ⟨muted, rest⟩
  · exact absurd hq h
  · rw [step_update_cons policy hq]
    simp only [distance, send, Pair.seeDiscord, count_toggle_syncVrchat,
      filterMap_setMute?_syncVrchat, hq, List.length_cons, List.append_nil]
    split_ifs <;> omega

theorem distance_muteSelf (w : View) : (w.step policy .muteSelf).1.distance ≤ w.distance + 5 := by
  rcases hq : w.muteSelfs with _ | ⟨muted, rest⟩
  · rw [step_muteSelf_nil policy hq]
    exact Nat.le_add_right _ _
  · rw [step_muteSelf_cons policy hq]
    simp only [distance, send, Pair.seeVrchat, Pair.syncDiscord]
    split_ifs
    · simp only [Order.filterMap_setMute, List.length_append, List.length_singleton]
      simp
      omega
    · simp

/-- **Every move of the system** that has something to take, and is fresh, leaves less to do. -/
theorem potential_step_lt {w : View} (h : Coherent w) {m : Move} (hm : ¬ m.IsUser)
    (hfresh : w.FreshUpdate m) (henabled : w.Enabled m) :
    (w.step policy m).1.potential < w.potential := by
  have hrank := rank_step_le policy h hm hfresh
  cases m with
  | flipVrchat | flipDiscord | resync => exact absurd trivial hm
  | vrchat =>
    have hdistance := distance_vrchat policy henabled
    simp only [potential]
    omega
  | discord =>
    have hdistance := distance_discord policy henabled
    simp only [potential]
    omega
  | update =>
    have hdistance := distance_update policy henabled
    simp only [potential]
    omega
  | muteSelf =>
    rcases hq : w.muteSelfs with _ | ⟨muted, rest⟩
    · exact absurd hq henabled
    · have hlt := rank_muteSelf_lt policy hq
      have hdistance := w.distance_muteSelf policy
      simp only [potential]
      omega

/-- Where no move of the system has anything to take, the view is at rest. -/
theorem quiet_of_stuck {w : View} (h : ∀ m, w.Enabled m → m.IsUser) : w.Quiet :=
  ⟨not_not.mp (h .vrchat), not_not.mp (h .discord), not_not.mp (h .muteSelf),
    not_not.mp (h .update)⟩

end View

/-! ### The composition -/

namespace Network

variable (policy : EchoPolicy)

/-- One move is a turn of the coordinator, or leaves it alone. -/
theorem reachable_step {n : Network} (h : Reachable n.coordinator) (m : Move × Env) :
    Reachable (n.step policy m).1.coordinator := by
  obtain ⟨m, env⟩ := m
  cases m with
  | flipVrchat | flipDiscord => exact h
  | resync => exact Machine.Reachable.next h (env, .command .manualResync)
  | vrchat =>
    simp only [step]
    rcases n.vrchatTx with _ | ⟨cmd, rest⟩ <;> exact h
  | discord =>
    simp only [step]
    rcases n.discordTx with _ | ⟨cmd, rest⟩ <;> exact h
  | muteSelf =>
    simp only [step]
    rcases n.muteSelfs with _ | ⟨muted, rest⟩
    · exact h
    · exact Machine.Reachable.next h (env, .event (.vrChatMuteSelf (.ofBool muted)))
  | update =>
    simp only [step]
    rcases n.frames with _ | ⟨frame, rest⟩
    · exact h
    · exact Machine.Reachable.next h
        (env, .event (.discordVoiceSettingsUpdate (.ofBool frame.muted)))

/-- Nothing is on its way. -/
def Quiet (n : Network) : Prop :=
  n.vrchatTx = [] ∧ n.discordTx = [] ∧ n.muteSelfs = [] ∧ n.frames = []

instance (n : Network) : Decidable n.Quiet := inferInstanceAs (Decidable (_ ∧ _ ∧ _ ∧ _))

theorem quiet_iff (n : Network) : n.Quiet ↔ n.view.Quiet := by
  simp only [Quiet, View.Quiet, view, List.length_eq_zero_iff, List.map_eq_nil_iff]

/-- What holds after every run from a settled pair. -/
structure Held (n : Network) : Prop where
  reachable : Reachable n.coordinator
  live : n.Live
  held : n.view.Held

theorem Settled.held {n : Network} (h : n.Settled) : n.Held := by
  refine ⟨h.reachable, h.live, ?_⟩
  rw [h.view]
  exact View.held_start n.vrchat

theorem Held.step {n : Network} (h : n.Held) (m : Move × Env) : (n.step policy m).1.Held := by
  obtain ⟨hlive, hview, -⟩ := step_view policy h.live m
  refine ⟨reachable_step policy h.reachable m, hlive, ?_⟩
  rw [hview]
  exact h.held.step policy m.1

theorem Held.run {n : Network} (h : n.Held) (ms : List (Move × Env)) :
    ((network policy).run n ms).Held :=
  Machine.inv_run (M := network policy) (I := Network.Held) (fun _ m h => h.step policy m) h ms

theorem Held.settled {n : Network} (h : n.Held) (hquiet : n.Quiet) : n.Settled := by
  obtain ⟨hpair, hinverse⟩ := h.held.of_quiet (n.quiet_iff.mp hquiet)
  obtain ⟨hvrchatTx, hdiscordTx, hmuteSelfs, hframes⟩ := hquiet
  have hv : n.coordinator.pair.vrchat = n.vrchat := congrArg Pair.vrchat hpair
  have hd : n.coordinator.pair.discord = n.discord := congrArg Pair.discord hpair
  have ht : n.coordinator.pendingVrchat.isSome = false := congrArg Pair.toggle hpair
  have hs : n.coordinator.pendingDiscord.isSome = false := congrArg Pair.setMute hpair
  exact {
    reachable := h.reachable
    done := h.live.done
    active := h.live.active
    mode := h.live.mode
    vrchat := by rw [h.live.vrchatState, hv]
    discord := by rw [h.live.discordState, hd]
    inverse := hinverse
    noToggle := Option.isSome_eq_false_iff.mp ht |> Option.isNone_iff_eq_none.mp
    noSetMute := Option.isSome_eq_false_iff.mp hs |> Option.isNone_iff_eq_none.mp
    vrchatTx := hvrchatTx
    discordTx := hdiscordTx
    muteSelfs := hmuteSelfs
    frames := hframes }

end Network

/-- **At rest the pair is settled.** Let a run of the composition, of any moves of the user and the
system and in which no timeout fires, lead from a settled pair to where nothing is on its way. There
the coordinator's link is active, it knows both sides as they are, they are inverse, and it waits
for no command. -/
theorem settled_of_quiet (policy : EchoPolicy) {n : Network} (hn : n.Settled)
    (ms : List (Move × Env)) (hquiet : ((network policy).run n ms).Quiet) :
    ((network policy).run n ms).Settled :=
  (hn.held.run policy ms).settled hquiet

/-- VRChat was muted, and the system went on until nothing was on its way. -/
theorem settled_of_quiet_muted :
    ((network .always).run (.start false)
      (Move.list [.flipVrchat, .muteSelf, .discord, .update, .update])).Settled :=
  settled_of_quiet .always (Network.settled_start false) _ (by decide +kernel)

/-- A move of the system that has something to take, and is fresh. -/
def Network.Proceeds (n : Network) (m : Move × Env) : Prop :=
  ¬ m.1.IsUser ∧ n.view.Enabled m.1 ∧ FreshUpdate n m

instance (n : Network) (m : Move × Env) : Decidable (FreshUpdate n m) :=
  inferInstanceAs (Decidable (m.1 = .update → ∀ p ∈ n.coordinator.pendingDiscord,
    ∀ frame ∈ n.frames.head?, MuteState.ofBool frame.muted = p.target))

instance (n : Network) (m : Move × Env) : Decidable (n.Proceeds m) :=
  inferInstanceAs (Decidable (_ ∧ _ ∧ _))

/-- **Left alone, the system comes to rest.** Let any run lead from a settled pair to `n`, and let
the user leave it alone from there. Then the system, with no timeout firing, makes at most
`n.view.potential` moves that have something to take, if updates that find a `SetMute` in flight
carry its target; and where it can make no move any more the pair is settled. -/
theorem comes_to_rest (policy : EchoPolicy) {n₀ n : Network} (hn₀ : n₀.Settled)
    {pre ms : List (Move × Env)} (hn : n = (network policy).run n₀ pre)
    (hms : (network policy).Along Network.Proceeds n ms) :
    ms.length ≤ n.view.potential ∧
      ((∀ m, ((network policy).run n ms).view.Enabled m → m.IsUser) →
        ((network policy).run n ms).Settled) := by
  have hheld : n.Held := by
    rw [hn]
    exact hn₀.held.run policy pre
  constructor
  · have hlower : (network policy).Along
        (fun n m => ((network policy).next n m).view.potential < n.view.potential) n ms := by
      refine Machine.Along.mono_of_inv (M := network policy) (I := Network.Held)
        (fun _ m h _ => h.step policy m) ?_ hms hheld
      rintro n m h ⟨hsystem, henabled, hfresh⟩
      have hview : ((network policy).next n m).view = (n.view.step policy m.1).1 :=
        (Network.step_view policy h.live m).2.1
      rw [hview]
      exact View.potential_step_lt policy h.held.toCoherent hsystem
        ((Network.Live.freshUpdate_iff h.live m).mp hfresh) henabled
    exact (Nat.le_add_right _ _).trans (hlower.length_le (f := fun n : Network => n.view.potential))
  · intro hstuck
    exact (hheld.run policy ms).settled ((Network.quiet_iff _).mpr (View.quiet_of_stuck hstuck))

/-- VRChat was muted, and the system makes the four moves that are left to it. -/
theorem comes_to_rest_muted :
    let n := (network .onChange).run (.start false) (Move.list [.flipVrchat])
    let ms := Move.list [.muteSelf, .discord, .update, .update]
    ms.length ≤ n.view.potential ∧
      ((∀ m, ((network .onChange).run n ms).view.Enabled m → m.IsUser) →
        ((network .onChange).run n ms).Settled) := by
  intro n ms
  refine comes_to_rest .onChange (Network.settled_start false) (rfl : n = _) ?_
  decide +kernel

end VoxShift.Core
