import VoxShift.Core.Feedback
import VoxShift.Theory.Changes

/-!
# Infinite flipping

Left alone by the user, the composition should come to rest: it should not go
round a cycle in which the coordinator keeps issuing commands.

It can. A `SetMute` has one slot and Discord answers it twice, so a `SetMute`
issued between the two answers is taken for confirmed by the second answer to the
one before. `FreshUpdate` excludes that: an update handled while a `SetMute` is in
flight carries its target.

## The argument

`work` counts what is still to be said: toggles on their way, `MuteSelf`s on their
way, and the changes Discord's side still has to report. With fresh updates no
move of the system raises it. `rank` refines it by whether a `SetMute` is in flight
that will resolve the conflict the coordinator sees, and every `MuteSelf` lowers
that. So a cycle handles no `MuteSelf`; then toggles and `MuteSelf`s on their way
can only become more, so a cycle toggles nothing; and only a `MuteSelf` makes the
coordinator send a `SetMute`.

## What is proved

* `no_flipping` — a cycle of the system's moves whose updates are fresh issues
  nothing.
* `flips_for_ever` — without that there is a cycle that issues commands.
-/

namespace VoxShift.Core

open VoxShift.Theory

namespace View

variable (policy : EchoPolicy)

/-- What holds of every run: a conflict is answered, and the `MuteSelf`s on their way are
alternating changes from what the coordinator has seen to what VRChat is. -/
structure Coherent (w : View) : Prop where
  answered : w.pair.setMute = false → w.pair.toggle = false → w.pair.discord = !w.pair.vrchat
  alternates : Alternates w.pair.vrchat w.muteSelfs
  last : w.muteSelfs.getLastD w.pair.vrchat = w.vrchat

theorem Coherent.flipVrchat {w : View} (h : Coherent w) : Coherent w.flipVrchat := by
  have hne : w.muteSelfs.getLastD w.pair.vrchat ≠ !w.vrchat := by
    rw [h.last]
    simp
  exact ⟨h.answered, alternates_concat h.alternates hne, by simp [View.flipVrchat]⟩

/-- Making Discord follow answers a conflict. -/
theorem answered_syncDiscord (p : Pair) (hs : p.syncDiscord.1.setMute = false) :
    p.discord = !p.vrchat := by
  unfold Pair.syncDiscord at hs
  split_ifs at hs with hc
  rw [Bool.eq_not]
  exact fun hd => hc ⟨hd, hs⟩

theorem answered_syncVrchat (p : Pair) (ht : p.syncVrchat.1.toggle = false) :
    p.discord = !p.vrchat := by
  unfold Pair.syncVrchat at ht
  split_ifs at ht with hc
  rw [Bool.eq_not]
  exact fun hd => hc ⟨hd.symm, ht⟩

/-- **One move** keeps the view coherent. -/
theorem Coherent.step {w : View} (h : Coherent w) (m : Move) : Coherent (w.step policy m).1 := by
  cases m with
  | flipVrchat => exact h.flipVrchat
  | flipDiscord => exact ⟨h.answered, h.alternates, h.last⟩
  | resync =>
    simp only [View.step, send, Pair.resync]
    refine ⟨fun hs _ => ?_, ?_, ?_⟩
    · simpa using answered_syncDiscord _ hs
    · simpa using h.alternates
    · simpa using h.last
  | vrchat =>
    simp only [View.step]
    rcases w.toggles with _ | k
    · exact h
    · exact Coherent.flipVrchat ⟨h.answered, h.alternates, h.last⟩
  | discord =>
    simp only [View.step]
    rcases w.setMutes with _ | ⟨muted, rest⟩
    · exact h
    · exact ⟨h.answered, h.alternates, h.last⟩
  | muteSelf =>
    rcases hq : w.muteSelfs with _ | ⟨muted, rest⟩
    · rw [step_muteSelf_nil policy hq]
      exact h
    · rw [step_muteSelf_cons policy hq]
      have halt := h.alternates
      have hlast := h.last
      rw [hq] at halt hlast
      rw [List.getLastD_cons] at hlast
      simp only [send, Pair.seeVrchat]
      refine ⟨fun hs _ => ?_, ?_, ?_⟩
      · simpa using answered_syncDiscord _ hs
      · simpa using (alternates_cons.mp halt).2
      · simpa using hlast
  | update =>
    rcases hq : w.updates with _ | ⟨muted, rest⟩
    · rw [step_update_nil policy hq]
      exact h
    · rw [step_update_cons policy hq]
      simp only [send, Pair.seeDiscord]
      refine ⟨fun _ ht => ?_, ?_, ?_⟩
      · simpa using answered_syncVrchat _ ht
      · simpa using h.alternates
      · simpa using h.last

/-! ### The potential -/

/-- What is still to be said. -/
def work (w : View) : ℕ :=
  w.toggles + w.muteSelfs.length + changes w.pair.discord (w.updates ++ w.setMutes)

/-- A `SetMute` is in flight that will resolve the conflict the coordinator sees. -/
def Resolving (w : View) : Prop := w.pair.discord = w.pair.vrchat ∧ w.pair.setMute = true

instance (w : View) : Decidable (Resolving w) := inferInstanceAs (Decidable (_ ∧ _))

/-- The work left, and whether the conflict is being resolved. -/
def rank (w : View) : ℕ := 2 * w.work + if w.Resolving then 0 else 1

/-- An update handled while a `SetMute` is in flight carries its target. -/
def FreshUpdate (w : View) (m : Move) : Prop :=
  m = .update → w.pair.setMute = true → ∀ muted ∈ w.updates.head?, muted = !w.pair.discord

/-- A `MuteSelf` lowers the rank: if it sends a `SetMute`, by starting to resolve a conflict. -/
theorem rank_muteSelf_lt {w : View} {muted : Bool} {rest : List Bool}
    (hq : w.muteSelfs = muted :: rest) :
    (w.step policy .muteSelf).1.rank < w.rank := by
  rw [step_muteSelf_cons policy hq]
  simp only [send, Pair.seeVrchat, Pair.syncDiscord]
  split_ifs with hc
  · obtain ⟨hd, hs⟩ := hc
    have hle := changes_concat_le w.pair.discord (!muted) (w.updates ++ w.setMutes)
    rw [List.append_assoc] at hle
    simp [rank, work, Resolving, hq, hd, hs] at hle ⊢
    omega
  · simp only [rank, work, hq]
    simp
    split_ifs <;> omega

/-- The toggles VRChat's making to follow issues: one, on a conflict, if none is in flight. -/
theorem count_toggle_syncVrchat (p : Pair) :
    p.syncVrchat.2.count .toggle = if p.vrchat = p.discord ∧ p.toggle = false then 1 else 0 := by
  unfold Pair.syncVrchat
  split_ifs <;> simp

theorem filterMap_setMute?_syncVrchat (p : Pair) :
    p.syncVrchat.2.filterMap Order.setMute? = [] := by
  unfold Pair.syncVrchat
  split_ifs <;> rfl

/-- The rank after a Discord update: no `SetMute` is in flight then. -/
theorem rank_update {w : View} {muted : Bool} {rest : List Bool} (hq : w.updates = muted :: rest) :
    (w.step policy .update).1.rank =
      2 * (w.toggles + (if w.pair.vrchat = muted ∧ w.pair.toggle = false then 1 else 0) +
        w.muteSelfs.length + changes muted (rest ++ w.setMutes)) + 1 := by
  rw [step_update_cons policy hq]
  simp only [send, Pair.seeDiscord, rank, work, Resolving, count_toggle_syncVrchat,
    filterMap_setMute?_syncVrchat,
    Pair.syncVrchat_discord, Pair.syncVrchat_setMute, List.append_nil]
  simp

/-- A Discord update that is fresh does not raise the rank. -/
theorem rank_update_le {w : View} (h : Coherent w) (hfresh : w.FreshUpdate .update) :
    (w.step policy .update).1.rank ≤ w.rank := by
  rcases hq : w.updates with _ | ⟨muted, rest⟩
  · rw [step_update_nil policy hq]
  have hold : w.work = w.toggles + w.muteSelfs.length +
      ((if w.pair.discord = muted then 0 else 1) + changes muted (rest ++ w.setMutes)) := by
    rw [work, hq, List.cons_append, changes_cons]
  rw [rank_update policy hq, rank, hold]
  cases hs : w.pair.setMute with
  | true =>
    have hnews : w.pair.discord ≠ muted := by
      rw [hfresh rfl hs muted (by simp [hq])]
      simp
    rw [if_neg hnews]
    by_cases hres : w.Resolving
    · rw [if_neg fun hc => hnews (hres.1.trans hc.1), if_pos hres]
      omega
    · rw [if_neg hres]
      split_ifs <;> omega
  | false =>
    have hres : ¬ w.Resolving := fun hc => Bool.false_ne_true (hs.symm.trans hc.2)
    rw [if_neg hres]
    split_ifs with hc hd hd
    · have hinv := h.answered hs hc.2
      rw [hc.1, hd] at hinv
      simp at hinv
    all_goals omega

theorem rank_discord (w : View) : (w.step policy .discord).1.rank = w.rank := by
  simp only [step]
  rcases hq : w.setMutes with _ | ⟨muted, rest⟩
  · rfl
  · have hsame : changes w.pair.discord
        (w.updates ++ (policy.answer w.discord muted).map DiscordFrame.muted ++ rest) =
        changes w.pair.discord (w.updates ++ muted :: rest) := by
      obtain he | he := policy.answer_map_muted w.discord muted <;> rw [he, List.append_assoc]
      · rfl
      · exact changes_stutter _ _ _ _
    simp only [rank, work, Resolving, hq, hsame]
    rfl

theorem rank_vrchat (w : View) : (w.step policy .vrchat).1.rank = w.rank := by
  simp only [step]
  rcases hq : w.toggles with _ | k
  · rfl
  · simp only [rank, work, Resolving, flipVrchat, hq, List.length_append, List.length_singleton]
    congr 2
    omega

/-- **The potential**: no move of the system raises the rank, if updates are fresh. -/
theorem rank_step_le {w : View} (h : Coherent w) {m : Move} (hm : ¬ m.IsUser)
    (hfresh : w.FreshUpdate m) :
    (w.step policy m).1.rank ≤ w.rank := by
  cases m with
  | flipVrchat | flipDiscord | resync => exact absurd trivial hm
  | vrchat => exact (rank_vrchat policy w).le
  | discord => exact (rank_discord policy w).le
  | muteSelf =>
    rcases hq : w.muteSelfs with _ | ⟨muted, rest⟩
    · rw [step_muteSelf_nil policy hq]
    · exact (rank_muteSelf_lt policy hq).le
  | update => exact rank_update_le policy h hfresh

/-! ### Cycles -/

/-- Toggles and `MuteSelf`s on their way. -/
def owed (w : View) : ℕ := w.toggles + w.muteSelfs.length

theorem owed_step (w : View) {m : Move} (hm : ¬ m.IsUser)
    (hnone : m = .muteSelf → w.muteSelfs = []) :
    (w.step policy m).1.owed = w.owed + (w.step policy m).2.length := by
  cases m with
  | flipVrchat | flipDiscord | resync => exact absurd trivial hm
  | muteSelf =>
    rw [step_muteSelf_nil policy (hnone rfl)]
    rfl
  | vrchat =>
    simp only [step]
    rcases hq : w.toggles with _ | k
    · rfl
    · simp only [owed, flipVrchat, hq, List.length_append, List.length_singleton, List.length_nil]
      omega
  | discord =>
    simp only [step]
    rcases w.setMutes with _ | ⟨muted, rest⟩ <;> rfl
  | update =>
    rcases hq : w.updates with _ | ⟨muted, rest⟩
    · rw [step_update_nil policy hq]
      rfl
    · rw [step_update_cons policy hq]
      simp only [send, Pair.seeDiscord, Pair.syncVrchat, owed]
      split_ifs
      · simp only [List.count_singleton_self, List.length_singleton]
        omega
      · simp

/-- The move is the system's, and fresh. -/
def SystemMove (w : View) (m : Move) : Prop := ¬ m.IsUser ∧ w.FreshUpdate m

/-- **No cycle issues anything.** A run of the system's moves that brings a coherent view back, all
of its updates fresh, is silent. -/
theorem cycle_silent {w : View} (h : Coherent w) {ms : List Move}
    (hms : (view policy).Along SystemMove w ms)
    (hret : (view policy).run w ms = w) : (view policy).outs w ms = [] := by
  have hkept : ∀ w m, Coherent w → SystemMove w m → Coherent ((view policy).next w m) :=
    fun _ m hw _ => hw.step policy m
  have hrank : (view policy).Along (fun w m => ((view policy).next w m).rank = w.rank) w ms := by
    have hle : (view policy).Along (fun w m => ((view policy).next w m).rank ≤ w.rank) w ms :=
      hms.mono_of_inv hkept (fun _ _ hw hm => rank_step_le policy hw hm.1 hm.2) h
    exact hle.const_of_return (by rw [hret])
  -- a `MuteSelf` lowers the rank, so none is handled
  have howed : (view policy).Along (fun w m =>
      ((view policy).next w m).owed = w.owed + ((view policy).out w m).length) w ms := by
    refine (hms.and hrank).mono_of_inv (fun w m hw hm => hkept w m hw hm.1) ?_ h
    rintro w m - ⟨⟨hsys, -⟩, hconst⟩
    refine owed_step policy w hsys ?_
    rintro rfl
    rcases hq : w.muteSelfs with _ | ⟨muted, rest⟩
    · rfl
    · exact absurd hconst (rank_muteSelf_lt policy hq).ne
  -- so what is owed only grows, and what a move issues would be owed for good
  have hconst : (view policy).Along (fun w m => ((view policy).next w m).owed = w.owed) w ms := by
    have hle : (view policy).Along (fun w m => w.owed ≤ ((view policy).next w m).owed) w ms :=
      howed.mono fun _ _ hm => hm.ge.trans' (Nat.le_add_right _ _)
    exact hle.const_of_return_of_le (by rw [hret])
  refine Machine.Along.outs_eq_nil ((howed.and hconst).mono ?_)
  rintro w m ⟨hgrow, hsame⟩
  exact List.eq_nil_of_length_eq_zero (by omega)

theorem coherent_start (muted : Bool) :
    Coherent ⟨⟨muted, !muted, false, false⟩, muted, !muted, 0, [], [], []⟩ :=
  ⟨fun _ _ => rfl, by simp, rfl⟩

end View

/-! ### The composition -/

/-- The command up to its nonce. -/
def DiscordCommand.erase : DiscordCommand → DiscordCommand
  | .setMute target _ => .setMute target 0

/-- The composition up to nonces, timestamps and sequence counters. -/
def Network.erase (n : Network) : Network :=
  { n with coordinator := n.coordinator.erase, discordTx := n.discordTx.map DiscordCommand.erase }

theorem Network.view_erase (n : Network) : n.erase.view = n.view := by
  have hmap : (n.discordTx.map DiscordCommand.erase).map
        (fun cmd => (Discord.handleDiscordCommand cmd).args.mute) =
      n.discordTx.map fun cmd => (Discord.handleDiscordCommand cmd).args.mute := by
    rw [List.map_map]
    exact List.map_congr_left fun _ _ => rfl
  simp [Network.view, Network.erase, Coordinator.erase, Coordinator.pair, hmap]

/-- An update handled while a `SetMute` is in flight carries its target. -/
def FreshUpdate (n : Network) (m : Move × Env) : Prop :=
  m.1 = .update → ∀ p, n.coordinator.pendingDiscord = some p →
    ∀ frame ∈ n.frames.head?, MuteState.ofBool frame.muted = p.target

theorem Network.Live.freshUpdate_iff {n : Network} (h : n.Live) (m : Move × Env) :
    FreshUpdate n m ↔ n.view.FreshUpdate m.1 := by
  have hd : n.coordinator.discordState = .ofBool n.view.pair.discord :=
    Coordinator.Live.discordState h
  refine imp_congr_right fun _ => ?_
  cases hp : n.coordinator.pendingDiscord with
  | none => simp [Network.view, Coordinator.pair, hp]
  | some p =>
    have ht : p.target = .ofBool (!n.view.pair.discord) := by
      rw [(Coordinator.Live.toSlots h).discord p hp |>.2, hd, MuteState.inverse_ofBool]
    simp [ht, hp, Network.view, Coordinator.pair]

/-- **No infinite flipping, with fresh updates.** Let a run of the composition, of any moves of the
user and the system, lead from a settled pair to `n`, and let the system's moves alone lead from `n`
back to `n`, up to nonces, timestamps and sequence counters. If every update handled on the way back
while a `SetMute` is in flight carries its target, the coordinator issues nothing on the way. -/
theorem no_flipping (policy : EchoPolicy) {n₀ n : Network} (hn₀ : n₀.Settled)
    {pre ms : List (Move × Env)}
    (hn : n = (network policy).run n₀ pre) (hms : ∀ m ∈ ms, ¬ m.1.IsUser)
    (hret : ((network policy).run n ms).erase = n.erase)
    (hfresh : (network policy).Along FreshUpdate n ms) :
    (network policy).outs n ms = [] := by
  have R := refines policy
  have hlive : n.Live := by
    rw [hn]
    exact Machine.inv_run R.inv hn₀.live pre
  have hcoherent : n.view.Coherent := by
    rw [hn, R.run hn₀.live, hn₀.view]
    exact Machine.inv_run (fun _ m hw => hw.step policy m) (View.coherent_start _) _
  have hcycle : (view policy).run n.view (ms.map Prod.fst) = n.view := by
    rw [← R.run hlive, ← Network.view_erase, hret, Network.view_erase]
  have hsystem : ∀ m ∈ ms.map Prod.fst, ¬ m.IsUser := by
    intro m hm
    obtain ⟨m', hm', rfl⟩ := List.mem_map.mp hm
    exact hms m' hm'
  have halong : (view policy).Along View.FreshUpdate n.view (ms.map Prod.fst) :=
    (R.along (fun n m h => Network.Live.freshUpdate_iff h m) hlive).mp hfresh
  have hsilent := View.cycle_silent policy hcoherent
    (((view policy).along_of_forall n.view hsystem).and halong) hcycle
  rw [← R.outs hlive] at hsilent
  exact List.map_eq_nil_iff.mp hsilent

/-- Where VRChat was unmuted, muted and unmuted again within one answer of Discord: a toggle and a
`SetMute` are in flight, and the coordinator sees both sides unmuted. -/
def flipping : Network := (network .onChange).run (.start false)
  (Move.list [.flipVrchat, .muteSelf, .discord, .update, .flipVrchat, .muteSelf, .update])

/-- Left alone from there, the composition flips both sides and flips them back, and issues four
commands on the way. -/
theorem flips_for_ever :
    let ms := Move.list [.discord, .update, .vrchat, .muteSelf, .update, .discord, .update, .vrchat,
      .muteSelf, .update]
    (Network.start false).Settled ∧ (∀ m ∈ ms, ¬ m.1.IsUser) ∧
      ((network .onChange).run flipping ms).erase = flipping.erase ∧
      (network .onChange).outs flipping ms =
        [.discord (.setMute .unmuted 7), .vrchat (.toggleVoice .unmuted),
          .discord (.setMute .muted 7), .vrchat (.toggleVoice .muted)] :=
  ⟨Network.settled_start false, by decide, by decide +kernel, by decide +kernel⟩

/-- Where VRChat was muted and Discord's answers came before anything else, nothing is left to
do. -/
theorem no_flipping_at_rest :
    let n := (network .onChange).run (.start false)
      (Move.list [.flipVrchat, .muteSelf, .discord, .update, .update])
    (network .onChange).outs n (Move.list [.discord, .update, .vrchat, .muteSelf]) = [] := by
  intro n
  have hret : ((network .onChange).run n
      (Move.list [.discord, .update, .vrchat, .muteSelf])).erase = n.erase := by
    decide +kernel
  refine no_flipping .onChange (Network.settled_start false) (rfl : n = _) (by decide) hret ?_
  refine ⟨nofun, fun _ p hp => ?_, nofun, nofun, trivial⟩
  have hnone : ((network .onChange).next n (.discord, ⟨0, 0, 7⟩)).coordinator.pendingDiscord =
      none := by
    decide +kernel
  exact absurd (hnone.symm.trans hp) nofun

end VoxShift.Core
