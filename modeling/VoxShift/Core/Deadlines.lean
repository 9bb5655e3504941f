import VoxShift.Core.Turns
import Mathlib.Order.Bounds.Basic

/-!
# Deadlines

A command in flight has a deadline, and `run` sleeps until the earlier of the two
before it takes the timeout branch. A request that finds a command in flight must
leave that command's deadline alone, or a busy user would put the timeout off for
ever; and the timeout branch must leave no deadline that has passed, or the next
`sleep_until` would return at once, again and again.

## What is proved

* `stamped_step` — after a turn, from any state, a slot holds what it held before
  or a command the turn has sent, stamped with the turn's reading of the clock.
* `Inv.pendingVrchat_step`, `Inv.pendingDiscord_step` — a command in flight stays
  in its slot, stamps and all, unless the turn is one of those that clear it
  (`Inv.pendingVrchat_cleared`, `Inv.pendingDiscord_cleared`).
* `nextDeadline_eq_some_iff` — `next_deadline` is the least deadline in flight.
* `timedOut` — what the timeout branch does on each side, for every pair of slots
  and every reading of the clock.
* `timeouts_le_commands` — woken only when a deadline has passed, the loop takes
  the timeout branch no more often than it sends commands.
* `deadlines_never_postponed` — all this at every point of every run. Nothing is
  assumed of the clock.
-/

namespace VoxShift.Core

/-! ### Stamps -/

/-- `p` is a toggle among the commands sent, stamped with the clock at that moment. -/
structure SentToggle (env : Env) (cmds : List Command) (p : PendingVrChatCommand) : Prop where
  sent : .vrchat (.toggleVoice p.expected) ∈ cmds
  issuedAt : p.issuedAt = env.now
  deadline : p.deadline = env.now + VRCHAT_COMMAND_TIMEOUT

/-- `p` is a `SetMute` among the commands sent, stamped with the clock at that moment. -/
structure SentSetMute (env : Env) (cmds : List Command) (p : PendingDiscordCommand) : Prop where
  sent : .discord (.setMute p.target p.nonce) ∈ cmds
  issuedAt : p.issuedAt = env.now
  deadline : p.deadline = env.now + DISCORD_COMMAND_TIMEOUT

namespace Coordinator

/-- A handler's result: each slot holds what it held in `c`, or nothing, or what the handler has
sent. -/
structure Stamped (env : Env) (c : Coordinator) (r : Coordinator × List Command) : Prop where
  vrchat : ∀ p, r.1.pendingVrchat = some p → c.pendingVrchat = some p ∨ SentToggle env r.2 p
  discord : ∀ p, r.1.pendingDiscord = some p → c.pendingDiscord = some p ∨ SentSetMute env r.2 p

/-- What is in a slot that was left alone or emptied was there before. -/
theorem slot_of_forget {α : Type} {slot slot' : Option α} (h : slot' = slot ∨ slot' = none) {p : α}
    (hp : slot' = some p) : slot = some p := by
  rcases h with hsame | hnone
  · exact hsame.symm.trans hp
  · exact absurd (hnone.symm.trans hp) (Option.some_ne_none p).symm

theorem stamped_of_forget {env : Env} {c c' : Coordinator} {cmds : List Command}
    (hpv : c'.pendingVrchat = c.pendingVrchat ∨ c'.pendingVrchat = none)
    (hpd : c'.pendingDiscord = c.pendingDiscord ∨ c'.pendingDiscord = none) :
    Stamped env c (c', cmds) :=
  ⟨fun _ hp => .inl (slot_of_forget hpv hp), fun _ hp => .inl (slot_of_forget hpd hp)⟩

/-- What a handler leaves or empties first does not matter. -/
theorem Stamped.of_forget {env : Env} {c c' : Coordinator} {r : Coordinator × List Command}
    (h : Stamped env c' r) (hpv : c'.pendingVrchat = c.pendingVrchat ∨ c'.pendingVrchat = none)
    (hpd : c'.pendingDiscord = c.pendingDiscord ∨ c'.pendingDiscord = none) : Stamped env c r := by
  constructor
  · intro p hp
    exact (h.vrchat p hp).imp_left (slot_of_forget hpv)
  · intro p hp
    exact (h.discord p hp).imp_left (slot_of_forget hpd)

theorem stamped_self (env : Env) (c : Coordinator) : Stamped env c (c, []) :=
  stamped_of_forget (.inl rfl) (.inl rfl)

/-- `set_discord_state` stamps what it sends, and where it sends nothing it stamps nothing. -/
theorem stamped_setDiscordState (env : Env) (c : Coordinator) (target : MuteState) :
    Stamped env c (setDiscordState env c target) := by
  unfold setDiscordState
  split_ifs
  · exact stamped_self env c
  · exact stamped_self env c
  · exact stamped_self env c
  · refine ⟨fun p hp => .inl hp, fun p hp => .inr ?_⟩
    obtain rfl := Option.some.inj hp
    exact ⟨List.mem_singleton_self _, rfl, rfl⟩

theorem stamped_toggleVrchat (env : Env) (c : Coordinator) (expected : MuteState) :
    Stamped env c (toggleVrchat env c expected) := by
  unfold toggleVrchat
  split_ifs
  · exact stamped_self env c
  · exact stamped_self env c
  · refine ⟨fun p hp => .inr ?_, fun p hp => .inl hp⟩
    obtain rfl := Option.some.inj hp
    exact ⟨List.mem_singleton_self _, rfl, rfl⟩

theorem stamped_syncDiscord (env : Env) (c : Coordinator) : Stamped env c (syncDiscord env c) := by
  unfold syncDiscord
  split
  · split_ifs
    · exact stamped_setDiscordState env c _
    · exact stamped_self env c
  · exact stamped_self env c

theorem stamped_syncVrchat (env : Env) (c : Coordinator) : Stamped env c (syncVrchat env c) := by
  unfold syncVrchat
  split
  · split_ifs
    · exact stamped_toggleVrchat env c _
    · exact stamped_self env c
  · exact stamped_self env c

theorem stamped_syncByAuthority (env : Env) (c : Coordinator) :
    Stamped env c (syncByAuthority env c) := by
  unfold syncByAuthority
  split
  · exact stamped_syncDiscord env c
  · exact stamped_syncVrchat env c
  · exact stamped_self env c

theorem stamped_tryInitialSync (env : Env) (c : Coordinator) :
    Stamped env c (tryInitialSync env c) := by
  rcases tryInitialSync_cases env c with ⟨-, he⟩ | ⟨-, he⟩
  · have hsync := stamped_syncByAuthority env c.startSync
    rw [he]
    exact ⟨hsync.vrchat, hsync.discord⟩
  · rw [he]
    exact stamped_self env c

theorem stamped_resyncFromVrchat (env : Env) (c : Coordinator) :
    Stamped env c (resyncFromVrchat env c) := by
  unfold resyncFromVrchat
  split_ifs
  · exact stamped_of_forget (.inl rfl) (.inl rfl)
  · have hsync := stamped_syncDiscord env c
    exact ⟨hsync.vrchat, hsync.discord⟩

theorem stamped_resume (env : Env) (c : Coordinator) : Stamped env c (resume env c) := by
  unfold resume
  split
  · exact stamped_of_forget (.inl rfl) (.inl rfl)
  · exact (stamped_resyncFromVrchat env _).of_forget (.inl rfl) (.inl rfl)

/-- **One turn**: a slot holds what it held, or nothing, or what the turn has sent. -/
theorem stamped_step (env : Env) (c : Coordinator) (i : Input) : Stamped env c (c.step env i) := by
  by_cases hi : i.Drives
  · rcases hi.cases with ⟨state, rfl⟩ | ⟨mute, rfl⟩ | rfl | rfl
    · show Stamped env c (handleVrchatMuteSelf env c state)
      rw [handleVrchatMuteSelf_eq]
      split_ifs
      · exact (stamped_tryInitialSync env _).of_forget (.inr rfl) (.inl rfl)
      · exact stamped_of_forget (.inr rfl) (.inl rfl)
      · exact (stamped_syncDiscord env _).of_forget (.inr rfl) (.inl rfl)
    · show Stamped env c (handleDiscordVoiceSettingsUpdate env c mute)
      rw [handleDiscordVoiceSettingsUpdate_eq]
      split_ifs
      · exact (stamped_tryInitialSync env _).of_forget (.inl rfl) (.inr rfl)
      · exact stamped_of_forget (.inl rfl) (.inr rfl)
      · exact stamped_of_forget (.inl rfl) (.inr rfl)
      · exact (stamped_syncVrchat env _).of_forget (.inl rfl) (.inr rfl)
    · exact stamped_resume env c
    · exact (stamped_resyncFromVrchat env _).of_forget (.inr rfl) (.inr rfl)
  · have hforgets := forgets_step env c hi
    exact stamped_of_forget hforgets.pendingVrchat hforgets.pendingDiscord

/-! ### The least deadline -/

/-- The deadline of the command in one slot, as a set: empty if the slot is. -/
def slotDeadline {α : Type} (deadline : α → Instant) (slot : Option α) : Set Instant :=
  {d | ∃ p, slot = some p ∧ deadline p = d}

theorem slotDeadline_none {α : Type} (deadline : α → Instant) : slotDeadline deadline none = ∅ :=
  Set.eq_empty_of_forall_notMem fun _ ⟨p, hp, _⟩ => Option.some_ne_none p hp.symm

theorem isLeast_slotDeadline {α : Type} (deadline : α → Instant) (p : α) :
    IsLeast (slotDeadline deadline (some p)) (deadline p) := by
  constructor
  · exact ⟨p, rfl, rfl⟩
  · rintro _ ⟨q, hq, rfl⟩
    rw [Option.some.inj hq]

/-- The deadlines of the commands in flight. -/
def deadlines (c : Coordinator) : Set Instant :=
  slotDeadline PendingVrChatCommand.deadline c.pendingVrchat ∪
    slotDeadline PendingDiscordCommand.deadline c.pendingDiscord

/-- Without a deadline to wake at, nothing is in flight; -/
theorem deadlines_of_none {c : Coordinator} (h : c.nextDeadline = none) : c.deadlines = ∅ := by
  unfold nextDeadline at h
  unfold deadlines
  cases hv : c.pendingVrchat with
  | none =>
    cases hd : c.pendingDiscord with
    | none => rw [slotDeadline_none, slotDeadline_none, Set.union_empty]
    | some q => simp [hv, hd] at h
  | some p => cases hd : c.pendingDiscord <;> simp [hv, hd] at h

/-- otherwise `next_deadline` is the least. -/
theorem isLeast_nextDeadline {c : Coordinator} {d : Instant} (h : c.nextDeadline = some d) :
    IsLeast c.deadlines d := by
  unfold nextDeadline at h
  unfold deadlines
  cases hv : c.pendingVrchat with
  | none =>
    cases hd : c.pendingDiscord with
    | none => simp [hv, hd] at h
    | some q =>
      obtain rfl : q.deadline = d := by simpa [hv, hd] using h
      rw [slotDeadline_none, Set.empty_union]
      exact isLeast_slotDeadline _ q
  | some p =>
    cases hd : c.pendingDiscord with
    | none =>
      obtain rfl : p.deadline = d := by simpa [hv, hd] using h
      rw [slotDeadline_none, Set.union_empty]
      exact isLeast_slotDeadline _ p
    | some q =>
      obtain rfl : min p.deadline q.deadline = d := by simpa [hv, hd] using h
      exact (isLeast_slotDeadline _ p).union (isLeast_slotDeadline _ q)

theorem nextDeadline_eq_some_iff {c : Coordinator} {d : Instant} :
    c.nextDeadline = some d ↔ IsLeast c.deadlines d := by
  refine ⟨isLeast_nextDeadline, fun hleast => ?_⟩
  cases h : c.nextDeadline with
  | none =>
    have hmem := hleast.1
    rw [deadlines_of_none h] at hmem
    exact hmem.elim
  | some e => rw [(isLeast_nextDeadline h).unique hleast]

theorem nextDeadline_eq_none_iff {c : Coordinator} : c.nextDeadline = none ↔ c.deadlines = ∅ := by
  refine ⟨deadlines_of_none, fun hempty => ?_⟩
  cases h : c.nextDeadline with
  | none => rfl
  | some d =>
    have hmem := (isLeast_nextDeadline h).1
    rw [hempty] at hmem
    exact hmem.elim

/-! ### The timeout branch -/

/-- What the timeout branch makes of `c` at the time `now`. -/
structure TimedOut (now : Instant) (c c' : Coordinator) : Prop where
  /-- There is nothing left to wake for at `now`. -/
  later : ∀ d, c'.nextDeadline = some d → now < d
  toggle_expired : ∀ p, c.pendingVrchat = some p → p.deadline ≤ now →
    c'.pendingVrchat = none ∧ c'.vrchatState = .unknown ∧ c'.linkState = .faulted
  toggle_running : ∀ p, c.pendingVrchat = some p → now < p.deadline →
    c'.pendingVrchat = some p ∧ c'.vrchatState = c.vrchatState ∧
      c'.vrchatConnection = c.vrchatConnection ∧ c'.linkState = c.linkState
  setMute_expired : ∀ p, c.pendingDiscord = some p → p.deadline ≤ now →
    c'.pendingDiscord = none ∧ c'.discordState = .unknown ∧ c'.discordConnection = .degraded
  setMute_running : ∀ p, c.pendingDiscord = some p → now < p.deadline →
    c'.pendingDiscord = some p ∧ c'.discordState = c.discordState ∧
      c'.discordConnection = c.discordConnection

theorem toggle_expired {env : Env} {c : Coordinator} {p : PendingVrChatCommand}
    (hp : c.pendingVrchat = some p) (h : p.deadline ≤ env.now) :
    (handlePendingTimeout env c).pendingVrchat = none ∧
      (handlePendingTimeout env c).vrchatState = .unknown ∧
      (handlePendingTimeout env c).linkState = .faulted := by
  obtain ⟨hslot, hstate, hlink⟩ := expireVrchat_of_le hp h
  obtain ⟨hside, hlink'⟩ := expireDiscord_frame env.now (expireVrchat env.now c)
  simp only [vrchatSide, Prod.mk.injEq] at hside
  exact ⟨hside.1.trans hslot, hside.2.1.trans hstate, hlink'.trans hlink⟩

theorem setMute_expired {env : Env} {c : Coordinator} {p : PendingDiscordCommand}
    (hp : c.pendingDiscord = some p) (h : p.deadline ≤ env.now) :
    (handlePendingTimeout env c).discordSide = (none, .unknown, .degraded) := by
  have hslot : (expireVrchat env.now c).pendingDiscord = some p := by
    have hside := discordSide_expireVrchat env.now c
    simp only [discordSide, Prod.mk.injEq] at hside
    exact hside.1.trans hp
  exact expireDiscord_of_le hslot h

/-- The timeout branch forgets, so what it leaves in flight was in flight before. -/
theorem pending_of_handlePendingTimeout (env : Env) (c : Coordinator) :
    (∀ p, (handlePendingTimeout env c).pendingVrchat = some p → c.pendingVrchat = some p) ∧
      ∀ p, (handlePendingTimeout env c).pendingDiscord = some p → c.pendingDiscord = some p := by
  have hforgets : Forgets c (handlePendingTimeout env c) := forgets_step (i := .timeout) env c id
  constructor
  · exact fun p hp => slot_of_forget hforgets.pendingVrchat hp
  · exact fun p hp => slot_of_forget hforgets.pendingDiscord hp

/-- No deadline that the timeout branch leaves has passed. -/
theorem lt_of_mem_deadlines {env : Env} {c : Coordinator} {d : Instant}
    (h : d ∈ (handlePendingTimeout env c).deadlines) : env.now < d := by
  obtain ⟨hv, hd⟩ := pending_of_handlePendingTimeout env c
  rcases h with ⟨p, hp, rfl⟩ | ⟨p, hp, rfl⟩
  · by_contra hle
    have hnone := (toggle_expired (hv p hp) (not_lt.mp hle)).1
    rw [hp] at hnone
    cases hnone
  · by_contra hle
    have hnone := congrArg Prod.fst (setMute_expired (hd p hp) (not_lt.mp hle))
    exact Option.some_ne_none p (hp.symm.trans hnone)

/-- **The timeout branch**, on each side, from any state and at any time. -/
theorem timedOut (env : Env) (c : Coordinator) :
    TimedOut env.now c (handlePendingTimeout env c) where
  later _ hd := lt_of_mem_deadlines (isLeast_nextDeadline hd).1
  toggle_expired _ hp h := toggle_expired hp h
  toggle_running p hp h := by
    have hsame : expireVrchat env.now c = c :=
      expireVrchat_of_lt fun q hq => Option.some.inj (hp.symm.trans hq) ▸ h
    obtain ⟨hside, hlink⟩ := expireDiscord_frame env.now c
    simp only [vrchatSide, Prod.mk.injEq] at hside
    unfold handlePendingTimeout
    rw [hsame]
    exact ⟨hside.1.trans hp, hside.2.1, hside.2.2, hlink⟩
  setMute_expired p hp h := by
    have hside := setMute_expired hp h
    simpa only [discordSide, Prod.mk.injEq] using hside
  setMute_running p hp h := by
    have hside := discordSide_expireVrchat env.now c
    simp only [discordSide, Prod.mk.injEq] at hside
    obtain ⟨hslot, hstate, hcon⟩ := hside
    have hsame : handlePendingTimeout env c = expireVrchat env.now c :=
      expireDiscord_of_lt fun q hq => by
        rw [hslot, hp] at hq
        exact Option.some.inj hq ▸ h
    rw [hsame]
    exact ⟨hslot.trans hp, hstate, hcon⟩

end Coordinator

/-! ### What clears a slot -/

/-- The turns that clear a toggle from its slot: the next observation of VRChat or a change of
avatar, a manual resync, and the timeout branch once the deadline has passed. -/
def PendingVrChatCommand.ClearedBy (p : PendingVrChatCommand) (env : Env) : Input → Prop
  | .event (.vrChatMuteSelf _) | .event .vrChatAvatarChanged | .command .manualResync => True
  | .timeout => p.deadline ≤ env.now
  | _ => False

/-- The turns that clear a `SetMute` from its slot: the next observation of Discord or the loss of
the connection, a rejection that bears its nonce, a manual resync, and the timeout branch once the
deadline has passed. -/
def PendingDiscordCommand.ClearedBy (p : PendingDiscordCommand) (env : Env) : Input → Prop
  | .event (.discordVoiceSettingsUpdate _) | .command .manualResync => True
  | .event (.discordConnectionChanged cs) => cs ≠ .connected
  | .event (.discordCommandAck nonce (.error _)) => nonce = p.nonce
  | .timeout => p.deadline ≤ env.now
  | _ => False

namespace Coordinator

theorem toggleVrchat_of_pending (env : Env) {c : Coordinator} {p : PendingVrChatCommand}
    (hp : c.pendingVrchat = some p) (expected : MuteState) :
    toggleVrchat env c expected = (c, []) := by
  have hsome : c.pendingVrchat.isSome := Option.isSome_of_eq_some hp
  unfold toggleVrchat
  rw [if_pos hsome, ite_self]

theorem syncVrchat_of_pending (env : Env) {c : Coordinator} {p : PendingVrChatCommand}
    (hp : c.pendingVrchat = some p) : syncVrchat env c = (c, []) := by
  rw [syncVrchat_eq, if_neg]
  rintro ⟨-, -, hnone⟩
  exact Option.some_ne_none p (hp.symm.trans hnone)

theorem Slots.syncDiscord_of_pending {c : Coordinator} (h : Slots c) (env : Env)
    {p : PendingDiscordCommand} (hp : c.pendingDiscord = some p) :
    syncDiscord env c = (c, []) := by
  rw [syncDiscord_eq h, if_neg]
  rintro ⟨-, -, hnone⟩
  exact Option.some_ne_none p (hp.symm.trans hnone)

/-- **A toggle in flight** keeps its slot and its stamps until a turn clears it. -/
theorem Inv.pendingVrchat_step {c : Coordinator} (h : Inv c) {p : PendingVrChatCommand}
    (hp : c.pendingVrchat = some p) {env : Env} {i : Input} (hi : ¬ p.ClearedBy env i) :
    (c.step env i).1.pendingVrchat = some p := by
  have hdone : c.initialSyncDone = true := h.done_of_pending (.inl (Option.isSome_of_eq_some hp))
  cases i with
  | event ev =>
    cases ev with
    | vrChatMuteSelf _ | vrChatAvatarChanged => exact absurd trivial hi
    | discordVoiceSettingsUpdate mute =>
      have hobs : (c.observeDiscord mute).pendingVrchat = some p := hp
      rw [step_update_of_done hdone, syncVrchat_of_pending env hobs]
      split_ifs <;> exact hp
    | discordConnectionChanged cs =>
      simp only [step, handleEvent, handleDiscordConnectionChanged]
      split_ifs <;> exact hp
    | discordCommandAck nonce result =>
      simp only [step, handleEvent, handleDiscordCommandAck]
      split_ifs
      · cases result <;> exact hp
      · exact hp
    | vrChatConnectionChanged _ | discordVoiceChannelStatus _ | discordVoiceStateUnavailable _ =>
      exact hp
  | command cmd =>
    cases cmd with
    | setPaused paused =>
      cases paused with
      | true => exact hp
      | false =>
        show (resume env c).1.pendingVrchat = some p
        rw [resume_pendingVrchat]
        exact hp
    | manualResync => exact absurd trivial hi
    | setLinkMode _ | shutdown => exact hp
  | timeout => exact ((timedOut env c).toggle_running p hp (not_le.mp hi)).1

/-- **A `SetMute` in flight** keeps its slot and its stamps until a turn clears it. -/
theorem Inv.pendingDiscord_step {c : Coordinator} (h : Inv c) {p : PendingDiscordCommand}
    (hp : c.pendingDiscord = some p) {env : Env} {i : Input} (hi : ¬ p.ClearedBy env i) :
    (c.step env i).1.pendingDiscord = some p := by
  have hdone : c.initialSyncDone = true := h.done_of_pending (.inr (Option.isSome_of_eq_some hp))
  cases i with
  | event ev =>
    cases ev with
    | vrChatMuteSelf state =>
      have hobs : (c.observeVrchat state).pendingDiscord = some p := hp
      have hslots : Slots (c.observeVrchat state) := h.take_vrchat rfl rfl rfl rfl
      rw [step_muteSelf_of_done hdone, hslots.syncDiscord_of_pending env hobs]
      split_ifs <;> exact hp
    | discordVoiceSettingsUpdate _ => exact absurd trivial hi
    | discordConnectionChanged cs =>
      have hlive : ¬ cs ≠ .connected := hi
      simp only [step, handleEvent, handleDiscordConnectionChanged]
      rw [if_neg hlive]
      exact hp
    | discordCommandAck nonce result =>
      simp only [step, handleEvent, handleDiscordCommandAck]
      cases result with
      | error message =>
        have hother : ¬ p.nonce = nonce := fun heq => hi heq.symm
        rw [if_neg (by simpa [hp] using hother)]
        exact hp
      | ok _ => split_ifs <;> exact hp
    | vrChatAvatarChanged | vrChatConnectionChanged _ | discordVoiceChannelStatus _
    | discordVoiceStateUnavailable _ => exact hp
  | command cmd =>
    cases cmd with
    | setPaused paused =>
      cases paused with
      | true => exact hp
      | false =>
        simp only [step, handleCommand, resume]
        split
        · exact hp
        · have hactive : Slots { c with linkState := .active } := h.of_eq rfl
          unfold resyncFromVrchat
          rw [hactive.syncDiscord_of_pending env hp]
          split_ifs <;> exact hp
    | manualResync => exact absurd trivial hi
    | setLinkMode _ | shutdown => exact hp
  | timeout => exact ((timedOut env c).setMute_running p hp (not_le.mp hi)).1

theorem Inv.pendingVrchat_cleared {c : Coordinator} (h : Inv c) {p : PendingVrChatCommand}
    (hp : c.pendingVrchat = some p) {env : Env} {i : Input} (hi : p.ClearedBy env i) :
    (c.step env i).1.pendingVrchat = none := by
  have hdone : c.initialSyncDone = true := h.done_of_pending (.inl (Option.isSome_of_eq_some hp))
  cases i with
  | event ev =>
    cases ev with
    | vrChatMuteSelf state => exact pendingVrchat_muteSelf hdone env state
    | vrChatAvatarChanged => rfl
    | vrChatConnectionChanged _ | discordVoiceSettingsUpdate _ | discordVoiceChannelStatus _
    | discordConnectionChanged _ | discordCommandAck _ _ | discordVoiceStateUnavailable _ =>
      exact hi.elim
  | command cmd =>
    cases cmd with
    | manualResync => exact resyncFromVrchat_pendingVrchat env _
    | setPaused _ | setLinkMode _ | shutdown => exact hi.elim
  | timeout => exact ((timedOut env c).toggle_expired p hp hi).1

theorem Inv.pendingDiscord_cleared {c : Coordinator} (h : Inv c) {p : PendingDiscordCommand}
    (hp : c.pendingDiscord = some p) {env : Env} {i : Input} (hi : p.ClearedBy env i) :
    ∀ q, (c.step env i).1.pendingDiscord = some q → SentSetMute env (c.step env i).2 q := by
  have hdone : c.initialSyncDone = true := h.done_of_pending (.inr (Option.isSome_of_eq_some hp))
  have hempty : ∀ c' : Coordinator, c'.pendingDiscord = none →
      ∀ q, c'.pendingDiscord = some q → SentSetMute env (c.step env i).2 q :=
    fun c' hnone q hq => absurd (hnone.symm.trans hq) (Option.some_ne_none q).symm
  cases i with
  | event ev =>
    cases ev with
    | discordVoiceSettingsUpdate mute =>
      exact hempty _ (pendingDiscord_update hdone env mute)
    | discordConnectionChanged cs =>
      have hlost : cs ≠ .connected := hi
      refine hempty _ ?_
      simp only [step, handleEvent, handleDiscordConnectionChanged]
      rw [if_pos hlost]
      rfl
    | discordCommandAck nonce result =>
      refine hempty _ ?_
      cases result with
      | error message =>
        have hnonce : p.nonce = nonce := Eq.symm hi
        simp only [step, handleEvent, handleDiscordCommandAck]
        rw [if_pos (by simpa [hp] using hnonce)]
        rfl
      | ok _ => exact hi.elim
    | vrChatMuteSelf _ | vrChatAvatarChanged | vrChatConnectionChanged _
    | discordVoiceChannelStatus _ | discordVoiceStateUnavailable _ => exact hi.elim
  | command cmd =>
    cases cmd with
    | manualResync =>
      -- the resync has emptied both slots: what is in flight after it, it has sent
      intro q hq
      have hstamped := stamped_resyncFromVrchat env
        { c with pendingDiscord := none, pendingVrchat := none }
      exact (hstamped.discord q hq).resolve_left (Option.some_ne_none q).symm
    | setPaused _ | setLinkMode _ | shutdown => exact hi.elim
  | timeout => exact hempty _ ((timedOut env c).setMute_expired p hp hi).1

/-! ### The loop never spins -/

/-- How many commands are in flight. -/
def inFlight (c : Coordinator) : ℕ :=
  c.pendingVrchat.toList.length + c.pendingDiscord.toList.length

theorem inFlight_new (cfg : CoordinatorConfig) : inFlight (new cfg) = 0 := rfl

end Coordinator

/-- The turn takes the timeout branch. -/
def Input.isTimeout : Input → Bool
  | .timeout => true
  | _ => false

/-- `sleep_until` returns at the deadline it was given or later, never earlier. -/
def WokenInTime (c : Coordinator) (t : Turn) : Prop :=
  t.2 = .timeout → ∃ d, c.nextDeadline = some d ∧ d ≤ t.1.now

namespace Coordinator

/-- A slot that holds what it held, or else is paid for. -/
theorem length_slot_le {α : Type} {slot slot' : Option α} {n : ℕ}
    (h : ∀ p, slot' = some p → slot = some p ∨ 0 < n) :
    slot'.toList.length ≤ slot.toList.length + n := by
  cases slot' with
  | none => simp
  | some p =>
    rcases h p rfl with rfl | hn
    · exact Nat.le_add_right _ _
    · exact Nat.le_trans hn (Nat.le_add_left _ _)

/-- What a handler leaves in flight was in flight before or has been sent by it. -/
theorem Stamped.inFlight_le {env : Env} {c : Coordinator} {r : Coordinator × List Command}
    (h : Stamped env c r) : inFlight r.1 ≤ inFlight c + r.2.length := by
  have hv : r.1.pendingVrchat.toList.length ≤
      c.pendingVrchat.toList.length + r.2.countP (fun cmd => decide cmd.IsToggle) := by
    refine length_slot_le fun p hp => (h.vrchat p hp).imp_right fun hsent => ?_
    exact List.countP_pos_iff.mpr ⟨_, hsent.sent, by simp⟩
  have hd : r.1.pendingDiscord.toList.length ≤
      c.pendingDiscord.toList.length + r.2.countP (fun cmd => ¬ decide cmd.IsToggle) := by
    refine length_slot_le fun p hp => (h.discord p hp).imp_right fun hsent => ?_
    exact List.countP_pos_iff.mpr ⟨_, hsent.sent, by simp⟩
  have hlen := List.length_eq_countP_add_countP (fun cmd => decide (Command.IsToggle cmd))
    (l := r.2)
  unfold inFlight
  omega

/-- Woken in time, the timeout branch takes at least one command out of its slot. -/
theorem inFlight_handlePendingTimeout {env : Env} {c : Coordinator} {d : Instant}
    (hd : c.nextDeadline = some d) (hle : d ≤ env.now) :
    1 + inFlight (handlePendingTimeout env c) ≤ inFlight c := by
  obtain ⟨hv, hs⟩ := pending_of_handlePendingTimeout env c
  have hvlen := length_slot_le (n := 0) fun p hp => .inl (hv p hp)
  have hslen := length_slot_le (n := 0) fun p hp => .inl (hs p hp)
  unfold inFlight
  rcases (isLeast_nextDeadline hd).1 with ⟨p, hp, rfl⟩ | ⟨p, hp, rfl⟩
  · rw [(toggle_expired hp hle).1, hp]
    simp only [Option.toList_none, Option.toList_some, List.length_nil, List.length_singleton]
    omega
  · have hnone := congrArg Prod.fst (setMute_expired hp hle)
    simp only [discordSide] at hnone
    rw [hnone, hp]
    simp only [Option.toList_none, Option.toList_some, List.length_nil, List.length_singleton]
    omega

/-- **One turn** pays for what it adds with what it sends, and for a timeout with what it clears. -/
theorem paid_step {c : Coordinator} {t : Turn} (h : WokenInTime c t) :
    (if t.2.isTimeout then 1 else 0) + inFlight (coordinator.next c t) ≤
      inFlight c + (coordinator.out c t).length := by
  obtain ⟨env, i⟩ := t
  have hstep := (stamped_step env c i).inFlight_le
  cases i with
  | timeout =>
    obtain ⟨d, hd, hle⟩ := h rfl
    exact inFlight_handlePendingTimeout hd hle
  | event _ | command _ =>
    rw [if_neg (by simp [Input.isTimeout]), Nat.zero_add]
    exact hstep

end Coordinator

/-- **The loop never spins.** In every run that takes the timeout branch only when a deadline has
passed, it takes it no more often than it sends commands. -/
theorem timeouts_le_commands {cfg : CoordinatorConfig} {ts : List Turn}
    (h : coordinator.Along WokenInTime (.new cfg) ts) :
    ts.countP (·.2.isTimeout) ≤ (coordinator.outs (.new cfg) ts).length := by
  have hpaid := (h.mono fun _ _ hw => Coordinator.paid_step hw).countP_le
  rw [Coordinator.inFlight_new] at hpaid
  omega

/-- **Deadlines are never postponed, and the loop never spins.** For every configuration, every run
and every point `k` of it:
a command in flight was sent by one turn of the run, which fixed its deadline at that turn's reading
of the clock plus 1.5 s for a toggle and 2 s for a `SetMute`, and it has been in its slot with that
deadline at every point since;
the next turn leaves it there unless it is one of those that clear it, and then nothing of it is
left; with it there `toggle_vrchat`, and `set_discord_state` towards a known state, do nothing;
`next_deadline` is the least deadline in flight;
and whatever the clock says, the timeout branch leaves no deadline that has passed, and does to each
side what `TimedOut` says.
If the run takes the timeout branch only when a deadline has passed, it takes it no more often than
it sends commands. -/
theorem deadlines_never_postponed (cfg : CoordinatorConfig) (ts : List Turn) (k : ℕ) :
    let c := coordinator.run (.new cfg) (ts.take k)
    (∀ p, c.pendingVrchat = some p →
      coordinator.HeldSince Coordinator.pendingVrchat
        (fun c t => SentToggle t.1 (c.step t.1 t.2).2) (.new cfg) ts k p) ∧
    (∀ p, c.pendingDiscord = some p →
      coordinator.HeldSince Coordinator.pendingDiscord
        (fun c t => SentSetMute t.1 (c.step t.1 t.2).2) (.new cfg) ts k p) ∧
    (∀ p env i, c.pendingVrchat = some p →
      (¬ p.ClearedBy env i → (c.step env i).1.pendingVrchat = some p) ∧
      (p.ClearedBy env i → (c.step env i).1.pendingVrchat = none)) ∧
    (∀ p env i, c.pendingDiscord = some p →
      (¬ p.ClearedBy env i → (c.step env i).1.pendingDiscord = some p) ∧
      (p.ClearedBy env i → ∀ q, (c.step env i).1.pendingDiscord = some q →
        SentSetMute env (c.step env i).2 q)) ∧
    (∀ p env expected, c.pendingVrchat = some p → c.toggleVrchat env expected = (c, [])) ∧
    (∀ p env target, c.pendingDiscord = some p → target ≠ .unknown →
      c.setDiscordState env target = (c, [])) ∧
    (∀ d, c.nextDeadline = some d ↔ IsLeast c.deadlines d) ∧
    (c.nextDeadline = none ↔ c.deadlines = ∅) ∧
    (∀ env, Coordinator.TimedOut env.now c (c.handlePendingTimeout env)) ∧
    (coordinator.Along WokenInTime (.new cfg) ts →
      ts.countP (·.2.isTimeout) ≤ (coordinator.outs (.new cfg) ts).length) := by
  intro c
  have hinv : c.Inv := (reachable_run cfg (ts.take k)).inv
  refine ⟨fun p hp => ?_, fun p hp => ?_, fun p env i hp => ⟨fun hi => ?_, fun hi => ?_⟩,
    fun p env i hp => ⟨fun hi => ?_, fun hi => ?_⟩, fun p env expected hp => ?_,
    fun p env target hp ht => ?_, fun d => ?_, ?_, fun env => ?_, timeouts_le_commands⟩
  · refine Theory.Machine.held_since (fun c t p hp => ?_) rfl hp
    exact (Coordinator.stamped_step t.1 c t.2).vrchat p hp
  · refine Theory.Machine.held_since (fun c t p hp => ?_) rfl hp
    exact (Coordinator.stamped_step t.1 c t.2).discord p hp
  · exact hinv.pendingVrchat_step hp hi
  · exact hinv.pendingVrchat_cleared hp hi
  · exact hinv.pendingDiscord_step hp hi
  · exact hinv.pendingDiscord_cleared hp hi
  · exact Coordinator.toggleVrchat_of_pending env hp expected
  · exact Coordinator.setDiscordState_of_pending hinv.toSlots ht hp
  · exact Coordinator.nextDeadline_eq_some_iff
  · exact Coordinator.nextDeadline_eq_none_iff
  · exact Coordinator.timedOut env c

end VoxShift.Core
