import VoxShift.Discord.Pacing

/-!
# The refresh timer and the store

`run_refresh_loop` arms its timer for what the store holds when it gets to its head,
and then waits in `timer.tick()`. While it waits, `try_restore_session` and
`authorize_now` may write the store; nothing tells the loop.

The deadline is an `Instant` and the expiry a `SystemTime`, so how well the one fits the
other depends on the two clocks. What the wall clock gains on the monotonic one while the
loop waits is what the deadline may be late by; a tick, where the clocks go on together.

## What is proved

* `Clocked.Ok.step` — what a step that keeps the timer armed preserves.
* `armed_of_keepsArmed` — in a run of such steps the timer is armed in time for the token
  set that the store holds, at every point.
* `authorize_leaves_timer_disarmed` — the worker starts with an empty store; the token
  set of the first authorization is never refreshed.
-/

namespace VoxShift.Discord

open VoxShift.Core VoxShift.Theory

/-! ### The load at the head of the loop -/

/-- What the last load at the head of the loop gave, and when. -/
inductive Load where
  | nothing
  | failed
  | gave (now : Instant) (systemNow : SystemTime) (tokens : StoredTokenSet)
  deriving DecidableEq, Repr

namespace Load

/-- A load at the head of the loop. -/
def atHead (env : FlowEnv) (stored : Option StoredTokenSet) : Load :=
  match env.armError, stored with
  | none, some tokens => .gave env.now env.systemNow tokens
  | none, none => .nothing
  | some _, _ => .failed

/-- The timer that it leaves. -/
def timer : Load → RefreshTimer
  | .gave now systemNow tokens => ⟨some (now + refreshIn systemNow tokens)⟩
  | .nothing | .failed => .disarm

/-- The timer is early enough for another token set, too: the load gave one that expires no later,
or one that is due for its refresh by now. -/
def Covers (systemNow : SystemTime) (tokens : StoredTokenSet) : Load → Prop
  | .gave _ _ loaded =>
    loaded.expiresAt ≤ tokens.expiresAt ∨ loaded.isExpiredWithin systemNow REFRESH_MARGIN = true
  | .nothing | .failed => False

instance (systemNow : SystemTime) (tokens : StoredTokenSet) :
    (load : Load) → Decidable (load.Covers systemNow tokens)
  | .gave _ _ _ => inferInstanceAs (Decidable (_ ∨ _))
  | .nothing | .failed => .isFalse id

/-- Since the load, the wall clock has not gained more than this on the monotonic one. -/
def InStep (slack : Duration) (now : Instant) (systemNow : SystemTime) : Load → Prop
  | .gave loadedAt systemLoadedAt _ =>
    100 * (systemNow - systemLoadedAt) ≤ (now : ℤ) - loadedAt + slack
  | .nothing | .failed => True

instance (slack : Duration) (now : Instant) (systemNow : SystemTime) :
    (load : Load) → Decidable (load.InStep slack now systemNow)
  | .gave _ _ _ => inferInstanceAs (Decidable (_ ≤ _))
  | .nothing | .failed => .isTrue trivial

end Load

namespace RefreshLoop

/-- What the store holds when the loop, resumed now, gets to its head; `none` where it does not. -/
def head? (env : FlowEnv) (stored : Option StoredTokenSet) (l : RefreshLoop) :
    Option (Option StoredTokenSet) :=
  match l.state with
  | .spawned => some stored
  | .ticking =>
    if l.timer.fired env.now && env.loadError.isNone && stored.isNone then some none else none
  | .refreshing _ (some response) =>
    match postToken response with
    | .ok resp => (storeFromResponse env.systemNow resp).map (afterSave env stored)
    | .error err => if err = .reauthorizationRequired then some (afterClear env stored) else none
  | .sleeping deadline => if deadline ≤ env.now then some stored else none
  | .refreshing _ none | .panicked => none

theorem top_eq (env : FlowEnv) (stored : Option StoredTokenSet) :
    top env stored = ⟨(Load.atHead env stored).timer, .ticking⟩ := by
  unfold top Load.atHead
  cases env.armError with
  | some message => rfl
  | none =>
    cases stored with
    | none => rfl
    | some tokens => simp only [RefreshTimer.arm_eq, Load.timer]

/-- What a turn of the loop can do to it and to the store. -/
inductive Turned (env : FlowEnv) (stored : Option StoredTokenSet) (l : RefreshLoop)
    (r : Resumed RefreshLoop) : Prop where
  /-- It gets to its head. -/
  | head {stored' : Option StoredTokenSet} (hhead : l.head? env stored = some stored')
      (hflow : r.flow = top env stored') (hstored : r.stored = stored')
  /-- It is not in `timer.tick()` afterwards. -/
  | leaves (hhead : l.head? env stored = none) (hstate : r.flow.state ≠ .ticking)
  /-- Nothing. -/
  | stays (hhead : l.head? env stored = none) (hflow : r.flow = l) (hstored : r.stored = stored)

/-- **A turn of the loop.** -/
theorem turned (cfg : AuthConfig) (env : FlowEnv) (stored : Option StoredTokenSet)
    (l : RefreshLoop) : l.Turned env stored (l.resume cfg env stored) := by
  obtain ⟨timer, state⟩ := l
  cases state with
  | spawned => exact .head rfl rfl rfl
  | panicked => exact .stays rfl rfl rfl
  | ticking =>
    simp only [resume]
    split_ifs with hfired
    · unfold ticked
      cases hload : env.loadError with
      | some message => exact .leaves (by simp [head?, hload]) (by simp)
      | none =>
        cases stored with
        | none => exact .head (by simp [head?, hfired, hload]) rfl rfl
        | some current => exact .leaves (by simp [head?]) (by simp)
    · exact .stays (by simp [head?, hfired]) rfl rfl
  | refreshing current answer =>
    cases answer with
    | none => exact .stays rfl rfl rfl
    | some response =>
      simp only [resume, refreshed]
      rcases hpost : postToken response with err | resp
      · dsimp only
        split_ifs with hreject
        · exact .head (by simp [head?, hpost, hreject]) rfl rfl
        · exact .leaves (by simp [head?, hpost, hreject]) (by simp)
      · dsimp only
        cases htokens : storeFromResponse env.systemNow resp with
        | none => exact .leaves (by simp [head?, hpost, htokens]) (by simp)
        | some tokens => exact .head (by simp [head?, hpost, htokens]) rfl rfl
  | sleeping deadline =>
    simp only [resume]
    split_ifs with hwoken
    · exact .head (by simp [head?, hwoken]) rfl rfl
    · exact .stays (by simp [head?, hwoken]) rfl rfl

end RefreshLoop

/-! ### The flows in time -/

/-- The three flows, the clocks, and what the last load at the head of the loop gave. -/
structure Clocked where
  sessions : Sessions
  now : Instant
  systemNow : SystemTime
  load : Load

/-- What happens next. -/
inductive ClockedMove where
  /-- A turn of the flows. -/
  | turn (t : Turn)
  /-- Time passes. -/
  | pass (now : Instant) (systemNow : SystemTime)

namespace Clocked

/-- Where the worker starts. -/
def start (stored : Option StoredTokenSet) (endpoint : Endpoint) (now : Instant)
    (systemNow : SystemTime) : Clocked := ⟨.start stored endpoint, now, systemNow, .nothing⟩

/-- What the last load at the head of the loop gave, after a turn. -/
def loadAfter (s : Clocked) : Turn → Load
  | .resume .refreshLoop env =>
    (s.sessions.loop.head? env s.sessions.stored).elim s.load (Load.atHead env)
  | .resume .restore _ | .resume .authorize _ | .serve _ _ => s.load

/-- One move. -/
def step (cfg : AuthConfig) (s : Clocked) : ClockedMove → Clocked × List Action
  | .turn t =>
    ({ s with sessions := (s.sessions.step cfg t).1, load := s.loadAfter t },
      (s.sessions.step cfg t).2)
  | .pass now systemNow => ({ s with now := now, systemNow := systemNow }, [])

/-- A flow is told the time it is, and the monotonic clock does not go back. -/
def Timely (s : Clocked) : ClockedMove → Prop
  | .turn (.resume _ env) => env.now = s.now ∧ env.systemNow = s.systemNow
  | .turn (.serve _ _) => True
  | .pass now _ => s.now ≤ now

instance (s : Clocked) : (m : ClockedMove) → Decidable (s.Timely m)
  | .turn (.resume _ env) =>
    inferInstanceAs (Decidable (env.now = s.now ∧ env.systemNow = s.systemNow))
  | .turn (.serve _ _) => .isTrue trivial
  | .pass now _ => inferInstanceAs (Decidable (s.now ≤ now))

end Clocked

/-- The flows in time as a machine. -/
def clocked (cfg : AuthConfig) : Machine Clocked ClockedMove Action where
  step := Clocked.step cfg

/-! ### In time -/

/-- How long it is until five minutes before an expiry; 0 where that has passed. -/
def untilRefresh (systemNow expiresAt : SystemTime) : Duration :=
  100 * (expiresAt - SystemTime.ticks REFRESH_MARGIN - systemNow).toNat

/-- A loop in `timer.tick()` has its timer armed for the token set that the store holds, with a
deadline no later than now or five minutes before the expiry, or later by the slack at most. -/
def Clocked.Armed (slack : Duration) (s : Clocked) : Prop :=
  s.sessions.loop.state = .ticking → ∀ tokens ∈ s.sessions.stored,
    ∃ deadline ∈ s.sessions.loop.timer.deadline,
      deadline ≤ s.now + untilRefresh s.systemNow tokens.expiresAt + slack

instance (slack : Duration) (s : Clocked) : Decidable (s.Armed slack) :=
  inferInstanceAs (Decidable (_ → ∀ tokens ∈ s.sessions.stored, ∃ deadline ∈ _, _ ≤ _))

theorem untilRefresh_mono (systemNow : SystemTime) {expiresAt later : SystemTime}
    (h : expiresAt ≤ later) : untilRefresh systemNow expiresAt ≤ untilRefresh systemNow later :=
  Nat.mul_le_mul_left 100
    (Int.toNat_le_toNat (Int.sub_le_sub_right (Int.sub_le_sub_right h _) systemNow))

/-- The code's own count of the time until the refresh is never longer. -/
theorem refreshIn_le (systemNow : SystemTime) (tokens : StoredTokenSet) :
    refreshIn systemNow tokens ≤ untilRefresh systemNow tokens.expiresAt := by
  unfold refreshIn SystemTime.checkedSub
  split
  · next refreshAt hsub =>
    split_ifs at hsub
    obtain rfl := Option.some.inj hsub
    exact le_rfl
  · exact Nat.zero_le _

/-- A token set that is due for its refresh by now was, when it was loaded, due by now. -/
theorem refreshIn_le_of_isExpiredWithin {tokens : StoredTokenSet} {systemNow : SystemTime}
    (h : tokens.isExpiredWithin systemNow REFRESH_MARGIN = true) (systemLoadedAt : SystemTime) :
    refreshIn systemLoadedAt tokens ≤ 100 * (systemNow - systemLoadedAt).toNat := by
  unfold StoredTokenSet.isExpiredWithin at h
  unfold refreshIn
  cases hsub : SystemTime.checkedSub tokens.expiresAt REFRESH_MARGIN with
  | none => exact Nat.zero_le _
  | some refreshAt =>
    simp only [hsub, decide_eq_true_eq] at h
    have hle : refreshAt - systemLoadedAt ≤ systemNow - systemLoadedAt :=
      Int.sub_le_sub_right h systemLoadedAt
    exact Nat.mul_le_mul_left 100 (Int.toNat_le_toNat hle)

theorem gain_self (now slack : ℕ) (systemNow : ℤ) :
    100 * (systemNow - systemNow) ≤ (now : ℤ) - now + slack := by
  omega

/-- A time ahead by the wall clock is no farther ahead later on, but for what that clock gained. -/
theorem add_toNat_le_of_inStep {loadedAt now slack : ℕ} {systemLoadedAt systemNow : ℤ}
    (refreshAt : ℤ) (hnow : loadedAt ≤ now)
    (hstep : 100 * (systemNow - systemLoadedAt) ≤ (now : ℤ) - loadedAt + slack) :
    loadedAt + 100 * (refreshAt - systemLoadedAt).toNat ≤
      now + 100 * (refreshAt - systemNow).toNat + slack := by
  omega

/-! ### Saves of the other flows -/

/-- The token set that the restored session, resumed now, saves. -/
def RestoreState.saves (env : FlowEnv) : RestoreState → Option StoredTokenSet
  | .authenticatingNew _ tokens =>
    if (authenticate env.reply).isOk && env.saveError.isNone then some tokens else none
  | .idle _ | .authenticating _ | .refreshing _ _ | .authenticatingCached _ | .panicked => none

/-- The token set that the authorization, resumed now, saves. -/
def AuthorizeState.saves (env : FlowEnv) : AuthorizeState → Option StoredTokenSet
  | .authenticating tokens =>
    if (authenticate env.reply).isOk && env.saveError.isNone then some tokens else none
  | .idle _ | .authorizing _ | .exchanging _ _ _ | .panicked => none

/-- What another flow than the loop has made of the store: it has saved a token set, or it has left
the store as it was, or it has cleared it. -/
def Saved (saves stored stored' : Option StoredTokenSet) : Prop :=
  match saves with
  | some tokens => stored' = some tokens
  | none => stored' = stored ∨ stored' = none

theorem saved_afterSave (env : FlowEnv) (stored : Option StoredTokenSet) (tokens : StoredTokenSet) :
    Saved (if env.saveError.isNone then some tokens else none) stored
      (afterSave env stored tokens) := by
  unfold afterSave
  cases env.saveError with
  | none => rfl
  | some message => exact .inl rfl

theorem RestoreState.saved_resume (cfg : AuthConfig) (env : FlowEnv)
    (stored : Option StoredTokenSet) (r : RestoreState) :
    Saved (r.saves env) stored (r.resume cfg env stored).stored := by
  cases r with
  | idle result =>
    refine .inl ?_
    simp only [resume, call]
    cases env.loadError with
    | some message => rfl
    | none =>
      cases stored with
      | none => rfl
      | some tokens =>
        dsimp only
        split_ifs <;> rfl
  | authenticating tokens =>
    refine .inl ?_
    simp only [resume]
    cases authenticate env.reply <;> rfl
  | refreshing current answer =>
    cases answer with
    | none => exact .inl rfl
    | some response =>
      simp only [resume, refreshed]
      rcases postToken response with err | resp
      · dsimp only
        split_ifs
        · cases hclear : env.clearError with
          | none => exact .inr (by simp [afterClear, hclear])
          | some message => exact .inl (by simp [afterClear, hclear])
        · exact .inl rfl
        · exact .inl rfl
      · dsimp only
        cases storeFromResponse env.systemNow resp <;> exact .inl rfl
  | authenticatingNew current tokens =>
    simp only [resume, saves]
    rcases authenticate env.reply with err | ⟨⟩
    · exact .inl rfl
    · exact saved_afterSave env stored tokens
  | authenticatingCached current =>
    refine .inl ?_
    simp only [resume]
    cases authenticate env.reply <;> rfl
  | panicked => exact .inl rfl

theorem AuthorizeState.saved_resume (cfg : AuthConfig) (env : FlowEnv)
    (stored : Option StoredTokenSet) (a : AuthorizeState) :
    Saved (a.saves env) stored (a.resume cfg env stored).stored := by
  cases a with
  | idle result => exact .inl rfl
  | authorizing verifier =>
    refine .inl ?_
    simp only [resume]
    rcases requestAuthorization verifier env.reply with err | ⟨code, verifier⟩ <;> rfl
  | exchanging code verifier answer =>
    cases answer with
    | none => exact .inl rfl
    | some response =>
      refine .inl ?_
      simp only [resume, exchanged]
      rcases postToken response with err | resp
      · rfl
      · dsimp only
        cases storeFromResponse env.systemNow resp <;> rfl
  | authenticating tokens =>
    simp only [resume, saves]
    rcases authenticate env.reply with err | ⟨⟩
    · exact .inl rfl
    · exact saved_afterSave env stored tokens
  | panicked => exact .inl rfl

/-! ### Runs -/

namespace Load

variable {load : Load} {slack : Duration} {now : Instant} {systemNow : SystemTime}
  {tokens : StoredTokenSet}

/-- The load was made by now. -/
def Past (now : Instant) : Load → Prop
  | .gave loadedAt _ _ => loadedAt ≤ now
  | .nothing | .failed => True

/-- The load gave a token set that expires no later than this one, or its timer is due. -/
def EarlyFor (slack : Duration) (now : Instant) (tokens : StoredTokenSet) : Load → Prop
  | .gave loadedAt systemLoadedAt loaded =>
    loaded.expiresAt ≤ tokens.expiresAt ∨ loadedAt + refreshIn systemLoadedAt loaded ≤ now + slack
  | .nothing | .failed => False

theorem past_atHead (env : FlowEnv) (stored : Option StoredTokenSet) :
    (atHead env stored).Past env.now := by
  unfold atHead
  split
  · exact Nat.le_refl env.now
  all_goals trivial

theorem inStep_atHead (slack : Duration) (env : FlowEnv) (stored : Option StoredTokenSet) :
    (atHead env stored).InStep slack env.now env.systemNow := by
  unfold atHead
  split
  · exact gain_self env.now slack env.systemNow
  all_goals trivial

theorem Past.mono {later : Instant} (h : load.Past now) (hle : now ≤ later) : load.Past later := by
  cases load with
  | gave loadedAt systemLoadedAt loaded => exact Nat.le_trans h hle
  | nothing | failed => trivial

theorem EarlyFor.mono {later : Instant} (h : load.EarlyFor slack now tokens) (hle : now ≤ later) :
    load.EarlyFor slack later tokens := by
  cases load with
  | gave loadedAt systemLoadedAt loaded =>
    exact h.imp_right fun hdue => hdue.trans (Nat.add_le_add_right hle slack)
  | nothing | failed => exact h

theorem Covers.earlyFor (h : load.Covers systemNow tokens) (hpast : load.Past now)
    (hstep : load.InStep slack now systemNow) : load.EarlyFor slack now tokens := by
  cases load with
  | gave loadedAt systemLoadedAt loaded =>
    refine h.imp_right fun hdue => ?_
    have hahead := add_toNat_le_of_inStep systemNow hpast hstep
    rw [Int.sub_self] at hahead
    exact (Nat.add_le_add_left (refreshIn_le_of_isExpiredWithin hdue systemLoadedAt) loadedAt).trans
      hahead
  | nothing | failed => exact h

/-- A timer that is early for a token set is armed in time for it. -/
theorem EarlyFor.deadline (h : load.EarlyFor slack now tokens) (hpast : load.Past now)
    (hstep : load.InStep slack now systemNow) :
    ∃ deadline ∈ load.timer.deadline,
      deadline ≤ now + untilRefresh systemNow tokens.expiresAt + slack := by
  cases load with
  | gave loadedAt systemLoadedAt loaded =>
    refine ⟨loadedAt + refreshIn systemLoadedAt loaded, rfl, ?_⟩
    rcases h with hexpires | hdue
    · calc loadedAt + refreshIn systemLoadedAt loaded
          ≤ loadedAt + untilRefresh systemLoadedAt loaded.expiresAt :=
            Nat.add_le_add_left (refreshIn_le systemLoadedAt loaded) loadedAt
        _ ≤ now + untilRefresh systemNow loaded.expiresAt + slack :=
            add_toNat_le_of_inStep _ hpast hstep
        _ ≤ now + untilRefresh systemNow tokens.expiresAt + slack :=
            Nat.add_le_add_right
              (Nat.add_le_add_left (untilRefresh_mono systemNow hexpires) now) slack
    · exact hdue.trans (Nat.add_le_add_right (Nat.le_add_right now _) slack)
  | nothing | failed => exact h.elim

end Load

namespace Clocked

variable {s : Clocked} {slack : Duration}

/-- The step keeps the loop armed: a load at the head of the loop does not fail where the store
holds a token set; while the loop is in `timer.tick()`, another flow saves a token set only where
the last load at the head gave one that expires no later, or one that is due by then; and since
that load the wall clock has not gained more than the slack. -/
def KeepsArmed (slack : Duration) (s : Clocked) : ClockedMove → Prop
  | .turn (.resume .refreshLoop env) =>
    ∀ stored ∈ s.sessions.loop.head? env s.sessions.stored, stored.isSome → env.armError = none
  | .turn (.resume .restore env) =>
    s.sessions.loop.state = .ticking →
      ∀ tokens ∈ s.sessions.restore.saves env, s.load.Covers s.systemNow tokens
  | .turn (.resume .authorize env) =>
    s.sessions.loop.state = .ticking →
      ∀ tokens ∈ s.sessions.authorize.saves env, s.load.Covers s.systemNow tokens
  | .turn (.serve _ _) => True
  | .pass now systemNow => s.load.InStep slack now systemNow

instance (slack : Duration) (s : Clocked) : (m : ClockedMove) → Decidable (s.KeepsArmed slack m)
  | .turn (.resume .refreshLoop env) =>
    inferInstanceAs (Decidable (∀ stored ∈ s.sessions.loop.head? env s.sessions.stored,
      stored.isSome → env.armError = none))
  | .turn (.resume .restore env) =>
    inferInstanceAs (Decidable (s.sessions.loop.state = .ticking →
      ∀ tokens ∈ s.sessions.restore.saves env, s.load.Covers s.systemNow tokens))
  | .turn (.resume .authorize env) =>
    inferInstanceAs (Decidable (s.sessions.loop.state = .ticking →
      ∀ tokens ∈ s.sessions.authorize.saves env, s.load.Covers s.systemNow tokens))
  | .turn (.serve _ _) => .isTrue trivial
  | .pass now systemNow => inferInstanceAs (Decidable (s.load.InStep slack now systemNow))

/-- A loop in `timer.tick()` has the timer that the last load at its head left, and the timer is
early enough for the token set in the store. -/
structure Ok (slack : Duration) (s : Clocked) : Prop where
  past : s.load.Past s.now
  inStep : s.load.InStep slack s.now s.systemNow
  timer : s.sessions.loop.state = .ticking → s.sessions.loop.timer = s.load.timer
  early : s.sessions.loop.state = .ticking →
    ∀ tokens ∈ s.sessions.stored, s.load.EarlyFor slack s.now tokens

theorem Ok.armed (h : s.Ok slack) : s.Armed slack := by
  intro hticking tokens htokens
  rw [h.timer hticking]
  exact (h.early hticking tokens htokens).deadline h.past h.inStep

theorem ok_start (slack : Duration) (stored : Option StoredTokenSet) (endpoint : Endpoint)
    (now : Instant) (systemNow : SystemTime) : (start stored endpoint now systemNow).Ok slack where
  past := trivial
  inStep := trivial
  timer hticking := by cases hticking
  early hticking := by cases hticking

theorem Ok.loop (h : s.Ok slack) {env : FlowEnv} {r : Resumed RefreshLoop}
    (hr : s.sessions.loop.Turned env s.sessions.stored r)
    (htimely : env.now = s.now ∧ env.systemNow = s.systemNow)
    (hkeeps : s.KeepsArmed slack (.turn (.resume .refreshLoop env))) :
    Ok slack { s with
      sessions := { s.sessions with loop := r.flow, stored := r.stored }
      load := s.loadAfter (.resume .refreshLoop env) } := by
  obtain ⟨hnow, hsystemNow⟩ := htimely
  cases hr with
  | @head stored' hhead hflow hstored =>
    have hload : s.loadAfter (.resume .refreshLoop env) = .atHead env stored' := by
      simp only [loadAfter, hhead, Option.elim_some]
    rw [hload, hflow, hstored, RefreshLoop.top_eq]
    refine ⟨?_, ?_, fun _ => rfl, fun _ tokens htokens => ?_⟩
    · show (Load.atHead env stored').Past s.now
      rw [← hnow]
      exact Load.past_atHead env stored'
    · show (Load.atHead env stored').InStep slack s.now s.systemNow
      rw [← hnow, ← hsystemNow]
      exact Load.inStep_atHead slack env stored'
    · obtain rfl : stored' = some tokens := htokens
      have harm : env.armError = none := hkeeps _ hhead rfl
      simp only [Load.atHead, harm]
      exact .inl (Int.le_refl _)
  | leaves hhead hstate =>
    have hload : s.loadAfter (.resume .refreshLoop env) = s.load := by
      simp only [loadAfter, hhead, Option.elim_none]
    rw [hload]
    exact ⟨h.past, h.inStep, fun hticking => absurd hticking hstate,
      fun hticking => absurd hticking hstate⟩
  | stays hhead hflow hstored =>
    have hload : s.loadAfter (.resume .refreshLoop env) = s.load := by
      simp only [loadAfter, hhead, Option.elim_none]
    rw [hload, hflow, hstored]
    exact h

theorem Ok.saved (h : s.Ok slack) {w : Sessions} {saves : Option StoredTokenSet}
    (hloop : w.loop = s.sessions.loop) (hsaved : Saved saves s.sessions.stored w.stored)
    (hkeeps : s.sessions.loop.state = .ticking →
      ∀ tokens ∈ saves, s.load.Covers s.systemNow tokens) :
    Ok slack { s with sessions := w } := by
  refine ⟨h.past, h.inStep, by rw [hloop]; exact h.timer, fun hticking tokens htokens => ?_⟩
  have hticking' : s.sessions.loop.state = .ticking := hloop ▸ hticking
  cases saves with
  | some saved =>
    obtain rfl : saved = tokens :=
      Option.some.inj ((show w.stored = some saved from hsaved).symm.trans htokens)
    exact (hkeeps hticking' saved rfl).earlyFor h.past h.inStep
  | none =>
    rcases (show w.stored = s.sessions.stored ∨ w.stored = none from hsaved) with he | he
    · exact h.early hticking' tokens (he ▸ htokens)
    · exact absurd (he.symm.trans htokens) (by simp)

theorem Ok.serve (h : s.Ok slack) (cfg : AuthConfig) (flow : Flow) (served : Served) :
    Ok slack { s with sessions := s.sessions.serve cfg flow served } := by
  cases flow with
  | refreshLoop =>
    simp only [Sessions.serve]
    split
    · exact ⟨h.past, h.inStep, by simp, by simp⟩
    · exact h
  | restore | authorize =>
    simp only [Sessions.serve]
    split <;> exact ⟨h.past, h.inStep, h.timer, h.early⟩

/-- **One step.** -/
theorem Ok.step (cfg : AuthConfig) {m : ClockedMove} (h : s.Ok slack) (htimely : s.Timely m)
    (hkeeps : s.KeepsArmed slack m) : (s.step cfg m).1.Ok slack := by
  cases m with
  | pass now systemNow =>
    exact ⟨h.past.mono htimely, hkeeps, h.timer,
      fun hticking tokens htokens => (h.early hticking tokens htokens).mono htimely⟩
  | turn t =>
    cases t with
    | serve flow served => exact h.serve cfg flow served
    | resume flow env =>
      cases flow with
      | refreshLoop =>
        exact h.loop (s.sessions.loop.turned cfg env s.sessions.stored) htimely hkeeps
      | restore =>
        exact h.saved rfl (s.sessions.restore.saved_resume cfg env s.sessions.stored) hkeeps
      | authorize =>
        exact h.saved rfl (s.sessions.authorize.saved_resume cfg env s.sessions.stored) hkeeps

end Clocked

/-- **Armed in time.** Take any interleaving of the three flows from the start of the worker,
whatever the store holds then, whatever is answered on the pipe and by the endpoint, and whenever
the store fails. If every step keeps the timer armed, then the refresh loop, whenever it is in
`timer.tick()` while the store holds a token set, has its timer armed with a deadline no later than
now or five minutes before the expiry, or later by what the wall clock may have gained at most. -/
theorem armed_of_keepsArmed (cfg : AuthConfig) (stored : Option StoredTokenSet)
    (endpoint : Endpoint) (now : Instant) (systemNow : SystemTime) (slack : Duration)
    {moves : List ClockedMove}
    (htimely : (clocked cfg).Along Clocked.Timely (.start stored endpoint now systemNow) moves)
    (hkeeps : (clocked cfg).Along (Clocked.KeepsArmed slack)
      (.start stored endpoint now systemNow) moves) (k : ℕ) :
    ((clocked cfg).run (.start stored endpoint now systemNow) (moves.take k)).Armed slack := by
  have hok : ((clocked cfg).run (.start stored endpoint now systemNow) (moves.take k)).Ok slack :=
    ((htimely.and hkeeps).take k).inv (fun _ _ h hstep => h.step cfg hstep.1 hstep.2)
      (Clocked.ok_start slack stored endpoint now systemNow)
  exact hok.armed

/-- A flow is told the time and this reply. -/
def replyAt (now : Instant) (systemNow : SystemTime) (reply : RpcMessage) : FlowEnv :=
  { FlowEnv.plain now systemNow with reply := .ok reply }

/-- `authorize_now`, called a minute after the loop, gets a token set and saves it. The wall clock
ticks while the monotonic one goes on by a nanosecond. -/
def reauthorizedMoves : List ClockedMove :=
  [.turn (.resume .refreshLoop (.plain 0 1)), .pass 60000000000 600000001,
    .turn (.resume .authorize (.plain 60000000000 600000001)),
    .turn (.resume .authorize (replyAt 60000000000 600000001
      ⟨none, none, some (.object [("code", .string "c")]), none, none, none⟩)),
    .turn (.serve .authorize (.grant ⟨"at-2", "rt-2", 604800⟩)),
    .turn (.resume .authorize (.plain 60000000000 600000001)), .pass 60000000001 600000002,
    .turn (.resume .authorize (replyAt 60000000001 600000002
      ⟨none, none, none, none, none, none⟩))]

/-- The worker starts with a good token set, and the user authorizes again: the timer is armed in
time for the new token set, up to a tick. -/
theorem armed_of_keepsArmed_reauthorized :
    let s := (clocked ⟨"client"⟩).run (.start (some newTokens) ⟨["rt-1"], []⟩ 0 1)
      reauthorizedMoves
    s.Armed 100 ∧ s.sessions.loop.state = .ticking ∧ s.sessions.stored ≠ some newTokens ∧
      s.sessions.stored ≠ none :=
  ⟨@armed_of_keepsArmed ⟨"client"⟩ (some newTokens) ⟨["rt-1"], []⟩ 0 1 100 reauthorizedMoves
    (by decide +kernel) (by decide +kernel) 8, by decide +kernel, by decide +kernel,
    by decide +kernel⟩

/-- A loop that waits with its timer disarmed waits forever, whatever is saved. -/
theorem run_disarmed (cfg : AuthConfig) {s : Clocked}
    (hs : s.sessions.loop = ⟨.disarm, .ticking⟩) (moves : List ClockedMove) :
    ((clocked cfg).run s moves).sessions.loop = ⟨.disarm, .ticking⟩ := by
  refine Machine.inv_run (M := clocked cfg)
    (I := fun s => s.sessions.loop = ⟨.disarm, .ticking⟩) ?_ hs moves
  intro s m hs
  cases m with
  | pass now systemNow => exact hs
  | turn t =>
    cases t with
    | resume flow env =>
      cases flow with
      | refreshLoop =>
        show (s.sessions.loop.resume cfg env s.sessions.stored).flow = _
        rw [hs]
        rfl
      | restore | authorize => exact hs
    | serve flow served =>
      cases flow with
      | refreshLoop =>
        simp only [Machine.next, clocked, Clocked.step, Sessions.step, Sessions.serve, hs]
      | restore | authorize =>
        simp only [Machine.next, clocked, Clocked.step, Sessions.step, Sessions.serve]
        split <;> exact hs

/-- The worker starts with an empty store, and the loop waits with its timer disarmed. The user
authorizes, and the new token set is saved: the loop is not armed for it, and never will be. -/
theorem authorize_leaves_timer_disarmed :
    let moves : List ClockedMove :=
      [.turn (.resume .refreshLoop (.plain 0 1)), .turn (.resume .authorize (.plain 0 1)),
        .turn (.resume .authorize
          (replyAt 0 1 ⟨none, none, some (.object [("code", .string "c")]), none, none, none⟩)),
        .turn (.serve .authorize (.grant ⟨"at-1", "rt-1", 604800⟩)),
        .turn (.resume .authorize (.plain 0 1)),
        .turn (.resume .authorize (replyAt 0 1 ⟨none, none, none, none, none, none⟩))]
    let start := Clocked.start none ⟨[], []⟩ 0 1
    let s := (clocked ⟨"client"⟩).run start moves
    (clocked ⟨"client"⟩).Along Clocked.Timely start moves ∧
      s.sessions.loop.state = .ticking ∧ s.sessions.stored = some newTokens ∧
      (∀ slack, ¬ s.Armed slack) ∧
      ∀ more, ((clocked ⟨"client"⟩).run s more).sessions.loop = ⟨.disarm, .ticking⟩ := by
  intro moves start s
  have hloop : s.sessions.loop = ⟨.disarm, .ticking⟩ := by decide +kernel
  have hstored : s.sessions.stored = some newTokens := by decide +kernel
  refine ⟨by decide +kernel, by rw [hloop], hstored, fun slack h => ?_,
    run_disarmed ⟨"client"⟩ hloop⟩
  obtain ⟨deadline, hdeadline, -⟩ := h (by rw [hloop]) newTokens hstored
  rw [hloop] at hdeadline
  cases hdeadline

end VoxShift.Discord
