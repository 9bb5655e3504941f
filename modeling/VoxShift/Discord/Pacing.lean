import VoxShift.Discord.Sessions

/-!
# How often the refresh loop asks

`run_refresh_loop` on a store and an endpoint that may do anything: each load gives
what it likes, whatever was saved or cleared before. The wall clock may be set at
will; the monotonic clock does not go back.

Where a request fails, and where the load before it fails, the loop sleeps for
`REFRESH_RETRY_DELAY`. Where a request has been answered by a token pair or by 400
it goes to its head without sleeping, and arms the timer for what the store then
gives — also if the new token set could not be saved, or the old one not cleared.

## What is proved

* `resume_eq_resumeAny` — the loop on its own store is the loop on any store.
* `Paced.Ok.step` — what a patient step preserves: the next request is at least
  `REFRESH_RETRY_DELAY` after the last.
* `requests_spaced` — patient runs keep the delay between requests, and an impatient
  step can be followed by a request that is too early.
* `failed_save_asks_again_at_once` — the endpoint is asked twice in one instant.
-/

namespace VoxShift.Discord

open VoxShift.Core VoxShift.Theory

/-! ### The loop on any store -/

/-- The form of a request to the endpoint. -/
def Action.form? : Action → Option Form
  | .post _ form => some form
  | .authorize _ | .authenticate _ | .save _ _ _ _ | .clear _ _ _ => none

/-- How long it is until five minutes before a token set's expiry. -/
def refreshIn (systemNow : SystemTime) (tokens : StoredTokenSet) : Duration :=
  match SystemTime.checkedSub tokens.expiresAt REFRESH_MARGIN with
  | some refreshAt => 100 * (refreshAt - systemNow).toNat
  | none => 0

theorem RefreshTimer.arm_eq (env : FlowEnv) (tokens : StoredTokenSet) :
    arm env tokens.expiresAt = ⟨some (env.now + refreshIn env.systemNow tokens)⟩ := by
  unfold arm refreshIn SystemTime.durationSince
  cases SystemTime.checkedSub tokens.expiresAt REFRESH_MARGIN with
  | none => simp
  | some refreshAt =>
    dsimp only [Option.getD_some]
    split_ifs with hle
    · rfl
    · have hzero : (refreshAt - env.systemNow).toNat = 0 :=
        Int.toNat_eq_zero.mpr (Int.sub_nonpos_of_le (Int.le_of_lt (Int.not_le.mp hle)))
      rw [hzero]
      rfl

/-- The answer sends the loop to its head without a sleep. -/
def rearms (systemNow : SystemTime) (response : Option HttpResponse) : Bool :=
  match postToken response with
  | .ok resp => (storeFromResponse systemNow resp).isSome
  | .error err => decide (err = .reauthorizationRequired)

namespace RefreshLoop

/-- `run_refresh_loop` up to the next suspension, with the forms it posts. The load before a request
gives `loaded`, the load at the head of the loop `armed`. -/
def resumeAny (cfg : AuthConfig) (env : FlowEnv) (loaded armed : Option StoredTokenSet)
    (l : RefreshLoop) : RefreshLoop × List Form :=
  match l.state with
  | .spawned => (top env armed, [])
  | .ticking =>
    if l.timer.fired env.now then
      match env.loadError with
      | some _ => ({ l with state := .sleeping (env.now + REFRESH_RETRY_DELAY) }, [])
      | none =>
        match loaded with
        | none => (top env armed, [])
        | some current =>
          ({ l with state := .refreshing current none },
            [refresh cfg.clientId current.refreshToken])
    else (l, [])
  | .refreshing _ none => (l, [])
  | .refreshing _ (some response) =>
    match postToken response with
    | .ok resp =>
      match storeFromResponse env.systemNow resp with
      | none => ({ l with state := .panicked }, [])
      | some _ => (top env armed, [])
    | .error err =>
      if err = .reauthorizationRequired then (top env armed, [])
      else ({ l with state := .sleeping (env.now + REFRESH_RETRY_DELAY) }, [])
  | .sleeping deadline => if deadline ≤ env.now then (top env armed, []) else (l, [])
  | .panicked => (l, [])

/-- **The loop on its own store** is the loop on any store, where the load before a request gives
what the store holds, and the load at the head what it holds by then. -/
theorem resume_eq_resumeAny (cfg : AuthConfig) (env : FlowEnv) (stored : Option StoredTokenSet)
    (l : RefreshLoop) :
    let r := l.resume cfg env stored
    l.resumeAny cfg env stored r.stored = (r.flow, r.actions.filterMap Action.form?) := by
  obtain ⟨timer, state⟩ := l
  cases state with
  | spawned | panicked => rfl
  | ticking =>
    simp only [resume, resumeAny]
    split_ifs
    · unfold ticked
      cases env.loadError with
      | some message => rfl
      | none => cases stored <;> rfl
    · rfl
  | refreshing current answer =>
    cases answer with
    | none => rfl
    | some response =>
      simp only [resume, resumeAny, refreshed]
      rcases postToken response with err | resp
      · dsimp only
        split_ifs <;> rfl
      · dsimp only
        cases storeFromResponse env.systemNow resp <;> rfl
  | sleeping deadline =>
    simp only [resume, resumeAny]
    split_ifs <;> rfl

/-- The loop, resumed now, may go to its head. -/
def Due (l : RefreshLoop) (env : FlowEnv) : Prop :=
  match l.state with
  | .spawned => True
  | .ticking => l.timer.fired env.now = true
  | .refreshing _ (some response) => rearms env.systemNow response = true
  | .sleeping deadline => deadline ≤ env.now
  | .refreshing _ none | .panicked => False

/-- What a turn of the loop can do. -/
inductive Goes (cfg : AuthConfig) (env : FlowEnv) (armed : Option StoredTokenSet)
    (l : RefreshLoop) : RefreshLoop × List Form → Prop where
  /-- Nothing. -/
  | stays : Goes cfg env armed l (l, [])
  /-- It goes to its head, and arms the timer. -/
  | head (hdue : l.Due env) : Goes cfg env armed l (top env armed, [])
  /-- It goes to sleep. -/
  | sleeps :
      Goes cfg env armed l ({ l with state := .sleeping (env.now + REFRESH_RETRY_DELAY) }, [])
  /-- Its timer has fired, and it posts a request. -/
  | asks (current : StoredTokenSet) (hticking : l.state = .ticking)
      (hfired : l.timer.fired env.now = true) :
      Goes cfg env armed l
        ({ l with state := .refreshing current none }, [refresh cfg.clientId current.refreshToken])
  /-- The addition to the wall clock overflows. -/
  | panics : Goes cfg env armed l ({ l with state := .panicked }, [])

theorem resumeAny_goes (cfg : AuthConfig) (env : FlowEnv) (loaded armed : Option StoredTokenSet)
    (l : RefreshLoop) : l.Goes cfg env armed (l.resumeAny cfg env loaded armed) := by
  obtain ⟨timer, state⟩ := l
  cases state with
  | spawned => exact .head trivial
  | panicked => exact .stays
  | ticking =>
    simp only [resumeAny]
    split_ifs with hfired
    · cases env.loadError with
      | some message => exact .sleeps
      | none =>
        cases loaded with
        | none => exact .head hfired
        | some current => exact .asks current rfl hfired
    · exact .stays
  | refreshing current answer =>
    cases answer with
    | none => exact .stays
    | some response =>
      simp only [resumeAny]
      rcases hpost : postToken response with err | resp
      · dsimp only
        split_ifs with hreject
        · refine .head ?_
          simp only [Due, rearms, hpost, hreject, decide_true]
        · exact .sleeps
      · dsimp only
        cases htokens : storeFromResponse env.systemNow resp with
        | none => exact .panics
        | some tokens =>
          refine .head ?_
          simp only [Due, rearms, hpost, htokens, Option.isSome_some]
  | sleeping deadline =>
    simp only [resumeAny]
    split_ifs with hwoken
    · exact .head hwoken
    · exact .stays

/-- An answer sends the loop to its head. -/
theorem resumeAny_of_rearms (cfg : AuthConfig) {env : FlowEnv}
    (loaded armed : Option StoredTokenSet) {l : RefreshLoop} {current : StoredTokenSet}
    {response : Option HttpResponse} (hstate : l.state = .refreshing current (some response))
    (hrearms : rearms env.systemNow response = true) :
    l.resumeAny cfg env loaded armed = (top env armed, []) := by
  simp only [resumeAny, hstate]
  unfold rearms at hrearms
  rcases hpost : postToken response with err | resp
  · rw [hpost] at hrearms
    exact if_pos (of_decide_eq_true hrearms)
  · rw [hpost] at hrearms
    obtain ⟨tokens, htokens⟩ := Option.isSome_iff_exists.mp hrearms
    simp only [htokens]

theorem deadline_top {env : FlowEnv} {armed : Option StoredTokenSet} {deadline : Instant}
    (h : (top env armed).timer.deadline = some deadline) :
    ∃ tokens, env.armError = none ∧ armed = some tokens ∧
      deadline = env.now + refreshIn env.systemNow tokens := by
  unfold top at h
  cases harm : env.armError with
  | some message =>
    rw [harm] at h
    cases h
  | none =>
    rw [harm] at h
    cases armed with
    | none => cases h
    | some tokens =>
      simp only [RefreshTimer.arm_eq, Option.some.injEq] at h
      exact ⟨tokens, rfl, rfl, h.symm⟩

/-- The next request is not before `t`. -/
def NotBefore (l : RefreshLoop) (t : Instant) : Prop :=
  match l.state with
  -- the loop has not asked yet
  | .spawned => False
  | .ticking => ∀ deadline, l.timer.deadline = some deadline → t ≤ deadline
  | .sleeping deadline => t ≤ deadline
  | .refreshing _ _ | .panicked => True

end RefreshLoop

/-! ### The loop in time -/

/-- The loop, the monotonic clock, and when the last request was made. -/
structure Paced where
  loop : RefreshLoop
  clock : Instant
  asked : Option Instant

/-- What happens next. -/
inductive PacedMove where
  /-- The loop is resumed; what its loads give. -/
  | resume (env : FlowEnv) (loaded armed : Option StoredTokenSet)
  /-- The endpoint answers, or the request gets no answer. -/
  | answer (response : Option HttpResponse)

/-- A loop that was last sent a token pair or a 400 and is now given a token set to arm its timer
for is given one that need not be refreshed within `REFRESH_RETRY_DELAY` of the request. -/
def LoopState.Patient (asked : Option Instant) (env : FlowEnv) (armed : Option StoredTokenSet) :
    LoopState → Prop
  | .refreshing _ (some response) =>
    rearms env.systemNow response = true → env.armError = none → ∀ tokens ∈ armed, ∀ t ∈ asked,
      t + REFRESH_RETRY_DELAY ≤ env.now + refreshIn env.systemNow tokens
  | .refreshing _ none | .spawned | .ticking | .sleeping _ | .panicked => True

instance (asked : Option Instant) (env : FlowEnv) (armed : Option StoredTokenSet) :
    (state : LoopState) → Decidable (state.Patient asked env armed)
  | .refreshing _ (some response) =>
    inferInstanceAs (Decidable (rearms env.systemNow response = true → env.armError = none →
      ∀ tokens ∈ armed, ∀ t ∈ asked,
        t + REFRESH_RETRY_DELAY ≤ env.now + refreshIn env.systemNow tokens))
  | .refreshing _ none | .spawned | .ticking | .sleeping _ | .panicked => .isTrue trivial

namespace Paced

/-- The task just spawned. -/
def start : Paced := ⟨.new, 0, none⟩

/-- One move; it emits when a request is made. -/
def step (cfg : AuthConfig) (s : Paced) : PacedMove → Paced × List Instant
  | .resume env loaded armed =>
    let r := s.loop.resumeAny cfg env loaded armed
    let requests := r.2.map fun _ => env.now
    (⟨r.1, env.now, requests.getLast?.or s.asked⟩, requests)
  | .answer response =>
    match s.loop.state with
    | .refreshing current none =>
      ({ s with loop := { s.loop with state := .refreshing current (some response) } }, [])
    | _ => (s, [])

/-- The monotonic clock does not go back. -/
def Monotone (s : Paced) : PacedMove → Prop
  | .resume env _ _ => s.clock ≤ env.now
  | .answer _ => True

instance (s : Paced) : (m : PacedMove) → Decidable (s.Monotone m)
  | .resume env _ _ => inferInstanceAs (Decidable (s.clock ≤ env.now))
  | .answer _ => .isTrue trivial

/-- The loop is patient when it is resumed. -/
def Patient (s : Paced) : PacedMove → Prop
  | .resume env _ armed => s.loop.state.Patient s.asked env armed
  | .answer _ => True

instance (s : Paced) : (m : PacedMove) → Decidable (s.Patient m)
  | .resume env _ armed => inferInstanceAs (Decidable (s.loop.state.Patient s.asked env armed))
  | .answer _ => .isTrue trivial

/-- The last request is in the past, and the next one `REFRESH_RETRY_DELAY` after it. -/
def Ok (s : Paced) : Prop :=
  ∀ t, s.asked = some t → t ≤ s.clock ∧ s.loop.NotBefore (t + REFRESH_RETRY_DELAY)

theorem ok_start : start.Ok := nofun

end Paced

/-- The loop in time as a machine. -/
def paced (cfg : AuthConfig) : Machine Paced PacedMove Instant where
  step := Paced.step cfg

/-- Any two consecutive requests are at least `REFRESH_RETRY_DELAY` apart. -/
def Spaced (requests : List Instant) : Prop :=
  List.IsChain (fun t t' => t + REFRESH_RETRY_DELAY ≤ t') requests

theorem paced_remembers (cfg : AuthConfig) : (paced cfg).Remembers Paced.asked := by
  intro s m
  cases m with
  | resume env loaded armed => rfl
  | answer response =>
    simp only [Machine.next, Machine.out, paced, Paced.step]
    split <;> rfl

namespace Paced

variable {s : Paced} {m : PacedMove}

theorem le_of_fired {l : RefreshLoop} {t now : Instant} (hnext : l.NotBefore t)
    (hticking : l.state = .ticking) (hfired : l.timer.fired now = true) : t ≤ now := by
  unfold RefreshTimer.fired at hfired
  cases hdeadline : l.timer.deadline with
  | none =>
    rw [hdeadline] at hfired
    cases hfired
  | some deadline =>
    rw [hdeadline] at hfired
    rw [RefreshLoop.NotBefore, hticking] at hnext
    exact (hnext deadline hdeadline).trans (of_decide_eq_true hfired)

/-- A loop that goes to its head waits long enough there. -/
theorem notBefore_top {env : FlowEnv} {loaded armed : Option StoredTokenSet} (h : s.Ok)
    (hpatient : s.Patient (.resume env loaded armed)) (hdue : s.loop.Due env) {t : Instant}
    (ht : s.asked = some t) :
    (RefreshLoop.top env armed).NotBefore (t + REFRESH_RETRY_DELAY) := by
  have hnext := (h t ht).2
  intro deadline hdeadline
  obtain ⟨tokens, harm, harmed, rfl⟩ := RefreshLoop.deadline_top hdeadline
  cases hstate : s.loop.state with
  | spawned =>
    rw [RefreshLoop.NotBefore, hstate] at hnext
    exact hnext.elim
  | ticking =>
    rw [RefreshLoop.Due, hstate] at hdue
    exact (le_of_fired hnext hstate hdue).trans (Nat.le_add_right _ _)
  | sleeping woken =>
    rw [RefreshLoop.Due, hstate] at hdue
    rw [RefreshLoop.NotBefore, hstate] at hnext
    exact (hnext.trans hdue).trans (Nat.le_add_right _ _)
  | refreshing current answer =>
    cases answer with
    | none =>
      rw [RefreshLoop.Due, hstate] at hdue
      exact hdue.elim
    | some response =>
      rw [RefreshLoop.Due, hstate] at hdue
      rw [Patient, hstate] at hpatient
      exact hpatient hdue harm tokens harmed t ht
  | panicked =>
    rw [RefreshLoop.Due, hstate] at hdue
    exact hdue.elim

/-- **One patient move** keeps the invariant. -/
theorem Ok.step (h : s.Ok) (cfg : AuthConfig) (hclock : s.Monotone m) (hpatient : s.Patient m) :
    (s.step cfg m).1.Ok := by
  cases m with
  | resume env loaded armed =>
    have hgoes := RefreshLoop.resumeAny_goes cfg env loaded armed s.loop
    have hpast : ∀ {t}, s.asked = some t → t ≤ env.now := fun ht => (h _ ht).1.trans hclock
    simp only [Paced.step]
    generalize s.loop.resumeAny cfg env loaded armed = r at hgoes
    cases hgoes with
    | stays => exact fun t ht => ⟨hpast ht, (h t ht).2⟩
    | head hdue => exact fun t ht => ⟨hpast ht, notBefore_top h hpatient hdue ht⟩
    | sleeps => exact fun t ht => ⟨hpast ht, Nat.add_le_add_right (hpast ht) _⟩
    | asks current hticking hfired =>
      intro t ht
      obtain rfl : env.now = t := Option.some.inj ht
      exact ⟨le_rfl, trivial⟩
    | panics => exact fun t ht => ⟨hpast ht, trivial⟩
  | answer response =>
    simp only [Paced.step]
    split
    · exact fun t ht => ⟨(h t ht).1, trivial⟩
    · exact h

theorem Ok.isChain_out (h : s.Ok) (cfg : AuthConfig) (m : PacedMove) :
    Spaced (s.asked.toList ++ (s.step cfg m).2) := by
  have hsilent : Spaced (s.asked.toList ++ []) := by
    cases s.asked with
    | none => exact .nil
    | some t => exact .singleton t
  cases m with
  | resume env loaded armed =>
    have hgoes := RefreshLoop.resumeAny_goes cfg env loaded armed s.loop
    simp only [Paced.step]
    generalize s.loop.resumeAny cfg env loaded armed = r at hgoes
    cases hgoes with
    | stays | head | sleeps | panics => exact hsilent
    | asks current hticking hfired =>
      cases ht : s.asked with
      | none => exact .singleton _
      | some t => exact List.isChain_pair.mpr (le_of_fired (h t ht).2 hticking hfired)
  | answer response =>
    simp only [Paced.step]
    split <;> exact hsilent

/-- After an impatient move the timer fires too early. -/
theorem exists_early_request (cfg : AuthConfig) (s : Paced) (h : ¬ s.Patient m) :
    (s.step cfg m).2 = [] ∧ ∃ t, s.asked = some t ∧
      ∃ m', (s.step cfg m).1.Monotone m' ∧
        ∃ t', ((s.step cfg m).1.step cfg m').2 = [t'] ∧ t' < t + REFRESH_RETRY_DELAY := by
  cases m with
  | answer response => exact absurd trivial h
  | resume env loaded armed =>
    cases hstate : s.loop.state with
    | spawned | ticking | sleeping | panicked => simp [Patient, LoopState.Patient, hstate] at h
    | refreshing current answer =>
      cases answer with
      | none => simp [Patient, LoopState.Patient, hstate] at h
      | some response =>
        simp only [Patient, LoopState.Patient, hstate, Classical.not_imp, not_forall,
          Nat.not_le] at h
        obtain ⟨hrearms, harm, tokens, rfl, t, ht, hearly⟩ := h
        have hloop := RefreshLoop.resumeAny_of_rearms cfg loaded (some tokens) hstate hrearms
        have htimer : (RefreshLoop.top env (some tokens)).timer.deadline =
            some (env.now + refreshIn env.systemNow tokens) := by
          simp only [RefreshLoop.top, harm, RefreshTimer.arm_eq]
        simp only [Paced.step, hloop, List.map_nil]
        refine ⟨trivial, t, ht, .resume (.plain (env.now + refreshIn env.systemNow tokens) 0)
          (some tokens) none, Nat.le_add_right _ _, _, ?_, hearly⟩
        have hfired : (RefreshLoop.top env (some tokens)).timer.fired
            (env.now + refreshIn env.systemNow tokens) = true := by
          simp [RefreshTimer.fired, htimer]
        have hticking : (RefreshLoop.top env (some tokens)).state = .ticking := rfl
        simp only [RefreshLoop.resumeAny, hticking, FlowEnv.plain, hfired, if_true, List.map_cons,
          List.map_nil]

end Paced

/-- **The delay between requests, exactly.** Take any run of the refresh loop on a clock that does
not go back, whatever its loads, its saves and its clears come to, whatever the endpoint answers,
and wherever the wall clock is set.

* If every step is patient, any two consecutive requests are at least `REFRESH_RETRY_DELAY` apart.
* A step that is not can be followed at once by a request that is too early. -/
theorem requests_spaced (cfg : AuthConfig) {moves : List PacedMove}
    (hclock : (paced cfg).Along Paced.Monotone .start moves) :
    ((paced cfg).Along Paced.Patient .start moves → Spaced ((paced cfg).outs .start moves)) ∧
    ∀ m, let s := (paced cfg).run .start moves
      s.Monotone m → ¬ s.Patient m →
      ∃ m', ((paced cfg).next s m).Monotone m' ∧
        ¬ Spaced ((paced cfg).outs .start (moves ++ [m, m'])) := by
  refine ⟨?_, ?_⟩
  · intro hpatient
    exact (paced_remembers cfg).isChain (I := Paced.Ok)
      (P := fun s m => s.Monotone m ∧ s.Patient m) (fun _ _ h hm => h.step cfg hm.1 hm.2)
      (fun _ m h _ => h.isChain_out cfg m) (hclock.and hpatient) Paced.ok_start
  · intro m s _ himpatient
    obtain ⟨hsilent, t, ht, m', hmonotone, t', hrequest, hearly⟩ :=
      Paced.exists_early_request cfg s himpatient
    refine ⟨m', hmonotone, fun hspaced => ?_⟩
    have hlast : ((paced cfg).outs .start moves).getLast? = some t := by
      have hrun := (paced_remembers cfg).run .start moves
      rw [ht] at hrun
      simpa [Paced.start] using hrun.symm
    have houts : (paced cfg).outs .start (moves ++ [m, m']) =
        (paced cfg).outs .start moves ++ [t'] := by
      have htail : (paced cfg).outs s [m, m'] = [t'] := by
        show (s.step cfg m).2 ++ (((s.step cfg m).1.step cfg m').2 ++ []) = [t']
        rw [hsilent, hrequest]
        rfl
      rw [Machine.outs_append, htail]
    rw [houts] at hspaced
    have hgap : t + REFRESH_RETRY_DELAY ≤ t' :=
      (List.isChain_append.mp hspaced).2.2 t hlast t' rfl
    exact absurd hearly (Nat.not_lt.mpr hgap)

/-- The loop starts on a token set that is to be refreshed, and its timer fires at once. -/
def firstRequest : List PacedMove :=
  [.resume (.plain 0 1) none (some expiredTokens), .resume (.plain 0 1) (some expiredTokens) none]

/-- The endpoint cannot be reached, and is asked again after `REFRESH_RETRY_DELAY`. -/
theorem requests_spaced_unreachable :
    let moves := firstRequest ++ [.answer none, .resume (.plain 0 1) none none,
      .resume (.plain REFRESH_RETRY_DELAY 600000001) none (some expiredTokens),
      .resume (.plain REFRESH_RETRY_DELAY 600000001) (some expiredTokens) none]
    (paced ⟨"client"⟩).outs .start moves = [0, REFRESH_RETRY_DELAY] ∧
      Spaced ((paced ⟨"client"⟩).outs .start moves) := by
  intro moves
  have hclock : (paced ⟨"client"⟩).Along Paced.Monotone .start moves := by decide +kernel
  exact ⟨by decide +kernel, (requests_spaced ⟨"client"⟩ hclock).1 (by decide +kernel)⟩

/-- The endpoint returns a new token pair, which cannot be saved; the store still holds the old
token set, and the loop posts it again, in the same instant. -/
theorem failed_save_asks_again_at_once :
    let moves := firstRequest ++ [.answer (some ⟨200, some ⟨"at-1", "rt-1", 604800⟩⟩),
      .resume { FlowEnv.plain 0 1 with saveError := some "denied" } none (some expiredTokens),
      .resume (.plain 0 1) (some expiredTokens) none]
    (paced ⟨"client"⟩).Along Paced.Monotone .start moves ∧
      (paced ⟨"client"⟩).outs .start moves = [0, 0] ∧ ¬ Spaced [0, 0] := by
  refine ⟨by decide +kernel, by decide +kernel, fun hspaced => ?_⟩
  exact absurd (List.isChain_pair.mp hspaced) (by decide)

end VoxShift.Discord
