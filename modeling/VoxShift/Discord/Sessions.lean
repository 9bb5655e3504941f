import VoxShift.Discord.Auth
import VoxShift.Theory.Machine

/-!
# One token store, three flows

`run_refresh_loop`, `try_restore_session` and `authorize_now` share one token
store and one token endpoint, and give way to each other at their `await` points.

A refresh loads a token set, presents its refresh token to the endpoint, and saves
the new set or clears the store when the endpoint answers. Nothing keeps another
flow from writing the store in the meantime.

## The endpoint

The endpoint accepts a refresh token once, replaces it by the one in its response,
and answers 400 to any other (`Endpoint.serve`). It may also refuse a request, or
its answer may be lost.

## What is proved

* `Endpoint.serve_spent` — a refresh token once accepted is never accepted again.
* `refresh_writes_own` — in every run in which no flow is resumed to a write while
  another refresh is under way, every save and clear of a refresh acts on a store
  that holds the token set it presented.
* `overlap_reaches_foreign_write` — wherever the store has been changed under a refresh
  that may yet write it, the run can go on to a write that is not its own.
* `stale_rejection_clears_new_tokens` — at start-up, with an expired token, the
  refresh loop and the restored session refresh together, and the one that is
  rejected clears what the other has saved.
-/

namespace VoxShift.Discord

open VoxShift.Core VoxShift.Theory

/-! ### The endpoint -/

/-- The refresh tokens the endpoint accepts, and those it has accepted. -/
structure Endpoint where
  live : List String
  spent : List String
  deriving DecidableEq, Repr

/-- What becomes of a request. -/
inductive Served where
  /-- It is granted, with this response, if it can be. -/
  | grant (resp : TokenResponse)
  /-- It is granted if it can be, and the answer is lost. -/
  | lost (resp : TokenResponse)
  /-- It is answered with an error status. -/
  | refuse (status : ℕ)
  /-- It does not reach the endpoint. -/
  | unreachable
  deriving DecidableEq, Repr

namespace Endpoint

/-- The endpoint's new refresh token is one it has not given out before. -/
def Fresh (e : Endpoint) (resp : TokenResponse) : Prop :=
  resp.refreshToken ∉ e.live ∧ resp.refreshToken ∉ e.spent

instance (e : Endpoint) (resp : TokenResponse) : Decidable (e.Fresh resp) :=
  inferInstanceAs (Decidable (_ ∧ _))

/-- A request is granted: a live refresh token is replaced, a code gives a new one. -/
def grant (e : Endpoint) (form : Form) (resp : TokenResponse) : Endpoint × HttpResponse :=
  match form.lookup "refresh_token" with
  | none => ({ e with live := resp.refreshToken :: e.live }, ⟨200, some resp⟩)
  | some token =>
    if token ∈ e.live then
      (⟨resp.refreshToken :: e.live.erase token, token :: e.spent⟩, ⟨200, some resp⟩)
    else (e, ⟨400, none⟩)

/-- What becomes of a request, and the answer that arrives. -/
def serve (e : Endpoint) (form : Form) : Served → Endpoint × Option HttpResponse
  | .grant resp =>
    if e.Fresh resp then ((e.grant form resp).1, some (e.grant form resp).2) else (e, none)
  | .lost resp => if e.Fresh resp then ((e.grant form resp).1, none) else (e, none)
  | .refuse status => (e, some ⟨status, none⟩)
  | .unreachable => (e, none)

/-- The live tokens are distinct and none is spent. -/
structure Ok (e : Endpoint) : Prop where
  nodup : e.live.Nodup
  disjoint : ∀ token ∈ e.spent, token ∉ e.live

/-- Serving a request keeps spent tokens out of the live ones. -/
theorem Ok.serve {e : Endpoint} (h : Ok e) (form : Form) (s : Served) : Ok (e.serve form s).1 := by
  have hgrant : ∀ resp, e.Fresh resp → Ok (e.grant form resp).1 := by
    rintro resp ⟨hlive, hspent⟩
    unfold grant
    split
    · refine ⟨List.nodup_cons.mpr ⟨hlive, h.nodup⟩, fun token ht hmem => ?_⟩
      rcases List.mem_cons.mp hmem with rfl | hmem
      · exact hspent ht
      · exact h.disjoint token ht hmem
    · split_ifs with hmem
      · next token _ =>
        refine ⟨List.nodup_cons.mpr ⟨fun hm => hlive (List.mem_of_mem_erase hm),
          h.nodup.erase token⟩, ?_⟩
        intro t ht hm
        rcases List.mem_cons.mp ht with rfl | ht
        · rcases List.mem_cons.mp hm with rfl | hm
          · exact hlive hmem
          · exact h.nodup.not_mem_erase hm
        · rcases List.mem_cons.mp hm with rfl | hm
          · exact hspent ht
          · exact h.disjoint t ht (List.mem_of_mem_erase hm)
      · exact h
  cases s with
  | grant resp | lost resp =>
    simp only [Endpoint.serve]
    split_ifs with hfresh
    · exact hgrant resp hfresh
    · exact h
  | refuse status | unreachable => exact h

/-- **A spent refresh token is never accepted**: whatever is answered to a request that presents
one, it is no success with a token response. -/
theorem serve_spent {e : Endpoint} (h : Ok e) {clientId token : String} (ht : token ∈ e.spent)
    (s : Served)
    {response : HttpResponse} (hr : (e.serve (refresh clientId token) s).2 = some response) :
    response.json = none := by
  have hnot := h.disjoint token ht
  have hlookup : (refresh clientId token).lookup "refresh_token" = some token := by
    rfl
  cases s with
  | grant resp =>
    simp only [Endpoint.serve, Endpoint.grant, hlookup, if_neg hnot] at hr
    split_ifs at hr
    · simp only [Option.some.injEq] at hr
      rw [← hr]
  | lost resp =>
    simp only [Endpoint.serve] at hr
    split_ifs at hr
  | refuse status =>
    simp only [Endpoint.serve, Option.some.injEq] at hr
    rw [← hr]
  | unreachable => cases hr

end Endpoint

/-! ### The three flows -/

/-- The store, the endpoint and the flows. -/
structure Sessions where
  stored : Option StoredTokenSet
  endpoint : Endpoint
  loop : RefreshLoop
  restore : RestoreState
  authorize : AuthorizeState

/-- What happens next. -/
inductive Turn where
  /-- A flow is resumed. -/
  | resume (flow : Flow) (env : FlowEnv)
  /-- The endpoint answers the request a flow waits for. -/
  | serve (flow : Flow) (served : Served)

namespace Sessions

/-- The endpoint answers the request a flow waits for, if there is one. -/
def serve (cfg : AuthConfig) (w : Sessions) (flow : Flow) (served : Served) : Sessions :=
  match flow with
  | .refreshLoop =>
    match w.loop.state with
    | .refreshing current none =>
      let (endpoint, answer) := w.endpoint.serve (refresh cfg.clientId current.refreshToken) served
      { w with
        endpoint := endpoint
        loop := { w.loop with state := .refreshing current (some answer) } }
    | _ => w
  | .restore =>
    match w.restore with
    | .refreshing current none =>
      let (endpoint, answer) := w.endpoint.serve (refresh cfg.clientId current.refreshToken) served
      { w with endpoint := endpoint, restore := .refreshing current (some answer) }
    | _ => w
  | .authorize =>
    match w.authorize with
    | .exchanging code verifier none =>
      let (endpoint, answer) := w.endpoint.serve (exchangeCode cfg.clientId code verifier) served
      { w with endpoint := endpoint, authorize := .exchanging code verifier (some answer) }
    | _ => w

/-- One turn. -/
def step (cfg : AuthConfig) (w : Sessions) : Turn → Sessions × List Action
  | .resume .refreshLoop env =>
    let r := w.loop.resume cfg env w.stored
    ({ w with loop := r.flow, stored := r.stored }, r.actions)
  | .resume .restore env =>
    let r := w.restore.resume cfg env w.stored
    ({ w with restore := r.flow, stored := r.stored }, r.actions)
  | .resume .authorize env =>
    let r := w.authorize.resume cfg env w.stored
    ({ w with authorize := r.flow, stored := r.stored }, r.actions)
  | .serve flow served => (w.serve cfg flow served, [])

end Sessions

/-- The flows as a machine; it emits their actions. -/
def sessions (cfg : AuthConfig) : Machine Sessions Turn Action where
  step := Sessions.step cfg

/-- Where the worker starts, with what the store holds: the refresh loop is spawned, and nothing
else runs. -/
def Sessions.start (stored : Option StoredTokenSet) (endpoint : Endpoint) : Sessions where
  stored := stored
  endpoint := endpoint
  loop := .new
  restore := .idle none
  authorize := .idle none

/-! ### Writes of a refresh -/

/-- The token set a refresh has loaded and not yet answered for in the store. -/
def RefreshLoop.held (l : RefreshLoop) : Option StoredTokenSet :=
  match l.state with
  | .refreshing current _ => some current
  | .spawned | .ticking | .sleeping _ | .panicked => none

/-- The token set a refresh has loaded and not yet answered for in the store. -/
def RestoreState.held : RestoreState → Option StoredTokenSet
  | .authenticating tokens => some tokens
  | .refreshing current _ => some current
  | .authenticatingNew current _ => some current
  | .idle _ | .authenticatingCached _ | .panicked => none

/-- The answer of the endpoint makes the refresh loop write the store. -/
def writesAfter (result : Except AuthError TokenResponse) : Bool :=
  match result with
  | .ok _ => true
  | .error err => decide (err = .reauthorizationRequired)

/-- The loop, resumed now, writes the store. -/
def RefreshLoop.writes (l : RefreshLoop) : Bool :=
  match l.state with
  | .refreshing _ answer => answer.any fun response => writesAfter (postToken response)
  | .spawned | .ticking | .sleeping _ | .panicked => false

/-- The restored session, resumed now with this reply, writes the store. -/
def RestoreState.writes (env : FlowEnv) : RestoreState → Bool
  | .refreshing _ answer =>
    answer.any fun response => decide (postToken response = .error .reauthorizationRequired)
  | .authenticatingNew _ _ => (authenticate env.reply).isOk
  | .idle _ | .authenticating _ | .authenticatingCached _ | .panicked => false

/-- The authorization, resumed now with this reply, writes the store. -/
def AuthorizeState.writes (env : FlowEnv) : AuthorizeState → Bool
  | .authenticating _ => (authenticate env.reply).isOk
  | .idle _ | .authorizing _ | .exchanging _ _ _ | .panicked => false

/-- No flow is resumed to a write while another refresh is under way. -/
def Exclusive (w : Sessions) : Turn → Prop
  | .resume .refreshLoop _ => w.loop.writes = true → w.restore.held = none
  | .resume .restore env => w.restore.writes env = true → w.loop.held = none
  | .resume .authorize env =>
    w.authorize.writes env = true → w.loop.held = none ∧ w.restore.held = none
  | .serve _ _ => True

instance (w : Sessions) : (t : Turn) → Decidable (Exclusive w t)
  | .resume .refreshLoop _ =>
    inferInstanceAs (Decidable (w.loop.writes = true → w.restore.held = none))
  | .resume .restore env =>
    inferInstanceAs (Decidable (w.restore.writes env = true → w.loop.held = none))
  | .resume .authorize env =>
    inferInstanceAs
      (Decidable (w.authorize.writes env = true → w.loop.held = none ∧ w.restore.held = none))
  | .serve _ _ => .isTrue trivial

/-- A save or a clear of a refresh finds in the store the token set it presented. -/
def Action.WritesOwn : Action → Prop
  | .save _ (some presented) _ found => found = some presented
  | .clear _ presented found => found = some presented
  | .save _ none _ _ | .authorize _ | .authenticate _ | .post _ _ => True

/-- What a refresh holds is what the store holds. -/
def Holds (held stored : Option StoredTokenSet) : Prop :=
  ∀ tokens, held = some tokens → stored = some tokens

/-- What holds after a flow is resumed: the flow holds what the store holds, the store is as it was
unless the flow was to write it, and a write found what the flow presented. -/
structure Keeps {φ : Type} (held : φ → Option StoredTokenSet) (stored : Option StoredTokenSet)
    (writes : Bool)
    (r : Resumed φ) : Prop where
  holds : Holds (held r.flow) r.stored
  stored : writes = false → r.stored = stored
  own : ∀ a ∈ r.actions, a.WritesOwn

theorem Keeps.of_none {φ : Type} {held : φ → Option StoredTokenSet} {stored : Option StoredTokenSet}
    {writes : Bool} {r : Resumed φ} (hheld : held r.flow = none)
    (hstored : writes = false → r.stored = stored)
    (hown : ∀ a ∈ r.actions, a.WritesOwn) : Keeps held stored writes r :=
  ⟨fun tokens ht => by simp [hheld] at ht, hstored, hown⟩

theorem RefreshLoop.keeps_ticked (cfg : AuthConfig) (env : FlowEnv) (stored : Option StoredTokenSet)
    (l : RefreshLoop) : Keeps RefreshLoop.held stored false (l.ticked cfg env stored) := by
  unfold ticked
  rcases env.loadError with _ | message
  · rcases stored with _ | current
    · exact .of_none rfl (fun _ => rfl) (by simp)
    · exact ⟨fun tokens ht => ht, fun _ => rfl, by simp [Action.WritesOwn]⟩
  · exact .of_none rfl (fun _ => rfl) (by simp)

theorem RefreshLoop.keeps_refreshed (env : FlowEnv) (l : RefreshLoop) (current : StoredTokenSet)
    (result : Except AuthError TokenResponse) :
    Keeps RefreshLoop.held (some current) (writesAfter result)
      (l.refreshed env (some current) current result) := by
  unfold refreshed
  rcases result with err | resp
  · dsimp only
    split_ifs with herr
    · exact .of_none rfl (fun hw => by simp [writesAfter, herr] at hw) (by simp [Action.WritesOwn])
    · exact .of_none rfl (fun _ => rfl) (by simp)
  · dsimp only
    rcases storeFromResponse env.systemNow resp with _ | tokens
    · exact .of_none rfl (fun _ => rfl) (by simp)
    · exact .of_none rfl (fun hw => by simp [writesAfter] at hw) (by simp [Action.WritesOwn])

theorem RefreshLoop.keeps_resume (cfg : AuthConfig) (env : FlowEnv) {stored : Option StoredTokenSet}
    {l : RefreshLoop} (h : Holds l.held stored) :
    Keeps RefreshLoop.held stored l.writes (l.resume cfg env stored) := by
  obtain ⟨timer, state⟩ := l
  cases state with
  | spawned => exact .of_none rfl (fun _ => rfl) (by simp [resume])
  | panicked => exact .of_none rfl (fun _ => rfl) (by simp [resume])
  | sleeping deadline =>
    simp only [resume]
    split_ifs
    · exact .of_none rfl (fun _ => rfl) (by simp)
    · exact .of_none rfl (fun _ => rfl) (by simp)
  | ticking =>
    simp only [resume]
    split_ifs
    · exact keeps_ticked cfg env stored _
    · exact .of_none rfl (fun _ => rfl) (by simp)
  | refreshing current answer =>
    obtain rfl : stored = some current := h current rfl
    rcases answer with _ | response
    · exact ⟨h, fun _ => rfl, by simp [resume]⟩
    · exact keeps_refreshed env _ current (postToken response)

theorem RestoreState.keeps_call (cfg : AuthConfig) (env : FlowEnv)
    (stored : Option StoredTokenSet) :
    Keeps RestoreState.held stored false (call cfg env stored) := by
  unfold call
  rcases env.loadError with _ | message
  · rcases stored with _ | tokens
    · exact .of_none rfl (fun _ => rfl) (by simp)
    · dsimp only
      split_ifs
      · exact ⟨fun _ ht => ht, fun _ => rfl, by simp [Action.WritesOwn]⟩
      · exact ⟨fun _ ht => ht, fun _ => rfl, by simp [tryRefresh, Action.WritesOwn]⟩
  · exact .of_none rfl (fun _ => rfl) (by simp)

theorem RestoreState.keeps_refreshed (env : FlowEnv) (current : StoredTokenSet)
    (result : Except AuthError TokenResponse) :
    Keeps RestoreState.held (some current) (decide (result = .error .reauthorizationRequired))
      (refreshed env (some current) current result) := by
  unfold refreshed
  rcases result with err | resp
  · dsimp only
    split_ifs with herr
    · exact .of_none rfl (fun hw => by simp [herr] at hw) (by simp [Action.WritesOwn])
    · exact .of_none rfl (fun _ => rfl) (by simp [Action.WritesOwn])
    · exact .of_none rfl (fun _ => rfl) (by simp)
  · dsimp only
    rcases storeFromResponse env.systemNow resp with _ | tokens
    · exact .of_none rfl (fun _ => rfl) (by simp)
    · exact ⟨fun _ ht => ht, fun _ => rfl, by simp [Action.WritesOwn]⟩

theorem RestoreState.keeps_resume (cfg : AuthConfig) (env : FlowEnv)
    {stored : Option StoredTokenSet}
    {r : RestoreState} (h : Holds r.held stored) :
    Keeps RestoreState.held stored (r.writes env) (r.resume cfg env stored) := by
  cases r with
  | idle result => exact keeps_call cfg env stored
  | authenticating tokens =>
    simp only [resume]
    rcases authenticate env.reply with err | ⟨⟩
    · exact ⟨h, fun _ => rfl, by simp [tryRefresh, Action.WritesOwn]⟩
    · exact .of_none rfl (fun _ => rfl) (by simp)
  | refreshing current answer =>
    obtain rfl : stored = some current := h current rfl
    rcases answer with _ | response
    · exact ⟨h, fun _ => rfl, by simp [resume]⟩
    · exact keeps_refreshed env current (postToken response)
  | authenticatingNew current tokens =>
    obtain rfl : stored = some current := h current rfl
    simp only [resume, writes]
    rcases authenticate env.reply with err | ⟨⟩
    · exact .of_none rfl (fun _ => rfl) (by simp)
    · exact .of_none rfl (fun hw => by simp [Except.isOk, Except.toBool] at hw)
        (by simp [Action.WritesOwn])
  | authenticatingCached current =>
    simp only [resume]
    rcases authenticate env.reply with err | ⟨⟩
    · exact .of_none rfl (fun _ => rfl) (by simp)
    · exact .of_none rfl (fun _ => rfl) (by simp)
  | panicked => exact .of_none rfl (fun _ => rfl) (by simp [resume])

theorem AuthorizeState.keeps_resume (cfg : AuthConfig) (env : FlowEnv)
    (stored : Option StoredTokenSet)
    (a : AuthorizeState) :
    Keeps (fun _ => none) stored (a.writes env) (a.resume cfg env stored) := by
  cases a with
  | idle result => exact .of_none rfl (fun _ => rfl) (by simp [resume, Action.WritesOwn])
  | authorizing verifier =>
    simp only [resume]
    rcases requestAuthorization verifier env.reply with err | ⟨code, verifier⟩
    · exact .of_none rfl (fun _ => rfl) (by simp)
    · exact .of_none rfl (fun _ => rfl) (by simp [Action.WritesOwn])
  | exchanging code verifier answer =>
    rcases answer with _ | response
    · exact .of_none rfl (fun _ => rfl) (by simp [resume])
    · simp only [resume, exchanged]
      rcases postToken response with err | resp
      · exact .of_none rfl (fun _ => rfl) (by simp)
      · dsimp only
        rcases storeFromResponse env.systemNow resp with _ | tokens
        · exact .of_none rfl (fun _ => rfl) (by simp)
        · exact .of_none rfl (fun _ => rfl) (by simp [Action.WritesOwn])
  | authenticating tokens =>
    simp only [resume, writes]
    rcases authenticate env.reply with err | ⟨⟩
    · exact .of_none rfl (fun _ => rfl) (by simp)
    · exact .of_none rfl (fun hw => by simp [Except.isOk, Except.toBool] at hw)
        (by simp [Action.WritesOwn])
  | panicked => exact .of_none rfl (fun _ => rfl) (by simp [resume])

/-- Both refreshes hold what the store holds. -/
structure Sessions.Consistent (w : Sessions) : Prop where
  loop : Holds w.loop.held w.stored
  restore : Holds w.restore.held w.stored

/-- Another flow's turn leaves a flow consistent if it writes only when the flow holds nothing. -/
theorem Holds.after {held stored stored' : Option StoredTokenSet} {writes : Bool}
    (h : Holds held stored)
    (hstored : writes = false → stored' = stored) (hexcl : writes = true → held = none) :
    Holds held stored' := by
  intro tokens ht
  cases hw : writes with
  | true => simp [hexcl hw] at ht
  | false =>
    rw [hstored hw]
    exact h tokens ht

/-- The endpoint's answers change neither the store nor what the flows hold. -/
theorem Sessions.Consistent.serve {w : Sessions} (h : w.Consistent) (cfg : AuthConfig) (flow : Flow)
    (served : Served) : (w.serve cfg flow served).Consistent := by
  cases flow with
  | refreshLoop =>
    simp only [Sessions.serve]
    split
    · next current hstate =>
      have hcurrent : Holds (some current) w.stored := by
        have := h.loop
        rw [RefreshLoop.held, hstate] at this
        exact this
      exact ⟨hcurrent, h.restore⟩
    · exact h
  | restore =>
    simp only [Sessions.serve]
    split
    · next current hstate =>
      have hcurrent : Holds (some current) w.stored := by
        have := h.restore
        rw [hstate] at this
        exact this
      exact ⟨h.loop, hcurrent⟩
    · exact h
  | authorize =>
    simp only [Sessions.serve]
    split
    · exact ⟨h.loop, h.restore⟩
    · exact h

/-- **One turn** that is exclusive keeps the refreshes consistent, and writes only what is its
own. -/
theorem Sessions.Consistent.step {w : Sessions} (h : w.Consistent) (cfg : AuthConfig) {t : Turn}
    (ht : Exclusive w t) : (w.step cfg t).1.Consistent ∧ ∀ a ∈ (w.step cfg t).2, a.WritesOwn := by
  cases t with
  | serve flow served => exact ⟨h.serve cfg flow served, by simp [Sessions.step]⟩
  | resume flow env =>
    cases flow with
    | refreshLoop =>
      have hkeeps := RefreshLoop.keeps_resume cfg env h.loop
      exact ⟨⟨hkeeps.holds, h.restore.after hkeeps.stored ht⟩, hkeeps.own⟩
    | restore =>
      have hkeeps := RestoreState.keeps_resume cfg env h.restore
      exact ⟨⟨h.loop.after hkeeps.stored ht, hkeeps.holds⟩, hkeeps.own⟩
    | authorize =>
      have hkeeps := AuthorizeState.keeps_resume cfg env w.stored w.authorize
      exact ⟨⟨h.loop.after hkeeps.stored fun hw => (ht hw).1,
        h.restore.after hkeeps.stored fun hw => (ht hw).2⟩, hkeeps.own⟩

theorem Sessions.consistent_start (stored : Option StoredTokenSet) (endpoint : Endpoint) :
    (Sessions.start stored endpoint).Consistent :=
  ⟨nofun, nofun⟩

/-- **No lost update, without overlap.** Take any interleaving of the three flows from the start of
the worker, whatever the store holds then, whatever is answered on the pipe and by the endpoint, and
whenever the store fails. If no flow is resumed to a write of the store while another refresh is
under way, every save and every clear of a refresh acts on a store that still holds the token set
the refresh loaded and presented. -/
theorem refresh_writes_own (cfg : AuthConfig) (stored : Option StoredTokenSet) (endpoint : Endpoint)
    {ts : List Turn} (hts : (sessions cfg).Along Exclusive (Sessions.start stored endpoint) ts) :
    ∀ a ∈ (sessions cfg).outs (Sessions.start stored endpoint) ts, a.WritesOwn :=
  Machine.forall_mem_outs_of_inv (fun _ _ h ht => (h.step cfg ht).1)
    (fun _ _ h ht => (h.step cfg ht).2) hts
    (Sessions.consistent_start stored endpoint)

/-- A flow is told the time and nothing else, and the store does not fail. -/
def FlowEnv.plain (now : Instant) (systemNow : SystemTime) : FlowEnv where
  now := now
  systemNow := systemNow
  reply := .error .pipeClosed
  pkce := ("", "")
  loadError := none
  armError := none
  saveError := none
  clearError := none

/-- The token set for which a restored session may yet write the store. -/
def RestoreState.undecided : RestoreState → Option StoredTokenSet
  | .authenticating tokens => some tokens
  | .refreshing current none => some current
  | .authenticatingNew current _ => some current
  | .refreshing _ (some _) | .idle _ | .authenticatingCached _ | .panicked => none

/-- The token set for which the refresh loop may yet write the store. -/
def RefreshLoop.undecided (l : RefreshLoop) : Option StoredTokenSet :=
  match l.state with
  | .refreshing current none => some current
  | .refreshing _ (some _) | .spawned | .ticking | .sleeping _ | .panicked => none

theorem restore_rejected (cfg : AuthConfig) (w : Sessions) {current : StoredTokenSet}
    (h : w.restore = .refreshing current none) :
    Action.clear .restore current w.stored ∈
      (sessions cfg).outs w [.serve .restore (.refuse 400), .resume .restore (.plain 0 0)] := by
  simp [Machine.outs, Machine.out, Machine.next, sessions, Sessions.step, Sessions.serve, h,
    Endpoint.serve, RestoreState.resume, RestoreState.refreshed, postToken]

theorem loop_rejected (cfg : AuthConfig) (w : Sessions) {current : StoredTokenSet}
    (h : w.loop.state = .refreshing current none) :
    Action.clear .refreshLoop current w.stored ∈
      (sessions cfg).outs w [.serve .refreshLoop (.refuse 400),
        .resume .refreshLoop (.plain 0 0)] := by
  simp [Machine.outs, Machine.out, Machine.next, sessions, Sessions.step, Sessions.serve, h,
    Endpoint.serve, RefreshLoop.resume, RefreshLoop.refreshed, postToken]

/-- **The overlap is the defect**: wherever the store has been changed under a refresh that may yet
write it, the run can go on to such a write. -/
theorem overlap_reaches_foreign_write (cfg : AuthConfig) (w : Sessions) {current : StoredTokenSet}
    (hopen : w.restore.undecided = some current ∨ w.loop.undecided = some current)
    (hchanged : w.stored ≠ some current) : ∃ ts, ∃ a ∈ (sessions cfg).outs w ts, ¬ a.WritesOwn := by
  have hforeign : ∀ flow, ¬ (Action.clear flow current w.stored).WritesOwn := fun _ => hchanged
  rcases hopen with hrestore | hloop
  · cases hstate : w.restore with
    | authenticating tokens =>
      rw [hstate] at hrestore
      obtain rfl : tokens = current := Option.some.inj hrestore
      have hnext : ((sessions cfg).next w (.resume .restore (.plain 0 0))).restore =
          .refreshing tokens none := by
        simp [Machine.next, sessions, Sessions.step, hstate, RestoreState.resume,
          RestoreState.tryRefresh, authenticate, FlowEnv.plain]
      have hstored : ((sessions cfg).next w (.resume .restore (.plain 0 0))).stored = w.stored := by
        simp [Machine.next, sessions, Sessions.step, hstate, RestoreState.resume,
          RestoreState.tryRefresh, authenticate, FlowEnv.plain]
      have hmem := restore_rejected cfg _ hnext
      rw [hstored] at hmem
      exact ⟨.resume .restore (.plain 0 0) :: _, _, List.mem_append_right _ hmem, hforeign .restore⟩
    | refreshing tokens answer =>
      rw [hstate] at hrestore
      rcases answer with _ | response
      · obtain rfl : tokens = current := Option.some.inj hrestore
        exact ⟨_, _, restore_rejected cfg w hstate, hforeign .restore⟩
      · cases hrestore
    | authenticatingNew tokens new =>
      rw [hstate] at hrestore
      obtain rfl : tokens = current := Option.some.inj hrestore
      let env := { FlowEnv.plain 0 0 with reply := .ok ⟨none, none, none, none, none, none⟩ }
      refine ⟨[.resume .restore env], .save .restore (some tokens) new w.stored, ?_, hchanged⟩
      simp [Machine.outs, Machine.out, sessions, Sessions.step, hstate, RestoreState.resume,
        authenticate, env]
    | idle result | authenticatingCached tokens | panicked =>
      rw [hstate] at hrestore
      cases hrestore
  · cases hstate : w.loop.state with
    | refreshing tokens answer =>
      rw [RefreshLoop.undecided, hstate] at hloop
      rcases answer with _ | response
      · obtain rfl : tokens = current := Option.some.inj hloop
        exact ⟨_, _, loop_rejected cfg w hstate, hforeign .refreshLoop⟩
      · cases hloop
    | spawned | ticking | sleeping deadline | panicked =>
      rw [RefreshLoop.undecided, hstate] at hloop
      cases hloop

/-- A token set that has expired by the tick 1. -/
def expiredTokens : StoredTokenSet := ⟨"at-0", "rt-0", 0, SCOPES⟩

/-- What the endpoint makes of it at that tick. -/
def newTokens : StoredTokenSet := ⟨"at-1", "rt-1", 6048000000001, SCOPES⟩

/-- The worker starts with an expired token set. The refresh loop and the restored session both load
it and present it; the endpoint grants the first and rejects the second; the loop saves the new
token set, and the restored session clears it. -/
theorem stale_rejection_clears_new_tokens :
    let env := FlowEnv.plain 0 1
    let w := Sessions.start (some expiredTokens) ⟨["rt-0"], []⟩
    let ts : List Turn :=
      [.resume .refreshLoop env, .resume .refreshLoop env, .resume .restore env,
        .serve .refreshLoop (.grant ⟨"at-1", "rt-1", 604800⟩),
        .serve .restore (.grant ⟨"at-2", "rt-2", 604800⟩),
        .resume .refreshLoop env, .resume .restore env]
    (sessions ⟨"client"⟩).outs w ts =
        [.post .refreshLoop (refresh "client" "rt-0"), .post .restore (refresh "client" "rt-0"),
          .save .refreshLoop (some expiredTokens) newTokens (some expiredTokens),
          .clear .restore expiredTokens (some newTokens)] ∧
      ¬ (Action.clear .restore expiredTokens (some newTokens)).WritesOwn ∧
      ((sessions ⟨"client"⟩).run w ts).stored = none := by
  refine ⟨by decide +kernel, ?_, by decide +kernel⟩
  simp [Action.WritesOwn, newTokens, expiredTokens]

/-- Where the refresh loop is done before the session is restored, the only write is its own. -/
theorem refresh_writes_own_in_turn :
    let env := FlowEnv.plain 0 1
    let ts : List Turn :=
      [.resume .refreshLoop env, .resume .refreshLoop env,
        .serve .refreshLoop (.grant ⟨"at-1", "rt-1", 604800⟩),
        .resume .refreshLoop env, .resume .restore env]
    let w := Sessions.start (some expiredTokens) ⟨["rt-0"], []⟩
    Action.save .refreshLoop (some expiredTokens) newTokens (some expiredTokens) ∈
        (sessions ⟨"client"⟩).outs w ts ∧
      ∀ a ∈ (sessions ⟨"client"⟩).outs w ts, a.WritesOwn := by
  intro env ts w
  exact ⟨by decide +kernel, refresh_writes_own ⟨"client"⟩ (some expiredTokens) ⟨["rt-0"],
    []⟩ (by decide +kernel)⟩

end VoxShift.Discord
