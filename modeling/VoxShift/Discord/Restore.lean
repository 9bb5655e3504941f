import VoxShift.Discord.Auth
import VoxShift.Theory.Machine

/-!
# A restored session

`auth.rs`: `try_restore_session` with `try_refresh`, running alone on the token store,
with a history of each call: what the store held, what the two readings of the wall
clock were, what was sent and what was answered.

## What is proved

* `Alone.Ok.step` — what one turn preserves: where a call stands, its history says what
  it has sent and what it was told.
* `restored_session_meaning` — what the call's result means, when it clears the store,
  and which access tokens it sends.
* `clock_set_back_sends_expired` — a stored access token that has expired when the
  function is called is sent after all if the wall clock is set back in the meantime
  and the endpoint cannot be reached.
-/

namespace VoxShift.Discord

open VoxShift.Core VoxShift.Theory

/-! ### The history of a call -/

/-- What happened in a call of `try_restore_session`. -/
structure CallLog where
  /-- What the store held when the function was called. -/
  found : Option StoredTokenSet
  /-- The wall clock then. -/
  calledAt : SystemTime
  /-- What the call has done. -/
  actions : List Action
  /-- What its `AUTHENTICATE`s have come to. -/
  replies : List (Except DiscordError Unit)
  /-- What the token endpoint has answered. -/
  response : Option (Option HttpResponse)
  /-- The wall clock when the call went on with the answer. -/
  answeredAt : SystemTime

/-- The access token of an `AUTHENTICATE`. -/
def Action.accessToken? : Action → Option String
  | .authenticate accessToken => some accessToken
  | .authorize _ | .post _ _ | .save _ _ _ _ | .clear _ _ _ => none

namespace CallLog

/-- A call begins. -/
def begin (found : Option StoredTokenSet) (systemNow : SystemTime) (actions : List Action) :
    CallLog := ⟨found, systemNow, actions, [], none, systemNow⟩

/-- The call has done more. -/
def act (log : CallLog) (actions : List Action) : CallLog :=
  { log with actions := log.actions ++ actions }

/-- An `AUTHENTICATE` has come to something. -/
def reply (log : CallLog) (result : Except DiscordError Unit) : CallLog :=
  { log with replies := log.replies ++ [result] }

/-- The call goes on with the endpoint's answer. -/
def answer (log : CallLog) (response : Option HttpResponse) (systemNow : SystemTime) : CallLog :=
  { log with response := some response, answeredAt := systemNow }

/-- The access tokens sent in `AUTHENTICATE`. -/
def sent (log : CallLog) : List String := log.actions.filterMap Action.accessToken?

/-- The endpoint returned a token pair. -/
def Granted (log : CallLog) (resp : TokenResponse) : Prop :=
  ∃ response, log.response = some response ∧ postToken response = .ok resp

/-- The endpoint answered 400. -/
def Rejected (log : CallLog) : Prop :=
  ∃ response : HttpResponse, log.response = some (some response) ∧ response.status = 400

/-- The endpoint could not be reached. -/
def Unreachable (log : CallLog) : Prop :=
  ∃ response, log.response = some response ∧ postToken response = .error .discordUnreachable

/-- The last `AUTHENTICATE` carried the token and succeeded. -/
structure Accepted (log : CallLog) (token : String) : Prop where
  sent : log.sent.getLast? = some token
  reply : log.replies.getLast? = some (.ok ())
  all : log.sent.length = log.replies.length

/-- Every `AUTHENTICATE` has failed. -/
structure Failed (log : CallLog) : Prop where
  reply : ∀ result ∈ log.replies, result ≠ .ok ()
  all : log.sent.length = log.replies.length

/-- The last `AUTHENTICATE` carried the token and waits for its reply; those before it failed. -/
structure Awaits (log : CallLog) (token : String) : Prop where
  sent : log.sent.getLast? = some token
  reply : ∀ result ∈ log.replies, result ≠ .ok ()
  all : log.sent.length = log.replies.length + 1

/-- Why an access token is sent. -/
inductive Justifies (log : CallLog) (token : String) : Prop where
  /-- It was found in the store and had not expired. -/
  | stored (tokens : StoredTokenSet) (hfound : log.found = some tokens)
      (htoken : token = tokens.accessToken)
      (hfresh : tokens.isExpiredWithin log.calledAt 0 = false)
  /-- The endpoint has just returned it. -/
  | granted (resp : TokenResponse) (hgranted : log.Granted resp)
      (htoken : token = resp.accessToken)
  /-- It was found in the store, the endpoint cannot be reached, and it has not expired now. -/
  | cached (tokens : StoredTokenSet) (hfound : log.found = some tokens)
      (htoken : token = tokens.accessToken) (hunreachable : log.Unreachable)
      (hfresh : tokens.isExpiredWithin log.answeredAt 0 = false)

/-- What the history says of an action in it. -/
def Allows (log : CallLog) : Action → Prop
  | .authorize _ => False
  | .authenticate accessToken => log.Justifies accessToken
  | .clear _ _ _ => log.Rejected
  | .post _ _ | .save _ _ _ _ => True

/-- Every action is allowed. -/
def Sane (log : CallLog) : Prop := ∀ a ∈ log.actions, log.Allows a

end CallLog

/-! ### The flow alone -/

/-- The store, the flow, and the history of its last call. -/
structure Alone where
  stored : Option StoredTokenSet
  restore : RestoreState
  log : CallLog

/-- What happens next. -/
inductive AloneMove where
  /-- The flow is resumed. -/
  | resume (env : FlowEnv)
  /-- The token endpoint answers, or the request gets no answer. -/
  | answer (response : Option HttpResponse)

namespace Alone

/-- Before the first call. -/
def start (stored : Option StoredTokenSet) : Alone := ⟨stored, .idle none, .begin stored 0 []⟩

/-- The history after the flow is resumed and does `actions`. -/
def logged (a : Alone) (env : FlowEnv) (actions : List Action) : CallLog :=
  match a.restore with
  | .idle _ => .begin a.stored env.systemNow actions
  | .authenticating _ | .authenticatingNew _ _ | .authenticatingCached _ =>
    (a.log.reply (authenticate env.reply)).act actions
  | .refreshing _ (some response) => (a.log.answer response env.systemNow).act actions
  | .refreshing _ none | .panicked => a.log

/-- One move. -/
def step (cfg : AuthConfig) (a : Alone) : AloneMove → Alone
  | .resume env =>
    let r := a.restore.resume cfg env a.stored
    ⟨r.stored, r.flow, a.logged env r.actions⟩
  | .answer response =>
    match a.restore with
    | .refreshing current none => { a with restore := .refreshing current (some response) }
    | _ => a

end Alone

/-- The flow as a machine. -/
def alone (cfg : AuthConfig) : Machine Alone AloneMove Empty where
  step a m := (a.step cfg m, [])

/-! ### What a history keeps -/

namespace CallLog

variable {log : CallLog} {token : String} {actions : List Action}
  {result : Except DiscordError Unit}

theorem sent_act (log : CallLog) (actions : List Action) :
    (log.act actions).sent = log.sent ++ actions.filterMap Action.accessToken? :=
  List.filterMap_append

/-- The reply to the last `AUTHENTICATE` is a success. -/
theorem Awaits.accepted (h : log.Awaits token) : (log.reply (.ok ())).Accepted token := by
  refine ⟨h.sent, List.getLast?_concat, ?_⟩
  show log.sent.length = (log.replies ++ [_]).length
  rw [List.length_append]
  exact h.all

theorem Awaits.failed (h : log.Awaits token) (err : DiscordError) :
    (log.reply (.error err)).Failed := by
  constructor
  · intro result hmem
    rcases List.mem_append.mp hmem with hmem | hmem
    · exact h.reply result hmem
    · rw [List.mem_singleton.mp hmem]
      nofun
  · show log.sent.length = (log.replies ++ [_]).length
    rw [List.length_append]
    exact h.all

theorem Failed.awaits (h : log.Failed) (token : String) :
    (log.act [.authenticate token]).Awaits token := by
  have hsent : (log.act [.authenticate token]).sent = log.sent ++ [token] := sent_act log _
  refine ⟨?_, h.reply, ?_⟩
  · rw [hsent, List.getLast?_concat]
  · rw [hsent, List.length_append, h.all]
    rfl

theorem Failed.act (h : log.Failed) (hactions : actions.filterMap Action.accessToken? = []) :
    (log.act actions).Failed := by
  refine ⟨h.reply, ?_⟩
  rw [sent_act, hactions, List.append_nil]
  exact h.all

theorem Failed.answer (h : log.Failed) (response : Option HttpResponse) (systemNow : SystemTime) :
    (log.answer response systemNow).Failed := ⟨h.reply, h.all⟩

theorem Accepted.act (h : log.Accepted token)
    (hactions : actions.filterMap Action.accessToken? = []) : (log.act actions).Accepted token := by
  have hsent : (log.act actions).sent = log.sent := by
    rw [sent_act, hactions, List.append_nil]
  exact ⟨hsent ▸ h.sent, h.reply, hsent ▸ h.all⟩

/-- What two histories tell of the store, the clock and the endpoint alike, they say of actions. -/
theorem Allows.congr {log' : CallLog} {a : Action} (h : log.Allows a)
    (hfound : log'.found = log.found) (hcalled : log'.calledAt = log.calledAt)
    (hresponse : log'.response = log.response) (hanswered : log'.answeredAt = log.answeredAt) :
    log'.Allows a := by
  cases a with
  | authenticate token =>
    cases h with
    | stored tokens hf htoken hfresh => exact .stored tokens (hfound ▸ hf) htoken (hcalled ▸ hfresh)
    | granted resp hgranted htoken =>
      refine .granted resp ?_ htoken
      unfold Granted
      rw [hresponse]
      exact hgranted
    | cached tokens hf htoken hunreachable hfresh =>
      refine .cached tokens (hfound ▸ hf) htoken ?_ (hanswered ▸ hfresh)
      unfold Unreachable
      rw [hresponse]
      exact hunreachable
  | clear flow presented found =>
    show log'.Rejected
    unfold Rejected
    rw [hresponse]
    exact h
  | authorize args => exact h
  | post flow form | save flow presented tokens found => trivial

theorem Sane.reply (h : log.Sane) (result : Except DiscordError Unit) : (log.reply result).Sane :=
  fun a ha => (h a ha).congr rfl rfl rfl rfl

theorem Sane.act (h : log.Sane) (hactions : ∀ a ∈ actions, log.Allows a) :
    (log.act actions).Sane := by
  intro a ha
  rcases List.mem_append.mp ha with ha | ha
  · exact (h a ha).congr rfl rfl rfl rfl
  · exact (hactions a ha).congr rfl rfl rfl rfl

/-- What is done before the endpoint's answer does not depend on it. -/
theorem Sane.answer (h : log.Sane) (hnone : log.response = none) (response : Option HttpResponse)
    (systemNow : SystemTime) : (log.answer response systemNow).Sane := by
  intro a ha
  have hallows := h a ha
  cases a with
  | authenticate token =>
    cases hallows with
    | stored tokens hfound htoken hfresh => exact .stored tokens hfound htoken hfresh
    | granted resp hgranted _ =>
      obtain ⟨_, hresponse, -⟩ := hgranted
      rw [hnone] at hresponse
      cases hresponse
    | cached _ _ _ hunreachable _ =>
      obtain ⟨_, hresponse, -⟩ := hunreachable
      rw [hnone] at hresponse
      cases hresponse
  | clear flow presented found =>
    obtain ⟨_, hresponse, -⟩ := hallows
    rw [hnone] at hresponse
    cases hresponse
  | authorize args => exact hallows
  | post flow form | save flow presented tokens found => trivial

end CallLog

/-! ### Where a call stands -/

theorem postToken_eq_reauthorize {response : Option HttpResponse}
    (h : postToken response = .error .reauthorizationRequired) :
    ∃ r, response = some r ∧ r.status = 400 := by
  unfold postToken at h
  cases response with
  | none => cases h
  | some r =>
    dsimp only at h
    split_ifs at h with hsuccess hbad
    · cases hjson : r.json with
      | none =>
        rw [hjson] at h
        cases h
      | some parsed =>
        rw [hjson] at h
        cases h
    · exact ⟨r, rfl, hbad⟩
    · cases h

theorem storeFromResponse_tokens {systemNow : SystemTime} {resp : TokenResponse}
    {tokens : StoredTokenSet} (h : storeFromResponse systemNow resp = some tokens) :
    tokens.accessToken = resp.accessToken ∧ tokens.refreshToken = resp.refreshToken := by
  obtain ⟨expiresAt, -, rfl⟩ := Option.map_eq_some_iff.mp h
  exact ⟨rfl, rfl⟩

namespace Alone

/-- The call found `current`, which the store still holds. -/
structure Holding (a : Alone) (current : StoredTokenSet) : Prop where
  found : a.log.found = some current
  stored : a.stored = some current

/-- The call has found its tokens and posted their refresh token, and no `AUTHENTICATE` of it has
succeeded. -/
structure Posted (cfg : AuthConfig) (log : CallLog) (current : StoredTokenSet) : Prop where
  found : log.found = some current
  posted : .post .restore (refresh cfg.clientId current.refreshToken) ∈ log.actions
  failed : log.Failed

/-- What the result of a call means. -/
def Means (cfg : AuthConfig) (a : Alone) : Except AuthError (Option StoredTokenSet) → Prop
  | .ok (some tokens) => a.log.Accepted tokens.accessToken ∧ a.stored = some tokens
  | .ok none => a.log.Failed ∧ (a.log.found = none ∨
      ∃ current, Posted cfg a.log current ∧ a.log.Rejected)
  | .error _ => True

/-- What the history says where the call stands. -/
def Stands (cfg : AuthConfig) (a : Alone) : Prop :=
  match a.restore with
  | .idle none | .panicked => True
  | .idle (some result) => a.Means cfg result
  | .authenticating tokens =>
    a.Holding tokens ∧ a.log.Awaits tokens.accessToken ∧ a.log.response = none
  | .refreshing current _ => a.Holding current ∧ Posted cfg a.log current ∧ a.log.response = none
  | .authenticatingNew _ tokens => a.log.Awaits tokens.accessToken
  | .authenticatingCached current => a.Holding current ∧ a.log.Awaits current.accessToken

/-- The invariant: the history is sane, and says where the call stands. -/
structure Ok (cfg : AuthConfig) (a : Alone) : Prop where
  sane : a.log.Sane
  stands : a.Stands cfg

theorem ok_start (cfg : AuthConfig) (stored : Option StoredTokenSet) : (start stored).Ok cfg :=
  ⟨List.forall_mem_nil _, trivial⟩

/-- A call begins. -/
theorem ok_call (cfg : AuthConfig) (env : FlowEnv) (stored : Option StoredTokenSet) :
    let r := RestoreState.call cfg env stored
    Ok cfg ⟨r.stored, r.flow, .begin stored env.systemNow r.actions⟩ := by
  have hbegin : (CallLog.begin stored env.systemNow []).Failed := ⟨List.forall_mem_nil _, rfl⟩
  unfold RestoreState.call
  cases env.loadError with
  | some message => exact ⟨List.forall_mem_nil _, trivial⟩
  | none =>
    cases stored with
    | none => exact ⟨List.forall_mem_nil _, hbegin, .inl rfl⟩
    | some tokens =>
      dsimp only
      cases hexpired : tokens.isExpiredWithin env.systemNow 0 with
      | false =>
        refine ⟨?_, ⟨rfl, rfl⟩, hbegin.awaits tokens.accessToken, rfl⟩
        intro a ha
        obtain rfl := List.mem_singleton.mp ha
        exact .stored tokens rfl rfl hexpired
      | true =>
        refine ⟨?_, ⟨rfl, rfl⟩, ⟨rfl, List.mem_singleton_self _, hbegin.act rfl⟩, rfl⟩
        intro a ha
        obtain rfl := List.mem_singleton.mp ha
        trivial

theorem ok_tryRefresh (cfg : AuthConfig) {stored : Option StoredTokenSet} {current : StoredTokenSet}
    {log : CallLog} (hsane : log.Sane) (hfound : log.found = some current)
    (hstored : stored = some current) (hfailed : log.Failed) (hnone : log.response = none) :
    let r := RestoreState.tryRefresh cfg stored current
    Ok cfg ⟨r.stored, r.flow, log.act r.actions⟩ := by
  refine ⟨hsane.act fun a ha => ?_, ⟨hfound, hstored⟩, ⟨hfound, ?_, hfailed.act rfl⟩, hnone⟩
  · obtain rfl := List.mem_singleton.mp ha
    trivial
  · exact List.mem_append_right _ (List.mem_singleton_self _)

theorem ok_refreshed (cfg : AuthConfig) (env : FlowEnv) {stored : Option StoredTokenSet}
    {current : StoredTokenSet} {log : CallLog} {response : Option HttpResponse} (hsane : log.Sane)
    (hstored : stored = some current) (hposted : Posted cfg log current)
    (hanswer : log.response = some response) (hnow : log.answeredAt = env.systemNow) :
    let r := RestoreState.refreshed env stored current (postToken response)
    Ok cfg ⟨r.stored, r.flow, log.act r.actions⟩ := by
  unfold RestoreState.refreshed
  rcases hpost : postToken response with err | resp
  · dsimp only
    split_ifs with hreject hcached
    · have hrejected : log.Rejected := by
        obtain ⟨r, rfl, hstatus⟩ := postToken_eq_reauthorize (hreject ▸ hpost)
        exact ⟨r, hanswer, hstatus⟩
      refine ⟨hsane.act fun a ha => ?_, hposted.failed.act rfl, .inr ⟨current, ?_, hrejected⟩⟩
      · obtain rfl := List.mem_singleton.mp ha
        exact hrejected
      · exact ⟨hposted.found, List.mem_append_left _ hposted.posted, hposted.failed.act rfl⟩
    · have hunreachable : log.Unreachable := ⟨response, hanswer, hcached.1 ▸ hpost⟩
      refine ⟨hsane.act fun a ha => ?_, ⟨hposted.found, hstored⟩, hposted.failed.awaits _⟩
      obtain rfl := List.mem_singleton.mp ha
      exact .cached current hposted.found rfl hunreachable (hnow ▸ hcached.2)
    · exact ⟨hsane.act (List.forall_mem_nil _), trivial⟩
  · dsimp only
    cases htokens : storeFromResponse env.systemNow resp with
    | none => exact ⟨hsane.act (List.forall_mem_nil _), trivial⟩
    | some tokens =>
      refine ⟨hsane.act fun a ha => ?_, hposted.failed.awaits _⟩
      obtain rfl := List.mem_singleton.mp ha
      exact .granted resp ⟨response, hanswer, hpost⟩ (storeFromResponse_tokens htokens).1

/-- **One turn** of the flow. -/
theorem Ok.resume {cfg : AuthConfig} {a : Alone} (h : a.Ok cfg) (env : FlowEnv) :
    (a.step cfg (.resume env)).Ok cfg := by
  obtain ⟨stored, restore, log⟩ := a
  obtain ⟨hsane, hstands⟩ := h
  cases restore with
  | idle result => exact ok_call cfg env stored
  | authenticating tokens =>
    obtain ⟨⟨hfound, hstored⟩, hawaits, hnone⟩ := hstands
    simp only [step, RestoreState.resume, logged]
    rcases authenticate env.reply with err | ⟨⟩
    · exact ok_tryRefresh cfg (hsane.reply _) hfound hstored (hawaits.failed err) hnone
    · exact ⟨(hsane.reply _).act (List.forall_mem_nil _), hawaits.accepted.act rfl, hstored⟩
  | refreshing current answer =>
    obtain ⟨⟨hfound, hstored⟩, hposted, hnone⟩ := hstands
    cases answer with
    | none => exact ⟨hsane, ⟨hfound, hstored⟩, hposted, hnone⟩
    | some response =>
      exact ok_refreshed cfg env (hsane.answer hnone response env.systemNow) hstored
        ⟨hposted.found, hposted.posted, hposted.failed.answer response env.systemNow⟩ rfl rfl
  | authenticatingNew current tokens =>
    have hawaits : log.Awaits tokens.accessToken := hstands
    simp only [step, RestoreState.resume, logged]
    rcases authenticate env.reply with err | ⟨⟩
    · exact ⟨(hsane.reply _).act (List.forall_mem_nil _), trivial⟩
    · refine ⟨(hsane.reply _).act fun a ha => ?_, ?_⟩
      · obtain rfl := List.mem_singleton.mp ha
        trivial
      · show Means cfg _ (RestoreState.saveResult env tokens)
        unfold RestoreState.saveResult
        cases hsave : env.saveError with
        | some message => trivial
        | none => exact ⟨hawaits.accepted.act rfl, by simp [afterSave, hsave]⟩
  | authenticatingCached current =>
    obtain ⟨⟨hfound, hstored⟩, hawaits⟩ := hstands
    simp only [step, RestoreState.resume, logged]
    rcases authenticate env.reply with err | ⟨⟩
    · exact ⟨(hsane.reply _).act (List.forall_mem_nil _), trivial⟩
    · exact ⟨(hsane.reply _).act (List.forall_mem_nil _), hawaits.accepted.act rfl, hstored⟩
  | panicked => exact ⟨hsane, trivial⟩

/-- **One move** keeps the invariant. -/
theorem Ok.step {cfg : AuthConfig} {a : Alone} (h : a.Ok cfg) (m : AloneMove) :
    (a.step cfg m).Ok cfg := by
  cases m with
  | resume env => exact h.resume env
  | answer response =>
    obtain ⟨hsane, hstands⟩ := h
    simp only [Alone.step]
    split
    · next current hrestore =>
      rw [Stands, hrestore] at hstands
      obtain ⟨⟨hfound, hstored⟩, hposted, hnone⟩ := hstands
      exact ⟨hsane, ⟨hfound, hstored⟩, hposted, hnone⟩
    · exact ⟨hsane, hstands⟩

end Alone

/-- **What a restored session means.** Take any calls of `try_restore_session` that run alone, from
any content of the store, with any readings of the wall clock, any replies to `AUTHENTICATE` and any
answers of the token endpoint, and whenever the store fails. Of the last call:

* if it returns a token set, the last `AUTHENTICATE` carried its access token and succeeded, and the
  store holds the set;
* if it returns none, no `AUTHENTICATE` succeeded, and the store was empty or the endpoint answered
  400 to the refresh token found in it;
* it clears the store in that 400 case only;
* if the token set found in the store had expired, an access token it sends is one that the endpoint
  has just returned; or the endpoint could not be reached, and the clock had by then been set back
  to before the expiry;
* it sends no `AUTHORIZE`. -/
theorem restored_session_meaning (cfg : AuthConfig) (stored : Option StoredTokenSet)
    (moves : List AloneMove) :
    let a := (alone cfg).run (.start stored) moves
    (∀ tokens, a.restore = .idle (some (.ok (some tokens))) →
      a.log.Accepted tokens.accessToken ∧ a.stored = some tokens) ∧
    (a.restore = .idle (some (.ok none)) →
      a.log.Failed ∧ (a.log.found = none ∨
        ∃ current, a.log.found = some current ∧ a.log.Rejected ∧
          .post .restore (refresh cfg.clientId current.refreshToken) ∈ a.log.actions)) ∧
    (∀ flow presented found, .clear flow presented found ∈ a.log.actions → a.log.Rejected) ∧
    (∀ tokens, a.log.found = some tokens → tokens.isExpiredWithin a.log.calledAt 0 →
      ∀ token, .authenticate token ∈ a.log.actions →
        (∃ resp, a.log.Granted resp ∧ token = resp.accessToken) ∨
        a.log.Unreachable ∧ a.log.answeredAt < tokens.expiresAt ∧
          a.log.answeredAt < a.log.calledAt) ∧
    ∀ args, .authorize args ∉ a.log.actions := by
  intro a
  have hok : a.Ok cfg := Machine.inv_run (M := alone cfg) (I := Alone.Ok cfg)
    (fun _ m h => h.step m) (Alone.ok_start cfg stored) moves
  obtain ⟨hsane, hstands⟩ := hok
  refine ⟨?_, ?_, ?_, ?_, ?_⟩
  · intro tokens hrestore
    rw [Alone.Stands, hrestore] at hstands
    exact hstands
  · intro hrestore
    rw [Alone.Stands, hrestore] at hstands
    obtain ⟨hfailed, hnone | ⟨current, hposted, hrejected⟩⟩ := hstands
    · exact ⟨hfailed, .inl hnone⟩
    · exact ⟨hfailed, .inr ⟨current, hposted.found, hrejected, hposted.posted⟩⟩
  · intro flow presented found hclear
    exact hsane _ hclear
  · intro tokens hfound hexpired token hsent
    cases hsane _ hsent with
    | stored tokens' hfound' _ hfresh =>
      obtain rfl : tokens = tokens' := Option.some.inj (hfound.symm.trans hfound')
      rw [hexpired] at hfresh
      cases hfresh
    | granted resp hgranted htoken => exact .inl ⟨resp, hgranted, htoken⟩
    | cached tokens' hfound' _ hunreachable hfresh =>
      obtain rfl : tokens = tokens' := Option.some.inj (hfound.symm.trans hfound')
      refine .inr ⟨hunreachable, StoredTokenSet.lt_expiresAt hfresh, ?_⟩
      by_contra hlater
      have hfresh' := StoredTokenSet.not_isExpiredWithin_of_le hfresh (Int.not_lt.mp hlater)
      rw [hexpired] at hfresh'
      cases hfresh'
  · intro args hauthorize
    exact hsane _ hauthorize

/-- A token set that expires at the tick 10. -/
def agingTokens : StoredTokenSet := ⟨"at-0", "rt-0", 10, SCOPES⟩

/-- A flow is resumed at this wall clock, on a closed pipe. -/
def resumeAt (systemNow : SystemTime) : AloneMove :=
  .resume
    { now := 0
      systemNow := systemNow
      reply := .error .pipeClosed
      pkce := ("", "")
      loadError := none
      armError := none
      saveError := none
      clearError := none }

/-- The function is called at the tick 10, when the stored access token has expired; the endpoint
cannot be reached, and the wall clock has been set back to the tick 9 when the call goes on: the
stored access token is sent. -/
theorem clock_set_back_sends_expired :
    let a := (alone ⟨"client"⟩).run (.start (some agingTokens))
      [resumeAt 10, .answer none, resumeAt 9]
    a.log.found = some agingTokens ∧ agingTokens.isExpiredWithin a.log.calledAt 0 = true ∧
      a.log.response = some none ∧
      a.log.actions = [.post .restore (refresh "client" "rt-0"), .authenticate "at-0"] := by
  decide

end VoxShift.Discord
