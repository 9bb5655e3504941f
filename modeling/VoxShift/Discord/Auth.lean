import VoxShift.Core.Token
import VoxShift.Discord.Client

/-!
# The authorization flows

`voxshift-discord`'s `auth.rs`: the token endpoint client, `try_restore_session`
with `try_refresh`, `authorize_now`, and `run_refresh_loop` with its timer.

## The model

* The three flows run on one thread and give way to each other at their `await`
  points only. So a flow is a state, one constructor for each point where it can be
  suspended, and a function `resume` that runs it from there to the next one.
* What a flow is told when it is resumed (a reply on the pipe, the clocks, whether
  the store fails it) is passed in as a `FlowEnv`. The clocks stand still between
  two suspensions.
* A request to the token endpoint is sent by one `resume`; until the endpoint has
  answered, resuming the flow does nothing.
* What a flow does to the outside is listed as `Action`s. An action on the store
  carries what the store held before it.
* An addition to the wall clock that overflows panics, and ends the task.
-/

namespace VoxShift.Discord

open VoxShift.Core

/-- `SCOPES`. -/
def SCOPES : List String := ["rpc", "identify", "rpc.voice.read", "rpc.voice.write"]

/-- `AuthConfig`. -/
structure AuthConfig where
  clientId : String

/-- `DiscordError`, with the texts of the errors it wraps. -/
inductive DiscordError where
  | pipeNotFound
  | pipeClosed
  | frame (message : String)
  | json (message : String)
  | io (message : String)
  | unexpectedHandshakeResponse
  | handshakeRejected (message : String)
  | commandFailed (message : String)
  | commandChannelClosed
  deriving DecidableEq, Repr

/-- `AuthError`, with the text of a store's error. -/
inductive AuthError where
  | notAuthorized
  | rpcNotApproved
  | reauthorizationRequired
  | discordUnreachable
  | credentialStore (message : String)
  | client (err : DiscordError)
  deriving DecidableEq, Repr

/-! ### Commands on the pipe -/

/-- `AuthorizeArgs`. -/
structure AuthorizeArgs where
  clientId : String
  scopes : List String
  codeChallenge : String
  codeChallengeMethod : String
  deriving DecidableEq, Repr

/-- `serde_json::from_value::<AuthorizeResponseData>`: a struct of one string field, as an object or
as a sequence. -/
def parseAuthorizeResponseData : Json → Option String
  | .array [item] => item.asStr?
  | data => (data.get? "code").bind Json.asStr?

/-- `request_authorization`, from the reply on. -/
def requestAuthorization (verifier : String) (reply : Except DiscordError RpcMessage) :
    Except AuthError (String × String) :=
  match reply with
  | .error err => .error (.client err)
  | .ok response =>
    if response.code.isSome then .error .rpcNotApproved
    else
      match response.data with
      | none => .error .notAuthorized
      | some data =>
        match parseAuthorizeResponseData data with
        | some code => .ok (code, verifier)
        | none => .error .notAuthorized

/-- `authenticate`, from the reply on. -/
def authenticate (reply : Except DiscordError RpcMessage) : Except DiscordError Unit :=
  match reply with
  | .error err => .error err
  | .ok resp =>
    match resp.code with
    | some code =>
      .error (.commandFailed
        ("AUTHENTICATE failed (code " ++ toString code ++ "): " ++ resp.message.getD ""))
    | none => .ok ()

/-! ### The token endpoint -/

/-- `TokenResponse`. -/
structure TokenResponse where
  accessToken : String
  refreshToken : String
  expiresIn : ℕ
  deriving DecidableEq, Repr

/-- The form of a request. -/
abbrev Form := List (String × String)

/-- The form `exchange_code` posts. -/
def exchangeCode (clientId code codeVerifier : String) : Form :=
  [("client_id", clientId), ("grant_type", "authorization_code"), ("code", code),
    ("code_verifier", codeVerifier)]

/-- The form `refresh` posts. -/
def refresh (clientId refreshToken : String) : Form :=
  [("client_id", clientId), ("grant_type", "refresh_token"), ("refresh_token", refreshToken)]

/-- An answer of the endpoint: its status, and its body if that is a token response. -/
structure HttpResponse where
  status : ℕ
  json : Option TokenResponse
  deriving DecidableEq, Repr

/-- `post_token`, from the answer on; `none` is a request that got none. -/
def postToken (response : Option HttpResponse) : Except AuthError TokenResponse :=
  match response with
  | none => .error .discordUnreachable
  | some response =>
    if 200 ≤ response.status ∧ response.status < 300 then
      match response.json with
      | some parsed => .ok parsed
      | none => .error .discordUnreachable
    else if response.status = 400 then .error .reauthorizationRequired
    else .error .discordUnreachable

/-- `store_from_response`; `none` where the addition panics. -/
def storeFromResponse (systemNow : SystemTime) (resp : TokenResponse) : Option StoredTokenSet :=
  (SystemTime.checkedAdd systemNow (Duration.fromSecs resp.expiresIn)).map fun expiresAt =>
    { accessToken := resp.accessToken
      refreshToken := resp.refreshToken
      expiresAt := expiresAt
      scopes := SCOPES }

/-- `clone_token_set`. -/
def cloneTokenSet (tokens : StoredTokenSet) : StoredTokenSet where
  accessToken := tokens.accessToken
  refreshToken := tokens.refreshToken
  expiresAt := tokens.expiresAt
  scopes := tokens.scopes

/-! ### Flows -/

/-- The flows that share the token store. -/
inductive Flow where
  | refreshLoop
  | restore
  | authorize
  deriving DecidableEq, Repr

/-- What a flow does to the outside. -/
inductive Action where
  /-- `AUTHORIZE` on the pipe. -/
  | authorize (args : AuthorizeArgs)
  /-- `AUTHENTICATE` on the pipe. -/
  | authenticate (accessToken : String)
  /-- A request to the token endpoint. -/
  | post (flow : Flow) (form : Form)
  /-- `store.save` of a new token set, which came from presenting `presented` to the endpoint if it
  came from a refresh. -/
  | save (flow : Flow) (presented : Option StoredTokenSet) (tokens : StoredTokenSet)
      (found : Option StoredTokenSet)
  /-- `store.clear`, since `presented` was rejected. -/
  | clear (flow : Flow) (presented : StoredTokenSet) (found : Option StoredTokenSet)
  deriving DecidableEq, Repr

/-- What a flow is told when it is resumed. -/
structure FlowEnv where
  /-- `TokioInstant::now()`. -/
  now : Instant
  /-- `SystemTime::now()`. -/
  systemNow : SystemTime
  /-- The reply on the pipe, if the flow waits for one. -/
  reply : Except DiscordError RpcMessage
  /-- What `generate_pkce_pair` returns: verifier and challenge. -/
  pkce : String × String
  /-- The store fails the load a flow makes of the tokens it is to use. -/
  loadError : Option String
  /-- The store fails the load the refresh loop makes to arm its timer. -/
  armError : Option String
  /-- The store fails a save. -/
  saveError : Option String
  /-- The store fails a clear. -/
  clearError : Option String

/-- Where a flow was run to, what the store holds then, and what the flow did on the way. -/
structure Resumed (φ : Type) where
  flow : φ
  stored : Option StoredTokenSet
  actions : List Action

/-- What the store holds after a save. -/
def afterSave (env : FlowEnv) (stored : Option StoredTokenSet) (tokens : StoredTokenSet) :
    Option StoredTokenSet := if env.saveError.isSome then stored else some tokens

/-- What the store holds after a clear. -/
def afterClear (env : FlowEnv) (stored : Option StoredTokenSet) : Option StoredTokenSet :=
  if env.clearError.isSome then stored else none

/-! ### `run_refresh_loop` -/

/-- `REFRESH_MARGIN`. -/
def REFRESH_MARGIN : Duration := Duration.fromSecs (5 * 60)

/-- `REFRESH_RETRY_DELAY`. -/
def REFRESH_RETRY_DELAY : Duration := Duration.fromSecs 60

/-- `RefreshTimer`. -/
structure RefreshTimer where
  deadline : Option Instant
  deriving DecidableEq, Repr

namespace RefreshTimer

/-- `RefreshTimer::new`. -/
def new : RefreshTimer := ⟨none⟩

/-- `arm`. -/
def arm (env : FlowEnv) (expiresAt : SystemTime) : RefreshTimer :=
  let refreshAt := (SystemTime.checkedSub expiresAt REFRESH_MARGIN).getD env.systemNow
  let delay := (SystemTime.durationSince refreshAt env.systemNow).getD 0
  ⟨some (env.now + delay)⟩

/-- `disarm`. -/
def disarm : RefreshTimer := ⟨none⟩

/-- `tick` returns: a disarmed timer never does. -/
def fired (timer : RefreshTimer) (now : Instant) : Bool :=
  timer.deadline.any fun deadline => decide (deadline ≤ now)

end RefreshTimer

/-- Where `run_refresh_loop` can be suspended. -/
inductive LoopState where
  /-- Not yet polled. -/
  | spawned
  /-- In `timer.tick()`. -/
  | ticking
  /-- In `oauth.refresh`, with the answer once there is one. -/
  | refreshing (current : StoredTokenSet) (answer : Option (Option HttpResponse))
  /-- In `tokio::time::sleep`. -/
  | sleeping (until_ : Instant)
  /-- Ended by a panic. -/
  | panicked
  deriving DecidableEq, Repr

/-- `run_refresh_loop`. -/
structure RefreshLoop where
  timer : RefreshTimer
  state : LoopState
  deriving DecidableEq, Repr

namespace RefreshLoop

/-- The task just spawned. -/
def new : RefreshLoop := ⟨.new, .spawned⟩

/-- The head of the loop body, up to `timer.tick()`. -/
def top (env : FlowEnv) (stored : Option StoredTokenSet) : RefreshLoop where
  timer :=
    match env.armError, stored with
    | none, some tokens => .arm env tokens.expiresAt
    | none, none => .disarm
    | some _, _ => .disarm
  state := .ticking

/-- From the return of `timer.tick()` on. -/
def ticked (cfg : AuthConfig) (env : FlowEnv) (stored : Option StoredTokenSet) (l : RefreshLoop) :
    Resumed RefreshLoop :=
  match env.loadError with
  | some _ => ⟨{ l with state := .sleeping (env.now + REFRESH_RETRY_DELAY) }, stored, []⟩
  | none =>
    match stored with
    | none => ⟨top env stored, stored, []⟩
    | some current =>
      ⟨{ l with state := .refreshing current none }, stored,
        [.post .refreshLoop (refresh cfg.clientId current.refreshToken)]⟩

/-- From the return of `oauth.refresh` on. -/
def refreshed (env : FlowEnv) (stored : Option StoredTokenSet) (l : RefreshLoop)
    (current : StoredTokenSet)
    (result : Except AuthError TokenResponse) : Resumed RefreshLoop :=
  match result with
  | .ok resp =>
    match storeFromResponse env.systemNow resp with
    | none => ⟨{ l with state := .panicked }, stored, []⟩
    | some tokens =>
      ⟨top env (afterSave env stored tokens), afterSave env stored tokens,
        [.save .refreshLoop (some current) tokens stored]⟩
  | .error err =>
    if err = .reauthorizationRequired then
      ⟨top env (afterClear env stored), afterClear env stored, [.clear .refreshLoop current stored]⟩
    else ⟨{ l with state := .sleeping (env.now + REFRESH_RETRY_DELAY) }, stored, []⟩

/-- `run_refresh_loop` up to the next suspension. -/
def resume (cfg : AuthConfig) (env : FlowEnv) (stored : Option StoredTokenSet) (l : RefreshLoop) :
    Resumed RefreshLoop :=
  match l.state with
  | .spawned => ⟨top env stored, stored, []⟩
  | .ticking => if l.timer.fired env.now then l.ticked cfg env stored else ⟨l, stored, []⟩
  | .refreshing current answer =>
    match answer with
    | none => ⟨l, stored, []⟩
    | some response => l.refreshed env stored current (postToken response)
  | .sleeping deadline =>
    if deadline ≤ env.now then ⟨top env stored, stored, []⟩ else ⟨l, stored, []⟩
  | .panicked => ⟨l, stored, []⟩

end RefreshLoop

/-! ### `try_restore_session` -/

/-- Where `try_restore_session` can be suspended, and `try_refresh` in it. -/
inductive RestoreState where
  /-- Not running; what the last call returned. -/
  | idle (result : Option (Except AuthError (Option StoredTokenSet)))
  /-- In `client.authenticate` with the stored token. -/
  | authenticating (tokens : StoredTokenSet)
  /-- In `oauth.refresh`, with the answer once there is one. -/
  | refreshing (current : StoredTokenSet) (answer : Option (Option HttpResponse))
  /-- In `client.authenticate` with the new token. -/
  | authenticatingNew (current tokens : StoredTokenSet)
  /-- In `client.authenticate` with the stored token, the endpoint being unreachable. -/
  | authenticatingCached (current : StoredTokenSet)
  /-- Ended by a panic. -/
  | panicked

namespace RestoreState

/-- The head of `try_refresh`. -/
def tryRefresh (cfg : AuthConfig) (stored : Option StoredTokenSet) (current : StoredTokenSet) :
    Resumed RestoreState :=
  ⟨.refreshing current none, stored, [.post .restore (refresh cfg.clientId current.refreshToken)]⟩

/-- The head of `try_restore_session`. -/
def call (cfg : AuthConfig) (env : FlowEnv) (stored : Option StoredTokenSet) :
    Resumed RestoreState :=
  match env.loadError with
  | some message => ⟨.idle (some (.error (.credentialStore message))), stored, []⟩
  | none =>
    match stored with
    | none => ⟨.idle (some (.ok none)), stored, []⟩
    | some tokens =>
      if !tokens.isExpiredWithin env.systemNow 0 then
        ⟨.authenticating tokens, stored, [.authenticate tokens.accessToken]⟩
      else tryRefresh cfg stored tokens

/-- `try_refresh` from the return of `oauth.refresh` on. -/
def refreshed (env : FlowEnv) (stored : Option StoredTokenSet) (current : StoredTokenSet)
    (result : Except AuthError TokenResponse) : Resumed RestoreState :=
  match result with
  | .ok resp =>
    match storeFromResponse env.systemNow resp with
    | none => ⟨.panicked, stored, []⟩
    | some tokens => ⟨.authenticatingNew current tokens, stored, [.authenticate tokens.accessToken]⟩
  | .error err =>
    if err = .reauthorizationRequired then
      ⟨.idle (some (.ok none)), afterClear env stored, [.clear .restore current stored]⟩
    else if err = .discordUnreachable ∧ current.isExpiredWithin env.systemNow 0 = false then
      ⟨.authenticatingCached current, stored, [.authenticate current.accessToken]⟩
    else ⟨.idle (some (.error err)), stored, []⟩

/-- What a call that saves a token set returns. -/
def saveResult (env : FlowEnv) (tokens : StoredTokenSet) :
    Except AuthError (Option StoredTokenSet) :=
  match env.saveError with
  | some message => .error (.credentialStore message)
  | none => .ok (some tokens)

/-- `try_restore_session` up to the next suspension; resuming it while it does not run calls it. -/
def resume (cfg : AuthConfig) (env : FlowEnv) (stored : Option StoredTokenSet) (r : RestoreState) :
    Resumed RestoreState :=
  match r with
  | .idle _ => call cfg env stored
  | .authenticating tokens =>
    match authenticate env.reply with
    | .ok () => ⟨.idle (some (.ok (some tokens))), stored, []⟩
    | .error _ => tryRefresh cfg stored tokens
  | .refreshing current answer =>
    match answer with
    | none => ⟨r, stored, []⟩
    | some response => refreshed env stored current (postToken response)
  | .authenticatingNew current tokens =>
    match authenticate env.reply with
    | .error err => ⟨.idle (some (.error (.client err))), stored, []⟩
    | .ok () =>
      ⟨.idle (some (saveResult env tokens)), afterSave env stored tokens,
        [.save .restore (some current) tokens stored]⟩
  | .authenticatingCached current =>
    match authenticate env.reply with
    | .error err => ⟨.idle (some (.error (.client err))), stored, []⟩
    | .ok () => ⟨.idle (some (.ok (some (cloneTokenSet current)))), stored, []⟩
  | .panicked => ⟨r, stored, []⟩

end RestoreState

/-! ### `authorize_now` -/

/-- Where `authorize_now` can be suspended. -/
inductive AuthorizeState where
  /-- Not running; what the last call returned. -/
  | idle (result : Option (Except AuthError StoredTokenSet))
  /-- In `request_authorization`. -/
  | authorizing (verifier : String)
  /-- In `oauth.exchange_code`, with the answer once there is one. -/
  | exchanging (code verifier : String) (answer : Option (Option HttpResponse))
  /-- In `client.authenticate`. -/
  | authenticating (tokens : StoredTokenSet)
  /-- Ended by a panic. -/
  | panicked

namespace AuthorizeState

/-- From the return of `oauth.exchange_code` on. -/
def exchanged (env : FlowEnv) (stored : Option StoredTokenSet)
    (result : Except AuthError TokenResponse) :
    Resumed AuthorizeState :=
  match result with
  | .error err => ⟨.idle (some (.error err)), stored, []⟩
  | .ok resp =>
    match storeFromResponse env.systemNow resp with
    | none => ⟨.panicked, stored, []⟩
    | some tokens => ⟨.authenticating tokens, stored, [.authenticate tokens.accessToken]⟩

/-- What a call that saves a token set returns. -/
def saveResult (env : FlowEnv) (tokens : StoredTokenSet) : Except AuthError StoredTokenSet :=
  match env.saveError with
  | some message => .error (.credentialStore message)
  | none => .ok tokens

/-- `authorize_now` up to the next suspension; resuming it while it does not run calls it. -/
def resume (cfg : AuthConfig) (env : FlowEnv) (stored : Option StoredTokenSet)
    (a : AuthorizeState) :
    Resumed AuthorizeState :=
  match a with
  | .idle _ =>
    ⟨.authorizing env.pkce.1, stored,
      [.authorize
        { clientId := cfg.clientId
          scopes := SCOPES
          codeChallenge := env.pkce.2
          codeChallengeMethod := "S256" }]⟩
  | .authorizing verifier =>
    match requestAuthorization verifier env.reply with
    | .error err => ⟨.idle (some (.error err)), stored, []⟩
    | .ok (code, verifier) =>
      ⟨.exchanging code verifier none, stored,
        [.post .authorize (exchangeCode cfg.clientId code verifier)]⟩
  | .exchanging _ _ answer =>
    match answer with
    | none => ⟨a, stored, []⟩
    | some response => exchanged env stored (postToken response)
  | .authenticating tokens =>
    match authenticate env.reply with
    | .error err => ⟨.idle (some (.error (.client err))), stored, []⟩
    | .ok () =>
      ⟨.idle (some (saveResult env tokens)), afterSave env stored tokens,
        [.save .authorize none tokens stored]⟩
  | .panicked => ⟨a, stored, []⟩

end AuthorizeState

end VoxShift.Discord
