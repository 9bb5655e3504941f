import VoxShift.App.Delivery

/-!
# The consent dialog

The button that asks for an authorization, from `application.rs`, and the channel
from it to the client, from `worker.rs`. *Discord is only authorized when you click
the button below — never automatically*, the settings say next to it. An `AUTHORIZE`
on the pipe makes Discord show its consent dialog.

## The model

* The worker with the channel in front of it. The client takes a request where it is
  at its `select!` and there is one. The write of the `AUTHORIZE` may fail; then the
  request is gone without a dialog.
* A supervisor that panics takes the receiver with it, and the request that waits.
* A click is answered by a text next to the button.

## What is proved

* `dialogs_step` — of all the client does, only a request taken opens a dialog.
* `asked_step` — a request accepted is on its way until it opens a dialog or is lost.
* `consent_is_asked_for` — so over all sessions there are as many dialogs as clicks
  answered with `REQUESTED`, less the requests lost and the one that waits; and the flows
  that run on their own open none.
-/

namespace VoxShift.Discord

/-- The dialog an action opens. -/
def Action.dialog? : Action → Option AuthorizeArgs
  | .authorize args => some args
  | _ => none

/-- The same, of what the client does. -/
def Output.dialog? : Output → Option AuthorizeArgs
  | .action a => a.dialog?
  | _ => none

/-- The dialogs that the client opens. -/
def dialogs (outs : List Output) : List AuthorizeArgs := outs.filterMap Output.dialog?

/-- What a request for authorization asks for. -/
def dialogArgs (cfg : AuthConfig) (env : FlowEnv) : AuthorizeArgs where
  clientId := cfg.clientId
  scopes := SCOPES
  codeChallenge := env.pkce.2
  codeChallengeMethod := "S256"

theorem dialogs_append (os ps : List Output) : dialogs (os ++ ps) = dialogs os ++ dialogs ps :=
  List.filterMap_append

@[simp] theorem dialogs_map_event (es : List Core.CoordinatorEvent) :
    dialogs (es.map .event) = [] := filterMap_map_none (fun _ => rfl) es

@[simp] theorem dialogs_map_action (as : List Action) :
    dialogs (as.map .action) = as.filterMap Action.dialog? := by
  rw [dialogs, List.filterMap_map]
  rfl

@[simp] theorem dialogs_subscribe (first : Bool) (nonce : String) (evts : List String) :
    dialogs (subscribe first nonce evts).2 = [] := by
  cases evts <;> rfl

/-! ### The flows -/

theorem AuthorizeState.dialogs_resume (cfg : AuthConfig) (env : FlowEnv)
    (stored : Option Core.StoredTokenSet) {a : AuthorizeState} (h : ∀ result, a ≠ .idle result) :
    (a.resume cfg env stored).actions.filterMap Action.dialog? = [] := by
  unfold resume
  cases a with
  | idle result => exact absurd rfl (h result)
  | authorizing verifier =>
    simp only
    split <;> rfl
  | exchanging code verifier answer =>
    simp only
    split
    · rfl
    · unfold exchanged
      split
      · rfl
      · split <;> rfl
  | authenticating tokens =>
    simp only
    split <;> rfl
  | panicked => rfl

theorem RestoreState.dialogs_resume (cfg : AuthConfig) (env : FlowEnv)
    (stored : Option Core.StoredTokenSet) (r : RestoreState) :
    (r.resume cfg env stored).actions.filterMap Action.dialog? = [] := by
  unfold resume
  cases r with
  | idle result =>
    simp only [call]
    split
    · rfl
    · split
      · rfl
      · split_ifs <;> rfl
  | authenticating tokens =>
    simp only
    split <;> rfl
  | refreshing current answer =>
    simp only
    split
    · rfl
    · unfold refreshed
      split
      · split <;> rfl
      · split_ifs <;> rfl
  | authenticatingNew current tokens | authenticatingCached current =>
    simp only
    split <;> rfl
  | panicked => rfl

theorem RefreshLoop.dialogs_resume (cfg : AuthConfig) (env : FlowEnv)
    (stored : Option Core.StoredTokenSet) (l : RefreshLoop) :
    (l.resume cfg env stored).actions.filterMap Action.dialog? = [] := by
  unfold resume
  split
  · rfl
  · unfold ticked
    split_ifs
    · split
      · rfl
      · split <;> rfl
    · rfl
  · split
    · rfl
    · unfold refreshed
      split
      · split <;> rfl
      · split_ifs <;> rfl
  · split_ifs <;> rfl
  · rfl

/-! ### The client -/

namespace RunState

variable {cfg : AuthConfig} {parseUuid : String → Option Core.Uuid}

theorem dialogs_authorized (env : RunEnv) (r : Resumed AuthorizeState) :
    dialogs (authorized env r).2 = r.actions.filterMap Action.dialog? := by
  unfold authorized
  split
  · simp only [subscribeAndSeedState, dialogs_append, dialogs_map_action, dialogs_subscribe,
      List.append_nil]
  · simp only [dialogs_append, dialogs_map_action]
    exact List.append_nil _
  · exact dialogs_map_action r.actions
  · exact dialogs_map_action r.actions

theorem ne_idle_of_awaits {flow : AuthorizeState} {nonce : String}
    (h : (RunState.authorizing flow nonce).awaits.isSome)
    (result : Option (Except AuthError Core.StoredTokenSet)) : flow ≠ .idle result := by
  rintro rfl
  cases h

theorem ne_idle_of_resumes {flow : AuthorizeState} {nonce : String} {env : RunEnv} {m : RunMove}
    {r : AuthorizeState × FlowEnv} (h : (RunState.authorizing flow nonce).resumes env m = some r)
    (result : Option (Except AuthError Core.StoredTokenSet)) : r.1 ≠ .idle result := by
  unfold resumes at h
  split at h
  · next heq => cases heq
  · rw [← Option.some.inj h]
    rintro ⟨⟩
  · next heq =>
    cases heq
    split_ifs at h with hif
    rw [← Option.some.inj h]
    exact ne_idle_of_awaits hif.1 result
  · next heq =>
    cases heq
    split_ifs at h with hif
    rw [← Option.some.inj h]
    exact ne_idle_of_awaits hif result
  · next heq =>
    cases heq
    split_ifs at h with hif
    rw [← Option.some.inj h]
    exact ne_idle_of_awaits hif result
  · cases h

/-- **Only a request taken opens a dialog.** -/
theorem dialogs_step (s : RunState) (env : RunEnv) {m : RunMove}
    (h : ∀ request, m ≠ .authorize request) : dialogs (s.step cfg parseUuid env m).2 = [] := by
  cases s with
  | select =>
    cases m with
    | frame opcode payload =>
      cases opcode with
      | frame => exact dialogs_map_event _
      | handshake | close | ping | pong => rfl
    | command cmd failed =>
      cases cmd with
      | none => rfl
      | some _ => cases failed <;> rfl
    | authorize request => exact absurd rfl (h request)
    | lost err | answer response => rfl
  | subscribing first evt rest nonce =>
    obtain ⟨msg, heq⟩ | ⟨err, heq⟩ | heq := step_subscribing_cases first evt rest nonce env m
    · rw [heq, dialogs_append, dialogs_map_event, dialogs_subscribe]
      rfl
    · rw [heq]
      rfl
    · rw [heq]
      rfl
  | fetching first nonce =>
    obtain ⟨msg, -, -, heq⟩ | ⟨err, heq⟩ | heq := step_fetching_cases first nonce env m
    · rw [heq]
      exact dialogs_map_event _
    · rw [heq]
      rfl
    · rw [heq]
      rfl
  | authorizing flow nonce =>
    unfold step authorizeNow
    cases hr : (RunState.authorizing flow nonce).resumes env m with
    | none => rfl
    | some r =>
      exact (dialogs_authorized env _).trans
        (AuthorizeState.dialogs_resume cfg r.2 env.stored (ne_idle_of_resumes hr))
  | returned err | panicked => rfl

end RunState

end VoxShift.Discord

namespace VoxShift.App

open VoxShift.Core VoxShift.Discord VoxShift.Theory

/-! ### The worker -/

section Steps

variable {cfg : AuthConfig} {parseUuid : String → Option Uuid}

theorem Supervisor.dialogs_ran (attempt : ℕ) (r : RunState × List Output) :
    dialogs (ran attempt r).2 = dialogs r.2 := by
  unfold ran
  split
  · exact (dialogs_append r.2 _).trans (List.append_nil _)
  · rfl
  · rfl

theorem Supervisor.dialogs_step (s : Supervisor) {m : SupervisorMove}
    (h : ∀ env request, m ≠ .run env (.authorize request)) :
    dialogs (s.step cfg parseUuid m).2 = [] := by
  unfold step
  cases m with
  | connected failed =>
    simp only
    split <;> rfl
  | restored nonce =>
    simp only
    split
    · rw [dialogs_ran]
      exact dialogs_subscribe _ _ _
    · rfl
    · rfl
  | run env m =>
    simp only
    split
    · next client _ =>
      rw [dialogs_ran]
      exact client.dialogs_step env fun request heq => h env request (heq ▸ rfl)
    · rfl
  | woken =>
    simp only
    split <;> rfl

/-- Only a request for authorization opens a dialog. -/
theorem Worker.dialogs_step (w : Worker) {m : WorkerMove}
    (h : ∀ env request, m ≠ .discord (.run env (.authorize request))) :
    dialogs (w.step cfg parseUuid m).2 = [] := by
  cases m with
  | discord m =>
    show dialogs (w.discord cfg parseUuid m).2 = []
    obtain ⟨heq, -⟩ | ⟨r, -, htold, heq⟩ := w.discord_cases cfg parseUuid m
    · rw [heq]
      rfl
    · rw [heq]
      refine Supervisor.dialogs_step _ fun env request hr => ?_
      unfold told at htold
      split at htold
      · split_ifs at htold
        obtain ⟨_, -, rfl⟩ := Option.map_eq_some_iff.mp htold
        cases hr
      · obtain rfl := Option.some.inj htold
        exact h env request (congrArg _ hr)
  | turn _ _ | issue | report | packet _ | forward | toggle _ | degrade => rfl

theorem Worker.dialogs_authorize {w : Worker} (env : RunEnv) (hreporting : w.reporting = [])
    (hselect : w.supervisor.atSelect) :
    dialogs (w.step cfg parseUuid (.discord (.run env (.authorize (some ()))))).2 =
      [dialogArgs cfg env.flow] := by
  have htold : w.told (.run env (.authorize (some ()))) =
      some (.run env (.authorize (some ())), w.discordCommands) := rfl
  show dialogs (w.discord cfg parseUuid _).2 = _
  unfold discord
  rw [hreporting, htold]
  simp only [Supervisor.step, eq_select_of_atSelect hselect, Supervisor.dialogs_ran]
  rfl

end Steps

/-! ### The button -/

/-- What is shown after a click that is passed on. -/
def REQUESTED : String := "Requested — check Discord for the authorization prompt."

/-- What is shown after one that is not. -/
def NOT_CONNECTED : String := "Discord isn't connected right now; try again once it is."

/-- The supervisor's task has ended by a panic. -/
def Supervisor.hasPanicked (s : Supervisor) : Bool :=
  match s.state with
  | .panicked => true
  | _ => false

/-- The worker, with the button for the authorization. -/
structure Asking where
  worker : Worker
  /-- `authorize_rx`, of `mpsc::channel::<()>(1)`. -/
  requests : Channel Unit 1
  /-- `discord-auth-message`. -/
  message : String

/-- What happens next. -/
inductive AskMove where
  /-- The user clicks. -/
  | clicked
  /-- The worker goes on. A request its client takes is that of the channel. -/
  | worker (m : WorkerMove)
  /-- The client takes the request, and the write of the `AUTHORIZE` fails. -/
  | unwritten (env : RunEnv) (err : DiscordError)

namespace Asking

/-- `on_reauthorize_discord`. -/
def reauthorize (a : Asking) : Asking :=
  if a.worker.supervisor.hasPanicked then { a with message := NOT_CONNECTED }
  else
    match a.requests.send? () with
    | some requests => { a with requests := requests, message := REQUESTED }
    | none => { a with message := NOT_CONNECTED }

/-- The client can take the request. -/
def ready (a : Asking) : Bool := a.worker.reporting.isEmpty && a.worker.supervisor.atSelect

/-- What the worker is told, and the requests left; `none` if the client takes none. -/
def told (a : Asking) : WorkerMove → Option (WorkerMove × Channel Unit 1)
  | .discord (.run env (.authorize _)) =>
    if a.ready then
      a.requests.recv?.map fun (request, rest) =>
        (.discord (.run env (.authorize (some request))), rest)
    else none
  | m => some (m, a.requests)

/-- What is left of the requests when the worker has gone on. -/
def kept (worker : Worker) (rest : Channel Unit 1) : Channel Unit 1 :=
  if worker.supervisor.hasPanicked then .empty else rest

/-- The worker goes on. -/
def work (cfg : AuthConfig) (parseUuid : String → Option Uuid) (a : Asking) (m : WorkerMove) :
    Asking × List Output :=
  match a.told m with
  | some (m, rest) =>
    let (worker, outs) := a.worker.step cfg parseUuid m
    ({ a with worker := worker, requests := kept worker rest }, outs)
  | none => (a, [])

/-- A request that gets to no dialog: `authorize_now` returns the error of the write, as it returns
that of a pipe lost while it waits for the reply. -/
def unwritten (cfg : AuthConfig) (parseUuid : String → Option Uuid) (a : Asking) (env : RunEnv)
    (err : DiscordError) : Asking × List Output :=
  match if a.ready then a.requests.recv? else none with
  | some (request, rest) =>
    let asked := (a.worker.step cfg parseUuid (.discord (.run env (.authorize (some request))))).1
    let (worker, outs) := asked.step cfg parseUuid (.discord (.run env (.lost err)))
    ({ a with worker := worker, requests := rest }, outs)
  | none => (a, [])

/-- One move. -/
def step (cfg : AuthConfig) (parseUuid : String → Option Uuid) (a : Asking) :
    AskMove → Asking × List Output
  | .clicked => (a.reauthorize, [])
  | .worker m => a.work cfg parseUuid m
  | .unwritten env err => a.unwritten cfg parseUuid env err

/-- The program just started. -/
def start (config : CoordinatorConfig) : Asking := ⟨.start config, .empty, ""⟩

/-- What a click is answered with. -/
def answer (a : Asking) : AskMove → List String
  | .clicked => [a.reauthorize.message]
  | .worker _ | .unwritten _ _ => []

/-- The requests that are lost: by a write that fails, or by a panic of the supervisor. -/
def lost (cfg : AuthConfig) (parseUuid : String → Option Uuid) (a : Asking) : AskMove → List Unit
  | .clicked => []
  | .worker m =>
    match a.told m with
    | some (m, rest) =>
      if (a.worker.step cfg parseUuid m).1.supervisor.hasPanicked then rest.items else []
    | none => []
  | .unwritten _ _ => if a.ready then a.requests.items.take 1 else []

end Asking

/-- The worker with the button as a machine; it emits what the worker does. -/
def asking (cfg : AuthConfig) (parseUuid : String → Option Uuid) :
    Machine Asking AskMove Output where
  step a m := a.step cfg parseUuid m

section Runs

variable {cfg : AuthConfig} {parseUuid : String → Option Uuid}

/-- A click is passed on as a request, or it is answered otherwise. -/
theorem Asking.reauthorize_cases (a : Asking) :
    (a.reauthorize.requests.items = a.requests.items ++ [()] ∧
        a.reauthorize.message = REQUESTED) ∨
      (a.reauthorize.requests.items = a.requests.items ∧
        a.reauthorize.message = NOT_CONNECTED) := by
  unfold reauthorize
  split_ifs
  · exact .inr ⟨rfl, rfl⟩
  · split
    · next requests heq => exact .inl ⟨Channel.items_of_send? heq, rfl⟩
    · exact .inr ⟨rfl, rfl⟩

/-- The requests left when the client has taken what it takes are kept or lost. -/
theorem Asking.lost_append_work {a : Asking} {m m' : WorkerMove} {rest : Channel Unit 1}
    (htold : a.told m = some (m', rest)) :
    a.lost cfg parseUuid (.worker m) ++ (a.work cfg parseUuid m).1.requests.items =
      rest.items := by
  simp only [lost, work, htold, kept]
  split_ifs
  · exact List.append_nil _
  · rfl

theorem Asking.work_snd {a : Asking} {m m' : WorkerMove} {rest : Channel Unit 1}
    (htold : a.told m = some (m', rest)) :
    (a.work cfg parseUuid m).2 = (a.worker.step cfg parseUuid m').2 := by
  simp only [work, htold]

/-- The worker takes a request and opens its dialog, or it takes none and opens none. -/
theorem Asking.work_cases (a : Asking) (m : WorkerMove) :
    (∃ env : RunEnv,
        a.requests.items = () :: (a.lost cfg parseUuid (.worker m) ++
          (a.work cfg parseUuid m).1.requests.items) ∧
        dialogs (a.work cfg parseUuid m).2 = [dialogArgs cfg env.flow]) ∨
      (a.requests.items = a.lost cfg parseUuid (.worker m) ++
          (a.work cfg parseUuid m).1.requests.items ∧
        dialogs (a.work cfg parseUuid m).2 = []) := by
  cases htold : a.told m with
  | none =>
    refine .inr ?_
    simp only [lost, work, htold]
    exact ⟨rfl, rfl⟩
  | some r =>
    rw [lost_append_work htold, work_snd htold]
    unfold told at htold
    split at htold
    · next env _ =>
      split_ifs at htold with hif
      obtain ⟨⟨request, rest⟩, hrecv, rfl⟩ := Option.map_eq_some_iff.mp htold
      rw [ready, Bool.and_eq_true, List.isEmpty_iff] at hif
      exact .inl ⟨env, Channel.items_of_recv? hrecv, Worker.dialogs_authorize env hif.1 hif.2⟩
    · next hno =>
      obtain rfl := Option.some.inj htold
      exact .inr ⟨rfl, Worker.dialogs_step a.worker fun env request heq => hno env request heq⟩

theorem Asking.unwritten_lost (a : Asking) (env : RunEnv) (err : DiscordError) :
    a.requests.items = a.lost cfg parseUuid (.unwritten env err) ++
        (a.unwritten cfg parseUuid env err).1.requests.items ∧
      dialogs (a.unwritten cfg parseUuid env err).2 = [] := by
  unfold unwritten lost
  by_cases hready : a.ready = true
  · simp only [if_pos hready]
    cases hrecv : a.requests.recv? with
    | none =>
      rw [Channel.recv?_eq_none.mp hrecv]
      exact ⟨rfl, rfl⟩
    | some r =>
      refine ⟨?_, Worker.dialogs_step _ (by simp)⟩
      rw [Channel.items_of_recv? hrecv]
      rfl
  · simp only [if_neg hready]
    exact ⟨rfl, rfl⟩

/-- A click that is passed on. -/
def passedOn (answer : String) : Option Unit := if answer = REQUESTED then some () else none

theorem length_passedOn (answers : List String) :
    (answers.filterMap passedOn).length = answers.count REQUESTED := by
  rw [List.length_filterMap_eq_countP, List.count]
  refine List.countP_congr fun answer _ => ?_
  unfold passedOn
  split_ifs with h <;> simp [h]

/-- A request accepted is on its way until it opens a dialog or is lost. -/
theorem Asking.asked_step (a : Asking) (m : AskMove) :
    a.requests.items ++ (a.answer m).filterMap passedOn =
      ((dialogs (a.step cfg parseUuid m).2).map (fun _ => ()) ++ a.lost cfg parseUuid m) ++
        (a.step cfg parseUuid m).1.requests.items := by
  cases m with
  | clicked =>
    show _ ++ [a.reauthorize.message].filterMap passedOn = [] ++ a.reauthorize.requests.items
    obtain ⟨hitems, hmessage⟩ | ⟨hitems, hmessage⟩ := a.reauthorize_cases
    · rw [hitems, hmessage]
      rfl
    · rw [hitems, hmessage]
      exact List.append_nil _
  | worker m =>
    show _ ++ [] = ((dialogs (a.work cfg parseUuid m).2).map (fun _ => ()) ++
      a.lost cfg parseUuid (.worker m)) ++ (a.work cfg parseUuid m).1.requests.items
    rw [List.append_nil, List.append_assoc]
    obtain ⟨env, hitems, hdialogs⟩ | ⟨hitems, hdialogs⟩ := a.work_cases m
    · rw [hdialogs]
      exact hitems
    · rw [hdialogs]
      exact hitems
  | unwritten env err =>
    show _ ++ [] = ((dialogs (a.unwritten cfg parseUuid env err).2).map (fun _ => ()) ++
      a.lost cfg parseUuid (.unwritten env err)) ++
        (a.unwritten cfg parseUuid env err).1.requests.items
    obtain ⟨hitems, hdialogs⟩ := @unwritten_lost cfg parseUuid a env err
    rw [List.append_nil, hdialogs]
    exact hitems

/-- A dialog is for this application, and for these scopes. -/
theorem Asking.dialogs_args (a : Asking) (m : AskMove) :
    ∀ args ∈ dialogs (a.step cfg parseUuid m).2,
      args.clientId = cfg.clientId ∧ args.scopes = SCOPES := by
  intro args hargs
  cases m with
  | clicked => cases hargs
  | worker m =>
    have hargs : args ∈ dialogs (a.work cfg parseUuid m).2 := hargs
    obtain ⟨env, -, hdialogs⟩ | ⟨-, hdialogs⟩ := @work_cases cfg parseUuid a m
    · rw [hdialogs, List.mem_singleton] at hargs
      rw [hargs]
      exact ⟨rfl, rfl⟩
    · rw [hdialogs] at hargs
      cases hargs
  | unwritten env err =>
    have hargs : args ∈ dialogs (a.unwritten cfg parseUuid env err).2 := hargs
    rw [(@unwritten_lost cfg parseUuid a env err).2] at hargs
    cases hargs

variable (cfg) (parseUuid)

/-- **Never automatically.** In every run, over all sessions, there are as many consent dialogs as
clicks answered with `REQUESTED`, less the requests that a failed write or a panic of the supervisor
has lost and the one that waits, if there is one; each dialog is for this application and these
scopes; and neither a session that is restored nor the refresh of the tokens opens one. -/
theorem consent_is_asked_for (config : CoordinatorConfig) (ms : List AskMove) :
    let M := asking cfg parseUuid
    let opened := dialogs (M.outs (.start config) ms)
    (M.collect Asking.answer (.start config) ms).count REQUESTED =
        opened.length + (M.collect (Asking.lost cfg parseUuid) (.start config) ms).length +
          (M.run (.start config) ms).requests.items.length ∧
      (∀ args ∈ opened, args.clientId = cfg.clientId ∧ args.scopes = SCOPES) ∧
      ∀ env stored, (∀ r : RestoreState,
          (r.resume cfg env stored).actions.filterMap Action.dialog? = []) ∧
        ∀ l : RefreshLoop, (l.resume cfg env stored).actions.filterMap Action.dialog? = [] := by
  intro M opened
  have hopened : opened = M.collect (fun a m => dialogs (M.out a m)) (.start config) ms := by
    show (M.outs _ ms).filterMap Output.dialog? = _
    rw [← M.collect_out, M.filterMap_collect]
    rfl
  have hconserved : (M.collect Asking.answer (.start config) ms).filterMap passedOn =
      M.collect (fun a m => (dialogs (M.out a m)).map (fun _ => ()) ++ a.lost cfg parseUuid m)
        (.start config) ms ++ (M.run (.start config) ms).requests.items := by
    have hrun := Machine.Along.conserved (M := M)
      (M.along_all (fun a m => a.asked_step m) (.start config) ms)
    rw [M.filterMap_collect]
    exact hrun
  refine ⟨?_, ?_, fun env stored => ⟨fun r => r.dialogs_resume cfg env stored, fun l =>
    l.dialogs_resume cfg env stored⟩⟩
  · have hlength := congrArg List.length hconserved
    rw [List.length_append, length_passedOn, M.length_collect_append, ← M.map_collect,
      List.length_map, ← hopened] at hlength
    exact hlength
  · rw [hopened]
    exact M.forall_mem_collect (fun a m => a.dialogs_args m) _ _

end Runs

end VoxShift.App
