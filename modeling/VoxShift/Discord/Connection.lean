import VoxShift.Discord.ReadFrame
import VoxShift.Discord.Run
import VoxShift.Theory.Transit

/-!
# A connection, on the bytes of the pipe

`client.rs` from the pipe up: `handshake`, then `try_restore_session` of `auth.rs`, then
`run`. All three read frames with the one decoder of the client.

## The model

* `Stage.step` is the client on frames. `Connection.step` is the client on the bytes of
  the pipe: the reads of `read_frame`, which return chunks as they come, and the frames
  that the decoder finds in them.
* Where the client is at its `select!`, another branch may go first; `read_frame` is
  dropped then, at its `await`. The request/response helper reads and does nothing else.
* What `serde_json::from_slice` makes of a payload is a parameter. The write of the
  handshake's frame is not modelled, but for its failure.

## What is proved

* `connection_on_frames` — however the bytes are cut, the client does what it does on
  the frames; and these, encoded, are the bytes that were read, up to what is in the
  buffer.
* `nothing_before_ready` — in every run, nothing follows the handshake's frame before a
  `READY`.
-/

namespace VoxShift.Discord

open VoxShift.Core VoxShift.Theory

/-! ### On frames -/

/-- Where the client of a connection is. -/
inductive Stage where
  /-- In `handshake`, waiting for the reply. -/
  | handshaking
  /-- In `try_restore_session`; `nonce` is the one of its last command. -/
  | restoring (flow : RestoreState) (nonce : String)
  /-- In `run`. -/
  | running (client : RunState)
  /-- `handshake` has failed. -/
  | failed (err : DiscordError)
  /-- Ended by a panic. -/
  | panicked

namespace Stage

/-- The end of `send_command_with_evt`, if a move ends it. -/
def replied (nonce : String) : RunMove → Option (Except DiscordError RpcMessage)
  | .frame .frame (.ok msg) => if msg.nonce = some nonce then some (.ok msg) else none
  | .frame .frame (.error message) => some (.error (.json message))
  | .lost err => some (.error err)
  | _ => none

/-- `try_restore_session` has gone on; when it returns, `run` is called. -/
def restored (env : RunEnv) (r : Resumed RestoreState) : Stage × List Output :=
  match r.flow with
  | .idle _ =>
    let (client, requests) := subscribeAndSeedState true env.nonce
    (.running client, r.actions.map .action ++ requests)
  | .panicked => (.panicked, r.actions.map .action)
  | flow => (.restoring flow env.nonce, r.actions.map .action)

/-- `handshake` from its read on. -/
def handshake (cfg : AuthConfig) (env : RunEnv) : RunMove → Stage × List Output
  | .frame .frame (.ok msg) =>
    if msg.evt = some "READY" then restored env (RestoreState.call cfg env.flow env.stored)
    else (.failed (.handshakeRejected (msg.message.getD "no READY event received")), [])
  | .frame .frame (.error message) => (.failed (.json message), [])
  | .frame _ _ => (.failed .unexpectedHandshakeResponse, [])
  | .lost err => (.failed err, [])
  | _ => (.handshaking, [])

/-- The client from one suspension to the next. -/
def step (cfg : AuthConfig) (parseUuid : String → Option Uuid) (s : Stage) (env : RunEnv)
    (m : RunMove) : Stage × List Output :=
  match s with
  | .handshaking => handshake cfg env m
  | .restoring (.refreshing current none) _ =>
    match m with
    | .answer response =>
      restored env (RestoreState.resume cfg env.flow env.stored
        (.refreshing current (some response)))
    | _ => (s, [])
  | .restoring flow nonce =>
    match replied nonce m with
    | some reply =>
      restored env (RestoreState.resume cfg { env.flow with reply := reply } env.stored flow)
    | none => (s, [])
  | .running client =>
    let (client, outs) := client.step cfg parseUuid env m
    (.running client, outs)
  | .failed _ | .panicked => (s, [])

/-- The client is at its `select!`. -/
def selects : Stage → Bool
  | .running client => client.atSelect
  | _ => false

/-- The client calls `read_frame`. -/
def reads : Stage → Bool
  | .handshaking => true
  | .restoring (.refreshing _ none) _ => false
  | .restoring _ _ => true
  | .running client => client.atSelect || client.awaits.isSome
  | .failed _ | .panicked => false

end Stage

/-- The client of a connection as a machine on frames. -/
def stages (cfg : AuthConfig) (parseUuid : String → Option Uuid) :
    Machine Stage (RunEnv × RunMove) Output where
  step s i := s.step cfg parseUuid i.1 i.2

/-! ### On bytes -/

/-- The client, with its decoder and the call of `read_frame`. -/
structure Connection where
  pipe : PipeReader
  stage : Stage

/-- What happens to the connection. -/
inductive ConnectionMove where
  /-- `read_frame` goes on. -/
  | read (env : RunEnv) (m : ReadMove)
  /-- A write of `handshake` or of the request/response helper fails. -/
  | broken (env : RunEnv) (message : String)
  /-- `cmd_rx.recv()` returns; the write of the command may fail. -/
  | command (env : RunEnv) (cmd : Option DiscordCommand) (failed : Option DiscordError)
  /-- `authorize_rx.recv()` returns. -/
  | authorize (env : RunEnv) (request : Option Unit)
  /-- The token endpoint answers. -/
  | answer (env : RunEnv) (response : Option HttpResponse)

/-- The result of a call of `read_frame`, if it returns. -/
def ReadOutput.result? : ReadOutput → Option (Except DiscordError (OpCode × Bytes))
  | .returned result => some result
  | .took _ => none

namespace Connection

variable (cfg : AuthConfig) (parseUuid : String → Option Uuid)
  (fromSlice : Bytes → Except String RpcMessage)

/-- A client before its handshake. -/
def new : Connection := ⟨.new, .handshaking⟩

/-- What `read_frame` returns, as the client takes it. -/
def received : Except DiscordError (OpCode × Bytes) → RunMove
  | .ok (opcode, payload) => .frame opcode (fromSlice payload)
  | .error err => .lost err

/-- The client goes on; a read that is under way is dropped. -/
def advance (c : Connection) (env : RunEnv) (m : RunMove) : Connection × List Output :=
  let (stage, outs) := c.stage.step cfg parseUuid env m
  (⟨(c.pipe.step .cancel).1, stage⟩, outs)

/-- A branch of the `select!` other than `read_frame`. -/
def select (c : Connection) (env : RunEnv) (m : RunMove) : Connection × List Output :=
  if c.stage.selects ∧ c.pipe.point ≠ .asking then c.advance cfg parseUuid env m else (c, [])

/-- The connection from one suspension to the next. -/
def step (c : Connection) : ConnectionMove → Connection × List Output
  | .read _ .cancel => (c, [])
  | .read env m =>
    if c.stage.reads then
      let (pipe, outs) := c.pipe.step m
      match (outs.filterMap ReadOutput.result?).head? with
      | some result =>
        let (stage, outs) := c.stage.step cfg parseUuid env (received fromSlice result)
        (⟨pipe, stage⟩, outs)
      | none => (⟨pipe, c.stage⟩, [])
    else (c, [])
  | .broken env message =>
    if c.stage.selects ∨ c.pipe.point ≠ .outside then (c, [])
    else c.advance cfg parseUuid env (.lost (.io message))
  | .command env cmd failed => c.select cfg parseUuid env (.command cmd failed)
  | .authorize env request => c.select cfg parseUuid env (.authorize request)
  | .answer env response =>
    if c.stage.reads then (c, []) else c.advance cfg parseUuid env (.answer response)

/-- What the read path does on a move. -/
def reading (c : Connection) : ConnectionMove → List ReadOutput
  | .read _ .cancel => []
  | .read _ m => if c.stage.reads then (c.pipe.step m).2 else []
  | _ => []

/-- The bytes that a move hands to the client: those of a read that it awaits. -/
def gets (c : Connection) : ConnectionMove → Bytes
  | .read _ m => if c.stage.reads then c.pipe.gets m else []
  | _ => []

/-- What a move tells the client. -/
def told (c : Connection) (m : ConnectionMove) : List (RunEnv × RunMove) :=
  match m with
  | .read env _ => ((c.reading m).filterMap ReadOutput.result?).map fun r =>
      (env, received fromSlice r)
  | .broken env message =>
    if c.stage.selects ∨ c.pipe.point ≠ .outside then [] else [(env, .lost (.io message))]
  | .command env cmd failed =>
    if c.stage.selects ∧ c.pipe.point ≠ .asking then [(env, .command cmd failed)] else []
  | .authorize env request =>
    if c.stage.selects ∧ c.pipe.point ≠ .asking then [(env, .authorize request)] else []
  | .answer env response => if c.stage.reads then [] else [(env, .answer response)]

end Connection

/-- The connection as a machine. -/
def connection (cfg : AuthConfig) (parseUuid : String → Option Uuid)
    (fromSlice : Bytes → Except String RpcMessage) :
    Machine Connection ConnectionMove Output where
  step c m := c.step cfg parseUuid fromSlice m

/-! ### The bytes and the frames -/

theorem PipeReader.reader_cancel (s : PipeReader) : (s.step .cancel).1.reader = s.reader := by
  obtain ⟨reader, point⟩ := s
  cases point <;> rfl

theorem PipeReader.gets_cancel (s : PipeReader) : s.gets .cancel = [] := by
  obtain ⟨reader, point⟩ := s
  cases point <;> rfl

/-- A move of the read path returns from one call at most. -/
theorem PipeReader.results_step (s : PipeReader) (m : ReadMove) :
    (s.step m).2.filterMap ReadOutput.result? =
      ((s.step m).2.filterMap ReadOutput.result?).head?.toList := by
  have hlength : ∀ outs : List ReadOutput, outs.length ≤ 1 →
      outs.filterMap ReadOutput.result? = (outs.filterMap ReadOutput.result?).head?.toList := by
    intro outs h
    match outs with
    | [] => rfl
    | [.took _] => rfl
    | [.returned _] => rfl
  refine hlength _ ?_
  unfold step
  split
  · exact Nat.zero_le _
  · split <;> simp
  all_goals simp

section Feeding

variable {cfg : AuthConfig} {parseUuid : String → Option Uuid}
  {fromSlice : Bytes → Except String RpcMessage}

namespace Connection

theorem step_read (c : Connection) (env : RunEnv) (m : ReadMove) :
    (c.step cfg parseUuid fromSlice (.read env m)).1.stage =
        (stages cfg parseUuid).run c.stage (c.told fromSlice (.read env m)) ∧
      (c.step cfg parseUuid fromSlice (.read env m)).2 =
        (stages cfg parseUuid).outs c.stage (c.told fromSlice (.read env m)) := by
  by_cases hcancel : m = .cancel
  · subst hcancel
    exact ⟨rfl, rfl⟩
  by_cases hreads : c.stage.reads
  · have htold : c.told fromSlice (.read env m) =
        ((c.pipe.step m).2.filterMap ReadOutput.result?).head?.toList.map
          fun r => (env, received fromSlice r) := by
      rw [← c.pipe.results_step]
      cases m with
      | cancel => exact absurd rfl hcancel
      | call | ask | received _ | failed _ => simp only [told, reading, hreads, if_true]
    have hstep : c.step cfg parseUuid fromSlice (.read env m) =
        match ((c.pipe.step m).2.filterMap ReadOutput.result?).head? with
        | some result =>
          let (stage, outs) := c.stage.step cfg parseUuid env (received fromSlice result)
          (⟨(c.pipe.step m).1, stage⟩, outs)
        | none => (⟨(c.pipe.step m).1, c.stage⟩, []) := by
      cases m with
      | cancel => exact absurd rfl hcancel
      | call | ask | received _ | failed _ => simp only [step, hreads, if_true]
    rw [htold, hstep]
    cases ((c.pipe.step m).2.filterMap ReadOutput.result?).head? with
    | none => exact ⟨rfl, rfl⟩
    | some result => exact ⟨rfl, (List.append_nil _).symm⟩
  · cases m with
    | cancel => exact absurd rfl hcancel
    | call | ask | received _ | failed _ =>
      simp only [step, told, reading, hreads]
      exact ⟨rfl, rfl⟩

theorem step_select (c : Connection) (env : RunEnv) (m : RunMove) :
    (c.select cfg parseUuid env m).1.stage = (stages cfg parseUuid).run c.stage
        (if c.stage.selects ∧ c.pipe.point ≠ .asking then [(env, m)] else []) ∧
      (c.select cfg parseUuid env m).2 = (stages cfg parseUuid).outs c.stage
        (if c.stage.selects ∧ c.pipe.point ≠ .asking then [(env, m)] else []) := by
  unfold select
  split_ifs
  · exact ⟨rfl, (List.append_nil _).symm⟩
  · exact ⟨rfl, rfl⟩

end Connection

/-- **A move of the connection** is the client's run on what the move tells it. -/
theorem feeds : (connection cfg parseUuid fromSlice).Feeds (stages cfg parseUuid)
    Connection.stage (Connection.told fromSlice) (connection cfg parseUuid fromSlice).out := by
  have h (c : Connection) (m : ConnectionMove) :
      (c.step cfg parseUuid fromSlice m).1.stage =
          (stages cfg parseUuid).run c.stage (c.told fromSlice m) ∧
        (c.step cfg parseUuid fromSlice m).2 =
          (stages cfg parseUuid).outs c.stage (c.told fromSlice m) := by
    cases m with
    | read env m => exact c.step_read env m
    | broken env message =>
      simp only [Connection.step, Connection.told]
      split_ifs
      · exact ⟨rfl, rfl⟩
      · exact ⟨rfl, (List.append_nil _).symm⟩
    | command env cmd failed => exact c.step_select env _
    | authorize env request => exact c.step_select env _
    | answer env response =>
      simp only [Connection.step, Connection.told]
      split_ifs
      · exact ⟨rfl, rfl⟩
      · exact ⟨rfl, (List.append_nil _).symm⟩
  exact ⟨fun c m => (h c m).1, fun c m => (h c m).2⟩

theorem Connection.pipe_read (c : Connection) (env : RunEnv) (m : ReadMove) :
    ((c.step cfg parseUuid fromSlice (.read env m)).1.pipe = (c.pipe.step m).1 ∧
        c.reading (.read env m) = (c.pipe.step m).2) ∨
      ((c.step cfg parseUuid fromSlice (.read env m)).1.pipe = c.pipe ∧
        c.reading (.read env m) = []) := by
  have hpipe (r : Option (Except DiscordError (OpCode × Bytes))) :
      (match r with
        | some result =>
          let (stage, outs) := c.stage.step cfg parseUuid env (received fromSlice result)
          ((⟨(c.pipe.step m).1, stage⟩ : Connection), outs)
        | none => (⟨(c.pipe.step m).1, c.stage⟩, [])).1.pipe = (c.pipe.step m).1 := by
    cases r <;> rfl
  by_cases hreads : c.stage.reads
  · cases m with
    | cancel => exact .inr ⟨rfl, rfl⟩
    | call | ask | received _ | failed _ =>
      simp only [step, reading, hreads, if_true]
      exact .inl ⟨hpipe _, trivial⟩
  · cases m with
    | cancel => exact .inr ⟨rfl, rfl⟩
    | call | ask | received _ | failed _ =>
      simp only [step, reading, hreads]
      exact .inr ⟨rfl, rfl⟩

theorem Connection.reader_advance (c : Connection) (env : RunEnv) (m : RunMove) :
    (c.advance cfg parseUuid env m).1.pipe.reader = c.pipe.reader :=
  c.pipe.reader_cancel

theorem Connection.reader_select (c : Connection) (env : RunEnv) (m : RunMove) :
    (c.select cfg parseUuid env m).1.pipe.reader = c.pipe.reader := by
  unfold select
  split_ifs
  · exact c.reader_advance env m
  · rfl

theorem taken_reading (c : Connection) (m : ConnectionMove) :
    ReadOutput.taken (c.reading m) = c.gets m := by
  cases m with
  | read env m =>
    by_cases hreads : c.stage.reads
    · cases m with
      | cancel =>
        simp only [Connection.reading, Connection.gets, hreads, if_true, PipeReader.gets_cancel]
        rfl
      | call | ask | received _ | failed _ =>
        simp only [Connection.reading, Connection.gets, hreads, if_true]
        exact c.pipe.taken_step _
    · cases m <;> simp only [Connection.reading, Connection.gets, hreads] <;> rfl
  | broken _ _ | command _ _ _ | authorize _ _ | answer _ _ => rfl

/-- **A move of the connection** conserves the bytes. -/
theorem conserved_reading (c : Connection) (m : ConnectionMove) :
    c.pipe.reader.buf ++ c.gets m =
      (ReadOutput.frames (c.reading m)).flatMap wire ++
        ((connection cfg parseUuid fromSlice).next c m).pipe.reader.buf := by
  rw [← taken_reading]
  have hsame {c' : Connection} (hreading : c.reading m = [])
      (hreader : c'.pipe.reader = c.pipe.reader) :
      c.pipe.reader.buf ++ ReadOutput.taken (c.reading m) =
        (ReadOutput.frames (c.reading m)).flatMap wire ++ c'.pipe.reader.buf := by
    rw [hreading, hreader]
    exact List.append_nil _
  cases m with
  | read env m =>
    obtain ⟨hpipe, hreading⟩ | ⟨hpipe, hreading⟩ :=
      @Connection.pipe_read cfg parseUuid fromSlice c env m
    · simp only [Machine.next, connection, hpipe, hreading]
      rw [c.pipe.taken_step]
      exact (c.pipe.step_conserves m).symm
    · exact hsame hreading (congrArg PipeReader.reader hpipe)
  | broken env message =>
    refine hsame rfl ?_
    simp only [Machine.next, connection, Connection.step]
    split_ifs
    · rfl
    · exact c.reader_advance env _
  | command env cmd failed => exact hsame rfl (c.reader_select env _)
  | authorize env request => exact hsame rfl (c.reader_select env _)
  | answer env response =>
    refine hsame rfl ?_
    simp only [Machine.next, connection, Connection.step]
    split_ifs
    · rfl
    · exact c.reader_advance env _

end Feeding

theorem encodable_reading (c : Connection) (m : ConnectionMove) :
    ∀ frame ∈ ReadOutput.frames (c.reading m), Encodable frame := by
  unfold Connection.reading
  intro frame h
  split at h
  · cases h
  · split_ifs at h
    · exact c.pipe.step_encodable _ frame h
    · cases h
  · cases h

/-- The frame that a move tells the client. -/
def RunMove.frame? : RunMove → Option (OpCode × Except String RpcMessage)
  | .frame opcode payload => some (opcode, payload)
  | _ => none

/-- The frames of what a move tells the client are those of the read path. -/
theorem frames_told (fromSlice : Bytes → Except String RpcMessage) (c : Connection)
    (m : ConnectionMove) :
    (c.told fromSlice m).filterMap (·.2.frame?) =
      (ReadOutput.frames (c.reading m)).map fun frame => (frame.1, fromSlice frame.2) := by
  have hread (env : RunEnv) (outs : List ReadOutput) :
      ((outs.filterMap ReadOutput.result?).map fun r =>
        (env, Connection.received fromSlice r)).filterMap (·.2.frame?) =
        (ReadOutput.frames outs).map fun frame => (frame.1, fromSlice frame.2) := by
    induction outs with
    | nil => rfl
    | cons out outs ih =>
      rcases out with bytes | _ | frame
      · exact ih
      · exact ih
      · exact congrArg (_ :: ·) ih
  cases m with
  | read env m => exact hread env _
  | broken _ _ | command _ _ _ | authorize _ _ | answer _ _ =>
    simp only [Connection.told]
    split_ifs <;> rfl

/-! ### The results -/

section Results

variable (cfg : AuthConfig) (parseUuid : String → Option Uuid)
  (fromSlice : Bytes → Except String RpcMessage)

/-- The bytes that the reads of a run hand to the client. -/
def bytesTaken (ms : List ConnectionMove) : Bytes :=
  (connection cfg parseUuid fromSlice).collect Connection.gets .new ms

/-- The frames that the calls of a run return. -/
def framesRead (ms : List ConnectionMove) : List (OpCode × Bytes) :=
  (connection cfg parseUuid fromSlice).collect (fun c m => ReadOutput.frames (c.reading m)) .new ms

/-- What a run tells the client. -/
def toldBy (ms : List ConnectionMove) : List (RunEnv × RunMove) :=
  (connection cfg parseUuid fromSlice).collect (Connection.told fromSlice) .new ms

theorem outs_toldBy (ms : List ConnectionMove) :
    (connection cfg parseUuid fromSlice).outs .new ms =
      (stages cfg parseUuid).outs .handshaking (toldBy cfg parseUuid fromSlice ms) := by
  rw [← Machine.collect_out]
  exact feeds.outs .new ms

theorem frames_toldBy (ms : List ConnectionMove) :
    (toldBy cfg parseUuid fromSlice ms).filterMap (·.2.frame?) =
      (framesRead cfg parseUuid fromSlice ms).map fun frame => (frame.1, fromSlice frame.2) := by
  unfold toldBy framesRead
  rw [Machine.filterMap_collect, Machine.map_collect]
  exact Machine.collect_congr _ (Machine.along_all _ (frames_told fromSlice) _ _)

theorem bytes_taken (ms : List ConnectionMove) :
    (framesRead cfg parseUuid fromSlice ms).flatMap wire ++
        ((connection cfg parseUuid fromSlice).run .new ms).pipe.reader.buf =
      bytesTaken cfg parseUuid fromSlice ms := by
  unfold framesRead bytesTaken
  rw [Machine.flatMap_collect]
  exact (Machine.along_all _ conserved_reading .new ms).conserved.symm

theorem encodable_framesRead (ms : List ConnectionMove) :
    ∀ frame ∈ framesRead cfg parseUuid fromSlice ms, Encodable frame :=
  Machine.forall_mem_collect _ encodable_reading .new ms

theorem outs_failed (err : DiscordError) (is : List (RunEnv × RunMove)) :
    (stages cfg parseUuid).outs (.failed err) is = [] := by
  induction is with
  | nil => rfl
  | cons i is ih => exact ih

/-- Unless the first frame is a `READY`, the client does nothing. -/
theorem stages_first (is : List (RunEnv × RunMove)) :
    (stages cfg parseUuid).outs .handshaking is = [] ∨
      ∃ msg rest, is.filterMap (·.2.frame?) = (.frame, .ok msg) :: rest ∧
        msg.evt = some "READY" := by
  induction is with
  | nil => exact .inl rfl
  | cons i is ih =>
    obtain ⟨env, m⟩ := i
    cases m with
    | frame opcode payload =>
      by_cases hready : ∃ msg, opcode = .frame ∧ payload = .ok msg ∧ msg.evt = some "READY"
      · obtain ⟨msg, rfl, rfl, hevt⟩ := hready
        exact .inr ⟨msg, is.filterMap (·.2.frame?), rfl, hevt⟩
      · left
        have hstep : ∃ err, (stages cfg parseUuid).step .handshaking (env, .frame opcode payload) =
            (.failed err, []) := by
          simp only [stages, Stage.step]
          unfold Stage.handshake
          split
          · next msg heq =>
            obtain ⟨rfl, rfl⟩ := RunMove.frame.inj heq
            split_ifs with hevt
            · exact absurd ⟨msg, rfl, rfl, hevt⟩ hready
            · exact ⟨_, rfl⟩
          · exact ⟨_, rfl⟩
          · exact ⟨_, rfl⟩
          · next heq => cases heq
          · next h _ => exact (h opcode payload rfl).elim
        obtain ⟨err, hstep⟩ := hstep
        rw [Machine.outs_cons, Machine.out, Machine.next, hstep]
        exact outs_failed cfg parseUuid err is
    | lost err => exact .inl (outs_failed cfg parseUuid err is)
    | command _ _ | authorize _ | answer _ => exact ih

/-- **However the bytes are cut**: in every run of a connection the client does what it does on a
list of frames and other moves, whose frames are those that `encode` made the bytes of that the
client has read, but for the ones that wait in its buffer. -/
theorem connection_on_frames (ms : List ConnectionMove) :
    let c := (connection cfg parseUuid fromSlice).run .new ms
    ∃ (is : List (RunEnv × RunMove)) (frames : List (OpCode × Bytes)),
      c.stage = (stages cfg parseUuid).run .handshaking is ∧
      (connection cfg parseUuid fromSlice).outs .new ms =
        (stages cfg parseUuid).outs .handshaking is ∧
      is.filterMap (·.2.frame?) = frames.map (fun frame => (frame.1, fromSlice frame.2)) ∧
      (∀ frame ∈ frames, Encodable frame) ∧
      frames.flatMap wire ++ c.pipe.reader.buf = bytesTaken cfg parseUuid fromSlice ms := by
  intro c
  refine ⟨toldBy cfg parseUuid fromSlice ms, framesRead cfg parseUuid fromSlice ms,
    feeds.run .new ms, outs_toldBy cfg parseUuid fromSlice ms,
    frames_toldBy cfg parseUuid fromSlice ms,
    encodable_framesRead cfg parseUuid fromSlice ms, bytes_taken cfg parseUuid fromSlice ms⟩

/-- **Nothing before `READY`.** In every run, if the client does anything after its handshake's
frame, be it a command on the pipe, an event for the coordinator or a request to the token endpoint,
then the bytes it has read begin with a frame whose payload is a `READY` event. -/
theorem nothing_before_ready (ms : List ConnectionMove) :
    (connection cfg parseUuid fromSlice).outs .new ms = [] ∨
      ∃ payload msg rest, bytesTaken cfg parseUuid fromSlice ms = wire (.frame, payload) ++ rest ∧
        fromSlice payload = .ok msg ∧ msg.evt = some "READY" := by
  obtain hnone | ⟨msg, rest, hframes, hevt⟩ :=
    stages_first cfg parseUuid (toldBy cfg parseUuid fromSlice ms)
  · exact .inl ((outs_toldBy cfg parseUuid fromSlice ms).trans hnone)
  right
  rw [frames_toldBy] at hframes
  obtain ⟨frame, frames, hread, hfirst, -⟩ := List.map_eq_cons_iff.mp hframes
  obtain ⟨opcode, payload⟩ := frame
  obtain ⟨rfl, hpayload⟩ := Prod.mk.inj hfirst
  refine ⟨payload, msg, frames.flatMap wire ++
    ((connection cfg parseUuid fromSlice).run .new ms).pipe.reader.buf, ?_, hpayload, hevt⟩
  rw [← bytes_taken, hread, List.flatMap_cons, List.append_assoc]

end Results

end VoxShift.Discord
