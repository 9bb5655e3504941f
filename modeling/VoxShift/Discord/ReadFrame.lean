import VoxShift.Discord.Auth
import VoxShift.Discord.Frame
import VoxShift.Theory.Transit

/-!
# Reading frames from the pipe

`client.rs`: `read_frame`, which asks the decoder for a frame and reads from the pipe
only when there is none yet.

## The model

* A call stands before `try_read_frame`, or at the `await` of the pipe's `read`. There
  `select!` may drop it; the bytes it has pushed stay in the decoder, and a read that
  has not returned has taken nothing from the pipe.
* A read returns at most `READ_CHUNK` bytes, the size of the buffer it is given.

## What is proved

* `restores_wire` — a frame is taken out of the decoder's buffer with exactly the bytes
  that `encode` gives for it.
* `read_path_conserves` — the frames returned and the bytes in the buffer make up what
  the reads have handed over, and the buffer is bounded.
-/

namespace VoxShift.Discord

open VoxShift.Theory

/-- `READ_CHUNK`. -/
def READ_CHUNK : ℕ := 4096

/-- `Display` of `FrameError`. -/
def FrameError.display : FrameError → String
  | .unknownOpCode value => "unknown discord rpc opcode: " ++ toString value
  | .tooLarge len =>
    "frame exceeds the " ++ toString MAX_FRAME_LEN ++ " byte limit: " ++ toString len ++ " bytes"

/-- Where a call of `read_frame` stands. -/
inductive ReadPoint where
  /-- No call is under way. -/
  | outside
  /-- Before `try_read_frame`. -/
  | asking
  /-- At the `await` of `self.pipe.read`. -/
  | reading
  deriving DecidableEq, Repr

/-- The decoder of the client, and the call of `read_frame` that is under way. -/
structure PipeReader where
  reader : FrameReader
  point : ReadPoint
  deriving DecidableEq, Repr

/-- What a read of the pipe returns: `&buf[..n]` of a buffer of `READ_CHUNK` bytes. -/
abbrev ReadChunk := {chunk : Bytes // chunk.length ≤ READ_CHUNK}

/-- What happens to the call. -/
inductive ReadMove where
  /-- `read_frame` is called. -/
  | call
  /-- The call goes on to `try_read_frame`. -/
  | ask
  /-- The read returns; with no bytes if the pipe is closed. -/
  | received (chunk : ReadChunk)
  /-- The read fails. -/
  | failed (message : String)
  /-- `select!` drops the call. -/
  | cancel

/-- What the call does. -/
inductive ReadOutput where
  /-- Bytes are taken from the pipe. -/
  | took (bytes : Bytes)
  /-- `read_frame` returns. -/
  | returned (result : Except DiscordError (OpCode × Bytes))

namespace PipeReader

/-- `DiscordRpcClient` before its first read. -/
def new : PipeReader := ⟨.new, .outside⟩

/-- `read_frame`, from one point to the next. -/
def step (s : PipeReader) (m : ReadMove) : PipeReader × List ReadOutput :=
  match s.point, m with
  | .outside, .call => ({ s with point := .asking }, [])
  | .asking, .ask =>
    match s.reader.tryReadFrame with
    | (.ok (some frame), reader) => (⟨reader, .outside⟩, [.returned (.ok frame)])
    | (.ok none, reader) => (⟨reader, .reading⟩, [])
    | (.error e, reader) => (⟨reader, .outside⟩, [.returned (.error (.frame e.display))])
  | .reading, .received ⟨[], _⟩ => ({ s with point := .outside }, [.returned (.error .pipeClosed)])
  | .reading, .received ⟨chunk, _⟩ => (⟨s.reader.push chunk, .asking⟩, [.took chunk])
  | .reading, .failed message =>
    ({ s with point := .outside }, [.returned (.error (.io message))])
  | .reading, .cancel => ({ s with point := .outside }, [])
  | _, _ => (s, [])

/-- The bytes that a move hands over: those of the read that is awaited. -/
def gets (s : PipeReader) (m : ReadMove) : Bytes :=
  match s.point, m with
  | .reading, .received chunk => chunk
  | _, _ => []

end PipeReader

/-- The client's read path as a machine. -/
def pipeReader : Machine PipeReader ReadMove ReadOutput where
  step := PipeReader.step

namespace ReadOutput

/-- The bytes taken from the pipe. -/
def bytes : ReadOutput → Bytes
  | .took bytes => bytes
  | .returned _ => []

/-- The frame returned. -/
def frame? : ReadOutput → Option (OpCode × Bytes)
  | .returned (.ok frame) => some frame
  | _ => none

/-- The frames that calls have returned, in order. -/
def frames (outs : List ReadOutput) : List (OpCode × Bytes) := outs.filterMap frame?

/-- All bytes taken from the pipe. -/
def taken (outs : List ReadOutput) : Bytes := outs.flatMap bytes

theorem frames_append (os os' : List ReadOutput) : frames (os ++ os') = frames os ++ frames os' :=
  List.filterMap_append

end ReadOutput

/-! ### What the decoder takes out of its buffer -/

/-- A frame that is given stands at the front of the buffer as `encode` writes it. -/
theorem eq_of_readBuf {buf rest : Bytes} {frame : OpCode × Bytes}
    (h : readBuf buf = .ok (some (frame, rest))) :
    Encodable frame ∧ buf = wire frame ++ rest := by
  have hlong : ¬ buf.length < 8 := fun hshort => by
    rw [readBuf_of_short hshort] at h
    cases h
  obtain ⟨opcode, len, body, rfl⟩ := exists_header (Nat.not_lt.mp hlong)
  rw [readBuf_of_header] at h
  split_ifs at h with hlarge hcut
  · cases h
  · cases hop : OpCode.tryFrom opcode with
    | error e =>
      rw [hop] at h
      cases h
    | ok op =>
      rw [hop] at h
      cases h
      have hlen : (body.take len.toNat).length = len.toNat := by
        rw [List.length_take]
        omega
      have hword : UInt32.ofNat (body.take len.toNat).length = len := by
        rw [hlen]
        exact UInt32.ofNat_toNat
      refine ⟨?_, ?_⟩
      · show (body.take len.toNat).length ≤ MAX_FRAME_LEN
        omega
      · simp only [wire, frameBytes, hword, OpCode.toU32_of_tryFrom hop, List.append_assoc,
          List.take_append_drop]

/-- **Decoding takes what encoding gives.** -/
theorem restores_wire : framing.Restores Encodable wire where
  valid h := (eq_of_readBuf h).1
  bytes h := (eq_of_readBuf h).2

/-- Where no frame is given yet, the buffer is shorter than a header and the longest payload. -/
theorem length_of_readBuf_none {buf : Bytes} (h : readBuf buf = .ok none) :
    buf.length < 8 + MAX_FRAME_LEN := by
  by_cases hshort : buf.length < 8
  · omega
  · obtain ⟨opcode, len, body, rfl⟩ := exists_header (Nat.not_lt.mp hshort)
    rw [readBuf_of_header] at h
    split_ifs at h with hlarge hcut
    · simp only [List.length_append, length_toLeBytes]
      omega
    · cases hop : OpCode.tryFrom opcode with
      | error e =>
        rw [hop] at h
        cases h
      | ok op =>
        rw [hop] at h
        cases h

/-! ### Runs -/

namespace PipeReader

open ReadOutput

/-- What one move does. -/
inductive Does (s s' : PipeReader) (outs : List ReadOutput) : Prop where
  /-- The decoder is left alone, and no frame is returned. -/
  | idle (hreader : s'.reader = s.reader)
      (hpoint : s'.point ≠ .reading ∨ readBuf s.reader.buf = .ok none ∨ s' = s)
      (hframes : frames outs = []) (htaken : taken outs = [])
  /-- A frame is returned. -/
  | returns {frame : OpCode × Bytes} {rest : Bytes}
      (hread : readBuf s.reader.buf = .ok (some (frame, rest))) (hnext : s' = ⟨⟨rest⟩, .outside⟩)
      (houts : outs = [.returned (.ok frame)])
  /-- Bytes come from the pipe. -/
  | takes (hpoint : s.point = .reading) (chunk : ReadChunk)
      (hnext : s' = ⟨s.reader.push chunk, .asking⟩) (houts : outs = [.took chunk])

/-- **One move**, case by case. -/
theorem does_step (s : PipeReader) (m : ReadMove) : Does s (s.step m).1 (s.step m).2 := by
  obtain ⟨reader, point⟩ := s
  cases point with
  | outside =>
    cases m with
    | call => exact .idle rfl (.inl nofun) rfl rfl
    | ask | received _ | failed _ | cancel => exact .idle rfl (.inr (.inr rfl)) rfl rfl
  | asking =>
    cases m with
    | ask =>
      simp only [step, tryReadFrame_eq]
      rcases hread : readBuf reader.buf with e | _ | ⟨frame, rest⟩
      · exact .idle rfl (.inl nofun) rfl rfl
      · exact .idle rfl (.inr (.inl hread)) rfl rfl
      · exact .returns hread rfl rfl
    | call | received _ | failed _ | cancel => exact .idle rfl (.inr (.inr rfl)) rfl rfl
  | reading =>
    cases m with
    | received chunk =>
      obtain ⟨bytes, hbytes⟩ := chunk
      cases bytes with
      | nil => exact .idle rfl (.inl nofun) rfl rfl
      | cons b bytes => exact .takes rfl ⟨b :: bytes, hbytes⟩ rfl rfl
    | failed _ => exact .idle rfl (.inl nofun) rfl rfl
    | cancel => exact .idle rfl (.inl nofun) rfl rfl
    | call | ask => exact .idle rfl (.inr (.inr rfl)) rfl rfl

/-- **One move** takes from the pipe what the read hands over, and nothing else. -/
theorem taken_step (s : PipeReader) (m : ReadMove) : taken (s.step m).2 = s.gets m := by
  obtain ⟨reader, point⟩ := s
  cases point with
  | outside => cases m <;> rfl
  | asking =>
    cases m with
    | ask =>
      simp only [step, gets]
      split <;> rfl
    | call | received _ | failed _ | cancel => rfl
  | reading =>
    cases m with
    | received chunk =>
      obtain ⟨bytes, hbytes⟩ := chunk
      cases bytes with
      | nil => rfl
      | cons b bytes => exact List.append_nil _
    | call | ask | failed _ | cancel => rfl

/-- **One move** conserves the bytes: what it returns and what it leaves is what was there and what
was read. -/
theorem step_conserves (s : PipeReader) (m : ReadMove) :
    Framing.stream wire (frames (s.step m).2) ++ (s.step m).1.reader.buf =
      s.reader.buf ++ s.gets m := by
  rw [← taken_step]
  cases does_step s m with
  | idle hreader _ hframes htaken =>
    rw [hreader, hframes, htaken, List.append_nil]
    rfl
  | @returns frame rest hread hnext houts =>
    rw [hnext, houts, restores_wire.bytes hread]
    show (wire frame ++ []) ++ rest = (wire frame ++ rest) ++ []
    rw [List.append_nil, List.append_nil]
  | takes _ chunk hnext houts =>
    rw [hnext, houts]
    show s.reader.buf ++ chunk.1 = s.reader.buf ++ (chunk.1 ++ [])
    rw [List.append_nil]

/-- **One move** returns only what can be encoded. -/
theorem step_encodable (s : PipeReader) (m : ReadMove) :
    ∀ frame ∈ frames (s.step m).2, Encodable frame := by
  intro frame hframe
  cases does_step s m with
  | idle _ _ hframes _ =>
    rw [hframes] at hframe
    cases hframe
  | returns hread _ houts =>
    rw [houts] at hframe
    obtain rfl := List.mem_singleton.mp hframe
    exact restores_wire.valid hread
  | takes _ chunk _ houts =>
    rw [houts] at hframe
    cases hframe

/-- The buffer is bounded, the more so when a read is under way. -/
structure Bounded (s : PipeReader) : Prop where
  any : s.reader.buf.length < 8 + MAX_FRAME_LEN + READ_CHUNK
  reading : s.point = .reading → s.reader.buf.length < 8 + MAX_FRAME_LEN

theorem bounded_new : Bounded new := ⟨by decide, nofun⟩

/-- **One move** keeps the bound. -/
theorem Bounded.step {s : PipeReader} (h : Bounded s) (m : ReadMove) : Bounded (s.step m).1 := by
  cases does_step s m with
  | idle hreader hpoint _ _ =>
    refine ⟨hreader ▸ h.any, fun hreading => ?_⟩
    rw [hreader]
    rcases hpoint with hpoint | hread | hsame
    · exact absurd hreading hpoint
    · exact length_of_readBuf_none hread
    · exact h.reading (hsame ▸ hreading)
  | returns hread hnext _ =>
    have hlt := readBuf_progress hread
    rw [hnext]
    exact ⟨Nat.lt_trans hlt h.any, nofun⟩
  | takes hpoint chunk hnext _ =>
    have hbuf := h.reading hpoint
    have hchunk := chunk.2
    rw [hnext]
    refine ⟨?_, nofun⟩
    show (s.reader.buf ++ chunk.1).length < _
    rw [List.length_append]
    omega

end PipeReader

open ReadOutput

theorem run_conserves (s : PipeReader) (moves : List ReadMove) :
    Framing.stream wire (frames (pipeReader.outs s moves)) ++ (pipeReader.run s moves).reader.buf =
      s.reader.buf ++ pipeReader.collect PipeReader.gets s moves := by
  induction moves generalizing s with
  | nil => exact (List.append_nil _).symm
  | cons m moves ih =>
    have hstep : Framing.stream wire (frames (pipeReader.out s m)) ++
        (pipeReader.next s m).reader.buf = s.reader.buf ++ s.gets m :=
      s.step_conserves m
    rw [Machine.outs_cons, Machine.run_cons, Machine.collect_cons, frames_append,
      Framing.stream_append, List.append_assoc, ih, ← List.append_assoc, hstep, List.append_assoc]

theorem run_encodable (s : PipeReader) (moves : List ReadMove) :
    ∀ frame ∈ frames (pipeReader.outs s moves), Encodable frame := by
  induction moves generalizing s with
  | nil => nofun
  | cons m moves ih =>
    rw [Machine.outs_cons, frames_append]
    intro frame hframe
    rcases List.mem_append.mp hframe with hnow | hlater
    · exact s.step_encodable m frame hnow
    · exact ih (pipeReader.next s m) frame hlater

/-- **The read path conserves bytes, in a bounded buffer.** Take any run of `read_frame` calls: any
reads of at most `READ_CHUNK` bytes, any frames and lengths announced, calls dropped at any reads
and taken up again, errors and all. At every moment of it, what `encode` gives for the frames
returned so far, followed by the bytes in the decoder's buffer, is what the awaited reads of the
pipe have handed over; and the buffer holds fewer than `8 + MAX_FRAME_LEN + READ_CHUNK` bytes. -/
theorem read_path_conserves (moves : List ReadMove) :
    (∃ encoded : List Bytes,
      (frames (pipeReader.outs .new moves)).mapM (fun frame => encode frame.1 frame.2) =
          .ok encoded ∧
        encoded.flatten ++ (pipeReader.run .new moves).reader.buf =
          pipeReader.collect PipeReader.gets .new moves) ∧
      (pipeReader.run .new moves).reader.buf.length < 8 + MAX_FRAME_LEN + READ_CHUNK := by
  constructor
  · refine ⟨_, mapM_encode (run_encodable .new moves), ?_⟩
    rw [← List.flatMap_def]
    exact run_conserves .new moves
  · have hbounded : (pipeReader.run .new moves).Bounded :=
      Machine.inv_run (M := pipeReader) (I := PipeReader.Bounded) (fun _ m h => h.step m)
        PipeReader.bounded_new moves
    exact hbounded.any

end VoxShift.Discord
