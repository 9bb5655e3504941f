import VoxShift.Theory.Framing

/-!
# The wire frames

`voxshift-discord`'s `frame.rs`: an 8-byte little-endian header (`opcode: u32`,
`length: u32`), followed by `length` bytes of payload.

`FrameReader` is an instance of `Theory.Framing`: what it reads depends on its
buffer only.

## What is proved

* `fromLeBytes_toLeBytes` — the little-endian codec of a `u32`.
* `decodes_encode` — a buffer that begins with an encoded frame gives that frame,
  and one that holds less of it gives `None`.
* `FrameReader.drain_eq` — calling `try_read_frame` until it gives no frame is draining
  the buffer.
* `streaming_round_trip` — whatever the chunks and whenever a frame is asked for,
  the reader gives the frames that were encoded, in order.
-/

namespace VoxShift.Discord

open VoxShift.Theory

/-- The bytes of a frame. -/
abbrev Bytes := List UInt8

/-- `MAX_FRAME_LEN`: §16, 1 MiB. -/
def MAX_FRAME_LEN : ℕ := 1024 * 1024

/-- `OpCode`. -/
inductive OpCode where
  | handshake
  | frame
  | close
  | ping
  | pong
  deriving DecidableEq, Repr

/-- `FrameError`. -/
inductive FrameError where
  | unknownOpCode (value : UInt32)
  | tooLarge (len : ℕ)
  deriving DecidableEq, Repr

/-- `opcode as u32`. -/
def OpCode.toU32 : OpCode → UInt32
  | .handshake => 0
  | .frame => 1
  | .close => 2
  | .ping => 3
  | .pong => 4

/-- `OpCode::try_from`. -/
def OpCode.tryFrom (value : UInt32) : Except FrameError OpCode :=
  match value with
  | 0 => .ok .handshake
  | 1 => .ok .frame
  | 2 => .ok .close
  | 3 => .ok .ping
  | 4 => .ok .pong
  | other => .error (.unknownOpCode other)

theorem OpCode.tryFrom_toU32 (opcode : OpCode) : tryFrom opcode.toU32 = .ok opcode := by
  cases opcode <;> rfl

theorem OpCode.toU32_of_tryFrom {value : UInt32} {opcode : OpCode}
    (h : tryFrom value = .ok opcode) : opcode.toU32 = value := by
  unfold tryFrom at h
  split at h <;> cases h <;> rfl

/-! ### Little-endian words -/

/-- `u32::to_le_bytes`. -/
def toLeBytes (x : UInt32) : Bytes :=
  [UInt8.ofNat x.toNat, UInt8.ofNat (x.toNat / 256), UInt8.ofNat (x.toNat / 65536),
    UInt8.ofNat (x.toNat / 16777216)]

/-- `u32::from_le_bytes`. -/
def fromLeBytes (bytes : Bytes) : UInt32 :=
  UInt32.ofNat (bytes.foldr (fun b acc => b.toNat + 256 * acc) 0)

@[simp] theorem length_toLeBytes (x : UInt32) : (toLeBytes x).length = 4 := rfl

/-- What is written is read. -/
theorem fromLeBytes_toLeBytes (x : UInt32) : fromLeBytes (toLeBytes x) = x := by
  have hx : x.toNat < 2 ^ 32 := x.toNat_lt
  have hsum : (toLeBytes x).foldr (fun b acc => b.toNat + 256 * acc) 0 = x.toNat := by
    simp only [toLeBytes, List.foldr_cons, List.foldr_nil, UInt8.toNat_ofNat']
    omega
  rw [fromLeBytes, hsum]
  exact UInt32.ofNat_toNat

/-- Any four bytes are what is written for the word they are read as. -/
theorem toLeBytes_fromLeBytes {bytes : Bytes} (h : bytes.length = 4) :
    toLeBytes (fromLeBytes bytes) = bytes := by
  obtain ⟨a, b, c, d, rfl⟩ := List.length_eq_four.mp h
  have ha := a.toNat_lt
  have hb := b.toNat_lt
  have hc := c.toNat_lt
  have hd := d.toNat_lt
  have hword : (fromLeBytes [a, b, c, d]).toNat =
      a.toNat + 256 * (b.toNat + 256 * (c.toNat + 256 * d.toNat)) := by
    simp only [fromLeBytes, List.foldr_cons, List.foldr_nil]
    rw [UInt32.toNat_ofNat_of_lt' (by rw [UInt32.size]; omega)]
    omega
  simp only [toLeBytes, hword, List.cons.injEq, and_true, ← UInt8.toNat_inj, UInt8.toNat_ofNat']
  omega

/-! ### Encoding -/

/-- The bytes that `encode` writes. -/
def frameBytes (opcode : OpCode) (payload : Bytes) : Bytes :=
  toLeBytes opcode.toU32 ++ toLeBytes (UInt32.ofNat payload.length) ++ payload

/-- `encode`. -/
def encode (opcode : OpCode) (payload : Bytes) : Except FrameError Bytes :=
  if MAX_FRAME_LEN < payload.length then .error (.tooLarge payload.length)
  else .ok (frameBytes opcode payload)

/-! ### Decoding -/

/-- `FrameReader`. -/
structure FrameReader where
  buf : Bytes
  deriving DecidableEq, Repr

namespace FrameReader

/-- `FrameReader::new`. -/
def new : FrameReader := ⟨[]⟩

/-- `FrameReader::push`. -/
def push (r : FrameReader) (data : Bytes) : FrameReader := ⟨r.buf ++ data⟩

/-- `FrameReader::try_read_frame`. -/
def tryReadFrame (r : FrameReader) : Except FrameError (Option (OpCode × Bytes)) × FrameReader :=
  if r.buf.length < 8 then (.ok none, r)
  else
    let opcodeRaw := fromLeBytes (r.buf.take 4)
    let len := (fromLeBytes ((r.buf.drop 4).take 4)).toNat
    if MAX_FRAME_LEN < len then (.error (.tooLarge len), r)
    else if r.buf.length < 8 + len then (.ok none, r)
    else match OpCode.tryFrom opcodeRaw with
      | .error e => (.error e, r)
      | .ok opcode =>
        (.ok (some (opcode, (r.buf.drop 8).take len)), ⟨r.buf.drop (8 + len)⟩)

end FrameReader

/-! ### What a buffer gives -/

/-- A call leaves the buffer as it is, or takes a frame with its header out of it. -/
theorem tryReadFrame_cases (r : FrameReader) :
    (∃ e, r.tryReadFrame = (.error e, r)) ∨ r.tryReadFrame = (.ok none, r) ∨
      ∃ frame n, r.tryReadFrame = (.ok (some frame), ⟨r.buf.drop n⟩) ∧ 8 ≤ n ∧
        n ≤ r.buf.length := by
  unfold FrameReader.tryReadFrame
  dsimp only
  split_ifs with hshort hlarge hcut
  · exact .inr (.inl rfl)
  · exact .inl ⟨_, rfl⟩
  · exact .inr (.inl rfl)
  · cases OpCode.tryFrom (fromLeBytes (r.buf.take 4)) with
    | error e => exact .inl ⟨e, rfl⟩
    | ok opcode => exact .inr (.inr ⟨_, _, rfl, by omega, by omega⟩)

theorem length_of_tryReadFrame {r r' : FrameReader} {frame : OpCode × Bytes}
    (h : r.tryReadFrame = (.ok (some frame), r')) : r'.buf.length < r.buf.length := by
  rcases tryReadFrame_cases r with ⟨e, he⟩ | hnone | ⟨frame', n, hsome, h8, hn⟩
  · rw [he] at h
    cases h
  · rw [hnone] at h
    cases h
  · rw [hsome] at h
    cases h
    show (r.buf.drop n).length < r.buf.length
    rw [List.length_drop]
    omega

namespace FrameReader

/-- `try_read_frame` is called until it gives no frame: the frames, and the reader then or the
error. -/
def drain (r : FrameReader) : List (OpCode × Bytes) × Except FrameError FrameReader :=
  match h : r.tryReadFrame with
  | (.ok (some frame), r') =>
    have := length_of_tryReadFrame h
    let drained := drain r'
    (frame :: drained.1, drained.2)
  | (.ok none, r') => ([], .ok r')
  | (.error e, _) => ([], .error e)
termination_by r.buf.length

/-- The chunks are pushed one after another, with a draining after each, up to the first error. -/
def feed (r : FrameReader) : List Bytes → List (OpCode × Bytes) × Except FrameError FrameReader
  | [] => ([], .ok r)
  | chunk :: chunks =>
    match (r.push chunk).drain with
    | (frames, .ok r') => (frames ++ (r'.feed chunks).1, (r'.feed chunks).2)
    | (frames, .error e) => (frames, .error e)

end FrameReader

theorem tryReadFrame_of_short {buf : Bytes} (h : buf.length < 8) :
    FrameReader.tryReadFrame ⟨buf⟩ = (.ok none, ⟨buf⟩) := if_pos h

theorem tryReadFrame_of_header (opcode len : UInt32) (body : Bytes) :
    FrameReader.tryReadFrame ⟨toLeBytes opcode ++ (toLeBytes len ++ body)⟩ =
      if MAX_FRAME_LEN < len.toNat then
        (.error (.tooLarge len.toNat), ⟨toLeBytes opcode ++ (toLeBytes len ++ body)⟩)
      else if body.length < len.toNat then
        (.ok none, ⟨toLeBytes opcode ++ (toLeBytes len ++ body)⟩)
      else match OpCode.tryFrom opcode with
        | .error e => (.error e, ⟨toLeBytes opcode ++ (toLeBytes len ++ body)⟩)
        | .ok opcode => (.ok (some (opcode, body.take len.toNat)), ⟨body.drop len.toNat⟩) := by
  have hlen : (toLeBytes opcode ++ (toLeBytes len ++ body)).length = 8 + body.length := by
    simp only [List.length_append, length_toLeBytes]
    omega
  have htake : (toLeBytes opcode ++ (toLeBytes len ++ body)).take 4 = toLeBytes opcode :=
    List.take_left' rfl
  have hdrop : (toLeBytes opcode ++ (toLeBytes len ++ body)).drop 4 = toLeBytes len ++ body :=
    List.drop_left' rfl
  have hbody : (toLeBytes opcode ++ (toLeBytes len ++ body)).drop 8 = body := by
    rw [show 8 = 4 + 4 from rfl, ← List.drop_drop, hdrop]
    exact List.drop_left' rfl
  have hrest : (toLeBytes opcode ++ (toLeBytes len ++ body)).drop (8 + len.toNat) =
      body.drop len.toNat := by
    rw [← List.drop_drop, hbody]
  unfold FrameReader.tryReadFrame
  simp only [hlen, htake, hdrop, hbody, hrest, List.take_left' (length_toLeBytes len),
    fromLeBytes_toLeBytes]
  rw [if_neg (by omega)]
  simp only [Nat.add_lt_add_iff_left]

/-- A buffer of at least eight bytes begins with a header. -/
theorem exists_header {buf : Bytes} (h : 8 ≤ buf.length) :
    ∃ opcode len body, buf = toLeBytes opcode ++ (toLeBytes len ++ body) := by
  refine ⟨fromLeBytes (buf.take 4), fromLeBytes ((buf.drop 4).take 4), (buf.drop 4).drop 4, ?_⟩
  rw [toLeBytes_fromLeBytes (by rw [List.length_take]; omega),
    toLeBytes_fromLeBytes (by rw [List.length_take, List.length_drop]; omega),
    List.take_append_drop, List.take_append_drop]

theorem toNat_ofNat_length {payload : Bytes} (h : payload.length ≤ MAX_FRAME_LEN) :
    (UInt32.ofNat payload.length).toNat = payload.length := by
  have hmax : MAX_FRAME_LEN < UInt32.size := by decide
  exact UInt32.toNat_ofNat_of_lt' (by omega)

theorem tryReadFrame_of_frame {opcode : OpCode} {payload : Bytes}
    (h : payload.length ≤ MAX_FRAME_LEN) (rest : Bytes) :
    FrameReader.tryReadFrame ⟨frameBytes opcode payload ++ rest⟩ =
      (.ok (some (opcode, payload)), ⟨rest⟩) := by
  have hsplit : frameBytes opcode payload ++ rest = toLeBytes opcode.toU32 ++
      (toLeBytes (UInt32.ofNat payload.length) ++ (payload ++ rest)) := by
    simp only [frameBytes, List.append_assoc]
  rw [hsplit, tryReadFrame_of_header, toNat_ofNat_length h, if_neg (by omega),
    if_neg (by simp), OpCode.tryFrom_toU32]
  simp only [List.take_left, List.drop_left]

theorem tryReadFrame_of_cut {opcode : OpCode} {payload buf more : Bytes}
    (h : payload.length ≤ MAX_FRAME_LEN) (hmore : more ≠ [])
    (hcut : buf ++ more = frameBytes opcode payload) :
    FrameReader.tryReadFrame ⟨buf⟩ = (.ok none, ⟨buf⟩) := by
  by_cases hshort : buf.length < 8
  · exact tryReadFrame_of_short hshort
  · obtain ⟨body, rfl, hbody⟩ : ∃ body, buf = toLeBytes opcode.toU32 ++
        (toLeBytes (UInt32.ofNat payload.length) ++ body) ∧ body ++ more = payload := by
      unfold frameBytes at hcut
      rcases List.append_eq_append_iff.mp hcut with ⟨body, hhead, hmore'⟩ | ⟨body, hbuf, hpay⟩
      · have hlen := congrArg List.length hhead
        simp only [List.length_append, length_toLeBytes] at hlen
        obtain rfl : body = [] := List.eq_nil_of_length_eq_zero (by omega)
        rw [List.append_nil] at hhead
        exact ⟨[], by rw [← hhead, List.append_nil], hmore'⟩
      · exact ⟨body, by rw [hbuf, List.append_assoc], hpay.symm⟩
    have hlen : body.length < payload.length := by
      rw [← hbody, List.length_append]
      have := List.length_pos_iff.mpr hmore
      omega
    rw [tryReadFrame_of_header, toNat_ofNat_length h, if_neg (by omega), if_pos hlen]

/-! ### Streams -/

/-- `try_read_frame` as a function of the buffer. -/
def readBuf (buf : Bytes) : Except FrameError (Option ((OpCode × Bytes) × Bytes)) :=
  match (⟨buf⟩ : FrameReader).tryReadFrame with
  | (.ok (some frame), r) => .ok (some (frame, r.buf))
  | (.ok none, _) => .ok none
  | (.error e, _) => .error e

/-- What a call does, by what its buffer gives. -/
theorem tryReadFrame_eq (r : FrameReader) :
    r.tryReadFrame =
      match readBuf r.buf with
      | .error e => (.error e, r)
      | .ok none => (.ok none, r)
      | .ok (some (frame, rest)) => (.ok (some frame), ⟨rest⟩) := by
  unfold readBuf
  rcases tryReadFrame_cases r with ⟨e, he⟩ | hnone | ⟨frame, n, hsome, -, -⟩
  · rw [show (⟨r.buf⟩ : FrameReader) = r from rfl, he]
  · rw [show (⟨r.buf⟩ : FrameReader) = r from rfl, hnone]
  · rw [show (⟨r.buf⟩ : FrameReader) = r from rfl, hsome]

theorem readBuf_of_short {buf : Bytes} (h : buf.length < 8) : readBuf buf = .ok none := by
  unfold readBuf
  rw [tryReadFrame_of_short h]

theorem readBuf_of_header (opcode len : UInt32) (body : Bytes) :
    readBuf (toLeBytes opcode ++ (toLeBytes len ++ body)) =
      if MAX_FRAME_LEN < len.toNat then .error (.tooLarge len.toNat)
      else if body.length < len.toNat then .ok none
      else match OpCode.tryFrom opcode with
        | .error e => .error e
        | .ok opcode => .ok (some ((opcode, body.take len.toNat), body.drop len.toNat)) := by
  unfold readBuf
  rw [tryReadFrame_of_header]
  split_ifs with hlarge hcut
  · rfl
  · rfl
  · cases OpCode.tryFrom opcode with
    | error e => rfl
    | ok opcode => rfl

/-- A frame takes at least its header out of the buffer. -/
theorem readBuf_progress {buf rest : Bytes} {frame : OpCode × Bytes}
    (h : readBuf buf = .ok (some (frame, rest))) : rest.length < buf.length := by
  have hread := tryReadFrame_eq ⟨buf⟩
  rw [h] at hread
  exact length_of_tryReadFrame hread

/-- The frames of the pipe. -/
def framing : Framing UInt8 (OpCode × Bytes) FrameError where
  read := readBuf
  progress := readBuf_progress

/-- The reader as a machine: `push` and `try_read_frame` in any order. -/
def frameReader : Machine FrameReader (Call UInt8)
    (Except FrameError (Option (OpCode × Bytes))) where
  step r
    | .push chunk => (r.push chunk, [])
    | .read => (r.tryReadFrame.2, [r.tryReadFrame.1])

/-- The frame can be encoded. -/
def Encodable (frame : OpCode × Bytes) : Prop := frame.2.length ≤ MAX_FRAME_LEN

/-- The bytes of a frame on the pipe. -/
def wire (frame : OpCode × Bytes) : Bytes := frameBytes frame.1 frame.2

/-- **The reader knows `encode`.** -/
theorem decodes_encode : framing.Decodes Encodable wire where
  nil := rfl
  whole := by
    intro frame hframe rest
    show readBuf (wire frame ++ rest) = _
    unfold readBuf
    rw [wire, tryReadFrame_of_frame hframe]
  cut := by
    intro frame hframe buf more hmore hcut
    show readBuf buf = _
    unfold readBuf
    rw [tryReadFrame_of_cut hframe hmore hcut]

/-- One `try_read_frame`, on the reader and on its buffer. -/
theorem step_read (r : FrameReader) :
    (r.tryReadFrame.2.buf, [r.tryReadFrame.1]) = framing.reader.step r.buf .read := by
  have hread : framing.read r.buf = readBuf r.buf := rfl
  rw [tryReadFrame_eq]
  simp only [Framing.reader, hread]
  rcases readBuf r.buf with e | _ | ⟨frame, rest⟩
  · rfl
  · rfl
  · rfl

/-- `FrameReader` is the reader of this framing. -/
theorem frameReader_refines :
    frameReader.Refines framing.reader (fun _ => True) FrameReader.buf id id where
  inv _ _ _ := trivial
  next := by
    intro r call _
    cases call with
    | push chunk => rfl
    | read => exact congrArg Prod.fst (step_read r)
  out := by
    intro r call _
    rw [List.map_id]
    cases call with
    | push chunk => rfl
    | read => exact congrArg Prod.snd (step_read r)

/-- A run of the reader gives what its buffer gives. -/
theorem outs_frameReader (r : FrameReader) (calls : List (Call UInt8)) :
    frameReader.outs r calls = framing.reader.outs r.buf calls := by
  have houts := frameReader_refines.outs (s := r) trivial calls
  rwa [List.map_id, List.map_id] at houts

theorem buf_run_frameReader (r : FrameReader) (calls : List (Call UInt8)) :
    (frameReader.run r calls).buf = framing.reader.run r.buf calls := by
  have hrun := frameReader_refines.run (s := r) trivial calls
  rwa [List.map_id] at hrun

theorem FrameReader.drain_of_frame {r r' : FrameReader} {frame : OpCode × Bytes}
    (h : r.tryReadFrame = (.ok (some frame), r')) :
    r.drain = (frame :: r'.drain.1, r'.drain.2) := by
  rw [drain]
  split <;> rename_i heq <;> rw [h] at heq <;> cases heq
  rfl

theorem FrameReader.drain_of_none {r r' : FrameReader} (h : r.tryReadFrame = (.ok none, r')) :
    r.drain = ([], .ok r') := by
  rw [drain]
  split <;> rename_i heq <;> rw [h] at heq <;> cases heq
  rfl

theorem FrameReader.drain_of_error {r r' : FrameReader} {e : FrameError}
    (h : r.tryReadFrame = (.error e, r')) : r.drain = ([], .error e) := by
  rw [drain]
  split <;> rename_i heq <;> rw [h] at heq <;> cases heq
  rfl

/-- **Draining the reader** is draining its buffer. -/
theorem FrameReader.drain_eq (r : FrameReader) :
    r.drain = ((framing.drain r.buf).1, (framing.drain r.buf).2.map FrameReader.mk) := by
  induction hlen : r.buf.length using Nat.strongRecOn generalizing r with
  | ind n ih =>
    subst hlen
    have hcall := tryReadFrame_eq r
    rcases hread : readBuf r.buf with e | _ | ⟨frame, rest⟩
    · rw [hread] at hcall
      rw [drain_of_error hcall, Framing.drain_of_error hread]
      rfl
    · rw [hread] at hcall
      rw [drain_of_none hcall, Framing.drain_of_none hread]
      rfl
    · rw [hread] at hcall
      rw [drain_of_frame hcall, Framing.drain_of_frame hread,
        ih rest.length (readBuf_progress hread) ⟨rest⟩ rfl]

/-- **Feeding the reader** is feeding its buffer. -/
theorem FrameReader.feed_eq (r : FrameReader) (chunks : List Bytes) :
    r.feed chunks =
      ((framing.feed r.buf chunks).1, (framing.feed r.buf chunks).2.map FrameReader.mk) := by
  induction chunks generalizing r with
  | nil => rfl
  | cons chunk chunks ih =>
    rw [feed, drain_eq, Framing.feed]
    show (match ((framing.drain (r.buf ++ chunk)).1,
        (framing.drain (r.buf ++ chunk)).2.map FrameReader.mk) with
      | (frames, .ok r') => (frames ++ (r'.feed chunks).1, (r'.feed chunks).2)
      | (frames, .error e) => (frames, .error e)) = _
    rcases framing.drain (r.buf ++ chunk) with ⟨frames, e | rest⟩
    · rfl
    · simp only [Except.map, ih]

/-- No frame is at the head of the buffer. -/
def NoFrame (buf : Bytes) : Prop :=
  ∀ opcode payload bytes, encode opcode payload = .ok bytes → ¬ bytes <+: buf

theorem encode_eq_ok {opcode : OpCode} {payload bytes : Bytes} :
    encode opcode payload = .ok bytes ↔
      payload.length ≤ MAX_FRAME_LEN ∧ frameBytes opcode payload = bytes := by
  unfold encode
  split_ifs with h
  · simp only [false_iff]
    rintro ⟨hlen, -⟩
    omega
  · simp only [Except.ok.injEq, iff_and_self]
    intro _
    omega

theorem mapM_encode {frames : List (OpCode × Bytes)} (h : ∀ frame ∈ frames, Encodable frame) :
    frames.mapM (fun frame => encode frame.1 frame.2) = .ok (frames.map wire) := by
  induction frames with
  | nil => rfl
  | cons frame frames ih =>
    have hframe : encode frame.1 frame.2 = .ok (wire frame) :=
      encode_eq_ok.mpr ⟨h frame List.mem_cons_self, rfl⟩
    rw [List.mapM_cons, hframe, ih fun f hf => h f (List.mem_cons_of_mem frame hf)]
    rfl

/-- On the head of a stream of frames, `try_read_frame` returns `None` exactly where no frame is
complete. -/
theorem tryReadFrame_none_iff {frames : List (OpCode × Bytes)}
    (h : ∀ frame ∈ frames, Encodable frame) {buf later : Bytes}
    (hstream : buf ++ later = Framing.stream wire frames) :
    FrameReader.tryReadFrame ⟨buf⟩ = (.ok none, ⟨buf⟩) ↔ NoFrame buf := by
  constructor
  · rintro hnone opcode payload bytes hbytes ⟨rest, rfl⟩
    obtain ⟨hlen, rfl⟩ := encode_eq_ok.mp hbytes
    rw [tryReadFrame_of_frame hlen] at hnone
    cases hnone
  · intro hno
    rcases decodes_encode.read_cases h hstream with ⟨frame, rest, frames', rfl, hbuf, -, -⟩ | hread
    · have hframe := h frame List.mem_cons_self
      exact absurd ⟨rest, hbuf.symm⟩ (hno _ _ _ (encode_eq_ok.mpr ⟨hframe, rfl⟩))
    · have hread : readBuf buf = .ok none := hread
      unfold readBuf at hread
      rcases tryReadFrame_cases ⟨buf⟩ with ⟨e, he⟩ | hnone | ⟨frame, n, hsome, -, -⟩
      · rw [he] at hread
        cases hread
      · exact hnone
      · rw [hsome] at hread
        cases hread

/-- **Streaming round trip.** Any frames with payloads of at most `MAX_FRAME_LEN` bytes can be
encoded. Let what `encode` gives arrive in any chunks, with `try_read_frame` called at any moments
in between. Then no call errs; at every moment a call returns `None` exactly if no complete frame is
in the buffer; and the frames given, followed by those that a final draining gives, are the frames
that were encoded, in order, after which the buffer is empty. -/
theorem streaming_round_trip {frames : List (OpCode × Bytes)}
    (hlen : ∀ frame ∈ frames, frame.2.length ≤ MAX_FRAME_LEN) :
    ∃ encoded : List Bytes, frames.mapM (fun frame => encode frame.1 frame.2) = .ok encoded ∧
      ∀ calls : List (Call UInt8), Call.pushed calls = encoded.flatten →
        (∀ answer ∈ frameReader.outs .new calls, ∃ frame, answer = .ok frame) ∧
        (∀ k, let r := frameReader.run .new (calls.take k)
          r.tryReadFrame = (.ok none, r) ↔ NoFrame r.buf) ∧
        ∃ drained, (frameReader.run .new calls).drain = (drained, .ok .new) ∧
          yielded (frameReader.outs .new calls) ++ drained = frames := by
  refine ⟨frames.map wire, mapM_encode hlen, fun calls hcalls => ?_⟩
  have hstream : Call.pushed calls = Framing.stream wire frames := by
    rw [hcalls]
    exact List.flatMap_def.symm
  have hrun (calls : List (Call UInt8)) :
      (frameReader.run .new calls).buf = framing.reader.run [] calls :=
    buf_run_frameReader .new calls
  have houts : frameReader.outs .new calls = framing.reader.outs [] calls :=
    outs_frameReader .new calls
  have hall : [] ++ (Call.pushed calls ++ []) = Framing.stream wire frames := by
    rw [List.nil_append, List.append_nil]
    exact hstream
  refine ⟨?_, fun k => ?_, ?_⟩
  · obtain ⟨-, -, -, -, hok⟩ := decodes_encode.run calls hlen hall
    rw [houts]
    exact hok
  · have hk : [] ++ (Call.pushed (calls.take k) ++ Call.pushed (calls.drop k)) =
        Framing.stream wire frames := by
      rw [List.nil_append, ← Call.pushed_append, List.take_append_drop]
      exact hstream
    obtain ⟨given, todo, ⟨rfl, hstands⟩, -, -⟩ := decodes_encode.run (calls.take k) hlen hk
    rw [← hrun] at hstands
    exact tryReadFrame_none_iff (fun f hf => hlen f (List.mem_append_right given hf)) hstands
  · obtain ⟨given, todo, ⟨rfl, hstands⟩, hyield, -⟩ := decodes_encode.run calls hlen hall
    refine ⟨todo, ?_, ?_⟩
    · have htodo : ∀ f ∈ todo, Encodable f := fun f hf => hlen f (List.mem_append_right given hf)
      rw [FrameReader.drain_eq, hrun, ← List.append_nil (framing.reader.run [] calls), hstands,
        decodes_encode.drain htodo]
      rfl
    · rw [houts, hyield]

/-- Two frames in three chunks, the first one cut inside the header and the second one inside its
length. -/
theorem streaming_round_trip_two :
    let calls := [.push [1, 0, 0, 0, 2], .read, .push [0, 0, 0, 0x7B, 0x7D, 3, 0, 0, 0, 0], .read,
      .push [0, 0, 0]]
    ∃ drained, (frameReader.run .new calls).drain = (drained, .ok .new) ∧
      yielded (frameReader.outs .new calls) ++ drained =
        [(OpCode.frame, [0x7B, 0x7D]), (OpCode.ping, [])] := by
  intro calls
  have hlen : ∀ frame ∈ [(OpCode.frame, [0x7B, 0x7D]), (OpCode.ping, ([] : Bytes))],
      frame.2.length ≤ MAX_FRAME_LEN := by decide
  obtain ⟨encoded, hencoded, hstreams⟩ := streaming_round_trip hlen
  have hbytes : encoded =
      [[1, 0, 0, 0, 2, 0, 0, 0, 0x7B, 0x7D], [3, 0, 0, 0, 0, 0, 0, 0]] :=
    Except.ok.inj (hencoded.symm.trans (by decide))
  exact (hstreams calls (by rw [hbytes]; rfl)).2.2

end VoxShift.Discord
