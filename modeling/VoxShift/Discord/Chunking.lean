import VoxShift.Discord.Frame

/-!
# Chunks of any bytes

`frame.rs` again, for streams that nobody has encoded: the size of a frame is
checked as soon as its header is there, its opcode only when its payload is. Either
check looks at the front of the buffer alone, so neither an error nor a frame depends
on where the stream was cut.

## What is proved

* `prefixed` — what `try_read_frame` finds is not changed by bytes that come later.
* `chunking_irrelevant` — any two cuts of a byte string give the same frames and the
  same outcome, and after an error there is only that error.
-/

namespace VoxShift.Discord

open VoxShift.Theory

/-- A frame, or an error, is found behind a whole header only. -/
theorem header_of_readBuf {buf : Bytes} (h : readBuf buf ≠ .ok none) :
    ∃ opcode len body, buf = toLeBytes opcode ++ (toLeBytes len ++ body) := by
  apply exists_header
  by_contra hshort
  exact h (readBuf_of_short (by omega))

/-- Later bytes come behind the rest of a frame. -/
theorem readBuf_append_of_frame {buf rest : Bytes} {frame : OpCode × Bytes}
    (h : readBuf buf = .ok (some (frame, rest))) (more : Bytes) :
    readBuf (buf ++ more) = .ok (some (frame, rest ++ more)) := by
  obtain ⟨opcode, len, body, rfl⟩ := header_of_readBuf (by rw [h]; simp)
  rw [List.append_assoc, List.append_assoc, readBuf_of_header]
  rw [readBuf_of_header] at h
  split_ifs at h with hlarge hcut
  · cases h
  · have hlen : len.toNat ≤ body.length := by omega
    rw [if_neg hlarge, if_neg (by rw [List.length_append]; omega)]
    cases hop : OpCode.tryFrom opcode with
    | error e =>
      rw [hop] at h
      cases h
    | ok op =>
      rw [hop] at h
      cases h
      rw [List.take_append_of_le_length hlen, List.drop_append_of_le_length hlen]

/-- Later bytes do not mend an error. -/
theorem readBuf_append_of_error {buf : Bytes} {e : FrameError} (h : readBuf buf = .error e)
    (more : Bytes) : readBuf (buf ++ more) = .error e := by
  obtain ⟨opcode, len, body, rfl⟩ := header_of_readBuf (by rw [h]; simp)
  rw [List.append_assoc, List.append_assoc, readBuf_of_header]
  rw [readBuf_of_header] at h
  split_ifs at h with hlarge hcut
  · rw [if_pos hlarge, h]
  · rw [if_neg hlarge, if_neg (by rw [List.length_append]; omega)]
    cases hop : OpCode.tryFrom opcode with
    | error e' =>
      rw [hop] at h
      exact h
    | ok op =>
      rw [hop] at h
      cases h

/-- **What is found is there to stay.** -/
theorem prefixed : framing.Prefixed where
  nil := rfl
  frame := readBuf_append_of_frame
  error := readBuf_append_of_error

/-- **Chunking never changes what is decoded.** Take any bytes and any two ways to cut them. Pushing
the chunks to a fresh reader and draining it after each of them, up to the first error, gives the
same frames in the same order, and in the end the same error or the same bytes that wait. And once a
call in any schedule has returned an error, every later call, whatever is pushed in between, returns
that error. -/
theorem chunking_irrelevant {chunks chunks' : List Bytes} (h : chunks.flatten = chunks'.flatten) :
    FrameReader.new.feed chunks = FrameReader.new.feed chunks' ∧
      ∀ (calls later : List (Call UInt8)) (e : FrameError),
        .error e ∈ frameReader.outs .new calls →
          ∀ answer ∈ frameReader.outs (frameReader.run .new calls) later, answer = .error e := by
  constructor
  · have hnew : framing.read FrameReader.new.buf = .ok none := prefixed.nil
    rw [FrameReader.feed_eq, FrameReader.feed_eq, prefixed.feed hnew, prefixed.feed hnew, h]
  · intro calls later e he answer hanswer
    rw [outs_frameReader] at he hanswer
    rw [buf_run_frameReader] at hanswer
    exact prefixed.error_stays he later answer hanswer

/-- An unknown opcode is reported when the payload is there, in two cuts of the same bytes. -/
theorem chunking_irrelevant_unknown :
    let chunks : List Bytes := [[3, 0, 0, 0, 0, 0, 0, 0, 9], [0, 0, 0, 1, 0, 0, 0, 7]]
    let chunks' : List Bytes := [[3], [0, 0, 0, 0, 0, 0, 0, 9, 0, 0, 0, 1, 0, 0, 0], [7]]
    FrameReader.new.feed chunks = FrameReader.new.feed chunks' := by
  intro chunks chunks'
  have hflatten : chunks.flatten = chunks'.flatten := by decide
  exact (chunking_irrelevant hflatten).1

end VoxShift.Discord
