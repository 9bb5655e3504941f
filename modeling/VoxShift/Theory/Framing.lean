import VoxShift.Theory.Machine

/-!
# Framing

A stream of bytes carries frames one after another, and arrives in chunks that
respect no boundary. A reader appends each chunk to a buffer, and when it is asked
for a frame it looks at what the buffer begins with: a whole frame, less than a
frame, or nothing a frame can begin with.

## The rules

* `Decodes` — the reader knows the encoding: a buffer that begins with a whole
  frame gives that frame, and a buffer that holds less of it gives nothing yet.
* `Decodes.step` — one call, on a buffer that is the head of a stream of frames.
* `Decodes.run` — any schedule of calls gives the frames of the stream in order,
  and leaves the rest in the buffer.
* `Decodes.drain` — asking until nothing comes empties the buffer.
* `Prefixed.feed` — where later bytes change neither a frame nor an error that the
  reader has found, any cut of the stream gives what the stream as a whole gives.
* `Prefixed.error_stays` — and an error is the answer from then on.
* `Restores` — a frame is taken out of the buffer with exactly its own bytes.
-/

namespace VoxShift.Theory

universe u v w

/-- How a reader takes a frame from the front of its buffer: an error, nothing yet, or a frame and
the rest of the buffer, which is shorter. -/
structure Framing (β : Type u) (α : Type v) (ε : Type w) where
  read : List β → Except ε (Option (α × List β))
  progress : ∀ {buf rest : List β} {a : α}, read buf = .ok (some (a, rest)) →
    rest.length < buf.length

/-- A call on a reader. -/
inductive Call (β : Type u) where
  /-- A chunk has arrived. -/
  | push (chunk : List β)
  /-- A frame is asked for. -/
  | read

namespace Call

variable {β : Type u}

/-- The bytes that a call brings. -/
def bytes : Call β → List β
  | .push chunk => chunk
  | .read => []

/-- The bytes that a schedule of calls brings. -/
def pushed (calls : List (Call β)) : List β := calls.flatMap bytes

@[simp] theorem pushed_nil : pushed ([] : List (Call β)) = [] := rfl

@[simp] theorem pushed_cons (call : Call β) (calls : List (Call β)) :
    pushed (call :: calls) = call.bytes ++ pushed calls := rfl

theorem pushed_append (xs ys : List (Call β)) : pushed (xs ++ ys) = pushed xs ++ pushed ys :=
  List.flatMap_append

end Call

/-- The frames among the answers of a reader. -/
def yielded {α : Type v} {ε : Type w} (answers : List (Except ε (Option α))) : List α :=
  answers.filterMap fun answer =>
    match answer with
    | .ok (some a) => some a
    | _ => none

@[simp] theorem yielded_nil {α : Type v} {ε : Type w} :
    yielded ([] : List (Except ε (Option α))) = [] := rfl

theorem yielded_append {α : Type v} {ε : Type w} (xs ys : List (Except ε (Option α))) :
    yielded (xs ++ ys) = yielded xs ++ yielded ys := List.filterMap_append

namespace Framing

variable {β : Type u} {α : Type v} {ε : Type w} (F : Framing β α ε)

/-- The reader as a machine on its buffer: an answer for each frame asked for. -/
def reader : Machine (List β) (Call β) (Except ε (Option α)) where
  step buf
    | .push chunk => (buf ++ chunk, [])
    | .read =>
      match F.read buf with
      | .ok (some (a, rest)) => (rest, [.ok (some a)])
      | .ok none => (buf, [.ok none])
      | .error e => (buf, [.error e])

/-- Asking for frames until none comes: the frames, and the buffer then or the error. -/
def drain (buf : List β) : List α × Except ε (List β) :=
  match h : F.read buf with
  | .ok (some (a, rest)) =>
    have := F.progress h
    let drained := drain rest
    (a :: drained.1, drained.2)
  | .ok none => ([], .ok buf)
  | .error e => ([], .error e)
termination_by buf.length

variable {F} in
theorem drain_of_frame {buf rest : List β} {a : α} (h : F.read buf = .ok (some (a, rest))) :
    F.drain buf = (a :: (F.drain rest).1, (F.drain rest).2) := by
  rw [drain]
  split
  · rename_i hread
    rw [h] at hread
    cases hread
    rfl
  · rename_i hread
    rw [h] at hread
    cases hread
  · rename_i hread
    rw [h] at hread
    cases hread

variable {F} in
theorem drain_of_none {buf : List β} (h : F.read buf = .ok none) : F.drain buf = ([], .ok buf) := by
  rw [drain]
  split
  · rename_i hread
    rw [h] at hread
    cases hread
  · rfl
  · rename_i hread
    rw [h] at hread
    cases hread

variable {F} in
theorem drain_of_error {buf : List β} {e : ε} (h : F.read buf = .error e) :
    F.drain buf = ([], .error e) := by
  rw [drain]
  split
  · rename_i hread
    rw [h] at hread
    cases hread
  · rename_i hread
    rw [h] at hread
    cases hread
  · rename_i hread
    rw [h] at hread
    cases hread
    rfl

/-- The reader knows the encoding of the frames in `valid`. -/
structure Decodes (valid : α → Prop) (enc : α → List β) : Prop where
  /-- Nothing is no frame. -/
  nil : F.read [] = .ok none
  /-- A whole frame is taken. -/
  whole : ∀ {a}, valid a → ∀ rest, F.read (enc a ++ rest) = .ok (some (a, rest))
  /-- Less than a frame is left. -/
  cut : ∀ {a}, valid a → ∀ {buf more}, more ≠ [] → buf ++ more = enc a → F.read buf = .ok none

variable {F} {valid : α → Prop} {enc : α → List β}

/-- The stream of some frames. -/
def stream (enc : α → List β) (frames : List α) : List β := frames.flatMap enc

@[simp] theorem stream_nil : stream enc [] = [] := rfl

@[simp] theorem stream_cons (a : α) (frames : List α) :
    stream enc (a :: frames) = enc a ++ stream enc frames := rfl

theorem stream_append (xs ys : List α) : stream enc (xs ++ ys) = stream enc xs ++ stream enc ys :=
  List.flatMap_append

/-- **One question**: on a buffer that is the head of a stream of frames, the reader gives the first
frame if it is all there, and otherwise nothing. -/
theorem Decodes.read_cases (h : F.Decodes valid enc) {frames : List α}
    (hvalid : ∀ a ∈ frames, valid a) {buf later : List β}
    (hstream : buf ++ later = stream enc frames) :
    (∃ a rest frames', frames = a :: frames' ∧ buf = enc a ++ rest ∧
        rest ++ later = stream enc frames' ∧ F.read buf = .ok (some (a, rest))) ∨
    F.read buf = .ok none := by
  cases frames with
  | nil =>
    obtain ⟨rfl, rfl⟩ := List.append_eq_nil_iff.mp hstream
    exact .inr h.nil
  | cons a frames =>
    have ha : valid a := hvalid a List.mem_cons_self
    rw [stream_cons] at hstream
    rcases List.append_eq_append_iff.mp hstream with ⟨more, henc, hlater⟩ | ⟨rest, hbuf, hrest⟩
    · cases more with
      | nil =>
        rw [List.append_nil] at henc
        refine .inl ⟨a, [], frames, rfl, by rw [henc, List.append_nil], hlater, ?_⟩
        have hread := h.whole ha []
        rwa [List.append_nil, henc] at hread
      | cons b more => exact .inr (h.cut ha (List.cons_ne_nil b more) henc.symm)
    · refine .inl ⟨a, rest, frames, rfl, hbuf, hrest.symm, ?_⟩
      rw [hbuf]
      exact h.whole ha rest

/-- Where the reader stands in a stream: it has given the frames `done` and not yet `todo`; its
buffer and what comes later make up the stream of those. -/
structure Stands (enc : α → List β) (frames done todo : List α) (buf later : List β) : Prop where
  frames : frames = done ++ todo
  stream : buf ++ later = stream enc todo

/-- **One call** on a buffer that is the head of a stream. -/
theorem Decodes.step (h : F.Decodes valid enc) {frames : List α} (hvalid : ∀ a ∈ frames, valid a)
    {buf later : List β} {call : Call β}
    (hstream : buf ++ (call.bytes ++ later) = stream enc frames) :
    ∃ given todo, Stands enc frames given todo (F.reader.next buf call) later ∧
      yielded (F.reader.out buf call) = given ∧
      ∀ answer ∈ F.reader.out buf call, ∃ frame, answer = .ok frame := by
  cases call with
  | push chunk =>
    refine ⟨[], frames, ⟨rfl, ?_⟩, rfl, by simp [Machine.out, reader]⟩
    show (buf ++ chunk) ++ later = _
    rw [List.append_assoc]
    exact hstream
  | read =>
    have hstream : buf ++ later = stream enc frames := hstream
    rcases h.read_cases hvalid hstream with ⟨a, rest, frames', rfl, -, hrest, hread⟩ | hread
    · have hstep : F.reader.step buf .read = (rest, [.ok (some a)]) := by simp [reader, hread]
      refine ⟨[a], frames', ⟨rfl, ?_⟩, ?_, ?_⟩
      · rw [Machine.next, hstep]
        exact hrest
      · rw [Machine.out, hstep]
        rfl
      · rw [Machine.out, hstep]
        simp
    · have hstep : F.reader.step buf .read = (buf, [.ok none]) := by simp [reader, hread]
      refine ⟨[], frames, ⟨rfl, ?_⟩, ?_, ?_⟩
      · rw [Machine.next, hstep]
        exact hstream
      · rw [Machine.out, hstep]
        rfl
      · rw [Machine.out, hstep]
        simp

/-- **Any schedule of calls** gives the frames of the stream in order and no error. -/
theorem Decodes.run (h : F.Decodes valid enc) (calls : List (Call β)) {frames : List α}
    (hvalid : ∀ a ∈ frames, valid a) {buf later : List β}
    (hstream : buf ++ (Call.pushed calls ++ later) = stream enc frames) :
    ∃ given todo, Stands enc frames given todo (F.reader.run buf calls) later ∧
      yielded (F.reader.outs buf calls) = given ∧
      ∀ answer ∈ F.reader.outs buf calls, ∃ frame, answer = .ok frame := by
  induction calls generalizing buf frames with
  | nil => exact ⟨[], frames, ⟨rfl, hstream⟩, rfl, by simp⟩
  | cons call calls ih =>
    rw [Call.pushed_cons, List.append_assoc] at hstream
    obtain ⟨given, todo, ⟨rfl, hnext⟩, hyield, hok⟩ := h.step hvalid hstream
    have htodo : ∀ a ∈ todo, valid a := fun a ha => hvalid a (List.mem_append_right given ha)
    obtain ⟨given', todo', ⟨rfl, hrest⟩, hyield', hok'⟩ := ih htodo hnext
    refine ⟨given ++ given', todo', ⟨by rw [List.append_assoc], hrest⟩, ?_, ?_⟩
    · rw [Machine.outs_cons, yielded_append, hyield, hyield']
    · intro answer hmem
      rcases List.mem_append.mp hmem with hmem | hmem
      · exact hok answer hmem
      · exact hok' answer hmem

/-- **Draining** a stream of whole frames gives them all and empties the buffer. -/
theorem Decodes.drain (h : F.Decodes valid enc) {frames : List α} (hvalid : ∀ a ∈ frames, valid a) :
    F.drain (stream enc frames) = (frames, .ok []) := by
  induction frames with
  | nil => exact drain_of_none h.nil
  | cons a frames ih =>
    have hread := h.whole (hvalid a List.mem_cons_self) (stream enc frames)
    rw [stream_cons, drain_of_frame hread, ih fun b hb => hvalid b (List.mem_cons_of_mem a hb)]

/-! ### Any cut of the stream -/

/-- What the reader has found at the front of its buffer is there to stay. -/
structure Prefixed (F : Framing β α ε) : Prop where
  /-- Nothing is no frame. -/
  nil : F.read [] = .ok none
  /-- Later bytes come behind the rest. -/
  frame : ∀ {buf rest a}, F.read buf = .ok (some (a, rest)) →
    ∀ more, F.read (buf ++ more) = .ok (some (a, rest ++ more))
  /-- Later bytes do not mend an error. -/
  error : ∀ {buf e}, F.read buf = .error e → ∀ more, F.read (buf ++ more) = .error e

/-- The chunks are pushed one after another, with a draining after each, up to the first error: the
frames, and the buffer at the end or the error. -/
def feed (F : Framing β α ε) (buf : List β) : List (List β) → List α × Except ε (List β)
  | [] => ([], .ok buf)
  | chunk :: chunks =>
    match F.drain (buf ++ chunk) with
    | (frames, .ok rest) => (frames ++ (F.feed rest chunks).1, (F.feed rest chunks).2)
    | (frames, .error e) => (frames, .error e)

/-- After a draining no frame is at the front of the buffer. -/
theorem read_of_drain {buf : List β} {frames : List α} {rest : List β}
    (h : F.drain buf = (frames, .ok rest)) : F.read rest = .ok none := by
  induction hlen : buf.length using Nat.strongRecOn generalizing buf frames with
  | ind n ih =>
    subst hlen
    rcases hread : F.read buf with e | _ | ⟨a, tail⟩
    · rw [drain_of_error hread] at h
      cases h
    · rw [drain_of_none hread] at h
      cases h
      exact hread
    · rw [drain_of_frame hread] at h
      have hsnd : (F.drain tail).2 = .ok rest := (Prod.mk.inj h).2
      have htail : F.drain tail = ((F.drain tail).1, .ok rest) := Prod.ext rfl hsnd
      exact ih tail.length (F.progress hread) htail rfl

/-- **Draining in two goes**: what is drained before more bytes arrive, and then what is drained
from the rest with them. -/
theorem Prefixed.drain_append (h : F.Prefixed) (buf more : List β) :
    F.drain (buf ++ more) =
      match F.drain buf with
      | (frames, .ok rest) => (frames ++ (F.drain (rest ++ more)).1, (F.drain (rest ++ more)).2)
      | (frames, .error e) => (frames, .error e) := by
  induction hlen : buf.length using Nat.strongRecOn generalizing buf with
  | ind n ih =>
    subst hlen
    rcases hread : F.read buf with e | _ | ⟨a, tail⟩
    · rw [drain_of_error hread, drain_of_error (h.error hread more)]
    · rw [drain_of_none hread]
      rfl
    · have htail := ih tail.length (F.progress hread) tail rfl
      rw [drain_of_frame hread, drain_of_frame (h.frame hread more), htail]
      rcases F.drain tail with ⟨frames, e | rest⟩
      · rfl
      · rfl

/-- **Any cut**: chunks that are pushed and drained one by one give what their concatenation
gives. -/
theorem Prefixed.feed (h : F.Prefixed) {buf : List β} (hbuf : F.read buf = .ok none)
    (chunks : List (List β)) : F.feed buf chunks = F.drain (buf ++ chunks.flatten) := by
  induction chunks generalizing buf with
  | nil =>
    rw [List.flatten_nil, List.append_nil, drain_of_none hbuf]
    rfl
  | cons chunk chunks ih =>
    rw [List.flatten_cons, ← List.append_assoc, h.drain_append, Framing.feed]
    rcases hdrain : F.drain (buf ++ chunk) with ⟨frames, e | rest⟩
    · rfl
    · dsimp only
      rw [ih (read_of_drain hdrain)]

/-- A buffer whose front is in error stays so, and every question is answered with the error. -/
theorem Prefixed.step_error (h : F.Prefixed) {buf : List β} {e : ε} (he : F.read buf = .error e)
    (call : Call β) : F.read (F.reader.next buf call) = .error e ∧
      ∀ answer ∈ F.reader.out buf call, answer = .error e := by
  cases call with
  | push chunk => exact ⟨h.error he chunk, by simp [Machine.out, reader]⟩
  | read =>
    have hstep : F.reader.step buf .read = (buf, [.error e]) := by simp [reader, he]
    rw [Machine.next, Machine.out, hstep]
    exact ⟨he, by simp⟩

theorem read_of_error {buf : List β} {call : Call β} {e : ε}
    (h : .error e ∈ F.reader.out buf call) : F.read (F.reader.next buf call) = .error e := by
  cases call with
  | push chunk => simp [Machine.out, reader] at h
  | read =>
    rcases hread : F.read buf with e' | _ | ⟨a, rest⟩
    · have hstep : F.reader.step buf .read = (buf, [.error e']) := by simp [reader, hread]
      rw [Machine.out, hstep, List.mem_singleton] at h
      cases h
      rw [Machine.next, hstep]
      exact hread
    · simp [Machine.out, reader, hread] at h
    · simp [Machine.out, reader, hread] at h

/-- **An error stays**: whatever is pushed after it, it is the only answer. -/
theorem Prefixed.error_stays (h : F.Prefixed) {buf : List β} {calls : List (Call β)} {e : ε}
    (he : .error e ∈ F.reader.outs buf calls) (later : List (Call β)) :
    ∀ answer ∈ F.reader.outs (F.reader.run buf calls) later, answer = .error e := by
  have hrun : F.read (F.reader.run buf calls) = .error e := by
    induction calls generalizing buf with
    | nil => simp at he
    | cons call calls ih =>
      rcases List.mem_append.mp he with hout | houts
      · exact Machine.inv_run (M := F.reader) (I := fun buf => F.read buf = .error e)
          (fun _ c hs => (h.step_error hs c).1) (read_of_error hout) calls
      · exact ih houts
  exact Machine.forall_mem_outs_of_inv (M := F.reader) (I := fun buf => F.read buf = .error e)
    (P := fun _ _ => True) (fun _ c hs _ => (h.step_error hs c).1)
    (fun _ c hs _ => (h.step_error hs c).2) (F.reader.along_of_forall _ fun _ _ => trivial) hrun

/-! ### Conservation -/

/-- A frame is taken out of the buffer with exactly its own bytes. -/
structure Restores (F : Framing β α ε) (valid : α → Prop) (enc : α → List β) : Prop where
  valid : ∀ {buf rest a}, F.read buf = .ok (some (a, rest)) → valid a
  bytes : ∀ {buf rest a}, F.read buf = .ok (some (a, rest)) → buf = enc a ++ rest

end Framing

end VoxShift.Theory
