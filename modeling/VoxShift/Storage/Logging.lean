import Mathlib.Data.List.DropRight
import VoxShift.Theory.Transit

/-!
# The log of the diagnostics screen

`voxshift-storage`'s `logging.rs`: `LogRingBuffer`, and the writer that the tracing
subscriber formats its events to.

## The model

* Several threads log. The mutex is taken for each line, so that the lines of two texts
  written at the same time may be mixed.
* A text is the characters it is decoded to. What the subscriber writes is valid UTF-8.

## What is proved

* `recent_logs_complete` — in every run, the buffer holds the last lines pushed, as many
  as fit; and each thread's lines are pushed once, in order, none left out.
-/

namespace VoxShift.Storage

open VoxShift.Theory

/-- The characters of a text. -/
abbrev Text := List Char

/-- `RING_BUFFER_CAPACITY`. -/
def RING_BUFFER_CAPACITY : ℕ := 500

/-- A line without the carriage return before its line feed; the line is given from its end. -/
def stripCr : Text → Text
  | '\r' :: line => line
  | line => line

/-- `str::lines`, with the line under way, from its end. -/
def linesFrom (line : Text) : Text → List Text
  | [] => if line = [] then [] else [line.reverse]
  | '\n' :: text => (stripCr line).reverse :: linesFrom [] text
  | c :: text => linesFrom (c :: line) text

/-- `str::lines`. -/
def lines (text : Text) : List Text := linesFrom [] text

/-- `LogRingBuffer`. -/
structure LogRingBuffer where
  inner : List Text
  capacity : ℕ
  deriving DecidableEq, Repr

namespace LogRingBuffer

/-- `LogRingBuffer::new`. -/
def new (capacity : ℕ) : LogRingBuffer := ⟨[], capacity⟩

/-- `push_line`. -/
def pushLine (b : LogRingBuffer) (line : Text) : LogRingBuffer :=
  if line = [] then b
  else
    let buf := if b.capacity ≤ b.inner.length then b.inner.tail else b.inner
    { b with inner := buf ++ [line] }

/-- `recent_logs`. -/
def recentLogs (b : LogRingBuffer) : List Text := b.inner

end LogRingBuffer

variable {θ : Type}

/-- The buffer, and the lines that each thread has still to push. -/
structure Logs (θ : Type) where
  buffer : LogRingBuffer
  pending : θ → List Text

/-- What a thread does. -/
inductive LogMove (θ : Type) where
  /-- It calls `write`. -/
  | write (t : θ) (text : Text)
  /-- It pushes its next line. -/
  | push (t : θ)

namespace Logs

/-- `init`. -/
def init : Logs θ := ⟨.new RING_BUFFER_CAPACITY, fun _ => []⟩

variable [DecidableEq θ]

/-- What a thread does next. A thread that is in `write` does nothing else. -/
def step (s : Logs θ) : LogMove θ → Logs θ × List (θ × Text)
  | .write t text =>
    match s.pending t with
    | [] => ({ s with pending := Function.update s.pending t (lines text) }, [])
    | _ :: _ => (s, [])
  | .push t =>
    match s.pending t with
    | [] => (s, [])
    | line :: rest =>
      (⟨s.buffer.pushLine line, Function.update s.pending t rest⟩,
        if line = [] then [] else [(t, line)])

end Logs

/-- The threads that log as a machine. -/
def logs (θ : Type) [DecidableEq θ] : Machine (Logs θ) (LogMove θ) (θ × Text) where
  step := Logs.step

/-! ### The buffer -/

/-- The last elements of a list when one is added, the first being dropped if there is no room. -/
theorem rtake_concat {α : Type} (l : List α) (x : α) (n : ℕ) :
    (if n + 1 ≤ (l.rtake (n + 1)).length then (l.rtake (n + 1)).tail else l.rtake (n + 1)) ++ [x] =
      (l ++ [x]).rtake (n + 1) := by
  rw [List.rtake_concat_succ]
  congr 1
  simp only [List.rtake, List.length_drop, List.tail_drop]
  split_ifs with hfull
  · rw [show l.length - (n + 1) + 1 = l.length - n by omega]
  · rw [show l.length - (n + 1) = l.length - n by omega]

theorem pushLine_inner {b : LogRingBuffer} {pushed : List Text} (hb : 0 < b.capacity)
    (h : b.inner = pushed.rtake b.capacity) {line : Text} (hline : line ≠ []) :
    (b.pushLine line).inner = (pushed ++ [line]).rtake b.capacity := by
  obtain ⟨n, hn⟩ := Nat.exists_eq_add_of_lt hb
  rw [Nat.zero_add] at hn
  rw [LogRingBuffer.pushLine, if_neg hline]
  simp only [h, hn]
  exact rtake_concat pushed line n

theorem pushLine_capacity (b : LogRingBuffer) (line : Text) :
    (b.pushLine line).capacity = b.capacity := by
  unfold LogRingBuffer.pushLine
  split_ifs <;> rfl

namespace Logs

/-- The buffer holds the last of these lines. -/
structure Holds (s : Logs θ) (pushed : List Text) : Prop where
  capacity : s.buffer.capacity = RING_BUFFER_CAPACITY
  inner : s.buffer.inner = pushed.rtake s.buffer.capacity

theorem holds_init : (init : Logs θ).Holds [] := ⟨rfl, rfl⟩

variable [DecidableEq θ]

theorem Holds.step {s : Logs θ} {pushed : List Text} (h : s.Holds pushed) (m : LogMove θ) :
    (s.step m).1.Holds (pushed ++ (s.step m).2.map Prod.snd) := by
  cases m with
  | write t text =>
    simp only [Logs.step]
    split
    · simpa using ⟨h.1, h.2⟩
    · simpa using h
  | push t =>
    simp only [Logs.step]
    split
    · simpa using h
    · next line rest _ =>
      split_ifs with hline
      · have hsame : s.buffer.pushLine line = s.buffer := if_pos hline
        simpa [hsame] using ⟨h.1, h.2⟩
      · have hpos : 0 < s.buffer.capacity := h.capacity ▸ (by decide)
        refine ⟨(pushLine_capacity s.buffer line).trans h.capacity, ?_⟩
        rw [pushLine_capacity]
        exact pushLine_inner hpos h.inner hline

theorem Holds.run {s : Logs θ} {pushed : List Text} (h : s.Holds pushed) (ms : List (LogMove θ)) :
    ((logs θ).run s ms).Holds (pushed ++ ((logs θ).outs s ms).map Prod.snd) := by
  induction ms generalizing s pushed with
  | nil => simpa using h
  | cons m ms ih =>
    rw [Machine.run_cons, Machine.outs_cons, List.map_append, ← List.append_assoc]
    exact ih (h.step m)

/-! ### Each thread -/

/-- The lines of the text that a move gives to a thread, but for the empty ones. -/
def written (t : θ) (s : Logs θ) : LogMove θ → List Text
  | .write t' text => if t' = t ∧ s.pending t = [] then (lines text).filter (· ≠ []) else []
  | .push _ => []

/-- The line pushed, if it was pushed for this thread. -/
def of (t : θ) (out : θ × Text) : Option Text := if out.1 = t then some out.2 else none

/-- **A move** neither loses a line nor makes one up. -/
theorem conserved_step (t : θ) (s : Logs θ) (m : LogMove θ) :
    (s.pending t).filter (· ≠ []) ++ s.written t m =
      (s.step m).2.filterMap (of t) ++ ((s.step m).1.pending t).filter (· ≠ []) := by
  cases m with
  | write t' text =>
    by_cases ht : t' = t
    · subst ht
      cases hpending : s.pending t' with
      | nil => simp [written, Logs.step, hpending]
      | cons _ _ => simp [written, Logs.step, hpending]
    · have hsame : ((s.step (.write t' text)).1.pending t) = s.pending t := by
        simp only [Logs.step]
        split
        · exact Function.update_of_ne (Ne.symm ht) _ _
        · rfl
      have hnone : (s.step (.write t' text)).2.filterMap (of t) = [] := by
        simp only [Logs.step]
        split <;> rfl
      rw [hsame, hnone, written, if_neg fun h => ht h.1, List.append_nil, List.nil_append]
  | push t' =>
    rw [written, List.append_nil]
    cases hpending : s.pending t' with
    | nil => simp [Logs.step, hpending]
    | cons line rest =>
      by_cases ht : t' = t
      · subst ht
        by_cases hline : line = []
        · simp [of, Logs.step, hpending, hline]
        · simp [of, Logs.step, hpending, hline]
      · have hsame : ((s.step (.push t')).1.pending t) = s.pending t := by
          simp only [Logs.step, hpending]
          exact Function.update_of_ne (Ne.symm ht) _ _
        have hnone : (s.step (.push t')).2.filterMap (of t) = [] := by
          simp only [Logs.step, hpending]
          split_ifs <;> simp [of, ht]
        rw [hsame, hnone, List.nil_append]

end Logs

/-- **The log is complete up to its size.** In every run of any number of threads, the buffer holds
the last `RING_BUFFER_CAPACITY` lines pushed, or all of them; and the lines pushed for a thread,
with those it has still to push, are the lines of the texts it has written, in order, but for the
empty ones. -/
theorem recent_logs_complete [DecidableEq θ] (ms : List (LogMove θ)) :
    let s := (logs θ).run .init ms
    let outs := (logs θ).outs .init ms
    s.buffer.recentLogs = (outs.map Prod.snd).rtake RING_BUFFER_CAPACITY ∧
      ∀ t, outs.filterMap (Logs.of t) ++ (s.pending t).filter (· ≠ []) =
        (logs θ).collect (Logs.written t) .init ms := by
  intro s outs
  constructor
  · have hrun := Logs.holds_init.run ms
    rw [List.nil_append] at hrun
    rw [← hrun.capacity]
    exact hrun.inner
  · intro t
    have hall : (logs θ).Along (fun s m => (s.pending t).filter (· ≠ []) ++ s.written t m =
        ((logs θ).out s m).filterMap (Logs.of t) ++
          (((logs θ).next s m).pending t).filter (· ≠ [])) .init ms :=
      Machine.along_all _ (Logs.conserved_step t) .init ms
    have hconserved := hall.conserved
    rw [← Machine.filterMap_collect, Machine.collect_out] at hconserved
    exact hconserved.symm

end VoxShift.Storage
