import VoxShift.Theory.Transit

/-!
# Watching a value

A *watch channel* keeps the value last sent. Its receiver takes that value when it has not
taken it yet, and hands it on to a queue, from which it is shown. Values that others follow
before the receiver looks are never shown.

## The rules

* `Conflated` — a list with some of the values that others followed left out.
* `Watch.conflated_step` — what a move shows, and then what is on its way to be shown, is what
  was on its way and what is sent, conflated.
* `Along.conflated` — where it is so for every step of a machine, it is for every run.
-/

namespace VoxShift.Theory

variable {α : Type*}

/-! ### Conflated lists -/

/-- `shown` is `sent` with some of the values that others followed left out. -/
structure Conflated (shown sent : List α) : Prop where
  sublist : shown.Sublist sent
  getLast? : shown.getLast? = sent.getLast?

namespace Conflated

variable {shown sent between : List α}

theorem refl (sent : List α) : Conflated sent sent := ⟨List.Sublist.refl sent, rfl⟩

theorem trans (h : Conflated shown between) (h' : Conflated between sent) : Conflated shown sent :=
  ⟨h.sublist.trans h'.sublist, h.getLast?.trans h'.getLast?⟩

theorem append_left (h : Conflated shown sent) (before : List α) :
    Conflated (before ++ shown) (before ++ sent) := by
  refine ⟨h.sublist.append_left before, ?_⟩
  rw [List.getLast?_append, List.getLast?_append, h.getLast?]

theorem append_right (h : Conflated shown sent) (after : List α) :
    Conflated (shown ++ after) (sent ++ after) := by
  refine ⟨h.sublist.append_right after, ?_⟩
  rw [List.getLast?_append, List.getLast?_append, h.getLast?]

/-- A value that another follows is left out. -/
theorem overwritten (a b : α) : Conflated [b] [a, b] := ⟨List.sublist_cons_self a [b], rfl⟩

end Conflated

/-! ### The channel -/

/-- A watch channel, its receiver, and what the receiver has handed on. -/
structure Watch (α : Type*) where
  /-- The value last sent. -/
  value : α
  /-- The receiver has not taken it. -/
  fresh : Bool
  /-- What it has taken that is not shown yet. -/
  queue : List α
  deriving DecidableEq, Repr

/-- What happens at a watch channel. -/
inductive WatchMove (α : Type*) where
  | send (a : α)
  | take
  | present
  deriving DecidableEq, Repr

namespace Watch

/-- The channel as it is made; the receiver has seen the first value. -/
def init (a : α) : Watch α := ⟨a, false, []⟩

/-- One move; it emits what is shown. -/
def step (w : Watch α) : WatchMove α → Watch α × List α
  | .send a => ({ w with value := a, fresh := true }, [])
  | .take =>
    if w.fresh then ({ w with fresh := false, queue := w.queue ++ [w.value] }, []) else (w, [])
  | .present =>
    match w.queue with
    | [] => (w, [])
    | a :: queue => ({ w with queue := queue }, [a])

/-- What is on its way to be shown. -/
def underway (w : Watch α) : List α := w.queue ++ if w.fresh then [w.value] else []

/-- What a move sends. -/
def sent (_ : Watch α) : WatchMove α → List α
  | .send a => [a]
  | .take | .present => []

theorem step_take_snd (w : Watch α) : (w.step .take).2 = [] := by
  unfold step
  split_ifs <;> rfl

/-- **One move**: what is shown, and then what is on its way, is what was on its way, and then what
is sent, conflated. -/
theorem conflated_step (w : Watch α) (m : WatchMove α) :
    Conflated ((w.step m).2 ++ (w.step m).1.underway) (w.underway ++ w.sent m) := by
  obtain ⟨value, fresh, queue⟩ := w
  cases m with
  | send a =>
    show Conflated (queue ++ [a]) ((queue ++ if fresh then [value] else []) ++ [a])
    rw [List.append_assoc]
    refine Conflated.append_left ?_ queue
    cases fresh with
    | false => exact .refl [a]
    | true => exact .overwritten value a
  | take =>
    cases fresh with
    | false =>
      show Conflated (queue ++ []) ((queue ++ []) ++ [])
      rw [List.append_nil (queue ++ [])]
      exact .refl _
    | true =>
      show Conflated ((queue ++ [value]) ++ []) ((queue ++ [value]) ++ [])
      exact .refl _
  | present =>
    cases queue with
    | nil =>
      rw [sent, List.append_nil]
      exact .refl _
    | cons a queue =>
      rw [sent, List.append_nil]
      exact .refl _

end Watch

namespace Machine

universe u v w

variable {σ : Type u} {ι : Type v} {ο : Type w} {M : Machine σ ι ο}

/-- **What is shown is what was sent, conflated**: where it is so for every step of a machine, it is
for every run. -/
theorem Along.conflated {underway : σ → List ο} {sent : σ → ι → List ο} {s : σ} {is : List ι}
    (h : M.Along (fun s i => Conflated (M.out s i ++ underway (M.next s i))
      (underway s ++ sent s i)) s is) :
    Conflated (M.outs s is ++ underway (M.run s is)) (underway s ++ M.collect sent s is) := by
  induction is generalizing s with
  | nil =>
    rw [outs_nil, collect_nil, List.nil_append, List.append_nil]
    exact .refl _
  | cons i is ih =>
    rw [outs_cons, collect_cons, List.append_assoc, ← List.append_assoc (underway s)]
    refine ((ih h.2).append_left (M.out s i)).trans ?_
    rw [← List.append_assoc]
    exact h.1.append_right _

end Machine

end VoxShift.Theory
