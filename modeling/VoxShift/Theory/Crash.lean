import Mathlib.Tactic.SplitIfs

/-!
# Programs that fail or crash

A program runs on a state and comes to one of three ends: it is done with a value,
it fails with an error, or it is cut off by a crash. Whatever its end, the state it
has reached by then is what remains: a failure undoes nothing.

An error can be turned into a value and handled; a crash cannot.

## What is proved

* `run_bind`, `run_attempt` — how the end of a program decides what runs next.
* `Keeps.bind`, `Keeps.attempt` — a part of the state that no step changes is
  unchanged at every end, crashes included.
-/

namespace VoxShift.Theory

/-- How a program ends. -/
inductive Exit (ε α : Type) where
  | done (a : α)
  | failed (e : ε)
  | crashed
  deriving DecidableEq, Repr

/-- The end is an error. -/
def Exit.isFailed {ε α : Type} : Exit ε α → Bool
  | .failed _ => true
  | .done _ | .crashed => false

/-- A program on states `σ`, with errors `ε` and values `α`: how it ends on a state, and the state
it has reached by then. -/
structure Prog (σ ε α : Type) where
  run : σ → Exit ε α × σ

namespace Prog

variable {σ ε ε' α β γ : Type}

/-- The end with an error. -/
def fail (e : ε) : Prog σ ε α := ⟨fun s => (.failed e, s)⟩

/-- One program, then the next with its value, unless the first has failed or crashed. -/
def andThen (p : Prog σ ε α) (k : α → Prog σ ε β) : Prog σ ε β where
  run s :=
    match p.run s with
    | (.done a, s') => (k a).run s'
    | (.failed e, s') => (.failed e, s')
    | (.crashed, s') => (.crashed, s')

instance : Monad (Prog σ ε) where
  pure a := ⟨fun s => (.done a, s)⟩
  bind := andThen

/-- A program whose error becomes a value. -/
def attempt (p : Prog σ ε α) : Prog σ ε' (Except ε α) where
  run s :=
    match p.run s with
    | (.done a, s') => (.done (.ok a), s')
    | (.failed e, s') => (.done (.error e), s')
    | (.crashed, s') => (.crashed, s')

@[simp] theorem run_pure (a : α) (s : σ) : (pure a : Prog σ ε α).run s = (.done a, s) := rfl

theorem run_bind (p : Prog σ ε α) (k : α → Prog σ ε β) (s : σ) :
    (p >>= k).run s =
      match p.run s with
      | (.done a, s') => (k a).run s'
      | (.failed e, s') => (.failed e, s')
      | (.crashed, s') => (.crashed, s') := rfl

theorem run_attempt (p : Prog σ ε α) (s : σ) :
    (p.attempt : Prog σ ε' (Except ε α)).run s =
      match p.run s with
      | (.done a, s') => (.done (.ok a), s')
      | (.failed e, s') => (.done (.error e), s')
      | (.crashed, s') => (.crashed, s') := rfl

/-- The part `r` of the state is the same at every end of the program. -/
def Keeps (r : σ → γ) (p : Prog σ ε α) : Prop := ∀ s, r (p.run s).2 = r s

theorem Keeps.pure (r : σ → γ) (a : α) : Keeps r (Pure.pure a : Prog σ ε α) := fun _ => rfl

theorem Keeps.fail (r : σ → γ) (e : ε) : Keeps r (Prog.fail e : Prog σ ε α) := fun _ => rfl

theorem Keeps.bind {r : σ → γ} {p : Prog σ ε α} {k : α → Prog σ ε β} (hp : Keeps r p)
    (hk : ∀ a, Keeps r (k a)) : Keeps r (p >>= k) := by
  intro s
  have hs := hp s
  rw [run_bind]
  generalize p.run s = reached at hs ⊢
  obtain ⟨a | e | _, s'⟩ := reached
  · exact (hk a s').trans hs
  · exact hs
  · exact hs

theorem Keeps.attempt {r : σ → γ} {p : Prog σ ε α} (hp : Keeps r p) :
    Keeps r (p.attempt : Prog σ ε' (Except ε α)) := by
  intro s
  have hs := hp s
  rw [run_attempt]
  generalize p.run s = reached at hs ⊢
  obtain ⟨a | e | _, s'⟩ := reached
  · exact hs
  · exact hs
  · exact hs

end Prog

/-! ### Operations -/

/-- How one operation goes: it takes effect, it is refused with an error, or the program is cut off
once it has taken effect. -/
inductive Outcome (ε : Type) where
  | ok
  | err (e : ε)
  | crash
  deriving DecidableEq, Repr

namespace Outcome

variable {σ ε γ : Type}

/-- The operation takes effect. -/
def takes : Outcome ε → Bool
  | .ok | .crash => true
  | .err _ => false

/-- The operation is refused. -/
def isErr : Outcome ε → Bool
  | .err _ => true
  | .ok | .crash => false

/-- The program goes on after the operation. -/
def isOk : Outcome ε → Bool
  | .ok => true
  | .err _ | .crash => false

/-- The outcome of two operations, one after the other. -/
def and : Outcome ε → Outcome ε → Outcome ε
  | .ok, o => o
  | .err e, _ => .err e
  | .crash, _ => .crash

/-- The end of a program that consists of the operation. -/
def exit : Outcome ε → Exit ε Unit
  | .ok => .done ()
  | .err e => .failed e
  | .crash => .crashed

end Outcome

namespace Prog

variable {σ ε α γ : Type}

/-- An operation with this effect on the state. -/
def op (o : Outcome ε) (effect : σ → σ) : Prog σ ε Unit where
  run s := (o.exit, if o.takes then effect s else s)

/-- An operation that reads the state. -/
def ask (o : Outcome ε) (read : σ → Except ε α) : Prog σ ε α where
  run s :=
    match o, read s with
    | .ok, .ok a => (.done a, s)
    | .ok, .error e => (.failed e, s)
    | .err e, _ => (.failed e, s)
    | .crash, _ => (.crashed, s)

theorem run_ask (o : Outcome ε) {read : σ → Except ε α} {s : σ} {a : α} (h : read s = .ok a) :
    (ask o read).run s =
      match o with
      | .ok => (.done a, s)
      | .err e => (.failed e, s)
      | .crash => (.crashed, s) := by
  simp only [ask, h]
  cases o <;> rfl

theorem Keeps.op {r : σ → γ} (o : Outcome ε) {effect : σ → σ} (h : ∀ s, r (effect s) = r s) :
    Keeps r (op o effect) := by
  intro s
  simp only [Prog.op]
  split_ifs
  · exact h s
  · rfl

end Prog

end VoxShift.Theory
