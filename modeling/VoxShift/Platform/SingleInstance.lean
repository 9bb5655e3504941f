import Mathlib.Data.List.Basic
import VoxShift.Theory.Machine

/-!
# One instance at a time

`voxshift-platform-windows`'s `single_instance.rs`: `acquire`, which `main` calls first,
and the guard that it returns.

## The model

* Any number of processes are launched in one logon session, and their calls of the
  operating system are interleaved. A process may end at any point. A name in `Local\` is
  the session's own: the processes of another session have another mutex.
* The kernel is a parameter, with what is documented of it (`Kernel.Lawful`): a named
  mutex is there as long as some process has a handle to it, `CreateMutexW` makes it where
  it is not there, opens it where it is, and tells the two apart; and the system closes the
  handles of a process that ends.

## What is proved

* `one_instance` — in every run, at most one process of the session has the guard; and
  while none is inside `acquire`, a launch gets the guard exactly when no process has it.
-/

namespace VoxShift.Platform

open VoxShift.Theory

/-- `MUTEX_NAME`. -/
def MUTEX_NAME : String := "Local\\VoxShift.SingleInstance"

/-! ### The kernel -/

/-- What `acquire` calls, for the processes of one session. -/
structure Kernel (κ π : Type) where
  /-- A `CreateMutexW` that succeeds; and whether `GetLastError` is `ERROR_ALREADY_EXISTS`. -/
  createMutex : String → κ → π → κ × Bool
  /-- The handle of a process to the mutex of this name is closed, if it has one. -/
  closeHandle : String → κ → π → κ

variable {κ π : Type}

/-- A named mutex is there while some process has a handle to it, and `CreateMutexW` says whether it
was. -/
structure Kernel.Lawful (kernel : Kernel κ π) (name : String) (Open : κ → π → Prop) : Prop where
  existed_iff : ∀ k p, (kernel.createMutex name k p).2 = true ↔ ∃ q, Open k q
  open_createMutex : ∀ k p q, Open (kernel.createMutex name k p).1 q ↔ Open k q ∨ q = p
  open_closeHandle : ∀ k p q, Open (kernel.closeHandle name k p) q ↔ Open k q ∧ q ≠ p

/-! ### The processes -/

/-- Where a process is. -/
inductive Point where
  /-- Not launched. -/
  | absent
  /-- In `acquire`, after `CreateMutexW`; whether the mutex was there. -/
  | created (existed : Bool)
  /-- In `acquire`, before the `CloseHandle` of the second instance. -/
  | refusing
  /-- It has the guard. -/
  | guarded
  /-- `acquire` has returned `None`, or the process has ended. -/
  | gone
  deriving DecidableEq, Repr

/-- The process is inside `acquire`, with a handle to the mutex. -/
def Point.Acquiring (x : Point) : Prop := x = .created true ∨ x = .created false ∨ x = .refusing

instance (x : Point) : Decidable x.Acquiring := inferInstanceAs (Decidable (_ ∨ _ ∨ _))

/-- The process has a handle to the mutex. -/
def Point.HasHandle (x : Point) : Prop := x.Acquiring ∨ x = .guarded

/-- The process made the mutex, and is to get the guard or has it. -/
def Point.Owns (x : Point) : Prop := x = .created false ∨ x = .guarded

theorem Point.Owns.hasHandle {x : Point} (h : x.Owns) : x.HasHandle := by
  obtain rfl | rfl := h
  · exact .inl (.inr (.inl rfl))
  · exact .inr rfl

/-- The processes and the kernel. -/
structure Launches (κ π : Type) where
  point : π → Point
  kernel : κ

/-- The next call of a process. -/
inductive LaunchMove (π : Type) where
  /-- `CreateMutexW`, which may fail. -/
  | create (p : π) (ok : Bool)
  /-- `GetLastError`. -/
  | check (p : π)
  /-- `CloseHandle`, after `ERROR_ALREADY_EXISTS`. -/
  | close (p : π)
  /-- The guard is dropped, or the process ends. -/
  | exit (p : π)

/-- What `acquire` returns: the guard or not. -/
inductive Acquired (π : Type) where
  | some (p : π)
  | none (p : π)
  deriving DecidableEq, Repr

namespace Launches

/-- No process has been launched. -/
def start (k : κ) : Launches κ π := ⟨fun _ => .absent, k⟩

variable [DecidableEq π] (kernel : Kernel κ π)

/-- A process goes on to a point without a handle. -/
def leave (s : Launches κ π) (p : π) : Launches κ π :=
  ⟨Function.update s.point p .gone, kernel.closeHandle MUTEX_NAME s.kernel p⟩

/-- A call of a process. -/
def step (s : Launches κ π) : LaunchMove π → Launches κ π × List (Acquired π)
  | .create p ok =>
    match s.point p with
    | .absent =>
      if ok then
        let (k, existed) := kernel.createMutex MUTEX_NAME s.kernel p
        (⟨Function.update s.point p (.created existed), k⟩, [])
      else (⟨Function.update s.point p .gone, s.kernel⟩, [.none p])
    | _ => (s, [])
  | .check p =>
    match s.point p with
    | .created true => (⟨Function.update s.point p .refusing, s.kernel⟩, [])
    | .created false => (⟨Function.update s.point p .guarded, s.kernel⟩, [.some p])
    | _ => (s, [])
  | .close p =>
    match s.point p with
    | .refusing => (s.leave kernel p, [.none p])
    | _ => (s, [])
  | .exit p =>
    match s.point p with
    | .absent => (s, [])
    | _ => (s.leave kernel p, [])

end Launches

/-- The launches as a machine. -/
def launches [DecidableEq π] (kernel : Kernel κ π) :
    Machine (Launches κ π) (LaunchMove π) (Acquired π) where
  step := Launches.step kernel

namespace Launches

/-- The processes with a handle are where they have one, and one at most made the mutex that there
is. -/
structure Inv (Open : κ → π → Prop) (s : Launches κ π) : Prop where
  open_iff : ∀ p, Open s.kernel p ↔ (s.point p).HasHandle
  unique : ∀ p q, (s.point p).Owns → (s.point q).Owns → p = q

variable {Open : κ → π → Prop}

theorem inv_start {k : κ} (hk : ∀ p, ¬ Open k p) : (start k).Inv Open where
  open_iff p := by simp [start, hk p, Point.HasHandle, Point.Acquiring]
  unique p q h := by simp [start, Point.Owns] at h

variable [DecidableEq π] {kernel : Kernel κ π} {s : Launches κ π}

/-- A process that gets to a point where it does not own the mutex. -/
theorem Inv.unique_update (h : s.Inv Open) {p : π} {x : Point} (hx : x.Owns → (s.point p).Owns)
    {q r : π} (hq : (Function.update s.point p x q).Owns)
    (hr : (Function.update s.point p x r).Owns) : q = r := by
  have hback : ∀ q, (Function.update s.point p x q).Owns → (s.point q).Owns := by
    intro q hq
    by_cases heq : q = p
    · subst heq
      exact hx (by simpa using hq)
    · simpa [heq] using hq
  exact h.unique q r (hback q hq) (hback r hr)

theorem Inv.leave (h : s.Inv Open) (hkernel : kernel.Lawful MUTEX_NAME Open) (p : π) :
    (s.leave kernel p).Inv Open where
  open_iff q := by
    simp only [Launches.leave, hkernel.open_closeHandle, h.open_iff]
    by_cases hq : q = p
    · subst hq
      simp [Point.HasHandle, Point.Acquiring]
    · simp [hq]
  unique _ _ := h.unique_update (by simp [Point.Owns])

/-- A process goes on, and has a handle after that exactly if it had one; it owns the mutex then
only if it did. -/
theorem Inv.move (h : s.Inv Open) {p : π} {x : Point} (hx : x.HasHandle ↔ (s.point p).HasHandle)
    (howns : x.Owns → (s.point p).Owns) :
    (⟨Function.update s.point p x, s.kernel⟩ : Launches κ π).Inv Open where
  open_iff q := by
    by_cases hq : q = p
    · subst hq
      simp [h.open_iff, hx]
    · simp [hq, h.open_iff]
  unique _ _ := h.unique_update howns

/-- A process makes the mutex if no process has a handle to it, and opens it otherwise. -/
theorem Inv.create (h : s.Inv Open) (hkernel : kernel.Lawful MUTEX_NAME Open) (p : π) :
    (⟨Function.update s.point p (.created (kernel.createMutex MUTEX_NAME s.kernel p).2),
      (kernel.createMutex MUTEX_NAME s.kernel p).1⟩ : Launches κ π).Inv Open where
  open_iff q := by
    simp only [hkernel.open_createMutex, h.open_iff]
    by_cases hq : q = p
    · subst hq
      cases (kernel.createMutex MUTEX_NAME s.kernel q).2 <;>
        simp [Point.HasHandle, Point.Acquiring]
    · simp [hq]
  unique q r hq hr := by
    cases hexisted : (kernel.createMutex MUTEX_NAME s.kernel p).2 with
    | true =>
      rw [hexisted] at hq hr
      exact h.unique_update (by simp [Point.Owns]) hq hr
    | false =>
      have hnone : ¬ ∃ q, Open s.kernel q := by
        rw [← hkernel.existed_iff s.kernel p, hexisted]
        simp
      have hother : ∀ q, (Function.update s.point p
          (.created (kernel.createMutex MUTEX_NAME s.kernel p).2) q).Owns → q = p := by
        intro q hq
        by_contra hne
        rw [Function.update_of_ne hne] at hq
        exact hnone ⟨q, (h.open_iff q).mpr hq.hasHandle⟩
      rw [hother q hq, hother r hr]

/-- **Every call** keeps the invariant. -/
theorem Inv.step (h : s.Inv Open) (hkernel : kernel.Lawful MUTEX_NAME Open) (m : LaunchMove π) :
    (s.step kernel m).1.Inv Open := by
  cases m with
  | create p ok =>
    simp only [Launches.step]
    split
    · next hp =>
      split_ifs
      · exact h.create hkernel p
      · exact h.move (by simp [hp, Point.HasHandle, Point.Acquiring]) (by simp [Point.Owns])
    · exact h
  | check p =>
    simp only [Launches.step]
    split
    · next hp =>
      exact h.move (by simp [hp, Point.HasHandle, Point.Acquiring]) (by simp [Point.Owns])
    · next hp =>
      exact h.move (by simp [hp, Point.HasHandle, Point.Acquiring]) (by simp [hp, Point.Owns])
    · exact h
  | close p =>
    simp only [Launches.step]
    split
    · exact h.leave hkernel p
    · exact h
  | exit p =>
    simp only [Launches.step]
    split
    · exact h
    · exact h.leave hkernel p

theorem launch_outs {p : π} (hp : s.point p = .absent) :
    (launches kernel).outs s [.create p true, .check p] = [.some p] ↔
      (kernel.createMutex MUTEX_NAME s.kernel p).2 = false := by
  have hstep : s.step kernel (.create p true) =
      (⟨Function.update s.point p (.created (kernel.createMutex MUTEX_NAME s.kernel p).2),
        (kernel.createMutex MUTEX_NAME s.kernel p).1⟩, []) := by simp [step, hp]
  simp only [Machine.outs_cons, Machine.out, Machine.next, launches, hstep]
  cases (kernel.createMutex MUTEX_NAME s.kernel p).2 <;> simp [step]

end Launches

/-- **One instance at a time.** Where the kernel does what is documented of its named mutexes, in
every run of any number of processes of one session, in any interleaving of their calls, at most one
process has the guard; and whenever no process is inside `acquire`, a process that is launched, and
whose `CreateMutexW` does not fail, gets the guard exactly when no other has it. -/
theorem one_instance [DecidableEq π] {kernel : Kernel κ π} {Open : κ → π → Prop}
    (hkernel : kernel.Lawful MUTEX_NAME Open) {k : κ} (hk : ∀ p, ¬ Open k p)
    (ms : List (LaunchMove π)) :
    let s := (launches kernel).run (.start k) ms
    (∀ p q, s.point p = .guarded → s.point q = .guarded → p = q) ∧
      ((∀ p, ¬ (s.point p).Acquiring) → ∀ p, s.point p = .absent →
        ((launches kernel).outs s [.create p true, .check p] = [.some p] ↔
          ∀ q, s.point q ≠ .guarded)) := by
  intro s
  have h : s.Inv Open := Machine.inv_run (M := launches kernel) (I := Launches.Inv Open)
    (fun _ m h => h.step hkernel m) (Launches.inv_start hk) ms
  refine ⟨fun p q hp hq => h.unique p q (.inr hp) (.inr hq), fun hquiet p hp => ?_⟩
  rw [Launches.launch_outs hp, ← Bool.not_eq_true, hkernel.existed_iff, not_exists]
  refine forall_congr' fun q => ?_
  rw [h.open_iff, Point.HasHandle, or_iff_right (hquiet q)]

/-! ### A kernel -/

/-- A kernel that has one named mutex, and keeps the processes with a handle to it. -/
def Kernel.handles : Kernel (List ℕ) ℕ where
  createMutex _ k p := (p :: k, !k.isEmpty)
  closeHandle _ k p := k.filter (· ≠ p)

theorem Kernel.lawful_handles (name : String) : Kernel.handles.Lawful name fun k p => p ∈ k where
  existed_iff k p := by cases k <;> simp [handles]
  open_createMutex k p q := by simp [handles, or_comm]
  open_closeHandle k p q := by simp [handles]

/-- The first of two processes that are launched together has the guard, and the second is
refused; after that a third one is. -/
theorem one_instance_handles :
    let s := (launches Kernel.handles).run (.start [])
      [.create 0 true, .create 1 true, .check 1, .check 0, .close 1]
    s.point 0 = .guarded ∧
      (launches Kernel.handles).outs s [.create 2 true, .check 2] ≠ [.some 2] := by
  intro s
  refine ⟨by decide, fun hlaunch => ?_⟩
  have hquiet : ∀ p, ¬ (s.point p).Acquiring := by
    intro p
    rcases p with _ | _ | p
    · decide
    · decide
    · exact (by decide : ¬ Point.absent.Acquiring)
  exact ((one_instance (Kernel.lawful_handles MUTEX_NAME) (by simp) _).2 hquiet 2 rfl).mp hlaunch 0
    (by decide)

/-- A launch can be refused though no process has the guard: by one that is being refused itself. -/
example : (launches Kernel.handles).outs (.start [])
    [.create 0 true, .check 0, .create 1 true, .exit 0, .create 2 true, .check 2, .close 2] =
      [.some 0, .none 2] := by decide

end VoxShift.Platform
