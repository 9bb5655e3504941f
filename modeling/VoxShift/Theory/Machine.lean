import Mathlib.Data.List.Basic
import Mathlib.Data.List.Chain
import Mathlib.Order.OrderDual

/-!
# Machines with outputs

A component that reacts to inputs is a *machine*: a step takes a state and an
input to the next state and to the list of what it emits. A run is a list of
inputs. This module gives the rules by which a property of one step becomes a
property of every run.

## The rules

* `Along P` — a condition on the state before a step and on its input, met by
  every step of a run.
* `inv_run` and `Along.inv` — an invariant kept by every step, or by every step
  that meets a condition, holds after the run.
* `Along.mono_of_inv` — under an invariant one condition gives another.
* `forall_mem_outs_of_inv` — what every step emits satisfies `Q`, so everything
  the run emits does.
* `silent_iff_along` — where a step avoids the bad outputs exactly when it meets
  a condition, a run avoids them exactly when all its steps meet it.
* `Remembers.isChain` — where a state remembers the last output and every step's
  outputs follow on from it, the outputs of a run form a chain.
* `Along.const_of_return` — a potential that no step of a run raises, or none
  lowers, and that the run as a whole brings back, is left alone by every step.
* `Along.countP_le` — where a potential and the outputs pay for every step of some
  kind, a run has at most as many of them as it has outputs, and what the potential
  held.
* `Along.length_le` — where every step lowers a potential, the run is no longer than
  the potential was.
* `held_since` — where a step leaves in a slot what was there or what it fills the
  slot with, what a slot holds was filled in by one step of the run and has been
  there since.
* `Refines` — one machine does what another does, seen through a map of the
  states: so do their runs.
-/

namespace VoxShift.Theory

universe u v w

/-- A machine: a step takes a state and an input to the next state and to what it emits. -/
structure Machine (σ : Type u) (ι : Type v) (ο : Type w) where
  /-- The step. -/
  step : σ → ι → σ × List ο

namespace Machine

variable {σ : Type u} {ι : Type v} {ο : Type w} (M : Machine σ ι ο)

/-- The state after a step. -/
def next (s : σ) (i : ι) : σ := (M.step s i).1

/-- What a step emits. -/
def out (s : σ) (i : ι) : List ο := (M.step s i).2

/-- The state after a run. -/
def run : σ → List ι → σ
  | s, [] => s
  | s, i :: is => run (M.next s i) is

/-- What a run emits, in order. -/
def outs : σ → List ι → List ο
  | _, [] => []
  | s, i :: is => M.out s i ++ outs (M.next s i) is

/-- Every step of the run meets `P`, a condition on the state before it and on its input. -/
def Along (P : σ → ι → Prop) : σ → List ι → Prop
  | _, [] => True
  | s, i :: is => P s i ∧ Along P (M.next s i) is

/-- The states a run reaches from an initial state. -/
def Reachable (init : σ → Prop) (s : σ) : Prop := ∃ s₀ is, init s₀ ∧ M.run s₀ is = s

@[simp] theorem run_nil (s : σ) : M.run s [] = s := rfl

@[simp] theorem run_cons (s : σ) (i : ι) (is : List ι) :
    M.run s (i :: is) = M.run (M.next s i) is := rfl

@[simp] theorem outs_nil (s : σ) : M.outs s [] = [] := rfl

@[simp] theorem outs_cons (s : σ) (i : ι) (is : List ι) :
    M.outs s (i :: is) = M.out s i ++ M.outs (M.next s i) is := rfl

@[simp] theorem along_nil (P : σ → ι → Prop) (s : σ) : M.Along P s [] := trivial

@[simp] theorem along_cons {P : σ → ι → Prop} {s : σ} {i : ι} {is : List ι} :
    M.Along P s (i :: is) ↔ P s i ∧ M.Along P (M.next s i) is := Iff.rfl

instance decidableAlong {P : σ → ι → Prop} [∀ s i, Decidable (P s i)] :
    ∀ (s : σ) (is : List ι), Decidable (M.Along P s is)
  | _, [] => .isTrue trivial
  | s, i :: is => @instDecidableAnd _ _ _ (decidableAlong (M.next s i) is)

theorem along_of_forall {P : ι → Prop} (s : σ) {is : List ι} (h : ∀ i ∈ is, P i) :
    M.Along (fun _ i => P i) s is := by
  induction is generalizing s with
  | nil => trivial
  | cons i is ih => exact ⟨h i List.mem_cons_self, ih _ fun j hj => h j (List.mem_cons_of_mem i hj)⟩

theorem Along.take {M : Machine σ ι ο} {P : σ → ι → Prop} {s : σ} {is : List ι}
    (h : M.Along P s is) (k : ℕ) : M.Along P s (is.take k) := by
  induction is generalizing s k with
  | nil => simp
  | cons i is ih =>
    cases k with
    | zero => trivial
    | succ k => exact ⟨h.1, ih h.2 k⟩

theorem Along.and {M : Machine σ ι ο} {P Q : σ → ι → Prop} {s : σ} {is : List ι}
    (hP : M.Along P s is)
    (hQ : M.Along Q s is) : M.Along (fun s i => P s i ∧ Q s i) s is := by
  induction is generalizing s with
  | nil => trivial
  | cons i is ih => exact ⟨⟨hP.1, hQ.1⟩, ih hP.2 hQ.2⟩

theorem run_append (s : σ) (is js : List ι) : M.run s (is ++ js) = M.run (M.run s is) js := by
  induction is generalizing s with
  | nil => rfl
  | cons i is ih => exact ih (M.next s i)

theorem outs_append (s : σ) (is js : List ι) :
    M.outs s (is ++ js) = M.outs s is ++ M.outs (M.run s is) js := by
  induction is generalizing s with
  | nil => rfl
  | cons i is ih => rw [List.cons_append, outs_cons, outs_cons, run_cons, ih, List.append_assoc]

variable {M}

theorem Reachable.init {init : σ → Prop} {s : σ} (h : init s) : M.Reachable init s :=
  ⟨s, [], h, rfl⟩

theorem Reachable.run {init : σ → Prop} {s : σ} (h : M.Reachable init s) (is : List ι) :
    M.Reachable init (M.run s is) := by
  obtain ⟨s₀, js, h₀, rfl⟩ := h
  exact ⟨s₀, js ++ is, h₀, M.run_append s₀ js is⟩

theorem Reachable.next {init : σ → Prop} {s : σ} (h : M.Reachable init s) (i : ι) :
    M.Reachable init (M.next s i) := h.run [i]

/-! ### Invariants -/

/-- An invariant kept by every step that meets `P` holds after a run of such steps. -/
theorem Along.inv {I : σ → Prop} {P : σ → ι → Prop} (hstep : ∀ s i, I s → P s i → I (M.next s i))
    {s : σ} {is : List ι} (h : M.Along P s is) (hs : I s) : I (M.run s is) := by
  induction is generalizing s with
  | nil => exact hs
  | cons i is ih => exact ih h.2 (hstep s i hs h.1)

/-- An invariant kept by every step holds after a run. -/
theorem inv_run {I : σ → Prop} (hstep : ∀ s i, I s → I (M.next s i)) {s : σ} (hs : I s)
    (is : List ι) :
    I (M.run s is) := by
  induction is generalizing s with
  | nil => exact hs
  | cons i is ih => exact ih (hstep s i hs)

/-- An invariant that holds initially and is kept by every step holds wherever a run gets. -/
theorem Reachable.inv {I init : σ → Prop} (hinit : ∀ s, init s → I s)
    (hstep : ∀ s i, I s → I (M.next s i)) {s : σ} (h : M.Reachable init s) : I s := by
  obtain ⟨s₀, is, h₀, rfl⟩ := h
  exact inv_run hstep (hinit s₀ h₀) is

theorem Along.mono {P Q : σ → ι → Prop} {s : σ} {is : List ι} (h : M.Along P s is)
    (hPQ : ∀ s i, P s i → Q s i) : M.Along Q s is := by
  induction is generalizing s with
  | nil => trivial
  | cons i is ih => exact ⟨hPQ s i h.1, ih h.2⟩

/-- Under an invariant, steps that meet `P` meet `Q`. -/
theorem Along.mono_of_inv {I : σ → Prop} {P Q : σ → ι → Prop}
    (hstep : ∀ s i, I s → P s i → I (M.next s i)) (hPQ : ∀ s i, I s → P s i → Q s i)
    {s : σ} {is : List ι} (h : M.Along P s is) (hs : I s) : M.Along Q s is := by
  induction is generalizing s with
  | nil => trivial
  | cons i is ih => exact ⟨hPQ s i hs h.1, ih h.2 (hstep s i hs h.1)⟩

/-- What every step emits under an invariant, the run emits. -/
theorem forall_mem_outs_of_inv {I : σ → Prop} {P : σ → ι → Prop} {Q : ο → Prop}
    (hstep : ∀ s i, I s → P s i → I (M.next s i)) (hout : ∀ s i, I s → P s i → ∀ o ∈ M.out s i, Q o)
    {s : σ} {is : List ι} (h : M.Along P s is) (hs : I s) : ∀ o ∈ M.outs s is, Q o := by
  induction is generalizing s with
  | nil => simp
  | cons i is ih =>
    intro o ho
    rcases List.mem_append.mp ho with ho | ho
    · exact hout s i hs h.1 o ho
    · exact ih h.2 (hstep s i hs h.1) o ho

/-- A run of silent steps is silent. -/
theorem Along.outs_eq_nil {s : σ} {is : List ι} (h : M.Along (fun s i => M.out s i = []) s is) :
    M.outs s is = [] := by
  induction is generalizing s with
  | nil => rfl
  | cons i is ih => rw [outs_cons, h.1, ih h.2, List.append_nil]

/-- **Silence, exactly.** Where a step under the invariant `I` and the condition `R` emits only what
satisfies `Q` exactly when it meets `P`, and such steps keep `I`, a run whose steps meet `R` emits
only what satisfies `Q` exactly when all its steps meet `P`. -/
theorem silent_iff_along {I : σ → Prop} {R P : σ → ι → Prop} {Q : ο → Prop}
    (hiff : ∀ s i, I s → R s i → ((∀ o ∈ M.out s i, Q o) ↔ P s i))
    (hstep : ∀ s i, I s → R s i → P s i → I (M.next s i)) {s : σ} (hs : I s) {is : List ι}
    (hR : M.Along R s is) : (∀ o ∈ M.outs s is, Q o) ↔ M.Along P s is := by
  induction is generalizing s with
  | nil => simp
  | cons i is ih =>
    simp only [outs_cons, List.mem_append, along_cons]
    constructor
    · intro h
      have hP : P s i := (hiff s i hs hR.1).mp fun o ho => h o (Or.inl ho)
      exact ⟨hP, (ih (hstep s i hs hR.1 hP) hR.2).mp fun o ho => h o (Or.inr ho)⟩
    · rintro ⟨hP, hrest⟩ o (ho | ho)
      · exact (hiff s i hs hR.1).mpr hP o ho
      · exact (ih (hstep s i hs hR.1 hP) hR.2).mpr hrest o ho

/-! ### Chains of outputs -/

/-- `last` holds the last output so far. -/
def Remembers (M : Machine σ ι ο) (last : σ → Option ο) : Prop :=
  ∀ s i, last (M.next s i) = (M.out s i).getLast?.or (last s)

theorem Remembers.run {last : σ → Option ο} (h : M.Remembers last) (s : σ) (is : List ι) :
    last (M.run s is) = (M.outs s is).getLast?.or (last s) := by
  induction is generalizing s with
  | nil => rfl
  | cons i is ih => rw [run_cons, ih, h, outs_cons, List.getLast?_append, Option.or_assoc]

/-- **Outputs in a chain.** Where what each step emits follows on, in `R`, from the last output
before it, what a run emits is a chain. -/
theorem Remembers.isChain {last : σ → Option ο} (h : M.Remembers last) {R : ο → ο → Prop}
    {I : σ → Prop} {P : σ → ι → Prop} (hstep : ∀ s i, I s → P s i → I (M.next s i))
    (hout : ∀ s i, I s → P s i → List.IsChain R ((last s).toList ++ M.out s i)) {s : σ}
    {is : List ι} (hP : M.Along P s is) (hs : I s) :
    List.IsChain R ((last s).toList ++ M.outs s is) := by
  induction is generalizing s with
  | nil =>
    rw [outs_nil, List.append_nil]
    cases last s with
    | none => exact .nil
    | some o => exact .singleton o
  | cons i is ih =>
    have hrest := ih hP.2 (hstep s i hs hP.1)
    have hfirst := hout s i hs hP.1
    rw [h] at hrest
    rw [outs_cons]
    rcases List.eq_nil_or_concat' (M.out s i) with hnil | ⟨before, o, hcons⟩
    · rw [hnil] at hrest ⊢
      exact hrest
    · rw [hcons] at hrest hfirst ⊢
      rw [List.getLast?_concat] at hrest
      rw [← List.append_assoc] at hfirst
      have hall := hfirst.append_overlap hrest (List.cons_ne_nil o [])
      rwa [List.append_assoc, List.append_assoc, ← List.append_assoc before] at hall

/-! ### Potentials -/

/-- A potential that no step raises is not raised by the run. -/
theorem Along.potential_le {α : Type*} [Preorder α] {f : σ → α} {s : σ} {is : List ι}
    (h : M.Along (fun s i => f (M.next s i) ≤ f s) s is) : f (M.run s is) ≤ f s := by
  induction is generalizing s with
  | nil => exact le_rfl
  | cons i is ih => exact le_trans (ih h.2) h.1

/-- **A potential along a cycle.** If no step raises `f` and the run brings it back to where it
was, then every step leaves it alone. -/
theorem Along.const_of_return {α : Type*} [PartialOrder α] {f : σ → α} {s : σ} {is : List ι}
    (h : M.Along (fun s i => f (M.next s i) ≤ f s) s is) (hret : f (M.run s is) = f s) :
    M.Along (fun s i => f (M.next s i) = f s) s is := by
  induction is generalizing s with
  | nil => trivial
  | cons i is ih =>
    have hrest : f (M.run (M.next s i) is) ≤ f (M.next s i) := Along.potential_le h.2
    rw [run_cons] at hret
    rw [hret] at hrest
    have hfirst : f (M.next s i) = f s := le_antisymm h.1 hrest
    exact ⟨hfirst, ih h.2 (hret.trans hfirst.symm)⟩

/-- The same for a potential that no step lowers. -/
theorem Along.const_of_return_of_le {α : Type*} [PartialOrder α] {f : σ → α} {s : σ} {is : List ι}
    (h : M.Along (fun s i => f s ≤ f (M.next s i)) s is) (hret : f (M.run s is) = f s) :
    M.Along (fun s i => f (M.next s i) = f s) s is :=
  @Along.const_of_return σ ι ο M αᵒᵈ _ (OrderDual.toDual ∘ f) s is h hret

/-- **Paid by the outputs.** Where `f` falls with every step of the kind `p`, and rises by no more
than the step emits, a run has at most as many such steps as it has outputs, and `f` to begin
with. -/
theorem Along.countP_le {f : σ → ℕ} {p : ι → Bool} {s : σ} {is : List ι}
    (h : M.Along (fun s i => (if p i then 1 else 0) + f (M.next s i) ≤ f s + (M.out s i).length)
      s is) :
    is.countP p + f (M.run s is) ≤ f s + (M.outs s is).length := by
  induction is generalizing s with
  | nil => simp
  | cons i is ih =>
    have hfirst := h.1
    have hrest := ih h.2
    rw [List.countP_cons, run_cons, outs_cons, List.length_append]
    omega

/-- **A bound on the length of a run.** Where every step lowers `f`, a run is no longer than `f` to
begin with. -/
theorem Along.length_le {f : σ → ℕ} {s : σ} {is : List ι}
    (h : M.Along (fun s i => f (M.next s i) < f s) s is) : is.length + f (M.run s is) ≤ f s := by
  induction is generalizing s with
  | nil => simp
  | cons i is ih =>
    have hfirst := h.1
    have hrest := ih h.2
    rw [List.length_cons, run_cons]
    omega

/-! ### Slots -/

section Slots

variable {α : Type*}

/-- The slot was filled with `a` by a step of the run, and has held it from then to the point `k`.
`Fills` says of a state and an input what the step fills the slot with. -/
def HeldSince (M : Machine σ ι ο) (slot : σ → Option α) (Fills : σ → ι → α → Prop) (s : σ)
    (is : List ι) (k : ℕ) (a : α) : Prop :=
  ∃ j < k, ∃ i, is[j]? = some i ∧ Fills (M.run s (is.take j)) i a ∧
    ∀ m, j < m → m ≤ k → slot (M.run s (is.take m)) = some a

theorem run_take_succ (s : σ) {is : List ι} {k : ℕ} {i : ι} (h : is[k]? = some i) :
    M.run s (is.take (k + 1)) = M.next (M.run s (is.take k)) i := by
  rw [List.take_add_one, h, run_append]
  rfl

/-- What is held up to a point, and at the next one, is held up to the next one. -/
theorem HeldSince.succ {slot : σ → Option α} {Fills : σ → ι → α → Prop} {s : σ} {is : List ι}
    {k : ℕ} {a : α} (h : M.HeldSince slot Fills s is k a)
    (hk : slot (M.run s (is.take (k + 1))) = some a) : M.HeldSince slot Fills s is (k + 1) a := by
  obtain ⟨j, hj, i, hi, hfills, hheld⟩ := h
  refine ⟨j, Nat.lt_succ_of_lt hj, i, hi, hfills, fun m hjm hm => ?_⟩
  rcases Nat.lt_or_eq_of_le hm with hlt | rfl
  · exact hheld m hjm (Nat.le_of_lt_succ hlt)
  · exact hk

/-- **Held since it was filled in.** Where every step leaves in the slot what was there, empties it
or fills it, what an initially empty slot holds at some point of a run was filled in by one step of
the run, and has been there at every point since. -/
theorem held_since {slot : σ → Option α} {Fills : σ → ι → α → Prop}
    (hstep : ∀ s i a, slot (M.next s i) = some a → slot s = some a ∨ Fills s i a) {s : σ}
    (hs : slot s = none) {is : List ι} {k : ℕ} {a : α}
    (h : slot (M.run s (is.take k)) = some a) : M.HeldSince slot Fills s is k a := by
  induction k with
  | zero =>
    rw [List.take_zero, run_nil, hs] at h
    cases h
  | succ k ih =>
    cases hi : is[k]? with
    | none =>
      have hover : is.take (k + 1) = is.take k := by
        rw [List.take_add_one, hi, Option.toList_none, List.append_nil]
      exact (ih (hover ▸ h)).succ h
    | some i =>
      have hnext := M.run_take_succ s hi
      rcases hstep _ i a (hnext ▸ h) with hkept | hfills
      · exact (ih hkept).succ h
      · refine ⟨k, Nat.lt_succ_self k, i, hi, hfills, fun m hkm hm => ?_⟩
        rw [Nat.le_antisymm hm hkm]
        exact h

end Slots

/-! ### Refinement -/

section Refinement

variable {σ' : Type*} {ι' : Type*} {ο' : Type*} {N : Machine σ' ι' ο'}

/-- From the states that satisfy `I`, which steps do not leave, `M` does what `N` does, seen through
maps of the states, the inputs and the outputs. -/
structure Refines (M : Machine σ ι ο) (N : Machine σ' ι' ο') (I : σ → Prop) (f : σ → σ')
    (g : ι → ι')
    (h : ο → ο') : Prop where
  inv : ∀ s i, I s → I (M.next s i)
  next : ∀ s i, I s → f (M.next s i) = N.next (f s) (g i)
  out : ∀ s i, I s → (M.out s i).map h = N.out (f s) (g i)

variable {I : σ → Prop} {f : σ → σ'} {g : ι → ι'} {h : ο → ο'} (R : Refines M N I f g h)

include R

/-- A run of `M` leads where the run of `N` does. -/
theorem Refines.run {s : σ} (hs : I s) (is : List ι) : f (M.run s is) = N.run (f s) (is.map g) := by
  induction is generalizing s with
  | nil => rfl
  | cons i is ih => rw [List.map_cons, run_cons, run_cons, ih (R.inv s i hs), R.next s i hs]

/-- A run of `M` emits what the run of `N` does. -/
theorem Refines.outs {s : σ} (hs : I s) (is : List ι) :
    (M.outs s is).map h = N.outs (f s) (is.map g) := by
  induction is generalizing s with
  | nil => rfl
  | cons i is ih =>
    rw [List.map_cons, outs_cons, outs_cons, List.map_append, ih (R.inv s i hs), R.out s i hs,
      R.next s i hs]

/-- A condition on the steps of `M` that is one on the steps of `N`, seen through the maps, is met
along the two runs alike. -/
theorem Refines.along {P : σ' → ι' → Prop} {Q : σ → ι → Prop}
    (hPQ : ∀ s i, I s → (Q s i ↔ P (f s) (g i)))
    {s : σ} (hs : I s) {is : List ι} : M.Along Q s is ↔ N.Along P (f s) (is.map g) := by
  induction is generalizing s with
  | nil => simp
  | cons i is ih =>
    rw [List.map_cons, along_cons, along_cons, hPQ s i hs, ← R.next s i hs, ih (R.inv s i hs)]

end Refinement

end Machine

end VoxShift.Theory
