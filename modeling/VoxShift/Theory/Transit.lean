import VoxShift.Theory.Machine

/-!
# What is on its way

Messages are put on their way by some steps of a machine and taken off it by
others. If every step keeps them in order, loses none and makes none up, then so
does every run: what was on its way and what the run put there are, in order, what
the run took and what is on its way now.

## The rules

* `collect` — what a run puts, or takes, as the machine's steps say it.
* `Along.conserved` — the equation for one step gives the one for a run.
* `accept_collect` — where what every step puts on its way takes an acceptor from a phase that
  fits the state to one that fits the next, so does what a run puts there.
* `Feeds` — where every step of one machine is a run of another on what the step hands
  it, so is every run.
-/

namespace VoxShift.Theory

/-! ### Acceptors -/

section Accept

variable {π α : Type*} (after : π → α → Option π)

/-- The phase after a list of messages; `none` where one of them is not accepted. -/
def accept : π → List α → Option π
  | p, [] => some p
  | p, a :: as => (after p a).bind fun q => accept q as

@[simp] theorem accept_nil (p : π) : accept after p [] = some p := rfl

@[simp] theorem accept_cons (p : π) (a : α) (as : List α) :
    accept after p (a :: as) = (after p a).bind fun q => accept after q as := rfl

theorem accept_append (p : π) (as bs : List α) :
    accept after p (as ++ bs) = (accept after p as).bind fun q => accept after q bs := by
  induction as generalizing p with
  | nil => rfl
  | cons a as ih =>
    rw [List.cons_append, accept_cons, accept_cons, Option.bind_assoc]
    exact congrArg _ (funext ih)

variable {after}

/-- Messages that leave the acceptor where it is. -/
theorem accept_of_stays {p : π} {as : List α} (h : ∀ a ∈ as, after p a = some p) :
    accept after p as = some p := by
  induction as with
  | nil => rfl
  | cons a as ih =>
    rw [accept_cons, h a List.mem_cons_self]
    exact ih fun b hb => h b (List.mem_cons_of_mem a hb)

theorem accept_of_append {p : π} {as : List α} (bs : List α)
    (h : (accept after p (as ++ bs)).isSome) : (accept after p as).isSome := by
  rw [accept_append] at h
  exact Option.isSome_of_isSome_bind h

/-- What is accepted is accepted message by message, each in some phase. -/
theorem after_of_mem {p : π} {as : List α} (h : (accept after p as).isSome) {a : α} (ha : a ∈ as) :
    ∃ q, (after q a).isSome := by
  induction as generalizing p with
  | nil => cases ha
  | cons b as ih =>
    obtain ⟨q, hq⟩ := Option.isSome_iff_exists.mp (Option.isSome_of_isSome_bind h)
    rw [accept_cons, hq] at h
    rcases List.mem_cons.mp ha with rfl | ha
    · exact ⟨p, by rw [hq]; rfl⟩
    · exact ih h ha

end Accept

namespace Machine

universe u v w

variable {σ : Type u} {ι : Type v} {ο : Type w} {α : Type*} (M : Machine σ ι ο)

/-- What `f` reads off the steps of a run, in order. -/
def collect (f : σ → ι → List α) : σ → List ι → List α
  | _, [] => []
  | s, i :: is => f s i ++ collect f (M.next s i) is

@[simp] theorem collect_nil (f : σ → ι → List α) (s : σ) : M.collect f s [] = [] := rfl

@[simp] theorem collect_cons (f : σ → ι → List α) (s : σ) (i : ι) (is : List ι) :
    M.collect f s (i :: is) = f s i ++ M.collect f (M.next s i) is := rfl

theorem along_all {P : σ → ι → Prop} (h : ∀ s i, P s i) (s : σ) (is : List ι) : M.Along P s is := by
  induction is generalizing s with
  | nil => trivial
  | cons i is ih => exact ⟨h s i, ih (M.next s i)⟩

theorem collect_out (s : σ) (is : List ι) : M.collect M.out s is = M.outs s is := by
  induction is generalizing s with
  | nil => rfl
  | cons i is ih => rw [collect_cons, outs_cons, ih]

/-- Where two things are read off every step, one list is as long as both. -/
theorem length_collect_append (f g : σ → ι → List α) (s : σ) (is : List ι) :
    (M.collect (fun s i => f s i ++ g s i) s is).length =
      (M.collect f s is).length + (M.collect g s is).length := by
  induction is generalizing s with
  | nil => rfl
  | cons i is ih =>
    simp only [collect_cons, List.length_append, ih]
    omega

theorem filterMap_collect {β : Type*} (g : α → Option β) (f : σ → ι → List α) (s : σ)
    (is : List ι) :
    (M.collect f s is).filterMap g = M.collect (fun s i => (f s i).filterMap g) s is := by
  induction is generalizing s with
  | nil => rfl
  | cons i is ih => rw [collect_cons, collect_cons, List.filterMap_append, ih]

theorem map_collect {β : Type*} (g : α → β) (f : σ → ι → List α) (s : σ) (is : List ι) :
    (M.collect f s is).map g = M.collect (fun s i => (f s i).map g) s is := by
  induction is generalizing s with
  | nil => rfl
  | cons i is ih => rw [collect_cons, collect_cons, List.map_append, ih]

theorem flatMap_collect {β : Type*} (g : α → List β) (f : σ → ι → List α) (s : σ) (is : List ι) :
    (M.collect f s is).flatMap g = M.collect (fun s i => (f s i).flatMap g) s is := by
  induction is generalizing s with
  | nil => rfl
  | cons i is ih => rw [collect_cons, collect_cons, List.flatMap_append, ih]

theorem exists_of_mem_collect {f : σ → ι → List α} {s : σ} {is : List ι} {a : α}
    (h : a ∈ M.collect f s is) : ∃ s' i, i ∈ is ∧ a ∈ f s' i := by
  induction is generalizing s with
  | nil => cases h
  | cons i is ih =>
    rcases List.mem_append.mp h with hnow | hlater
    · exact ⟨s, i, List.mem_cons_self, hnow⟩
    · obtain ⟨s', j, hj, ha⟩ := ih hlater
      exact ⟨s', j, List.mem_cons_of_mem i hj, ha⟩

/-- What is read off every step has a property, so what is read off a run has it. -/
theorem forall_mem_collect {f : σ → ι → List α} {P : α → Prop} (h : ∀ s i, ∀ a ∈ f s i, P a)
    (s : σ) (is : List ι) : ∀ a ∈ M.collect f s is, P a := by
  intro a ha
  obtain ⟨s', i, -, hmem⟩ := M.exists_of_mem_collect ha
  exact h s' i a hmem

/-- A run only reads `f` where it gets. -/
theorem collect_congr {f g : σ → ι → List α} {s : σ} {is : List ι}
    (h : M.Along (fun s i => f s i = g s i) s is) : M.collect f s is = M.collect g s is := by
  induction is generalizing s with
  | nil => rfl
  | cons i is ih => rw [collect_cons, collect_cons, h.1, ih h.2]

variable {M}

/-- **Nothing lost, nothing made up.** Where every step conserves what is on its way, so does the
run. -/
theorem Along.conserved {transit : σ → List α} {sent taken : σ → ι → List α} {s : σ} {is : List ι}
    (h : M.Along (fun s i => transit s ++ sent s i = taken s i ++ transit (M.next s i)) s is) :
    transit s ++ M.collect sent s is = M.collect taken s is ++ transit (M.run s is) := by
  induction is generalizing s with
  | nil => simp
  | cons i is ih =>
    calc transit s ++ M.collect sent s (i :: is)
        = (transit s ++ sent s i) ++ M.collect sent (M.next s i) is := by
          rw [collect_cons, List.append_assoc]
      _ = taken s i ++ (transit (M.next s i) ++ M.collect sent (M.next s i) is) := by
          rw [h.1, List.append_assoc]
      _ = M.collect taken s (i :: is) ++ transit (M.run s (i :: is)) := by
          rw [ih h.2, collect_cons, run_cons, List.append_assoc]

variable (M) in
/-- **Accepted step by step, accepted over a run.** -/
theorem accept_collect {π : Type*} {f : σ → ι → List α} {after : π → α → Option π}
    (Fits : σ → π → Prop)
    (hstep : ∀ s i p, Fits s p → ∃ q, accept after p (f s i) = some q ∧ Fits (M.next s i) q)
    {s : σ} {p : π} (hs : Fits s p) (is : List ι) :
    ∃ q, accept after p (M.collect f s is) = some q ∧ Fits (M.run s is) q := by
  induction is generalizing s p with
  | nil => exact ⟨p, rfl, hs⟩
  | cons i is ih =>
    obtain ⟨q, hq, hfits⟩ := hstep s i p hs
    obtain ⟨r, hr, hlast⟩ := ih hfits
    refine ⟨r, ?_, hlast⟩
    rw [collect_cons, accept_append, hq]
    exact hr

/-! ### One machine in front of another -/

section Feeding

universe u' v' w'

variable {τ : Type u'} {κ : Type v'} {ο' : Type w'}

/-- Every step of `M` is a run of `N`, seen through `f`, on the inputs that `g` reads off it; what
this run emits is what `k` reads off the step. -/
structure Feeds (M : Machine σ ι ο) (N : Machine τ κ ο') (f : σ → τ) (g : σ → ι → List κ)
    (k : σ → ι → List ο') : Prop where
  next : ∀ s i, f (M.next s i) = N.run (f s) (g s i)
  out : ∀ s i, k s i = N.outs (f s) (g s i)

variable {N : Machine τ κ ο'} {f : σ → τ} {g : σ → ι → List κ} {k : σ → ι → List ο'}
  (h : M.Feeds N f g k)

include h

/-- A run of `M` leads where the run of `N` on everything it was handed does. -/
theorem Feeds.run (s : σ) (is : List ι) : f (M.run s is) = N.run (f s) (M.collect g s is) := by
  induction is generalizing s with
  | nil => rfl
  | cons i is ih => rw [run_cons, collect_cons, run_append, ih, h.next]

/-- What is read off a run of `M` is what the run of `N` emits. -/
theorem Feeds.outs (s : σ) (is : List ι) : M.collect k s is = N.outs (f s) (M.collect g s is) := by
  induction is generalizing s with
  | nil => rfl
  | cons i is ih => rw [collect_cons, collect_cons, outs_append, ih, h.next, h.out]

end Feeding

end Machine

end VoxShift.Theory
