import VoxShift.Theory.Machine

/-!
# What a machine does not go by

Part of what a machine is told may be of no consequence to what it emits: some of
its inputs, and some of what other inputs say. `strip` takes that away from an
input, or the input as a whole, and `low` takes away from a state what only depends
on it.

## The rule

* `Unwinds` — a step on an input taken away emits nothing and changes nothing that
  counts, and any other step does what the step on the stripped input does from the
  stripped state.
* `Unwinds.run` — so a run does what the run on the stripped inputs does.
-/

namespace VoxShift.Theory

universe u v w

variable {σ : Type u} {ι : Type v} {ο : Type w}

/-- The machine goes by the stripped inputs and the part `low` of its states alone. -/
structure Machine.Unwinds (M : Machine σ ι ο) (low : σ → σ) (strip : ι → Option ι) : Prop where
  /-- An input that is taken away. -/
  skip : ∀ s i, strip i = none → low (M.next s i) = low s ∧ M.out s i = []
  /-- An input that stays. -/
  step : ∀ s i j, strip i = some j →
    low (M.next s i) = low (M.next (low s) j) ∧ M.out s i = M.out (low s) j
  /-- It is read as it is when stripped. -/
  strip : ∀ i j, strip i = some j → strip j = some j

variable {M : Machine σ ι ο} {low : σ → σ} {strip : ι → Option ι}

/-- Two states that agree on what counts emit the same on the same stripped input. -/
theorem Machine.Unwinds.agree (h : M.Unwinds low strip) {s t : σ} (hst : low s = low t) {i j : ι}
    (hij : strip i = some j) : low (M.next s i) = low (M.next t j) ∧ M.out s i = M.out t j := by
  obtain ⟨hnext, hout⟩ := h.step s i j hij
  obtain ⟨hnext', hout'⟩ := h.step t j j (h.strip i j hij)
  rw [hnext, hnext', hout, hout', hst]
  exact ⟨rfl, rfl⟩

/-- **A run** emits what the run on the stripped inputs does, and ends where it does. -/
theorem Machine.Unwinds.run (h : M.Unwinds low strip) {s t : σ} (hst : low s = low t)
    (is : List ι) :
    M.outs s is = M.outs t (is.filterMap strip) ∧
      low (M.run s is) = low (M.run t (is.filterMap strip)) := by
  induction is generalizing s t with
  | nil => exact ⟨rfl, hst⟩
  | cons i is ih =>
    cases hi : strip i with
    | none =>
      obtain ⟨hsame, hsilent⟩ := h.skip s i hi
      obtain ⟨houts, hend⟩ := ih (hsame.trans hst)
      rw [List.filterMap_cons_none hi, outs_cons, run_cons, hsilent]
      exact ⟨houts, hend⟩
    | some j =>
      obtain ⟨hnext, hout⟩ := h.agree hst hi
      obtain ⟨houts, hend⟩ := ih hnext
      rw [List.filterMap_cons_some hi, outs_cons, outs_cons, run_cons, run_cons, hout, houts]
      exact ⟨rfl, hend⟩

end VoxShift.Theory
