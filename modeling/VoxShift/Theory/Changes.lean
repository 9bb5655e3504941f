import Mathlib.Data.List.Basic
import Mathlib.Data.List.Chain

/-!
# Changes along a list

How often a value that takes the items of a list one after another changes. What
a FIFO channel of reports still has to say to a reader who last read `a` is
`changes a l`; reading one report takes at most one change away, reporting a
value adds at most one, and reporting it twice adds no more.

`Alternates a l` is the channel in which every report is a change.
-/

namespace VoxShift.Theory

variable {α : Type*}

section Changes

variable [DecidableEq α]

/-- The number of changes of a value that is `a` and then takes the items of a list. -/
def changes (a : α) : List α → ℕ
  | [] => 0
  | b :: l => (if a = b then 0 else 1) + changes b l

@[simp] theorem changes_nil (a : α) : changes a [] = 0 := rfl

@[simp] theorem changes_cons (a b : α) (l : List α) :
    changes a (b :: l) = (if a = b then 0 else 1) + changes b l := rfl

/-- One more report adds a change if it differs from the one before it. -/
theorem changes_concat (a b : α) (l : List α) :
    changes a (l ++ [b]) = changes a l + if l.getLastD a = b then 0 else 1 := by
  induction l generalizing a with
  | nil => simp
  | cons c l ih =>
    rw [List.cons_append, changes_cons, changes_cons, ih, List.getLastD_cons]
    omega

theorem changes_concat_le (a b : α) (l : List α) : changes a (l ++ [b]) ≤ changes a l + 1 := by
  rw [changes_concat]
  split_ifs <;> omega

theorem changes_stutter (a b : α) (l r : List α) :
    changes a (l ++ b :: b :: r) = changes a (l ++ b :: r) := by
  induction l generalizing a with
  | nil => simp
  | cons c l ih => rw [List.cons_append, List.cons_append, changes_cons, changes_cons, ih]

end Changes

/-- Every item is a change. -/
def Alternates (a : α) (l : List α) : Prop := (a :: l).IsChain (· ≠ ·)

@[simp] theorem alternates_nil (a : α) : Alternates a [] := List.isChain_singleton a

@[simp] theorem alternates_cons {a b : α} {l : List α} : Alternates a (b :: l) ↔ a ≠ b ∧
    Alternates b l :=
  List.isChain_cons_cons

theorem alternates_concat {a b : α} {l : List α} (h : Alternates a l) (hb : l.getLastD a ≠ b) :
    Alternates a (l ++ [b]) := by
  induction l generalizing a with
  | nil => simpa using hb
  | cons c l ih =>
    obtain ⟨hac, hl⟩ := alternates_cons.mp h
    rw [List.getLastD_cons] at hb
    exact alternates_cons.mpr ⟨hac, ih hl hb⟩

end VoxShift.Theory
