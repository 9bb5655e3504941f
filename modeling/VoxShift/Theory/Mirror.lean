import Mathlib.Data.List.Basic

/-!
# A copy that is told of changes

A component keeps a copy of a value that lives elsewhere. It is told of it by
reports, which arrive in the order they were made, and it may forget what it was
told. `after` says what a report makes of the copy, and `soon` what the copy will
be once the reports on their way have arrived.

## The rules

* `soon_cons`, `soon_concat` — taking the next report leaves `soon` alone, and
  making one changes it as the report changes a copy.
* `Told.taken`, `Told.made`, `Told.forgotten` — so the copy is forgotten or right
  once everything has arrived, whatever happens in which order.
* `Told.arrived` — when nothing is on its way it is so now.
* `Firm.kept` — where the copy may be empty, what it will be told does not depend on
  what fills it in the meantime.
-/

namespace VoxShift.Theory

variable {α ρ : Type*}

/-- What the copy will be once the reports on their way have arrived. -/
def soon (after : ρ → α → α) (copy : α) (reports : List ρ) : α :=
  reports.foldl (fun a r => after r a) copy

section Soon

variable {after : ρ → α → α} {copy : α}

@[simp] theorem soon_nil : soon after copy [] = copy := rfl

@[simp] theorem soon_cons (r : ρ) (reports : List ρ) :
    soon after copy (r :: reports) = soon after (after r copy) reports := rfl

theorem soon_append (first second : List ρ) :
    soon after copy (first ++ second) = soon after (soon after copy first) second :=
  List.foldl_append

theorem soon_concat (reports : List ρ) (r : ρ) :
    soon after copy (reports ++ [r]) = after r (soon after copy reports) := by
  rw [soon_append, soon_cons, soon_nil]

/-- Reports that say nothing of the value. -/
theorem soon_of_keeps {reports : List ρ} (h : ∀ r ∈ reports, after r = id) :
    soon after copy reports = copy := by
  induction reports with
  | nil => rfl
  | cons r reports ih =>
    rw [soon_cons, h r List.mem_cons_self]
    exact ih fun r' hr' => h r' (List.mem_cons_of_mem r hr')

end Soon

/-- Every report says what the value is, or nothing about it. -/
def SetsOrKeeps (after : ρ → α → α) : Prop := ∀ r, (∃ a, after r = fun _ => a) ∨ after r = id

/-- Reports together say what the value is, or nothing about it. -/
theorem SetsOrKeeps.soon {after : ρ → α → α} (h : SetsOrKeeps after) (reports : List ρ) :
    (∃ a, ∀ copy, soon after copy reports = a) ∨ ∀ copy, soon after copy reports = copy := by
  induction reports with
  | nil => exact .inr fun _ => rfl
  | cons r reports ih =>
    rcases ih with ⟨a, ha⟩ | hkeep
    · exact .inl ⟨a, fun copy => ha _⟩
    · rcases h r with ⟨a, ha⟩ | hid
      · refine .inl ⟨a, fun copy => ?_⟩
        rw [soon_cons, hkeep, ha]
      · refine .inr fun copy => ?_
        rw [soon_cons, hkeep, hid, id]

/-- The copy will be forgotten, or right. -/
def Told (after : ρ → α → α) (unknown value copy : α) (reports : List ρ) : Prop :=
  soon after copy reports = unknown ∨ soon after copy reports = value

section Told

variable {after : ρ → α → α} {unknown value copy : α} {r : ρ} {reports : List ρ}

theorem Told.taken (h : Told after unknown value copy (r :: reports)) {copy' : α}
    (hcopy : copy' = after r copy) : Told after unknown value copy' reports := by
  subst hcopy
  exact h

/-- A report that the value is what it is. -/
theorem Told.made {value' : α} (hr : ∀ a, after r a = value') :
    Told after unknown value' copy (reports ++ [r]) := by
  refine .inr ?_
  rw [soon_concat, hr]

/-- A report after which the copy is forgotten. -/
theorem Told.lost (hr : ∀ a, after r a = unknown) (value : α) :
    Told after unknown value copy (reports ++ [r]) := by
  refine .inl ?_
  rw [soon_concat, hr]

/-- A report that says nothing of the value. -/
theorem Told.unrelated (h : Told after unknown value copy reports) (hr : after r = id) :
    Told after unknown value copy (reports ++ [r]) := by
  unfold Told
  rw [soon_concat, hr]
  exact h

theorem Told.forgotten (h : Told after unknown value copy reports) (hafter : SetsOrKeeps after)
    {copy' : α} (hcopy : copy' = copy ∨ copy' = unknown) :
    Told after unknown value copy' reports := by
  rcases hcopy with rfl | rfl
  · exact h
  · rcases hafter.soon reports with ⟨a, ha⟩ | hkeep
    · unfold Told at h ⊢
      rw [ha] at h ⊢
      exact h
    · exact .inl (hkeep copy')

/-- **When everything has arrived** the copy is forgotten or right. -/
theorem Told.arrived (h : Told after unknown value copy []) : copy = unknown ∨ copy = value := h

end Told

/-! ### A copy that may be empty -/

/-- A report says what the value is, or says nothing of it to one who knows nothing. -/
def Firm (after : ρ → Option α → Option α) : Prop :=
  ∀ r, (∃ a, after r = fun _ => a) ∨ after r none = none

/-- What an empty copy will be told, any copy will be. -/
theorem Firm.soon_eq {after : ρ → Option α → Option α} (h : Firm after) {reports : List ρ} {a : α}
    (hnone : soon after none reports = some a) (copy : Option α) :
    soon after copy reports = some a := by
  induction reports generalizing copy with
  | nil => cases hnone
  | cons r reports ih =>
    rw [soon_cons] at hnone ⊢
    rcases h r with ⟨b, hb⟩ | hkeep
    · rw [hb] at hnone ⊢
      exact hnone
    · rw [hkeep] at hnone
      exact ih hnone _

/-- **What a copy will be told** it will be told even if it was filled in the meantime. -/
theorem Firm.kept {after : ρ → Option α → Option α} (h : Firm after) {copy copy' : Option α}
    {reports : List ρ} {a : α} (hsoon : soon after copy reports = some a)
    (hcopy : ∀ b, copy = some b → copy' = some b) : soon after copy' reports = some a := by
  cases copy with
  | none => exact h.soon_eq hsoon copy'
  | some b =>
    rw [hcopy b rfl]
    exact hsoon

end VoxShift.Theory
