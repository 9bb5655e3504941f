import Mathlib.Data.List.Nodup
import Mathlib.Data.List.Perm.Subperm
import Mathlib.Tactic.Common

/-!
# Records as documents

How a value is written to a document of nested lists and objects, and read back. A
record is written as an object with one entry for each of its members. What is read
may have the entries in any order, entries of other names among them, and may leave
entries out: those members take the value of a fallback. A name that occurs twice is
refused. A list is read as the members in their order.

## What is proved

* `Record.read_obj_iff` — what an object is read as.
* `Record.restores_iff` — a record is read back as it was written exactly when each
  member is.
* `Record.Keeps.yields` — what every record that is read has.
* `Record.exists_read_of_subperm` — an object with some of the entries of a record.
-/

namespace VoxShift.Theory

/-- A document. The numbers are `ν`. -/
inductive Doc (ν : Type) where
  | null
  | bool (b : Bool)
  | num (n : ν)
  | str (s : String)
  | arr (items : List (Doc ν))
  | obj (entries : List (String × Doc ν))

/-- How the values of a type are written, and read. -/
structure Codec (ν α : Type) where
  write : α → Doc ν
  read : Doc ν → Option α

variable {ν α σ : Type}

namespace Codec

/-- A value is read back as it was written. -/
def Restores (c : Codec ν α) (a : α) : Prop := c.read (c.write a) = some a

/-- Whatever is read has the property `P`. -/
def Yields (c : Codec ν α) (P : α → Prop) : Prop := ∀ d a, c.read d = some a → P a

/-- What is read back has the property, so what has it not is not read back. -/
theorem Yields.of_restores {c : Codec ν α} {P : α → Prop} (h : c.Yields P) {a : α}
    (ha : c.Restores a) : P a := h _ _ ha

/-- `true` or `false`. -/
protected def bool : Codec ν Bool where
  write := .bool
  read
    | .bool b => some b
    | _ => none

/-- A text. -/
protected def str : Codec ν String where
  write := .str
  read
    | .str s => some s
    | _ => none

/-- An enumeration: the name of the value, or an object with this name and nothing under it. -/
def variants (name : α → String) (values : List α) : Codec ν α where
  write a := .str (name a)
  read
    | .str s => values.find? (name · = s)
    | .obj [(s, .null)] => values.find? (name · = s)
    | _ => none

theorem restores_bool (b : Bool) : (Codec.bool : Codec ν Bool).Restores b := rfl

theorem restores_str (s : String) : (Codec.str : Codec ν String).Restores s := rfl

theorem restores_variants {name : α → String} {values : List α} {a : α} (ha : a ∈ values)
    (hname : ∀ b ∈ values, name b = name a → b = a) :
    (variants name values : Codec ν α).Restores a := by
  change values.find? (name · = name a) = some a
  have hsome : (values.find? (name · = name a)).isSome := by simpa using ⟨a, ha, rfl⟩
  obtain ⟨b, hb⟩ := Option.isSome_iff_exists.mp hsome
  have hba : name b = name a := by simpa using List.find?_some hb
  rw [hb, hname b (List.mem_of_find?_eq_some hb) hba]

end Codec

/-- A member of a record: its name in a document, and how it is taken from a record and put
there. -/
structure Member (ν σ : Type) where
  key : String
  {α : Type}
  codec : Codec ν α
  get : σ → α
  set : α → σ → σ

namespace Member

/-- The entry that a record has for a member. -/
def entry (m : Member ν σ) (s : σ) : String × Doc ν := (m.key, m.codec.write (m.get s))

/-- The member of `s` is the one that the entries hold, or else the one of `fallback`. -/
def Agrees (m : Member ν σ) (fallback : σ) (entries : List (String × Doc ν)) (s : σ) : Prop :=
  (∀ d, (m.key, d) ∈ entries → m.codec.read d = some (m.get s)) ∧
    (m.key ∉ entries.map Prod.fst → m.get s = m.get fallback)

end Member

/-- A type of records: its members, and the record whose members fill in for missing ones. The
names are distinct, and a record is its members. -/
structure Record (ν σ : Type) where
  fallback : σ
  members : List (Member ν σ)
  nodup : (members.map Member.key).Nodup := by simp
  get_set : ∀ m ∈ members, ∀ a s, m.get (m.set a s) = a := by simp
  get_set_of_ne : ∀ m ∈ members, ∀ n ∈ members, n.key ≠ m.key →
    ∀ a s, n.get (m.set a s) = n.get s := by simp
  ext : ∀ s t, (∀ m ∈ members, m.get s = m.get t) → s = t

namespace Record

variable (r : Record ν σ)

/-- The member of a name. -/
def find (k : String) : Option (Member ν σ) := r.members.find? (·.key = k)

/-- The entries are read from left to right, into `s`; the names in `seen` have been read. -/
def readEntries : List String → List (String × Doc ν) → σ → Option σ
  | _, [], s => some s
  | seen, (k, d) :: entries, s =>
    match r.find k with
    | none => readEntries seen entries s
    | some m =>
      if k ∈ seen then none
      else (m.codec.read d).bind fun a => readEntries (k :: seen) entries (m.set a s)

/-- The items are read into the members, in their order; missing ones stay as they are, and there
are no further ones. -/
def readItems : List (Member ν σ) → List (Doc ν) → σ → Option σ
  | _, [], s => some s
  | [], _ :: _, _ => none
  | m :: ms, d :: items, s => (m.codec.read d).bind fun a => readItems ms items (m.set a s)

/-- The record as a document. -/
def codec : Codec ν σ where
  write s := .obj (r.members.map (·.entry s))
  read
    | .obj entries => r.readEntries [] entries r.fallback
    | .arr items => readItems r.members items r.fallback
    | _ => none

/-- The entries with the name of a member. -/
def known (entries : List (String × Doc ν)) : List (String × Doc ν) :=
  entries.filter fun e => e.1 ∈ r.members.map Member.key

variable {r}

theorem find_eq_some {k : String} {m : Member ν σ} (h : r.find k = some m) :
    m ∈ r.members ∧ m.key = k :=
  ⟨List.mem_of_find?_eq_some h, by simpa using List.find?_some h⟩

theorem find_eq_none {k : String} (h : r.find k = none) : k ∉ r.members.map Member.key := by
  simpa [find] using h

theorem eq_of_key {m n : Member ν σ} (hm : m ∈ r.members) (hn : n ∈ r.members)
    (h : m.key = n.key) : m = n :=
  List.inj_on_of_nodup_map r.nodup hm hn h

theorem mem_known {m : Member ν σ} (hm : m ∈ r.members) {d : Doc ν}
    {entries : List (String × Doc ν)} : (m.key, d) ∈ r.known entries ↔ (m.key, d) ∈ entries := by
  rw [known, List.mem_filter]
  exact and_iff_left (decide_eq_true (List.mem_map_of_mem hm))

theorem known_cons_of_mem {k : String} (hk : k ∈ r.members.map Member.key) (d : Doc ν)
    (entries : List (String × Doc ν)) : r.known ((k, d) :: entries) = (k, d) :: r.known entries :=
  List.filter_cons_of_pos (decide_eq_true hk)

theorem known_cons_of_not_mem {k : String} (hk : k ∉ r.members.map Member.key) (d : Doc ν)
    (entries : List (String × Doc ν)) : r.known ((k, d) :: entries) = r.known entries :=
  List.filter_cons_of_neg (by simpa only [decide_eq_true_eq] using hk)

theorem key_mem_known {m : Member ν σ} (hm : m ∈ r.members) {entries : List (String × Doc ν)} :
    m.key ∈ (r.known entries).map Prod.fst ↔ m.key ∈ entries.map Prod.fst := by
  simp only [List.mem_map, Prod.exists, exists_and_right, exists_eq_right]
  exact exists_congr fun d => mem_known hm

theorem agrees_cons_of_ne {m : Member ν σ} {k : String} (hk : m.key ≠ k) {d : Doc ν} {s t : σ}
    {entries : List (String × Doc ν)} :
    m.Agrees s ((k, d) :: entries) t ↔ m.Agrees s entries t := by
  simp [Member.Agrees, hk]

theorem agrees_cons_self {m : Member ν σ} (hm : m ∈ r.members) {d : Doc ν} {a : m.α}
    (ha : m.codec.read d = some a) {s t : σ} {entries : List (String × Doc ν)}
    (hkey : m.key ∉ entries.map Prod.fst) :
    m.Agrees s ((m.key, d) :: entries) t ↔ m.Agrees (m.set a s) entries t := by
  have hnone : ∀ e, (m.key, e) ∉ entries := fun e he => hkey (List.mem_map_of_mem he)
  constructor
  · rintro ⟨hread, -⟩
    have hd := hread d (.head _)
    refine ⟨fun e he => absurd he (hnone e), fun _ => ?_⟩
    rw [r.get_set m hm]
    exact Option.some.inj (hd.symm.trans ha)
  · rintro ⟨-, hget⟩
    refine ⟨fun e he => ?_, fun h => absurd (.head _) h⟩
    obtain he | he := List.mem_cons.mp he
    · obtain rfl : e = d := congrArg Prod.snd he
      rw [ha, hget hkey, r.get_set m hm]
    · exact absurd he (hnone e)

/-- **What the entries are read as.** -/
theorem readEntries_eq_some {seen : List String} {entries : List (String × Doc ν)} {s t : σ} :
    r.readEntries seen entries s = some t ↔
      ((r.known entries).map Prod.fst).Nodup ∧ (∀ k ∈ (r.known entries).map Prod.fst, k ∉ seen) ∧
        ∀ m ∈ r.members, m.Agrees s entries t := by
  induction entries generalizing seen s with
  | nil =>
    have hagrees (m : Member ν σ) : m.Agrees s [] t ↔ m.get t = m.get s := by simp [Member.Agrees]
    simp only [readEntries, known, List.filter_nil, List.map_nil, List.nodup_nil, hagrees]
    constructor
    · rintro ⟨⟩
      simp
    · rintro ⟨-, -, h⟩
      exact congrArg some (r.ext _ _ fun m hm => (h m hm).symm)
  | cons e entries ih =>
    obtain ⟨k, d⟩ := e
    rw [readEntries]
    cases hfind : r.find k with
    | none =>
      have hk := find_eq_none hfind
      have hne : ∀ m ∈ r.members, m.key ≠ k := fun m hm h => hk (h ▸ List.mem_map_of_mem hm)
      simp only [ih, known_cons_of_not_mem hk]
      refine and_congr_right fun _ => and_congr_right fun _ => forall₂_congr fun m hm => ?_
      exact (agrees_cons_of_ne (hne m hm)).symm
    | some m =>
      obtain ⟨hm, rfl⟩ := find_eq_some hfind
      have hkey : m.key ∈ r.members.map Member.key := List.mem_map_of_mem hm
      simp only [known_cons_of_mem hkey, List.map_cons, List.nodup_cons, List.forall_mem_cons,
        key_mem_known hm]
      split_ifs with hseen
      · simp [hseen]
      cases hread : m.codec.read d with
      | none =>
        refine iff_of_false (by simp) ?_
        rintro ⟨-, -, hagrees⟩
        have hd := (hagrees m hm).1 d (.head _)
        cases hread.symm.trans hd
      | some a =>
        simp only [Option.bind_some, ih, hseen, not_false_eq_true, true_and, List.mem_cons, not_or]
        constructor
        · rintro ⟨hnodup, hfresh, hagrees⟩
          have hk : m.key ∉ entries.map Prod.fst := fun h =>
            (hfresh m.key ((key_mem_known hm).mpr h)).1 rfl
          refine ⟨⟨hk, hnodup⟩, fun k hk => (hfresh k hk).2, fun n hn => ?_⟩
          by_cases h : n.key = m.key
          · obtain rfl := eq_of_key hn hm h
            exact (agrees_cons_self hm hread hk).mpr (hagrees n hn)
          · rw [agrees_cons_of_ne h, Member.Agrees, ← r.get_set_of_ne m hm n hn h a s]
            exact hagrees n hn
        · rintro ⟨⟨hk, hnodup⟩, hfresh, hagrees⟩
          have hknew : m.key ∉ (r.known entries).map Prod.fst := mt (key_mem_known hm).mp hk
          refine ⟨hnodup, fun k h => ⟨fun heq => hknew (heq ▸ h), hfresh k h⟩, fun n hn => ?_⟩
          by_cases h : n.key = m.key
          · obtain rfl := eq_of_key hn hm h
            exact (agrees_cons_self hm hread hk).mp (hagrees n hn)
          · have := (agrees_cons_of_ne h).mp (hagrees n hn)
            rwa [Member.Agrees, ← r.get_set_of_ne m hm n hn h a s] at this

/-- **What an object is read as**: no name of a member occurs twice, and each member is read from
its entry, or is that of the fallback. -/
theorem read_obj_iff {entries : List (String × Doc ν)} {s : σ} :
    r.codec.read (.obj entries) = some s ↔
      ((r.known entries).map Prod.fst).Nodup ∧ ∀ m ∈ r.members, m.Agrees r.fallback entries s := by
  simp [codec, readEntries_eq_some]

/-! ### The entries of a record -/

theorem mem_entries {s : σ} {m : Member ν σ} (hm : m ∈ r.members) {d : Doc ν}
    (h : (m.key, d) ∈ r.members.map (·.entry s)) : d = m.codec.write (m.get s) := by
  obtain ⟨n, hn, heq⟩ := List.mem_map.mp h
  obtain rfl := eq_of_key hn hm (congrArg Prod.fst heq)
  exact (congrArg Prod.snd heq).symm

theorem known_entries (s : σ) : r.known (r.members.map (·.entry s)) = r.members.map (·.entry s) :=
  List.filter_eq_self.mpr fun e he => by
    obtain ⟨m, hm, rfl⟩ := List.mem_map.mp he
    simpa using ⟨m, hm, rfl⟩

theorem map_fst_entries (s : σ) :
    (r.members.map (·.entry s)).map Prod.fst = r.members.map Member.key := by
  rw [List.map_map]
  rfl

theorem read_write_iff {s t : σ} :
    r.codec.read (r.codec.write s) = some t ↔
      ∀ m ∈ r.members, m.codec.read (m.codec.write (m.get s)) = some (m.get t) := by
  refine read_obj_iff.trans ?_
  rw [known_entries, map_fst_entries]
  refine (and_iff_right r.nodup).trans (forall₂_congr fun m hm => ?_)
  constructor
  · rintro ⟨hread, -⟩
    exact hread _ (List.mem_map_of_mem hm)
  · intro h
    refine ⟨fun d hd => ?_, fun hkey => ?_⟩
    · rw [mem_entries hm hd]
      exact h
    · exact absurd (by simpa using ⟨m, hm, rfl⟩) hkey

/-- **A record is read back** exactly when each of its members is. -/
theorem restores_iff {s : σ} :
    r.codec.Restores s ↔ ∀ m ∈ r.members, m.codec.Restores (m.get s) :=
  read_write_iff

/-- An object is accepted where no name of a member occurs twice and each entry of a member can be
read. -/
theorem readEntries_isSome {seen : List String} {entries : List (String × Doc ν)} (s : σ)
    (hnodup : ((r.known entries).map Prod.fst).Nodup)
    (hfresh : ∀ k ∈ (r.known entries).map Prod.fst, k ∉ seen)
    (hread : ∀ m ∈ r.members, ∀ d, (m.key, d) ∈ entries → (m.codec.read d).isSome) :
    (r.readEntries seen entries s).isSome := by
  induction entries generalizing seen s with
  | nil => rfl
  | cons e entries ih =>
    obtain ⟨k, d⟩ := e
    have hrest : ∀ m ∈ r.members, ∀ d, (m.key, d) ∈ entries → (m.codec.read d).isSome :=
      fun m hm d hd => hread m hm d (.tail _ hd)
    rw [readEntries]
    cases hfind : r.find k with
    | none =>
      rw [known_cons_of_not_mem (find_eq_none hfind)] at hnodup hfresh
      exact ih s hnodup hfresh hrest
    | some m =>
      obtain ⟨hm, rfl⟩ := find_eq_some hfind
      have hkey : m.key ∈ r.members.map Member.key := List.mem_map_of_mem hm
      simp only [known_cons_of_mem hkey, List.map_cons, List.nodup_cons,
        List.forall_mem_cons] at hnodup hfresh
      obtain ⟨a, ha⟩ := Option.isSome_iff_exists.mp (hread m hm d (.head _))
      simp only [if_neg hfresh.1, ha, Option.bind_some]
      refine ih _ hnodup.2 (fun k hk => ?_) hrest
      have hne : k ≠ m.key := fun h => hnodup.1 (h ▸ hk)
      exact List.not_mem_cons_of_ne_of_not_mem hne (hfresh.2 k hk)

/-- **An object with some of the entries of a record**, in any order and among unknown ones, is
read; the members whose entries are there are those of the record, the others those of the
fallback. -/
theorem exists_read_of_subperm {s : σ} (hs : r.codec.Restores s)
    {entries : List (String × Doc ν)}
    (h : (r.known entries).Subperm (r.members.map (·.entry s))) :
    ∃ t, r.codec.read (.obj entries) = some t ∧ ∀ m ∈ r.members,
      m.get t = if m.key ∈ entries.map Prod.fst then m.get s else m.get r.fallback := by
  have hnodup : ((r.known entries).map Prod.fst).Nodup := by
    obtain ⟨sub, hperm, hsub⟩ := h
    rw [← (hperm.map Prod.fst).nodup_iff]
    refine (hsub.map Prod.fst).nodup ?_
    rw [map_fst_entries]
    exact r.nodup
  have hread : ∀ m ∈ r.members, ∀ d, (m.key, d) ∈ entries → m.codec.read d = some (m.get s) :=
    fun m hm d hd => by
      rw [mem_entries hm (h.subset ((mem_known hm).mpr hd))]
      exact restores_iff.mp hs m hm
  have hsome : (r.readEntries [] entries r.fallback).isSome :=
    r.readEntries_isSome r.fallback hnodup (by simp) fun m hm d hd =>
      Option.isSome_iff_exists.mpr ⟨_, hread m hm d hd⟩
  obtain ⟨t, ht⟩ := Option.isSome_iff_exists.mp hsome
  refine ⟨t, ht, fun m hm => ?_⟩
  obtain ⟨hentry, hmissing⟩ := (readEntries_eq_some.mp ht).2.2 m hm
  split_ifs with hkey
  · obtain ⟨⟨k, d⟩, hmem, rfl⟩ := List.mem_map.mp hkey
    exact Option.some.inj ((hentry d hmem).symm.trans (hread m hm d hmem))
  · exact hmissing hkey

/-! ### What is read -/

section Yields

variable {P : σ → Prop}

/-- No member that is read takes the property away. -/
def Keeps (r : Record ν σ) (P : σ → Prop) : Prop :=
  ∀ m ∈ r.members, ∀ d a, m.codec.read d = some a → ∀ s, P s → P (m.set a s)

theorem Keeps.readEntries (h : r.Keeps P) {seen : List String} {entries : List (String × Doc ν)}
    {s t : σ} (hread : r.readEntries seen entries s = some t) (hs : P s) : P t := by
  induction entries generalizing seen s with
  | nil =>
    obtain rfl := Option.some.inj hread
    exact hs
  | cons e entries ih =>
    obtain ⟨k, d⟩ := e
    rw [Record.readEntries] at hread
    cases hfind : r.find k with
    | none =>
      simp only [hfind] at hread
      exact ih hread hs
    | some m =>
      simp only [hfind] at hread
      split_ifs at hread
      obtain ⟨a, ha, hrest⟩ := Option.bind_eq_some_iff.mp hread
      exact ih hrest (h m (find_eq_some hfind).1 d a ha s hs)

theorem Keeps.readItems (h : r.Keeps P) {items : List (Doc ν)} {ms : List (Member ν σ)}
    (hms : ms ⊆ r.members) {s t : σ} (hread : Record.readItems ms items s = some t) (hs : P s) :
    P t := by
  induction items generalizing ms s with
  | nil =>
    have hst : s = t := by cases ms <;> exact Option.some.inj hread
    exact hst ▸ hs
  | cons d items ih =>
    cases ms with
    | nil => cases hread
    | cons m ms =>
      obtain ⟨a, ha, hrest⟩ := Option.bind_eq_some_iff.mp hread
      exact ih (fun n hn => hms (.tail _ hn)) hrest (h m (hms (.head _)) d a ha s hs)

/-- **What every record that is read has**: what the fallback has and no member that is read takes
away. -/
theorem Keeps.yields (h : r.Keeps P) (hfallback : P r.fallback) : r.codec.Yields P := by
  intro d t hread
  cases d with
  | obj entries => exact h.readEntries hread hfallback
  | arr items => exact h.readItems (List.Subset.refl _) hread hfallback
  | null | bool | num | str => cases hread

end Yields

end Record

end VoxShift.Theory
