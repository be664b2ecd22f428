import Codon.Util.FastMap

/-!
# The hash table as a finite map

`Mirrors` relates a hash table to the finite map that it stands for: every key is where its probing
ends, and the size is the number of keys. A call that meets `Meets` answers as the finite map does
and keeps the relation (`Mirrors.meets`), any other call does not (`Mirrors.fails`). There are
three ways to fail: the probing reads past the arrays or from where the target cannot; the key is
the one that marks free slots; or all slots that the probing looks at, a quarter of the table, are
taken before the map holds `kCapacity` keys.
-/

namespace Codon.Util.FastMap

open Codon.Library Codon.Library.OpenAddressing

/-- A call of the map. -/
inductive Op where
  | insert (key value : U32)
  | find (key : U32)
  | clear

/-- What a call tells its caller. -/
inductive Answer where
  | inserted (success : Bool)
  | found (value : Option U32)
  | cleared

/-- The keys and values that are stored. -/
abbrev Contents : Type := AList fun _ : U32 => U32

/-- A map in use: `map` is missing once a call was undefined. Besides it there is what a finite map
would hold, and what the last call answered and should have answered. -/
structure Session where
  map : Option FastMap32
  contents : Contents
  answer : Option Answer
  expected : Option Answer

/-- The last call answered as a finite map does, and the size is the number of keys. -/
def Session.Agrees (s : Session) : Prop :=
  ∃ m, s.map = some m ∧ s.answer = s.expected ∧ m.size = s.contents.keys.length

namespace Instantiation

variable (c : Instantiation)

/-- A call: what it answers and the map after it. `Find` tells the value it points to. -/
def call (m : FastMap32) : Op → Option (Answer × FastMap32)
  | .insert key value => (c.insert m key value).result.map fun r => (.inserted r.1, r.2)
  | .find key => (c.find m key).result.map fun i => (.found (i.map m.values), m)
  | .clear => some (.cleared, c.clear m)

/-- The call on a finite map that holds up to `kCapacity` keys. -/
def specified (a : Contents) : Op → Answer × Contents
  | .insert key value =>
      if key ∈ a ∨ a.keys.length < c.kCapacity then (.inserted true, a.insert key value)
      else (.inserted false, a)
  | .find key => (.found (a.lookup key), a)
  | .clear => (.cleared, ∅)

def step (s : Session) (op : Op) : Session where
  map := (s.map.bind fun m => c.call m op).map Prod.snd
  contents := (c.specified s.contents op).2
  answer := (s.map.bind fun m => c.call m op).map Prod.fst
  expected := some (c.specified s.contents op).1

/-- A map that has just been constructed. -/
def fresh (memory : FastMap32) : Session := ⟨some (c.construct memory), ∅, none, none⟩

/-! ## The table -/

/-- The slots that round `j` of the probing of a key looks at. -/
def slots (key : U32) (j : Nat) : List Nat := lanes (c.group (c.start key) j)

/-- What the slots hold. -/
def table (m : FastMap32) : Table Nat U32 U32 := fun i =>
  if i < c.kInternalCap ∧ m.keys i ≠ kInvalidU32 then some (m.keys i, m.values i) else none

/-- The probing of the key makes defined loads only. -/
def Readable (m : FastMap32) (key : U32) : Prop :=
  (c.strict = true → hash key % 4 = 0) ∧ c.StaysInside m key

/-- None of the slots that the probing of the key looks at is free. -/
def Full (m : FastMap32) (key : U32) : Prop :=
  ∀ j < c.rounds, ∀ i ∈ c.slots key j, m.keys i ≠ kInvalidU32

/-- None of the slots that the probing of the key looks at holds it. -/
def Missing (m : FastMap32) (key : U32) : Prop :=
  ∀ j < c.rounds, ∀ i ∈ c.slots key j, m.keys i ≠ key

/-- The calls that answer as a finite map does. -/
def Meets (m : FastMap32) : Op → Prop
  | .insert key _ => c.Readable m key ∧ (key = kInvalidU32 → c.Full m key) ∧
      (c.Full m key → c.Missing m key → c.kCapacity ≤ m.size)
  | .find key => c.Readable m key ∧ (key = kInvalidU32 → c.Full m key)
  | .clear => True

/-- The hash table stands for the finite map. -/
structure Mirrors (m : FastMap32) (a : Contents) : Prop where
  placed : Placed c.slots c.rounds (c.table m)
  represents : Represents (c.table m) a
  size_eq : m.size = a.keys.length

variable {c} {m : FastMap32} {a : Contents} {key value : U32}

/-- A slot of the table holds an entry exactly when its key is valid and in range. -/
theorem table_eq_some {i : Nat} {v : U32} :
    c.table m i = some (key, v) ↔
      i < c.kInternalCap ∧ key ≠ kInvalidU32 ∧ m.keys i = key ∧ m.values i = v := by
  unfold table
  split_ifs with h
  · rw [Option.some.injEq, Prod.mk.injEq]
    constructor
    · rintro ⟨rfl, rfl⟩
      exact ⟨h.1, h.2, rfl, rfl⟩
    · rintro ⟨-, -, rfl, rfl⟩
      exact ⟨rfl, rfl⟩
  · refine iff_of_false nofun ?_
    rintro ⟨hi, hkey, rfl, -⟩
    exact h ⟨hi, hkey⟩

/-- A slot with the invalid key is empty. -/
theorem table_eq_none {i : Nat} (h : m.keys i = kInvalidU32) : c.table m i = none :=
  if_neg fun hslot => hslot.2 h

/-- Writing an entry into a slot. -/
theorem table_put {i n : Nat} (hi : i < c.kInternalCap) (hkey : key ≠ kInvalidU32) :
    c.table ⟨Function.update m.keys i key, Function.update m.values i value, n⟩ =
      Function.update (c.table m) i (some (key, value)) := by
  funext j
  by_cases hj : j = i
  · subst hj
    rw [Function.update_self, table_eq_some]
    exact ⟨hi, hkey, Function.update_self .., Function.update_self ..⟩
  · rw [Function.update_of_ne hj]
    simp only [table, Function.update_of_ne hj]

/-- The key that marks free slots is never stored. -/
theorem Mirrors.lookup_invalid (h : c.Mirrors m a) : a.lookup kInvalidU32 = none :=
  h.represents.lookup_eq_none fun _ _ hi => (table_eq_some.1 hi).2.1 rfl

/-- A cleared map mirrors the empty table. -/
theorem clear_mirrors (m : FastMap32) : c.Mirrors (c.clear m) ∅ where
  placed := placed_empty fun _ => if_neg fun h => h.2 (if_pos h.1)
  represents := represents_empty fun _ => if_neg fun h => h.2 (if_pos h.1)
  size_eq := rfl

/-- The entry of a call is written where its probing has ended. -/
theorem Mirrors.put {i j n : Nat} (h : c.Mirrors m a) (value : U32) (hkey : key ≠ kInvalidU32)
    (hj : j < c.rounds) (hpassed : Passed c.slots (c.table m) key j) (hi : i ∈ c.slots key j)
    (hlt : i < c.kInternalCap) (hslot : ∀ e, c.table m i = some e → e.1 = key)
    (hother : ∀ i' w, c.table m i' = some (key, w) → i' = i)
    (hn : n = (a.insert key value).keys.length) :
    c.Mirrors ⟨Function.update m.keys i key, Function.update m.values i value, n⟩
      (a.insert key value) where
  placed := by
    rw [table_put hlt hkey]
    exact h.placed.put hj hpassed hi hslot hother
  represents := by
    rw [table_put hlt hkey]
    exact h.represents.put hslot hother
  size_eq := hn

/-! ## How the probing ends -/

/-- The rounds that the loop goes on from look at slots of other keys. -/
theorem reaches_passed {j : Nat} (h : c.Reaches m key (c.start key) j) :
    Passed c.slots (c.table m) key j ∧ ∀ j' < j, ∀ i ∈ c.slots key j',
      m.keys i ≠ kInvalidU32 ∧ m.keys i ≠ key := by
  have hgo {j' : Nat} (hj' : j' < j) {i : Nat} (hi : i ∈ c.slots key j') :
      i < c.kInternalCap ∧ m.keys i ≠ kInvalidU32 ∧ m.keys i ≠ key := by
    have hnot := h j' hj'
    simp only [Stops, not_or, not_not, not_exists, not_and] at hnot
    have hlane := mem_lanes.1 hi
    have hload := hnot.1.1
    exact ⟨by omega, (hnot.2 i hi).2, (hnot.2 i hi).1⟩
  refine ⟨fun j' hj' i hi => ?_, fun j' hj' i hi => (hgo hj' hi).2⟩
  obtain ⟨hlt, hfree, hother⟩ := hgo hj' hi
  exact ⟨_, table_eq_some.2 ⟨hlt, hfree, rfl, rfl⟩, hother⟩

/-- The loop makes an undefined load if and only if the key is not readable. -/
theorem readable_iff : c.Readable m key ↔
    ∀ j < c.rounds, c.Reaches m key (c.start key) j → c.Loadable (c.group (c.start key) j) := by
  have hpos : 0 < c.rounds := by
    have hrounds := c.rounds_eq
    have hcap := c.internal_cap_pos
    omega
  have hmod (j : Nat) : c.group (c.start key) j % 4 = hash key % 4 := by
    have hgroup := c.group_mod (c.start key) j
    have hstart := c.start_mod key
    omega
  rw [Readable, stays_inside_iff]
  simp only [Loadable, hmod]
  constructor
  · rintro ⟨haligned, hinside⟩ j hj hreach
    exact ⟨hinside j hj hreach, haligned⟩
  · intro h
    exact ⟨(h 0 hpos nofun).2, fun j hj hreach => (h j hj hreach).1⟩

/-- How the loop ends, and what is known then. -/
inductive Ended (c : Instantiation) (m : FastMap32) (key : U32) : Stop → Prop where
  | found {i j : Nat} (hread : c.Readable m key) (hj : j < c.rounds)
      (hpassed : Passed c.slots (c.table m) key j) (hi : i ∈ c.slots key j)
      (hlt : i < c.kInternalCap) (hkey : m.keys i = key) : Ended c m key (.found i)
  | empty {i j : Nat} (hread : c.Readable m key) (hj : j < c.rounds)
      (hpassed : Passed c.slots (c.table m) key j) (hi : i ∈ c.slots key j)
      (hlt : i < c.kInternalCap) (hfree : m.keys i = kInvalidU32)
      (hother : ∀ i ∈ c.slots key j, m.keys i ≠ key) : Ended c m key (.empty i)
  | exhausted (hread : c.Readable m key) (hpassed : Passed c.slots (c.table m) key c.rounds)
      (hfull : c.Full m key) (hmissing : c.Missing m key) : Ended c m key .exhausted
  | undefined (hread : ¬ c.Readable m key) : Ended c m key .undefined

/-- Where the loop gets to the end or stops at a load that is defined, it makes defined loads
only. -/
theorem readable_of_reaches {j : Nat} (h : c.Reaches m key (c.start key) j)
    (hend : c.rounds ≤ j ∨ c.Loadable (c.group (c.start key) j) ∧
      c.Stops m key (c.group (c.start key) j)) : c.Readable m key := by
  rw [readable_iff]
  intro j' hj' hreach
  rcases Nat.lt_trichotomy j' j with hlt | rfl | hgt
  · have hnot := h j' hlt
    simp only [Stops, not_or, not_not] at hnot
    exact hnot.1
  · rcases hend with hle | ⟨hload, -⟩
    · exact absurd hj' (Nat.not_lt_of_le hle)
    · exact hload
  · rcases hend with hle | ⟨-, hstop⟩
    · exact absurd hj' (by omega)
    · exact absurd hstop (hreach j hgt)

/-- A probe ends at the key, at a free lane, or having seen every group. -/
theorem probe_ended (c : Instantiation) (m : FastMap32) (key : U32) :
    Ended c m key (c.probe m key c.rounds (c.start key)).2 := by
  rcases probe_stop m key c.rounds (c.start_lt key) with
    ⟨j, hj, hreach, hstop⟩ | ⟨hreach, hexhausted⟩
  · have hstops := hstop.stops
    have hpassed := (reaches_passed hreach).1
    generalize (c.probe m key c.rounds (c.start key)).2 = stop at hstop
    cases hstop with
    | found hload hi hkey =>
        have hlt := (mem_lanes.1 hi).2
        exact .found (readable_of_reaches hreach (.inr ⟨hload, hstops⟩)) hj hpassed hi
          (Nat.lt_of_lt_of_le hlt hload.1) hkey
    | empty hload hi hfree hother =>
        have hlt := (mem_lanes.1 hi).2
        exact .empty (readable_of_reaches hreach (.inr ⟨hload, hstops⟩)) hj hpassed hi
          (Nat.lt_of_lt_of_le hlt hload.1) hfree hother
    | undefined hload => exact .undefined fun hread => hload (readable_iff.1 hread j hj hreach)
  · obtain ⟨hpassed, hother⟩ := reaches_passed hreach
    rw [hexhausted]
    exact .exhausted (readable_of_reaches hreach (.inl (Nat.le_refl _))) hpassed
      (fun j hj i hi => (hother j hj i hi).1) fun j hj i hi => (hother j hj i hi).2

/-! ## The calls -/

/-- An insertion writes where its probe has ended. -/
theorem insert_result (c : Instantiation) (m : FastMap32) (key value : U32) :
    (c.insert m key value).result =
      match (c.probe m key c.rounds (c.start key)).2 with
      | .found i => some (true, { m with values := Function.update m.values i value })
      | .empty i =>
          if c.kCapacity ≤ m.size then some (false, m)
          else some (true,
            ⟨Function.update m.keys i key, Function.update m.values i value, m.size + 1⟩)
      | .exhausted => some (false, m)
      | .undefined => none := by
  unfold insert
  generalize c.probe m key c.rounds (c.start key) = ended
  obtain ⟨loaded, stop⟩ := ended
  cases stop with
  | empty i =>
      simp only
      split_ifs <;> rfl
  | found | exhausted | undefined => rfl

/-- A lookup reads where its probe has ended. -/
theorem find_result (c : Instantiation) (m : FastMap32) (key : U32) :
    (c.find m key).result =
      match (c.probe m key c.rounds (c.start key)).2 with
      | .found i => some (some i)
      | .empty _ | .exhausted => some none
      | .undefined => none := by
  unfold find
  generalize c.probe m key c.rounds (c.start key) = ended
  obtain ⟨loaded, stop⟩ := ended
  cases stop <;> rfl

/-- A key that is found in a lane has the lane's value. -/
theorem Mirrors.lookup_found {i : Nat} (h : c.Mirrors m a) (hkey : key ≠ kInvalidU32)
    (hlt : i < c.kInternalCap) (hi : m.keys i = key) : a.lookup key = some (m.values i) :=
  (h.represents key _).2 ⟨i, table_eq_some.2 ⟨hlt, hkey, hi, rfl⟩⟩

/-- A key whose probing ends at a free slot is not stored. -/
theorem Mirrors.absent_of_free {i j : Nat} (h : c.Mirrors m a)
    (hpassed : Passed c.slots (c.table m) key j) (hi : i ∈ c.slots key j)
    (hfree : m.keys i = kInvalidU32) (hother : ∀ i ∈ c.slots key j, m.keys i ≠ key) :
    Absent (c.table m) key :=
  h.placed.absent hpassed (.inr ⟨⟨i, hi, table_eq_none hfree⟩, fun i hi _ hv =>
    hother i hi (table_eq_some.1 hv).2.2.1⟩)

/-- Inserting a key that is there replaces its value. -/
theorem specified_insert_mem (hmem : key ∈ a) :
    c.specified a (.insert key value) = (.inserted true, a.insert key value) :=
  if_pos (.inl hmem)

/-- A new key is inserted while the capacity lasts. -/
theorem specified_insert_new (hmem : key ∉ a) :
    c.specified a (.insert key value) =
      if a.keys.length < c.kCapacity then (.inserted true, a.insert key value)
      else (.inserted false, a) := by
  simp only [specified, hmem, false_or]

/-- An insertion that meets its conditions does what is specified. -/
theorem Mirrors.meets_insert (h : c.Mirrors m a) (hmeets : c.Meets m (.insert key value)) :
    ∃ m', c.call m (.insert key value) =
        some ((c.specified a (.insert key value)).1, m') ∧
      c.Mirrors m' (c.specified a (.insert key value)).2 := by
  obtain ⟨hread, hinvalid, hroom⟩ := hmeets
  have hended := probe_ended c m key
  simp only [call, insert_result]
  generalize (c.probe m key c.rounds (c.start key)).2 = stop at hended
  cases hended with
  | @found i j _ hj hpassed hi hlt hkey =>
      have hvalid : key ≠ kInvalidU32 := fun heq =>
        hinvalid heq j hj i hi (hkey.trans heq)
      have hlookup := h.lookup_found hvalid hlt hkey
      have hmem : key ∈ a := AList.lookup_isSome.1 (by rw [hlookup]; rfl)
      have hslot : c.table m i = some (key, m.values i) :=
        table_eq_some.2 ⟨hlt, hvalid, hkey, rfl⟩
      rw [specified_insert_mem hmem]
      refine ⟨_, rfl, ?_⟩
      -- the key stays in its lane, and no other lane has it
      have hput := h.put value hvalid hj hpassed hi hlt
        (fun e he => by rw [hslot] at he; cases he; rfl)
        (fun i' w hi' => h.placed.unique i' i key w _ hi' hslot)
        (n := m.size) (by rw [length_keys_insert, if_pos hmem, h.size_eq])
      rwa [← hkey, Function.update_eq_self, hkey] at hput
  | @empty i j _ hj hpassed hi hlt hfree hother =>
      have habsent := h.absent_of_free hpassed hi hfree hother
      have hmem : key ∉ a := fun hmem => h.represents.mem_iff.1 hmem habsent
      have hvalid : key ≠ kInvalidU32 := fun heq => hother i hi (hfree.trans heq.symm)
      rw [specified_insert_new hmem, ← h.size_eq]
      -- a free lane is not taken beyond the capacity
      by_cases hfull : c.kCapacity ≤ m.size
      · simp only [hfull, if_true, Nat.not_lt.2 hfull, if_false, Option.map_some]
        exact ⟨_, rfl, h⟩
      · simp only [hfull, if_false, Nat.lt_of_not_le hfull, if_true, Option.map_some]
        refine ⟨_, rfl, h.put value hvalid hj hpassed hi hlt ?_ ?_ ?_⟩
        · intro e he
          rw [table_eq_none hfree] at he
          cases he
        · exact fun i' w hi' => absurd hi' (habsent i' w)
        · rw [length_keys_insert, if_neg hmem, h.size_eq]
  | exhausted _ hpassed hfull hmissing =>
      -- every lane that a probe for the key reads has another key
      have habsent := h.placed.absent hpassed (.inl (Nat.le_refl _))
      have hmem : key ∉ a := fun hmem => h.represents.mem_iff.1 hmem habsent
      rw [specified_insert_new hmem, ← h.size_eq,
        if_neg (Nat.not_lt.2 (hroom hfull hmissing))]
      exact ⟨m, rfl, h⟩
  | undefined hnot => exact absurd hread hnot

/-- So does a lookup. -/
theorem Mirrors.meets_find (h : c.Mirrors m a) (hmeets : c.Meets m (.find key)) :
    ∃ m', c.call m (.find key) = some ((c.specified a (.find key)).1, m') ∧
      c.Mirrors m' (c.specified a (.find key)).2 := by
  obtain ⟨hread, hinvalid⟩ := hmeets
  have hended := probe_ended c m key
  simp only [call, find_result, specified]
  generalize (c.probe m key c.rounds (c.start key)).2 = stop at hended
  cases hended with
  | @found i j _ hj _ hi hlt hkey =>
      have hvalid : key ≠ kInvalidU32 := fun heq =>
        hinvalid heq j hj i hi (hkey.trans heq)
      rw [h.lookup_found hvalid hlt hkey]
      exact ⟨m, rfl, h⟩
  | empty _ _ hpassed hi _ hfree hother =>
      rw [h.represents.lookup_eq_none (h.absent_of_free hpassed hi hfree hother)]
      exact ⟨m, rfl, h⟩
  | exhausted _ hpassed =>
      rw [h.represents.lookup_eq_none (h.placed.absent hpassed (.inl (Nat.le_refl _)))]
      exact ⟨m, rfl, h⟩
  | undefined hnot => exact absurd hread hnot

/-- A call that meets the condition answers as the finite map does. -/
theorem Mirrors.meets {op : Op} (h : c.Mirrors m a) (hmeets : c.Meets m op) :
    ∃ m', c.call m op = some ((c.specified a op).1, m') ∧ c.Mirrors m' (c.specified a op).2 := by
  cases op with
  | insert key value => exact h.meets_insert hmeets
  | find key => exact h.meets_find hmeets
  | clear => exact ⟨_, rfl, clear_mirrors m⟩

/-- The invalid key is never in the table mirrored. -/
theorem Mirrors.invalid_not_mem (h : c.Mirrors m a) : kInvalidU32 ∉ a := by
  rw [← AList.lookup_eq_none]
  exact h.lookup_invalid

/-- An insertion that does not meet the condition answers otherwise or leaves a wrong size. -/
theorem Mirrors.fails_insert (h : c.Mirrors m a) (hfails : ¬ c.Meets m (.insert key value))
    {answer : Answer} {m' : FastMap32}
    (hcall : c.call m (.insert key value) = some (answer, m'))
    (hanswer : answer = (c.specified a (.insert key value)).1) :
    m'.size ≠ (c.specified a (.insert key value)).2.keys.length := by
  have hinvalid := h.invalid_not_mem
  have hended := probe_ended c m key
  simp only [call, insert_result] at hcall
  generalize (c.probe m key c.rounds (c.start key)).2 = stop at hended hcall
  cases hended with
  | @found i j hread hj _ hi hlt hkey =>
      -- only the key of the free slots is found without being stored
      have heq : key = kInvalidU32 := by
        by_contra hvalid
        exact hfails ⟨hread, fun heq => absurd heq hvalid, fun _ hmissing =>
          absurd hkey (hmissing j hj i hi)⟩
      cases hcall
      subst heq
      rw [specified_insert_new hinvalid] at hanswer ⊢
      split_ifs at hanswer ⊢ with hroom
      · simp only [length_keys_insert, if_neg hinvalid, h.size_eq]
        exact Nat.ne_of_lt (Nat.lt_succ_self _)
      · cases hanswer
  | @empty i j hread hj _ hi _ hfree hother =>
      refine absurd ⟨hread, fun heq => ?_, fun hfull => ?_⟩ hfails
      · exact absurd (hfree.trans heq.symm) (hother i hi)
      · exact absurd hfree (hfull j hj i hi)
  | exhausted hread hpassed hfull hmissing =>
      have hroom : m.size < c.kCapacity := by
        by_contra hle
        exact hfails ⟨hread, fun _ => hfull, fun _ _ => Nat.le_of_not_lt hle⟩
      have habsent := h.placed.absent hpassed (.inl (Nat.le_refl _))
      have hmem : key ∉ a := fun hmem => h.represents.mem_iff.1 hmem habsent
      cases hcall
      rw [specified_insert_new hmem, ← h.size_eq, if_pos hroom] at hanswer
      cases hanswer
  | undefined => cases hcall

/-- A lookup that does not meet the condition answers otherwise. -/
theorem Mirrors.fails_find (h : c.Mirrors m a) (hfails : ¬ c.Meets m (.find key))
    {answer : Answer} {m' : FastMap32} (hcall : c.call m (.find key) = some (answer, m')) :
    answer ≠ (c.specified a (.find key)).1 := by
  intro hanswer
  have hended := probe_ended c m key
  simp only [call, find_result] at hcall
  generalize (c.probe m key c.rounds (c.start key)).2 = stop at hended hcall
  cases hended with
  | @found i j hread hj _ hi _ hkey =>
      have heq : key = kInvalidU32 := by
        by_contra hvalid
        exact hfails ⟨hread, fun heq => absurd heq hvalid⟩
      cases hcall
      subst heq
      simp only [specified, h.lookup_invalid] at hanswer
      cases hanswer
  | @empty i j hread hj _ hi _ hfree hother =>
      exact absurd ⟨hread, fun heq => absurd (hfree.trans heq.symm) (hother i hi)⟩ hfails
  | exhausted hread _ hfull => exact absurd ⟨hread, fun _ => hfull⟩ hfails
  | undefined => cases hcall

/-- A call that does not meet it is undefined, answers otherwise or leaves a wrong size. -/
theorem Mirrors.fails {op : Op} (h : c.Mirrors m a) (hfails : ¬ c.Meets m op) {answer : Answer}
    {m' : FastMap32} (hcall : c.call m op = some (answer, m'))
    (hanswer : answer = (c.specified a op).1) : m'.size ≠ (c.specified a op).2.keys.length := by
  cases op with
  | insert key value => exact h.fails_insert hfails hcall hanswer
  | find key => exact absurd hanswer (h.fails_find hfails hcall)
  | clear => exact absurd trivial hfails

/-! ## Runs -/

/-- In every run of calls on a fresh map, whatever the template's arguments and whatever memory it
is constructed in: every call answers as the finite map of at most `kCapacity` keys does and the
size is the number of keys, if and only if every call meets the condition in the state before it. -/
theorem answers_iff (c : Instantiation) (memory : FastMap32) (ops : List Op) :
    (∀ earlier, earlier <+: ops → (run c.step (c.fresh memory) earlier).Agrees) ↔
      Along c.step (fun s op => ∃ m, s.map = some m ∧ c.Meets m op) (c.fresh memory) ops := by
  refine forall_prefix_iff_along (I := fun s => ∃ m, s.map = some m ∧ c.Mirrors m s.contents)
    ?_ ?_ ⟨_, rfl, clear_mirrors memory⟩ ⟨_, rfl, rfl, rfl⟩
  · rintro s op ⟨m, hmap, hmirrors⟩ ⟨m₁, hmap₁, hmeets⟩
    rw [hmap] at hmap₁
    cases hmap₁
    obtain ⟨m', hcall, hmirrors'⟩ := hmirrors.meets hmeets
    exact ⟨m', by simp [step, hmap, hcall], hmirrors'⟩
  · rintro s op ⟨m, hmap, hmirrors⟩ -
    constructor
    · rintro ⟨m', hmap', hanswer, hsize⟩
      refine ⟨m, hmap, ?_⟩
      by_contra hfails
      simp only [step, hmap, Option.bind_some] at hmap' hanswer hsize
      obtain ⟨⟨answer, m''⟩, hcall, rfl⟩ := Option.map_eq_some_iff.1 hmap'
      rw [hcall, Option.map_some, Option.some.injEq] at hanswer
      exact hmirrors.fails hfails hcall hanswer hsize
    · rintro ⟨m₁, hmap₁, hmeets⟩
      rw [hmap] at hmap₁
      cases hmap₁
      obtain ⟨m', hcall, hmirrors'⟩ := hmirrors.meets hmeets
      exact ⟨m', by simp [step, hmap, hcall], by simp [step, hmap, hcall], hmirrors'.size_eq⟩

end Instantiation

/-- Inserting the key that marks free slots succeeds and leaves the size at 0. -/
theorem insert_invalid_key :
    ¬ ∀ (c : Instantiation) (memory : FastMap32) (ops earlier : List Op), earlier <+: ops →
      (run c.step (c.fresh memory) earlier).Agrees := by
  intro h
  obtain ⟨m, hmap, -, hsize⟩ := h tiny zeroed [.insert kInvalidU32 7] _ (List.prefix_refl _)
  have hzero : (run tiny.step (tiny.fresh zeroed) [.insert kInvalidU32 7]).map.map
      FastMap32.size = some 0 := by
    decide
  rw [hmap, Option.map_some, hsize] at hzero
  revert hzero
  decide

end Codon.Util.FastMap
