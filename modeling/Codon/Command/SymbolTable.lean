import Codon.Library.FirstEntry
import Mathlib.Algebra.Group.Nat.Defs
import Mathlib.Algebra.Group.Int.Defs

/-!
# Symbol tables

A `SymbolTable` maps strings to integers and integers to strings. Both maps keep the first entry of
a key, so a string may stand for an integer that has another name. `operator==` compares the map to
strings alone: `equal_tables_agree_iff` says for which tables that is enough.
-/

namespace Codon.Command

open Codon.Library Std

/-- `SymbolTable`: its two maps, and what the constructor is given. -/
structure SymbolTable where
  toIntTable : ExtTreeMap String Int
  toStringTable : ExtTreeMap Int String
  useFallback : Bool
  defaultInt : Int
  defaultString : String

namespace SymbolTable

/-- A table that the constructor has made. -/
def make (useFallback : Bool) (defaultInt : Int) (defaultString : String) : SymbolTable :=
  ⟨∅, ∅, useFallback, defaultInt, defaultString⟩

/-- `add`: whether one of the mappings was added, and the table. -/
def add (t : SymbolTable) (s : String) (i : Int) : Bool × SymbolTable :=
  (!(t.toIntTable.contains s && t.toStringTable.contains i),
    { t with
      toIntTable := t.toIntTable.insertIfNew s i
      toStringTable := t.toStringTable.insertIfNew i s })

/-- The table after calls of `add`. -/
def adds (t : SymbolTable) (entries : List (String × Int)) : SymbolTable :=
  entries.foldl (fun t entry => (t.add entry.1 entry.2).2) t

/-- `operator==`. -/
def equal (t other : SymbolTable) : Bool :=
  t.toStringTable == other.toStringTable && t.defaultString == other.defaultString &&
    t.defaultInt == other.defaultInt && t.useFallback == other.useFallback

section RawGet

/-! `string_to_int` and `string_to_uint` give the value of a string that they can parse. -/

variable (stringToInt stringToUint : String → Option Int)

/-- `raw_get` of an `int`. -/
def rawGetInt (t : SymbolTable) (s : String) (useFallback : Bool) : Option Int :=
  match t.toIntTable[s]? with
  | some i => some i
  | none =>
      if useFallback then
        match stringToInt s with
        | some i => some i
        | none => (stringToUint s).map (·.bmod (2 ^ 32))
      else none

/-- `raw_get` of a `uint`. -/
def rawGetUint (t : SymbolTable) (s : String) (useFallback : Bool) : Option Int :=
  (t.rawGetInt stringToInt stringToUint s useFallback).map (· % 2 ^ 32)

/-- `raw_get` of a string. -/
def rawGetString (t : SymbolTable) (i : Int) (useFallback : Bool) : Option String :=
  match t.toStringTable[i]? with
  | some s => some s
  | none => if useFallback then some (toString i) else none

/-- Two tables give the same result on every lookup. -/
structure Agree (t other : SymbolTable) : Prop where
  int : ∀ s useFallback, t.rawGetInt stringToInt stringToUint s useFallback =
    other.rawGetInt stringToInt stringToUint s useFallback
  uint : ∀ s useFallback, t.rawGetUint stringToInt stringToUint s useFallback =
    other.rawGetUint stringToInt stringToUint s useFallback
  string : ∀ i useFallback, t.rawGetString i useFallback = other.rawGetString i useFallback

end RawGet

/-- The first integer that a string is added with. -/
def firstInt (entries : List (String × Int)) (s : String) : Option Int := entries.lookup s

/-- The first string that an integer is added with. -/
def firstString (entries : List (String × Int)) (i : Int) : Option String :=
  (entries.map Prod.swap).lookup i

/-- A string is ambiguous: its integer has another name, or it is the name of two integers. -/
def Ambiguous (entries : List (String × Int)) (s : String) : Prop :=
  (∃ i, firstInt entries s = some i ∧ firstString entries i ≠ some s) ∨
    ∃ i j, i ≠ j ∧ firstString entries i = some s ∧ firstString entries j = some s

/-- No string is added with two integers, and no integer with two strings. -/
def OneToOne (entries : List (String × Int)) : Prop :=
  ∀ entry ∈ entries, ∀ entry' ∈ entries, entry.1 = entry'.1 ↔ entry.2 = entry'.2

/-- Every call of `add` succeeds. -/
def AllAdded (t : SymbolTable) : List (String × Int) → Prop
  | [] => True
  | entry :: entries =>
      (t.add entry.1 entry.2).1 = true ∧ AllAdded (t.add entry.1 entry.2).2 entries

section Adds

variable {entries entries' : List (String × Int)}

/-- Calls of `add` fill the two maps each on its own. -/
theorem adds_eq (t : SymbolTable) (entries : List (String × Int)) :
    t.adds entries =
      { t with
        toIntTable := entries.foldl (fun m entry => m.insertIfNew entry.1 entry.2) t.toIntTable
        toStringTable := (entries.map Prod.swap).foldl
          (fun m entry => m.insertIfNew entry.1 entry.2) t.toStringTable } := by
  induction entries generalizing t with
  | nil => rfl
  | cons entry entries ih => exact ih _

/-- The map to integers holds the first integer of each string. -/
theorem to_int_table_adds (useFallback : Bool) (defaultInt : Int) (defaultString : String)
    (s : String) :
    ((make useFallback defaultInt defaultString).adds entries).toIntTable[s]? =
      firstInt entries s := by
  rw [adds_eq]
  simp [make, get_insert_if_new, firstInt]

/-- The map to strings holds the first string of each integer. -/
theorem to_string_table_adds (useFallback : Bool) (defaultInt : Int) (defaultString : String)
    (i : Int) :
    ((make useFallback defaultInt defaultString).adds entries).toStringTable[i]? =
      firstString entries i := by
  rw [adds_eq]
  simp [make, get_insert_if_new, firstString]

/-- The first string found for a value is in the table. -/
theorem mem_of_first_string {s : String} {i : Int} (h : firstString entries i = some s) :
    (s, i) ∈ entries := by
  have hmem := List.mem_map.1 (mem_of_lookup h)
  obtain ⟨⟨s', i'⟩, hentry, heq⟩ := hmem
  cases heq
  exact hentry

/-- A string that is not ambiguous has the integer that it is the first name of. -/
theorem first_int_of_first_string {s : String} {i : Int} (h : firstString entries i = some s)
    (hs : ¬ Ambiguous entries s) : firstInt entries s = some i := by
  obtain ⟨j, hj⟩ := exists_lookup_of_mem (mem_of_first_string h)
  have hname : firstString entries j = some s := by
    by_contra hother
    exact hs (.inl ⟨j, hj, hother⟩)
  by_cases heq : j = i
  · rw [← heq]
    exact hj
  · exact (hs (.inr ⟨j, i, heq, hname, h⟩)).elim

/-- An unambiguous name is found from its value. -/
theorem first_string_of_first_int {s : String} {i : Int} (h : firstInt entries s = some i)
    (hs : ¬ Ambiguous entries s) : firstString entries i = some s := by
  by_contra hother
  exact hs (.inl ⟨i, h, hother⟩)

/-- The names of the integers decide what a string stands for that is ambiguous in neither of two
sequences. -/
theorem first_int_eq {s : String} (h : firstString entries = firstString entries')
    (hs : ¬ Ambiguous entries s) (hs' : ¬ Ambiguous entries' s) :
    firstInt entries s = firstInt entries' s := by
  ext i
  constructor
  · intro hi
    exact first_int_of_first_string (h ▸ first_string_of_first_int hi hs) hs'
  · intro hi
    exact first_int_of_first_string (h ▸ first_string_of_first_int hi hs') hs

/-- In a one-to-one sequence no string is ambiguous. -/
theorem not_ambiguous_of_one_to_one (h : OneToOne entries) (s : String) :
    ¬ Ambiguous entries s := by
  rintro (⟨i, hi, hother⟩ | ⟨i, j, hne, hi, hj⟩)
  · have hmem : (i, s) ∈ entries.map Prod.swap := List.mem_map_of_mem (mem_of_lookup hi)
    obtain ⟨s', hs'⟩ := exists_lookup_of_mem hmem
    have hsame : s' = s := (h _ (mem_of_first_string hs') _ (mem_of_lookup hi)).2 rfl
    exact hother (hsame ▸ hs')
  · exact hne ((h _ (mem_of_first_string hi) _ (mem_of_first_string hj)).1 rfl)

end Adds

/-- What two constructors and the calls of `add` after them must meet for `operator==` to be right:
if it finds no difference, a string that is ambiguous in one of the sequences has the same first
integer in both. -/
def Told (config config' : Bool × Int × String) (entries entries' : List (String × Int)) : Prop :=
  config = config' → firstString entries = firstString entries' →
    ∀ s, Ambiguous entries s ∨ Ambiguous entries' s → firstInt entries s = firstInt entries' s

/-- A table from a constructor's arguments and the calls of `add` that follow. -/
def built (config : Bool × Int × String) (entries : List (String × Int)) : SymbolTable :=
  (make config.1 config.2.1 config.2.2).adds entries

section Built

variable {config config' : Bool × Int × String} {entries entries' : List (String × Int)}

/-- `operator==` looks at the constructors' arguments and at the first name of each integer. -/
theorem equal_built_iff :
    (built config entries).equal (built config' entries') = true ↔
      config = config' ∧ firstString entries = firstString entries' := by
  have htables : (built config entries).toStringTable = (built config' entries').toStringTable ↔
      firstString entries = firstString entries' := by
    rw [ExtTreeMap.ext_getElem?_iff, funext_iff]
    exact forall_congr' fun i => by rw [built, built, to_string_table_adds, to_string_table_adds]
  obtain ⟨useFallback, defaultInt, defaultString⟩ := config
  obtain ⟨useFallback', defaultInt', defaultString'⟩ := config'
  have hconfig : ∀ c entries, (built c entries).useFallback = c.1 ∧
      (built c entries).defaultInt = c.2.1 ∧ (built c entries).defaultString = c.2.2 := by
    intro c entries
    rw [built, adds_eq]
    exact ⟨rfl, rfl, rfl⟩
  simp only [equal, Bool.and_eq_true, beq_iff_eq, htables, hconfig, Prod.mk.injEq]
  tauto

variable (stringToInt stringToUint : String → Option Int)

/-- Tables with the same first names agree exactly if they have the same first integers. -/
theorem agree_built_iff (h : firstString entries = firstString entries') :
    Agree stringToInt stringToUint (built config entries) (built config' entries') ↔
      ∀ s, firstInt entries s = firstInt entries' s := by
  constructor
  · intro hagree s
    have hraw := hagree.int s false
    simp only [rawGetInt, built, to_int_table_adds] at hraw
    revert hraw
    cases firstInt entries s <;> cases firstInt entries' s <;> simp
  · intro hints
    have hint : ∀ s useFallback,
        (built config entries).rawGetInt stringToInt stringToUint s useFallback =
          (built config' entries').rawGetInt stringToInt stringToUint s useFallback := by
      intro s useFallback
      simp only [rawGetInt, built, to_int_table_adds, hints]
    refine ⟨hint, fun s useFallback => ?_, fun i useFallback => ?_⟩
    · rw [rawGetUint, rawGetUint, hint]
    · simp only [rawGetString, built, to_string_table_adds, h]

/-- `operator==` finds only tables equal that agree on every lookup, exactly if the strings that are
ambiguous make no difference that it does not see. -/
theorem equal_tables_agree_iff :
    ((built config entries).equal (built config' entries') = true →
        Agree stringToInt stringToUint (built config entries) (built config' entries')) ↔
      Told config config' entries entries' := by
  rw [equal_built_iff, Told, and_imp]
  refine forall₂_congr fun _ hnames => ?_
  rw [agree_built_iff stringToInt stringToUint hnames]
  refine ⟨fun hints s _ => hints s, fun hambiguous s => ?_⟩
  by_cases hs : Ambiguous entries s ∨ Ambiguous entries' s
  · exact hambiguous s hs
  · rw [not_or] at hs
    exact first_int_eq hnames hs.1 hs.2

/-- One-to-one sequences meet the condition. -/
theorem told_of_one_to_one (h : OneToOne entries) (h' : OneToOne entries') :
    Told config config' entries entries' := by
  rintro - - s (hs | hs)
  · exact (not_ambiguous_of_one_to_one h s hs).elim
  · exact (not_ambiguous_of_one_to_one h' s hs).elim

end Built

/-- Two names of one integer are told apart by the map to integers alone. -/
theorem alias_not_compared :
    let config := (false, -1, "<unknown>")
    let entries := [("on", 1), ("enabled", 1)]
    let entries' := [("on", 1)]
    AllAdded (built config []) entries ∧ AllAdded (built config []) entries' ∧
      (built config entries).equal (built config entries') = true ∧
      (built config entries).rawGetInt (fun _ => none) (fun _ => none) "enabled" false = some 1 ∧
      (built config entries').rawGetInt (fun _ => none) (fun _ => none) "enabled" false = none := by
  intro config entries entries'
  refine ⟨by simp [entries, AllAdded, built, make, adds, add],
    by simp [entries', AllAdded, built, make, adds, add], ?_, ?_, ?_⟩
  · rw [equal_built_iff]
    refine ⟨rfl, funext fun i => ?_⟩
    by_cases hi : i = 1
    · subst hi
      rfl
    · have hne : (i == 1) = false := by simpa using hi
      simp [firstString, entries, entries', List.lookup_cons, hne]
  · rw [rawGetInt, built, to_int_table_adds]
    decide
  · rw [rawGetInt, built, to_int_table_adds]
    decide

end SymbolTable

end Codon.Command
