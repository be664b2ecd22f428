import Codon.Signals.PlainList
import Mathlib.Data.List.Nodup

/-!
# A signal behaves as the plain list of its connections

The records of a signal show a plain list (`Signal.Shows`), whatever is marked and not yet removed.
Read `behaves_as_plain_lists`: as long as no signal is emitted while it is being emitted, and the
ids do not run out, whatever is done to the signals, in slots or elsewhere, does to them what it
does to the lists. A nested emission of the same signal ends the process. -/

namespace Codon.Signals

open Codon.Library

variable {K F H A R : Type} {callable : F → Bool}

namespace SlotRecord

/-- The connection that a record stands for. -/
def connection (record : SlotRecord F) : Nat × F := (record.id.toNat, record.fsptr)

def live (callable : F → Bool) (record : SlotRecord F) : Bool := !record.shouldRemove callable

/-- A slot that is to be removed is not live. -/
theorem live_of_request_removal {record : SlotRecord F} (h : record.requestRemoval = true) :
    record.live callable = false := by
  simp [live, shouldRemove, h]

end SlotRecord

/-- The connections that records stand for. -/
def liveConnections (callable : F → Bool) (records : List (SlotRecord F)) : List (Nat × F) :=
  (records.filter (SlotRecord.live callable)).map SlotRecord.connection

/-- The numbers of the records. -/
def numbers (records : List (SlotRecord F)) : List Nat := records.map fun record => record.id.toNat

@[simp] theorem live_connections_cons (record : SlotRecord F) (records : List (SlotRecord F)) :
    liveConnections callable (record :: records) =
      if record.live callable then record.connection :: liveConnections callable records
      else liveConnections callable records := by
  simp only [liveConnections, List.filter_cons]
  split_ifs <;> rfl

/-- The live connections of one list of records come before those of the other. -/
theorem live_connections_append (records records' : List (SlotRecord F)) :
    liveConnections callable (records ++ records') =
      liveConnections callable records ++ liveConnections callable records' := by
  simp [liveConnections]

/-- A live connection has the number of a record. -/
theorem number_of_live {records : List (SlotRecord F)} {c : Nat × F}
    (h : c ∈ liveConnections callable records) : c.1 ∈ numbers records := by
  obtain ⟨record, hmem, rfl⟩ := List.mem_map.1 h
  exact List.mem_map_of_mem (List.mem_of_mem_filter hmem)

/-- The records of a signal stand for the connections of a list, apart from those that are to be
removed, and as many connections were made as ids were given. -/
structure Signal.Shows (callable : F → Bool) (s : Signal F) (l : Connections F) : Prop where
  connected : l.connected = liveConnections callable s.slotRecords
  next_id : s.nextId = UInt64.ofNat l.made
  ascending : (numbers s.slotRecords).Pairwise (· < ·)
  below : ∀ n ∈ numbers s.slotRecords, n < l.made

namespace Signal

variable {s : Signal F} {l : Connections F} {records : List (SlotRecord F)} {id : UInt64}

/-- A new signal shows an empty list. -/
theorem create_shows : (create : Signal F).Shows callable .nothing :=
  ⟨rfl, rfl, .nil, nofun⟩

/-- What is to be removed stands for no connection. -/
theorem live_connections_filter :
    liveConnections callable (records.filter (SlotRecord.live callable)) =
      liveConnections callable records := by
  simp [liveConnections]

/-- Removing the records that are to be removed changes nothing that is shown. -/
theorem Shows.reconcile_removal (h : s.Shows callable l) :
    (s.reconcileRemoval callable).Shows callable l := by
  simp only [reconcileRemoval]
  split_ifs
  · exact h
  · exact h
  · have hsub : (numbers (s.slotRecords.filter (SlotRecord.live callable))).Sublist
        (numbers s.slotRecords) := List.filter_sublist.map _
    exact ⟨h.connected.trans live_connections_filter.symm, h.next_id, h.ascending.sublist hsub,
      fun n hn => h.below n (hsub.subset hn)⟩

/-- A locked signal keeps its records. -/
theorem numbers_reconcile_removal (h : s.locked = true) :
    numbers (s.reconcileRemoval callable).slotRecords = numbers s.slotRecords := by
  simp [reconcileRemoval, h]

@[simp] theorem reconcile_removal_is_locked : (s.reconcileRemoval callable).locked = s.locked := by
  simp only [reconcileRemoval]
  split_ifs <;> rfl

@[simp] theorem numbers_request_removal :
    numbers (requestRemoval id records) = numbers records := by
  induction records with
  | nil => rfl
  | cons record records ih =>
      simp only [requestRemoval]
      split_ifs
      · rfl
      · exact congrArg (record.id.toNat :: ·) ih

/-- Requests for removal leave the numbers. -/
theorem numbers_request_all (records : List (SlotRecord F)) :
    numbers (records.map fun record => { record with requestRemoval := true }) =
      numbers records := by
  simp [numbers]

/-- Where the ids differ, the record with the id stands for no connection any more. -/
theorem live_connections_request_removal (h : (numbers records).Pairwise (· < ·)) :
    liveConnections callable (requestRemoval id records) =
      (liveConnections callable records).filter fun c => c.1 ≠ id.toNat := by
  induction records with
  | nil => rfl
  | cons record records ih =>
      obtain ⟨hfirst, hrest⟩ := List.pairwise_cons.1 h
      rw [requestRemoval]
      by_cases heq : record.id = id
      · -- no later record has this id
        have hothers : (liveConnections callable records).filter (fun c => c.1 ≠ id.toNat) =
            liveConnections callable records := by
          refine List.filter_eq_self.2 fun c hc => ?_
          have hlt : record.id.toNat < c.1 := hfirst c.1 (number_of_live hc)
          rw [heq] at hlt
          simpa using Nat.ne_of_gt hlt
        have hdead :
            ({ record with requestRemoval := true } : SlotRecord F).live callable ≠ true := by
          simp [SlotRecord.live_of_request_removal]
        rw [if_pos heq, live_connections_cons, if_neg hdead, live_connections_cons]
        by_cases hlive : record.live callable = true
        · rw [if_pos hlive, List.filter_cons_of_neg (by simp [SlotRecord.connection, heq]), hothers]
        · rw [if_neg hlive, hothers]
      · have hne : record.id.toNat ≠ id.toNat := fun h => heq (UInt64.toNat_inj.1 h)
        rw [if_neg heq, live_connections_cons, live_connections_cons, ih hrest]
        split_ifs
        · simp [SlotRecord.connection, hne]
        · rfl

/-- A removal by id removes the connection with that number. -/
theorem Shows.remove (h : s.Shows callable l) (id : UInt64) :
    (s.remove callable id).Shows callable (l.keep fun c => c.1 ≠ id.toNat) := by
  refine Shows.reconcile_removal ⟨?_, h.next_id, ?_, ?_⟩
  · rw [live_connections_request_removal h.ascending, ← h.connected]
    rfl
  · simpa using h.ascending
  · simpa [Connections.keep] using h.below

/-- Clearing a signal removes all connections. -/
theorem Shows.clear (h : s.Shows callable l) :
    (s.clear callable).Shows callable (l.keep fun _ => false) := by
  have hnumbers := numbers_request_all s.slotRecords
  refine Shows.reconcile_removal ⟨?_, h.next_id, ?_, ?_⟩
  · have hnone : (s.slotRecords.map fun record => { record with requestRemoval := true }).filter
        (SlotRecord.live callable) = [] := by
      simp [SlotRecord.live, SlotRecord.shouldRemove]
    rw [liveConnections, hnone]
    simp [Connections.keep]
  · exact hnumbers.symm ▸ h.ascending
  · exact hnumbers.symm ▸ h.below

@[simp] theorem remove_is_locked (s : Signal F) (id : UInt64) :
    (s.remove callable id).locked = s.locked :=
  reconcile_removal_is_locked

/-- A locked signal keeps the record that is removed. -/
theorem numbers_remove (h : s.locked = true) (id : UInt64) :
    numbers (s.remove callable id).slotRecords = numbers s.slotRecords :=
  Eq.trans (numbers_reconcile_removal
    (s := { s with slotRecords := requestRemoval id s.slotRecords, pendingRemoval := true }) h)
    numbers_request_removal

@[simp] theorem clear_is_locked (s : Signal F) : (s.clear callable).locked = s.locked :=
  reconcile_removal_is_locked

/-- A locked signal keeps its records when it is cleared. -/
theorem numbers_clear (h : s.locked = true) :
    numbers (s.clear callable).slotRecords = numbers s.slotRecords :=
  Eq.trans (numbers_reconcile_removal (s := { s with
      slotRecords := s.slotRecords.map fun record => { record with requestRemoval := true }
      pendingRemoval := true }) h)
    (numbers_request_all _)

/-- A slot that can be called gets the next id. -/
theorem insert_some {fsptr : F} (hfunction : callable fsptr = true) :
    s.insert callable (some fsptr) = (some s.nextId,
      { s with
        nextId := s.nextId + 1
        slotRecords := s.slotRecords ++ [⟨s.nextId, false, fsptr⟩] }) := by
  simp [Signal.insert, hfunction]

/-- A slot that cannot be called is not inserted. -/
theorem insert_none {slot : Option F} (h : slot.filter callable = none) :
    s.insert callable slot = (none, s) := by
  cases slot with
  | none => rfl
  | some fsptr =>
      have hempty : callable fsptr = false := by simpa using h
      simp [Signal.insert, hempty]

/-- As long as not all numbers are given, the id of a new connection is its number. -/
theorem Shows.insert (h : s.Shows callable l) (hroom : l.made < 2 ^ 64) {fsptr : F}
    (hfunction : callable fsptr = true) :
    (s.insert callable (some fsptr)).1 = some (UInt64.ofNat l.made) ∧
      (s.insert callable (some fsptr)).2.Shows callable (l.connect fsptr) := by
  have hnumber : s.nextId.toNat = l.made := by
    rw [h.next_id]
    exact UInt64.toNat_ofNat_of_lt' hroom
  rw [insert_some hfunction]
  have hnumbers : numbers (s.slotRecords ++ [⟨s.nextId, false, fsptr⟩]) =
      numbers s.slotRecords ++ [l.made] := by
    simp [numbers, hnumber]
  refine ⟨congrArg some h.next_id, ?_, ?_, ?_, ?_⟩
  · rw [live_connections_append, ← h.connected]
    simp [Connections.connect, SlotRecord.live, SlotRecord.shouldRemove, hfunction,
      SlotRecord.connection, hnumber, liveConnections]
  · simp [Connections.connect, h.next_id]
  · rw [hnumbers]
    refine List.pairwise_append.2 ⟨h.ascending, List.pairwise_singleton _ _, fun n hn m hm => ?_⟩
    rw [List.mem_singleton.1 hm]
    exact h.below n hn
  · intro n hn
    rw [hnumbers] at hn
    rcases List.mem_append.1 hn with hold | hnew
    · exact Nat.lt_succ_of_lt (h.below n hold)
    · rw [List.mem_singleton.1 hnew]
      exact Nat.lt_succ_self _

/-- When functions are emptied, their connections are gone. -/
theorem Shows.invalidate (h : s.Shows callable l) {cond : F → Bool} :
    s.Shows (fun f => callable f && cond f) (l.keep fun c => callable c.2 && cond c.2) := by
  refine ⟨?_, h.next_id, h.ascending, h.below⟩
  simp only [Connections.keep, h.connected, liveConnections, List.filter_map, List.filter_filter]
  refine congrArg _ (List.filter_congr fun record _ => ?_)
  simp only [SlotRecord.live, SlotRecord.shouldRemove, SlotRecord.connection, Function.comp]
  cases record.requestRemoval <;> cases callable record.fsptr <;> cases cond record.fsptr <;> rfl

/-- If an id has been given twice, the removal of the first record with it leaves the second. -/
theorem remove_reused {first last : SlotRecord F}
    (hrecords : s.slotRecords = first :: records ++ [last]) (hfirst : first.id = id)
    (hlast : last.id = id) (hlive : last.live callable = true) (hunlocked : s.locked = false)
    (hothers : ∀ record ∈ records, record.id ≠ id) :
    (s.remove callable id).isValid callable id = true := by
  have hmarked : requestRemoval id s.slotRecords =
      { first with requestRemoval := true } :: (records ++ [last]) := by
    rw [hrecords, List.cons_append, requestRemoval, if_pos hfirst]
  have hremoved : (s.remove callable id).slotRecords =
      records.filter (SlotRecord.live callable) ++ [last] := by
    have hdead :
        ({ first with requestRemoval := true } : SlotRecord F).shouldRemove callable = true :=
      rfl
    have hkept : last.shouldRemove callable = false := by simpa [SlotRecord.live] using hlive
    have hfunction : SlotRecord.live callable = fun record => !record.shouldRemove callable := rfl
    simp [Signal.remove, reconcileRemoval, hunlocked, hmarked, hdead, hkept, hfunction]
  have hnone : (records.filter (SlotRecord.live callable)).find? (fun record => record.id = id) =
      none :=
    List.find?_eq_none.2 fun record hmem => by
      simpa using hothers record (List.mem_of_mem_filter hmem)
  rw [Signal.isValid, hremoved, List.find?_append, hnone]
  simpa [hlast, SlotRecord.live] using hlive

/-- A signal is empty when nothing is connected. -/
theorem Shows.empty_iff (h : s.Shows callable l) :
    s.empty callable = true ↔ l.connected = [] := by
  rw [h.connected, liveConnections, List.map_eq_nil_iff, List.filter_eq_nil_iff, Signal.empty,
    List.all_eq_true]
  simp [SlotRecord.live]

/-- A handle is valid when its connection is in the list. -/
theorem Shows.is_valid_iff (h : s.Shows callable l) (id : UInt64) :
    s.isValid callable id = true ↔ id.toNat ∈ l.connected.map Prod.fst := by
  have hnodup : (numbers s.slotRecords).Nodup := h.ascending.imp Nat.ne_of_lt
  rw [h.connected, Signal.isValid]
  cases hfind : s.slotRecords.find? fun record => record.id = id with
  | none =>
      refine iff_of_false nofun fun hmem => ?_
      obtain ⟨c, hc, hnumber⟩ := List.mem_map.1 hmem
      obtain ⟨record, hrecord, hid⟩ := List.mem_map.1 (number_of_live hc)
      have hne := List.find?_eq_none.1 hfind record hrecord
      exact hne (decide_eq_true (UInt64.toNat_inj.1 (hid.trans hnumber)))
  | some record =>
      have hmem := List.mem_of_find?_eq_some hfind
      have hid : record.id = id := by simpa using List.find?_some hfind
      constructor
      · intro hlive
        refine List.mem_map.2 ⟨record.connection, ?_, congrArg UInt64.toNat hid⟩
        exact List.mem_map_of_mem (List.mem_filter.2 ⟨hmem, hlive⟩)
      · intro hconnected
        obtain ⟨c, hc, hnumber⟩ := List.mem_map.1 hconnected
        obtain ⟨other, hother, rfl⟩ := List.mem_map.1 hc
        obtain ⟨hother, hlive⟩ := List.mem_filter.1 hother
        -- the ids differ, so this is the record that was found
        have heq : other = record := List.inj_on_of_nodup_map hnodup hother hmem
          (hnumber.trans (congrArg UInt64.toNat hid.symm))
        exact heq ▸ hlive

@[simp] theorem numbers_scan : numbers (scan callable records).1 = numbers records := by
  induction records with
  | nil => rfl
  | cons record records ih =>
      rw [scan]
      split_ifs
      · exact congrArg (record.id.toNat :: ·) ih
      · rfl

/-- What the loop passes over stands for no connection. -/
theorem live_connections_scan (records : List (SlotRecord F)) :
    liveConnections callable (scan callable records).1 = liveConnections callable records := by
  induction records with
  | nil => rfl
  | cons record records ih =>
      rw [scan]
      by_cases hdead : record.shouldRemove callable = true
      · have hrecord : record.live callable = false := by simp [SlotRecord.live, hdead]
        rw [if_pos hdead, live_connections_cons, live_connections_cons, hrecord,
          SlotRecord.live_of_request_removal rfl]
        exact ih
      · rw [if_neg hdead]

/-- The loop comes to the first record that stands for a connection. -/
theorem called_scan :
    (scan callable records).2.2.map SlotRecord.connection =
      (liveConnections callable records).head? := by
  induction records with
  | nil => rfl
  | cons record records ih =>
      rw [scan, live_connections_cons]
      by_cases hdead : record.shouldRemove callable = true
      · rw [if_pos hdead, if_neg (by simp [SlotRecord.live, hdead])]
        exact ih
      · rw [if_neg hdead, if_pos (by simp [SlotRecord.live, hdead])]
        rfl

/-- The record that the loop comes to is as many places on as records are passed over. -/
theorem number_scan {record : SlotRecord F} (h : (scan callable records).2.2 = some record) :
    (numbers records)[(scan callable records).2.1]? = some record.id.toNat := by
  induction records with
  | nil => cases h
  | cons first records ih =>
      rw [scan] at h ⊢
      split_ifs at h ⊢
      · exact ih h
      · cases h
        rfl

@[simp] theorem numbers_seek (callable : F → Bool) (s : Signal F) (it : Nat) :
    numbers (s.seek callable it).1.slotRecords = numbers s.slotRecords := by
  have hscan :
      numbers (scan callable (s.slotRecords.drop it)).1 = numbers (s.slotRecords.drop it) :=
    numbers_scan
  calc numbers (s.seek callable it).1.slotRecords
      = numbers (s.slotRecords.take it) ++ numbers (scan callable (s.slotRecords.drop it)).1 :=
        List.map_append
    _ = numbers s.slotRecords := by
        rw [hscan, numbers, numbers, ← List.map_append, List.take_append_drop]
        rfl

@[simp] theorem seek_locked (callable : F → Bool) (s : Signal F) (it : Nat) :
    (s.seek callable it).1.locked = s.locked := rfl

/-- Looking for the next slot to call changes nothing that is shown. -/
theorem Shows.seek (h : s.Shows callable l) (it : Nat) :
    (s.seek callable it).1.Shows callable l where
  connected := by
    rw [h.connected]
    conv_lhs => rw [← List.take_append_drop it s.slotRecords, live_connections_append]
    rw [← live_connections_scan (s.slotRecords.drop it), ← live_connections_append]
    rfl
  next_id := h.next_id
  ascending := by simpa using h.ascending
  below := by simpa using h.below

/-- Where the iterator stands between the numbers below `next` and the others, the loop comes to the
connection whose turn it is. -/
theorem Shows.called_seek (h : s.Shows callable l) {it next : Nat}
    (hbefore : ∀ n ∈ (numbers s.slotRecords).take it, n < next)
    (hafter : ∀ n ∈ (numbers s.slotRecords).drop it, next ≤ n) :
    (s.seek callable it).2.2.map SlotRecord.connection = l.turn next := by
  have hcalled : (s.seek callable it).2.2.map SlotRecord.connection =
      (liveConnections callable (s.slotRecords.drop it)).head? := called_scan
  have htake : (liveConnections callable (s.slotRecords.take it)).find? (fun c => next ≤ c.1) =
      none := by
    refine List.find?_eq_none.2 fun c hc => ?_
    have hmem := number_of_live hc
    rw [numbers, List.map_take] at hmem
    simpa using hbefore _ hmem
  have hdrop : (liveConnections callable (s.slotRecords.drop it)).find? (fun c => next ≤ c.1) =
      (liveConnections callable (s.slotRecords.drop it)).head? := by
    cases hlive : liveConnections callable (s.slotRecords.drop it) with
    | nil => rfl
    | cons c rest =>
        have hmem : c.1 ∈ numbers (s.slotRecords.drop it) :=
          number_of_live (hlive ▸ List.mem_cons_self)
        rw [numbers, List.map_drop] at hmem
        rw [List.find?_cons_of_pos (by simpa using hafter _ hmem)]
        rfl
  rw [hcalled, Connections.turn, h.connected]
  conv_rhs => rw [← List.take_append_drop it s.slotRecords, live_connections_append]
  rw [List.find?_append, htake, hdrop]
  rfl

/-- The slot that is found is at the iterator. -/
theorem number_seek (callable : F → Bool) (s : Signal F) (it : Nat) (record : SlotRecord F)
    (h : (s.seek callable it).2.2 = some record) :
    (numbers s.slotRecords)[(s.seek callable it).2.1]? = some record.id.toNat := by
  have hnumber := number_scan h
  rwa [numbers, List.map_drop, List.getElem?_drop] at hnumber

/-- The lock is not shown. -/
theorem Shows.set_locked (h : s.Shows callable l) (locked : Bool) :
    ({ s with locked } : Signal F).Shows callable l :=
  ⟨h.connected, h.next_id, h.ascending, h.below⟩

/-- The end of an emission changes nothing that is shown. -/
theorem Shows.finish (h : s.Shows callable l) : (s.finish callable).Shows callable l :=
  (h.set_locked false).reconcile_removal

@[simp] theorem finish_locked (s : Signal F) : (s.finish callable).locked = false :=
  reconcile_removal_is_locked

end Signal

/-- Ascending numbers are split behind each of them. -/
theorem ascending_split {ns : List Nat} {i n : Nat} (h : ns.Pairwise (· < ·))
    (hn : ns[i]? = some n) :
    (∀ m ∈ ns.take (i + 1), m < n + 1) ∧ ∀ m ∈ ns.drop (i + 1), n + 1 ≤ m := by
  obtain ⟨hi, rfl⟩ := List.getElem?_eq_some_iff.1 hn
  rw [List.pairwise_iff_getElem] at h
  constructor
  · intro m hm
    obtain ⟨j, hj, rfl⟩ := List.getElem_of_mem hm
    rw [List.length_take] at hj
    rw [List.getElem_take]
    rcases Nat.lt_or_eq_of_le (Nat.le_of_lt_succ (Nat.lt_of_lt_of_le hj (Nat.min_le_left _ _))) with
      hlt | rfl
    · exact Nat.lt_succ_of_lt (h j i _ hi hlt)
    · exact Nat.lt_succ_self _
  · intro m hm
    obtain ⟨j, hj, rfl⟩ := List.getElem_of_mem hm
    rw [List.getElem_drop]
    exact h i (i + 1 + j) hi _ (by omega)

/-- The iterator of an emission is at the connection it has called last. -/
structure Emission.Shows (signals : K → Signal F) (emission : Emission K A R)
    (turns : Turns K A R) : Prop where
  signal : emission.signal = turns.signal
  args : emission.args = turns.args
  results : emission.results = turns.results
  number : ∃ n, (numbers (signals turns.signal).slotRecords)[emission.it]? = some n ∧
    turns.next = n + 1

namespace Plain

/-- An operation does not emit a signal that is being emitted. -/
def Unnested (p : Plain K F A R) : Op K F H A R → Prop
  | .emit signal _ => signal ∉ p.emissions.map Turns.signal
  | _ => True

/-- A signal to which a slot is connected has an id left that it has not given yet. -/
def HasRoom (p : Plain K F A R) : Op K F H A R → Prop
  | .connect signal _ => (p.lists signal).made < 2 ^ 64
  | _ => True

instance [DecidableEq K] (p : Plain K F A R) : DecidablePred (p.Unnested (H := H)) := fun op => by
  cases op <;> unfold Unnested <;> infer_instance

instance (p : Plain K F A R) : DecidablePred (p.HasRoom (H := H)) := fun op => by
  cases op <;> unfold HasRoom <;> infer_instance

end Plain

/-- Emissions stay where they are while the records of their signals keep their places. -/
theorem emissions_kept {signals signals' : K → Signal F} {emissions : List (Emission K A R)}
    {turns : List (Turns K A R)} (h : List.Forall₂ (Emission.Shows signals) emissions turns)
    (hkept : ∀ signal ∈ turns.map Turns.signal,
      numbers (signals signal).slotRecords <+: numbers (signals' signal).slotRecords) :
    List.Forall₂ (Emission.Shows signals') emissions turns := by
  induction h with
  | nil => exact .nil
  | cons hshows _ ih =>
      obtain ⟨n, hn, hnext⟩ := hshows.number
      obtain ⟨rest, hrest⟩ := hkept _ List.mem_cons_self
      refine .cons ⟨hshows.signal, hshows.args, hshows.results, n, ?_, hnext⟩
        (ih fun signal hmem => hkept signal (List.mem_cons_of_mem _ hmem))
      rw [← hrest, List.getElem?_append_left (List.getElem?_eq_some_iff.1 hn).1]
      exact hn

/-- Each signal shows its list, a signal is locked while it is being emitted, which it is at most
once at a time, and the same has happened. -/
structure World.Shows (w : World K F A R) (p : Plain K F A R) : Prop where
  callable : w.callable = p.callable
  trace : w.trace = p.trace
  signals (signal : K) : (w.signals signal).Shows w.callable (p.lists signal)
  locked (signal : K) : (w.signals signal).locked = true ↔ signal ∈ p.emissions.map Turns.signal
  once : (p.emissions.map Turns.signal).Nodup
  emissions : List.Forall₂ (Emission.Shows w.signals) w.emissions p.emissions

namespace World

variable [DecidableEq K] [DecidableEq H] {w : World K F A R} {p : Plain K F A R}

omit [DecidableEq K] in
/-- Signals that were just created show empty lists. -/
theorem start_shows : (start : World K F A R).Shows .start :=
  ⟨rfl, rfl, fun _ => Signal.create_shows, fun _ => by simp [start, Signal.create, Plain.start],
    List.nodup_nil, .nil⟩

omit [DecidableEq K] in
/-- What is logged on both sides stays the same. -/
theorem Shows.log (h : w.Shows p) (event : Event K F A R) :
    Shows { w with trace := w.trace ++ [event] } { p with trace := p.trace ++ [event] } :=
  ⟨h.callable, congrArg (· ++ [event]) h.trace, h.signals, h.locked, h.once, h.emissions⟩

omit [DecidableEq H] in
/-- The other signals show their lists still. -/
theorem shows_update {callable : F → Bool} {signals : K → Signal F} {lists : K → Connections F}
    {signal : K} {s : Signal F} (hs : s.Shows callable (lists signal))
    (hothers : ∀ other ≠ signal, (signals other).Shows callable (lists other)) (other : K) :
    (Function.update signals signal s other).Shows callable (lists other) :=
  (Function.forall_update_iff signals fun other s => s.Shows callable (lists other)).2
    ⟨hs, hothers⟩ other

omit [DecidableEq H] in
/-- The other signals are locked as they were. -/
theorem locked_update {signals : K → Signal F} {emitted : List K} {signal : K} {s : Signal F}
    (hs : s.locked = true ↔ signal ∈ emitted)
    (hothers : ∀ other ≠ signal, (signals other).locked = true ↔ other ∈ emitted) (other : K) :
    (Function.update signals signal s other).locked = true ↔ other ∈ emitted :=
  (Function.forall_update_iff signals fun other s => s.locked = true ↔ other ∈ emitted).2
    ⟨hs, hothers⟩ other

/-- A signal may be changed as its list is; as long as it is being emitted, it keeps its place and
its records. -/
theorem Shows.set_signal (h : w.Shows p) {signal : K} {s : Signal F} {l : Connections F}
    (hs : s.Shows w.callable l) (hlocked : s.locked = (w.signals signal).locked)
    (hkept : s.locked = true → numbers (w.signals signal).slotRecords <+: numbers s.slotRecords) :
    (w.setSignal signal s).Shows (p.setList signal l) where
  callable := h.callable
  trace := h.trace
  signals other := by
    by_cases heq : other = signal
    · subst heq
      simpa [setSignal, Plain.setList] using hs
    · simpa [setSignal, Plain.setList, heq] using h.signals other
  locked := locked_update ((Bool.eq_iff_iff.1 hlocked).trans (h.locked signal))
    fun other _ => h.locked other
  once := h.once
  emissions := by
    refine emissions_kept h.emissions fun other hmem => ?_
    by_cases heq : other = signal
    · subst heq
      simpa [setSignal] using hkept (hlocked.trans ((h.locked other).2 hmem))
    · simp [setSignal, heq]

/-- An emission that goes on at its iterator, on both sides: the numbers before the iterator had
their turns. -/
structure Proceeding (w : World K F A R) (p : Plain K F A R) (emission : Emission K A R)
    (outer : List (Emission K A R)) (turns : Turns K A R) (outerTurns : List (Turns K A R)) :
    Prop where
  callable : w.callable = p.callable
  trace : w.trace = p.trace
  signals (signal : K) : (w.signals signal).Shows w.callable (p.lists signal)
  locked (signal : K) : (w.signals signal).locked = true ↔
    signal ∈ (turns :: outerTurns).map Turns.signal
  once : ((turns :: outerTurns).map Turns.signal).Nodup
  outer : List.Forall₂ (Emission.Shows w.signals) outer outerTurns
  signal : emission.signal = turns.signal
  args : emission.args = turns.args
  results : emission.results = turns.results
  before : ∀ n ∈ (numbers (w.signals turns.signal).slotRecords).take emission.it, n < turns.next
  after : ∀ n ∈ (numbers (w.signals turns.signal).slotRecords).drop emission.it, turns.next ≤ n

/-- The loop of `emit` calls the connection whose turn it is, and ends when none is left. -/
theorem Proceeding.shows {emission : Emission K A R} {outer : List (Emission K A R)}
    {turns : Turns K A R} {outerTurns : List (Turns K A R)}
    (h : Proceeding w p emission outer turns outerTurns) :
    (w.proceed emission outer).Shows (p.proceed turns outerTurns) := by
  have hturn := (h.signals turns.signal).called_seek h.before h.after
  have hseek := (h.signals turns.signal).seek emission.it
  have hnumbers := Signal.numbers_seek w.callable (w.signals turns.signal) emission.it
  have hlocked := Signal.seek_locked w.callable (w.signals turns.signal) emission.it
  have hplace := fun record =>
    Signal.number_seek w.callable (w.signals turns.signal) emission.it record
  rw [World.proceed, h.signal, Plain.proceed, ← hturn]
  generalize (w.signals turns.signal).seek w.callable emission.it = result at *
  obtain ⟨s, it, called⟩ := result
  cases called with
  | some record =>
      -- looking for the next slot cleans up records, but leaves the numbers of those that stay
      have hset (other : K) : (numbers (w.signals other).slotRecords) =
          numbers (Function.update w.signals turns.signal s other).slotRecords := by
        by_cases heq : other = turns.signal
        · subst heq
          simpa using hnumbers.symm
        · simp [heq]
      refine ⟨h.callable, ?_, ?_, ?_, h.once, .cons ?_ ?_⟩
      · simp [h.trace, h.args, SlotRecord.connection]
      · exact shows_update hseek fun other _ => h.signals other
      · refine locked_update ?_ fun other _ => h.locked other
        exact (Bool.eq_iff_iff.1 hlocked).trans (h.locked turns.signal)
      · refine ⟨rfl, h.args, h.results, record.id.toNat, ?_, rfl⟩
        exact hset turns.signal ▸ hplace record rfl
      · exact emissions_kept h.outer fun other _ => hset other ▸ List.prefix_refl _
  | none =>
      -- a signal that ends its emission is not being emitted further out
      have hends : turns.signal ∉ outerTurns.map Turns.signal := (List.nodup_cons.1 h.once).1
      refine ⟨h.callable, ?_, ?_, ?_, (List.nodup_cons.1 h.once).2, ?_⟩
      · simp [h.trace, h.results]
      · exact shows_update hseek.finish fun other _ => h.signals other
      · refine locked_update ?_ fun other hne => ?_
        · exact iff_of_false (by simp) hends
        · simpa [hne] using h.locked other
      · refine emissions_kept h.outer fun other hmem => ?_
        have hne : other ≠ turns.signal := fun heq => hends (heq ▸ hmem)
        simp [setSignal, hne]

/-- An emission of a signal that is not being emitted starts with the first connection. -/
theorem Shows.emit (h : w.Shows p) {signal : K} (args : A)
    (hfree : signal ∉ p.emissions.map Turns.signal) :
    ((w.setSignal signal { w.signals signal with locked := true }).proceed
      ⟨signal, 0, args, []⟩ w.emissions).Shows
        (p.proceed ⟨signal, [], 0, args, []⟩ p.emissions) := by
  refine Proceeding.shows ⟨h.callable, h.trace, ?_, ?_, List.nodup_cons.2 ⟨hfree, h.once⟩, ?_,
    rfl, rfl, rfl, nofun, fun _ _ => Nat.zero_le _⟩
  · exact shows_update ((h.signals signal).set_locked true) fun other _ => h.signals other
  · refine locked_update (iff_of_true rfl List.mem_cons_self) fun other hne => ?_
    simpa [hne] using h.locked other
  · refine emissions_kept h.emissions fun other hmem => ?_
    have hne : other ≠ signal := fun heq => hfree (heq ▸ hmem)
    simp [setSignal, hne]

/-- When a slot returns, its emission goes on behind it. -/
theorem Shows.ret (h : w.Shows p) (result : R) {emission : Emission K A R}
    {outer : List (Emission K A R)} {turns : Turns K A R} {outerTurns : List (Turns K A R)}
    (hemissions : w.emissions = emission :: outer) (hturns : p.emissions = turns :: outerTurns) :
    (w.proceed { emission with it := emission.it + 1, results := result :: emission.results }
      outer).Shows (p.proceed { turns with results := result :: turns.results } outerTurns) := by
  have hall := h.emissions
  rw [hemissions, hturns] at hall
  cases hall with
  | cons hshows houter =>
      obtain ⟨n, hn, hnext⟩ := hshows.number
      obtain ⟨hbefore, hafter⟩ := ascending_split (h.signals turns.signal).ascending hn
      refine Proceeding.shows ⟨h.callable, h.trace, h.signals, fun other => ?_, ?_, houter,
        hshows.signal, hshows.args, congrArg (result :: ·) hshows.results, ?_, ?_⟩
      · rw [h.locked other, hturns]
        rfl
      · have honce := h.once
        rw [hturns] at honce
        exact honce
      · exact fun m hm => hnext ▸ hbefore m hm
      · exact fun m hm => hnext ▸ hafter m hm

/-- What connecting a slot does. -/
theorem step_connect (w : World K F A R) (attachedHandler : F → Option H) (signal : K)
    (slot : Option F) :
    w.step attachedHandler (.connect signal slot) =
      some { w.setSignal signal ((w.signals signal).insert w.callable slot).2 with
        trace := w.trace ++ [.connected signal ((w.signals signal).insert w.callable slot).1] } :=
  rfl

/-- Connecting a slot is shown, while the signal has an id left. -/
theorem Shows.connect (h : w.Shows p) (attachedHandler : F → Option H) {signal : K}
    (slot : Option F) (hroom : (p.lists signal).made < 2 ^ 64) :
    ∃ w', w.step attachedHandler (.connect signal slot) = some w' ∧
      w'.Shows (p.step attachedHandler (.connect signal slot)) := by
  refine ⟨_, w.step_connect attachedHandler signal slot, ?_⟩
  rw [Plain.step]
  cases hslot : slot.filter p.callable with
  | none =>
      rw [← h.callable] at hslot
      have hkept : w.setSignal signal (w.signals signal) = w := by
        simp [setSignal]
      rw [Signal.insert_none hslot, hkept]
      exact h.log _
  | some fsptr =>
      rw [← h.callable] at hslot
      obtain ⟨rfl, hfunction⟩ := Option.filter_eq_some_iff.1 hslot
      obtain ⟨hconnection, hshows⟩ := (h.signals signal).insert hroom hfunction
      have hset := h.set_signal hshows (by rw [Signal.insert_some hfunction]) fun _ => by
        rw [Signal.insert_some hfunction, numbers, numbers, List.map_append]
        exact List.prefix_append _ _
      rw [hconnection]
      exact hset.log _

/-- What empties functions takes their connections out of all lists. -/
theorem Shows.destroy (h : w.Shows p) (attachedHandler : F → Option H) (handler : H) :
    Shows { w with callable := invalidate attachedHandler w.callable handler }
      (p.step attachedHandler (.destroy handler)) := by
  refine ⟨?_, h.trace, fun signal => ?_, h.locked, h.once, h.emissions⟩
  · exact congrArg (fun callable => invalidate attachedHandler callable handler) h.callable
  · rw [Plain.step, ← h.callable]
    exact (h.signals signal).invalidate

/-- Unless it emits a signal that is being emitted, an operation does what it does to the lists. -/
theorem Shows.step (h : w.Shows p) (attachedHandler : F → Option H) {op : Op K F H A R}
    (hroom : p.HasRoom op) (hunnested : p.Unnested op) :
    ∃ w', w.step attachedHandler op = some w' ∧ w'.Shows (p.step attachedHandler op) := by
  cases op with
  | connect signal slot => exact h.connect attachedHandler slot hroom
  | disconnect signal connection =>
      refine ⟨_, rfl, ?_⟩
      cases connection with
      | none =>
          -- a connection that was disconnected before changes nothing
          have hkept : w.setSignal signal (w.signals signal) = w := by
            simp [setSignal]
          rw [SignalConnection.disconnect, hkept]
          exact h
      | some id =>
          refine h.set_signal ((h.signals signal).remove id) (Signal.remove_is_locked _ id) ?_
          intro hlocked
          have hlocked : (w.signals signal).locked = true :=
            (Signal.remove_is_locked _ id).symm.trans hlocked
          exact Signal.numbers_remove hlocked id ▸ List.prefix_refl _
  | clear signal =>
      refine ⟨_, rfl, h.set_signal (h.signals signal).clear (Signal.clear_is_locked _) ?_⟩
      intro hlocked
      rw [Signal.clear_is_locked] at hlocked
      exact Signal.numbers_clear hlocked ▸ List.prefix_refl _
  | destroy handler => exact ⟨_, rfl, h.destroy attachedHandler handler⟩
  | emit signal args =>
      -- the assertion of `emit` is that the emission is not nested
      have hlocked : (w.signals signal).locked = false := by
        simpa using mt (h.locked signal).1 hunnested
      refine ⟨_, ?_, h.emit args hunnested⟩
      rw [World.step, fsw_assert_of hlocked]
      rfl
  | ret result =>
      cases hemissions : w.emissions with
      | nil =>
          have hnil : p.emissions = [] := by simpa [hemissions] using h.emissions
          refine ⟨w, by rw [World.step, hemissions], ?_⟩
          rw [Plain.step, hnil]
          exact h
      | cons emission outer =>
          have hall := h.emissions
          rw [hemissions] at hall
          obtain ⟨turns, outerTurns, -, -, hturns⟩ := List.forall₂_cons_left_iff.1 hall
          refine ⟨_, by rw [World.step, hemissions], ?_⟩
          rw [Plain.step, hturns]
          exact h.ret result hemissions hturns

/-- A signal that is emitted while it is being emitted fails the assertion of `emit`. -/
theorem Shows.step_nested (h : w.Shows p) (attachedHandler : F → Option H) {op : Op K F H A R}
    (hnested : ¬ p.Unnested op) : w.step attachedHandler op = none := by
  cases op with
  | emit signal args =>
      have hlocked : (w.signals signal).locked = true := by
        simpa [h.locked signal, Plain.Unnested] using hnested
      simp [World.step, fswAssert, hlocked]
  | connect _ _ | disconnect _ _ | clear _ | destroy _ | ret _ => exact absurd trivial hnested

/-- The same has happened to the signals as to the lists, and their handles and `empty` say of the
signals what is true of the lists. -/
structure Agrees (w : World K F A R) (p : Plain K F A R) : Prop where
  trace : w.trace = p.trace
  empty (signal : K) : (w.signals signal).empty w.callable = true ↔ (p.lists signal).connected = []
  is_valid (signal : K) (connection : SignalConnection) :
    connection.isValid w.callable (w.signals signal) = true ↔
      ∃ c ∈ (p.lists signal).connected, connection.map UInt64.toNat = some c.1

omit [DecidableEq K] in
/-- What is shown agrees. -/
theorem Shows.agrees (h : w.Shows p) : w.Agrees p where
  trace := h.trace
  empty signal := (h.signals signal).empty_iff
  is_valid signal connection := by
    cases connection with
    | none => simp [SignalConnection.isValid]
    | some id =>
        rw [SignalConnection.isValid, (h.signals signal).is_valid_iff id, List.mem_map]
        simp [eq_comm]

/-- Operations that nest no emission do to the signals what they do to the lists. -/
theorem Shows.run_shows (h : w.Shows p) (attachedHandler : F → Option H) (ops : List (Op K F H A R))
    (hroom : Along (Plain.step attachedHandler) Plain.HasRoom p ops)
    (hunnested : Along (Plain.step attachedHandler) Plain.Unnested p ops) :
    ∃ w', ops.foldlM (World.step attachedHandler) w = some w' ∧
      w'.Shows (run (Plain.step attachedHandler) p ops) := by
  induction ops generalizing w p with
  | nil => exact ⟨w, rfl, h⟩
  | cons op ops ih =>
      obtain ⟨next, hstep, hnext⟩ := h.step attachedHandler hroom.1 hunnested.1
      obtain ⟨w', hrun, hshows⟩ := ih hnext hroom.2 hunnested.2
      exact ⟨w', by rw [List.foldlM_cons, hstep]; exact hrun, hshows⟩

/-- The first operation that nests an emission fails. -/
theorem Shows.run_nested (h : w.Shows p) (attachedHandler : F → Option H)
    (ops : List (Op K F H A R))
    (hroom : Along (Plain.step attachedHandler) Plain.HasRoom p ops)
    (hnested : ¬ Along (Plain.step attachedHandler) Plain.Unnested p ops) :
    ops.foldlM (World.step attachedHandler) w = none := by
  induction ops generalizing w p with
  | nil => exact absurd trivial hnested
  | cons op ops ih =>
      by_cases hop : p.Unnested op
      · obtain ⟨next, hstep, hnext⟩ := h.step attachedHandler hroom.1 hop
        rw [List.foldlM_cons, hstep]
        exact ih hnext hroom.2 fun hrest => hnested ⟨hop, hrest⟩
      · rw [List.foldlM_cons, h.step_nested attachedHandler hop]
        rfl

/-- As long as no signal runs out of ids: if no operation emits a signal that is being emitted, all
of them do to the signals what they do to the plain lists, whose emissions take their turns in
order; if one does, the process ends. -/
theorem behaves_as_plain_lists (attachedHandler : F → Option H) (ops : List (Op K F H A R))
    (hroom : Along (Plain.step attachedHandler) Plain.HasRoom .start ops) :
    (Along (Plain.step attachedHandler) Plain.Unnested .start ops →
        ∃ w, ops.foldlM (World.step attachedHandler) .start = some w ∧
          w.Agrees (run (Plain.step attachedHandler) .start ops) ∧
          (run (Plain.step attachedHandler) .start ops).Ordered) ∧
      (¬ Along (Plain.step attachedHandler) Plain.Unnested .start ops →
        ops.foldlM (World.step attachedHandler) .start = none) := by
  refine ⟨fun hunnested => ?_, start_shows.run_nested attachedHandler ops hroom⟩
  obtain ⟨w, hrun, hshows⟩ := start_shows.run_shows attachedHandler ops hroom hunnested
  exact ⟨w, hrun, hshows.agrees, Plain.turns_in_order attachedHandler ops⟩

section Sample

/-- The function 3 belongs to the handler 0. -/
def sampleHandler (f : Nat) : Option Nat := if f = 3 then some 0 else none

/-- While the slot 1 of the signal `false` runs, the slot 2 is disconnected, the slot 4 connected,
and the signal `true` emitted, whose slot destroys the handler of the slot 3. -/
def sampleOps : List (Op Bool Nat Nat Nat Unit) :=
  [.connect false (some 1), .connect false (some 2), .connect false (some 3),
    .connect true (some 5),
    .emit false 7, .disconnect false (some 1), .connect false (some 4), .emit true 8, .destroy 0,
    .ret (), .ret (), .clear false, .ret ()]

/-- The slots of the sample are called in the order of their connections, those connected meanwhile
last. -/
theorem sample_behaves :
    ∃ w, sampleOps.foldlM (World.step sampleHandler) .start = some w ∧
      w.trace = [.connected false (some 0), .connected false (some 1), .connected false (some 2),
        .connected true (some 0), .called false 0 1 7, .connected false (some 3),
        .called true 0 5 8,
        .emitted true [()], .called false 3 4 7, .emitted false [(), ()]] := by
  obtain ⟨w, hrun, hagrees, -⟩ :=
    (behaves_as_plain_lists sampleHandler sampleOps (by decide)).1 (by decide)
  exact ⟨w, hrun, hagrees.trace⟩

/-- After many connections of the slot 0 the signal has a record for each. -/
theorem connects_run (n : Nat) :
    ∃ w : World Unit Nat Unit Unit,
      (List.replicate n (Op.connect () (some 0))).foldlM (World.step sampleHandler) .start =
        some w ∧
        w.callable = (fun _ => true) ∧
        w.signals () = ⟨false, UInt64.ofNat n, false,
          (List.range n).map fun i => ⟨UInt64.ofNat i, false, 0⟩⟩ := by
  induction n with
  | zero => exact ⟨.start, rfl, rfl, rfl⟩
  | succ n ih =>
      obtain ⟨w, hrun, hcallable, hsignal⟩ := ih
      rw [List.replicate_succ', List.foldlM_append, hrun]
      refine ⟨_, w.step_connect sampleHandler () (some 0), hcallable, ?_⟩
      rw [Signal.insert_some (by rw [hcallable])]
      simp [setSignal, hsignal, List.range_succ]

/-- When the ids begin again, a handle may stay valid when it is disconnected. -/
theorem id_reused {n : Nat} (hzero : UInt64.ofNat (n + 1) = 0)
    (hother : ∀ i < n, UInt64.ofNat (i + 1) ≠ 0) :
    ∃ w : World Unit Nat Unit Unit,
      (List.replicate (n + 1) (Op.connect () (some 0)) ++
          [Op.connect () (some 1), Op.disconnect () (some 0)]).foldlM
            (World.step sampleHandler) .start = some w ∧
        SignalConnection.isValid w.callable (some 0) (w.signals ()) = true := by
  obtain ⟨w, hrun, hcallable, hsignal⟩ := connects_run (n + 1)
  have hconnected := w.step_connect sampleHandler () (some 1)
  rw [Signal.insert_some (by rw [hcallable])] at hconnected
  rw [List.foldlM_append, hrun, Option.bind_eq_bind, Option.bind_some, List.foldlM_cons, hconnected]
  refine ⟨_, rfl, ?_⟩
  simp only [setSignal, SignalConnection.isValid, SignalConnection.disconnect, Function.update_self]
  have hrecords : (w.signals ()).slotRecords ++ [⟨(w.signals ()).nextId, false, 1⟩] =
      ⟨0, false, 0⟩ :: (List.range n).map (fun i => ⟨UInt64.ofNat (i + 1), false, 0⟩) ++
        [⟨0, false, 1⟩] := by
    simp only [hsignal, hzero, List.range_succ_eq_map, List.map_cons, List.map_map]
    rfl
  refine Signal.remove_reused hrecords rfl rfl ?_ ?_ ?_
  · simp [SlotRecord.live, SlotRecord.shouldRemove, hcallable]
  · rw [hsignal]
  · intro record hmem
    obtain ⟨i, hi, rfl⟩ := List.mem_map.1 hmem
    exact hother i (List.mem_range.1 hi)

/-- A slot that emits its own signal ends the process, where the plain list calls the slot again;
and when the ids have run out, a handle that is disconnected stays valid, where the plain list loses
its connection. -/
theorem not_always_plain :
    ([Op.connect () (some 0), .emit () (), .emit () ()].foldlM (World.step sampleHandler)
          (.start : World Unit Nat Unit Unit) = none ∧
        (run (Plain.step sampleHandler) (.start : Plain Unit Nat Unit Unit)
          [Op.connect () (some 0), .emit () (), .emit () ()]).trace =
            [.connected () (some 0), .called () 0 0 (), .called () 0 0 ()]) ∧
      ∃ w : World Unit Nat Unit Unit,
        (List.replicate (2 ^ 64) (Op.connect () (some 0)) ++
            [Op.connect () (some 1), Op.disconnect () (some 0)]).foldlM
              (World.step sampleHandler) .start = some w ∧
          SignalConnection.isValid w.callable (some 0) (w.signals ()) = true := by
  refine ⟨⟨rfl, rfl⟩, ?_⟩
  have hother : ∀ i < 2 ^ 64 - 1, UInt64.ofNat (i + 1) ≠ 0 := by
    intro i hi hzero
    have hlt : i + 1 < 2 ^ 64 := by omega
    have htoNat : (UInt64.ofNat (i + 1)).toNat = i + 1 := UInt64.toNat_ofNat_of_lt' hlt
    rw [hzero] at htoNat
    cases htoNat
  exact id_reused rfl hother

end Sample

end World

end Codon.Signals
