import Codon.Core
import Mathlib.Data.List.Basic
import Mathlib.Logic.Function.Basic

/-!
# Signals

A signal keeps a list of records of the slots that are connected to it, and `emit` calls them one
after the other. While a slot runs, anything may happen to any signal; the records of the signal
that is being emitted are only marked then, and removed when the emission is over. A slot holds its
function through a pointer that all its copies share: when the handler that the function belongs to
is destroyed, the function is emptied. The operations of slots that run inside an emission stand
between its steps: `emit` calls the first slot, `ret` is the return of the innermost running slot,
which takes its emission to the next one.
-/

namespace Codon.Signals

/-- The record of a slot, with the pointer to the function that it shares with the slot. -/
structure SlotRecord (F : Type) where
  id : UInt64
  requestRemoval : Bool
  fsptr : F
deriving DecidableEq

structure Signal (F : Type) where
  locked : Bool
  nextId : UInt64
  pendingRemoval : Bool
  slotRecords : List (SlotRecord F)
deriving DecidableEq

/-- What `connect_get` returns: empty if it fails, otherwise the id that the calls to the signal are
bound to. -/
abbrev SignalConnection := Option UInt64

variable {K F H A R : Type} {callable : F → Bool}

/-- `callable` says which function objects are not empty. -/
def SlotRecord.shouldRemove (callable : F → Bool) (record : SlotRecord F) : Bool :=
  record.requestRemoval || !callable record.fsptr

namespace Signal

def create : Signal F := ⟨false, 0, false, []⟩

def reconcileRemoval (callable : F → Bool) (s : Signal F) : Signal F :=
  if s.pendingRemoval = false then s
  else if s.locked then s
  else
    { s with
      slotRecords := s.slotRecords.filter fun record => !record.shouldRemove callable
      pendingRemoval := false }

/-- A slot without a function, or with an empty one, is refused. -/
def insert (callable : F → Bool) (s : Signal F) (slot : Option F) : SignalConnection × Signal F :=
  match slot with
  | none => (none, s)
  | some fsptr =>
      if callable fsptr = false then (none, s)
      else
        (some s.nextId,
          { s with
            nextId := s.nextId + 1
            slotRecords := s.slotRecords ++ [⟨s.nextId, false, fsptr⟩] })

/-- The first record with the id requests its removal. -/
def requestRemoval (id : UInt64) : List (SlotRecord F) → List (SlotRecord F)
  | [] => []
  | record :: records =>
      if record.id = id then { record with requestRemoval := true } :: records
      else record :: requestRemoval id records

def remove (callable : F → Bool) (s : Signal F) (id : UInt64) : Signal F :=
  reconcileRemoval callable
    { s with slotRecords := requestRemoval id s.slotRecords, pendingRemoval := true }

def clear (callable : F → Bool) (s : Signal F) : Signal F :=
  reconcileRemoval callable
    { s with
      slotRecords := s.slotRecords.map fun record => { record with requestRemoval := true }
      pendingRemoval := true }

def empty (callable : F → Bool) (s : Signal F) : Bool :=
  s.slotRecords.all (SlotRecord.shouldRemove callable)

def isValid (callable : F → Bool) (s : Signal F) (id : UInt64) : Bool :=
  match s.slotRecords.find? fun record => record.id = id with
  | some record => !record.shouldRemove callable
  | none => false

/-- The loop of `emit` up to the next record that it calls: the records as it leaves them, how many
of them it passes over, and the record it calls, if there is one. -/
def scan (callable : F → Bool) :
    List (SlotRecord F) → List (SlotRecord F) × Nat × Option (SlotRecord F)
  | [] => ([], 0, none)
  | record :: records =>
      if record.shouldRemove callable then
        let (records, passed, called) := scan callable records
        ({ record with requestRemoval := true } :: records, passed + 1, called)
      else (record :: records, 0, some record)

/-- The loop of `emit` from the iterator on, which ends at the record to call or at the end of the
list. -/
def seek (callable : F → Bool) (s : Signal F) (it : Nat) : Signal F × Nat × Option (SlotRecord F) :=
  let (records, passed, called) := scan callable (s.slotRecords.drop it)
  ({ s with
      slotRecords := s.slotRecords.take it ++ records
      pendingRemoval := s.pendingRemoval || decide (0 < passed) },
    it + passed, called)

/-- After its loop `emit` unlocks the signal and removes what is to be removed. -/
def finish (callable : F → Bool) (s : Signal F) : Signal F :=
  reconcileRemoval callable { s with locked := false }

end Signal

namespace SignalConnection

def disconnect (callable : F → Bool) (connection : SignalConnection) (s : Signal F) : Signal F :=
  match connection with
  | none => s
  | some id => s.remove callable id

def isValid (callable : F → Bool) (connection : SignalConnection) (s : Signal F) : Bool :=
  match connection with
  | none => false
  | some id => s.isValid callable id

end SignalConnection

/-- An operation, made by a running slot or by other code. -/
inductive Op (K F H A R : Type) where
  | connect (signal : K) (slot : Option F)
  | disconnect (signal : K) (connection : SignalConnection)
  | clear (signal : K)
  | destroy (handler : H)
  | emit (signal : K) (args : A)
  /-- The slot that was called last and still runs returns. -/
  | ret (result : R)

/-- What can be seen of the signals. -/
inductive Event (K F A R : Type) where
  | connected (signal : K) (connection : SignalConnection)
  | called (signal : K) (id : UInt64) (fsptr : F) (args : A)
  /-- An emission is over; its accumulator was given these results, the last one first. -/
  | emitted (signal : K) (results : List R)

/-- A call to `emit` that has called the slot at its iterator. -/
structure Emission (K A R : Type) where
  signal : K
  it : Nat
  args : A
  results : List R

/-- The signals, the function objects, the emissions that are going on, the innermost first, and
what has happened so far. -/
structure World (K F A R : Type) where
  signals : K → Signal F
  callable : F → Bool
  emissions : List (Emission K A R)
  trace : List (Event K F A R)

/-- The destructor of a handler empties the functions that are attached to it. -/
def invalidate [DecidableEq H] (attachedHandler : F → Option H) (callable : F → Bool)
    (handler : H) :
    F → Bool :=
  fun f => callable f && decide (attachedHandler f ≠ some handler)

namespace World

variable [DecidableEq K] [DecidableEq H]

/-- In the beginning nothing is connected and no function is empty. -/
def start : World K F A R := ⟨fun _ => .create, fun _ => true, [], []⟩

def setSignal (w : World K F A R) (signal : K) (s : Signal F) : World K F A R :=
  { w with signals := Function.update w.signals signal s }

/-- The innermost emission goes on at its iterator. -/
def proceed (w : World K F A R) (emission : Emission K A R) (outer : List (Emission K A R)) :
    World K F A R :=
  match (w.signals emission.signal).seek w.callable emission.it with
  | (s, it, some record) =>
      { w.setSignal emission.signal s with
        emissions := { emission with it } :: outer
        trace := w.trace ++ [.called emission.signal record.id record.fsptr emission.args] }
  | (s, _, none) =>
      { w.setSignal emission.signal (s.finish w.callable) with
        emissions := outer
        trace := w.trace ++ [.emitted emission.signal emission.results] }

/-- An emission of a signal that is being emitted fails an assertion. Without a running slot
nothing returns. -/
def step (attachedHandler : F → Option H) (w : World K F A R) :
    Op K F H A R → Option (World K F A R)
  | .connect signal slot =>
      let (connection, s) := (w.signals signal).insert w.callable slot
      some { w.setSignal signal s with trace := w.trace ++ [.connected signal connection] }
  | .disconnect signal connection =>
      some (w.setSignal signal (connection.disconnect w.callable (w.signals signal)))
  | .clear signal => some (w.setSignal signal ((w.signals signal).clear w.callable))
  | .destroy handler =>
      some { w with callable := invalidate attachedHandler w.callable handler }
  | .emit signal args => do
      fswAssert ((w.signals signal).locked = false)
      let w := w.setSignal signal { w.signals signal with locked := true }
      return w.proceed ⟨signal, 0, args, []⟩ w.emissions
  | .ret result =>
      match w.emissions with
      | [] => some w
      | emission :: outer =>
          some (w.proceed
            { emission with it := emission.it + 1, results := result :: emission.results } outer)

end World

end Codon.Signals
