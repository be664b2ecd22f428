import Codon.Core
import Codon.Library.DenseSlots

/-!
# The sinks of a bag of file descriptors

An `FdBag` keeps the sinks that are attached to it in the first `fes_count` slots of a vector, and a
sink knows its slot and its bag. While the bag dispatches the events that `epoll` has reported, what
is removed stays behind those slots until the dispatch ends, so that the events that are left still
point to something. The operations of callbacks stand between the steps of the dispatch: `turn` is
the next round of its loop, up to the call, and `ret` the return of the sink that was called. A
callback may dispatch as well, also the bag that called it, and then overwrites its scratch space.
What `epoll` and `eventfd` answer is an input of the operations. A sink decides itself when it is
closed and has itself removed.

An event points to its sink, but holds no handle on it. What a bag has removed during a dispatch is
in its vector until that dispatch ends, or until a dispatch of the same bag ends that was begun
meanwhile. From then on the sink is only there while somebody else has a handle on it (`isHeld`).
-/

namespace Codon.Net

open Codon.Library

/-- What stands in for a descriptor that `epoll` cannot poll: the sink of an eventfd, or the error
sink of the bag when that could not be attached. -/
inductive Standin (S : Type) where
  | none
  | errorFes
  | sink (fes : S)

/-- `isHeld` says whether somebody has a handle on the sink besides the bag that calls it. -/
structure FdEventSink (B S : Type) where
  owner : Option B
  idx : Nat
  isClosed : Bool
  nonPollableStandin : Standin S
  isHeld : Bool

structure FdBag (S : Type) where
  maxFds : Nat
  fesv : List S
  fesCount : Nat
  epollScratch : List S
  dispatchInProgress : Bool

/-- A call of `dispatch_epoll` and the round of its loop that is next. The events, of which we keep
the sinks, are in an array of the caller or, without one, in the scratch space of the bag. `running`
is the sink whose callbacks are running. -/
structure Dispatching (B S : Type) where
  bag : B
  events : Option (List S)
  epollEventCount : Nat
  i : Nat
  running : Option S

/-- The bags, the sinks, the dispatches that are going on, the innermost first, and the sinks that
were called so far. -/
structure FdBags (B S : Type) where
  bags : B → FdBag S
  sinks : S → FdEventSink B S
  dispatches : List (Dispatching B S)
  calls : List (B × S)

/-- `SIZE_MAX`, the index of a sink that is not attached. -/
def sizeMax : Nat := 2 ^ 64 - 1

namespace FdBags

variable {B S : Type} [DecidableEq B] [DecidableEq S]

omit [DecidableEq B] [DecidableEq S] in
/-- Empty bags, with the maximum of each, and open sinks that are attached to none. -/
def start (maxFds : B → Nat) : FdBags B S :=
  ⟨fun b => ⟨maxFds b, [], 0, [], false⟩, fun _ => ⟨none, sizeMax, false, .none, true⟩, [], []⟩

def setBag (s : FdBags B S) (b : B) (bag : FdBag S) : FdBags B S :=
  { s with bags := Function.update s.bags b bag }

def setSink (s : FdBags B S) (f : S) (sink : FdEventSink B S) : FdBags B S :=
  { s with sinks := Function.update s.sinks f sink }

section

variable (s : FdBags B S) {b b' : B} {f g : S} (bag : FdBag S) (sink : FdEventSink B S)

omit [DecidableEq S] in
@[simp] theorem set_bag_self : (s.setBag b bag).bags b = bag := Function.update_self ..

omit [DecidableEq S] in
@[simp] theorem set_bag_of_ne (h : b' ≠ b) : (s.setBag b bag).bags b' = s.bags b' :=
  Function.update_of_ne h ..

omit [DecidableEq S] in
@[simp] theorem set_bag_sinks : (s.setBag b bag).sinks = s.sinks := rfl

omit [DecidableEq S] in
@[simp] theorem set_bag_calls : (s.setBag b bag).calls = s.calls := rfl

omit [DecidableEq B] in
@[simp] theorem set_sink_self : (s.setSink f sink).sinks f = sink := Function.update_self ..

omit [DecidableEq B] in
@[simp] theorem set_sink_of_ne (h : g ≠ f) : (s.setSink f sink).sinks g = s.sinks g :=
  Function.update_of_ne h ..

omit [DecidableEq B] in
@[simp] theorem set_sink_bags : (s.setSink f sink).bags = s.bags := rfl

omit [DecidableEq B] in
@[simp] theorem set_sink_calls : (s.setSink f sink).calls = s.calls := rfl

end

/-- `attach_fes` up to the slot of the sink. When it is refused, nothing has changed. -/
def insertFes (s : FdBags B S) (b : B) (f : S) : Option (FdBags B S) :=
  let bag := s.bags b
  if (s.sinks f).isClosed then none
  else if (s.sinks f).owner ≠ none then none
  else if bag.maxFds ≤ bag.fesCount then none
  else
    let fesv := bag.fesv ++ [f]
    let s := s.setSink f { s.sinks f with owner := some b, idx := bag.fesCount }
    some (s.setBag b { bag with
      -- the slots behind may hold removed sinks
      fesv := if bag.fesCount + 1 ≠ fesv.length then swapSlots fesv bag.fesv.length bag.fesCount
        else fesv
      fesCount := bag.fesCount + 1 })

/-- `attach_fes`. For a descriptor that cannot be polled it attaches the sink of a new eventfd,
where there is one. -/
def attachFes (pollable : S → Bool) (s : FdBags B S) (b : B) (f : S) (eventfd : Option S) :
    FdBags B S :=
  match s.insertFes b f with
  | none => s
  | some s =>
      if pollable f then s
      else
        match eventfd with
        | none => s
        | some e =>
            match s.insertFes b e with
            | none => s.setSink f { s.sinks f with nonPollableStandin := .errorFes }
            | some s => s.setSink f { s.sinks f with nonPollableStandin := .sink e }

/-- The sink that `remove_fes` finds in the slot of a sink, if its checks pass. -/
def slotOf (s : FdBags B S) (b : B) (f : S) : Option S :=
  if (s.sinks f).idx < (s.bags b).fesCount then
    (s.bags b).fesv[(s.sinks f).idx]?.filter fun fes => (s.sinks fes).owner = some b
  else none

/-- The end of `remove_fes`: the sink and the last attached one change places and indices. -/
def dropFes (s : FdBags B S) (b : B) (f : S) : FdBags B S :=
  let bag := s.bags b
  let oldIdx := (s.sinks f).idx
  let last := bag.fesCount - 1
  let fesv := swapSlots bag.fesv oldIdx last
  let s := match fesv[oldIdx]? with
    | none => s
    | some moved => s.setSink moved { s.sinks moved with idx := oldIdx }
  let s := s.setSink f { s.sinks f with owner := none, idx := sizeMax }
  s.setBag b { bag with
    fesv := if bag.dispatchInProgress then fesv else fesv.dropLast
    fesCount := last }

/-- What a sink may do with itself and its bag. Closing a sink is made of these, as the sink sees
fit. -/
inductive SinkAct where
  | setClosed (isClosed : Bool)
  /-- `remove_fes` of its bag; `fails` says whether `epoll` refuses. -/
  | remove (fails : Bool)

/-- What a stand-in does, which has no stand-in itself. -/
def standinAct (e : S) (s : FdBags B S) : SinkAct → FdBags B S
  | .setClosed isClosed => s.setSink e { s.sinks e with isClosed }
  | .remove fails =>
      match (s.sinks e).owner with
      | none => s
      | some b =>
          match s.slotOf b e with
          | none => s
          | some fes => if fails then s else s.dropFes b fes

/-- `remove_fes`. A stand-in is closed, which is `closing`. -/
def removeFes (closing : List SinkAct) (fails : Bool) (s : FdBags B S) (b : B) (f : S) :
    FdBags B S :=
  match s.slotOf b f with
  | none => s
  | some fes =>
      match (s.sinks fes).nonPollableStandin with
      | .none => if fails then s else s.dropFes b fes
      | .errorFes =>
          (s.setSink fes { s.sinks fes with nonPollableStandin := .none }).dropFes b fes
      | .sink e =>
          let s := closing.foldl (standinAct e) s
          (s.setSink fes { s.sinks fes with nonPollableStandin := .none }).dropFes b fes

def detachFes (closing : List SinkAct) (fails : Bool) (s : FdBags B S) (b : B) (f : S) :
    FdBags B S :=
  if (s.sinks f).isClosed then s
  else if (s.sinks f).owner ≠ some b then s
  else if ¬ (s.sinks f).idx < (s.bags b).fesCount then s
  else if (s.bags b).fesv[(s.sinks f).idx]? ≠ some f then s
  else s.removeFes closing fails b f

/-- An operation, made by a callback or by other code. -/
inductive Op (B S : Type) where
  | attach (bag : B) (fes : S) (eventfd : Option S)
  | detach (bag : B) (fes : S) (closing : List SinkAct) (fails : Bool)
  | setClosed (fes : S) (isClosed : Bool)
  /-- The last handle on a sink besides those of bags goes, or another one is made. -/
  | setHeld (fes : S) (isHeld : Bool)
  /-- A sink has itself removed from its bag. -/
  | remove (fes : S) (closing : List SinkAct) (fails : Bool)
  /-- `dispatch_epoll` of these events, in the order of their descriptors. -/
  | dispatch (bag : B) (events : List S)
  /-- `select_absolute`, where `epoll` reports these events, in the order of their descriptors. -/
  | select (bag : B) (events : List S)
  /-- The next round of the innermost dispatch; `ev` says whether anything is left of the event
  under the mask. After the last event the dispatch ends. -/
  | turn (ev : Bool)
  /-- The end of the round: the sink that was called last has returned and, if it failed, has been
  closed. -/
  | ret

/-- The end of `dispatch_epoll`. -/
def finish (s : FdBags B S) (b : B) : FdBags B S :=
  let bag := s.bags b
  s.setBag b { bag with dispatchInProgress := false, fesv := bag.fesv.take bag.fesCount }

/-- The sink of the event that a dispatch takes next. -/
def nextEvent (s : FdBags B S) (d : Dispatching B S) : Option S :=
  if d.i < d.epollEventCount then (d.events.getD (s.bags d.bag).epollScratch)[d.i]? else none

/-- The sink that an event of the bag points to is still there. -/
def Readable (s : FdBags B S) (b : B) (f : S) : Prop :=
  (s.sinks f).isHeld = true ∨ f ∈ (s.bags b).fesv

instance (s : FdBags B S) (b : B) (f : S) : Decidable (s.Readable b f) :=
  inferInstanceAs (Decidable ((s.sinks f).isHeld = true ∨ f ∈ (s.bags b).fesv))

/-- One round of the loop of `dispatch_epoll`. To read a sink that is gone is undefined, which is
`none`. -/
def takeTurn (s : FdBags B S) (d : Dispatching B S) (outer : List (Dispatching B S)) (ev : Bool) :
    Option (FdBags B S) :=
  match s.nextEvent d with
  | none => some { s.finish d.bag with dispatches := outer }
  | some f =>
      let skipped : FdBags B S := { s with dispatches := { d with i := d.i + 1 } :: outer }
      if ¬ s.Readable d.bag f then none
      else if (s.sinks f).owner = none then some skipped
      else if ev = false then some skipped
      else do
        fswAssert ((s.sinks f).owner = some d.bag)
        fswAssert ((s.sinks f).idx < (s.bags d.bag).fesv.length)
        fswAssert ((s.sinks f).isClosed = false)
        return { s with
          dispatches := { d with i := d.i + 1, running := some f } :: outer
          calls := s.calls ++ [(d.bag, f)] }

/-- A failed assertion ends the process, and what is not possible gives `none` as well: an eventfd
that is not new, a sink without a bag that has itself removed, a round while the callbacks of the
round before are running, a round whose sink is gone, a return with nothing running. -/
def step (pollable : S → Bool) (s : FdBags B S) : Op B S → Option (FdBags B S)
  | .attach b f eventfd =>
      if ∀ e ∈ eventfd, pollable e ∧ e ≠ f ∧ (s.sinks e).owner = none ∧
          (s.sinks e).isClosed = false then
        some (s.attachFes pollable b f eventfd)
      else none
  | .detach b f closing fails => some (s.detachFes closing fails b f)
  | .setClosed f isClosed => some (s.setSink f { s.sinks f with isClosed })
  | .setHeld f isHeld => some (s.setSink f { s.sinks f with isHeld })
  | .remove f closing fails => do
      let b ← (s.sinks f).owner
      return s.removeFes closing fails b f
  | .dispatch b events =>
      some { s.setBag b { s.bags b with dispatchInProgress := true } with
        dispatches := ⟨b, some events, events.length, 0, none⟩ :: s.dispatches }
  | .select b events =>
      let epollScratch := events ++ (s.bags b).epollScratch.drop events.length
      some { s.setBag b { s.bags b with epollScratch, dispatchInProgress := true } with
        dispatches := ⟨b, none, events.length, 0, none⟩ :: s.dispatches }
  | .turn ev =>
      match s.dispatches with
      | [] => none
      | d :: outer => if d.running.isSome then none else s.takeTurn d outer ev
  | .ret =>
      match s.dispatches with
      | [] => none
      | d :: outer =>
          if d.running.isSome then
            some { s with dispatches := { d with running := none } :: outer }
          else none

end FdBags

end Codon.Net
