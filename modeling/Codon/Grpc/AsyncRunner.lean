import Codon.Async.DeferredCallbackQueue
import Mathlib.Data.List.AList

/-!
# Requests whose callbacks wait for the response

`register_request` allocates the information of a request, puts the user's callback into a map
under the address of that information, and starts the call with the address as its tag. Before the
dispatcher's `init` nothing is registered. A worker takes the tags of finished calls from gRPC's
completion queue and hands the callbacks that are still active to the queue of the event loop's
thread. An address is free again, and may come back, as soon as no callback holds it. `Sound` is
what holds between the steps of all threads; `every_step_sound` is the step lemma.
-/

namespace Codon.Grpc

open Codon.Library Codon.Async

/-- What a request keeps: its generated id, and the response and status once gRPC has written
them. -/
structure RequestInfo (R : Type) where
  requestId : Nat
  response : Option R

/-- The user's callback of a request, bound to the address of the request's information. -/
structure CallbackWrapper (T : Type) where
  callback : Nat
  info : T

/-- A call of gRPC: the request that it was made for, and its tag. -/
structure RpcCall (T : Type) where
  request : Nat
  tag : T
  deriving DecidableEq

/-- Where the worker thread is. It holds the mutex from `enqueuing` to `erasing`. -/
inductive Worker (T : Type) where
  | waiting
  /-- `Next` has returned the tag. -/
  | returned (tag : T)
  | enqueuing (tag : T) (callback : CallbackWrapper T)
  | signalling (tag : T)
  | erasing (tag : T)

/-- The tag that the worker has taken from the completion queue. -/
def Worker.tag? {T : Type} : Worker T → Option T
  | .waiting => none
  | .returned tag | .enqueuing tag _ | .signalling tag | .erasing tag => some tag

/-- The worker is behind the enqueuing of the tag's callback. -/
def Worker.Finishing {T : Type} (worker : Worker T) (tag : T) : Prop :=
  worker = .signalling tag ∨ worker = .erasing tag

/-- A worker that finishes a call holds its tag. -/
theorem Worker.Finishing.tag_eq {T : Type} {worker : Worker T} {tag : T}
    (h : worker.Finishing tag) : worker.tag? = some tag := by
  obtain rfl | rfl := h <;> rfl

def Worker.holdsMutex {T : Type} : Worker T → Bool
  | .waiting | .returned _ => false
  | .enqueuing _ _ | .signalling _ | .erasing _ => true

/-- How many signals the worker owes to the eventfd. -/
def Worker.owed {T : Type} : Worker T → Nat
  | .signalling _ => 1
  | .waiting | .returned _ | .enqueuing _ _ | .erasing _ => 0

/-- One step of one of the threads, or of gRPC. -/
inductive RunnerAction (T R D : Type) where
  /-- `init`, which starts the worker. -/
  | init
  /-- `add_callback`, with the information of the request allocated at the address. -/
  | addCallback (tag : T)
  /-- `StartCall` and `Finish`. -/
  | startCall (call : RpcCall T)
  /-- gRPC writes the response and puts the tag into the completion queue. -/
  | complete (call : RpcCall T) (response : R) (ok : Bool)
  | next (tag : T) (ok : Bool)
  /-- The worker takes the mutex and looks the tag up. -/
  | find
  | enqueue
  | signal
  | erase
  | removeCallback (tag : T)
  /-- A step of `on_ready` of the event loop's thread. -/
  | onReady (action : Action (CallbackWrapper T ⊕ D))
  /-- Somebody else enqueues a callback, in two halves. -/
  | otherPush (callback : D)
  | otherSignal

/-- The callbacks of requests among those in the queue. -/
def wrappers {T D : Type} (callbacks : List (CallbackWrapper T ⊕ D)) : List (CallbackWrapper T) :=
  callbacks.filterMap Sum.getLeft?

/-- The runner with its dispatcher, the calls that gRPC has, and the queue of the event loop's
thread with the number of other threads that are about to signal it. The last three fields are
the history: the responses by request, the calls of the users' callbacks with what they found in
the information, and the requests that were forgotten. -/
structure AsyncRunner (T R D : Type) where
  isInit : Bool
  infos : T → RequestInfo R
  generated : Nat
  callbacks : AList fun _ : T => CallbackWrapper T × Bool
  starting : List (RpcCall T)
  calls : List (RpcCall T)
  completionQueue : List (T × Bool)
  worker : Worker T
  queue : Deferral (CallbackWrapper T ⊕ D)
  others : Nat
  responses : List (Nat × R)
  called : List (Nat × RequestInfo R)
  forgotten : List Nat

/-- A map has what was put into it. -/
theorem lookup_insert_self {K V : Type} [DecidableEq K] (m : AList fun _ : K => V) (k : K) (v : V) :
    (m.insert k v).lookup k = some v := AList.lookup_insert m

/-- What an insertion into a map finds at a key is the new value or what was there. -/
theorem lookup_of_lookup_insert {K V : Type} [DecidableEq K] {m : AList fun _ : K => V}
    {k k' : K} {v w : V} (h : (m.insert k v).lookup k' = some w) :
    k' = k ∧ w = v ∨ k' ≠ k ∧ m.lookup k' = some w := by
  by_cases heq : k' = k
  · subst heq
    exact .inl ⟨rfl, Option.some.inj (h.symm.trans (lookup_insert_self m k' v))⟩
  · exact .inr ⟨heq, (AList.lookup_insert_ne heq).symm.trans h⟩

namespace AsyncRunner

variable {T R D : Type} [DecidableEq T]

/-- The memory may hold anything before. -/
def start (infos : T → RequestInfo R) : AsyncRunner T R D where
  isInit := false
  infos := infos
  generated := 0
  callbacks := ∅
  starting := []
  calls := []
  completionQueue := []
  worker := .waiting
  queue := .start
  others := 0
  responses := []
  called := []
  forgotten := []

/-- A callback in the map or in the event loop's queue holds the information at the address. -/
def Held (s : AsyncRunner T R D) (tag : T) : Prop :=
  (∃ entry ∈ s.callbacks.entries, entry.2.1.info = tag) ∨
    ∃ callback ∈ wrappers s.queue.queue.pending, callback.info = tag

instance (s : AsyncRunner T R D) (tag : T) : Decidable (s.Held tag) :=
  inferInstanceAs (Decidable (_ ∨ _))

/-- A new information is at the address. -/
def allocate (s : AsyncRunner T R D) (tag : T) : AsyncRunner T R D :=
  { s with infos := Function.update s.infos tag ⟨s.generated, none⟩, generated := s.generated + 1 }

/-- `add_callback` refuses a tag that is in the map. -/
def addCallback (s : AsyncRunner T R D) (callback : CallbackWrapper T) (tag : T) :
    Option (AsyncRunner T R D) :=
  if s.isInit = false then none
  else if tag ∈ s.callbacks then none
  else some { s with callbacks := s.callbacks.insert tag (callback, true) }

/-- `remove_callback` refuses a tag that is not in the map. -/
def removeCallback (s : AsyncRunner T R D) (tag : T) : Option (AsyncRunner T R D) :=
  if s.isInit = false then none
  else
    (s.callbacks.lookup tag).map fun entry =>
      { s with callbacks := s.callbacks.insert tag (entry.1, false)
               forgotten := s.forgotten ++ [entry.1.callback] }

/-- Removing a callback finds it first. -/
theorem remove_callback_eq_some {s s' : AsyncRunner T R D} {tag : T}
    (h : s.removeCallback tag = some s') : ∃ entry, s.callbacks.lookup tag = some entry ∧
      { s with callbacks := s.callbacks.insert tag (entry.1, false)
               forgotten := s.forgotten ++ [entry.1.callback] } = s' :=
  Option.map_eq_some_iff.1 (Option.ite_none_left_eq_some.1 h).2

/-- The worker has the mutex and has looked the tag up. -/
def find (s : AsyncRunner T R D) (tag : T) : AsyncRunner T R D :=
  match s.callbacks.lookup tag with
  | none => { s with worker := .waiting }
  | some (callback, true) => { s with worker := .enqueuing tag callback }
  | some (_, false) => { s with worker := .erasing tag }

/-- What the callbacks of requests find when they are called. -/
def calledWith (s : AsyncRunner T R D) (callbacks : List (CallbackWrapper T ⊕ D)) :
    List (Nat × RequestInfo R) :=
  (wrappers callbacks).map fun callback => (callback.callback, s.infos callback.info)

/-- A step that is not possible where the threads are gives `none`; a request that is refused
leaves nothing but its allocation, and a second `init` nothing. -/
def step (s : AsyncRunner T R D) : RunnerAction T R D → Option (AsyncRunner T R D)
  | .init => some (if s.isInit then s else { s with isInit := true })
  | .addCallback tag =>
      if s.worker.holdsMutex ∨ s.Held tag then none
      else
        let s := s.allocate tag
        let call : RpcCall T := ⟨(s.infos tag).requestId, tag⟩
        some (((s.addCallback ⟨call.request, tag⟩ tag).map fun s =>
          { s with starting := call :: s.starting }).getD s)
  | .startCall call =>
      if call ∈ s.starting then
        some { s with starting := s.starting.erase call, calls := call :: s.calls }
      else none
  | .complete call response ok =>
      if call ∈ s.calls then
        some { s with
          infos := Function.update s.infos call.tag
            { s.infos call.tag with response := some response }
          calls := s.calls.erase call
          completionQueue := (call.tag, ok) :: s.completionQueue
          responses := (call.request, response) :: s.responses }
      else none
  | .next tag ok =>
      match s.worker with
      | .waiting =>
          if s.isInit ∧ (tag, ok) ∈ s.completionQueue then
            some { s with
              completionQueue := s.completionQueue.erase (tag, ok)
              worker := if ok then .returned tag else .waiting }
          else none
      | _ => none
  | .find =>
      match s.worker with
      | .returned tag => some (s.find tag)
      | _ => none
  | .enqueue =>
      match s.worker with
      | .enqueuing tag callback =>
          (s.queue.step (.push (.inl callback))).map fun queue =>
            { s with queue := queue, worker := .signalling tag }
      | _ => none
  | .signal =>
      match s.worker with
      | .signalling tag =>
          (s.queue.step .signal).map fun queue => { s with queue := queue, worker := .erasing tag }
      | _ => none
  | .erase =>
      match s.worker with
      | .erasing tag => some { s with callbacks := s.callbacks.erase tag, worker := .waiting }
      | _ => none
  | .removeCallback tag =>
      if s.worker.holdsMutex then none else some ((s.removeCallback tag).getD s)
  | .onReady action =>
      match action with
      | .push _ | .signal => none
      | .take | .run | .look | .clear =>
          (s.queue.step action).map fun queue =>
            { s with queue := queue
                     called := s.called ++ s.calledWith (s.queue.queue.called action).toList }
  | .otherPush callback =>
      (s.queue.step (.push (.inr callback))).map fun queue =>
        { s with queue := queue, others := s.others + 1 }
  | .otherSignal =>
      if s.others = 0 then none
      else (s.queue.step .signal).map fun queue =>
        { s with queue := queue, others := s.others - 1 }

/-- What a step does, for each kind of step. -/
inductive Stepped (s : AsyncRunner T R D) : RunnerAction T R D → AsyncRunner T R D → Prop where
  | init : Stepped s .init { s with isInit := true }
  | added {tag : T} (hinit : s.isInit = true) (hfree : ¬ s.Held tag) (hnew : tag ∉ s.callbacks) :
      Stepped s (.addCallback tag)
        { s.allocate tag with
          callbacks := s.callbacks.insert tag (⟨s.generated, tag⟩, true)
          starting := ⟨s.generated, tag⟩ :: s.starting }
  | not_added {tag : T} (hfree : ¬ s.Held tag) (hrefused : s.isInit = false ∨ tag ∈ s.callbacks) :
      Stepped s (.addCallback tag) (s.allocate tag)
  | start_call {call : RpcCall T} (hmem : call ∈ s.starting) :
      Stepped s (.startCall call)
        { s with starting := s.starting.erase call, calls := call :: s.calls }
  | complete {call : RpcCall T} {response : R} {ok : Bool} (hmem : call ∈ s.calls) :
      Stepped s (.complete call response ok)
        { s with
          infos := Function.update s.infos call.tag
            { s.infos call.tag with response := some response }
          calls := s.calls.erase call
          completionQueue := (call.tag, ok) :: s.completionQueue
          responses := (call.request, response) :: s.responses }
  | next {tag : T} {ok : Bool} (hinit : s.isInit = true) (hwaiting : s.worker = .waiting)
      (hmem : (tag, ok) ∈ s.completionQueue) :
      Stepped s (.next tag ok)
        { s with
          completionQueue := s.completionQueue.erase (tag, ok)
          worker := if ok then .returned tag else .waiting }
  | find {tag : T} (hworker : s.worker = .returned tag) : Stepped s .find (s.find tag)
  | enqueue {tag : T} {callback : CallbackWrapper T}
      {queue : Deferral (CallbackWrapper T ⊕ D)} (hworker : s.worker = .enqueuing tag callback)
      (hqueue : s.queue.step (.push (.inl callback)) = some queue) :
      Stepped s .enqueue { s with queue := queue, worker := .signalling tag }
  | signal {tag : T} {queue : Deferral (CallbackWrapper T ⊕ D)}
      (hworker : s.worker = .signalling tag) (hqueue : s.queue.step .signal = some queue) :
      Stepped s .signal { s with queue := queue, worker := .erasing tag }
  | erase {tag : T} (hworker : s.worker = .erasing tag) :
      Stepped s .erase { s with callbacks := s.callbacks.erase tag, worker := .waiting }
  | removed {tag : T} {s' : AsyncRunner T R D} (hmutex : s.worker.holdsMutex = false)
      (hremove : s.removeCallback tag = some s') : Stepped s (.removeCallback tag) s'
  | not_removed {tag : T} : Stepped s (.removeCallback tag) s
  | on_ready {action : Action (CallbackWrapper T ⊕ D)}
      {queue : Deferral (CallbackWrapper T ⊕ D)} (hof : action.OfOnReady)
      (hqueue : s.queue.step action = some queue) :
      Stepped s (.onReady action)
        { s with queue := queue
                 called := s.called ++ s.calledWith (s.queue.queue.called action).toList }
  | other_push {callback : D} {queue : Deferral (CallbackWrapper T ⊕ D)}
      (hqueue : s.queue.step (.push (.inr callback)) = some queue) :
      Stepped s (.otherPush callback) { s with queue := queue, others := s.others + 1 }
  | other_signal {queue : Deferral (CallbackWrapper T ⊕ D)} (hothers : 0 < s.others)
      (hqueue : s.queue.step .signal = some queue) :
      Stepped s .otherSignal { s with queue := queue, others := s.others - 1 }

/-- What a step of the runner can do. -/
theorem stepped_of_step {s s' : AsyncRunner T R D} {action : RunnerAction T R D}
    (h : s.step action = some s') : Stepped s action s' := by
  cases action with
  | init =>
      -- a second `init` leaves everything as it is
      have hinit : (if s.isInit then s else { s with isInit := true }) =
          { s with isInit := true } := by
        split
        next htrue =>
          exact congrArg (fun isInit => { s with isInit }) htrue
        next => rfl
      rw [step, hinit] at h
      cases h
      exact .init
  | addCallback tag =>
      obtain ⟨hguard, h⟩ := Option.ite_none_left_eq_some.1 h
      have hfree : ¬ s.Held tag := fun hheld => hguard (.inr hheld)
      -- the new information is the one that its callback is bound to
      have hid : ((s.allocate tag).infos tag).requestId = s.generated :=
        congrArg RequestInfo.requestId (Function.update_self _ _ s.infos)
      dsimp only at h
      rw [hid] at h
      by_cases hrefuses : s.isInit = false ∨ tag ∈ s.callbacks
      · -- the allocation stays, but nothing holds it
        have hrefused : (s.allocate tag).addCallback ⟨s.generated, tag⟩ tag = none := by
          obtain hinit | hmem := hrefuses
          · exact if_pos hinit
          · exact (ite_eq_left_iff.2 fun _ => if_pos hmem)
        rw [hrefused] at h
        cases h
        exact .not_added hfree hrefuses
      · obtain ⟨hinit, hmem⟩ := not_or.1 hrefuses
        have hadded : (s.allocate tag).addCallback ⟨s.generated, tag⟩ tag =
            some { s.allocate tag with
              callbacks := s.callbacks.insert tag (⟨s.generated, tag⟩, true) } :=
          (if_neg hinit).trans (if_neg hmem)
        rw [hadded] at h
        cases h
        exact .added (by simpa using hinit) hfree hmem
  | startCall call =>
      obtain ⟨hmem, h⟩ := Option.ite_none_right_eq_some.1 h
      cases h
      exact .start_call hmem
  | complete call response ok =>
      obtain ⟨hmem, h⟩ := Option.ite_none_right_eq_some.1 h
      cases h
      exact .complete hmem
  | next tag ok =>
      -- the worker steps are possible in one place of its loop each
      cases hworker : s.worker with
      | waiting =>
          simp only [step, hworker] at h
          obtain ⟨hmem, h⟩ := Option.ite_none_right_eq_some.1 h
          cases h
          exact .next hmem.1 hworker hmem.2
      | returned _ | enqueuing _ _ | signalling _ | erasing _ =>
          simp only [step, hworker] at h
          cases h
  | find =>
      cases hworker : s.worker with
      | returned tag =>
          simp only [step, hworker] at h
          cases h
          exact .find hworker
      | waiting | enqueuing _ _ | signalling _ | erasing _ =>
          simp only [step, hworker] at h
          cases h
  | enqueue =>
      cases hworker : s.worker with
      | enqueuing tag callback =>
          simp only [step, hworker] at h
          obtain ⟨queue, hqueue, rfl⟩ := Option.map_eq_some_iff.1 h
          exact .enqueue hworker hqueue
      | waiting | returned _ | signalling _ | erasing _ =>
          simp only [step, hworker] at h
          cases h
  | signal =>
      cases hworker : s.worker with
      | signalling tag =>
          simp only [step, hworker] at h
          obtain ⟨queue, hqueue, rfl⟩ := Option.map_eq_some_iff.1 h
          exact .signal hworker hqueue
      | waiting | returned _ | enqueuing _ _ | erasing _ =>
          simp only [step, hworker] at h
          cases h
  | erase =>
      cases hworker : s.worker with
      | erasing tag =>
          simp only [step, hworker] at h
          cases h
          exact .erase hworker
      | waiting | returned _ | enqueuing _ _ | signalling _ =>
          simp only [step, hworker] at h
          cases h
  | removeCallback tag =>
      -- the worker does not hold the mutex
      obtain ⟨hmutex, h⟩ := Option.ite_none_left_eq_some.1 h
      cases hremove : s.removeCallback tag with
      | none =>
          rw [hremove] at h
          cases h
          exact .not_removed
      | some s'' =>
          rw [hremove] at h
          cases h
          exact .removed (by simpa using hmutex) hremove
  | onReady action =>
      cases action with
      | push _ | signal => cases h
      | take | run | look | clear =>
          obtain ⟨queue, hqueue, rfl⟩ := Option.map_eq_some_iff.1 h
          exact .on_ready trivial hqueue
  | otherPush callback =>
      obtain ⟨queue, hqueue, rfl⟩ := Option.map_eq_some_iff.1 h
      exact .other_push hqueue
  | otherSignal =>
      obtain ⟨hothers, h⟩ := Option.ite_none_left_eq_some.1 h
      obtain ⟨queue, hqueue, rfl⟩ := Option.map_eq_some_iff.1 h
      exact .other_signal (Nat.pos_of_ne_zero hothers) hqueue

/-- The requests whose callbacks were put into the event loop's queue. -/
def enqueued (s : AsyncRunner T R D) : List Nat :=
  (wrappers s.queue.pushed).map CallbackWrapper.callback

/-- The tags of the requests that are on their way from `add_callback` to the worker's `erase`. -/
def tags (s : AsyncRunner T R D) : List T :=
  s.starting.map RpcCall.tag ++ s.calls.map RpcCall.tag ++ s.completionQueue.map Prod.fst ++
    s.worker.tag?.toList

/-- The information at the address is that of the request, with its response. -/
def Answered (s : AsyncRunner T R D) (request : Nat) (info : RequestInfo R) : Prop :=
  info.requestId = request ∧ ∃ r, info.response = some r ∧ (request, r) ∈ s.responses

/-- What holds of an entry of the map. -/
structure EntrySound (s : AsyncRunner T R D) (tag : T) (callback : CallbackWrapper T)
    (active : Bool) : Prop where
  info : callback.info = tag
  request_id : (s.infos tag).requestId = callback.callback
  generated : callback.callback < s.generated
  enqueued : callback.callback ∈ s.enqueued → s.worker.Finishing tag
  inactive : active = false ↔ callback.callback ∈ s.forgotten
  unique {tag' : T} {callback' : CallbackWrapper T} {active' : Bool}
    (h : s.callbacks.lookup tag' = some (callback', active'))
    (heq : callback'.callback = callback.callback) : tag' = tag

/-- What holds between the steps. -/
structure Sound (s : AsyncRunner T R D) : Prop where
  queue : s.queue.Sound
  owed : s.queue.queue.signalling = s.others + s.worker.owed
  tags_nodup : s.tags.Nodup
  entry {tag : T} {callback : CallbackWrapper T} {active : Bool}
    (h : s.callbacks.lookup tag = some (callback, active)) : s.EntrySound tag callback active
  calls {call : RpcCall T} (h : call ∈ s.starting ∨ call ∈ s.calls) :
    (∃ active, s.callbacks.lookup call.tag = some (⟨call.request, call.tag⟩, active)) ∧
      call.request ∉ s.responses.map Prod.fst
  completed {tag : T} (h : tag ∈ s.completionQueue.map Prod.fst ∨ s.worker.tag? = some tag) :
    tag ∈ s.callbacks ∧ s.Answered (s.infos tag).requestId (s.infos tag)
  enqueuing {tag : T} {callback : CallbackWrapper T} (h : s.worker = .enqueuing tag callback) :
    s.callbacks.lookup tag = some (callback, true)
  enqueued_nodup : s.enqueued.Nodup
  enqueued_lt {request : Nat} (h : request ∈ s.enqueued) : request < s.generated
  pending {callback : CallbackWrapper T} (h : callback ∈ wrappers s.queue.queue.pending) :
    s.Answered callback.callback (s.infos callback.info)
  responses_nodup : (s.responses.map Prod.fst).Nodup
  responses_lt {request : Nat} (h : request ∈ s.responses.map Prod.fst) : request < s.generated
  forgotten {request : Nat} (h : request ∈ s.forgotten) :
    request < s.generated ∧ request ∉ s.enqueued
  called_ran : s.called.map Prod.fst = (wrappers s.queue.ran).map CallbackWrapper.callback
  called {request : Nat} {info : RequestInfo R} (h : (request, info) ∈ s.called) :
    s.Answered request info

/-- A runner just constructed is sound. -/
theorem start_sound (infos : T → RequestInfo R) : (start infos : AsyncRunner T R D).Sound where
  queue := Deferral.start_sound
  owed := rfl
  tags_nodup := List.nodup_nil
  entry h := by cases h
  calls h := by cases h <;> contradiction
  completed h := by cases h <;> contradiction
  enqueuing h := by cases h
  enqueued_nodup := List.nodup_nil
  enqueued_lt h := by cases h
  pending h := by cases h
  responses_nodup := List.nodup_nil
  responses_lt h := by cases h
  forgotten h := by cases h
  called_ran := rfl
  called h := by cases h

variable {s s' : AsyncRunner T R D} {tag : T} {callback : CallbackWrapper T} {call : RpcCall T}

/-- A tag that no callback holds is not in the map. -/
theorem Sound.not_mem_of_not_held (h : s.Sound) (hfree : ¬ s.Held tag) : tag ∉ s.callbacks := by
  intro hmem
  obtain ⟨⟨callback, active⟩, hlookup⟩ := Option.isSome_iff_exists.1 (AList.lookup_isSome.2 hmem)
  exact hfree (.inl ⟨_, AList.mem_lookup_iff.1 hlookup, (h.entry hlookup).info⟩)

/-- `add_callback` accepts the address of a new information. -/
theorem Sound.add_callback_eq (h : s.Sound) (hinit : s.isInit = true) (hfree : ¬ s.Held tag) :
    (s.allocate tag).addCallback callback tag =
      some { s.allocate tag with callbacks := s.callbacks.insert tag (callback, true) } := by
  have hready : ¬ (s.allocate tag).isInit = false := by simp [allocate, hinit]
  exact (if_neg hready).trans (if_neg (h.not_mem_of_not_held hfree))

/-- The tag of every request on its way is in the map. -/
theorem Sound.mem_of_mem_tags (h : s.Sound) (hmem : tag ∈ s.tags) : tag ∈ s.callbacks := by
  simp only [tags, List.mem_append, List.mem_map, Option.mem_toList] at hmem
  obtain ((⟨call, hcall, rfl⟩ | ⟨call, hcall, rfl⟩) | hevent) | hworker := hmem
  · obtain ⟨⟨active, hlookup⟩, -⟩ := h.calls (.inl hcall)
    exact AList.lookup_isSome.1 (Option.isSome_of_eq_some hlookup)
  · obtain ⟨⟨active, hlookup⟩, -⟩ := h.calls (.inr hcall)
    exact AList.lookup_isSome.1 (Option.isSome_of_eq_some hlookup)
  · exact (h.completed (.inl (List.mem_map.2 hevent))).1
  · exact (h.completed (.inr hworker)).1

omit [DecidableEq T] in
/-- A pending callback holds its information. -/
theorem held_of_pending (h : callback ∈ wrappers s.queue.queue.pending) : s.Held callback.info :=
  .inr ⟨callback, h, rfl⟩

/-- A new information is allocated, at an address that is not held. -/
theorem Sound.allocate (h : s.Sound) (hfree : ¬ s.Held tag) : (s.allocate tag).Sound := by
  have hnew : tag ∉ s.callbacks := h.not_mem_of_not_held hfree
  have hkept {tag' : T} (hne : tag' ≠ tag) : (s.allocate tag).infos tag' = s.infos tag' :=
    Function.update_of_ne hne ..
  have hother {tag' : T} (hmem : tag' ∈ s.callbacks) : tag' ≠ tag := by
    rintro rfl
    exact hnew hmem
  refine { h with entry := fun hlookup => ?_, completed := fun htag' => ?_,
                  enqueued_lt := fun hmem => Nat.lt_succ_of_lt (h.enqueued_lt hmem),
                  pending := fun hmem => ?_,
                  responses_lt := fun hmem => Nat.lt_succ_of_lt (h.responses_lt hmem),
                  forgotten := fun hmem => ?_ }
  · have hentry := h.entry hlookup
    have hin := AList.lookup_isSome.1 (Option.isSome_of_eq_some hlookup)
    refine ⟨hentry.info, ?_, Nat.lt_succ_of_lt hentry.generated, hentry.enqueued,
      hentry.inactive, hentry.unique⟩
    exact (congrArg RequestInfo.requestId (hkept (hother hin))).trans hentry.request_id
  · obtain ⟨hmem, hanswered⟩ := h.completed htag'
    refine ⟨hmem, ?_⟩
    rw [hkept (hother hmem)]
    exact hanswered
  · rename_i callback
    have hne : callback.info ≠ tag := fun heq => hfree (heq ▸ held_of_pending hmem)
    rw [hkept hne]
    exact h.pending hmem
  · exact ⟨Nat.lt_succ_of_lt (h.forgotten hmem).1, (h.forgotten hmem).2⟩

/-- `add_callback` for a new information, whose address is not held. -/
theorem Sound.add_callback (h : s.Sound) (hfree : ¬ s.Held tag) :
    ({ s.allocate tag with
        callbacks := s.callbacks.insert tag (⟨s.generated, tag⟩, true)
        starting := ⟨s.generated, tag⟩ :: s.starting } : AsyncRunner T R D).Sound := by
  have hnew : tag ∉ s.callbacks := h.not_mem_of_not_held hfree
  -- the address is new, so no entry of the map is lost
  have hold {tag' : T} {entry : CallbackWrapper T × Bool}
      (hlookup : s.callbacks.lookup tag' = some entry) : tag' ≠ tag := by
    rintro rfl
    exact hnew (AList.lookup_isSome.1 (Option.isSome_of_eq_some hlookup))
  have hallocated := h.allocate hfree
  refine { hallocated with tags_nodup := ?_, entry := ?_, calls := ?_, completed := ?_,
                           enqueuing := ?_ }
  · exact List.nodup_cons.2 ⟨fun hmem => hnew (h.mem_of_mem_tags hmem), h.tags_nodup⟩
  · intro tag' callback active hlookup
    obtain ⟨rfl, hnewentry⟩ | ⟨hne, hlookup⟩ := lookup_of_lookup_insert hlookup
    · cases hnewentry
      refine ⟨rfl, ?_, Nat.lt_succ_self _, fun hmem => ?_, ?_, fun hlookup' heq => ?_⟩
      · exact congrArg RequestInfo.requestId (Function.update_self _ _ s.infos)
      · exact absurd (h.enqueued_lt hmem) (Nat.lt_irrefl _)
      · exact iff_of_false (by simp) fun hmem => Nat.lt_irrefl _ (h.forgotten hmem).1
      · obtain ⟨hsame, -⟩ | ⟨-, hlookup'⟩ := lookup_of_lookup_insert hlookup'
        · exact hsame
        · -- the id of the request is greater than all before
          exact absurd heq (Nat.ne_of_lt (h.entry hlookup').generated)
    · have hentry := hallocated.entry hlookup
      refine ⟨hentry.info, hentry.request_id, hentry.generated, hentry.enqueued,
        hentry.inactive, fun hlookup' heq => ?_⟩
      obtain ⟨-, hnewentry⟩ | ⟨-, hlookup'⟩ := lookup_of_lookup_insert hlookup'
      · cases hnewentry
        exact absurd heq.symm (Nat.ne_of_lt (h.entry hlookup).generated)
      · exact hentry.unique hlookup' heq
  · intro call hcall
    by_cases hnewcall : call = ⟨s.generated, tag⟩
    · subst hnewcall
      refine ⟨⟨true, lookup_insert_self s.callbacks _ _⟩, fun hmem => ?_⟩
      exact Nat.lt_irrefl _ (h.responses_lt hmem)
    · have hcall : call ∈ s.starting ∨ call ∈ s.calls :=
        hcall.imp_left fun hmem => (List.mem_cons.1 hmem).resolve_left hnewcall
      obtain ⟨⟨active, hlookup⟩, hresponses⟩ := h.calls hcall
      exact ⟨⟨active, (AList.lookup_insert_ne (hold hlookup)).trans hlookup⟩, hresponses⟩
  · intro tag' htag'
    obtain ⟨hmem, hanswered⟩ := hallocated.completed htag'
    exact ⟨(AList.mem_insert _).2 (.inr hmem), hanswered⟩
  · intro tag' callback hworker
    have hlookup := h.enqueuing hworker
    exact (AList.lookup_insert_ne (hold hlookup)).trans hlookup

/-- `StartCall` and `Finish` move the call. -/
theorem Sound.start_call (h : s.Sound) (hmem : call ∈ s.starting) :
    ({ s with starting := s.starting.erase call
              calls := call :: s.calls } : AsyncRunner T R D).Sound := by
  have hperm : ((s.starting.erase call).map RpcCall.tag ++ (call :: s.calls).map RpcCall.tag).Perm
      (s.starting.map RpcCall.tag ++ s.calls.map RpcCall.tag) := by
    rw [List.map_cons]
    refine List.perm_middle.trans ?_
    exact ((List.perm_cons_erase hmem).map RpcCall.tag).symm.append_right _
  refine { h with tags_nodup := ?_, calls := ?_, entry := fun hlookup => ?_ }
  · exact ((hperm.append_right _).append_right _).nodup_iff.2 h.tags_nodup
  · obtain ⟨hinfo, hid, hgenerated, henqueued, hinactive, hunique⟩ := h.entry hlookup
    exact ⟨hinfo, hid, hgenerated, henqueued, hinactive, hunique⟩
  · intro other hother
    refine h.calls ?_
    obtain hstarting | hcalls := hother
    · exact .inl (List.mem_of_mem_erase hstarting)
    · obtain rfl | hcalls := List.mem_cons.1 hcalls
      · exact .inl hmem
      · exact .inr hcalls

/-- The tag of a call that has not finished is neither in the completion queue nor with the
worker. -/
theorem Sound.tag_of_call (h : s.Sound) (hmem : call ∈ s.calls) :
    call.tag ∉ s.completionQueue.map Prod.fst ∧ s.worker.tag? ≠ some call.tag := by
  have hcall : call.tag ∈ s.starting.map RpcCall.tag ++ s.calls.map RpcCall.tag :=
    List.mem_append_right _ (List.mem_map_of_mem hmem)
  have hnodup := h.tags_nodup
  simp only [tags, List.append_assoc] at hnodup
  rw [← List.append_assoc] at hnodup
  have hdisjoint := List.disjoint_of_nodup_append hnodup hcall
  constructor
  · intro hevent
    exact hdisjoint (List.mem_append_left _ hevent)
  · intro hworker
    exact hdisjoint (List.mem_append_right _ (by simp [hworker]))

/-- No pending callback holds the information of a call that has not finished. -/
theorem Sound.pending_of_call (h : s.Sound) (hmem : call ∈ s.calls)
    (hpending : callback ∈ wrappers s.queue.queue.pending) : callback.info ≠ call.tag := by
  intro heq
  obtain ⟨⟨active, hlookup⟩, -⟩ := h.calls (.inr hmem)
  have hentry := h.entry hlookup
  have henqueued : callback.callback ∈ s.enqueued := by
    rw [enqueued, h.queue.fifo, wrappers, List.filterMap_append, List.map_append]
    exact List.mem_append_right _ (List.mem_map_of_mem hpending)
  have hid : callback.callback = call.request :=
    (h.pending hpending).1.symm.trans (heq ▸ hentry.request_id)
  have hfinishing : s.worker.Finishing call.tag := hentry.enqueued (hid ▸ henqueued)
  exact (h.tag_of_call hmem).2 hfinishing.tag_eq

/-- gRPC writes the response into the information of the call and reports the tag. -/
theorem Sound.complete (h : s.Sound) (hmem : call ∈ s.calls) (response : R) (ok : Bool) :
    ({ s with
        infos := Function.update s.infos call.tag
          { s.infos call.tag with response := some response }
        calls := s.calls.erase call
        completionQueue := (call.tag, ok) :: s.completionQueue
        responses := (call.request, response) :: s.responses } : AsyncRunner T R D).Sound := by
  obtain ⟨⟨active, hlookup⟩, hfresh⟩ := h.calls (.inr hmem)
  have hentry := h.entry hlookup
  have hid (tag : T) : (Function.update s.infos call.tag
      { s.infos call.tag with response := some response } tag).requestId =
        (s.infos tag).requestId := by
    by_cases heq : tag = call.tag
    · subst heq
      rw [Function.update_self]
    · rw [Function.update_of_ne heq]
  have hmono {request : Nat} {info : RequestInfo R} (hanswered : s.Answered request info) :
      ∃ r, info.response = some r ∧ (request, r) ∈ (call.request, response) :: s.responses := by
    obtain ⟨-, r, hr, hin⟩ := hanswered
    exact ⟨r, hr, List.mem_cons_of_mem _ hin⟩
  have hperm : (s.starting.map RpcCall.tag ++ (s.calls.erase call).map RpcCall.tag ++
      ((call.tag, ok) :: s.completionQueue).map Prod.fst ++ s.worker.tag?.toList).Perm s.tags := by
    rw [tags, List.map_cons]
    refine List.Perm.append_right _ (List.perm_middle.trans ?_)
    rw [← List.cons_append]
    refine List.Perm.append_right _ (List.perm_middle.symm.trans (List.Perm.append_left _ ?_))
    exact ((List.perm_cons_erase hmem).map RpcCall.tag).symm
  refine { h with tags_nodup := hperm.nodup_iff.2 h.tags_nodup, entry := fun hlookup' => ?_,
                  calls := ?_, completed := ?_, pending := ?_, responses_nodup := ?_,
                  responses_lt := ?_, called := ?_ }
  · obtain ⟨hinfo, hid', hgenerated, henqueued, hinactive, hunique⟩ := h.entry hlookup'
    exact ⟨hinfo, (hid _).trans hid', hgenerated, henqueued, hinactive, hunique⟩
  · intro other hother
    have hold : other ∈ s.starting ∨ other ∈ s.calls := hother.imp_right List.mem_of_mem_erase
    obtain ⟨⟨active', hlookup'⟩, hfresh'⟩ := h.calls hold
    refine ⟨⟨active', hlookup'⟩, fun hin => ?_⟩
    obtain heq | hin := List.mem_cons.1 hin
    · -- two requests on their way differ in their tags
      have hnodup := hperm.nodup_iff.2 h.tags_nodup
      rw [List.append_assoc, List.map_cons] at hnodup
      refine List.disjoint_of_nodup_append hnodup (a := call.tag) ?_ List.mem_cons_self
      rw [← hentry.unique hlookup' heq]
      obtain hstarting | hcalls := hother
      · exact List.mem_append_left _ (List.mem_map_of_mem hstarting)
      · exact List.mem_append_right _ (List.mem_map_of_mem hcalls)
    · exact hfresh' hin
  · intro tag' htag'
    by_cases heq : tag' = call.tag
    · subst heq
      refine ⟨AList.lookup_isSome.1 (Option.isSome_of_eq_some hlookup), rfl, response, ?_, ?_⟩
      · exact congrArg RequestInfo.response (Function.update_self _ _ s.infos)
      · rw [hid, hentry.request_id]
        exact List.mem_cons_self
    · have hold : tag' ∈ s.completionQueue.map Prod.fst ∨ s.worker.tag? = some tag' :=
        htag'.imp_left fun hin => (List.mem_cons.1 hin).resolve_left heq
      obtain ⟨hin, hanswered⟩ := h.completed hold
      refine ⟨hin, rfl, ?_⟩
      show ∃ r, (Function.update s.infos call.tag _ tag').response = some r ∧
        ((Function.update s.infos call.tag _ tag').requestId, r) ∈ _
      rw [Function.update_of_ne heq]
      exact hmono hanswered
  · intro callback hpending
    have hne := h.pending_of_call hmem hpending
    have hanswered := h.pending hpending
    refine ⟨(hid _).trans hanswered.1, ?_⟩
    show ∃ r, (Function.update s.infos call.tag _ callback.info).response = some r ∧ _
    rw [Function.update_of_ne hne]
    exact hmono hanswered
  · exact List.nodup_cons.2 ⟨hfresh, h.responses_nodup⟩
  · intro request hin
    obtain rfl | hin := List.mem_cons.1 hin
    · exact hentry.generated
    · exact h.responses_lt hin
  · intro request info hin
    exact ⟨(h.called hin).1, hmono (h.called hin)⟩

/-- The tag that the worker has is not that of a request on its way to it. -/
theorem Sound.tag_of_worker (h : s.Sound) (hworker : s.worker.tag? = some tag) :
    tag ∉ s.completionQueue.map Prod.fst ∧
      ∀ call, call ∈ s.starting ∨ call ∈ s.calls → call.tag ≠ tag := by
  have hdisjoint := List.disjoint_of_nodup_append h.tags_nodup
  have hlast : tag ∈ s.worker.tag?.toList := by simp [hworker]
  refine ⟨fun hevent => hdisjoint (List.mem_append_right _ hevent) hlast, fun call hcall => ?_⟩
  rintro rfl
  refine hdisjoint (List.mem_append_left _ ?_) hlast
  obtain hstarting | hcalls := hcall
  · exact List.mem_append_left _ (List.mem_map_of_mem hstarting)
  · exact List.mem_append_right _ (List.mem_map_of_mem hcalls)

/-- Before the worker has enqueued anything, nothing in the map was enqueued. -/
theorem EntrySound.not_enqueued {active : Bool} (h : s.EntrySound tag callback active)
    (hworker : ¬ s.worker.Finishing tag) : callback.callback ∉ s.enqueued :=
  fun henqueued => hworker (h.enqueued henqueued)

/-- `Next` returns an event; one that is not ok is dropped. -/
theorem Sound.next (h : s.Sound) {ok : Bool} (hwaiting : s.worker = .waiting)
    (hmem : (tag, ok) ∈ s.completionQueue) :
    ({ s with
        completionQueue := s.completionQueue.erase (tag, ok)
        worker := if ok then .returned tag else .waiting } : AsyncRunner T R D).Sound := by
  have hidle (tag : T) : ¬ s.worker.Finishing tag := by simp [Worker.Finishing, hwaiting]
  have htag : tag ∈ s.completionQueue.map Prod.fst := List.mem_map_of_mem hmem
  have hsub : ((s.completionQueue.erase (tag, ok)).map Prod.fst ++
      (if ok then Worker.returned tag else .waiting).tag?.toList).Subperm
        (s.completionQueue.map Prod.fst ++ s.worker.tag?.toList) := by
    have hperm := (List.perm_cons_erase hmem).map Prod.fst
    rw [hwaiting, show (Worker.waiting : Worker T).tag?.toList = [] from rfl, List.append_nil]
    cases ok with
    | true => exact ((List.perm_append_singleton _ _).trans hperm.symm).subperm
    | false =>
        rw [if_neg Bool.false_ne_true, show (Worker.waiting : Worker T).tag?.toList = [] from rfl,
          List.append_nil]
        exact (List.sublist_cons_self _ _).subperm.trans hperm.symm.subperm
  refine { h with owed := ?_, tags_nodup := ?_, entry := fun hlookup => ?_,
                  completed := fun htag' => h.completed (.inl ?_), enqueuing := fun hworker => ?_ }
  · rw [h.owed, hwaiting]
    cases ok <;> rfl
  · have hnodup := h.tags_nodup
    rw [tags, List.append_assoc] at hnodup ⊢
    obtain ⟨tags, hperm, hsublist⟩ := (List.subperm_append_left _).2 hsub
    exact hperm.nodup_iff.1 (hnodup.sublist hsublist)
  · have hentry := h.entry hlookup
    obtain ⟨hinfo, hid, hgenerated, henqueued, hinactive, hunique⟩ := hentry
    exact ⟨hinfo, hid, hgenerated, fun hin => absurd (henqueued hin) (hidle _), hinactive, hunique⟩
  · obtain hevent | hworker := htag'
    · exact ((List.erase_sublist).map Prod.fst).subset hevent
    · cases ok with
      | true => exact Option.some.inj hworker ▸ htag
      | false => cases hworker
  · cases ok <;> cases hworker

/-- The worker moves on, or the queue changes without a request's callback, and nothing else
changes. -/
theorem Sound.moved (h : s.Sound) {queue : Deferral (CallbackWrapper T ⊕ D)} {others : Nat}
    {worker : Worker T} (hqueue : queue.Sound)
    (hpushed : wrappers queue.pushed = wrappers s.queue.pushed)
    (hran : wrappers queue.ran = wrappers s.queue.ran)
    (hpending : wrappers queue.queue.pending = wrappers s.queue.queue.pending)
    (howed : queue.queue.signalling = others + worker.owed) (htag : worker.tag? = s.worker.tag?)
    (hfinishing : ∀ tag, s.worker.Finishing tag → worker.Finishing tag)
    (henqueuing : ∀ tag callback, worker = .enqueuing tag callback →
      s.callbacks.lookup tag = some (callback, true)) :
    ({ s with queue := queue, others := others, worker := worker } : AsyncRunner T R D).Sound := by
  have henqueued : (wrappers queue.pushed).map CallbackWrapper.callback = s.enqueued := by
    rw [hpushed]
    rfl
  refine { h with queue := hqueue, owed := howed, tags_nodup := ?_, entry := fun hlookup => ?_,
                  completed := fun {tag'} htag' => h.completed (htag ▸ htag'),
                  enqueuing := henqueuing _ _, enqueued_nodup := ?_, enqueued_lt := ?_,
                  pending := ?_, forgotten := ?_, called_ran := ?_ }
  · show (_ ++ worker.tag?.toList).Nodup
    rw [htag]
    exact h.tags_nodup
  · obtain ⟨hinfo, hid, hgenerated, hwas, hinactive, hunique⟩ := h.entry hlookup
    refine ⟨hinfo, hid, hgenerated, fun hin => hfinishing _ (hwas ?_), hinactive, hunique⟩
    exact henqueued ▸ hin
  · show ((wrappers queue.pushed).map CallbackWrapper.callback).Nodup
    rw [henqueued]
    exact h.enqueued_nodup
  · show ∀ {request : Nat}, request ∈ (wrappers queue.pushed).map CallbackWrapper.callback → _
    rw [henqueued]
    exact h.enqueued_lt
  · show ∀ {callback : CallbackWrapper T}, callback ∈ wrappers queue.queue.pending → _
    rw [hpending]
    exact h.pending
  · intro request hin
    refine ⟨(h.forgotten hin).1, ?_⟩
    show request ∉ (wrappers queue.pushed).map CallbackWrapper.callback
    rw [henqueued]
    exact (h.forgotten hin).2
  · show s.called.map Prod.fst = (wrappers queue.ran).map CallbackWrapper.callback
    rw [hran]
    exact h.called_ran

/-- The worker finds the tag that it has taken, and does not enqueue a callback that was
removed. -/
theorem Sound.find (h : s.Sound) (hworker : s.worker = .returned tag) :
    (s.find tag).Sound ∧ s.callbacks.lookup tag ≠ none := by
  have hidle (tag' : T) : ¬ s.worker.Finishing tag' := by simp [Worker.Finishing, hworker]
  have hmem : tag ∈ s.callbacks := (h.completed (.inr (by rw [hworker]; rfl))).1
  have howed : s.queue.queue.signalling = s.others + 0 := by
    rw [h.owed, hworker]
    rfl
  obtain ⟨⟨callback, active⟩, hlookup⟩ := Option.isSome_iff_exists.1 (AList.lookup_isSome.2 hmem)
  refine ⟨?_, by simp [hlookup]⟩
  cases active with
  | true =>
      have hfind : s.find tag = { s with worker := .enqueuing tag callback } := by
        rw [AsyncRunner.find, hlookup]
      rw [hfind]
      refine h.moved h.queue rfl rfl rfl howed (by rw [hworker]; rfl)
        (fun tag' hfinishing => absurd hfinishing (hidle tag')) fun tag' callback' heq => ?_
      cases heq
      exact hlookup
  | false =>
      have hfind : s.find tag = { s with worker := .erasing tag } := by
        rw [AsyncRunner.find, hlookup]
      rw [hfind]
      refine h.moved h.queue rfl rfl rfl howed (by rw [hworker]; rfl)
        (fun tag' hfinishing => absurd hfinishing (hidle tag')) fun tag' callback' heq => ?_
      cases heq

/-- The wrappers in two parts of a queue. -/
theorem wrappers_append {T D : Type} (callbacks callbacks' : List (CallbackWrapper T ⊕ D)) :
    wrappers (callbacks ++ callbacks') = wrappers callbacks ++ wrappers callbacks' :=
  List.filterMap_append

/-- The worker hands a callback to the event loop's thread. -/
theorem Sound.enqueue (h : s.Sound) {queue : Deferral (CallbackWrapper T ⊕ D)}
    (hworker : s.worker = .enqueuing tag callback)
    (hstep : s.queue.step (.push (.inl callback)) = some queue) :
    ({ s with queue := queue, worker := .signalling tag } : AsyncRunner T R D).Sound := by
  have hidle (tag' : T) : ¬ s.worker.Finishing tag' := by simp [Worker.Finishing, hworker]
  have hlookup := h.enqueuing hworker
  have hentry := h.entry hlookup
  have hfresh : callback.callback ∉ s.enqueued := hentry.not_enqueued (hidle tag)
  obtain ⟨hpushed, hran, hpending, hsignalling⟩ := Deferral.pushed_of_push hstep
  have henqueued : (wrappers queue.pushed).map CallbackWrapper.callback =
      s.enqueued ++ [callback.callback] := by
    rw [hpushed, wrappers_append, List.map_append]
    rfl
  have hin {request : Nat}
      (hmem : request ∈ (wrappers queue.pushed).map CallbackWrapper.callback) :
      request ∈ s.enqueued ∨ request = callback.callback := by
    rw [henqueued] at hmem
    simpa using hmem
  refine { h with queue := h.queue.step hstep, owed := ?_, tags_nodup := ?_,
                  entry := fun hlookup' => ?_, completed := fun htag' => ?_,
                  enqueuing := fun heq => ?_, enqueued_nodup := ?_,
                  enqueued_lt := fun hmem => ?_, pending := fun hmem => ?_,
                  forgotten := fun hforgotten => ⟨(h.forgotten hforgotten).1, fun hmem => ?_⟩,
                  called_ran := ?_ }
  · have howed := h.owed
    rw [hworker] at howed
    show queue.queue.signalling = s.others + 1
    rw [hsignalling, howed]
    rfl
  · have hnodup := h.tags_nodup
    rw [tags, hworker] at hnodup
    exact hnodup
  · obtain ⟨hinfo, hid, hgenerated, hwas, hinactive, hunique⟩ := h.entry hlookup'
    refine ⟨hinfo, hid, hgenerated, fun hmem => ?_, hinactive, hunique⟩
    obtain hmem | heq := hin hmem
    · exact absurd (hwas hmem) (hidle _)
    · exact .inl (congrArg Worker.signalling (hentry.unique hlookup' heq).symm)
  · refine h.completed (htag'.imp_right fun heq => ?_)
    rw [hworker]
    exact heq
  · cases heq
  · show ((wrappers queue.pushed).map CallbackWrapper.callback).Nodup
    rw [henqueued]
    exact (List.perm_append_singleton _ _).nodup_iff.2 (List.nodup_cons.2
      ⟨hfresh, h.enqueued_nodup⟩)
  · obtain hmem | rfl := hin hmem
    · exact h.enqueued_lt hmem
    · exact hentry.generated
  · have hmem : _ ∈ wrappers queue.queue.pending := hmem
    rw [hpending, wrappers_append] at hmem
    obtain hmem | hmem := List.mem_append.1 hmem
    · exact h.pending hmem
    · -- the worker has the tag because the call has finished
      obtain rfl := List.mem_singleton.1 hmem
      have hanswered := (h.completed (.inr (by rw [hworker]; rfl : s.worker.tag? = some tag))).2
      rw [hentry.request_id] at hanswered
      rw [hentry.info]
      exact hanswered
  · obtain hmem | rfl := hin hmem
    · exact (h.forgotten hforgotten).2 hmem
    · cases hentry.inactive.2 hforgotten
  · show s.called.map Prod.fst = (wrappers queue.ran).map CallbackWrapper.callback
    rw [hran]
    exact h.called_ran

/-- The worker erases the entry and lets go of the mutex. -/
theorem Sound.erase (h : s.Sound) (hworker : s.worker = .erasing tag) :
    ({ s with callbacks := s.callbacks.erase tag, worker := .waiting } :
      AsyncRunner T R D).Sound := by
  have htag : s.worker.tag? = some tag := by
    rw [hworker]
    rfl
  obtain ⟨hevents, hcalls⟩ := h.tag_of_worker htag
  -- the other entries stay
  have hlookup {tag' : T} {entry : CallbackWrapper T × Bool}
      (hin : (s.callbacks.erase tag).lookup tag' = some entry) :
      tag' ≠ tag ∧ s.callbacks.lookup tag' = some entry := by
    have hne : tag' ≠ tag := by
      rintro rfl
      cases (AList.lookup_erase _ s.callbacks).symm.trans hin
    exact ⟨hne, (AList.lookup_erase_ne hne).symm.trans hin⟩
  refine { h with owed := ?_, tags_nodup := ?_, entry := fun hin => ?_, calls := fun hcall => ?_,
                  completed := fun htag' => ?_, enqueuing := fun heq => ?_ }
  · rw [h.owed, hworker]
    rfl
  · exact h.tags_nodup.sublist (List.Sublist.append_left (List.nil_sublist _) _)
  · obtain ⟨hne, hin⟩ := hlookup hin
    obtain ⟨hinfo, hid, hgenerated, hwas, hinactive, hunique⟩ := h.entry hin
    refine ⟨hinfo, hid, hgenerated, fun hmem => ?_, hinactive, fun hin' => hunique (hlookup hin').2⟩
    have htag' := (hwas hmem).tag_eq
    rw [hworker] at htag'
    exact absurd (Option.some.inj htag').symm hne
  · obtain ⟨⟨active, hin⟩, hresponses⟩ := h.calls hcall
    exact ⟨⟨active, (AList.lookup_erase_ne (hcalls _ hcall)).trans hin⟩, hresponses⟩
  · obtain hevent | hnone := htag'
    · obtain ⟨hin, hanswered⟩ := h.completed (.inl hevent)
      refine ⟨AList.mem_erase.2 ⟨?_, hin⟩, hanswered⟩
      rintro rfl
      exact hevents hevent
    · cases hnone
  · cases heq

/-- `remove_callback` finds the tag. -/
theorem Sound.remove_callback (h : s.Sound) (hmutex : s.worker.holdsMutex = false)
    (hremove : s.removeCallback tag = some s') : s'.Sound := by
  obtain ⟨⟨callback, active⟩, hlookup, rfl⟩ := remove_callback_eq_some hremove
  -- the worker holds the mutex while it finishes, so it is not in there now
  have hidle (tag' : T) : ¬ s.worker.Finishing tag' := by
    rintro (heq | heq) <;> rw [heq] at hmutex <;> cases hmutex
  have hentry := h.entry hlookup
  have hfresh : callback.callback ∉ s.enqueued := hentry.not_enqueued (hidle tag)
  -- the entry stays in the map, as one that is not active
  refine { h with entry := fun hin => ?_, calls := fun {call} hcall => ?_,
                  completed := fun htag' => ?_, enqueuing := fun heq => ?_,
                  forgotten := fun hin => ?_ }
  · have hunique' {tag' tag'' : T} {callback' callback'' : CallbackWrapper T} {active'' : Bool}
        (hold : ∀ {tag'' : T} {callback'' : CallbackWrapper T} {active'' : Bool},
          s.callbacks.lookup tag'' = some (callback'', active'') →
            callback''.callback = callback'.callback → tag'' = tag')
        (hin' : (s.callbacks.insert tag (callback, false)).lookup tag'' =
          some (callback'', active'')) (heq : callback''.callback = callback'.callback) :
        tag'' = tag' := by
      obtain ⟨rfl, hnew⟩ | ⟨-, hin'⟩ := lookup_of_lookup_insert hin'
      · cases hnew
        exact hold hlookup heq
      · exact hold hin' heq
    obtain ⟨rfl, hnew⟩ | ⟨hne, hin⟩ := lookup_of_lookup_insert hin
    · cases hnew
      refine ⟨hentry.info, hentry.request_id, hentry.generated, hentry.enqueued, ?_,
        hunique' hentry.unique⟩
      exact iff_of_true rfl (List.mem_append_right _ List.mem_cons_self)
    · obtain ⟨hinfo, hid, hgenerated, hwas, hinactive, hunique⟩ := h.entry hin
      refine ⟨hinfo, hid, hgenerated, hwas, ?_, hunique' hunique⟩
      rw [hinactive]
      refine ⟨List.mem_append_left _, fun hmem => (List.mem_append.1 hmem).resolve_right ?_⟩
      exact fun hmem => hne (hentry.unique hin (List.mem_singleton.1 hmem))
  · obtain ⟨⟨active', hin⟩, hresponses⟩ := h.calls hcall
    refine ⟨?_, hresponses⟩
    by_cases heq : call.tag = tag
    · subst heq
      cases hin.symm.trans hlookup
      exact ⟨false, lookup_insert_self s.callbacks _ _⟩
    · exact ⟨active', (AList.lookup_insert_ne heq).trans hin⟩
  · obtain ⟨hin, hanswered⟩ := h.completed htag'
    exact ⟨(AList.mem_insert _).2 (.inr hin), hanswered⟩
  · have heq : s.worker = _ := heq
    rw [heq] at hmutex
    cases hmutex
  · obtain hin | hin := List.mem_append.1 hin
    · exact h.forgotten hin
    · obtain rfl := List.mem_singleton.1 hin
      exact ⟨hentry.generated, hfresh⟩

/-- Somebody else's callback is not one of a request. -/
theorem Sound.other_push (h : s.Sound) {queue : Deferral (CallbackWrapper T ⊕ D)} {callback : D}
    (hstep : s.queue.step (.push (.inr callback)) = some queue) :
    ({ s with queue := queue, others := s.others + 1 } : AsyncRunner T R D).Sound := by
  obtain ⟨hpushed, hran, hpending, hsignalling⟩ := Deferral.pushed_of_push hstep
  refine h.moved (h.queue.step hstep) ?_ (congrArg wrappers hran) ?_ ?_ rfl (fun _ => id)
    fun _ _ => h.enqueuing
  · rw [hpushed, wrappers_append]
    exact List.append_nil _
  · rw [hpending, wrappers_append]
    exact List.append_nil _
  · rw [hsignalling, h.owed]
    exact Nat.add_right_comm _ _ _

/-- A signal takes one of those that are due. -/
theorem Sound.signalled (h : s.Sound) {queue : Deferral (CallbackWrapper T ⊕ D)} {others : Nat}
    {worker : Worker T} (hstep : s.queue.step .signal = some queue)
    (howed : s.others + s.worker.owed = others + worker.owed + 1)
    (htag : worker.tag? = s.worker.tag?)
    (hfinishing : ∀ tag, s.worker.Finishing tag → worker.Finishing tag)
    (henqueuing : ∀ tag callback, worker = .enqueuing tag callback →
      s.callbacks.lookup tag = some (callback, true)) :
    ({ s with queue := queue, others := others, worker := worker } : AsyncRunner T R D).Sound := by
  obtain ⟨hpushed, hran, hpending, -, hsignalling⟩ := Deferral.kept_of_signal hstep
  refine h.moved (h.queue.step hstep) (congrArg wrappers hpushed) (congrArg wrappers hran)
    (congrArg wrappers hpending) ?_ htag hfinishing henqueuing
  rw [hsignalling, h.owed, howed]
  rfl

/-- `on_ready` calls the callbacks from the front of the queue, and each finds its information. -/
theorem Sound.on_ready (h : s.Sound) {queue : Deferral (CallbackWrapper T ⊕ D)}
    {action : Action (CallbackWrapper T ⊕ D)} (hof : action.OfOnReady)
    (hstep : s.queue.step action = some queue) :
    ({ s with queue := queue
              called := s.called ++ s.calledWith (s.queue.queue.called action).toList } :
      AsyncRunner T R D).Sound := by
  obtain ⟨hpushed, hsignalling, hpending⟩ := Deferral.pending_of_on_ready hstep hof
  obtain ⟨-, -, hran⟩ := Deferral.stepped_of_step hstep
  generalize (s.queue.queue.called action).toList = callbacks at hpending hran
  -- what is called leaves the front of what is pending
  have hwrappers : wrappers s.queue.queue.pending =
      wrappers callbacks ++ wrappers queue.queue.pending := by
    rw [hpending, wrappers_append]
  have hmoved := h.queue.step hstep
  -- the event loop enqueues nothing
  have henqueued : (wrappers queue.pushed).map CallbackWrapper.callback = s.enqueued := by
    rw [hpushed]
    rfl
  refine { h with queue := hmoved, owed := hsignalling.trans h.owed, entry := fun hlookup => ?_,
                  enqueued_nodup := ?_, enqueued_lt := ?_,
                  pending := fun hin => h.pending ?_, forgotten := ?_, called_ran := ?_,
                  called := fun hin => ?_ }
  · obtain ⟨hinfo, hid, hgenerated, hwas, hinactive, hunique⟩ := h.entry hlookup
    exact ⟨hinfo, hid, hgenerated, fun hin => hwas (henqueued ▸ hin), hinactive, hunique⟩
  · show ((wrappers queue.pushed).map CallbackWrapper.callback).Nodup
    rw [henqueued]
    exact h.enqueued_nodup
  · show ∀ {request : Nat}, request ∈ (wrappers queue.pushed).map CallbackWrapper.callback → _
    rw [henqueued]
    exact h.enqueued_lt
  · rw [hwrappers]
    exact List.mem_append_right _ hin
  · intro request hin
    refine ⟨(h.forgotten hin).1, ?_⟩
    show request ∉ (wrappers queue.pushed).map CallbackWrapper.callback
    rw [henqueued]
    exact (h.forgotten hin).2
  · show (s.called ++ s.calledWith callbacks).map Prod.fst =
      (wrappers queue.ran).map CallbackWrapper.callback
    rw [hran, wrappers_append, List.map_append, List.map_append, h.called_ran, calledWith,
      List.map_map]
    rfl
  · obtain hin | hin := List.mem_append.1 hin
    · exact h.called hin
    · obtain ⟨callback, hcallback, heq⟩ := List.mem_map.1 hin
      cases heq
      refine h.pending ?_
      rw [hwrappers]
      exact List.mem_append_left _ hcallback

/-- Starting the worker changes nothing else. -/
theorem Sound.initialised (h : s.Sound) : ({ s with isInit := true } : AsyncRunner T R D).Sound :=
  { h with
    entry := fun hlookup => by
      obtain ⟨hinfo, hid, hgenerated, henqueued, hinactive, hunique⟩ := h.entry hlookup
      exact ⟨hinfo, hid, hgenerated, henqueued, hinactive, hunique⟩ }

/-- Every step of every thread keeps the runner sound. -/
theorem Sound.step (h : s.Sound) {action : RunnerAction T R D} (hstep : s.step action = some s') :
    s'.Sound := by
  cases stepped_of_step hstep with
  | init => exact h.initialised
  | added _ hfree _ => exact h.add_callback hfree
  | not_added hfree _ => exact h.allocate hfree
  | start_call hmem => exact h.start_call hmem
  | complete hmem => exact h.complete hmem _ _
  | next _ hwaiting hmem => exact h.next hwaiting hmem
  | find hworker => exact (h.find hworker).1
  | enqueue hworker hqueue => exact h.enqueue hworker hqueue
  | signal hworker hqueue =>
      refine h.signalled hqueue (by rw [hworker]; rfl) (by rw [hworker]; rfl)
        (fun tag' hfinishing => ?_) fun _ _ heq => ?_
      · rw [hworker] at hfinishing
        obtain heq | heq := hfinishing <;> cases heq
        exact .inr rfl
      · cases heq
  | erase hworker => exact h.erase hworker
  | removed hmutex hremove => exact h.remove_callback hmutex hremove
  | not_removed => exact h
  | on_ready hof hqueue => exact h.on_ready hof hqueue
  | other_push hqueue => exact h.other_push hqueue
  | other_signal hothers hqueue =>
      exact h.signalled hqueue (by omega) rfl (fun _ => id) fun _ _ => h.enqueuing

/-- Whatever was called was enqueued. -/
theorem Sound.enqueued_of_called (h : s.Sound) :
    s.enqueued = s.called.map Prod.fst ++
      (wrappers s.queue.queue.pending).map CallbackWrapper.callback := by
  rw [enqueued, h.queue.fifo, wrappers_append, List.map_append, h.called_ran]

/-- In every interleaving a callback is called at most once, with the response that gRPC wrote for
its request and after it was written, and never if the request was forgotten, be it before or
after; gRPC only ever writes into an information that is held, the worker always finds the tag
that it was given, and `add_callback` never finds the address of a new information in the map: it
only refuses before `init`. -/
theorem callbacks_of_execution {infos : T → RequestInfo R}
    (e : Execution step (start infos : AsyncRunner T R D)) (n : Nat) :
    ((e.state n).called.map Prod.fst).Nodup ∧
      ((e.state n).responses.map Prod.fst).Nodup ∧
      (∀ request info, (request, info) ∈ (e.state n).called →
        request ∉ (e.state n).forgotten ∧ info.requestId = request ∧
          ∃ r, info.response = some r ∧ (request, r) ∈ (e.state n).responses) ∧
      (∀ call ∈ (e.state n).calls, (e.state n).Held call.tag ∧
        ((e.state n).infos call.tag).requestId = call.request) ∧
      (∀ tag, (e.state n).worker.tag? = some tag → tag ∈ (e.state n).callbacks) ∧
      ∀ tag callback, ¬ (e.state n).Held tag → tag ∉ (e.state n).callbacks ∧
        ((e.state n).isInit = true →
          (((e.state n).allocate tag).addCallback callback tag).isSome) := by
  have h : (e.state n).Sound := e.invariant (start_sound infos) (fun _ _ _ h => h.step) n
  have hnodup := h.enqueued_nodup
  rw [h.enqueued_of_called] at hnodup
  refine ⟨hnodup.of_append_left, h.responses_nodup, fun request info hin => ?_, fun call hin => ?_,
    fun tag hworker => (h.completed (.inr hworker)).1, fun tag callback hfree => ?_⟩
  · refine ⟨fun hforgotten => (h.forgotten hforgotten).2 ?_, h.called hin⟩
    rw [h.enqueued_of_called]
    exact List.mem_append_left _ (List.mem_map_of_mem hin)
  · obtain ⟨⟨active, hlookup⟩, -⟩ := h.calls (.inr hin)
    exact ⟨.inl ⟨_, AList.mem_lookup_iff.1 hlookup, rfl⟩, (h.entry hlookup).request_id⟩
  · exact ⟨h.not_mem_of_not_held hfree,
      fun hinit => Option.isSome_of_eq_some (h.add_callback_eq hinit hfree)⟩

namespace Sample

def memory : Nat → RequestInfo Nat := fun _ => ⟨0, none⟩

/-- A request before `init`, which is refused. Then one that is forgotten when its response has
come, and a third one at the same address. -/
def forgotten : List (RunnerAction Nat Nat Nat) :=
  [.addCallback 5, .init, .addCallback 5, .startCall ⟨1, 5⟩, .complete ⟨1, 5⟩ 8 true,
    .removeCallback 5, .next 5 true, .find, .erase, .addCallback 5, .startCall ⟨2, 5⟩,
    .complete ⟨2, 5⟩ 9 true, .next 5 true, .find, .enqueue, .signal, .erase, .onReady .take,
    .onReady .run]

def afterForgotten : AsyncRunner Nat Nat Nat :=
  (forgotten.foldlM step (start memory)).getD (start memory)

def forgottenExecution : Execution step (start memory : AsyncRunner Nat Nat Nat) :=
  .ofActions forgotten afterForgotten rfl

/-- The callback of the third request is called with its response, and that of the second one is
not. -/
theorem third_request_called :
    (afterForgotten.called.map fun p => (p.1, p.2.response)) = [(2, some 9)] ∧
      (1 ∉ afterForgotten.called.map Prod.fst) ∧ 2 ∉ afterForgotten.forgotten := by
  have hlast : forgottenExecution.state 19 = afterForgotten := rfl
  obtain ⟨-, -, hcalled, -⟩ := callbacks_of_execution forgottenExecution 19
  rw [hlast] at hcalled
  have hforgotten : 1 ∈ afterForgotten.forgotten := by decide
  have hmem : (2, ⟨2, some 9⟩) ∈ afterForgotten.called := .head _
  refine ⟨rfl, fun hin => ?_, (hcalled 2 ⟨2, some 9⟩ hmem).1⟩
  obtain ⟨⟨request, info⟩, hmem, rfl⟩ := List.mem_map.1 hin
  exact (hcalled _ info hmem).1 hforgotten

end Sample

end AsyncRunner

end Codon.Grpc
