import Codon.Grpc.AsyncRunner

/-!
# Every response reaches its callback

If the completion queue returns every event in the end, the worker goes on, and the event loop's
queue is served, then the callback of every request that gRPC has answered is called, unless the
request was forgotten (`called_of_fair`). The tag is followed from the completion queue through the
worker into the event loop's queue; from there on `every_callback_runs` applies to the execution
that the queue takes part in.
-/

namespace Codon.Grpc

open Codon.Library Codon.Async

/-- The step is one of the worker's after `Next` has returned. -/
def RunnerAction.OfWorker {T R D : Type} : RunnerAction T R D → Prop
  | .find | .enqueue | .signal | .erase => True
  | .init | .addCallback _ | .startCall _ | .complete _ _ _ | .next _ _ | .removeCallback _ |
    .onReady _ | .otherPush _ | .otherSignal => False

namespace AsyncRunner

variable {T R D : Type} [DecidableEq T] {s s' : AsyncRunner T R D} {tag : T}
  {callback : CallbackWrapper T} {active : Bool} {action : RunnerAction T R D}
  {infos : T → RequestInfo R}

/-- The step that the event loop's queue takes part in. -/
def deferred (s : AsyncRunner T R D) :
    RunnerAction T R D → Option (Action (CallbackWrapper T ⊕ D))
  | .enqueue =>
      match s.worker with
      | .enqueuing _ callback => some (.push (.inl callback))
      | _ => none
  | .signal | .otherSignal => some .signal
  | .onReady action => some action
  | .otherPush callback => some (.push (.inr callback))
  | .init | .addCallback _ | .startCall _ | .complete _ _ _ | .next _ _ | .find | .erase |
    .removeCallback _ => none

/-- Looking the tag up moves the worker only. -/
theorem find_eq (s : AsyncRunner T R D) (tag : T) :
    ∃ worker, s.find tag = { s with worker := worker } := by
  rw [find]
  split
  · exact ⟨_, rfl⟩
  · exact ⟨_, rfl⟩
  · exact ⟨_, rfl⟩

/-- A step of the runner is a step of its queue, or leaves the queue alone. -/
theorem deferred_of_step (h : s.step action = some s') :
    Follows Deferral.step s.queue (s.deferred action) s'.queue := by
  cases stepped_of_step h with
  | init | added _ _ _ | not_added _ _ | start_call _ | complete _ | next _ _ _ | erase _
  | not_removed => rfl
  | @find tag _ =>
      obtain ⟨worker, hfind⟩ := find_eq s tag
      exact (congrArg queue hfind).trans rfl
  | enqueue hworker hqueue =>
      rw [deferred, hworker]
      exact hqueue
  | signal _ hqueue | on_ready _ hqueue | other_push hqueue | other_signal _ hqueue => exact hqueue
  | removed _ hremove =>
      obtain ⟨entry, -, rfl⟩ := remove_callback_eq_some hremove
      rfl

/-- The execution that the event loop's queue takes part in. -/
def deferral (e : Execution step (start infos : AsyncRunner T R D)) :
    Execution Deferral.step (Deferral.start : Deferral (CallbackWrapper T ⊕ D)) :=
  e.map queue deferred fun _ _ _ => deferred_of_step

/-- Only `Next` takes an event. -/
theorem event_kept {ok : Bool} (h : s.step action = some s') (hother : action ≠ .next tag ok)
    (hmem : (tag, ok) ∈ s.completionQueue) : (tag, ok) ∈ s'.completionQueue := by
  cases stepped_of_step h with
  | init | added _ _ _ | not_added _ _ | start_call _ | enqueue _ _ | signal _ _ | erase _
  | not_removed | on_ready _ _ | other_push _ | other_signal _ _ => exact hmem
  | complete _ => exact List.mem_cons_of_mem _ hmem
  | @next tag' ok' _ _ _ =>
      have hne : (tag, ok) ≠ (tag', ok') := by
        intro heq
        cases heq
        exact hother rfl
      exact (List.mem_erase_of_ne hne).2 hmem
  | @find tag' _ =>
      obtain ⟨worker, hfind⟩ := find_eq s tag'
      rw [hfind]
      exact hmem
  | removed _ hremove =>
      obtain ⟨entry, -, rfl⟩ := remove_callback_eq_some hremove
      exact hmem

/-- The worker moves only on its own. -/
theorem worker_kept (h : s.step action = some s') (hother : ¬ action.OfWorker)
    (hbusy : s.worker ≠ .waiting) : s'.worker = s.worker := by
  cases stepped_of_step h with
  | init | added _ _ _ | not_added _ _ | start_call _ | complete _ | not_removed | on_ready _ _
  | other_push _ | other_signal _ _ => rfl
  | next _ hwaiting _ => exact absurd hwaiting hbusy
  | find _ | enqueue _ _ | signal _ _ | erase _ => exact absurd trivial hother
  | removed _ hremove =>
      obtain ⟨entry, -, rfl⟩ := remove_callback_eq_some hremove
      rfl

/-- A response stays. -/
theorem response_kept {p : Nat × R} (h : s.step action = some s') (hmem : p ∈ s.responses) :
    p ∈ s'.responses := by
  cases stepped_of_step h with
  | init | added _ _ _ | not_added _ _ | start_call _ | next _ _ _ | enqueue _ _ | signal _ _
  | erase _ | not_removed | on_ready _ _ | other_push _ | other_signal _ _ => exact hmem
  | complete _ => exact List.mem_cons_of_mem _ hmem
  | @find tag' _ =>
      obtain ⟨worker, hfind⟩ := find_eq s tag'
      rw [hfind]
      exact hmem
  | removed _ hremove =>
      obtain ⟨entry, -, rfl⟩ := remove_callback_eq_some hremove
      exact hmem

/-- The map has the callback under the tag, active or not. -/
def Registered (s : AsyncRunner T R D) (tag : T) (callback : CallbackWrapper T) : Prop :=
  ∃ active, s.callbacks.lookup tag = some (callback, active)

/-- Only the worker erases an entry. -/
theorem Registered.kept (h : s.Registered tag callback) (hstep : s.step action = some s')
    (hworker : s.worker ≠ .erasing tag) : s'.Registered tag callback := by
  obtain ⟨active, hlookup⟩ := h
  have hin : tag ∈ s.callbacks := AList.lookup_isSome.1 (Option.isSome_of_eq_some hlookup)
  cases stepped_of_step hstep with
  | init | not_added _ _ | start_call _ | complete _ | next _ _ _ | enqueue _ _ | signal _ _
  | not_removed | on_ready _ _ | other_push _ | other_signal _ _ => exact ⟨active, hlookup⟩
  | @added tag' _ _ hnew =>
      have hne : tag ≠ tag' := by
        rintro rfl
        exact hnew hin
      exact ⟨active, (AList.lookup_insert_ne hne).trans hlookup⟩
  | @find tag' _ =>
      obtain ⟨worker, hfind⟩ := find_eq s tag'
      rw [hfind]
      exact ⟨active, hlookup⟩
  | @erase tag' herasing =>
      have hne : tag ≠ tag' := by
        rintro rfl
        exact hworker herasing
      exact ⟨active, (AList.lookup_erase_ne hne).trans hlookup⟩
  | @removed tag' _ _ hremove =>
      obtain ⟨⟨callback', active'⟩, hlookup', rfl⟩ := remove_callback_eq_some hremove
      by_cases heq : tag = tag'
      · subst heq
        cases hlookup.symm.trans hlookup'
        exact ⟨false, lookup_insert_self s.callbacks _ _⟩
      · exact ⟨active, (AList.lookup_insert_ne heq).trans hlookup⟩

/-- The threads are scheduled: the completion queue returns every event, the worker goes on while it
has a tag, and the event loop's queue is served. -/
structure Fair (e : Execution step (start infos : AsyncRunner T R D)) : Prop where
  returns {n : Nat} {tag : T} {ok : Bool} (h : (tag, ok) ∈ (e.state n).completionQueue) :
    ∃ m, n ≤ m ∧ e.action m = some (.next tag ok)
  works {n : Nat} (h : (e.state n).worker ≠ .waiting) :
    ∃ m action, n ≤ m ∧ e.action m = some action ∧ action.OfWorker
  served : Deferral.Fair (deferral e)

section Progress

variable {e : Execution step (start infos : AsyncRunner T R D)} {n m : Nat}

/-- Every state of an execution is sound. -/
theorem sound (e : Execution step (start infos : AsyncRunner T R D)) (n : Nat) :
    (e.state n).Sound :=
  e.invariant (start_sound infos) (fun _ _ _ h => h.step) n

/-- The next step of the worker finds it where it was, and the entry of its tag in the map. -/
theorem Fair.next_of_worker (h : Fair e) (tag : T) {worker : Worker T}
    (hworker : (e.state n).worker = worker) (hbusy : worker ≠ .waiting)
    (herasing : worker ≠ .erasing tag) (hentry : (e.state n).Registered tag callback) :
    ∃ k action, n ≤ k ∧ e.action k = some action ∧ action.OfWorker ∧
      (e.state k).worker = worker ∧ (e.state k).Registered tag callback := by
  obtain ⟨m, action, hle, haction, hof⟩ := h.works (hworker ▸ hbusy)
  refine Execution.first (P := fun s => s.worker = worker ∧ s.Registered tag callback)
    ⟨hworker, hentry⟩ (fun s other s' hother hs hstep => ?_) hle haction hof
  obtain ⟨hworker, hentry⟩ := hs
  refine ⟨(worker_kept hstep hother (hworker ▸ hbusy)).trans hworker, hentry.kept hstep ?_⟩
  rw [hworker]
  exact herasing

/-- An event of the completion queue whose entry is in the map. -/
structure Reported (s : AsyncRunner T R D) (tag : T) (callback : CallbackWrapper T) : Prop where
  sound : s.Sound
  event : (tag, true) ∈ s.completionQueue
  entry : s.Registered tag callback

/-- The worker erases the entry only after it has taken the event. -/
theorem Reported.kept (h : s.Reported tag callback) (hstep : s.step action = some s')
    (hother : action ≠ .next tag true) : s'.Reported tag callback := by
  refine ⟨h.sound.step hstep, event_kept hstep hother h.event, h.entry.kept hstep ?_⟩
  intro herasing
  have htag : s.worker.tag? = some tag := by
    rw [herasing]
    rfl
  exact (h.sound.tag_of_worker htag).1 (List.mem_map_of_mem h.event)

/-- A tag that is reported comes to the worker, and its entry is still there. -/
theorem Fair.returned (h : Fair e) (hreported : (e.state n).Reported tag callback) :
    ∃ k, n ≤ k ∧ (e.state k).worker = .returned tag ∧ (e.state k).Registered tag callback := by
  obtain ⟨m, hle, haction⟩ := h.returns hreported.event
  obtain ⟨k, action, hle, haction, rfl, hreported⟩ :=
    Execution.first (P := fun s => s.Reported tag callback) (B := (· = .next tag true)) hreported
      (fun s other s' hother hs hstep => hs.kept hstep hother) hle haction rfl
  have hstep := Execution.step_of_action haction
  refine ⟨k + 1, Nat.le_succ_of_le hle, ?_⟩
  generalize e.state (k + 1) = s' at hstep ⊢
  cases stepped_of_step hstep with
  | next _ _ _ => exact ⟨rfl, hreported.entry⟩

/-- The worker looks the tag up and enqueues the callback, if it was not removed. -/
theorem Fair.pushed (h : Fair e) (hworker : (e.state n).worker = .returned tag)
    (hentry : (e.state n).Registered tag callback) :
    ∃ k, n ≤ k ∧ (callback.callback ∈ (e.state k).forgotten ∨
      .inl callback ∈ (e.state k).queue.pushed) := by
  obtain ⟨k, action, hle, haction, hof, hworker, active, hlookup⟩ :=
    h.next_of_worker tag hworker (by simp) (by simp) hentry
  have hstep := Execution.step_of_action haction
  cases active with
  -- it was forgotten before the worker has looked it up
  | false => exact ⟨k, hle, .inl (((sound e k).entry hlookup).inactive.1 rfl)⟩
  | true =>
      have hnext : (e.state (k + 1)).worker = .enqueuing tag callback ∧
          (e.state (k + 1)).Registered tag callback := by
        generalize e.state (k + 1) = s' at hstep ⊢
        cases stepped_of_step hstep with
        | @find tag' hreturned =>
            cases hreturned.symm.trans hworker
            have hfind : (e.state k).find tag =
                { e.state k with worker := .enqueuing tag callback } := by
              rw [find, hlookup]
            rw [hfind]
            exact ⟨rfl, true, hlookup⟩
        | enqueue hother _ | signal hother _ | erase hother => cases hother.symm.trans hworker
        | init | added _ _ _ | not_added _ _ | start_call _ | complete _ | next _ _ _ | removed _ _
        | not_removed | on_ready _ _ | other_push _ | other_signal _ _ => cases hof
      obtain ⟨l, action, hle', haction, hof, hworker, -⟩ :=
        h.next_of_worker tag hnext.1 (by simp) (by simp) hnext.2
      have hstep := Execution.step_of_action haction
      refine ⟨l + 1, by omega, .inr ?_⟩
      generalize e.state (l + 1) = s' at hstep ⊢
      cases stepped_of_step hstep with
      | enqueue henqueuing hqueue =>
          cases henqueuing.symm.trans hworker
          rw [(Deferral.pushed_of_push hqueue).1]
          exact List.mem_append_right _ List.mem_cons_self
      | find hother | signal hother _ | erase hother => cases hother.symm.trans hworker
      | init | added _ _ _ | not_added _ _ | start_call _ | complete _ | next _ _ _ | removed _ _
      | not_removed | on_ready _ _ | other_push _ | other_signal _ _ => cases hof

/-- If the threads are scheduled, every request that gRPC has answered is forgotten or has its
callback called with that response in the end. -/
theorem called_of_fair (h : Fair e) {call : RpcCall T} {response : R}
    (hcomplete : e.action n = some (.complete call response true)) :
    ∃ m, n ≤ m ∧ (call.request ∈ (e.state m).forgotten ∨
      (call.request, ⟨call.request, some response⟩) ∈ (e.state m).called) := by
  have hstep := Execution.step_of_action hcomplete
  have hstart : (e.state (n + 1)).Reported call.tag ⟨call.request, call.tag⟩ ∧
      (call.request, response) ∈ (e.state (n + 1)).responses := by
    have hsound := (sound e n).step hstep
    generalize e.state (n + 1) = s' at hstep hsound ⊢
    cases stepped_of_step hstep with
    | complete hmem =>
        exact ⟨⟨hsound, List.mem_cons_self, ((sound e n).calls (.inr hmem)).1⟩,
          List.mem_cons_self⟩
  obtain ⟨k, hk, hworker, hentry⟩ := h.returned hstart.1
  obtain ⟨l, hl, hforgotten | hpushed⟩ := h.pushed hworker hentry
  · exact ⟨l, by omega, .inl hforgotten⟩
  · obtain ⟨m, hm, hran⟩ := (Deferral.every_callback_runs (deferral e)).2 h.served l
    have hcalled : call.request ∈ (e.state m).called.map Prod.fst := by
      rw [(sound e m).called_ran]
      refine List.mem_map.2 ⟨⟨call.request, call.tag⟩, ?_, rfl⟩
      exact List.mem_filterMap.2 ⟨_, hran.subset hpushed, rfl⟩
    obtain ⟨⟨request, info⟩, hmem, rfl⟩ := List.mem_map.1 hcalled
    obtain ⟨hid, r, hr, hresponse⟩ := (sound e m).called hmem
    have hkept : (call.request, response) ∈ (e.state m).responses :=
      e.kept (P := fun s => (call.request, response) ∈ s.responses) hstart.2
        (show n + 1 ≤ m by omega) fun _ _ _ _ _ _ hin hstep => response_kept hstep hin
    -- a request has one response
    have hsame : r = response := by
      have hnodup := (sound e m).responses_nodup
      exact congrArg Prod.snd (List.inj_on_of_nodup_map hnodup hresponse hkept rfl)
    refine ⟨m, by omega, .inr ?_⟩
    obtain ⟨requestId, contents⟩ := info
    subst hid hr hsame
    exact hmem

end Progress

namespace Sample

/-- One request from its registration to its callback. -/
def actions : List (RunnerAction Nat Nat Nat) :=
  [.init, .addCallback 5, .startCall ⟨0, 5⟩, .complete ⟨0, 5⟩ 9 true, .next 5 true, .find, .enqueue,
    .signal, .erase, .onReady .take, .onReady .run, .onReady .look, .onReady .clear]

def last : AsyncRunner Nat Nat Nat :=
  (actions.foldlM step (start memory)).getD (start memory)

def execution : Execution step (start memory : AsyncRunner Nat Nat Nat) :=
  .ofActions actions last rfl

/-- After the actions everything rests. -/
theorem execution_rests {n : Nat} (h : 13 ≤ n) : execution.state n = last :=
  Execution.ofActions_state_of_le (h := rfl) h

/-- The sample's queue rests from its thirteenth state on. -/
theorem deferral_rests {n : Nat} (h : 13 ≤ n) : (deferral execution).state n = last.queue :=
  congrArg queue (execution_rests h)

/-- The completion queue of the sample returns each event. -/
theorem execution_returns {n tag : Nat} {ok : Bool}
    (h : (tag, ok) ∈ (execution.state n).completionQueue) :
    ∃ m, n ≤ m ∧ execution.action m = some (.next tag ok) := by
  by_cases hn : n ≤ 4
  · obtain rfl | rfl | rfl | rfl | rfl : n = 0 ∨ n = 1 ∨ n = 2 ∨ n = 3 ∨ n = 4 := by omega
    · cases h
    · cases h
    · cases h
    · cases h
    · cases List.mem_singleton.1 h
      exact ⟨4, Nat.le_refl 4, rfl⟩
  · exfalso
    by_cases hlast : 13 ≤ n
    · rw [execution_rests hlast] at h
      cases h
    · obtain rfl | rfl | rfl | rfl | rfl | rfl | rfl | rfl : n = 5 ∨ n = 6 ∨ n = 7 ∨ n = 8 ∨
        n = 9 ∨ n = 10 ∨ n = 11 ∨ n = 12 := by omega
      all_goals cases h

/-- The sample's worker goes on. -/
theorem execution_works {n : Nat} (h : (execution.state n).worker ≠ .waiting) :
    ∃ m action, n ≤ m ∧ execution.action m = some action ∧ action.OfWorker := by
  by_cases hn : n ≤ 8
  · exact ⟨8, .erase, hn, rfl, trivial⟩
  · refine absurd ?_ h
    by_cases hlast : 13 ≤ n
    · rw [execution_rests hlast]
      rfl
    · obtain rfl | rfl | rfl | rfl : n = 9 ∨ n = 10 ∨ n = 11 ∨ n = 12 := by omega
      all_goals rfl

/-- The sample's queue is served fairly. -/
theorem execution_served : Deferral.Fair (deferral execution) where
  signals n hsignalling := by
    by_cases hn : n ≤ 7
    · exact ⟨7, hn, rfl⟩
    · exfalso
      by_cases hlast : 13 ≤ n
      · rw [deferral_rests hlast] at hsignalling
        cases hsignalling
      · obtain rfl | rfl | rfl | rfl | rfl : n = 8 ∨ n = 9 ∨ n = 10 ∨ n = 11 ∨ n = 12 := by omega
        all_goals cases hsignalling
  continues n hbusy := by
    by_cases hn : n ≤ 12
    · exact ⟨12, .clear, hn, rfl, trivial⟩
    · refine absurd ?_ hbusy
      rw [deferral_rests (by omega)]
      rfl
  wakes n _ hready := by
    by_cases hn : n ≤ 9
    · exact ⟨9, hn, rfl⟩
    · by_cases hlast : 13 ≤ n
      · rw [deferral_rests hlast] at hready
        cases hready
      · obtain rfl | rfl | rfl : n = 10 ∨ n = 11 ∨ n = 12 := by omega
        all_goals contradiction

/-- The sample is fair. -/
theorem execution_fair : Fair execution := ⟨execution_returns, execution_works, execution_served⟩

/-- The callback of the sample is called or forgotten. -/
theorem execution_calls : ∃ m, 3 ≤ m ∧ (0 ∈ (execution.state m).forgotten ∨
    (0, ⟨0, some 9⟩) ∈ (execution.state m).called) := by
  have hcomplete : execution.action 3 = some (.complete ⟨0, 5⟩ 9 true) := rfl
  exact called_of_fair execution_fair hcomplete

end Sample

end AsyncRunner

end Codon.Grpc
