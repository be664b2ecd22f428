import Codon.Library.Execution
import Mathlib.Algebra.Group.Nat.Defs

/-!
# Callbacks deferred to the event loop

Any number of threads enqueue callbacks: one pushes its callback under the lock, lets go of the
lock, and then signals the eventfd. The event loop's thread takes the whole queue under the lock,
runs what it took, and under the lock again clears the eventfd if the queue is still empty.
`ran_of_execution` is about all interleavings of these steps.
-/

namespace Codon.Async

open Codon.Library

/-- Where the event loop's thread is in `on_ready`. In `clearing` it holds the lock, has seen an
empty queue and has not read the eventfd yet. -/
inductive OnReady (C : Type) where
  | idle
  | running (callbacks : List C)
  | clearing

/-- The callbacks that `on_ready` has taken and not run yet. -/
def OnReady.callbacks {C : Type} : OnReady C → List C
  | .running callbacks => callbacks
  | .idle | .clearing => []

/-- At most how many steps `on_ready` has left. -/
def OnReady.stepsLeft {C : Type} : OnReady C → Nat
  | .idle => 0
  | .clearing => 1
  | .running callbacks => callbacks.length + 2

/-- The queue, the counter of its eventfd, and how many threads are between the two halves of
`enqueue`: they have pushed their callback and have not signalled yet. -/
structure DeferredCallbackQueue (C : Type) where
  queue : List C
  readyFd : Nat
  signalling : Nat
  onReady : OnReady C

/-- One step of one of the threads. -/
inductive Action (C : Type) where
  /-- A thread takes the lock in `enqueue` and pushes its callback. -/
  | push (callback : C)
  /-- A thread that has pushed its callback writes to the eventfd. -/
  | signal
  /-- `on_ready` begins: it moves the queue out under the lock. -/
  | take
  /-- `on_ready` runs the next callback. -/
  | run
  /-- After the last callback `on_ready` takes the lock and looks at the queue. -/
  | look
  /-- `on_ready` reads the eventfd, which sets its counter to zero, and returns. -/
  | clear

/-- The callback that the step adds to the queue. -/
def Action.pushed {C : Type} : Action C → Option C
  | .push callback => some callback
  | _ => none

/-- The step is one of `on_ready`. -/
def Action.OfOnReady {C : Type} : Action C → Prop
  | .push _ | .signal => False
  | .take | .run | .look | .clear => True

namespace DeferredCallbackQueue

variable {C : Type}

def create : DeferredCallbackQueue C := ⟨[], 0, 0, .idle⟩

/-- The most that the counter of an eventfd holds; a nonblocking write that goes beyond it
fails. -/
def eventMax : Nat := 2 ^ 64 - 2

/-- The counter after 1 is written to the eventfd; a failed write is only logged. -/
def writeOne (counter : Nat) : Nat := if counter < eventMax then counter + 1 else counter

/-- A step that is not possible where the threads are gives `none`. -/
def step (q : DeferredCallbackQueue C) (action : Action C) : Option (DeferredCallbackQueue C) :=
  match action, q.onReady with
  | .push _, .clearing => none
  | .push callback, _ =>
      some { q with queue := q.queue ++ [callback], signalling := q.signalling + 1 }
  | .signal, _ =>
      if q.signalling = 0 then none
      else some { q with readyFd := writeOne q.readyFd, signalling := q.signalling - 1 }
  -- the event loop may call `on_ready` although the eventfd was not set
  | .take, .idle => some { q with queue := [], onReady := .running q.queue }
  | .run, .running (_ :: callbacks) => some { q with onReady := .running callbacks }
  | .look, .running [] => some { q with onReady := if q.queue.isEmpty then .clearing else .idle }
  | .clear, .clearing => some { q with readyFd := 0, onReady := .idle }
  | _, _ => none

/-- The callback that the step calls. -/
def called (q : DeferredCallbackQueue C) (action : Action C) : Option C :=
  match action, q.onReady with
  | .run, .running (callback :: _) => some callback
  | _, _ => none

/-- What a step does and which callback it calls, for each kind of step. -/
inductive Stepped (q : DeferredCallbackQueue C) :
    Action C → Option C → DeferredCallbackQueue C → Prop where
  | push (callback : C) (hfree : q.onReady ≠ .clearing) :
      Stepped q (.push callback) none
        { q with queue := q.queue ++ [callback], signalling := q.signalling + 1 }
  | signal (hpushed : 0 < q.signalling) :
      Stepped q .signal none
        { q with readyFd := writeOne q.readyFd, signalling := q.signalling - 1 }
  | take (hidle : q.onReady = .idle) :
      Stepped q .take none { q with queue := [], onReady := .running q.queue }
  | run {callback : C} {callbacks : List C}
      (hrunning : q.onReady = .running (callback :: callbacks)) :
      Stepped q .run (some callback) { q with onReady := .running callbacks }
  | look_empty (hrunning : q.onReady = .running []) (hempty : q.queue = []) :
      Stepped q .look none { q with onReady := .clearing }
  | look_more (hrunning : q.onReady = .running []) (hmore : q.queue ≠ []) :
      Stepped q .look none { q with onReady := .idle }
  | clear (hclearing : q.onReady = .clearing) :
      Stepped q .clear none { q with readyFd := 0, onReady := .idle }

/-- What a step of the queue can do. -/
theorem stepped_of_step {q q' : DeferredCallbackQueue C} {action : Action C}
    (h : q.step action = some q') : Stepped q action (q.called action) q' := by
  obtain ⟨queue, readyFd, signalling, onReady⟩ := q
  cases action with
  | push callback =>
      cases onReady with
      | clearing => cases h
      | idle | running _ =>
          cases h
          exact .push callback (by simp)
  | signal =>
      obtain ⟨hpushed, h⟩ := Option.ite_none_left_eq_some.1 h
      cases h
      exact .signal (Nat.pos_of_ne_zero hpushed)
  | take =>
      cases onReady with
      | running _ | clearing => cases h
      | idle =>
          cases h
          exact .take rfl
  | run =>
      cases onReady with
      | idle | clearing => cases h
      | running callbacks =>
          cases callbacks with
          | nil => cases h
          | cons callback callbacks =>
              cases h
              exact .run rfl
  | look =>
      cases onReady with
      | idle | clearing => cases h
      | running callbacks =>
          cases callbacks with
          | cons _ _ => cases h
          | nil =>
              cases queue with
              | nil =>
                  cases h
                  exact .look_empty rfl rfl
              | cons callback queue =>
                  cases h
                  exact .look_more rfl (by simp)
  | clear =>
      cases onReady with
      | idle | running _ => cases h
      | clearing =>
          cases h
          exact .clear rfl

/-- The callbacks that are taken and not run yet, and then those in the queue. -/
def pending (q : DeferredCallbackQueue C) : List C := q.onReady.callbacks ++ q.queue

/-- If a callback is in the queue, the eventfd is signalled or a thread is about to signal it. -/
def Woken (q : DeferredCallbackQueue C) : Prop :=
  q.queue ≠ [] → 0 < q.readyFd ∨ 0 < q.signalling

/-- While the eventfd is being cleared, the queue stays empty. -/
def ClearsEmpty (q : DeferredCallbackQueue C) : Prop := q.onReady = .clearing → q.queue = []

end DeferredCallbackQueue

/-- A queue together with the callbacks pushed so far and those run so far, in order. -/
structure Deferral (C : Type) where
  queue : DeferredCallbackQueue C
  pushed : List C
  ran : List C

namespace Deferral

variable {C : Type} {s s' : Deferral C} {action : Action C}

def start : Deferral C := ⟨.create, [], []⟩

def step (s : Deferral C) (action : Action C) : Option (Deferral C) := do
  let queue ← s.queue.step action
  return { queue
           pushed := s.pushed ++ action.pushed.toList
           ran := s.ran ++ (s.queue.called action).toList }

/-- What holds between steps: the callbacks that were pushed are those that ran and then those
that are pending, in order, and a queue with a callback in it is not forgotten. -/
structure Sound (s : Deferral C) : Prop where
  fifo : s.pushed = s.ran ++ s.queue.pending
  woken : s.queue.Woken
  clears_empty : s.queue.ClearsEmpty

/-- An empty queue is sound. -/
theorem start_sound : (start : Deferral C).Sound :=
  ⟨rfl, fun hmore => absurd rfl hmore, fun _ => rfl⟩

/-- Writing leaves the event counter positive. -/
theorem writeOne_pos (counter : Nat) : 0 < DeferredCallbackQueue.writeOne counter := by
  rw [DeferredCallbackQueue.writeOne]
  split_ifs with hroom
  · exact Nat.succ_pos counter
  · exact Nat.lt_of_lt_of_le (by decide) (Nat.le_of_not_lt hroom)

/-- What a step of the session does to the queue, to the callbacks pushed and to those that ran. -/
theorem stepped_of_step (h : s.step action = some s') :
    DeferredCallbackQueue.Stepped s.queue action (s.queue.called action) s'.queue ∧
      s'.pushed = s.pushed ++ action.pushed.toList ∧
      s'.ran = s.ran ++ (s.queue.called action).toList := by
  obtain ⟨q, hq, h⟩ := Option.bind_eq_some_iff.1 h
  cases h
  exact ⟨DeferredCallbackQueue.stepped_of_step hq, rfl, rfl⟩

/-- Every step of every thread keeps the session sound. -/
theorem Sound.step (h : s.Sound) (hstep : s.step action = some s') : s'.Sound := by
  obtain ⟨hstepped, hpushed, hran⟩ := stepped_of_step hstep
  generalize s.queue.called action = called at hstepped hran
  obtain ⟨queue, pushed, ran⟩ := s'
  subst hpushed hran
  obtain ⟨hfifo, hwoken, hclears⟩ := h
  cases hstepped with
  | push callback hfree =>
      refine ⟨?_, fun _ => .inr (Nat.succ_pos _), fun hclearing => absurd hclearing hfree⟩
      simp [hfifo, DeferredCallbackQueue.pending, Action.pushed]
  | signal _ =>
      refine ⟨?_, fun _ => .inl (writeOne_pos _), hclears⟩
      simp [hfifo, DeferredCallbackQueue.pending, Action.pushed]
  | take hidle =>
      refine ⟨?_, fun hmore => absurd rfl hmore, fun _ => rfl⟩
      simp [hfifo, DeferredCallbackQueue.pending, Action.pushed, hidle, OnReady.callbacks]
  | run hrunning =>
      refine ⟨?_, hwoken, fun _ => ?_⟩
      · simp [hfifo, DeferredCallbackQueue.pending, Action.pushed, hrunning, OnReady.callbacks]
      · contradiction
  | look_empty hrunning hempty =>
      refine ⟨?_, hwoken, fun _ => hempty⟩
      simp [hfifo, DeferredCallbackQueue.pending, Action.pushed, hrunning, OnReady.callbacks]
  | look_more hrunning hmore =>
      refine ⟨?_, hwoken, fun _ => ?_⟩
      · simp [hfifo, DeferredCallbackQueue.pending, Action.pushed, hrunning, OnReady.callbacks]
      · contradiction
  | clear hclearing =>
      -- the counter goes to zero, and the queue is empty: nothing was pushed under the lock
      refine ⟨?_, fun hmore => absurd (hclears hclearing) hmore, fun _ => hclears hclearing⟩
      simp [hfifo, DeferredCallbackQueue.pending, Action.pushed, hclearing, OnReady.callbacks]

/-- What a push changes. -/
theorem pushed_of_push {callback : C} (h : s.step (.push callback) = some s') :
    s'.pushed = s.pushed ++ [callback] ∧ s'.ran = s.ran ∧
      s'.queue.pending = s.queue.pending ++ [callback] ∧
        s'.queue.signalling = s.queue.signalling + 1 := by
  obtain ⟨hstepped, hpushed, hran⟩ := stepped_of_step h
  refine ⟨hpushed, hran.trans (List.append_nil _), ?_⟩
  generalize s.queue.called (.push callback) = called at hstepped
  generalize s'.queue = q at hstepped ⊢
  cases hstepped with
  | push _ _ => exact ⟨(List.append_assoc _ _ _).symm, rfl⟩

/-- A signal changes neither the callbacks nor where `on_ready` is. -/
theorem kept_of_signal (h : s.step .signal = some s') :
    s'.pushed = s.pushed ∧ s'.ran = s.ran ∧ s'.queue.pending = s.queue.pending ∧
      0 < s.queue.signalling ∧ s'.queue.signalling = s.queue.signalling - 1 := by
  obtain ⟨hstepped, hpushed, hran⟩ := stepped_of_step h
  refine ⟨hpushed.trans (List.append_nil _), hran.trans (List.append_nil _), ?_⟩
  generalize s.queue.called .signal = called at hstepped
  generalize s'.queue = q at hstepped ⊢
  cases hstepped with
  | signal hpositive => exact ⟨rfl, hpositive, rfl⟩

/-- `on_ready` takes the callbacks that it calls from the front of those that are pending. -/
theorem pending_of_on_ready (h : s.step action = some s') (hof : action.OfOnReady) :
    s'.pushed = s.pushed ∧ s'.queue.signalling = s.queue.signalling ∧
      s.queue.pending = (s.queue.called action).toList ++ s'.queue.pending := by
  obtain ⟨hstepped, hpushed, -⟩ := stepped_of_step h
  rw [hpushed]
  generalize s.queue.called action = called at hstepped
  generalize s'.queue = q at hstepped ⊢
  cases hstepped with
  | push _ _ | signal _ => cases hof
  | take hidle =>
      simp [Action.pushed, DeferredCallbackQueue.pending, hidle, OnReady.callbacks]
  | run hrunning | look_empty hrunning _ | look_more hrunning _ =>
      simp [Action.pushed, DeferredCallbackQueue.pending, hrunning, OnReady.callbacks]
  | clear hclearing =>
      simp [Action.pushed, DeferredCallbackQueue.pending, hclearing, OnReady.callbacks]

/-- A step of another thread leaves `on_ready` where it is. -/
theorem on_ready_kept (h : s.step action = some s') (hother : ¬ action.OfOnReady) :
    s'.queue.onReady = s.queue.onReady ∧ s'.ran = s.ran := by
  obtain ⟨hstepped, -, hran⟩ := stepped_of_step h
  generalize s.queue.called action = called at hstepped hran
  generalize s'.queue = q at hstepped ⊢
  cases hstepped with
  | push _ _ | signal _ => exact ⟨rfl, by simpa using hran⟩
  | take _ | run _ | look_empty _ _ | look_more _ _ | clear _ => exact absurd trivial hother

/-- Outside `on_ready`, only the beginning of `on_ready` is a step of the event loop's thread. -/
theorem idle_kept (h : s.step action = some s') (hidle : s.queue.onReady = .idle)
    (hother : action ≠ .take) : s'.queue.onReady = .idle := by
  obtain ⟨hstepped, -, -⟩ := stepped_of_step h
  generalize s.queue.called action = called at hstepped
  generalize s'.queue = q at hstepped ⊢
  cases hstepped with
  | push _ _ | signal _ => exact hidle
  | take _ => exact absurd rfl hother
  | run hrunning | look_empty hrunning _ | look_more hrunning _ => cases hidle.symm.trans hrunning
  | clear hclearing => cases hidle.symm.trans hclearing

/-- A step of `on_ready` brings it nearer to its end and loses none of what it took. -/
theorem on_ready_progress (h : s.step action = some s') (hof : action.OfOnReady)
    (hbusy : s.queue.onReady ≠ .idle) :
    s'.queue.onReady.stepsLeft < s.queue.onReady.stepsLeft ∧
      s'.ran ++ s'.queue.onReady.callbacks = s.ran ++ s.queue.onReady.callbacks := by
  obtain ⟨hstepped, -, hran⟩ := stepped_of_step h
  rw [hran]
  generalize s.queue.called action = called at hstepped
  generalize s'.queue = q at hstepped ⊢
  cases hstepped with
  | push _ _ | signal _ => cases hof
  | take hidle => exact absurd hidle hbusy
  | run hrunning | look_empty hrunning _ | look_more hrunning _ =>
      simp [hrunning, OnReady.stepsLeft, OnReady.callbacks]
  | clear hclearing => simp [hclearing, OnReady.stepsLeft, OnReady.callbacks]

/-- The threads are scheduled: one that has pushed signals in the end, `on_ready` goes on while it
is not finished, and the event loop calls it in the end while the eventfd is signalled. -/
structure Fair (e : Execution step (start : Deferral C)) : Prop where
  signals (n : Nat) : 0 < (e.state n).queue.signalling → ∃ m, n ≤ m ∧ e.action m = some .signal
  continues (n : Nat) : (e.state n).queue.onReady ≠ .idle →
    ∃ m action, n ≤ m ∧ e.action m = some action ∧ action.OfOnReady
  wakes (n : Nat) : (e.state n).queue.onReady = .idle → 0 < (e.state n).queue.readyFd →
    ∃ m, n ≤ m ∧ e.action m = some .take

section Progress

variable {e : Execution step (start : Deferral C)} {n m : Nat}

/-- Every state of an execution is sound. -/
theorem sound (e : Execution step (start : Deferral C)) (n : Nat) : (e.state n).Sound :=
  e.invariant start_sound (fun _ _ _ => Sound.step) n

/-- What was pushed stays pushed. -/
theorem pushed_mono (hle : n ≤ m) : (e.state n).pushed <+: (e.state m).pushed :=
  e.kept (P := fun s => (e.state n).pushed <+: s.pushed) (List.prefix_refl _) hle
    fun _ _ _ _ _ _ hprefix hstep => by
      rw [(stepped_of_step hstep).2.1]
      exact hprefix.trans (List.prefix_append _ _)

/-- The next step of `on_ready` finds it where it was, with nothing run in between. -/
theorem Fair.next (h : Fair e) (hbusy : (e.state n).queue.onReady ≠ .idle) :
    ∃ k action, n ≤ k ∧ e.action k = some action ∧ action.OfOnReady ∧
      (e.state k).queue.onReady = (e.state n).queue.onReady ∧
        (e.state k).ran = (e.state n).ran := by
  obtain ⟨m, action, hle, haction, hof⟩ := h.continues n hbusy
  refine Execution.first (P := fun s => s.queue.onReady = (e.state n).queue.onReady ∧
    s.ran = (e.state n).ran) ⟨rfl, rfl⟩ (fun s other s' hother hs hstep => ?_) hle haction hof
  obtain ⟨honready, hran⟩ := on_ready_kept hstep hother
  exact ⟨honready.trans hs.1, hran.trans hs.2⟩

/-- In the end `on_ready` has run all it took and is not running. -/
theorem Fair.returned (h : Fair e) (n : Nat) :
    ∃ m, n ≤ m ∧ (e.state m).queue.onReady = .idle ∧
      (e.state m).ran = (e.state n).ran ++ (e.state n).queue.onReady.callbacks := by
  induction hsteps : (e.state n).queue.onReady.stepsLeft using Nat.strongRecOn generalizing n with
  | ind steps ih =>
      by_cases hidle : (e.state n).queue.onReady = .idle
      · exact ⟨n, Nat.le_refl n, hidle, by simp [hidle, OnReady.callbacks]⟩
      · obtain ⟨k, action, hle, haction, hof, honready, hran⟩ := h.next hidle
        obtain ⟨hfewer, hkept⟩ := on_ready_progress (Execution.step_of_action haction) hof
          (honready ▸ hidle)
        rw [honready] at hfewer hkept
        obtain ⟨m, hle', hidle', hran'⟩ := ih _ (hsteps ▸ hfewer) (k + 1) rfl
        refine ⟨m, Nat.le_trans (Nat.le_succ_of_le hle) hle', hidle', ?_⟩
        rw [hran', hkept, hran]

/-- With a callback in the queue, `on_ready` is called in the end. -/
theorem Fair.called (h : Fair e) (hidle : (e.state n).queue.onReady = .idle)
    (hmore : (e.state n).queue.queue ≠ []) : ∃ m, n ≤ m ∧ e.action m = some .take := by
  by_contra hnever
  -- then it stays idle, and the signal that is due finds nobody who would take it back
  have hidles (m : Nat) (hle : n ≤ m) : (e.state m).queue.onReady = .idle :=
    e.kept (P := fun s => s.queue.onReady = .idle) hidle hle
      fun k action s s' hk haction hs hstep => idle_kept hstep hs fun htake =>
        hnever ⟨k, hk, htake ▸ haction⟩
  cases (sound e n).woken hmore with
  | inl hready => exact hnever (h.wakes n hidle hready)
  | inr hsignalling =>
      obtain ⟨k, hk, haction⟩ := h.signals n hsignalling
      obtain ⟨hstepped, -, -⟩ := stepped_of_step (Execution.step_of_action haction)
      have hready : 0 < (e.state (k + 1)).queue.readyFd := by
        generalize (e.state k).queue.called .signal = called at hstepped
        generalize (e.state (k + 1)).queue = q at hstepped ⊢
        cases hstepped with
        | signal _ => exact writeOne_pos _
      obtain ⟨m, hm, htake⟩ :=
        h.wakes (k + 1) (hidles (k + 1) (Nat.le_succ_of_le hk)) hready
      exact hnever ⟨m, Nat.le_trans (Nat.le_succ_of_le hk) hm, htake⟩

/-- What is in the queue while `on_ready` is not running, runs. -/
theorem Fair.drained (h : Fair e) (hidle : (e.state n).queue.onReady = .idle) :
    ∃ m, n ≤ m ∧ (e.state n).pushed <+: (e.state m).ran := by
  by_cases hmore : (e.state n).queue.queue = []
  · refine ⟨n, Nat.le_refl n, ?_⟩
    simp [(sound e n).fifo, DeferredCallbackQueue.pending, hidle, hmore, OnReady.callbacks]
  · obtain ⟨k, hk, htake⟩ := h.called hidle hmore
    have hnext := stepped_of_step (Execution.step_of_action htake)
    have hempty : (e.state (k + 1)).queue.queue = [] := by
      obtain ⟨hstepped, -, -⟩ := hnext
      generalize (e.state k).queue.called .take = called at hstepped
      generalize (e.state (k + 1)).queue = q at hstepped ⊢
      cases hstepped with
      | take _ => rfl
    obtain ⟨m, hm, -, hran⟩ := h.returned (k + 1)
    refine ⟨m, Nat.le_trans (Nat.le_succ_of_le hk) hm, ?_⟩
    have htaken : (e.state (k + 1)).pushed = (e.state m).ran := by
      rw [(sound e (k + 1)).fifo, DeferredCallbackQueue.pending, hempty, List.append_nil, hran]
    exact htaken ▸ pushed_mono (Nat.le_succ_of_le hk)

/-- Whatever was pushed, runs. -/
theorem Fair.ran (h : Fair e) (n : Nat) : ∃ m, n ≤ m ∧ (e.state n).pushed <+: (e.state m).ran := by
  obtain ⟨k, hk, hidle, -⟩ := h.returned n
  obtain ⟨m, hm, hran⟩ := h.drained hidle
  exact ⟨m, Nat.le_trans hk hm, (pushed_mono hk).trans hran⟩

/-- In every execution the callbacks that were pushed are at all times those that ran and then
those that are pending, in order, and a callback in the queue has the eventfd signalled or a thread
that will signal it; if the threads are scheduled, every callback that was pushed has run in the
end. -/
theorem every_callback_runs (e : Execution step (start : Deferral C)) :
    (∀ n, (e.state n).pushed = (e.state n).ran ++ (e.state n).queue.pending ∧
        (e.state n).queue.Woken) ∧
      (Fair e → ∀ n, ∃ m, n ≤ m ∧ (e.state n).pushed <+: (e.state m).ran) :=
  ⟨fun n => ⟨(sound e n).fifo, (sound e n).woken⟩, Fair.ran⟩

end Progress

namespace Sample

/-- The first callback is taken before it is signalled, the second comes while the first runs. -/
def actions : List (Action Nat) :=
  [.push 7, .take, .signal, .push 8, .run, .look, .signal, .take, .run, .look, .clear]

def execution : Execution step (start : Deferral Nat) :=
  .ofActions actions ⟨⟨[], 0, 0, .idle⟩, [7, 8], [7, 8]⟩ rfl

/-- After the actions everything rests. -/
theorem execution_rests {n : Nat} (h : 11 ≤ n) :
    execution.state n = ⟨⟨[], 0, 0, .idle⟩, [7, 8], [7, 8]⟩ := by
  have htake : actions.take n = actions := List.take_of_length_le h
  simp only [execution, Execution.ofActions, htake]
  rfl

/-- The sample is fair. -/
theorem execution_fair : Fair execution where
  signals n hsignalling := by
    by_cases hn : n ≤ 6
    · exact ⟨6, hn, rfl⟩
    · exfalso
      by_cases hlast : 11 ≤ n
      · rw [execution_rests hlast] at hsignalling
        cases hsignalling
      · obtain rfl | rfl | rfl | rfl : n = 7 ∨ n = 8 ∨ n = 9 ∨ n = 10 := by omega
        all_goals cases hsignalling
  continues n hbusy := by
    by_cases hn : n ≤ 10
    · exact ⟨10, .clear, hn, rfl, trivial⟩
    · exact absurd (by rw [execution_rests (by omega)]) hbusy
  wakes n _ hready := by
    by_cases hn : n ≤ 7
    · exact ⟨7, hn, rfl⟩
    · by_cases hlast : 11 ≤ n
      · rw [execution_rests hlast] at hready
        cases hready
      · obtain rfl | rfl | rfl : n = 8 ∨ n = 9 ∨ n = 10 := by omega
        all_goals contradiction

/-- Both callbacks of the sample run. -/
theorem execution_runs_all : ∃ m, 5 ≤ m ∧ [7, 8] <+: (execution.state m).ran :=
  (every_callback_runs execution).2 execution_fair 5

end Sample

end Deferral

end Codon.Async
