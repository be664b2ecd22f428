import Codon.Grpc.Client
import Codon.Grpc.Poller

/-!
# A poller and its client

The poller waits for a response from the moment it hands a call to its client, and `dispatch`
ignores what `async` returns. Read `tracked_iff`: the poller waits for a call that is outstanding
throughout a run exactly if the client accepts every call that it makes. After a call that was
refused the poller never polls again (`wedged_forever`).
-/

namespace Codon.Grpc

open Codon.Library

variable {P E : Type} [GrpcEndpointProvider P E]

/-- Whose callback a call runs: the poller's `on_response`, or one of another user of the client. -/
inductive Caller where
  | poller
  | other
deriving DecidableEq

/-- A poller with its client, which others may use as well. -/
structure PollingClient (P : Type) where
  poller : GrpcPoller
  client : GrpcClient P Caller

/-- What happens to them: a dispatch, which polls with these results, a call of the poller's owner,
a call to `async` by another user, or a response with what the callback calls. -/
inductive PollingEvent (E : Type) where
  | dispatch (controlTime : Int) (draw : Draw) (reconnection : Reconnection E) (rpc : Bool)
      (now : Int)
  | call (c : Call)
  | async (a : Async Unit E)
  | complete (tag : Nat) (done : Completion E) (calls : List Call) (draw : Draw)

namespace PollingClient

/-- What `dispatch` hands to the client. -/
def poll (reconnection : Reconnection E) (rpc : Bool) (now : Int) : Async Caller E :=
  ⟨some .poller, reconnection, rpc, now⟩

/-- A call to `async` by another user. -/
def byOther (a : Async Unit E) : Async Caller E :=
  { a with callback := a.callback.map fun _ => .other }

def step (s : PollingClient P) : PollingEvent E → PollingClient P
  | .dispatch controlTime draw reconnection rpc now =>
      let dispatched := s.poller.dispatch controlTime draw
      { poller := dispatched.poller
        client :=
          if dispatched.polled then (s.client.async (poll reconnection rpc now)).client
          else s.client }
  | .call c => { s with poller := s.poller.call c }
  | .async a => { s with client := (s.client.async (byOther a)).client }
  | .complete tag done calls draw =>
      let completed := s.client.complete tag done
      { poller :=
          if completed.ran = some .poller then s.poller.onResponse (done.status = .ok) calls draw
          else s.poller
        client := completed.client }

/-- The poller's `on_response` is the callback of the outstanding call with this tag. -/
def Polls (client : GrpcClient P Caller) (tag : Nat) : Prop :=
  (client.outstandingCalls.lookup tag).map (·.callback) = some .poller

/-- The poller waits only while a call of its own is outstanding. -/
def Tracked (s : PollingClient P) : Prop :=
  s.poller.waitingOnResponse = true → ∃ tag, Polls s.client tag

/-- The client accepts the call if the event is a dispatch that makes one. -/
def PollAccepted (s : PollingClient P) : PollingEvent E → Prop
  | .dispatch controlTime draw reconnection rpc now =>
      (s.poller.dispatch controlTime draw).polled = true →
        s.client.Accepts (poll reconnection rpc now)
  | .call _ | .async _ | .complete _ _ _ _ => True

/-- A session of a new poller and a new client. -/
def start (poller : GrpcPoller) (endpointProvider : P) (maxOutstandingCalls : UInt64) :
    PollingClient P :=
  ⟨poller, .create endpointProvider maxOutstandingCalls⟩

/-! ## The poller's outstanding call -/

variable {client : GrpcClient P Caller} {s : PollingClient P} {tag : Nat}

/-- A call of another user leaves the poller's calls alone. -/
theorem polls_async_by_other (h : client.Tagged) (a : Async Unit E) (tag : Nat) :
    Polls (client.async (byOther a)).client tag ↔ Polls client tag := by
  rcases client.async_calls h (byOther a) with ⟨-, hcalls, -⟩ | ⟨call, hstarted, hcalls, -⟩
  · rw [Polls, hcalls, Polls]
  · have hother : call.callback = .other := by
      have hcallback := GrpcClient.callback_of_started hstarted
      rw [byOther, Option.map_eq_some_iff] at hcallback
      obtain ⟨_, -, hother⟩ := hcallback
      exact hother.symm
    by_cases heq : tag = client.lastTag + 1
    · subst heq
      refine iff_of_false ?_ ?_
      · simp [Polls, hcalls, hother]
      · simp [Polls, AList.lookup_eq_none.2 h.fresh]
    · rw [Polls, hcalls, AList.lookup_insert_ne heq, Polls]

/-- A call of the poller is outstanding once the client accepts it. -/
theorem polls_async_poll (h : client.Tagged) (reconnection : Reconnection E) (rpc : Bool)
    (now : Int) (tag : Nat) :
    Polls (client.async (poll reconnection rpc now)).client tag ↔
      Polls client tag ∨
        tag = client.lastTag + 1 ∧ client.Accepts (poll reconnection rpc now) := by
  have hstarted_iff := client.async_started_iff (poll reconnection rpc now)
  rcases client.async_calls h (poll reconnection rpc now) with
    ⟨hstarted, hcalls, -⟩ | ⟨call, hstarted, hcalls, -⟩
  · have hrefused : ¬ client.Accepts (poll reconnection rpc now) := fun haccepts => by
      simpa [hstarted] using hstarted_iff.2 haccepts
    rw [Polls, hcalls, Polls]
    simp [hrefused]
  · have haccepts : client.Accepts (poll reconnection rpc now) :=
      hstarted_iff.1 (by simp [hstarted])
    have hpoller : call.callback = .poller :=
      (Option.some.inj (GrpcClient.callback_of_started hstarted)).symm
    by_cases heq : tag = client.lastTag + 1
    · subst heq
      simp [Polls, hcalls, hpoller, haccepts]
    · rw [Polls, hcalls, AList.lookup_insert_ne heq, Polls]
      simp [heq]

/-- A response ends its call. -/
theorem polls_complete (client : GrpcClient P Caller) (tag' : Nat) (done : Completion E)
    (tag : Nat) :
    Polls (client.complete tag' done).client tag ↔ tag ≠ tag' ∧ Polls client tag := by
  rw [Polls, (client.complete_calls tag' done).1, Polls]
  by_cases heq : tag = tag'
  · rw [heq, AList.lookup_erase]
    simp
  · simp [heq, AList.lookup_erase_ne heq]

/-- The poller has at most one outstanding call, and none when it does not wait. -/
structure Sound (s : PollingClient P) : Prop where
  tagged : s.client.Tagged
  one : ∀ tag tag', Polls s.client tag → Polls s.client tag' → tag = tag'
  idle : s.poller.waitingOnResponse = false → ∀ tag, ¬ Polls s.client tag

/-- A poller and its client are sound at the start. -/
theorem Sound.start (poller : GrpcPoller) (endpointProvider : P) (maxOutstandingCalls : UInt64) :
    (start poller endpointProvider maxOutstandingCalls).Sound where
  tagged := .create endpointProvider maxOutstandingCalls
  one := nofun
  idle _ := nofun

/-- What an event does to the poller's waiting and to its outstanding calls. -/
inductive StepOutcome (s : PollingClient P) (event : PollingEvent E) (s' : PollingClient P) :
    Prop where
  | same (hwaiting : s'.poller.waitingOnResponse = s.poller.waitingOnResponse)
      (hpolls : ∀ tag, Polls s'.client tag ↔ Polls s.client tag)
      (haccepted : s.PollAccepted event)
  | polled (hidle : s.poller.waitingOnResponse = false)
      (hwaiting : s'.poller.waitingOnResponse = true)
      (hpolls : ∀ tag, Polls s'.client tag ↔ tag = s.client.lastTag + 1)
      (haccepted : s.PollAccepted event)
  | refused (hidle : s.poller.waitingOnResponse = false)
      (hwaiting : s'.poller.waitingOnResponse = true) (hpolls : ∀ tag, ¬ Polls s'.client tag)
      (hrefused : ¬ s.PollAccepted event)
  | responded (houtstanding : ∃ tag, Polls s.client tag)
      (hwaiting : s'.poller.waitingOnResponse = false) (hpolls : ∀ tag, ¬ Polls s'.client tag)
      (haccepted : s.PollAccepted event)

/-- What an event does to the poller and its client. -/
theorem step_outcome (h : s.Sound) (event : PollingEvent E) :
    StepOutcome s event (s.step event) := by
  cases event with
  | dispatch controlTime draw reconnection rpc now =>
      have hwaiting := s.poller.dispatch_waiting controlTime draw
      by_cases hpolled : (s.poller.dispatch controlTime draw).polled = true
      · have hidle := GrpcPoller.not_waiting_of_polled hpolled
        -- the poller waits from now on, whether or not the client takes the call
        have hwaiting' : (s.step (.dispatch controlTime draw reconnection rpc
            now)).poller.waitingOnResponse = true := by
          rw [step, hwaiting, hpolled, Bool.or_true]
        have hclient : (s.step (.dispatch controlTime draw reconnection rpc now)).client =
            (s.client.async (poll reconnection rpc now)).client := if_pos hpolled
        by_cases haccepts : s.client.Accepts (poll reconnection rpc now)
        · refine .polled hidle hwaiting' (fun tag => ?_) fun _ => haccepts
          rw [hclient, polls_async_poll h.tagged]
          simp [h.idle hidle tag, haccepts]
        · refine .refused hidle hwaiting' (fun tag => ?_) fun hall => haccepts (hall hpolled)
          rw [hclient, polls_async_poll h.tagged]
          simp [h.idle hidle tag, haccepts]
      · have hclient : (s.step (.dispatch controlTime draw reconnection rpc now)).client =
            s.client := if_neg hpolled
        refine .same ?_ (fun tag => by rw [hclient]) fun hall => absurd hall hpolled
        rw [step, hwaiting, Bool.eq_false_of_not_eq_true hpolled, Bool.or_false]
  | call c =>
      exact .same (s.poller.call_keeps c).waiting_on_response (fun _ => .rfl) trivial
  | async a => exact .same rfl (polls_async_by_other h.tagged a) trivial
  | complete tag done calls draw =>
      have hpolls := polls_complete s.client tag done
      -- only the completion of the poll itself calls the poller back
      by_cases hran : Polls s.client tag
      · have hpoller : (s.step (.complete tag done calls draw)).poller =
            s.poller.onResponse (done.status = .ok) calls draw :=
          if_pos ((s.client.complete_ran tag done).trans hran)
        refine .responded ⟨tag, hran⟩ ?_ (fun tag' hpolls' => ?_) trivial
        · rw [hpoller]
          exact s.poller.on_response_waiting _ calls draw
        · obtain ⟨hne, hpolls'⟩ := (hpolls tag').1 hpolls'
          exact hne (h.one tag' tag hpolls' hran)
      · have hpoller : (s.step (.complete tag done calls draw)).poller = s.poller :=
          if_neg fun h => hran ((s.client.complete_ran tag done).symm.trans h)
        refine .same (by rw [hpoller]) (fun tag' => ?_) trivial
        refine (hpolls tag').trans (and_iff_right_of_imp fun hpolls' heq => ?_)
        exact hran (heq ▸ hpolls')

/-- The calls of the client keep their tags. -/
theorem tagged_step (h : s.client.Tagged) (event : PollingEvent E) :
    (s.step event).client.Tagged := by
  cases event with
  | dispatch controlTime draw reconnection rpc now =>
      simp only [step]
      split
      · exact h.async _
      · exact h
  | call => exact h
  | async a => exact h.async _
  | complete tag done => exact h.complete tag done

/-- Each event keeps the pair sound. -/
theorem Sound.step (h : s.Sound) (event : PollingEvent E) : (s.step event).Sound := by
  have htagged := tagged_step h.tagged event
  cases step_outcome h event with
  | same hwaiting hpolls =>
      refine ⟨htagged, fun tag tag' => ?_, fun hidle tag => ?_⟩
      · rw [hpolls, hpolls]
        exact h.one tag tag'
      · rw [hpolls]
        exact h.idle (hwaiting.symm.trans hidle) tag
  | polled _ hwaiting hpolls =>
      refine ⟨htagged, fun tag tag' => ?_, fun hidle => ?_⟩
      · rw [hpolls, hpolls]
        exact fun htag htag' => htag.trans htag'.symm
      · rw [hwaiting] at hidle
        cases hidle
  | refused _ _ hpolls | responded _ _ hpolls =>
      exact ⟨htagged, fun tag _ htag => absurd htag (hpolls tag), fun _ => hpolls⟩

/-- An event keeps the poller waiting for an outstanding call only exactly if the client accepts the
call that it makes. -/
theorem tracked_step_iff (h : s.Sound) (htracked : s.Tracked) (event : PollingEvent E) :
    (s.step event).Tracked ↔ s.PollAccepted event := by
  cases step_outcome h event with
  | same hwaiting hpolls haccepted =>
      refine iff_of_true (fun hwaits => ?_) haccepted
      obtain ⟨tag, htag⟩ := htracked (hwaiting.symm.trans hwaits)
      exact ⟨tag, (hpolls tag).2 htag⟩
  | polled _ _ hpolls haccepted =>
      exact iff_of_true (fun _ => ⟨s.client.lastTag + 1, (hpolls _).2 rfl⟩) haccepted
  | refused _ hwaiting hpolls hrefused =>
      refine iff_of_false (fun htracked' => ?_) hrefused
      obtain ⟨tag, htag⟩ := htracked' hwaiting
      exact hpolls tag htag
  | responded _ hwaiting _ haccepted =>
      refine iff_of_true (fun hwaits => ?_) haccepted
      rw [hwaiting] at hwaits
      cases hwaits

/-- Throughout a run the poller waits only for a call that is outstanding exactly if the client
accepts every call that the poller makes. -/
theorem tracked_iff {config : GrpcPollerConfig} {draw : Draw} {poller : GrpcPoller}
    (hinit : GrpcPoller.init config draw = some poller) (endpointProvider : P)
    (maxOutstandingCalls : UInt64) (events : List (PollingEvent E)) :
    (∀ earlier, earlier <+: events →
        (run step (start poller endpointProvider maxOutstandingCalls) earlier).Tracked) ↔
      Along step PollAccepted (start poller endpointProvider maxOutstandingCalls) events := by
  have hidle : poller.waitingOnResponse = false := GrpcPoller.init_waiting hinit
  refine forall_prefix_iff_along (I := Sound) (fun _ event h _ => h.step event)
    (fun _ event h htracked => tracked_step_iff h htracked event)
    (.start poller endpointProvider maxOutstandingCalls) fun hwaits => ?_
  rw [start, hidle] at hwaits
  cases hwaits

/-- The default configuration, without jitter. -/
def hourlyPolling : GrpcPollerConfig where
  pollingPeriodJitter _ := 0

/-- The client accepts the poll, and another user's call is skipped while it is outstanding. -/
theorem tracked_while_other_skipped :
    ∃ poller, GrpcPoller.init hourlyPolling .least = some poller ∧
      let events : List (PollingEvent Unit) :=
        [.dispatch (100 * billion) .least ⟨(), true⟩ true 0,
          .async ⟨some (), ⟨(), true⟩, true, 0⟩]
      ∀ earlier, earlier <+: events →
        (run step (start poller (StaticGrpcEndpoint.mk "ground:443") 1) earlier).Tracked :=
  ⟨_, rfl, (tracked_iff (rfl : GrpcPoller.init hourlyPolling .least = _)
    (StaticGrpcEndpoint.mk "ground:443") 1 _).2
    ⟨fun _ => ⟨rfl, .inr rfl, by decide, rfl⟩, trivial, trivial⟩⟩

/-- The stub cannot be created when the first poll is due. -/
theorem waits_without_call :
    ∃ poller, GrpcPoller.init hourlyPolling .least = some poller ∧
      let events : List (PollingEvent Unit) :=
        [.dispatch (100 * billion) .least ⟨(), false⟩ true 0]
      ¬ (run step (start poller (StaticGrpcEndpoint.mk "ground:443") 1) events).Tracked := by
  refine ⟨_, rfl, fun htracked => ?_⟩
  obtain ⟨tag, htag⟩ := htracked (by decide +kernel)
  cases htag

/-- The poller waits though no call of its own is outstanding. -/
structure Wedged (s : PollingClient P) : Prop where
  sound : s.Sound
  waiting : s.poller.waitingOnResponse = true
  unanswered : ∀ tag, ¬ Polls s.client tag

/-- A wedged pair stays wedged. -/
theorem Wedged.step (h : s.Wedged) (event : PollingEvent E) : (s.step event).Wedged := by
  have hsound := h.sound.step event
  cases step_outcome h.sound event with
  | same hwaiting hpolls =>
      exact ⟨hsound, hwaiting.trans h.waiting,
        fun tag htag => h.unanswered tag ((hpolls tag).1 htag)⟩
  | polled hidle | refused hidle =>
      rw [h.waiting] at hidle
      cases hidle
  | responded houtstanding =>
      obtain ⟨tag, htag⟩ := houtstanding
      exact absurd htag (h.unanswered tag)

/-- A poller that waits though no call of its own is outstanding never polls again. -/
theorem wedged_forever (h : s.Wedged) (events : List (PollingEvent E)) (controlTime : Int)
    (draw : Draw) : ((run step s events).poller.dispatch controlTime draw).polled = false := by
  have hwedged : (run step s events).Wedged := run_invariant h fun _ event h => h.step event
  refine Bool.eq_false_of_not_eq_true fun hpolled => ?_
  have hidle := GrpcPoller.not_waiting_of_polled hpolled
  rw [hwedged.waiting] at hidle
  cases hidle

end PollingClient

end Codon.Grpc
