import Codon.Grpc.RateLimit

/-!
# Requests to poll as soon as possible

`poll_asap` asks for a poll by clearing the times of the last and the next poll. The
response that is outstanding then sets the next poll to the polling period, or to the backoff,
counted from zero. The request is served by the first dispatch that can serve it, unless the
delay after `enable_polling` or the rate limit holds that dispatch back, if the control time
has reached this time (`polled_of_requested`).
-/

namespace Codon.Grpc

open Codon.Library

/-- The call makes a `poll_asap` call. -/
def Call.requestsPoll (p : GrpcPoller) : Call → Bool
  | .pollAsap | .forceRetry => true
  | .updateGrpcPollingPolicy pollingPeriod minRetryBackoff maxRetryBackoff shouldPollAsap _ =>
      decide (0 < minRetryBackoff ∧ minRetryBackoff ≤ maxRetryBackoff ∧
        ¬ (pollingPeriod = p.config.grpcPollingPeriod ∧
          minRetryBackoff = p.config.minRetryBackoff ∧
          maxRetryBackoff = p.config.maxRetryBackoff)) &&
        p.pollingEnabled && shouldPollAsap
  | .enablePolling | .disablePolling => false

namespace GrpcPoller

variable {p : GrpcPoller} {c : Call} {calls : List Call} {ok : Bool} {draw : Draw}

/-- What `poll_asap` leaves. -/
structure Asked (p : GrpcPoller) : Prop where
  last_poll_time : p.lastPollTime = 0
  next_poll_time : p.nextPollTime = 0
  retry_count : p.retryCount = 0

/-- Asking for a poll is remembered. -/
theorem poll_asap_asked (p : GrpcPoller) : p.pollAsap.Asked := ⟨rfl, rfl, rfl⟩

/-- So is a call that requests one. -/
theorem call_asked_of_requests_poll (h : c.requestsPoll p = true) : (p.call c).Asked := by
  cases c with
  | enablePolling | disablePolling => cases h
  | pollAsap | forceRetry => exact poll_asap_asked p
  | updateGrpcPollingPolicy pollingPeriod minRetryBackoff maxRetryBackoff shouldPollAsap draw =>
      simp only [Call.requestsPoll, Bool.and_eq_true, decide_eq_true_eq] at h
      obtain ⟨⟨⟨hmin, hle, hnew⟩, henabled⟩, hshould⟩ := h
      simp only [call, updateGrpcPollingPolicy]
      rw [if_neg (by omega), if_neg (by omega), if_neg (by omega), if_neg hnew,
        if_pos ⟨henabled, hshould⟩]
      exact poll_asap_asked _

/-- A call of the owner leaves the next poll where it is or asks for one. -/
theorem call_next_poll_time (p : GrpcPoller) (c : Call) :
    (p.call c).nextPollTime = p.nextPollTime ∨ (p.call c).nextPollTime = 0 := by
  cases c with
  | enablePolling =>
      simp only [call, enablePolling]
      split <;> exact .inl rfl
  | disablePolling => exact .inl rfl
  | pollAsap | forceRetry => exact .inr rfl
  | updateGrpcPollingPolicy pollingPeriod minRetryBackoff maxRetryBackoff shouldPollAsap draw =>
      simp only [call, updateGrpcPollingPolicy]
      split_ifs
      all_goals first | exact .inl rfl | exact .inr rfl

/-- No call of the owner takes a request back. -/
theorem Asked.call (h : p.Asked) (c : Call) : (p.call c).Asked := by
  cases c with
  | enablePolling =>
      simp only [GrpcPoller.call, enablePolling]
      split
      · exact ⟨h.last_poll_time, h.next_poll_time, h.retry_count⟩
      · exact ⟨h.last_poll_time, h.next_poll_time, rfl⟩
  | disablePolling => exact ⟨h.last_poll_time, h.next_poll_time, h.retry_count⟩
  | pollAsap | forceRetry => exact poll_asap_asked p
  | updateGrpcPollingPolicy pollingPeriod minRetryBackoff maxRetryBackoff shouldPollAsap draw =>
      simp only [GrpcPoller.call, updateGrpcPollingPolicy]
      split_ifs
      all_goals first
        | exact poll_asap_asked _
        | exact ⟨h.last_poll_time, h.next_poll_time, h.retry_count⟩

/-- What was asked is not forgotten by later calls. -/
theorem Asked.run_call (h : p.Asked) (calls : List Call) : (run GrpcPoller.call p calls).Asked :=
  run_invariant h fun _ c h => h.call c

/-- The poller in which the callback is invoked. -/
def inCallback (p : GrpcPoller) : GrpcPoller :=
  let p := p.resetWaiting true
  { p with lastSuccessTime := p.lastPollTime }

/-- The time from the last poll to the next that a response sets when nothing has failed before. -/
def timeUntilCall (p : GrpcPoller) (ok : Bool) (draw : Draw) : Int :=
  if ok then p.pollingPeriod else p.backoff draw

/-- Once asked, the next poll is at the time given. -/
theorem set_next_poll_time_of_asked {q : GrpcPoller} (hlast : q.lastPollTime = 0)
    (hnext : q.nextPollTime = 0) (timeUntilCall : Int) :
    (q.setNextPollTime timeUntilCall).nextPollTime = timeUntilCall := by
  rw [set_next_poll_time_eq]
  dsimp only
  split_ifs with hzero
  · rw [hlast, Int.zero_add]
  · rw [hnext, not_not.1 hzero]

/-- After a request in its callback, a successful response counts the polling period from zero. -/
theorem on_response_of_callback_asked (h : (run call p.inCallback calls).Asked) :
    (p.onResponse true calls draw).nextPollTime = p.pollingPeriod := by
  have hperiod : (p.resetWaiting true).pollingPeriod = p.pollingPeriod := by rw [reset_waiting_eq]
  have hretry : ¬ 0 < ((run call p.inCallback calls).resetWaiting false).retryCount := by
    rw [reset_waiting_eq]
    simp [h.retry_count]
  have hresponse : p.onResponse true calls draw =
      let q := (run call p.inCallback calls).resetWaiting false
      { q with retryCount := 0, pollAsapCount := 0 }.setNextPollTime
        (if 0 < q.retryCount then draw.dis 0 q.pollingPeriod + q.pollingPeriod.tdiv 2
        else (p.resetWaiting true).pollingPeriod) := rfl
  rw [hresponse]
  dsimp only
  rw [if_neg hretry, hperiod]
  apply set_next_poll_time_of_asked
  · rw [reset_waiting_eq]
    exact h.last_poll_time
  · rw [reset_waiting_eq]
    exact h.next_poll_time

/-- A response to a poll that was asked again schedules the next one after it. -/
theorem Asked.on_response (h : p.Asked) :
    (p.onResponse ok calls draw).nextPollTime = p.timeUntilCall ok draw := by
  cases ok with
  | true =>
      refine on_response_of_callback_asked (Asked.run_call ?_ calls)
      rw [inCallback, reset_waiting_eq]
      exact ⟨h.last_poll_time, h.next_poll_time, h.retry_count⟩
  | false =>
      have hbackoff : ((p.resetWaiting true).resetWaiting false).backoff draw = p.backoff draw := by
        rw [reset_waiting_eq, reset_waiting_eq]
        rfl
      simp only [onResponse, Bool.false_eq_true, if_false]
      rw [hbackoff]
      apply set_next_poll_time_of_asked
      · rw [reset_waiting_eq, reset_waiting_eq]
        exact h.last_poll_time
      · rw [reset_waiting_eq, reset_waiting_eq]
        exact h.next_poll_time

/-- Neither the delay after `enable_polling` nor the rate limit holds the dispatch back. -/
def Permits (p : GrpcPoller) (controlTime : Int) (draw : Draw) : Prop :=
  if p.justEnabledPolling then p.reenableTime controlTime draw ≤ controlTime
  else p.rateLimitTime ≤ controlTime

instance (p : GrpcPoller) (controlTime : Int) (draw : Draw) :
    Decidable (p.Permits controlTime draw) :=
  inferInstanceAs (Decidable (if p.justEnabledPolling then
    p.reenableTime controlTime draw ≤ controlTime else p.rateLimitTime ≤ controlTime))

end GrpcPoller

def Action.isDispatch : Action → Bool
  | .dispatch _ _ => true
  | _ => false

def Action.isResponse : Action → Bool
  | .response _ _ _ => true
  | _ => false

namespace Session

variable {s : Session} {actions : List Action} {time bound : Int}

/-- `Requested s actions time`: a `poll_asap` call was made in the course of the actions and is to
be served by the next dispatch, where `time` is how long after time zero the response that came
in between put the next poll. -/
inductive Requested (s : Session) : List Action → Int → Prop where
  /-- The call is made when no response is outstanding. -/
  | idle {c : Call} {between : List Action} (hcall : c.requestsPoll s.poller = true)
      (hidle : s.poller.waitingOnResponse = false)
      (hbetween : ∀ a ∈ between, a.isDispatch = false) :
      Requested s (.call c :: between) 0
  /-- The call is made while a response is outstanding. -/
  | outstanding {c : Call} {meanwhile after : List Action} {ok : Bool} {calls : List Call}
      {draw : Draw} (hcall : c.requestsPoll s.poller = true)
      (hwaiting : s.poller.waitingOnResponse = true)
      (hmeanwhile : ∀ a ∈ meanwhile, a.isResponse = false)
      (hafter : ∀ a ∈ after, a.isDispatch = false) :
      Requested s (.call c :: meanwhile ++ .response ok calls draw :: after)
        ((run step s (.call c :: meanwhile)).poller.timeUntilCall ok draw)
  /-- The call is made by the callback. -/
  | callback {before calls : List Call} {c : Call} {after : List Action} {draw : Draw}
      (hcall : c.requestsPoll (run GrpcPoller.call s.poller.inCallback before) = true)
      (hwaiting : s.poller.waitingOnResponse = true)
      (hafter : ∀ a ∈ after, a.isDispatch = false) :
      Requested s (.response true (before ++ c :: calls) draw :: after) s.poller.pollingPeriod

/-- No response is outstanding, and the next poll is set to a time up to the bound. -/
structure DueBy (bound : Int) (s : Session) : Prop where
  idle : s.poller.waitingOnResponse = false
  next_poll_time : s.poller.nextPollTime ≤ bound

/-- No step other than a dispatch moves the poll past its bound. -/
theorem DueBy.step (h : s.DueBy bound) (hbound : 0 ≤ bound) {a : Action}
    (ha : a.isDispatch = false) : (s.step a).DueBy bound := by
  cases a with
  | dispatch => cases ha
  | call c =>
      refine ⟨(s.poller.call_keeps c).waiting_on_response.trans h.idle, ?_⟩
      rcases s.poller.call_next_poll_time c with hsame | hzero
      · exact hsame.trans_le h.next_poll_time
      · exact hzero.trans_le hbound
  | response ok calls draw =>
      rw [Session.step, h.idle]
      exact h

/-- Hence no run without a dispatch does. -/
theorem DueBy.run (h : s.DueBy bound) (hbound : 0 ≤ bound)
    (hactions : ∀ a ∈ actions, a.isDispatch = false) :
    (Library.run Session.step s actions).DueBy bound :=
  run_invariant_of_mem h fun a ha _ h => h.step hbound (hactions a ha)

/-- A response is outstanding and a poll has been asked for. -/
structure AskedMeanwhile (s : Session) : Prop where
  waiting : s.poller.waitingOnResponse = true
  asked : s.poller.Asked

/-- What was asked while a call was out stays asked until its response. -/
theorem AskedMeanwhile.step (h : s.AskedMeanwhile) {a : Action} (ha : a.isResponse = false) :
    (s.step a).AskedMeanwhile := by
  cases a with
  | dispatch controlTime draw =>
      have hsame : (s.poller.dispatch controlTime draw).poller = s.poller :=
        GrpcPoller.dispatch_of_waiting h.waiting
      refine ⟨?_, ?_⟩
      · rw [Session.step, hsame]
        exact h.waiting
      · rw [Session.step, hsame]
        exact h.asked
  | call c =>
      exact ⟨(s.poller.call_keeps c).waiting_on_response.trans h.waiting, h.asked.call c⟩
  | response => cases ha

/-- The response leaves the next poll due at the time that it set. -/
theorem DueBy.of_response {ok : Bool} {calls : List Call} {draw : Draw}
    (hwaiting : s.poller.waitingOnResponse = true)
    (htime : (s.poller.onResponse ok calls draw).nextPollTime = time) :
    (s.step (.response ok calls draw)).DueBy (max 0 time) := by
  rw [Session.step, if_pos hwaiting]
  exact ⟨s.poller.on_response_waiting ok calls draw, htime.trans_le (le_max_right 0 time)⟩

/-- A request leaves the next poll due at the time that the response in between set. -/
theorem Requested.due_by (h : s.Requested actions time) :
    (run step s actions).DueBy (max 0 time) := by
  cases h with
  | @idle c between hcall hidle hbetween =>
      have hasked := GrpcPoller.call_asked_of_requests_poll hcall
      have hdue : (s.step (.call c)).DueBy (max 0 0) :=
        ⟨(s.poller.call_keeps c).waiting_on_response.trans hidle,
          hasked.next_poll_time.trans_le (le_max_left 0 0)⟩
      exact hdue.run (le_max_left 0 0) hbetween
  | @outstanding c meanwhile after ok calls draw hcall hwaiting hmeanwhile hafter =>
      have hasked : (s.step (.call c)).AskedMeanwhile :=
        ⟨(s.poller.call_keeps c).waiting_on_response.trans hwaiting,
          GrpcPoller.call_asked_of_requests_poll hcall⟩
      have houtstanding : (run step s (.call c :: meanwhile)).AskedMeanwhile := by
        rw [run_cons]
        exact run_invariant_of_mem hasked fun a ha _ h => h.step (hmeanwhile a ha)
      rw [run_append, run_cons]
      exact (DueBy.of_response houtstanding.waiting houtstanding.asked.on_response).run
        (le_max_left 0 _) hafter
  | @callback before calls c after draw hcall hwaiting hafter =>
      have hasked : (run GrpcPoller.call s.poller.inCallback (before ++ c :: calls)).Asked := by
        rw [run_append, run_cons]
        exact (GrpcPoller.call_asked_of_requests_poll hcall).run_call calls
      rw [run_cons]
      exact (DueBy.of_response hwaiting (GrpcPoller.on_response_of_callback_asked hasked)).run
        (le_max_left 0 _) hafter

/-- A request to poll as soon as possible is served by the first dispatch that can serve it. -/
theorem polled_of_requested (h : s.Requested actions time) {controlTime : Int} {draw : Draw}
    (henabled : (run step s actions).poller.pollingEnabled = true)
    (hpermits : (run step s actions).poller.Permits controlTime draw)
    (hnonneg : 0 ≤ controlTime) (htime : time ≤ controlTime) :
    ((run step s actions).poller.dispatch controlTime draw).polled = true := by
  have hdue := h.due_by
  refine GrpcPoller.dispatch_polled_iff.2 ⟨henabled, hdue.idle, ?_⟩
  rw [GrpcPoller.Permits] at hpermits
  split_ifs at hpermits ⊢
  · exact hpermits
  · exact ⟨hdue.next_poll_time.trans (max_le hnonneg htime), hpermits⟩

end Session

/-- A request made while a response is outstanding is served by the dispatch that follows it. -/
theorem polled_after_request_meanwhile :
    ∃ p, GrpcPoller.init tenSecondLimit .least = some p ∧
      ((run Session.step (run Session.step (.start p) [.dispatch (100 * billion) .least])
        (.call .pollAsap :: [.dispatch (101 * billion) .least] ++
          .response true [] .least :: [])).poller.dispatch (102 * billion) .least).polled = true :=
  ⟨_, rfl, Session.polled_of_requested
    (.outstanding rfl rfl (by decide) (by decide)) rfl (by decide +kernel) (by decide +kernel)
    (by decide +kernel)⟩

/-- The rate limit holds a request back that is made right after a successful poll. -/
theorem not_polled_within_rate_limit :
    ∃ p, GrpcPoller.init tenSecondLimit .least = some p ∧
      let s := run Session.step (.start p)
        [.dispatch (100 * billion) .least, .response true [] .least]
      s.poller.pollingEnabled = true ∧ s.poller.waitingOnResponse = false ∧
        ((s.step (.call .pollAsap)).poller.dispatch (101 * billion) .least).polled = false :=
  ⟨_, rfl, by decide +kernel⟩

end Codon.Grpc
