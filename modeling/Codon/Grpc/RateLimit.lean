import Codon.Grpc.Poller
import Mathlib.Data.List.Chain

/-!
# The rate limit of the poller

The rate limit rests on the time of the last success, which `on_response` takes from the time
of the last poll. It is kept in every run in which no response succeeds whose poll time was
cleared meanwhile by `poll_asap`, and in which no first dispatch after `enable_polling` polls
before the limit has passed (`rate_limited_of_respects_limit`).
-/

namespace Codon.Grpc

open Codon.Library

/-- In a list of polls, the newest first, each poll comes at least `minDelay` after the one
before it if that one succeeded. -/
def RateLimited (minDelay : Int) (polls : List Poll) : Prop :=
  polls.IsChain fun next poll =>
    poll.status = some true → poll.controlTime + minDelay ≤ next.controlTime

instance (minDelay : Int) (polls : List Poll) : Decidable (RateLimited minDelay polls) :=
  inferInstanceAs (Decidable (List.IsChain _ _))

namespace Session

variable {s : Session} {minDelay : Int}

/-- The step does not lead past the rate limit: the first dispatch after `enable_polling` comes
after the limit or before the poll is due, and a poll that succeeds was issued no later than
the time which `last_poll_time_tok` holds. -/
def RespectsLimit (s : Session) : Action → Prop
  | .dispatch controlTime draw =>
      s.poller.pollingEnabled = true ∧ s.poller.waitingOnResponse = false ∧
          s.poller.justEnabledPolling = true →
        controlTime < s.poller.reenableTime controlTime draw ∨
          s.poller.rateLimitTime ≤ controlTime
  | .response true _ _ =>
      s.poller.waitingOnResponse = true →
        ∀ poll ∈ s.polls.head?, poll.controlTime ≤ s.poller.lastPollTime
  | _ => True

instance (s : Session) : (a : Action) → Decidable (s.RespectsLimit a)
  | .dispatch controlTime draw =>
      inferInstanceAs (Decidable (_ ∧ _ ∧ _ →
        controlTime < s.poller.reenableTime controlTime draw ∨
          s.poller.rateLimitTime ≤ controlTime))
  | .response true _ _ =>
      inferInstanceAs
        (Decidable (_ → ∀ poll ∈ s.polls.head?, poll.controlTime ≤ s.poller.lastPollTime))
  | .response false _ _ | .call _ => inferInstanceAs (Decidable True)

/-- The polls so far kept the rate limit, and the time of the last success accounts for the
newest of them. -/
structure WithinLimit (minDelay : Int) (s : Session) : Prop where
  rate_limited : RateLimited minDelay s.polls
  last_success_time : ∀ poll ∈ s.polls.head?,
    poll.status = some true → poll.controlTime ≤ s.poller.lastSuccessTime
  min_delay : s.poller.config.minDelayBetweenSuccessfulCallsNanos = minDelay

/-- A poll issued at a time that the rate limit admits. -/
theorem rate_limited_cons (h : s.WithinLimit minDelay) {controlTime : Int}
    (hlimit : s.poller.rateLimitTime ≤ controlTime) :
    RateLimited minDelay (⟨controlTime, none⟩ :: s.polls) := by
  refine List.isChain_cons.2 ⟨fun poll hpoll hstatus => ?_, h.rate_limited⟩
  calc poll.controlTime + minDelay
      ≤ s.poller.lastSuccessTime + minDelay := by
        have := h.last_success_time poll hpoll hstatus
        omega
    _ ≤ controlTime := by
        rw [← h.min_delay]
        exact hlimit

/-- The response to a poll does not change when it was issued. -/
theorem rate_limited_settle {polls : List Poll} (ok : Bool) (h : RateLimited minDelay polls) :
    RateLimited minDelay (settle ok polls) := by
  cases polls with
  | nil => exact h
  | cons poll polls =>
      rw [RateLimited, List.isChain_cons] at h
      exact List.isChain_cons.2 h

/-- A dispatch keeps the limit while it respects it. -/
theorem dispatch_within_limit (h : s.WithinLimit minDelay) {controlTime : Int} {draw : Draw}
    (hrespects : s.RespectsLimit (.dispatch controlTime draw)) :
    (s.step (.dispatch controlTime draw)).WithinLimit minDelay := by
  obtain ⟨hsuccess, hconfig⟩ := s.poller.dispatch_rate_limit controlTime draw
  cases hpolled : (s.poller.dispatch controlTime draw).polled with
  | false =>
      simp only [step, hpolled, Bool.false_eq_true, if_false]
      exact ⟨h.rate_limited, hsuccess ▸ h.last_success_time, hconfig ▸ h.min_delay⟩
  | true =>
      obtain ⟨henabled, hidle, hdue⟩ := GrpcPoller.dispatch_polled_iff.1 hpolled
      have hlimit : s.poller.rateLimitTime ≤ controlTime := by
        split at hdue
        next hjust => exact (hrespects ⟨henabled, hidle, hjust⟩).resolve_left (not_lt.2 hdue)
        next => exact hdue.2
      simp only [step, hpolled, if_true]
      refine ⟨rate_limited_cons h hlimit, fun poll hpoll hstatus => ?_, hconfig ▸ h.min_delay⟩
      cases hpoll
      cases hstatus

/-- So does a response. -/
theorem response_within_limit (h : s.WithinLimit minDelay) {ok : Bool} {calls : List Call}
    {draw : Draw} (hrespects : s.RespectsLimit (.response ok calls draw)) :
    (s.step (.response ok calls draw)).WithinLimit minDelay := by
  obtain ⟨hsuccess, hdelay⟩ := s.poller.on_response_rate_limit ok calls draw
  rw [step]
  split_ifs with hwaiting
  · refine ⟨rate_limited_settle ok h.rate_limited, fun poll hpoll hstatus => ?_,
      hdelay.trans h.min_delay⟩
    cases hpolls : s.polls with
    | nil =>
        rw [hpolls] at hpoll
        cases hpoll
    | cons newest polls =>
        rw [hpolls] at hpoll
        cases hpoll
        cases hstatus
        rw [hsuccess, if_pos rfl]
        exact hrespects hwaiting newest (by rw [hpolls]; rfl)
  · exact h

/-- A call of the user always does. -/
theorem call_within_limit (h : s.WithinLimit minDelay) (c : Call) :
    (s.step (.call c)).WithinLimit minDelay :=
  have hkeeps := s.poller.call_keeps c
  ⟨h.rate_limited, hkeeps.last_success_time ▸ h.last_success_time,
    hkeeps.min_delay.trans h.min_delay⟩

/-- Hence every action that respects the limit keeps it. -/
theorem step_within_limit (h : s.WithinLimit minDelay) (a : Action)
    (hrespects : s.RespectsLimit a) : (s.step a).WithinLimit minDelay := by
  cases a with
  | dispatch => exact dispatch_within_limit h hrespects
  | call c => exact call_within_limit h c
  | response => exact response_within_limit h hrespects

/-- A poller that has not polled is within its limit. -/
theorem start_within_limit (p : GrpcPoller) :
    (start p).WithinLimit p.config.minDelayBetweenSuccessfulCallsNanos :=
  ⟨.nil, fun _ hpoll => (nomatch hpoll), rfl⟩

/-- A dispatch that follows `enable_polling` and a poll that has just succeeded keeps the rate
limit exactly if it respects it. -/
theorem dispatch_rate_limited_iff (h : s.WithinLimit minDelay) {controlTime : Int} {draw : Draw}
    (hready : s.poller.pollingEnabled = true ∧ s.poller.waitingOnResponse = false)
    (hnewest : s.polls.head? = some ⟨s.poller.lastSuccessTime, some true⟩) :
    RateLimited minDelay (s.step (.dispatch controlTime draw)).polls ↔
      s.RespectsLimit (.dispatch controlTime draw) := by
  refine ⟨fun hlimited ⟨_, _, hjust⟩ => ?_, fun hrespects =>
    (dispatch_within_limit h hrespects).rate_limited⟩
  by_contra hneither
  rw [not_or, not_lt] at hneither
  have hpolled : (s.poller.dispatch controlTime draw).polled = true :=
    GrpcPoller.dispatch_polled_iff.2 ⟨hready.1, hready.2, by rw [if_pos hjust]; exact hneither.1⟩
  simp only [step, hpolled, if_true] at hlimited
  have hdelay := (List.isChain_cons.1 hlimited).1 _ hnewest rfl
  rw [← h.min_delay] at hdelay
  exact hneither.2 hdelay

/-- Every poll after a successful one comes at least the configured delay later, in every run
whose steps respect the limit. -/
theorem rate_limited_of_respects_limit {config : GrpcPollerConfig} {draw : Draw} {p : GrpcPoller}
    (hinit : GrpcPoller.init config draw = some p) {actions : List Action}
    (hrespects : Along step RespectsLimit (start p) actions) :
    RateLimited config.minDelayBetweenSuccessfulCallsNanos (run step (start p) actions).polls := by
  have hconfig : p.config = config := GrpcPoller.init_config hinit
  have hstart := start_within_limit p
  rw [hconfig] at hstart
  exact (hrespects.invariant hstart fun _ a h hrespects =>
    step_within_limit h a hrespects).rate_limited

end Session

/-- A poller that makes a call every minute, and no two successful ones within ten seconds. -/
def tenSecondLimit : GrpcPollerConfig where
  grpcPollingPeriod := 60 * billion
  minDelayBetweenSuccessfulCallsNanos := 10 * billion
  randomizePollingPeriod := false
  pollingPeriodJitter _ := 0
  randomizeRetryBackoff := false

/-- The rate limit is kept when the first two polls succeed and polling is enabled again later. -/
theorem rate_limited_ten_seconds :
    ∃ p, GrpcPoller.init tenSecondLimit .least = some p ∧
      RateLimited tenSecondLimit.minDelayBetweenSuccessfulCallsNanos
        (run Session.step (.start p)
          [.dispatch (100 * billion) .least, .response true [.pollAsap] .least,
            .dispatch (160 * billion) .least, .response true [] .least, .call .disablePolling,
            .call .enablePolling, .dispatch (175 * billion) .least]).polls :=
  ⟨_, rfl, Session.rate_limited_of_respects_limit rfl (by decide +kernel)⟩

/-- `poll_asap` while a response is outstanding clears the time of the poll, which succeeds and is
then followed by another one a second later. -/
theorem not_rate_limited_of_poll_asap :
    ∃ p, GrpcPoller.init tenSecondLimit .least = some p ∧
      (run Session.step (.start p)
        [.dispatch (100 * billion) .least, .call .pollAsap, .response true [] .least,
          .dispatch (101 * billion) .least]).polls =
        [⟨101 * billion, none⟩, ⟨100 * billion, some true⟩] ∧
      ¬ RateLimited tenSecondLimit.minDelayBetweenSuccessfulCallsNanos
        [⟨101 * billion, none⟩, ⟨100 * billion, some true⟩] :=
  ⟨_, rfl, by decide +kernel⟩

end Codon.Grpc
