import Codon.Core
import Codon.Library.Run
import Mathlib.Data.Int.Order.Basic
import Mathlib.Order.MinMax

/-!
# The gRPC poller

`GrpcPoller` of `GrpcPoller.h`: a call to the ground is made when it is due, and its response
sets the time of the next. Times are `nano_t` values, taken without overflow. What the
random number generator draws is an argument of every function that draws, and so are the
calls that the owner makes in its callback. `try_cancel` gives no guarantee about the
outstanding call, so that `force_retry` is `poll_asap` here.
-/

namespace Codon.Grpc

open Codon.Library

/-- `billion` of `core/fswtime.h`. -/
def billion : Int := 1000000000

/-- What `std::uniform_int_distribution` draws. -/
structure Draw where
  dis : Int → Int → Int
  dis_mem : ∀ a b, a ≤ b → a ≤ dis a b ∧ dis a b ≤ b

/-- The least value is drawn. -/
def Draw.least : Draw := ⟨fun a _ => a, fun a _ h => ⟨le_refl a, h⟩⟩

/-- `GrpcPollerConfig`. `polling_period_jitter` is the function from a period to its product
with the configured `double`, cast to `nano_t`. -/
structure GrpcPollerConfig where
  grpcPollingPeriod : Int := 60 * 60 * billion
  minDelayBetweenSuccessfulCallsNanos : Int := 0
  minRetryBackoff : Int := 1 * billion
  maxRetryBackoff : Int := 32 * billion
  randomizePollingPeriod : Bool := true
  pollingPeriodJitter : Int → Int
  reenablePollingDelay : Int := 0
  randomizeReenablePollingDelay : Bool := false
  reenablePollingDelayFromLastSuccess : Bool := false
  randomizeRetryBackoff : Bool := true
  startEnabled : Bool := true
  queueDrainingMethodIsFifo : Bool := true

/-- The checks that `init` makes of the configuration. -/
structure GrpcPollerConfig.Valid (config : GrpcPollerConfig) : Prop where
  min_retry_backoff : 0 < config.minRetryBackoff
  max_retry_backoff : 0 < config.maxRetryBackoff
  grpc_polling_period : 0 ≤ config.grpcPollingPeriod
  min_delay : 0 ≤ config.minDelayBetweenSuccessfulCallsNanos
  min_delay_le : config.minDelayBetweenSuccessfulCallsNanos ≤ config.grpcPollingPeriod

instance (config : GrpcPollerConfig) : Decidable config.Valid :=
  decidable_of_iff
    (0 < config.minRetryBackoff ∧ 0 < config.maxRetryBackoff ∧ 0 ≤ config.grpcPollingPeriod ∧
      0 ≤ config.minDelayBetweenSuccessfulCallsNanos ∧
      config.minDelayBetweenSuccessfulCallsNanos ≤ config.grpcPollingPeriod)
    ⟨fun ⟨a, b, c, d, e⟩ => ⟨a, b, c, d, e⟩, fun ⟨a, b, c, d, e⟩ => ⟨a, b, c, d, e⟩⟩

/-- A polling period with its jitter. -/
def GrpcPollerConfig.jittered (config : GrpcPollerConfig) (pollingPeriod : Int) (draw : Draw) :
    Int :=
  if config.randomizePollingPeriod then
    let jitter := config.pollingPeriodJitter pollingPeriod
    draw.dis (pollingPeriod - jitter) (pollingPeriod + jitter)
  else pollingPeriod

/-- `GrpcPoller`: its configuration, its slate tokens and `just_enabled_polling`. -/
structure GrpcPoller where
  config : GrpcPollerConfig
  nextPollTime : Int
  lastPollTime : Int
  lastSuccessTime : Int
  pollingEnabled : Bool
  waitingOnResponse : Bool
  pollAsapCount : UInt32
  retryCount : UInt32
  pollingPeriod : Int
  justEnabledPolling : Bool

/-- What `dispatch` does and returns: `polled` tells whether it made a call. -/
structure Dispatched where
  poller : GrpcPoller
  nextControlTime : Int
  polled : Bool

namespace GrpcPoller

/-- `GrpcPoller::init`. -/
def init (config : GrpcPollerConfig) (draw : Draw) : Option GrpcPoller :=
  if config.Valid then
    some
      { config
        nextPollTime :=
          if config.grpcPollingPeriod = 0 ∨ config.startEnabled = false then nanoTMax else 0
        lastPollTime := 0
        lastSuccessTime := nanoTMin
        pollingEnabled := config.startEnabled
        waitingOnResponse := false
        pollAsapCount := 0
        retryCount := 0
        pollingPeriod := config.jittered config.grpcPollingPeriod draw
        justEnabledPolling := false }
  else none

/-- The time of the first poll after polling was enabled. -/
def reenableTime (p : GrpcPoller) (controlTime : Int) (draw : Draw) : Int :=
  let delay := p.config.reenablePollingDelay
  let delay :=
    if p.config.randomizeReenablePollingDelay ∧ delay ≠ 0 then
      draw.dis 0 delay + delay.tdiv 2
    else delay
  if p.config.reenablePollingDelayFromLastSuccess then p.lastSuccessTime + delay
  else controlTime + delay

/-- The time from which the rate limit lets the next poll pass. -/
def rateLimitTime (p : GrpcPoller) : Int :=
  p.lastSuccessTime + p.config.minDelayBetweenSuccessfulCallsNanos

/-- The next poll time as `dispatch` sets it before it looks whether the poll is due. -/
def schedule (p : GrpcPoller) (controlTime : Int) (draw : Draw) : GrpcPoller :=
  -- the rate limit is in the other branch, and does not bind the first dispatch after enabling
  if p.justEnabledPolling then
    { p with nextPollTime := p.reenableTime controlTime draw, justEnabledPolling := false }
  else if p.nextPollTime < p.rateLimitTime then { p with nextPollTime := p.rateLimitTime }
  else p

/-- `GrpcPoller::dispatch`. -/
def dispatch (p : GrpcPoller) (controlTime : Int) (draw : Draw) : Dispatched :=
  if ¬ p.pollingEnabled ∨ p.waitingOnResponse then ⟨p, nanoTMax, false⟩
  else
    let p := p.schedule controlTime draw
    if p.nextPollTime ≤ controlTime then
      let p :=
        { p with lastPollTime := controlTime, nextPollTime := nanoTMax, waitingOnResponse := true }
      ⟨p, p.nextPollTime, true⟩
    else ⟨p, p.nextPollTime, false⟩

/-- `GrpcPoller::enable_polling`. -/
def enablePolling (p : GrpcPoller) : GrpcPoller :=
  let p := if p.pollingEnabled then p else { p with retryCount := 0, justEnabledPolling := true }
  { p with pollingEnabled := true }

/-- `GrpcPoller::disable_polling`. -/
def disablePolling (p : GrpcPoller) : GrpcPoller := { p with pollingEnabled := false }

/-- `GrpcPoller::poll_asap`. -/
def pollAsap (p : GrpcPoller) : GrpcPoller :=
  { p with
    pollAsapCount := p.pollAsapCount + 1
    retryCount := 0
    lastPollTime := 0
    nextPollTime := 0 }

/-- `GrpcPoller::force_retry`. -/
def forceRetry (p : GrpcPoller) : GrpcPoller := p.pollAsap

/-- `GrpcPoller::update_grpc_polling_policy`, with the result it returns. -/
def updateGrpcPollingPolicy (p : GrpcPoller) (pollingPeriod minRetryBackoff maxRetryBackoff : Int)
    (shouldPollAsap : Bool) (draw : Draw) : GrpcPoller × Bool :=
  if minRetryBackoff ≤ 0 then (p, false)
  else if maxRetryBackoff ≤ 0 then (p, false)
  else if minRetryBackoff > maxRetryBackoff then (p, false)
  else if pollingPeriod = p.config.grpcPollingPeriod ∧
      minRetryBackoff = p.config.minRetryBackoff ∧ maxRetryBackoff = p.config.maxRetryBackoff then
    (p, true)
  else
    let config := { p.config with grpcPollingPeriod := pollingPeriod, minRetryBackoff,
                                  maxRetryBackoff }
    let p := { p with config, pollingPeriod := config.jittered pollingPeriod draw }
    if p.pollingEnabled ∧ shouldPollAsap then (p.pollAsap, true) else (p, true)

end GrpcPoller

/-- A call that the owner of a poller makes. -/
inductive Call where
  | enablePolling
  | disablePolling
  | pollAsap
  | forceRetry
  | updateGrpcPollingPolicy (pollingPeriod minRetryBackoff maxRetryBackoff : Int)
      (shouldPollAsap : Bool) (draw : Draw)

namespace GrpcPoller

def call (p : GrpcPoller) : Call → GrpcPoller
  | .enablePolling => p.enablePolling
  | .disablePolling => p.disablePolling
  | .pollAsap => p.pollAsap
  | .forceRetry => p.forceRetry
  | .updateGrpcPollingPolicy pollingPeriod minRetryBackoff maxRetryBackoff shouldPollAsap draw =>
      (p.updateGrpcPollingPolicy pollingPeriod minRetryBackoff maxRetryBackoff shouldPollAsap
        draw).1

/-- The backoff of a failed call. -/
def backoff (p : GrpcPoller) (draw : Draw) : Int :=
  let multiplier :=
    min (nanoTMax / p.config.minRetryBackoff) (2 ^ (min p.retryCount 32).toNat)
  let backoff := min (p.config.minRetryBackoff * multiplier) p.config.maxRetryBackoff
  if p.config.randomizeRetryBackoff then draw.dis p.config.minRetryBackoff backoff else backoff

/-- Resets `waiting_on_response` if the queue is drained in this way. -/
def resetWaiting (p : GrpcPoller) (fifo : Bool) : GrpcPoller :=
  if p.config.queueDrainingMethodIsFifo = fifo then { p with waitingOnResponse := false } else p

/-- The end of `on_response`. -/
def setNextPollTime (p : GrpcPoller) (timeUntilCall : Int) : GrpcPoller :=
  if timeUntilCall ≠ 0 then { p with nextPollTime := p.lastPollTime + timeUntilCall } else p

/-- `GrpcPoller::on_response`, where `calls` are what the callback calls. The callback is
invoked for a successful response only. -/
def onResponse (p : GrpcPoller) (ok : Bool) (calls : List Call) (draw : Draw) : GrpcPoller :=
  let p := p.resetWaiting true
  let timeUntilCall := p.pollingPeriod
  if ok then
    -- `poll_asap` may have cleared the time of the poll
    let p := { p with lastSuccessTime := p.lastPollTime }
    let p := run call p calls
    let p := p.resetWaiting false
    let timeUntilCall :=
      -- after an outage the next calls of many pollers are spread out
      if 0 < p.retryCount then draw.dis 0 p.pollingPeriod + p.pollingPeriod.tdiv 2
      else timeUntilCall
    let p := { p with retryCount := 0, pollAsapCount := 0 }
    p.setNextPollTime timeUntilCall
  else
    let p := p.resetWaiting false
    let timeUntilCall := p.backoff draw
    let p := { p with retryCount := p.retryCount + 1 }
    p.setNextPollTime timeUntilCall

/-! ## What the operations leave alone -/

variable {p : GrpcPoller} {c : Call} {calls : List Call} {ok : Bool} {controlTime : Int}
  {draw : Draw}

/-- What no call of the owner changes. -/
structure Keeps (p p' : GrpcPoller) : Prop where
  last_success_time : p'.lastSuccessTime = p.lastSuccessTime
  waiting_on_response : p'.waitingOnResponse = p.waitingOnResponse
  min_delay : p'.config.minDelayBetweenSuccessfulCallsNanos =
    p.config.minDelayBetweenSuccessfulCallsNanos
  draining_method : p'.config.queueDrainingMethodIsFifo = p.config.queueDrainingMethodIsFifo

/-- A poller keeps what it has. -/
theorem Keeps.refl (p : GrpcPoller) : Keeps p p := ⟨rfl, rfl, rfl, rfl⟩

/-- No call changes it. -/
theorem call_keeps (p : GrpcPoller) (c : Call) : Keeps p (p.call c) := by
  cases c with
  | enablePolling =>
      simp only [call, enablePolling]
      split <;> exact ⟨rfl, rfl, rfl, rfl⟩
  | disablePolling | pollAsap | forceRetry => exact ⟨rfl, rfl, rfl, rfl⟩
  | updateGrpcPollingPolicy pollingPeriod minRetryBackoff maxRetryBackoff shouldPollAsap draw =>
      simp only [call, updateGrpcPollingPolicy]
      split_ifs <;> exact ⟨rfl, rfl, rfl, rfl⟩

/-- Nor do several calls. -/
theorem run_call_keeps (p : GrpcPoller) (calls : List Call) : Keeps p (run call p calls) :=
  run_invariant (P := Keeps p) (.refl p) fun _ c h =>
    have hc := call_keeps _ c
    ⟨hc.1.trans h.1, hc.2.trans h.2, hc.3.trans h.3, hc.4.trans h.4⟩

/-- A poller that is initialised has the configuration given. -/
theorem init_config {config : GrpcPollerConfig} (h : init config draw = some p) :
    p.config = config := by
  rw [init, Option.ite_none_right_eq_some] at h
  cases h.2
  rfl

/-- It waits for no response. -/
theorem init_waiting {config : GrpcPollerConfig} (h : init config draw = some p) :
    p.waitingOnResponse = false := by
  rw [init, Option.ite_none_right_eq_some] at h
  cases h.2
  rfl

/-! ## What `dispatch` and `on_response` do -/

/-- Polling that was just enabled has its own time, and otherwise the rate limit holds. -/
theorem schedule_next_poll_time :
    (p.schedule controlTime draw).nextPollTime =
      if p.justEnabledPolling then p.reenableTime controlTime draw
      else max p.nextPollTime p.rateLimitTime := by
  unfold schedule
  split_ifs with henabled hlimit
  · rfl
  · exact (max_eq_right hlimit.le).symm
  · exact (max_eq_left (not_lt.1 hlimit)).symm

/-- When `dispatch` makes a call. -/
theorem dispatch_polled_iff :
    (p.dispatch controlTime draw).polled = true ↔
      p.pollingEnabled = true ∧ p.waitingOnResponse = false ∧
        if p.justEnabledPolling then p.reenableTime controlTime draw ≤ controlTime
        else p.nextPollTime ≤ controlTime ∧ p.rateLimitTime ≤ controlTime := by
  have hdue : (p.schedule controlTime draw).nextPollTime ≤ controlTime ↔
      if p.justEnabledPolling then p.reenableTime controlTime draw ≤ controlTime
      else p.nextPollTime ≤ controlTime ∧ p.rateLimitTime ≤ controlTime := by
    rw [schedule_next_poll_time]
    split
    · rfl
    · exact max_le_iff
  rw [← hdue, dispatch]
  by_cases hidle : ¬ p.pollingEnabled ∨ p.waitingOnResponse
  · have hnot : ¬ (p.pollingEnabled = true ∧ p.waitingOnResponse = false) := by
      rintro ⟨henabled, hwaiting⟩
      exact hidle.elim (fun h => h henabled) fun h => by simp [hwaiting] at h
    rw [if_pos hidle]
    exact iff_of_false (nomatch ·) fun h => hnot ⟨h.1, h.2.1⟩
  · have hready : p.pollingEnabled = true ∧ p.waitingOnResponse = false := by simpa using hidle
    rw [if_neg hidle]
    by_cases hpoll : (p.schedule controlTime draw).nextPollTime ≤ controlTime
    · simp [hready, hpoll]
    · simp [hpoll]

/-- `dispatch` leaves the time of the last success and the rate limit alone. -/
theorem dispatch_rate_limit (p : GrpcPoller) (controlTime : Int) (draw : Draw) :
    (p.dispatch controlTime draw).poller.lastSuccessTime = p.lastSuccessTime ∧
      (p.dispatch controlTime draw).poller.config = p.config := by
  simp only [dispatch, schedule]
  split_ifs <;> exact ⟨rfl, rfl⟩

/-- A dispatch that makes a call waits for its response. -/
theorem dispatch_waiting (p : GrpcPoller) (controlTime : Int) (draw : Draw) :
    (p.dispatch controlTime draw).poller.waitingOnResponse =
      (p.waitingOnResponse || (p.dispatch controlTime draw).polled) := by
  simp only [dispatch, schedule]
  split_ifs <;> simp

/-- A dispatch that makes a call was not waiting. -/
theorem not_waiting_of_polled (h : (p.dispatch controlTime draw).polled = true) :
    p.waitingOnResponse = false :=
  (dispatch_polled_iff.1 h).2.1

/-- A poller that waits for a response is not moved by a dispatch. -/
theorem dispatch_of_waiting (h : p.waitingOnResponse = true) :
    (p.dispatch controlTime draw).poller = p := by
  rw [dispatch, if_pos (.inr h)]

/-- `setNextPollTime` changes the next poll time only. -/
theorem set_next_poll_time_eq (p : GrpcPoller) (timeUntilCall : Int) :
    p.setNextPollTime timeUntilCall =
      { p with
        nextPollTime :=
          if timeUntilCall ≠ 0 then p.lastPollTime + timeUntilCall else p.nextPollTime } := by
  unfold setNextPollTime
  split_ifs <;> rfl

/-- `resetWaiting` changes `waiting_on_response` only. -/
theorem reset_waiting_eq (p : GrpcPoller) (fifo : Bool) :
    p.resetWaiting fifo =
      { p with
        waitingOnResponse :=
          if p.config.queueDrainingMethodIsFifo = fifo then false else p.waitingOnResponse } := by
  unfold resetWaiting
  split_ifs <;> rfl

/-- What a response leaves as the time of the last success, and that it keeps the rate limit. -/
theorem on_response_rate_limit (p : GrpcPoller) (ok : Bool) (calls : List Call) (draw : Draw) :
    (p.onResponse ok calls draw).lastSuccessTime =
        (if ok then p.lastPollTime else p.lastSuccessTime) ∧
      (p.onResponse ok calls draw).config.minDelayBetweenSuccessfulCallsNanos =
        p.config.minDelayBetweenSuccessfulCallsNanos := by
  cases ok with
  | true =>
      simp [onResponse, set_next_poll_time_eq, reset_waiting_eq,
        (run_call_keeps _ calls).last_success_time, (run_call_keeps _ calls).min_delay]
  | false => simp [onResponse, set_next_poll_time_eq, reset_waiting_eq]

/-- A response ends the waiting. -/
theorem on_response_waiting (p : GrpcPoller) (ok : Bool) (calls : List Call) (draw : Draw) :
    (p.onResponse ok calls draw).waitingOnResponse = false := by
  cases hfifo : p.config.queueDrainingMethodIsFifo <;> cases ok <;>
    simp [onResponse, set_next_poll_time_eq, reset_waiting_eq, hfifo,
      (run_call_keeps _ calls).waiting_on_response, (run_call_keeps _ calls).draining_method]

end GrpcPoller

/-! ## Pollers and the polls they make -/

/-- A poll: when it was issued, and whether it succeeded if its response has come. -/
structure Poll where
  controlTime : Int
  status : Option Bool
  deriving DecidableEq

/-- A poller with the polls it has made, the newest first. -/
structure Session where
  poller : GrpcPoller
  polls : List Poll

/-- What happens to a poller. -/
inductive Action where
  | dispatch (controlTime : Int) (draw : Draw)
  | call (c : Call)
  | response (ok : Bool) (calls : List Call) (draw : Draw)

namespace Session

/-- A poller that has just been created. -/
def start (p : GrpcPoller) : Session := ⟨p, []⟩

/-- Records the response to the newest poll. -/
def settle (ok : Bool) : List Poll → List Poll
  | [] => []
  | poll :: polls => { poll with status := some ok } :: polls

/-- A response comes for an outstanding call only. -/
def step (s : Session) : Action → Session
  | .dispatch controlTime draw =>
      let d := s.poller.dispatch controlTime draw
      ⟨d.poller, if d.polled then ⟨controlTime, none⟩ :: s.polls else s.polls⟩
  | .call c => { s with poller := s.poller.call c }
  | .response ok calls draw =>
      if s.poller.waitingOnResponse then
        ⟨s.poller.onResponse ok calls draw, settle ok s.polls⟩
      else s

end Session

end Codon.Grpc
