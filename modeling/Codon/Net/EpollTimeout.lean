import Codon.Core
import Mathlib.Data.Int.Order.Basic

/-!
# How long `epoll` waits

`FdBag::raw_epoll` waits for events until a time of the monotonic clock. Where `epoll_pwait2` is not
available it waits with `epoll_pwait`, whose timeout is an `int` of milliseconds. The delay is
rounded up to milliseconds as a `long` of 64 bits, and only then narrowed: `waits_for_delay_iff`
says for which delays the timeout is right.
-/

namespace Codon.Net

/-- Nanoseconds in a second. -/
def billion : Int := 1000000000

/-- Nanoseconds in a millisecond. -/
def million : Int := 1000000

/-- The largest `int`. -/
def intMax : Int := 2 ^ 31 - 1

/-- `struct timespec`. -/
structure Timespec where
  tvSec : Int
  tvNsec : Int

/-- `timeout_ms` of `epoll_pwait_wrapper`, an `int`. -/
def timeoutMs : Option Timespec → Int
  | none => -1
  | some timeout =>
      (timeout.tvSec * 1000 + (timeout.tvNsec + 999999).tdiv 1000000).bmod (2 ^ 32)

/-- `delta_timeout_ns` of `raw_epoll`. A difference that is no `nano_t` is undefined. -/
def deltaTimeoutNs (wakeup monotonicTime : Int) : Option Int :=
  if monotonicTime < wakeup then
    if wakeup - monotonicTime ≤ nanoTMax then some (wakeup - monotonicTime) else none
  else some 0

/-- What `raw_epoll` does before there are events. -/
inductive Wait where
  | wouldblock
  | undefined
  | epollPwait (timeoutMs : Int)
deriving DecidableEq

/-- `raw_epoll` at a monotonic time, up to the call of `epoll_pwait`. -/
def rawEpoll (activeCount : Nat) (wakeup monotonicTime : Int) : Wait :=
  if activeCount = 0 ∧ wakeup = nanoTMax then .wouldblock
  else if wakeup = nanoTMax then .epollPwait (timeoutMs none)
  else
    match deltaTimeoutNs wakeup monotonicTime with
    | none => .undefined
    | some delta => .epollPwait (timeoutMs (some ⟨delta.tdiv billion, delta.tmod billion⟩))

/-- The timeout is that of a delay, rounded up to milliseconds, or the longest if the delay is
longer. -/
def TimeoutOf (delay timeout : Int) : Prop :=
  0 ≤ timeout ∧
    if delay ≤ intMax * million then
      delay ≤ timeout * million ∧ timeout * million < delay + million
    else timeout = intMax

instance (delay timeout : Int) : Decidable (TimeoutOf delay timeout) :=
  inferInstanceAs (Decidable (_ ∧ _))

/-- If `raw_epoll` waits, then for the delay until it is to wake up. -/
def WaitsFor (delay : Int) : Wait → Prop
  | .wouldblock => True
  | .undefined => False
  | .epollPwait timeout => TimeoutOf delay timeout

/-- The delay in milliseconds, rounded up. -/
def delayMs (delay : Int) : Int := (delay + (million - 1)) / million

/-- Seconds and nanoseconds are rounded up like the delay that they are split from. -/
theorem timeout_ms_split {delay : Int} (h : 0 ≤ delay) :
    timeoutMs (some ⟨delay.tdiv billion, delay.tmod billion⟩) = (delayMs delay).bmod (2 ^ 32) := by
  have hnsec : 0 ≤ delay % billion + 999999 := by
    have hmod : 0 ≤ delay % billion := Int.emod_nonneg delay (by decide)
    omega
  simp only [timeoutMs, delayMs, Int.tdiv_eq_ediv_of_nonneg h, Int.tmod_eq_emod_of_nonneg h,
    Int.tdiv_eq_ediv_of_nonneg hnsec]
  congr 1
  simp only [billion, million]
  omega

/-- The narrowed milliseconds are right as long as they fit, and where they are narrowed to the
longest timeout by chance. -/
theorem timeout_of_delay_iff {delay : Int} (h : 0 ≤ delay) :
    TimeoutOf delay ((delayMs delay).bmod (2 ^ 32)) ↔
      delay ≤ intMax * million ∨ delayMs delay % 2 ^ 32 = intMax := by
  have hround : delay ≤ delayMs delay * million ∧
      delayMs delay * million < delay + million := by
    simp only [delayMs, million]
    omega
  by_cases hfits : delay ≤ intMax * million
  · have hle : 0 ≤ delayMs delay ∧ delayMs delay ≤ intMax := by
      simp only [delayMs, million, intMax] at hfits ⊢
      omega
    have hsame : (delayMs delay).bmod (2 ^ 32) = delayMs delay := by
      refine Int.bmod_eq_of_le ?_ ?_ <;> simp only [intMax] at hle <;> omega
    rw [TimeoutOf, hsame, if_pos hfits]
    exact iff_of_true ⟨hle.1, hround⟩ (.inl hfits)
  · rw [TimeoutOf, if_neg hfits, or_iff_right hfits, Int.bmod_def]
    simp only [intMax]
    split_ifs <;> omega

/-- `raw_epoll` waits for the delay, if it waits, exactly if it has no descriptor to wait for and is
never to wake up; or if it is to wake up, the delay is a `nano_t`, and in milliseconds an `int` or
one that is narrowed to the longest timeout. -/
theorem waits_for_delay_iff (activeCount : Nat) {wakeup now : Int} (h : now ≤ wakeup) :
    WaitsFor (wakeup - now) (rawEpoll activeCount wakeup now) ↔
      (wakeup = nanoTMax ∧ activeCount = 0) ∨
        wakeup ≠ nanoTMax ∧ wakeup - now ≤ nanoTMax ∧
          (wakeup - now ≤ intMax * million ∨ delayMs (wakeup - now) % 2 ^ 32 = intMax) := by
  unfold rawEpoll
  by_cases hnever : wakeup = nanoTMax
  · by_cases hactive : activeCount = 0
    · rw [if_pos ⟨hactive, hnever⟩]
      exact iff_of_true trivial (.inl ⟨hnever, hactive⟩)
    · rw [if_neg (fun hboth => hactive hboth.1), if_pos hnever]
      refine iff_of_false (fun hwaits => absurd hwaits.1 (by decide)) fun hright => ?_
      rcases hright with ⟨-, hzero⟩ | ⟨hne, -⟩
      · exact hactive hzero
      · exact hne hnever
  · rw [if_neg (fun hboth => hnever hboth.2), if_neg hnever,
      or_iff_right (fun hboth => hnever hboth.1), and_iff_right hnever]
    have hdelay : 0 ≤ wakeup - now := by omega
    by_cases hrange : wakeup - now ≤ nanoTMax
    · have hdelta : deltaTimeoutNs wakeup now = some (wakeup - now) := by
        unfold deltaTimeoutNs
        split_ifs with hlater
        · rfl
        · congr 1
          omega
      rw [hdelta, and_iff_right hrange]
      simp only [WaitsFor]
      rw [timeout_ms_split hdelay]
      exact timeout_of_delay_iff hdelay
    · have hdelta : deltaTimeoutNs wakeup now = none := by
        have hlater : now < wakeup := by
          simp only [nanoTMax] at hrange
          omega
        rw [deltaTimeoutNs, if_pos hlater, if_neg hrange]
      rw [hdelta]
      exact iff_of_false not_false fun hright => hrange hright.1

/-- A wait of one and a half milliseconds is one of two. -/
theorem waits_two_milliseconds : WaitsFor (1500001 - 1) (rawEpoll 1 1500001 1) :=
  (waits_for_delay_iff 1 (show (1 : Int) ≤ 1500001 by decide)).2 (by decide)

/-- A wait of 2 ^ 31 milliseconds, which is less than 25 days, never ends. -/
theorem long_wait_negative :
    rawEpoll 1 (2 ^ 31 * million) 0 = .epollPwait (-2 ^ 31) ∧
      ¬ WaitsFor (2 ^ 31 * million - 0) (rawEpoll 1 (2 ^ 31 * million) 0) := by
  have heq : rawEpoll 1 (2 ^ 31 * million) 0 = .epollPwait (-2 ^ 31) := by decide
  exact ⟨heq, by rw [heq]; exact fun h => absurd h.1 (by decide)⟩

end Codon.Net
