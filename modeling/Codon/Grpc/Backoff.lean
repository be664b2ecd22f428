import Codon.Grpc.Poller
import Mathlib.Algebra.Order.Ring.Int

/-!
# The backoff of a poller

Every failed response raises `retry_count`, and the time until the next call grows with it between
the two limits of the configuration. `update_grpc_polling_policy` checks that the limits are in
order, `init` does not; and `retry_count` is a `uint`. `backoff_sound_iff` says which pollers back
off as they should, and for how many retries.
-/

namespace Codon.Grpc

open Codon.Library

/-- A call that fails: the dispatch before it, and what is drawn for its response. -/
structure Failure where
  controlTime : Int
  scheduled : Draw
  backoff : Draw

namespace GrpcPoller

/-- The factor of the least backoff, kept small enough for the product. -/
def multiplier (p : GrpcPoller) : Int :=
  min (nanoTMax / p.config.minRetryBackoff) (2 ^ (min p.retryCount 32).toNat)

/-- The backoff before it is randomized: the end of the interval for the generator. -/
def limit (p : GrpcPoller) : Int :=
  min (p.config.minRetryBackoff * p.multiplier) p.config.maxRetryBackoff

/-- A dispatch, and the failed response to its call. -/
def fail (p : GrpcPoller) (f : Failure) : GrpcPoller :=
  (p.dispatch f.controlTime f.scheduled).poller.onResponse false [] f.backoff

/-- The configuration is one that `init` or `update_grpc_polling_policy` has accepted. -/
inductive Accepted : GrpcPoller → Prop
  | init {config : GrpcPollerConfig} {draw : Draw} {p : GrpcPoller}
      (h : init config draw = some p) : Accepted p
  | update {p : GrpcPoller} {pollingPeriod minRetryBackoff maxRetryBackoff : Int}
      {shouldPollAsap : Bool} {draw : Draw}
      (h : (p.updateGrpcPollingPolicy pollingPeriod minRetryBackoff maxRetryBackoff shouldPollAsap
        draw).2 = true) :
      Accepted (p.updateGrpcPollingPolicy pollingPeriod minRetryBackoff maxRetryBackoff
        shouldPollAsap draw).1

/-- A poller backs off as it should over its next `retries` retries. -/
structure Sound (p : GrpcPoller) (retries : Nat) : Prop where
  /-- The backoff is between the limits of the configuration. -/
  mem : ∀ failures draw, failures.length ≤ retries →
    p.config.minRetryBackoff ≤ (run fail p failures).backoff draw ∧
      (run fail p failures).backoff draw ≤ p.config.maxRetryBackoff
  /-- The backoff does not get shorter. -/
  mono : ∀ failures failures', failures.length ≤ failures'.length → failures'.length ≤ retries →
    (run fail p failures).limit ≤ (run fail p failures').limit
  /-- The product is a `nano_t`. -/
  no_overflow : ∀ failures, failures.length ≤ retries →
    p.config.minRetryBackoff * (run fail p failures).multiplier ≤ nanoTMax
  /-- There is something to draw from. -/
  nonempty : ∀ failures, failures.length ≤ retries →
    p.config.minRetryBackoff ≤ (run fail p failures).limit

/-- The least backoff is the only one: it is the greatest as well, or its double is no `nano_t`. -/
def OneBackoff (p : GrpcPoller) : Prop :=
  p.config.minRetryBackoff = p.config.maxRetryBackoff ∨ nanoTMax / p.config.minRetryBackoff = 1

instance (p : GrpcPoller) : Decidable p.OneBackoff := inferInstanceAs (Decidable (_ ∨ _))

variable {p : GrpcPoller} {failures : List Failure} {retries : Nat}

/-- The backoff is drawn up to the limit, or is the limit. -/
theorem backoff_eq (p : GrpcPoller) (draw : Draw) :
    p.backoff draw =
      if p.config.randomizeRetryBackoff then draw.dis p.config.minRetryBackoff p.limit
      else p.limit :=
  rfl

/-- Limits that are accepted are positive. -/
theorem Accepted.pos (h : p.Accepted) :
    0 < p.config.minRetryBackoff ∧ 0 < p.config.maxRetryBackoff := by
  cases h with
  | init h =>
      have hvalid := h
      rw [GrpcPoller.init, Option.ite_none_right_eq_some] at hvalid
      rw [init_config h]
      exact ⟨hvalid.1.min_retry_backoff, hvalid.1.max_retry_backoff⟩
  | update h =>
      revert h
      simp only [updateGrpcPollingPolicy]
      split_ifs with hmin hmax hle hsame hpoll
      · intro h
        cases h
      · intro h
        cases h
      · intro h
        cases h
      · intro _
        rw [← hsame.2.1, ← hsame.2.2]
        exact ⟨not_le.1 hmin, not_le.1 hmax⟩
      all_goals exact fun _ => ⟨not_le.1 hmin, not_le.1 hmax⟩

/-! ## A run of failed calls -/

/-- A dispatch counts no retry. -/
theorem dispatch_retry_count (p : GrpcPoller) (controlTime : Int) (draw : Draw) :
    (p.dispatch controlTime draw).poller.retryCount = p.retryCount := by
  simp only [dispatch, schedule]
  split_ifs <;> rfl

/-- A failed response counts as a retry, and keeps the configuration. -/
theorem on_response_failed (p : GrpcPoller) (draw : Draw) :
    (p.onResponse false [] draw).config = p.config ∧
      (p.onResponse false [] draw).retryCount = p.retryCount + 1 := by
  simp [onResponse, set_next_poll_time_eq, reset_waiting_eq]

/-- A failure counts one retry and keeps the configuration. -/
theorem fail_step (p : GrpcPoller) (f : Failure) :
    (p.fail f).config = p.config ∧ (p.fail f).retryCount = p.retryCount + 1 := by
  have hfailed := on_response_failed (p.dispatch f.controlTime f.scheduled).poller f.backoff
  rw [dispatch_retry_count, (dispatch_rate_limit p f.controlTime f.scheduled).2] at hfailed
  exact hfailed

/-- So many failures count so many retries, in 32 bits. -/
theorem run_fail (p : GrpcPoller) (failures : List Failure) :
    (run fail p failures).config = p.config ∧
      (run fail p failures).retryCount = p.retryCount + UInt32.ofNat failures.length := by
  induction failures generalizing p with
  | nil => simp [run_nil]
  | cons f failures ih =>
      rw [run_cons, (ih _).1, (ih _).2, (fail_step p f).1, (fail_step p f).2]
      refine ⟨rfl, ?_⟩
      rw [List.length_cons, UInt32.ofNat_add, UInt32.add_assoc, UInt32.add_comm 1]
      rfl

/-- The limit of the backoff after a number of failed calls. -/
def limitAfter (p : GrpcPoller) (retries : Nat) : Int :=
  min (p.config.minRetryBackoff * min (nanoTMax / p.config.minRetryBackoff)
    (2 ^ min ((p.retryCount.toNat + retries) % 2 ^ 32) 32)) p.config.maxRetryBackoff

/-- The multiplier after so many failures. -/
theorem run_fail_multiplier (p : GrpcPoller) (failures : List Failure) :
    (run fail p failures).multiplier = min (nanoTMax / p.config.minRetryBackoff)
      (2 ^ min ((p.retryCount.toNat + failures.length) % 2 ^ 32) 32) := by
  have hcount : (min (p.retryCount + UInt32.ofNat failures.length) 32).toNat =
      min ((p.retryCount.toNat + failures.length) % 2 ^ 32) 32 := by
    have hsum : (p.retryCount + UInt32.ofNat failures.length).toNat =
        (p.retryCount.toNat + failures.length) % 2 ^ 32 := by
      rw [UInt32.toNat_add, UInt32.toNat_ofNat', Nat.add_mod_mod]
    rw [← hsum]
    generalize p.retryCount + UInt32.ofNat failures.length = count
    have hmin : min count 32 = if count ≤ 32 then count else 32 := rfl
    rw [hmin]
    split_ifs with hle
    · exact (min_eq_left (UInt32.le_iff_toNat_le.1 hle)).symm
    · exact (min_eq_right (not_le.1 fun h => hle (UInt32.le_iff_toNat_le.2 h)).le).symm
  rw [multiplier, (run_fail p failures).1, (run_fail p failures).2, hcount]

/-- The limit after so many failures. -/
theorem run_fail_limit (p : GrpcPoller) (failures : List Failure) :
    (run fail p failures).limit = p.limitAfter failures.length := by
  rw [limit, run_fail_multiplier, (run_fail p failures).1, limitAfter]

/-! ## The limits -/

/-- A limit that is kept between those of the configuration. -/
theorem limit_after_bounds (p : GrpcPoller) (retries : Nat) (hmin : 0 < p.config.minRetryBackoff)
    (hmax : p.config.minRetryBackoff ≤ p.config.maxRetryBackoff)
    (hnano : p.config.minRetryBackoff ≤ nanoTMax) :
    p.config.minRetryBackoff ≤ p.limitAfter retries ∧
      p.limitAfter retries ≤ p.config.maxRetryBackoff := by
  have hone : 1 ≤ nanoTMax / p.config.minRetryBackoff := (Int.le_ediv_iff_mul_le hmin).2 (by omega)
  refine ⟨le_min ?_ hmax, min_le_right _ _⟩
  exact le_mul_of_one_le_right hmin.le (le_min hone (one_le_pow₀ (by decide)))

/-- The product is kept small enough. -/
theorem product_le (p : GrpcPoller) (exponent : Nat) (hmin : 0 < p.config.minRetryBackoff) :
    p.config.minRetryBackoff * min (nanoTMax / p.config.minRetryBackoff) (2 ^ exponent) ≤
      nanoTMax :=
  (mul_le_mul_of_nonneg_left (min_le_left _ _) hmin.le).trans (Int.mul_ediv_self_le hmin.ne')

/-- The limit grows as long as the count does not wrap around. -/
theorem limit_after_mono (p : GrpcPoller) {retries retries' : Nat}
    (hmin : 0 < p.config.minRetryBackoff) (hle : retries ≤ retries')
    (hcount : p.retryCount.toNat + retries' < 2 ^ 32) :
    p.limitAfter retries ≤ p.limitAfter retries' := by
  rw [limitAfter, limitAfter, Nat.mod_eq_of_lt hcount, Nat.mod_eq_of_lt (by omega)]
  have hexponent : min (p.retryCount.toNat + retries) 32 ≤ min (p.retryCount.toNat + retries') 32 :=
    min_le_min_right 32 (Nat.add_le_add_left hle _)
  have hpow : (2 : Int) ^ min (p.retryCount.toNat + retries) 32 ≤
      2 ^ min (p.retryCount.toNat + retries') 32 := pow_le_pow_right₀ (by decide) hexponent
  exact min_le_min_right _ (mul_le_mul_of_nonneg_left (min_le_min_left _ hpow) hmin.le)

/-- With one backoff only, the limit is always the smallest. -/
theorem limit_after_of_one_backoff (h : p.OneBackoff) (retries : Nat)
    (hmin : 0 < p.config.minRetryBackoff)
    (hmax : p.config.minRetryBackoff ≤ p.config.maxRetryBackoff)
    (hnano : p.config.minRetryBackoff ≤ nanoTMax) :
    p.limitAfter retries = p.config.minRetryBackoff := by
  rcases h with hsame | hone
  · have hbounds := limit_after_bounds p retries hmin hmax hnano
    rw [← hsame] at hbounds
    exact le_antisymm hbounds.2 hbounds.1
  · rw [limitAfter, hone, min_eq_left (one_le_pow₀ (by decide)), mul_one, min_eq_left hmax]

/-- Where the count wraps around, the limit falls back to the least, unless it always is. -/
theorem one_backoff_of_wrap (hmin : 0 < p.config.minRetryBackoff)
    (hmax : p.config.minRetryBackoff ≤ p.config.maxRetryBackoff)
    (hnano : p.config.minRetryBackoff ≤ nanoTMax)
    (h : p.limitAfter (2 ^ 32 - 1 - p.retryCount.toNat) ≤
      p.limitAfter (2 ^ 32 - p.retryCount.toNat)) : p.OneBackoff := by
  have hcount : p.retryCount.toNat < 2 ^ 32 := p.retryCount.toNat_lt
  have hone : 1 ≤ nanoTMax / p.config.minRetryBackoff := (Int.le_ediv_iff_mul_le hmin).2 (by omega)
  have hlast : (p.retryCount.toNat + (2 ^ 32 - 1 - p.retryCount.toNat)) % 2 ^ 32 = 2 ^ 32 - 1 := by
    omega
  have hzero : (p.retryCount.toNat + (2 ^ 32 - p.retryCount.toNat)) % 2 ^ 32 = 0 := by omega
  rw [limitAfter, limitAfter, hlast, hzero, Nat.zero_min, pow_zero, min_eq_right hone, mul_one,
    min_eq_left hmax] at h
  by_contra hmany
  simp only [OneBackoff, not_or] at hmany
  have htwo : 2 ≤ min (nanoTMax / p.config.minRetryBackoff) (2 ^ min (2 ^ 32 - 1) 32) :=
    le_min (by omega) (by decide)
  have hdouble : p.config.minRetryBackoff * 2 ≤ p.config.minRetryBackoff *
      min (nanoTMax / p.config.minRetryBackoff) (2 ^ min (2 ^ 32 - 1) 32) :=
    mul_le_mul_of_nonneg_left htwo hmin.le
  have hmore : p.config.minRetryBackoff < min (p.config.minRetryBackoff *
      min (nanoTMax / p.config.minRetryBackoff) (2 ^ min (2 ^ 32 - 1) 32))
      p.config.maxRetryBackoff := lt_min (by omega) (by omega)
  exact absurd h (not_le.2 hmore)

/-- A poller with an accepted configuration backs off as it should exactly if the limits are in
order, and `retry_count` does not wrap around or all the backoffs are the same. -/
theorem backoff_sound_iff (h : p.Accepted) (hnano : p.config.minRetryBackoff ≤ nanoTMax)
    (retries : Nat) :
    p.Sound retries ↔
      p.config.minRetryBackoff ≤ p.config.maxRetryBackoff ∧
        (p.retryCount.toNat + retries < 2 ^ 32 ∨ p.OneBackoff) := by
  have hmin := h.pos.1
  constructor
  · intro hsound
    have hle : p.config.minRetryBackoff ≤ p.config.maxRetryBackoff :=
      (hsound.nonempty [] (Nat.zero_le _)).trans (min_le_right _ _)
    refine ⟨hle, ?_⟩
    by_contra hnot
    rw [not_or, not_lt] at hnot
    have hcount : p.retryCount.toNat < 2 ^ 32 := p.retryCount.toNat_lt
    -- as many failures as it takes for the count to wrap, and one less
    have failure : Failure := ⟨0, .least, .least⟩
    have hmono := hsound.mono (.replicate (2 ^ 32 - 1 - p.retryCount.toNat) failure)
      (.replicate (2 ^ 32 - p.retryCount.toNat) failure)
    simp only [run_fail_limit, List.length_replicate] at hmono
    exact hnot.2 (one_backoff_of_wrap hmin hle hnano (hmono (by omega) (by omega)))
  · rintro ⟨hle, hcount⟩
    have hbounds := fun retries => limit_after_bounds p retries hmin hle hnano
    refine ⟨fun failures draw _ => ?_, fun failures failures' hlength hretries => ?_,
      fun failures _ => ?_, fun failures _ => ?_⟩
    · rw [backoff_eq, run_fail_limit, (run_fail p failures).1]
      split
      · have hdrawn := draw.dis_mem _ _ (hbounds failures.length).1
        exact ⟨hdrawn.1, hdrawn.2.trans (hbounds failures.length).2⟩
      · exact hbounds failures.length
    · rw [run_fail_limit, run_fail_limit]
      rcases hcount with hcount | hone
      · exact limit_after_mono p hmin hlength (by omega)
      · rw [limit_after_of_one_backoff hone _ hmin hle hnano,
          limit_after_of_one_backoff hone _ hmin hle hnano]
    · rw [run_fail_multiplier]
      exact product_le p _ hmin
    · rw [run_fail_limit]
      exact (hbounds failures.length).1

/-- The least backoff is two seconds, the greatest one. -/
def reversedLimits : GrpcPollerConfig where
  minRetryBackoff := 2 * billion
  maxRetryBackoff := billion
  pollingPeriodJitter _ := 0

/-- A policy with limits in order makes the poller back off as it should. -/
theorem sound_hundred_retries :
    ∃ p, init reversedLimits .least = some p ∧
      (p.updateGrpcPollingPolicy (60 * billion) billion (32 * billion) true .least).1.Sound 100 :=
  ⟨_, rfl, (backoff_sound_iff (.update rfl) (by decide +kernel) 100).2
    ⟨by decide +kernel, .inl (by decide +kernel)⟩⟩

/-- `init` accepts limits in the wrong order: the backoff is less than the least, and the interval
for the generator empty. -/
theorem not_sound_reversed_limits :
    ∃ p, init reversedLimits .least = some p ∧ p.limit < p.config.minRetryBackoff ∧ ¬ p.Sound 0 :=
  ⟨_, rfl, by decide +kernel, fun h => absurd (h.nonempty [] le_rfl) (by decide +kernel)⟩

end GrpcPoller

end Codon.Grpc
