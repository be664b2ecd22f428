import Codon.Curl.InProgress

/-!
# How many retries a download gets

The retry counter is compared with the number of retries that are allowed, and it counts the
retries of all downloads: `download_file` does not reset it. So a download that fails for
want of retries has made all that are allowed exactly if the counter was 0 when it started
(`own_retries_iff`).
-/

namespace Codon.Curl

open Codon.Library

namespace CurlFileDownload

variable {config : Config} {d : CurlFileDownload} {events : List Event} {fdOpen : Bool}

/-- The retries that an event makes. -/
def retries (d : CurlFileDownload) : Event → Nat
  | .dispatch due _ => if d.pendingRetry ∧ due then 1 else 0
  | _ => 0

/-- The retries that are made in a run. -/
def retriesMade (config : Config) : CurlFileDownload → List Event → Nat
  | _, [] => 0
  | d, event :: events => d.retries event + retriesMade config (step config d event) events

/-- The counter does not exceed the retries that are allowed, and is below them where a retry is
pending. -/
structure WithinBudget (config : Config) (d : CurlFileDownload) : Prop where
  count_le : (d.retryCount : Int) ≤ config.maxRetries
  pending : d.pendingRetry = true → (d.retryCount : Int) < config.maxRetries

/-- Opening the file changes nothing but the descriptor. -/
theorem open_temp_file_frame (config : Config) (answers : Answers) (d : CurlFileDownload) :
    ∃ fdOpen, (d.openTempFile config answers).2 = { d with fdOpen } := by
  obtain ⟨fdOpen, hfile, -⟩ := open_temp_file_spec config answers d
  exact ⟨fdOpen, hfile⟩

/-- A download that is started neither makes a retry nor lets one pend. -/
theorem download_file_count (config : Config) (d : CurlFileDownload) (url connectTo : String)
    (port : Int) (answers : Answers) :
    (d.downloadFile config url connectTo port answers).2.retryCount = d.retryCount ∧
      (d.downloadFile config url connectTo port answers).2.pendingRetry = d.pendingRetry := by
  have hstart (d : CurlFileDownload) :
      (d.startDownload config url connectTo port answers).2.retryCount = d.retryCount ∧
        (d.startDownload config url connectTo port answers).2.pendingRetry = d.pendingRetry := by
    unfold startDownload
    split_ifs
    · exact ⟨rfl, rfl⟩
    · exact ⟨rfl, rfl⟩
    · obtain ⟨handle, registered, list, resume, hsetup, -⟩ := setup_frame config answers
        { d with bytesReceived := 0, bytesExpected := 0, url, port, connectTo }
      dsimp only
      generalize setupAndAddHandle config answers _ = result at hsetup ⊢
      obtain ⟨ok, d'⟩ := result
      obtain rfl := hsetup
      cases ok with
      | false => exact ⟨rfl, rfl⟩
      | true => exact ⟨rfl, rfl⟩
  unfold downloadFile
  split_ifs
  · exact ⟨rfl, rfl⟩
  · exact hstart d
  · obtain ⟨fdOpen, hfile⟩ := open_temp_file_frame config answers d
    generalize d.openTempFile config answers = result at hfile
    obtain ⟨ok, d'⟩ := result
    obtain rfl : d' = { d with fdOpen } := hfile
    cases ok with
    | false => exact ⟨rfl, rfl⟩
    | true => exact hstart { d with fdOpen }

/-- A dispatch counts the retry it makes, and none pends any more. -/
theorem dispatch_count (config : Config) (due : Bool) (answers : Answers)
    (hretry : d.pendingRetry = true ∧ due = true) :
    (d.dispatch config due answers).retryCount = (d.retryCount + 1) % 2 ^ 32 ∧
      (d.dispatch config due answers).pendingRetry = false := by
  obtain ⟨fdOpen, hfile⟩ : ∃ fdOpen,
      (if d.fdOpen = true then d else (d.openTempFile config answers).2) = { d with fdOpen } := by
    split
    · exact ⟨d.fdOpen, rfl⟩
    · exact open_temp_file_frame config answers d
  unfold dispatch
  rw [if_pos hretry, hfile]
  obtain ⟨handle, registered, list, resume, hsetup, -⟩ := setup_frame config answers
    { d with fdOpen, retryCount := (d.retryCount + 1) % 2 ^ 32 }
  dsimp only
  rw [hsetup]
  exact ⟨rfl, rfl⟩

/-- A transfer that is complete leaves the counter, and a retry pends only if one is left. -/
theorem complete_count (config : Config) (d : CurlFileDownload) (easyHandle : Nat)
    (result : CurlCode) (httpResponseCode : Int) (seek : Int → Option Nat) :
    let d' := d.complete config easyHandle result httpResponseCode seek
    d'.retryCount = d.retryCount ∧
      (d'.pendingRetry = true → d.pendingRetry = true ∨ d.retriesLeft config = true) := by
  unfold complete completeCb
  intro d'
  dsimp only [d']
  split
  · split
    · exact ⟨rfl, .inl⟩
    · split
      · exact ⟨rfl, .inl⟩
      · split
        · rename_i hleft
          split
          · exact ⟨rfl, fun _ => .inr hleft.1⟩
          · exact ⟨rfl, fun _ => .inr hleft.1⟩
        · split
          · exact ⟨rfl, .inl⟩
          · exact ⟨rfl, .inl⟩
  · exact ⟨rfl, .inl⟩

/-- An event counts the retries that it makes, and no more are made than are allowed. -/
theorem WithinBudget.step (hlimit : config.maxRetries < 2 ^ 31) (h : d.WithinBudget config)
    (event : Event) :
    (step config d event).WithinBudget config ∧
      (step config d event).retryCount = d.retryCount + d.retries event := by
  -- what counts no retry may only ask for one where the budget has one left
  have hkeep {d' : CurlFileDownload} (hcount : d'.retryCount = d.retryCount)
      (hpending : d'.pendingRetry = true →
        d.pendingRetry = true ∨ d.retriesLeft config = true) : d'.WithinBudget config := by
    have hle := h.count_le
    refine ⟨by omega, fun hretry => ?_⟩
    rw [hcount]
    rcases hpending hretry with hwas | hleft
    · exact h.pending hwas
    · have hlt : config.maxRetries < 0 ∨ (d.retryCount : Int) < config.maxRetries :=
        of_decide_eq_true hleft
      omega
  cases event with
  | dispatch due answers =>
      by_cases hretry : d.pendingRetry = true ∧ due = true
      · obtain ⟨hcount, hpending⟩ := dispatch_count config due answers hretry
        have hlt := h.pending hretry.1
        have hone : d.retries (.dispatch due answers) = 1 := if_pos hretry
        have hnext : (d.retryCount + 1) % 2 ^ 32 = d.retryCount + 1 := by omega
        show (d.dispatch config due answers).WithinBudget config ∧
          (d.dispatch config due answers).retryCount = _
        rw [hone]
        refine ⟨⟨by omega, fun hstill => ?_⟩, by omega⟩
        rw [hpending] at hstill
        cases hstill
      · have hnone : d.retries (.dispatch due answers) = 0 := if_neg hretry
        have hsame : CurlFileDownload.step config d (.dispatch due answers) = d := if_neg hretry
        rw [hnone, hsame]
        exact ⟨h, rfl⟩
  | downloadFile url connectTo port answers =>
      obtain ⟨hcount, hpending⟩ := download_file_count config d url connectTo port answers
      exact ⟨hkeep hcount fun hretry => .inl (hpending ▸ hretry), hcount⟩
  | progress dltotal dlnow => exact ⟨hkeep rfl .inl, rfl⟩
  | complete easyHandle result httpResponseCode seek =>
      obtain ⟨hcount, hpending⟩ := complete_count config d easyHandle result httpResponseCode seek
      exact ⟨hkeep hcount hpending, hcount⟩
  | cancelDownload removes => exact ⟨hkeep rfl nofun, rfl⟩

/-- The counter counts the retries of a run. -/
theorem WithinBudget.run (hlimit : config.maxRetries < 2 ^ 31) (h : d.WithinBudget config)
    (events : List Event) :
    (run (CurlFileDownload.step config) d events).WithinBudget config ∧
      (run (CurlFileDownload.step config) d events).retryCount =
        d.retryCount + retriesMade config d events := by
  induction events generalizing d with
  | nil => exact ⟨h, rfl⟩
  | cons event events ih =>
      obtain ⟨hnext, hcount⟩ := h.step hlimit event
      obtain ⟨hlast, hrest⟩ := ih hnext
      refine ⟨hlast, ?_⟩
      rw [run_cons, hrest, hcount, retriesMade, Nat.add_assoc]

/-- A call that starts a download. -/
def Starts (config : Config) (d : CurlFileDownload) : Event → Prop
  | .downloadFile url connectTo port answers =>
    (d.downloadFile config url connectTo port answers).1 = true
  | _ => False

/-- A download of a run that is reported failed after an attempt that could be tried again: what
happens before it, the call that starts it, what happens until that attempt ends, and how it
ends. -/
structure FailedDownload (config : Config) (fdOpen : Bool) where
  before : List Event
  url : String
  connectTo : String
  port : Int
  answers : Answers
  attempts : List Event
  easyHandle : Nat
  result : CurlCode
  httpResponseCode : Int
  seek : Int → Option Nat
  accepted : Starts config (run (step config) (init fdOpen) before)
    (.downloadFile url connectTo port answers)
  alone : Along (step config) (fun d event => ¬Starts config d event)
    (run (step config) (init fdOpen) (before ++ [.downloadFile url connectTo port answers]))
    attempts
  retryable : canRetry result httpResponseCode = true
  inProgress : (run (step config) (init fdOpen)
    (before ++ [.downloadFile url connectTo port answers] ++ attempts)).status = .inProgress
  failed : (run (step config) (init fdOpen)
    (before ++ [.downloadFile url connectTo port answers] ++ attempts ++
      [.complete easyHandle result httpResponseCode seek])).status = .failed

namespace FailedDownload

/-- The state in which the download is started. -/
def start (f : FailedDownload config fdOpen) : CurlFileDownload :=
  run (step config) (init fdOpen) f.before

/-- The state with the download under way. -/
def started (f : FailedDownload config fdOpen) : CurlFileDownload :=
  step config f.start (.downloadFile f.url f.connectTo f.port f.answers)

/-- The retries that the download itself has made. -/
def ownRetries (f : FailedDownload config fdOpen) : Nat :=
  retriesMade config f.started f.attempts

end FailedDownload

/-- Where an attempt that could be tried again is reported as a failure, no retry is left. -/
theorem no_retry_left {easyHandle : Nat} {result : CurlCode} {httpResponseCode : Int}
    {seek : Int → Option Nat} (hretry : canRetry result httpResponseCode = true)
    (hprogress : d.status = .inProgress)
    (hfailed : (d.complete config easyHandle result httpResponseCode seek).status = .failed) :
    d.retriesLeft config = false := by
  by_contra hleft
  have hleft' : d.retriesLeft config = true := by simpa using hleft
  have hresult : result ≠ .ok := by
    rintro rfl
    cases hretry
  have hkeeps : (d.complete config easyHandle result httpResponseCode seek).status =
      .inProgress := by
    unfold complete completeCb
    dsimp only
    split_ifs with hmem hother hgoes hpartial
    · exact hprogress
    · exact hprogress
    · exact hprogress
    · exact absurd ⟨hleft', hretry⟩ hgoes
    · exact hprogress
  rw [hkeeps] at hfailed
  cases hfailed

/-- A download just constructed has its budget. -/
theorem init_within_budget (hretries : 0 ≤ config.maxRetries) (fdOpen : Bool) :
    (init fdOpen).WithinBudget config :=
  ⟨hretries, nofun⟩

/-- A download that is reported failed after an attempt that could be tried again has made all the
retries that are allowed if and only if none had been counted when it was started. -/
theorem own_retries_iff (hretries : 0 ≤ config.maxRetries) (hlimit : config.maxRetries < 2 ^ 31)
    (f : FailedDownload config fdOpen) :
    config.maxRetries ≤ f.ownRetries ↔ f.start.retryCount = 0 := by
  obtain ⟨hbefore, -⟩ := (init_within_budget hretries fdOpen).run hlimit f.before
  obtain ⟨hstarted, hcount⟩ :=
    hbefore.step hlimit (.downloadFile f.url f.connectTo f.port f.answers)
  obtain ⟨hlast, hown⟩ := hstarted.run hlimit f.attempts
  have hprogress := f.inProgress
  have hfailed := f.failed
  simp only [run_append, run_cons, run_nil] at hprogress hfailed
  have hnone := no_retry_left f.retryable hprogress hfailed
  have hspent : ¬(config.maxRetries < 0 ∨ _) := of_decide_eq_false hnone
  have hle := hlast.count_le
  have hzero : f.start.retries (.downloadFile f.url f.connectTo f.port f.answers) = 0 := rfl
  have hsum : (run (step config) f.started f.attempts).retryCount =
      f.start.retryCount + f.ownRetries := by
    rw [FailedDownload.ownRetries, ← Nat.add_zero f.start.retryCount, ← hzero]
    exact hown.trans (by rw [hcount]; rfl)
  change ((run (step config) f.started f.attempts).retryCount : Int) ≤ _ at hle
  change ¬(_ ∨ ((run (step config) f.started f.attempts).retryCount : Int) < _) at hspent
  omega

end CurlFileDownload

/-- The one retry that is allowed is used up by a download that succeeds. The next download fails
with its first attempt. -/
def Sample.secondDownload :
    CurlFileDownload.FailedDownload { maxFileSize := -1, maxRetries := 1 } true where
  before := Sample.timesOut ++ [.dispatch true Sample.smooth, .complete 1 .ok 200 fun _ => none]
  url := "https://host/other"
  connectTo := ""
  port := -1
  answers := Sample.smooth
  attempts := []
  easyHandle := 1
  result := .operationTimedout
  httpResponseCode := 0
  seek _ := none
  accepted := show _ = true by decide
  alone := trivial
  retryable := by decide
  inProgress := by decide
  failed := by decide

theorem second_download_gets_no_retry :
    ¬∀ (config : Config) (fdOpen : Bool) (f : CurlFileDownload.FailedDownload config fdOpen),
      0 ≤ config.maxRetries → config.maxRetries < 2 ^ 31 →
        config.maxRetries ≤ f.ownRetries := by
  intro h
  have hretries := h _ _ Sample.secondDownload (by decide) (by decide)
  revert hretries
  decide

/-- With the counter at 0, the one retry is made. -/
def Sample.firstDownload :
    CurlFileDownload.FailedDownload { maxFileSize := -1, maxRetries := 1 } true where
  before := []
  url := "https://host/file"
  connectTo := ""
  port := -1
  answers := Sample.smooth
  attempts := [.complete 1 .operationTimedout 0 fun _ => none, .dispatch true Sample.smooth]
  easyHandle := 1
  result := .recvError
  httpResponseCode := 0
  seek _ := none
  accepted := show _ = true by decide
  alone := ⟨id, id, trivial⟩
  retryable := by decide
  inProgress := by decide
  failed := by decide

/-- The theorem on the first download of the sample. -/
theorem first_download_gets_its_retry :
    (1 : Int) ≤ Sample.firstDownload.ownRetries :=
  (CurlFileDownload.own_retries_iff (by decide) (by decide) Sample.firstDownload).2 (by decide)

end Codon.Curl
