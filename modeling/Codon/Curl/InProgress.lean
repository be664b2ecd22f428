import Codon.Curl.FileDownload

/-!
# Downloads in progress

Whether a download is in progress is kept in three places: the status, the pending retry and
the handles of the dispatcher. They agree throughout a run exactly if no retry fails before
its handle is registered and no handle that is registered stays when the download is
cancelled (`in_progress_iff_along`).
-/

namespace Codon.Curl

open Codon.Library

variable {config : Config} {answers : Answers} {d d' : CurlFileDownload}

/-- No operation of `setup_and_add_handle` fails. -/
structure Answers.Allow (config : Config) (answers : Answers) (d : CurlFileDownload) : Prop where
  handle : answers.easyInit ≠ none
  options : ∀ option ∈ config.options d.url d.port, answers.setopt option = true
  position : ∃ position, answers.position = some position ∧
    (position ≠ 0 → answers.setopt (.resumeFromLarge position) = true)
  connectTo : d.connectTo ≠ "" → answers.slistAppend = true ∧
    answers.setopt (.connectTo (d.connectToList ++ [d.connectTo])) = true
  added : answers.addHandle = true

namespace CurlFileDownload

/-- The status says that a download is in progress exactly if a handle is registered or a retry is
pending. -/
def Consistent (d : CurlFileDownload) : Prop :=
  d.status = .inProgress ↔ d.registered ≠ [] ∨ d.pendingRetry = true

/-- At most one handle is registered, which is the current one, and none while a retry is
pending. -/
structure Tracked (d : CurlFileDownload) : Prop where
  registered : d.registered = [] ∨ ∃ handle, d.handle = some handle ∧ d.registered = [handle]
  pending : d.pendingRetry = true → d.registered = []
  consistent : d.Consistent

/-- What setting up a handle does: it registers a new handle exactly if the file is open and no
operation fails. -/
inductive SetsUp (config : Config) (answers : Answers) (d : CurlFileDownload) :
    Bool × CurlFileDownload → Prop where
  | done {d' : CurlFileDownload} {handle : Nat} (hopen : d.fdOpen = true)
      (hallow : answers.Allow config d) (hstatus : d'.status = d.status)
      (hpending : d'.pendingRetry = d.pendingRetry) (hhandle : d'.handle = some handle)
      (hregistered : d'.registered = handle :: d.registered) : SetsUp config answers d (true, d')
  | failed {d' : CurlFileDownload} (hfails : d.fdOpen = true → ¬answers.Allow config d)
      (hstatus : d'.status = d.status) (hpending : d'.pendingRetry = d.pendingRetry)
      (hregistered : d'.registered = d.registered) : SetsUp config answers d (false, d')

/-- The last steps of setting up a handle, once it has its other options. -/
theorem set_connect_to_sets_up {handle position : Nat} (hopen : d.fdOpen = true)
    (hinit : answers.easyInit = some handle)
    (hoptions : ∀ option ∈ config.options d.url d.port, answers.setopt option = true)
    (hposition : answers.position = some position)
    (hresume : position ≠ 0 → answers.setopt (.resumeFromLarge position) = true) :
    SetsUp config answers d
      ({ d with handle := some handle, resumeFrom := position % 2 ^ 32 }.setConnectTo answers
        handle) := by
  have hallow (hconnect : d.connectTo ≠ "" → answers.slistAppend = true ∧
      answers.setopt (.connectTo (d.connectToList ++ [d.connectTo])) = true)
      (hadded : answers.addHandle = true) : answers.Allow config d :=
    ⟨by simp [hinit], hoptions, ⟨position, hposition, hresume⟩, hconnect, hadded⟩
  unfold setConnectTo addHandle
  by_cases hdefault : d.connectTo = ""
  · simp only [hdefault, if_true]
    by_cases hadded : answers.addHandle = true
    · rw [if_pos hadded]
      exact .done hopen (hallow (absurd hdefault) hadded) rfl rfl rfl rfl
    · rw [if_neg hadded]
      exact .failed (fun _ h => hadded h.added) rfl rfl rfl
  simp only [hdefault, if_false]
  by_cases happend : answers.slistAppend = true
  swap
  · rw [if_pos (by simpa using happend)]
    exact .failed (fun _ h => happend (h.connectTo hdefault).1) rfl rfl rfl
  by_cases hset : answers.setopt (.connectTo (d.connectToList ++ [d.connectTo])) = true
  swap
  · rw [if_neg (by simpa using happend), if_pos (by simpa using hset)]
    exact .failed (fun _ h => hset (h.connectTo hdefault).2) rfl rfl rfl
  rw [if_neg (by simpa using happend), if_neg (by simpa using hset)]
  by_cases hadded : answers.addHandle = true
  · rw [if_pos hadded]
    exact .done hopen (hallow (fun _ => ⟨happend, hset⟩) hadded) rfl rfl rfl rfl
  · rw [if_neg hadded]
    exact .failed (fun _ h => hadded h.added) rfl rfl rfl

/-- A setup either adds the handle or gives up. -/
theorem setup_sets_up (config : Config) (answers : Answers) (d : CurlFileDownload) :
    SetsUp config answers d (d.setupAndAddHandle config answers) := by
  unfold setupAndAddHandle
  by_cases hopen : d.fdOpen = true
  swap
  · rw [if_pos (by simpa using hopen)]
    exact .failed (fun h => absurd h hopen) rfl rfl rfl
  rw [if_neg (by simpa using hopen)]
  cases hinit : answers.easyInit with
  | none => exact .failed (fun _ hallow => hallow.handle hinit) rfl rfl rfl
  | some handle =>
      by_cases hoptions : ∀ option ∈ config.options d.url d.port, answers.setopt option = true
      swap
      · have hall : (config.options d.url d.port).all answers.setopt = false := by
          simpa using hoptions
        simp only [hall]
        exact .failed (fun _ hallow => hoptions hallow.options) rfl rfl rfl
      have hall : (config.options d.url d.port).all answers.setopt = true :=
        List.all_eq_true.2 hoptions
      simp only [hall]
      cases hposition : answers.position with
      | none =>
          refine .failed (fun _ hallow => ?_) rfl rfl rfl
          obtain ⟨position, hsome, -⟩ := hallow.position
          rw [hposition] at hsome
          cases hsome
      | some position =>
          -- a download from the start sets no position
          by_cases hresume : position ≠ 0 → answers.setopt (.resumeFromLarge position) = true
          · have hgo : ¬(position ≠ 0 ∧ (!answers.setopt (.resumeFromLarge position)) = true) := by
              simpa using hresume
            simp only [Bool.not_true, Bool.false_eq_true, if_false, hgo]
            exact set_connect_to_sets_up hopen hinit hoptions hposition hresume
          · have hstop : position ≠ 0 ∧ (!answers.setopt (.resumeFromLarge position)) = true := by
              simpa using hresume
            simp only [Bool.not_true, Bool.false_eq_true, if_false]
            rw [if_pos hstop]
            refine .failed (fun _ hallow => hresume ?_) rfl rfl rfl
            obtain ⟨position', hsome, h⟩ := hallow.position
            rw [hposition] at hsome
            cases hsome
            exact h

/-- Setting where to connect changes the list and the handle's options only. -/
theorem set_connect_to_frame (answers : Answers) (handle : Nat) (d : CurlFileDownload) :
    ∃ registered connectToList,
      (d.setConnectTo answers handle).2 = { d with registered, connectToList } := by
  have hadd (d : CurlFileDownload) : ∃ registered,
      (d.addHandle answers handle).2 = { d with registered } := by
    unfold addHandle
    split
    · exact ⟨handle :: d.registered, rfl⟩
    · exact ⟨d.registered, rfl⟩
  unfold setConnectTo
  split
  · obtain ⟨registered, heq⟩ := hadd d
    exact ⟨registered, d.connectToList, heq⟩
  · split
    · exact ⟨d.registered, d.connectToList, rfl⟩
    · dsimp only
      split
      · exact ⟨d.registered, d.connectToList ++ [d.connectTo], rfl⟩
      · obtain ⟨registered, heq⟩ :=
          hadd { d with connectToList := d.connectToList ++ [d.connectTo] }
        exact ⟨registered, d.connectToList ++ [d.connectTo], heq⟩

/-- What setting up a handle leaves alone, and where the transfer resumes if it is set up. -/
theorem setup_frame (config : Config) (answers : Answers) (d : CurlFileDownload) :
    ∃ handle registered connectToList resumeFrom,
      (d.setupAndAddHandle config answers).2 =
        { d with handle, registered, connectToList, resumeFrom } ∧
      ((d.setupAndAddHandle config answers).1 = true →
        ∃ position, answers.position = some position ∧ resumeFrom = position % 2 ^ 32) := by
  unfold setupAndAddHandle
  by_cases hopen : (!d.fdOpen) = true
  · rw [if_pos hopen]
    exact ⟨d.handle, d.registered, d.connectToList, d.resumeFrom, rfl, nofun⟩
  rw [if_neg hopen]
  cases answers.easyInit with
  | none => exact ⟨none, d.registered, d.connectToList, d.resumeFrom, rfl, nofun⟩
  | some handle =>
      cases hall : (config.options d.url d.port).all answers.setopt with
      | false =>
          simp only [hall, Bool.not_false, if_true]
          exact ⟨some handle, d.registered, d.connectToList, d.resumeFrom, rfl, nofun⟩
      | true =>
      simp only [hall, Bool.not_true, Bool.false_eq_true, if_false]
      cases answers.position with
      | none => exact ⟨some handle, d.registered, d.connectToList, d.resumeFrom, rfl, nofun⟩
      | some position =>
          dsimp only
          split
          · exact ⟨some handle, d.registered, d.connectToList, position % 2 ^ 32, rfl, nofun⟩
          · obtain ⟨registered, list, heq⟩ := set_connect_to_frame answers handle
              { d with handle := some handle, resumeFrom := position % 2 ^ 32 }
            exact ⟨some handle, registered, list, position % 2 ^ 32, heq,
              fun _ => ⟨position, rfl, rfl⟩⟩

/-- `dispatch` and `download_file` open the file if it is not. -/
theorem open_temp_file_spec (config : Config) (answers : Answers) (d : CurlFileDownload) :
    ∃ fdOpen, (d.openTempFile config answers).2 = { d with fdOpen } ∧
      (d.fdOpen = false → (fdOpen = true ↔ config.maxFileSize ≠ 0 ∧ answers.openFile = true)) := by
  unfold openTempFile
  by_cases hsize : config.maxFileSize = 0
  · exact ⟨d.fdOpen, by rw [if_pos hsize], fun h => by simp [h, hsize]⟩
  rw [if_neg hsize]
  by_cases hopen : answers.openFile = true
  · refine ⟨true, ?_, fun _ => by simp [hsize, hopen]⟩
    simp only [hopen, Bool.not_true, Bool.false_eq_true, if_false]
    split <;> rfl
  · exact ⟨false, by rw [if_pos (by simpa using hopen)], fun _ => by simp [hopen]⟩

/-- Where no handle is registered and no retry is pending, no download is in progress. -/
theorem Tracked.of_quiet (hregistered : d.registered = []) (hpending : d.pendingRetry = false)
    (hstatus : d.status ≠ .inProgress) : d.Tracked where
  registered := .inl hregistered
  pending _ := hregistered
  consistent := by simp [Consistent, hregistered, hpending, hstatus]

/-- With its new handle, a download is in progress. -/
theorem Tracked.of_started {handle : Nat} (hhandle : d.handle = some handle)
    (hregistered : d.registered = [handle]) (hpending : d.pendingRetry = false)
    (hstatus : d.status = .inProgress) : d.Tracked where
  registered := .inr ⟨handle, hhandle, hregistered⟩
  pending h := by simp [hpending] at h
  consistent := by simp [Consistent, hregistered, hstatus]

/-- The condition on an event: no operation of a retry fails before its handle is registered, and
no handle that is registered stays when the download is cancelled. -/
def Keeps (config : Config) (d : CurlFileDownload) : Event → Prop
  | .dispatch due answers =>
      d.pendingRetry = true → due = true →
        (d.fdOpen = true ∨ config.maxFileSize ≠ 0 ∧ answers.openFile = true) ∧
          answers.Allow config d
  | .cancelDownload removes => d.registered ≠ [] → removes = true
  | _ => True

/-- A dispatch leaves no trace, or it makes the retry, or it loses it. -/
theorem dispatch_cases (h : d.Tracked) (config : Config) (due : Bool) (answers : Answers) :
    (d.dispatch config due answers).Tracked ∧ Keeps config d (.dispatch due answers) ∨
      ¬(d.dispatch config due answers).Consistent ∧ ¬Keeps config d (.dispatch due answers) := by
  unfold dispatch Keeps
  by_cases hretry : d.pendingRetry = true ∧ due = true
  swap
  · rw [if_neg hretry]
    exact .inl ⟨h, fun hpending hdue => absurd ⟨hpending, hdue⟩ hretry⟩
  rw [if_pos hretry]
  have hnone : d.registered = [] := h.pending hretry.1
  have hstatus : d.status = .inProgress := h.consistent.2 (.inr hretry.1)
  -- the file that the retry finds, open or not
  obtain ⟨fdOpen, hfile, hopens⟩ : ∃ fdOpen,
      (if d.fdOpen = true then d else (d.openTempFile config answers).2) = { d with fdOpen } ∧
        (fdOpen = true ↔ d.fdOpen = true ∨ config.maxFileSize ≠ 0 ∧ answers.openFile = true) := by
    by_cases hopen : d.fdOpen = true
    · exact ⟨d.fdOpen, by rw [if_pos hopen], by simp [hopen]⟩
    · obtain ⟨fdOpen, hfile, hopens⟩ := open_temp_file_spec config answers d
      have hnew := hopens (by simpa using hopen)
      exact ⟨fdOpen, by rw [if_neg hopen, hfile], by simpa [hopen] using hnew⟩
  rw [hfile]
  have hsetup := setup_sets_up config answers
    { d with fdOpen, retryCount := (d.retryCount + 1) % 2 ^ 32 }
  dsimp only
  generalize setupAndAddHandle config answers _ = result at hsetup ⊢
  cases hsetup with
  | done hopen hallow hstatus' hpending hhandle hregistered =>
      refine .inl ⟨?_, fun _ _ => ⟨hopens.1 hopen, ?_⟩⟩
      · exact .of_started hhandle (hregistered.trans (by rw [hnone])) rfl (hstatus'.trans hstatus)
      · exact ⟨hallow.handle, hallow.options, hallow.position, hallow.connectTo, hallow.added⟩
  | failed hfails hstatus' hpending hregistered =>
      refine .inr ⟨fun hconsistent => ?_, fun hkeeps => ?_⟩
      · obtain hsome | hpending := hconsistent.1 (hstatus'.trans hstatus)
        · exact hsome (hregistered.trans hnone)
        · cases hpending
      · obtain ⟨hfd, hallow⟩ := hkeeps hretry.1 hretry.2
        exact hfails (hopens.2 hfd)
          ⟨hallow.handle, hallow.options, hallow.position, hallow.connectTo, hallow.added⟩

/-- A download that starts is tracked, and so is one that does not. -/
theorem Tracked.start_download (hregistered : d.registered = []) (hpending : d.pendingRetry = false)
    (hstatus : d.status ≠ .inProgress) (config : Config) (url connectTo : String) (port : Int)
    (answers : Answers) : (d.startDownload config url connectTo port answers).2.Tracked := by
  have hquiet := Tracked.of_quiet hregistered hpending hstatus
  unfold startDownload
  split_ifs
  · exact hquiet
  · exact hquiet
  · have hsetup := setup_sets_up config answers
      { d with bytesReceived := 0, bytesExpected := 0, url, port, connectTo }
    dsimp only
    generalize setupAndAddHandle config answers _ = result at hsetup ⊢
    cases hsetup with
    | done hopen hallow hstatus' hpending' hhandle hregistered' =>
        exact .of_started hhandle (hregistered'.trans (by rw [hregistered]))
          (hpending'.trans hpending) rfl
    | failed hfails hstatus' hpending' hregistered' =>
        exact .of_quiet (hregistered'.trans hregistered) (hpending'.trans hpending)
          (hstatus' ▸ hstatus)

/-- Starting a download keeps track of it. -/
theorem Tracked.download_file (h : d.Tracked) (config : Config) (url connectTo : String)
    (port : Int) (answers : Answers) :
    (d.downloadFile config url connectTo port answers).2.Tracked := by
  unfold downloadFile
  by_cases hstatus : d.status = .inProgress
  · rw [if_pos hstatus]
    exact h
  rw [if_neg hstatus]
  -- nothing is under way, or the download would be in progress
  have hregistered : d.registered = [] := by
    by_contra hne
    exact hstatus (h.consistent.2 (.inl hne))
  have hpending : d.pendingRetry = false := by
    by_contra hne
    exact hstatus (h.consistent.2 (.inr (by simpa using hne)))
  by_cases hopen : d.fdOpen = true
  · rw [if_pos hopen]
    exact .start_download hregistered hpending hstatus ..
  rw [if_neg hopen]
  obtain ⟨fdOpen, hfile, -⟩ := open_temp_file_spec config answers d
  generalize d.openTempFile config answers = result at hfile
  obtain ⟨ok, d'⟩ := result
  obtain rfl : d' = { d with fdOpen } := hfile
  cases ok with
  | false => exact .of_quiet hregistered hpending hstatus
  | true => exact .start_download (d := { d with fdOpen }) hregistered hpending hstatus ..

/-- So does its end. -/
theorem Tracked.complete (h : d.Tracked) (config : Config) (easyHandle : Nat) (result : CurlCode)
    (httpResponseCode : Int) (seek : Int → Option Nat) :
    (d.complete config easyHandle result httpResponseCode seek).Tracked := by
  unfold CurlFileDownload.complete
  by_cases hmem : easyHandle ∈ d.registered
  swap
  · rw [if_neg hmem]
    exact h
  rw [if_pos hmem]
  obtain hnone | ⟨handle, hhandle, hregistered⟩ := h.registered
  · rw [hnone] at hmem
    cases hmem
  obtain rfl : easyHandle = handle := by simpa [hregistered] using hmem
  have hstatus : d.status = .inProgress :=
    h.consistent.2 (.inl (by rw [hregistered]; exact List.cons_ne_nil _ _))
  have hpending : d.pendingRetry = false := by
    by_contra hne
    have hempty := h.pending (by simpa using hne)
    rw [hregistered] at hempty
    cases hempty
  have herased : d.registered.erase easyHandle = [] := by rw [hregistered]; simp
  unfold completeCb
  simp only [hhandle, herased, ne_eq, not_true_eq_false, if_false]
  split_ifs
  -- it succeeded, or it is tried again, or it failed; the file may have been moved back
  · exact .of_quiet rfl hpending nofun
  · exact ⟨.inl rfl, fun _ => rfl, by simp [Consistent, hstatus]⟩
  · exact ⟨.inl rfl, fun _ => rfl, by simp [Consistent, hstatus]⟩
  · exact .of_quiet rfl hpending nofun
  · exact .of_quiet rfl hpending nofun

/-- Cancelling lets go of the handle, or leaves it registered. -/
theorem cancel_download_cases (h : d.Tracked) (config : Config) (removes : Bool) :
    (d.cancelDownload removes).Tracked ∧ Keeps config d (.cancelDownload removes) ∨
      ¬(d.cancelDownload removes).Consistent ∧ ¬Keeps config d (.cancelDownload removes) := by
  unfold cancelDownload Keeps
  obtain hnone | ⟨handle, hhandle, hregistered⟩ := h.registered
  · refine .inl ⟨.of_quiet ?_ rfl nofun, fun hne => absurd hnone hne⟩
    cases d.handle <;> simp [hnone]
  · cases removes with
    | true =>
        refine .inl ⟨.of_quiet ?_ rfl nofun, fun _ => rfl⟩
        simp [hhandle, hregistered]
    | false =>
        refine .inr ⟨fun hconsistent => ?_, fun hkeeps => ?_⟩
        · have hidle := hconsistent.2 (.inl (by simp [hhandle, hregistered]))
          cases hidle
        · cases hkeeps (by rw [hregistered]; exact List.cons_ne_nil _ _)

/-- What one event does: it keeps track of the download exactly if it meets the condition. -/
theorem step_cases (h : d.Tracked) (config : Config) (event : Event) :
    (step config d event).Tracked ∧ Keeps config d event ∨
      ¬(step config d event).Consistent ∧ ¬Keeps config d event := by
  cases event with
  | dispatch due answers => exact dispatch_cases h config due answers
  | downloadFile url connectTo port answers =>
      exact .inl ⟨h.download_file config url connectTo port answers, trivial⟩
  | progress dltotal dlnow => exact .inl ⟨⟨h.registered, h.pending, h.consistent⟩, trivial⟩
  | complete easyHandle result httpResponseCode seek =>
      exact .inl ⟨h.complete config easyHandle result httpResponseCode seek, trivial⟩
  | cancelDownload removes => exact cancel_download_cases h config removes

/-- A download just constructed is not in progress. -/
theorem init_tracked (fdOpen : Bool) : (init fdOpen).Tracked := .of_quiet rfl rfl nofun

/-- Throughout a run, a download is in progress exactly while a handle is registered or a retry is
pending, if and only if no retry fails before its handle is registered and no registered handle
stays when the download is cancelled. -/
theorem in_progress_iff_along (config : Config) (fdOpen : Bool) (events : List Event) :
    (∀ earlier, earlier <+: events →
      ((run (step config) (init fdOpen) earlier).status = .inProgress ↔
        (run (step config) (init fdOpen) earlier).registered ≠ [] ∨
          (run (step config) (init fdOpen) earlier).pendingRetry = true)) ↔
      Along (step config) (Keeps config) (init fdOpen) events := by
  refine forall_prefix_iff_along (P := Consistent) (I := Tracked) (fun d event h hkeeps => ?_)
    (fun d event h _ => ?_) (init_tracked fdOpen) (init_tracked fdOpen).consistent
  · obtain ⟨htracked, -⟩ | ⟨-, hnot⟩ := step_cases h config event
    · exact htracked
    · exact absurd hkeeps hnot
  · obtain ⟨htracked, hkeeps⟩ | ⟨hnot, hnot'⟩ := step_cases h config event
    · exact iff_of_true htracked.consistent hkeeps
    · exact iff_of_false hnot hnot'

end CurlFileDownload

namespace Sample

open CurlFileDownload

/-- Operations that all succeed, with the file at its start. -/
def smooth : Answers where
  openFile := true
  fallocate := true
  rewind := true
  truncate := true
  easyInit := some 1
  setopt _ := true
  position := some 0
  slistAppend := true
  addHandle := true

/-- A transfer that times out, to be tried again. -/
def timesOut : List Event :=
  [.downloadFile "https://host/file" "" (-1) smooth, .complete 1 .operationTimedout 0 fun _ => none]

end Sample

/-- A retry gets no handle from curl. The download stays in progress, with no handle and no retry,
dispatching it again does nothing, and no other can be started. -/
theorem failed_retry_in_progress_for_ever :
    let config : Config := { maxFileSize := -1, maxRetries := 3 }
    let d := run (CurlFileDownload.step config) (.init true)
      (Sample.timesOut ++ [.dispatch true { Sample.smooth with easyInit := none }])
    d.status = .inProgress ∧ d.registered = [] ∧ d.pendingRetry = false ∧
      ¬(d.status = .inProgress ↔ d.registered ≠ [] ∨ d.pendingRetry = true) ∧
      d.dispatch config true Sample.smooth = d ∧
      (d.downloadFile config "https://host/file" "" (-1) Sample.smooth).1 = false := by
  decide

-- with a handle the retry goes on, until it is cancelled
example :
    Along (CurlFileDownload.step { maxFileSize := -1, maxRetries := 3 })
      (CurlFileDownload.Keeps { maxFileSize := -1, maxRetries := 3 }) (.init true)
      (Sample.timesOut ++ [.cancelDownload true]) :=
  ⟨trivial, trivial, fun _ => rfl, trivial⟩

end Codon.Curl
