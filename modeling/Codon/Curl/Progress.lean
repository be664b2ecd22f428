import Codon.Curl.InProgress

/-!
# The bytes received and the file

The file that a download is written to has a position, which every write moves on and which
a rewind moves back. Where a transfer resumes is kept in 32 bits, so the bytes received are
counted right exactly in the transfers that resume below 4 GiB (`counts_right_iff_along`).
The rewinds are right throughout.
-/

namespace Codon.Curl

open Codon.Library

/-- What curl is doing: where the file was positioned when the transfer began, and how much has
been written since. -/
structure Transfer where
  resumed : Nat
  written : Nat
  deriving DecidableEq

/-- A download, the position of its file, and the transfer that curl carries out for it. -/
structure FileTransfer where
  d : CurlFileDownload
  position : Nat
  transfer : Option Transfer
  deriving DecidableEq

/-- What can happen. -/
inductive FileEvent where
  | dispatch (due : Bool) (answers : Answers)
  | downloadFile (url connectTo : String) (port : Int) (answers : Answers)
  | write (n : Nat)
  | progress (dltotal dlnow : Nat)
  | complete (easyHandle : Nat) (result : CurlCode) (httpResponseCode : Int)
  | cancelDownload (removes : Bool)
  | moveTempFileTo (renames : Bool) (answers : Answers)

namespace FileTransfer

/-- What `lseek` says about the position. It may fail. -/
def locate (position : Nat) (answers : Answers) : Answers :=
  { answers with position := answers.position.map fun _ => position }

/-- `lseek(fd, offset, SEEK_CUR)`: it fails where that would be before the start of the file. -/
def seekCur (position : Nat) (offset : Int) : Option Nat :=
  if 0 ≤ position + offset then some (position + offset).toNat else none

/-- Curl begins a transfer when a handle is registered, at the position of the file, and ends it
when the handle is let go of. -/
def follow (s : FileTransfer) (d : CurlFileDownload) (position : Nat) : FileTransfer where
  d
  position
  transfer :=
    if d.registered = [] then none
    else if s.d.registered = [] then some ⟨position, 0⟩
    else s.transfer

/-- `write_cb`. -/
def write (s : FileTransfer) (n : Nat) : FileTransfer :=
  { s with
    position := s.position + n
    transfer := s.transfer.map fun t => { t with written := t.written + n } }

/-- `move_temp_file_to`. -/
def moveTempFileTo (config : Config) (renames : Bool) (answers : Answers) (s : FileTransfer) :
    FileTransfer :=
  if s.d.status = .inProgress then s
  else if !renames then s
  else s.follow (s.d.openTempFile config answers).2 0

/-- Where a download that is started finds the file positioned. A file that is opened is at its
start. -/
def startPosition (s : FileTransfer) (answers : Answers) : Nat :=
  if s.d.status = .inProgress then s.position
  else if !s.d.fdOpen then 0
  else if answers.rewind then 0
  else s.position

/-- Whether a transfer that is complete is the current one and has delivered part of the file. -/
def Rewinds (s : FileTransfer) (easyHandle : Nat) (result : CurlCode) : Prop :=
  easyHandle ∈ s.d.registered ∧ s.d.handle = some easyHandle ∧ result = .partialFile

instance (s : FileTransfer) (easyHandle : Nat) (result : CurlCode) :
    Decidable (s.Rewinds easyHandle result) :=
  inferInstanceAs (Decidable (_ ∧ _ ∧ _))

def step (config : Config) (s : FileTransfer) : FileEvent → FileTransfer
  | .dispatch due answers =>
    let position := if s.d.fdOpen then s.position else 0
    s.follow (s.d.dispatch config due (locate position answers)) position
  | .downloadFile url connectTo port answers =>
    let position := s.startPosition answers
    s.follow (s.d.downloadFile config url connectTo port (locate position answers)).2 position
  | .write n => s.write n
  | .progress dltotal dlnow => { s with d := s.d.updateProgress dltotal dlnow }
  | .complete easyHandle result httpResponseCode =>
    let position :=
      if s.Rewinds easyHandle result then
        (seekCur s.position s.d.moveCursorBack).getD s.position
      else s.position
    s.follow (s.d.complete config easyHandle result httpResponseCode (seekCur s.position)) position
  | .cancelDownload removes => s.follow (s.d.cancelDownload removes) s.position
  | .moveTempFileTo renames answers => s.moveTempFileTo config renames answers

/-- Nothing has been downloaded yet. -/
def start (fdOpen : Bool) : FileTransfer := ⟨.init fdOpen, 0, none⟩

/-- How curl behaves: it writes and reports progress only during a transfer, reports no more than
it has written, writes less than `2 ^ 63` bytes and lets go of a handle when it is told to. -/
def Allowed (s : FileTransfer) : FileEvent → Prop
  | .write n => s.transfer ≠ none ∧ s.position + n < 2 ^ 63
  | .progress _ dlnow => ∃ t, s.transfer = some t ∧ dlnow ≤ t.written
  | .cancelDownload removes => s.d.registered ≠ [] → removes = true
  | _ => True

/-- What an event is to do: progress counts from where the transfer resumed, and a rewind moves the
file back by five MiB, or by what has been received if that is less. -/
def Right (config : Config) (s : FileTransfer) : FileEvent → Prop
  | .progress dltotal dlnow =>
    ∀ t, s.transfer = some t →
      (s.step config (.progress dltotal dlnow)).d.bytesReceived = t.resumed + dlnow
  | .complete easyHandle result httpResponseCode =>
    s.Rewinds easyHandle result →
      (s.step config (.complete easyHandle result httpResponseCode)).position +
        min (5 * 1024 * 1024) s.d.bytesReceived = s.position
  | _ => True

/-- The transfer that progress is reported for resumed below 4 GiB. -/
def BelowLimit (s : FileTransfer) : FileEvent → Prop
  | .progress _ _ => ∀ t, s.transfer = some t → t.resumed < 2 ^ 32
  | _ => True

instance (s : FileTransfer) : (event : FileEvent) → Decidable (s.BelowLimit event)
  | .progress _ _ => inferInstanceAs (Decidable (∀ t ∈ s.transfer, t.resumed < 2 ^ 32))
  | .dispatch _ _ | .downloadFile _ _ _ _ | .write _ | .complete _ _ _ | .cancelDownload _
  | .moveTempFileTo _ _ => inferInstanceAs (Decidable True)

/-- What holds throughout a run. -/
structure Sound (s : FileTransfer) : Prop where
  registered : s.d.registered = [] ∨ ∃ handle, s.d.handle = some handle ∧ s.d.registered = [handle]
  transfers : s.transfer = none ↔ s.d.registered = []
  pending : s.d.pendingRetry = true → s.d.registered = []
  busy : s.d.registered ≠ [] ∨ s.d.pendingRetry = true →
    s.d.status = .inProgress ∧ s.d.fdOpen = true
  resumed : ∀ t, s.transfer = some t →
    s.d.resumeFrom = t.resumed % 2 ^ 32 ∧ s.position = t.resumed + t.written
  received : s.d.registered ≠ [] ∨ s.d.pendingRetry = true → s.d.bytesReceived ≤ s.position
  position_lt : s.position < 2 ^ 63

variable {config : Config} {s : FileTransfer} {d d' : CurlFileDownload} {position : Nat}
  {answers : Answers}

open CurlFileDownload

/-- Setting up a handle registers it, to resume where the file is, or registers none. -/
theorem setup_locate_cases (config : Config) (answers : Answers) (position : Nat)
    (d : CurlFileDownload) :
    (∃ handle connectToList,
      d.setupAndAddHandle config (locate position answers) =
        (true, { d with
          handle := some handle, registered := handle :: d.registered, connectToList
          resumeFrom := position % 2 ^ 32 }) ∧ d.fdOpen = true) ∨
    ∃ handle connectToList resumeFrom,
      d.setupAndAddHandle config (locate position answers) =
        (false, { d with handle, connectToList, resumeFrom }) := by
  have hsetup := setup_sets_up config (locate position answers) d
  obtain ⟨handle, registered, list, resume, hframe, hresume⟩ :=
    setup_frame config (locate position answers) d
  generalize d.setupAndAddHandle config (locate position answers) = result at *
  cases hsetup with
  | @done d' handle' hopen hallow hstatus hpending hhandle hregistered =>
      obtain ⟨position', hposition, rfl⟩ := hresume rfl
      have hhere : position' = position := by
        simp only [locate, Option.map_eq_some_iff] at hposition
        obtain ⟨-, -, rfl⟩ := hposition
        rfl
      subst hhere
      obtain rfl : d' = _ := hframe
      have hhandle' : handle = some handle' := hhandle
      have hregistered' : registered = handle' :: d.registered := hregistered
      rw [hhandle', hregistered']
      exact .inl ⟨handle', list, rfl, hopen⟩
  | @failed d' hfails hstatus hpending hregistered =>
      obtain rfl : d' = _ := hframe
      have hregistered' : registered = d.registered := hregistered
      rw [hregistered']
      exact .inr ⟨handle, list, resume, rfl⟩

/-- Following a transfer that has not moved changes nothing. -/
theorem Sound.follow_same (h : s.Sound) : s.follow s.d s.position = s := by
  have htransfer : (s.follow s.d s.position).transfer = s.transfer := by
    simp only [follow]
    split
    · rename_i hnone
      exact (h.transfers.2 hnone).symm
    · rfl
  calc s.follow s.d s.position = ⟨s.d, s.position, (s.follow s.d s.position).transfer⟩ := rfl
    _ = s := by rw [htransfer]

/-- Nothing is under way. -/
theorem sound_of_quiet (hregistered : d.registered = []) (hpending : d.pendingRetry = false)
    (hposition : position < 2 ^ 63) : (s.follow d position).Sound := by
  have hidle : ¬(d.registered ≠ [] ∨ d.pendingRetry = true) := by simp [hregistered, hpending]
  constructor
  case registered => exact .inl hregistered
  case transfers => simp [follow, hregistered]
  case pending => exact fun _ => hregistered
  case busy => exact fun h => absurd h hidle
  case resumed =>
    intro t ht
    simp [follow, hregistered] at ht
  case received => exact fun h => absurd h hidle
  case position_lt => exact hposition

/-- A retry is pending. -/
theorem sound_of_pending (hregistered : d.registered = []) (hstatus : d.status = .inProgress)
    (hopen : d.fdOpen = true) (hreceived : d.bytesReceived ≤ position)
    (hposition : position < 2 ^ 63) : (s.follow d position).Sound := by
  constructor
  case registered => exact .inl hregistered
  case transfers => simp [follow, hregistered]
  case pending => exact fun _ => hregistered
  case busy => exact fun _ => ⟨hstatus, hopen⟩
  case resumed =>
    intro t ht
    simp [follow, hregistered] at ht
  case received => exact fun _ => hreceived
  case position_lt => exact hposition

/-- A transfer begins. -/
theorem sound_of_started {handle : Nat} (hnone : s.d.registered = [])
    (hhandle : d.handle = some handle) (hregistered : d.registered = [handle])
    (hpending : d.pendingRetry = false) (hstatus : d.status = .inProgress)
    (hopen : d.fdOpen = true) (hresume : d.resumeFrom = position % 2 ^ 32)
    (hreceived : d.bytesReceived ≤ position) (hposition : position < 2 ^ 63) :
    (s.follow d position).Sound := by
  have htransfer : (s.follow d position).transfer = some ⟨position, 0⟩ := by
    simp [follow, hregistered, hnone]
  constructor
  case registered => exact .inr ⟨handle, hhandle, hregistered⟩
  case transfers =>
    rw [htransfer]
    show some _ = none ↔ d.registered = []
    simp [hregistered]
  case pending =>
    intro h
    exact absurd (hpending.symm.trans h) Bool.false_ne_true
  case busy => exact fun _ => ⟨hstatus, hopen⟩
  case resumed =>
    intro t ht
    rw [htransfer] at ht
    cases ht
    exact ⟨hresume, rfl⟩
  case received => exact fun _ => hreceived
  case position_lt => exact hposition

/-- Where no download is in progress, nothing is under way. -/
theorem Sound.quiet (h : s.Sound) (hstatus : s.d.status ≠ .inProgress) :
    s.d.registered = [] ∧ s.d.pendingRetry = false := by
  constructor
  · by_contra hne
    exact hstatus (h.busy (.inl hne)).1
  · by_contra hne
    exact hstatus (h.busy (.inr (by simpa using hne))).1

/-- A dispatch keeps the count sound. -/
theorem Sound.dispatch (h : s.Sound) (due : Bool) (answers : Answers) :
    (s.step config (.dispatch due answers)).Sound := by
  simp only [step]
  by_cases hretry : s.d.pendingRetry = true ∧ due = true
  · have hnone := h.pending hretry.1
    obtain ⟨hstatus, hopen⟩ := h.busy (.inr hretry.1)
    have hreceived := h.received (.inr hretry.1)
    unfold CurlFileDownload.dispatch
    rw [if_pos hretry, if_pos hopen, if_pos hopen]
    dsimp only
    -- the retry starts where the file ends, or fails and leaves nothing under way
    rcases setup_locate_cases config answers s.position
      { s.d with retryCount := (s.d.retryCount + 1) % 2 ^ 32 } with
      ⟨handle, list, hsetup, -⟩ | ⟨handle, list, resume, hsetup⟩
    · rw [hsetup]
      refine sound_of_started hnone rfl ?_ rfl hstatus hopen rfl hreceived h.position_lt
      show handle :: s.d.registered = [handle]
      rw [hnone]
    · rw [hsetup]
      exact sound_of_quiet hnone rfl h.position_lt
  · have hsame (position : Nat) : s.d.dispatch config due (locate position answers) = s.d :=
      if_neg hretry
    rw [hsame]
    by_cases hopen : s.d.fdOpen = true
    · rw [if_pos hopen, h.follow_same]
      exact h
    · -- without a file nothing is under way
      have hidle : ¬(s.d.registered ≠ [] ∨ s.d.pendingRetry = true) :=
        fun hbusy => hopen (h.busy hbusy).2
      rw [if_neg hopen]
      apply sound_of_quiet
      · by_contra hne
        exact hidle (.inl hne)
      · by_contra hne
        exact hidle (.inr (by simpa using hne))
      · exact Nat.two_pow_pos 63

/-- The position a download resumes at fits 63 bits. -/
theorem start_position_lt (h : s.Sound) (answers : Answers) :
    s.startPosition answers < 2 ^ 63 := by
  have hlt := h.position_lt
  unfold startPosition
  split_ifs <;> omega

/-- A download that is started where nothing is under way. -/
theorem sound_start_download (hnone : s.d.registered = []) (hregistered : d.registered = [])
    (hpending : d.pendingRetry = false) (hposition : position < 2 ^ 63) (url connectTo : String)
    (port : Int) (answers : Answers) :
    (s.follow (d.startDownload config url connectTo port (locate position answers)).2
      position).Sound := by
  unfold startDownload
  split_ifs
  · exact sound_of_quiet hregistered hpending hposition
  · exact sound_of_quiet hregistered hpending hposition
  · dsimp only
    rcases setup_locate_cases config answers position
      { d with bytesReceived := 0, bytesExpected := 0, url, port, connectTo } with
      ⟨handle, list, hsetup, hopen⟩ | ⟨handle, list, resume, hsetup⟩
    · rw [hsetup]
      refine sound_of_started hnone rfl ?_ hpending rfl hopen rfl (Nat.zero_le _) hposition
      show handle :: d.registered = [handle]
      rw [hregistered]
    · rw [hsetup]
      exact sound_of_quiet hregistered hpending hposition

/-- A download that is started keeps the count sound. -/
theorem Sound.download_file (h : s.Sound) (url connectTo : String) (port : Int)
    (answers : Answers) : (s.step config (.downloadFile url connectTo port answers)).Sound := by
  have hposition := start_position_lt h answers
  simp only [step]
  unfold CurlFileDownload.downloadFile
  by_cases hstatus : s.d.status = .inProgress
  · have hhere : s.startPosition answers = s.position := if_pos hstatus
    rw [if_pos hstatus, hhere, h.follow_same]
    exact h
  obtain ⟨hnone, hpending⟩ := h.quiet hstatus
  rw [if_neg hstatus]
  by_cases hopen : s.d.fdOpen = true
  · rw [if_pos hopen]
    exact sound_start_download hnone hnone hpending hposition ..
  · obtain ⟨fdOpen, hfile, -⟩ :=
      open_temp_file_spec config (locate (s.startPosition answers) answers) s.d
    rw [if_neg hopen]
    generalize s.d.openTempFile config _ = result at hfile
    obtain ⟨ok, d'⟩ := result
    obtain rfl : d' = { s.d with fdOpen } := hfile
    cases ok with
    | false => exact sound_of_quiet hnone hpending hposition
    | true =>
        exact sound_start_download (d := { s.d with fdOpen }) hnone hnone hpending hposition ..

/-- So does one that is cancelled. -/
theorem Sound.cancel_download (h : s.Sound) {removes : Bool}
    (hallowed : s.Allowed (.cancelDownload removes)) :
    (s.step config (.cancelDownload removes)).Sound := by
  apply sound_of_quiet
  · unfold CurlFileDownload.cancelDownload
    rcases h.registered with hnone | ⟨handle, hhandle, hregistered⟩
    · cases s.d.handle <;> simp [hnone]
    · have hremoves : removes = true := hallowed (by simp [hregistered])
      simp [hhandle, hregistered, hremoves]
  · rfl
  · exact h.position_lt

/-- So does moving the file to its place. -/
theorem Sound.move_temp_file_to (h : s.Sound) (renames : Bool) (answers : Answers) :
    (s.step config (.moveTempFileTo renames answers)).Sound := by
  show (s.moveTempFileTo config renames answers).Sound
  unfold FileTransfer.moveTempFileTo
  split_ifs with hstatus
  · exact h
  · exact h
  · obtain ⟨hnone, hpending⟩ := h.quiet hstatus
    obtain ⟨fdOpen, hfile, -⟩ := open_temp_file_spec config answers s.d
    rw [hfile]
    exact sound_of_quiet hnone hpending (Nat.two_pow_pos 63)

/-- So does a write of received bytes. -/
theorem Sound.write (h : s.Sound) {n : Nat} (hallowed : s.Allowed (.write n)) :
    (s.step config (.write n)).Sound := by
  obtain ⟨hsome, hlt⟩ := hallowed
  constructor
  case registered => exact h.registered
  case transfers =>
    show s.transfer.map _ = none ↔ s.d.registered = []
    rw [Option.map_eq_none_iff]
    exact h.transfers
  case pending => exact h.pending
  case busy => exact h.busy
  case resumed =>
    intro t ht
    obtain ⟨t, ht', rfl⟩ := Option.map_eq_some_iff.1 ht
    obtain ⟨hresume, hposition⟩ := h.resumed t ht'
    refine ⟨hresume, ?_⟩
    show s.position + n = t.resumed + (t.written + n)
    omega
  case received =>
    intro hbusy
    exact Nat.le_trans (h.received hbusy) (Nat.le_add_right _ _)
  case position_lt => exact hlt

/-- What a progress callback makes of the bytes received. -/
theorem progress_received (h : s.Sound) (config : Config) (dltotal : Nat) {dlnow : Nat}
    {t : Transfer} (ht : s.transfer = some t) (hdlnow : dlnow ≤ t.written) :
    (s.step config (.progress dltotal dlnow)).d.bytesReceived = t.resumed % 2 ^ 32 + dlnow := by
  obtain ⟨hresume, hposition⟩ := h.resumed t ht
  have hlt := h.position_lt
  show (s.d.resumeFrom + dlnow) % 2 ^ 64 = _
  rw [hresume]
  omega

/-- So does a progress report of libcurl. -/
theorem Sound.progress (h : s.Sound) {dltotal dlnow : Nat}
    (hallowed : s.Allowed (.progress dltotal dlnow)) :
    (s.step config (.progress dltotal dlnow)).Sound := by
  obtain ⟨t, ht, hdlnow⟩ := hallowed
  obtain ⟨-, hposition⟩ := h.resumed t ht
  refine { h with received := fun _ => ?_ }
  rw [progress_received h config dltotal ht hdlnow]
  show t.resumed % 2 ^ 32 + dlnow ≤ s.position
  omega

/-- The offset of a rewind is what has been received, five MiB at most. -/
theorem move_cursor_back_eq (d : CurlFileDownload) :
    d.moveCursorBack = -(min (5 * 1024 * 1024) d.bytesReceived : Nat) := by
  unfold moveCursorBack
  split <;> omega

/-- The bytes that have been received are in the file, so a rewind does not fail. -/
theorem seek_cur_back (hreceived : d.bytesReceived ≤ position) :
    seekCur position d.moveCursorBack =
      some (position - min (5 * 1024 * 1024) d.bytesReceived) := by
  rw [seekCur, move_cursor_back_eq, if_pos (by omega)]
  congr 1
  omega

/-- Where the file is after a rewind. -/
theorem rewind_position (h : s.Sound) {easyHandle : Nat} {result : CurlCode}
    {httpResponseCode : Int} (hrewinds : s.Rewinds easyHandle result) :
    (s.step config (.complete easyHandle result httpResponseCode)).position =
      s.position - min (5 * 1024 * 1024) s.d.bytesReceived := by
  have hreceived := h.received (.inl (List.ne_nil_of_mem hrewinds.1))
  show (if s.Rewinds easyHandle result then _ else s.position) = _
  rw [if_pos hrewinds, seek_cur_back hreceived]
  rfl

/-- So does the end of a transfer. -/
theorem Sound.complete (h : s.Sound) (easyHandle : Nat) (result : CurlCode)
    (httpResponseCode : Int) :
    (s.step config (.complete easyHandle result httpResponseCode)).Sound := by
  simp only [step]
  unfold CurlFileDownload.complete
  by_cases hmem : easyHandle ∈ s.d.registered
  swap
  · have hstay : ¬s.Rewinds easyHandle result := fun hrewinds => hmem hrewinds.1
    rw [if_neg hmem, if_neg hstay, h.follow_same]
    exact h
  obtain ⟨hstatus, hopen⟩ := h.busy (.inl (List.ne_nil_of_mem hmem))
  have hreceived := h.received (.inl (List.ne_nil_of_mem hmem))
  have hlt := h.position_lt
  rcases h.registered with hnone | ⟨handle, hhandle, hregistered⟩
  · rw [hnone] at hmem
    cases hmem
  obtain rfl : easyHandle = handle := by simpa [hregistered] using hmem
  have herased : s.d.registered.erase easyHandle = [] := by simp [hregistered]
  have hpending : s.d.pendingRetry = false := by
    by_contra hne
    have hempty := h.pending (by simpa using hne)
    rw [hregistered] at hempty
    cases hempty
  rw [if_pos hmem]
  unfold completeCb
  simp only [hhandle, herased, ne_eq, not_true_eq_false, if_false]
  by_cases hok : result = .ok
  · have hstay : ¬s.Rewinds easyHandle result := fun hrewinds => by
      rw [hok] at hrewinds
      cases hrewinds.2.2
    rw [if_pos hok, if_neg hstay]
    exact sound_of_quiet rfl hpending hlt
  rw [if_neg hok]
  by_cases hpartial : result = .partialFile
  · -- the file is moved back, to where the bytes received now are
    have hrewinds : s.Rewinds easyHandle result := ⟨hmem, hhandle, hpartial⟩
    rw [if_pos hrewinds, if_pos hpartial]
    have hseek := seek_cur_back hreceived
    have hback : moveCursorBack { s.d with
      registered := [], lastCurlStatus := result, lastHttpStatus := httpResponseCode
      handle := none, connectToList := [] } = s.d.moveCursorBack := rfl
    rw [hback, hseek, Option.getD_some, Option.getD_some]
    split
    · exact sound_of_pending rfl hstatus hopen (Nat.le_refl _) (by omega)
    · exact sound_of_quiet rfl hpending (by omega)
  · have hstay : ¬s.Rewinds easyHandle result := fun hrewinds => hpartial hrewinds.2.2
    rw [if_neg hstay, if_neg hpartial]
    split
    · exact sound_of_pending rfl hstatus hopen hreceived hlt
    · exact sound_of_quiet rfl hpending hlt

/-- Every event keeps it. -/
theorem Sound.step (h : s.Sound) {event : FileEvent} (hallowed : s.Allowed event) :
    (s.step config event).Sound := by
  cases event with
  | dispatch due answers => exact h.dispatch due answers
  | downloadFile url connectTo port answers => exact h.download_file url connectTo port answers
  | write n => exact h.write hallowed
  | progress dltotal dlnow => exact h.progress hallowed
  | complete easyHandle result httpResponseCode =>
      exact h.complete easyHandle result httpResponseCode
  | cancelDownload removes => exact h.cancel_download hallowed
  | moveTempFileTo renames answers => exact h.move_temp_file_to renames answers

/-- A transfer just constructed has a sound count. -/
theorem start_sound (fdOpen : Bool) : (start fdOpen).Sound := by
  constructor
  case registered => exact .inl rfl
  case transfers => exact ⟨fun _ => rfl, fun _ => rfl⟩
  case pending => exact nofun
  case busy => rintro (hne | hpending) <;> contradiction
  case resumed => exact nofun
  case received => exact fun _ => Nat.zero_le _
  case position_lt => exact Nat.two_pow_pos 63

/-- An event is right exactly if the transfer that it reports progress for resumed below 4 GiB. -/
theorem right_iff_below_limit (h : s.Sound) {event : FileEvent} (hallowed : s.Allowed event) :
    s.Right config event ↔ s.BelowLimit event := by
  cases event with
  | progress dltotal dlnow =>
      obtain ⟨t, ht, hdlnow⟩ := hallowed
      have hreceived := progress_received h config dltotal ht hdlnow
      constructor
      · intro hright t' ht'
        have hcount := hright t' ht'
        rw [ht] at ht'
        cases ht'
        omega
      · intro hbelow t' ht'
        have hlow := hbelow t' ht'
        rw [ht] at ht'
        cases ht'
        rw [hreceived, Nat.mod_eq_of_lt hlow]
  | complete easyHandle result httpResponseCode =>
      refine iff_of_true (fun hrewinds => ?_) trivial
      have hreceived := h.received (.inl (List.ne_nil_of_mem hrewinds.1))
      rw [rewind_position h hrewinds]
      omega
  | _ => exact Iff.rfl

/-- Throughout a run with any failures, rewinds and resumes, the bytes received are the position at
which the transfer resumed and what it has delivered since, and every rewind moves the file back by
the bytes received, five MiB at most, if and only if every transfer that reports progress resumed
below 4 GiB. -/
theorem counts_right_iff_along (config : Config) (fdOpen : Bool) {events : List FileEvent}
    (hallowed : Along (step config) Allowed (start fdOpen) events) :
    Along (step config) (Right config) (start fdOpen) events ↔
      Along (step config) BelowLimit (start fdOpen) events :=
  hallowed.iff_of_allowed (fun _ _ hs ha => hs.step ha)
    (fun _ _ hs ha => right_iff_below_limit hs ha) (start_sound fdOpen)

end FileTransfer

/-- Eight GiB are received, and the file turns out to be a partial one. The retry resumes five MiB
before its end. -/
def Sample.pastFourGiB : List FileEvent :=
  [.downloadFile "https://host/file" "" (-1) Sample.smooth, .write (2 ^ 33), .progress 0 (2 ^ 33),
    .complete 1 .partialFile 206, .dispatch true Sample.smooth, .write 10, .progress 10 10]

/-- Every call of the sample run is one libcurl may make. -/
theorem past_four_gib_allowed :
    Along (FileTransfer.step { maxFileSize := -1, maxRetries := -1 }) FileTransfer.Allowed
      (.start true) Sample.pastFourGiB :=
  ⟨trivial, ⟨by decide, by decide⟩, ⟨⟨0, 2 ^ 33⟩, rfl, Nat.le_refl _⟩, trivial, trivial,
    ⟨by decide, by decide⟩, ⟨⟨2 ^ 33 - 5 * 2 ^ 20, 10⟩, by decide, Nat.le_refl _⟩, trivial⟩

/-- After the retry, the bytes received are counted from its position modulo `2 ^ 32`. -/
theorem past_four_gib_miscounted :
    ¬∀ (config : Config) (fdOpen : Bool) (events : List FileEvent),
      Along (FileTransfer.step config) FileTransfer.Allowed (.start fdOpen) events →
        Along (FileTransfer.step config) (FileTransfer.Right config) (.start fdOpen) events := by
  intro h
  obtain ⟨-, -, -, -, -, -, hlast, -⟩ := h _ _ _ past_four_gib_allowed
  have hcount := hlast ⟨2 ^ 33 - 5 * 2 ^ 20, 10⟩ (by decide)
  revert hcount
  decide

/-- A file below that limit: the retry resumes where the rewind has left the file. -/
theorem small_file_counted :
    let config : Config := { maxFileSize := -1, maxRetries := -1 }
    let events : List FileEvent :=
      [.downloadFile "https://host/file" "" (-1) Sample.smooth, .write 100, .progress 0 90,
        .complete 1 .partialFile 206, .dispatch true Sample.smooth, .write 50, .progress 60 40,
        .complete 1 .ok 200]
    Along (FileTransfer.step config) (FileTransfer.Right config) (.start true) events := by
  intro config events
  refine (FileTransfer.counts_right_iff_along config true ?_).2 ?_
  · exact ⟨trivial, ⟨by decide, by decide⟩, ⟨⟨0, 100⟩, rfl, by decide⟩, trivial, trivial,
      ⟨by decide, by decide⟩, ⟨⟨10, 50⟩, by decide, by decide⟩, trivial, trivial⟩
  · decide

end Codon.Curl
