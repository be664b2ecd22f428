import Codon.Library.Run
import Mathlib.Algebra.Group.Nat.Defs
import Mathlib.Algebra.Group.Int.Defs

/-!
# Downloading a file

`CurlFileDownload` downloads one file at a time and retries what failed. While a download is
in progress, either its curl handle is registered with the dispatcher or a retry is pending.
But `dispatch` takes back the pending retry even if it could not set up the handle, and
`cancel_download` goes on if the handle could not be removed (`in_progress_iff_along`).

Not in the source tree are libcurl, the dispatcher and the backoff. The dispatcher is the
list of the handles registered with it, and it lets go of a handle before it calls
`complete_cb`. What every other operation answers is part of the event that performs it.
-/

namespace Codon.Curl

open Codon.Library

/-- `CURLcode`, as far as the sources tell codes apart. -/
inductive CurlCode where
  | ok
  | operationTimedout
  | couldntResolveProxy
  | couldntResolveHost
  | couldntConnect
  | sslConnectError
  | recvError
  | httpReturnedError
  | partialFile
  | other (code : Nat)
deriving DecidableEq

/-- `download_status_t`. -/
inductive DownloadStatus where
  | idle
  | inProgress
  | success
  | failed
deriving DecidableEq

/-- An option of a curl handle, with the value it is given. Callbacks and their argument, which is
always the download itself, have none. -/
inductive EasyOption where
  | url (url : String)
  | port (port : Int)
  | writeFunction
  | writeData
  | xferInfoFunction
  | xferInfoData
  | noProgress (value : Nat)
  | failOnError (value : Nat)
  | followLocation (value : Nat)
  | maxFileSizeLarge (size : Int)
  | verbose (value : Nat)
  | sslCipherList (ciphers : String)
  | errorBuffer
  | protocols (https http : Bool)
  | sslCtxData
  | sslCtxFunction
  | caInfo (path : String)
  | sslCert (path : String)
  | sslKey (path : String)
  | maxRecvSpeedLarge (limit : Nat)
  | lowSpeedTime (timeout : Nat)
  | lowSpeedLimit (threshold : Nat)
  | connectTimeout (timeout : Nat)
  | resumeFromLarge (position : Nat)
  | connectTo (hosts : List String)
deriving DecidableEq

/-- `CurlFileDownload::Config`, and whether the build has `FSW_BORINGSSL_ENABLED`. -/
structure Config where
  speedLimit : Nat := 0
  maxFileSize : Int := 0
  connectTimeout : Nat := 60
  lowSpeedThreshold : Nat := 10
  lowSpeedTimeout : Nat := 60
  maxRetries : Int := 0
  requireSsl : Bool := true
  caCertsPath : String := ""
  clientCertPath : String := ""
  clientKeyPath : String := ""
  verbose : Bool := false
  useHsm : Bool := false
  boringsslEnabled : Bool := true
deriving DecidableEq

/-- What the curl and file operations of one call answer: `false` or nothing where they fail.
`easyInit` is the new handle and `position` where the file is positioned. `fallocate` is whether
`FswAbortOnErrno`, which is not in the source tree, takes what `posix_fallocate` returns for a
success; if it only tests for -1 it always does, since an error is returned as a positive number. -/
structure Answers where
  openFile : Bool
  fallocate : Bool
  rewind : Bool
  truncate : Bool
  easyInit : Option Nat
  setopt : EasyOption → Bool
  position : Option Nat
  slistAppend : Bool
  addHandle : Bool

/-- `CurlFileDownload`. `fdOpen` is whether `fd` is not -1, and `registered` holds the handles that
the dispatcher has. -/
structure CurlFileDownload where
  status : DownloadStatus
  pendingRetry : Bool
  handle : Option Nat
  registered : List Nat
  fdOpen : Bool
  url : String
  port : Int
  connectTo : String
  connectToList : List String
  bytesReceived : Nat
  bytesExpected : Nat
  retryCount : Nat
  resumeFrom : Nat
  lastCurlStatus : CurlCode
  lastHttpStatus : Int
deriving DecidableEq

/-- The options that are set on every handle, in order. -/
def Config.options (config : Config) (url : String) (port : Int) : List EasyOption :=
  [.url url] ++
  (if 0 < port then [.port port] else []) ++
  [.writeFunction, .writeData, .xferInfoFunction, .xferInfoData, .noProgress 0, .failOnError 1,
    .followLocation 1] ++
  (if 0 < config.maxFileSize then [.maxFileSizeLarge config.maxFileSize] else []) ++
  (if config.verbose then [.verbose 1] else []) ++
  [.sslCipherList "ECDHE-ECDSA-AES256-GCM-SHA384:ECDHE-RSA-AES256-GCM-SHA384", .errorBuffer,
    .protocols true (!config.requireSsl)] ++
  (if config.useHsm then
    if config.boringsslEnabled then [.sslCtxData, .sslCtxFunction] else []
  else
    (if config.caCertsPath ≠ "" then [.caInfo config.caCertsPath] else []) ++
    (if config.clientCertPath ≠ "" then [.sslCert config.clientCertPath] else []) ++
    (if config.clientKeyPath ≠ "" then [.sslKey config.clientKeyPath] else [])) ++
  [.maxRecvSpeedLarge config.speedLimit, .lowSpeedTime config.lowSpeedTimeout,
    .lowSpeedLimit config.lowSpeedThreshold, .connectTimeout config.connectTimeout]

namespace CurlFileDownload

variable {config : Config} {answers : Answers} {d : CurlFileDownload}

/-- A download as `init` leaves it. The temporary file may be opened later. -/
def init (fdOpen : Bool) : CurlFileDownload where
  status := .idle
  pendingRetry := false
  handle := none
  registered := []
  fdOpen
  url := ""
  port := 0
  connectTo := ""
  connectToList := []
  bytesReceived := 0
  bytesExpected := 0
  retryCount := 0
  resumeFrom := 0
  lastCurlStatus := .ok
  lastHttpStatus := 0

/-- `open_temp_file`. -/
def openTempFile (config : Config) (answers : Answers) (d : CurlFileDownload) :
    Bool × CurlFileDownload :=
  if config.maxFileSize = 0 then (false, d)
  else if !answers.openFile then (false, { d with fdOpen := false })
  else
    let d := { d with fdOpen := true }
    -- a file that could not be expanded stays open
    if 0 < config.maxFileSize ∧ !answers.fallocate then (false, d) else (true, d)

/-- The end of `setup_and_add_handle`. -/
def addHandle (answers : Answers) (handle : Nat) (d : CurlFileDownload) : Bool × CurlFileDownload :=
  if answers.addHandle then (true, { d with registered := handle :: d.registered }) else (false, d)

/-- The custom host, and the end of `setup_and_add_handle`. -/
def setConnectTo (answers : Answers) (handle : Nat) (d : CurlFileDownload) :
    Bool × CurlFileDownload :=
  if d.connectTo = "" then d.addHandle answers handle
  else if !answers.slistAppend then (false, d)
  else
    let d := { d with connectToList := d.connectToList ++ [d.connectTo] }
    if !answers.setopt (.connectTo d.connectToList) then (false, d)
    else d.addHandle answers handle

/-- `setup_and_add_handle`. A handle that could not be set up is kept. -/
def setupAndAddHandle (config : Config) (answers : Answers) (d : CurlFileDownload) :
    Bool × CurlFileDownload :=
  if !d.fdOpen then (false, d)
  else
    match answers.easyInit with
    | none => (false, { d with handle := none })
    | some handle =>
        let d := { d with handle := some handle }
        if !(config.options d.url d.port).all answers.setopt then (false, d)
        else
          match answers.position with
          | none => (false, d)
          | some position =>
              let d := { d with resumeFrom := position % 2 ^ 32 }
              if position ≠ 0 ∧ !answers.setopt (.resumeFromLarge position) then (false, d)
              else d.setConnectTo answers handle

/-- `dispatch`. `due` is what the backoff answers to `is_due`, which is only asked while a retry is
pending. -/
def dispatch (config : Config) (due : Bool) (answers : Answers) (d : CurlFileDownload) :
    CurlFileDownload :=
  if d.pendingRetry ∧ due then
    let d := if d.fdOpen then d else (d.openTempFile config answers).2
    let d := { d with retryCount := (d.retryCount + 1) % 2 ^ 32 }
    { (d.setupAndAddHandle config answers).2 with pendingRetry := false }
  else d

/-- The part of `download_file` after the temporary file has been opened. -/
def startDownload (config : Config) (url connectTo : String) (port : Int) (answers : Answers)
    (d : CurlFileDownload) : Bool × CurlFileDownload :=
  if !answers.rewind then (false, d)
  else if config.maxFileSize < 0 ∧ !answers.truncate then (false, d)
  else
    let d := { d with bytesReceived := 0, bytesExpected := 0, url, port, connectTo }
    match d.setupAndAddHandle config answers with
    | (false, d) => (false, d)
    | (true, d) => (true, { d with status := .inProgress })

/-- `download_file`. -/
def downloadFile (config : Config) (url connectTo : String) (port : Int) (answers : Answers)
    (d : CurlFileDownload) : Bool × CurlFileDownload :=
  if d.status = .inProgress then (false, d)
  else if d.fdOpen then d.startDownload config url connectTo port answers
  else
    match d.openTempFile config answers with
    | (false, d) => (false, d)
    | (true, d) => d.startDownload config url connectTo port answers

/-- `update_progress`, without the progress as a fraction. -/
def updateProgress (dltotal dlnow : Nat) (d : CurlFileDownload) : CurlFileDownload :=
  { d with
    bytesExpected := if dltotal = 0 then d.bytesExpected else (d.resumeFrom + dltotal) % 2 ^ 64
    bytesReceived := (d.resumeFrom + dlnow) % 2 ^ 64 }

/-- How far the file is moved back after part of it was received: by five MiB, or by all of it. -/
def moveCursorBack (d : CurlFileDownload) : Int :=
  if d.bytesReceived < 5 * 1024 * 1024 then -d.bytesReceived else -(5 * 1024 * 1024)

/-- Whether a transfer that failed can be tried again. -/
def canRetry (result : CurlCode) (httpResponseCode : Int) : Bool :=
  match result with
  | .operationTimedout | .couldntResolveProxy | .couldntResolveHost | .couldntConnect
  | .sslConnectError | .recvError | .partialFile => true
  | .httpReturnedError => 500 ≤ httpResponseCode ∧ httpResponseCode < 600
  | .ok | .other _ => false

/-- Whether another retry is allowed. -/
def retriesLeft (config : Config) (d : CurlFileDownload) : Bool :=
  config.maxRetries < 0 ∨ d.retryCount < config.maxRetries

/-- `complete_cb`. `seek` is where moving the file by an offset leads to; where that fails, the
position is -1. -/
def completeCb (config : Config) (easyHandle : Nat) (result : CurlCode) (httpResponseCode : Int)
    (seek : Int → Option Nat) (d : CurlFileDownload) : CurlFileDownload :=
  if d.handle ≠ some easyHandle then d
  else
    let d :=
      { d with
        lastCurlStatus := result
        lastHttpStatus := httpResponseCode
        handle := none
        connectToList := [] }
    if result = .ok then { d with status := .success }
    else
      let retriesLeft := d.retriesLeft config
      let d :=
        if result = .partialFile then
          { d with bytesReceived := (seek d.moveCursorBack).getD (2 ^ 64 - 1) }
        else d
      if retriesLeft ∧ canRetry result httpResponseCode then { d with pendingRetry := true }
      else { d with status := .failed }

/-- The dispatcher lets go of a handle that is complete, and calls back. -/
def complete (config : Config) (easyHandle : Nat) (result : CurlCode) (httpResponseCode : Int)
    (seek : Int → Option Nat) (d : CurlFileDownload) : CurlFileDownload :=
  if easyHandle ∈ d.registered then
    { d with registered := d.registered.erase easyHandle }.completeCb config easyHandle result
      httpResponseCode seek
  else d

/-- `cancel_download`. What removing the handle answers is not looked at. -/
def cancelDownload (removes : Bool) (d : CurlFileDownload) : CurlFileDownload :=
  { d with
    pendingRetry := false
    registered :=
      match d.handle with
      | some handle => if removes then d.registered.erase handle else d.registered
      | none => d.registered
    handle := none
    connectToList := []
    status := .idle }

/-- What can happen to a download. -/
inductive Event where
  | dispatch (due : Bool) (answers : Answers)
  | downloadFile (url connectTo : String) (port : Int) (answers : Answers)
  | progress (dltotal dlnow : Nat)
  | complete (easyHandle : Nat) (result : CurlCode) (httpResponseCode : Int)
      (seek : Int → Option Nat)
  | cancelDownload (removes : Bool)

/-- One event. -/
def step (config : Config) (d : CurlFileDownload) : Event → CurlFileDownload
  | .dispatch due answers => d.dispatch config due answers
  | .downloadFile url connectTo port answers =>
      (d.downloadFile config url connectTo port answers).2
  | .progress dltotal dlnow => d.updateProgress dltotal dlnow
  | .complete easyHandle result httpResponseCode seek =>
      d.complete config easyHandle result httpResponseCode seek
  | .cancelDownload removes => d.cancelDownload removes

end CurlFileDownload

end Codon.Curl
