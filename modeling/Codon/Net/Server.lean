import Codon.Library.Run
import Mathlib.Logic.Function.Basic

/-!
# The lists of connections of a server

A `Server` holds its connections on two lists: the accepted ones, and the pending ones that have not
requested acceptance yet. Each `add_connection` and each `dispatch` prunes both. What the methods of
the connections and the handlers of the subclass do is not the server's: every call of one has an
`Effect`, which the caller of an operation may choose freely for each call. It may close any
connection, but a closed descriptor stays closed, and a request or an acceptance is not taken back.
The wake-up times are left out.
-/

namespace Codon.Net

open Codon.Library

/-- The calls that the server makes. -/
inductive Callback (C : Type) where
  /-- `server_create_connection`, with the connection that it returns. -/
  | create (connection : Option C)
  /-- `close` of the descriptor of a connection that is not added. -/
  | closeRefused
  /-- `server_handle_accepted_connection`. -/
  | accepted (connection : C)
  /-- `server_finalize_connection`. -/
  | finalize (connection : C)
  /-- `close` of a connection, with the slots of its `close_sig`. -/
  | close (connection : C)
  | serverDispatch
  | dispatch (connection : C)
  | allDisconnect

/-- What a call does: the connections whose descriptors are closed, those that request acceptance or
that someone else accepts, what `is_closed` answers from then on, and what the call returns. -/
structure Effect (C : Type) where
  closes : List C
  requests : List C
  accepts : List C
  isClosed : C → Bool
  success : Bool

/-- What the calls of an operation do, each with its place among all the calls that the server has
made, so that no two calls need do the same. -/
abbrev Environment (C : Type) := Nat → Callback C → Effect C

/-- What the connections answer. `fdClosed` says that `get_fd` is empty or closed. -/
structure ServerFds (C : Type) where
  fdClosed : C → Bool
  isClosed : C → Bool
  acceptanceRequested : C → Bool
  connectionAccepted : C → Bool

structure Server (C : Type) where
  connections : List C
  pendingConnections : List C
  maxConnections : UInt32
  fds : ServerFds C
  trace : List (Callback C)

variable {C : Type} [DecidableEq C]

def ServerFds.apply (fds : ServerFds C) (effect : Effect C) : ServerFds C where
  fdClosed c := fds.fdClosed c || decide (c ∈ effect.closes)
  isClosed := effect.isClosed
  acceptanceRequested c := fds.acceptanceRequested c || decide (c ∈ effect.requests)
  connectionAccepted c := fds.connectionAccepted c || decide (c ∈ effect.accepts)

def ServerFds.acceptConnection (fds : ServerFds C) (c : C) : ServerFds C :=
  { fds with connectionAccepted := Function.update fds.connectionAccepted c true }

namespace Server

omit [DecidableEq C] in
def start (maxConnections : UInt32) : Server C :=
  ⟨[], [], maxConnections, ⟨fun _ => false, fun _ => false, fun _ => false, fun _ => false⟩, []⟩

/-- Other code does something to the connections. -/
def affect (s : Server C) (effect : Effect C) : Server C := { s with fds := s.fds.apply effect }

variable (env : Environment C)

def callback (s : Server C) (k : Callback C) : Server C :=
  { s.affect (env s.trace.length k) with trace := s.trace ++ [k] }

omit [DecidableEq C] in
/-- The check is of the maximum as it is, not of the new one. -/
def setMaxConnections (s : Server C) (maxConnections : UInt32) : Server C :=
  if s.maxConnections = 0 then s else { s with maxConnections }

def serverAcceptConnection (s : Server C) (c : C) : Server C :=
  if s.fds.acceptanceRequested c = false then s.callback env (.close c)
  else
    let s := { s with connections := s.connections ++ [c], fds := s.fds.acceptConnection c }
    let next := s.callback env (.accepted c)
    if (env s.trace.length (.accepted c)).success then next else next.callback env (.close c)

def serverCloseConnection (c : C) (s : Server C) : Server C :=
  let s := s.callback env (.finalize c)
  if s.fds.isClosed c then s else s.callback env (.close c)

def serverClosePendingConnection (c : C) (s : Server C) : Server C :=
  if s.fds.isClosed c then s else s.callback env (.close c)

omit [DecidableEq C] in
/-- The loop, from the back, that closes and erases the connections without an open descriptor. -/
def eraseInvalid (close : C → Server C → Server C) (l : List C) (s : Server C) :
    List C × Server C :=
  l.foldr (fun c (kept, s) => if s.fds.fdClosed c then (kept, close c s) else (c :: kept, s))
    ([], s)

omit [DecidableEq C] in
/-- The loop that closes and drops the oldest connections while there are more than the maximum. -/
def dropOldest (close : C → Server C → Server C) (max : Nat) : List C → Server C → List C × Server C
  | [], s => ([], s)
  | c :: l, s => if max < (c :: l).length then dropOldest close max l (close c s) else (c :: l, s)

/-- The loop that accepts the pending connections that have requested it. -/
def acceptRequested (l : List C) (s : Server C) : Server C :=
  l.foldl (fun s c =>
    if s.fds.acceptanceRequested c then s.serverAcceptConnection env c else s) s

def serverPrunePendingConnections (s : Server C) : Server C :=
  let (valid, s) := eraseInvalid (serverClosePendingConnection env) s.pendingConnections s
  let s := acceptRequested env valid s
  let waiting := valid.filter fun c => !s.fds.connectionAccepted c
  let (newest, s) :=
    dropOldest (serverClosePendingConnection env) s.maxConnections.toNat waiting s
  { s with pendingConnections := newest }

def serverPruneAcceptedConnections (s : Server C) : Server C :=
  let count := s.connections.length
  let (valid, s) := eraseInvalid (serverCloseConnection env) s.connections s
  let (newest, s) := dropOldest (serverCloseConnection env) s.maxConnections.toNat valid s
  let s := { s with connections := newest }
  -- a connection was closed in one of the loops, and none is left
  if newest.length < count ∧ newest = [] then s.callback env .allDisconnect else s

def serverPruneConnections (s : Server C) : Server C :=
  serverPruneAcceptedConnections env (serverPrunePendingConnections env s)

/-- What `server_create_connection` returns, and whether the descriptor of the connection is the one
it was given. -/
structure Created (C : Type) where
  connection : Option C
  hasFd : Bool

/-- `add_connection` before its pruning. A connection that is not as it should be is refused. -/
def enlist (created : Created C) (s : Server C) : Bool × Server C :=
  let next := s.callback env (.create created.connection)
  match created.connection with
  | none => (false, next.callback env .closeRefused)
  | some c =>
      if (env s.trace.length (.create (some c))).success ∧ next.fds.isClosed c = false ∧
          created.hasFd then
        if next.fds.acceptanceRequested c then (true, next.serverAcceptConnection env c)
        else (true, { next with pendingConnections := next.pendingConnections ++ [c] })
      else (false, next.callback env .closeRefused)

/-- A refused connection leaves the lists as they are, without pruning. -/
def addConnection (created : Created C) (s : Server C) : Server C :=
  let (enlisted, s) := s.enlist env created
  if enlisted then s.serverPruneConnections env else s

/-- `dispatch` before its pruning. -/
def dispatchConnections (s : Server C) : Server C :=
  let s := s.callback env .serverDispatch
  let s := s.connections.foldl (fun s c => s.callback env (.dispatch c)) s
  s.pendingConnections.foldl (fun s c => s.callback env (.dispatch c)) s

def dispatch (s : Server C) : Server C := (s.dispatchConnections env).serverPruneConnections env

end Server

/-- An operation of the server, or something that other code does to the connections. -/
inductive ServerOp (C : Type) where
  | setMaxConnections (maxConnections : UInt32)
  | addConnection (created : Server.Created C) (env : Environment C)
  | dispatch (env : Environment C)
  | outside (effect : Effect C)

namespace Server

def step (s : Server C) : ServerOp C → Server C
  | .setMaxConnections maxConnections => s.setMaxConnections maxConnections
  | .addConnection created env => s.addConnection env created
  | .dispatch env => s.dispatch env
  | .outside effect => s.affect effect

end Server

end Codon.Net
