import Codon.Grpc.Endpoint
import Codon.Library.Run
import Mathlib.Data.List.AList

/-!
# The gRPC client

`GrpcClient` of `GrpcClient.h`. The results of a call come from gRPC and are arguments: whether
a stub and an RPC could be made, the status of the response and the times. Tags are taken
without overflow, the metrics wrap around as `UINT64`s. A callback is the last thing that
`complete` runs, so that the calls it makes are events that follow the completion.

Read `accounting` first: the metrics agree with the table of outstanding calls after every order
of calls and completions, and every callback runs once, when its call completes.
-/

namespace Codon.Grpc

open Codon.Library

/-- `grpc::StatusCode`, in the order of its values. -/
inductive StatusCode where
  | ok
  | cancelled
  | unknown
  | invalidArgument
  | deadlineExceeded
  | notFound
  | alreadyExists
  | permissionDenied
  | resourceExhausted
  | failedPrecondition
  | aborted
  | outOfRange
  | unimplemented
  | internal
  | unavailable
  | dataLoss
  | unauthenticated
deriving DecidableEq

/-- The value of a status code. -/
def StatusCode.errorCode (status : StatusCode) : UInt64 := UInt64.ofNat status.ctorIdx

/-- `GrpcClient::Call`, with the stub that it was started on. -/
structure GrpcClient.Call (K : Type) where
  stub : Nat
  callback : K
  start : Int

/-- `GrpcClient`. Callbacks are of type `K`. That `last_tag` wraps around after `2 ^ 64` calls is
left out. -/
structure GrpcClient (P K : Type) where
  endpointProvider : P
  stubFactory : GrpcStubFactory
  stub : Option Nat
  maxOutstandingCalls : UInt64
  lastTag : Nat
  outstandingCalls : AList fun _ : Nat => GrpcClient.Call K
  metricCountStarted : UInt64
  metricCountSkipped : UInt64
  metricCountOutstanding : UInt64
  metricCountCompleted : UInt64
  metricCountSucceeded : UInt64
  metricCountFailed : UInt64
  metricCountTimeout : UInt64
  metricCountError : UInt64
  metricCountNewStub : UInt64
  metricLatencyLastNanos : UInt64
  metricLatencyTotalNanos : UInt64
  metricStatusLast : UInt64
  metricStatusLastError : UInt64

/-- The arguments of `async`, and what it finds outside: what `NewStub` finds there, whether the
method gives an RPC, and the time. -/
structure Async (K E : Type) where
  callback : Option K
  reconnection : Reconnection E
  rpc : Bool
  now : Int

/-- What `complete` finds outside: the status of the response, the time it came, and what `NewStub`
finds there. -/
structure Completion (E : Type) where
  status : StatusCode
  endTime : Int
  reconnection : Reconnection E

/-- What `async` leaves and returns: `started` is the tag and the callback of the call it started.
-/
structure AsyncResult (P K : Type) where
  client : GrpcClient P K
  result : Bool
  started : Option (Nat × K)

/-- What `complete` leaves: `ran` is the callback it ran. -/
structure Completed (P K : Type) where
  client : GrpcClient P K
  ran : Option K

variable {P K E : Type} [GrpcEndpointProvider P E]

namespace GrpcClient

/-- The client after its construction and `init`. -/
def create (endpointProvider : P) (maxOutstandingCalls : UInt64) : GrpcClient P K where
  endpointProvider
  stubFactory := ⟨"", 0⟩
  stub := none
  maxOutstandingCalls
  lastTag := 0
  outstandingCalls := ∅
  metricCountStarted := 0
  metricCountSkipped := 0
  metricCountOutstanding := 0
  metricCountCompleted := 0
  metricCountSucceeded := 0
  metricCountFailed := 0
  metricCountTimeout := 0
  metricCountError := 0
  metricCountNewStub := 0
  metricLatencyLastNanos := 0
  metricLatencyTotalNanos := 0
  metricStatusLast := 0
  metricStatusLastError := 0

/-- Has the stub factory renew the stub, and tells whether it did. -/
def renewStub (client : GrpcClient P K) (force : Bool) (r : Reconnection E) :
    GrpcClient P K × Bool :=
  let new := client.stubFactory.newStub client.endpointProvider client.stub force r
  ({ client with
      endpointProvider := new.endpointProvider
      stubFactory := new.stubFactory
      stub := new.stub }, new.recreated)

/-- Creates a stub on the first call to `async`. -/
def provideStub (client : GrpcClient P K) (r : Reconnection E) : GrpcClient P K :=
  if client.stub = none then (client.renewStub true r).1 else client

/-- The end of `async`: the RPC is started and stored. -/
def startRpc (client : GrpcClient P K) (call : Call K) : GrpcClient P K :=
  let tag := client.lastTag + 1
  { client with
    lastTag := tag
    metricCountStarted := client.metricCountStarted + 1
    outstandingCalls :=
      -- `emplace` keeps an entry that is there
      if tag ∈ client.outstandingCalls then client.outstandingCalls
      else client.outstandingCalls.insert tag call
    metricCountOutstanding := client.metricCountOutstanding + 1 }

/-- `GrpcClient::async`. -/
def async (client : GrpcClient P K) (a : Async K E) : AsyncResult P K :=
  match a.callback with
  | none => ⟨client, false, none⟩
  | some callback =>
      let client := client.provideStub a.reconnection
      match client.stub with
      | none => ⟨client, false, none⟩
      | some stub =>
          if client.maxOutstandingCalls ≤ client.metricCountOutstanding then
            ⟨{ client with metricCountSkipped := client.metricCountSkipped + 1 }, true, none⟩
          else if a.rpc = false then ⟨client, false, none⟩
          else
            ⟨client.startRpc ⟨stub, callback, a.now⟩, true, some (client.lastTag + 1, callback)⟩

/-- The metrics that `complete` records. -/
def recordMetrics (client : GrpcClient P K) (start : Int) (done : Completion E) :
    GrpcClient P K :=
  let latencyNanos := UInt64.ofInt (done.endTime - start)
  let client :=
    { client with
      metricCountOutstanding := client.metricCountOutstanding - 1
      metricCountCompleted := client.metricCountCompleted + 1
      metricStatusLast := done.status.errorCode
      metricLatencyLastNanos := latencyNanos
      metricLatencyTotalNanos := client.metricLatencyTotalNanos + latencyNanos }
  if done.status = .ok then { client with metricCountSucceeded := client.metricCountSucceeded + 1 }
  else
    let client :=
      { client with
        metricCountFailed := client.metricCountFailed + 1
        metricStatusLastError := done.status.errorCode }
    if done.status = .deadlineExceeded then
      { client with metricCountTimeout := client.metricCountTimeout + 1 }
    else { client with metricCountError := client.metricCountError + 1 }

/-- Renews the stub of a client whose call has completed. -/
def reconnect (client : GrpcClient P K) (done : Completion E) : GrpcClient P K :=
  let (client, recreated) := client.renewStub (done.status ≠ .ok) done.reconnection
  if recreated then { client with metricCountNewStub := client.metricCountNewStub + 1 } else client

/-- `GrpcClient::complete`. -/
def complete (client : GrpcClient P K) (tag : Nat) (done : Completion E) : Completed P K :=
  match client.outstandingCalls.lookup tag with
  | none => ⟨client, none⟩
  | some call =>
      let client := { client with outstandingCalls := client.outstandingCalls.erase tag }
      ⟨(client.recordMetrics call.start done).reconnect done, some call.callback⟩

end GrpcClient

/-- What happens to a client: a call to `async`, or a response in its callback queue. -/
inductive Event (K E : Type) where
  | async (a : Async K E)
  | complete (tag : Nat) (done : Completion E)

namespace GrpcClient

/-- The client after an event. -/
def step (client : GrpcClient P K) : Event K E → GrpcClient P K
  | .async a => (client.async a).client
  | .complete tag done => (client.complete tag done).client

/-! ## What the operations do -/

variable {client : GrpcClient P K} {a : Async K E} {done : Completion E} {tag : Nat}

/-- Providing a stub changes the stub and what it comes from only. -/
theorem provide_stub_eq (client : GrpcClient P K) (r : Reconnection E) :
    ∃ endpointProvider stubFactory stub,
      client.provideStub r = { client with endpointProvider, stubFactory, stub } := by
  unfold provideStub
  split
  · exact ⟨_, _, _, rfl⟩
  · exact ⟨_, _, _, rfl⟩

/-- Reconnecting changes the stub, what it comes from and the count of new stubs only. -/
theorem reconnect_eq (client : GrpcClient P K) (done : Completion E) :
    ∃ endpointProvider stubFactory stub metricCountNewStub,
      client.reconnect done =
        { client with endpointProvider, stubFactory, stub, metricCountNewStub } := by
  simp only [reconnect]
  split
  · exact ⟨_, _, _, _, rfl⟩
  · exact ⟨_, _, _, _, rfl⟩

/-- Reconnecting leaves what `NewStub` does. -/
theorem reconnect_renewed (client : GrpcClient P K) (done : Completion E) :
    let new := client.stubFactory.newStub client.endpointProvider client.stub (done.status ≠ .ok)
      done.reconnection
    (client.reconnect done).endpointProvider = new.endpointProvider ∧
      (client.reconnect done).stubFactory = new.stubFactory ∧
      (client.reconnect done).stub = new.stub := by
  simp only [reconnect]
  split
  · exact ⟨rfl, rfl, rfl⟩
  · exact ⟨rfl, rfl, rfl⟩

/-- What `async` does, once it has a callback and has provided a stub. -/
inductive AsyncOutcome (provided : GrpcClient P K) (a : Async K E) : AsyncResult P K → Prop where
  | refused (hrefused : provided.stub = none ∨ a.rpc = false) :
      AsyncOutcome provided a ⟨provided, false, none⟩
  | skipped (hlimit : provided.maxOutstandingCalls ≤ provided.metricCountOutstanding) :
      AsyncOutcome provided a
        ⟨{ provided with metricCountSkipped := provided.metricCountSkipped + 1 }, true, none⟩
  | started {callback : K} {stub : Nat} (hcallback : a.callback = some callback)
      (hstub : provided.stub = some stub)
      (hlimit : provided.metricCountOutstanding < provided.maxOutstandingCalls)
      (hrpc : a.rpc = true) :
      AsyncOutcome provided a
        ⟨provided.startRpc ⟨stub, callback, a.now⟩, true, some (provided.lastTag + 1, callback)⟩

/-- Without a callback nothing is started. -/
theorem async_no_callback (h : a.callback = none) : client.async a = ⟨client, false, none⟩ := by
  simp only [async, h]

/-- A call with a callback ends in one of a few ways. -/
theorem async_outcome (client : GrpcClient P K) {callback : K} (h : a.callback = some callback) :
    AsyncOutcome (client.provideStub a.reconnection) a (client.async a) := by
  simp only [async, h]
  split
  · next hstub => exact .refused (.inl hstub)
  · next stub hstub =>
      split_ifs with hlimit hrpc
      · exact .skipped hlimit
      · exact .refused (.inr hrpc)
      · exact .started h hstub (UInt64.not_le.1 hlimit) ((Bool.not_eq_false _).mp hrpc)

/-- A call to `async` finds a stub, or gRPC makes one, the limit is not reached and gRPC makes an
RPC. -/
structure Accepts (client : GrpcClient P K) (a : Async K E) : Prop where
  callback : a.callback.isSome = true
  stub : client.stub ≠ none ∨ a.reconnection.made = true
  limit : client.metricCountOutstanding < client.maxOutstandingCalls
  rpc : a.rpc = true

/-- There is a stub exactly if there was one or gRPC makes one. -/
theorem provide_stub_stub_ne_none_iff (client : GrpcClient P K) (r : Reconnection E) :
    (client.provideStub r).stub ≠ none ↔ client.stub ≠ none ∨ r.made = true := by
  unfold provideStub
  by_cases hstub : client.stub = none
  · rw [if_pos hstub, renewStub, GrpcStubFactory.new_stub_of_recreates (.inl rfl)]
    simp [hstub]
  · rw [if_neg hstub]
    simp [hstub]

/-- `async` starts a call exactly if the client accepts it. -/
theorem async_started_iff (client : GrpcClient P K) (a : Async K E) :
    (client.async a).started.isSome ↔ client.Accepts a := by
  cases hcallback : a.callback with
  | none =>
      rw [async_no_callback hcallback]
      exact iff_of_false nofun fun h => by simpa [hcallback] using h.callback
  | some callback =>
      have houtcome := client.async_outcome hcallback
      have hstub := client.provide_stub_stub_ne_none_iff a.reconnection
      obtain ⟨provider, factory, stub, hprovide⟩ := client.provide_stub_eq a.reconnection
      rw [hprovide] at houtcome hstub
      generalize client.async a = result at houtcome ⊢
      cases houtcome with
      | refused hrefused =>
          refine iff_of_false nofun fun h => ?_
          rcases hrefused with hnone | hrpc
          · exact hstub.2 h.stub hnone
          · exact absurd h.rpc (by simp [hrpc])
      | skipped hlimit =>
          exact iff_of_false nofun fun h => absurd h.limit (UInt64.not_lt.2 hlimit)
      | started _ hsome hlimit hrpc =>
          refine iff_of_true rfl ⟨by simp [hcallback], hstub.1 ?_, hlimit, hrpc⟩
          rw [hsome]
          exact Option.some_ne_none _

/-- The call that `async` starts runs the callback it was given. -/
theorem callback_of_started {tag : Nat} {callback : K}
    (h : (client.async a).started = some (tag, callback)) : a.callback = some callback := by
  cases hcallback : a.callback with
  | none =>
      rw [async_no_callback hcallback] at h
      cases h
  | some callback' =>
      have houtcome := client.async_outcome hcallback
      generalize client.async a = result at houtcome h
      cases houtcome with
      | refused | skipped => cases h
      | started hsome =>
          cases h
          exact hcallback.symm.trans hsome

/-- A response with an unknown tag changes nothing. -/
theorem complete_unknown (h : tag ∉ client.outstandingCalls) :
    client.complete tag done = ⟨client, none⟩ := by
  simp only [complete, AList.lookup_eq_none.2 h]

/-- A response to an outstanding call runs its callback, and the call is removed. -/
theorem complete_of_lookup {call : Call K} (h : client.outstandingCalls.lookup tag = some call) :
    client.complete tag done =
      ⟨({ client with outstandingCalls := client.outstandingCalls.erase tag }.recordMetrics
        call.start done).reconnect done, some call.callback⟩ := by
  simp only [complete, h]

/-- A response runs the callback of its call. -/
theorem complete_ran (client : GrpcClient P K) (tag : Nat) (done : Completion E) :
    (client.complete tag done).ran = (client.outstandingCalls.lookup tag).map (·.callback) := by
  cases hlookup : client.outstandingCalls.lookup tag with
  | none =>
      rw [complete_unknown (AList.lookup_eq_none.1 hlookup)]
      rfl
  | some call =>
      rw [complete_of_lookup hlookup]
      rfl

/-- What the metrics of a response leave alone. -/
structure SameCalls (client client' : GrpcClient P K) : Prop where
  outstanding_calls : client'.outstandingCalls = client.outstandingCalls
  last_tag : client'.lastTag = client.lastTag
  max_outstanding_calls : client'.maxOutstandingCalls = client.maxOutstandingCalls
  endpoint_provider : client'.endpointProvider = client.endpointProvider
  stub_factory : client'.stubFactory = client.stubFactory
  stub : client'.stub = client.stub

omit [GrpcEndpointProvider P E] in
/-- Recording metrics leaves the outstanding calls. -/
theorem record_metrics_same_calls (client : GrpcClient P K) (start : Int) (done : Completion E) :
    SameCalls client (client.recordMetrics start done) := by
  unfold recordMetrics
  split_ifs <;> exact ⟨rfl, rfl, rfl, rfl, rfl, rfl⟩

/-- A response removes its call from the table and gives no tag. -/
theorem complete_calls (client : GrpcClient P K) (tag : Nat) (done : Completion E) :
    (client.complete tag done).client.outstandingCalls = client.outstandingCalls.erase tag ∧
      (client.complete tag done).client.lastTag = client.lastTag := by
  cases hlookup : client.outstandingCalls.lookup tag with
  | none =>
      have hmem := AList.lookup_eq_none.1 hlookup
      rw [complete_unknown hmem]
      exact ⟨AList.ext (List.kerase_of_notMem_keys hmem).symm, rfl⟩
  | some call =>
      have hsame := record_metrics_same_calls
        { client with outstandingCalls := client.outstandingCalls.erase tag } call.start done
      rw [complete_of_lookup hlookup]
      obtain ⟨_, _, _, _, hreconnect⟩ := reconnect_eq
        ({ client with outstandingCalls := client.outstandingCalls.erase tag }.recordMetrics
          call.start done) done
      rw [hreconnect]
      exact ⟨hsame.outstanding_calls, hsame.last_tag⟩

/-- No tag of an outstanding call exceeds the last one that was given. -/
def Tagged (client : GrpcClient P K) : Prop :=
  ∀ tag ∈ client.outstandingCalls, tag ≤ client.lastTag

/-- A started call has a tag of its own. -/
theorem Tagged.fresh (h : client.Tagged) : client.lastTag + 1 ∉ client.outstandingCalls :=
  fun hmem => (h _ hmem).not_gt (Nat.lt_succ_self _)

/-- A call that is started is stored under the next tag. -/
theorem start_rpc_outstanding_calls (h : client.Tagged) (call : Call K) :
    (client.startRpc call).outstandingCalls =
      client.outstandingCalls.insert (client.lastTag + 1) call :=
  if_neg h.fresh

/-- A call to `async` leaves the table and the tags alone, or starts one call with the next tag. -/
theorem async_calls (h : client.Tagged) (a : Async K E) :
    ((client.async a).started = none ∧
        (client.async a).client.outstandingCalls = client.outstandingCalls ∧
        (client.async a).client.lastTag = client.lastTag) ∨
      ∃ call : Call K, (client.async a).started = some (client.lastTag + 1, call.callback) ∧
        (client.async a).client.outstandingCalls =
          client.outstandingCalls.insert (client.lastTag + 1) call ∧
        (client.async a).client.lastTag = client.lastTag + 1 := by
  cases hcallback : a.callback with
  | none =>
      rw [async_no_callback hcallback]
      exact .inl ⟨rfl, rfl, rfl⟩
  | some callback =>
      have houtcome := client.async_outcome hcallback
      obtain ⟨provider, factory, stub, hprovide⟩ := client.provide_stub_eq a.reconnection
      rw [hprovide] at houtcome
      generalize client.async a = result at houtcome ⊢
      cases houtcome with
      | refused | skipped => exact .inl ⟨rfl, rfl, rfl⟩
      | @started callback stub =>
          exact .inr ⟨⟨stub, callback, a.now⟩, rfl, start_rpc_outstanding_calls h _, rfl⟩

/-- A response for an outstanding call renews the stub. -/
theorem complete_renewed (h : tag ∈ client.outstandingCalls) (done : Completion E) :
    let new := client.stubFactory.newStub client.endpointProvider client.stub (done.status ≠ .ok)
      done.reconnection
    (client.complete tag done).client.endpointProvider = new.endpointProvider ∧
      (client.complete tag done).client.stubFactory = new.stubFactory ∧
      (client.complete tag done).client.stub = new.stub := by
  obtain ⟨call, hlookup⟩ := Option.isSome_iff_exists.1 (AList.lookup_isSome.2 h)
  have hsame := record_metrics_same_calls
    { client with outstandingCalls := client.outstandingCalls.erase tag } call.start done
  have hrenewed := reconnect_renewed
    ({ client with outstandingCalls := client.outstandingCalls.erase tag }.recordMetrics
      call.start done) done
  rw [hsame.endpoint_provider, hsame.stub_factory, hsame.stub] at hrenewed
  rw [complete_of_lookup hlookup]
  exact hrenewed

/-- `async` asks the endpoint provider only to create a stub. -/
theorem async_endpoint_provider (client : GrpcClient P K) (a : Async K E) :
    (client.async a).client.endpointProvider =
      if a.callback.isSome ∧ client.stub = none then
        (GrpcEndpointProvider.endpoint client.endpointProvider true
          a.reconnection.surroundings).2
      else client.endpointProvider := by
  cases hcallback : a.callback with
  | none =>
      rw [async_no_callback hcallback]
      rfl
  | some callback =>
      have hprovided : (client.async a).client.endpointProvider =
          (client.provideStub a.reconnection).endpointProvider := by
        have houtcome := client.async_outcome hcallback
        generalize client.async a = result at houtcome ⊢
        cases houtcome <;> rfl
      rw [hprovided, provideStub]
      by_cases hstub : client.stub = none
      · rw [if_pos hstub, if_pos ⟨rfl, hstub⟩]
        exact client.stubFactory.new_stub_endpoint_provider _ _ _ _
      · rw [if_neg hstub, if_neg fun h => hstub h.2]

/-- The limit is the configured one. -/
theorem step_max_outstanding_calls (client : GrpcClient P K) (event : Event K E) :
    (client.step event).maxOutstandingCalls = client.maxOutstandingCalls := by
  cases event with
  | async a =>
      cases hcallback : a.callback with
      | none => rw [step, async_no_callback hcallback]
      | some callback =>
          have houtcome := client.async_outcome hcallback
          obtain ⟨provider, factory, stub, hprovide⟩ := client.provide_stub_eq a.reconnection
          rw [hprovide] at houtcome
          rw [step]
          generalize client.async a = result at houtcome ⊢
          cases houtcome <;> rfl
  | complete tag done =>
      cases hlookup : client.outstandingCalls.lookup tag with
      | none => rw [step, complete_unknown (AList.lookup_eq_none.1 hlookup)]
      | some call =>
          have hsame := record_metrics_same_calls
            { client with outstandingCalls := client.outstandingCalls.erase tag } call.start done
          rw [step, complete_of_lookup hlookup]
          obtain ⟨_, _, _, _, hreconnect⟩ := reconnect_eq
            ({ client with outstandingCalls := client.outstandingCalls.erase tag }.recordMetrics
              call.start done) done
          rw [hreconnect]
          exact hsame.max_outstanding_calls

/-- A new client has given no tag. -/
theorem Tagged.create (endpointProvider : P) (maxOutstandingCalls : UInt64) :
    (create (K := K) endpointProvider maxOutstandingCalls).Tagged :=
  fun tag h => absurd h (AList.notMem_empty tag)

/-- No outstanding call has a larger tag than the last one after `async`. -/
theorem Tagged.async (h : client.Tagged) (a : Async K E) : (client.async a).client.Tagged := by
  intro tag hmem
  rcases client.async_calls h a with ⟨-, hcalls, hlast⟩ | ⟨call, -, hcalls, hlast⟩
  · rw [hcalls] at hmem
    rw [hlast]
    exact h tag hmem
  · rw [hcalls, AList.mem_insert] at hmem
    rw [hlast]
    rcases hmem with rfl | hmem
    · exact Nat.le_refl _
    · exact Nat.le_succ_of_le (h tag hmem)

/-- No outstanding call has a larger tag than the last one after `complete`. -/
theorem Tagged.complete (h : client.Tagged) (tag : Nat) (done : Completion E) :
    (client.complete tag done).client.Tagged := by
  obtain ⟨hcalls, hlast⟩ := client.complete_calls tag done
  intro tag' hmem
  rw [hcalls] at hmem
  rw [hlast]
  exact h tag' (AList.mem_erase.1 hmem).2

/-! ## The metrics agree with the table -/

/-- The metrics agree with the table of outstanding calls and with each other. -/
structure Accounted (client : GrpcClient P K) : Prop where
  outstanding :
    client.metricCountOutstanding.toNat = client.outstandingCalls.keys.length
  outstanding_le : client.metricCountOutstanding ≤ client.maxOutstandingCalls
  started :
    client.metricCountStarted = client.metricCountCompleted + client.metricCountOutstanding
  completed :
    client.metricCountCompleted = client.metricCountSucceeded + client.metricCountFailed
  failed : client.metricCountFailed = client.metricCountTimeout + client.metricCountError

/-- The metrics of a new client agree. -/
theorem Accounted.create (endpointProvider : P) (maxOutstandingCalls : UInt64) :
    (create (K := K) endpointProvider maxOutstandingCalls).Accounted :=
  ⟨rfl, UInt64.le_iff_toNat_le.2 (Nat.zero_le _), rfl, rfl, rfl⟩

/-- The metrics agree when a call is started below the limit. -/
theorem Accounted.start_rpc (h : client.Accounted) (htagged : client.Tagged) (call : Call K)
    (hlimit : client.metricCountOutstanding < client.maxOutstandingCalls) :
    (client.startRpc call).Accounted := by
  have hroom := UInt64.lt_iff_toNat_lt.1 hlimit
  have hmax := client.maxOutstandingCalls.toNat_lt
  have hcount : (client.metricCountOutstanding + 1).toNat =
      client.metricCountOutstanding.toNat + 1 := by
    rw [UInt64.toNat_add]
    exact Nat.mod_eq_of_lt (by simp; omega)
  refine ⟨?_, ?_, ?_, h.completed, h.failed⟩
  · rw [start_rpc_outstanding_calls htagged, AList.keys_insert,
      List.erase_of_not_mem htagged.fresh, List.length_cons, ← h.outstanding]
    exact hcount
  · exact UInt64.le_iff_toNat_le.2 (hcount ▸ hroom)
  · rw [startRpc, h.started, UInt64.add_assoc]

omit [GrpcEndpointProvider P E] in
/-- Recording a response for an outstanding call keeps the accounts. -/
theorem Accounted.record_metrics (h : client.Accounted) (hmem : tag ∈ client.outstandingCalls)
    (start : Int) (done : Completion E) :
    ({ client with outstandingCalls := client.outstandingCalls.erase tag }.recordMetrics start
      done).Accounted := by
  have hpos : 1 ≤ client.metricCountOutstanding := by
    rw [UInt64.le_iff_toNat_le, h.outstanding]
    exact List.length_pos_of_mem hmem
  have houtstanding : (client.metricCountOutstanding - 1).toNat =
      (client.outstandingCalls.erase tag).keys.length := by
    rw [UInt64.toNat_sub_of_le _ _ hpos, AList.keys_erase, List.length_erase_of_mem hmem,
      h.outstanding]
    rfl
  have hle : client.metricCountOutstanding - 1 ≤ client.maxOutstandingCalls := by
    have := h.outstanding_le
    grind
  have hstarted : client.metricCountStarted =
      client.metricCountCompleted + 1 + (client.metricCountOutstanding - 1) := by
    have := h.started
    grind
  have hcompleted := h.completed
  have hfailed := h.failed
  unfold recordMetrics
  -- success, timeout and other errors; the sums of the counters wrap alike
  split_ifs
  · refine ⟨houtstanding, hle, hstarted, ?_, hfailed⟩
    show client.metricCountCompleted + 1 =
      client.metricCountSucceeded + 1 + client.metricCountFailed
    grind
  · refine ⟨houtstanding, hle, hstarted, ?_, ?_⟩
    · show client.metricCountCompleted + 1 =
        client.metricCountSucceeded + (client.metricCountFailed + 1)
      grind
    · show client.metricCountFailed + 1 = client.metricCountTimeout + 1 + client.metricCountError
      grind
  · refine ⟨houtstanding, hle, hstarted, ?_, ?_⟩
    · show client.metricCountCompleted + 1 =
        client.metricCountSucceeded + (client.metricCountFailed + 1)
      grind
    · show client.metricCountFailed + 1 = client.metricCountTimeout + (client.metricCountError + 1)
      grind

/-- The metrics agree after a response. -/
theorem Accounted.complete (h : client.Accounted) (tag : Nat) (done : Completion E) :
    (client.complete tag done).client.Accounted := by
  cases hlookup : client.outstandingCalls.lookup tag with
  | none =>
      rw [complete_unknown (AList.lookup_eq_none.1 hlookup)]
      exact h
  | some call =>
      have hmem : tag ∈ client.outstandingCalls := AList.lookup_isSome.1 (by simp [hlookup])
      have hrecorded := h.record_metrics hmem call.start done
      rw [complete_of_lookup hlookup]
      obtain ⟨_, _, _, _, hreconnect⟩ := reconnect_eq
        ({ client with outstandingCalls := client.outstandingCalls.erase tag }.recordMetrics
          call.start done) done
      rw [hreconnect]
      exact ⟨hrecorded.outstanding, hrecorded.outstanding_le, hrecorded.started,
        hrecorded.completed, hrecorded.failed⟩

/-- The metrics agree after `async`. -/
theorem Accounted.async (h : client.Accounted) (htagged : client.Tagged) (a : Async K E) :
    (client.async a).client.Accounted := by
  cases hcallback : a.callback with
  | none =>
      rw [async_no_callback hcallback]
      exact h
  | some callback =>
      have hprovided : (client.provideStub a.reconnection).Accounted := by
        obtain ⟨_, _, _, hprovide⟩ := client.provide_stub_eq a.reconnection
        rw [hprovide]
        exact ⟨h.outstanding, h.outstanding_le, h.started, h.completed, h.failed⟩
      have htagged' : (client.provideStub a.reconnection).Tagged := by
        obtain ⟨_, _, _, hprovide⟩ := client.provide_stub_eq a.reconnection
        rw [hprovide]
        exact htagged
      have houtcome := client.async_outcome hcallback
      generalize client.async a = result at houtcome ⊢
      cases houtcome with
      | refused => exact hprovided
      | skipped =>
          exact ⟨hprovided.outstanding, hprovided.outstanding_le, hprovided.started,
            hprovided.completed, hprovided.failed⟩
      | started _ _ hlimit => exact hprovided.start_rpc htagged' _ hlimit

end GrpcClient

/-! ## The history of a call -/

/-- What is recorded: that a call was started, that a response came, that a callback ran. -/
inductive Entry (K : Type) where
  | started (tag : Nat) (callback : K)
  | delivered (tag : Nat)
  | ran (tag : Nat) (callback : K) (status : StatusCode)

/-- The tag of the call that an entry is about. -/
def Entry.tag : Entry K → Nat
  | .started tag _ => tag
  | .delivered tag => tag
  | .ran tag _ _ => tag

/-- A client and what was recorded of its calls, in the order in which it happened. -/
structure ClientSession (P K : Type) where
  client : GrpcClient P K
  log : List (Entry K)

namespace ClientSession

variable {s : ClientSession P K} {tag : Nat}

/-- A session with a new client. -/
def start (endpointProvider : P) (maxOutstandingCalls : UInt64) : ClientSession P K :=
  ⟨.create endpointProvider maxOutstandingCalls, []⟩

def step (s : ClientSession P K) : Event K E → ClientSession P K
  | .async a =>
      let result := s.client.async a
      let entries := result.started.toList.map fun (tag, callback) => .started tag callback
      ⟨result.client, s.log ++ entries⟩
  | .complete tag done =>
      let completed := s.client.complete tag done
      let entries := completed.ran.toList.map fun callback => .ran tag callback done.status
      ⟨completed.client, s.log ++ .delivered tag :: entries⟩

/-- What was recorded about a tag. -/
def about (s : ClientSession P K) (tag : Nat) : List (Entry K) :=
  s.log.filter fun entry => entry.tag = tag

/-- What is recorded about a tag grows by the new entries about it. -/
theorem about_of_log {entries : List (Entry K)} {s' : ClientSession P K}
    (hlog : s'.log = s.log ++ entries) :
    s'.about tag = s.about tag ++ entries.filter fun entry => entry.tag = tag := by
  rw [about, hlog, List.filter_append]
  rfl

/-- What may have been recorded about a tag: responses before the call is started count for
nothing, the first after it runs the callback, and later ones count for nothing. -/
inductive History (tag : Nat) : List (Entry K) → Prop where
  | unknown (before : Nat) : History tag (.replicate before (.delivered tag))
  | outstanding (before : Nat) (callback : K) :
      History tag (.replicate before (.delivered tag) ++ [.started tag callback])
  | completed (before : Nat) (callback : K) (status : StatusCode) (after : Nat) :
      History tag
        (.replicate before (.delivered tag) ++
          [.started tag callback, .delivered tag, .ran tag callback status] ++
          .replicate after (.delivered tag))

/-- What was recorded about a tag agrees with the table. -/
inductive Progress (s : ClientSession P K) (tag : Nat) : Prop where
  | unknown (hout : tag ∉ s.client.outstandingCalls) (htag : tag = 0 ∨ s.client.lastTag < tag)
      (before : Nat) (hlog : s.about tag = .replicate before (.delivered tag))
  | outstanding {call : GrpcClient.Call K}
      (hlookup : s.client.outstandingCalls.lookup tag = some call)
      (htag : tag ≠ 0 ∧ tag ≤ s.client.lastTag) (before : Nat)
      (hlog : s.about tag = .replicate before (.delivered tag) ++ [.started tag call.callback])
  | completed (hout : tag ∉ s.client.outstandingCalls)
      (htag : tag ≠ 0 ∧ tag ≤ s.client.lastTag) (before : Nat) (callback : K)
      (status : StatusCode) (after : Nat)
      (hlog : s.about tag =
        .replicate before (.delivered tag) ++
          [.started tag callback, .delivered tag, .ran tag callback status] ++
          .replicate after (.delivered tag))

/-- What is recorded about a tag is one of the histories. -/
theorem Progress.history (h : s.Progress tag) : History tag (s.about tag) := by
  cases h with
  | unknown _ _ before hlog => exact hlog ▸ .unknown before
  | outstanding _ _ before hlog => exact hlog ▸ .outstanding before _
  | completed _ _ before callback status after hlog =>
      exact hlog ▸ .completed before callback status after

/-- A tag that is outstanding has been given. -/
theorem tagged_of_progress (h : ∀ tag, s.Progress tag) : s.client.Tagged := by
  intro tag hmem
  cases h tag with
  | unknown hout => exact absurd hmem hout
  | outstanding _ htag => exact htag.2
  | completed hout => exact absurd hmem hout

/-- A step that does nothing to a tag keeps its record in agreement with the table. -/
theorem Progress.of_same {s' : ClientSession P K} (h : s.Progress tag)
    (hlookup : s'.client.outstandingCalls.lookup tag = s.client.outstandingCalls.lookup tag)
    (hlast : s.client.lastTag ≤ s'.client.lastTag)
    (hnew : s.client.lastTag < tag → s'.client.lastTag < tag)
    (habout : s'.about tag = s.about tag) : s'.Progress tag := by
  have hout : tag ∉ s.client.outstandingCalls → tag ∉ s'.client.outstandingCalls := by
    rw [← AList.lookup_eq_none, ← AList.lookup_eq_none, hlookup]
    exact id
  cases h with
  | unknown hmem htag before hlog =>
      exact .unknown (hout hmem) (htag.imp_right hnew) before (habout.trans hlog)
  | outstanding hcall htag before hlog =>
      exact .outstanding (hlookup.trans hcall) ⟨htag.1, Nat.le_trans htag.2 hlast⟩ before
        (habout.trans hlog)
  | completed hmem htag before callback status after hlog =>
      exact .completed (hout hmem) ⟨htag.1, Nat.le_trans htag.2 hlast⟩ before callback status after
        (habout.trans hlog)

/-- A call to `async` keeps the record of every tag in agreement with the table. -/
theorem Progress.async (h : s.Progress tag) (htagged : s.client.Tagged) (a : Async K E) :
    (s.step (.async a)).Progress tag := by
  have hclient : (s.step (.async a)).client = (s.client.async a).client := rfl
  rcases s.client.async_calls htagged a with ⟨hstarted, hcalls, hlast⟩ |
    ⟨call, hstarted, hcalls, hlast⟩
  · refine h.of_same ?_ ?_ ?_ ?_
    · rw [hclient, hcalls]
    · rw [hclient, hlast]
    · rw [hclient, hlast]
      exact id
    · simp [about, step, hstarted]
  · have hlog : (s.step (.async a)).log =
        s.log ++ [.started (s.client.lastTag + 1) call.callback] := by
      simp [step, hstarted]
    -- only the call that is started now is affected
    by_cases heq : tag = s.client.lastTag + 1
    · have habout :
          (s.step (.async a)).about tag = s.about tag ++ [.started tag call.callback] := by
        rw [about_of_log hlog, heq]
        simp [Entry.tag]
      cases h with
      | unknown _ _ before hlog =>
          have hlookup : (s.step (.async a)).client.outstandingCalls.lookup tag = some call := by
            rw [hclient, hcalls, heq, AList.lookup_insert]
          refine .outstanding hlookup ?_ before (hlog ▸ habout)
          rw [hclient, hlast, heq]
          exact ⟨Nat.succ_ne_zero _, Nat.le_refl _⟩
      | outstanding _ htag => omega
      | completed _ htag => omega
    · refine h.of_same ?_ ?_ ?_ ?_
      · rw [hclient, hcalls, AList.lookup_insert_ne heq]
      · rw [hclient, hlast]
        exact Nat.le_succ _
      · rw [hclient, hlast]
        omega
      · rw [about_of_log hlog]
        simp [Entry.tag, Ne.symm heq]

/-- A response keeps the record of every tag in agreement with the table. -/
theorem Progress.complete (h : s.Progress tag) (tag' : Nat) (done : Completion E) :
    (s.step (.complete tag' done)).Progress tag := by
  obtain ⟨hcalls, hlast⟩ := s.client.complete_calls tag' done
  have hclient : (s.step (.complete tag' done)).client = (s.client.complete tag' done).client := rfl
  have hlog : (s.step (.complete tag' done)).log =
      s.log ++ .delivered tag' :: (s.client.complete tag' done).ran.toList.map
        fun callback => .ran tag' callback done.status := rfl
  by_cases heq : tag' = tag
  · subst heq
    have hout : tag' ∉ (s.step (.complete tag' done)).client.outstandingCalls := by
      rw [hclient, hcalls]
      simp [AList.mem_erase]
    have hunknown (hmem : tag' ∉ s.client.outstandingCalls) :
        (s.step (.complete tag' done)).about tag' = s.about tag' ++ [.delivered tag'] := by
      rw [about_of_log hlog, GrpcClient.complete_unknown hmem]
      simp [Entry.tag]
    cases h with
    | unknown hmem htag before habout =>
        refine .unknown hout (hlast ▸ htag) (before + 1) ?_
        rw [hunknown hmem, habout, List.replicate_succ']
    | @outstanding call hlookup htag before habout =>
        refine .completed hout (hlast ▸ htag) before call.callback done.status 0 ?_
        rw [about_of_log hlog, GrpcClient.complete_of_lookup hlookup, habout]
        simp [Entry.tag]
    | completed hmem htag before callback status after habout =>
        refine .completed hout (hlast ▸ htag) before callback status (after + 1) ?_
        rw [hunknown hmem, habout, List.replicate_succ', List.append_assoc _ _ [_]]
  · refine h.of_same ?_ ?_ ?_ ?_
    · rw [hclient, hcalls, AList.lookup_erase_ne (Ne.symm heq)]
    · rw [hclient, hlast]
    · rw [hclient, hlast]
      exact id
    · rw [about_of_log hlog]
      cases (s.client.complete tag' done).ran <;> simp [Entry.tag, heq]

/-- The metrics agree with the table, and so does what was recorded about every tag. -/
structure Invariant (s : ClientSession P K) : Prop where
  accounted : s.client.Accounted
  progress : ∀ tag, s.Progress tag

/-- The invariant holds of a new session. -/
theorem Invariant.start (endpointProvider : P) (maxOutstandingCalls : UInt64) :
    (ClientSession.start (K := K) endpointProvider maxOutstandingCalls).Invariant where
  accounted := .create endpointProvider maxOutstandingCalls
  progress tag := by
    refine .unknown (AList.notMem_empty tag) ?_ 0 rfl
    exact tag.eq_zero_or_pos

/-- Every event keeps the invariant. -/
theorem Invariant.step (h : s.Invariant) (event : Event K E) : (s.step event).Invariant := by
  have htagged := tagged_of_progress h.progress
  cases event with
  | async a => exact ⟨h.accounted.async htagged a, fun tag => (h.progress tag).async htagged a⟩
  | complete tag done =>
      exact ⟨h.accounted.complete tag done, fun tag' => (h.progress tag').complete tag done⟩

/-- The client of a session does what it does without the records. -/
theorem step_client (s : ClientSession P K) (event : Event K E) :
    (s.step event).client = s.client.step event := by
  cases event <;> rfl

/-- After every order of calls to `async` and responses, the metrics agree with the table of
outstanding calls, and the callback of a call has run if a response came for it, once. -/
theorem accounting (endpointProvider : P) (maxOutstandingCalls : UInt64)
    (events : List (Event K E)) :
    let s := run step (start endpointProvider maxOutstandingCalls) events
    s.client.maxOutstandingCalls = maxOutstandingCalls ∧ s.client.Accounted ∧
      ∀ tag, History tag (s.about tag) := by
  have hmax :
      (run step (start endpointProvider maxOutstandingCalls) events).client.maxOutstandingCalls
      = maxOutstandingCalls :=
    run_invariant
      (P := fun s : ClientSession P K => s.client.maxOutstandingCalls = maxOutstandingCalls) rfl
      fun s event h => by rw [step_client, GrpcClient.step_max_outstanding_calls, h]
  have h : (run step (start endpointProvider maxOutstandingCalls) events).Invariant :=
    run_invariant (Invariant.start endpointProvider maxOutstandingCalls) fun _ event h =>
      h.step event
  exact ⟨hmax, h.accounted, fun tag => (h.progress tag).history⟩

end ClientSession

end Codon.Grpc
