import Codon.Grpc.Client

/-!
# The stub of an outstanding call

A call needs the stub that it was started on until it completes. The client holds one stub, and
renews it when a call completes: read `stubs_held_iff`. With one outstanding call at a time the
stub always lives long enough (`stubs_held_of_one_call`).
-/

namespace Codon.Grpc

open Codon.Library

variable {P K E : Type} [GrpcEndpointProvider P E]

namespace GrpcClient

variable {client : GrpcClient P K} {a : Async K E} {done : Completion E} {tag : Nat}

/-- The client holds the stub of every outstanding call. -/
def StubsHeld (client : GrpcClient P K) : Prop :=
  ∀ tag, ∀ call ∈ client.outstandingCalls.lookup tag, client.stub = some call.stub

/-- A response renews the stub only when no other call is outstanding. -/
def RenewsAlone (client : GrpcClient P K) : Event K E → Prop
  | .async _ => True
  | .complete tag done =>
      tag ∈ client.outstandingCalls →
        client.stubFactory.Recreates client.endpointProvider (done.status ≠ .ok)
          done.reconnection.surroundings →
        ∀ tag' ∈ client.outstandingCalls, tag' = tag

/-- The stubs in use were created, and tags were given. -/
structure Numbered (client : GrpcClient P K) : Prop where
  tagged : client.Tagged
  stub : ∀ stub ∈ client.stub, stub < client.stubFactory.created
  calls : ∀ tag, ∀ call ∈ client.outstandingCalls.lookup tag, call.stub < client.stubFactory.created

/-- A client just created has no calls to number. -/
theorem Numbered.create (endpointProvider : P) (maxOutstandingCalls : UInt64) :
    (create (K := K) endpointProvider maxOutstandingCalls).Numbered where
  tagged := .create endpointProvider maxOutstandingCalls
  stub := nofun
  calls := nofun

/-- Renewing the stub keeps the numbering. -/
theorem Numbered.provide_stub (h : client.Numbered) (r : Reconnection E) :
    (client.provideStub r).Numbered := by
  unfold provideStub
  split
  · obtain ⟨hcreated, hstub⟩ :=
      GrpcStubFactory.new_stub_numbered h.stub client.endpointProvider true r
    exact ⟨h.tagged, hstub, fun tag call hcall =>
      Nat.lt_of_lt_of_le (h.calls tag call hcall) hcreated⟩
  · exact h

/-- A new call gets a number of its own. -/
theorem Numbered.async (h : client.Numbered) (a : Async K E) :
    (client.async a).client.Numbered := by
  have htagged := h.tagged.async a
  cases hcallback : a.callback with
  | none =>
      rw [async_no_callback hcallback]
      exact h
  | some callback =>
      have hprovided := h.provide_stub a.reconnection
      have houtcome := client.async_outcome hcallback
      generalize client.async a = result at houtcome htagged ⊢
      cases houtcome with
      | refused | skipped => exact ⟨htagged, hprovided.stub, hprovided.calls⟩
      | @started callback stub _ hstub =>
          refine ⟨htagged, hprovided.stub, fun tag call hcall => ?_⟩
          rw [start_rpc_outstanding_calls hprovided.tagged] at hcall
          by_cases heq : tag = (client.provideStub a.reconnection).lastTag + 1
          · subst heq
            rw [AList.lookup_insert] at hcall
            cases hcall
            exact hprovided.stub stub hstub
          · rw [AList.lookup_insert_ne heq] at hcall
            exact hprovided.calls tag call hcall

/-- A completion keeps the numbering of the others. -/
theorem Numbered.complete (h : client.Numbered) (tag : Nat) (done : Completion E) :
    (client.complete tag done).client.Numbered := by
  by_cases hmem : tag ∈ client.outstandingCalls
  · obtain ⟨hcalls, -⟩ := client.complete_calls tag done
    obtain ⟨-, hfactory, hstub⟩ := complete_renewed hmem done
    obtain ⟨hcreated, hnumbered⟩ := GrpcStubFactory.new_stub_numbered h.stub
      client.endpointProvider (done.status ≠ .ok) done.reconnection
    refine ⟨h.tagged.complete tag done, hfactory ▸ hstub ▸ hnumbered, fun tag' call hcall => ?_⟩
    rw [hcalls] at hcall
    rw [hfactory]
    refine Nat.lt_of_lt_of_le (h.calls tag' call ?_) hcreated
    by_cases heq : tag' = tag
    · rw [heq, AList.lookup_erase] at hcall
      cases hcall
    · rwa [AList.lookup_erase_ne heq] at hcall
  · rw [complete_unknown hmem]
    exact h

/-- Every event keeps it. -/
theorem Numbered.step (h : client.Numbered) (event : Event K E) : (client.step event).Numbered := by
  cases event with
  | async a => exact h.async a
  | complete tag done => exact h.complete tag done

/-- A call to `async` keeps the stubs held: only a client without a stub, which has no outstanding
calls, creates one. -/
theorem StubsHeld.async (h : client.StubsHeld) (hnumbered : client.Numbered) (a : Async K E) :
    (client.async a).client.StubsHeld := by
  cases hcallback : a.callback with
  | none =>
      rw [async_no_callback hcallback]
      exact h
  | some callback =>
      have hprovided : (client.provideStub a.reconnection).StubsHeld := by
        unfold provideStub
        split
        · next hnone =>
            intro tag call hcall
            have := h tag call hcall
            rw [hnone] at this
            cases this
        · exact h
      have htagged := (hnumbered.provide_stub a.reconnection).tagged
      have houtcome := client.async_outcome hcallback
      generalize client.async a = result at houtcome ⊢
      cases houtcome with
      | refused | skipped => exact hprovided
      | @started callback stub _ hstub =>
          intro tag call hcall
          rw [start_rpc_outstanding_calls htagged] at hcall
          by_cases heq : tag = (client.provideStub a.reconnection).lastTag + 1
          · subst heq
            rw [AList.lookup_insert] at hcall
            cases hcall
            exact hstub
          · rw [AList.lookup_insert_ne heq] at hcall
            exact hprovided tag call hcall

/-- A response keeps the stubs held exactly if it renews the stub only when no other call is
outstanding: a stub that it creates is not the stub of any call. -/
theorem stubs_held_complete_iff (h : client.StubsHeld) (hnumbered : client.Numbered) (tag : Nat)
    (done : Completion E) :
    (client.complete tag done).client.StubsHeld ↔ client.RenewsAlone (.complete tag done) := by
  by_cases hmem : tag ∈ client.outstandingCalls
  · obtain ⟨hcalls, -⟩ := client.complete_calls tag done
    obtain ⟨-, -, hstub⟩ := complete_renewed hmem done
    by_cases hrecreates : client.stubFactory.Recreates client.endpointProvider
        (decide (done.status ≠ .ok)) done.reconnection.surroundings
    · rw [GrpcStubFactory.new_stub_of_recreates hrecreates] at hstub
      constructor
      · intro hheld _ _ tag' hmem'
        by_contra hne
        obtain ⟨call, hcall⟩ := Option.isSome_iff_exists.1 (AList.lookup_isSome.2 hmem')
        have hlt := hnumbered.calls tag' call hcall
        have hsome := hheld tag' call (by rw [hcalls, AList.lookup_erase_ne hne]; exact hcall)
        rw [hstub] at hsome
        obtain ⟨-, hsome⟩ := Option.ite_none_right_eq_some.1 hsome
        have heq : client.stubFactory.created = call.stub := Option.some.inj hsome
        exact Nat.ne_of_lt hlt heq.symm
      · intro halone tag' call hcall
        rw [hcalls] at hcall
        have hmem' := AList.mem_erase.1 (AList.lookup_isSome.1 (Option.isSome_of_mem hcall))
        exact absurd (halone hmem hrecreates tag' hmem'.2) hmem'.1
    · rw [GrpcStubFactory.new_stub_of_not_recreates hrecreates] at hstub
      refine iff_of_true (fun tag' call hcall => ?_) fun _ hr => absurd hr hrecreates
      rw [hstub]
      rw [hcalls] at hcall
      by_cases heq : tag' = tag
      · rw [heq, AList.lookup_erase] at hcall
        cases hcall
      · rw [AList.lookup_erase_ne heq] at hcall
        exact h tag' call hcall
  · rw [complete_unknown hmem]
    exact iff_of_true h fun hmem' => absurd hmem' hmem

/-- An event keeps the stubs of the calls exactly when it renews no stub under another call. -/
theorem stubs_held_step_iff (h : client.StubsHeld) (hnumbered : client.Numbered)
    (event : Event K E) : (client.step event).StubsHeld ↔ client.RenewsAlone event := by
  cases event with
  | async a => exact iff_of_true (h.async hnumbered a) trivial
  | complete tag done => exact stubs_held_complete_iff h hnumbered tag done

/-- Throughout a run the client holds the stub of every outstanding call exactly if responses renew
it only when no other call is outstanding. -/
theorem stubs_held_iff (endpointProvider : P) (maxOutstandingCalls : UInt64)
    (events : List (Event K E)) :
    (∀ earlier, earlier <+: events →
        (run step (create endpointProvider maxOutstandingCalls) earlier).StubsHeld) ↔
      Along step RenewsAlone (create endpointProvider maxOutstandingCalls) events :=
  forall_prefix_iff_along (I := Numbered) (fun _ event h _ => h.step event)
    (fun _ event hnumbered h => stubs_held_step_iff h hnumbered event)
    (.create endpointProvider maxOutstandingCalls) nofun

/-- The first of two calls fails while the second is outstanding. -/
theorem stub_renewed_under_outstanding_call :
    let a : Async Unit Unit := ⟨some (), ⟨(), true⟩, true, 0⟩
    let events : List (Event Unit Unit) :=
      [.async a, .async a, .complete 1 ⟨.unavailable, 1, ⟨(), true⟩⟩]
    ¬ (run step (create (StaticGrpcEndpoint.mk "ground:443") 2) events).StubsHeld := by
  intro a events hheld
  have h := hheld 2 ⟨0, (), 0⟩ rfl
  cases h

/-- A client that allows one outstanding call renews its stub when no other call is outstanding. -/
theorem Accounted.renews_alone (h : client.Accounted) (hmax : client.maxOutstandingCalls ≤ 1)
    (event : Event K E) : client.RenewsAlone event := by
  cases event with
  | async => trivial
  | complete tag done =>
      intro hmem _ tag' hmem'
      have hle := UInt64.le_iff_toNat_le.1 (UInt64.le_trans h.outstanding_le hmax)
      rw [h.outstanding] at hle
      rw [AList.mem_keys] at hmem hmem'
      cases hkeys : client.outstandingCalls.keys with
      | nil => simp [hkeys] at hmem
      | cons first rest =>
          have hrest : rest = [] := by simpa [hkeys] using hle
          rw [hkeys, hrest, List.mem_singleton] at hmem hmem'
          exact hmem'.trans hmem.symm

/-- What makes the stub of one call held. -/
structure OneCall (client : GrpcClient P K) : Prop where
  accounted : client.Accounted
  numbered : client.Numbered
  max_le : client.maxOutstandingCalls ≤ 1

/-- With one call at most, every event leaves one at most. -/
theorem OneCall.step (h : client.OneCall) (event : Event K E) : (client.step event).OneCall := by
  refine ⟨?_, h.numbered.step event, ?_⟩
  · cases event with
    | async a => exact h.accounted.async h.numbered.tagged a
    | complete tag done => exact h.accounted.complete tag done
  · rw [step_max_outstanding_calls]
    exact h.max_le

/-- Where at most one call is outstanding at a time, its stub is always held. -/
theorem stubs_held_of_one_call (endpointProvider : P) {maxOutstandingCalls : UInt64}
    (h : maxOutstandingCalls ≤ 1) (events : List (Event K E)) :
    (run step (create endpointProvider maxOutstandingCalls) events).StubsHeld := by
  have hrun : (run step (create (K := K) endpointProvider maxOutstandingCalls) events).OneCall ∧
      (run step (create (K := K) endpointProvider maxOutstandingCalls) events).StubsHeld := by
    refine run_invariant (P := fun client : GrpcClient P K => client.OneCall ∧ client.StubsHeld)
      ⟨⟨.create endpointProvider maxOutstandingCalls, .create endpointProvider maxOutstandingCalls,
        h⟩, nofun⟩ fun client event hclient => ?_
    obtain ⟨hone, hheld⟩ := hclient
    exact ⟨hone.step event, (stubs_held_step_iff hheld hone.numbered event).2
      (hone.accounted.renews_alone hone.max_le event)⟩
  exact hrun.2

end GrpcClient

end Codon.Grpc
