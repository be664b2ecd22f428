import Codon.Grpc.Client
import Mathlib.Data.Nat.ModEq

/-!
# Failover between targets

A `DynamicGrpcEndpoint` moves on to the next target when it is told of a failure, and the client
tells it of one whenever it forces a new stub: after a failed call, and before the first call.
Read `provoked_iff`: the index advances for failed calls only, at most once for each, exactly if
no call that has to create the stub finds the next target open to it.
-/

namespace Codon.Grpc

open Codon.Library

namespace DynamicGrpcEndpoint

/-- The next of several targets is open: there is no override, and the cooldown period since the
last failure is not over. -/
def NextOpen (p : DynamicGrpcEndpoint) (e : DnsInfo) : Prop :=
  overridden e = false ∧ 1 < e.numTargets ∧ e.cooldown (e.now - p.endpointCreatedAt) = false

instance (p : DynamicGrpcEndpoint) (e : DnsInfo) : Decidable (p.NextOpen e) :=
  inferInstanceAs (Decidable (_ ∧ _))

/-- From `p` to `p'` the target index moved on to the next of several targets. -/
def Advanced (p p' : DynamicGrpcEndpoint) (e : DnsInfo) : Prop :=
  p.NextOpen e ∧ p'.targetIndex.toNat = (p.targetIndex.toNat + 1) % e.numTargets.toNat

instance (p p' : DynamicGrpcEndpoint) (e : DnsInfo) : Decidable (Advanced p p' e) :=
  inferInstanceAs (Decidable (_ ∧ _))

variable {p : DynamicGrpcEndpoint} {e : DnsInfo} {hadFailure : Bool}

/-- Of several targets, the next one is another. -/
theorem next_mod_ne {index count : Nat} (h : 1 < count) : index % count ≠ (index + 1) % count := by
  intro heq
  have hmod : 0 ≡ 1 [MOD count] := Nat.ModEq.add_left_cancel' index heq
  rw [Nat.ModEq, Nat.zero_mod, Nat.mod_eq_of_lt h] at hmod
  cases hmod

/-- There is another target to move to. -/
theorem NextOpen.one_lt (h : p.NextOpen e) : 1 < e.numTargets.toNat := UInt8.lt_iff_toNat_lt.1 h.2.1

/-- With the next target open, the provider goes round the targets as it is told of failures. -/
theorem endpoint_target_index (h : p.NextOpen e) :
    (p.endpoint hadFailure e).2.targetIndex.toNat =
      (p.targetIndex.toNat + if hadFailure then 1 else 0) % e.numTargets.toNat := by
  have hcount := h.one_lt
  obtain ⟨hoverride, -, hcooldown⟩ := h
  have htargets : ¬ (¬ overridden e ∧ e.numTargets = 0) := by
    rintro ⟨-, hzero⟩
    simp [hzero] at hcount
  have hnext : (p.targetIndexAfter hadFailure e).toNat =
      (p.targetIndex.toNat + if hadFailure then 1 else 0) % e.numTargets.toNat := by
    have hlt := Nat.mod_lt (p.targetIndex.toNat + if hadFailure then 1 else 0)
      (Nat.lt_of_succ_lt hcount)
    have hsize := e.numTargets.toNat_lt
    simp only [targetIndexAfter, hoverride, hcooldown, Bool.false_eq_true, if_false]
    rw [UInt8.toNat_ofNat']
    exact Nat.mod_eq_of_lt (by omega)
  rw [endpoint, if_neg htargets, ← hnext]
  simp only
  split
  · rw [use_target_target_index]
  · rfl

/-- The endpoint advances on a failure with an open next target. -/
theorem advanced_endpoint_iff :
    Advanced p (p.endpoint hadFailure e).2 e ↔ hadFailure = true ∧ p.NextOpen e := by
  constructor
  · rintro ⟨hopen, hindex⟩
    refine ⟨?_, hopen⟩
    rw [endpoint_target_index hopen] at hindex
    cases hadFailure with
    | true => rfl
    | false => exact absurd hindex (next_mod_ne hopen.one_lt)
  · rintro ⟨rfl, hopen⟩
    exact ⟨hopen, endpoint_target_index hopen⟩

/-- A provider that is not asked does not advance. -/
theorem not_advanced_self : ¬ Advanced p p e := by
  rintro ⟨hopen, hindex⟩
  have hne : p.targetIndex.toNat % e.numTargets.toNat ≠
      (p.targetIndex.toNat + 1) % e.numTargets.toNat := next_mod_ne hopen.one_lt
  refine hne ?_
  conv_lhs => rw [hindex, Nat.mod_mod]

end DynamicGrpcEndpoint

/-- What happens to a client with a dynamic endpoint: the tags of the calls that failed, and for
every advance of the target index the tag of the failed call that was handled then. -/
structure RotationSession (K : Type) where
  client : GrpcClient DynamicGrpcEndpoint K
  failures : List Nat
  advances : List (Option Nat)

namespace RotationSession

variable {K : Type} {s : RotationSession K}

def start (endpointProvider : DynamicGrpcEndpoint) (maxOutstandingCalls : UInt64) :
    RotationSession K :=
  ⟨.create endpointProvider maxOutstandingCalls, [], []⟩

/-- What the endpoint provider finds outside if it is asked. -/
def dnsInfo : Event K DnsInfo → DnsInfo
  | .async a => a.reconnection.surroundings
  | .complete _ done => done.reconnection.surroundings

/-- The tag of the outstanding call whose failure the event is. -/
def failedCall (client : GrpcClient DynamicGrpcEndpoint K) : Event K DnsInfo → Option Nat
  | .async _ => none
  | .complete tag done =>
      if tag ∈ client.outstandingCalls ∧ done.status ≠ .ok then some tag else none

def step (s : RotationSession K) (event : Event K DnsInfo) : RotationSession K :=
  let client := s.client.step event
  let failed := failedCall s.client event
  { client
    failures := s.failures ++ failed.toList
    advances :=
      if s.client.endpointProvider.Advanced client.endpointProvider (dnsInfo event) then
        s.advances ++ [failed]
      else s.advances }

/-- Every advance was for a failed call, and no two for the same. -/
def Provoked (s : RotationSession K) : Prop := s.advances.Sublist (s.failures.map some)

/-- A call that has to create the stub does not find the next target open. -/
def CreatesQuietly (s : RotationSession K) : Event K DnsInfo → Prop
  | .async a =>
      a.callback.isSome = true → s.client.stub = none →
        ¬ s.client.endpointProvider.NextOpen a.reconnection.surroundings
  | .complete _ _ => True

/-- A call to `async` advances the index when it creates the stub and finds the next target open. -/
theorem advanced_async_iff (client : GrpcClient DynamicGrpcEndpoint K) (a : Async K DnsInfo) :
    client.endpointProvider.Advanced (client.async a).client.endpointProvider
        a.reconnection.surroundings ↔
      a.callback.isSome = true ∧ client.stub = none ∧
        client.endpointProvider.NextOpen a.reconnection.surroundings := by
  rw [client.async_endpoint_provider a, ← and_assoc]
  by_cases hcreates : a.callback.isSome = true ∧ client.stub = none
  · rw [if_pos hcreates]
    exact DynamicGrpcEndpoint.advanced_endpoint_iff.trans
      (and_congr_left fun _ => by simp [hcreates])
  · rw [if_neg hcreates]
    exact iff_of_false DynamicGrpcEndpoint.not_advanced_self fun h => hcreates h.1

/-- A response advances the index only if its call failed. -/
theorem failed_call_of_advanced {client : GrpcClient DynamicGrpcEndpoint K} {tag : Nat}
    {done : Completion DnsInfo}
    (h : client.endpointProvider.Advanced (client.complete tag done).client.endpointProvider
      done.reconnection.surroundings) : failedCall client (.complete tag done) = some tag := by
  by_cases hmem : tag ∈ client.outstandingCalls
  · rw [(GrpcClient.complete_renewed hmem done).1, GrpcStubFactory.new_stub_endpoint_provider] at h
    have hstatus := (DynamicGrpcEndpoint.advanced_endpoint_iff.1 h).1
    exact if_pos ⟨hmem, of_decide_eq_true hstatus⟩
  · rw [GrpcClient.complete_unknown hmem] at h
    exact absurd h DynamicGrpcEndpoint.not_advanced_self

/-- A step keeps every advance provoked exactly if it does not create the stub with the next target
open. -/
theorem provoked_step_iff (h : s.Provoked) (event : Event K DnsInfo) :
    (s.step event).Provoked ↔ s.CreatesQuietly event := by
  cases event with
  | async a =>
      have hadvanced := advanced_async_iff s.client a
      by_cases hadv : s.client.endpointProvider.Advanced (s.client.async a).client.endpointProvider
          a.reconnection.surroundings
      · obtain ⟨hcallback, hstub, hopen⟩ := hadvanced.1 hadv
        refine iff_of_false (fun hprovoked => ?_) fun hquiet => hquiet hcallback hstub hopen
        have hmem : none ∈ (s.step (.async a)).advances := by
          simp [step, dnsInfo, GrpcClient.step, hadv, failedCall]
        simpa using hprovoked.subset hmem
      · refine iff_of_true ?_ fun hcallback hstub hopen =>
          hadv (hadvanced.2 ⟨hcallback, hstub, hopen⟩)
        simpa [Provoked, step, dnsInfo, GrpcClient.step, hadv, failedCall] using h
  | complete tag done =>
      refine iff_of_true ?_ trivial
      have hfailures : (s.step (.complete tag done)).failures =
          s.failures ++ (failedCall s.client (.complete tag done)).toList := rfl
      by_cases hadv : s.client.endpointProvider.Advanced
          (s.client.complete tag done).client.endpointProvider done.reconnection.surroundings
      · have hadvances : (s.step (.complete tag done)).advances = s.advances ++ [some tag] := by
          simp [step, dnsInfo, GrpcClient.step, hadv, failed_call_of_advanced hadv]
        rw [Provoked, hadvances, hfailures, failed_call_of_advanced hadv, List.map_append]
        exact h.append (.refl _)
      · have hadvances : (s.step (.complete tag done)).advances = s.advances := by
          simp [step, dnsInfo, GrpcClient.step, hadv]
        rw [Provoked, hadvances, hfailures, List.map_append]
        exact h.trans (List.sublist_append_left _ _)

/-- Throughout a run every advance of the target index is for a failed call of its own exactly if
no call that has to create the stub finds the next target open. -/
theorem provoked_iff (endpointProvider : DynamicGrpcEndpoint) (maxOutstandingCalls : UInt64)
    (events : List (Event K DnsInfo)) :
    (∀ earlier, earlier <+: events →
        (run step (start endpointProvider maxOutstandingCalls) earlier).Provoked) ↔
      Along step CreatesQuietly (start endpointProvider maxOutstandingCalls) events :=
  forall_prefix_iff_along (I := fun _ => True) (fun _ _ _ _ => trivial)
    (fun _ event _ h => provoked_step_iff h event) trivial (List.Sublist.refl _)

/-- The first call, made within the cooldown period after the start of the clock, passes over the
first of three targets. -/
theorem advanced_before_failure :
    let target : Target := ⟨(0, 0, 0, 0), 443⟩
    let e : DnsInfo :=
      { now := 100 * 10 ^ 9, cooldown := fun age => decide (900 * 10 ^ 9 < age)
        useOverride := false, forceUseOverride := false, numTargets := 3
        targets := fun _ => target, overrideTarget := target }
    let endpointProvider := DynamicGrpcEndpoint.create (fun _ => false) (fun _ => "") fun _ => "::"
    let s := (start endpointProvider 1).step (.async ⟨some (), ⟨e, true⟩, true, 0⟩)
    s.failures = [] ∧ s.client.endpointProvider.targetIndex = 1 ∧ ¬ s.Provoked := by
  intro target e endpointProvider s
  have hadvances : s.advances = [none] := by decide +kernel
  refine ⟨rfl, by decide +kernel, fun h => ?_⟩
  have hmem : none ∈ s.failures.map some := h.subset (by simp [hadvances])
  cases hmem

end RotationSession

end Codon.Grpc
