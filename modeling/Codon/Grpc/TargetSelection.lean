import Codon.Grpc.Endpoint
import Codon.Library.Run

/-!
# The targets of a dynamic endpoint

A `DynamicGrpcEndpoint` keeps its target index from call to call, while the number of targets is
whatever DNS gives at each. `selected` says what every call of a run leaves and returns: the index
is below the number of targets, and the endpoint is that of the target at the index, unless an
override is in force or the index is beyond the targets that are read.
-/

namespace Codon.Grpc

open Codon.Library

namespace DynamicGrpcEndpoint

/-! ## Partial operations

The source takes a remainder and reads an array. Here both fail where they are undefined. -/

/-- The target index after the provider has been asked, or none after a remainder by zero. -/
def targetIndexChecked (p : DynamicGrpcEndpoint) (hadFailure : Bool) (e : DnsInfo) :
    Option UInt8 := do
  let targetIndexIncrement := if hadFailure then 1 else 0
  let nextTargetIndex ←
    if overridden e then some 0
    else if e.numTargets = 0 then none
    else some (UInt8.ofNat ((p.targetIndex.toNat + targetIndexIncrement) % e.numTargets.toNat))
  return if e.cooldown (e.now - p.endpointCreatedAt) then 0 else nextTargetIndex

/-- The target that is used, or none if the read is out of range. -/
def infoChecked (e : DnsInfo) (targetIndex : UInt8) : Option Target :=
  if overridden e then some e.overrideTarget else (List.ofFn e.targets)[targetIndex.toNat]?

/-- `DynamicGrpcEndpoint::endpoint`, or none if it does something undefined. -/
def endpointChecked (p : DynamicGrpcEndpoint) (hadFailure : Bool) (e : DnsInfo) :
    Option (String × DynamicGrpcEndpoint) :=
  if ¬ overridden e ∧ e.numTargets = 0 then
    some (p.grpcEndpoint, { p with zeroTargets := p.zeroTargets + 1 })
  else do
    let targetIndex ← p.targetIndexChecked hadFailure e
    let p := { p with targetIndex }
    if maxTargets ≤ targetIndex.toNat then return (p.grpcEndpoint, p)
    let info ← infoChecked e targetIndex
    return p.useTarget hadFailure e.now info

variable {p : DynamicGrpcEndpoint} {hadFailure : Bool} {e : DnsInfo}

/-- Nothing that `endpoint` does is undefined. -/
theorem endpoint_checked_eq (p : DynamicGrpcEndpoint) (hadFailure : Bool) (e : DnsInfo) :
    p.endpointChecked hadFailure e = some (p.endpoint hadFailure e) := by
  unfold endpointChecked endpoint
  by_cases hnone : ¬ overridden e ∧ e.numTargets = 0
  · rw [if_pos hnone, if_pos hnone]
  · have hindex : p.targetIndexChecked hadFailure e = some (p.targetIndexAfter hadFailure e) := by
      unfold targetIndexChecked targetIndexAfter
      by_cases hover : overridden e = true
      · simp [hover]
      · have hcount : e.numTargets ≠ 0 := fun h => hnone ⟨hover, h⟩
        simp [hover, hcount]
    rw [if_neg hnone, if_neg hnone, hindex]
    by_cases hrange : (p.targetIndexAfter hadFailure e).toNat < maxTargets
    · have hinfo : infoChecked e (p.targetIndexAfter hadFailure e) =
          some (if overridden e then e.overrideTarget
            else e.targets ⟨(p.targetIndexAfter hadFailure e).toNat, hrange⟩) := by
        unfold infoChecked
        split_ifs with hover
        · rfl
        · simp [hrange]
      simp [hrange, hinfo, Nat.not_le.2 hrange]
    · simp [hrange, Nat.not_lt.1 hrange]

/-! ## Calls one after the other -/

/-- The target for an index: that of the override if it is in force. -/
def info (e : DnsInfo) (index : Fin maxTargets) : Target :=
  if overridden e then e.overrideTarget else e.targets index

/-- The target that `endpoint` uses, if it gets that far. -/
def used (p : DynamicGrpcEndpoint) (hadFailure : Bool) (e : DnsInfo) : Option Target :=
  if ¬ overridden e ∧ e.numTargets = 0 then none
  else if h : (p.targetIndexAfter hadFailure e).toNat < maxTargets then
    some (info e ⟨(p.targetIndexAfter hadFailure e).toNat, h⟩)
  else none

/-- The target that a provider starts with, for which it has no endpoint. -/
def zeroTarget : Target := ⟨(0, 0, 0, 0), 0⟩

/-- A provider, and the targets that it has used. -/
structure History where
  provider : DynamicGrpcEndpoint
  targets : List Target

/-- A provider that has not been asked. -/
def History.start (isV4Mapped : Target → Bool) (inetNtop4 : UInt32 → String)
    (inetNtop6 : UInt32 × UInt32 × UInt32 × UInt32 → String) : History :=
  ⟨create isV4Mapped inetNtop4 inetNtop6, []⟩

/-- A call of `endpoint`. -/
def History.ask (h : History) (call : Bool × DnsInfo) : History :=
  ⟨(h.provider.endpoint call.1 call.2).2,
    h.targets ++ (h.provider.used call.1 call.2).toList⟩

/-- The endpoint of a provider is that of the last target that it has used, once there was one other
than the one it starts with. -/
structure History.Rendered (h : History) : Prop where
  fresh : (∀ target ∈ h.targets, target = zeroTarget) →
    h.provider.lastEndpoint = zeroTarget ∧ h.provider.grpcEndpoint = ""
  rendered : (∃ target ∈ h.targets, target ≠ zeroTarget) →
    h.provider.grpcEndpoint = h.provider.hostPort h.provider.lastEndpoint

/-- What a call of `endpoint` leaves and returns. -/
structure Selected (h : History) (hadFailure : Bool) (e : DnsInfo) : Prop where
  /-- The index is one of a target that DNS gives. -/
  index_lt : (h.provider.endpoint hadFailure e).2.targetIndex.toNat < e.numTargets.toNat
  /-- With an override it is zero. -/
  overridden : overridden e = true → (h.provider.endpoint hadFailure e).2.targetIndex = 0
  /-- The endpoint is that of the target, unless all targets so far are the one that the provider
  starts with. -/
  rendered : ∀ hlt : (h.provider.endpoint hadFailure e).2.targetIndex.toNat < maxTargets,
    let target := info e ⟨(h.provider.endpoint hadFailure e).2.targetIndex.toNat, hlt⟩
    (h.provider.endpoint hadFailure e).1 =
      if ∀ target' ∈ h.targets ++ [target], target' = zeroTarget then ""
      else h.provider.hostPort target
  /-- An index beyond the targets that are read changes nothing else. -/
  held : maxTargets ≤ (h.provider.endpoint hadFailure e).2.targetIndex.toNat →
    h.provider.endpoint hadFailure e =
      (h.provider.grpcEndpoint,
        { h.provider with targetIndex := (h.provider.endpoint hadFailure e).2.targetIndex })

/-- What `endpoint` returns and leaves with a target that it uses. -/
theorem endpoint_of_used {target : Target} (h : p.used hadFailure e = some target) :
    (p.endpoint hadFailure e).1 =
        (if p.lastEndpoint = target then p.grpcEndpoint else p.hostPort target) ∧
      (p.endpoint hadFailure e).2.grpcEndpoint = (p.endpoint hadFailure e).1 ∧
      (p.endpoint hadFailure e).2.lastEndpoint = target ∧
      (p.endpoint hadFailure e).2.hostPort = p.hostPort := by
  unfold used at h
  split_ifs at h with hnone hrange
  cases h
  rw [endpoint, if_neg hnone]
  simp only [hrange, dif_pos]
  generalize htarget : info e ⟨(p.targetIndexAfter hadFailure e).toNat, hrange⟩ = target
  rw [info] at htarget
  rw [htarget]
  by_cases hsame : p.lastEndpoint = target
  · cases hadFailure <;> simp [useTarget, hsame] <;> rfl
  · simp [useTarget, hsame]
    exact ⟨rfl, rfl⟩

/-- What `endpoint` returns and leaves without a target. -/
theorem endpoint_of_not_used (h : p.used hadFailure e = none) :
    (p.endpoint hadFailure e).1 = p.grpcEndpoint ∧
      (p.endpoint hadFailure e).2.grpcEndpoint = p.grpcEndpoint ∧
      (p.endpoint hadFailure e).2.lastEndpoint = p.lastEndpoint ∧
      (p.endpoint hadFailure e).2.hostPort = p.hostPort := by
  unfold used at h
  split_ifs at h with hnone hrange
  · rw [endpoint, if_pos hnone]
    exact ⟨rfl, rfl, rfl, rfl⟩
  · rw [endpoint, if_neg hnone]
    simp only [hrange, dif_neg, not_false_eq_true]
    exact ⟨trivial, trivial, trivial, rfl⟩

/-- The endpoint that is returned for a target. -/
theorem returned_of_used {h : History} (hrendered : h.Rendered) {target : Target}
    (hused : h.provider.used hadFailure e = some target) :
    (h.provider.endpoint hadFailure e).1 =
      if ∀ target' ∈ h.targets ++ [target], target' = zeroTarget then ""
      else h.provider.hostPort target := by
  rw [(endpoint_of_used hused).1]
  by_cases hall : ∀ target' ∈ h.targets, target' = zeroTarget
  · obtain ⟨hlast, hgrpc⟩ := hrendered.fresh hall
    by_cases hzero : target = zeroTarget
    · have hboth : ∀ target' ∈ h.targets ++ [target], target' = zeroTarget := by
        simpa [hzero, or_imp, forall_and] using hall
      rw [if_pos hboth, hlast, if_pos hzero.symm, hgrpc]
    · rw [hlast, if_neg (Ne.symm hzero), if_neg (fun h => hzero (h target (by simp)))]
  · have hnot : ¬ ∀ target' ∈ h.targets ++ [target], target' = zeroTarget :=
      fun hboth => hall fun target' hmem => hboth target' (List.mem_append_left _ hmem)
    rw [if_neg hnot]
    split_ifs with hsame
    · rw [hrendered.rendered (by simpa using hall), hsame]
    · rfl

/-- A call keeps the endpoint that of the last target. -/
theorem ask_rendered {h : History} (hrendered : h.Rendered) (call : Bool × DnsInfo) :
    (h.ask call).Rendered := by
  obtain ⟨hadFailure, e⟩ := call
  cases hused : h.provider.used hadFailure e with
  | none =>
      obtain ⟨-, hgrpc, hlast, hport⟩ := endpoint_of_not_used hused
      have htargets : (h.ask (hadFailure, e)).targets = h.targets := by simp [History.ask, hused]
      constructor
      · intro hall
        rw [htargets] at hall
        exact ⟨hlast.trans (hrendered.fresh hall).1, hgrpc.trans (hrendered.fresh hall).2⟩
      · intro hex
        rw [htargets] at hex
        simp only [History.ask]
        rw [hgrpc, hlast, hport]
        exact hrendered.rendered hex
  | some target =>
      obtain ⟨-, hgrpc, hlast, hport⟩ := endpoint_of_used hused
      have hreturned := returned_of_used hrendered hused
      have htargets : (h.ask (hadFailure, e)).targets = h.targets ++ [target] := by
        simp [History.ask, hused]
      constructor
      · intro hall
        rw [htargets] at hall
        rw [if_pos hall] at hreturned
        exact ⟨hlast.trans (hall target (by simp)), hgrpc.trans hreturned⟩
      · intro hex
        rw [htargets] at hex
        rw [if_neg (by simpa using hex)] at hreturned
        simp only [History.ask]
        rw [hgrpc, hreturned, hlast, hport]

/-- The endpoint is that of the last target after any calls. -/
theorem run_ask_rendered (isV4Mapped : Target → Bool) (inetNtop4 : UInt32 → String)
    (inetNtop6 : UInt32 × UInt32 × UInt32 × UInt32 → String) (calls : List (Bool × DnsInfo)) :
    (run History.ask (.start isV4Mapped inetNtop4 inetNtop6) calls).Rendered := by
  refine run_invariant ⟨fun _ => ⟨rfl, rfl⟩, ?_⟩ fun h call hrendered => ask_rendered hrendered call
  rintro ⟨target, hmem, -⟩
  cases hmem

/-! ## The index -/

/-- The index that is chosen is below the number of targets. -/
theorem target_index_after_lt (p : DynamicGrpcEndpoint) (hadFailure : Bool)
    (hcount : e.numTargets ≠ 0) :
    (p.targetIndexAfter hadFailure e).toNat < e.numTargets.toNat := by
  have hpos : 0 < e.numTargets.toNat := by
    rw [Nat.pos_iff_ne_zero]
    exact fun hzero => hcount (UInt8.toNat_inj.1 hzero)
  have hmod := Nat.mod_lt (p.targetIndex.toNat + if hadFailure then 1 else 0) hpos
  have hsize := e.numTargets.toNat_lt
  simp only [targetIndexAfter]
  split_ifs at hmod ⊢ <;> first | exact hpos | (rw [UInt8.toNat_ofNat']; omega)

/-- Where the index of the targets goes. -/
theorem endpoint_target_index_eq (p : DynamicGrpcEndpoint) (hadFailure : Bool)
    (hcount : e.numTargets ≠ 0) :
    (p.endpoint hadFailure e).2.targetIndex = p.targetIndexAfter hadFailure e := by
  rw [endpoint, if_neg (fun h => hcount h.2)]
  simp only
  split
  · rw [use_target_target_index]
  · rfl

/-- In any run of calls, whatever DNS gives at each, no call does anything undefined; and every call
with targets leaves an index of one of them, and returns the endpoint of the target that it
selects. -/
theorem selected (isV4Mapped : Target → Bool) (inetNtop4 : UInt32 → String)
    (inetNtop6 : UInt32 × UInt32 × UInt32 × UInt32 → String) (earlier : List (Bool × DnsInfo))
    (hadFailure : Bool) (e : DnsInfo) :
    let h := run History.ask (.start isV4Mapped inetNtop4 inetNtop6) earlier
    h.provider.endpointChecked hadFailure e = some (h.provider.endpoint hadFailure e) ∧
      (e.numTargets ≠ 0 → Selected h hadFailure e) := by
  intro h
  refine ⟨endpoint_checked_eq h.provider hadFailure e, fun hcount => ?_⟩
  have hindex := endpoint_target_index_eq h.provider hadFailure hcount
  have hrendered : h.Rendered := run_ask_rendered isV4Mapped inetNtop4 inetNtop6 earlier
  have hsome : ¬ (¬ overridden e ∧ e.numTargets = 0) := fun hnone => hcount hnone.2
  refine ⟨?_, fun hover => ?_, fun hlt => ?_, fun hle => ?_⟩
  · rw [hindex]
    exact target_index_after_lt h.provider hadFailure hcount
  · rw [hindex, targetIndexAfter]
    simp [hover]
  · refine returned_of_used hrendered ?_
    simp only [hindex] at hlt ⊢
    rw [used, if_neg hsome, dif_pos hlt]
  · rw [hindex] at hle ⊢
    rw [endpoint, if_neg hsome]
    simp [Nat.not_lt.2 hle]

/-- With seven targets six failures lead to the seventh index, where no target is read. -/
theorem seventh_index_stored :
    let e : DnsInfo :=
      { now := 10 ^ 9, cooldown := fun _ => false
        useOverride := false, forceUseOverride := false, numTargets := 7
        targets := fun i => ⟨(0, 0, 0, 1), UInt16.ofNat i⟩, overrideTarget := zeroTarget }
    let h := run History.ask (.start (fun _ => false) (fun _ => "") fun _ => "::1")
      (List.replicate 5 (true, e))
    let asked := h.provider.endpoint true e
    asked.2.targetIndex.toNat = 6 ∧
      ¬ asked.2.targetIndex.toNat < min e.numTargets.toNat maxTargets ∧ asked.1 = "[::1]:5" := by
  decide +kernel

end DynamicGrpcEndpoint

end Codon.Grpc
