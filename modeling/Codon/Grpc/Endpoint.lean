import Codon.Core
import Mathlib.Tactic.SplitIfs

/-!
# gRPC endpoints and stubs

The endpoint providers of `gRPC_endpoint.cc` and the stub factory of `gRPC_util.h`. An
endpoint is its `host:port`: the authority, the channel arguments and the credentials are
handed on to gRPC unread. What a provider finds outside when it is asked (the time, the DNS
information in the slate) is an argument.
-/

namespace Codon.Grpc

/-- `GrpcEndpointProviderInterface`. `E` is what the provider finds outside. -/
class GrpcEndpointProvider (P : Type) (E : outParam Type) where
  endpoint : P → (hadFailure : Bool) → E → String × P

/-- `StaticGrpcEndpoint`. -/
structure StaticGrpcEndpoint where
  grpcEndpoint : String

instance : GrpcEndpointProvider StaticGrpcEndpoint Unit where
  endpoint p _ _ := (p.grpcEndpoint, p)

/-- An address and a port, as `std::pair<in6_addr, UINT16>`. -/
structure Target where
  ip : UInt32 × UInt32 × UInt32 × UInt32
  port : UInt16
deriving DecidableEq

/-- `DynamicGrpcEndpoint::MAX_TARGETS`. -/
def maxTargets : Nat := 6

/-- What a `DynamicGrpcEndpoint` reads when it is asked: the monotonic time and the elements of the
slate that others write. `cooldown` tells of an age in nanoseconds whether it exceeds the cooldown
period, which the source compares as `double`s. -/
structure DnsInfo where
  now : Int
  cooldown : Int → Bool
  useOverride : Bool
  forceUseOverride : Bool
  numTargets : UInt8
  targets : Fin maxTargets → Target
  overrideTarget : Target

/-- `DynamicGrpcEndpoint`. The last three fields are of `inet`. -/
structure DynamicGrpcEndpoint where
  zeroTargets : UInt16
  targetIndex : UInt8
  endpointCreatedAt : Int
  lastEndpoint : Target
  grpcEndpoint : String
  isV4Mapped : Target → Bool
  inetNtop4 : UInt32 → String
  inetNtop6 : UInt32 × UInt32 × UInt32 × UInt32 → String

namespace DynamicGrpcEndpoint

/-- A provider whose elements have their default values. -/
def create (isV4Mapped : Target → Bool) (inetNtop4 : UInt32 → String)
    (inetNtop6 : UInt32 × UInt32 × UInt32 × UInt32 → String) : DynamicGrpcEndpoint where
  zeroTargets := 0
  targetIndex := 0
  endpointCreatedAt := 0
  lastEndpoint := ⟨(0, 0, 0, 0), 0⟩
  grpcEndpoint := ""
  isV4Mapped
  inetNtop4
  inetNtop6

/-- Whether the override is used. -/
def overridden (e : DnsInfo) : Bool := e.useOverride || e.forceUseOverride

/-- The target index after the provider has been asked. -/
def targetIndexAfter (p : DynamicGrpcEndpoint) (hadFailure : Bool) (e : DnsInfo) : UInt8 :=
  let targetIndexIncrement := if hadFailure then 1 else 0
  let nextTargetIndex :=
    if overridden e then 0
    else UInt8.ofNat ((p.targetIndex.toNat + targetIndexIncrement) % e.numTargets.toNat)
  -- after the cooldown period the ideal target is used again
  if e.cooldown (e.now - p.endpointCreatedAt) then 0 else nextTargetIndex

/-- The `host:port` of a target. -/
def hostPort (p : DynamicGrpcEndpoint) (target : Target) : String :=
  if p.isV4Mapped target then p.inetNtop4 target.ip.2.2.2 ++ ":" ++ toString target.port
  else "[" ++ p.inetNtop6 target.ip ++ "]:" ++ toString target.port

/-- The part of `endpoint` that follows the choice of the target. -/
def useTarget (p : DynamicGrpcEndpoint) (hadFailure : Bool) (now : Int) (target : Target) :
    String × DynamicGrpcEndpoint :=
  let endpointUnchanged := p.lastEndpoint = target
  let p := if ¬ endpointUnchanged ∨ hadFailure then { p with endpointCreatedAt := now } else p
  if endpointUnchanged then (p.grpcEndpoint, p)
  else
    let p := { p with lastEndpoint := target, grpcEndpoint := p.hostPort target }
    (p.grpcEndpoint, p)

/-- `DynamicGrpcEndpoint::endpoint`. -/
def endpoint (p : DynamicGrpcEndpoint) (hadFailure : Bool) (e : DnsInfo) :
    String × DynamicGrpcEndpoint :=
  if ¬ overridden e ∧ e.numTargets = 0 then
    (p.grpcEndpoint, { p with zeroTargets := p.zeroTargets + 1 })
  else
    let p := { p with targetIndex := p.targetIndexAfter hadFailure e }
    if h : p.targetIndex.toNat < maxTargets then
      p.useTarget hadFailure e.now
        (if overridden e then e.overrideTarget else e.targets ⟨p.targetIndex.toNat, h⟩)
    else (p.grpcEndpoint, p)

instance : GrpcEndpointProvider DynamicGrpcEndpoint DnsInfo where
  endpoint := endpoint

/-- Using a target does not move the index. -/
theorem use_target_target_index (p : DynamicGrpcEndpoint) (hadFailure : Bool) (now : Int)
    (target : Target) : (p.useTarget hadFailure now target).2.targetIndex = p.targetIndex := by
  simp only [useTarget]
  split_ifs <;> rfl

end DynamicGrpcEndpoint

/-! ## Stubs -/

/-- `GrpcStubFactory`. Stubs are numbered in the order in which they are created. -/
structure GrpcStubFactory where
  lastGrpcEndpoint : String
  created : Nat

/-- What `NewStub` finds outside: what the provider finds there, and whether gRPC gives a stub. -/
structure Reconnection (E : Type) where
  surroundings : E
  made : Bool

variable {P E : Type} [GrpcEndpointProvider P E]

/-- What `NewStub` leaves and returns. -/
structure NewStub (P : Type) where
  endpointProvider : P
  stubFactory : GrpcStubFactory
  stub : Option Nat
  recreated : Bool

namespace GrpcStubFactory

/-- Whether `NewStub` creates a stub: it is forced to, or the endpoint has changed. -/
def Recreates (factory : GrpcStubFactory) (endpointProvider : P) (force : Bool) (e : E) : Prop :=
  force = true ∨
    (GrpcEndpointProvider.endpoint endpointProvider force e).1 ≠ factory.lastGrpcEndpoint

instance (factory : GrpcStubFactory) (endpointProvider : P) (force : Bool) (e : E) :
    Decidable (factory.Recreates endpointProvider force e) :=
  inferInstanceAs (Decidable (_ ∨ _))

/-- `GrpcStubFactory::NewStub`. -/
def newStub (factory : GrpcStubFactory) (endpointProvider : P) (stub : Option Nat) (force : Bool)
    (r : Reconnection E) : NewStub P :=
  let (endpoint, provider) := GrpcEndpointProvider.endpoint endpointProvider force r.surroundings
  if factory.Recreates endpointProvider force r.surroundings then
    { endpointProvider := provider
      stubFactory := ⟨endpoint, factory.created + 1⟩
      stub := if r.made then some factory.created else none
      recreated := true }
  else ⟨provider, factory, stub, false⟩

variable {factory : GrpcStubFactory} {endpointProvider : P} {stub : Option Nat} {force : Bool}
  {r : Reconnection E}

/-- A changed endpoint gets a new stub. -/
theorem new_stub_of_recreates (h : factory.Recreates endpointProvider force r.surroundings) :
    factory.newStub endpointProvider stub force r =
      { endpointProvider := (GrpcEndpointProvider.endpoint endpointProvider force r.surroundings).2
        stubFactory :=
          ⟨(GrpcEndpointProvider.endpoint endpointProvider force r.surroundings).1,
            factory.created + 1⟩
        stub := if r.made then some factory.created else none
        recreated := true } :=
  if_pos h

/-- An unchanged one keeps its stub. -/
theorem new_stub_of_not_recreates (h : ¬ factory.Recreates endpointProvider force r.surroundings) :
    factory.newStub endpointProvider stub force r =
      ⟨(GrpcEndpointProvider.endpoint endpointProvider force r.surroundings).2, factory, stub,
        false⟩ :=
  if_neg h

/-- `NewStub` asks the provider once, and tells it of a failure if it is forced. -/
theorem new_stub_endpoint_provider (factory : GrpcStubFactory) (endpointProvider : P)
    (stub : Option Nat) (force : Bool) (r : Reconnection E) :
    (factory.newStub endpointProvider stub force r).endpointProvider =
      (GrpcEndpointProvider.endpoint endpointProvider force r.surroundings).2 := by
  by_cases hrecreates : factory.Recreates endpointProvider force r.surroundings
  · rw [new_stub_of_recreates hrecreates]
  · rw [new_stub_of_not_recreates hrecreates]

/-- A stub that was created has a number below the count of created stubs. -/
theorem new_stub_numbered (h : ∀ number ∈ stub, number < factory.created)
    (endpointProvider : P) (force : Bool) (r : Reconnection E) :
    let new := factory.newStub endpointProvider stub force r
    factory.created ≤ new.stubFactory.created ∧
      ∀ number ∈ new.stub, number < new.stubFactory.created := by
  by_cases hrecreates : factory.Recreates endpointProvider force r.surroundings
  · rw [new_stub_of_recreates hrecreates]
    refine ⟨Nat.le_succ _, fun number hnumber => ?_⟩
    obtain ⟨-, hnumber⟩ := Option.ite_none_right_eq_some.1 hnumber
    cases hnumber
    exact Nat.lt_succ_self _
  · rw [new_stub_of_not_recreates hrecreates]
    exact ⟨Nat.le_refl _, h⟩

end GrpcStubFactory

end Codon.Grpc
