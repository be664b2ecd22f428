import Codon.Library.Run
import Mathlib.Data.List.Induction
import Mathlib.Algebra.Group.Int.Defs

/-!
# Retrying calls on acquisition of signal

`AcquisitionOfSignalMonitor` looks at the age of the last contact with the ground. An age above one
threshold is an outage, an age below another the acquisition of signal, on which outstanding gRPC
calls are to be retried. The monitor notes at every dispatch whether this one sees an outage, not
whether there has been one: `emits_when_due_iff` says for which runs that makes no difference.
-/

namespace Codon.Grpc

open Codon.Library

/-- What a dispatch reads in the slate: the age of the last contact, and the threshold for outages,
a `double`, as whether it disables the monitor and as a `nano_t`. -/
structure Contact where
  bidirectionalCommAge : Int
  disabled : Bool
  outOfContactThreshold : Int
deriving DecidableEq

/-- `AcquisitionOfSignalMonitor`. -/
structure AcquisitionOfSignalMonitor where
  aosThreshold : Int
  retryOnConnection : Bool

/-- An enabled dispatch sees an outage. -/
def Contact.Outage (d : Contact) : Prop :=
  d.disabled = false ∧ d.outOfContactThreshold < d.bidirectionalCommAge

/-- An enabled dispatch sees the signal acquired. -/
def Contact.Acquired (aosThreshold : Int) (d : Contact) : Prop :=
  d.disabled = false ∧ d.bidirectionalCommAge < aosThreshold

instance (d : Contact) : Decidable d.Outage := inferInstanceAs (Decidable (_ ∧ _))

instance (aosThreshold : Int) (d : Contact) : Decidable (d.Acquired aosThreshold) :=
  inferInstanceAs (Decidable (_ ∧ _))

/-- A retry is due: after the dispatches `earlier`, `d` is the first enabled one since an outage
that sees the signal acquired. -/
def Due (aosThreshold : Int) (earlier : List Contact) (d : Contact) : Prop :=
  d.Acquired aosThreshold ∧ ∃ before outage between, earlier = before ++ outage :: between ∧
    outage.Outage ∧ ∀ d' ∈ between, ¬ d'.Acquired aosThreshold

/-- The last dispatch has seen an outage. -/
def InOutage (earlier : List Contact) : Prop := ∃ last, earlier.getLast? = some last ∧ last.Outage

namespace AcquisitionOfSignalMonitor

/-- A monitor that `create` has made. -/
def create (aosThreshold : Int) : AcquisitionOfSignalMonitor := ⟨aosThreshold, false⟩

/-- `dispatch`: whether it emits `retry_grpc_sig`, and the monitor. -/
def dispatch (m : AcquisitionOfSignalMonitor) (d : Contact) : Bool × AcquisitionOfSignalMonitor :=
  (decide (d.bidirectionalCommAge < m.aosThreshold) && m.retryOnConnection,
    { m with
      retryOnConnection :=
        !d.disabled && decide (d.outOfContactThreshold < d.bidirectionalCommAge) })

/-- The monitor after a dispatch. -/
def step (m : AcquisitionOfSignalMonitor) (d : Contact) : AcquisitionOfSignalMonitor :=
  (m.dispatch d).2

/-- Whether a new monitor emits at a dispatch, after earlier ones. -/
def emits (aosThreshold : Int) (earlier : List Contact) (d : Contact) : Bool :=
  ((run step (create aosThreshold) earlier).dispatch d).1

/-- Where a retry is due at a dispatch, the one before it still sees the outage; and a dispatch that
comes next after such a one and finds the age below the threshold is enabled. -/
def Meets (aosThreshold : Int) (earlier : List Contact) (d : Contact) : Prop :=
  (Due aosThreshold earlier d → InOutage earlier) ∧
    (InOutage earlier → d.bidirectionalCommAge < aosThreshold → d.disabled = false)

variable {aosThreshold : Int} {earlier : List Contact} {d : Contact}

/-- The note is about the last dispatch. -/
theorem run_step (aosThreshold : Int) (earlier : List Contact) :
    (run step (create aosThreshold) earlier).aosThreshold = aosThreshold ∧
      ((run step (create aosThreshold) earlier).retryOnConnection = true ↔ InOutage earlier) := by
  induction earlier using List.reverseRecOn with
  | nil => exact ⟨rfl, iff_of_false Bool.false_ne_true nofun⟩
  | append_singleton earlier d ih =>
      rw [run_append, run_cons, run_nil]
      refine ⟨ih.1, ?_⟩
      simp [InOutage, step, dispatch, Contact.Outage]

/-- The signal is emitted when contact is young after an outage. -/
theorem emits_iff :
    emits aosThreshold earlier d = true ↔
      d.bidirectionalCommAge < aosThreshold ∧ InOutage earlier := by
  obtain ⟨hthreshold, hnote⟩ := run_step aosThreshold earlier
  rw [emits, dispatch, Bool.and_eq_true, hnote, decide_eq_true_iff, hthreshold]

/-- A retry is due at the dispatch next after an outage that sees the signal acquired. -/
theorem due_of_in_outage (h : InOutage earlier) (hd : d.Acquired aosThreshold) :
    Due aosThreshold earlier d := by
  obtain ⟨last, hlast, houtage⟩ := h
  obtain ⟨before, rfl⟩ := List.getLast?_eq_some_iff.1 hlast
  exact ⟨hd, before, last, [], rfl, houtage, nofun⟩

/-- One dispatch emits when a retry is due exactly if it meets the condition. -/
theorem emits_iff_due_iff (aosThreshold : Int) (earlier : List Contact) (d : Contact) :
    (emits aosThreshold earlier d = true ↔ Due aosThreshold earlier d) ↔
      Meets aosThreshold earlier d := by
  rw [emits_iff]
  constructor
  · intro h
    refine ⟨fun hdue => (h.2 hdue).2, fun hout hage => ?_⟩
    exact (h.1 ⟨hage, hout⟩).1.1
  · rintro ⟨hdue, henabled⟩
    constructor
    · rintro ⟨hage, hout⟩
      exact due_of_in_outage hout ⟨henabled hout hage, hage⟩
    · exact fun h => ⟨h.1.2, hdue h⟩

/-- In a run of any dispatches, each emits exactly when a retry is due, if and only if every
dispatch meets the condition. -/
theorem emits_when_due_iff (aosThreshold : Int) (dispatches : List Contact) :
    (∀ earlier d, earlier ++ [d] <+: dispatches →
        (emits aosThreshold earlier d = true ↔ Due aosThreshold earlier d)) ↔
      ∀ earlier d, earlier ++ [d] <+: dispatches → Meets aosThreshold earlier d :=
  forall₃_congr fun earlier d _ => emits_iff_due_iff aosThreshold earlier d

/-- The age comes down in two steps: the outage is forgotten, and nothing is retried. -/
theorem outage_forgotten :
    let threshold := 10 * 10 ^ 9
    let outage : Contact := ⟨20 * 10 ^ 9, false, threshold⟩
    let between : Contact := ⟨5 * 10 ^ 9, false, threshold⟩
    let acquired : Contact := ⟨10 ^ 8, false, threshold⟩
    Due (10 ^ 9) [outage, between] acquired ∧
      emits (10 ^ 9) [] outage = false ∧ emits (10 ^ 9) [outage] between = false ∧
      emits (10 ^ 9) [outage, between] acquired = false := by
  intro threshold outage between acquired
  refine ⟨⟨by decide, [], outage, [between], rfl, by decide, ?_⟩, by decide, by decide, by decide⟩
  exact List.forall_mem_singleton.2 (by decide)

end AcquisitionOfSignalMonitor

end Codon.Grpc
