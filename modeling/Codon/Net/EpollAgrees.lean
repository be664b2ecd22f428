import Codon.Library.Census
import Codon.Library.Run
import Codon.Net.EpollBag

/-!
# What is noted and what is registered

`update_epoll` notes the new events of a sink before it asks `epoll` for them, and
`remove_fes` takes a sink out of the count before it asks `epoll` to let go of it. Neither
takes that back when `epoll_ctl` fails. So the count and the notes agree with the
registrations throughout a run exactly if no such call fails (`agrees_iff_along`).
-/

namespace Codon.Net

open Codon.Library

namespace EpollBag

variable {S : Type} [DecidableEq S] {s s' : EpollBag S} {e f g : S} {ctl : Bool}
  {r : Option Events} {oldState newState epollEvents : Events}

omit [DecidableEq S] in
/-- What is registered with `epoll` for a sink, itself or by its stand-in. -/
def registered (s : EpollBag S) (f : S) : Events :=
  match (s.sinks f).nonPollableStandin with
  | .none => (s.epoll f).getD .empty
  | .errorFes => .empty
  | .sink e => (s.epoll e).getD .empty

omit [DecidableEq S] in
/-- The count is that of the attached sinks that are registered for reading or writing, and every
attached sink has noted what is registered for it. -/
structure Agrees (s : EpollBag S) : Prop where
  count : s.activeCount = s.attached.countP fun f => (s.registered f).active
  noted : ∀ f ∈ s.attached, (s.sinks f).epollEvents = s.registered f

omit [DecidableEq S] in
/-- The sinks that have noted that they wait for reading or writing. -/
def countNoted (s : EpollBag S) : Nat := s.attached.countP fun f => (s.sinks f).epollEvents.active

omit [DecidableEq S] in
/-- With agreeing notes, the sinks that have noted that they wait are those registered to wait. -/
theorem count_noted_eq (h : ∀ f ∈ s.attached, (s.sinks f).epollEvents = s.registered f) :
    s.countNoted = s.attached.countP fun f => (s.registered f).active :=
  List.countP_congr fun f hf => by rw [h f hf]

omit [DecidableEq S] in
/-- The stand-ins are attached and belong to one sink each. A sink that is not attached has no
stand-in, and neither such a sink nor one with a stand-in has anything registered itself. -/
structure Sound (s : EpollBag S) : Prop where
  nodup : s.attached.Nodup
  standins : ∀ f ∈ s.attached, ∀ e, (s.sinks f).nonPollableStandin = .sink e →
    e ∈ s.attached ∧ (s.sinks e).nonPollableStandin = .none
  unique : ∀ f ∈ s.attached, ∀ g ∈ s.attached, ∀ e, (s.sinks f).nonPollableStandin = .sink e →
    (s.sinks g).nonPollableStandin = .sink e → f = g
  detached : ∀ f, f ∉ s.attached → (s.sinks f).nonPollableStandin = .none
  silent : ∀ f, f ∉ s.attached ∨ (s.sinks f).nonPollableStandin ≠ .none →
    (s.epoll f).getD .empty = .empty
  agrees : s.Agrees

omit [DecidableEq S] in
/-- The count need only be that of the notes. -/
theorem agrees_of_noted (hnoted : ∀ f ∈ s.attached, (s.sinks f).epollEvents = s.registered f)
    (hcount : s.activeCount = s.countNoted) : s.Agrees :=
  ⟨hcount.trans (congrArg Nat.cast (count_noted_eq hnoted)), hnoted⟩

omit [DecidableEq S] in
/-- The count is that of the notes. -/
theorem Agrees.count_noted (h : s.Agrees) : s.activeCount = s.countNoted :=
  h.count.trans (congrArg Nat.cast (count_noted_eq h.noted).symm)

omit [DecidableEq S] in
/-- A change of the attached sinks keeps what it leaves alone. -/
theorem Sound.transfer (h : s.Sound) (hattached : s'.attached = s.attached)
    (hstandin : ∀ g, (s'.sinks g).nonPollableStandin = (s.sinks g).nonPollableStandin)
    (hepoll : ∀ g, g ∉ s.attached ∨ (s.sinks g).nonPollableStandin ≠ .none →
      (s'.epoll g).getD .empty = (s.epoll g).getD .empty) (hagrees : s'.Agrees) : s'.Sound where
  nodup := hattached ▸ h.nodup
  standins f hf e he := by
    rw [hattached] at hf ⊢
    rw [hstandin] at he ⊢
    exact h.standins f hf e he
  unique f hf g hg e hfe hge := by
    rw [hattached] at hf hg
    rw [hstandin] at hfe hge
    exact h.unique f hf g hg e hfe hge
  detached f hf := by
    rw [hattached] at hf
    rw [hstandin]
    exact h.detached f hf
  silent f hf := by
    rw [hattached, hstandin] at hf
    rw [hepoll f hf]
    exact h.silent f hf
  agrees := hagrees

/-! ## Changes of one sink -/

section

variable (s f g epollEvents) (sink : EpollSink S)

@[simp] theorem set_sink_self : (s.setSink f sink).sinks f = sink := Function.update_self ..

@[simp] theorem set_sink_epoll : (s.setSink f sink).epoll = s.epoll := rfl

@[simp] theorem note_attached : (s.note f epollEvents).attached = s.attached := rfl

@[simp] theorem note_epoll : (s.note f epollEvents).epoll = s.epoll := rfl

@[simp] theorem note_self : ((s.note f epollEvents).sinks f).epollEvents = epollEvents := by
  simp [note]

@[simp] theorem register_sinks : (s.register f r).sinks = s.sinks := rfl

@[simp] theorem register_self : (s.register f r).epoll f = r := Function.update_self ..

@[simp] theorem note_standin :
    ((s.note f epollEvents).sinks g).nonPollableStandin = (s.sinks g).nonPollableStandin := by
  by_cases hg : g = f
  · subst hg
    simp [note]
  · simp [note, setSink, hg]

end

@[simp] theorem ask_epoll_events (events : Events) :
    ((s.ask f events).sinks g).epollEvents = (s.sinks g).epollEvents := by
  by_cases hg : g = f
  · subst hg
    simp [ask]
  · simp [ask, setSink, hg]

@[simp] theorem ask_standin (events : Events) :
    ((s.ask f events).sinks g).nonPollableStandin = (s.sinks g).nonPollableStandin := by
  by_cases hg : g = f
  · subst hg
    simp [ask]
  · simp [ask, setSink, hg]

@[simp] theorem ask_self (events : Events) : ((s.ask f events).sinks f).events = events := by
  simp [ask]

@[simp] theorem ask_attached (events : Events) : (s.ask f events).attached = s.attached := rfl

@[simp] theorem ask_epoll (events : Events) : (s.ask f events).epoll = s.epoll := rfl

/-- What is asked for changes nothing that is registered. -/
@[simp] theorem registered_ask (events : Events) :
    (s.ask f events).registered g = s.registered g := by
  unfold registered
  rw [ask_standin, ask_epoll]

@[simp] theorem count_noted_ask (events : Events) :
    (s.ask f events).countNoted = s.countNoted := by
  simp [countNoted]

/-- A note is about one sink. -/
theorem note_of_ne (h : g ≠ f) (epollEvents : Events) :
    (s.note f epollEvents).sinks g = s.sinks g :=
  Function.update_of_ne h ..

/-- Another sink is left alone. -/
theorem set_sink_of_ne (h : g ≠ f) (sink : EpollSink S) : (s.setSink f sink).sinks g = s.sinks g :=
  Function.update_of_ne h ..

/-- A registration is that of one sink. -/
theorem register_of_ne (h : g ≠ f) : (s.register f r).epoll g = s.epoll g :=
  Function.update_of_ne h ..

/-- A note changes nothing that is registered. -/
@[simp] theorem registered_note (epollEvents : Events) :
    (s.note f epollEvents).registered g = s.registered g := by
  unfold registered
  rw [note_standin, note_epoll]

/-- A registration only matters for the sink and for the one that it stands in for. -/
theorem registered_of_ne (hne : g ≠ f) (hstandin : (s.sinks g).nonPollableStandin ≠ .sink f) :
    (s.register f r).registered g = s.registered g := by
  unfold registered
  rw [register_sinks]
  cases hg : (s.sinks g).nonPollableStandin with
  | none => simp only [register_of_ne hne]
  | errorFes => rfl
  | sink e =>
      have hef : e ≠ f := by
        rintro rfl
        exact hstandin hg
      simp only [register_of_ne hef]

/-- What is registered for a sink without stand-in. -/
theorem registered_self (hnone : (s.sinks f).nonPollableStandin = .none) :
    (s.register f r).registered f = r.getD .empty := by
  simp [registered, hnone]

/-- Noting what one sink waits for changes the count by that sink. -/
theorem count_note (hnodup : s.attached.Nodup) (hf : f ∈ s.attached) (epollEvents : Events) :
    (s.note f epollEvents).countNoted + (s.sinks f).epollEvents.active.toNat =
      s.countNoted + epollEvents.active.toNat := by
  have hchange := count_change (p := fun g => (s.sinks g).epollEvents.active)
    (q := fun g => ((s.note f epollEvents).sinks g).epollEvents.active) hnodup hf
    fun g _ hne => by rw [note_of_ne hne]
  rw [note_self] at hchange
  exact hchange

/-- Noting what is noted already changes nothing. -/
theorem note_eq_self (h : epollEvents = (s.sinks f).epollEvents) : s.note f epollEvents = s := by
  subst h
  exact congrArg (fun sinks => { s with sinks }) (Function.update_eq_self f s.sinks)

/-- The new events of a sink are noted, registered and counted. -/
def settle (s : EpollBag S) (f : S) (newState : Events) (r : Option Events) : EpollBag S :=
  { (s.note f newState).register f r with
    activeCount :=
      s.activeCount + newState.active.toNat - (s.sinks f).epollEvents.active.toNat }

/-- Once they are settled, the events of a sink are counted right if they were so before. -/
theorem settle_count (hnodup : s.attached.Nodup) (hf : f ∈ s.attached) (newState : Events)
    (r : Option Events) :
    (s.settle f newState r).activeCount - (s.settle f newState r).countNoted =
      s.activeCount - s.countNoted := by
  have hchange := count_note hnodup hf newState
  have hresult : (s.settle f newState r).countNoted = (s.note f newState).countNoted := rfl
  rw [hresult, settle]
  dsimp only
  omega

/-- The events of a sink that was settled are those registered for it. -/
theorem settle_noted (hnone : (s.sinks f).nonPollableStandin = .none)
    (hr : r.getD .empty = newState) :
    ((s.settle f newState r).sinks f).epollEvents = (s.settle f newState r).registered f :=
  (note_self ..).trans (hr.symm.trans (registered_self ((note_standin ..).trans hnone)).symm)

/-- What is registered for a sink is what was settled for its stand-in. -/
theorem settle_standin (he : (s.sinks f).nonPollableStandin = .sink e) :
    (s.settle e newState r).registered f = r.getD .empty := by
  have hkept : ((s.settle e newState r).sinks f).nonPollableStandin = .sink e :=
    (note_standin ..).trans he
  unfold registered
  rw [hkept]
  exact congrArg (Option.getD · Events.empty) (register_self ..)

/-- What was noted and registered for another sink is left alone. -/
theorem settle_of_ne (hne : g ≠ f) (hstandin : (s.sinks g).nonPollableStandin ≠ .sink f)
    (newState : Events) (r : Option Events) :
    ((s.settle f newState r).sinks g).epollEvents = (s.sinks g).epollEvents ∧
      (s.settle f newState r).registered g = s.registered g := by
  refine ⟨congrArg EpollSink.epollEvents (note_of_ne hne _), ?_⟩
  refine (registered_of_ne (s := s.note f newState) hne ?_).trans (registered_note _)
  rwa [note_standin]

/-! ## Updates -/

/-- The call of `epoll_ctl` for a sink succeeds: it is granted and, if it adds the descriptor,
nothing has been left behind. -/
def Grants (s : EpollBag S) (f : S) (ctl : Bool) : Prop :=
  ctl = true ∧ ((s.sinks f).epollEvents = .empty → s.epoll f = none)

/-- What the call of `epoll_ctl` for new events does. -/
theorem epoll_ctl_spec (hepoll : (s.epoll f).getD .empty = oldState) (newState : Events)
    (ctl : Bool) :
    (∃ r, r.getD .empty = newState ∧
        s.epollCtl (ctlOp oldState newState) f newState ctl = some (s.register f r)) ∧
      ctl = true ∧ (oldState = .empty → s.epoll f = none) ∨
    s.epollCtl (ctlOp oldState newState) f newState ctl = none ∧
      ¬(ctl = true ∧ (oldState = .empty → s.epoll f = none)) := by
  unfold ctlOp epollCtl
  by_cases hold : oldState = .empty
  · rw [if_pos hold]
    by_cases hok : ctl = true ∧ s.epoll f = none
    · exact .inl ⟨⟨some newState, rfl, if_pos hok⟩, hok.1, fun _ => hok.2⟩
    · exact .inr ⟨if_neg hok, fun h => hok ⟨h.1, h.2 hold⟩⟩
  -- the descriptor is registered, for the old events
  have hsome : s.epoll f ≠ none := by
    intro hnone
    rw [hnone] at hepoll
    exact hold hepoll.symm
  rw [if_neg hold]
  by_cases hnew : newState = .empty
  · rw [if_pos hnew]
    by_cases hctl : ctl = true
    · exact .inl ⟨⟨none, hnew.symm, if_pos ⟨hctl, hsome⟩⟩, hctl, fun h => absurd h hold⟩
    · exact .inr ⟨if_neg fun h => hctl h.1, fun h => hctl h.1⟩
  · rw [if_neg hnew]
    by_cases hctl : ctl = true
    · exact .inl ⟨⟨some newState, rfl, if_pos ⟨hctl, hsome⟩⟩, hctl, fun h => absurd h hold⟩
    · exact .inr ⟨if_neg fun h => hctl h.1, fun h => hctl h.1⟩

omit [DecidableEq S] in
/-- The transitions change the count by what becomes active or inactive. -/
theorem count_transition_eq (s : EpollBag S) (oldState newState : Events) :
    s.countTransition oldState newState =
      { s with activeCount := s.activeCount + newState.active.toNat - oldState.active.toNat } := by
  unfold countTransition
  cases oldState.active <;> cases newState.active <;> simp

/-- What `update_epoll` does with a sink without stand-in. -/
inductive UpdatesOwn (s : EpollBag S) (f : S) (ctl : Bool) : Bool × EpollBag S → Prop where
  | same (h : (s.sinks f).events = (s.sinks f).epollEvents) : UpdatesOwn s f ctl (true, s)
  | done (hne : (s.sinks f).events ≠ (s.sinks f).epollEvents) (hgrants : s.Grants f ctl)
      {r : Option Events} (hr : r.getD .empty = (s.sinks f).events) :
      UpdatesOwn s f ctl (true, s.settle f (s.sinks f).events r)
  | failed (hne : (s.sinks f).events ≠ (s.sinks f).epollEvents) (hgrants : ¬s.Grants f ctl) :
      UpdatesOwn s f ctl (false, s.note f (s.sinks f).events)

/-- An update of a sink without stand-in that has noted what is registered ends in one of three
ways. -/
theorem update_own_updates (hepoll : (s.epoll f).getD .empty = (s.sinks f).epollEvents)
    (ctl : Bool) : UpdatesOwn s f ctl (s.updateOwn f ctl) := by
  unfold updateOwn
  by_cases hsame : (s.sinks f).events = (s.sinks f).epollEvents
  · simp only [hsame, if_true, note_eq_self]
    exact .same hsame
  simp only [hsame, if_false]
  obtain ⟨⟨r, hr, hctl⟩, hok⟩ | ⟨hctl, hnot⟩ :=
    epoll_ctl_spec (s := s.note f (s.sinks f).events) hepoll (s.sinks f).events ctl
  · simp only [hctl, count_transition_eq]
    exact .done hsame hok hr
  · simp only [hctl]
    exact .failed hsame hnot

/-- The condition on an update: the call of `epoll_ctl` succeeds where there is one, and a stand-in
is not asked for exceptions, which it does not report. -/
def UpdateAllowed (s : EpollBag S) (f : S) (ctl : Bool) : Prop :=
  (s.sinks f).events ≠ (s.sinks f).epollEvents →
    match (s.sinks f).nonPollableStandin with
    | .none => s.Grants f ctl
    | .errorFes => False
    | .sink e => (s.sinks f).events.except = false ∧ s.Grants e ctl

omit [DecidableEq S] in
/-- One sink whose note is wrong is enough for disagreement. -/
theorem not_agrees (hf : f ∈ s.attached) (h : (s.sinks f).epollEvents ≠ s.registered f) :
    ¬s.Agrees := fun hagrees => h (hagrees.noted f hf)

/-- A sink that is no stand-in stands in for no attached one. -/
theorem is_standin_eq_false : s.isStandin f = false ↔
    ∀ g ∈ s.attached, (s.sinks g).nonPollableStandin ≠ .sink f := by
  unfold isStandin
  rw [List.any_eq_false]
  refine forall₂_congr fun g _ => ?_
  cases (s.sinks g).nonPollableStandin <;> simp

/-- A sink without stand-in that is none itself: the update is carried out or it fails. -/
theorem update_own_cases (h : s.Sound) (hf : f ∈ s.attached)
    (hnone : (s.sinks f).nonPollableStandin = .none) (hclient : s.isStandin f = false) :
    (s.updateOwn f ctl).2.Sound ∧
        ((s.sinks f).events ≠ (s.sinks f).epollEvents → s.Grants f ctl) ∨
      ¬(s.updateOwn f ctl).2.Agrees ∧
        ¬((s.sinks f).events ≠ (s.sinks f).epollEvents → s.Grants f ctl) := by
  have hregistered : s.registered f = (s.epoll f).getD .empty := by rw [registered, hnone]
  have hnoted := h.agrees.noted f hf
  have hupdates := update_own_updates (hregistered.symm.trans hnoted.symm) ctl
  generalize s.updateOwn f ctl = result at hupdates ⊢
  cases hupdates with
  | same hsame => exact .inl ⟨h, fun hne => absurd hsame hne⟩
  | failed hne hgrants =>
      refine .inr ⟨not_agrees (f := f) hf ?_, fun hallowed => hgrants (hallowed hne)⟩
      rw [note_self, registered_note, ← hnoted]
      exact hne
  | @done hne hgrants r hr =>
      have hstandin := is_standin_eq_false.1 hclient
      refine .inl ⟨h.transfer rfl (fun g => note_standin ..) (fun g hg => ?_) ?_, fun _ => hgrants⟩
      · refine congrArg (Option.getD · Events.empty) (register_of_ne ?_)
        rintro rfl
        exact hg.elim (absurd hf) (absurd hnone)
      refine agrees_of_noted (fun g hg => ?_) ?_
      · by_cases hgf : g = f
        · subst hgf
          exact settle_noted hnone hr
        · obtain ⟨hevents, hregistered'⟩ := settle_of_ne hgf (hstandin g hg) (s.sinks f).events r
          rw [hevents, hregistered']
          exact h.agrees.noted g hg
      · have hsettled := settle_count h.nodup hf (s.sinks f).events r
        have hcount := h.agrees.count_noted
        dsimp only
        omega

/-- The new events of a sink have been noted and passed on to its stand-in, which is not updated
yet. -/
structure PassedOn (s : EpollBag S) (f e : S) (t : EpollBag S) : Prop where
  attached : t.attached = s.attached
  epoll : t.epoll = s.epoll
  activeCount : t.activeCount = s.activeCount
  standin : ∀ g, (t.sinks g).nonPollableStandin = (s.sinks g).nonPollableStandin
  registered : ∀ g, t.registered g = s.registered g
  noted : (t.sinks f).epollEvents = (s.sinks f).events
  noted_of_ne : ∀ g, g ≠ f → (t.sinks g).epollEvents = (s.sinks g).epollEvents
  events : (t.sinks e).events = (s.sinks f).events.rw
  countNoted : t.countNoted = (s.note f (s.sinks f).events).countNoted

/-- The events are noted, and passed on as far as a stand-in can report them. -/
theorem passed_on (s : EpollBag S) (f e : S) :
    s.PassedOn f e ((s.note f (s.sinks f).events).ask e (s.sinks f).events.rw) where
  attached := rfl
  epoll := rfl
  activeCount := rfl
  standin g := by rw [ask_standin, note_standin]
  registered g := by rw [registered_ask, registered_note]
  noted := by rw [ask_epoll_events, note_self]
  noted_of_ne g hgf := by rw [ask_epoll_events, note_of_ne hgf]
  events := by rw [ask_self]
  countNoted := by rw [count_noted_ask]

section PassedOn

variable {t : EpollBag S}

/-- A sink keeps its note while its stand-in is settled. -/
theorem PassedOn.settle_events (ht : s.PassedOn f e t) (hef : e ≠ f) :
    ((t.settle e newState r).sinks f).epollEvents = (s.sinks f).events :=
  (congrArg EpollSink.epollEvents (note_of_ne hef.symm _)).trans ht.noted

/-- What is registered for a sink once its stand-in is settled. -/
theorem PassedOn.settle_registered (ht : s.PassedOn f e t)
    (he : (s.sinks f).nonPollableStandin = .sink e) :
    (t.settle e newState r).registered f = r.getD .empty :=
  settle_standin ((ht.standin f).trans he)

/-- The notes agree with the registrations once the stand-in is settled. -/
theorem PassedOn.settle_agrees (ht : s.PassedOn f e t) (h : s.Sound) (hf : f ∈ s.attached)
    (he : (s.sinks f).nonPollableStandin = .sink e)
    (hexcept : (s.sinks f).events.except = false) (hr : r.getD .empty = (s.sinks f).events.rw) :
    ∀ g ∈ s.attached, ((t.settle e (s.sinks f).events.rw r).sinks g).epollEvents =
      (t.settle e (s.sinks f).events.rw r).registered g := by
  intro g hg
  obtain ⟨-, hnone⟩ := h.standins f hf e he
  by_cases hgf : g = f
  · subst hgf
    have hef : e ≠ g := by
      rintro rfl
      rw [hnone] at he
      cases he
    rw [ht.settle_events hef, ht.settle_registered he, hr, Events.rw_of_not_except hexcept]
  by_cases hge : g = e
  · subst hge
    exact settle_noted ((ht.standin g).trans hnone) hr
  have hother : (t.sinks g).nonPollableStandin ≠ .sink e := by
    rw [ht.standin]
    exact fun hg' => hgf (h.unique g hg f hf e hg' he)
  obtain ⟨hevents, hregistered⟩ := settle_of_ne hge hother (s.sinks f).events.rw r
  rw [hevents, hregistered, ht.noted_of_ne g hgf, ht.registered]
  exact h.agrees.noted g hg

/-- The count is right once the stand-in is settled and the sink itself is counted. -/
theorem PassedOn.settle_count (ht : s.PassedOn f e t) (h : s.Sound) (hf : f ∈ s.attached)
    (hmem : e ∈ s.attached) :
    (t.settle e (s.sinks f).events.rw r).activeCount + (s.sinks f).events.active.toNat -
        (s.sinks f).epollEvents.active.toNat =
      (t.settle e (s.sinks f).events.rw r).countNoted := by
  have hsettled := EpollBag.settle_count (ht.attached ▸ h.nodup) (ht.attached ▸ hmem)
    (s.sinks f).events.rw (r := r)
  have hcount := h.agrees.count_noted
  have hchange := count_note h.nodup hf (s.sinks f).events
  have hcounted := ht.countNoted
  have hactive := ht.activeCount
  omega

end PassedOn

/-- A sink with a stand-in: the update is carried out or it fails. -/
theorem update_standin_cases [SinkMethods S] (h : s.Sound) (hf : f ∈ s.attached)
    (he : (s.sinks f).nonPollableStandin = .sink e) :
    (s.updateEpoll f ctl).2.Sound ∧ s.UpdateAllowed f ctl ∨
      ¬(s.updateEpoll f ctl).2.Agrees ∧ ¬s.UpdateAllowed f ctl := by
  obtain ⟨hmem, hnone⟩ := h.standins f hf e he
  have hef : e ≠ f := by
    rintro rfl
    rw [hnone] at he
    cases he
  have hregistered : s.registered f = (s.epoll e).getD .empty := by rw [registered, he]
  have hown : s.registered e = (s.epoll e).getD .empty := by rw [registered, hnone]
  have hnoted := h.agrees.noted f hf
  have hnoted' := h.agrees.noted e hmem
  unfold updateEpoll UpdateAllowed
  rw [he]
  by_cases hsame : (s.sinks f).events = (s.sinks f).epollEvents
  · simp only [hsame, if_true, note_eq_self]
    exact .inl ⟨h, fun hne => absurd rfl hne⟩
  simp only [hsame, if_false]
  -- the stand-in is updated after the new events of the sink have been noted
  have hattached : e ∈ (s.note f (s.sinks f).events).attached := hmem
  simp only [SinkMethods.set_events_attached hattached]
  have ht := passed_on s f e
  generalize (s.note f (s.sinks f).events).ask e (s.sinks f).events.rw = t at ht ⊢
  have hte := ht.noted_of_ne e hef
  have hgrants : t.Grants e ctl ↔ s.Grants e ctl := by
    unfold Grants
    rw [hte, ht.epoll]
  have hupdates := update_own_updates (s := t) (f := e)
    (by rw [ht.epoll, hte, hnoted', hown]) ctl
  generalize t.updateOwn e ctl = result at hupdates ⊢
  cases hupdates with
  | same hkept =>
      -- only exceptions are new, which the stand-in does not wait for
      rw [ht.events, hte, hnoted', hown, ← hregistered, ← hnoted] at hkept
      refine .inr ⟨?_, fun hallowed => hsame ?_⟩
      · dsimp only
        rw [count_transition_eq]
        refine not_agrees (f := f) (ht.attached ▸ hf) ?_
        refine ne_of_eq_of_ne ht.noted fun heq => hsame ?_
        exact heq.trans ((ht.registered f).trans hnoted.symm)
      · rw [← hkept, Events.rw_of_not_except (hallowed hsame).1]
  | failed hne hnot =>
      refine .inr ⟨?_, fun hallowed => hnot (hgrants.2 (hallowed hsame).2)⟩
      refine not_agrees (f := f) (ht.attached ▸ hf) ?_
      rw [note_of_ne hef.symm, registered_note, ht.noted, ht.registered, ← hnoted]
      exact hsame
  | @done hne hgranted r hr =>
      rw [ht.events] at hr ⊢
      dsimp only
      rw [count_transition_eq]
      by_cases hexcept : (s.sinks f).events.except = false
      swap
      · refine .inr ⟨not_agrees (f := f) (ht.attached ▸ hf) ?_, fun hallowed => ?_⟩
        · refine ne_of_eq_of_ne (ht.settle_events (r := r) hef) fun heq => hexcept ?_
          rw [heq]
          exact congrArg Events.except ((ht.settle_registered he).trans hr)
        · exact hexcept (hallowed hsame).1
      refine .inl ⟨h.transfer ht.attached (fun g => ?_) (fun g hg => ?_) ?_,
        fun _ => ⟨hexcept, hgrants.1 hgranted⟩⟩
      · exact (note_standin ..).trans (ht.standin g)
      · refine congrArg (Option.getD · Events.empty) ?_
        refine (register_of_ne ?_).trans (congrFun ht.epoll g)
        rintro rfl
        exact hg.elim (absurd hmem) (absurd hnone)
      · refine agrees_of_noted (fun g hg => ?_) (ht.settle_count h hf hmem)
        exact ht.settle_agrees h hf he hexcept hr g (ht.attached ▸ hg)

/-- An update is carried out or it fails. -/
theorem update_cases [SinkMethods S] (h : s.Sound) (hf : f ∈ s.attached)
    (hclient : s.isStandin f = false) :
    (s.updateEpoll f ctl).2.Sound ∧ s.UpdateAllowed f ctl ∨
      ¬(s.updateEpoll f ctl).2.Agrees ∧ ¬s.UpdateAllowed f ctl := by
  cases hstandin : (s.sinks f).nonPollableStandin with
  | none =>
      unfold updateEpoll UpdateAllowed
      simp only [hstandin]
      exact update_own_cases h hf hstandin hclient
  | errorFes =>
      have hnoted : (s.sinks f).epollEvents = .empty :=
        (h.agrees.noted f hf).trans (by rw [registered, hstandin])
      unfold updateEpoll UpdateAllowed
      simp only [hstandin, hnoted]
      by_cases hsame : (s.sinks f).events = .empty
      · rw [if_pos hsame, note_eq_self (hsame.trans hnoted.symm)]
        exact .inl ⟨h, absurd hsame⟩
      · rw [if_neg hsame]
        refine .inr ⟨?_, fun hallowed => hallowed hsame⟩
        have hregistered : (s.note f (s.sinks f).events).registered f = .empty := by
          rw [registered_note, registered, hstandin]
        have hchanged := (note_self s f (s.sinks f).events).trans_ne
          (hregistered.symm ▸ hsame)
        split
        · rw [count_transition_eq]
          exact not_agrees (f := f) hf hchanged
        · exact not_agrees (f := f) hf hchanged
  | sink e => exact update_standin_cases h hf hstandin

/-! ## Removals -/

/-- Dropping a sink that is no stand-in keeps the rest, if nothing is left registered for it. -/
theorem Sound.drop (h : s.Sound) (hf : f ∈ s.attached)
    (hclient : ∀ g ∈ s.attached, g ≠ f → (s.sinks g).nonPollableStandin ≠ .sink f)
    (hattached : s'.attached = s.attached.erase f)
    (hsinks : ∀ g, g ≠ f → s'.sinks g = s.sinks g) (hepoll : ∀ g, g ≠ f → s'.epoll g = s.epoll g)
    (hstandin : (s'.sinks f).nonPollableStandin = .none)
    (hnone : (s'.epoll f).getD .empty = .empty)
    (hcount : s'.activeCount = s.activeCount - (s.sinks f).epollEvents.active.toNat) :
    s'.Sound := by
  -- only the sink itself leaves, and no stand-in of another one
  have hmem (g : S) : g ∈ s'.attached ↔ g ≠ f ∧ g ∈ s.attached := by
    rw [hattached, h.nodup.mem_erase_iff]
  refine ⟨hattached ▸ h.nodup.erase f, ?_, ?_, ?_, ?_, agrees_of_noted ?_ ?_⟩
  · intro g hg e he
    obtain ⟨hgf, hg⟩ := (hmem g).1 hg
    rw [hsinks g hgf] at he
    obtain ⟨he', hnone'⟩ := h.standins g hg e he
    have hef : e ≠ f := by
      rintro rfl
      exact hclient g hg hgf he
    exact ⟨(hmem e).2 ⟨hef, he'⟩, by rw [hsinks e hef, hnone']⟩
  · intro g hg g' hg' e he he'
    obtain ⟨hgf, hg⟩ := (hmem g).1 hg
    obtain ⟨hgf', hg'⟩ := (hmem g').1 hg'
    rw [hsinks g hgf] at he
    rw [hsinks g' hgf'] at he'
    exact h.unique g hg g' hg' e he he'
  · intro g hg
    by_cases hgf : g = f
    · exact hgf ▸ hstandin
    · rw [hsinks g hgf]
      exact h.detached g fun hg' => hg ((hmem g).2 ⟨hgf, hg'⟩)
  · intro g hg
    by_cases hgf : g = f
    · exact hgf ▸ hnone
    · rw [hsinks g hgf] at hg
      rw [hepoll g hgf]
      exact h.silent g (hg.imp_left fun hg hg' => hg ((hmem g).2 ⟨hgf, hg'⟩))
  · intro g hg
    obtain ⟨hgf, hg⟩ := (hmem g).1 hg
    rw [hsinks g hgf, h.agrees.noted g hg]
    unfold registered
    rw [hsinks g hgf]
    cases he : (s.sinks g).nonPollableStandin with
    | none => simp only [hepoll g hgf]
    | errorFes => rfl
    | sink e =>
        have hef : e ≠ f := by
          rintro rfl
          exact hclient g hg hgf he
        simp only [hepoll e hef]
  · have hcounted : s'.countNoted =
        (s.attached.erase f).countP fun g => (s.sinks g).epollEvents.active := by
      unfold countNoted
      rw [hattached]
      refine List.countP_congr fun g hg => ?_
      rw [hsinks g ((h.nodup.mem_erase_iff).1 hg).1]
    -- one less is counted if the sink was noted as waiting
    have herased := count_erase (p := fun g => (s.sinks g).epollEvents.active) hf
    have hbefore := h.agrees.count_noted
    rw [hcount, hcounted, hbefore]
    unfold countNoted
    omega

omit [DecidableEq S] in
/-- The count loses a sink that waits for reading or writing. -/
theorem uncount_eq (s : EpollBag S) (f : S) :
    s.uncount f =
      { s with activeCount := s.activeCount - (s.sinks f).epollEvents.active.toNat } := by
  unfold uncount
  cases (s.sinks f).epollEvents.active <;> simp

/-- The condition on a removal: a sink that is counted can be deleted, and so can a stand-in that
has something registered. -/
def RemoveAllowed (s : EpollBag S) (f : S) (ctl : Bool) : Prop :=
  match (s.sinks f).nonPollableStandin with
  | .none => (s.sinks f).epollEvents.active = true → ctl = true
  | .errorFes => True
  | .sink _ => (s.sinks f).epollEvents ≠ .empty → ctl = true

/-- What `remove_fes` does with a sink without stand-in that has noted what is registered. -/
inductive RemovesOwn (s : EpollBag S) (f : S) (ctl : Bool) : EpollBag S → Prop where
  | done {s' : EpollBag S} (hctl : (s.sinks f).epollEvents ≠ .empty → ctl = true)
      (hattached : s'.attached = s.attached.erase f) (hsinks : s'.sinks = s.sinks)
      (hepoll : ∀ g, g ≠ f → s'.epoll g = s.epoll g) (hnone : (s'.epoll f).getD .empty = .empty)
      (hcount : s'.activeCount = s.activeCount - (s.sinks f).epollEvents.active.toNat) :
      RemovesOwn s f ctl s'
  | failed (hne : (s.sinks f).epollEvents ≠ .empty) (hctl : ctl = false) :
      RemovesOwn s f ctl (s.uncount f)

/-- A removal of a sink without stand-in ends in one of two ways. -/
theorem remove_own_removes (hepoll : (s.epoll f).getD .empty = (s.sinks f).epollEvents)
    (ctl : Bool) : RemovesOwn s f ctl (s.removeOwn f ctl).2 := by
  unfold removeOwn
  have hsinks : (s.uncount f).sinks = s.sinks := by rw [uncount_eq]
  by_cases hempty : (s.sinks f).epollEvents = .empty
  · simp only [hempty, if_true, uncount_eq]
    exact .done (absurd hempty) rfl rfl (fun _ _ => rfl) (hepoll.trans hempty)
      (by simp [hempty, dropFes])
  have hsome : s.epoll f ≠ none := by
    intro hnone
    rw [hnone] at hepoll
    exact hempty hepoll.symm
  simp only [hsinks, hempty, if_false, epollCtl]
  have hsome' : (s.uncount f).epoll f ≠ none := by rwa [uncount_eq]
  cases ctl with
  | true =>
      rw [if_pos ⟨rfl, hsome'⟩, uncount_eq]
      exact .done (fun _ => rfl) rfl rfl (fun g hg => Function.update_of_ne hg ..)
        (by simp [dropFes]) rfl
  | false =>
      rw [if_neg fun h => Bool.false_ne_true h.1]
      exact .failed hempty rfl

/-- A sink without stand-in that is none itself: the removal is carried out or it fails. -/
theorem remove_own_cases (h : s.Sound) (hf : f ∈ s.attached)
    (hnone : (s.sinks f).nonPollableStandin = .none) (hclient : s.isStandin f = false) :
    (s.removeOwn f ctl).2.Sound ∧ ((s.sinks f).epollEvents.active = true → ctl = true) ∨
      ¬(s.removeOwn f ctl).2.Agrees ∧
        ¬((s.sinks f).epollEvents.active = true → ctl = true) := by
  have hregistered : s.registered f = (s.epoll f).getD .empty := by rw [registered, hnone]
  have hremoves := remove_own_removes (hregistered.symm.trans (h.agrees.noted f hf).symm) ctl
  generalize (s.removeOwn f ctl).2 = s' at hremoves
  cases hremoves with
  | done hctl hattached hsinks hepoll hgone hcount =>
      refine .inl ⟨?_, fun hactive => hctl fun hempty => ?_⟩
      · refine h.drop hf (fun g hg _ => is_standin_eq_false.1 hclient g hg) hattached
          (fun g _ => congrFun hsinks g) hepoll ?_ hgone hcount
        rw [hsinks, hnone]
      · rw [hempty] at hactive
        cases hactive
  | failed hne hctl =>
      subst hctl
      rw [uncount_eq]
      -- only a sink that is counted leaves a trace
      cases hactive : (s.sinks f).epollEvents.active with
      | false =>
          refine .inl ⟨?_, nofun⟩
          simpa using h
      | true =>
          refine .inr ⟨fun hagrees => ?_, fun hctl => Bool.false_ne_true (hctl rfl)⟩
          have hbefore := h.agrees.count_noted
          have hafter := hagrees.count_noted
          unfold countNoted at hbefore hafter
          dsimp only at hafter
          rw [Bool.toNat_true] at hafter
          omega

/-- Dropping a sink and its stand-in keeps the rest. -/
theorem Sound.drop_both (h : s.Sound) (hf : f ∈ s.attached) (hclient : s.isStandin f = false)
    (he : (s.sinks f).nonPollableStandin = .sink e)
    (hattached : s'.attached = (s.attached.erase f).erase e)
    (hsinks : ∀ g, g ≠ e → s'.sinks g =
      Function.update s.sinks f { s.sinks f with nonPollableStandin := .none } g)
    (hepoll : ∀ g, g ≠ e → s'.epoll g = s.epoll g)
    (hstandin : (s'.sinks e).nonPollableStandin = .none)
    (hgone : (s'.epoll e).getD .empty = .empty)
    (hcount : s'.activeCount = s.activeCount - (s.sinks f).epollEvents.active.toNat -
      (s.sinks e).epollEvents.active.toNat) : s'.Sound := by
  obtain ⟨hmem, hnone⟩ := h.standins f hf e he
  have hef : e ≠ f := by
    rintro rfl
    rw [hnone] at he
    cases he
  -- the sink is dropped, and then its stand-in
  have hfirst : Sound { s with
      attached := s.attached.erase f
      sinks := Function.update s.sinks f { s.sinks f with nonPollableStandin := .none }
      activeCount := s.activeCount - (s.sinks f).epollEvents.active.toNat } := by
    refine h.drop hf (fun g hg _ => is_standin_eq_false.1 hclient g hg) rfl
      (fun g hgf => Function.update_of_ne hgf ..) (fun _ _ => rfl) ?_ ?_ rfl
    · simp only [Function.update_self]
    · exact h.silent f (.inr (by simp [he]))
  refine hfirst.drop (f := e) ((List.mem_erase_of_ne hef).2 hmem) (fun g hg hge hg' => ?_) hattached
    hsinks hepoll hstandin hgone ?_
  · obtain ⟨hgf, hg⟩ := h.nodup.mem_erase_iff.1 hg
    simp only [Function.update_of_ne hgf] at hg'
    exact hgf (h.unique g hg f hf e hg' he)
  · simp only [Function.update_of_ne hef]
    exact hcount

/-- A sink with a stand-in: the removal is carried out or it fails. -/
theorem remove_standin_cases [SinkMethods S] (h : s.Sound) (hf : f ∈ s.attached)
    (hclient : s.isStandin f = false) (he : (s.sinks f).nonPollableStandin = .sink e) :
    (s.removeFes f ctl).2.Sound ∧ ((s.sinks f).epollEvents ≠ .empty → ctl = true) ∨
      ¬(s.removeFes f ctl).2.Agrees ∧ ¬((s.sinks f).epollEvents ≠ .empty → ctl = true) := by
  obtain ⟨hmem, hnone⟩ := h.standins f hf e he
  have hef : e ≠ f := by
    rintro rfl
    rw [hnone] at he
    cases he
  have hregistered : s.registered f = (s.epoll e).getD .empty := by rw [registered, he]
  have hown : s.registered e = (s.epoll e).getD .empty := by rw [registered, hnone]
  have hnoted := h.agrees.noted f hf
  have hnoted' := h.agrees.noted e hmem
  have hsame : (s.sinks e).epollEvents = (s.sinks f).epollEvents := by
    rw [hnoted', hown, hnoted, hregistered]
  have huncount : (s.uncount f).attached = s.attached := by rw [uncount_eq]
  have hremoves : RemovesOwn (s.uncount f) e ctl ((s.uncount f).removeOwn e ctl).2 := by
    refine remove_own_removes ?_ ctl
    rw [uncount_eq]
    exact hown.symm.trans hnoted'.symm
  have hattached : e ∈ (s.uncount f).attached := huncount ▸ hmem
  unfold removeFes
  simp only [hf, not_true_eq_false, if_false, he, SinkMethods.close_attached hattached]
  generalize ((s.uncount f).removeOwn e ctl).2 = t at hremoves
  cases hremoves with
  | failed hne hctl =>
      -- the stand-in stays attached, and its eventfd is gone
      have hkept : ((s.uncount f).sinks e).epollEvents = (s.sinks f).epollEvents := by
        rw [uncount_eq, ← hsame]
      refine .inr ⟨?_, fun hallowed => ?_⟩
      · refine not_agrees (f := e) ((List.mem_erase_of_ne hef).2 ?_) ?_
        · rw [uncount_eq, uncount_eq]
          exact hmem
        · rw [uncount_eq, uncount_eq]
          simp [registered, dropFes, setSink, register, hef, hnone]
          rw [hsame]
          exact hkept ▸ hne
      · rw [hkept] at hne
        exact Bool.false_ne_true (hctl ▸ hallowed hne)
  | done hctl hattached hsinks hepoll hgone hcount =>
      rw [uncount_eq] at hctl hattached hsinks hepoll hcount
      dsimp only at hctl hattached hsinks hepoll hcount
      refine .inl ⟨h.drop_both hf hclient he ?_ (fun g hge => ?_) (fun g hge => ?_) ?_ ?_ hcount,
        hsame ▸ hctl⟩
      · rw [List.erase_comm]
        exact congrArg (List.erase · f) hattached
      · by_cases hgf : g = f
        · rw [hgf, Function.update_self, ← congrFun hsinks f]
          exact set_sink_self ..
        · rw [Function.update_of_ne hgf, ← congrFun hsinks g]
          exact set_sink_of_ne hgf _
      · rw [← hepoll g hge]
        exact register_of_ne hge
      · refine (congrArg EpollSink.nonPollableStandin (set_sink_of_ne hef _)).trans ?_
        rw [register_sinks, hsinks, hnone]
      · exact congrArg (Option.getD · Events.empty) (register_self ..)

/-- A removal is carried out or it fails. -/
theorem remove_cases [SinkMethods S] (h : s.Sound) (hf : f ∈ s.attached)
    (hclient : s.isStandin f = false) :
    (s.removeFes f ctl).2.Sound ∧ s.RemoveAllowed f ctl ∨
      ¬(s.removeFes f ctl).2.Agrees ∧ ¬s.RemoveAllowed f ctl := by
  unfold RemoveAllowed
  cases hstandin : (s.sinks f).nonPollableStandin with
  | none =>
      unfold removeFes
      simp only [hf, not_true_eq_false, if_false, hstandin]
      exact remove_own_cases h hf hstandin hclient
  | errorFes =>
      unfold removeFes
      simp only [hf, not_true_eq_false, if_false, hstandin, uncount_eq]
      refine .inl ⟨?_, trivial⟩
      refine h.drop hf (fun g hg _ => is_standin_eq_false.1 hclient g hg) rfl
        (fun g hg => set_sink_of_ne hg _) (fun _ _ => rfl) ?_
        (h.silent f (.inr (by simp [hstandin]))) rfl
      simp [dropFes, setSink]
  | sink e => exact remove_standin_cases h hf hclient hstandin

/-! ## Attaching a sink -/

/-- A sink can be put into a slot. -/
def CanInsert (s : EpollBag S) (f : S) (isFree : Bool) : Prop :=
  isFree = true ∧ f ∉ s.attached ∧ s.attached.length < s.maxFds

/-- A sink with nothing registered is put into a slot. -/
theorem Sound.insert (h : s.Sound) (hnew : f ∉ s.attached) :
    ({ s with attached := s.attached ++ [f] }.note f .empty).Sound := by
  have hnone := h.detached f hnew
  have hold (g : S) (hg : g ∈ s.attached) : g ≠ f := ne_of_mem_of_not_mem hg hnew
  have hmem (g : S) : g ∈ s.attached ++ [f] ↔ g ∈ s.attached ∨ g = f := by simp
  have hstandin (g : S) : ((({ s with attached := s.attached ++ [f] } : EpollBag S).note f
      .empty).sinks g).nonPollableStandin = (s.sinks g).nonPollableStandin := note_standin ..
  have hregistered (g : S) : (({ s with attached := s.attached ++ [f] } : EpollBag S).note f
      .empty).registered g = s.registered g := registered_note _
  refine ⟨?_, fun g hg e he => ?_, fun g hg g' hg' e he he' => ?_, fun g hg => ?_, fun g hg => ?_,
    agrees_of_noted (fun g hg => ?_) ?_⟩
  · exact h.nodup.append (List.nodup_singleton f) (by simpa using hnew)
  · rw [hstandin] at he ⊢
    obtain hg | rfl := (hmem g).1 hg
    · obtain ⟨he', hnone'⟩ := h.standins g hg e he
      exact ⟨(hmem e).2 (.inl he'), hnone'⟩
    · rw [hnone] at he
      cases he
  · rw [hstandin] at he he'
    obtain hg | rfl := (hmem g).1 hg
    · obtain hg' | rfl := (hmem g').1 hg'
      · exact h.unique g hg g' hg' e he he'
      · rw [hnone] at he'
        cases he'
    · rw [hnone] at he
      cases he
  · rw [hstandin]
    exact h.detached g fun hg' => hg ((hmem g).2 (.inl hg'))
  · rw [hstandin] at hg
    exact h.silent g (hg.imp_left fun hg hg' => hg ((hmem g).2 (.inl hg')))
  · rw [hregistered]
    obtain hg | rfl := (hmem g).1 hg
    · rw [note_of_ne (hold g hg)]
      exact h.agrees.noted g hg
    · rw [note_self, registered, hnone]
      exact (h.silent g (.inl hnew)).symm
  · -- the new sink has no events noted, so it is not counted
    have hcounted : (({ s with attached := s.attached ++ [f] } : EpollBag S).note f
        .empty).countNoted = s.countNoted := by
      unfold countNoted
      rw [note_attached, List.countP_append, List.countP_singleton, note_self]
      refine (List.countP_congr fun g hg => ?_)
      rw [note_of_ne (hold g hg)]
    rw [hcounted]
    exact h.agrees.count_noted

/-- The sink has been put into a slot, with nothing noted. -/
structure Inserted (s : EpollBag S) (f : S) (m : EpollBag S) : Prop where
  sound : m.Sound
  mem : ∀ g, g ∈ m.attached ↔ g ∈ s.attached ∨ g = f
  length : m.attached.length = s.attached.length + 1
  maxFds : m.maxFds = s.maxFds
  self : m.sinks f = { s.sinks f with epollEvents := .empty }
  other : ∀ g, g ≠ f → m.sinks g = s.sinks g
  epoll : m.epoll = s.epoll

/-- A sink is put into a slot exactly if it can be. -/
theorem insert_cases (h : s.Sound) (f : S) (isFree : Bool) :
    (∃ m, s.CanInsert f isFree ∧ s.insertFes f isFree = some m ∧ Inserted s f m) ∨
      ¬s.CanInsert f isFree ∧ s.insertFes f isFree = none := by
  unfold insertFes CanInsert
  by_cases hfree : isFree = true
  swap
  · exact .inr ⟨fun h => hfree h.1, if_pos (by simpa using hfree)⟩
  by_cases hmem : f ∈ s.attached
  · exact .inr ⟨fun h => h.2.1 hmem, by simp [hfree, hmem]⟩
  by_cases hroom : s.attached.length < s.maxFds
  swap
  · exact .inr ⟨fun h => hroom h.2.2, by simp [hfree, hmem, Nat.le_of_not_lt hroom]⟩
  refine .inl ⟨_, ⟨hfree, hmem, hroom⟩, by simp [hfree, hmem, Nat.not_le.2 hroom],
    h.insert hmem, fun g => ?_, ?_, rfl, set_sink_self .., fun g hg => note_of_ne hg _, rfl⟩
  · simp
  · simp

/-- A sink that has just been put into a slot stands in for none. -/
theorem Inserted.client {m : EpollBag S} (hm : Inserted s f m) (h : s.Sound)
    (hnew : f ∉ s.attached) : m.isStandin f = false := by
  refine is_standin_eq_false.2 fun g hg hgf => ?_
  obtain hg | rfl := (hm.mem g).1 hg
  · rw [hm.other g (ne_of_mem_of_not_mem hg hnew)] at hgf
    exact hnew (h.standins g hg f hgf).1
  · rw [hm.self, h.detached g hnew] at hgf
    cases hgf

/-- The probe leaves no events, and nothing at all exactly if the descriptor could be deleted, or it
was not there and could not be added. -/
theorem probe_spec (hepoll : (s.epoll f).getD .empty = .empty) (p : Probe) :
    ∃ r, s.probe f p = s.register f r ∧ r.getD .empty = .empty ∧
      (r = none ↔ p.del = true ∨ p.add = false ∧ s.epoll f = none) := by
  have hregister (r : Option Events) : (s.register f r).register f none = s.register f none := by
    simp [register]
  have hkept : s.register f (s.epoll f) = s := by simp [register]
  unfold probe epollCtl
  cases hf : s.epoll f with
  | none =>
      cases hadd : p.add <;> cases hdel : p.del
      · exact ⟨none, by simp [← hf, hkept], rfl, by simp⟩
      · exact ⟨none, by simp [← hf, hkept], rfl, by simp⟩
      · exact ⟨some .empty, by simp, rfl, by simp⟩
      · exact ⟨none, by simp [hregister], rfl, by simp⟩
  | some events =>
      rw [hf] at hepoll
      obtain rfl : events = .empty := hepoll
      cases hdel : p.del
      · rw [hf] at hkept
        exact ⟨some .empty, by simp [hf, hkept], rfl, by simp⟩
      · exact ⟨none, by simp [hf], rfl, by simp⟩

/-- Registrations that come to the same change nothing. -/
theorem Sound.register (h : s.Sound) (hr : r.getD .empty = (s.epoll f).getD .empty) :
    (s.register f r).Sound := by
  have hepoll (g : S) : ((s.register f r).epoll g).getD .empty = (s.epoll g).getD .empty := by
    by_cases hgf : g = f
    · subst hgf
      rw [register_self, hr]
    · rw [register_of_ne hgf]
  have hregistered (g : S) : (s.register f r).registered g = s.registered g := by
    unfold registered
    rw [register_sinks]
    cases (s.sinks g).nonPollableStandin <;> simp only [hepoll]
  refine h.transfer rfl (fun _ => rfl) (fun g _ => hepoll g) (agrees_of_noted (fun g hg => ?_) ?_)
  · rw [hregistered]
    exact h.agrees.noted g hg
  · exact h.agrees.count_noted

/-- A new sink, which is not attached yet, changes nothing. -/
theorem Sound.new_sink (h : s.Sound) (he : e ∉ s.attached) :
    ((s.setSink e ⟨.empty, .empty, .none⟩).register e none).Sound := by
  have hstandin (g : S) : ((s.setSink e ⟨.empty, .empty, .none⟩).sinks g).nonPollableStandin =
      (s.sinks g).nonPollableStandin := by
    by_cases hge : g = e
    · rw [hge, set_sink_self, h.detached e he]
    · rw [set_sink_of_ne hge]
  have hsink : (s.setSink e ⟨.empty, .empty, .none⟩).Sound := by
    refine h.transfer rfl hstandin (fun _ _ => rfl) (agrees_of_noted (fun g hg => ?_) ?_)
    · have hge := ne_of_mem_of_not_mem hg he
      rw [set_sink_of_ne hge]
      refine (h.agrees.noted g hg).trans ?_
      unfold registered
      rw [hstandin, set_sink_epoll]
    · refine h.agrees.count_noted.trans (congrArg Nat.cast ?_)
      refine List.countP_congr fun g hg => ?_
      rw [set_sink_of_ne (ne_of_mem_of_not_mem hg he)]
  exact hsink.register (h.silent e (.inl he)).symm

/-- A sink that has noted nothing gets a stand-in that has nothing registered and stands in for no
other sink. -/
theorem Sound.set_standin (h : s.Sound) (standin : Standin S) (hf : f ∈ s.attached)
    (hnone : (s.sinks f).nonPollableStandin = .none) (hclient : s.isStandin f = false)
    (hnoted : (s.sinks f).epollEvents = .empty)
    (hstandin : ∀ e, standin = .sink e → e ∈ s.attached ∧ e ≠ f ∧ s.isStandin e = false ∧
      (s.sinks e).nonPollableStandin = .none ∧ (s.epoll e).getD .empty = .empty) :
    (s.setSink f { s.sinks f with nonPollableStandin := standin }).Sound := by
  have hclient' := is_standin_eq_false.1 hclient
  -- the sink has no events, so there is nothing to hand over to the stand-in
  have hsilent : (s.epoll f).getD .empty = .empty := by
    have hregistered : s.registered f = (s.epoll f).getD .empty := by rw [registered, hnone]
    rw [← hregistered, ← h.agrees.noted f hf, hnoted]
  refine ⟨h.nodup, fun g hg e he => ?_, fun g hg g' hg' e he he' => ?_, fun g hg => ?_,
    fun g hg => ?_, agrees_of_noted (fun g hg => ?_) ?_⟩
  · by_cases hgf : g = f
    · subst hgf
      rw [set_sink_self] at he
      obtain ⟨hmem, hne, -, hnone', -⟩ := hstandin e he
      exact ⟨hmem, by rw [set_sink_of_ne hne, hnone']⟩
    · rw [set_sink_of_ne hgf] at he
      obtain ⟨hmem, hnone'⟩ := h.standins g hg e he
      have hef : e ≠ f := by
        rintro rfl
        exact hclient' g hg he
      exact ⟨hmem, by rw [set_sink_of_ne hef, hnone']⟩
  · -- the new stand-in belongs to nobody yet
    have hfresh (e : S) (hs : standin = .sink e) (g : S) (hg : g ∈ s.attached) :
        (s.sinks g).nonPollableStandin ≠ .sink e :=
      is_standin_eq_false.1 (hstandin e hs).2.2.1 g hg
    by_cases hgf : g = f <;> by_cases hgf' : g' = f
    · rw [hgf, hgf']
    · rw [hgf, set_sink_self] at he
      rw [set_sink_of_ne hgf'] at he'
      exact absurd he' (hfresh e he g' hg')
    · rw [set_sink_of_ne hgf] at he
      rw [hgf', set_sink_self] at he'
      exact absurd he (hfresh e he' g hg)
    · rw [set_sink_of_ne hgf] at he
      rw [set_sink_of_ne hgf'] at he'
      exact h.unique g hg g' hg' e he he'
  · rw [set_sink_of_ne (ne_of_mem_of_not_mem hf hg).symm]
    exact h.detached g hg
  · by_cases hgf : g = f
    · rw [hgf]
      exact hsilent
    · rw [set_sink_of_ne hgf] at hg
      exact h.silent g hg
  · by_cases hgf : g = f
    · subst hgf
      rw [set_sink_self]
      refine hnoted.trans ?_
      unfold registered
      rw [set_sink_self]
      cases standin with
      | none => exact hsilent.symm
      | errorFes => rfl
      | sink e => exact (hstandin e rfl).2.2.2.2.symm
    · rw [set_sink_of_ne hgf, h.agrees.noted g hg]
      unfold registered
      rw [set_sink_of_ne hgf]
      rfl
  · -- the count goes by the notes, which stay
    refine h.agrees.count_noted.trans (congrArg Nat.cast ?_)
    refine List.countP_congr fun g _ => ?_
    by_cases hgf : g = f
    · rw [hgf, set_sink_self]
    · rw [set_sink_of_ne hgf]

/-- What `attach_fes` prepares for a descriptor that cannot be polled. -/
structure StandsIn (s : EpollBag S) (f e : S) (p : Probe) (s' : EpollBag S) : Prop where
  sound : s'.Sound
  attached : f ∈ s'.attached
  client : s'.isStandin f = false
  events : (s'.sinks f).events = (s.sinks f).events
  noted : (s'.sinks f).epollEvents = .empty
  standin : s.attached.length < s.maxFds ∧ (s'.sinks f).nonPollableStandin = .sink e ∧
      (s'.sinks e).epollEvents = .empty ∧
      (s'.epoll e = none ↔ p.del = true ∨ p.add = false) ∨
    ¬s.attached.length < s.maxFds ∧ (s'.sinks f).nonPollableStandin = .errorFes

/-- A sink with nothing to ask for is updated without effect. -/
theorem update_quiet [SinkMethods S] (hnone : (s.sinks f).nonPollableStandin = .none)
    (hsame : (s.sinks f).events = (s.sinks f).epollEvents) : (s.updateEpoll f ctl).2 = s := by
  unfold updateEpoll updateOwn
  rw [hnone]
  simp only [hsame, if_true, note_eq_self]

/-- Pointing the eventfd back at the sink leaves its registration without events. -/
theorem mod_spec (hepoll : (s.epoll e).getD .empty = .empty) (mod : Bool) :
    ∃ r, (s.epollCtl .mod e .empty mod).getD s = s.register e r ∧ r.getD .empty = .empty ∧
      (r = none ↔ s.epoll e = none) := by
  unfold epollCtl
  by_cases hok : mod = true ∧ s.epoll e ≠ none
  · exact ⟨some .empty, by simp [if_pos hok], rfl, by simp [hok.2]⟩
  · exact ⟨s.epoll e, by simp [if_neg hok, register], hepoll, Iff.rfl⟩

/-- A sink that another gets as its stand-in, or none, does not become a client of its own. -/
theorem is_standin_set_sink (hclient : s.isStandin f = false) {sink : EpollSink S}
    (hne : sink.nonPollableStandin ≠ .sink f) : (s.setSink f sink).isStandin f = false := by
  refine is_standin_eq_false.2 fun g hg => ?_
  by_cases hgf : g = f
  · rw [hgf, set_sink_self]
    exact hne
  · rw [set_sink_of_ne hgf]
    exact is_standin_eq_false.1 hclient g hg

/-- A sink gets the error sink where there is no room for an eventfd. -/
theorem no_room_stands_in (h : s.Sound) (hf : f ∈ s.attached)
    (hnone : (s.sinks f).nonPollableStandin = .none) (hclient : s.isStandin f = false)
    (hnoted : (s.sinks f).epollEvents = .empty) (hfull : ¬s.attached.length < s.maxFds)
    (p : Probe) :
    StandsIn s f e p (s.setSink f { s.sinks f with nonPollableStandin := .errorFes }) where
  sound := h.set_standin _ hf hnone hclient hnoted nofun
  attached := hf
  client := is_standin_set_sink hclient nofun
  events := by rw [set_sink_self]
  noted := by rw [set_sink_self, hnoted]
  standin := .inr ⟨hfull, by rw [set_sink_self]⟩

/-- A sink gets the sink of a new eventfd that has been put into a slot. -/
theorem eventfd_stands_in [SinkMethods S] (h : s.Sound) (hf : f ∈ s.attached)
    (hnone : (s.sinks f).nonPollableStandin = .none) (hclient : s.isStandin f = false)
    (hnoted : (s.sinks f).epollEvents = .empty) (he : e ∉ s.attached)
    (hself : s.sinks e = ⟨.empty, .empty, .none⟩) (hepoll : s.epoll e = none)
    (hroom : s.attached.length < s.maxFds) {m : EpollBag S} (hm : Inserted s e m) (p : Probe)
    (mod : Bool) :
    let t := ((m.probe e p).updateEpoll e true).2
    StandsIn s f e p (((t.setSink f { t.sinks f with nonPollableStandin := .sink e }).epollCtl
      .mod e .empty mod).getD
        (t.setSink f { t.sinks f with nonPollableStandin := .sink e })) := by
  intro t
  have hfe : f ≠ e := ne_of_mem_of_not_mem hf he
  have hmf : m.sinks f = s.sinks f := hm.other f hfe
  have hme : m.sinks e = ⟨.empty, .empty, .none⟩ := by rw [hm.self, hself]
  have hmepoll : m.epoll e = none := by rw [hm.epoll, hepoll]
  have hmem : f ∈ m.attached := (hm.mem f).2 (.inl hf)
  have hmclient : m.isStandin f = false := by
    refine is_standin_eq_false.2 fun g hg => ?_
    by_cases hge : g = e
    · rw [hge, hme]
      nofun
    · rw [hm.other g hge]
      obtain hg | hg := (hm.mem g).1 hg
      · exact is_standin_eq_false.1 hclient g hg
      · exact absurd hg hge
  -- the eventfd is probed, and there is nothing to update yet
  obtain ⟨r, hprobe, hr, hprobed⟩ := probe_spec (s := m) (f := e) (by rw [hmepoll]; rfl) p
  have ht : t = m.register e r := by
    show ((m.probe e p).updateEpoll e true).2 = m.register e r
    rw [hprobe, update_quiet (by rw [register_sinks, hme]) (by rw [register_sinks, hme])]
  rw [ht]
  have hsound : (m.register e r).Sound := hm.sound.register (by rw [hr, hmepoll]; rfl)
  have hstood := hsound.set_standin (.sink e) hmem (by rw [register_sinks, hmf, hnone]) hmclient
    (by rw [register_sinks, hmf, hnoted]) fun e' he' => by
      obtain rfl : e = e' := Standin.sink.inj he'
      exact ⟨(hm.mem e).2 (.inr rfl), hfe.symm, hm.client h he, by rw [register_sinks, hme],
        by rw [register_self, hr]⟩
  obtain ⟨r', hmod, hr', hmodded⟩ := mod_spec (e := e) (s := (m.register e r).setSink f
    { (m.register e r).sinks f with nonPollableStandin := .sink e })
    (by rw [set_sink_epoll, register_self, hr]) mod
  rw [hmod]
  refine ⟨hstood.register ?_, hmem, ?_, ?_, ?_, .inl ⟨hroom, ?_, ?_, ?_⟩⟩
  · rw [hr', set_sink_epoll, register_self, hr]
  · exact is_standin_set_sink (s := m.register e r) hmclient fun h =>
      hfe (Standin.sink.inj h).symm
  · rw [register_sinks, set_sink_self, register_sinks, hmf]
  · rw [register_sinks, set_sink_self, register_sinks, hmf]
    exact hnoted
  · rw [register_sinks, set_sink_self]
  · rw [register_sinks, set_sink_of_ne hfe.symm, register_sinks, hme]
  · rw [register_self, hmodded, set_sink_epoll, register_self, hprobed]
    simp [hmepoll]

/-- A sink gets the sink of an eventfd, or the error sink where there is no room. -/
theorem stand_in_stands_in [SinkMethods S] (h : s.Sound) (hf : f ∈ s.attached)
    (hnone : (s.sinks f).nonPollableStandin = .none) (hclient : s.isStandin f = false)
    (hnoted : (s.sinks f).epollEvents = .empty) (he : e ∉ s.attached) (p : Probe) (mod : Bool) :
    StandsIn s f e p (s.standIn f e p mod) := by
  have hfe : f ≠ e := ne_of_mem_of_not_mem hf he
  unfold standIn
  obtain ⟨t, ht⟩ : ∃ t, t = (s.setSink e ⟨.empty, .empty, .none⟩).register e none := ⟨_, rfl⟩
  have htsound : t.Sound := ht ▸ h.new_sink he
  have htself : t.sinks e = ⟨.empty, .empty, .none⟩ := by
    rw [ht]
    exact set_sink_self ..
  have htother (g : S) (hg : g ≠ e) : t.sinks g = s.sinks g := by
    rw [ht]
    exact set_sink_of_ne hg _
  have htattached : t.attached = s.attached := by rw [ht]; rfl
  have htmax : t.maxFds = s.maxFds := by rw [ht]; rfl
  have htepoll : t.epoll e = none := by rw [ht, register_self]
  have htf : t.sinks f = s.sinks f := htother f hfe
  have htclient : t.isStandin f = false := by
    refine is_standin_eq_false.2 fun g hg => ?_
    rw [htattached] at hg
    rw [htother g (ne_of_mem_of_not_mem hg he)]
    exact is_standin_eq_false.1 hclient g hg
  -- what is prepared for the sink with the new one is prepared for it without
  have hsame {s' : EpollBag S} (hstands : StandsIn t f e p s') : StandsIn s f e p s' := by
    have hstandin := hstands.standin
    rw [htattached, htmax] at hstandin
    exact ⟨hstands.sound, hstands.attached, hstands.client, by rw [hstands.events, htf],
      hstands.noted, hstandin⟩
  simp only [← ht]
  rw [← htattached] at hf he
  rw [← htf] at hnone hnoted
  obtain ⟨m, hcan, hinsert, hm⟩ | ⟨hcan, hinsert⟩ := insert_cases htsound e true
  · simp only [hinsert]
    exact hsame (eventfd_stands_in htsound hf hnone htclient hnoted he htself htepoll hcan.2.2 hm p
      mod)
  · simp only [hinsert]
    exact hsame (no_room_stands_in htsound hf hnone htclient hnoted
      (fun hroom => hcan ⟨rfl, he, hroom⟩) p)

/-! ## Runs -/

variable [SinkMethods S]

/-- The condition on an operation: no call of `epoll_ctl` fails that is to change a registration,
neither for a sink nor for its stand-in; no exceptions are asked of a sink with a stand-in, and
nothing at all of one whose stand-in found no room. -/
def Allowed (s : EpollBag S) : Op S → Prop
  | .attach f isFree pollable p eventfd ctl =>
      s.CanInsert f isFree → (s.sinks f).events ≠ .empty →
        if pollable then ctl = true ∧ (p.del = true ∨ p.add = false ∧ s.epoll f = none)
        else ∀ e p mod, eventfd = some (e, p, mod) →
          s.attached.length + 1 < s.maxFds ∧ (s.sinks f).events.except = false ∧ ctl = true ∧
            (p.del = true ∨ p.add = false)
  | .setEvents f events ctl => f ∈ s.attached → (s.ask f events).UpdateAllowed f ctl
  | .remove f ctl => f ∈ s.attached → s.RemoveAllowed f ctl

/-- A sink that is attached asks for its events, or it gets no events. -/
theorem attach_cases (h : s.Sound) {isFree pollable : Bool} {p : Probe}
    {eventfd : Option (S × Probe × Bool)}
    (hpossible : s.Possible (.attach f isFree pollable p eventfd ctl)) :
    (s.attachFes f isFree pollable p eventfd ctl).2.Sound ∧
        s.Allowed (.attach f isFree pollable p eventfd ctl) ∨
      ¬(s.attachFes f isFree pollable p eventfd ctl).2.Agrees ∧
        ¬s.Allowed (.attach f isFree pollable p eventfd ctl) := by
  unfold attachFes Allowed
  obtain ⟨m, hcan, hinsert, hm⟩ | ⟨hcan, hinsert⟩ := insert_cases h f isFree
  -- a sink that is refused leaves the bag as it is
  swap
  · simp only [hinsert]
    exact .inl ⟨h, fun hcan' => absurd hcan' hcan⟩
  obtain ⟨-, hnew, -⟩ := id hcan
  have hf : f ∈ m.attached := (hm.mem f).2 (.inr rfl)
  have hnone : (m.sinks f).nonPollableStandin = .none := by rw [hm.self, h.detached f hnew]
  have hevents : (m.sinks f).events = (s.sinks f).events := by rw [hm.self]
  have hnoted : (m.sinks f).epollEvents = .empty := by rw [hm.self]
  have hclient := hm.client h hnew
  simp only [hinsert, hcan, forall_const]
  cases pollable with
  | true =>
      -- after the probe the sink may be registered, but without events
      obtain ⟨r, hprobe, hr, hprobed⟩ := probe_spec (s := m) (f := f)
        (by rw [hm.epoll]; exact h.silent f (.inl hnew)) p
      have hsound : (m.register f r).Sound :=
        hm.sound.register (by rw [hr, hm.epoll]; exact (h.silent f (.inl hnew)).symm)
      have hallowed : (m.register f r).UpdateAllowed f ctl ↔ ((s.sinks f).events ≠ .empty →
          ctl = true ∧ (p.del = true ∨ p.add = false ∧ s.epoll f = none)) := by
        unfold UpdateAllowed Grants
        simp only [register_sinks, hnone, hevents, hnoted, register_self, hprobed, hm.epoll,
          forall_const]
      simp only [if_true, hprobe, ← hallowed]
      exact update_cases hsound hf hclient
  | false =>
      simp only [Bool.false_eq_true, if_false]
      cases eventfd with
      | none => exact .inl ⟨hm.sound, fun _ => nofun⟩
      | some new =>
          obtain ⟨e, p, mod⟩ := new
          -- the eventfd is new, so its sink is not one of the bag's
          obtain ⟨he, hef⟩ := hpossible e rfl
          have he' : e ∉ m.attached := fun hmem => ((hm.mem e).1 hmem).elim he hef
          have hstands := stand_in_stands_in hm.sound hf hnone hclient hnoted he' p mod
          have hallowed : (m.standIn f e p mod).UpdateAllowed f ctl ↔
              ((s.sinks f).events ≠ .empty → ∀ e' p' mod', some (e, p, mod) = some (e', p', mod') →
                s.attached.length + 1 < s.maxFds ∧ (s.sinks f).events.except = false ∧
                  ctl = true ∧ (p'.del = true ∨ p'.add = false)) := by
            unfold UpdateAllowed Grants
            rw [hstands.events, hevents, hstands.noted]
            refine forall_congr' fun _ => ?_
            obtain ⟨hroom, hstandin, hquiet, hfree⟩ | ⟨hroom, hstandin⟩ := hstands.standin
            · rw [hm.length, hm.maxFds] at hroom
              simp [hstandin, hquiet, hfree, hroom]
            · rw [hm.length, hm.maxFds] at hroom
              simp [hstandin, hroom]
          simp only [← hallowed]
          exact update_cases hstands.sound hstands.attached hstands.client

/-- What an operation does: it keeps count and notes exactly if it meets the condition. -/
theorem step_cases (h : s.Sound) (op : Op S) :
    (s.step op).Sound ∧ (s.Possible op → s.Allowed op) ∨
      ¬(s.step op).Agrees ∧ ¬(s.Possible op → s.Allowed op) := by
  unfold step
  by_cases hpossible : s.Possible op
  -- an operation that cannot be made changes nothing
  swap
  · rw [if_neg hpossible]
    exact .inl ⟨h, fun hpossible' => absurd hpossible' hpossible⟩
  simp only [hpossible, if_true, forall_const]
  cases op with
  | attach f isFree pollable p eventfd ctl => exact attach_cases h hpossible
  | setEvents f events ctl =>
      have hasked : (s.ask f events).Sound := by
        refine h.transfer rfl (fun _ => ask_standin _) (fun _ _ => rfl)
          (agrees_of_noted (fun g hg => ?_) ?_)
        · rw [ask_epoll_events, registered_ask]
          exact h.agrees.noted g hg
        · rw [count_noted_ask]
          exact h.agrees.count_noted
      unfold setEvents Allowed
      by_cases hf : f ∈ s.attached
      · -- a client holds the sink, so it is no stand-in
        have hclient : (s.ask f events).isStandin f = false := by
          refine is_standin_eq_false.2 fun g hg => ?_
          rw [ask_standin]
          exact is_standin_eq_false.1 hpossible g hg
        simp only [SinkMethods.set_events_attached hf, hf, forall_const]
        exact update_cases hasked hf hclient
      · simp only [SinkMethods.set_events_detached hf, hf]
        exact .inl ⟨hasked, nofun⟩
  | remove f ctl =>
      unfold Allowed
      by_cases hf : f ∈ s.attached
      · simp only [hf, forall_const]
        exact remove_cases h hf hpossible
      · refine .inl ⟨?_, fun hmem => absurd hmem hf⟩
        simpa [removeFes, hf] using h

omit [DecidableEq S] in
/-- A bag without sinks is sound. -/
theorem start_sound (S : Type) (maxFds : Nat) : (start S maxFds).Sound where
  nodup := .nil
  standins _ h := by cases h
  unique _ h := by cases h
  detached _ _ := rfl
  silent _ _ := rfl
  agrees := ⟨rfl, fun _ h => by cases h⟩

end EpollBag

namespace Sample

def setEvents (update : EpollBag Nat → Bool × EpollBag Nat) (s : EpollBag Nat) (f : Nat)
    (events : Events) : Bool × EpollBag Nat :=
  if f ∈ s.attached then update (s.ask f events) else (true, s.ask f events)

def close (remove : EpollBag Nat → Bool × EpollBag Nat) (s : EpollBag Nat) (f : Nat) :
    EpollBag Nat :=
  (if f ∈ s.attached then (remove s).2 else s).register f none

section

variable {update remove : EpollBag Nat → Bool × EpollBag Nat} {s : EpollBag Nat} {f : Nat}
  {events : Events}

/-- An attached sink has its bag update it. -/
theorem set_events_attached (hf : f ∈ s.attached) :
    setEvents update s f events = update (s.ask f events) := if_pos hf

/-- Another sink only stores the events. -/
theorem set_events_detached (hf : f ∉ s.attached) :
    setEvents update s f events = (true, s.ask f events) := if_neg hf

/-- An attached sink has its bag remove it. -/
theorem close_attached (hf : f ∈ s.attached) :
    close remove s f = (remove s).2.register f none := by rw [close, if_pos hf]

/-- Another sink only closes its descriptor. -/
theorem close_detached (hf : f ∉ s.attached) : close remove s f = s.register f none := by
  rw [close, if_neg hf]

end

/-- Sinks that do what a bag relies on, and nothing else. -/
instance sinkMethods : SinkMethods Nat where
  setEvents := setEvents
  close := close
  set_events_attached := set_events_attached
  set_events_detached := set_events_detached
  close_attached := close_attached
  close_detached := close_detached

end Sample

end Codon.Net
