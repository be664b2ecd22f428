import Codon.Net.EpollAgrees
import Codon.Net.FdDispatch

/-!
# A bag with registrations and its slots

`EpollBag` has the attached sinks of a bag in a list, and `FdBags` in the slots of its vector. Both
are of one `FdBag`: what operations do to the list and the stand-ins, some operations do to the
slots (`attached_in_slots`), so that the attached sinks of every run are in their slots.
-/

namespace Codon.Net

open Codon.Library

namespace EpollBag

variable {S : Type} [DecidableEq S] {t t' t'' : EpollBag S} {e f : S} {ctl : Bool}

omit [DecidableEq S] in
/-- The same sinks are attached, with the same stand-ins. -/
structure SameSinks (t t' : EpollBag S) : Prop where
  max_fds : t'.maxFds = t.maxFds
  attached : t'.attached = t.attached
  standin (f : S) : (t'.sinks f).nonPollableStandin = (t.sinks f).nonPollableStandin

omit [DecidableEq S] in
/-- Nothing need be attached or removed. -/
theorem SameSinks.refl (t : EpollBag S) : t.SameSinks t := ⟨rfl, rfl, fun _ => rfl⟩

omit [DecidableEq S] in
/-- Two steps that attach and remove nothing. -/
theorem SameSinks.trans (h : t.SameSinks t') (h' : t'.SameSinks t'') : t.SameSinks t'' :=
  ⟨h'.max_fds.trans h.max_fds, h'.attached.trans h.attached,
    fun f => (h'.standin f).trans (h.standin f)⟩

/-- Asking for events attaches and removes nothing. -/
theorem same_ask (t : EpollBag S) (f : S) (events : Events) : t.SameSinks (t.ask f events) :=
  ⟨rfl, rfl, fun _ => ask_standin events⟩

/-- A note attaches and removes nothing. -/
theorem same_note (t : EpollBag S) (f : S) (epollEvents : Events) :
    t.SameSinks (t.note f epollEvents) :=
  ⟨rfl, rfl, fun _ => note_standin ..⟩

/-- `epoll_ctl` attaches and removes nothing. -/
theorem same_epoll_ctl (t : EpollBag S) (op : CtlOp) (f : S) (events : Events) (answer : Bool) :
    ∀ t' ∈ t.epollCtl op f events answer, t.SameSinks t' := by
  intro t' ht'
  unfold epollCtl at ht'
  cases op <;> dsimp only at ht' <;> split_ifs at ht' <;> cases ht' <;>
    exact ⟨rfl, rfl, fun _ => rfl⟩

/-- Neither does a call of `epoll_ctl` whose result is ignored. -/
theorem same_epoll_ctl_getD (t : EpollBag S) (op : CtlOp) (f : S) (events : Events)
    (answer : Bool) : t.SameSinks ((t.epollCtl op f events answer).getD t) := by
  cases hctl : t.epollCtl op f events answer with
  | none => exact .refl t
  | some t' => exact same_epoll_ctl t op f events answer t' hctl

/-- The probe attaches and removes nothing. -/
theorem same_probe (t : EpollBag S) (f : S) (p : Probe) : t.SameSinks (t.probe f p) :=
  (same_epoll_ctl_getD t .add f .empty p.add).trans (same_epoll_ctl_getD _ .del f .empty p.del)

omit [DecidableEq S] in
/-- Counting attaches and removes nothing. -/
theorem same_count_transition (t : EpollBag S) (oldState newState : Events) :
    t.SameSinks (t.countTransition oldState newState) := by
  rw [count_transition_eq]
  exact ⟨rfl, rfl, fun _ => rfl⟩

omit [DecidableEq S] in
/-- Taking a sink out of the count attaches and removes nothing. -/
theorem same_uncount (t : EpollBag S) (f : S) : t.SameSinks (t.uncount f) := by
  rw [uncount_eq]
  exact ⟨rfl, rfl, fun _ => rfl⟩

/-- An update of a sink without stand-in attaches and removes nothing. -/
theorem same_update_own (t : EpollBag S) (f : S) (ctl : Bool) :
    t.SameSinks (t.updateOwn f ctl).2 := by
  have hnote := same_note t f (t.sinks f).events
  simp only [updateOwn]
  split_ifs
  · exact hnote
  · split
    next => exact hnote
    next t' hctl =>
      exact (hnote.trans (same_epoll_ctl _ _ _ _ _ t' hctl)).trans (same_count_transition ..)

section

variable [SinkMethods S]

/-- `set_events` attaches and removes nothing where `update_epoll` does not. -/
theorem same_set_events {update : EpollBag S → Bool × EpollBag S}
    (hupdate : ∀ t : EpollBag S, t.SameSinks (update t).2) (t : EpollBag S) (f : S)
    (events : Events) :
    t.SameSinks (SinkMethods.setEvents update t f events).2 := by
  by_cases hf : f ∈ t.attached
  · rw [SinkMethods.set_events_attached hf]
    exact (same_ask t f events).trans (hupdate _)
  · rw [SinkMethods.set_events_detached hf]
    exact same_ask t f events

/-- `update_epoll` attaches and removes nothing. -/
theorem same_update_epoll (t : EpollBag S) (f : S) (ctl : Bool) :
    t.SameSinks (t.updateEpoll f ctl).2 := by
  have hnote := same_note t f (t.sinks f).events
  unfold updateEpoll
  split
  next => exact same_update_own t f ctl
  next =>
    dsimp only
    split_ifs
    · exact hnote
    · exact hnote.trans (same_count_transition ..)
    · exact hnote
  next e _ =>
    dsimp only
    split_ifs
    · exact hnote
    · have hset := same_set_events (fun t => same_update_own t e ctl)
        (t.note f (t.sinks f).events) e (t.sinks f).events.rw
      split
      next t' hresult =>
        rw [hresult] at hset
        exact hnote.trans hset
      next t' hresult =>
        rw [hresult] at hset
        exact (hnote.trans hset).trans (same_count_transition ..)

end

/-- `remove_fes` of a sink without stand-in removes it, unless the deletion fails. -/
theorem remove_own_same (t : EpollBag S) (f : S) (ctl : Bool) :
    (t.dropFes f).SameSinks (t.removeOwn f ctl).2 ∨ t.SameSinks (t.removeOwn f ctl).2 := by
  have hdrop (t' : EpollBag S) (h : t.SameSinks t') : (t.dropFes f).SameSinks (t'.dropFes f) :=
    ⟨h.max_fds, congrArg (List.erase · f) h.attached, h.standin⟩
  have huncount := same_uncount t f
  simp only [removeOwn]
  split_ifs
  · exact .inl (hdrop _ huncount)
  · split
    next => exact .inr huncount
    next t' hctl => exact .inl (hdrop t' (huncount.trans (same_epoll_ctl _ _ _ _ _ t' hctl)))

end EpollBag

namespace FdBags

variable {B S : Type} [DecidableEq B] [DecidableEq S] {s s' : FdBags B S} {t t' : EpollBag S}
  {b : B} {e f : S} {pollable : S → Bool}

omit [DecidableEq B] in
/-- The sinks that are attached to the bag are those of the list, with their stand-ins. -/
structure Shows (b : B) (s : FdBags B S) (t : EpollBag S) : Prop where
  max_fds : (s.bags b).maxFds = t.maxFds
  count : (s.bags b).fesCount = t.attached.length
  nodup : t.attached.Nodup
  owner (f : S) : (s.sinks f).owner = if f ∈ t.attached then some b else none
  standin (f : S) : (s.sinks f).nonPollableStandin = (t.sinks f).nonPollableStandin

omit [DecidableEq B] in
/-- What attaches and removes nothing is not shown. -/
theorem Shows.same (h : Shows b s t) (hsame : t.SameSinks t') : Shows b s t' where
  max_fds := h.max_fds.trans hsame.max_fds.symm
  count := by rw [hsame.attached, h.count]
  nodup := hsame.attached ▸ h.nodup
  owner f := by rw [hsame.attached, h.owner f]
  standin f := (h.standin f).trans (hsame.standin f).symm

omit [DecidableEq B] in
/-- Whether a sink is closed does not matter. -/
theorem Shows.set_closed (h : Shows b s t) (f : S) (isClosed : Bool) :
    Shows b (s.setSink f { s.sinks f with isClosed }) t := by
  refine ⟨h.max_fds, h.count, h.nodup, fun g => ?_, fun g => ?_⟩
  · rw [← h.owner g]
    by_cases hg : g = f
    · rw [hg, set_sink_self]
    · rw [set_sink_of_ne _ _ hg]
  · rw [← h.standin g]
    by_cases hg : g = f
    · rw [hg, set_sink_self]
    · rw [set_sink_of_ne _ _ hg]

omit [DecidableEq B] in
/-- A sink gets a stand-in or loses it. -/
theorem Shows.set_standin (h : Shows b s t) (f : S) (nonPollableStandin : Standin S) :
    Shows b (s.setSink f { s.sinks f with nonPollableStandin })
      (t.setSink f { t.sinks f with nonPollableStandin }) := by
  refine ⟨h.max_fds, h.count, h.nodup, fun g => ?_, fun g => ?_⟩
  · refine Eq.trans ?_ (h.owner g)
    by_cases hg : g = f
    · rw [hg, set_sink_self]
    · rw [set_sink_of_ne _ _ hg]
  · by_cases hg : g = f
    · rw [hg, set_sink_self, EpollBag.set_sink_self]
    · rw [set_sink_of_ne _ _ hg, EpollBag.set_sink_of_ne hg, h.standin g]

/-- An open sink is put into a slot exactly if it is put on the list. -/
theorem Shows.insert_fes (h : Shows b s t) (hopen : (s.sinks f).isClosed = false) :
    (∃ s' t', s.insertFes b f = some s' ∧ t.insertFes f true = some t' ∧ Shows b s' t' ∧
        ∀ g, (s'.sinks g).isClosed = (s.sinks g).isClosed) ∨
      s.insertFes b f = none ∧ t.insertFes f true = none := by
  have howner := h.owner f
  simp only [insertFes, EpollBag.insertFes, hopen, Bool.false_eq_true, if_false, Bool.not_true]
  by_cases hmem : f ∈ t.attached
  · rw [if_pos hmem] at howner
    exact .inr ⟨by simp [howner], if_pos hmem⟩
  rw [if_neg hmem] at howner
  simp only [howner, ne_eq, not_true_eq_false, if_false, hmem, h.max_fds, h.count]
  by_cases hfull : t.maxFds ≤ t.attached.length
  · exact .inr ⟨if_pos hfull, if_pos hfull⟩
  rw [if_neg hfull, if_neg hfull]
  refine .inl ⟨_, _, rfl, rfl, ?_, fun g => ?_⟩
  · refine Shows.same ⟨?_, ?_, ?_, fun g => ?_, fun g => ?_⟩ (EpollBag.same_note _ f .empty)
    · rw [set_bag_self]
    · rw [set_bag_self]
      simp
    · exact h.nodup.append (List.nodup_singleton f) (by simpa using hmem)
    · rw [set_bag_sinks]
      by_cases hg : g = f
      · simp [hg]
      · simp [hg, h.owner g]
    · rw [set_bag_sinks, ← h.standin g]
      by_cases hg : g = f
      · rw [hg, set_sink_self]
      · rw [set_sink_of_ne _ _ hg]
  · rw [set_bag_sinks]
    by_cases hg : g = f
    · rw [hg, set_sink_self, hopen]
    · rw [set_sink_of_ne _ _ hg]

/-- A sink leaves its slot and the list. -/
theorem Shows.drop_fes (h : Shows b s t) (hsound : s.Sound pollable) (hf : f ∈ t.attached) :
    Shows b (s.dropFes b f) (t.dropFes f) := by
  have howner : (s.sinks f).owner = some b := by rw [h.owner f, if_pos hf]
  refine ⟨?_, ?_, h.nodup.erase f, fun g => ?_, fun g => ?_⟩
  · rw [drop_fes_bag]
    exact h.max_fds
  · rw [drop_fes_bag, EpollBag.dropFes, List.length_erase_of_mem hf, ← h.count]
  · rw [hsound.drop_fes_owner howner g, h.owner g, EpollBag.dropFes]
    by_cases hg : g = f
    · simp [hg, h.nodup.mem_erase_iff]
    · simp [hg, h.nodup.mem_erase_iff]
  · obtain ⟨moved, -, hsinks⟩ := hsound.drop_fes_sinks howner
    refine Eq.trans ?_ (h.standin g)
    rw [hsinks g]
    by_cases hg : g = f
    · rw [if_pos hg, hg]
    · rw [if_neg hg]
      split <;> rfl

/-- A new eventfd has no stand-in. -/
theorem Shows.new_sink (h : Shows b s t) (hsound : s.Sound pollable) (he : pollable e = true) :
    Shows b s ((t.setSink e ⟨.empty, .empty, .none⟩).register e none) := by
  refine h.same ⟨rfl, rfl, fun g => ?_⟩
  by_cases hg : g = e
  · rw [hg, EpollBag.register_sinks, EpollBag.set_sink_self, ← h.standin e, hsound.no_standin e he]
  · rw [EpollBag.register_sinks, EpollBag.set_sink_of_ne hg]

/-- A sink is removed once its stand-in has gone. -/
theorem Shows.clear_standin (h : Shows b s t) (hsound : s.Sound pollable) (hf : f ∈ t.attached) :
    Shows b ((s.setSink f { s.sinks f with nonPollableStandin := .none }).dropFes b f)
      ((t.setSink f { t.sinks f with nonPollableStandin := .none }).dropFes f) :=
  (h.set_standin f .none).drop_fes (hsound.set_sink rfl rfl (fun _ => rfl) fun _ h => by cases h)
    hf

/-- Sinks are opened. -/
theorem Shows.open_sinks (h : Shows b s t) (hsound : s.Sound pollable) (l : List S) :
    ∃ s', (l.map fun f => Op.setClosed f false).foldlM (step pollable) s = some s' ∧
      Shows b s' t ∧ s'.Sound pollable ∧
      ∀ f, f ∈ l ∨ (s.sinks f).isClosed = false → (s'.sinks f).isClosed = false := by
  induction l generalizing s with
  | nil => exact ⟨s, rfl, h, hsound, by simp⟩
  | cons g l ih =>
      have hopened : ∀ f, f = g ∨ (s.sinks f).isClosed = false →
          ((s.setSink g { s.sinks g with isClosed := false }).sinks f).isClosed = false := by
        intro f hf
        by_cases hfg : f = g
        · rw [hfg, set_sink_self]
        · rw [set_sink_of_ne _ _ hfg]
          exact hf.resolve_left hfg
      obtain ⟨s', hrun, hshows, hsound', hopen⟩ := ih (h.set_closed g false)
        (hsound.set_sink rfl rfl (hsound.no_standin g) (hsound.standin_pollable g))
      refine ⟨s', hrun, hshows, hsound', fun f hf => hopen f ?_⟩
      obtain hmem | hf := hf
      · exact (List.mem_cons.1 hmem).symm.imp_right fun hfg => hopened f (.inl hfg)
      · exact .inr (hopened f (.inr hf))

variable [SinkMethods S]

/-- A descriptor that cannot be polled gets the same stand-in. -/
theorem Shows.stand_in (h : Shows b s t) (hsound : s.Sound pollable) (he : pollable e = true)
    (hopen : (s.sinks e).isClosed = false) (p : Probe) (mod : Bool) :
    Shows b (match s.insertFes b e with
      | none => s.setSink f { s.sinks f with nonPollableStandin := .errorFes }
      | some s => s.setSink f { s.sinks f with nonPollableStandin := .sink e })
      (t.standIn f e p mod) := by
  have hnew := h.new_sink hsound he
  simp only [EpollBag.standIn]
  obtain ⟨s', t', hinsert, hinsert', hshows, -⟩ | ⟨hinsert, hinsert'⟩ := hnew.insert_fes hopen
  · rw [hinsert, hinsert']
    have hupdated := hshows.same ((EpollBag.same_probe t' e p).trans
      (EpollBag.same_update_epoll (t'.probe e p) e true))
    exact (hupdated.set_standin f (.sink e)).same (EpollBag.same_epoll_ctl_getD ..)
  · rw [hinsert, hinsert']
    exact hnew.set_standin f .errorFes

/-- Attaching an open sink attaches it and its eventfd, if it needs one, in both. -/
theorem Shows.attach_fes (h : Shows b s t) (hsound : s.Sound pollable)
    (hopen : (s.sinks f).isClosed = false) (p : Probe) (ctl : Bool)
    {eventfd : Option (S × Probe × Bool)}
    (heventfd : ∀ e ∈ eventfd.map Prod.fst, pollable e = true ∧ (s.sinks e).isClosed = false) :
    Shows b (s.attachFes pollable b f (eventfd.map Prod.fst))
      (t.attachFes f true (pollable f) p eventfd ctl).2 := by
  simp only [FdBags.attachFes, EpollBag.attachFes]
  obtain ⟨s₁, t₁, hinsert, hinsert', hshows, hclosed⟩ | ⟨hinsert, hinsert'⟩ := h.insert_fes hopen
  · simp only [hinsert, hinsert']
    by_cases hpoll : pollable f = true
    · rw [if_pos hpoll, if_pos hpoll]
      exact hshows.same ((EpollBag.same_probe t₁ f p).trans (EpollBag.same_update_epoll _ f ctl))
    · rw [if_neg hpoll, if_neg hpoll]
      cases eventfd with
      | none => exact hshows
      | some new =>
          obtain ⟨e, p', mod⟩ := new
          obtain ⟨he, heopen⟩ := heventfd e rfl
          have hstands := hshows.stand_in (f := f) (hsound.insert_fes hinsert) he
            ((hclosed e).trans heopen) p' mod
          exact hstands.same (EpollBag.same_update_epoll _ f ctl)
  · simp only [hinsert, hinsert']
    exact h

/-- Closing a stand-in removes it from both, or from neither. -/
theorem Shows.close (h : Shows b s t) (hsound : s.Sound pollable) (e : S) (ctl : Bool) :
    ∃ closing : List SinkAct, Shows b (closing.foldl (standinAct e) s)
      (SinkMethods.close (fun s => s.removeOwn e ctl) t e) := by
  have hregister (t : EpollBag S) : t.SameSinks (t.register e none) := ⟨rfl, rfl, fun _ => rfl⟩
  by_cases he : e ∈ t.attached
  · rw [SinkMethods.close_attached he]
    obtain hdropped | hkept := t.remove_own_same e ctl
    · refine ⟨[.remove false], ?_⟩
      have howner : (s.sinks e).owner = some b := by rw [h.owner e, if_pos he]
      have hact : standinAct e s (.remove false) = s.dropFes b e := by
        simp [standinAct, howner, hsound.slot_of howner]
      rw [List.foldl_cons, List.foldl_nil, hact]
      exact (h.drop_fes hsound he).same (hdropped.trans (hregister _))
    · exact ⟨[], h.same (hkept.trans (hregister _))⟩
  · rw [SinkMethods.close_detached he]
    exact ⟨[], h.same (hregister t)⟩

/-- Removing an attached sink removes it from both, or from neither. -/
theorem Shows.remove_fes (h : Shows b s t) (hsound : s.Sound pollable) (hf : f ∈ t.attached)
    (ctl : Bool) :
    ∃ closing fails, Shows b (s.removeFes closing fails b f) (t.removeFes f ctl).2 := by
  have howner : (s.sinks f).owner = some b := by rw [h.owner f, if_pos hf]
  have huncount := h.same (t.same_uncount f)
  simp only [FdBags.removeFes, EpollBag.removeFes, hsound.slot_of howner, hf, not_true_eq_false,
    if_false, h.standin f]
  cases hstandin : (t.sinks f).nonPollableStandin with
  | none =>
      obtain hdropped | hkept := t.remove_own_same f ctl
      · exact ⟨[], false, (h.drop_fes hsound hf).same hdropped⟩
      · exact ⟨[], true, h.same hkept⟩
  | errorFes =>
      refine ⟨[], false, huncount.clear_standin hsound ?_⟩
      rw [(t.same_uncount f).attached]
      exact hf
  | sink e =>
      obtain ⟨closing, hclosed⟩ := huncount.close hsound e ctl
      obtain ⟨hsound', -, hothers⟩ := hsound.standin_acts (f := e) closing
      refine ⟨closing, false, hclosed.clear_standin hsound' ?_⟩
      -- the stand-in is another sink, so closing it leaves this one attached
      have hne : f ≠ e := by
        rintro rfl
        have hpoll := hsound.standin_pollable f f ((h.standin f).trans hstandin)
        rw [← h.standin f, hsound.no_standin f hpoll] at hstandin
        cases hstandin
      have howner' := (hothers f hne).trans howner
      rw [hclosed.owner f] at howner'
      by_contra hnot
      rw [if_neg hnot] at howner'
      cases howner'

end FdBags

namespace EpollBag

variable {B S : Type} [DecidableEq B] [DecidableEq S] [SinkMethods S]

/-- Whether a descriptor can be polled is a matter of the descriptor, and an eventfd can. -/
def Op.Polls (pollable : S → Bool) : Op S → Prop
  | .attach f _ pollable' _ eventfd _ =>
      pollable' = pollable f ∧ ∀ e ∈ eventfd.map Prod.fst, pollable e = true
  | .setEvents .. | .remove .. => True

/-- What one operation does to the list, operations of the same bag do to the slots. -/
theorem step_shows {pollable : S → Bool} {b : B} {s : FdBags B S} {t : EpollBag S} {op : Op S}
    (h : FdBags.Shows b s t) (hsound : s.Sound pollable) (hpolls : op.Polls pollable) :
    ∃ (ops : List (FdBags.Op B S)) (s' : FdBags B S),
      ops.foldlM (FdBags.step pollable) s = some s' ∧ FdBags.Shows b s' (t.step op) := by
  unfold step
  by_cases hpossible : t.Possible op
  swap
  · rw [if_neg hpossible]
    exact ⟨[], s, rfl, h⟩
  rw [if_pos hpossible]
  cases op with
  | setEvents f events ctl =>
      exact ⟨[], s, rfl, h.same (same_set_events (fun t => t.same_update_epoll f ctl) t f events)⟩
  | remove f ctl =>
      by_cases hf : f ∈ t.attached
      · obtain ⟨closing, fails, hremoved⟩ := h.remove_fes hsound hf ctl
        have howner : (s.sinks f).owner = some b := by rw [h.owner f, if_pos hf]
        refine ⟨[.remove f closing fails], _, ?_, hremoved⟩
        simp [FdBags.step, howner]
      · refine ⟨[], s, rfl, ?_⟩
        simpa [removeFes, hf] using h
  | attach f isFree pollable' p eventfd ctl =>
      obtain ⟨rfl, heventfd⟩ := hpolls
      cases isFree with
      | false =>
          refine ⟨[], s, rfl, ?_⟩
          simpa [attachFes, insertFes] using h
      | true =>
          -- the sink and its eventfd are open, and are then attached
          obtain ⟨s', hopen, hshows, hsound', hopened⟩ :=
            h.open_sinks hsound (f :: (eventfd.map Prod.fst).toList)
          have hnew : ∀ e ∈ eventfd.map Prod.fst,
              pollable e = true ∧ (s'.sinks e).isClosed = false := fun e he =>
            ⟨heventfd e he, hopened e (.inl (List.mem_cons_of_mem _ (Option.mem_toList.2 he)))⟩
          have hattach : FdBags.step pollable s' (.attach b f (eventfd.map Prod.fst)) =
              some (s'.attachFes pollable b f (eventfd.map Prod.fst)) := by
            refine if_pos fun e he => ?_
            obtain ⟨hout, hne⟩ := hpossible e he
            obtain ⟨hpoll, hopen'⟩ := hnew e he
            exact ⟨hpoll, hne, by rw [hshows.owner e, if_neg hout], hopen'⟩
          have hattached := hshows.attach_fes hsound' (hopened f (.inl List.mem_cons_self)) p
            ctl hnew
          refine ⟨((f :: (eventfd.map Prod.fst).toList).map fun f => .setClosed f false) ++
            [.attach b f (eventfd.map Prod.fst)], _, ?_, hattached⟩
          rw [List.foldlM_append, hopen]
          simp [hattach]

/-- What the operations of a run do to the list, operations of the same bag do to the slots. -/
theorem run_shows {pollable : S → Bool} {b : B} {s : FdBags B S} {t : EpollBag S}
    {ops : List (Op S)} (h : FdBags.Shows b s t) (hsound : s.Sound pollable)
    (hpolls : ∀ op ∈ ops, op.Polls pollable) :
    ∃ (ops' : List (FdBags.Op B S)) (s' : FdBags B S),
      ops'.foldlM (FdBags.step pollable) s = some s' ∧ FdBags.Shows b s' (run step t ops) := by
  induction ops generalizing s t with
  | nil => exact ⟨[], s, rfl, h⟩
  | cons op ops ih =>
      obtain ⟨first, s₁, hfirst, hshows₁⟩ := step_shows h hsound (hpolls op List.mem_cons_self)
      obtain ⟨rest, s₂, hrest, hshows₂⟩ := ih hshows₁ (hsound.run hfirst)
        fun op hop => hpolls op (List.mem_cons_of_mem _ hop)
      refine ⟨first ++ rest, s₂, ?_, hshows₂⟩
      rw [List.foldlM_append, hfirst]
      exact hrest

/-- The attached sinks of every run are those in the slots of a bag: some run of the bag with its
slots attaches and removes the same sinks. -/
theorem attached_in_slots (pollable : S → Bool) (maxFds : B → Nat) (b : B) (ops : List (Op S))
    (hpolls : ∀ op ∈ ops, op.Polls pollable) :
    ∃ (ops' : List (FdBags.Op B S)) (s : FdBags B S),
      ops'.foldlM (FdBags.step pollable) (.start maxFds) = some s ∧ s.InSlots b ∧
        FdBags.Shows b s (run step (start S (maxFds b)) ops) := by
  have hstart : FdBags.Shows b (.start maxFds) (start S (maxFds b)) :=
    ⟨rfl, rfl, .nil, fun _ => rfl, fun _ => rfl⟩
  have hsound : (FdBags.start maxFds : FdBags B S).Sound pollable := FdBags.start_sound maxFds
  obtain ⟨ops', s, hops, hshows⟩ := run_shows hstart hsound hpolls
  exact ⟨ops', s, hops, (hsound.run hops).in_slots b, hshows⟩

end EpollBag

end Codon.Net
