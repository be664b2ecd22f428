import Codon.Net.FdBag
import Codon.Library.Loop

/-!
# Every attached sink is in its slot
-/

namespace Codon.Net

open Codon.Library

namespace FdBags

variable {B S : Type} [DecidableEq B] {s s' : FdBags B S} {b : B} {f : S}

/-- The slot of a sink that is attached to the bag. -/
def slotIn (s : FdBags B S) (b : B) (f : S) : Option Nat :=
  if (s.sinks f).owner = some b then some (s.sinks f).idx else none

/-- What is behind the slots of the attached sinks. -/
def behind (s : FdBags B S) (b : B) : List S := (s.bags b).fesv.drop (s.bags b).fesCount

/-- The first `fes_count` slots of each bag hold the sinks that are attached to it, each in the slot
that it knows. Only a bag that is dispatching has slots behind them. A stand-in has no stand-in
itself. -/
structure Sound (pollable : S → Bool) (s : FdBags B S) : Prop where
  dense (b : B) : Dense (s.bags b).fesv (s.bags b).fesCount (s.slotIn b)
  exact (b : B) : (s.bags b).dispatchInProgress = false →
    (s.bags b).fesv.length = (s.bags b).fesCount
  no_standin (f : S) : pollable f = true → (s.sinks f).nonPollableStandin = .none
  standin_pollable (f e : S) : (s.sinks f).nonPollableStandin = .sink e → pollable e = true

variable {pollable : S → Bool}

/-- Empty bags are sound. -/
theorem start_sound (maxFds : B → Nat) : (start maxFds : FdBags B S).Sound pollable where
  dense b := Dense.nil.congr (Nat.le_refl 0) (fun _ _ => rfl) fun _ => by simp [slotIn, start]
  exact _ _ := rfl
  no_standin _ _ := rfl
  standin_pollable _ _ := nofun

namespace Sound

/-- The slot and the index of an attached sink agree. -/
theorem in_slot (h : s.Sound pollable) (howner : (s.sinks f).owner = some b) :
    (s.sinks f).idx < (s.bags b).fesCount ∧ (s.bags b).fesv[(s.sinks f).idx]? = some f :=
  (h.dense b |>.slot_iff f (s.sinks f).idx).1 (by simp [slotIn, howner])

/-- The sink in the slot of an attached sink is that sink. -/
theorem slot_of (h : s.Sound pollable) (howner : (s.sinks f).owner = some b) :
    s.slotOf b f = some f := by
  obtain ⟨hlt, hslot⟩ := h.in_slot howner
  rw [slotOf, if_pos hlt, hslot]
  simp [howner]

/-- What a change of one bag and of the sinks has to keep. -/
theorem of_bag (h : s.Sound pollable) (b : B) (hbags : ∀ b' ≠ b, s'.bags b' = s.bags b')
    (hslot : ∀ b' ≠ b, ∀ g, s'.slotIn b' g = s.slotIn b' g)
    (hstandin : ∀ g, (s'.sinks g).nonPollableStandin = (s.sinks g).nonPollableStandin)
    (hdense : Dense (s'.bags b).fesv (s'.bags b).fesCount (s'.slotIn b))
    (hexact : (s'.bags b).dispatchInProgress = false →
      (s'.bags b).fesv.length = (s'.bags b).fesCount) : s'.Sound pollable where
  dense b' := by
    by_cases hb : b' = b
    · rw [hb]
      exact hdense
    · rw [hbags b' hb]
      exact (h.dense b').congr (h.dense b').count_le (fun _ _ => rfl) (hslot b' hb)
  exact b' := by
    by_cases hb : b' = b
    · rw [hb]
      exact hexact
    · rw [hbags b' hb]
      exact h.exact b'
  no_standin g hg := by rw [hstandin g, h.no_standin g hg]
  standin_pollable g e he := h.standin_pollable g e (by rw [← hstandin g, he])

variable [DecidableEq S]

/-- A change of a sink that is not about its bag, its slot or a new stand-in. -/
theorem set_sink (h : s.Sound pollable) {sink : FdEventSink B S}
    (howner : sink.owner = (s.sinks f).owner) (hidx : sink.idx = (s.sinks f).idx)
    (hno : pollable f = true → sink.nonPollableStandin = .none)
    (hstandin : ∀ e, sink.nonPollableStandin = .sink e → pollable e = true) :
    (s.setSink f sink).Sound pollable := by
  have hslot (b : B) (g : S) : (s.setSink f sink).slotIn b g = s.slotIn b g := by
    by_cases hg : g = f
    · subst hg
      simp [slotIn, howner, hidx]
    · simp [slotIn, hg]
  refine ⟨fun b => (h.dense b).congr (h.dense b).count_le (fun _ _ => rfl) (hslot b), h.exact,
    fun g hpoll => ?_, fun g e he => ?_⟩
  · by_cases hg : g = f
    · subst hg
      rw [set_sink_self, hno hpoll]
    · rw [set_sink_of_ne _ _ hg, h.no_standin g hpoll]
  · by_cases hg : g = f
    · subst hg
      exact hstandin e (by rw [← he, set_sink_self])
    · exact h.standin_pollable g e (by rw [← he, set_sink_of_ne _ _ hg])

end Sound

variable [DecidableEq S]

/-- What `attach_fes` does to the vector, whether or not there is something behind the slots. -/
theorem insert_fes_eq (hinsert : s.insertFes b f = some s') :
    (s.sinks f).owner = none ∧
      s' = (s.setSink f { s.sinks f with owner := some b, idx := (s.bags b).fesCount }).setBag b
        { s.bags b with
          fesv := swapSlots ((s.bags b).fesv ++ [f]) (s.bags b).fesv.length (s.bags b).fesCount
          fesCount := (s.bags b).fesCount + 1 } := by
  simp only [insertFes] at hinsert
  split_ifs at hinsert with _ howner _ hmore
  · cases hinsert
    exact ⟨by simpa using howner, rfl⟩
  · cases hinsert
    have hlength : (s.bags b).fesv.length = (s.bags b).fesCount := by
      simpa [eq_comm] using hmore
    refine ⟨by simpa using howner, ?_⟩
    rw [hlength, swap_slots_self]

/-- A sink that is attached takes the first slot behind the others. -/
theorem Sound.insert_fes (h : s.Sound pollable) (hinsert : s.insertFes b f = some s') :
    s'.Sound pollable := by
  obtain ⟨hfree, rfl⟩ := insert_fes_eq hinsert
  have hnone (b' : B) : s.slotIn b' f = none := by simp [slotIn, hfree]
  refine h.of_bag b (fun b' hb => by simp [hb]) (fun b' hb g => ?_) (fun g => ?_) ?_ fun hidle => ?_
  · by_cases hg : g = f
    · subst hg
      rw [hnone b']
      simp [slotIn, Ne.symm hb]
    · simp [slotIn, hg]
  · by_cases hg : g = f
    · subst hg
      simp
    · simp [hg]
  · have hpush := (h.dense b).push (hnone b)
    rw [set_bag_self]
    refine hpush.congr hpush.count_le (fun _ _ => rfl) fun g => ?_
    by_cases hg : g = f
    · subst hg
      simp [slotIn]
    · simp [slotIn, hg]
  · have hexact := h.exact b (by simpa using hidle)
    simp [hexact]

/-- What removing a sink does to its bag. -/
theorem drop_fes_bag (s : FdBags B S) (b : B) (f : S) :
    (s.dropFes b f).bags b =
      { s.bags b with
        fesv :=
          if (s.bags b).dispatchInProgress then
            swapSlots (s.bags b).fesv (s.sinks f).idx ((s.bags b).fesCount - 1)
          else (swapSlots (s.bags b).fesv (s.sinks f).idx ((s.bags b).fesCount - 1)).dropLast
        fesCount := (s.bags b).fesCount - 1 } := by
  simp only [dropFes, set_bag_self]

/-- Removing a sink leaves the other bags as they are. -/
theorem drop_fes_bag_of_ne (s : FdBags B S) {b b' : B} (f : S) (hb : b' ≠ b) :
    (s.dropFes b f).bags b' = s.bags b' := by
  simp only [dropFes, set_bag_of_ne _ _ hb, set_sink_bags]
  split <;> rfl

/-- What removing an attached sink does to the sinks: the last one moves. -/
theorem Sound.drop_fes_sinks (h : s.Sound pollable) (howner : (s.sinks f).owner = some b) :
    ∃ moved, s.slotIn b moved = some ((s.bags b).fesCount - 1) ∧
      ∀ g, (s.dropFes b f).sinks g =
        if g = f then { s.sinks f with owner := none, idx := sizeMax }
        else if g = moved then { s.sinks g with idx := (s.sinks f).idx } else s.sinks g := by
  obtain ⟨hlt, hslot⟩ := h.in_slot howner
  have hcount := (h.dense b).count_le
  have hlast : (s.bags b).fesCount - 1 < (s.bags b).fesv.length := by omega
  have hget := List.getElem?_eq_getElem hlast
  refine ⟨_, ((h.dense b).slot_iff _ _).2 ⟨by omega, hget⟩, fun g => ?_⟩
  have hmoved := getElem?_swap_slots (show (s.sinks f).idx < (s.bags b).fesv.length by omega)
    hlast (s.sinks f).idx
  rw [if_pos rfl] at hmoved
  have hfound : (swapSlots (s.bags b).fesv (s.sinks f).idx ((s.bags b).fesCount - 1))[
      (s.sinks f).idx]? = some (s.bags b).fesv[(s.bags b).fesCount - 1] := by
    rw [hmoved]
    split
    next heq => rw [← hget, heq]
    next => exact hget
  simp only [dropFes, hfound, set_bag_sinks]
  by_cases hg : g = f
  · subst hg
    rw [set_sink_self, if_pos rfl]
    by_cases hlastg : g = (s.bags b).fesv[(s.bags b).fesCount - 1]
    · rw [← hlastg, set_sink_self]
    · rw [set_sink_of_ne _ _ hlastg]
  · rw [set_sink_of_ne _ _ hg, if_neg hg]
    split
    next hlastg =>
      rw [← hlastg, set_sink_self]
    next hlastg => rw [set_sink_of_ne _ _ hlastg]

/-- The slots that the sinks know when one is removed. -/
theorem Sound.slot_in_drop_fes (h : s.Sound pollable) (howner : (s.sinks f).owner = some b) (b' : B)
    (g : S) :
    (s.dropFes b f).slotIn b' g =
      if b' = b then
        if g = f then none
        else if s.slotIn b g = some ((s.bags b).fesCount - 1) then some (s.sinks f).idx
        else s.slotIn b g
      else s.slotIn b' g := by
  obtain ⟨moved, hmoved, hsinks⟩ := h.drop_fes_sinks howner
  have hmovedIn : (s.sinks moved).owner = some b := by
    by_contra hnot
    simp [slotIn, hnot] at hmoved
  rw [slotIn, hsinks g]
  by_cases hg : g = f
  · subst hg
    by_cases hb : b' = b
    · simp [hb]
    · simp [slotIn, howner, hb, Ne.symm hb]
  · rw [if_neg hg, if_neg hg]
    by_cases hgm : g = moved
    · subst hgm
      by_cases hb : b' = b
      · simp [hb, hmovedIn, hmoved]
      · simp [slotIn, hb, hmovedIn, Ne.symm hb]
    · have hother : s.slotIn b g ≠ some ((s.bags b).fesCount - 1) := fun hlast =>
        hgm ((h.dense b).eq_of_slot hlast hmoved)
      rw [if_neg hgm, if_neg hother]
      by_cases hb : b' = b
      · rw [if_pos hb, hb, slotIn]
      · rw [if_neg hb, slotIn]

/-- A sink that is removed takes no other with it. -/
theorem Sound.drop_fes (h : s.Sound pollable) (howner : (s.sinks f).owner = some b) :
    (s.dropFes b f).Sound pollable := by
  have hslots := h.slot_in_drop_fes howner
  have hbag := drop_fes_bag s b f
  refine h.of_bag b (fun b' => drop_fes_bag_of_ne s f)
    (fun b' hb g => by rw [hslots b' g, if_neg hb]) (fun g => ?_) ?_ fun hidle => ?_
  · obtain ⟨moved, -, hsinks⟩ := h.drop_fes_sinks howner
    rw [hsinks g]
    by_cases hg : g = f
    · simp [hg]
    · rw [if_neg hg]
      split <;> rfl
  · have hcount := (h.dense b).count_le
    have hslotIn : s.slotIn b f = some (s.sinks f).idx := by simp [slotIn, howner]
    have hremove := (h.dense b).swap_remove hslotIn
    rw [hbag]
    refine hremove.congr ?_ (fun i hi => ?_) fun g => by rw [hslots b g, if_pos rfl]
    · dsimp only
      split
      · exact hremove.count_le
      · simp
        omega
    · dsimp only
      split
      · rfl
      · rw [List.getElem?_dropLast, if_pos (by rw [length_swap_slots]; omega)]
  · rw [hbag] at hidle ⊢
    have hexact := h.exact b hidle
    have hidle : (s.bags b).dispatchInProgress = false := hidle
    simp [hidle, hexact]

/-- The bag is still dispatching, and what was in its vector still is. -/
structure Retains (s s' : FdBags B S) (b : B) : Prop where
  busy : (s'.bags b).dispatchInProgress = true
  mem : ∀ f ∈ (s.bags b).fesv, f ∈ (s'.bags b).fesv

omit [DecidableEq B] [DecidableEq S] in
/-- A bag that stays the same lets nothing go. -/
theorem Retains.of_bag_eq (hbusy : (s.bags b).dispatchInProgress = true)
    (hbag : s'.bags b = s.bags b) : s.Retains s' b :=
  ⟨hbag ▸ hbusy, fun _ hf => hbag ▸ hf⟩

omit [DecidableEq B] [DecidableEq S] in
/-- A bag that lets nothing go twice has let nothing go. -/
theorem Retains.trans {s'' : FdBags B S} (h : s.Retains s' b) (h' : s'.Retains s'' b) :
    s.Retains s'' b :=
  ⟨h'.busy, fun f hf => h'.mem f (h.mem f hf)⟩

/-- The state after sinks were removed or closed: nothing is called, no sink gets into a bag, and
only sinks that were removed get behind the slots. A bag that is dispatching lets nothing go. -/
structure Shrunk (s s' : FdBags B S) : Prop where
  calls : s'.calls = s.calls
  owner (b : B) (f : S) : (s'.sinks f).owner = some b → (s.sinks f).owner = some b
  behind (b : B) (f : S) : f ∈ s'.behind b →
    f ∈ s.behind b ∨ (s.sinks f).owner = some b ∧ (s'.sinks f).owner ≠ some b
  retains (b : B) : (s.bags b).dispatchInProgress = true → s.Retains s' b

omit [DecidableEq B] [DecidableEq S] in
/-- Nothing need be removed. -/
theorem Shrunk.rfl : s.Shrunk s :=
  ⟨Eq.refl _, fun _ _ => id, fun _ _ => .inl, fun _ hbusy => .of_bag_eq hbusy (Eq.refl _)⟩

omit [DecidableEq B] [DecidableEq S] in
/-- Sinks are removed one after the other. -/
theorem Shrunk.trans {s'' : FdBags B S} (h : s.Shrunk s') (h' : s'.Shrunk s'') :
    s.Shrunk s'' where
  calls := h'.calls.trans h.calls
  owner b f howner := h.owner b f (h'.owner b f howner)
  behind b f hbehind := by
    obtain hin | ⟨howner, hout⟩ := h'.behind b f hbehind
    · exact (h.behind b f hin).imp_right fun ⟨howner, hout⟩ =>
        ⟨howner, fun howner' => hout (h'.owner b f howner')⟩
    · exact .inr ⟨h.owner b f howner, hout⟩
  retains b hbusy :=
    have hretains := h.retains b hbusy
    hretains.trans (h'.retains b hretains.busy)

omit [DecidableEq B] in
/-- A change of a sink that keeps its bag removes nothing. -/
theorem set_sink_shrunk {sink : FdEventSink B S} (howner : sink.owner = (s.sinks f).owner) :
    s.Shrunk (s.setSink f sink) := by
  refine ⟨rfl, fun b g hg => ?_, fun _ _ => .inl, fun _ hbusy => .of_bag_eq hbusy rfl⟩
  by_cases heq : g = f
  · subst heq
    rwa [set_sink_self, howner] at hg
  · rwa [set_sink_of_ne _ _ heq] at hg

omit [DecidableEq B] in
/-- A stand-in that changes removes nothing. -/
theorem set_standin_shrunk (s : FdBags B S) (f : S) (nonPollableStandin : Standin S) :
    s.Shrunk (s.setSink f { s.sinks f with nonPollableStandin }) :=
  set_sink_shrunk rfl

/-- Removing a sink takes its bag from it, and from no other. -/
theorem Sound.drop_fes_owner (h : s.Sound pollable) (howner : (s.sinks f).owner = some b) (g : S) :
    ((s.dropFes b f).sinks g).owner = if g = f then none else (s.sinks g).owner := by
  obtain ⟨moved, -, hsinks⟩ := h.drop_fes_sinks howner
  rw [hsinks g]
  split
  · rfl
  · split <;> rfl

/-- Only the sink that is removed gets behind the slots, and only while its bag is dispatching. -/
theorem Sound.mem_behind_drop_fes (h : s.Sound pollable) (howner : (s.sinks f).owner = some b)
    {g : S} (hg : g ∈ (s.dropFes b f).behind b) :
    g = f ∨ g ∈ s.behind b := by
  obtain ⟨hlt, hslot⟩ := h.in_slot howner
  rw [behind, drop_fes_bag] at hg
  cases hbusy : (s.bags b).dispatchInProgress with
  | true =>
      rw [hbusy, if_pos rfl] at hg
      exact mem_drop_swap_remove (h.dense b).count_le hlt hslot hg
  | false =>
      have hexact := h.exact b hbusy
      rw [hbusy, if_neg Bool.false_ne_true, List.drop_eq_nil_of_le (by simp [hexact])] at hg
      exact absurd hg List.not_mem_nil

/-- Removing a sink only removes it. -/
theorem Sound.drop_fes_shrunk (h : s.Sound pollable) (howner : (s.sinks f).owner = some b) :
    s.Shrunk (s.dropFes b f) := by
  refine ⟨?_, fun b' g hg => ?_, fun b' g hg => ?_, fun b' hbusy => ?_⟩
  · simp only [dropFes, set_bag_calls, set_sink_calls]
    split <;> rfl
  · rw [h.drop_fes_owner howner g] at hg
    split at hg
    · cases hg
    · exact hg
  · by_cases hb : b' = b
    · subst hb
      obtain rfl | hin := h.mem_behind_drop_fes howner hg
      · exact .inr ⟨howner, by rw [h.drop_fes_owner howner, if_pos rfl]; nofun⟩
      · exact .inl hin
    · rw [behind, drop_fes_bag_of_ne s f hb] at hg
      exact .inl hg
  · by_cases hb : b' = b
    · subst hb
      have hbag := drop_fes_bag s b' f
      rw [hbusy, if_pos rfl] at hbag
      refine ⟨by rw [hbag]; exact hbusy, fun g hg => ?_⟩
      rw [hbag]
      exact (perm_swap_slots ..).mem_iff.2 hg
    · exact .of_bag_eq hbusy (drop_fes_bag_of_ne s f hb)

/-- What a stand-in does with itself leaves the other sinks where they are. -/
theorem Sound.standin_act (h : s.Sound pollable) (act : SinkAct) :
    (standinAct f s act).Sound pollable ∧ s.Shrunk (standinAct f s act) ∧
      ∀ g ≠ f, ((standinAct f s act).sinks g).owner = (s.sinks g).owner := by
  cases act with
  | setClosed isClosed =>
      refine ⟨h.set_sink rfl rfl (h.no_standin f) (h.standin_pollable f), set_sink_shrunk rfl,
        fun g hg => ?_⟩
      rw [standinAct, set_sink_of_ne _ _ hg]
  | remove fails =>
      rw [standinAct]
      split
      next => exact ⟨h, .rfl, fun _ _ => rfl⟩
      next b howner =>
        rw [h.slot_of howner]
        cases fails with
        | true => exact ⟨h, .rfl, fun _ _ => rfl⟩
        | false =>
            refine ⟨h.drop_fes howner, h.drop_fes_shrunk howner, fun g hg => ?_⟩
            exact (h.drop_fes_owner howner g).trans (if_neg hg)

/-- What a stand-in does with itself, again and again, leaves the other sinks where they are. -/
theorem Sound.standin_acts (h : s.Sound pollable) (closing : List SinkAct) :
    (closing.foldl (standinAct f) s).Sound pollable ∧
      s.Shrunk (closing.foldl (standinAct f) s) ∧
      ∀ g ≠ f, ((closing.foldl (standinAct f) s).sinks g).owner = (s.sinks g).owner := by
  induction closing generalizing s with
  | nil => exact ⟨h, .rfl, fun _ _ => rfl⟩
  | cons act closing ih =>
      obtain ⟨hact, hshrunk, hothers⟩ := h.standin_act (f := f) act
      obtain ⟨hrest, hshrunk', hothers'⟩ := ih hact
      exact ⟨hrest, hshrunk.trans hshrunk', fun g hg => (hothers' g hg).trans (hothers g hg)⟩

/-- A sink is removed after its stand-in. -/
theorem Sound.clear_standin (h : s.Sound pollable) (howner : (s.sinks f).owner = some b) :
    ((s.setSink f { s.sinks f with nonPollableStandin := .none }).dropFes b f).Sound pollable ∧
      s.Shrunk ((s.setSink f { s.sinks f with nonPollableStandin := .none }).dropFes b f) := by
  have hset : (s.setSink f { s.sinks f with nonPollableStandin := .none }).Sound pollable :=
    h.set_sink rfl rfl (fun _ => rfl) nofun
  have howner' : ((s.setSink f { s.sinks f with nonPollableStandin := .none }).sinks f).owner =
      some b := by rw [set_sink_self, howner]
  exact ⟨hset.drop_fes howner', (set_standin_shrunk s f .none).trans (hset.drop_fes_shrunk howner')⟩

/-- `remove_fes` removes the sink and its stand-in at most. -/
theorem Sound.remove_fes (h : s.Sound pollable) (howner : (s.sinks f).owner = some b)
    (closing : List SinkAct) (fails : Bool) :
    (s.removeFes closing fails b f).Sound pollable ∧ s.Shrunk (s.removeFes closing fails b f) := by
  rw [removeFes, h.slot_of howner]
  dsimp only
  split
  next =>
    split
    · exact ⟨h, .rfl⟩
    · exact ⟨h.drop_fes howner, h.drop_fes_shrunk howner⟩
  next => exact h.clear_standin howner
  next e he =>
    have hne : f ≠ e := by
      rintro rfl
      rw [h.no_standin f (h.standin_pollable f f he)] at he
      cases he
    -- the sink is still in the bag when its stand-in has gone
    obtain ⟨hclosed, hshrunk, hothers⟩ := h.standin_acts (f := e) closing
    obtain ⟨hsound, hshrunk'⟩ := hclosed.clear_standin ((hothers f hne).trans howner)
    exact ⟨hsound, hshrunk.trans hshrunk'⟩

/-- The state after sinks were attached to the bag: nothing is called, nothing gets behind the
slots, and a bag that is dispatching lets nothing go. -/
structure Grown (s : FdBags B S) (b : B) (attached : S → Prop) (s' : FdBags B S) : Prop where
  calls : s'.calls = s.calls
  owner (b' : B) (f : S) :
    (s'.sinks f).owner = some b' → (s.sinks f).owner = some b' ∨ b' = b ∧ attached f
  behind (b' : B) (f : S) : f ∈ s'.behind b' → f ∈ s.behind b'
  retains (b' : B) : (s.bags b').dispatchInProgress = true → s.Retains s' b'

namespace Grown

omit [DecidableEq B] [DecidableEq S]

variable {s'' : FdBags B S} {attached attached' : S → Prop}

/-- Nothing need be attached. -/
theorem rfl : s.Grown b attached s :=
  ⟨Eq.refl _, fun _ _ => .inl, fun _ _ => id, fun _ hbusy => .of_bag_eq hbusy (Eq.refl _)⟩

/-- Sinks are attached one after the other. -/
theorem trans (h : s.Grown b attached s') (h' : s'.Grown b attached s'') :
    s.Grown b attached s'' where
  calls := h'.calls.trans h.calls
  owner b' f howner := (h'.owner b' f howner).elim (h.owner b' f) .inr
  behind b' f hbehind := h.behind b' f (h'.behind b' f hbehind)
  retains b' hbusy :=
    have hretains := h.retains b' hbusy
    hretains.trans (h'.retains b' hretains.busy)

/-- Not everything that may be attached need be. -/
theorem mono (h : s.Grown b attached s') (hattached : ∀ f, attached f → attached' f) :
    s.Grown b attached' s' where
  calls := h.calls
  owner b' f howner := (h.owner b' f howner).imp_right fun ⟨hb, hf⟩ => ⟨hb, hattached f hf⟩
  behind := h.behind
  retains := h.retains

end Grown

omit [DecidableEq B] in
/-- A stand-in that changes attaches nothing. -/
theorem set_standin_grown (s : FdBags B S) (f : S) (nonPollableStandin : Standin S)
    {attached : S → Prop} :
    s.Grown b attached (s.setSink f { s.sinks f with nonPollableStandin }) :=
  ⟨rfl, fun b' g hg => .inl ((set_standin_shrunk s f nonPollableStandin).owner b' g hg),
    fun _ _ => id, (set_standin_shrunk s f nonPollableStandin).retains⟩

/-- A sink that is put into a slot is attached, and no other. -/
theorem Sound.insert_fes_grown (h : s.Sound pollable) (hinsert : s.insertFes b f = some s') :
    s.Grown b (· = f) s' := by
  obtain ⟨-, rfl⟩ := insert_fes_eq hinsert
  refine ⟨rfl, fun b' g hg => ?_, fun b' g hg => ?_, fun b' hbusy => ?_⟩
  · rw [set_bag_sinks] at hg
    by_cases heq : g = f
    · subst heq
      rw [set_sink_self] at hg
      exact .inr ⟨(Option.some.inj hg).symm, rfl⟩
    · rw [set_sink_of_ne _ _ heq] at hg
      exact .inl hg
  · by_cases hb : b' = b
    · subst hb
      rw [behind, set_bag_self] at hg
      exact mem_drop_push (h.dense b').count_le hg
    · rwa [behind, set_bag_of_ne _ _ hb] at hg
  · by_cases hb : b' = b
    · subst hb
      refine ⟨by rw [set_bag_self]; exact hbusy, fun g hg => ?_⟩
      rw [set_bag_self]
      exact (perm_swap_slots ..).mem_iff.2 (List.mem_append_left _ hg)
    · exact .of_bag_eq hbusy (set_bag_of_ne _ _ hb)

/-- An eventfd can be polled. -/
theorem Sound.attach_fes (h : s.Sound pollable) {eventfd : Option S}
    (heventfd : ∀ e ∈ eventfd, pollable e = true) :
    (s.attachFes pollable b f eventfd).Sound pollable := by
  rw [attachFes]
  split
  next => exact h
  next s₁ hinsert =>
    have h₁ := h.insert_fes hinsert
    split
    next => exact h₁
    next hpoll =>
      split
      next => exact h₁
      next e =>
        split
        next => exact h₁.set_sink rfl rfl (fun hf => absurd hf hpoll) nofun
        next s₂ hinsert₂ =>
          refine (h₁.insert_fes hinsert₂).set_sink rfl rfl (fun hf => absurd hf hpoll) ?_
          rintro e ⟨⟩
          exact heventfd e rfl

/-- `attach_fes` attaches the sink and its eventfd at most. -/
theorem Sound.attach_fes_grown (h : s.Sound pollable) {eventfd : Option S} :
    s.Grown b (fun g => g = f ∨ eventfd = some g) (s.attachFes pollable b f eventfd) := by
  rw [attachFes]
  split
  next => exact .rfl
  next s₁ hinsert =>
    have h₁ := h.insert_fes hinsert
    have hgrown := (h.insert_fes_grown hinsert).mono fun g => Or.inl (b := eventfd = some g)
    split
    next => exact hgrown
    next =>
      split
      next => exact hgrown
      next e =>
        split
        next => exact hgrown.trans (set_standin_grown s₁ f .errorFes)
        next s₂ hinsert₂ =>
          have hgrown₂ := (h₁.insert_fes_grown hinsert₂).mono fun g (hg : g = e) =>
            Or.inr (a := g = f) (congrArg some hg.symm)
          exact (hgrown.trans hgrown₂).trans (set_standin_grown s₂ f (.sink e))

end FdBags

end Codon.Net
