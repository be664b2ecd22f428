import Codon.Net.FdSlots

/-!
# Dispatches of bags that change

A dispatch calls only sinks that are attached to its bag when their event is taken, and what was
removed leaves the vector when it ends. A sink that is removed before its turn is skipped, unless it
is attached again in time.
-/

namespace Codon.Net

open Codon.Library

namespace FdBags

variable {B S : Type} [DecidableEq B] {s s' : FdBags B S} {b : B} {f : S} {pollable : S → Bool}

/-- The end of a dispatch puts nothing behind the slots. -/
theorem mem_behind_finish (s : FdBags B S) (b b' : B) (f : S) (hf : f ∈ (s.finish b).behind b') :
    f ∈ s.behind b' := by
  by_cases hb : b' = b
  · subst hb
    rw [behind, FdBags.finish, set_bag_self, List.drop_eq_nil_of_le (List.length_take_le _ _)] at hf
    exact absurd hf List.not_mem_nil
  · rwa [behind, FdBags.finish, set_bag_of_ne _ _ hb] at hf

/-- The start of a dispatch puts nothing behind the slots. -/
theorem mem_behind_begin_dispatch (s : FdBags B S) (b : B) (epollScratch : List S) (b' : B) (f : S)
    (hf : f ∈ (s.setBag b { s.bags b with epollScratch, dispatchInProgress := true }).behind b') :
    f ∈ s.behind b' := by
  by_cases hb : b' = b
  · subst hb
    rwa [behind, set_bag_self] at hf
  · rwa [behind, set_bag_of_ne _ _ hb] at hf

/-- A dispatch that begins leaves the vectors as they are. -/
theorem retains_begin_dispatch (s : FdBags B S) (b : B) (epollScratch : List S)
    (dispatches : List (Dispatching B S)) (b' : B)
    (hbusy : (s.bags b').dispatchInProgress = true) :
    s.Retains { s.setBag b { s.bags b with epollScratch, dispatchInProgress := true } with
      dispatches } b' := by
  by_cases hb : b' = b
  · subst hb
    refine ⟨?_, fun f hf => ?_⟩
    · rw [set_bag_self]
    · rwa [set_bag_self]
  · exact .of_bag_eq hbusy (set_bag_of_ne _ _ hb)

namespace Sound

/-- At the end of a dispatch only what is attached is left in the vector. -/
theorem finish (h : s.Sound pollable) (b : B) : (s.finish b).Sound pollable := by
  refine h.of_bag b (fun b' hb => set_bag_of_ne _ _ hb) (fun _ _ _ => rfl) (fun _ => rfl) ?_
    fun _ => ?_
  · have hcount := (h.dense b).count_le
    rw [FdBags.finish, set_bag_self]
    refine (h.dense b).congr (by simp [hcount]) (fun i hi => ?_) fun _ => rfl
    exact List.getElem?_take_of_lt hi
  · rw [FdBags.finish, set_bag_self]
    exact List.length_take_of_le (h.dense b).count_le

/-- A bag that begins to dispatch keeps its slots. -/
theorem begin_dispatch (h : s.Sound pollable) (b : B) (epollScratch : List S)
    (dispatches : List (Dispatching B S)) :
    { s.setBag b { s.bags b with epollScratch, dispatchInProgress := true } with
      dispatches }.Sound pollable := by
  refine h.of_bag b (fun b' hb => set_bag_of_ne _ _ hb) (fun _ _ _ => rfl) (fun _ => rfl) ?_ ?_
  · rw [set_bag_self]
    exact h.dense b
  · simp

/-- What is called and what is going on does not matter for the slots. -/
theorem with_dispatches (h : s.Sound pollable) (dispatches : List (Dispatching B S))
    (calls : List (B × S)) : { s with dispatches, calls }.Sound pollable :=
  ⟨h.dense, h.exact, h.no_standin, h.standin_pollable⟩

end Sound

variable [DecidableEq S] in
/-- What a round of the loop can do: end the dispatch, skip an event, or call a sink that is
attached to the bag. -/
theorem take_turn_cases {d : Dispatching B S} {outer : List (Dispatching B S)} {ev : Bool}
    (hturn : s.takeTurn d outer ev = some s') :
    s' = { s.finish d.bag with dispatches := outer } ∨
      ∃ d', s' = { s with dispatches := d' :: outer } ∨
        ∃ f, (s.sinks f).owner = some d.bag ∧
          s' = { s with dispatches := d' :: outer, calls := s.calls ++ [(d.bag, f)] } := by
  rw [takeTurn] at hturn
  split at hturn
  next =>
    cases hturn
    exact .inl rfl
  next f hevent =>
    dsimp only at hturn
    split_ifs at hturn with hreadable hfree hev
    · cases hturn
      exact .inr ⟨_, .inl rfl⟩
    · cases hturn
      exact .inr ⟨_, .inl rfl⟩
    · simp only [Option.bind_eq_bind, Option.bind_eq_some_iff, fsw_assert_eq_some] at hturn
      obtain ⟨-, howner, -, -, -, -, hturn⟩ := hturn
      cases hturn
      exact .inr ⟨_, .inr ⟨f, howner, rfl⟩⟩

variable [DecidableEq S] in
/-- A round of the loop keeps the slots. -/
theorem Sound.take_turn (h : s.Sound pollable) {d : Dispatching B S}
    {outer : List (Dispatching B S)} {ev : Bool} (hturn : s.takeTurn d outer ev = some s') :
    s'.Sound pollable := by
  obtain rfl | ⟨d', rfl | ⟨f, -, rfl⟩⟩ := take_turn_cases hturn
  · exact (h.finish d.bag).with_dispatches outer s.calls
  · exact h.with_dispatches _ s.calls
  · exact h.with_dispatches _ _

/-- The slots of a bag and what its sinks know of them. -/
structure InSlots (s : FdBags B S) (b : B) : Prop where
  held (i : Nat) : i < (s.bags b).fesCount →
    ∃ f, (s.bags b).fesv[i]? = some f ∧ (s.sinks f).owner = some b ∧ (s.sinks f).idx = i
  attached (f : S) : (s.sinks f).owner = some b →
    (s.sinks f).idx < (s.bags b).fesCount ∧ (s.bags b).fesv[(s.sinks f).idx]? = some f
  once (f : S) (i : Nat) : (s.sinks f).owner = some b → (s.bags b).fesv[i]? = some f →
    i = (s.sinks f).idx ∨ f ∈ s.behind b
  removed (f : S) (i : Nat) : (s.sinks f).owner ≠ some b → (s.bags b).fesv[i]? = some f →
    (s.bags b).fesCount ≤ i
  exact : (s.bags b).dispatchInProgress = false → s.behind b = []

/-- In a sound state the slots hold what they are to hold. -/
theorem Sound.in_slots (h : s.Sound pollable) (b : B) : s.InSlots b where
  held i hi := by
    have hget := List.getElem?_eq_getElem (Nat.lt_of_lt_of_le hi (h.dense b).count_le)
    have hslot := (h.dense b).slot_of_getElem? hi hget
    refine ⟨_, hget, ?_⟩
    rw [slotIn] at hslot
    split at hslot
    next howner => exact ⟨howner, Option.some.inj hslot⟩
    next => cases hslot
  attached f howner := h.in_slot howner
  once f i howner hi := by
    by_cases hlt : i < (s.bags b).fesCount
    · have hslot := (h.dense b).slot_of_getElem? hlt hi
      rw [slotIn, if_pos howner] at hslot
      exact .inl (Option.some.inj hslot).symm
    · exact .inr (mem_drop_iff.2 ⟨i, Nat.le_of_not_lt hlt, hi⟩)
  removed f i howner hi := by
    by_contra hlt
    have hslot := (h.dense b).slot_of_getElem? (Nat.lt_of_not_le hlt) hi
    rw [slotIn, if_neg howner] at hslot
    cases hslot
  exact hidle := List.drop_eq_nil_of_le (Nat.le_of_eq (h.exact b hidle))

variable [DecidableEq S]

/-- The operation attaches the sink to the bag, itself or as a stand-in. -/
def Op.Attaches (b : B) (f : S) : Op B S → Prop
  | .attach b' f' eventfd => b' = b ∧ (f' = f ∨ eventfd = some f)
  | _ => False

/-- A dispatch of the bag ends. -/
def Ends (s s' : FdBags B S) (b : B) : Prop :=
  ∃ d outer, s.dispatches = d :: outer ∧ d.bag = b ∧ s'.dispatches = outer

/-- A step calls only sinks that are attached to the bag, only `attach_fes` attaches a sink, and
only a sink that is removed gets behind the slots. While a bag dispatches, nothing leaves its vector
until a dispatch of it ends. -/
structure Effect (s : FdBags B S) (op : Op B S) (s' : FdBags B S) : Prop where
  calls : ∃ calls, s'.calls = s.calls ++ calls ∧ ∀ b f, (b, f) ∈ calls → (s.sinks f).owner = some b
  owner (b : B) (f : S) :
    (s'.sinks f).owner = some b → (s.sinks f).owner = some b ∨ op.Attaches b f
  behind (b : B) (f : S) : f ∈ s'.behind b →
    f ∈ s.behind b ∨ (s.sinks f).owner = some b ∧ (s'.sinks f).owner ≠ some b
  retains (b : B) : (s.bags b).dispatchInProgress = true → s.Retains s' b ∨ s.Ends s' b

section

omit [DecidableEq B] [DecidableEq S]

variable {op : Op B S}

/-- Removing sinks is an effect that a step may have. -/
theorem Shrunk.effect (h : s.Shrunk s') : s.Effect op s' where
  calls := ⟨[], by rw [h.calls, List.append_nil], by simp⟩
  owner b f howner := .inl (h.owner b f howner)
  behind := h.behind
  retains b hbusy := .inl (h.retains b hbusy)

/-- Attaching sinks is the effect of attaching them. -/
theorem Grown.effect {eventfd : Option S}
    (h : s.Grown b (fun g => g = f ∨ eventfd = some g) s') :
    s.Effect (.attach b f eventfd) s' where
  calls := ⟨[], by rw [h.calls, List.append_nil], by simp⟩
  owner b' g howner :=
    (h.owner b' g howner).imp_right fun ⟨hb, hfes⟩ => ⟨hb.symm, hfes.imp_left Eq.symm⟩
  behind b' g hbehind := .inl (h.behind b' g hbehind)
  retains b' hbusy := .inl (h.retains b' hbusy)

/-- A step that leaves all sinks and calls none has hardly an effect. -/
theorem Effect.of_same (hcalls : s'.calls = s.calls) (hsinks : s'.sinks = s.sinks)
    (hbehind : ∀ b f, f ∈ s'.behind b → f ∈ s.behind b)
    (hretains : ∀ b, (s.bags b).dispatchInProgress = true → s.Retains s' b ∨ s.Ends s' b) :
    s.Effect op s' where
  calls := ⟨[], by rw [hcalls, List.append_nil], by simp⟩
  owner b f howner := .inl (by rwa [hsinks] at howner)
  behind b f hmem := .inl (hbehind b f hmem)
  retains := hretains

end

/-- `detach_fes` removes the sink and its stand-in at most. -/
theorem Sound.detach_fes (h : s.Sound pollable) (b : B) (f : S) (closing : List SinkAct)
    (fails : Bool) :
    (s.detachFes closing fails b f).Sound pollable ∧ s.Shrunk (s.detachFes closing fails b f) := by
  rw [detachFes]
  split_ifs with _ howner
  · exact ⟨h, .rfl⟩
  · exact ⟨h, .rfl⟩
  · exact ⟨h, .rfl⟩
  · exact h.remove_fes (by simpa using howner) closing fails
  · exact ⟨h, .rfl⟩

/-- What every step keeps and what it calls. -/
theorem Sound.step (h : s.Sound pollable) {op : Op B S} (hstep : s.step pollable op = some s') :
    s'.Sound pollable ∧ s.Effect op s' := by
  cases op with
  | attach b f eventfd =>
      simp only [FdBags.step] at hstep
      split at hstep
      next heventfd =>
        cases hstep
        exact ⟨h.attach_fes fun e he => (heventfd e he).1, h.attach_fes_grown.effect⟩
      next => cases hstep
  | detach b f closing fails =>
      cases hstep
      obtain ⟨hsound, hshrunk⟩ := h.detach_fes b f closing fails
      exact ⟨hsound, hshrunk.effect⟩
  | setClosed f isClosed =>
      cases hstep
      refine ⟨h.set_sink rfl rfl (h.no_standin f) (h.standin_pollable f),
        (set_sink_shrunk ?_).effect⟩
      rfl
  | setHeld f isHeld =>
      cases hstep
      refine ⟨h.set_sink rfl rfl (h.no_standin f) (h.standin_pollable f),
        (set_sink_shrunk ?_).effect⟩
      rfl
  | remove f closing fails =>
      obtain ⟨b, howner, hstep⟩ := Option.bind_eq_some_iff.1 hstep
      cases hstep
      obtain ⟨hsound, hshrunk⟩ := h.remove_fes howner closing fails
      exact ⟨hsound, hshrunk.effect⟩
  | dispatch b events =>
      cases hstep
      exact ⟨h.begin_dispatch b (s.bags b).epollScratch _,
        .of_same rfl rfl (mem_behind_begin_dispatch s b _) fun b' hbusy =>
          .inl (retains_begin_dispatch s b _ _ b' hbusy)⟩
  | select b events =>
      cases hstep
      exact ⟨h.begin_dispatch b _ _,
        .of_same rfl rfl (mem_behind_begin_dispatch s b _) fun b' hbusy =>
          .inl (retains_begin_dispatch s b _ _ b' hbusy)⟩
  | turn ev =>
      simp only [FdBags.step] at hstep
      split at hstep
      next => cases hstep
      next d outer hdispatches =>
        split at hstep
        next => cases hstep
        next =>
          -- a round ends the dispatch, skips its event or calls the sink
          refine ⟨h.take_turn hstep, ?_⟩
          obtain rfl | ⟨d', rfl | ⟨f, howner, rfl⟩⟩ := take_turn_cases hstep
          · -- the end clears only what is behind the slots of its own bag
            refine .of_same rfl rfl (mem_behind_finish s d.bag) fun b hbusy => ?_
            by_cases hb : b = d.bag
            · exact .inr ⟨d, outer, hdispatches, hb.symm, rfl⟩
            · exact .inl (.of_bag_eq hbusy (set_bag_of_ne _ _ hb))
          · exact .of_same rfl rfl (fun _ _ => id) fun _ hbusy => .inl (.of_bag_eq hbusy rfl)
          · refine ⟨⟨_, rfl, fun b g hg => ?_⟩, fun _ _ => .inl, fun _ _ => .inl,
              fun _ hbusy => .inl (.of_bag_eq hbusy rfl)⟩
            cases List.mem_singleton.1 hg
            exact howner
  | ret =>
      simp only [FdBags.step] at hstep
      split at hstep
      next => cases hstep
      next d outer hdispatches =>
        split at hstep
        next =>
          cases hstep
          exact ⟨h.with_dispatches _ s.calls,
            .of_same rfl rfl (fun _ _ => id) fun _ hbusy => .inl (.of_bag_eq hbusy rfl)⟩
        next => cases hstep

/-- Every run keeps the slots of all bags. -/
theorem Sound.run (h : s.Sound pollable) {ops : List (Op B S)}
    (hrun : ops.foldlM (FdBags.step pollable) s = some s') : s'.Sound pollable :=
  foldlM_invariant hrun h fun _ _ _ _ hsound hstep => (hsound.step hstep).1

/-- A sink that is not attached to a bag is not called by it before it is attached. -/
theorem Sound.not_called (h : s.Sound pollable) {ops : List (Op B S)}
    (hrun : ops.foldlM (FdBags.step pollable) s = some s') (howner : (s.sinks f).owner ≠ some b)
    (hops : ∀ op ∈ ops, ¬ op.Attaches b f) :
    ∃ calls, s'.calls = s.calls ++ calls ∧ (b, f) ∉ calls := by
  have hall := foldlM_invariant (P := fun s' => s'.Sound pollable ∧ (s'.sinks f).owner ≠ some b ∧
      ∃ calls, s'.calls = s.calls ++ calls ∧ (b, f) ∉ calls) hrun
    ⟨h, howner, [], by simp, by simp⟩ ?_
  · exact hall.2.2
  rintro s₁ s₂ op hop ⟨hsound, hout, calls, hcalls, hnot⟩ hstep
  obtain ⟨hsound', ⟨calls', hcalls', hcalled⟩, howner'⟩ := hsound.step hstep
  refine ⟨hsound', fun hin => ?_, calls ++ calls', by rw [hcalls', hcalls, List.append_assoc], ?_⟩
  · exact (howner' b f hin).elim hout (hops op hop)
  · rw [List.mem_append, not_or]
    exact ⟨hnot, fun hmem => hout (hcalled b f hmem)⟩

/-- A sink that has got behind the slots of a bag has been removed from it. -/
theorem Sound.removed (h : s.Sound pollable) {ops : List (Op B S)}
    (hrun : ops.foldlM (FdBags.step pollable) s = some s') (hbehind : f ∈ s'.behind b)
    (hnot : f ∉ s.behind b) :
    ∃ earlier op s₁ s₂, earlier ++ [op] <+: ops ∧
      earlier.foldlM (FdBags.step pollable) s = some s₁ ∧ s₁.step pollable op = some s₂ ∧
      (s₁.sinks f).owner = some b ∧ (s₂.sinks f).owner ≠ some b := by
  obtain ⟨earlier, op, s₁, s₂, hfirst, hearlier, hstep, hin, hout⟩ :=
    foldlM_exists_round (P := fun s => f ∉ s.behind b) hrun hnot (not_not.2 hbehind)
  obtain ⟨-, heffect⟩ := (h.run hearlier).step hstep
  obtain hbefore | ⟨howner, hfree⟩ := heffect.behind b f (not_not.1 hout)
  · exact absurd hbefore hin
  · exact ⟨earlier, op, s₁, s₂, hfirst, hearlier, hstep, howner, hfree⟩

/-- While a bag dispatches, a sink leaves its vector, and may be gone with it, only when a dispatch
of the bag ends: that of the events themselves, or one that a callback has begun. -/
theorem Sound.let_go (h : s.Sound pollable) {ops : List (Op B S)}
    (hrun : ops.foldlM (FdBags.step pollable) s = some s')
    (hbusy : (s.bags b).dispatchInProgress = true) (hf : f ∈ (s.bags b).fesv)
    (hgone : f ∉ (s'.bags b).fesv) :
    ∃ earlier op s₁ s₂, earlier ++ [op] <+: ops ∧
      earlier.foldlM (FdBags.step pollable) s = some s₁ ∧ s₁.step pollable op = some s₂ ∧
      s₁.Ends s₂ b := by
  obtain ⟨earlier, op, s₁, s₂, hfirst, hearlier, hstep, ⟨hbusy₁, hin⟩, hout⟩ :=
    foldlM_exists_round
      (P := fun s => (s.bags b).dispatchInProgress = true ∧ f ∈ (s.bags b).fesv) hrun ⟨hbusy, hf⟩
      fun h => hgone h.2
  obtain ⟨-, heffect⟩ := (h.run hearlier).step hstep
  obtain hretains | hends := heffect.retains b hbusy₁
  · exact absurd ⟨hretains.busy, hretains.mem f hin⟩ hout
  · exact ⟨earlier, op, s₁, s₂, hfirst, hearlier, hstep, hends⟩

/-- In every state that operations and dispatches lead to, the slots of each bag hold its sinks. A
dispatch that ends leaves nothing behind them. What has got there since has been removed since, and
a sink that is not attached is not called unless it is attached again.

The runs are those in which every round finds the sink of its event: it is still in the vector,
which `Sound.let_go` is about, or somebody else has a handle on it. -/
theorem slots_kept (pollable : S → Bool) (maxFds : B → Nat) (ops : List (Op B S))
    (hrun : ops.foldlM (step pollable) (start maxFds) = some s) :
    (∀ b, s.InSlots b) ∧
      (∀ d outer ev s', s.dispatches = d :: outer → s.step pollable (.turn ev) = some s' →
        s'.dispatches = outer → (s'.bags d.bag).fesv.length = (s'.bags d.bag).fesCount) ∧
      ∀ later s', later.foldlM (step pollable) s = some s' → ∀ b f,
        (f ∈ s'.behind b → f ∉ s.behind b →
          ∃ earlier op s₁ s₂, earlier ++ [op] <+: later ∧
            earlier.foldlM (step pollable) s = some s₁ ∧ s₁.step pollable op = some s₂ ∧
            (s₁.sinks f).owner = some b ∧ (s₂.sinks f).owner ≠ some b) ∧
          ((s.sinks f).owner ≠ some b → (∀ op ∈ later, ¬ op.Attaches b f) →
            ∃ calls, s'.calls = s.calls ++ calls ∧ (b, f) ∉ calls) := by
  have h : s.Sound pollable := (start_sound maxFds).run hrun
  refine ⟨h.in_slots, fun d outer ev s' hdispatches hstep hend => ?_, fun later s' hlater b f => ?_⟩
  · simp only [step, hdispatches] at hstep
    split at hstep
    next => cases hstep
    next =>
      obtain rfl | ⟨d', rfl | ⟨f, -, rfl⟩⟩ := take_turn_cases hstep
      · rw [FdBags.finish, set_bag_self]
        exact List.length_take_of_le (h.dense d.bag).count_le
      · exact absurd hend (List.cons_ne_self d' outer)
      · exact absurd hend (List.cons_ne_self d' outer)
  · exact ⟨h.removed hlater, h.not_called hlater⟩

/-- Two sinks are attached, the second one is removed while the first is called, and this goes on.
-/
def sampleRun (ops : List (Op Unit Bool)) : Option (FdBags Unit Bool) :=
  ([Op.attach () false none, Op.attach () true none, Op.dispatch () [false, true], Op.turn true,
    Op.detach () true [] false] ++ ops).foldlM (step fun _ => true) (start fun _ => 4)

/-- The second sink is not called any more. -/
theorem sample_kept : ∃ s s', sampleRun [] = some s ∧
    [Op.ret, .turn true].foldlM (step fun _ => true) s = some s' ∧ s.InSlots () ∧
      ∃ calls, s'.calls = s.calls ++ calls ∧ ((), true) ∉ calls := by
  obtain ⟨s', hrun'⟩ : ∃ s', sampleRun [.ret, .turn true] = some s' :=
    Option.isSome_iff_exists.1 (by decide)
  obtain ⟨s, hrun, hlater⟩ : ∃ s, sampleRun [] = some s ∧
      [Op.ret, .turn true].foldlM (step fun _ => true) s = some s' := by
    rw [sampleRun, List.foldlM_append] at hrun'
    simpa only [sampleRun, List.append_nil] using Option.bind_eq_some_iff.1 hrun'
  have howner : (s.sinks true).owner = none := by
    have h : (sampleRun []).map (fun s => (s.sinks true).owner) = some none := by decide
    rw [hrun] at h
    exact Option.some.inj h
  obtain ⟨hslots, -, hnext⟩ := slots_kept (fun _ => true) (fun _ => 4) _ hrun
  refine ⟨s, s', hrun, hlater, hslots (), (hnext _ s' hlater () true).2 ?_ ?_⟩
  · rw [howner]
    nofun
  · simp [Op.Attaches]

/-- When it is attached again at once, it is in the vector twice, and it is called. -/
theorem not_always_once :
    (sampleRun []).map (fun s => (s.sinks true).owner) = some none ∧
    (sampleRun [.attach () true none]).map (fun s => ((s.bags ()).fesv, s.calls)) =
      some ([false, true, true], [((), false)]) ∧
    (sampleRun [.attach () true none]).map (fun s => (s.sinks true).owner) = some (some ()) ∧
    (sampleRun [.attach () true none, .ret, .turn true]).map (fun s => s.calls) =
      some [((), false), ((), true)] := by
  decide

end FdBags

end Codon.Net
