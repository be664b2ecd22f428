import Codon.Slate.Setters

/-!
# When a batch that fails leaves the slate alone

`set_multi_by_hash` undoes the commands that it applied from the first to the last, through
the single setters. So an element that several commands set ends with what the last of them
recorded, which is what the one before it had stored, and an element that a single setter
refuses is not restored at all. `Restores` is the condition on a batch and a slate under
which a failure leaves the slate as it was (`failed_batch_restores_iff`).
-/

namespace Codon.Slate

open Codon.Library

/-- An element that a batch has set: the bits that it had, and the bits that it has. -/
structure Write where
  elem : Element
  old : Nat
  new : Nat
deriving DecidableEq

namespace CommandInterface

variable {iface : CommandInterface} {rt : Runtime} {c : MultiCommand} {slate : SlateMemory}

/-- The commands that a batch applies: those before the first that is not accepted. -/
def applied (iface : CommandInterface) (rt : Runtime) :
    List MultiCommand → SlateMemory → List Write
  | [], _ => []
  | c :: cmds, slate =>
      match iface.lookup c.hash, (iface.attempt rt c slate).2 with
      | some elem, some slate' =>
          ⟨elem, rt.load elem slate, rt.load elem slate'⟩ :: applied iface rt cmds slate'
      | _, _ => []

/-- The slate after a sequence of writes. -/
def written (rt : Runtime) (ws : List Write) (slate : SlateMemory) : SlateMemory :=
  ws.foldl (fun slate w => overwrite (rt.change w.elem w.new) slate) slate

/-- Whether a write can be undone: the interface is initialised, the element is not in the static
shard, it had a value that can be written, and it takes that value over the one that it has now. -/
def Undoable (iface : CommandInterface) (rt : Runtime) (w : Write) (slate : SlateMemory) : Prop :=
  iface.Commandable rt w.elem ∧ restorable w.elem.type w.old ∧ rt.Takes w.elem w.old slate

instance (w : Write) : Decidable (iface.Undoable rt w slate) :=
  inferInstanceAs (Decidable (_ ∧ _ ∧ _))

/-- Undoes writes, from the first to the last, where it can. -/
def undo (iface : CommandInterface) (rt : Runtime) : List Write → SlateMemory → SlateMemory
  | [], slate => slate
  | w :: ws, slate =>
      undo iface rt ws
        (if iface.Undoable rt w slate then overwrite (rt.change w.elem w.old) slate else slate)

/-- The writes as edits of the slate, each with whether it is undone. -/
def edits (iface : CommandInterface) (rt : Runtime) :
    List Write → SlateMemory → List (Edit (Shard × Nat) UInt8)
  | [], _ => []
  | w :: ws, slate =>
      ⟨rt.change w.elem w.new, decide (iface.Undoable rt w slate)⟩ ::
        edits iface rt ws
          (if iface.Undoable rt w slate then overwrite (rt.change w.elem w.old) slate else slate)

/-- At each byte, consider the applied commands that come before the last one that sets the byte and
can be undone, or all of them if there is none: the last of those that sets the byte stores what the
slate holds there. -/
def Restores (iface : CommandInterface) (rt : Runtime) (cmds : List MultiCommand)
    (slate : SlateMemory) : Prop :=
  ∀ a, ∀ byte ∈ lastChange a (standing a (iface.edits rt (iface.applied rt cmds slate)
    (written rt (iface.applied rt cmds slate) slate))), byte = slate a

/-! ## The batch -/

/-- A command of the record stands for a write. -/
structure Records (iface : CommandInterface) (rt : Runtime) (c : MultiCommand) (w : Write) :
    Prop where
  found : iface.lookup c.hash = some w.elem
  encoded : rt.encode c.type w.elem c.value =
    if restorable w.elem.type w.old then some w.old else none

/-- Nothing is applied from a refused command on. -/
theorem applied_cons_of_refused {cmds : List MultiCommand}
    (h : (iface.attempt rt c slate).2 = none) : iface.applied rt (c :: cmds) slate = [] := by
  rw [applied, h]
  cases iface.lookup c.hash <;> rfl

/-- An accepted command is applied before the others. -/
theorem applied_cons_of_accepted {elem : Element} {bits : Nat} {cmds : List MultiCommand}
    (h : iface.Accepted rt c slate elem bits) :
    iface.applied rt (c :: cmds) slate =
      ⟨elem, rt.load elem slate, rt.load elem (overwrite (rt.change elem bits) slate)⟩ ::
        iface.applied rt cmds (overwrite (rt.change elem bits) slate) := by
  rw [applied, h.found, attempt_eq_some_iff.2 ⟨elem, bits, h, rfl⟩]

/-- The loop applies the commands, and records each. -/
theorem forward_spec (iface : CommandInterface) (rt : Runtime) (cmds : List MultiCommand)
    (slate : SlateMemory) :
    (iface.forward rt cmds slate).2.2 = written rt (iface.applied rt cmds slate) slate ∧
      List.Forall₂ (iface.Records rt) (iface.forward rt cmds slate).1
        (iface.applied rt cmds slate) := by
  induction cmds generalizing slate with
  | nil => exact ⟨rfl, .nil⟩
  | cons c cmds ih =>
      cases hattempt : iface.attempt rt c slate with
      | mk c' result =>
          cases result with
          | none =>
              rw [applied_cons_of_refused (congrArg Prod.snd hattempt), forward, hattempt]
              exact ⟨rfl, .nil⟩
          | some slate' =>
              obtain ⟨elem, bits, haccepted, rfl⟩ :=
                attempt_eq_some_iff.1 (congrArg Prod.snd hattempt)
              obtain ⟨hslate, hrecords⟩ := ih (overwrite (rt.change elem bits) slate)
              obtain ⟨htype, hhash, hget⟩ := attempt_recorded haccepted
              rw [hattempt] at htype hhash hget
              rw [applied_cons_of_accepted haccepted, forward, hattempt]
              refine ⟨?_, .cons ⟨?_, ?_⟩ hrecords⟩
              · rw [written, List.foldl_cons, Runtime.change_load_overwrite]
                exact hslate
              · rw [hhash]
                exact haccepted.found
              · rw [htype]
                exact Runtime.encode_get hget

/-- Rolling back undoes the writes that the commands stand for. -/
theorem rollback_eq_undo {done : List MultiCommand} {ws : List Write}
    (h : List.Forall₂ (iface.Records rt) done ws) (slate : SlateMemory) :
    (iface.rollback rt done slate).2 = iface.undo rt ws slate := by
  induction h generalizing slate with
  | nil => rfl
  | @cons c w done ws hrecords hrest ih =>
      obtain ⟨hfound, hencoded⟩ := hrecords
      rw [undo, ← ih, rollback]
      suffices hstep : (iface.setByHash rt c slate).slate =
          if iface.Undoable rt w slate then overwrite (rt.change w.elem w.old) slate else slate by
        rw [hstep]
      by_cases hundoable : iface.Undoable rt w slate
      · obtain ⟨hcommandable, hrestorable, htakes⟩ := hundoable
        rw [if_pos hrestorable] at hencoded
        rw [if_pos ⟨hcommandable, hrestorable, htakes⟩,
          set_by_hash_of_accepted ⟨hfound, hencoded, htakes⟩ hcommandable]
      · rw [if_neg hundoable]
        refine (set_by_hash_of_refused fun elem bits haccepted hcommandable => hundoable ?_).2
        have helem := Option.some.inj (haccepted.found.symm.trans hfound)
        subst helem
        have hbits := haccepted.encoded
        rw [hencoded] at hbits
        split at hbits
        next hrestorable =>
          cases hbits
          exact ⟨hcommandable, hrestorable, haccepted.takes⟩
        next => cases hbits

/-- Undoing the applied commands is undoing edits. -/
theorem undo_applied (iface : CommandInterface) (rt : Runtime) (cmds : List MultiCommand)
    (before slate : SlateMemory) :
    iface.undo rt (iface.applied rt cmds before) slate =
      revertAll (iface.edits rt (iface.applied rt cmds before) slate) before slate := by
  induction cmds generalizing before slate with
  | nil => rfl
  | cons c cmds ih =>
      cases hattempt : (iface.attempt rt c before).2 with
      | none =>
          rw [applied_cons_of_refused hattempt]
          rfl
      | some slate' =>
          obtain ⟨elem, bits, haccepted, rfl⟩ := attempt_eq_some_iff.1 hattempt
          have hrevert : overwrite (rt.change elem (rt.load elem before)) slate =
              Edit.revert ⟨rt.change elem
                (rt.load elem (overwrite (rt.change elem bits) before)), true⟩ before slate := by
            rw [Runtime.change_load]
            funext a
            rw [Edit.revert, Runtime.change_is_some rt elem (rt.load elem before)
              (rt.load elem (overwrite (rt.change elem bits) before)) a]
          rw [applied_cons_of_accepted haccepted, undo, edits, revertAll, ih,
            Runtime.change_load_overwrite]
          simp only [decide_eq_true_eq, hrevert]
          rfl

/-- The edits of a list of writes do these writes. -/
theorem apply_all_edits (iface : CommandInterface) (rt : Runtime) (ws : List Write)
    (slate before : SlateMemory) :
    applyAll (iface.edits rt ws slate) before = written rt ws before := by
  induction ws generalizing slate before with
  | nil => rfl
  | cons w ws ih => exact ih _ _

/-- The edits change what the writes change, in order. -/
theorem edits_change (iface : CommandInterface) (rt : Runtime) (ws : List Write)
    (slate : SlateMemory) :
    (iface.edits rt ws slate).map Edit.change = ws.map fun w => rt.change w.elem w.new := by
  induction ws generalizing slate with
  | nil => rfl
  | cons w ws ih => exact congrArg (_ :: ·) (ih _)

/-- Where every write can be undone, every edit is. -/
theorem edits_undone {ws : List Write} (h : ∀ w ∈ ws, ∀ slate', iface.Undoable rt w slate')
    (slate : SlateMemory) : ∀ edit ∈ iface.edits rt ws slate, edit.undone = true := by
  induction ws generalizing slate with
  | nil => exact fun edit hmem => by cases hmem
  | cons w ws ih =>
      intro edit hmem
      rcases List.mem_cons.1 hmem with rfl | hmem
      · exact decide_eq_true (h w List.mem_cons_self slate)
      · exact ih (fun w hw => h w (List.mem_cons_of_mem _ hw)) _ edit hmem

/-- A batch whose writes do not overlap is restored if each of them can be undone. -/
theorem restores_of_disjoint {cmds : List MultiCommand}
    (hdisjoint : (iface.applied rt cmds slate).Pairwise fun w w' =>
      ∀ a, ¬((rt.change w.elem w.new a).isSome ∧ (rt.change w'.elem w'.new a).isSome))
    (hundoable : ∀ w ∈ iface.applied rt cmds slate, ∀ slate', iface.Undoable rt w slate') :
    iface.Restores rt cmds slate := by
  intro a byte hbyte
  have hedits : (iface.edits rt (iface.applied rt cmds slate)
      (written rt (iface.applied rt cmds slate) slate)).Pairwise fun edit edit' =>
        ∀ a, ¬((edit.change a).isSome ∧ (edit'.change a).isSome) := by
    have hchanges : ((iface.edits rt (iface.applied rt cmds slate)
        (written rt (iface.applied rt cmds slate) slate)).map Edit.change).Pairwise
          fun change change' => ∀ a, ¬((change a).isSome ∧ (change' a).isSome) := by
      rw [edits_change]
      exact List.pairwise_map.2 hdisjoint
    exact List.pairwise_map.1 hchanges
  rw [last_change_standing_of_disjoint (edits_undone hundoable _) hedits a] at hbyte
  cases hbyte

end CommandInterface

/-- A batch that fails leaves the slate as it was exactly if the commands it applied meet the
condition. -/
theorem failed_batch_restores_iff (iface : CommandInterface) (rt : Runtime)
    (cmds : List MultiCommand) (slate : SlateMemory)
    (h : (iface.setMultiByHash rt cmds slate).1.success = false) :
    (iface.setMultiByHash rt cmds slate).1.slate = slate ↔ iface.Restores rt cmds slate := by
  obtain ⟨hslate, hrecords⟩ := iface.forward_spec rt cmds slate
  rw [CommandInterface.setMultiByHash] at h ⊢
  generalize iface.forward rt cmds slate = result at h hslate hrecords ⊢
  obtain ⟨done, rest, slate'⟩ := result
  cases rest with
  | nil => cases h
  | cons c rest =>
      have hundone := CommandInterface.rollback_eq_undo hrecords slate'
      simp only at hslate hundone ⊢
      rw [hundone, hslate, CommandInterface.undo_applied, CommandInterface.Restores,
        ← revert_all_eq_iff, CommandInterface.apply_all_edits]

namespace Sample

/-- Two commands for one element, and one for a name that is not known. -/
def setTwice : List MultiCommand := [⟨.int, 1, 1⟩, ⟨.int, 1, 2⟩, ⟨.int, 9, 0⟩]

/-- Commands for two elements, and one for a name that is not known. -/
def setBoth : List MultiCommand := [⟨.int, 1, 1⟩, ⟨.int, 2, 7⟩, ⟨.int, 9, 0⟩]

end Sample

/-- A batch of two commands, for different elements, is undone. -/
theorem failed_batch_restores_iff_sample :
    (Sample.interface.setMultiByHash Sample.runtime Sample.setBoth Sample.zeros).1.slate =
      Sample.zeros := by
  refine (failed_batch_restores_iff Sample.interface Sample.runtime Sample.setBoth Sample.zeros
    (by decide)).2 ?_
  have happlied : Sample.interface.applied Sample.runtime Sample.setBoth Sample.zeros =
      [⟨⟨0, .int32⟩, 0, 1⟩, ⟨⟨8, .int32⟩, 0, 7⟩] := by decide
  apply CommandInterface.restores_of_disjoint
  · rw [happlied, List.pairwise_pair]
    intro a hboth
    rw [Runtime.change_is_some_iff, Runtime.change_is_some_iff] at hboth
    have hfirst : a.2 < 0 + 4 := hboth.1.2.2
    have hsecond : 4 ≤ a.2 := hboth.2.2.1
    omega
  · rw [happlied]
    intro w hw slate'
    simp only [List.mem_cons, List.not_mem_nil, or_false] at hw
    rcases hw with rfl | rfl
    · exact ⟨by decide, by decide, by decide, fun hvalidator => by cases hvalidator⟩
    · exact ⟨by decide, by decide, by decide, fun hvalidator => by cases hvalidator⟩

/-- The first command for the element is not undone, since undoing the second one brings its value
back. -/
theorem failed_batch_keeps_first_value :
    (Sample.interface.setMultiByHash Sample.runtime Sample.setTwice Sample.zeros).1.success =
        false ∧
      (Sample.interface.setMultiByHash Sample.runtime Sample.setTwice Sample.zeros).1.returned =
        true ∧
      Sample.runtime.load ⟨0, .int32⟩ Sample.zeros = 0 ∧
      Sample.runtime.load ⟨0, .int32⟩
        (Sample.interface.setMultiByHash Sample.runtime Sample.setTwice Sample.zeros).1.slate =
          1 := by
  decide

end Codon.Slate
