import Codon.Slate.Setters

/-!
# Batches and single setters

A batch applies what is accepted; the single setters also refuse elements of the static
shard. So for commands whose elements do not overlap, the batch and the single setters agree
unless every command of the batch is accepted and one of them names such an element
(`batch_agrees_iff`).
-/

namespace Codon.Slate

open Codon.Library

namespace CommandInterface

variable {iface : CommandInterface} {rt : Runtime} {c c' : MultiCommand}
  {slate slate' : SlateMemory}

/-- The single setters, one after another: whether all succeed, and the slate. -/
def setEach (iface : CommandInterface) (rt : Runtime) :
    List MultiCommand → SlateMemory → Bool × SlateMemory
  | [], slate => (true, slate)
  | c :: cmds, slate =>
      let answer := iface.setByHash rt c slate
      if answer.success then setEach iface rt cmds answer.slate else (false, answer.slate)

/-- The elements of two commands share no byte. -/
def Apart (iface : CommandInterface) (rt : Runtime) (c c' : MultiCommand) : Prop :=
  ∀ elem ∈ iface.lookup c.hash, ∀ elem' ∈ iface.lookup c'.hash, ∀ a bits bits',
    ¬((rt.change elem bits a).isSome ∧ (rt.change elem' bits' a).isSome)

/-- Whether a command is accepted: its element is known and has the type of the command, and the
value is in range and is taken by the element. -/
def Acceptable (iface : CommandInterface) (rt : Runtime) (c : MultiCommand) (slate : SlateMemory) :
    Prop :=
  ∃ elem bits, iface.Accepted rt c slate elem bits

/-- The batch and the single setters agree: they succeed on the same slates, with the same
result. -/
def Agree (iface : CommandInterface) (rt : Runtime) (cmds : List MultiCommand)
    (slate : SlateMemory) : Prop :=
  ((iface.setMultiByHash rt cmds slate).1.success = true ↔
      (iface.setEach rt cmds slate).1 = true) ∧
    ((iface.setMultiByHash rt cmds slate).1.success = true →
      (iface.setMultiByHash rt cmds slate).1.slate = (iface.setEach rt cmds slate).2)

/-- Applies commands one after another, as long as they are accepted. -/
def acceptAll (iface : CommandInterface) (rt : Runtime) :
    List MultiCommand → SlateMemory → Option SlateMemory
  | [], slate => some slate
  | c :: cmds, slate => (iface.attempt rt c slate).2.bind (acceptAll iface rt cmds)

/-- A batch succeeds if all commands are accepted. -/
theorem forward_eq_nil_iff (iface : CommandInterface) (rt : Runtime) (cmds : List MultiCommand)
    (slate slate' : SlateMemory) :
    (iface.forward rt cmds slate).2 = ([], slate') ↔
      iface.acceptAll rt cmds slate = some slate' := by
  induction cmds generalizing slate with
  | nil => simp [forward, acceptAll]
  | cons c cmds ih =>
      rw [forward, acceptAll]
      cases hattempt : iface.attempt rt c slate with
      | mk c' result =>
          cases result with
          | none => simp
          | some next => exact ih next

/-- A batch succeeds with what it leaves exactly when all of it is accepted. -/
theorem set_multi_eq_iff (iface : CommandInterface) (rt : Runtime) (cmds : List MultiCommand)
    (slate slate' : SlateMemory) :
    (iface.setMultiByHash rt cmds slate).1.success = true ∧
        (iface.setMultiByHash rt cmds slate).1.slate = slate' ↔
      iface.acceptAll rt cmds slate = some slate' := by
  rw [← forward_eq_nil_iff, setMultiByHash]
  generalize iface.forward rt cmds slate = result
  obtain ⟨done, rest, last⟩ := result
  cases rest with
  | nil => simp
  | cons c rest => simp

/-- The single setters succeed if all commands are accepted and may be commanded. -/
theorem set_each_eq_iff (iface : CommandInterface) (rt : Runtime) (cmds : List MultiCommand)
    (slate slate' : SlateMemory) :
    iface.setEach rt cmds slate = (true, slate') ↔
      iface.acceptAll rt cmds slate = some slate' ∧
        ∀ c ∈ cmds, ∀ elem ∈ iface.lookup c.hash, iface.Commandable rt elem := by
  induction cmds generalizing slate with
  | nil => simp [setEach, acceptAll]
  | cons c cmds ih =>
      rw [setEach, acceptAll, List.forall_mem_cons]
      by_cases h : ∃ elem bits, iface.Accepted rt c slate elem bits ∧ iface.Commandable rt elem
      · obtain ⟨elem, bits, haccepted, hcommandable⟩ := h
        have hhead : ∀ elem ∈ iface.lookup c.hash, iface.Commandable rt elem := by
          intro elem' helem'
          have heq := Option.some.inj (haccepted.found.symm.trans helem')
          rwa [← heq]
        rw [set_by_hash_of_accepted haccepted hcommandable,
          attempt_eq_some_iff.2 ⟨elem, bits, haccepted, rfl⟩]
        simp only [if_true, Option.bind_some, and_iff_right hhead]
        exact ih _
      · have hrefused : ∀ elem bits, iface.Accepted rt c slate elem bits →
            ¬iface.Commandable rt elem := fun elem bits haccepted hcommandable =>
          h ⟨elem, bits, haccepted, hcommandable⟩
        simp only [(set_by_hash_of_refused hrefused).1, Bool.false_eq_true, if_false]
        refine iff_of_false (by simp) fun ⟨haccept, hcommandable, _⟩ => ?_
        obtain ⟨next, hnext, -⟩ := Option.bind_eq_some_iff.1 haccept
        obtain ⟨elem, bits, haccepted, -⟩ := attempt_eq_some_iff.1 hnext
        exact hrefused elem bits haccepted (hcommandable elem haccepted.found)

/-- A command is accepted or not whatever happens to other elements. -/
theorem acceptable_overwrite {elem : Element} {bits : Nat}
    (hfound : iface.lookup c.hash = some elem) (hapart : iface.Apart rt c c') :
    iface.Acceptable rt c' (overwrite (rt.change elem bits) slate) ↔
      iface.Acceptable rt c' slate := by
  have hload (elem' : Element) (helem' : iface.lookup c'.hash = some elem') :
      rt.load elem' (overwrite (rt.change elem bits) slate) = rt.load elem' slate :=
    Runtime.load_overwrite 0 fun a => hapart elem hfound elem' helem' a bits 0
  constructor
  · rintro ⟨elem', bits', hfound', hencoded, hwrite, hvalid⟩
    rw [hload elem' hfound'] at hvalid
    exact ⟨elem', bits', hfound', hencoded, hwrite, hvalid⟩
  · rintro ⟨elem', bits', hfound', hencoded, hwrite, hvalid⟩
    rw [← hload elem' hfound'] at hvalid
    exact ⟨elem', bits', hfound', hencoded, hwrite, hvalid⟩

/-- Commands for different elements are all applied if each is accepted. -/
theorem accept_all_iff {cmds : List MultiCommand} (h : cmds.Pairwise (iface.Apart rt)) :
    (∃ slate', iface.acceptAll rt cmds slate = some slate') ↔
      ∀ c ∈ cmds, iface.Acceptable rt c slate := by
  induction cmds generalizing slate with
  | nil => simp [acceptAll]
  | cons c cmds ih =>
      obtain ⟨hhead, htail⟩ := List.pairwise_cons.1 h
      have hrest {elem : Element} (bits : Nat) (hfound : iface.lookup c.hash = some elem) :
          (∃ slate', iface.acceptAll rt cmds (overwrite (rt.change elem bits) slate) =
            some slate') ↔ ∀ c' ∈ cmds, iface.Acceptable rt c' slate := by
        rw [ih htail]
        exact forall₂_congr fun c' hmem => acceptable_overwrite hfound (hhead c' hmem)
      rw [acceptAll, List.forall_mem_cons]
      constructor
      · rintro ⟨slate', hslate'⟩
        obtain ⟨next, hnext, hafter⟩ := Option.bind_eq_some_iff.1 hslate'
        obtain ⟨elem, bits, haccepted, rfl⟩ := attempt_eq_some_iff.1 hnext
        exact ⟨⟨elem, bits, haccepted⟩, (hrest bits haccepted.found).1 ⟨slate', hafter⟩⟩
      · rintro ⟨⟨elem, bits, haccepted⟩, hall⟩
        rw [attempt_eq_some_iff.2 ⟨elem, bits, haccepted, rfl⟩]
        exact (hrest bits haccepted.found).2 hall

end CommandInterface

/-- A batch of commands for elements that do not overlap agrees with the single setters exactly if
one of the commands is not accepted, or all of them name elements that may be commanded. -/
theorem batch_agrees_iff (iface : CommandInterface) (rt : Runtime) (cmds : List MultiCommand)
    (slate : SlateMemory) (hapart : cmds.Pairwise (iface.Apart rt)) :
    iface.Agree rt cmds slate ↔
      (∃ c ∈ cmds, ¬iface.Acceptable rt c slate) ∨
        ∀ c ∈ cmds, ∀ elem ∈ iface.lookup c.hash, iface.Commandable rt elem := by
  have hmulti := iface.set_multi_eq_iff rt cmds slate
  have heach := iface.set_each_eq_iff rt cmds slate
  have haccept : (∃ slate', iface.acceptAll rt cmds slate = some slate') ↔
      ∀ c ∈ cmds, iface.Acceptable rt c slate := CommandInterface.accept_all_iff hapart
  unfold CommandInterface.Agree
  cases hresult : iface.acceptAll rt cmds slate with
  | none =>
      rw [hresult] at hmulti heach haccept
      have hmultiFails : ¬(iface.setMultiByHash rt cmds slate).1.success = true := by
        intro hsuccess
        cases (hmulti _).1 ⟨hsuccess, rfl⟩
      have heachFails : ¬(iface.setEach rt cmds slate).1 = true := fun hsuccess => by
        cases ((heach (iface.setEach rt cmds slate).2).1 (Prod.ext hsuccess rfl)).1
      -- a command is refused, so neither way succeeds
      have hrefused : ∃ c ∈ cmds, ¬iface.Acceptable rt c slate := by
        by_contra hnone
        push Not at hnone
        obtain ⟨slate', hslate'⟩ := haccept.2 hnone
        cases hslate'
      exact iff_of_true ⟨iff_of_false hmultiFails heachFails,
        fun hsuccess => absurd hsuccess hmultiFails⟩ (.inl hrefused)
  | some slate' =>
      rw [hresult] at hmulti heach haccept
      obtain ⟨hsuccess, hslate⟩ := (hmulti slate').2 rfl
      have hall := haccept.1 ⟨slate', rfl⟩
      constructor
      · -- the batch succeeds, so what is left is whether each single setter does
        rintro ⟨hiff, hsame⟩
        have hpair : iface.setEach rt cmds slate = (true, slate') :=
          Prod.ext (hiff.1 hsuccess) ((hsame hsuccess).symm.trans hslate)
        exact .inr ((heach slate').1 hpair).2
      · rintro (⟨c, hmem, hrefused⟩ | hcommandable)
        · exact absurd (hall c hmem) hrefused
        · have hpair := (heach slate').2 ⟨rfl, hcommandable⟩
          rw [hpair]
          exact ⟨iff_of_true hsuccess rfl, fun _ => hslate⟩

/-- Commands for two elements of the sync shard. -/
theorem batch_agrees_iff_sample :
    Sample.interface.Agree Sample.runtime [⟨.int, 1, 1⟩, ⟨.int, 2, 7⟩] Sample.zeros := by
  refine (batch_agrees_iff Sample.interface Sample.runtime _ Sample.zeros ?_).2 (.inr ?_)
  · rw [List.pairwise_pair]
    rintro elem helem elem' helem' a bits bits' hboth
    cases helem
    cases helem'
    rw [Runtime.change_is_some_iff, Runtime.change_is_some_iff] at hboth
    have hfirst : a.2 < 0 + 4 := hboth.1.2.2
    have hsecond : 4 ≤ a.2 := hboth.2.2.1
    omega
  · decide

/-- A batch sets an element of the static shard, which the single setter refuses. -/
theorem batch_sets_static_element :
    (Sample.interface.setMultiByHash Sample.runtime [⟨.int, 3, 5⟩] Sample.zeros).1.success = true ∧
      (Sample.interface.setMultiByHash Sample.runtime [⟨.int, 3, 5⟩] Sample.zeros).1.slate
        (.static, 8) = 5 ∧
      (Sample.interface.setIntByHash Sample.runtime 3 5 Sample.zeros).success = false := by
  decide

end Codon.Slate
