import Codon.Net.Pruning

/-!
# The maximum number of connections

`set_max_connections` is documented to take a nonzero number, but checks the maximum that it
replaces. `limited_iff` says for which runs the maximum stays nonzero, so that it can be set again
and connections that were just accepted are kept.
-/

namespace Codon.Net

open Codon.Library

variable {C : Type}

/-- The end of a list is left when the oldest are dropped, exactly if that many are left. -/
theorem suffix_newest_iff (max : Nat) (l l' : List C) :
    l' <:+ newest max (l ++ l') ↔ l'.length ≤ max := by
  constructor
  · intro hsuffix
    exact Nat.le_trans hsuffix.length_le (newest_length max _)
  · intro hle
    have hfront : (l ++ l').length - max ≤ l.length := by
      rw [List.length_append]
      omega
    rw [newest, List.drop_append_of_le_length hfront]
    exact List.suffix_append _ _

namespace Server

variable {env : Environment C} {s : Server C} {op : ServerOp C}

/-- `set_max_connections`, with the result it returns. -/
def setMaxConnectionsResult (s : Server C) (maxConnections : UInt32) : Bool × Server C :=
  if s.maxConnections = 0 then (false, s) else (true, { s with maxConnections })

/-- The maximum is nonzero, and any other nonzero one can be set. -/
structure Limited (s : Server C) : Prop where
  max_connections : s.maxConnections ≠ 0
  settable : ∀ maxConnections, maxConnections ≠ 0 →
    (s.setMaxConnectionsResult maxConnections).1 = true

/-- A server is limited when its maximum is not zero. -/
theorem limited_iff_max_connections : s.Limited ↔ s.maxConnections ≠ 0 :=
  ⟨Limited.max_connections, fun h => ⟨h, fun _ _ => by rw [setMaxConnectionsResult, if_neg h]⟩⟩

/-- The loop from the back looks at the end of the list first. -/
theorem erase_invalid_append (close : C → Server C → Server C) (l l' : List C) (s : Server C) :
    eraseInvalid close (l ++ l') s =
      ((eraseInvalid close l (eraseInvalid close l' s).2).1 ++ (eraseInvalid close l' s).1,
        (eraseInvalid close l (eraseInvalid close l' s).2).2) := by
  induction l with
  | nil => rfl
  | cons c l ih =>
      have hcons : ∀ l s, eraseInvalid close (c :: l) s =
          if (eraseInvalid close l s).2.fds.fdClosed c then
            ((eraseInvalid close l s).1, close c (eraseInvalid close l s).2)
          else (c :: (eraseInvalid close l s).1, (eraseInvalid close l s).2) := fun _ _ => rfl
      rw [List.cons_append, hcons, hcons, ih]
      split_ifs <;> rfl

section

variable [DecidableEq C]

/-- The connections that an operation has added to the accepted list of `s`, and whose descriptors
are open when the pruning looks at them. `s'` is the server when it prunes the accepted list. -/
def openAccepted (env : Environment C) (s s' : Server C) : List C :=
  (eraseInvalid (serverCloseConnection env) (s'.connections.drop s.connections.length) s').1

/-- The operation leaves the server limited, and what it accepts is on the accepted list after the
pruning. -/
structure Keeps (s : Server C) (op : ServerOp C) : Prop where
  limited : (s.step op).Limited
  survive : ∀ env before, s.beforePruning op = some (env, before) →
    openAccepted env s (before.serverPrunePendingConnections env) <:+ (s.step op).connections

/-- The operation does not set the maximum to zero, and does not accept more connections than it. -/
structure Meets (s : Server C) (op : ServerOp C) : Prop where
  nonzero : op ≠ .setMaxConnections 0
  room : ∀ env before, s.beforePruning op = some (env, before) →
    (openAccepted env s (before.serverPrunePendingConnections env)).length ≤
      s.maxConnections.toNat

/-- What pruning the accepted connections leaves. -/
theorem prune_accepted_connections (env : Environment C) (s : Server C) :
    (s.serverPruneAcceptedConnections env).connections =
      newest s.maxConnections.toNat
        (eraseInvalid (serverCloseConnection env) s.connections s).1 := by
  obtain ⟨-, hclosed, -, -⟩ := erase_invalid_spec (closed_connection env) s.connections s
  obtain ⟨⟨keys, hran, -⟩, -, -⟩ := hclosed
  simp only [serverPruneAcceptedConnections]
  generalize eraseInvalid (serverCloseConnection env) s.connections s = first at *
  obtain ⟨valid, s'⟩ := first
  have hnewest := (drop_oldest_spec (closed_connection env) s'.maxConnections.toNat valid s').1
  rw [hran.max_connections] at hnewest ⊢
  split_ifs <;> exact hnewest

/-- The server with which an operation prunes the accepted list has only added to it, and has the
same maximum. -/
theorem before_pruning_accepted {before : Server C}
    (h : s.beforePruning op = some (env, before)) :
    (before.serverPrunePendingConnections env).maxConnections = s.maxConnections ∧
      s.connections <+: (before.serverPrunePendingConnections env).connections ∧
      s.step op = before.serverPruneConnections env := by
  obtain ⟨hstep, accepted, waiting, harrived, -⟩ := (s.arrived_before_pruning op).1 env before h
  obtain ⟨calls, entered, _, hpending⟩ := pending_pruned env before
  obtain ⟨keys, hran, -⟩ := harrived.ran
  refine ⟨hpending.ran.max_connections.trans hran.max_connections, ?_, hstep⟩
  rw [hpending.connections, harrived.connections, List.append_assoc]
  exact List.prefix_append _ _

/-- Only `set_max_connections` changes the maximum. -/
theorem step_max_connections (hset : ∀ maxConnections, op ≠ .setMaxConnections maxConnections) :
    (s.step op).maxConnections = s.maxConnections := by
  cases hbefore : s.beforePruning op with
  | some pruning =>
      obtain ⟨env, before⟩ := pruning
      obtain ⟨hmax, -, hstep⟩ := before_pruning_accepted hbefore
      obtain ⟨calls, valid, haccepted⟩ :=
        accepted_pruned env (before.serverPrunePendingConnections env)
      rw [hstep, serverPruneConnections, haccepted.ran.max_connections, hmax]
  | none =>
      cases op with
      | setMaxConnections maxConnections => exact absurd rfl (hset maxConnections)
      | outside effect => rfl
      | dispatch env => cases hbefore
      | addConnection created env =>
          simp only [beforePruning, ite_eq_right_iff] at hbefore
          obtain ⟨_, _, harrived, -⟩ := arrived_enlist env created s
          obtain ⟨keys, hran, -⟩ := harrived.ran
          have hrefused : (s.enlist env created).1 = false := by
            by_contra hlisted
            cases hbefore (by simpa using hlisted)
          simp only [Server.step, addConnection, hrefused]
          exact hran.max_connections

/-- The newly accepted connections are kept exactly if there is room for them. -/
theorem survive_iff {before : Server C} (h : s.beforePruning op = some (env, before)) :
    openAccepted env s (before.serverPrunePendingConnections env) <:+ (s.step op).connections ↔
      (openAccepted env s (before.serverPrunePendingConnections env)).length ≤
        s.maxConnections.toNat := by
  obtain ⟨hmax, ⟨new, hnew⟩, hstep⟩ := before_pruning_accepted h
  rw [hstep, serverPruneConnections, prune_accepted_connections, openAccepted, ← hnew,
    List.drop_left, erase_invalid_append, hmax]
  exact suffix_newest_iff _ _ _

/-- An operation of a limited server keeps it limited, and what it accepts, exactly if it meets the
condition. -/
theorem keeps_iff_meets (hlimited : s.maxConnections ≠ 0) (op : ServerOp C) :
    s.Keeps op ↔ s.Meets op := by
  have hlimit : (s.step op).Limited ↔ op ≠ .setMaxConnections 0 := by
    rw [limited_iff_max_connections]
    by_cases hset : ∃ maxConnections, op = .setMaxConnections maxConnections
    · obtain ⟨maxConnections, rfl⟩ := hset
      simp [Server.step, setMaxConnections, hlimited]
    · rw [step_max_connections fun maxConnections h => hset ⟨maxConnections, h⟩]
      exact iff_of_true hlimited fun h => hset ⟨0, h⟩
  constructor
  · intro h
    exact ⟨hlimit.1 h.limited, fun env before hbefore =>
      (survive_iff hbefore).1 (h.survive env before hbefore)⟩
  · intro h
    exact ⟨hlimit.2 h.nonzero, fun env before hbefore =>
      (survive_iff hbefore).2 (h.room env before hbefore)⟩

/-- Throughout a run of any operations the server is limited, and what an operation accepts is kept
in its pruning, exactly if the server is made with a nonzero maximum, it is never set to zero, and
no operation accepts more connections than it. -/
theorem limited_iff (maxConnections : UInt32) (ops : List (ServerOp C)) :
    (start maxConnections : Server C).Limited ∧
        Along Server.step Keeps (start maxConnections : Server C) ops ↔
      maxConnections ≠ 0 ∧ Along Server.step Meets (start maxConnections : Server C) ops := by
  rw [limited_iff_max_connections]
  refine and_congr_right fun hstart => ?_
  exact along_iff_along (I := fun s => s.maxConnections ≠ 0)
    (fun s op hlimited hmeets => ((keeps_iff_meets hlimited op).2 hmeets).limited.max_connections)
    (fun s op hlimited => keeps_iff_meets hlimited op) hstart

end

/-- A connection requests acceptance when it is created, and closes when it is closed. -/
def closing : Environment Nat
  | _, .close c => ⟨[c], [], [], fun _ => false, true⟩
  | n, k => eager n k

/-- The maximum is set to zero: it cannot be set again, and a connection that was just accepted is
dropped though its descriptor is open. -/
theorem zero_accepted :
    let s : Server Nat := (start 8).setMaxConnections 0
    let op : ServerOp Nat := .addConnection ⟨some 0, true⟩ closing
    let before := (s.enlist closing ⟨some 0, true⟩).2
    ((start 8 : Server Nat).setMaxConnectionsResult 0).1 = true ∧
      (s.setMaxConnectionsResult 5).1 = false ∧ ¬ s.Limited ∧
      s.beforePruning op = some (closing, before) ∧
      openAccepted closing s (before.serverPrunePendingConnections closing) = [0] ∧
      (s.step op).connections = [] := by
  intro s op before
  exact ⟨rfl, rfl, fun h => h.max_connections rfl, rfl, rfl, rfl⟩

end Server

end Codon.Net
