import Codon.Net.Server

/-!
# What pruning leaves on the lists of a server

Every call is accounted for in the trace (`Server.Ran`), so that what a loop closes is what its
calls close. Read `Pruned` for what one pruning does, and `lists_kept` for every run. -/

namespace Codon.Net

open Codon.Library

variable {C : Type}

/-- The connection that a call accepts. -/
def Callback.acceptance : Callback C → Option C
  | .accepted c => some c
  | _ => none

/-- The connection that a call creates. -/
def Callback.arrival : Callback C → Option C
  | .create connection => connection
  | _ => none

/-- The call closes a connection or prepares for it. -/
def Callback.OfClosing : Callback C → Prop
  | .finalize _ | .close _ => True
  | _ => False

/-- Closing connections accepts none. -/
theorem acceptances_of_closing {keys : List (Callback C)} (h : ∀ k ∈ keys, k.OfClosing) :
    keys.filterMap Callback.acceptance = [] := by
  refine List.filterMap_eq_nil_iff.2 fun k hk => ?_
  have hclosing := h k hk
  cases k <;> first | rfl | cases hclosing

/-- Closing connections creates none. -/
theorem arrivals_of_closing {keys : List (Callback C)} (h : ∀ k ∈ keys, k.OfClosing) :
    keys.filterMap Callback.arrival = [] := by
  refine List.filterMap_eq_nil_iff.2 fun k hk => ?_
  have hclosing := h k hk
  cases k <;> first | rfl | cases hclosing

/-- The newest entries of a list, at most `max`. -/
def newest (max : Nat) (l : List C) : List C := l.drop (l.length - max)

/-- The newest are not too many. -/
theorem newest_length (max : Nat) (l : List C) : (newest max l).length ≤ max := by
  rw [newest, List.length_drop]
  omega

/-- The newest are in order. -/
theorem newest_sublist (max : Nat) (l : List C) : (newest max l).Sublist l := List.drop_sublist _ _

namespace Server

variable {env : Environment C} {keys keys' : List (Callback C)} {s s' s'' : Server C}
  {c : C}
  {close : C → Server C → Server C} {l : List C}

/-- A call that the server made from `s` to `s'` closed the connection. -/
def ClosedBy (env : Environment C) (s s' : Server C) (c : C) : Prop :=
  ∃ n, s.trace.length ≤ n ∧ ∃ k, s'.trace[n]? = some k ∧ c ∈ (env n k).closes

/-- From `s` to `s'` the server made these calls, and only they did something to the connections; it
may have accepted some itself. -/
structure Ran (env : Environment C) (keys : List (Callback C)) (s s' : Server C) :
    Prop where
  max_connections : s'.maxConnections = s.maxConnections
  trace : s'.trace = s.trace ++ keys
  stay_closed (c : C) : s.fds.fdClosed c = true → s'.fds.fdClosed c = true
  closed_by (c : C) : s'.fds.fdClosed c = true → s.fds.fdClosed c = true ∨ ClosedBy env s s' c
  stay_accepted (c : C) : s.fds.connectionAccepted c = true → s'.fds.connectionAccepted c = true
  stay_requested (c : C) : s.fds.acceptanceRequested c = true → s'.fds.acceptanceRequested c = true

/-- Without calls nothing happens. -/
theorem Ran.refl (env : Environment C) (s : Server C) : Ran env [] s s :=
  ⟨rfl, (List.append_nil _).symm, fun _ => id, fun _ => .inl, fun _ => id, fun _ => id⟩

/-- Calls are followed by others. -/
theorem Ran.trans (h : Ran env keys s s') (h' : Ran env keys' s' s'') :
    Ran env (keys ++ keys') s s'' where
  max_connections := h'.max_connections.trans h.max_connections
  trace := by rw [h'.trace, h.trace, List.append_assoc]
  stay_closed c hc := h'.stay_closed c (h.stay_closed c hc)
  closed_by c hc := by
    rcases h'.closed_by c hc with hc | ⟨n, hn, hcall⟩
    · rcases h.closed_by c hc with hc | ⟨n, hn, k, hk, hcloses⟩
      · exact .inl hc
      · obtain ⟨hlt, -⟩ := List.getElem?_eq_some_iff.1 hk
        refine .inr ⟨n, hn, k, ?_, hcloses⟩
        rw [h'.trace, List.getElem?_append_left hlt, hk]
    · refine .inr ⟨n, Nat.le_trans ?_ hn, hcall⟩
      rw [h.trace, List.length_append]
      exact Nat.le_add_right _ _
  stay_accepted c hc := h'.stay_accepted c (h.stay_accepted c hc)
  stay_requested c hc := h'.stay_requested c (h.stay_requested c hc)

/-- The lists do not matter. -/
theorem Ran.set_lists (h : Ran env keys s s') (connections pendingConnections : List C) :
    Ran env keys s { s' with connections, pendingConnections } :=
  ⟨h.max_connections, h.trace, h.stay_closed, h.closed_by, h.stay_accepted, h.stay_requested⟩

/-- What is open was open before. -/
theorem Ran.open_before (h : Ran env keys s s') (hc : s'.fds.fdClosed c = false) :
    s.fds.fdClosed c = false := by
  by_contra hclosed
  exact Bool.eq_false_iff.1 hc (h.stay_closed c (by simpa using hclosed))

/-- From `s` to `s'` the server only closed connections, and kept its lists as they are. -/
structure Closed (env : Environment C) (s s' : Server C) : Prop where
  ran : ∃ keys, Ran env keys s s' ∧ ∀ k ∈ keys, k.OfClosing
  connections : s'.connections = s.connections
  pending_connections : s'.pendingConnections = s.pendingConnections

/-- Nothing need be closed. -/
theorem Closed.refl (env : Environment C) (s : Server C) : Closed env s s :=
  ⟨⟨[], .refl env s, nofun⟩, rfl, rfl⟩

/-- Connections are closed one after the other. -/
theorem Closed.trans (h : Closed env s s') (h' : Closed env s' s'') : Closed env s s'' := by
  obtain ⟨⟨keys, hran, hkeys⟩, hconnections, hpending⟩ := h
  obtain ⟨⟨keys', hran', hkeys'⟩, hconnections', hpending'⟩ := h'
  refine ⟨⟨keys ++ keys', hran.trans hran', fun k hk => ?_⟩, hconnections'.trans hconnections,
    hpending'.trans hpending⟩
  rcases List.mem_append.1 hk with hk | hk
  · exact hkeys k hk
  · exact hkeys' k hk

/-- The loop from the back erases connections that were closed, and leaves none that is open. -/
theorem erase_invalid_spec (hclose : ∀ c s, Closed env s (close c s)) (l : List C) (s : Server C) :
    (eraseInvalid close l s).1.Sublist l ∧ Closed env s (eraseInvalid close l s).2 ∧
      (∀ c ∈ (eraseInvalid close l s).1, s.fds.fdClosed c = false) ∧
      ∀ c ∈ l, (eraseInvalid close l s).2.fds.fdClosed c = false →
        c ∈ (eraseInvalid close l s).1 := by
  induction l with
  | nil => exact ⟨.refl _, .refl env s, nofun, nofun⟩
  | cons c l ih =>
      obtain ⟨hsub, hclosed, hopen, hkept⟩ := ih
      have hcons : eraseInvalid close (c :: l) s =
          if (eraseInvalid close l s).2.fds.fdClosed c then
            ((eraseInvalid close l s).1, close c (eraseInvalid close l s).2)
          else (c :: (eraseInvalid close l s).1, (eraseInvalid close l s).2) := rfl
      generalize eraseInvalid close l s = rest at *
      obtain ⟨kept, next⟩ := rest
      obtain ⟨keys, hran, -⟩ := hclosed.ran
      rw [hcons]
      by_cases hc : next.fds.fdClosed c = true
      · obtain ⟨keys', hran', -⟩ := (hclose c next).ran
        rw [if_pos hc]
        refine ⟨hsub.cons c, hclosed.trans (hclose c next), hopen, fun c' hc' hopen' => ?_⟩
        have hnext := hran'.open_before hopen'
        rcases List.mem_cons.1 hc' with rfl | hmem
        · rw [hnext] at hc
          cases hc
        · exact hkept c' hmem hnext
      · have hc : next.fds.fdClosed c = false := by simpa using hc
        rw [if_neg (by simp [hc])]
        refine ⟨hsub.cons_cons c, hclosed, fun c' hc' => ?_, fun c' hc' hopen' => ?_⟩
        · rcases List.mem_cons.1 hc' with rfl | hmem
          · exact hran.open_before hc
          · exact hopen c' hmem
        · rcases List.mem_cons.1 hc' with rfl | hmem
          · exact List.mem_cons_self
          · exact List.mem_cons_of_mem _ (hkept c' hmem hopen')

/-- The loop drops from the front what is too much. -/
theorem drop_oldest_spec (hclose : ∀ c s, Closed env s (close c s)) (max : Nat) (l : List C)
    (s : Server C) :
    (dropOldest close max l s).1 = newest max l ∧
      Closed env s (dropOldest close max l s).2 := by
  induction l generalizing s with
  | nil => exact ⟨by simp [dropOldest, newest], .refl env s⟩
  | cons c l ih =>
      rw [dropOldest]
      split_ifs with hmore
      · obtain ⟨hdrop, hclosed⟩ := ih (close c s)
        refine ⟨?_, (hclose c s).trans hclosed⟩
        rw [List.length_cons] at hmore
        rw [hdrop, newest, newest, List.length_cons, Nat.succ_sub (Nat.le_of_lt_succ hmore),
          List.drop_succ_cons]
      · rw [newest, Nat.sub_eq_zero_of_le (Nat.le_of_not_lt hmore)]
        exact ⟨rfl, .refl env s⟩

section

variable [DecidableEq C]

/-- A call of the server does what its effect says. -/
theorem ran_callback (env : Environment C) (s : Server C) (k : Callback C) :
    Ran env [k] s (s.callback env k) where
  max_connections := rfl
  trace := rfl
  stay_closed c hc := by simp [callback, affect, ServerFds.apply, hc]
  closed_by c hc := by
    have hcases : s.fds.fdClosed c = true ∨ c ∈ (env s.trace.length k).closes := by
      simpa [callback, affect, ServerFds.apply] using hc
    exact hcases.imp_right fun hcloses =>
      ⟨s.trace.length, Nat.le_refl _, k, List.getElem?_concat_length, hcloses⟩
  stay_accepted c hc := by simp [callback, affect, ServerFds.apply, hc]
  stay_requested c hc := by simp [callback, affect, ServerFds.apply, hc]

/-- A call that closes only closes. -/
theorem closed_callback (env : Environment C) (s : Server C) {k : Callback C}
    (hk : k.OfClosing) : Closed env s (s.callback env k) :=
  ⟨⟨[k], ran_callback env s k, fun _ hk' => List.mem_singleton.1 hk' ▸ hk⟩, rfl, rfl⟩

/-- Closing a pending connection only closes. -/
theorem closed_pending_connection (env : Environment C) (c : C) (s : Server C) :
    Closed env s (s.serverClosePendingConnection env c) := by
  rw [serverClosePendingConnection]
  split_ifs
  · exact .refl env s
  · exact closed_callback env s trivial

/-- Closing an accepted connection only closes. -/
theorem closed_connection (env : Environment C) (c : C) (s : Server C) :
    Closed env s (s.serverCloseConnection env c) := by
  have hfinalize : Closed env s (s.callback env (.finalize c)) := closed_callback env s trivial
  simp only [serverCloseConnection]
  split_ifs
  · exact hfinalize
  · exact hfinalize.trans (closed_callback env _ trivial)

/-- From `s` to `s'` the server accepted some connections of `l`, in order. -/
structure Entered (env : Environment C) (l entered : List C) (keys : List (Callback C))
    (s s' : Server C) : Prop where
  sublist : entered.Sublist l
  ran : Ran env keys s s'
  connections : s'.connections = s.connections ++ entered
  pending_connections : s'.pendingConnections = s.pendingConnections
  acceptances : keys.filterMap Callback.acceptance = entered
  arrivals : keys.filterMap Callback.arrival = []
  quiet : .allDisconnect ∉ keys
  accepted : ∀ c ∈ entered, s'.fds.connectionAccepted c = true
  requested : ∀ c ∈ entered, s'.fds.acceptanceRequested c = true
  all_requested : ∀ c ∈ l, s.fds.acceptanceRequested c = true → c ∈ entered

/-- The server accepts a connection without a call. -/
theorem ran_accept_connection (env : Environment C) (s : Server C) (c : C) :
    Ran env [] s { s with
      connections := s.connections ++ [c], fds := s.fds.acceptConnection c } where
  max_connections := rfl
  trace := (List.append_nil _).symm
  stay_closed _ := id
  closed_by _ := .inl
  stay_accepted c' hc' := by
    by_cases heq : c' = c
    · simp [ServerFds.acceptConnection, heq]
    · simpa [ServerFds.acceptConnection, heq] using hc'
  stay_requested _ := id

/-- A connection that has requested acceptance enters the accepted list. -/
theorem entered_accept_connection (env : Environment C) {s : Server C} {c : C}
    (h : s.fds.acceptanceRequested c = true) :
    ∃ keys, Entered env [c] [c] keys s (s.serverAcceptConnection env c) := by
  have hnot : ¬ s.fds.acceptanceRequested c = false := by simp [h]
  let entered : Server C :=
    { s with connections := s.connections ++ [c], fds := s.fds.acceptConnection c }
  have hran : Ran env [.accepted c] s (entered.callback env (.accepted c)) :=
    (ran_accept_connection env s c).trans (ran_callback env _ _)
  have haccepted : entered.fds.connectionAccepted c = true := by
    simp [entered, ServerFds.acceptConnection]
  have hcallback := (ran_callback env entered (.accepted c)).stay_accepted c haccepted
  simp only [serverAcceptConnection, if_neg hnot]
  split_ifs
  · refine ⟨[.accepted c], .refl _, hran, rfl, rfl, rfl, rfl, by simp, ?_, ?_, fun _ hc _ => hc⟩
    · exact List.forall_mem_singleton.2 hcallback
    · exact List.forall_mem_singleton.2 (hran.stay_requested c h)
  · have hclose := ran_callback env (entered.callback env (.accepted c)) (.close c)
    refine ⟨[.accepted c, .close c], .refl _, hran.trans hclose, rfl, rfl, rfl, rfl, by simp, ?_,
      ?_, fun _ hc _ => hc⟩
    · exact List.forall_mem_singleton.2 (hclose.stay_accepted c hcallback)
    · exact List.forall_mem_singleton.2 ((hran.trans hclose).stay_requested c h)

/-- The loop accepts the connections that request it. -/
theorem entered_accept_requested (env : Environment C) (l : List C) (s : Server C) :
    ∃ entered keys, Entered env l entered keys s (acceptRequested env l s) := by
  -- each acceptance may change what those behind it answer
  induction l generalizing s with
  | nil =>
      exact ⟨[], [], .refl _, .refl env s, by simp [acceptRequested], rfl, rfl, rfl, nofun, nofun,
        nofun, nofun⟩
  | cons c l ih =>
      have hcons : acceptRequested env (c :: l) s = acceptRequested env l
          (if s.fds.acceptanceRequested c then s.serverAcceptConnection env c else s) := rfl
      rw [hcons]
      by_cases hrequested : s.fds.acceptanceRequested c = true
      · obtain ⟨keys, hfirst⟩ := entered_accept_connection env hrequested
        obtain ⟨entered, keys', hrest⟩ := ih (s.serverAcceptConnection env c)
        rw [if_pos hrequested]
        refine ⟨c :: entered, keys ++ keys', hrest.sublist.cons_cons c, hfirst.ran.trans hrest.ran,
          ?_, hrest.pending_connections.trans hfirst.pending_connections, ?_, ?_, ?_, ?_, ?_, ?_⟩
        · rw [hrest.connections, hfirst.connections, List.append_assoc]
          rfl
        · rw [List.filterMap_append, hfirst.acceptances, hrest.acceptances]
          rfl
        · rw [List.filterMap_append, hfirst.arrivals, hrest.arrivals]
          rfl
        · rw [List.mem_append]
          exact fun h => h.elim hfirst.quiet hrest.quiet
        · intro c' hc'
          rcases List.mem_cons.1 hc' with rfl | hc'
          · exact hrest.ran.stay_accepted _ (hfirst.accepted _ List.mem_cons_self)
          · exact hrest.accepted c' hc'
        · intro c' hc'
          rcases List.mem_cons.1 hc' with rfl | hc'
          · exact hrest.ran.stay_requested _ (hfirst.requested _ List.mem_cons_self)
          · exact hrest.requested c' hc'
        · intro c' hc' hrequested'
          rcases List.mem_cons.1 hc' with rfl | hc'
          · exact List.mem_cons_self
          · exact List.mem_cons_of_mem _
              (hrest.all_requested c' hc' (hfirst.ran.stay_requested c' hrequested'))
      · obtain ⟨entered, keys, hrest⟩ := ih s
        rw [if_neg hrequested]
        refine ⟨entered, keys, hrest.sublist.cons c, hrest.ran, hrest.connections,
          hrest.pending_connections, hrest.acceptances, hrest.arrivals, hrest.quiet, hrest.accepted,
          hrest.requested, fun c' hc' hrequested' => ?_⟩
        rcases List.mem_cons.1 hc' with rfl | hc'
        · exact absurd hrequested' hrequested
        · exact hrest.all_requested c' hc' hrequested'

/-- What pruning the pending connections does: first the closed ones go, then those that request it
enter the accepted list, and of those that still wait the newest stay. -/
structure PendingPruned (env : Environment C) (before after : Server C)
    (calls : List (Callback C)) (entered waiting : List C) : Prop where
  ran : Ran env calls before after
  acceptances : calls.filterMap Callback.acceptance = entered
  arrivals : calls.filterMap Callback.arrival = []
  quiet : .allDisconnect ∉ calls
  entered_sublist : entered.Sublist before.pendingConnections
  entered_requested : ∀ c ∈ entered, after.fds.acceptanceRequested c = true
  all_requested : ∀ c ∈ before.pendingConnections, after.fds.fdClosed c = false →
    before.fds.acceptanceRequested c = true → c ∈ entered
  connections : after.connections = before.connections ++ entered
  waiting_sublist : waiting.Sublist before.pendingConnections
  waiting_open : ∀ c ∈ waiting, before.fds.fdClosed c = false
  all_waiting : ∀ c ∈ before.pendingConnections, after.fds.fdClosed c = false →
    after.fds.connectionAccepted c = false → c ∈ waiting
  apart : ∀ c ∈ waiting, c ∉ entered
  pending_connections : after.pendingConnections = newest before.maxConnections.toNat waiting

/-- The three loops prune the pending connections. -/
theorem pending_pruned (env : Environment C) (s : Server C) :
    ∃ calls entered waiting,
      PendingPruned env s (s.serverPrunePendingConnections env) calls entered waiting := by
  -- the three loops, one after the other
  obtain ⟨hvalid, ⟨⟨keys₁, hran₁, hkeys₁⟩, hconnections₁, -⟩, hopen, hkept⟩ :=
    erase_invalid_spec (closed_pending_connection env) s.pendingConnections s
  generalize hfirst :
    eraseInvalid (serverClosePendingConnection env) s.pendingConnections s = first at *
  obtain ⟨valid, s₁⟩ := first
  obtain ⟨entered, keys₂, hentered⟩ := entered_accept_requested env valid s₁
  generalize hsecond : acceptRequested env valid s₁ = s₂ at *
  obtain ⟨hnewest, ⟨keys₃, hran₃, hkeys₃⟩, hconnections₃, -⟩ :=
    drop_oldest_spec (closed_pending_connection env) s₂.maxConnections.toNat
      (valid.filter fun c => !s₂.fds.connectionAccepted c) s₂
  generalize hthird : dropOldest (serverClosePendingConnection env) s₂.maxConnections.toNat
    (valid.filter fun c => !s₂.fds.connectionAccepted c) s₂ = third at *
  obtain ⟨left, s₃⟩ := third
  have hprune : s.serverPrunePendingConnections env = { s₃ with pendingConnections := left } := by
    simp only [serverPrunePendingConnections, hfirst, hsecond, hthird]
  have hran : Ran env (keys₁ ++ keys₂ ++ keys₃) s s₃ := (hran₁.trans hentered.ran).trans hran₃
  have hmax : s₂.maxConnections = s.maxConnections :=
    hentered.ran.max_connections.trans hran₁.max_connections
  rw [hprune]
  refine ⟨keys₁ ++ keys₂ ++ keys₃, entered, valid.filter fun c => !s₂.fds.connectionAccepted c,
    hran.set_lists s₃.connections left, ?_, ?_, ?_, hentered.sublist.trans hvalid, ?_, ?_, ?_,
    List.filter_sublist.trans hvalid, ?_, ?_, ?_, ?_⟩
  · simp [acceptances_of_closing hkeys₁, acceptances_of_closing hkeys₃, hentered.acceptances]
  · simp [arrivals_of_closing hkeys₁, arrivals_of_closing hkeys₃, hentered.arrivals]
  · simp only [List.mem_append, not_or]
    exact ⟨⟨fun h => hkeys₁ _ h, hentered.quiet⟩, fun h => hkeys₃ _ h⟩
  · exact fun c hc => hran₃.stay_requested c (hentered.requested c hc)
  · intro c hc hopen' hrequested
    have hmem := hkept c hc (hentered.ran.open_before (hran₃.open_before hopen'))
    exact hentered.all_requested c hmem (hran₁.stay_requested c hrequested)
  · rw [← hconnections₁, ← hentered.connections, ← hconnections₃]
  · exact fun c hc => hopen c (List.mem_of_mem_filter hc)
  · intro c hc hopen' hwaits
    refine List.mem_filter.2
      ⟨hkept c hc (hentered.ran.open_before (hran₃.open_before hopen')), ?_⟩
    by_contra haccepted
    exact Bool.eq_false_iff.1 hwaits (hran₃.stay_accepted c (by simpa using haccepted))
  · intro c hc hmem
    have haccepted := hentered.accepted c hmem
    simp [haccepted] at hc
  · rw [← hmax]
    exact hnewest

/-- What pruning the accepted connections does: the closed ones go, and of the others the newest
stay. The subclass is told if this has emptied the list. -/
structure AcceptedPruned (env : Environment C) (before after : Server C)
    (calls : List (Callback C)) (valid : List C) : Prop where
  ran : Ran env calls before after
  acceptances : calls.filterMap Callback.acceptance = []
  arrivals : calls.filterMap Callback.arrival = []
  pending_connections : after.pendingConnections = before.pendingConnections
  valid_sublist : valid.Sublist before.connections
  valid_open : ∀ c ∈ valid, before.fds.fdClosed c = false
  all_valid : ∀ c ∈ before.connections, after.fds.fdClosed c = false → c ∈ valid
  connections : after.connections = newest before.maxConnections.toNat valid
  all_disconnect : ∃ quiet, .allDisconnect ∉ quiet ∧ calls =
    quiet ++ if before.connections ≠ [] ∧ after.connections = [] then [.allDisconnect] else []

/-- The two loops prune the accepted connections. -/
theorem accepted_pruned (env : Environment C) (s : Server C) :
    ∃ calls valid, AcceptedPruned env s (s.serverPruneAcceptedConnections env) calls valid := by
  obtain ⟨hvalid, ⟨⟨keys₁, hran₁, hkeys₁⟩, -, hpending₁⟩, hopen, hkept⟩ :=
    erase_invalid_spec (closed_connection env) s.connections s
  generalize hfirst : eraseInvalid (serverCloseConnection env) s.connections s = first at *
  obtain ⟨valid, s₁⟩ := first
  obtain ⟨hnewest, ⟨keys₂, hran₂, hkeys₂⟩, -, hpending₂⟩ :=
    drop_oldest_spec (closed_connection env) s₁.maxConnections.toNat valid s₁
  generalize hsecond : dropOldest (serverCloseConnection env) s₁.maxConnections.toNat valid s₁ =
    second at *
  obtain ⟨left, s₂⟩ := second
  obtain rfl : left = newest s₁.maxConnections.toNat valid := hnewest
  have hran : Ran env (keys₁ ++ keys₂) s s₂ := hran₁.trans hran₂
  -- no call of the server changes its maximum
  have hmax : s₁.maxConnections = s.maxConnections := hran₁.max_connections
  have hclosing : ∀ k ∈ keys₁ ++ keys₂, k.OfClosing := fun k hk =>
    (List.mem_append.1 hk).elim (hkeys₁ k) (hkeys₂ k)
  have hquiet : Callback.allDisconnect ∉ keys₁ ++ keys₂ := fun h => hclosing _ h
  -- the list is assigned once both loops are through
  let pruned : Server C := { s₂ with connections := newest s₁.maxConnections.toNat valid }
  have hpruned : Ran env (keys₁ ++ keys₂) s pruned := hran.set_lists _ s₂.pendingConnections
  have hpending : pruned.pendingConnections = s.pendingConnections := hpending₂.trans hpending₁
  have hall : ∀ c ∈ s.connections, pruned.fds.fdClosed c = false → c ∈ valid := fun c hc hopen' =>
    hkept c hc (hran₂.open_before hopen')
  have hprune : s.serverPruneAcceptedConnections env =
      if s.connections ≠ [] ∧ pruned.connections = [] then pruned.callback env .allDisconnect
      else pruned := by
    simp only [serverPruneAcceptedConnections, hfirst, hsecond]
    refine if_congr (and_congr_left fun hempty => ?_) rfl rfl
    simp [hempty, List.length_pos_iff]
  rw [hprune]
  by_cases hemptied : s.connections ≠ [] ∧ pruned.connections = []
  · have hdisconnect := ran_callback env pruned .allDisconnect
    rw [if_pos hemptied]
    refine ⟨keys₁ ++ keys₂ ++ [.allDisconnect], valid, hpruned.trans hdisconnect, ?_, ?_, hpending,
      hvalid, hopen, fun c hc hopen' => hall c hc (hdisconnect.open_before hopen'), ?_,
      keys₁ ++ keys₂, hquiet, ?_⟩
    · rw [List.filterMap_append, acceptances_of_closing hclosing]
      rfl
    · rw [List.filterMap_append, arrivals_of_closing hclosing]
      rfl
    · exact congrArg (fun max : UInt32 => newest max.toNat valid) hmax
    · exact congrArg _ (if_pos hemptied).symm
  · rw [if_neg hemptied]
    refine ⟨keys₁ ++ keys₂, valid, hpruned, acceptances_of_closing hclosing,
      arrivals_of_closing hclosing, hpending, hvalid, hopen, hall, ?_, keys₁ ++ keys₂, hquiet, ?_⟩
    · exact congrArg (fun max : UInt32 => newest max.toNat valid) hmax
    · rw [if_neg hemptied, List.append_nil]

/-- What one pruning does to both lists. What is left was open when the pruning began, and is open
unless a call of the pruning closed it. Only what is on the accepted list, or enters it now, drives
an accepted connection out. -/
structure Pruned (env : Environment C) (before after : Server C) : Prop where
  connections_le : after.connections.length ≤ after.maxConnections.toNat
  pending_le : after.pendingConnections.length ≤ after.maxConnections.toNat
  open_before : ∀ c ∈ after.connections ++ after.pendingConnections, before.fds.fdClosed c = false
  closed_by : ∀ c ∈ after.connections ++ after.pendingConnections, after.fds.fdClosed c = true →
    ClosedBy env before after c
  pending_pruned : ∃ calls entered waiting,
    PendingPruned env before (before.serverPrunePendingConnections env) calls entered waiting
  accepted_pruned : ∃ calls valid,
    AcceptedPruned env (before.serverPrunePendingConnections env) after calls valid
  displaced : ∀ c ∈ before.connections, after.fds.fdClosed c = false → c ∉ after.connections →
    after.maxConnections.toNat < (before.serverPrunePendingConnections env).connections.length

/-- Pruning prunes the pending connections, and then the accepted ones. -/
theorem pruned (env : Environment C) (s : Server C) :
    Pruned env s (s.serverPruneConnections env) := by
  obtain ⟨calls, entered, waiting, hpending⟩ := pending_pruned env s
  obtain ⟨calls', valid, haccepted⟩ := accepted_pruned env (s.serverPrunePendingConnections env)
  have hran := hpending.ran.trans haccepted.ran
  have hmax : (s.serverPrunePendingConnections env).maxConnections =
      (s.serverPruneConnections env).maxConnections := haccepted.ran.max_connections.symm
  have hopen : ∀ c ∈ (s.serverPruneConnections env).connections ++
      (s.serverPruneConnections env).pendingConnections, s.fds.fdClosed c = false := by
    intro c hc
    rcases List.mem_append.1 hc with hc | hc
    · -- the second pruning has looked at all that the first has accepted
      have hvalid := (newest_sublist _ valid).subset (haccepted.connections ▸ hc)
      exact hpending.ran.open_before (haccepted.valid_open c hvalid)
    · rw [serverPruneConnections, haccepted.pending_connections, hpending.pending_connections] at hc
      exact hpending.waiting_open c ((newest_sublist _ waiting).subset hc)
  refine ⟨?_, ?_, hopen, fun c hc hclosed => ?_, ⟨calls, entered, waiting, hpending⟩,
    ⟨calls', valid, haccepted⟩, fun c hc hopen' hgone => ?_⟩
  · rw [← hmax, serverPruneConnections, haccepted.connections]
    exact newest_length _ _
  · rw [← hmax, hpending.ran.max_connections, serverPruneConnections,
      haccepted.pending_connections, hpending.pending_connections]
    exact newest_length _ _
  · rcases hran.closed_by c hclosed with hbefore | hcloses
    · rw [hopen c hc] at hbefore
      cases hbefore
    · exact hcloses
  · -- with room for all that are valid none of them is dropped
    by_contra hroom
    have hmem : c ∈ (s.serverPrunePendingConnections env).connections := by
      rw [hpending.connections]
      exact List.mem_append_left _ hc
    have hvalid := haccepted.all_valid c hmem hopen'
    have hlength :
        valid.length - (s.serverPrunePendingConnections env).maxConnections.toNat = 0 := by
      have hle := haccepted.valid_sublist.length_le
      rw [hmax]
      omega
    refine hgone ?_
    rw [serverPruneConnections, haccepted.connections, newest, hlength]
    exact hvalid

/-- The connections that were created, in the order in which they arrived. -/
def arrivals (s : Server C) : List C := s.trace.filterMap Callback.arrival

/-- The connections that were accepted, in order. -/
def acceptances (s : Server C) : List C := s.trace.filterMap Callback.acceptance

/-- Both lists together hold no connection twice, the pending ones in the order of arrival and the
accepted ones in the order of acceptance. -/
structure OnLists (s : Server C) : Prop where
  once : (s.connections ++ s.pendingConnections).Nodup
  accepted_order : s.connections.Sublist s.acceptances
  pending_order : s.pendingConnections.Sublist s.arrivals
  arrived : ∀ c ∈ s.connections, c ∈ s.arrivals

omit [DecidableEq C] in
/-- A new server has empty lists. -/
theorem start_on_lists (maxConnections : UInt32) : (start maxConnections : Server C).OnLists :=
  ⟨.nil, .slnil, .slnil, nofun⟩

/-- Pruning keeps what is on the lists in order. -/
theorem OnLists.prune (h : s.OnLists) (env : Environment C) :
    (s.serverPruneConnections env).OnLists := by
  obtain ⟨calls, entered, waiting, hpending⟩ := pending_pruned env s
  obtain ⟨calls', valid, haccepted⟩ := accepted_pruned env (s.serverPrunePendingConnections env)
  have hconnections :
      (s.serverPruneConnections env).connections.Sublist (s.connections ++ entered) := by
    rw [serverPruneConnections, haccepted.connections, ← hpending.connections]
    exact (newest_sublist _ valid).trans haccepted.valid_sublist
  have hwaiting : (s.serverPruneConnections env).pendingConnections.Sublist waiting := by
    rw [serverPruneConnections, haccepted.pending_connections, hpending.pending_connections]
    exact newest_sublist _ waiting
  -- only the pruning of the pending list accepts
  have hacceptances : (s.serverPruneConnections env).acceptances = s.acceptances ++ entered := by
    rw [acceptances, serverPruneConnections, haccepted.ran.trace, hpending.ran.trace,
      List.filterMap_append, List.filterMap_append, haccepted.acceptances, hpending.acceptances,
      List.append_nil]
    rfl
  -- and no pruning creates a connection
  have harrivals : (s.serverPruneConnections env).arrivals = s.arrivals := by
    rw [arrivals, serverPruneConnections, haccepted.ran.trace, hpending.ran.trace,
      List.filterMap_append, List.filterMap_append, haccepted.arrivals, hpending.arrivals,
      List.append_nil, List.append_nil]
    rfl
  obtain ⟨hnodup, hnodup', hdisjoint⟩ := List.nodup_append.1 h.once
  refine ⟨?_, ?_, ?_, fun c hc => ?_⟩
  · refine List.Nodup.sublist (hconnections.append hwaiting) ?_
    have hentered := hpending.entered_sublist
    have hwaits := hpending.waiting_sublist
    refine List.nodup_append.2 ⟨List.nodup_append.2 ⟨hnodup, hnodup'.sublist hentered,
      fun c hc c' hc' => hdisjoint c hc c' (hentered.subset hc')⟩, hnodup'.sublist hwaits, ?_⟩
    intro c hc c' hc' heq
    rcases List.mem_append.1 hc with hc | hc
    · exact hdisjoint c hc c' (hwaits.subset hc') heq
    · exact hpending.apart c' hc' (heq ▸ hc)
  · exact hacceptances ▸ hconnections.trans (h.accepted_order.append (.refl _))
  · exact harrivals ▸ hwaiting.trans (hpending.waiting_sublist.trans h.pending_order)
  · rw [harrivals]
    rcases List.mem_append.1 (hconnections.subset hc) with hc | hc
    · exact h.arrived c hc
    · exact h.pending_order.subset (hpending.entered_sublist.subset hc)

/-- From `s` to `s'` the connections `created` were created, and each of them entered the end of one
of the lists or none; other connections were only affected by the calls. -/
structure Arrived (env : Environment C) (created accepted waiting : List C)
    (s s' : Server C) : Prop where
  ran : ∃ keys, Ran env keys s s' ∧ keys.filterMap Callback.acceptance = accepted ∧
    keys.filterMap Callback.arrival = created ∧ .allDisconnect ∉ keys
  sublist : (accepted ++ waiting).Sublist created
  connections : s'.connections = s.connections ++ accepted
  pending_connections : s'.pendingConnections = s.pendingConnections ++ waiting

omit [DecidableEq C] in
/-- What is created is new, and nothing is created twice. -/
theorem OnLists.arrived_on_lists (h : s.OnLists) {created accepted waiting : List C}
    (harrived : Arrived env created accepted waiting s s') (hnew : ∀ c ∈ created, c ∉ s.arrivals)
    (honce : created.Nodup) : s'.OnLists := by
  obtain ⟨⟨keys, hran, hacceptances, harrivals, -⟩, hsub, hconnections, hpending⟩ := harrived
  have hacceptances : s'.acceptances = s.acceptances ++ accepted := by
    rw [acceptances, hran.trace, List.filterMap_append, hacceptances]
    rfl
  have harrivals : s'.arrivals = s.arrivals ++ created := by
    rw [arrivals, hran.trace, List.filterMap_append, harrivals]
    rfl
  obtain ⟨hnodup, hnodup', hdisjoint⟩ := List.nodup_append.1 h.once
  obtain ⟨haccepted, hwaiting, hapart⟩ := List.nodup_append.1 (honce.sublist hsub)
  -- a new connection is none of those that have arrived before
  have hold {c c' : C} (hc : c ∈ s.arrivals) (hc' : c' ∈ accepted ++ waiting) : c ≠ c' :=
    fun heq => hnew c' (hsub.subset hc') (heq ▸ hc)
  have hin (c : C) (hc : c ∈ s.pendingConnections) : c ∈ s.arrivals := h.pending_order.subset hc
  refine ⟨?_, ?_, ?_, fun c hc => ?_⟩
  · rw [hconnections, hpending]
    refine List.nodup_append.2 ⟨List.nodup_append.2 ⟨hnodup, haccepted, fun c hc c' hc' =>
      hold (h.arrived c hc) (List.mem_append_left _ hc')⟩, List.nodup_append.2 ⟨hnodup', hwaiting,
        fun c hc c' hc' => hold (hin c hc) (List.mem_append_right _ hc')⟩, fun c hc c' hc' => ?_⟩
    rcases List.mem_append.1 hc with hc | hc
    · rcases List.mem_append.1 hc' with hc' | hc'
      · exact hdisjoint c hc c' hc'
      · exact hold (h.arrived c hc) (List.mem_append_right _ hc')
    · rcases List.mem_append.1 hc' with hc' | hc'
      · exact (hold (hin c' hc') (List.mem_append_left _ hc)).symm
      · exact hapart c hc c' hc'
  · rw [hconnections, hacceptances]
    exact h.accepted_order.append (.refl _)
  · rw [hpending, harrivals]
    exact h.pending_order.append ((List.sublist_append_right _ _).trans hsub)
  · rw [harrivals]
    rcases List.mem_append.1 (hconnections ▸ hc) with hc | hc
    · exact List.mem_append_left _ (h.arrived c hc)
    · exact List.mem_append_right _ (hsub.subset (List.mem_append_left _ hc))

/-- A refused connection enters no list, another one the end of one of them. -/
theorem arrived_enlist (env : Environment C) (created : Created C) (s : Server C) :
    ∃ accepted waiting, Arrived env created.connection.toList accepted waiting s
        (s.enlist env created).2 ∧
      ((s.enlist env created).1 = true → accepted ++ waiting = created.connection.toList) ∧
      ((s.enlist env created).1 = false → accepted ++ waiting = []) := by
  have hcreate := ran_callback env s (.create created.connection)
  have hrefuse := hcreate.trans (ran_callback env _ .closeRefused)
  have hrefused : Arrived env created.connection.toList [] [] s
      ((s.callback env (.create created.connection)).callback env .closeRefused) := by
    refine ⟨⟨_, hrefuse, rfl, ?_, by simp⟩, List.nil_sublist _, (List.append_nil _).symm,
      (List.append_nil _).symm⟩
    cases hconnection : created.connection <;> simp [Callback.arrival]
  simp only [enlist]
  cases hconnection : created.connection with
  | none =>
      rw [hconnection] at hrefused
      exact ⟨[], [], hrefused, nofun, fun _ => rfl⟩
  | some c =>
      rw [hconnection] at hrefused hcreate
      simp only
      split_ifs with hgood hrequested
      · obtain ⟨keys, hentered⟩ := entered_accept_connection env hrequested
        have hpending := hentered.pending_connections.trans (List.append_nil _).symm
        refine ⟨[c], [], ⟨⟨_, hcreate.trans hentered.ran, ?_, ?_, ?_⟩, .refl _,
          hentered.connections, hpending⟩, fun _ => rfl, nofun⟩
        · rw [List.filterMap_append, hentered.acceptances]
          rfl
        · rw [List.filterMap_append, hentered.arrivals]
          rfl
        · simpa using hentered.quiet
      · have hran := hcreate.set_lists s.connections (s.pendingConnections ++ [c])
        exact ⟨[], [c], ⟨⟨_, hran, rfl, rfl, by simp⟩, .refl _, (List.append_nil _).symm, rfl⟩,
          fun _ => rfl, nofun⟩
      · exact ⟨[], [], hrefused, nofun, fun _ => rfl⟩

omit [DecidableEq C] in
/-- Calls that create and accept nothing. -/
theorem Arrived.of_ran (h : Ran env keys s s')
    (hacceptances : keys.filterMap Callback.acceptance = [])
    (harrivals : keys.filterMap Callback.arrival = []) (hquiet : .allDisconnect ∉ keys)
    (hconnections : s'.connections = s.connections)
    (hpending : s'.pendingConnections = s.pendingConnections) : Arrived env [] [] [] s s' :=
  ⟨⟨keys, h, hacceptances, harrivals, hquiet⟩, .refl _,
    hconnections.trans (List.append_nil _).symm, hpending.trans (List.append_nil _).symm⟩

omit [DecidableEq C] in
/-- Calls that create nothing are followed by others. -/
theorem Arrived.trans (h : Arrived env [] [] [] s s') (h' : Arrived env [] [] [] s' s'') :
    Arrived env [] [] [] s s'' := by
  obtain ⟨⟨keys, hran, hacceptances, harrivals, hquiet⟩, -, hconnections, hpending⟩ := h
  obtain ⟨⟨keys', hran', hacceptances', harrivals', hquiet'⟩, -, hconnections', hpending'⟩ := h'
  refine ⟨⟨keys ++ keys', hran.trans hran', ?_, ?_, by simp [hquiet, hquiet']⟩, .refl _,
    by rw [hconnections', hconnections, List.append_nil],
    by rw [hpending', hpending, List.append_nil]⟩
  · rw [List.filterMap_append, hacceptances, hacceptances', List.append_nil]
  · rw [List.filterMap_append, harrivals, harrivals', List.append_nil]

/-- Dispatching the connections of a list creates and accepts nothing. -/
theorem arrived_dispatch_loop (env : Environment C) (l : List C) (s : Server C) :
    Arrived env [] [] [] s (l.foldl (fun s c => s.callback env (.dispatch c)) s) := by
  induction l generalizing s with
  | nil => exact .of_ran (.refl env s) rfl rfl nofun rfl rfl
  | cons c l ih =>
      have hfirst : Arrived env [] [] [] s (s.callback env (.dispatch c)) :=
        .of_ran (ran_callback env s _) rfl rfl (by simp) rfl rfl
      exact hfirst.trans (ih _)

/-- Dispatching the connections leaves the lists as they are. -/
theorem arrived_dispatch (env : Environment C) (s : Server C) :
    Arrived env [] [] [] s (s.dispatchConnections env) := by
  have hfirst : Arrived env [] [] [] s (s.callback env .serverDispatch) :=
    .of_ran (ran_callback env s _) rfl rfl (by simp) rfl rfl
  exact (hfirst.trans (arrived_dispatch_loop env _ _)).trans (arrived_dispatch_loop env _ _)

/-- The connection that the operation creates. -/
def created : ServerOp C → List C
  | .addConnection created _ => created.connection.toList
  | _ => []

/-- What `server_create_connection` returns is a new object. -/
def CreatesNew (s : Server C) (op : ServerOp C) : Prop := ∀ c ∈ created op, c ∉ s.arrivals

/-- The server when the operation begins to prune, with the effects of its calls. A refused
connection and the operations of other code prune nothing. -/
def beforePruning (s : Server C) : ServerOp C → Option (Environment C × Server C)
  | .addConnection created env =>
      if (s.enlist env created).1 then some (env, (s.enlist env created).2) else none
  | .dispatch env => some (env, s.dispatchConnections env)
  | _ => none

/-- Every operation keeps what is on the lists in order. -/
theorem OnLists.step (h : s.OnLists) {op : ServerOp C} (hnew : s.CreatesNew op) :
    (s.step op).OnLists := by
  cases op with
  | setMaxConnections maxConnections =>
      simp only [Server.step, setMaxConnections]
      split_ifs
      · exact h
      · exact ⟨h.once, h.accepted_order, h.pending_order, h.arrived⟩
  | outside effect => exact ⟨h.once, h.accepted_order, h.pending_order, h.arrived⟩
  | dispatch env => exact (h.arrived_on_lists (arrived_dispatch env s) nofun .nil).prune env
  | addConnection created env =>
      obtain ⟨accepted, waiting, harrived, -⟩ := arrived_enlist env created s
      have honce : created.connection.toList.Nodup := by cases created.connection <;> simp
      have henlisted := h.arrived_on_lists harrived hnew honce
      simp only [Server.step, addConnection]
      split_ifs
      · exact henlisted.prune env
      · exact henlisted

/-- What the operation adds to the lists before it prunes them. An operation that does not prune
leaves them as they are. -/
theorem arrived_before_pruning (s : Server C) (op : ServerOp C) :
    (∀ env before, s.beforePruning op = some (env, before) →
        s.step op = before.serverPruneConnections env ∧
          ∃ accepted waiting, Arrived env (created op) accepted waiting s before ∧
            accepted ++ waiting = created op) ∧
      (s.beforePruning op = none →
        (s.step op).connections = s.connections ∧
          (s.step op).pendingConnections = s.pendingConnections ∧
          .allDisconnect ∉ (s.step op).trace.drop s.trace.length) := by
  cases op with
  | setMaxConnections maxConnections =>
      refine ⟨nofun, fun _ => ?_⟩
      simp only [Server.step, setMaxConnections]
      split_ifs <;> exact ⟨rfl, rfl, by simp⟩
  | outside effect => exact ⟨nofun, fun _ => ⟨rfl, rfl, by simp [Server.step, affect]⟩⟩
  | dispatch env =>
      refine ⟨fun env' before h => ?_, nofun⟩
      cases h
      exact ⟨rfl, [], [], arrived_dispatch env s, rfl⟩
  | addConnection created env =>
      obtain ⟨accepted, waiting, harrived, henlisted, hrefused⟩ := arrived_enlist env created s
      simp only [beforePruning, Server.step, addConnection]
      cases henlist : (s.enlist env created).1 with
      | true =>
          refine ⟨fun env' before h => ?_, nofun⟩
          cases h
          exact ⟨rfl, accepted, waiting, harrived, henlisted henlist⟩
      | false =>
          refine ⟨nofun, fun _ => ?_⟩
          obtain ⟨rfl, rfl⟩ := List.append_eq_nil_iff.1 (hrefused henlist)
          obtain ⟨keys, hran, -, -, hquiet⟩ := harrived.ran
          refine ⟨harrived.connections.trans (List.append_nil _),
            harrived.pending_connections.trans (List.append_nil _), ?_⟩
          simpa [hran.trace] using hquiet

/-- In every run, with new connections created, the lists together hold no connection twice, each in
its order; and whenever an operation prunes, first what it adds enters at the end of a list, and
then the pruning does what `Pruned` says. -/
theorem lists_kept (maxConnections : UInt32) (ops : List (ServerOp C)) (op : ServerOp C)
    (hnew : Along Server.step CreatesNew (start maxConnections) (ops ++ [op])) :
    let s := run Server.step (start maxConnections) ops
    (s.step op).OnLists ∧
      (∀ env before, s.beforePruning op = some (env, before) →
        (∃ accepted waiting, Arrived env (created op) accepted waiting s before ∧
          accepted ++ waiting = created op) ∧ Pruned env before (s.step op)) ∧
      (s.beforePruning op = none → (s.step op).connections = s.connections ∧
        (s.step op).pendingConnections = s.pendingConnections ∧
        .allDisconnect ∉ (s.step op).trace.drop s.trace.length) := by
  intro s
  have hlists : (s.step op).OnLists := by
    have hrun := hnew.invariant (start_on_lists maxConnections) fun _ _ h hop => h.step hop
    rwa [run_append] at hrun
  obtain ⟨hprunes, hkeeps⟩ := s.arrived_before_pruning op
  refine ⟨hlists, fun env before hbefore => ?_, hkeeps⟩
  obtain ⟨hstep, harrived⟩ := hprunes env before hbefore
  exact ⟨harrived, hstep ▸ pruned env before⟩

end

section Sample

/-- A call that does nothing. -/
def calm : Environment Nat := fun _ _ => ⟨[], [], [], fun _ => false, true⟩

/-- A connection requests acceptance when it is created. -/
def eager : Environment Nat
  | _, .create (some c) => ⟨[], [c], [], fun _ => false, true⟩
  | n, k => calm n k

/-- With room for one on each list, two connections wait, one is accepted at once, and then one of
those that wait requests it. -/
def sampleOps : List (ServerOp Nat) :=
  [.setMaxConnections 1, .addConnection ⟨some 0, true⟩ calm, .addConnection ⟨some 1, true⟩ calm,
    .addConnection ⟨some 2, true⟩ eager, .outside ⟨[], [1], [], fun _ => false, true⟩]

instance (s : Server Nat) : DecidablePred s.CreatesNew := fun op =>
  inferInstanceAs (Decidable (∀ c ∈ created op, c ∉ s.arrivals))

/-- The connection that requests it is accepted in the next dispatch, and drives the other one out.
-/
theorem sample_pruned :
    let s := run Server.step (start 2) sampleOps
    (s.step (.dispatch calm)).OnLists ∧
      Pruned calm (s.dispatchConnections calm) (s.step (.dispatch calm)) ∧
      s.connections = [2] ∧ (s.step (.dispatch calm)).connections = [1] := by
  intro s
  obtain ⟨hlists, hpruned, -⟩ := lists_kept 2 sampleOps (.dispatch calm) (by decide)
  exact ⟨hlists, (hpruned calm _ rfl).2, rfl, rfl⟩

/-- When the connection 0 is finalized, the connection 1 closes. -/
def entangled : Environment Nat
  | _, .finalize 0 => ⟨[1], [], [], fun _ => false, true⟩
  | n, k => calm n k

/-- The pending connection closes, and the next addition is refused. -/
def refusedOps : List (ServerOp Nat) :=
  [.addConnection ⟨some 0, true⟩ calm, .outside ⟨[0], [], [], fun _ => false, true⟩,
    .addConnection ⟨none, false⟩ calm]

/-- Of two accepted connections the older closes, and with it, when it is looked at, the other. -/
def entangledOps : List (ServerOp Nat) :=
  [.addConnection ⟨some 0, true⟩ eager, .addConnection ⟨some 1, true⟩ eager,
    .outside ⟨[0], [], [], fun _ => false, true⟩, .dispatch entangled]

/-- A connection that waits is accepted after one that arrived later. -/
def overtakenOps : List (ServerOp Nat) :=
  [.addConnection ⟨some 0, true⟩ calm, .addConnection ⟨some 1, true⟩ eager,
    .outside ⟨[], [0], [], fun _ => false, true⟩, .dispatch calm]

/-- A closed connection stays on a list when an addition is refused, and when a call of the pruning
closes it after it was looked at; and the accepted connections need not be in the order in which
they arrived. -/
theorem lists_not_always_kept :
    ((run Server.step (start 4) refusedOps).pendingConnections = [0] ∧
        (run Server.step (start 4) refusedOps).fds.fdClosed 0 = true) ∧
      ((run Server.step (start 4) entangledOps).connections = [1] ∧
        (run Server.step (start 4) entangledOps).fds.fdClosed 1 = true) ∧
      (run Server.step (start 4) overtakenOps).connections = [1, 0] ∧
        (run Server.step (start 4) overtakenOps).arrivals = [0, 1] :=
  ⟨⟨rfl, rfl⟩, ⟨rfl, rfl⟩, rfl, rfl⟩

end Sample

end Server

end Codon.Net
