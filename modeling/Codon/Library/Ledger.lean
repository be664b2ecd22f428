import Mathlib.Data.List.Basic

/-!
# Ledgers: every request is completed once, in order, before the next one

A ledger reads a history of requests and completions. `Settles o h o'` says that
with `o` outstanding at its start the history `h` is legal and leaves `o'`
outstanding: a request comes only when nothing is outstanding, a completion
names the outstanding request, and an idle line, which stands for something that must
not happen in between, comes only when nothing is outstanding. Histories compose
(`Settles.append`), and at every moment the requests are the completions followed by the outstanding
request, if there is one (`Settles.balance`).
-/

namespace Codon.Library

/-- One line of a ledger. -/
inductive Entry (α : Type*) where
  | asked (a : α)
  | done (a : α)
  | idle

variable {α : Type*}

/-- The request that an entry makes. -/
def Entry.request? : Entry α → Option α
  | .asked a => some a
  | _ => none

/-- The request that an entry completes. -/
def Entry.completion? : Entry α → Option α
  | .done a => some a
  | _ => none

/-- The requests of a history, in order. -/
def requests (h : List (Entry α)) : List α := h.filterMap Entry.request?

/-- The completions of a history, in order. -/
def completions (h : List (Entry α)) : List α := h.filterMap Entry.completion?

@[simp] theorem requests_nil : requests ([] : List (Entry α)) = [] := rfl

@[simp] theorem completions_nil : completions ([] : List (Entry α)) = [] := rfl

@[simp] theorem requests_asked (a : α) (h : List (Entry α)) :
    requests (.asked a :: h) = a :: requests h := rfl

@[simp] theorem requests_done (a : α) (h : List (Entry α)) :
    requests (.done a :: h) = requests h := rfl

@[simp] theorem requests_idle (h : List (Entry α)) : requests (.idle :: h) = requests h := rfl

@[simp] theorem completions_idle (h : List (Entry α)) :
    completions (.idle :: h) = completions h := rfl

@[simp] theorem completions_asked (a : α) (h : List (Entry α)) :
    completions (.asked a :: h) = completions h := rfl

@[simp] theorem completions_done (a : α) (h : List (Entry α)) :
    completions (.done a :: h) = a :: completions h := rfl

/-- `Settles o h o'`: from the outstanding request `o` the history `h` is legal and leaves `o'`
outstanding. -/
inductive Settles : Option α → List (Entry α) → Option α → Prop where
  | nil (o : Option α) : Settles o [] o
  | asked {a : α} {h : List (Entry α)} {o : Option α} :
      Settles (some a) h o → Settles none (.asked a :: h) o
  | done {a : α} {h : List (Entry α)} {o : Option α} :
      Settles none h o → Settles (some a) (.done a :: h) o
  | idle {h : List (Entry α)} {o : Option α} : Settles none h o → Settles none (.idle :: h) o

/-- Two legal histories make one when the second starts where the first ends. -/
theorem Settles.append {o m o' : Option α} {h k : List (Entry α)}
    (hfirst : Settles o h m) (hsecond : Settles m k o') : Settles o (h ++ k) o' := by
  induction hfirst with
  | nil => exact hsecond
  | asked _ ih => exact .asked (ih hsecond)
  | done _ ih => exact .done (ih hsecond)
  | idle _ ih => exact .idle (ih hsecond)

/-- Idle lines are legal while nothing is outstanding. -/
theorem Settles.idle_lines {β : Type*} (l : List β) :
    Settles (none : Option α) (l.map fun _ => .idle) none := by
  induction l with
  | nil => exact .nil none
  | cons b l ih => exact .idle ih

/-- What was outstanding and what was asked is what was completed and what is outstanding. -/
theorem Settles.balance {o o' : Option α} {h : List (Entry α)} (hs : Settles o h o') :
    o.toList ++ requests h = completions h ++ o'.toList := by
  induction hs with
  | nil => simp
  | asked _ ih => simpa using ih
  | done _ ih => simpa using ih
  | idle _ ih => simpa using ih

end Codon.Library
