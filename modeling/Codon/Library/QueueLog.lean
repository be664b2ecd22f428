import Mathlib.Data.List.Basic

/-!
# Logs of a queue

A log says what entered a queue at its back and what left it at its front, and why.
`Replays q log q'` says that the log leads from the queue `q` to `q'`. Logs compose
(`Replays.append`), and what was there and what entered is what left and what is there, in order
(`Replays.balance`).
-/

namespace Codon.Library

/-- A line of a log. `β` are the reasons to leave. -/
inductive QueueLine (α β : Type*) where
  | entered (a : α)
  | left (reason : β) (a : α)

variable {α β : Type*}

/-- The item that a line has enter. -/
def QueueLine.entry? : QueueLine α β → Option α
  | .entered a => some a
  | .left _ _ => none

/-- The item that a line has leave, with the reason. -/
def QueueLine.departure? : QueueLine α β → Option (β × α)
  | .entered _ => none
  | .left reason a => some (reason, a)

/-- What entered, in order. -/
def entries (log : List (QueueLine α β)) : List α := log.filterMap QueueLine.entry?

/-- What left and why, in order. -/
def departures (log : List (QueueLine α β)) : List (β × α) := log.filterMap QueueLine.departure?

@[simp] theorem departures_nil : departures ([] : List (QueueLine α β)) = [] := rfl

@[simp] theorem entries_append (log log' : List (QueueLine α β)) :
    entries (log ++ log') = entries log ++ entries log' := List.filterMap_append

@[simp] theorem departures_append (log log' : List (QueueLine α β)) :
    departures (log ++ log') = departures log ++ departures log' := List.filterMap_append

@[simp] theorem entries_entered (a : α) (log : List (QueueLine α β)) :
    entries (.entered a :: log) = a :: entries log := rfl

@[simp] theorem entries_left (reason : β) (a : α) (log : List (QueueLine α β)) :
    entries (.left reason a :: log) = entries log := rfl

@[simp] theorem departures_entered (a : α) (log : List (QueueLine α β)) :
    departures (.entered a :: log) = departures log := rfl

@[simp] theorem departures_left (reason : β) (a : α) (log : List (QueueLine α β)) :
    departures (.left reason a :: log) = (reason, a) :: departures log := rfl

/-- The log leads from one queue to the other. -/
inductive Replays : List α → List (QueueLine α β) → List α → Prop where
  | nil (q : List α) : Replays q [] q
  | entered {a : α} {q q' : List α} {log : List (QueueLine α β)} :
      Replays (q ++ [a]) log q' → Replays q (.entered a :: log) q'
  | left {reason : β} {a : α} {q q' : List α} {log : List (QueueLine α β)} :
      Replays q log q' → Replays (a :: q) (.left reason a :: log) q'

variable {q q' q'' : List α} {log log' : List (QueueLine α β)}

/-- Two logs make one when the second starts where the first ends. -/
theorem Replays.append (h : Replays q log q') (h' : Replays q' log' q'') :
    Replays q (log ++ log') q'' := by
  induction h with
  | nil => exact h'
  | entered _ ih => exact .entered (ih h')
  | left _ ih => exact .left (ih h')

/-- Everything may leave for the same reason. -/
theorem Replays.all_left (reason : β) (q : List α) :
    Replays q (q.map (QueueLine.left reason)) [] := by
  induction q with
  | nil => exact .nil []
  | cons a q ih => exact .left ih

/-- What was there and what entered is what left and what is there. -/
theorem Replays.balance (h : Replays q log q') :
    q ++ entries log = (departures log).map Prod.snd ++ q' := by
  induction h with
  | nil q => exact List.append_nil q
  | entered _ ih => simpa using ih
  | left _ ih => simpa using ih

/-- Nothing enters when everything leaves. -/
theorem entries_all_left (reason : β) (q : List α) :
    entries (q.map (QueueLine.left reason)) = [] := by
  induction q with
  | nil => rfl
  | cons a q ih => exact ih

/-- Nothing leaves for another reason when everything leaves for this one. -/
theorem departures_all_left (reason : β) (q : List α) :
    departures (q.map (QueueLine.left reason)) = q.map fun a => (reason, a) := by
  induction q with
  | nil => rfl
  | cons a q ih => simp [ih]

end Codon.Library
