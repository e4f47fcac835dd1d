import PagedQuery.Journal.Event
import PagedQuery.View.SortKey

/-!
# Journals

Carrying out a request leaves a journal: the events reported and the calls made to the
view, in order. A logged value is the result of a computation together with its journal;
running one computation after another appends their journals.

## Main definitions

* `ViewCall`, `Entry`, `Journal`: what a journal holds.
* `Journal.events`, `Journal.calls`: the two sides of a journal.
* `Logged α`: a value with a journal, a monad.
* `report`, `note`: the computations that add one entry.
-/

namespace PagedQuery

/-- A call to a view. -/
inductive ViewCall where
  | restrict (condition : Condition)
  | sort (key : SortKey)
  | count
  | window (skip take : Nat)

/-- A call as text. -/
def ViewCall.display : ViewCall → String
  | restrict condition => "filter " ++ condition.display
  | sort key => "order_by " ++ key.display
  | count => "count"
  | window skip take => "window " ++ toString skip ++ " " ++ toString take

/-- An entry of a journal. -/
inductive Entry where
  | event (e : Event)
  | call (c : ViewCall)

/-- The event of an entry, if it is one. -/
def Entry.event? : Entry → Option Event
  | event e => some e
  | call _ => none

/-- The call of an entry, if it is one. -/
def Entry.call? : Entry → Option ViewCall
  | event _ => none
  | call c => some c

/-- What carrying out a request leaves, in order. -/
abbrev Journal := List Entry

namespace Journal

/-- The events of a journal. -/
def events (j : Journal) : List Event := j.filterMap Entry.event?

/-- The calls of a journal. -/
def calls (j : Journal) : List ViewCall := j.filterMap Entry.call?

@[simp] theorem events_append (j k : Journal) : events (j ++ k) = events j ++ events k :=
  List.filterMap_append

@[simp] theorem calls_append (j k : Journal) : calls (j ++ k) = calls j ++ calls k :=
  List.filterMap_append

end Journal

/-- A value and the journal of its computation. -/
structure Logged (α : Type) where
  value : α
  journal : Journal

namespace Logged

variable {α β : Type}

instance : Monad Logged where
  pure a := ⟨a, []⟩
  bind m f := ⟨(f m.value).value, m.journal ++ (f m.value).journal⟩

@[simp] theorem value_pure (a : α) : (pure a : Logged α).value = a := rfl

@[simp] theorem journal_pure (a : α) : (pure a : Logged α).journal = [] := rfl

@[simp] theorem value_bind (m : Logged α) (f : α → Logged β) :
    (m >>= f).value = (f m.value).value := rfl

@[simp] theorem journal_bind (m : Logged α) (f : α → Logged β) :
    (m >>= f).journal = m.journal ++ (f m.value).journal := rfl

@[simp] theorem value_map (f : α → β) (m : Logged α) : (f <$> m).value = f m.value := rfl

@[simp] theorem journal_map (f : α → β) (m : Logged α) : (f <$> m).journal = m.journal := by
  change m.journal ++ [] = m.journal
  simp

instance : LawfulMonad Logged :=
  LawfulMonad.mk' Logged
    (fun m => by
      change Logged.mk m.value (m.journal ++ []) = m
      simp)
    (fun _ _ => rfl)
    (fun m f g => by
      change Logged.mk _ _ = Logged.mk _ _
      simp)

end Logged

/-- Reports an event. -/
def report (e : Event) : Logged Unit := ⟨(), [.event e]⟩

/-- Notes a call to the view. -/
def note (c : ViewCall) : Logged Unit := ⟨(), [.call c]⟩

@[simp] theorem journal_report (e : Event) : (report e).journal = [.event e] := rfl

@[simp] theorem journal_note (c : ViewCall) : (note c).journal = [.call c] := rfl

end PagedQuery
