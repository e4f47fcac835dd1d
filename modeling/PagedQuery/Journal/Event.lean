import PagedQuery.Request.Filter

/-!
# Events

What is reported while a request is carried out: each filter that takes effect, each
part of the request that is left out and why, and the numbers of the page.

## Main definitions

* `Event`: the things reported.
* `Event.level`, `Event.message`, `Event.details`: an event as text.
-/

namespace PagedQuery

/-- Something reported while a request is carried out. -/
inductive Event where
  /-- A filter took effect. -/
  | compiled (condition : Condition)
  /-- A filter names no field of the schema. -/
  | unknownKey (key : String)
  /-- The text of a filter cannot be read for the kind of its field. -/
  | unreadableValue (key : String) (kind : FieldKind) (value : String)
  /-- A search in a field that holds no strings. -/
  | notSearchable (key : String) (kind : FieldKind) (place : Placement)
  /-- A search with a pattern that is not built, for the reason given. -/
  | oversizedPattern (key reason : String)
  /-- A sorting without a direction. -/
  | noDirection (field : String)
  /-- A sorting by a field that is not in the schema. -/
  | unknownSortField (field : String)
  /-- The numbers from which the window of a page follows. -/
  | pageNumbers (page pageSize rowCount pageCount : Nat)

/-- How much an event matters. -/
inductive Level where
  | debug
  | trace
  deriving DecidableEq

/-- The name of a level. -/
def Level.name : Level → String
  | debug => "debug"
  | trace => "trace"

namespace Event

/-- Filters that take effect are reported at the lower level. -/
def level : Event → Level
  | compiled _ => .trace
  | _ => .debug

/-- What an event says. -/
def message : Event → String
  | compiled _ => "compiled filter"
  | unknownKey _ => "skipping filter on unknown field"
  | unreadableValue .. => "skipping filter with unparsable value"
  | notSearchable .. => "skipping like filter on non-string field"
  | oversizedPattern .. => "skipping like filter with oversized pattern"
  | noDirection _ => "ordering has no direction, ignoring"
  | unknownSortField _ => "ignoring ordering on unknown field"
  | pageNumbers .. => "computed page window"

/-- The details of an event, each with its name. -/
def details : Event → List (String × String)
  | compiled condition => [("condition", condition.display)]
  | unknownKey key => [("field", key)]
  | unreadableValue key kind value => [("field", key), ("kind", kind.name), ("value", value)]
  | notSearchable key kind place =>
    [("field", key), ("kind", kind.name), ("comparison", place.name)]
  | oversizedPattern key reason => [("field", key), ("error", reason)]
  | noDirection field => [("field", field)]
  | unknownSortField field => [("field", field)]
  | pageNumbers page pageSize rowCount pageCount =>
    [("page", toString page), ("page_size", toString pageSize), ("row_count", toString rowCount),
      ("page_count", toString pageCount)]

end Event

end PagedQuery
