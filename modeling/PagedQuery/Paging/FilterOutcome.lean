import PagedQuery.Condition.Join
import PagedQuery.Journal.Logged
import PagedQuery.Literal.ParserTable

/-!
# What becomes of filters

A filter becomes a condition if its key names a field, its text can be read for that
field, and its comparison applies there. A search also takes an engine that builds its
pattern. Any other filter is dropped, and the reason is
reported; only a filter that asks for nothing is dropped in silence.

## Main definitions

* `FilterOutcome`: what becomes of a filter; `Filter.outcome` finds it.
* `Filter.compile`: the condition of one filter, if it has one, with the report.
* `Filter.compileAll`: the condition of a list of filters, if any of them has one.
-/

namespace PagedQuery

/-- What becomes of a filter. -/
inductive FilterOutcome where
  /-- The filter means a condition. -/
  | compiled (condition : Condition)
  /-- The filter does not apply, for the reason reported. -/
  | dropped (reason : Event)
  /-- The filter asks for nothing. -/
  | silent

namespace FilterOutcome

/-- The condition of a filter. -/
def condition? : FilterOutcome → Option Condition
  | compiled condition => some condition
  | dropped _ => none
  | silent => none

/-- What is reported of a filter. -/
def event? : FilterOutcome → Option Event
  | compiled condition => some (.compiled condition)
  | dropped reason => some reason
  | silent => none

end FilterOutcome

namespace Filter

variable {ρ : Type}

/-- The outcome of a search for `text` in a field. -/
def searchOutcome (engine : Regex.Engine) (key text : String) (field : Field ρ)
    (place : Placement) : FilterOutcome :=
  if field.kind.isSearchable then
    match LikePattern.build engine (place.around text) with
    | .ok pattern => .compiled (.like field.name place pattern)
    | .error reason => .dropped (.oversizedPattern key reason)
  else .dropped (.notSearchable key field.kind place)

/-- The outcome of a comparison of a field with a text that reads as `literal`. -/
def comparisonOutcome (engine : Regex.Engine) (key text : String) (field : Field ρ)
    (literal : Scalar) : Comparison → FilterOutcome
  | .nothing => .silent
  | .equals => .compiled (.equals field.name literal)
  | .notEquals => .compiled (.notEquals field.name literal)
  | .order relation => .compiled (.order field.name relation literal)
  | .search place => searchOutcome engine key text field place

variable (schema : Schema ρ) (parsers : ParserTable) (engine : Regex.Engine)

/-- What becomes of a filter: its field is looked up first, then its text is read, and
last the comparison is made. -/
def outcome (f : Filter) : FilterOutcome :=
  let key := f.key.getD ""
  let text := f.value.getD ""
  match schema.lookup? f.key with
  | none => .dropped (.unknownKey key)
  | some field =>
    match parsers.parse? text field.kind with
    | none => .dropped (.unreadableValue key field.kind text)
    | some literal => comparisonOutcome engine key text field literal f.comparison

/-- The condition of a filter, if it has one. -/
def condition? (f : Filter) : Option Condition := (f.outcome schema parsers engine).condition?

/-- The condition of a filter, if it has one, with the report on the filter. -/
def compile (f : Filter) : Logged (Option Condition) :=
  ⟨f.condition? schema parsers engine,
    ((f.outcome schema parsers engine).event?.map Entry.event).toList⟩

@[simp] theorem value_compile (f : Filter) :
    (f.compile schema parsers engine).value = f.condition? schema parsers engine := rfl

/-- The condition of a list of filters, if any of them has one, with the report on each
filter. -/
def compileAll (policy : ConnectorPolicy) (filters : List Filter) : Logged (Option Condition) := do
  let compiled ← filters.mapM fun f => do
    let condition ← f.compile schema parsers engine
    pure (condition, f.connector)
  pure (Condition.joinAll policy compiled)

end Filter

end PagedQuery
