import PagedQuery.Literal.ParserTable
import PagedQuery.Regex.Engine
import PagedQuery.Request.Connector

/-!
# Pagers

What requests are carried out with: the settings, the parsers for the texts of filters,
and the engine for the patterns of searches.

## Main definitions

* `Settings`, `Pager`, and the `standard` one of each, which for a pager depends on the
  engine.
-/

namespace PagedQuery

/-- The settings of a pager. -/
structure Settings where
  /-- The largest page size allowed, if there is one. -/
  maxPageSize : Option UInt64
  /-- What a filter without a connector means. -/
  policy : ConnectorPolicy
  deriving DecidableEq

/-- No bound on the page size, and every filter counts. -/
def Settings.standard : Settings := ⟨none, .conjoin⟩

/-- Settings with the parsers for the texts of filters and the engine for patterns. -/
structure Pager where
  settings : Settings
  parsers : ParserTable
  engine : Regex.Engine

/-- The usual settings and parsers. -/
def Pager.standard (engine : Regex.Engine) : Pager := ⟨.standard, .standard, engine⟩

end PagedQuery
