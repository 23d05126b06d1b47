/-
# DomainFilter.Document.Basic — domains with their filters and context

A document holds a domain, the filters to apply on top of it, and the records and the clock to
evaluate it with. A document without a clock is evaluated by the clock of the moment.
-/
import DomainFilter.Context
import DomainFilter.Domain.Evaluation
import DomainFilter.Domain.Merge

namespace DomainFilter

/-- The records of a document, and its clock if it has one. -/
structure DocumentContext extends Records where
  now : Option Instant := none
  deriving Inhabited

/-- The context that a document is evaluated in. -/
def DocumentContext.toContext (zone : Zone) (clock : Instant) (ctx : DocumentContext) : Context :=
  { ctx.toRecords with now := ctx.now.getD clock, zone }

/-- A domain, the filters on top of it, and what to evaluate it with. -/
structure Document where
  domain : Domain := .empty
  filters : List Domain := []
  context : DocumentContext := {}
  deriving Inhabited

/-- The domain with every filter merged into it, in order. -/
def Document.combined (doc : Document) : Domain := doc.domain.mergeAll doc.filters

/-- Why a document cannot be had. -/
inductive DocumentError where
  /-- The text is no JSON document. -/
  | json
  /-- The text is no YAML document. -/
  | yaml
  /-- There is no such file, or it is no text. -/
  | unreadable
  /-- The name of the file says no known format. -/
  | unsupportedFormat (name : String)
  deriving DecidableEq

/-- The text of the error, where the wording is this library's own. -/
def DocumentError.message : DocumentError → String
  | .json => "JSON error"
  | .yaml => "YAML error"
  | .unreadable => "IO error"
  | .unsupportedFormat name => "Unsupported document format: " ++ name

end DomainFilter
