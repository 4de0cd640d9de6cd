import BoundQuery.Catalog.Basic
import BoundQuery.Condition.Basic

/-!
# Errors and warnings of compilation

Errors are causes; their wording is in one place. Warnings do not stop a compilation, and those
given before an error stand beside it.

## Main definitions

* `SyntaxFault`, what is wrong with criteria or an update
* `CompileError`, why nothing was compiled
* `Warning`, what the caller may want to know
* `Attempt`, a computation with warnings that may fail
-/

namespace BoundQuery

/-- What is wrong with criteria or an update. -/
inductive SyntaxFault where
  | emptyProjection
  /-- A condition on an aggregate beside a COUNT statement. -/
  | havingBesideCount (label : String)
  | nonFiniteLiteral (x : Binary64)
  | emptyList
  | needsList (predicate : Predicate) (key : String)
  | needsRange (key : String)
  | needsValue (predicate : Predicate) (key : String)
  | havingEmptyList (predicate : Predicate) (label : String)
  | havingUnsupported (predicate : Predicate) (label : String)
  /-- A range as the values of an assignment script. -/
  | scriptRange (key : String)
  | assignmentNeedsValue (key : String)
  | millisOutOfRange (entity property : String) (millis : Int)
  deriving DecidableEq

/-- The spelling of a number that is not finite. -/
def nonFiniteText : Binary64 → String
  | .infinity false => "inf"
  | .infinity true => "-inf"
  | _ => "NaN"

/-- The message of a fault. -/
def SyntaxFault.message : SyntaxFault → String
  | .emptyProjection =>
    "result-mapped criteria needs at least one result key, distinct column or reduce"
  | .havingBesideCount label =>
    "HAVING on `" ++ label ++ "` requires total_rows_ignored; " ++
      "the COUNT statement cannot share a HAVING-filtered aggregate"
  | .nonFiniteLiteral x =>
    "non-finite float cannot be rendered as a literal: " ++ nonFiniteText x
  | .emptyList => "IN list has no non-null values"
  | .needsList p key => p.sql ++ " on `" ++ key ++ "` needs a list, not a range"
  | .needsRange key => "BETWEEN on `" ++ key ++ "` needs a min/max range"
  | .needsValue p key => p.sql ++ " on `" ++ key ++ "` needs a single value"
  | .havingEmptyList p label => "HAVING " ++ p.sql ++ " on `" ++ label ++ "` has no values"
  | .havingUnsupported p label => "HAVING on `" ++ label ++ "` does not support " ++ p.sql
  | .scriptRange key => "raw refresh `" ++ key ++ "` cannot bind a range"
  | .assignmentNeedsValue key => "refresh of `" ++ key ++ "` needs a single value"
  | .millisOutOfRange entity property millis =>
    entity ++ "." ++ property ++ ": epoch millis " ++ Json.intText millis ++ " out of range"

/-- Why nothing was compiled. -/
inductive CompileError where
  | unresolvedEntity (name : String)
  | unmappedProperty (entity property : String)
  | syntaxFault (fault : SyntaxFault)
  /-- An update that sets nothing, with its text. -/
  | emptyUpdate (sql : String)
  | catalog (error : CatalogError)
  deriving DecidableEq

/-- The message of an error. An entity is named with its first letter in upper case. -/
def CompileError.message : CompileError → String
  | .unresolvedEntity name => "Entity metadata not found: " ++ Text.upperFirst name
  | .unmappedProperty entity property =>
    "Property `" ++ property ++ "` of `" ++ entity ++ "` has no column mapping"
  | .syntaxFault fault => "Criteria syntax error: " ++ fault.message
  | .emptyUpdate sql => "Statement build error (UPDATE has no fields to set): " ++ sql
  | .catalog error => "Catalog error: " ++ error.message

/-- What the caller may want to know. -/
inductive Warning where
  | indexHintIgnored (index : String)
  | groupByIgnored (groupBy entity : String)
  | updateWithoutWhere (entity sql : String)
  deriving DecidableEq

/-- The message of a warning. -/
def Warning.message : Warning → String
  | .indexHintIgnored index =>
    "ClickHouse has no index hints; ignoring FORCE INDEX(" ++ index ++ ")"
  | .groupByIgnored groupBy entity =>
    "GROUP BY '" ++ groupBy ++ "' ignored on " ++ entity ++
      ": only result-mapped reads are grouped"
  | .updateWithoutWhere entity sql => "UPDATE on " ++ entity ++ " has no WHERE clause: " ++ sql

/-- A computation that gives warnings and may fail. -/
structure Attempt (α : Type) where
  warnings : List Warning
  outcome : Except CompileError α

namespace Attempt

variable {α β : Type}

/-- A result without warnings. -/
def ofExcept (outcome : Except CompileError α) : Attempt α :=
  ⟨[], outcome⟩

/-- Go on after a result; the warnings add up. -/
def andThen (x : Attempt α) (f : α → Attempt β) : Attempt β :=
  match x.outcome with
  | .error e => ⟨x.warnings, .error e⟩
  | .ok a => ⟨x.warnings ++ (f a).warnings, (f a).outcome⟩

instance : Monad Attempt where
  pure a := ofExcept (.ok a)
  bind := andThen

instance : MonadLift (Except CompileError) Attempt where
  monadLift := ofExcept

/-- Give a warning. -/
def warn (w : Warning) : Attempt Unit :=
  ⟨[w], .ok ()⟩

end Attempt

end BoundQuery
