import PathSort.Hook.Registry
import PathSort.Hook.Script

/-!
# Sessions

A session works on one query step by step. Beside the query it holds the options in force, the
registry of handlers if there is one, and saved copies of the query. Every step gives a reply or an
error, and what it did before an error stays.
-/

namespace PathSort

set_option autoImplicit false

abbrev ScriptRegistry : Type := HookRegistry (Direction → Script)

/-- The model of a registry of scripts, or the plain one without a registry. -/
def ScriptRegistry.model {Q : Type} [QueryBuilder Q] : Option ScriptRegistry → Model Q
  | none => Model.plain
  | some registry => HookRegistry.model registry fun handler order => (handler order).run

structure Session (Q : Type) where
  query : Q
  options : SortOptions
  registry : Option ScriptRegistry
  /-- Copies of the query, the latest first. -/
  saved : List Q

inductive Step where
  | configure (options : SortOptions)
  /-- Reads a token without applying it. -/
  | parse (raw : String)
  | sort (raw : String)
  | sortAll (raws : List String)
  /-- Applies a field and direction under the options' policy. -/
  | apply (field : String) (order : Direction)
  /-- Applies a field and direction under no policy. -/
  | resolve (field : String) (order : Direction)
  /-- Applies the plan that a field spells, whatever handlers there are. -/
  | applyPath (field : String) (order : Direction)
  | applyPlan (plan : JoinPlan) (order : Direction)
  | call (call : QueryCall)
  | hasJoin (table : String)
  | joinedTables
  | inspect
  | save
  | restore
  /-- Registers a handler, in a new registry if there is none. -/
  | register (field : String) (handler : Direction → Script)
  | hooks (field : String)
  | newRegistry
  | dropRegistry

structure HookSummary where
  size : Nat
  isEmpty : Bool
  contains : Bool
  display : String
deriving DecidableEq, Repr

inductive Reply where
  | options (options : SortOptions)
  | directive (directive : Directive)
  | directives (directives : List Directive)
  | applied
  | plan (plan : JoinPlan)
  | nothing
  | flag (value : Bool)
  | tables (tables : List String)
  | query
  | count (value : Nat)
  | hooks (summary : HookSummary)
deriving DecidableEq, Repr

namespace Session

variable {Q : Type}

def start (query : Q) : Session Q := ⟨query, .standard, none, []⟩

def onQuery {ε α : Type} (run : Run Q ε α) : Run (Session Q) ε α := fun session =>
  let outcome := run session.query
  ⟨{ session with query := outcome.state }, outcome.events, outcome.result⟩

variable [QueryBuilder Q]

def model (session : Session Q) : Model Q := ScriptRegistry.model session.registry

def step : Step → Run (Session Q) SortError Reply
  | .configure options => do
      Run.update fun session => { session with options }
      pure (.options options)
  | .parse raw => do
      let options ← Run.read Session.options
      return .directive (← options.read raw)
  | .sort raw => do
      let session ← Run.read id
      return .directive (← onQuery (session.options.sort session.model raw))
  | .sortAll raws => do
      let session ← Run.read id
      return .directives (← onQuery (session.options.sortAll session.model raws))
  | .apply field order => do
      let session ← Run.read id
      let directive ← Run.ofExcept (Directive.make field order)
      onQuery (session.options.apply session.model directive)
      return .applied
  | .resolve field order => do
      let session ← Run.read id
      let directive ← Run.ofExcept (Directive.make field order)
      onQuery (PathSort.resolve session.model directive)
      return .applied
  | .applyPath field order => do
      let plan ← Run.ofExcept (JoinPlan.classify field)
      onQuery (PathSort.applyPlan plan order)
      return .plan plan
  | .applyPlan plan order => do
      onQuery (PathSort.applyPlan plan order)
      return .plan plan
  | .call call => do
      onQuery (Run.update (call.on ·))
      return .nothing
  | .hasJoin table => return .flag (← onQuery (Run.read (QueryBuilder.hasJoin · table)))
  | .joinedTables => return .tables (← onQuery (Run.read QueryBuilder.joinedTables))
  | .inspect => return .query
  | .save => do
      Run.update fun session => { session with saved := session.query :: session.saved }
      return .count (← Run.read fun session => session.saved.length)
  | .restore => do
      match ← Run.read Session.saved with
      | [] => return .nothing
      | query :: saved =>
          Run.update fun session => { session with query, saved }
          return .count saved.length
  | .register field handler => do
      let registry ← Run.read fun session =>
        (session.registry.getD HookRegistry.empty).on field handler
      Run.update fun session => { session with registry := some registry }
      return .count registry.size
  | .hooks field => do
      match ← Run.read Session.registry with
      | none => return .nothing
      | some registry =>
          return .hooks
            ⟨registry.size, registry.isEmpty, registry.contains field, registry.display⟩
  | .newRegistry => do
      Run.update fun session => { session with registry := some HookRegistry.empty }
      return .nothing
  | .dropRegistry => do
      Run.update fun session => { session with registry := none }
      return .nothing

end Session

end PathSort
