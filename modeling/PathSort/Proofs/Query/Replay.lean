import Mathlib.Data.List.Nodup
import PathSort.Query.CallLog
import PathSort.Query.Select

/-!
# What calls leave behind

A SELECT query after a list of calls, field by field: the table stays, the joins and the ORDER BY
terms of the calls are appended in order, and the last projection of the calls replaces the one
before.

The query answers whether a table is joined from an index. The index names exactly the target
tables of the joins: it does so on a fresh query and every call keeps it, so asking the index comes
to the same as searching the joins.
-/

namespace PathSort

set_option autoImplicit false

namespace QueryCall

def clause? : QueryCall → Option JoinClause
  | leftJoin clause => some clause
  | _ => none

def term? : QueryCall → Option OrderTerm
  | orderBy term => some term
  | _ => none

def columns? : QueryCall → Option String
  | select columns => some columns
  | _ => none

theorem replay_append {Q : Type} [QueryBuilder Q] (query : Q) (first second : List QueryCall) :
    replay query (first ++ second) = replay (replay query first) second :=
  List.foldl_append

end QueryCall

namespace SelectQuery

abbrev targets (query : SelectQuery) : List String := query.joins.map JoinClause.table

theorem targets_left_join (query : SelectQuery) (clause : JoinClause) :
    (QueryBuilder.leftJoin query clause).targets = query.targets ++ [clause.table] := by
  simp [targets, QueryBuilder.leftJoin]

theorem replay_table (query : SelectQuery) (calls : List QueryCall) :
    (QueryCall.replay query calls).table = query.table := by
  induction calls generalizing query with
  | nil => rfl
  | cons call rest ih =>
      have first : (call.on query).table = query.table := by cases call <;> rfl
      exact (ih (call.on query)).trans first

/-- What every call appends to one field, a list of calls appends in order. -/
theorem replay_appends {Item : Type} (view : SelectQuery → List Item)
    (part : QueryCall → Option Item)
    (once : ∀ query call, view (call.on query) = view query ++ (part call).toList)
    (query : SelectQuery) (calls : List QueryCall) :
    view (QueryCall.replay query calls) = view query ++ calls.filterMap part := by
  induction calls generalizing query with
  | nil => simp [QueryCall.replay]
  | cons call rest ih =>
      have parts : (call :: rest).filterMap part = (part call).toList ++ rest.filterMap part := by
        cases named : part call <;> simp [named]
      rw [parts, ← List.append_assoc, ← once query call]
      exact ih (call.on query)

theorem replay_joins (query : SelectQuery) (calls : List QueryCall) :
    (QueryCall.replay query calls).joins = query.joins ++ calls.filterMap QueryCall.clause? := by
  apply replay_appends SelectQuery.joins
  intro query call
  cases call <;> simp [QueryCall.on, QueryBuilder.orderBy, QueryBuilder.leftJoin,
    QueryBuilder.select, QueryCall.clause?]

theorem replay_order (query : SelectQuery) (calls : List QueryCall) :
    (QueryCall.replay query calls).orderBy = query.orderBy ++ calls.filterMap QueryCall.term? := by
  apply replay_appends SelectQuery.orderBy
  intro query call
  cases call <;> simp [QueryCall.on, QueryBuilder.orderBy, QueryBuilder.leftJoin,
    QueryBuilder.select, QueryCall.term?]

theorem replay_projection (query : SelectQuery) (calls : List QueryCall) :
    (QueryCall.replay query calls).projection =
      ((calls.filterMap QueryCall.columns?).getLast?).or query.projection := by
  induction calls generalizing query with
  | nil => simp [QueryCall.replay]
  | cons call rest ih =>
      have later := ih (call.on query)
      cases call with
      | orderBy term => exact later
      | leftJoin clause => exact later
      | select columns =>
          have selected : (QueryCall.select columns :: rest).filterMap QueryCall.columns? =
              [columns] ++ rest.filterMap QueryCall.columns? := rfl
          rw [selected, List.getLast?_append, Option.or_assoc]
          exact later

/-- The index gains the tables of the joins one by one, each where it is missing. -/
theorem replay_joined (query : SelectQuery) (calls : List QueryCall) :
    (QueryCall.replay query calls).joined =
      (calls.filterMap QueryCall.clause?).foldl (fun tables clause => tables.insert clause.table)
        query.joined := by
  induction calls generalizing query with
  | nil => rfl
  | cons call rest ih =>
      have later := ih (call.on query)
      cases call with
      | orderBy term => exact later
      | select columns => exact later
      | leftJoin clause => exact later

def Indexed (query : SelectQuery) : Prop :=
  ∀ table, table ∈ query.joined ↔ table ∈ query.targets

theorem of_table_indexed (table : String) : (ofTable table).Indexed := by
  intro other
  simp [ofTable]

theorem call_indexed {query : SelectQuery} (indexed : query.Indexed) (call : QueryCall) :
    (call.on query).Indexed := by
  cases call with
  | orderBy term => exact indexed
  | select columns => exact indexed
  | leftJoin clause =>
      intro table
      have listed : table ∈ query.joined.insert clause.table ↔
          table ∈ query.targets ++ [clause.table] := by
        rw [List.mem_insert_iff, indexed table, List.mem_append, List.mem_singleton]
        exact or_comm
      rw [← targets_left_join] at listed
      exact listed

theorem replay_indexed {query : SelectQuery} (indexed : query.Indexed) (calls : List QueryCall) :
    (QueryCall.replay query calls).Indexed := by
  induction calls generalizing query with
  | nil => exact indexed
  | cons call rest ih => exact ih (call_indexed indexed call)

theorem replay_index_nodup {query : SelectQuery} (once : query.joined.Nodup)
    (calls : List QueryCall) : (QueryCall.replay query calls).joined.Nodup := by
  induction calls generalizing query with
  | nil => exact once
  | cons call rest ih =>
      apply ih
      cases call with
      | orderBy term => exact once
      | select columns => exact once
      | leftJoin clause => exact List.Nodup.insert once

theorem has_join_eq_contains {query : SelectQuery} (indexed : query.Indexed) (table : String) :
    QueryBuilder.hasJoin query table = query.targets.contains table := by
  rw [Bool.eq_iff_iff, List.contains_iff_mem, ← indexed table]
  exact List.contains_iff_mem

end SelectQuery

end PathSort
