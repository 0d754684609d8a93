import Mathlib.Data.List.Dedup
import Mathlib.Data.List.Induction
import PathSort.Hook.Registry

/-!
# Registrations

A registry is what registrations made one after another leave. For each field it holds the handler
that was registered last, so it depends on the registrations of each field apart: one that is
followed by another for the same field leaves no mark, and neither does the order of registrations
of different fields. The fields that are held are those that were registered, each of them once.
-/

namespace PathSort.HookRegistry

set_option autoImplicit false

variable {H : Type}

def registered (registrations : List (String × H)) : HookRegistry H :=
  registrations.foldl (fun registry entry => registry.on entry.1 entry.2) empty

def handlersFor (registrations : List (String × H)) (field : String) : List H :=
  (registrations.filter (·.1 = field)).map Prod.snd

theorem registered_concat (registrations : List (String × H)) (field : String) (handler : H) :
    registered (registrations ++ [(field, handler)]) =
      (registered registrations).on field handler := by
  rw [registered, List.foldl_append]
  rfl

section Lookup

theorem handlers_for_append (first second : List (String × H)) (field : String) :
    handlersFor (first ++ second) field = handlersFor first field ++ handlersFor second field := by
  rw [handlersFor, List.filter_append, List.map_append]
  rfl

theorem handlers_for_same (field : String) (handler : H) (rest : List (String × H)) :
    handlersFor ((field, handler) :: rest) field = handler :: handlersFor rest field := by
  simp [handlersFor]

theorem handlers_for_other {field other : String} (different : other ≠ field) (handler : H)
    (rest : List (String × H)) :
    handlersFor ((field, handler) :: rest) other = handlersFor rest other := by
  simp [handlersFor, Ne.symm different]

theorem handlers_for_ne_nil_iff (registrations : List (String × H)) (field : String) :
    handlersFor registrations field ≠ [] ↔ field ∈ registrations.map Prod.fst := by
  simp [handlersFor]

/-- The last registration of a field is the one that counts. -/
theorem find_registered (registrations : List (String × H)) (field : String) :
    (registered registrations).find? field = (handlersFor registrations field).getLast? := by
  induction registrations using List.reverseRecOn with
  | nil => rfl
  | append_singleton earlier last ih =>
      obtain ⟨name, handler⟩ := last
      rw [registered_concat, handlers_for_append]
      by_cases same : field = name
      · rw [same, find_on_same, handlers_for_same, List.getLast?_append]
        rfl
      · rw [find_on_other _ handler same, handlers_for_other same, ih]
        simp [handlersFor]

/-- Registrations that come to the same handlers for every field come to the same model. -/
theorem model_congr {Q : Type} {registrations others : List (String × H)}
    (same : ∀ field, (handlersFor registrations field).getLast? =
      (handlersFor others field).getLast?) (interpret : H → Handler Q) :
    (registered registrations).model interpret = (registered others).model interpret := by
  funext field
  rw [model, model, find_registered, find_registered, same]

/-- A registration has no part in what fields of other names come to. -/
theorem handlers_for_without {field other : String} (different : other ≠ field)
    (before after : List (String × H)) (handler : H) :
    handlersFor (before ++ (field, handler) :: after) other =
      handlersFor (before ++ after) other := by
  rw [handlers_for_append, handlers_for_other different, ← handlers_for_append]

/-- A registration that is followed by another for its field has no part in what is registered. -/
theorem last_handler_without {field : String} {after : List (String × H)}
    (overwritten : field ∈ after.map Prod.fst) (before : List (String × H)) (handler : H)
    (other : String) :
    (handlersFor (before ++ (field, handler) :: after) other).getLast? =
      (handlersFor (before ++ after) other).getLast? := by
  by_cases same : other = field
  · obtain ⟨first, rest, later⟩ :=
      List.exists_cons_of_ne_nil ((handlers_for_ne_nil_iff after field).mpr overwritten)
    rw [same, handlers_for_append, handlers_for_append, handlers_for_same, later,
      List.getLast?_append, List.getLast?_append, List.getLast?_cons_cons]
  · rw [handlers_for_without same]

end Lookup

section Fields

theorem fields_on (registry : HookRegistry H) (field : String) (handler : H) :
    (registry.on field handler).fields = registry.fields.filter (· ≠ field) ++ [field] := by
  simp only [fields, on, List.map_append, List.map_singleton, List.filter_map]
  rfl

theorem mem_fields_registered (registrations : List (String × H)) (field : String) :
    field ∈ (registered registrations).fields ↔ field ∈ registrations.map Prod.fst := by
  induction registrations using List.reverseRecOn with
  | nil => rfl
  | append_singleton earlier last ih =>
      obtain ⟨name, handler⟩ := last
      rw [registered_concat, fields_on, List.map_append, List.mem_append, List.mem_append,
        List.mem_filter, ih]
      by_cases same : field = name
      · simp [same]
      · simp [same]

theorem fields_nodup (registrations : List (String × H)) :
    (registered registrations).fields.Nodup := by
  induction registrations using List.reverseRecOn with
  | nil => exact List.nodup_nil
  | append_singleton earlier last ih =>
      obtain ⟨name, handler⟩ := last
      rw [registered_concat, fields_on, List.nodup_append]
      refine ⟨ih.filter _, List.nodup_singleton name, ?_⟩
      intro field kept other listed same
      rw [same, List.mem_singleton.mp listed] at kept
      simp at kept

/-- The size counts the fields, however often each of them was registered. -/
theorem size_registered (registrations : List (String × H)) :
    (registered registrations).size = (registrations.map Prod.fst).dedup.length := by
  have counted : (registered registrations).size = (registered registrations).fields.length := by
    rw [fields, List.length_map, size]
  have same : (registered registrations).fields.Perm (registrations.map Prod.fst).dedup := by
    rw [List.perm_ext_iff_of_nodup (fields_nodup registrations) (List.nodup_dedup _)]
    intro field
    rw [List.mem_dedup, mem_fields_registered]
  rw [counted, same.length_eq]

theorem contains_registered (registrations : List (String × H)) (field : String) :
    (registered registrations).contains field = true ↔ field ∈ registrations.map Prod.fst := by
  rw [contains, List.contains_iff_mem, mem_fields_registered]

theorem is_empty_registered (registrations : List (String × H)) :
    (registered registrations).isEmpty = true ↔ registrations = [] := by
  have no_fields : (registered registrations).isEmpty = true ↔
      (registered registrations).fields = [] := by
    rw [isEmpty, List.isEmpty_iff, fields, List.map_eq_nil_iff]
  rw [no_fields, List.eq_nil_iff_forall_not_mem]
  simp only [mem_fields_registered]
  rw [← List.eq_nil_iff_forall_not_mem, List.map_eq_nil_iff]

end Fields

end PathSort.HookRegistry
