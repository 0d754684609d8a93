import PathSort.Resolution

/-!
# Handler registries

A registry holds one handler for each registered field. Registering a field again replaces its
handler. Fields are compared exactly. A registry is a data model once it is said how its handlers
are run. -/

namespace PathSort

set_option autoImplicit false

/-- Handlers by field, each field once. -/
structure HookRegistry (H : Type) where
  entries : List (String × H)

namespace HookRegistry

variable {H : Type}

def empty : HookRegistry H := ⟨[]⟩

/-- Registers a handler for a field, in place of any before it. -/
def on (registry : HookRegistry H) (field : String) (handler : H) : HookRegistry H :=
  ⟨registry.entries.filter (·.1 ≠ field) ++ [(field, handler)]⟩

def find? (registry : HookRegistry H) (field : String) : Option H :=
  (registry.entries.find? (·.1 = field)).map Prod.snd

def fields (registry : HookRegistry H) : List String := registry.entries.map Prod.fst

def contains (registry : HookRegistry H) (field : String) : Bool := registry.fields.contains field

def size (registry : HookRegistry H) : Nat := registry.entries.length

def isEmpty (registry : HookRegistry H) : Bool := registry.entries.isEmpty

def display (registry : HookRegistry H) : String :=
  "SortHooks \x7b fields: [" ++ ", ".intercalate (registry.fields.map Text.quoted) ++ "] \x7d"

def model {Q : Type} (registry : HookRegistry H) (interpret : H → Handler Q) : Model Q :=
  fun field => (registry.find? field).map interpret

theorem find_on_same (registry : HookRegistry H) (field : String) (handler : H) :
    (registry.on field handler).find? field = some handler := by
  have gone : (registry.entries.filter (·.1 ≠ field)).find? (·.1 = field) = none := by
    simp
  simp only [find?, on, List.find?_append, gone]
  simp

theorem find_on_other (registry : HookRegistry H) {field other : String} (handler : H)
    (different : other ≠ field) :
    (registry.on field handler).find? other = registry.find? other := by
  simp only [find?, on, List.find?_append, List.find?_filter]
  have kept : (fun entry : String × H => decide (entry.1 ≠ field) && decide (entry.1 = other)) =
      fun entry => decide (entry.1 = other) := by
    funext entry
    by_cases same : entry.1 = other
    · simp [same, different]
    · simp [same]
  have absent : ¬field = other := fun same => different same.symm
  simp only [decide_not] at kept ⊢
  simp [kept, absent]

end HookRegistry

end PathSort
