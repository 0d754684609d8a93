import PathSort.Settings.Load

/-!
# Where settings come from

A settings file states a value for a setting or says nothing about it, and an entry that reads as
nothing spoils the whole file. A flag of the command line goes before what the file states, and a
setting that neither gives is standard.

The file that is asked for must be there. The one of the usual name may be missing, which is the
same as a file that says nothing; whatever else keeps it from being read is an error. -/

namespace PathSort.Settings

set_option autoImplicit false

structure Stated where
  table : Option String
  defaultOrder : Option Direction
  unsupported : Option UnsupportedPolicy
deriving DecidableEq, Repr

def Stated.nothing : Stated := ⟨none, none, none⟩

def Value.text? : Value → Option String
  | .text words => some words
  | _ => none

/-- A missing entry states nothing, and an entry that is there must read as what it states. -/
def Reads {α : Type} (read? : Value → Option α) : Option Value → Option α → Prop
  | none, stated => stated = none
  | some value, stated => ∃ setting, stated = some setting ∧ read? value = some setting

structure Stated.In (stated : Stated) (entries : List (String × Value)) : Prop where
  table_reads : Reads Value.text? (Value.entry? entries tableKey) stated.table
  order_reads :
    Reads (Value.direction? .toml) (Value.entry? entries defaultOrderKey) stated.defaultOrder
  policy_reads :
    Reads (Value.policy? .toml) (Value.entry? entries unsupportedKey) stated.unsupported

def Stated.InText (stated : Stated) (text : String) : Prop :=
  ∃ entries, Toml.parse? text = some entries ∧ stated.In entries

end PathSort.Settings

namespace PathSort.Overrides

def nothing : Overrides := ⟨none, none, false⟩

def unsupported (flags : Overrides) : Option UnsupportedPolicy :=
  if flags.ignoreUnsupported then some .ignore else none

end PathSort.Overrides

namespace PathSort.Settings

/-- The settings that are in force: those of flags, then those of the file, then no table, ascending
order and no field skipped. -/
def Stated.inForce (stated : Stated) (flags : Overrides) : Settings where
  table := flags.table.or stated.table
  options :=
    { defaultOrder := (flags.defaultOrder.or stated.defaultOrder).getD .asc
      unsupported := (flags.unsupported.or stated.unsupported).getD .error }

section Reading

variable {α : Type} {read? : Value → Option α}

def settingOr (read? : Value → Option α) (standard : α) : Option Value → Option α
  | none => some standard
  | some value => read? value

theorem setting_or_eq_some_iff (entry : Option Value) (standard setting : α) :
    settingOr read? standard entry = some setting ↔
      ∃ stated, Reads read? entry stated ∧ setting = stated.getD standard := by
  cases entry with
  | none => simp [settingOr, Reads, eq_comm]
  | some value =>
      constructor
      · intro read
        exact ⟨some setting, ⟨setting, rfl, read⟩, rfl⟩
      · rintro ⟨_, ⟨given, rfl, read⟩, rfl⟩
        exact read

theorem options_eq_settings (order policy : Option Value) :
    options? .toml order policy =
      (settingOr (Value.direction? .toml) .asc order).bind fun direction =>
        (settingOr (Value.policy? .toml) .error policy).bind fun rule => some ⟨direction, rule⟩ := by
  cases order <;> cases policy <;> rfl

def statedTable? : Option Value → Option (Option String)
  | none => some none
  | some value => value.text?.map some

theorem stated_table_eq_some_iff (entry : Option Value) (table : Option String) :
    statedTable? entry = some table ↔ Reads Value.text? entry table := by
  cases entry with
  | none => simp [statedTable?, Reads, eq_comm]
  | some value =>
      rw [statedTable?, Option.map_eq_some_iff]
      simp [Reads, and_comm, eq_comm]

theorem of_entries_eq_settings (entries : List (String × Value)) :
    ofEntries? entries =
      (statedTable? (Value.entry? entries tableKey)).bind fun table =>
        (optionsOfEntries? .toml entries).bind fun options => some ⟨table, options⟩ := by
  rw [ofEntries?]
  rcases Value.entry? entries tableKey with _ | value
  · rfl
  · cases value <;> rfl

end Reading

/-- A file is read as what its entries state, filled up by the standard settings. -/
theorem of_entries_eq_some_iff (entries : List (String × Value)) (settings : Settings) :
    ofEntries? entries = some settings ↔
      ∃ stated : Stated, stated.In entries ∧ settings = stated.inForce .nothing := by
  rw [of_entries_eq_settings, optionsOfEntries?, options_eq_settings]
  simp only [Option.bind_eq_some_iff, stated_table_eq_some_iff, setting_or_eq_some_iff,
    Option.some.injEq]
  constructor
  · rintro ⟨table, table_reads, _, ⟨_, ⟨order, order_reads, rfl⟩, _, ⟨policy, policy_reads, rfl⟩,
      rfl⟩, rfl⟩
    exact ⟨⟨table, order, policy⟩, ⟨table_reads, order_reads, policy_reads⟩, rfl⟩
  · rintro ⟨⟨table, order, policy⟩, ⟨table_reads, order_reads, policy_reads⟩, rfl⟩
    exact ⟨table, table_reads, _, ⟨_, ⟨order, order_reads, rfl⟩, _, ⟨policy, policy_reads, rfl⟩,
      rfl⟩, rfl⟩

theorem of_text_eq_some_iff (text : String) (settings : Settings) :
    ofText? text = some settings ↔
      ∃ stated : Stated, stated.InText text ∧ settings = stated.inForce .nothing := by
  rw [ofText?, Option.bind_eq_bind, Option.bind_eq_some_iff]
  constructor
  · rintro ⟨entries, parsed, read⟩
    obtain ⟨stated, inside, filled⟩ := (of_entries_eq_some_iff entries settings).mp read
    exact ⟨stated, ⟨entries, parsed, inside⟩, filled⟩
  · rintro ⟨stated, ⟨entries, parsed, inside⟩, filled⟩
    exact ⟨entries, parsed, (of_entries_eq_some_iff entries settings).mpr ⟨stated, inside, filled⟩⟩

def FileStates (files : FileSystem) (path : String) (stated : Stated) : Prop :=
  ∃ content text, files path = .bytes content ∧ String.fromUTF8? content = some text ∧
    stated.InText text

inductive Source (files : FileSystem) : Option String → Stated → Prop
  | asked {path : String} {stated : Stated} (states : FileStates files path stated) :
      Source files (some path) stated
  | usual {stated : Stated} (states : FileStates files usualPath stated) :
      Source files none stated
  | missing (absent : files usualPath = .absent) : Source files none .nothing

def pathOf (asked : Option String) : String := asked.getD usualPath

/-- Why nothing is stated for a command that asks for a path, or for none. -/
inductive Unloadable (files : FileSystem) : Option String → LoadError → Prop
  | absent {path : String} (absent : files path = .absent) :
      Unloadable files (some path) (.notFound path)
  | unreadable {asked : Option String} {reason : String}
      (failed : files (pathOf asked) = .failed reason) :
      Unloadable files asked (.unreadable (pathOf asked) reason)
  | notText {asked : Option String} {content : ByteArray}
      (read : files (pathOf asked) = .bytes content) (other : String.fromUTF8? content = none) :
      Unloadable files asked (.unreadable (pathOf asked) notTextReason)
  | invalid {asked : Option String} {content : ByteArray} {text : String}
      (read : files (pathOf asked) = .bytes content)
      (decoded : String.fromUTF8? content = some text)
      (spoiled : ∀ stated : Stated, ¬stated.InText text) :
      Unloadable files asked (.invalid (pathOf asked))

section Loading

variable {files : FileSystem} {asked : Option String} {path : String}

theorem load_from_of_states {stated : Stated} (states : FileStates files path stated) :
    loadFrom files path = .ok (stated.inForce .nothing) := by
  obtain ⟨content, text, read, decoded, inside⟩ := states
  have settled : ofText? text = some (stated.inForce .nothing) :=
    (of_text_eq_some_iff text _).mpr ⟨stated, inside, rfl⟩
  rw [loadFrom, read, ofRead, decoded]
  simp only [settled]

theorem load_of_source {stated : Stated} (source : Source files asked stated) :
    load files asked = .ok (stated.inForce .nothing) := by
  cases source with
  | asked states => exact load_from_of_states states
  | usual states => rw [load, loadUsual, load_from_of_states states]
  | missing absent =>
      rw [load, loadUsual, loadFrom, absent]
      rfl

theorem of_text_of_spoiled {text : String} (spoiled : ∀ stated : Stated, ¬stated.InText text) :
    ofText? text = none := by
  rw [Option.eq_none_iff_forall_not_mem]
  intro settings read
  obtain ⟨stated, inside, -⟩ := (of_text_eq_some_iff text settings).mp read
  exact spoiled stated inside

/-- Every failure but a missing file is the same with and without a path that is asked for. -/
theorem load_of_load_from_failed {error : LoadError}
    (failed : loadFrom files (pathOf asked) = .error error)
    (there : ∀ path, error ≠ .notFound path) : load files asked = .error error := by
  cases asked with
  | some path => exact failed
  | none =>
      have usual : loadFrom files usualPath = .error error := failed
      rw [load, loadUsual, usual]
      cases error with
      | notFound path => exact absurd rfl (there path)
      | unreadable path reason => rfl
      | invalid path => rfl

theorem load_of_unloadable {error : LoadError} (unloadable : Unloadable files asked error) :
    load files asked = .error error := by
  cases unloadable with
  | absent absent => rw [load, loadFrom, absent, ofRead]
  | unreadable failed =>
      refine load_of_load_from_failed ?_ (by simp)
      rw [loadFrom, failed, ofRead]
  | notText read other =>
      refine load_of_load_from_failed ?_ (by simp)
      rw [loadFrom, read, ofRead, other]
  | invalid read decoded spoiled =>
      refine load_of_load_from_failed ?_ (by simp)
      rw [loadFrom, read, ofRead, decoded]
      simp only [of_text_of_spoiled spoiled]

theorem source_or_unloadable (files : FileSystem) (asked : Option String) :
    (∃ stated, Source files asked stated) ∨ ∃ error, Unloadable files asked error := by
  rcases read : files (pathOf asked) with _ | reason | content
  · cases asked with
    | none => exact Or.inl ⟨.nothing, .missing read⟩
    | some path => exact Or.inr ⟨_, .absent read⟩
  · exact Or.inr ⟨_, .unreadable read⟩
  · rcases decoded : String.fromUTF8? content with _ | text
    · exact Or.inr ⟨_, .notText read decoded⟩
    · by_cases told : ∃ stated : Stated, stated.InText text
      · obtain ⟨stated, inside⟩ := told
        have states : FileStates files (pathOf asked) stated :=
          ⟨content, text, read, decoded, inside⟩
        cases asked with
        | none => exact Or.inl ⟨stated, .usual states⟩
        | some path => exact Or.inl ⟨stated, .asked states⟩
      · refine Or.inr ⟨_, .invalid read decoded ?_⟩
        intro stated inside
        exact told ⟨stated, inside⟩

theorem load_ok_iff (settings : Settings) :
    load files asked = .ok settings ↔
      ∃ stated, Source files asked stated ∧ settings = stated.inForce .nothing := by
  constructor
  · intro loaded
    rcases source_or_unloadable files asked with ⟨stated, source⟩ | ⟨error, unloadable⟩
    · rw [load_of_source source] at loaded
      exact ⟨stated, source, (Except.ok.inj loaded).symm⟩
    · rw [load_of_unloadable unloadable] at loaded
      cases loaded
  · rintro ⟨stated, source, rfl⟩
    exact load_of_source source

theorem load_error_iff (error : LoadError) :
    load files asked = .error error ↔ Unloadable files asked error := by
  constructor
  · intro failed
    rcases source_or_unloadable files asked with ⟨stated, source⟩ | ⟨failure, unloadable⟩
    · rw [load_of_source source] at failed
      cases failed
    · rw [load_of_unloadable unloadable] at failed
      cases failed
      exact unloadable
  · exact load_of_unloadable

theorem source_iff_not_unloadable :
    (∃ stated, Source files asked stated) ↔ ¬∃ error, Unloadable files asked error := by
  constructor
  · rintro ⟨stated, source⟩ ⟨error, unloadable⟩
    rw [← load_error_iff, load_of_source source] at unloadable
    cases unloadable
  · exact fun none_fails => (source_or_unloadable files asked).resolve_right none_fails

end Loading

/-- Flags over what is loaded are flags before what is stated. -/
theorem override_in_force (stated : Stated) (flags : Overrides) :
    (stated.inForce .nothing).override flags = stated.inForce flags := by
  cases flags with
  | mk table order ignoring =>
      cases order <;> cases ignoring <;> rfl

end PathSort.Settings
