import PathSort.FileTree
import PathSort.Settings.Toml.Document

/-!
# Loading settings

Settings come from a TOML file. A path that is asked for must lead to one. Without such a path the
file of the usual name is read, and only its absence means the standard settings.
-/

namespace PathSort.Settings

set_option autoImplicit false

def usualPath : String := "drizzle-sort.toml"

/-- The reason why bytes that are not UTF-8 cannot be read as text. -/
def notTextReason : String := "stream did not contain valid UTF-8"

def ofText? (text : String) : Option Settings := do ofEntries? (← Toml.parse? text)

def ofRead (path : String) : FileRead → Except LoadError Settings
  | .absent => .error (.notFound path)
  | .failed reason => .error (.unreadable path reason)
  | .bytes content =>
      match String.fromUTF8? content with
      | none => .error (.unreadable path notTextReason)
      | some text =>
          match ofText? text with
          | some settings => .ok settings
          | none => .error (.invalid path)

def loadFrom (files : FileSystem) (path : String) : Except LoadError Settings :=
  ofRead path (files path)

/-- The settings of the file of the usual name, or the standard ones if there is no such file. -/
def loadUsual (files : FileSystem) : Except LoadError Settings :=
  match loadFrom files usualPath with
  | .error (.notFound _) => .ok standard
  | loaded => loaded

def load (files : FileSystem) : Option String → Except LoadError Settings
  | some path => loadFrom files path
  | none => loadUsual files

end PathSort.Settings
