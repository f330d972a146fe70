/-
  The settings in force.

  A store knows the settings file, which may be absent, and the settings that were asked for
  last. Once settings are kept they stay in force, whatever happens to the file, until they
  are set anew or forgotten. A file that cannot be read is not remembered. Asking for the
  settings changes neither what is in force (`current_consulted`) nor, a second time, what
  is kept (`consulted_consulted`).

  How the text of the file is read is a parameter, which is `Settings.ofText` where nothing
  else is said; none of the laws depends on it.
-/
import PropTutor.Settings.Basic

namespace PropTutor

/-- How the text of a file at a path is read. -/
abbrev SettingsReader : Type := String → String → Except SettingsError Settings

/-- The settings file and the settings in force. -/
structure SettingsStore where
  path : String
  file : Option String
  kept : Option Settings
  deriving DecidableEq

namespace SettingsStore

/-- The store with no file and no settings in force. -/
def empty (path : String) : SettingsStore := ⟨path, none, none⟩

/-- Give the file a text, or delete it. -/
def write (text : Option String) (s : SettingsStore) : SettingsStore := { s with file := text }

/-- Put settings in force. -/
def set (settings : Settings) (s : SettingsStore) : SettingsStore :=
  { s with kept := some settings }

/-- Forget the settings in force. -/
def reset (s : SettingsStore) : SettingsStore := { s with kept := none }

/-- The settings of the file, which has to be there. -/
def fileSettings (s : SettingsStore) (read : SettingsReader := Settings.ofText) :
    Except SettingsError Settings :=
  match s.file with
  | some text => read s.path text
  | none => .error ⟨s.path, .absent⟩

/-- The settings of the file as it is now; an absent file stands for the standard ones. -/
def load (s : SettingsStore) (read : SettingsReader := Settings.ofText) :
    Except SettingsError Settings :=
  match s.file with
  | some text => read s.path text
  | none => .ok .standard

/-- The settings in force, or else those of the file. -/
def current (s : SettingsStore) (read : SettingsReader := Settings.ofText) :
    Except SettingsError Settings :=
  match s.kept with
  | some settings => .ok settings
  | none => s.load read

/-- The store after the settings were asked for: what could be read stays in force. -/
def consulted (s : SettingsStore) (read : SettingsReader := Settings.ofText) : SettingsStore :=
  match s.current read with
  | .ok settings => s.set settings
  | .error _ => s

variable (s : SettingsStore) (read : SettingsReader)

/-- Asking for the settings does not change what is in force. -/
theorem current_consulted : (s.consulted read).current read = s.current read := by
  unfold consulted
  split
  · next settings h => rw [h]; rfl
  · rfl

/-- Asking a second time keeps nothing new. -/
theorem consulted_consulted : (s.consulted read).consulted read = s.consulted read := by
  cases h : s.current read with
  | ok settings =>
    have hs : s.consulted read = s.set settings := by rw [consulted, h]
    rw [consulted, current_consulted, h, hs]; rfl
  | error e =>
    have hs : s.consulted read = s := by rw [consulted, h]
    rw [hs, hs]

/-- Ask for the settings. -/
def get (s : SettingsStore) (read : SettingsReader := Settings.ofText) :
    Except SettingsError Settings × SettingsStore :=
  (s.current read, s.consulted read)

end SettingsStore

end PropTutor
