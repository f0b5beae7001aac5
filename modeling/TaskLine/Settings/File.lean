import TaskLine.Folder
import TaskLine.Settings
import TaskLine.Yaml.Document

namespace TaskLine

namespace Settings

inductive LoadError where
  | unreadable (path : String) (reason : Unreadable)
  | rejected (reason : Yaml.Rejection)
  | invalid (error : InvalidSetting)
deriving DecidableEq, Repr

def LoadError.message : LoadError → String
  | unreadable path reason => reason.message path
  | rejected reason => reason.message
  | invalid error => error.message

def textEntry? : ConfigValue × ConfigValue → Option (String × ConfigValue)
  | (.text key, value) => some (key, value)
  | _ => none

theorem textEntry?_eq_some_iff {entry : ConfigValue × ConfigValue} {key : String}
    {value : ConfigValue} : textEntry? entry = some (key, value) ↔ entry = (.text key, value) := by
  obtain ⟨name, item⟩ := entry
  unfold textEntry?
  cases name <;> simp

def ofValue (source : String) (value : ConfigValue) : Except InvalidSetting Settings :=
  if value.isVoid then .ok {}
  else match value with
    | .mapping entries => ofEntries (entries.filterMap textEntry?)
    | _ => .error ⟨source, "top level must be a mapping"⟩

def load (folder : Folder) (path : String) : Except LoadError Settings :=
  let path := normalPath path
  match folder.read path with
  | .error reason => .error (.unreadable path reason)
  | .ok text =>
    match Yaml.load text with
    | .error reason => .error (.rejected reason)
    | .ok value => (ofValue path value).mapError .invalid

end Settings

end TaskLine
