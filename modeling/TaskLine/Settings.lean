import TaskLine.ConfigValue
import TaskLine.Text.Blank

namespace TaskLine

structure InvalidSetting where
  key : String
  reason : String
deriving DecidableEq, Repr

def InvalidSetting.message (error : InvalidSetting) : String :=
  "Invalid setting '" ++ error.key ++ "': " ++ error.reason

structure Settings where
  allowTrailing : Bool := false
  programName : String := "ta"
deriving DecidableEq, Repr

namespace Settings

def last? (key : String) (entries : List (String × ConfigValue)) : Option ConfigValue :=
  (entries.reverse.find? (·.1 = key)).map Prod.snd

def allowTrailingKey : String := "allow_trailing_tokens"

def programNameKey : String := "program_name"

def checkAllowTrailing : Option ConfigValue → Except InvalidSetting Bool
  | none => .ok false
  | some (.boolean value) => .ok value
  | some value => .error ⟨allowTrailingKey, "expected bool, got " ++ value.kindName⟩

def checkProgramName : Option ConfigValue → Except InvalidSetting String
  | none => .ok "ta"
  | some (.text name) =>
    if name.toList.all Text.isBlank then .error ⟨programNameKey, "must be a non-empty string"⟩
    else .ok name
  | some _ => .error ⟨programNameKey, "must be a non-empty string"⟩

def ofEntries (entries : List (String × ConfigValue)) : Except InvalidSetting Settings := do
  let allowTrailing ← checkAllowTrailing (last? allowTrailingKey entries)
  let programName ← checkProgramName (last? programNameKey entries)
  return { allowTrailing, programName }

end Settings

end TaskLine
