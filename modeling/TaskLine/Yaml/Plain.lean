import TaskLine.Yaml.Number
import TaskLine.Yaml.Timestamp

namespace TaskLine.Yaml

inductive Meaning where
  | value (value : ConfigValue)
  | mergeMark
  | defaultMark

namespace Plain

def trueWords : List String :=
  ["yes", "Yes", "YES", "true", "True", "TRUE", "on", "On", "ON"]

def falseWords : List String :=
  ["no", "No", "NO", "false", "False", "FALSE", "off", "Off", "OFF"]

def nullWords : List String := ["", "~", "null", "Null", "NULL"]

def meaning (text : List Char) : Except Rejection Meaning :=
  let word := String.ofList text
  if trueWords.contains word then .ok (.value (.boolean true))
  else if falseWords.contains word then .ok (.value (.boolean false))
  else if nullWords.contains word then .ok (.value .null)
  else if word = "<<" then .ok .mergeMark
  else if word = "=" then .ok .defaultMark
  else if let some result := Number.integer? text then result.map .value
  else if let some result := Number.decimal? text then result.map .value
  else if let some time := Timestamp.read? text then time.value.map .value
  else .ok (.value (.text word))

end Plain

end TaskLine.Yaml
