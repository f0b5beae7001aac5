import TaskLine.Filter.Read
import TaskLine.Modification.Keyword
import TaskLine.Modification.Read
import TaskLine.Subcommand

/-!
The forms of a subcommand, each with its parser, and the dispatcher that tries them in turn. The
forms that begin with a filter accept an empty one, so they come after most of those that begin with
a keyword.
-/

namespace TaskLine

inductive Grammar where
  | version
  | help
  | add
  | modify
  | list
  | info
  | gc
  | sync
deriving DecidableEq, Repr

namespace Grammar

def all : List Grammar := [version, help, add, modify, list, info, gc, sync]

def name : Grammar → String
  | version => "version"
  | help => "help"
  | add => "add"
  | modify => "modify"
  | list => "list"
  | info => "info"
  | gc => "gc"
  | sync => "sync"

def ofName? (text : String) : Option Grammar := all.find? (·.name = text)

def parser : Grammar → Parser Subcommand
  | version => (Parser.oneOf ["version", "--version"]).map fun _ => .version
  | help => (Parser.oneOf ["help", "--help", "-h"]).map fun word => .help (word == "-h")
  | add => ((Parser.literal "add").pair Modification.parser).map fun (_, change) => .add change
  | modify => (Filter.parser.pair (Keyword.parser.pair Modification.parser)).map
      fun (filter, word, change) => .modify filter (word.adjust change)
  | list => (Report.parser.pair (Parser.literal "list")).map fun (report, _) => .list report
  | info => (Filter.parser.pair (Parser.oneOf ["info", "debug"])).map
      fun (filter, word) => .info filter (word == "debug")
  | gc => (Parser.literal "gc").map fun _ => .gc
  | sync => (Parser.literal "sync").map fun _ => .sync

def dispatchIn (order : List Grammar) : Parser (Grammar × Subcommand) :=
  Parser.alt (order.map fun grammar => grammar.parser.map (grammar, ·))

def dispatch : Parser (Grammar × Subcommand) := dispatchIn all

end Grammar

def Subcommand.parser : Parser Subcommand := Grammar.dispatch.map Prod.snd

end TaskLine
