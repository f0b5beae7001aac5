import TaskLine.Grammar
import TaskLine.Usage

namespace TaskLine

namespace Grammar

open Usage.Entry (ofSource)

def usageEntries : Grammar → List Usage.Entry
  | version => [ofSource "version" "version" "Show the tool version"
      "Show the version of the task tool"]
  | help => []
  | add => [ofSource "add" "add [modification]" "Add a new task"
      "
            Add a new, pending task to the list of tasks.  The modification must include a
            description."]
  | modify => [
    ofSource "modify" "[filter] modify [modification]" "Modify tasks"
      "
            Modify all tasks matching the filter.",
    ofSource "prepend" "[filter] prepend [modification]" "Prepend task description"
      "
            Modify all tasks matching the filter by inserting the given description before each
            task's description.",
    ofSource "append" "[filter] append [modification]" "Append task description"
      "
            Modify all tasks matching the filter by adding the given description to the end
            of each task's description.",
    ofSource "start" "[filter] start [modification]" "Start tasks"
      "
            Start all tasks matching the filter, additionally applying any given modifications.",
    ofSource "stop" "[filter] stop [modification]" "Stop tasks"
      "
            Stop all tasks matching the filter, additionally applying any given modifications.",
    ofSource "done" "[filter] done [modification]" "Mark tasks as completed"
      "
            Mark all tasks matching the filter as completed, additionally applying any given
            modifications."]
  | list => [ofSource "list" "[filter] list" "List tasks"
      "Show a list of the tasks matching the filter"]
  | info => [
    ofSource "info" "[filter] info" "Show tasks"
      "Show information about all tasks matching the filter.",
    ofSource "debug" "[filter] debug" "Show task debug details"
      "Show all key/value properties of the tasks matching the filter."]
  | gc => [ofSource "gc" "gc" "Perform 'garbage collection'"
      "
            Perform 'garbage collection'.  This refreshes the list of pending tasks
            and their short id's."]
  | sync => [ofSource "sync" "sync" "Synchronize this replica"
      "
            Synchronize this replica locally or against a remote server, as configured.

            Synchronization is a critical part of maintaining the task database, and should
            be done regularly, even if only locally.  It is typically run in a crontask."]

end Grammar

namespace Usage

def describe (usage : Usage) (grammar : Grammar) : Usage :=
  grammar.usageEntries.foldl add usage

theorem entries_describe (usage : Usage) (grammar : Grammar) :
    (usage.describe grammar).entries = usage.entries ++ grammar.usageEntries :=
  entries_foldl_add usage grammar.usageEntries

def describeAll (usage : Usage) : Usage := Grammar.all.foldl describe usage

theorem entries_describeAll (usage : Usage) :
    usage.describeAll.entries = usage.entries ++ Grammar.all.flatMap Grammar.usageEntries := by
  rw [describeAll]
  induction Grammar.all generalizing usage with
  | nil => simp
  | cons grammar grammars ih => simp [ih, entries_describe]

end Usage

end TaskLine
