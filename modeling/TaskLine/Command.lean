import TaskLine.CommandError
import TaskLine.LogEvent
import TaskLine.Settings

namespace TaskLine

def Subcommand.ofArguments (args : Arguments) : Except CommandError (Subcommand × Arguments) :=
  match Subcommand.parser args with
  | .found answer => .ok answer
  | .declined => .error (.noMatch args none)
  | .overlong digits => .error (.overlongId digits)

structure Command where
  commandName : String
  subcommand : Subcommand
deriving DecidableEq, Repr

namespace Command

structure Logged where
  answer : Except CommandError Command
  log : List LogEvent

def read (settings : Settings) : Arguments → Logged
  | [] => ⟨.error .emptyCommandLine, []⟩
  | name :: args =>
    match Grammar.dispatch args with
    | .found ((grammar, subcommand), []) => ⟨.ok ⟨name, subcommand⟩, [.matched grammar 0]⟩
    | .found ((grammar, subcommand), rest) =>
      if settings.allowTrailing then
        ⟨.ok ⟨name, subcommand⟩, [.matched grammar rest.length, .ignored rest]⟩
      else
        let index := (name :: args).length - rest.length
        ⟨.error (.trailing rest (some { argv := name :: args, index := some index })),
          [.matched grammar rest.length]⟩
    | .declined => ⟨.error (.noMatch args (some { argv := name :: args })), [.noMatch args]⟩
    | .overlong digits => ⟨.error (.overlongId digits), []⟩

def ofArgv (settings : Settings) (argv : Arguments) : Except CommandError Command :=
  (read settings argv).answer

def ofArgs (settings : Settings) (args : Arguments) : Except CommandError Command :=
  ofArgv settings (settings.programName :: args)

end Command

end TaskLine
