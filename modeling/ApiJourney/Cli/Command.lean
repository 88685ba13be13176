-- SUMMARY: The commands of the command line and their arguments.
import ApiJourney.Cli.Grammar
import ApiJourney.Runner.Layers

/-!
# Commands

A command line names options for all commands, then the command, and its own options and
operands.
-/

namespace ApiJourney.Cli

structure SampleArguments where
  profiles : String
  count : Int
  seed : Option Int
  /-- Whether each drawn user is shown. -/
  showsUsers : Bool

structure SimulateArguments where
  journey : String
  profiles : Option String
  users : Option Int
  /-- The status of all responses. -/
  status : Int
  /-- The body of all responses, as JSON. -/
  body : Option String
  seed : Option Int

inductive Command where
  | validate (journey : String)
  | paths (journey : String)
  | sample (a : SampleArguments)
  | simulate (a : SimulateArguments)
  | serve (host : Option String) (port : Option Int)

/-- The path of the journey that a command is about. -/
def Command.journey? : Command → Option String
  | validate path => some path
  | paths path => some path
  | simulate a => some a.journey
  | _ => none

structure Arguments where
  debug : Bool
  /-- The path of the settings file. -/
  settings : Option String
  environment : Runner.EnvironmentSource
  command : Command

/-! ## Options -/

def helpOption : Opt := ⟨["-h", "--help"], .help⟩

def commonOptions : List Opt :=
  [helpOption, ⟨["--debug"], .flag⟩, ⟨["--config"], .text⟩, ⟨["--env"], .text⟩,
   ⟨["--env-dir"], .text⟩, ⟨["--env-file"], .text⟩]

def sampleOptions : List Opt :=
  [helpOption, ⟨["-n", "--count"], .integer⟩, ⟨["--seed"], .integer⟩, ⟨["--show-users"], .flag⟩]

def simulateOptions : List Opt :=
  [helpOption, ⟨["--profiles"], .text⟩, ⟨["--users"], .integer⟩, ⟨["--status"], .integer⟩,
   ⟨["--body"], .text⟩, ⟨["--seed"], .integer⟩]

def serveOptions : List Opt :=
  [helpOption, ⟨["--host"], .text⟩, ⟨["--port"], .integer⟩]

/-! ## Reading -/

/-- A line with a single operand, and that operand. -/
def readOne (opts : List Opt) (words : List String) : Except Refusal (Line × String) := do
  let l ← (← Line.read opts .one words).complete
  match l.operands with
  | [operand] => .ok (l, operand)
  | _ => .error .usage

/-- The command of a name with the words behind it. -/
def Command.read (name : String) (words : List String) : Except Refusal Command := do
  match name with
  | "validate" =>
    let (_, journey) ← readOne [helpOption] words
    .ok (.validate journey)
  | "paths" =>
    let (_, journey) ← readOne [helpOption] words
    .ok (.paths journey)
  | "sample" =>
    let (l, profiles) ← readOne sampleOptions words
    .ok (.sample ⟨profiles, (l.integer? "--count").getD 10, l.integer? "--seed", l.hasFlag "--show-users"⟩)
  | "simulate" =>
    let (l, journey) ← readOne simulateOptions words
    .ok (.simulate ⟨journey, l.text? "--profiles", l.integer? "--users", (l.integer? "--status").getD 200,
      l.text? "--body", l.integer? "--seed"⟩)
  | "serve" =>
    let l ← (← Line.read serveOptions .none words).complete
    .ok (.serve (l.text? "--host") (l.integer? "--port"))
  | _ => .error .usage

/-- The arguments that the words of a command line stand for. Words left over in front of the
    command are refused last. -/
def Arguments.read (words : List String) : Except Refusal Arguments := do
  let l ← Line.read commonOptions .all words
  match l.operands with
  | [] => .error .usage
  | name :: rest =>
    let command ← Command.read name rest
    let l ← l.complete
    .ok {
      debug := l.hasFlag "--debug"
      settings := l.text? "--config"
      environment := ⟨l.text? "--env", some ((l.text? "--env-dir").getD "environments"), l.text? "--env-file"⟩
      command }

/-! ## Settings -/

/-- What a command line says over all settings from files. -/
def Arguments.overrides (a : Arguments) : Entries :=
  if a.debug then [(.text "execution", .object [("debug", .bool true)])] else []

/-- Where the settings of a command come from. -/
def Arguments.sources (a : Arguments) : Runner.Sources :=
  ⟨a.command.journey?, a.settings, a.environment, a.overrides⟩

end ApiJourney.Cli
