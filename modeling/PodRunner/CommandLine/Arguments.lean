/-!
# Arguments

The arguments of the program: `run` with a configuration, a job and perhaps a runner, and a log
format that may stand before or after `run`.  No argument may be given twice at one place.
-/

namespace PodRunner

/-- What a run is asked to do. -/
structure Arguments where
  config : String
  job : String
  runner : Option String := none
  /-- The log is written as JSON. -/
  json : Bool := false
  deriving DecidableEq

/-- What the arguments ask for. -/
inductive Asked where
  | run (a : Arguments)
  /-- How to use the program. -/
  | help
  | version
  /-- The arguments make no sense. -/
  | nonsense
  deriving DecidableEq

namespace Arguments

/-- The options that take a value, as they are given; each may be there once. -/
structure Given where
  config : Option String := none
  job : Option String := none
  runner : Option String := none
  logFormat : Option Bool := none

/-- An option and a value that is part of the same argument. -/
def splitOption (arg : String) : String × Option String :=
  match arg.toList.span (· ≠ '=') with
  | (name, _ :: value) => (String.ofList name, some (String.ofList value))
  | (name, []) => (String.ofList name, none)

/-- The argument could be an option; a single dash is none. -/
def isOption (arg : String) : Bool := arg.startsWith "-" && arg ≠ "-"

/-- The value of an option, and the arguments that follow it. -/
def value? (attached : Option String) (args : List String) : Option (String × List String) :=
  match attached, args with
  | some v, rest => some (v, rest)
  | none, v :: rest => if isOption v then none else some (v, rest)
  | none, [] => none

/-- The log formats. -/
def logFormat? (s : String) : Option Bool :=
  if s = "json" then some true else if s = "text" then some false else none

/-- Notes a value that was not there before. -/
def once {α : Type} (old : Option α) (new : α) : Option (Option α) :=
  if old.isSome then none else some (some new)

/-- A path is not empty. -/
def path? (s : String) : Option String := if s.isEmpty then none else some s

/-- Notes the value of an option of `run`. -/
def Given.set (g : Given) (name value : String) : Option Given := do
  match name with
  | "--config" => return { g with config := ← once g.config (← path? value) }
  | "--job" => return { g with job := ← once g.job (← path? value) }
  | "--runner" => return { g with runner := ← once g.runner value }
  | "--log-format" => return { g with logFormat := ← once g.logFormat (← logFormat? value) }
  | _ => none

/-- What the options of a run add up to.  The configuration may come from the environment. -/
def Given.finish (g : Given) (env : Option String) (outer : Option Bool) : Asked :=
  match g.job, g.config <|> env with
  | some job, some config =>
    if config.isEmpty then .nonsense
    else .run ⟨config, job, g.runner, (g.logFormat <|> outer).getD false⟩
  | some job, none => .run ⟨"config.yaml", job, g.runner, (g.logFormat <|> outer).getD false⟩
  | none, _ => .nonsense

/-- The argument begins with one dash and this letter; what follows the letter does not count. -/
def isFlag (letter : Char) (arg : String) : Bool := ['-', letter].isPrefixOf arg.toList

/-- The argument asks how to use the program. -/
def asksHelp (arg : String) : Bool := arg = "--help" || isFlag 'h' arg

/-- Reads the arguments after `run`. -/
def parseRun (env : Option String) (outer : Option Bool) : Nat → Given → List String → Asked
  | _, g, [] => g.finish env outer
  | 0, _, _ => .nonsense
  | n + 1, g, arg :: rest =>
    if asksHelp arg then .help
    else if arg = "--" then if rest.isEmpty then g.finish env outer else .nonsense
    else
      let (name, attached) := splitOption arg
      match value? attached rest with
      | none => .nonsense
      | some (value, rest) =>
        match g.set name value with
        | some g => parseRun env outer n g rest
        | none => .nonsense

/-- Reads the arguments of the program. -/
def parseAll (env : Option String) : Nat → Option Bool → List String → Asked
  | 0, _, _ | _, _, [] => .nonsense
  | n + 1, outer, arg :: rest =>
    if asksHelp arg then .help
    else if arg = "--version" || isFlag 'V' arg then .version
    else if arg = "run" then parseRun env outer (rest.length + 1) {} rest
    else if arg = "help" then
      if rest = [] || rest = ["run"] || rest = ["help"] then .help else .nonsense
    else
      let (name, attached) := splitOption arg
      if name ≠ "--log-format" then .nonsense
      else
        match value? attached rest with
        | none => .nonsense
        | some (value, rest) =>
          match logFormat? value with
          | some json => if outer.isSome then .nonsense else parseAll env n (some json) rest
          | none => .nonsense

/-- Reads the arguments; `env` is the configuration that the environment names. -/
def parse (env : Option String) (args : List String) : Asked :=
  parseAll env (args.length + 1) none args

end Arguments

end PodRunner
