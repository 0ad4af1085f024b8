/-!
# Options of the command line

Options stand among the arguments in any order. A value follows its option, or is joined to a long
option by an equals sign and to a short one directly; short switches may be joined to each other.
After two dashes no argument is an option. Anything else is a usage error.

## Main definitions

* `Options`: the options and arguments of a command line.
* `Options.parse?`: reads a command line.
* `Options.helpLines`: the help.
-/

namespace SchemaClasses

inductive ValueOption where
  | language
  | package
  | definitions
  | member
  | config
deriving DecidableEq

inductive Switch where
  | dryRun
  | verbose
  | help
deriving DecidableEq

inductive OptionKind where
  | value (option : ValueOption)
  | switch (option : Switch)
deriving DecidableEq

structure Options where
  language : String := "kotlin"
  package? : Option String := none
  definitions? : Option String := none
  /-- The names of the members that are written; none means all. -/
  members : List String := []
  /-- The options with a value, in the order in which they first appear. -/
  order : List ValueOption := []
  config? : Option String := none
  dryRun : Bool := false
  verbose : Bool := false
  help : Bool := false
  arguments : List String := []

namespace Options

def long? : String → Option OptionKind
  | "--language" => some (.value .language)
  | "--package" => some (.value .package)
  | "--definitions" => some (.value .definitions)
  | "--include" => some (.value .member)
  | "--config" => some (.value .config)
  | "--dry-run" => some (.switch .dryRun)
  | "--verbose" => some (.switch .verbose)
  | "--help" => some (.switch .help)
  | _ => none

def short? : Char → Option OptionKind
  | 'l' => some (.value .language)
  | 'p' => some (.value .package)
  | 'd' => some (.value .definitions)
  | 'i' => some (.value .member)
  | 'c' => some (.value .config)
  | 'v' => some (.switch .verbose)
  | _ => none

def note (options : Options) (option : ValueOption) : Options :=
  if option ∈ options.order then options
  else { options with order := options.order ++ [option] }

/-- Sets an option to a value; the last value holds, and names of members add up. -/
def setValue (options : Options) (value : String) (option : ValueOption) : Options :=
  let options := options.note option
  match option with
  | .language => { options with language := value }
  | .package => { options with package? := some value }
  | .definitions => { options with definitions? := some value }
  | .member => { options with members := options.members ++ [value] }
  | .config => { options with config? := some value }

def turnOn (options : Options) : Switch → Options
  | .dryRun => { options with dryRun := true }
  | .verbose => { options with verbose := true }
  | .help => { options with help := true }

/-- Reads joined short options. The second part of the result is an option whose value is the next
argument. -/
def readShort (options : Options) : List Char → Option (Options × Option ValueOption)
  | [] => some (options, none)
  | letter :: rest =>
    match short? letter with
    | none => none
    | some (.switch option) => readShort (options.turnOn option) rest
    | some (.value option) =>
      if rest.isEmpty then some (options, some option)
      else some (options.setValue (String.ofList rest) option, none)

def readOption (options : Options) (argument : List Char) :
    Option (Options × Option ValueOption) :=
  let name := argument.takeWhile (· ≠ '=')
  let joined? := if name.length = argument.length then none
    else some (String.ofList (argument.drop (name.length + 1)))
  match long? (String.ofList name), joined? with
  | some (.value option), some value => some (options.setValue value option, none)
  | some (.value option), none => some (options, some option)
  | some (.switch option), none => some (options.turnOn option, none)
  | some (.switch _), some _ => none
  | none, _ =>
    if argument.take 2 = ['-', '-'] then none else readShort options (argument.drop 1)

def readAll (options : Options) : List String → Option Options
  | [] => some options
  | argument :: rest =>
    if argument = "--" then some { options with arguments := options.arguments ++ rest }
    else if argument.toList.take 1 = ['-'] && argument ≠ "-" then
      match readOption options argument.toList with
      | none => none
      | some (options, none) => readAll options rest
      | some (options, some option) =>
        match rest with
        | value :: rest => readAll (options.setValue value option) rest
        | [] => none
    else readAll { options with arguments := options.arguments ++ [argument] } rest

def usage : String := "Usage: schema-classes [OPTIONS] PATH OUTPUT"

def helpLines : List String :=
  [usage, "", "Options:",
    "  -l, --language [kotlin|java|python]",
    "  -p, --package TEXT              Package / namespace of the generated classes",
    "  -d, --definitions TEXT          Pointer to a definitions container, e.g.",
    "                                  '#/definitions'; one class per member",
    "  -i, --include TEXT              Only write these definitions (repeatable)",
    "  -c, --config PATH",
    "  --dry-run                       Print the target files instead of writing",
    "                                  them",
    "  -v, --verbose",
    "  --help                          Show this message and exit."]

def parse? (arguments : List String) : Option Options := readAll {} arguments

end Options

end SchemaClasses
