import Provision.CommandLine.Settings

/-!
# Reading the command line

Options may stand before and after the command. The value of an option that is an argument of its
own is looked at only when the next option, or the end, has been reached; a value attached to its
option is looked at once.

* `Arguments.read` reads all arguments, given the environment.
-/

namespace Provision.CommandLine

/-- What the program can be told to do. -/
inductive Command where
  | install
  | path
  | platform
deriving DecidableEq, Repr

/-- The command with the given name. -/
def Command.ofName? : String → Option Command
  | "install" => some .install
  | "path" => some .path
  | "platform" => some .platform
  | _ => none

/-- The name of the command that shows help. -/
def helpName : String := "help"

/-- Why reading stops before there is a command to carry out. -/
inductive Stop where
  | usage (e : UsageError)
  | version
  | help
deriving DecidableEq, Repr

/-- What has been read of one level: before the command or after it. -/
structure Level where
  settings : Settings := {}
  /-- The last option, with its value if that has come. -/
  pending : Option (Opt × Option String) := none
  /-- Has a `--` been read? -/
  isTrailing : Bool := false
deriving DecidableEq, Repr

namespace Level

/-- The option that still waits for its value. -/
def waiting? (l : Level) : Option Opt :=
  match l.pending with
  | some (o, none) => some o
  | _ => none

/-- Takes over the value of an option. -/
def give (l : Level) (o : Opt) (value : String) : Except UsageError Level :=
  if l.settings.has o then .error (.repeated o)
  else do
    return { l with settings := ← l.settings.set .arguments o value }

/-- Looks at the last option. -/
def settle (l : Level) : Except UsageError Level :=
  match l.pending with
  | none => .ok l
  | some (o, none) => .error (.missingValue o)
  | some (o, some value) => { l with pending := none }.give o value

/-- An option with an attached value, or one whose value is still to come. -/
def option (l : Level) (o : Opt) (value : Option String) : Except UsageError Level := do
  let l ← l.settle
  match value with
  | some value => l.give o value
  | none => return { l with pending := some (o, none) }

/-- Takes over what the environment says about options that were not given. -/
def addEnvironment (env : Opt → Option String) : List Opt → Level → Except UsageError Level
  | [], l => .ok l
  | o :: rest, l =>
    if l.settings.has o then addEnvironment env rest l
    else
      match env o with
      | none => addEnvironment env rest l
      | some value => do
        addEnvironment env rest { l with settings := ← l.settings.set .environment o value }

/-- The settings of a level that has been read to its end. -/
def finish (env : Opt → Option String) (l : Level) : Except UsageError Settings := do
  return (← addEnvironment env Opt.all (← l.settle)).settings

end Level

/-- A long option: its name and its attached value. -/
def splitLong (cs : List Char) : String × Option String :=
  let name := cs.takeWhile (· ≠ '=')
  match cs.drop name.length with
  | [] => (String.ofList name, none)
  | _ :: value => (String.ofList name, some (String.ofList value))

/-- The value that is attached to a short option. -/
def attached? : List Char → Option String
  | [] => none
  | '=' :: value => some (String.ofList value)
  | value => some (String.ofList value)

/-- A flag without a value; anything pending is looked at first. -/
def readFlag (l : Level) (stop : Stop) : Except Stop Level := do
  let _ ← l.settle.mapError .usage
  throw stop

/-- Reads a long option. The version is asked for before the command only. -/
def readLong (isTop : Bool) (l : Level) (cs : List Char) : Except Stop Level :=
  let (name, value) := splitLong cs
  let flag (stop : Stop) : Except Stop Level :=
    match value with
    | some value => .error (.usage (.unexpectedValue ("--" ++ name) value))
    | none => readFlag l stop
  match Opt.ofLong? name with
  | some o => (l.option o value).mapError .usage
  | none =>
    if name = "help" then flag .help
    else if name = "version" ∧ isTop then flag .version
    else .error (.usage (.unknownArgument ("--" ++ name)))

/-- Reads a short option. -/
def readShort (isTop : Bool) (l : Level) : List Char → Except Stop Level
  | 'r' :: value => (l.option .root (attached? value)).mapError .usage
  | 'h' :: _ => readFlag l .help
  | c :: _ =>
    if c = 'V' ∧ isTop then readFlag l .version
    else .error (.usage (.unknownArgument ("-" ++ String.ofList [c])))
  | [] => .ok l

/-- The fault in an argument that is neither an option nor a value. Before the command it can only
be meant as one. -/
def strayArgument (isTop : Bool) (l : Level) (arg : String) : UsageError :=
  if !isTop then .unknownArgument arg
  else if l.isTrailing && ((Command.ofName? arg).isSome || arg == helpName) then
    .unknownArgument arg
  else .unknownCommand arg

/-- What the arguments after `help` come to: at most one, which is a command. -/
def readHelp : List String → Stop
  | [] => .help
  | name :: rest =>
    if (Command.ofName? name).isSome || name == helpName then
      match rest with
      | [] => .help
      | inner :: _ => .usage (.unknownCommand inner)
    else .usage (.unknownCommand name)

/-- What reading a level comes to: the level, and the command with the arguments after it. -/
abbrev Reading := Level × Option (Command × List String)

/-- Reads the arguments of one level. -/
def readLevel (isTop : Bool) : Level → List String → Except Stop Reading
  | l, [] => .ok (l, none)
  | l, arg :: rest =>
    if l.isTrailing then .error (.usage (strayArgument isTop l arg))
    else if isTop ∧ l.waiting?.isNone ∧ arg = helpName then .error (readHelp rest)
    else
      match (if isTop ∧ l.waiting?.isNone then Command.ofName? arg else none) with
      | some command => .ok (l, some (command, rest))
      | none =>
        match arg.toList with
        | ['-', '-'] => readLevel isTop { l with isTrailing := true } rest
        | '-' :: '-' :: cs => do readLevel isTop (← readLong isTop l cs) rest
        | '-' :: c :: cs => do readLevel isTop (← readShort isTop l (c :: cs)) rest
        | _ =>
          match l.waiting? with
          | some o => readLevel isTop { l with pending := some (o, some arg) } rest
          | none => .error (.usage (strayArgument isTop l arg))

namespace Arguments

/-- Reads all arguments: the command and the settings for it. The level after the command is
finished before the one around it. -/
def read (env : Opt → Option String) (args : List String) : Except Stop (Command × Settings) := do
  let (outer, found) ← readLevel true {} args
  match found with
  | some (command, rest) =>
    let (inner, _) ← readLevel false {} rest
    let inner ← (inner.finish env).mapError .usage
    let outer ← (outer.finish env).mapError .usage
    return (command, outer.merge inner)
  | none =>
    let outer ← (outer.finish env).mapError .usage
    throw (.usage (if outer.hasAny then .missingCommand else .nothing))

end Arguments

end Provision.CommandLine
