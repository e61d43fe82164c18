import Provision.Config

/-!
# Settings on the command line

The options of the command line, how their values are read and what is said about a usage that makes
no sense.

* `Settings.set` reads the value of an option.
* `Settings.merge` joins what was given before a command with what was given after it.
* `UsageError.message` is the wording of a usage error.
-/

namespace Provision.CommandLine

/-- An option that takes a value. -/
inductive Opt where
  | root
  | releaseUrl
  | platform
  | extractor
  | timeout
deriving DecidableEq, Repr

namespace Opt

/-- All options. -/
def all : List Opt := [.root, .releaseUrl, .platform, .extractor, .timeout]

/-- The long name. -/
def long : Opt → String
  | .root => "root"
  | .releaseUrl => "release-url"
  | .platform => "platform"
  | .extractor => "extractor"
  | .timeout => "timeout"

/-- What the value is called. -/
def valueName : Opt → String
  | .root => "PATH"
  | .releaseUrl => "URL"
  | .platform => "OS-ARCH"
  | .extractor => "EXTRACTOR"
  | .timeout => "SECONDS"

/-- How the option is shown in messages. -/
def shown (o : Opt) : String := "--" ++ o.long ++ " <" ++ o.valueName ++ ">"

/-- The variable that can give the value as well. -/
def variableName? : Opt → Option String
  | .root => some Locate.rootVariable
  | .releaseUrl => some "COMMENT_CHECKER_RELEASE_URL"
  | _ => none

/-- The option with the given long name. -/
def ofLong? (name : String) : Option Opt := all.find? fun o => o.long == name

end Opt

/-- Why a number cannot be read. -/
inductive NumberError where
  | empty
  | invalidDigit
  | tooLarge
deriving DecidableEq, Repr

/-- The wording of a number that cannot be read. -/
def NumberError.message : NumberError → String
  | .empty => "cannot parse integer from empty string"
  | .invalidDigit => "invalid digit found in string"
  | .tooLarge => "number too large to fit in target type"

/-- Reads decimal digits after a number. -/
def readDigits : Nat → List Char → Except NumberError Nat
  | n, [] => .ok n
  | n, c :: rest =>
    if !c.isDigit then .error .invalidDigit
    else
      let next := 10 * n + (c.toNat - '0'.toNat)
      if UInt64.size ≤ next then .error .tooLarge else readDigits next rest

/-- Reads a number of 64 bits with an optional plus sign. -/
def readNumber (s : String) : Except NumberError Nat :=
  match s.toList with
  | [] => .error .empty
  | ['+'] => .error .invalidDigit
  | '+' :: digits => readDigits 0 digits
  | digits => readDigits 0 digits

/-- A usage that makes no sense. -/
inductive UsageError where
  /-- Nothing was asked for. -/
  | nothing
  | missingCommand
  | unknownCommand (arg : String)
  | unknownArgument (arg : String)
  | missingValue (o : Opt)
  | repeated (o : Opt)
  | unexpectedValue (flag value : String)
  | invalidPlatform (value : String)
  | invalidExtractor (value : String)
  | invalidTimeout (value : String) (cause : NumberError)
deriving DecidableEq, Repr

/-- The name of the program. -/
def programName : String := "comment-checker-install"

/-- What the program does, in one line. -/
def about : String := programName ++ " - provision the comment-checker binary"

/-- How an invalid value of an option is told. -/
def invalidValue (o : Opt) (value : String) : String :=
  "invalid value '" ++ value ++ "' for '" ++ o.shown ++ "'"

/-- The wording of a usage error. -/
def UsageError.message : UsageError → String
  | .nothing => about
  | .missingCommand =>
    "error: '" ++ programName ++ "' requires a subcommand but one was not provided"
  | .unknownCommand arg => "error: unrecognized subcommand '" ++ arg ++ "'"
  | .unknownArgument arg => "error: unexpected argument '" ++ arg ++ "' found"
  | .missingValue o => "error: a value is required for '" ++ o.shown ++ "' but none was supplied"
  | .repeated o => "error: the argument '" ++ o.shown ++ "' cannot be used multiple times"
  | .unexpectedValue flag value =>
    "error: unexpected value '" ++ value ++ "' for '" ++ flag ++ "' found; no more were expected"
  | .invalidPlatform value =>
    "error: " ++ invalidValue .platform value ++ ": " ++ Platform.invalidMessage value
  | .invalidExtractor value => "error: " ++ invalidValue .extractor value
  | .invalidTimeout value cause =>
    "error: " ++ invalidValue .timeout value ++ ": " ++ cause.message

/-- Where a value came from. The command line counts more than the environment. -/
inductive Source where
  | environment
  | arguments
deriving DecidableEq, Repr

/-- The values that were given, each with its source. -/
structure Settings where
  root : Option (Source × Path) := none
  releaseUrl : Option (Source × String) := none
  platform : Option (Source × Platform) := none
  extractor : Option (Source × ExtractorKind) := none
  timeout : Option (Source × Nat) := none
deriving DecidableEq, Repr

namespace Settings

/-- Has the option been given? -/
def has (s : Settings) : Opt → Bool
  | .root => s.root.isSome
  | .releaseUrl => s.releaseUrl.isSome
  | .platform => s.platform.isSome
  | .extractor => s.extractor.isSome
  | .timeout => s.timeout.isSome

/-- Has any option been given? -/
def hasAny (s : Settings) : Bool := Opt.all.any s.has

/-- Reads the value of an option. -/
def set (s : Settings) (source : Source) (o : Opt) (value : String) : Except UsageError Settings :=
  match o with
  | .root =>
    if value.isEmpty then .error (.missingValue .root)
    else .ok { s with root := some (source, .ofText value) }
  | .releaseUrl => .ok { s with releaseUrl := some (source, value) }
  | .platform =>
    match Platform.parse? value with
    | some p => .ok { s with platform := some (source, p) }
    | none => .error (.invalidPlatform value)
  | .extractor =>
    match value with
    | "native" => .ok { s with extractor := some (source, .native) }
    | "system" => .ok { s with extractor := some (source, .system) }
    | "" => .error (.missingValue .extractor)
    | _ => .error (.invalidExtractor value)
  | .timeout =>
    match readNumber value with
    | .ok n => .ok { s with timeout := some (source, n) }
    | .error e => .error (.invalidTimeout value e)

/-- Of two values the one that counts: the one on the command line, and of two such the inner. -/
def pick {α : Type} : Option (Source × α) → Option (Source × α) → Option (Source × α)
  | some (.arguments, a), some (.environment, _) => some (.arguments, a)
  | outer, none => outer
  | _, inner => inner

/-- What was given before a command together with what was given after it. -/
def merge (outer inner : Settings) : Settings where
  root := pick outer.root inner.root
  releaseUrl := pick outer.releaseUrl inner.releaseUrl
  platform := pick outer.platform inner.platform
  extractor := pick outer.extractor inner.extractor
  timeout := pick outer.timeout inner.timeout

/-- The options that the settings come to. -/
def options (s : Settings) : Options where
  root := s.root.map (·.2)
  host := s.releaseUrl.map (·.2)
  platform := s.platform.map (·.2)
  extractor := (s.extractor.map (·.2)).getD .native
  timeout := s.timeout.map fun t => 1000 * t.2

end Settings

end Provision.CommandLine
