import LoadTest.CommandLine.SocketAddress

/-!
# Arguments

Arguments are read from left to right. The first of them is the command. An option takes the next
argument as its value, which is looked at when the next option comes or the arguments end. Behind
`--` nothing is an option.
-/

namespace LoadTest

/-- How the service is to run. -/
structure ServeSettings where
  bind : String
  port : Nat
  maxBodyBytes : Nat
deriving DecidableEq

namespace ServeSettings

/-- The settings where nothing is said. -/
def standard : ServeSettings where
  bind := "0.0.0.0"
  port := 9880
  maxBodyBytes := 16 * 1024 * 1024

/-- Where the service listens, if `bind` is the text of an address. -/
def address? (s : ServeSettings) : Option SocketAddress :=
  SocketAddress.ofChars? (s.bind.toList ++ ':' :: Nat.toDigits 10 s.port)

end ServeSettings

/-- What the program can be asked to do. -/
inductive Command where
  | serve (settings : ServeSettings)
  | compile (path : String)
  | parse (path : String)
  | timeseries (path : String)
  | importFile (path : String)
deriving DecidableEq

/-- The file that a command reads. -/
def Command.path? : Command → Option String
  | .serve _ => none
  | .compile path => some path
  | .parse path => some path
  | .timeseries path => some path
  | .importFile path => some path

/-- Why the arguments name no command, which may be that they ask for something else. -/
inductive UsageFault where
  | help
  | version
  | nothingGiven
  | unknownCommand
  | unknownArgument
  | missingArgument
  | missingValue
  | unreadableValue
  | repeatedOption
  | needlessValue
deriving DecidableEq

/-- With what the program ends: to ask for help or for the version is no mistake. -/
def UsageFault.code : UsageFault → Nat
  | .help => 0
  | .version => 0
  | _ => 2

namespace CommandLine

/-- What an argument looks like. -/
inductive Shape where
  | separator
  | long (name : String) (value : Option String)
  | short (first : Char) (rest : List Char)
  | plain

/-- Two hyphens start a long name and one starts short ones. Alone, two separate and one is plain.
-/
def shape (arg : String) : Shape :=
  match arg.toList with
  | ['-', '-'] => .separator
  | '-' :: '-' :: rest =>
    .long (String.ofList (rest.takeWhile (· != '=')))
      (match rest.dropWhile (· != '=') with
        | _ :: value => some (String.ofList value)
        | [] => none)
  | '-' :: c :: rest => .short c rest
  | _ => .plain

/-- The path of a command that takes one. -/
def path (trailing : Bool) (given : Option String) : List String → Except UsageFault String
  | [] =>
    match given with
    | none => .error .missingArgument
    | some p => if p.isEmpty then .error .missingValue else .ok p
  | arg :: rest =>
    let help : Except UsageFault String :=
      .error (if given = some "" then .missingValue else .help)
    match (if trailing then .plain else shape arg) with
    | .separator => path true given rest
    | .long "help" none => help
    | .long "help" (some _) => .error .needlessValue
    | .short 'h' _ => help
    | .plain =>
      match given with
      | none => path trailing (some arg) rest
      | some _ => .error .unknownArgument
    | _ => .error .unknownArgument

/-- The options of the service. -/
inductive ServeOption where
  | bind
  | port
  | maxBodyBytes
deriving DecidableEq

/-- The option of that long name. -/
def ServeOption.ofName? (name : String) : Option ServeOption :=
  if name = "bind" then some .bind
  else if name = "port" then some .port
  else if name = "max-body-bytes" then some .maxBodyBytes
  else none

/-- A port, with a sign if need be. -/
def port? (cs : List Char) : Option Nat :=
  let (negative, digits) := match cs with
    | '-' :: rest => (true, rest)
    | '+' :: rest => (false, rest)
    | rest => (false, rest)
  match SocketAddress.port? digits with
  | some n => if negative && n != 0 then none else some n
  | none => none

/-- The options read so far, and one whose value is not read yet. -/
structure ServeState where
  settings : ServeSettings
  seen : List ServeOption
  waiting : Option (ServeOption × Option String)

namespace ServeState

/-- Keeps the value of an option. No option may be given twice. -/
def set (o : ServeOption) (value : String) (s : ServeState) : Except UsageFault ServeState :=
  if s.seen.contains o then .error .repeatedOption
  else
    let settings? : Option ServeSettings := match o with
      | .bind => some { s.settings with bind := value }
      | .port => (port? value.toList).map fun n => { s.settings with port := n }
      | .maxBodyBytes =>
        (naturalBelow? (2 ^ 64) value.toList).map fun n => { s.settings with maxBodyBytes := n }
    match settings? with
    | some settings => .ok ⟨settings, o :: s.seen, none⟩
    | none => .error .unreadableValue

/-- Reads the value that is waiting. -/
def settle (s : ServeState) : Except UsageFault ServeState :=
  match s.waiting with
  | none => .ok s
  | some (_, none) => .error .missingValue
  | some (o, some value) => s.set o value

/-- An option, with its value if that is part of the argument. -/
def takeOption (o : ServeOption) (value : Option String) (s : ServeState) :
    Except UsageFault ServeState := do
  let s ← s.settle
  match value with
  | some value => s.set o value
  | none => return { s with waiting := some (o, none) }

/-- An argument of no special shape can only be the value that an option waits for. -/
def takePlain (arg : String) (s : ServeState) : Except UsageFault ServeState :=
  match s.waiting with
  | some (o, none) => .ok { s with waiting := some (o, some arg) }
  | _ => .error .unknownArgument

/-- Asks for help, once the option before it has been looked at. -/
def help (s : ServeState) : Except UsageFault ServeState := do
  let _ ← s.settle
  throw .help

/-- The value behind a short option, which may have an equals sign before it. -/
def shortValue : List Char → Option String
  | [] => none
  | '=' :: rest => some (String.ofList rest)
  | rest => some (String.ofList rest)

/-- Takes the next argument. -/
def take (arg : String) (s : ServeState) : Except UsageFault ServeState :=
  match shape arg with
  | .long "help" none => s.help
  | .long "help" (some _) => .error .needlessValue
  | .long name value =>
    match ServeOption.ofName? name with
    | some o => s.takeOption o value
    | none => .error .unknownArgument
  | .short 'h' _ => s.help
  | .short 'p' rest => s.takeOption .port (shortValue rest)
  | .plain => s.takePlain arg
  | _ => .error .unknownArgument

end ServeState

/-- The settings of the service. Behind `--` nothing may follow. -/
def serveSettings (s : ServeState) : List String → Except UsageFault ServeSettings
  | [] => s.settle.map ServeState.settings
  | "--" :: rest =>
    if rest.isEmpty then s.settle.map ServeState.settings else .error .unknownArgument
  | arg :: rest => do
    let s ← s.take arg
    serveSettings s rest

/-- The names of the commands, with that of help. -/
def commandNames : List String :=
  ["serve", "compile", "parse", "timeseries", "import", "help"]

/-- Help on a command, of which only the command for help has one of its own. -/
def helpOn : List String → UsageFault
  | [] => .help
  | [name] => if commandNames.contains name then .help else .unknownCommand
  | _ => .unknownCommand

end CommandLine

open CommandLine in
/-- The command that the arguments name. -/
def Command.ofArguments : List String → Except UsageFault Command
  | [] => .error .nothingGiven
  | arg :: rest =>
    if arg = "serve" then (serveSettings ⟨.standard, [], none⟩ rest).map .serve
    else if arg = "compile" then (path false none rest).map .compile
    else if arg = "parse" then (path false none rest).map .parse
    else if arg = "timeseries" then (path false none rest).map .timeseries
    else if arg = "import" then (path false none rest).map .importFile
    else if arg = "help" then .error (helpOn rest)
    else match shape arg with
      | .separator =>
        match rest with
        | [] => .error .nothingGiven
        | name :: _ =>
          .error (if commandNames.contains name then .unknownArgument else .unknownCommand)
      | .long "help" value => .error (if value.isSome then .needlessValue else .help)
      | .long "version" value => .error (if value.isSome then .needlessValue else .version)
      | .short 'h' _ => .error .help
      | .short 'V' _ => .error .version
      | .plain => .error .unknownCommand
      | _ => .error .unknownArgument

end LoadTest
