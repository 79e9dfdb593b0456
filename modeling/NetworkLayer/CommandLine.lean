import NetworkLayer.Address.Text
import NetworkLayer.CommandLine.Arguments
import NetworkLayer.Config.Lock
import NetworkLayer.Config.Validation
import NetworkLayer.Network.Assembly

/-!
The command line: checking a configuration, writing its lock file, telling the route for an address
and running a stack. A command is a list of actions, which end with the first one that fails.
-/

namespace NetworkLayer

/-- A command with its arguments. -/
inductive Command
  /-- Checks a configuration. -/
  | validate (config : String)
  /-- Writes the lock file of a configuration. -/
  | generate (config output : String)
  /-- Tells the route for an address. -/
  | route (config : String) (address : (family : Family) × Address family)
  /-- Runs the stack of a configuration. -/
  | run (config : String)

/-- Something that a command does. -/
inductive Action
  /-- Prints a line. -/
  | print (line : String)
  /-- Writes a file; the command ends if that fails. -/
  | write (path text : String)
  /-- Ends the command with a message. -/
  | fail (message : String)
deriving DecidableEq, Repr

/-- What a command leaves behind. -/
structure Outcome where
  code : Nat
  printed : List String
  errors : List String
  /-- The files that were written, with their texts. -/
  files : List (String × String)
deriving DecidableEq, Repr

/-- The line that tells why a command failed. -/
def failureLine (message : String) : String := "[ERROR] " ++ message

/-- What actions leave behind where every file can be written. -/
def Outcome.ofActions : List Action → Outcome
  | [] => ⟨0, [], [], []⟩
  | .print line :: actions =>
    let outcome := ofActions actions
    { outcome with printed := line :: outcome.printed }
  | .write path text :: actions =>
    let outcome := ofActions actions
    { outcome with files := (path, text) :: outcome.files }
  | .fail message :: _ => ⟨1, [], [failureLine message], []⟩

/-- The files and devices around a command, and the time. -/
structure Environment where
  /-- The text of the configuration file, or why there is none. -/
  text : Except String String
  /-- The time that a lock file is made at. -/
  time : String
  /-- Opens a device and tells its hardware address. -/
  device : String → Except Error Mac

namespace Command

/-- The option for the configuration file. -/
def configOption : OptionName := ⟨'c', "config"⟩

/-- The option for the lock file. -/
def outputOption : OptionName := ⟨'o', "output"⟩

/-- The address of either family that a text spells. -/
def address? (text : String) : Option ((family : Family) × Address family) :=
  -- No text is an address of both families.
  match Address.parse? .v4 text.toList with
  | some address => some ⟨.v4, address⟩
  | none => (Address.parse? .v6 text.toList).map fun address => ⟨.v6, address⟩

/-- Reads a command. -/
def parse? : List String → Option Command
  | "config" :: "validate" :: arguments => do
    let arguments ← Arguments.read [configOption] arguments
    if arguments.rest.isEmpty then some (.validate (configOf arguments)) else none
  | "config" :: "generate" :: arguments => do
    let arguments ← Arguments.read [configOption, outputOption] arguments
    if arguments.rest.isEmpty then
      some (.generate (configOf arguments) (arguments.get outputOption.name "config.lock"))
    else none
  | "run" :: arguments => do
    let arguments ← Arguments.read [configOption] arguments
    if arguments.rest.isEmpty then some (.run (configOf arguments)) else none
  | "route" :: arguments => do
    let arguments ← Arguments.read [configOption] arguments
    match arguments.rest with
    | [text] => (address? text).map (.route (configOf arguments))
    | _ => none
  | _ => none
where
  /-- The path of the configuration file. -/
  configOf (arguments : Arguments) : String := arguments.get configOption.name "config.toml"

/-- What the commands look like. -/
def usage : String :=
  "usage: config validate [-c FILE]\n" ++
    "       config generate [-c FILE] [-o FILE]\n" ++
    "       route [-c FILE] ADDRESS\n" ++
    "       run [-c FILE]"

/-- The path of the configuration file. -/
def configPath : Command → String
  | validate config | generate config _ | route config _ | run config => config

/-- Goes on with a configuration, if the file has one. -/
def withConfig (path : String) (environment : Environment) (next : Config → List Action) :
    List Action :=
  let refuse := fun detail => [.fail ("Failed to parse config: " ++ detail)]
  match environment.text with
  | .error reason => refuse ("config error: " ++ path ++ ": " ++ reason)
  | .ok text =>
    match Config.parse text with
    | .error cause => refuse cause.message
    | .ok config => next config

/-- The message about a configuration with errors. -/
def invalid : Action := .fail "Validation failed with errors"

/-- Prints the findings on a configuration and goes on if there is no error. -/
def checked (config : Config) (next : List Action) : List Action :=
  -- Warnings come first, whatever the order of the findings was.
  config.warnings.map (fun finding => .print ("[WARN] " ++ finding.message)) ++
    config.errors.map (fun finding => .print ("[ERROR] " ++ finding.message)) ++
    if config.errors.isEmpty then next else [invalid]

/-- The lock file with its header. -/
def lockFile (path : String) (config : Config) (time : String) : String :=
  "# Generated by ipstack - DO NOT EDIT\n# Source: " ++ path ++ "\n\n" ++ config.lock time

/-- The route of a configured stack for an address. -/
def describe (config : Config) {family : Family} (address : Address family) : List Action :=
  match Network.addStack {} config .apart with
  | (.error cause, _) => [.fail ("Failed to build routing table: " ++ cause.message)]
  | (.ok stack, network) =>
    match network.describeRoute stack address with
    | some text => [.print text]
    | none => [.print (address.render ++ ": no route")]

/-- Starts a configured stack on the devices of the machine. -/
def start (config : Config) (environment : Environment) : List Action :=
  let (hub, network) := Network.newId {}
  match (network.addStack config (.devices hub fun _ => environment.device)).1 with
  | .error cause => [.fail ("Failed to start: " ++ cause.message ++ ". Run with root privileges.")]
  | .ok _ => []

/-- What a command does. -/
def actions (command : Command) (environment : Environment) : List Action :=
  match command with
  | validate path =>
    .print ("[INFO] Validating " ++ path ++ "...") ::
      withConfig path environment fun config =>
        checked config [.print "[INFO] Configuration is valid"]
  | generate path output =>
    .print ("[INFO] Loading " ++ path ++ "...") ::
      withConfig path environment fun config =>
        checked config [.write output (lockFile path config environment.time),
          .print ("[INFO] Generated " ++ output)]
  | route path address =>
    withConfig path environment fun config => checked config (describe config address.2)
  | run path =>
    withConfig path environment fun config =>
      -- Running prints no findings, since its output is the log.
      if config.errors.isEmpty then start config environment else [invalid]

/-- What a command leaves behind where every file can be written. -/
def outcome (command : Command) (environment : Environment) : Outcome :=
  .ofActions (command.actions environment)

end Command

end NetworkLayer
