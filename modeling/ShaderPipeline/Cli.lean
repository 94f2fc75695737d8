import ShaderPipeline.Dump
import ShaderPipeline.Program.File

/-!
# Command line

The command that dumps a program file: its two stages as text, or the compiled shader and the
program source as JSON. The engine properties have placeholder values, so every program that needs
no others can be dumped. Arguments are read before any file, and the configuration before the
program.
-/

namespace ShaderPipeline.Cli

open Glsl

/-- What the arguments ask for. -/
structure Options where
  file : String
  config : Option String
  gles : Bool
  json : Bool
deriving DecidableEq

/-- Why arguments are refused. -/
inductive UsageError where
  | noFile
  | noConfigPath
  | unknownArgument (argument : String)
deriving DecidableEq

/-- What a command leaves behind. -/
structure Output where
  exitCode : Nat
  stdout : String
  stderr : String
deriving DecidableEq

/-- The explanation of the arguments. -/
def usage (program : String) : String :=
  "Usage: " ++ program ++
      " <program_file> [--config <config.yaml>] [--gles] [--json] [--verbose]\n" ++
    "Compiles a unified shader program and prints the generated stages\n" ++
    "  program_file: Path to the .program source\n" ++
    "  --config:     YAML file with the target version and default properties\n" ++
    "  --gles:       Generate GLSL ES 3.00 regardless of the config\n" ++
    "  --json:       Print the compiled IR and slot tables as JSON\n" ++
    "  --verbose:    Log cache and generation details\n"

/-- Adds options to those that are known. The last path of a configuration counts, and details are
never logged because a dump has no cache. -/
def parseOptions (known : Options) : List String → Except UsageError Options
  | [] => .ok known
  | "--config" :: path :: rest => parseOptions { known with config := some path } rest
  | "--config" :: [] => .error .noConfigPath
  | "--gles" :: rest => parseOptions { known with gles := true } rest
  | "--json" :: rest => parseOptions { known with json := true } rest
  | "--verbose" :: rest => parseOptions known rest
  | other :: _ => .error (.unknownArgument other)

/-- The options in a list of arguments. The first argument is the file, whatever it looks like. -/
def parse : List String → Except UsageError Options
  | [] => .error .noFile
  | file :: rest => parseOptions ⟨file, none, false, false⟩ rest

/-- The text for refused arguments. -/
def usageText (program : String) : UsageError → String
  | .unknownArgument argument => "Error: Unknown argument '" ++ argument ++ "'\n" ++ usage program
  | _ => usage program

/-- A command that fails with a text. -/
def failure (text : String) : Output := ⟨1, "", text⟩

/-- The placeholder values of the engine properties. -/
def placeholders : PropertyContext :=
  .ofViewport ⟨⟨1920, 1080⟩, ⟨1920, 1080⟩, ⟨1920, 1080⟩⟩

/-- What the options make of a configuration. -/
def Options.applied (options : Options) (config : Config) : Config :=
  if options.gles then { config with dialect := .gles300 } else config

/-- The text of a dump. -/
def dumpText (options : Options) (shader : Language.Shader) (source : ProgramSource) : String :=
  if options.json then (Dump.both shader source).text ++ "\n"
  else
    "// ---- vertex ----\n" ++ source.vertex ++ "\n// ---- fragment ----\n" ++ source.fragment ++
      "\n"

/-- Dumps a program with a configuration, given what reading its file gave. -/
def dump (options : Options) (config : Config) (text : Except FileError String) : Output :=
  match ProgramSource.ofFile (options.applied config) placeholders text with
  | .ok (shader, source) => ⟨0, dumpText options shader source, ""⟩
  | .error e => failure ("Error processing '" ++ options.file ++ "': " ++ e.message ++ "\n")

/-- Reads the configuration that the options name, or takes the standard one. -/
def readConfig {m : Type → Type} [Monad m] (read : String → m (Except FileError String))
    (options : Options) : m (Except String Config) :=
  match options.config with
  | none => return .ok .standard
  | some path => do
    match Config.ofFile (← read path) with
    | .ok config => return .ok config
    | .error e => return .error ("Error loading config '" ++ path ++ "': " ++ e.message ++ "\n")

/-- Runs the command with its arguments, reading files with the given reader. -/
def run {m : Type → Type} [Monad m] (program : String)
    (read : String → m (Except FileError String)) (arguments : List String) : m Output := do
  match parse arguments with
  | .error e => return failure (usageText program e)
  | .ok options =>
    match ← readConfig read options with
    | .error text => return failure text
    | .ok config => return dump options config (← read options.file)

end ShaderPipeline.Cli
