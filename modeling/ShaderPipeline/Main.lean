import ShaderPipeline.Cli

/-!
# The program dumper

Runs the command line on the files of the system.
-/

namespace ShaderPipeline

/-- The failure of a file operation that a system error stands for. The errors of a directory in
place of a file and of a file in place of a directory differ by their numbers. -/
def fileErrorOf : IO.Error → FileError
  | .noFileOrDirectory _ _ _ => .notFound
  | .inappropriateType _ 21 _ => .isADirectory
  | .inappropriateType _ _ _ => .notADirectory
  | .permissionDenied _ number details =>
    .other (details ++ " (os error " ++ toString number ++ ")")
  | e => .other (toString e)

/-- Reads a file of the system as text. -/
def readSystemFile (path : String) : IO (Except FileError String) := do
  if path.toList.any (· == '\x00') then return .error .invalidInput
  match ← (IO.FS.readBinFile path).toBaseIO with
  | .error e => return .error (fileErrorOf e)
  | .ok bytes =>
    match String.fromUTF8? bytes with
    | some text => return .ok text
    | none => return .error .invalidData

end ShaderPipeline

/-- Runs the command line and exits with its code. -/
def main (arguments : List String) : IO UInt32 := do
  let output ← ShaderPipeline.Cli.run "dump_program" ShaderPipeline.readSystemFile arguments
  IO.print output.stdout
  IO.eprint output.stderr
  return output.exitCode.toUInt32
