import BracketBalance.CommandLine.Run
import BracketBalance.FileTree

namespace BracketBalance.Main

/-- The text for a code of the system, which may come with its sign changed. -/
def worded (code : UInt32) (details : String) : String :=
  let code := if code < 0x80000000 then code else 0 - code
  match code with
  | 2 => ReadFailure.notFound.message
  | 20 => ReadFailure.notADirectory.message
  | 21 => ReadFailure.isADirectory.message
  | 36 => ReadFailure.nameTooLong.message
  | code => details.capitalize ++ " (os error " ++ toString code ++ ")"

def causeOf : IO.Error → String
  | .noFileOrDirectory _ code details => worded code details
  | .inappropriateType _ code details => worded code details
  | .invalidArgument _ code details => worded code details
  | .permissionDenied _ code details => worded code details
  | .resourceExhausted _ code details => worded code details
  | error => toString error

def readFiles : List Bytes → IO (List SourceFile)
  | [] => return []
  | path :: paths => do
    match ← EIO.toBaseIO (IO.FS.readBinFile (Utf8.decodeString path)) with
    | .error error => return [⟨path, .error (causeOf error)⟩]
    | .ok content => return ⟨path, .ok content.toList⟩ :: (← readFiles paths)

def write (stream : IO.FS.Stream) (text : String) : IO Unit := do
  stream.putStr text
  stream.flush

def run (arguments : List String) : IO UInt32 := do
  let platform := Platform.standard
  let asked := platform.parse (arguments.map (·.toUTF8.toList))
  let log := (← IO.getEnv "RUST_LOG").map (·.toUTF8.toList)
  let files ← readFiles (Platform.filesToRead asked)
  let exit := platform.respond asked log .accepting files
  let exit ←
    match ← EIO.toBaseIO (write (← IO.getStdout) exit.stdout) with
    | .ok _ => pure exit
    | .error error => pure (platform.respond asked log (.refusing (causeOf error)) files)
  write (← IO.getStderr) exit.stderr
  return exit.status.toUInt32

end BracketBalance.Main

def main (arguments : List String) : IO UInt32 :=
  BracketBalance.Main.run arguments
