import BracketBalance.CommandLine.Platform
import BracketBalance.Text.Likeness
import BracketBalance.Text.Plain
import BracketBalance.Text.Utf8

namespace BracketBalance

inductive Request
  | help
  | version
  | check (files : List Bytes)
  deriving DecidableEq, Repr

inductive UsageError
  | noFile
  | emptyFile
  /-- An option that is not known, and the one that may be meant. -/
  | unknownOption (option : String) (similar : Option String)
  /-- A value has been given to an option that takes none. -/
  | needlessValue (option value : String)
  deriving DecidableEq, Repr

namespace UsageError

def hint : String := "For more information, try '--help'.\n"

def usage (options : List String) : String :=
  "Usage: bracka " ++ String.join (options.map (· ++ " ")) ++ "<FILE>...\n"

def message : UsageError → String
  | noFile =>
    "error: the following required arguments were not provided:\n  <FILE>...\n\n" ++ usage [] ++ "\n" ++
      hint
  | emptyFile => "error: a value is required for '<FILE>...' but none was supplied\n\n" ++ hint
  | unknownOption option similar =>
    let option := Plain.plain option
    let tip :=
      match similar with
      | none => "to pass '" ++ option ++ "' as a value, use '-- " ++ option ++ "'"
      | some similar => "a similar argument exists: '" ++ similar ++ "'"
    "error: unexpected argument '" ++ option ++ "' found\n\n  tip: " ++ tip ++ "\n\n" ++
      usage similar.toList ++ "\n" ++ hint
  | needlessValue option value =>
    "error: unexpected value '" ++ Plain.plain value ++ "' for '" ++ option ++
      "' found; no more were expected\n\n" ++ usage [option] ++ "\n" ++ hint

end UsageError

namespace Request

def helpText : String :=
  "Reads Racket programs and reports any unbalanced brackets\n\n" ++ UsageError.usage [] ++
    "\nArguments:\n  <FILE>...  Racket programs to check\n\nOptions:\n" ++
    "  -h, --help     Print help\n  -V, --version  Print version\n"

def versionText : String := "bracka 0.0.0\n"

/-- A request that only options make, and that files given before it can still spoil. -/
def unlessEmpty (files : List Bytes) (request : Request) : Except UsageError Request :=
  if files.any List.isEmpty then .error .emptyFile else .ok request

def ofFiles (files : List Bytes) : Except UsageError Request :=
  if files.isEmpty then .error .noFile else unlessEmpty files (check files)

def longOptions : List (String × Request) := [("help", help), ("version", version)]

def ofLong (files : List Bytes) (text : Bytes) : Except UsageError Request :=
  let (name, rest) := text.span (· != '='.toUInt8)
  let name := Utf8.decodeString name
  let option := "--" ++ name
  match longOptions.lookup name, rest with
  | some request, [] => unlessEmpty files request
  | some _, _ :: value => .error (.needlessValue option (Utf8.decodeString value))
  | none, _ =>
    let similar := closest? (longOptions.map Prod.fst) name
    .error (.unknownOption option (similar.map ("--" ++ ·)))

def shortName (lead : UInt8) (bytes : Bytes) : String :=
  if Utf8.beginsChar lead bytes then String.singleton (Utf8.first lead bytes).1
  else Utf8.decodeString (lead :: bytes)

/-- The request of options with names of one letter, of which the first one counts. -/
def ofShort (files : List Bytes) (lead : UInt8) (bytes : Bytes) : Except UsageError Request :=
  match shortName lead bytes with
  | "h" => unlessEmpty files help
  | "V" => unlessEmpty files version
  | name => .error (.unknownOption ("-" ++ name) none)

/-- What the arguments ask for, after some files. -/
def ofArguments (files : List Bytes) : List Bytes → Except UsageError Request
  | [] => ofFiles files
  | argument :: arguments =>
    match argument with
    | [0x2D, 0x2D] => ofFiles (files ++ arguments)
    | 0x2D :: 0x2D :: name => ofLong files name
    | 0x2D :: lead :: bytes => ofShort files lead bytes
    | file => ofArguments (files ++ [file]) arguments

/-- The files to check, or what is left behind at once. -/
def files : Except UsageError Request → Except Exit (List Bytes)
  | .ok (check files) => .ok files
  | .ok help => .error ⟨0, helpText, ""⟩
  | .ok version => .error ⟨0, versionText, ""⟩
  | .error misuse => .error ⟨2, "", misuse.message⟩

end Request

end BracketBalance
