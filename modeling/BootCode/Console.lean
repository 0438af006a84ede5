import BootCode.Report
/-!
# The console

A console session reads its options from the command line, the program from a file or from
standard input, and writes the report. Options are `-i`/`--input`, `-f`/`--format`,
`-p`/`--part` and `--log-filter`, each taking the next argument as its value and each given at
most once; `--help` or `help` asks for the usage text, and `--` ends the options. A bad command
line is reported with a hint to ask for help, and a failure after that with the step that
failed and its cause.
-/

namespace BootCode.Console

/-- What a session shows: its exit status and the text written to each output stream. -/
structure Session where
  status : Nat
  stdout : String
  stderr : String
  deriving DecidableEq, Repr

/-- Reading a file by its path: its text, or the system's description of why it cannot be
read. -/
abbrev Files := String → Except String String

/-- The description of a system error by its number, as the system words it, then the number:
`No such file or directory (os error 2)`. A number without a known wording keeps the details
given with it. -/
def osErrorMessage (code : Nat) (details : String) : String :=
  let text := match code with
    | 1 => "Operation not permitted"
    | 2 => "No such file or directory"
    | 5 => "Input/output error"
    | 13 => "Permission denied"
    | 20 => "Not a directory"
    | 21 => "Is a directory"
    | 36 => "File name too long"
    | 40 => "Too many levels of symbolic links"
    | _ => details
  text ++ " (os error " ++ toString code ++ ")"

/-- Why a path names no file when the working directory holds nothing. -/
inductive Unreadable where
  /-- A component of the path names nothing. -/
  | notFound
  /-- The path names a directory, which has no text. -/
  | directory
  /-- A component is longer than 255 bytes, or the whole path is 4096 bytes or more. -/
  | nameTooLong
  deriving DecidableEq, Repr

/-- The system's number for each reason. -/
def Unreadable.code : Unreadable → Nat
  | .notFound => 2
  | .directory => 21
  | .nameTooLong => 36

/-- How a path's components resolve, one after another, from a directory that holds nothing.
An empty component (from a doubled or a leading slash), `.` and `..` stay at a directory;
any other name is looked up there, and the lookup refuses an overlong name before it finds
that the name is missing. A walk that ends at a directory has found no file. -/
def walkPath : List String → Unreadable
  | [] => .directory
  | c :: cs =>
    if c.utf8ByteSize > 255 then .nameTooLong
    else if c = "" ∨ c = "." ∨ c = ".." then walkPath cs
    else .notFound

/-- Why a path cannot be read when the working directory holds nothing: the empty path names
nothing, an overlong path is refused whole, and any other path is walked component by
component. -/
def Unreadable.ofPath (path : String) : Unreadable :=
  if path.isEmpty then .notFound
  else if path.utf8ByteSize ≥ 4096 then .nameTooLong
  else walkPath (path.splitOn "/")

/-- A working directory that holds nothing, and a file system with no file in reach. -/
def noFiles : Files :=
  fun path => .error (osErrorMessage (Unreadable.ofPath path).code "")

theorem walkPath_single {c : String} (h : c.utf8ByteSize ≤ 255) (hc : c ≠ "" ∧ c ≠ "." ∧ c ≠ "..") :
    walkPath [c] = .notFound := by
  simp only [walkPath]
  rw [if_neg (by omega), if_neg (by simp_all)]

/-- The usage text. -/
def usage : String :=
  "Usage: handheld [-i <input>] [-f <format>] [-p <part>] [--log-filter <log-filter>]\n\n" ++
  "Run handheld boot code: report the accumulator when the program first loops, then find " ++
  "the single nop/jmp flip that lets it terminate.\n\n" ++
  "Options:\n" ++
  "  -i, --input       program file to read, if not specified, stdin is used\n" ++
  "  -f, --format      output format: `text` or `json`\n" ++
  "  -p, --part        which answers to compute: `both`, `1` or `2`\n" ++
  "  --log-filter      tracing filter used when RUST_LOG is not set\n" ++
  "  --help, help      display usage information\n"

-- ---------------------------------------------------------------------------
-- The command line
-- ---------------------------------------------------------------------------

/-- The options that take a value. -/
inductive Flag where
  | input
  | format
  | part
  | logFilter
  deriving DecidableEq, Repr

/-- The option an argument names, by its short or long name. -/
def Flag.ofName? (s : String) : Option Flag :=
  if s = "-i" ∨ s = "--input" then some .input
  else if s = "-f" ∨ s = "--format" then some .format
  else if s = "-p" ∨ s = "--part" then some .part
  else if s = "--log-filter" then some .logFilter
  else none

/-- The options given so far. -/
structure Options where
  input : Option String := none
  format : Option OutputFormat := none
  part : Option Parts := none
  logFilter : Option String := none
  deriving DecidableEq, Repr

namespace Options

/-- Records the value of an option; a second value for the same option is refused before the
value is read. -/
def fill (o : Options) (f : Flag) (v : String) : Except String Options :=
  let dup : Except String Options := .error "duplicate values provided"
  match f with
  | .input => if o.input.isSome then dup else .ok { o with input := some v }
  | .format =>
    if o.format.isSome then dup
    else match OutputFormat.parse v with
      | .ok x => .ok { o with format := some x }
      | .error e => .error e.message
  | .part =>
    if o.part.isSome then dup
    else match Parts.parse v with
      | .ok x => .ok { o with part := some x }
      | .error e => .error e.message
  | .logFilter => if o.logFilter.isSome then dup else .ok { o with logFilter := some v }

/-- The settings the options choose, with the defaults for those not given. -/
def toSettings (o : Options) : Settings :=
  ⟨o.input, o.format.getD Settings.default.format, o.logFilter.getD Settings.default.logFilter,
    o.part.getD Settings.default.parts⟩

end Options

/-- What the command line asks for: the usage text, or a run with these options. -/
inductive Request where
  | help
  | run (o : Options)
  deriving DecidableEq, Repr

/-- Reads the rest of the command line. `help` records that help was asked for, and `ended`
that `--` has ended the options. -/
def readArgs (help ended : Bool) (o : Options) : List String → Except String Request
  | [] => .ok (if help then .help else .run o)
  | a :: rest =>
    if (a = "--help" ∨ a = "help") ∧ !ended then readArgs true ended o rest
    else if a.startsWith "-" ∧ !ended then
      if a = "--" then readArgs help true o rest
      else if help then .error "Trailing arguments are not allowed after `help`."
      else
        match Flag.ofName? a, rest with
        | none, _ => .error ("Unrecognized argument: " ++ a ++ "\n")
        | some _, [] => .error ("No value provided for option '" ++ a ++ "'.\n")
        | some f, v :: rest' =>
          match o.fill f v with
          | .error e => .error ("Error parsing option '" ++ a ++ "' with value '" ++ v ++ "': " ++ e ++ "\n")
          | .ok o' => readArgs help ended o' rest'
    else .error ("Unrecognized argument: " ++ a ++ "\n")

-- ---------------------------------------------------------------------------
-- Sessions
-- ---------------------------------------------------------------------------

/-- A failure of a step, with the step as context and the failure as its cause. -/
def failure (context cause : String) : Session :=
  ⟨1, "", "Error: " ++ context ++ "\n\nCaused by:\n    " ++ cause ++ "\n"⟩

/-- Runs the report for the given settings on a program text. -/
def answer (settings : Settings) (text : String) : Session :=
  match Program.parse text with
  | .error f => failure "failed to parse program" f.message
  | .ok p =>
    match Report.solve p settings.parts with
    | .error f => failure "failed to repair the program" f.message
    | .ok r => ⟨0, r.render settings.format, ""⟩

/-- The first part of a session: the command line either ends it at once, with the usage
text or a complaint, or gives the settings to run with. -/
def start (args : List String) : Except Session Settings :=
  match readArgs false false {} args with
  | .error msg => .error ⟨1, "", msg ++ "\nRun handheld --help for more information.\n"⟩
  | .ok .help => .error ⟨0, usage ++ "\n", ""⟩
  | .ok (.run o) => .ok o.toSettings

/-- The rest of a session, given the program text or why it could not be read. -/
def finish (settings : Settings) (input : Except String String) : Session :=
  match input with
  | .ok text => answer settings text
  | .error e =>
    match settings.inputPath with
    | some path => failure ("failed to read " ++ path) e
    | none => failure "failed to read stdin" e

/-- A whole session: the command line, then the program from the input file or from standard
input, then the report. -/
def session (files : Files) (args : List String) (stdin : String) : Session :=
  match start args with
  | .error s => s
  | .ok settings =>
    finish settings (match settings.inputPath with
      | none => .ok stdin
      | some path => files path)

end BootCode.Console
