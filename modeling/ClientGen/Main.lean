import ClientGen.CommandLine

/-!
# The program

The command line over the real file system. Events that matter enough are shown on standard error.
-/

namespace ClientGen

/-! ## The real file system -/

/-- The number of a failure. Some operations give it with its sign turned round. -/
def failureNumber (code : UInt32) : Nat :=
  min code.toNat (UInt32.size - code.toNat)

/-- Why the system refuses. -/
def FileFailure.ofSystem : IO.Error → FileFailure
  | .noFileOrDirectory .. => .notFound
  | .alreadyExists .. => .alreadyExists
  | .permissionDenied .. => .permissionDenied
  | .resourceBusy .. => .busy
  | .inappropriateType _ code _ =>
    if failureNumber code = 21 then .isADirectory else .notADirectory
  | .invalidArgument _ code text =>
    if failureNumber code = 36 then .nameTooLong else .other text
  | e => .other (toString e)

/-- Work of a program that was told how much to report. -/
abbrev Terminal := ReaderT Nat IO

/-- An action whose failure is one of the file system. -/
def attempt {α : Type} (action : IO α) : Terminal (Except FileFailure α) := do
  match ← action.toBaseIO with
  | .ok a => return .ok a
  | .error e => return .error (.ofSystem e)

/-- The verbosity from which on events of a level are shown. -/
def Level.threshold : Level → Nat
  | .warn => 0
  | .info => 1
  | .debug => 2

/-- The name of a level. -/
def Level.label : Level → String
  | .warn => "WARN"
  | .info => "INFO"
  | .debug => "DEBUG"

/-- The particulars of an event, as they are shown. -/
def Event.Value.shown : Event.Value → String
  | .text value => Text.quoted value
  | .count value => toString value

/-- An event on one line. -/
def Event.line (e : Event) : String :=
  " ".intercalate <|
    e.level.label :: e.message :: e.fields.map fun (name, value) => name ++ "=" ++ value.shown

instance : Files Terminal where
  makeDirectory path := attempt (IO.FS.createDir path)
  isDirectory path := do
    match ← (System.mkFilePath [path]).metadata.toBaseIO with
    | .ok found => return (found.type matches .dir)
    | .error _ => return false
  readFile path := attempt (IO.FS.readBinFile path)
  writeFile path text := attempt (IO.FS.writeFile path text)
  rename source target := attempt (IO.FS.rename source target)
  report event := do
    if event.level.threshold ≤ (← read) then IO.eprintln event.line

end ClientGen

open ClientGen in
/-- Runs the command line. -/
def main (arguments : List String) : IO UInt32 := do
  let verbosity := match CommandLine.read arguments with
    | some (.run o) => o.verbosity
    | _ => 0
  let report ← (CommandLine.run arguments : Terminal CommandLine.Report).run verbosity
  IO.print report.output
  if let some complaint := report.complaint then IO.eprintln complaint
  return report.code.toUInt32
