import HartTimeline.Command

/-!
# The program

The outer layer: reads the files that an invocation names, lets the library work out what is to be
done, does it, and prints.
-/

namespace HartTimeline.Program

/-- A system error in the library's terms. -/
def faultOf : IO.Error → FileFault
  | .noFileOrDirectory .. => .notFound
  | .alreadyExists .. => .alreadyExists
  | .inappropriateType _ code _ => if code = 21 then .isDirectory else .notDirectory
  | error => .other (toString error).toList

/-- An action's result with a system error as a fault. -/
def attempt {α : Type} (act : IO α) : IO (Except FileFault α) := do
  match ← act.toBaseIO with
  | .ok a => pure (.ok a)
  | .error error => pure (.error (faultOf error))

/-- The text of a file. -/
def readFile (path : Text) : IO (Except FileFault Text) := do
  match ← attempt (IO.FS.readBinFile (String.ofList path)) with
  | .error fault => pure (.error fault)
  | .ok bytes =>
    match Content.ofBytes bytes with
    | .text t => pure (.ok t)
    | .bytes _ => pure (.error .notText)

/-- The files that an invocation names, read in advance. -/
def readInputs (inv : Invocation) : IO FileReader := do
  let paths := inv.config?.toList ++ inv.transcript?.toList ++ [inv.log]
  let contents ← paths.mapM fun path => do pure (path, ← readFile path)
  pure fun path => (contents.lookup path).getD (.error .notFound)

/-- One action on the files of the system. -/
def perform : FileAction → IO (Except FileFault Unit)
  | .makePath path =>
    if path.isEmpty then pure (.ok ()) else attempt (IO.FS.createDirAll (String.ofList path))
  | .write path text => attempt (IO.FS.writeFile (String.ofList path) (String.ofList text))

/-- Actions one after another, up to the first that fails. -/
def performAll : List FileAction → IO (Except FileFault Unit)
  | [] => pure (.ok ())
  | action :: rest => do
    match ← perform action with
    | .error fault => pure (.error fault)
    | .ok () => performAll rest

/-- Texts on standard error, each on a line. -/
def tell (lines : List Text) : IO Unit :=
  lines.forM fun line => IO.eprintln (String.ofList line)

/-- The exit status of a failure, once it has been reported. -/
def fail (fault : CommandFault) : IO UInt32 := do
  tell fault.report
  pure 1

/-- An invocation, carried out. -/
def run (inv : Invocation) : IO UInt32 := do
  let reading := LogFilter.reader inv.debug ((← IO.getEnv "RUST_LOG").map String.toList)
  tell reading.complaints
  match reading.shows? with
  | none => pure LogReading.endedStatus.toUInt32
  | some shows =>
    let prepared := inv.prepare (← readInputs inv)
    tell (LogEvent.linesOf shows prepared.events)
    match prepared.result with
    | .error fault => fail fault
    | .ok p =>
      let directory := p.options.outputDir
      match ← performAll (p.report.timeline.actions directory) with
      | .error cause => fail (.unwritten directory cause)
      | .ok () =>
        let files := p.report.timeline.files directory
        tell (LogEvent.linesOf shows [.streamsWritten directory files.length])
        IO.print (String.ofList (inv.output p))
        pure 0

/-- The program with its arguments. -/
def start (args : List String) : IO UInt32 := do
  match Invocation.ofArguments (args.map String.toList) with
  | .ok inv => run inv
  | .error fault =>
    IO.print (String.ofList fault.output)
    tell fault.report
    pure fault.status.toUInt32

end HartTimeline.Program

/-- The entry point. -/
def main (args : List String) : IO UInt32 :=
  HartTimeline.Program.start args
