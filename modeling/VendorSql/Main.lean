import VendorSql.Execution

/-!
# The program

Runs the command that the arguments describe on the files of the disk, prints what it has written,
and ends with 0, with 1 if there was a warning, and with 2 if the command failed.
-/
namespace VendorSql

/-- Why reading failed, from the failure that the system reports. -/
def readFailure : IO.Error → ReadError
  | .noFileOrDirectory _ _ _ => .notFound
  | .inappropriateType _ _ _ => .notDirectory
  | failure => .other failure.toString

/-- What a path means on the disk. -/
def onDisk (path : String) :=
  ({ root := ".", fileName := path } : IO.FS.DirEntry).path

def diskFiles : Files IO where
  kind path := do
    if path = "" then return none
    let place := onDisk path
    if ← place.isDir then return some .directory
    return if ← place.pathExists then some .file else none
  read path := do
    if path = "" then return .error .notFound
    let place := onDisk path
    if ← place.isDir then return .error .isDirectory
    try
      match String.fromUTF8? (← IO.FS.readBinFile place) with
      | some text => return .ok text
      | none => return .error .notText
    catch failure => return .error (readFailure failure)
  names path := do
    try return (← (onDisk path).readDir).toList.map (·.fileName)
    catch _ => return []
  above := do
    try
      let depth := ((← IO.currentDir).components.filter (· ≠ "")).length
      return .ok ((List.range (depth + 1)).map fun steps =>
        String.join (List.replicate steps "../"))
    catch failure => return .error (readFailure failure)

def Report.print : Report → IO Unit
  | [] => return
  | .result text :: rest => do
    IO.print text
    Report.print rest
  | .aside text :: rest => do
    IO.eprint text
    Report.print rest

/-- Without a parser at hand no statement is found at fault. -/
def acceptAll : StatementParser := fun _ _ => none

end VendorSql

open VendorSql in
def main (arguments : List String) : IO UInt32 := do
  match CommandLine.Invocation.ofArguments? arguments with
  | none =>
    IO.eprintln "error: the arguments are not understood"
    return UInt32.ofNat Execution.failureCode
  | some invocation =>
    let outcome ← Execution.run acceptAll diskFiles invocation
    outcome.report.print
    if let .error failure := outcome.ended then
      IO.eprintln ("Error: " ++ failure.message?.getD "the configuration is not well formed")
    return UInt32.ofNat (Execution.exitCode outcome)
