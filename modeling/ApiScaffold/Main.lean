import ApiScaffold.CommandLine.Run

/-!
# The program

The command line on the files of the system.  Documents behind URLs are out of its reach.
-/

namespace ApiScaffold

/-- The fault behind an error of the system. -/
def faultOf : IO.Error → FileFault
  | .noFileOrDirectory .. => .notFound
  | .alreadyExists .. => .alreadyThere
  | .inappropriateType _ code _ => if code = 20 then .notFolder else .isFolder
  | e => .other (toString e)

/-- The result of a step, with its error as a fault. -/
def guarded {α : Type} (step : IO α) : IO (Except FileFault α) := do
  try return .ok (← step) catch e => return .error (faultOf e)

/-- Whether a path leads to a folder. -/
def leadsToFolder (path : String) : IO Bool := do
  try
    let real ← IO.FS.realPath path
    real.isDir
  catch _ => return false

/-- What one kind of user may do with a file, from three permission bits. -/
def rightsOf (bits : Nat) : IO.AccessRight :=
  { read := bits.testBit 2, write := bits.testBit 1, execution := bits.testBit 0 }

/-- Sets the permission bits of the file at a path. -/
def setPermissions (path : String) (mode : Nat) : IO Unit :=
  IO.setAccessRights path
    { user := rightsOf (mode / 64), group := rightsOf (mode / 8), other := rightsOf mode }

/-- The files of the system. -/
def systemAccess : Access IO where
  read path := guarded do return (← IO.FS.readBinFile path).toList
  isFolder := leadsToFolder
  makeFolder path := guarded (IO.FS.createDir path)
  write path content := guarded (IO.FS.writeBinFile path ⟨content.toArray⟩)
  setMode path mode := guarded (setPermissions path mode)
  fetch _ := return .error "no connection"

end ApiScaffold

open ApiScaffold CommandLine in
/-- Runs a command line, prints what it has to say, and ends with its code. -/
def main (arguments : List String) : IO UInt32 := do
  let outcome ← runCommandLine systemAccess arguments
  IO.print outcome.output
  if let some report := outcome.report then IO.eprint report
  if outcome.code = 2 then IO.eprint (helpText .program)
  return outcome.code.toUInt32
