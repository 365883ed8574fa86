import Std.Time.DateTime.Timestamp
import TransparencyLog.Command.Program
import TransparencyLog.Command.Reach
import TransparencyLog.Command.Screen
import TransparencyLog.Journal.TimeStamp

namespace TransparencyLog.Main

def pathOf (place : Place) : String :=
  match place with
  | [] => "."
  | "/" :: rest => "/" ++ String.intercalate "/" rest
  | place => String.intercalate "/" place

def look (place : Place) : IO (Option FileNode) := do
  let path := (← IO.currentDir) / pathOf place
  if ← path.isDir then return some .directory
  else if ← path.pathExists then return some (.file (← IO.FS.readBinFile path).toList)
  else return none

def snapshot (places : List Place) : IO FileTree := do
  let nodes ← places.filterMapM fun place => do
    return (← look place).map fun node => (place, node)
  return ⟨nodes⟩

def commit (change : FileTree.Change) : IO Unit := do
  let path := pathOf change.place
  match change.node with
  | some .directory => IO.FS.createDir path
  | some (.file octets) =>
      let draft := path ++ ".new"
      IO.FS.writeBinFile draft ⟨octets.toArray⟩
      IO.FS.rename draft path
  | none => IO.FS.removeFile path

/-- The variables of the process; the accounts of the machine are not asked for a home directory. -/
def environment : IO Environment := do
  let bindings ← Settings.variableNames.filterMapM fun name => do
    return (← IO.getEnv name).map fun value => (name, value)
  return ⟨bindings, none⟩

def report (outcome : Command.Outcome) : IO Unit := do
  let seconds := (← Std.Time.Timestamp.now).toSecondsSinceUnixEpoch.val.toNat
  for entry in outcome.shown do
    IO.eprintln (outcome.setup.line (Journal.timeStamp seconds) entry)
  IO.print outcome.output
  match outcome.ending with
  | .exit _ => return ()
  | .broken breakdown => IO.eprintln breakdown.message

end TransparencyLog.Main

open TransparencyLog in
def main (arguments : List String) : IO UInt32 := do
  let entropy := (← IO.getRandomBytes 64).toList
  let request : Command.Request := ⟨arguments, ← Main.environment, entropy⟩
  let files ← Main.snapshot request.places
  let outcome := Command.run .standard .standard request files Tally.zero
  (files.changes outcome.files).forM Main.commit
  Main.report outcome
  return outcome.ending.code.toUInt32
