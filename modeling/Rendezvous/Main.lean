import Rendezvous.Program

/-!
The program on a host. A server serves one client, over its standard input and output; whoever
listens on the network starts one for each.
-/

namespace Rendezvous

def readFile? (path : String) : IO (Option (String × List UInt8)) := do
  try
    let content ← IO.FS.readBinFile path
    return some (path, content.toList)
  catch _ => return none

def runtimeDirectory : IO String := do
  match ← IO.getEnv "XDG_RUNTIME_DIR" with
  | some directory => if directory.isEmpty then return "/tmp" else return directory
  | none => return "/tmp"

def hostOf (directory : String) (files : List (String × List UInt8)) : Host where
  file? path := files.lookup path
  admits _ _ := true
  sockets := { directory := directory }

def surveyHost (args : List String) : IO Host := do
  let directory ← runtimeDirectory
  let first ← (Program.wanted (hostOf directory []) args).filterMapM readFile?
  let second ← (Program.wanted (hostOf directory first) args).filterMapM readFile?
  return hostOf directory second

partial def converse (input output : IO.FS.Stream) (v : ConnectionId) (hub : Hub)
    (unsent : List UInt8) (since : Nat) : IO Unit := do
  let now ← IO.monoMsNow
  let (unsent, hub) := (hub.passTime (now - since)).clientWrite v unsent
  let (octets, hub) := hub.settle.clientRead v
  output.write (ByteArray.mk octets.toArray)
  output.flush
  if hub.isOver v then return
  if octets.isEmpty && unsent.isEmpty then
    let chunk ← input.read 1024
    let hub := if chunk.isEmpty then hub.clientFinish v else hub
    converse input output v hub chunk.toList now
  else converse input output v hub unsent now

end Rendezvous

open Rendezvous

def main (args : List String) : IO UInt32 := do
  match (Program.run (← surveyHost args) args).1 with
  | .ended e =>
    IO.print e.output
    IO.eprint e.errors
    return UInt32.ofNat e.code
  | .serving server =>
    let (v, hub) := server.hub.connect .plain
    converse (← IO.getStdin) (← IO.getStdout) v hub [] (← IO.monoMsNow)
    return 0
