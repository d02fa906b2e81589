import Concentrator.Program.Basic

/-!
# The command

Runs the program on a device and on networks in memory. Orders come from the
standard input, reports go to the standard output and notices to the standard
error. Time passes as it does outside.
-/

namespace Concentrator.Main

/-- The contents of a file, if it can be read. -/
def contents (path : String) : IO (Option Bytes) := do
  try
    let data ← IO.FS.readBinFile path
    return some data.toList
  catch _ => return none

/-- The contents of the file that a command line names. -/
def settingsFile (line : List String) : IO (Option Bytes) := do
  match CommandLine.parse line with
  | .ok a =>
    match a.config with
    | some path => contents path
    | none => return none
  | .error _ => return none

/-- Shows what has come out of the program. -/
def showOutput (p : Program) : IO Unit := do
  for n in p.gateway.notices do
    if n.level.isProminent then IO.eprintln n.line
  for text in p.printed do
    IO.println text

/-- Follows the lines of the standard input until the program is over or there are no more. -/
partial def serve (input : IO.FS.Stream) (since : Nat) (p : Program) : IO Unit := do
  showOutput p
  if ¬ p.running then return
  let line ← input.getLine
  let now ← IO.monoMsNow
  let p := p.drained.advance (now - since)
  if line.isEmpty then showOutput p.endOfLines.interrupt
  else serve input now (p.line line)

def complain : Ending → IO UInt32
  | .done => return 0
  | .usage .displayHelp | .usage .displayVersion => return 0
  | .usage _ => do
    IO.eprintln "error: invalid command line"
    return 2
  | .failed attempt reason => do
    IO.eprintln ("Error: " ++ attempt)
    for text in reason do
      IO.eprintln ("Caused by: " ++ text)
    return 1
  | .aborted => return 101

def run (line : List String) : IO UInt32 := do
  let file ← settingsFile line
  let launched := do
    let c ← Launch.configuration line fun _ => file
    let device ← Launch.device c true
    Program.launch c device {}
  match launched with
  | .error e => complain e
  | .ok p =>
    serve (← IO.getStdin) (← IO.monoMsNow) p
    return 0

end Concentrator.Main

def main (line : List String) : IO UInt32 := Concentrator.Main.run line
