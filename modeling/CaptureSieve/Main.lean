import CaptureSieve.Command

/-!
The command itself: reads standard input and files, runs, and tells.
-/

namespace CaptureSieve.Command

partial def readAll (input : IO.FS.Stream) (front : ByteArray) : IO ByteArray := do
  let piece ← input.read 65536
  if piece.isEmpty then return front else readAll input (front ++ piece)

def streamOf (read : IO ByteArray) : IO ByteStream := do
  try
    return .ofBytes (← read).toList
  catch e => return .unreadable (toString e)

def fileOf (path : String) : IO (Option ByteStream) := do
  try
    return some (.ofBytes (← IO.FS.readBinFile path).toList)
  catch _ => return none

def environment (arguments : List String) : IO Environment := do
  match Options.ofArguments arguments with
  | .error _ => return ⟨.ofBytes [], fun _ => none, .unbounded⟩
  | .ok options =>
    let dns ← match options.dns with
      | none => pure none
      | some path => fileOf path
    let stdin ← streamOf (do readAll (← IO.getStdin) .empty)
    return ⟨stdin, fun _ => dns.map .ok, .unbounded⟩

end CaptureSieve.Command

open CaptureSieve in
def main (arguments : List String) : IO UInt32 := do
  let outcome := Command.run arguments (← Command.environment arguments)
  let stdout ← IO.getStdout
  stdout.write ⟨outcome.stdout.toArray⟩
  stdout.flush
  for line in outcome.report do
    IO.eprintln line
  return UInt32.ofNat outcome.exitCode
