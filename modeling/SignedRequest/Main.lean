import SignedRequest.CommandLine.Run
import Std.Time.DateTime.Timestamp

/-!
The command line tool.
-/

namespace SignedRequest.CommandLine

def readFile? (path : String) : IO (Option Bytes) := do
  try
    return some (← IO.FS.readBinFile path).toList
  catch _ => return none

def drawNumbers (count size : Nat) : IO (List Nat) :=
  (List.replicate count ()).mapM fun _ => do
    return Bytes.toNat (← IO.getRandomBytes size.toUSize).toList

/-- Draws for one signature. A curve takes the first number below its order. The wide numbers come
first and are nearly all below the larger order and above the smaller one, so that either curve
takes a number as wide as its own. -/
def drawAtRandom : IO Draws := do
  let nonce ← IO.getRandomBytes 16
  let wide ← drawNumbers 8 Curve.p384.size
  let narrow ← drawNumbers 8 Curve.p256.size
  return ⟨nonce.toList, wide ++ narrow⟩

def readClock : IO (Option Instant) := do
  let now ← Std.Time.Timestamp.now
  return Instant.ofNanos? now.toNanosecondsSinceUnixEpoch.val

end SignedRequest.CommandLine

open SignedRequest

def main (arguments : List String) : IO UInt32 := do
  let paths :=
    match CommandLine.Command.ofArguments arguments with
    | .ok command => command.paths
    | .error _ => []
  let files ← paths.mapM fun path => return (path, ← CommandLine.readFile? path)
  let surroundings : CommandLine.Surroundings :=
    { file? := fun path => (files.lookup path).join
      now := ← CommandLine.readClock
      draws := ← CommandLine.drawAtRandom }
  let report := CommandLine.respond surroundings arguments
  for line in report.lines do
    IO.println line
  for line in report.complaints do
    IO.eprintln line
  return report.exitCode
