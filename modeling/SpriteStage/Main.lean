import SpriteStage.CommandLine

/-!
# The program

Reads the configuration file, prints the reply, and lets real time pass for a drive.
-/

open SpriteStage

namespace SpriteStage.CommandLine

/-- The bytes of a file, if it can be read. -/
def contents? (path : String) : IO (Option ByteArray) := do
  try
    return some (← IO.FS.readBinFile path)
  catch _ =>
    return none

def printReply (reply : Reply) : IO UInt32 := do
  for line in reply.lines do
    IO.println line
  return reply.exit.toUInt32

/-- Feeds real time to a drive, a frame at a time, until it is over. -/
partial def pace (last : Nat) (drive : Drive) : IO Reply := do
  let now ← IO.monoNanosNow
  match drive.feed ((Duration.ofNanos? (now - last)).getD .last) with
  | .error _ => return .broken []
  | .ok fed =>
    match fed.exit? with
    | some _ => return { lines := closingLines fed }
    | none =>
      IO.sleep 50
      pace now fed

end SpriteStage.CommandLine

open SpriteStage.CommandLine in
def main (arguments : List String) : IO UInt32 := do
  match parse arguments with
  | .error noRequest =>
    let program := (← IO.appPath).fileName.getD "sprite-stage"
    printReply (noRequest.reply program)
  | .ok invocation =>
    let contents ← match invocation.file with
      | some path => contents? path
      | none => pure none
    match Invocation.config invocation contents with
    | .error error =>
      IO.eprintln error.message
      printReply .failure
    | .ok config =>
      match invocation.request with
      | .run seconds =>
        match openingDrive config seconds with
        | .error _ => printReply (.broken [])
        | .ok drive => printReply (← pace (← IO.monoNanosNow) drive)
      | request => printReply (respond config request)
