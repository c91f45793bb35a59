import SpriteStage.Stage.Clock

/-!
# Driving a stage

A drive feeds time to a stage in frames: at the start, and then again after each frame length. It
returns at the first frame that leaves the stage quiescent or reaches the limit; quiescence goes
first. A drive may go on for ever, so running it takes a number of frames to run at most, and can be
continued where it paused.
-/

namespace SpriteStage

inductive DriveExit where
  | quiescent
  | timedOut
deriving DecidableEq, Repr

structure Drive where
  stage : Stage
  /-- Nanoseconds after which the drive returns in any case. -/
  limit : Option Duration := none
  spent : Nat := 0
  frames : Nat := 0
  notices : Array Notice := #[]
  reports : Array TickReport := #[]

namespace Drive

def defaultFrame : Duration := Duration.ofMillis 50

/-- The frame length that is used when one is asked for: a millisecond at least. -/
def frameLength (asked : Option Duration) : Duration :=
  match asked with
  | none => defaultFrame
  | some frame => (Duration.ofMillis 1).later frame

/-- Whether the drive is over, and why. -/
def exit? (drive : Drive) : Option DriveExit :=
  if drive.stage.isQuiescent then some .quiescent
  else if drive.limit.any fun limit => limit.nanos ≤ drive.spent then some .timedOut
  else none

/-- Runs one frame, which is `elapsed` behind the frame before. -/
def feed (drive : Drive) (elapsed : Duration) : Except Fault Drive := do
  let moved ← drive.stage.advanceTime elapsed
  return { drive with
    stage := moved.stage
    spent := drive.spent + elapsed.nanos
    frames := drive.frames + 1
    notices := drive.notices ++ moved.notices.toArray
    reports := drive.reports ++ moved.value.toArray }

/-- Runs frames until the drive is over, at most `budget` of them. The first frame comes at once.
Without an exit the budget was used up. -/
def run (frame : Duration) : Nat → Drive → Except Fault (Drive × Option DriveExit)
  | 0, drive => .ok (drive, none)
  | budget + 1, drive => do
    let fed ← drive.feed (if drive.frames = 0 then .zero else frame)
    match fed.exit? with
    | some exit => return (fed, some exit)
    | none => run frame budget fed

end Drive

end SpriteStage
