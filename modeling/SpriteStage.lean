import SpriteStage.ActorId
import SpriteStage.Table
import SpriteStage.Duration.Seconds
import SpriteStage.Decimal.Notation
import SpriteStage.Geometry.Heading
import SpriteStage.Geometry.Bounds
import SpriteStage.Geometry.Distance
import SpriteStage.Command.Patch
import SpriteStage.Stepping
import SpriteStage.Collision
import SpriteStage.Playback
import SpriteStage.Config
import SpriteStage.Config.Document
import SpriteStage.Cursor.Remaining
import SpriteStage.Timers.Requests
import SpriteStage.Stage.Playbill
import SpriteStage.Stage.Reachable
import SpriteStage.Stage.Drive
import SpriteStage.Snapshot
import SpriteStage.Main
import SpriteStage.Proofs.Config.Valid
import SpriteStage.Proofs.Cursor.Settling
import SpriteStage.Proofs.Execution.Effects
import SpriteStage.Proofs.Stepping.Unfolding
import SpriteStage.Proofs.Stage.Touches
import SpriteStage.Proofs.Stage.Ticks
import SpriteStage.Proofs.Stage.Edits
import SpriteStage.Proofs.Clock.Timeline
import SpriteStage.Proofs.Stage.Changes
import SpriteStage.Proofs.Stage.Bubbles
import SpriteStage.Proofs.Stage.Faults
import SpriteStage.Proofs.Clock.Additivity
import SpriteStage.Proofs.Clock.Chronology
import SpriteStage.Proofs.Cursor.Fitting
import SpriteStage.Proofs.Cursor.Editing
import SpriteStage.Proofs.Stage.Acts
import SpriteStage.Proofs.Stage.Announcements
import SpriteStage.Proofs.Stage.Schedule
import SpriteStage.Proofs.Stage.Progress
import SpriteStage.Proofs.Stage.LiveEdits
import SpriteStage.Proofs.Stage.Immediate
import SpriteStage.Proofs.Stage.Refusals
import SpriteStage.Proofs.Stage.Overflow
import SpriteStage.Proofs.Collision.Selection
import SpriteStage.Proofs.Collision.Matching
import SpriteStage.Proofs.Stage.Exchanges
import SpriteStage.Proofs.Stage.SoloTicks
import SpriteStage.Proofs.Stage.SoloRuns
import SpriteStage.Proofs.Geometry.Order
import SpriteStage.Proofs.Stage.Confinement
import SpriteStage.Proofs.Stage.References
import SpriteStage.Proofs.Clock.Drives
import SpriteStage.Proofs.Execution.Renumbering
import SpriteStage.Proofs.Stage.Guises
import SpriteStage.Proofs.Stage.Restarts
import SpriteStage.Proofs.Stage.Turns
import SpriteStage.Proofs.Stage.Playbills
import SpriteStage.Proofs.Command.Patching
import SpriteStage.Proofs.Timers.History
import SpriteStage.Proofs.Clock.Termination
import SpriteStage.Proofs.Stage.Completions
import SpriteStage.Proofs.Cursor.Removal
import SpriteStage.Proofs.Stepping.Turning
import SpriteStage.Proofs.Stage.Answers
import SpriteStage.Proofs.Playback.Scheduler
