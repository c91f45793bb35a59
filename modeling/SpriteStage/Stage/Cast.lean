import SpriteStage.Stage

/-!
# The cast

Actors join and leave the stage, are selected, renamed and moved. An actor that joins is held
inside the bounds and starts over; one that leaves takes its timers and its place on the schedule
with it.
-/

namespace SpriteStage

/-- A number one past the largest one in use; past the last number the smallest free one, and zero
when none is free. -/
def freshId (actors : List Actor) : ActorId :=
  let used := actors.map (·.id.number)
  match used.max? with
  | none => ⟨1, by decide⟩
  | some largest =>
    if h : largest + 1 ≤ maxActorNumber then ⟨largest + 1, h⟩
    else
      let free := (List.range' 1 (used.length + 1)).find? fun n => !used.contains n
      (free.bind ActorId.ofNat?).getD ⟨0, by decide⟩

namespace Stage

/-- Puts an actor on the stage. The first one becomes the active one. -/
def place (stage : Stage) (actor : Actor) : Except Fault (Outcome ActorId) := do
  let (x, y) ← stage.bounds.clamp actor.x actor.y
  let placed : Actor := { actor.rewound with x, y, heading := normalizeHeading actor.heading }
  let stage := { stage with
    actors := stage.actors ++ [placed]
    active := stage.active <|> some actor.id }
  return stage.outcome actor.id [.actorAdded actor.id]

def placeAll (stage : Stage) (actors : List Actor) : Except Fault Stage :=
  actors.foldlM (fun stage actor => do return (← stage.place actor).stage) stage

/-- Adds a sprite with a fresh identifier and selects it. -/
def addActor (stage : Stage) : Except Fault (Outcome ActorId) := do
  let id := freshId stage.actors
  let added ← stage.place { id := id, name := s!"Sprite {id}" }
  return { added with stage := { added.stage with active := some id } }

/-- Adds a prepared actor. An identifier in use is refused, then a nested repeat. -/
def insertActor (stage : Stage) (actor : Actor) : Attempt (Outcome ActorId) := do
  if (stage.actor? actor.id).isSome then stage.refuse (.duplicateActor actor.id)
  actor.program.forM fun command => stage.check command.validate
  sound (stage.place actor)

/-- Takes an actor off the stage. If it was the active one, the first actor takes over. -/
def removeActor (stage : Stage) (id : ActorId) : Attempt (Outcome Actor) := do
  let actor ← stage.require id
  let actors := stage.actors.eraseP (·.id == id)
  let removed := { stage with
    actors := actors
    active := if stage.active = some id then actors.head?.map Actor.id else stage.active
    timers := stage.timers.cancelActor id
    playback := stage.playback.unschedule id }
  let (finished, events) := removed.finishIfDrained
  return finished.outcome actor (.actorRemoved id :: events)

/-- Selects the actor for editing; this is no change that observers are told about. -/
def setActive (stage : Stage) (id : ActorId) : Attempt (Outcome Unit) := do
  let _ ← stage.require id
  return { stage with active := some id }.outcome () []

def update (stage : Stage) (id : ActorId) (change : Actor → Actor) : Outcome Unit :=
  (stage.modify id change).outcome () [.actorUpdated id]

def rename (stage : Stage) (id : ActorId) (name : String) : Attempt (Outcome Unit) := do
  let _ ← stage.require id
  return stage.update id fun actor => { actor with name }

def setPosition (stage : Stage) (id : ActorId) (x y : Float) : Attempt (Outcome Unit) := do
  let _ ← stage.require id
  let (x, y) ← sound (stage.bounds.clamp x y)
  return stage.update id fun actor => { actor with x, y }

def setHeading (stage : Stage) (id : ActorId) (degrees : Int) : Attempt (Outcome Unit) := do
  let _ ← stage.require id
  return stage.update id fun actor => { actor with heading := normalizeHeading degrees }

def subscribe (stage : Stage) : Outcome Nat :=
  let number := stage.registrations + 1
  { stage with
    observers := stage.observers ++ [number]
    registrations := number }.outcome number []

/-- Takes an observer out; answers whether it was registered. -/
def unsubscribe (stage : Stage) (number : Nat) : Outcome Bool :=
  { stage with observers := stage.observers.filter (· ≠ number) }.outcome
    (stage.observers.contains number) []

end Stage

/-- Two sprites that walk towards each other. -/
def defaultCast : List Actor :=
  [{ id := ⟨1, by decide⟩, name := "Cat 1", x := -200, y := 0
     program := [.repeatTimes 40 [.move 10]] },
   { id := ⟨2, by decide⟩, name := "Cat 2", x := 200, y := 0
     program := [.repeatTimes 40 [.move (-10)]] }]

end SpriteStage
