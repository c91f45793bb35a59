import SpriteStage.Actor
import SpriteStage.Geometry.Distance

/-!
# Collisions

Two actors collide when their centres are closer than a given distance. A colliding pair trades
programs and both start over. Within one tick an actor takes part in at most one trade: `busy`
holds the actors that already traded.
-/

namespace SpriteStage

/-- Two actors without order, the smaller identifier first. -/
@[ext] structure ActorPair where
  first : ActorId
  second : ActorId
  first_le : first ≤ second
deriving DecidableEq

namespace ActorPair

/-- The pair of two actors, in either order. -/
def of (a b : ActorId) : ActorPair :=
  if h : a ≤ b then ⟨a, b, h⟩
  else ⟨b, a, Nat.le_of_lt (Nat.lt_of_not_le h)⟩

def involves (pair : ActorPair) (id : ActorId) : Bool := pair.first = id || pair.second = id

end ActorPair

def Actor.near (distance : Float) (a b : Actor) : Bool :=
  decide (hypotenuse (a.x - b.x) (a.y - b.y) < distance)

/-- All colliding pairs, each earlier actor with every later one in turn. -/
def collidingPairs (distance : Float) : List Actor → List ActorPair
  | [] => []
  | a :: rest =>
    ((rest.filter (a.near distance)).map fun b => ActorPair.of a.id b.id)
      ++ collidingPairs distance rest

/-- Keeps the pairs whose actors are both free, making them busy on the way. -/
def selectSwaps (busy : IdSet) : List ActorPair → List ActorPair × IdSet
  | [] => ([], busy)
  | pair :: rest =>
    if pair.first ∈ busy ∨ pair.second ∈ busy then selectSwaps busy rest
    else
      let (selected, busy) := selectSwaps ((busy.insert pair.first).insert pair.second) rest
      (pair :: selected, busy)

def locatePair (actors : List Actor) (a b : ActorId) : Option (Nat × Nat) := do
  let i ← actors.findIdx? (·.id == a)
  let j ← actors.findIdx? (·.id == b)
  if i = j then none else some (i, j)

/-- Trades the programs of two actors. Both start over without a bubble; the timers of their
bubbles are disarmed. -/
def tradePrograms (a b : Actor) (timers : TimerQueue) : Actor × Actor × TimerQueue :=
  ({ a.rewound with program := b.program }, { b.rewound with program := a.program },
    (timers.cancel? a.bubbleTimer).cancel? b.bubbleTimer)

/-- Trades the programs of two actors of a list, if both are there and differ. -/
def tradeIn? (actors : List Actor) (timers : TimerQueue) (a b : ActorId) :
    Option (List Actor × TimerQueue) := do
  let (i, j) ← locatePair actors a b
  let first ← actors[i]?
  let second ← actors[j]?
  let (first, second, timers) := tradePrograms first second timers
  return ((actors.set i first).set j second, timers)

/-- What resolving the collisions of a list of actors leaves behind. -/
structure Resolution where
  swaps : List ActorPair
  actors : List Actor
  busy : IdSet
  timers : TimerQueue

/-- Finds the colliding pairs, keeps those whose actors are free, and trades their programs. -/
def resolveCollisions (distance : Float) (actors : List Actor) (busy : IdSet)
    (timers : TimerQueue) : Resolution :=
  let (swaps, busy) := selectSwaps busy (collidingPairs distance actors)
  let (actors, timers) := swaps.foldl
    (fun (actors, timers) pair =>
      (tradeIn? actors timers pair.first pair.second).getD (actors, timers))
    (actors, timers)
  ⟨swaps, actors, busy, timers⟩

end SpriteStage
