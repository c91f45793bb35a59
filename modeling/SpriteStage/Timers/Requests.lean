import SpriteStage.Timers

/-!
# Requests to the timer queue

What can be asked of a timer queue, as data, with one function that serves it. A log holds the requests of a
run with their answers.
-/

namespace SpriteStage

inductive TimerRequest where
  | arm (actor : ActorId) (kind : BubbleKind) (deadline : Duration)
  | cancel (handle : Nat)
  | cancelActor (actor : ActorId)
  | clear
  | popDue (now : Duration)
deriving DecidableEq

inductive TimerAnswer where
  | armed (handle : Nat)
  /-- Whether there was a timer to cancel. -/
  | cancelled (found : Bool)
  | done
  | popped (timer : Option BubbleTimer)
deriving DecidableEq

/-- A request with its answer. -/
structure TimerEntry where
  request : TimerRequest
  answer : TimerAnswer
deriving DecidableEq

namespace TimerQueue

def serve (queue : TimerQueue) : TimerRequest → TimerAnswer × TimerQueue
  | .arm actor kind deadline =>
    let (handle, queue) := queue.arm actor kind deadline
    (.armed handle, queue)
  | .cancel handle =>
    let left := queue.cancel handle
    (.cancelled (left.size != queue.size), left)
  | .cancelActor actor => (.done, queue.cancelActor actor)
  | .clear => (.done, queue.clear)
  | .popDue now =>
    match queue.popDue now with
    | none => (.popped none, queue)
    | some (timer, rest) => (.popped (some timer), rest)

/-- Serves requests one after another. -/
def serveAll (queue : TimerQueue) : List TimerRequest → List TimerEntry × TimerQueue
  | [] => ([], queue)
  | request :: rest =>
    let (answer, served) := queue.serve request
    let (log, last) := served.serveAll rest
    (⟨request, answer⟩ :: log, last)

/-- Pops timers until none is due any more. -/
def drain (now : Duration) (queue : TimerQueue) : List BubbleTimer × TimerQueue :=
  match _popped : queue.popDue now with
  | none => ([], queue)
  | some (timer, rest) =>
    let (timers, last) := drain now rest
    (timer :: timers, last)
termination_by queue.size
decreasing_by
  have := size_of_popDue _popped
  omega

end TimerQueue

end SpriteStage
