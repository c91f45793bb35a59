import SpriteStage.Command
import SpriteStage.Fault
import SpriteStage.Table

/-!
# Program cursors

A cursor marks how far a program has run. `loops` and `nested` hold, for each repeat block that is
running, the passes left and the next command of its body. Moving between commands is free: the
cursor settles on a command that can be carried out before and after every step.
-/

namespace SpriteStage

/-- A place inside a program. -/
@[ext] structure Cursor where
  /-- Index of the next top-level command. -/
  pc : Nat := 0
  /-- Passes left of each running repeat. -/
  loops : Table Int := ∅
  /-- Next body index of each running repeat. -/
  nested : Table Nat := ∅

namespace Cursor

def start : Cursor := {}

/-- Whether a cursor stands at the start and no repeat is running. -/
def isReset (cursor : Cursor) : Bool :=
  cursor.pc == 0 && cursor.loops.isEmpty && cursor.nested.isEmpty

def exitLoop (cursor : Cursor) (index : Nat) : Cursor :=
  { cursor with loops := cursor.loops.erase index, nested := cursor.nested.erase index }

/-- Follows the removal of the command at an index. -/
def commandRemoved (cursor : Cursor) (index : Nat) : Cursor where
  pc := if index < cursor.pc then cursor.pc - 1 else cursor.pc
  loops := cursor.loops.closeGap index
  nested := cursor.nested.closeGap index

def leave (cursor : Cursor) : Cursor :=
  { cursor.exitLoop cursor.pc with pc := cursor.pc + 1 }

/-- Stays on the repeat the cursor stands on if it has a command left to run, at the start of the
next pass if the current one is over. -/
def stay? (cursor : Cursor) (count : Int) (body : List Command) : Option Cursor :=
  let passes := (cursor.loops.get? cursor.pc).getD count
  let next := (cursor.nested.get? cursor.pc).getD 0
  if 0 < passes ∧ body ≠ [] then
    if next < body.length then some cursor
    else if 1 < passes then
      some { cursor with
        loops := cursor.loops.insert cursor.pc (passes - 1)
        nested := cursor.nested.insert cursor.pc 0 }
    else none
  else none

/-- Moves past every transition that costs no step: onto a plain command, onto a repeat with a
command left to run, or to the end of the program. -/
def settle (program : List Command) (cursor : Cursor) : Cursor :=
  if h : cursor.pc < program.length then
    match program[cursor.pc] with
    | .repeatTimes count body =>
      match cursor.stay? count body with
      | some stayed => stayed
      | none => settle program cursor.leave
    | _ => cursor
  else cursor
termination_by program.length - cursor.pc
decreasing_by
  show program.length - (cursor.pc + 1) < program.length - cursor.pc
  omega

/-- The command to carry out at the one the cursor stands on, and the cursor behind it. Inside a
repeat the cursor notes the passes left on the first step and moves along the body. -/
def fetch (cursor : Cursor) : Command → Except Fault (Command × Cursor)
  | .repeatTimes count body =>
    let next := (cursor.nested.get? cursor.pc).getD 0
    match body[next]? with
    | none => .error .bodyExhausted
    | some command =>
      .ok (command, { cursor with
        loops := cursor.loops.insert cursor.pc ((cursor.loops.get? cursor.pc).getD count)
        nested := cursor.nested.insert cursor.pc (next + 1) })
  | command => .ok (command, { cursor with pc := cursor.pc + 1 })

end Cursor

end SpriteStage
