import Emend.Diff.Script
/-!
# Compact scripts

A run of added lines can be moved along kept lines that it repeats, and past a
run of removed lines, without a change of what the script does.  Each run of
added lines is moved towards the start as far as it goes, and takes up the runs
of its kind that it meets; then it is moved towards the end in the same way.  So
runs that can be one become one, and stand as far down as they can.

A run of removed lines is moved past runs of added lines alone, so it keeps its
place among the kept lines and takes up the removed lines beside it.

A script is looked at from one of its steps: the steps before it, last one
first, the step, and the steps after it.
-/

namespace Emend.Diff

variable {α : Type} [DecidableEq α]

/-- A script seen from one of its steps. -/
structure Cursor (α : Type) where
  /-- The steps before it, last one first. -/
  before : List (Step α)
  /-- The step. -/
  here : Step α
  /-- The steps after it. -/
  after : List (Step α)

/-- The number of steps and lines of a script. -/
def weight (script : List (Step α)) : Nat :=
  script.foldl (fun n s => n + s.lines.length + 1) 0

/-- Steps with kept lines put before them. -/
def keepFirst (lines : List α) : List (Step α) → List (Step α)
  | ⟨.kept, more⟩ :: rest => ⟨.kept, lines ++ more⟩ :: rest
  | steps => ⟨.kept, lines⟩ :: steps

/-- Steps that come last one first, with kept lines put after them. -/
def keepLast (lines : List α) : List (Step α) → List (Step α)
  | ⟨.kept, more⟩ :: rest => ⟨.kept, more ++ lines⟩ :: rest
  | steps => ⟨.kept, lines⟩ :: steps

/-- The number of lines by which a step can be moved along kept lines, of which
`common` are repeated in it. -/
def Step.play (step : Step α) (common : Nat) : Nat :=
  if step.tag = .added then common else 0

/-- Moves a step towards the start; `fuel` bounds the moves. -/
def moveUp : (fuel : Nat) → Cursor α → Cursor α
  | 0, c => c
  | fuel + 1, c =>
    match c.before with
    | [] => c
    | prev :: before =>
      if prev.tag = c.here.tag then
        moveUp fuel { c with before, here := ⟨c.here.tag, prev.lines ++ c.here.lines⟩ }
      else if prev.tag = .kept then
        let n := c.here.play (commonEnd prev.lines c.here.lines)
        if n = 0 then if prev.lines.isEmpty then moveUp fuel { c with before } else c
        else
          let left := prev.lines.take (prev.lines.length - n)
          let moved := prev.lines.drop (prev.lines.length - n)
          moveUp fuel
            { before := stepOf .kept left ++ before
              here := ⟨c.here.tag, moved ++ c.here.lines.take (c.here.lines.length - n)⟩
              after := keepFirst moved c.after }
      else moveUp fuel { c with before, after := prev :: c.after }

/-- Moves a step towards the end; `fuel` bounds the moves. -/
def moveDown : (fuel : Nat) → Cursor α → Cursor α
  | 0, c => c
  | fuel + 1, c =>
    match c.after with
    | [] => c
    | next :: after =>
      if next.tag = c.here.tag then
        moveDown fuel { c with after, here := ⟨c.here.tag, c.here.lines ++ next.lines⟩ }
      else if next.tag = .kept then
        let n := c.here.play (commonStart next.lines c.here.lines)
        if n = 0 then if next.lines.isEmpty then moveDown fuel { c with after } else c
        else
          let moved := next.lines.take n
          moveDown fuel
            { before := keepLast moved c.before
              here := ⟨c.here.tag, c.here.lines.drop n ++ moved⟩
              after := stepOf .kept (next.lines.drop n) ++ after }
      else moveDown fuel { c with before := next :: c.before, after }

/-- Moves every step with the given tag, one after another; the steps before
those that are left come last one first. -/
def settle (tag : Tag) : (fuel : Nat) → (before after : List (Step α)) → List (Step α)
  | 0, before, after => before.reverse ++ after
  | _ + 1, before, [] => before.reverse
  | fuel + 1, before, here :: after =>
    if here.tag = tag then
      let up := moveUp (weight before) { before, here, after }
      let down := moveDown (weight up.after) up
      settle tag fuel (down.here :: down.before) down.after
    else settle tag fuel (here :: before) after

/-- A script with its runs moved, first those of removed lines. -/
def compact (script : List (Step α)) : List (Step α) :=
  let removed := settle .removed (weight script) [] script
  settle .added (weight removed) [] removed

example : compact [⟨.added, ['a', 'b']⟩, ⟨.kept, ['a']⟩] =
    [⟨.kept, ['a']⟩, ⟨.added, ['b', 'a']⟩] := by decide

example : compact [⟨.added, ['b']⟩, ⟨.removed, ['a']⟩, ⟨.kept, ['a']⟩] =
    [⟨.removed, ['a']⟩, ⟨.added, ['b']⟩, ⟨.kept, ['a']⟩] := by decide

end Emend.Diff
