import Emend.Text.Basic
/-!
# Braces

Blocks are delimited by braces and may hold blocks.  Braces in strings and
comments count like any others.
-/

namespace Emend.Braces

/-- The offset of the brace that closes the outermost of `depth` open blocks,
in a text at `offset`. -/
def closingFrom? (depth offset : Nat) : Text → Option Nat
  | [] => none
  | c :: t =>
    let next := offset + c.utf8Size
    if c = '{' then closingFrom? (depth + 1) next t
    else if c = '}' then
      if depth = 0 then none
      else if depth = 1 then some offset
      else closingFrom? (depth - 1) next t
    else closingFrom? depth next t

/-- The offset of the brace that closes the block opened at `start`. -/
def closing? (start : Nat) (content : Text) : Option Nat := do
  let (_, rest) ← content.splitAt? start
  closingFrom? 0 start rest

/-- The offset just past the brace that closes the first block of level
`target`, in a text at `offset` with `depth` open blocks; `reached` is set once
that level has been opened.  A brace that closes all blocks before that is
taken instead. -/
def scopeEndFrom? (target : Nat) (reached : Bool) (depth offset : Nat) : Text → Option Nat
  | [] => none
  | c :: t =>
    let next := offset + c.utf8Size
    if c = '{' then
      scopeEndFrom? target (reached || depth + 1 == target) (depth + 1) next t
    else if c = '}' then
      if reached && depth == target then some next
      else if depth = 0 then none
      else if depth = 1 then some next
      else scopeEndFrom? target reached (depth - 1) next t
    else scopeEndFrom? target reached depth next t

/-- The offset at which the scope of level `target`, counted from the block
opened at `start`, ends. -/
def scopeEnd? (start target : Nat) (content : Text) : Option Nat := do
  let (_, rest) ← content.splitAt? start
  scopeEndFrom? target false 0 start rest

/-- The offset of the first opening brace at or after `start`. -/
def opening? (start : Nat) (content : Text) : Option Nat := do
  let (_, rest) ← content.splitAt? start
  let (before, _) ← Text.breakOn? ['{'] rest
  return start + Text.size before

example : closing? 1 "a{b{c}d}e".toList = some 7 := by decide
example : scopeEnd? 1 2 "a{b{c}d}e".toList = some 6 := by decide

end Emend.Braces
