import Emend.Text.Basic
/-!
# Painted texts

Parts of the output are painted where the terminal shows colours.  A paint is
an escape sequence before a text and a reset after it; a reset inside the text
is followed by the paint again.
-/

namespace Emend

/-- How a text is painted. -/
inductive Paint where
  /-- Not at all. -/
  | plain
  /-- In bold letters. -/
  | bold
  /-- Dimmed. -/
  | dimmed
  /-- Red. -/
  | red
  /-- Green. -/
  | green
  /-- Yellow. -/
  | yellow
  /-- Cyan. -/
  | cyan
  deriving DecidableEq, Repr

namespace Paint

/-- The number of a paint in escape sequences. -/
def code? : Paint → Option Text
  | plain => none
  | bold => some ['1']
  | dimmed => some ['2']
  | red => some ['3', '1']
  | green => some ['3', '2']
  | yellow => some ['3', '3']
  | cyan => some ['3', '6']

/-- The escape sequence of a number. -/
def sequenceOf (code : Text) : Text := '\x1B' :: '[' :: (code ++ ['m'])

/-- The reset. -/
def reset : Text := sequenceOf ['0']

/-- A text with a paint put after each reset; `fuel` bounds their number. -/
def renew (lead : Text) : (fuel : Nat) → Text → Text
  | 0, t => t
  | fuel + 1, t =>
    match Text.breakOn? reset t with
    | none => t
    | some (before, after) => before ++ reset ++ lead ++ renew lead fuel after

/-- A text painted, if there are colours. -/
def apply (p : Paint) (colours : Bool) (t : Text) : Text :=
  match p.code? with
  | none => t
  | some code =>
    if colours then sequenceOf code ++ renew (sequenceOf code) t.length t ++ reset else t

/-- Whether output is painted.  Colours can be forced or switched off by what the
surroundings say; otherwise a terminal shows them unless it is said not to. -/
def isWanted (force off colour : Option Text) (terminal : Bool) : Bool :=
  let isSet (value : Option Text) : Bool := value.any fun v => v != ['0']
  isSet force || (off.isNone && terminal && (colour.isNone || isSet colour))

end Paint

end Emend
