import Emend.Match.Basic
import Emend.Match.Braces
import Emend.Signature.Header
/-!
# Matching declarations

The pattern is a declaration, and what is sought is a declaration with the same
signature, in the parts that count.  The match starts with the line on which
the declaration starts and ends with the brace that closes its body, or with
its line if it has none.

A header may go on over a few lines, so a declaration is sought on each line
together with the lines after it.
-/

namespace Emend.Declaration

/-- The lines after its first one that a header may take. -/
def contextLines : Nat := 5

/-- What is sought. -/
inductive Target where
  /-- A function. -/
  | function (signature : FunctionSignature)
  /-- A class. -/
  | class_ (signature : ClassSignature)

namespace Target

/-- The targets that a pattern names, the one that starts first in front. -/
def ofPattern (pattern : Text) : List Target :=
  match locateFunction pattern, locateClass pattern with
  | none, none => []
  | some f, none => [.function f.signature]
  | none, some c => [.class_ c.signature]
  | some f, some c =>
    if f.start ≤ c.start then [.function f.signature, .class_ c.signature]
    else [.class_ c.signature, .function f.signature]

/-- The end of the header that a context declares on its first line, whose
length is given, if it agrees with the target. -/
def headerEnd? (target : Target) (checks : SignatureChecks) (context : Text) (lineLength : Nat) :
    Option Nat :=
  match target with
  | function wanted =>
    (locateFunction context).bind fun found =>
      if found.start < lineLength && found.signature.agrees checks wanted then
        some found.headerEnd
      else none
  | class_ wanted =>
    (locateClass context).bind fun found =>
      if found.start < lineLength && found.signature.agrees checks wanted then
        some found.headerEnd
      else none

end Target

/-- The end of the line, before its line break, in a text at `offset` after the
character `before`. -/
def lineEnd (before : Option Char) (offset : Nat) : Text → Nat
  | [] => if before = some '\r' then offset - 1 else offset
  | c :: t =>
    if c = '\n' then (if before = some '\r' then offset - 1 else offset)
    else lineEnd (some c) (offset + c.utf8Size) t

/-- The end of the declaration of which the text, at `offset` and after the
character `before`, is the rest.  A brace opens its body, which has to be
balanced; it may come after line breaks.  Otherwise the declaration ends with
its line. -/
def declarationEnd? (before : Option Char) (offset : Nat) : Text → Option Nat
  | [] => some offset
  | c :: t =>
    let line := lineEnd before offset (c :: t)
    if c = '{' then Braces.closingFrom? 0 offset (c :: t) |>.map (· + 1)
    else if c = ';' ∨ c = '=' then some line
    else if c = '\n' then
      let blanks := (c :: t).takeWhile isBlank
      match (c :: t).dropWhile isBlank with
      | '{' :: rest =>
        (Braces.closingFrom? 0 (offset + Text.size blanks) ('{' :: rest)).map (· + 1)
      | _ => some line
    else declarationEnd? (some c) (offset + c.utf8Size) t

/-- The end of the declaration whose header ends at offset `start`. -/
def endFrom? (start : Nat) (content : Text) : Option Nat := do
  let (before, rest) ← content.splitAt? start
  declarationEnd? before.getLast? start rest

/-- The declaration on the first of some lines, if it agrees with the
target. -/
def onLine? (content : Text) (target : Target) (checks : SignatureChecks) (line : Span)
    (later : List Span) : Option Match := do
  let last := (later.take contextLines).getLastD line
  let context := content.slice line.start last.stop
  let header ← target.headerEnd? checks context line.length
  let stop ← endFrom? (line.start + header) content
  return Match.ofSpan content ⟨line.start, stop⟩

/-- The first declaration on some lines that agrees with the target. -/
def findTarget (content : Text) (target : Target) (checks : SignatureChecks) :
    List Span → Option Match
  | [] => none
  | line :: later =>
    match onLine? content target checks line later with
    | some m => some m
    | none => findTarget content target checks later

/-- The first declaration with the signature of the pattern. -/
def find (content pattern : Text) (options : MatchOptions) : Option Match :=
  (Target.ofPattern pattern).findSome? fun target =>
    findTarget content target options.checks (Text.lineSpans content)

end Emend.Declaration
