import Emend.Text.Canonical
/-!
# Options of a match

How the text that an edit applies to is to be found: by which strategy, what
does not count, and in which part of the file.
-/

namespace Emend

/-- A strategy for finding a text. -/
inductive MatchMode where
  /-- Whole lines with the same canonical form. -/
  | normalized
  /-- Whole lines with the most similar canonical form. -/
  | fuzzy
  /-- A run of words. -/
  | tokenized
  /-- A declaration with the same signature. -/
  | semantic
  /-- A match of a pattern. -/
  | regex
  /-- The text itself. -/
  | contains
  /-- Lines given by their numbers. -/
  | lineRange
  deriving DecidableEq, Repr

namespace MatchMode

/-- Every mode. -/
def all : List MatchMode := [normalized, fuzzy, tokenized, semantic, regex, contains, lineRange]

/-- The name of a mode in documents, settings and reports. -/
def name : MatchMode → String
  | normalized => "normalized"
  | fuzzy => "fuzzy"
  | tokenized => "tokenized"
  | semantic => "semantic"
  | regex => "regex"
  | contains => "contains"
  | lineRange => "line_range"

/-- The mode of a keyword: its name, in which case does not count and a hyphen
may stand for an underscore. -/
def ofKeyword? (keyword : Text) : Option MatchMode :=
  let keyword := (Text.asciiLower (Text.trim keyword)).map fun c => if c = '-' then '_' else c
  all.find? fun m => m.name.toList == keyword

end MatchMode

/-- How far the region of an anchor reaches. -/
inductive AnchorScope where
  /-- A block after the anchor. -/
  | auto
  /-- A block after the anchor, meant as a function. -/
  | function
  /-- A block after the anchor, meant as a class. -/
  | class_
  /-- A block after the anchor. -/
  | block
  /-- The whole file. -/
  | file
  deriving DecidableEq, Repr

namespace AnchorScope

/-- Every scope. -/
def all : List AnchorScope := [auto, function, class_, block, file]

/-- The name of a scope. -/
def name : AnchorScope → String
  | auto => "auto"
  | function => "function"
  | class_ => "class"
  | block => "block"
  | file => "file"

/-- The scope of a keyword: its name, in which case does not count. -/
def ofKeyword? (keyword : Text) : Option AnchorScope :=
  let keyword := Text.asciiLower (Text.trim keyword)
  all.find? fun s => s.name.toList == keyword

end AnchorScope

/-- A text that narrows the part of the file in which a match is sought. -/
structure Anchor where
  /-- The text of the anchor. -/
  text : Text
  /-- The strategy by which the anchor itself is found. -/
  mode : MatchMode
  /-- How far its region reaches. -/
  scope : AnchorScope
  /-- The level of braces whose end ends the region. -/
  depth : Int
  deriving DecidableEq, Repr

/-- The parts of a signature that count. -/
structure SignatureChecks where
  /-- The name of a function. -/
  functionName : Bool := true
  /-- The name of a class. -/
  className : Bool := true
  /-- The types of parameters. -/
  parameterTypes : Bool := true
  /-- The names of parameters. -/
  parameterNames : Bool := false
  /-- The type of the result. -/
  returnType : Bool := true
  /-- The modifiers. -/
  modifiers : Bool := false
  deriving DecidableEq, Repr

/-- How a text is to be found. -/
structure MatchOptions where
  /-- The strategy. -/
  mode : MatchMode := .normalized
  /-- The score that an inexact match has to reach. -/
  threshold : Float := 0.85
  /-- What does not count. -/
  folding : Folding := {}
  /-- The parts of a signature that count. -/
  checks : SignatureChecks := {}
  /-- The number of words of a window; zero for as many as are sought. -/
  windowSize : Nat := 0
  /-- The anchor, if the match is sought in its region. -/
  anchor : Option Anchor := none
  deriving Repr

/-- The options that a document's sections start from. -/
structure MatchDefaults where
  /-- The options of a match. -/
  options : MatchOptions := {}
  /-- The level of braces of an anchor's region. -/
  anchorDepth : Int := 1
  deriving Repr

end Emend
