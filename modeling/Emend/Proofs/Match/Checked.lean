import Emend.Match.Find
import Emend.Proofs.Text.CommentScan
/-!
# Searches that check their slices

The searches cut their texts at offsets that they have worked out, and a cut where there
is no place would be a fault.  Here they are written once more, cut for cut, so that such
a fault is not passed over but ends the search with the span that does not fit.  What they
look for byte by byte is looked for byte by byte here, too.

A group of a match is read from the text by the engine of patterns and not by the search,
so it is none of the cuts that are checked here.
-/

namespace Emend.Checked

/-- The match at a span. -/
def ofSpan (content : Text) (s : Span) : Except Span Match := do
  return ⟨s, ← slice content s⟩

/-! ## Lines, texts and patterns -/

/-- The canonical form of a text. -/
def canonical (folding : Folding) (t : Text) : Except Span Text := do
  let t := LineEnding.normalize t
  let t ← if folding.ignoreComments then maskComments t else pure t
  let forms := (Text.lines t).map Text.canonicalLine
  let forms := if folding.ignoreEmptyLines then forms.filter fun l => !l.isEmpty else forms
  let t := Text.join ['\n'] forms
  return if folding.caseSensitive then t else Text.lowercase t

/-- The canonical form of the part at a span. -/
def formAt (folding : Folding) (content : Text) (s : Span) : Except Span Text := do
  canonical folding (← slice content s)

/-- The first run of lines with the same canonical form as the pattern. -/
def findLines (content pattern : Text) (options : MatchOptions) : Except Span (Option Match) := do
  let target ← canonical options.folding pattern
  if target.isEmpty then return none
  else
    let found ← (Lines.candidates content pattern).findM? fun s => do
      return (← formAt options.folding content s) == target
    found.mapM (ofSpan content)

/-- The run of lines with the most similar canonical form. -/
def findSimilar (content pattern : Text) (options : MatchOptions) :
    Except Span (Option Match) := do
  let threshold := options.threshold
  if threshold ≥ 1.0 then findLines content pattern options
  else
    let target ← canonical options.folding pattern
    if target.isEmpty then return none
    else
      let forms ← (Lines.candidates content pattern).mapM fun s => do
        return (s, ← formAt options.folding content s)
      let score := fun (p : Span × Text) => Distance.similarity target p.2 threshold
      let found := bestScored (fun s => Distance.meets s threshold) score none forms
      found.mapM fun p => ofSpan content p.2.1

/-- The first match of a written pattern. -/
def findPattern (content pattern : Text) (caseSensitive : Bool) : Except Span (Option Match) :=
  match Pattern.ofText caseSensitive pattern with
  | .error _ => .ok none
  | .ok node => (Pattern.find node content).mapM fun f => ofSpan content f.span

/-- The first occurrence of a text that is not empty. -/
def findText (content pattern : Text) (caseSensitive : Bool) : Except Span (Option Match) :=
  if pattern.isEmpty then .ok none
  else
    let same := if caseSensitive then fun a b => a == b else sameLower
    (Literal.firstAgreeing? same pattern 0 content).mapM (ofSpan content)

/-- The lines that a text names, if the content has them all. -/
def findNumbered (content pattern : Text) : Except Span (Option Match) :=
  match Literal.parseLineRange? pattern with
  | none => .ok none
  | some (first, last) =>
    let spans := Text.lineSpans content
    if 1 ≤ first ∧ first ≤ last then
      match spans[first - 1]?, spans[last - 1]? with
      | some a, some b => some <$> ofSpan content ⟨a.start, b.stop⟩
      | _, _ => .ok none
    else .ok none

/-! ## Runs of words -/

/-- The words of a run of tokens, of which there have to be some and as many as it says. -/
def texts (w : Tokens.Window) : Except Span (List Text) :=
  if 1 ≤ w.count ∧ w.count ≤ w.rest.length then .ok w.texts else .error ⟨0, w.count⟩

/-- The tokens of a text. -/
def tokens (folding : Folding) (t : Text) : Except Span (List Token) := do
  let words := Tokens.wordsFrom 0 (← if folding.ignoreComments then maskComments t else pure t)
  return if folding.caseSensitive then words
    else words.map fun w => { w with text := Text.lowercase w.text }

/-- The first or the most similar run of tokens. -/
def findTokens (content pattern : Text) (options : MatchOptions) :
    Except Span (Option Match) := do
  let sought := (← tokens options.folding pattern).map Token.text
  if sought.isEmpty then return none
  else
    let base := if 0 < options.windowSize then options.windowSize else sought.length
    let tokens ← tokens options.folding content
    let threshold := options.threshold
    if threshold ≥ 1.0 then
      let found ← (Tokens.windows base base tokens).findM? fun w => do
        return (← texts w) == sought
      found.mapM fun w => ofSpan content w.span
    else
      let runs ← (Tokens.windows (Tokens.fewest base) (Tokens.most base) tokens).mapM fun w => do
        return (w, ← texts w)
      let score := fun (p : Tokens.Window × List Text) => Distance.similarity sought p.2 threshold
      let found := bestScored (fun s => Distance.meets s threshold) score none runs
      found.mapM fun p => ofSpan content p.2.1.span

/-! ## Headers -/

/-- The first result that `f` makes of one of the matches in a text, or the first fault. -/
def findSome {β : Type} (n : Pattern.Node) (f : Pattern.Found → Except Span (Option β))
    (t : Text) : Except Span (Option β) :=
  let tried : Pattern.Found → Option (Except Span β) := fun found =>
    match f found with
    | .error s => some (.error s)
    | .ok none => none
    | .ok (some b) => some (.ok b)
  match Pattern.findSome n tried t with
  | none => .ok none
  | some (.error s) => .error s
  | some (.ok b) => .ok (some b)

/-- The offset of the parenthesis that closes the one just before an offset. -/
def closingParen (t : Text) (start : Nat) : Except Span (Option Nat) := do
  let (_, rest) ← cut start t
  return (splitAtClosing? 1 rest).map fun (inside, _) => start + Text.size inside

/-- Whether a colon that is not one of a pair stands at an offset. -/
def isSingleColon (t : Text) (n : Nat) : Bool :=
  byteIs t n ':' && (n == 0 || !byteIs t (n - 1) ':') && !byteIs t (n + 1) ':'

/-- The offset of the first colon that is not one of a pair. -/
def singleColon? (t : Text) : Option Nat := (List.range (Text.size t)).find? (isSingleColon t)

/-- The parameter that a part of a list declares. -/
def parseParameter (part : Text) : Except Span (Option Parameter) := do
  let kept := (Text.words part).filter fun w => w.head? ≠ some '@'
  let declared := Text.trim (Text.before (· == '=') (Text.join [' '] kept))
  if declared.isEmpty then return none
  else match singleColon? declared with
    | some n =>
      let (before, _) ← cut n declared
      let (_, after) ← cut (n + 1) declared
      return some ⟨dropReferences ((Text.words before).getLastD []), Text.trim after⟩
    | none =>
      return parameterOfWords?
        ((Text.words (dropEllipses declared)).filter fun w => !parameterQualifiers.contains w)

/-- The parameters of a list. -/
def parseParameters (t : Text) : Except Span (List Parameter) := do
  return (← (splitTopLevel t).mapM parseParameter).filterMap id

/-- The type of the result, from what follows a list of parameters. -/
def parseReturnType (after : Text) : Except Span (Option Text) := do
  let after := Text.trimStart after
  match (Text.afterLead? ['-', '>'] after).or (Text.afterLead? [':'] after) with
  | none => return none
  | some rest =>
    let ends := fun c => c == '{' || c == '=' || c == ';' || c == '\n'
    let type := Text.trim (← slice rest ⟨0, Text.size (Text.before ends rest)⟩)
    let type := match Text.breakOn? " where ".toList type with
      | some (type, _) => Text.trim type
      | none => type
    return if type.isEmpty then none else some type

/-- The function whose header was found in the shape with a keyword. -/
def functionOfKeyword (t : Text) (found : Pattern.Found) :
    Except Span (Option (Located FunctionSignature)) := do
  let header := found.span
  match ← closingParen t header.stop with
  | none => return none
  | some close =>
    let parameters ← parseParameters (← slice t ⟨header.stop, close⟩)
    let (_, after) ← cut (close + 1) t
    return some {
      signature := {
        modifiers := Text.words (groupText t found 1)
        returnType := ← parseReturnType after
        name := groupText t found 2
        parameters }
      start := header.start
      headerEnd := close + 1 }

/-- The function whose header was found in the shape that starts with a type. -/
def functionOfType (t : Text) (found : Pattern.Found) :
    Except Span (Option (Located FunctionSignature)) := do
  let header := found.span
  let type := groupText t found 2
  let name := groupText t found 3
  if statementWords.contains type || controlWords.contains name then return none
  else
    let earlier := Text.trimEnd (← slice t ⟨0, header.start⟩)
    if earlier.getLast? = some '=' ∨ earlier.getLast? = some '.' then return none
    else
      match ← closingParen t header.stop with
      | none => return none
      | some close =>
        return some {
          signature := {
            modifiers := Text.words (groupText t found 1)
            returnType := some type
            name
            parameters := ← parseParameters (← slice t ⟨header.stop, close⟩) }
          start := header.start
          headerEnd := close + 1 }

/-- The first function declared in a text. -/
def locateFunction (t : Text) : Except Span (Option (Located FunctionSignature)) := do
  let byFun ← findSome funShape (functionOfKeyword t) t
  let byFn ← findSome fnShape (functionOfKeyword t) t
  let byType ← findSome typedShape (functionOfType t) t
  return earlier (earlier byFun byFn) byType

/-- What follows the header of a class and the parameters that it may have right after its name. -/
def afterConstructor (t : Text) (headerEnd : Nat) : Except Span Text := do
  let (_, rest) ← cut headerEnd t
  match Text.afterLead? ['('] (Text.trimStart rest) with
  | none => return rest
  | some inside =>
    match ← closingParen t (Text.size t - Text.size inside) with
    | none => return rest
    | some close =>
      let (_, after) ← cut (close + 1) t
      return after

/-- The offset of the first occurrence of a text. -/
def offset? (needle t : Text) : Option Nat :=
  (Text.breakOn? needle t).map fun (before, _) => Text.size before

/-- The part of a text that follows the first occurrence of another one. -/
def afterFirst (needle t : Text) : Except Span (Option Text) :=
  (offset? needle t).mapM fun n => do
    let (_, after) ← cut (n + Text.size needle) t
    return after

/-- The type that is extended and the interfaces, from the rest of a header. -/
def parseSupertypes (header : Text) : Except Span (Option Text × List Text) := do
  match Text.afterLead? [':'] header with
  | some list =>
    let parts := (splitTopLevel list).map dropArguments
    return (parts.head?, parts.tail)
  | none =>
    let parent ← (← afterFirst "extends ".toList header).mapM fun after => do
      let stop := (offset? " implements ".toList after).getD (Text.size after)
      return (splitTopLevel (← slice after ⟨0, stop⟩)).head?
    let interfaces ← (← afterFirst "implements ".toList header).mapM fun list => do
      return splitTopLevel list
    return (parent.join, interfaces.getD [])

/-- The class whose header was found. -/
def classOfHeader (t : Text) (found : Pattern.Found) : Except Span (Located ClassSignature) := do
  let header := found.span
  let rest ← afterConstructor t header.stop
  let (parent, interfaces) ←
    parseSupertypes (Text.trim (Text.before (fun c => c == '{' || c == '\n') rest))
  return {
    signature := {
      modifiers := Text.words (groupText t found 1)
      name := groupText t found 2
      typeParameters := splitTopLevel (groupText t found 3)
      parent
      interfaces }
    start := header.start
    headerEnd := header.stop }

/-- The first class, or other type, declared in a text. -/
def locateClass (t : Text) : Except Span (Option (Located ClassSignature)) :=
  (Pattern.find classShape t).mapM (classOfHeader t)

/-! ## Declarations -/

/-- The targets that a pattern names, the one that starts first in front. -/
def targets (pattern : Text) : Except Span (List Declaration.Target) := do
  match ← locateFunction pattern, ← locateClass pattern with
  | none, none => return []
  | some f, none => return [.function f.signature]
  | none, some c => return [.class_ c.signature]
  | some f, some c =>
    if f.start ≤ c.start then return [.function f.signature, .class_ c.signature]
    else return [.class_ c.signature, .function f.signature]

/-- The end of the header that a context declares on its first line, if it agrees with the
target. -/
def headerEnd (target : Declaration.Target) (checks : SignatureChecks) (context : Text)
    (lineLength : Nat) : Except Span (Option Nat) := do
  match target with
  | .function wanted =>
    return (← locateFunction context).bind fun found =>
      if found.start < lineLength && found.signature.agrees checks wanted then
        some found.headerEnd
      else none
  | .class_ wanted =>
    return (← locateClass context).bind fun found =>
      if found.start < lineLength && found.signature.agrees checks wanted then
        some found.headerEnd
      else none

/-- The offset of the brace that closes the block opened at an offset. -/
def closingBrace (content : Text) (start : Nat) : Except Span (Option Nat) := do
  let (_, block) ← cut start content
  return Braces.closingFrom? 0 start block

/-- The end of the line of an offset, before its line break. -/
def lineEnd (content : Text) (n : Nat) : Except Span Nat := do
  let (_, rest) ← cut n content
  let stop := n + Text.size (Text.before (· == '\n') rest)
  if stop ≤ Text.size content then
    return if 0 < stop && byteIs content (stop - 1) '\r' then stop - 1 else stop
  else .error ⟨n, stop⟩

/-- The end of the declaration whose header ends at an offset, or at an earlier one. -/
def declarationEnd (content : Text) (n : Nat) : Except Span (Option Nat) :=
  if n < Text.size content then
    if byteIs content n '{' then do
      return (← closingBrace content n).map (· + 1)
    else if byteIs content n ';' || byteIs content n '=' then some <$> lineEnd content n
    else if byteIs content n '\n' then do
      let (_, rest) ← cut n content
      let next := n + Text.size (rest.takeWhile isBlank)
      if byteIs content next '{' then return (← closingBrace content next).map (· + 1)
      else some <$> lineEnd content n
    else declarationEnd content (n + 1)
  else .ok (some (Text.size content))
termination_by Text.size content - n

/-- The declaration on the first of some lines, if it agrees with the target. -/
def onLine (content : Text) (target : Declaration.Target) (checks : SignatureChecks)
    (line : Span) (later : List Span) : Except Span (Option Match) := do
  let last := (later.take Declaration.contextLines).getLastD line
  let context ← slice content ⟨line.start, last.stop⟩
  match ← headerEnd target checks context line.length with
  | none => return none
  | some header =>
    match ← declarationEnd content (line.start + header) with
    | none => return none
    | some stop => some <$> ofSpan content ⟨line.start, stop⟩

/-- The first declaration on some lines that agrees with the target. -/
def findTarget (content : Text) (target : Declaration.Target) (checks : SignatureChecks) :
    List Span → Except Span (Option Match)
  | [] => .ok none
  | line :: later => do
    match ← onLine content target checks line later with
    | some m => return some m
    | none => findTarget content target checks later

/-- The first declaration with the signature of the pattern. -/
def findDeclaration (content pattern : Text) (options : MatchOptions) :
    Except Span (Option Match) := do
  (← targets pattern).findSomeM? fun target =>
    findTarget content target options.checks (Text.lineSpans content)

/-! ## Anchors -/

/-- The place of an anchor. -/
def locate (content : Text) (anchor : Anchor) (options : MatchOptions) :
    Except Span (Option Match) :=
  match Anchor.locatingMode anchor.mode with
  | .fuzzy => findSimilar content anchor.text options
  | .semantic => findDeclaration content anchor.text options
  | .contains => findText content anchor.text options.folding.caseSensitive
  | .regex => findPattern content anchor.text options.folding.caseSensitive
  | _ => findLines content anchor.text options

/-- The region of an anchor. -/
def region (content : Text) (anchor : Anchor) (options : MatchOptions) :
    Except Span (Option Span) := do
  match ← locate content anchor options with
  | none => return none
  | some found =>
    if anchor.scope = .file then return some ⟨0, Text.size content⟩
    else
      let (_, rest) ← cut found.span.start content
      match Text.breakOn? ['{'] rest with
      | none => return none
      | some (before, _) =>
        let start := found.span.start + Text.size before
        let (_, block) ← cut start content
        return (Braces.scopeEndFrom? anchor.targetDepth false 0 start block).map fun stop =>
          ⟨found.span.start, stop⟩

/-- The match of a pattern in a text, by the strategy of the options. -/
def findIn (t pattern : Text) (options : MatchOptions) : Except Span (Option Match) :=
  match options.mode with
  | .normalized => findLines t pattern options
  | .fuzzy => findSimilar t pattern options
  | .tokenized => findTokens t pattern options
  | .semantic => findDeclaration t pattern options
  | .regex => findPattern t pattern options.folding.caseSensitive
  | .contains => findText t pattern options.folding.caseSensitive
  | .lineRange => findNumbered t pattern

/-- The match of a pattern in a content, in the region of the anchor if there is one. -/
def findMatch (content pattern : Text) (options : MatchOptions) : Except Span (Option Match) := do
  match options.anchor with
  | none => findIn content pattern options
  | some anchor =>
    match ← region content anchor options with
    | none => return none
    | some region =>
      let part ← slice content region
      return (← findIn part pattern options).map fun found => found.shift region.start

end Emend.Checked
