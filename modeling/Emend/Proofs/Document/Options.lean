import Emend.Document.Build
/-!
# The options of a section, one by one

What the options of a section give is read in stages: each option that names something
has a reading of its own (`modeOption`, `scopeOption`, `anchorOption`), and the options
as a whole are these readings in order (`anchorOf_eq`, `matchOptions_eq`).
-/

namespace Emend.Document

variable (defaults : MatchDefaults) (file : Text) (options : Entries Text)

/-- The mode that an option names; the given one if the option is missing. -/
def modeOption (key : String) (otherwise : MatchMode) : Except DocumentError MatchMode :=
  match options key.toList with
  | some value => modeOf file value
  | none => .ok otherwise

/-- The scope that an option names. -/
def scopeOption : Except DocumentError AnchorScope :=
  match options "ANCHOR_SCOPE".toList with
  | none => .ok .auto
  | some value =>
    match AnchorScope.ofKeyword? value with
    | some scope => .ok scope
    | none => .error (.unknownScope file value)

/-- That a text can be looked for in a mode, as far as patterns go. -/
def checkMode (mode : MatchMode) (text : Text) (caseSensitive : Bool) :
    Except DocumentError Unit :=
  if mode = .regex then checkPattern file text caseSensitive else .ok ()

/-- The anchor of a section that has a block for it. -/
def anchorOption (text : Option Text) (depth : Int) (caseSensitive : Bool) :
    Except DocumentError (Option Anchor) :=
  match text with
  | some text => some <$> anchorOf file text options depth caseSensitive
  | none => .ok none

theorem anchorOf_eq (text : Text) (depth : Int) (caseSensitive : Bool) :
    anchorOf file text options depth caseSensitive =
      modeOption file options "ANCHOR_MATCH_MODE" .normalized >>= fun mode =>
      scopeOption file options >>= fun scope =>
      readOption file options "ANCHOR_SEARCH_DEPTH" depth?
        "expected -1 or a non-negative integer" depth >>= fun depth =>
      checkMode file mode text caseSensitive >>= fun _ =>
      .ok { text, mode, scope, depth } := by
  unfold anchorOf modeOption scopeOption
  -- The last check is a branch of the definition, so it is moved out first.
  have hcheck : ∀ (mode : MatchMode) (next : Unit → Except DocumentError Anchor),
      (if mode = .regex then checkPattern file text caseSensitive >>= next else next ()) =
        checkMode file mode text caseSensitive >>= next := by
    intro mode next
    unfold checkMode
    split <;> rfl
  generalize options "ANCHOR_MATCH_MODE".toList = mode?
  generalize options "ANCHOR_SCOPE".toList = scope?
  simp only [hcheck]
  cases scope? with
  | none => cases mode? <;> rfl
  | some value =>
      cases hscope : AnchorScope.ofKeyword? value <;> cases mode? <;> simp only [hscope] <;> rfl

theorem matchOptions_eq (target : Text) (anchor : Option Text) :
    matchOptions defaults file target options anchor =
      modeOption file options "MATCH_MODE" defaults.options.mode >>= fun mode =>
      readOption file options "FUZZY_THRESHOLD" threshold?
        "expected a number between 0.0 and 1.0" defaults.options.threshold >>= fun threshold =>
      readOption file options "TOKEN_WINDOW_SIZE" Text.count?
        "expected a non-negative integer" defaults.options.windowSize >>= fun windowSize =>
      let m := flagged options { defaults.options with mode, threshold, windowSize }
      anchorOption file options anchor defaults.anchorDepth
        m.folding.caseSensitive >>= fun anchor =>
      checkTarget file target { m with anchor } >>= fun _ => .ok { m with anchor } := by
  unfold matchOptions modeOption anchorOption
  generalize options "MATCH_MODE".toList = mode?
  cases mode? <;> cases anchor <;> rfl

end Emend.Document
