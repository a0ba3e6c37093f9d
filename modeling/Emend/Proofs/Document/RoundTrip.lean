import Emend.Proofs.Document.Scan
/-!
# Documents written and read

A draft that is written in any of the layouts, with any of the labels, is read as the
document that it stands for (`parse_render`).  What is read does not depend on the layout,
and the text of a block is read as it is even where its lines look like parts of a document.
-/

namespace Emend.Document

/-- The line after the file sections ends the reading as the end of the lines does. -/
theorem run_ending {defaults : MatchDefaults} (layout : Layout) {last : Progress}
    {d : PatchDocument} (h : last.finish defaults = .ok d) (number : Nat) :
    (State.run defaults (.reading last) number (layout.ending.flatMap linesOf)).finish defaults =
      .ok d := by
  cases layout with
  | markdown => exact h
  | bracket | sign =>
      have hend : Reads defaults (.reading last) ["=== PATCH END ===".toList] (.done d) := by
        refine Reads.line (by decide) fun number raw hraw => ?_
        have hline : Line.ofText "=== PATCH END ===".toList = .patchEnd := by decide
        simp only [State.step, hraw, hline, State.stepReading, h]
        rfl
      exact congrArg (State.finish defaults) (hend number)

/-- A draft that can be written is read, in each layout and with any labels, as the document
that it stands for: its metadata and its file patches in order, with every option as it is
given and the defaults for the others. -/
theorem parse_render (defaults : MatchDefaults) (d : Draft) (layout : Layout) (w : Wording)
    (h : d.Valid defaults layout w) :
    parse defaults (d.render layout w) = .ok (d.document defaults) := by
  have hpreamble : Reads defaults .seeking (layout.preamble d.metadata) _ :=
    Reads.preamble h.name h.description h.author h.version
  obtain ⟨last, hfiles, hlast⟩ := Reads.files d.files [] h.files
    (show Progress.closeSection defaults { metadata := d.metadata } = _ from rfl)
  have hfinish : last.finish defaults = .ok (d.document defaults) := by
    simp only [Progress.finish, hlast, bind, Except.bind]
    rfl
  unfold parse
  rw [Draft.render, documentLines_flatMap, Draft.lines, List.flatMap_append, State.run_append,
    hpreamble.trans hfiles]
  exact run_ending layout hfinish _

/-! ## A draft -/

/-- Each role with one of its labels. -/
def someLabels : Wording where
  label
    | .target => "FIND"
    | .outcome | .replacement | .destination => "TO"
    | .content => "INSERT"
    | .anchor => "ANCHOR"
  labels := by
    intro role
    cases role <;> decide

/-- A draft with texts that look like parts of a document. -/
def lookalikes : Draft where
  metadata :=
    { name := "=== PATCH END ===".toList, description := "---".toList
      author := "**Name:** x".toList, version := "- VERSION: 2".toList }
  files :=
    [{ path := "--- FILE: a ---".toList
       description := "<<< FIND".toList
       action := .insertAfter "=== PATCH END ===\n\n### PATCH: y".toList
         "#### File: b\n**Action:** delete_file\n- MATCH_MODE: fuzzy".toList
         { mode := some .contains, windowSize := some 7
           flags := fun f => if f = .caseSensitive then some false else none
           anchor := some { text := [], scope := some .block, depth := some (-1) } } },
     { path := ['b'], action := .moveFile "<<< FIND".toList (some true) },
     { path := ['c'], action := .replace [] "**Find:**".toList {} }]

theorem pathlike_of_first {t : Text} (h : Inline t) {c : Char} (hfirst : t.head? = some c)
    (htick : c ≠ '\x60') (hangle : '>' ∉ t) : Pathlike t := by
  refine ⟨h, ?_, fun harrow => hangle (harrow.subset (by simp)), ?_⟩
  · rintro rfl
    cases hfirst
  · rintro ⟨inside, rfl⟩
    exact htick (Option.some.inj hfirst).symm

theorem lookalikes_valid (layout : Layout) : lookalikes.Valid {} layout someLabels where
  name := ⟨by decide, by decide, by decide⟩
  description := ⟨by decide, by decide⟩
  author := ⟨by decide, by decide, by decide⟩
  version := ⟨by decide, by decide, by decide⟩
  files := by
    have hfirst : Pathlike "--- FILE: a ---".toList :=
      pathlike_of_first ⟨by decide, by decide⟩ rfl (by decide) (by decide)
    have hsecond : Pathlike ['b'] :=
      pathlike_of_first ⟨by decide, by decide⟩ rfl (by decide) (by decide)
    have hthird : Pathlike ['c'] :=
      pathlike_of_first ⟨by decide, by decide⟩ rfl (by decide) (by decide)
    refine List.forall_mem_cons.2 ⟨?_, List.forall_mem_cons.2 ⟨?_, List.forall_mem_singleton.2 ?_⟩⟩
    · refine ⟨hfirst, ⟨by decide, by decide⟩, ?_, ?_, ?_⟩
      · rintro target o ⟨⟩
        refine ⟨nofun, ?_, ?_, nofun, nofun⟩
        · rintro n ⟨⟩
          decide
        · rintro a ⟨⟩
          refine ⟨?_, nofun⟩
          rintro n ⟨⟩
          decide
      · rintro path ⟨⟩
      · intro role t ht
        cases role <;> cases ht <;> cases layout <;> exact ⟨by decide, by decide, by decide⟩
    · refine ⟨hsecond, ⟨by decide, by decide⟩, ?_, ?_, ?_⟩
      · rintro target o ⟨⟩
      · rintro path ⟨⟩
        decide
      · intro role t ht
        cases role <;> cases ht
        cases layout <;> exact ⟨by decide, by decide, by decide⟩
    · refine ⟨hthird, ⟨by decide, by decide⟩, ?_, ?_, ?_⟩
      · rintro target o ⟨⟩
        exact ⟨nofun, nofun, nofun, nofun, nofun⟩
      · rintro path ⟨⟩
      · intro role t ht
        cases role <;> cases ht <;> cases layout <;> exact ⟨by decide, by decide, by decide⟩

theorem parse_render_lookalikes :
    parse {} (lookalikes.render .markdown someLabels) = .ok (lookalikes.document {}) ∧
      parse {} (lookalikes.render .bracket someLabels) = .ok (lookalikes.document {}) ∧
      parse {} (lookalikes.render .sign someLabels) = .ok (lookalikes.document {}) :=
  ⟨parse_render {} lookalikes .markdown someLabels (lookalikes_valid .markdown),
    parse_render {} lookalikes .bracket someLabels (lookalikes_valid .bracket),
    parse_render {} lookalikes .sign someLabels (lookalikes_valid .sign)⟩

end Emend.Document
