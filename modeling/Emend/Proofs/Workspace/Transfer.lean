import Emend.Proofs.Files.Erasure
import Emend.Proofs.Workspace.Confinement
import Emend.Proofs.Workspace.Footprint
/-!
# What a move leaves in the tree

A move copies the bytes of a file and then takes away the entry of its path.  The copy
goes to where the new path leads.  This is the entry of the new path, unless there is a
link, and it may be the very file that is moved.

*Done.*  `Moves` says all that a move has done.  `Moves.faithful_iff` tells the moves that
keep what they move and nothing else changes: of a file that is not empty, those that copy
to another file, and neither through a link to a file with other bytes.

*Stopped.*  What has been copied can be taken away as far as the tree tells.  If this is
refused, or the copy is broken off, then what has been copied stays, next to the file
itself (`Copies`).  A move that fails otherwise fails before anything but directories has
been made (`move_footprint`).
-/

namespace Emend

open FileTree

namespace FileTree

variable {old made new : FileTree} {source destination origin file entry target : Path}
  {bytes left : Bytes} {refusals : Refusals}

/-- What a move from `source` to `destination` has done.  It took the bytes of `file`, put
them at `target` after the directories of `made` had been made, and took away `origin`;
`entry` is the entry of the destination. -/
structure Moves (source destination origin file entry target : Path) (bytes : Bytes)
    (old made new : FileTree) : Prop where
  /-- Directories are made on the way to the destination. -/
  paved : Paves destination.dropLast old made
  /-- The source leads to a file. -/
  leads : old.canonical source = .ok file
  /-- This file holds the bytes. -/
  held : old.get? file = some (.file bytes)
  /-- The entry of the source. -/
  origin_eq : old.entryOf source = .ok origin
  /-- The entry of the source is the file, or a link to it. -/
  origin_cases : origin = file ∨ ∃ link, old.get? origin = some (.link link)
  /-- The entry of the destination. -/
  entry_eq : made.entryOf destination = .ok entry
  /-- The bytes are put at the entry of the destination, or where a link leads that is
  there. -/
  target_cases : target = entry ∨
    ((∃ link, old.get? entry = some (.link link)) ∧ old.canonical destination = .ok target)
  /-- No link was where the bytes are put. -/
  target_no_link : ∀ link, old.get? target ≠ some (.link link)
  /-- The entry of the source is gone. -/
  gone : new.get? origin = none
  /-- All else is as it was. -/
  frame : ∀ place, place ≠ origin → place ≠ target → new.get? place = made.get? place
  /-- A copy to another file is there and can be read at the destination. -/
  arrives : target ≠ file →
    new.get? target = some (.file bytes) ∧ new.file? destination = some bytes
  /-- A copy of a file to itself leaves it empty, and then it is removed unless the source
  is a link to it. -/
  emptied : target = file → target ≠ origin → new.get? target = some (.file [])
  /-- After a copy of a file to itself, the destination leads to this file or nowhere. -/
  returns : target = file → ∀ place, new.canonical destination = .ok place → place = file

/-- What a copy of the bytes of `file` to `destination` has done, of which `left` are there.
They are at `target` after the directories of `made` have been made; `entry` is the entry of
the destination. -/
structure Copies (source destination file entry target : Path) (bytes left : Bytes)
    (old made new : FileTree) : Prop where
  /-- Directories are made on the way to the destination. -/
  paved : Paves destination.dropLast old made
  /-- The source leads to a file. -/
  leads : old.canonical source = .ok file
  /-- This file held the bytes. -/
  held : old.get? file = some (.file bytes)
  /-- The entry of the destination. -/
  entry_eq : made.entryOf destination = .ok entry
  /-- The bytes are put at the entry of the destination, or where a link leads that is
  there. -/
  target_cases : target = entry ∨
    ((∃ link, old.get? entry = some (.link link)) ∧ old.canonical destination = .ok target)
  /-- Another file may have been there. -/
  before : ∀ node, old.get? target = some node → ∃ bytes, node = .file bytes
  /-- What is left is a front part of the bytes; nothing is left of a file that is copied to
  itself. -/
  front : left <+: if target = file then [] else bytes
  /-- It is there now. -/
  here : new.get? target = some (.file left)
  /-- All else is as it was, the file that is copied as well unless it is copied to itself. -/
  frame : ∀ place, place ≠ target → new.get? place = made.get? place

/-- The entry of a file is the file, or there is a link. -/
theorem ne_origin (hcases : origin = file ∨ ∃ link, old.get? origin = some (.link link))
    (hlink : ∀ link, old.get? target ≠ some (.link link)) (hne : target ≠ file) :
    target ≠ origin := by
  rintro rfl
  rcases hcases with heq | ⟨link, h⟩
  · exact hne heq
  · exact hlink link h

/-- What is where the bytes are put is the entry of the source only if the file is copied
to itself. -/
theorem Moves.target_ne_origin
    (h : Moves source destination origin file entry target bytes old made new)
    (hne : target ≠ file) : target ≠ origin := ne_origin h.origin_cases h.target_no_link hne

/-- A move of a file that is not empty keeps the bytes, and all but the two entries as it
was, exactly if the copy goes to another file, and to the entry of the destination unless
the bytes were there before. -/
theorem Moves.faithful_iff
    (h : Moves source destination origin file entry target bytes old made new)
    (hbytes : bytes ≠ []) :
    (new.file? destination = some bytes ∧
        ∀ place, place ≠ origin → place ≠ entry → new.get? place = made.get? place) ↔
      target ≠ file ∧ (target = entry ∨ old.get? target = some (.file bytes)) := by
  constructor
  · rintro ⟨hread, hframe⟩
    have hne : target ≠ file := by
      intro heq
      obtain ⟨place, hplace, hnode⟩ := file?_eq_some.1 hread
      obtain rfl := h.returns heq place hplace
      by_cases horigin : target = origin
      · rw [← heq, horigin, h.gone] at hnode
        cases hnode
      · rw [← heq, h.emptied heq horigin, Option.some.injEq, Node.file.injEq] at hnode
        exact hbytes hnode.symm
    refine ⟨hne, ?_⟩
    by_cases hentry : target = entry
    · exact .inl hentry
    · have hsame := hframe target (h.target_ne_origin hne) hentry
      rw [(h.arrives hne).1] at hsame
      exact .inr ((h.paved.get?_iff (by simp) target).1 hsame.symm)
  · rintro ⟨hne, hcase⟩
    refine ⟨(h.arrives hne).2, fun place horigin hentry => ?_⟩
    by_cases htarget : place = target
    · subst htarget
      rcases hcase with heq | hold
      · exact absurd heq hentry
      · rw [(h.arrives hne).1, (h.paved.get?_iff (by simp) place).2 hold]
    · exact h.frame place horigin htarget

/-! ## Where a copy goes -/

section Written

variable {tree : FileTree} {base path : Path} (hplain : ∀ n ∈ path, Path.isPlain n = true)

include hplain

/-- A file that is written where a path leads, or at its entry, is where the path leads
afterwards. -/
theorem canonical_of_writeEntry (hw : made.writeEntry path = .ok target)
    (hkeeps : Keeps made (made.put target (.file bytes))) :
    (made.put target (.file bytes)).canonical path = .ok target := by
  rcases writeEntry_eq_ok.1 hw with ⟨hc, -⟩ | ⟨-, he, -⟩
  · exact canonical_keeps hkeeps hc
  · obtain ⟨above, name, _, rfl, -⟩ := entryOf_eq_ok.1 he
    have hself := get?_put_self (inDirectory_of_entryOf he).ne_nil (.file bytes) made
    exact canonical_of_entry (hplain name (by simp)) (entryOf_keeps hkeeps he) hself (by simp)

/-- A copy goes to the entry of a path, unless there was a link and the path led further. -/
theorem target_cases_of_writeEntry (hclosed : tree.Closed) (hpass : Guard.Allows tree base path)
    (hm : tree.makeDirs path.dropLast refusals = (made, .ok ()))
    (hfile : ∀ node, made.get? target = some node → ∃ bytes, node = .file bytes)
    (hw : made.writeEntry path = .ok target) :
    ∃ entry, made.entryOf path = .ok entry ∧ (target = entry ∨
      ((∃ link, tree.get? entry = some (.link link)) ∧ tree.canonical path = .ok target)) := by
  rcases writeEntry_eq_ok.1 hw with ⟨hc, hnd⟩ | ⟨-, he, -⟩
  · obtain ⟨node, hnode, -⟩ := (isPlace_of_canonical hc).found
    obtain ⟨bytes, rfl⟩ := hfile node hnode
    rcases above_cases hclosed hplain hpass hm with ⟨rfl, -⟩ | ⟨above, name, rfl, hthere, hmade⟩
    · obtain ⟨entry, he, hcase⟩ := entry_of_file hplain hc hnode
      exact ⟨entry, he, hcase.imp Eq.symm fun hlink => ⟨hlink, hc⟩⟩
    · exact absurd (hmade.directory hclosed (hplain name (by simp)) hthere hc).2 hnd
  · exact ⟨target, he, .inl rfl⟩

end Written

/-- What is read from a file after another one has been emptied, which may be the same. -/
theorem read_emptied (hne : target ≠ []) (hleads : (made.put target (.file [])).canonical source =
    .ok file) (hheld : made.get? file = some (.file bytes)) :
    (made.put target (.file [])).read source = .ok (if target = file then [] else bytes) := by
  refine read_eq_ok.2 (file?_eq_some.2 ⟨file, hleads, ?_⟩)
  split
  · next heq =>
    subst heq
    exact get?_put_self hne _ made
  · next hother => rw [get?_put_of_ne hne _ made (Ne.symm hother), hheld]

section Copied

variable {base : Path} (hg : Grounded old base)
  (hplain : ∀ n ∈ destination, Path.isPlain n = true) (hpass : Guard.Allows old base destination)
  (hm : old.makeDirs destination.dropLast refusals = (made, .ok ()))
  (hw : made.writeEntry destination = .ok target) (hleads : old.canonical source = .ok file)
  (hheld : old.get? file = some (.file bytes))

include hg hplain hpass hm hw

/-- What a path led to it leads to after a copy. -/
theorem keeps_of_copy (kept : Bytes) : Keeps old (made.put target (.file kept)) := by
  obtain ⟨hgrows, -⟩ := grows_of_makeDirs hg.closed hplain hpass hm
  obtain ⟨hbelow, hfiles⟩ := writeEntry_cases hg.closed hplain hpass hm hg.directory hw
  exact hgrows.keeps.trans (.put_file made hbelow.ne_nil kept hfiles)

include hleads hheld

/-- A copy reads the bytes of the file, or none if it has emptied the file. -/
theorem read_of_copy :
    (made.put target (.file [])).read source = .ok (if target = file then [] else bytes) := by
  obtain ⟨hbelow, -⟩ := writeEntry_cases hg.closed hplain hpass hm hg.directory hw
  refine read_emptied hbelow.ne_nil ?_ (((above_paves hplain hm).get?_iff (by simp) file).2 hheld)
  exact canonical_keeps (keeps_of_copy hg hplain hpass hm hw []) hleads

/-- When a front part of the bytes of a file has been put where a copy goes, this is what the
copy has done. -/
theorem copies_of_copy (hfront : left <+: if target = file then [] else bytes) :
    ∃ entry, Copies source destination file entry target bytes left old made
      (made.put target (.file left)) := by
  have hpaves := above_paves hplain hm
  obtain ⟨hbelow, hfiles⟩ := writeEntry_cases hg.closed hplain hpass hm hg.directory hw
  obtain ⟨entry, hentry, htarget⟩ :=
    target_cases_of_writeEntry hplain hg.closed hpass hm hfiles hw
  refine ⟨entry, hpaves, hleads, hheld, hentry, htarget, fun node hnode => ?_, hfront,
    get?_put_self hbelow.ne_nil _ made, fun place => get?_put_of_ne hbelow.ne_nil _ made⟩
  by_cases hd : node = .directory
  · subst hd
    obtain ⟨hgrows, -⟩ := grows_of_makeDirs hg.closed hplain hpass hm
    exact hfiles _ (hgrows.keeps.directory hnode)
  · exact hfiles _ ((hpaves.get?_iff hd target).2 hnode)

/-- When all of the bytes have been put there, the source still leads to the file, whose
entry can be taken away, and with this the move is done. -/
theorem moves_of_copy (hsource : ∀ n ∈ source, Path.isPlain n = true) :
    let copied := made.put target (.file (if target = file then [] else bytes))
    ∃ origin entry node, copied.entryOf source = .ok origin ∧ copied.get? origin = some node ∧
      node ≠ .directory ∧
      Moves source destination origin file entry target bytes old made (copied.erase origin) := by
  intro copied
  obtain ⟨origin, horigin, hcases⟩ := entry_of_file hsource hleads hheld
  obtain ⟨entry, hcopies⟩ :=
    copies_of_copy hg hplain hpass hm hw hleads hheld (List.prefix_refl _)
  obtain ⟨hbelow, hfiles⟩ := writeEntry_cases hg.closed hplain hpass hm hg.directory hw
  have hkeeps : Keeps old copied := keeps_of_copy hg hplain hpass hm hw _
  have hway : copied.canonical source = .ok file := canonical_keeps hkeeps hleads
  have hself : copied.get? target = some (.file (if target = file then [] else bytes)) :=
    hcopies.here
  -- Whether or not it has been emptied, the file holds what is copied.
  have hfile : copied.get? file = some (.file (if target = file then [] else bytes)) := by
    by_cases heq : target = file
    · exact heq ▸ hself
    · rw [hcopies.frame file (Ne.symm heq), if_neg heq,
        (hcopies.paved.get?_iff (by simp) file).2 hheld]
  have horigin' : copied.entryOf source = .ok origin := entryOf_keeps hkeeps horigin
  have hroot := (inDirectory_of_entryOf horigin').ne_nil
  have hdest : copied.canonical destination = .ok target :=
    canonical_of_writeEntry hplain hw (.put_file made hbelow.ne_nil _ hfiles)
  obtain ⟨node, hnode, hnd⟩ := entry_ne_directory hsource hway horigin' hfile
  have hlink : ∀ link, old.get? target ≠ some (.link link) := by
    intro link hlink
    obtain ⟨_, h⟩ := hcopies.before _ hlink
    cases h
  refine ⟨origin, entry, node, horigin', hnode, hnd, ?_⟩
  exact {
    paved := hcopies.paved
    leads := hleads
    held := hheld
    origin_eq := horigin
    origin_cases := hcases
    entry_eq := hcopies.entry_eq
    target_cases := hcopies.target_cases
    target_no_link := hlink
    gone := by rw [get?_erase hroot, if_pos rfl]
    frame := fun place hplace htarget => by
      rw [get?_erase hroot, if_neg hplace]
      exact hcopies.frame place htarget
    arrives := fun hother => by
      have hthere : (copied.erase origin).get? target = some (.file bytes) := by
        rw [get?_erase hroot, if_neg (ne_origin hcases hlink hother), hself, if_neg hother]
      refine ⟨hthere, file?_eq_some.2 ⟨target, ?_, hthere⟩⟩
      exact canonical_erase hsource hway horigin' hfile hdest hother
    emptied := fun hsame hkept => by
      rw [get?_erase hroot, if_neg hkept, hself, if_pos hsame]
    returns := fun hsame place hplace => by
      have hback := canonical_of_erase hroot hplace
      rw [hdest, Except.ok.injEq] at hback
      exact hback.symm.trans hsame }

end Copied

end FileTree

namespace Session

variable {s : Session} {source destination : Path}

/-- What is at the entry of a path, and is no directory, is removed unless this is refused. -/
theorem remove_of_entry (hreal : s.dryRun = false) {path entry : Path} {node : Node}
    (he : s.tree.entryOf path = .ok entry) (hnode : s.tree.get? entry = some node)
    (hd : node ≠ .directory) :
    s.remove path = match s.refusals.remove s.tree path with
      | none => ({ s with tree := s.tree.erase entry }, .ok ())
      | some e => (s, .error e) := by
  rw [remove_real hreal]
  cases s.refusals.remove s.tree path with
  | none => simp only [change, remove_eq_ok.2 ⟨entry, node, he, hnode, hd, rfl⟩]
  | some e => rfl

/-- A move was refused when bytes had been copied: the copy was broken off, or the source may
not be removed.  Of the bytes `full` that were to be copied `left` are there in the tree
`after`. -/
def Stopped (s : Session) (source destination : Path) (full left : Bytes)
    (made after : FileTree) (e : FileError) : Prop :=
  (∃ count, s.refusals.copyFile made source destination = some (.broken count e) ∧
      left = full.take count) ∨
    (left = full ∧ s.refusals.remove after source = some e)

/-- A move is carried out to its end, or it is stopped by a refusal when bytes have been
copied, or it fails when nothing but directories has been made. -/
theorem move_footprint (hreal : s.dryRun = false) (hg : Grounded s.tree s.base)
    (hplain : ∀ n ∈ destination, Path.isPlain n = true)
    (hpass : Guard.Allows s.tree s.base destination)
    (hsource : ∀ n ∈ source, Path.isPlain n = true) {bytes : Bytes}
    (hfile : s.tree.file? source = some bytes) :
    ((s.move source destination).2 = .ok () ∧ ∃ made origin file entry target,
        s.tree.makeDirs destination.dropLast s.refusals = (made, .ok ()) ∧
        made.writeEntry destination = .ok target ∧
        Moves source destination origin file entry target bytes s.tree made
          (s.move source destination).1.tree) ∨
      ∃ e, (s.move source destination).2 = .error e ∧
        ((∃ made file entry target left,
            Copies source destination file entry target bytes left s.tree made
              (s.move source destination).1.tree ∧
            s.Stopped source destination (if target = file then [] else bytes) left made
              (s.move source destination).1.tree e) ∨
          Paves destination.dropLast s.tree (s.move source destination).1.tree) := by
  obtain ⟨file, hleads, hheld⟩ := file?_eq_some.1 hfile
  obtain ⟨made, res, hm, ⟨target, full, kept, out, rfl, hw, hread, hkeeping, hcopy⟩ | ⟨e, hcopy⟩⟩ :=
    s.copyIn_cases source destination
  · rw [read_of_copy hg hplain hpass hm hw hleads hheld, Except.ok.injEq] at hread
    subst hread
    rcases hkeeping with ⟨rfl, rfl⟩ | ⟨count, e, hbroken, rfl, rfl⟩
    · obtain ⟨origin, entry, node, horigin, hnode, hnd, hmoves⟩ :=
        moves_of_copy hg hplain hpass hm hw hleads hheld hsource
      let copied : Session :=
        { s with tree := made.put target (.file (if target = file then [] else bytes)) }
      have hmove : s.move source destination = copied.remove source := by
        rw [move_real hreal, hcopy]
      rw [hmove, remove_of_entry (s := copied) hreal horigin hnode hnd]
      cases hrefusal : copied.refusals.remove copied.tree source with
      | none => exact .inl ⟨rfl, made, origin, file, entry, target, hm, hw, hmoves⟩
      | some e =>
          obtain ⟨entry, hcopies⟩ :=
            copies_of_copy hg hplain hpass hm hw hleads hheld (List.prefix_refl _)
          exact .inr ⟨e, rfl, .inl ⟨made, file, entry, target, _, hcopies, .inr ⟨rfl, hrefusal⟩⟩⟩
    · obtain ⟨entry, hcopies⟩ :=
        copies_of_copy hg hplain hpass hm hw hleads hheld (List.take_prefix count _)
      rw [move_real hreal, hcopy]
      exact .inr ⟨e, rfl, .inl ⟨made, file, entry, target, _, hcopies, .inl ⟨count, hbroken, rfl⟩⟩⟩
  · rw [move_real hreal, hcopy]
    exact .inr ⟨e, rfl, .inr (above_paves hplain hm)⟩

end Session

end Emend
