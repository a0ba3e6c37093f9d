import Mathlib.Order.Bounds.Basic
import Emend.Proofs.Match.Find
/-!
# Levels of braces

Two scans look for closing braces.  One counts from the brace that opens a block to the one
that closes it (`Braces.closing?`).  The other counts from the first brace after an anchor and
looks for the end of a level (`Braces.scopeEnd?`); it may come back to this level after deeper
blocks, and it falls back to the first block if the level is not there.

* The brace at which a level starts is the first one that brings the nesting to this level while
  the first block is still open (`Braces.Deepens`).
* From there on the second scan does what the first one does (`Braces.scopeEndFrom?_eq`), so it
  ends where the block closes that starts the level (`Braces.scopeEnd?_eq`).

The end of an anchor's region is this brace (`scope_closes_level`).
-/

namespace Emend

namespace Braces

variable {target depth n : Nat} {t rest after content : Text}

/-! ## Nesting -/

/-- By how many blocks more a text opens than it closes. -/
def level (t : Text) : Int := t.count '{' - t.count '}'

theorem level_append (a b : Text) : level (a ++ b) = level a + level b := by
  simp only [level, List.count_append]
  omega

theorem level_cons (c : Char) (t : Text) : level (c :: t) = level [c] + level t :=
  level_append [c] t

theorem level_opening : level ['{'] = 1 := by decide

theorem level_closing : level ['}'] = -1 := by decide

theorem level_of_ne {c : Char} (hopen : c ≠ '{') (hclose : c ≠ '}') : level [c] = 0 := by
  simp [level, hopen, hclose]

/-- From a nesting of `depth` on, some block stays open all through a text, and a brace after it
brings the nesting to `target`. -/
structure Deepens (depth target : Int) (inside : Text) : Prop where
  /-- No part of the text closes all blocks. -/
  stays : ∀ part, part ≠ [] → part <+: inside → 0 < depth + level part
  /-- The nesting after one more block has been opened. -/
  reaches : depth + level inside + 1 = target

theorem deepens_nil {depth target : Int} : Deepens depth target [] ↔ depth + 1 = target := by
  constructor
  · intro h
    simpa [level] using h.reaches
  · intro h
    refine ⟨fun part hne hpart => absurd (List.prefix_nil.1 hpart) hne, ?_⟩
    simpa [level] using h

theorem deepens_cons {depth target : Int} {c : Char} {inside : Text} :
    Deepens depth target (c :: inside) ↔
      0 < depth + level [c] ∧ Deepens (depth + level [c]) target inside := by
  constructor
  · rintro ⟨hstays, hreaches⟩
    rw [level_cons] at hreaches
    refine ⟨hstays [c] (by simp) ⟨inside, rfl⟩, fun part _ hpart => ?_, by omega⟩
    have hpos := hstays (c :: part) (by simp) (List.cons_prefix_cons.2 ⟨rfl, hpart⟩)
    rw [level_cons] at hpos
    omega
  · rintro ⟨hpos, hstays, hreaches⟩
    refine ⟨fun part hne hpart => ?_, by rw [level_cons]; omega⟩
    cases part with
    | nil => exact absurd rfl hne
    | cons d part =>
        obtain ⟨rfl, htail⟩ := List.cons_prefix_cons.1 hpart
        by_cases hnil : part = []
        · rwa [hnil]
        · have hlater := hstays part hnil htail
          rw [level_cons]
          omega

/-! ## The brace that starts a level -/

/-- The offset of the first brace that brings the nesting to `target` before all blocks are
closed, in a text at `offset` with `depth` open blocks, and what follows it. -/
def levelStart? (target depth offset : Nat) : Text → Option (Nat × Text)
  | [] => none
  | c :: t =>
    let next := offset + c.utf8Size
    if c = '{' then
      if depth + 1 = target then some (offset, t) else levelStart? target (depth + 1) next t
    else if c = '}' then if depth ≤ 1 then none else levelStart? target (depth - 1) next t
    else levelStart? target depth next t

/-- A text starts with a part that deepens the nesting to `target`, or it starts with `c`, which
does not do so, and one follows `c`. -/
theorem deepens_of_append {c : Char} {target depth : Int} {t inside after : Text}
    (h : c :: t = inside ++ '{' :: after) (hdeep : Deepens depth target inside) :
    (c = '{' ∧ depth + 1 = target) ∨
      ∃ later, inside = c :: later ∧ t = later ++ '{' :: after ∧ 0 < depth + level [c] ∧
        Deepens (depth + level [c]) target later := by
  cases inside with
  | nil =>
      cases h
      exact .inl ⟨rfl, deepens_nil.1 hdeep⟩
  | cons d later =>
      cases h
      exact .inr ⟨later, rfl, rfl, deepens_cons.1 hdeep⟩

theorem not_deepens_of_levelStart? (h : levelStart? target depth n t = none) (inside after : Text)
    (ht : t = inside ++ '{' :: after) : ¬ Deepens depth target inside := by
  induction t generalizing depth n inside with
  | nil => simp at ht
  | cons c t ih =>
      intro hdeep
      rw [levelStart?] at h
      rcases deepens_of_append ht hdeep with ⟨rfl, hhere⟩ | ⟨later, -, rfl, hpos, hlater⟩
      · rw [if_pos rfl, if_pos (by omega)] at h
        cases h
      · split at h
        · next hc =>
          subst hc
          have hdepth : (depth : Int) + level ['{'] = (depth + 1 : Nat) := by
            rw [level_opening]
            omega
          split at h
          · cases h
          · exact ih h later rfl (hdepth ▸ hlater)
        · split at h
          · next hc =>
            subst hc
            rw [level_closing] at hpos hlater
            have hdepth : (depth : Int) + -1 = (depth - 1 : Nat) := by omega
            rw [if_neg (by omega)] at h
            exact ih h later rfl (hdepth ▸ hlater)
          · next hopen hclose =>
            rw [level_of_ne hopen hclose, Int.add_zero] at hlater
            exact ih h later rfl hlater

/-- Behind its first part, of which the first brace after it deepens the nesting to `target`, a
text at `n` goes on with `rest`; the brace is at `k`. -/
def StartsLevel (target : Nat) (depth : Int) (n : Nat) (t : Text) (k : Nat) (rest : Text) : Prop :=
  ∃ inside, t = inside ++ '{' :: rest ∧ k = n + Text.size inside ∧ Deepens depth target inside ∧
    ∀ other after, t = other ++ '{' :: after → Deepens depth target other →
      Text.size inside ≤ Text.size other

/-- One more character in front does not start the level, so the level starts where it did. -/
theorem StartsLevel.cons {depth : Int} {k : Nat} {c : Char}
    (h : StartsLevel target (depth + level [c]) (n + c.utf8Size) t k rest)
    (hpos : 0 < depth + level [c]) (hnot : ¬ (c = '{' ∧ depth + 1 = target)) :
    StartsLevel target depth n (c :: t) k rest := by
  obtain ⟨inside, rfl, rfl, hdeep, hleast⟩ := h
  refine ⟨c :: inside, rfl, by rw [Text.size, Nat.add_assoc], deepens_cons.2 ⟨hpos, hdeep⟩, ?_⟩
  intro other after hother hdeeper
  rcases deepens_of_append hother hdeeper with hhere | ⟨later, rfl, heq, -, hlater⟩
  · exact absurd hhere hnot
  · have hle := hleast later after heq hlater
    rw [Text.size, Text.size]
    omega

theorem startsLevel_of_levelStart? {k : Nat} (hdepth : 0 < depth)
    (h : levelStart? target depth n t = some (k, rest)) : StartsLevel target depth n t k rest := by
  induction t generalizing depth n with
  | nil => cases h
  | cons c t ih =>
      rw [levelStart?] at h
      split at h
      · next hc =>
        subst hc
        split at h
        · next hhere =>
          cases h
          exact ⟨[], rfl, rfl, deepens_nil.2 (by omega), fun _ _ _ _ => Nat.zero_le _⟩
        · next hnot =>
          refine StartsLevel.cons ?_ (by rw [level_opening]; omega) (by omega)
          rw [level_opening]
          exact ih (Nat.succ_pos depth) h
      · next hopen =>
        split at h
        · next hc =>
          subst hc
          split at h
          · cases h
          · refine StartsLevel.cons ?_ (by rw [level_closing]; omega) (by simp)
            have hnext : (depth : Int) + level ['}'] = (depth - 1 : Nat) := by
              rw [level_closing]
              omega
            rw [hnext]
            exact ih (by omega) h
        · next hclose =>
          have hnext : (depth : Int) + level [c] = depth := by
            rw [level_of_ne hopen hclose, Int.add_zero]
          refine StartsLevel.cons ?_ (by omega) (fun hhere => hopen hhere.1)
          rw [hnext]
          exact ih hdepth h

/-- The same for a text that starts with the brace of the first block. -/
theorem startsLevel_of_opening {k : Nat}
    (h : levelStart? target 0 n ('{' :: t) = some (k, rest)) :
    StartsLevel target 0 n ('{' :: t) k rest := by
  rw [levelStart?, if_pos rfl] at h
  split at h
  · next hhere =>
    cases h
    exact ⟨[], rfl, rfl, deepens_nil.2 (by omega), fun _ _ _ _ => Nat.zero_le _⟩
  · next hnot =>
    exact (startsLevel_of_levelStart? Nat.one_pos h).cons (by decide) (by omega)

/-! ## The end of a level -/

/-- Once the level is reached, its end is where the block closes that started it. -/
theorem scopeEndFrom?_of_reached (target depth n : Nat) (t : Text) :
    scopeEndFrom? (target + 1) true (target + (depth + 1)) n t =
      (closingFrom? (depth + 1) n t).map (· + 1) := by
  induction t generalizing depth n with
  | nil => rfl
  | cons c t ih =>
      rw [scopeEndFrom?, closingFrom?]
      split
      · exact ih (depth + 1) _
      · split
        · next hc =>
          subst hc
          cases depth with
          | zero => simp [show Char.utf8Size '}' = 1 from rfl]
          | succ depth =>
              have hdeeper : target + depth + 1 ≠ target := by omega
              simpa [hdeeper, ← Nat.add_assoc] using ih depth (n + Char.utf8Size '}')
        · exact ih depth _

/-- The end of a level is where the block closes that starts the level, or where the blocks close
that are open, if no block starts it. -/
theorem scopeEndFrom?_eq (target depth n : Nat) (t : Text) :
    scopeEndFrom? target false depth n t =
      match levelStart? target depth n t with
      | some (k, rest) => (closingFrom? 1 (k + 1) rest).map (· + 1)
      | none => (closingFrom? depth n t).map (· + 1) := by
  induction t generalizing depth n with
  | nil => rfl
  | cons c t ih =>
      rw [scopeEndFrom?, closingFrom?, levelStart?]
      split
      · next hc =>
        subst hc
        by_cases hhere : depth + 1 = target
        · subst hhere
          simpa [show Char.utf8Size '{' = 1 from rfl] using
            scopeEndFrom?_of_reached depth 0 (n + 1) t
        · have hbeq : (depth + 1 == target) = false := beq_false_of_ne hhere
          simpa [hhere, hbeq] using ih (depth + 1) (n + Char.utf8Size '{')
      · split
        · next hc =>
          subst hc
          rcases depth with _ | _ | depth
          · simp
          · simp [show Char.utf8Size '}' = 1 from rfl]
          · simpa using ih (depth + 1) (n + Char.utf8Size '}')
        · exact ih depth _

/-! ## In a content -/

/-- A brace that opens a block stands at an offset. -/
def OpensAt (content : Text) (n : Nat) : Prop :=
  ∃ before after, content = before ++ '{' :: after ∧ Text.size before = n

/-- The brace at `k` brings the nesting, counted from `start`, to `target` while the block that is
opened at `start` is still open. -/
def OpensLevel (content : Text) (start target k : Nat) : Prop :=
  ∃ before inside after, content = before ++ (inside ++ '{' :: after) ∧
    Text.size before = start ∧ k = start + Text.size inside ∧ Deepens 0 target inside

/-- Where the block starts with which a level, counted from `start`, ends: at the first brace that
brings the nesting to the level, and at `start` if there is none. -/
def IsLevelStart (content : Text) (start target k : Nat) : Prop :=
  IsLeast {k | OpensLevel content start target k} k ∨
    (∀ k, ¬ OpensLevel content start target k) ∧ k = start

theorem IsLevelStart.unique {start k k' : Nat} (h : IsLevelStart content start target k)
    (h' : IsLevelStart content start target k') : k = k' := by
  rcases h with h | ⟨hnone, rfl⟩ <;> rcases h' with h' | ⟨hnone', rfl⟩
  · exact h.unique h'
  · exact absurd h.1 (hnone' k)
  · exact absurd h'.1 (hnone k')
  · rfl

theorem opensLevel_iff {before : Text} {k : Nat} :
    OpensLevel (before ++ t) (Text.size before) target k ↔
      ∃ inside after, t = inside ++ '{' :: after ∧ k = Text.size before + Text.size inside ∧
        Deepens 0 target inside := by
  constructor
  · rintro ⟨front, inside, after, heq, hsize, hk, hdeep⟩
    obtain ⟨more, rfl, rfl⟩ := Text.append_eq_of_size_le heq (Nat.le_of_eq hsize.symm)
    rw [Text.size_append] at hsize
    obtain rfl : more = [] := Text.eq_nil_of_size (by omega)
    exact ⟨inside, after, rfl, hk, hdeep⟩
  · rintro ⟨inside, after, rfl, hk, hdeep⟩
    exact ⟨before, inside, after, rfl, rfl, hk, hdeep⟩

theorem closing?_size (before after : Text) :
    closing? (Text.size before) (before ++ '{' :: after) =
      closingFrom? 1 (Text.size before + 1) after := by
  rw [closing?, Text.splitAt?_size]
  rfl

/-- A level ends where the block closes that starts it. -/
theorem scopeEnd?_eq {start : Nat} (target : Nat) (h : OpensAt content start) :
    ∃ k, IsLevelStart content start target k ∧
      scopeEnd? start target content = (closing? k content).map (· + 1) := by
  obtain ⟨before, after, rfl, rfl⟩ := h
  have hend : scopeEnd? (Text.size before) target (before ++ '{' :: after) =
      scopeEndFrom? target false 0 (Text.size before) ('{' :: after) := by
    rw [scopeEnd?, Text.splitAt?_size]
    rfl
  rw [hend, scopeEndFrom?_eq]
  cases hstart : levelStart? target 0 (Text.size before) ('{' :: after) with
  | none =>
      refine ⟨Text.size before, .inr ⟨fun k hk => ?_, rfl⟩, ?_⟩
      · obtain ⟨inside, later, heq, -, hdeep⟩ := opensLevel_iff.1 hk
        exact not_deepens_of_levelStart? hstart inside later heq hdeep
      · rw [closing?_size]
        rfl
  | some found =>
      obtain ⟨k, rest⟩ := found
      obtain ⟨inside, heq, rfl, hdeep, hleast⟩ := startsLevel_of_opening hstart
      refine ⟨_, .inl ⟨opensLevel_iff.2 ⟨inside, rest, heq, rfl, hdeep⟩, ?_⟩, ?_⟩
      · rintro k hk
        obtain ⟨other, later, hother, rfl, hdeeper⟩ := opensLevel_iff.1 hk
        have hle := hleast other later hother hdeeper
        omega
      · rw [heq, ← List.append_assoc, ← Text.size_append, closing?_size]

/-- The end of the first level is where the block closes. -/
theorem scopeEnd?_one {start : Nat} (h : OpensAt content start) :
    scopeEnd? start 1 content = (closing? start content).map (· + 1) := by
  obtain ⟨k, hk, hend⟩ := scopeEnd?_eq 1 h
  obtain ⟨before, after, rfl, rfl⟩ := h
  have hhere : OpensLevel (before ++ '{' :: after) (Text.size before) 1 (Text.size before) :=
    opensLevel_iff.2 ⟨[], after, rfl, rfl, deepens_nil.2 rfl⟩
  have hleast : IsLevelStart (before ++ '{' :: after) (Text.size before) 1 (Text.size before) :=
    .inl ⟨hhere, fun other hother => by
      obtain ⟨inside, -, -, rfl, -⟩ := opensLevel_iff.1 hother
      exact Nat.le_add_right _ _⟩
  rw [hend, hk.unique hleast]

/-! ## The first brace from a place on -/

theorem opensAt_iff {before rest : Text} {k : Nat} (hk : Text.size before ≤ k) :
    OpensAt (before ++ rest) k ↔
      ∃ inside after, rest = inside ++ '{' :: after ∧ k = Text.size before + Text.size inside := by
  constructor
  · rintro ⟨front, after, heq, rfl⟩
    obtain ⟨inside, rfl, rfl⟩ := Text.append_eq_of_size_le heq hk
    exact ⟨inside, after, rfl, Text.size_append before inside⟩
  · rintro ⟨inside, after, rfl, rfl⟩
    exact ⟨before ++ inside, after, by simp, Text.size_append before inside⟩

theorem opening?_eq_some_iff {start k : Nat} (h : Text.isBoundary start content = true) :
    opening? start content = some k ↔ IsLeast {k | OpensAt content k ∧ start ≤ k} k := by
  obtain ⟨before, rest, rfl, rfl⟩ := Text.isBoundary_iff.1 h
  have hopening : opening? (Text.size before) (before ++ rest) =
      (Text.breakOn? ['{'] rest).map fun cut => Text.size before + Text.size cut.1 := by
    simp only [opening?, Text.splitAt?_size, Option.bind_eq_bind, Option.bind_some]
    cases Text.breakOn? ['{'] rest <;> rfl
  rcases Text.breakOn?_singleton '{' rest with
    ⟨hnone, hbreak⟩ | ⟨front, back, rfl, hfront, hbreak⟩
  · rw [hopening, hbreak]
    constructor
    · intro h
      cases h
    · rintro ⟨⟨hopens, hle⟩, -⟩
      obtain ⟨inside, after, rfl, -⟩ := (opensAt_iff hle).1 hopens
      simp at hnone
  · have hleast : IsLeast {k | OpensAt (before ++ (front ++ '{' :: back)) k ∧ Text.size before ≤ k}
        (Text.size before + Text.size front) := by
      refine ⟨⟨(opensAt_iff (Nat.le_add_right _ _)).2 ⟨front, back, rfl, rfl⟩,
        Nat.le_add_right _ _⟩, ?_⟩
      rintro other ⟨hopens, hle⟩
      obtain ⟨inside, after, heq, rfl⟩ := (opensAt_iff hle).1 hopens
      by_contra hlt
      -- A brace further left would be one in front of the first brace.
      obtain ⟨more, rfl, hmore⟩ := Text.append_eq_of_size_le heq.symm (by omega)
      cases more with
      | nil => simp at hlt
      | cons d more =>
          cases hmore
          simp at hfront
    rw [hopening, hbreak]
    simp only [Option.map_some, Option.some.injEq]
    exact ⟨fun heq => heq ▸ hleast, fun hk => hleast.unique hk⟩

end Braces

/-! ## Regions of anchors -/

/-- The region of an anchor reaches from the anchor to the brace that closes the level. -/
theorem Anchor.region?_eq_some_iff {content : Text} {anchor : Anchor} {options : MatchOptions}
    {found : Match} (hfound : anchor.locate content options = some found)
    (hscope : anchor.scope ≠ .file) (region : Span) :
    anchor.region? content options = some region ↔
      region.start = found.span.start ∧ ∃ first k close,
        IsLeast {k | Braces.OpensAt content k ∧ found.span.start ≤ k} first ∧
        Braces.IsLevelStart content first (max anchor.depth 1).toNat k ∧
        Braces.closing? k content = some close ∧ region.stop = close + 1 := by
  have hplace := ((Checked.locate_agrees content options anchor).exact found hfound).fits.start
  have hregion : anchor.region? content options =
      (Braces.opening? found.span.start content).bind fun first =>
        (Braces.scopeEnd? first anchor.targetDepth content).map fun stop =>
          ⟨found.span.start, stop⟩ := by
    simp only [Anchor.region?, hfound, hscope, if_false, Option.bind_eq_bind, Option.bind_some,
      Option.pure_def, Option.map_eq_bind]
    rfl
  rw [hregion, Option.bind_eq_some_iff]
  constructor
  · rintro ⟨first, hfirst, hstop⟩
    have hleast := (Braces.opening?_eq_some_iff hplace).1 hfirst
    obtain ⟨k, hk, hend⟩ := Braces.scopeEnd?_eq anchor.targetDepth hleast.1.1
    rw [hend, Option.map_map, Option.map_eq_some_iff] at hstop
    obtain ⟨close, hclose, rfl⟩ := hstop
    exact ⟨rfl, first, k, close, hleast, hk, hclose, rfl⟩
  · rintro ⟨hstart, first, k, close, hleast, hk, hclose, hstop⟩
    obtain ⟨k', hk', hend⟩ := Braces.scopeEnd?_eq anchor.targetDepth hleast.1.1
    refine ⟨first, (Braces.opening?_eq_some_iff hplace).2 hleast, ?_⟩
    rw [hend, hk'.unique hk, hclose, Option.map_some, Option.map_some, ← hstart, ← hstop]

/-- The end of a level is just past the brace that closes the block with which the level starts,
which is the first block if no brace brings the nesting to the level before that block closes.
The region of an anchor with another scope than the file ends so: it starts at the anchor, and
the level is counted from the first brace there. -/
theorem scope_closes_level (content : Text) :
    (∀ start target, Braces.OpensAt content start →
      ∃ k, (∀ k', Braces.IsLevelStart content start target k' ↔ k' = k) ∧
        Braces.scopeEnd? start target content = (Braces.closing? k content).map (· + 1)) ∧
    (∀ start, Braces.OpensAt content start →
      Braces.scopeEnd? start 1 content = (Braces.closing? start content).map (· + 1)) ∧
    ∀ (anchor : Anchor) (options : MatchOptions) (found : Match),
      anchor.locate content options = some found → anchor.scope ≠ .file → ∀ region,
        (anchor.region? content options = some region ↔
          region.start = found.span.start ∧ ∃ first k close,
            IsLeast {k | Braces.OpensAt content k ∧ found.span.start ≤ k} first ∧
            Braces.IsLevelStart content first (max anchor.depth 1).toNat k ∧
            Braces.closing? k content = some close ∧ region.stop = close + 1) := by
  refine ⟨fun start target hopens => ?_, fun start => Braces.scopeEnd?_one, ?_⟩
  · obtain ⟨k, hk, hend⟩ := Braces.scopeEnd?_eq target hopens
    exact ⟨k, fun k' => ⟨fun hk' => hk'.unique hk, fun heq => heq ▸ hk⟩, hend⟩
  · exact fun _ _ _ => Anchor.region?_eq_some_iff

/-- A block with two blocks in it, of which the first holds another one. -/
def nestedBlocks : Text := "f{a{b{}c}d{}}".toList

/-- An anchor at the second level of the block that follows it. -/
def secondLevel : Anchor := ⟨['f'], .contains, .block, 2⟩

theorem scope_closes_level_nested :
    Braces.OpensAt nestedBlocks 1 ∧
      secondLevel.locate nestedBlocks {} = some ⟨⟨0, 1⟩, ['f']⟩ ∧ secondLevel.scope ≠ .file ∧
      (∃ k, (∀ k', Braces.IsLevelStart nestedBlocks 1 2 k' ↔ k' = k) ∧
        (Braces.closing? k nestedBlocks).map (· + 1) = some 9) ∧
      ∃ first k, IsLeast {k | Braces.OpensAt nestedBlocks k ∧ 0 ≤ k} first ∧
        Braces.IsLevelStart nestedBlocks first 2 k ∧ Braces.closing? k nestedBlocks = some 8 := by
  have hopens : Braces.OpensAt nestedBlocks 1 := ⟨['f'], nestedBlocks.drop 2, by decide, by decide⟩
  have hlocate : secondLevel.locate nestedBlocks {} = some ⟨⟨0, 1⟩, ['f']⟩ := by rfl
  have hscope : secondLevel.scope ≠ .file := by decide
  have hregion : secondLevel.region? nestedBlocks {} = some ⟨0, 9⟩ := by rfl
  obtain ⟨hlevel, -, hanchor⟩ := scope_closes_level nestedBlocks
  obtain ⟨k, hk, hend⟩ := hlevel 1 2 hopens
  obtain ⟨-, first, k', close, hfirst, hk', hclose, hstop⟩ :=
    (hanchor secondLevel {} _ hlocate hscope ⟨0, 9⟩).1 hregion
  obtain rfl : close = 8 := by
    simp only at hstop
    omega
  exact ⟨hopens, hlocate, hscope, ⟨k, hk, hend.symm⟩, first, k', hfirst, hk', hclose⟩

end Emend
