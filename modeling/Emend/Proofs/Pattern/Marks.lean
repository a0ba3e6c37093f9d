import Emend.Proofs.Pattern.Invariants
import Emend.Proofs.Text.Places
/-!
# Where patterns match

A search notes places of the text only, and none of them lies ahead of it
(`Marks.Within`).  Every thread ends with the mark that closes the match as a whole
(`Closing`), so when a match is found this mark has been noted last, at the place where
the search is.  Hence the place of a match fits the text (`Found.fits`).

The threads that go on at a place keep this of the front (`Front.Sound`), whichever step
they take (`SoundAt.step`), and so does a search from place to place (`lasts_sound`).
-/

namespace Emend.Pattern

variable {content : Text}

/-- All offsets noted are places up to a bound. -/
def Marks.Within (content : Text) (bound : Nat) (m : Marks) : Prop :=
  ∀ e ∈ m, Text.isBoundary e.2 content = true ∧ e.2 ≤ bound

theorem Marks.Within.mono {m : Marks} {a b : Nat} (h : m.Within content a) (hab : a ≤ b) :
    m.Within content b :=
  fun e he => ⟨(h e he).1, Nat.le_trans (h e he).2 hab⟩

/-- A pattern ends with the mark that closes a match. -/
def Node.Closes : Node → Prop
  | .mark slot => slot = 1
  | .seq _ b => b.Closes
  | _ => False

/-- The last one of some patterns closes the match. -/
def Closing : List Node → Prop
  | [] => False
  | [n] => n.Closes
  | _ :: n :: ns => Closing (n :: ns)

theorem closing_cons (n : Node) {rest : List Node} (h : Closing rest) : Closing (n :: rest) := by
  cases rest with
  | nil => exact absurd h id
  | cons => exact h

theorem Closing.tail {n : Node} {rest : List Node} (h : Closing (n :: rest)) (hn : ¬n.Closes) :
    Closing rest := by
  cases rest with
  | nil => exact absurd h hn
  | cons => exact h

theorem Closing.of_seq {a b : Node} {rest : List Node} (h : Closing (.seq a b :: rest)) :
    Closing (a :: b :: rest) := by
  cases rest with
  | nil => exact h
  | cons => exact h

/-- What a thread has noted lies behind, and it will close the match. -/
structure Thread.Sound (content : Text) (bound : Nat) (t : Thread) : Prop where
  /-- The last pattern closes the match. -/
  closing : Closing t.rest
  /-- The marks lie behind. -/
  within : t.marks.Within content bound

/-- Of a front, the threads are sound, and a match has been closed where the front is. -/
structure Front.Sound (content : Text) (p : Place) (f : Front) : Prop where
  /-- The threads are sound. -/
  next : ∀ t ∈ f.next, t.Sound content p.offset
  /-- A match ends here. -/
  found : ∀ m, f.found = some m → m.Within content p.offset ∧ m.lookup 1 = some p.offset

namespace Front

theorem sound_empty (content : Text) (p : Place) : Sound content p {} :=
  ⟨by simp, by simp⟩

end Front

/-! ## At a place -/

section Place

variable {p : Place}

/-- A thread at a place is sound, or it has closed the match there. -/
def SoundAt (content : Text) (p : Place) (m : Marks) (ns : List Node) : Prop :=
  Thread.Sound content p.offset ⟨ns, m⟩ ∨
    ns = [] ∧ m.Within content p.offset ∧ m.lookup 1 = some p.offset

theorem SoundAt.step (hp : Text.isBoundary p.offset content = true) {m m' : Marks}
    {ns ns' : List Node} (hstep : Goes p m ns m' ns') (h : SoundAt content p m ns) :
    SoundAt content p m' ns' := by
  obtain ⟨hclosing, hwithin⟩ | ⟨rfl, -⟩ := h
  · cases hstep with
    | empty | look | leave => exact .inl ⟨hclosing.tail id, hwithin⟩
    | @mark _ slot =>
        have hnoted : Marks.Within content p.offset ((slot, p.offset) :: m) :=
          List.forall_mem_cons.2 ⟨⟨hp, Nat.le_refl _⟩, hwithin⟩
        cases ns' with
        | nil =>
            obtain rfl : slot = 1 := hclosing
            exact .inr ⟨rfl, hnoted, List.lookup_cons_self⟩
        | cons n ns => exact .inl ⟨hclosing, hnoted⟩
    | seq => exact .inl ⟨hclosing.of_seq, hwithin⟩
    | first | second => exact .inl ⟨closing_cons _ (hclosing.tail id), hwithin⟩
    | again => exact .inl ⟨closing_cons _ hclosing, hwithin⟩
    | rounds =>
        exact .inl ⟨closing_cons _ (closing_cons _ (hclosing.tail id)), hwithin⟩
  · cases hstep

/-- At a place of the content, the front stays sound. -/
theorem keeps_sound (hp : Text.isBoundary p.offset content = true) :
    Front.Keeps p (SoundAt content p) (Front.Sound content p) where
  step := SoundAt.step hp
  passed f k hf := ⟨hf.next, hf.found⟩
  push f m rest k s c _ hf _ _ hm := by
    obtain ⟨hclosing, hwithin⟩ | ⟨hnil, -⟩ := hm
    · exact ⟨List.forall_mem_cons.2 ⟨⟨hclosing.tail id, hwithin⟩, hf.next⟩, hf.found⟩
    · cases hnil
  finish f m _ hf hm := by
    refine ⟨hf.next, fun found hfound => ?_⟩
    cases hfound
    exact (hm.resolve_left fun h => h.closing).2

theorem frontOf_sound (hp : Text.isBoundary p.offset content = true) (threads : List Thread)
    (h : ∀ t ∈ threads, t.Sound content p.offset) : (frontOf p threads).Sound content p :=
  (keeps_sound hp).frontOf (fun t ht => .inl (h t ht)) (Front.sound_empty content p)

end Place

/-! ## Searches -/

/-- A match has been closed at a place, and nothing noted lies behind it. -/
def Marks.Sound (content : Text) (m : Marks) : Prop :=
  ∃ stop, Text.isBoundary stop content = true ∧ m.Within content stop ∧ m.lookup 1 = some stop

/-- A search keeps its threads sound, and a match that it finds has been closed. -/
theorem lasts_sound (n : Node) (content : Text) :
    Thread.Keeps n content (fun head _ k => k.Sound content (Text.size head))
      (Marks.Sound content) where
  start _ _ _ := ⟨rfl, by simp [Marks.Within]⟩
  next {head c t threads} hcontent h k hk := by
    have hp : Text.isBoundary (Text.size head) content = true := by
      rw [hcontent]
      exact Text.isBoundary_size head (c :: t)
    obtain ⟨hclosing, hwithin⟩ :=
      (frontOf_sound (p := ⟨head.getLast?, some c, Text.size head⟩) hp threads h).next k hk
    refine ⟨hclosing, hwithin.mono ?_⟩
    rw [Text.size_concat]
    exact Nat.le_add_right _ _
  found {head t threads m} hcontent h hm := by
    have hp : Text.isBoundary (Text.size head) content = true := by
      rw [hcontent]
      exact Text.isBoundary_size head t
    obtain ⟨hwithin, hclosed⟩ :=
      (frontOf_sound (p := ⟨head.getLast?, t.head?, Text.size head⟩) hp threads h).found m hm
    exact ⟨Text.size head, hp, hwithin, hclosed⟩

/-- The place of a sound match fits the content. -/
theorem Found.fits {found : Found} (h : found.marks.Sound content) : found.span.Fits content := by
  obtain ⟨stop, hstop, hwithin, hclosed⟩ := h
  unfold Found.span Found.group? Found.slot?
  cases hstart : found.marks.lookup (2 * 0) with
  | none => exact Span.fits_zero content
  | some start =>
      obtain ⟨front, back, hmarks, -⟩ := List.lookup_eq_some_iff.1 hstart
      obtain ⟨hplace, hle⟩ := hwithin (2 * 0, start) (by rw [hmarks]; simp)
      simp only [hclosed, Option.bind_eq_bind, Option.bind_some]
      exact ⟨hle, hplace, hstop⟩

theorem findFrom_sound {n : Node} {head t : Text} {found : Found}
    (h : findFrom n head.getLast? (Text.size head) t = some found) :
    found.marks.Sound (head ++ t) := by
  obtain ⟨m, hm, rfl⟩ := Option.map_eq_some_iff.1 h
  exact (lasts_sound n (head ++ t)).run head t rfl (by simp) (by simp) m hm

theorem find_sound {n : Node} {t : Text} {found : Found} (h : find n t = some found) :
    found.marks.Sound t := by
  have hsound : found.marks.Sound ([] ++ t) := findFrom_sound h
  exact hsound

/-- A search for what can be made of a match depends on sound matches only. -/
theorem searchSome_congr {β γ : Type} (n : Node) (f : Found → Option β) (g : Found → Option γ)
    (k : β → γ) (head t : Text) (hcontent : content = head ++ t)
    (hfg : ∀ found, found.marks.Sound content → g found = (f found).map k) (resume : Nat) :
    searchSome n g resume head.getLast? (Text.size head) t =
      (searchSome n f resume head.getLast? (Text.size head) t).map k := by
  have hsound : ∀ {head t found}, content = head ++ t →
      findFrom n head.getLast? (Text.size head) t = some found → g found = (f found).map k :=
    fun hcontent h => hfg _ (hcontent ▸ findFrom_sound h)
  induction t generalizing head resume with
  | nil =>
      unfold searchSome
      split
      · rfl
      · cases hfound : findFrom n head.getLast? (Text.size head) [] with
        | none => rfl
        | some found => simpa using hsound hcontent hfound
  | cons c t ih =>
      have hlast : (head ++ [c]).getLast? = some c := List.getLast?_concat
      have hnext := ih (head ++ [c]) (hcontent.trans (List.append_cons head c t))
      rw [hlast, Text.size_concat] at hnext
      unfold searchSome
      split
      · exact hnext resume
      · cases hfound : findFrom n head.getLast? (Text.size head) (c :: t) with
        | none => rfl
        | some found =>
            have hg := hsound hcontent hfound
            cases hf : f found with
            | some b => simp [hg, hf]
            | none => simpa [hg, hf] using hnext _

theorem findSome_congr {β γ : Type} (n : Node) (f : Found → Option β) (g : Found → Option γ)
    (k : β → γ) (t : Text) (hfg : ∀ found, found.marks.Sound t → g found = (f found).map k) :
    findSome n g t = (findSome n f t).map k :=
  searchSome_congr n f g k [] t rfl hfg 0

open Classical in
/-- What has been made of a match has been made of a sound one. -/
theorem findSome_eq_some {β : Type} {n : Node} {f : Found → Option β} {t : Text} {b : β}
    (h : findSome n f t = some b) : ∃ found, found.marks.Sound t ∧ f found = some b := by
  -- What is made of a sound match is kept together with that match.
  let traced : Found → Option (Subtype fun b => ∃ found, found.marks.Sound t ∧ f found = some b) :=
    fun found => if hs : found.marks.Sound t then
      (f found).attach.map fun b => ⟨b.1, found, hs, b.2⟩ else none
  have hsame : findSome n f t = (findSome n traced t).map Subtype.val := by
    refine findSome_congr n traced f Subtype.val t fun found hs => ?_
    simp [traced, hs, Function.comp_def]
  rw [hsame] at h
  obtain ⟨⟨_, hfound⟩, -, rfl⟩ := Option.map_eq_some_iff.1 h
  exact hfound

end Emend.Pattern
