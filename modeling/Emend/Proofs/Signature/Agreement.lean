import Mathlib.Data.List.Forall2
import Emend.Signature.Basic
/-!
# Agreement of signatures

Two signatures agree if the parts that count are the same once each part is in the form in which
it is compared (`FunctionSignature.Agrees`, `ClassSignature.Agrees`).

*Laws.*  So agreement is an equivalence whatever counts (`FunctionSignature.agrees_equivalence`,
`ClassSignature.agrees_equivalence`), and signatures agree in fewer cases where more counts
(`FunctionSignature.Agrees.mono`, `ClassSignature.Agrees.mono`).

*Other words.*  The order of modifiers is lost in that form, and so is how often one is given;
blanks and question marks are lost from types, and the names of the unit type are one.  A signature
that says the same in other words (`FunctionSignature.Rewords`, `ClassSignature.Rewords`) agrees
with the same signatures.
-/

namespace Emend

/-! ## What counts -/

/-- Of all that counts for the first checks, nothing is left out by the second ones. -/
structure SignatureChecks.Within (checks more : SignatureChecks) : Prop where
  /-- The name of a function. -/
  functionName : checks.functionName → more.functionName
  /-- The name of a class. -/
  className : checks.className → more.className
  /-- The types of parameters. -/
  parameterTypes : checks.parameterTypes → more.parameterTypes
  /-- The names of parameters. -/
  parameterNames : checks.parameterNames → more.parameterNames
  /-- The type of the result. -/
  returnType : checks.returnType → more.returnType
  /-- The modifiers. -/
  modifiers : checks.modifiers → more.modifiers

variable {checks more : SignatureChecks}

/-! ## Types -/

/-- The second text is the first one with blanks and question marks put in. -/
inductive Marked : Text → Text → Prop
  /-- There is no more. -/
  | nil : Marked [] []
  /-- Both have the same character. -/
  | keep {t u : Text} (c : Char) : Marked t u → Marked (c :: t) (c :: u)
  /-- A blank is put in. -/
  | blank {t u : Text} {c : Char} : isBlank c = true → Marked t u → Marked t (c :: u)
  /-- A question mark is put in. -/
  | mark {t u : Text} : Marked t u → Marked t ('?' :: u)

theorem normalizeType_cons (c : Char) (t : Text) :
    normalizeType (c :: t) =
      if isBlank c = true ∨ c = '?' then normalizeType t else c :: normalizeType t := by
  rw [normalizeType, Text.dropBlanks, List.filter_cons]
  cases hc : isBlank c with
  | true => simp [normalizeType, Text.dropBlanks]
  | false =>
      by_cases hmark : c = '?' <;> simp [normalizeType, Text.dropBlanks, hmark]

/-- What is put into a type does not count. -/
theorem Marked.normalizeType_eq {t u : Text} (h : Marked t u) :
    normalizeType t = normalizeType u := by
  induction h with
  | nil => rfl
  | keep c _ ih => rw [normalizeType_cons, normalizeType_cons, ih]
  | blank hc _ ih => rw [normalizeType_cons, if_pos (.inl hc), ih]
  | mark _ ih => rw [normalizeType_cons, if_pos (.inr rfl), ih]

/-- The names of the unit type; it may have none. -/
def unitNames : List Text := [[], unitType, "void".toList, "()".toList]

/-- One type of a result says the same as another one. -/
inductive SameResult : Option Text → Option Text → Prop
  /-- No type is named. -/
  | unnamed : SameResult none none
  /-- It is the same type with marks put in. -/
  | marked {t u : Text} : Marked t u → SameResult (some t) (some u)
  /-- The unit type is named. -/
  | unit {t : Text} : normalizeType t ∈ unitNames → SameResult none (some t)

theorem normalizeReturnType_unit {t : Text} (h : normalizeType t ∈ unitNames) :
    normalizeReturnType (some t) = unitType := by
  simp only [unitNames, List.mem_cons, List.not_mem_nil, or_false] at h
  rw [normalizeReturnType, Option.map_some]
  rcases h with h | h | h | h <;> rw [h] <;> decide

theorem SameResult.normalizeReturnType_eq {r s : Option Text} (h : SameResult r s) :
    normalizeReturnType r = normalizeReturnType s := by
  cases h with
  | unnamed => rfl
  | marked hmarked =>
      simp only [normalizeReturnType, Option.map_some, hmarked.normalizeType_eq]
  | unit hunit => exact (normalizeReturnType_unit hunit).symm

/-! ## Lists -/

/-- Lists hold the same texts if each text is in both or in none. -/
theorem sameMembers_iff {a b : List Text} :
    sameMembers a b = true ↔ ∀ m, m ∈ a ↔ m ∈ b := by
  simp only [sameMembers, Bool.and_eq_true, List.all_eq_true, List.contains_iff_mem]
  exact ⟨fun ⟨hab, hba⟩ m => ⟨hab m, hba m⟩, fun h => ⟨fun m => (h m).1, fun m => (h m).2⟩⟩

theorem map_eq_map_iff_zip {α β : Type} (k : α → β) (a b : List α) :
    a.map k = b.map k ↔ a.length = b.length ∧ ∀ pq ∈ a.zip b, k pq.1 = k pq.2 := by
  rw [← List.forall₂_eq_eq_eq, List.forall₂_map_left_iff, List.forall₂_map_right_iff,
    List.forall₂_iff_zip]
  simp only [Prod.forall]

/-- Where parameters count at all, they have to be as many, and the same one by one. -/
theorem sameParameters_iff (h : checks.parameterTypes = true ∨ checks.parameterNames = true)
    {a b : List Parameter} : sameParameters checks a b = true ↔
      (checks.parameterTypes → a.map (normalizeType ∘ Parameter.type) =
        b.map (normalizeType ∘ Parameter.type)) ∧
      (checks.parameterNames → a.map Parameter.name = b.map Parameter.name) := by
  simp only [map_eq_map_iff_zip, sameParameters, Bool.and_eq_true, Bool.or_eq_true, beq_iff_eq,
    List.all_eq_true, Bool.not_eq_true', Function.comp]
  grind

/-! ## Functions -/

namespace FunctionSignature

variable {f g h : FunctionSignature}

/-- Two functions are the same in the parts that count. -/
structure Agrees (checks : SignatureChecks) (f g : FunctionSignature) : Prop where
  /-- They have the same name. -/
  name : checks.functionName → f.name = g.name
  /-- The types of their results are compared in the same form. -/
  result : checks.returnType →
    normalizeReturnType f.returnType = normalizeReturnType g.returnType
  /-- The types of their parameters are compared in the same form. -/
  types : checks.parameterTypes → f.parameters.map (normalizeType ∘ Parameter.type) =
    g.parameters.map (normalizeType ∘ Parameter.type)
  /-- Their parameters have the same names. -/
  names : checks.parameterNames → f.parameters.map Parameter.name = g.parameters.map Parameter.name
  /-- They have the same modifiers. -/
  modifiers : checks.modifiers → ∀ m, m ∈ f.modifiers ↔ m ∈ g.modifiers

theorem agrees_iff : f.agrees checks g = true ↔ Agrees checks f g := by
  have hparameters : (!(checks.parameterTypes || checks.parameterNames) ||
      sameParameters checks f.parameters g.parameters) = true ↔
        (checks.parameterTypes → f.parameters.map (normalizeType ∘ Parameter.type) =
          g.parameters.map (normalizeType ∘ Parameter.type)) ∧
        (checks.parameterNames →
          f.parameters.map Parameter.name = g.parameters.map Parameter.name) := by
    by_cases hcounts : checks.parameterTypes = true ∨ checks.parameterNames = true
    · have hor : (checks.parameterTypes || checks.parameterNames) = true := by simpa using hcounts
      rw [← sameParameters_iff hcounts, hor, Bool.not_true, Bool.false_or]
    · simp_all
  simp only [agrees, Bool.and_eq_true, hparameters, Bool.or_eq_true, Bool.not_eq_true',
    beq_iff_eq, sameMembers_iff, Bool.eq_false_iff, ← imp_iff_not_or]
  exact ⟨fun ⟨⟨⟨hname, hresult⟩, htypes, hnames⟩, hmodifiers⟩ =>
      ⟨hname, hresult, htypes, hnames, hmodifiers⟩,
    fun ⟨hname, hresult, htypes, hnames, hmodifiers⟩ =>
      ⟨⟨⟨hname, hresult⟩, htypes, hnames⟩, hmodifiers⟩⟩

namespace Agrees

theorem refl (f : FunctionSignature) : Agrees checks f f :=
  ⟨fun _ => rfl, fun _ => rfl, fun _ => rfl, fun _ => rfl, fun _ _ => Iff.rfl⟩

theorem symm (hfg : Agrees checks f g) : Agrees checks g f where
  name hc := (hfg.name hc).symm
  result hc := (hfg.result hc).symm
  types hc := (hfg.types hc).symm
  names hc := (hfg.names hc).symm
  modifiers hc m := (hfg.modifiers hc m).symm

theorem trans (hfg : Agrees checks f g) (hgh : Agrees checks g h) : Agrees checks f h where
  name hc := (hfg.name hc).trans (hgh.name hc)
  result hc := (hfg.result hc).trans (hgh.result hc)
  types hc := (hfg.types hc).trans (hgh.types hc)
  names hc := (hfg.names hc).trans (hgh.names hc)
  modifiers hc m := (hfg.modifiers hc m).trans (hgh.modifiers hc m)

/-- Functions that agree still do so where less counts. -/
theorem mono (hwithin : checks.Within more) (hfg : Agrees more f g) : Agrees checks f g where
  name hc := hfg.name (hwithin.functionName hc)
  result hc := hfg.result (hwithin.returnType hc)
  types hc := hfg.types (hwithin.parameterTypes hc)
  names hc := hfg.names (hwithin.parameterNames hc)
  modifiers hc := hfg.modifiers (hwithin.modifiers hc)

end Agrees

theorem agrees_equivalence (checks : SignatureChecks) :
    Equivalence fun f g : FunctionSignature => f.agrees checks g = true := by
  simp only [agrees_iff]
  exact ⟨Agrees.refl, Agrees.symm, Agrees.trans⟩

/-- The second signature is the first one in other words: modifiers may be in another order and be
given again, marks may be put into types, and the unit type may be named as a result. -/
structure Rewords (f g : FunctionSignature) : Prop where
  /-- They have the same name. -/
  name : f.name = g.name
  /-- They have the same modifiers. -/
  modifiers : ∀ m, m ∈ f.modifiers ↔ m ∈ g.modifiers
  /-- Their parameters are the same but for marks in their types. -/
  parameters : List.Forall₂ (fun p q => p.name = q.name ∧ Marked p.type q.type)
    f.parameters g.parameters
  /-- Their results are the same. -/
  result : SameResult f.returnType g.returnType

theorem Rewords.agrees (checks : SignatureChecks) (hfg : f.Rewords g) : Agrees checks f g := by
  have hcolumn : ∀ {β : Type} (k : Parameter → β),
      (∀ p q : Parameter, p.name = q.name ∧ Marked p.type q.type → k p = k q) →
        f.parameters.map k = g.parameters.map k := by
    intro β k hk
    rw [← List.forall₂_eq_eq_eq, List.forall₂_map_left_iff, List.forall₂_map_right_iff]
    exact hfg.parameters.imp hk
  exact {
    name := fun _ => hfg.name
    result := fun _ => hfg.result.normalizeReturnType_eq
    types := fun _ => hcolumn _ fun _ _ h => h.2.normalizeType_eq
    names := fun _ => hcolumn _ fun _ _ h => h.1
    modifiers := fun _ => hfg.modifiers }

end FunctionSignature

/-! ## Classes -/

namespace ClassSignature

variable {c d e : ClassSignature}

/-- Two classes are the same in the parts that count. -/
structure Agrees (checks : SignatureChecks) (c d : ClassSignature) : Prop where
  /-- They have the same name. -/
  name : checks.className → c.name = d.name
  /-- They have the same modifiers. -/
  modifiers : checks.modifiers → ∀ m, m ∈ c.modifiers ↔ m ∈ d.modifiers

theorem agrees_iff : c.agrees checks d = true ↔ Agrees checks c d := by
  simp only [agrees, Bool.and_eq_true, Bool.or_eq_true, Bool.not_eq_true', beq_iff_eq,
    sameMembers_iff, Bool.eq_false_iff, ← imp_iff_not_or]
  exact ⟨fun ⟨hname, hmodifiers⟩ => ⟨hname, hmodifiers⟩,
    fun ⟨hname, hmodifiers⟩ => ⟨hname, hmodifiers⟩⟩

/-- Classes that agree still do so where less counts. -/
theorem Agrees.mono (hwithin : checks.Within more) (hcd : Agrees more c d) : Agrees checks c d :=
  ⟨fun hc => hcd.name (hwithin.className hc), fun hc => hcd.modifiers (hwithin.modifiers hc)⟩

theorem agrees_equivalence (checks : SignatureChecks) :
    Equivalence fun c d : ClassSignature => c.agrees checks d = true := by
  simp only [agrees_iff]
  exact {
    refl := fun c => ⟨fun _ => rfl, fun _ _ => Iff.rfl⟩
    symm := fun hcd => ⟨fun hc => (hcd.name hc).symm, fun hc m => (hcd.modifiers hc m).symm⟩
    trans := fun hcd hde => ⟨fun hc => (hcd.name hc).trans (hde.name hc),
      fun hc m => (hcd.modifiers hc m).trans (hde.modifiers hc m)⟩ }

/-- The second signature is the first one in other words: modifiers may be in another order and be
given again, and there may be other supertypes and type parameters. -/
structure Rewords (c d : ClassSignature) : Prop where
  /-- They have the same name. -/
  name : c.name = d.name
  /-- They have the same modifiers. -/
  modifiers : ∀ m, m ∈ c.modifiers ↔ m ∈ d.modifiers

theorem Rewords.agrees (checks : SignatureChecks) (hcd : c.Rewords d) : Agrees checks c d :=
  ⟨fun _ => hcd.name, fun _ => hcd.modifiers⟩

end ClassSignature

/-! ## The laws -/

section Laws

variable {α : Type} {same : α → α → Bool} (h : Equivalence fun a b => same a b = true)

include h

/-- What is equivalent can stand for each other on either side. -/
theorem same_congr {a b : α} (hab : same a b = true) (c : α) :
    same a c = same b c ∧ same c a = same c b :=
  ⟨Bool.eq_iff_iff.2 ⟨h.trans (h.symm hab), h.trans hab⟩,
    Bool.eq_iff_iff.2 ⟨fun hca => h.trans hca hab, fun hcb => h.trans hcb (h.symm hab)⟩⟩

end Laws

/-- Whatever counts, agreement is an equivalence of functions and of classes.  Where more counts, no
more of them agree.  A signature in other words agrees with the same ones, on either side. -/
theorem agreement_laws :
    (∀ checks, Equivalence fun f g : FunctionSignature => f.agrees checks g = true) ∧
    (∀ checks, Equivalence fun c d : ClassSignature => c.agrees checks d = true) ∧
    (∀ checks more : SignatureChecks, checks.Within more →
      (∀ f g : FunctionSignature, f.agrees checks g = false → f.agrees more g = false) ∧
      ∀ c d : ClassSignature, c.agrees checks d = false → c.agrees more d = false) ∧
    (∀ f f' : FunctionSignature, f.Rewords f' → ∀ checks g,
      f.agrees checks g = f'.agrees checks g ∧ g.agrees checks f = g.agrees checks f') ∧
    ∀ c c' : ClassSignature, c.Rewords c' → ∀ checks d,
      c.agrees checks d = c'.agrees checks d ∧ d.agrees checks c = d.agrees checks c' := by
  refine ⟨FunctionSignature.agrees_equivalence, ClassSignature.agrees_equivalence,
    fun checks more hwithin => ⟨fun f g hnot => ?_, fun c d hnot => ?_⟩,
    fun f f' hwords checks => ?_, fun c c' hwords checks => ?_⟩
  · rw [Bool.eq_false_iff, Ne, FunctionSignature.agrees_iff] at hnot ⊢
    exact mt (FunctionSignature.Agrees.mono hwithin) hnot
  · rw [Bool.eq_false_iff, Ne, ClassSignature.agrees_iff] at hnot ⊢
    exact mt (ClassSignature.Agrees.mono hwithin) hnot
  · exact same_congr (FunctionSignature.agrees_equivalence checks)
      (FunctionSignature.agrees_iff.2 (hwords.agrees checks))
  · exact same_congr (ClassSignature.agrees_equivalence checks)
      (ClassSignature.agrees_iff.2 (hwords.agrees checks))

/-- A function of one parameter that names no result. -/
def plainSave : FunctionSignature :=
  ⟨["public".toList, "final".toList], none, "save".toList, [⟨"user".toList, ['T']⟩]⟩

/-- The same function: a modifier is given again, and the type may be null. -/
def markedSave : FunctionSignature :=
  ⟨["final".toList, "public".toList, "final".toList], some "void".toList, "save".toList,
    [⟨"user".toList, ['T', ' ', '?']⟩]⟩

/-- A class with one modifier. -/
def plainPair : ClassSignature := ⟨["data".toList], "Pair".toList, [], none, []⟩

/-- The same class: the modifier is given again. -/
def markedPair : ClassSignature := { plainPair with modifiers := ["data".toList, "data".toList] }

/-- The two functions agree where everything counts, and so do the two classes.  Without its
parameter the function disagrees, and it still does so where the names of parameters count, too. -/
theorem agreement_laws_save :
    plainSave.Rewords markedSave ∧ plainPair.Rewords markedPair ∧
    plainSave.agrees ⟨true, true, true, true, true, true⟩ markedSave = true ∧
    plainPair.agrees ⟨true, true, true, true, true, true⟩ markedPair = true ∧
    SignatureChecks.Within {} { parameterNames := true } ∧
    { plainSave with parameters := [] }.agrees {} plainSave = false ∧
    { plainSave with parameters := [] }.agrees { parameterNames := true } plainSave = false := by
  obtain ⟨hfunctions, hclasses, hmore, hwords, hwords'⟩ := agreement_laws
  have hsave : plainSave.Rewords markedSave :=
    ⟨rfl, by simp [plainSave, markedSave, or_comm],
      .cons ⟨rfl, .keep 'T' (.blank rfl (.mark .nil))⟩ .nil, .unit (by decide)⟩
  have hpair : plainPair.Rewords markedPair := ⟨rfl, by simp [plainPair, markedPair]⟩
  have hwithin : SignatureChecks.Within {} { parameterNames := true } := by constructor <;> simp
  have hdiffer : { plainSave with parameters := [] }.agrees {} plainSave = false := by decide
  refine ⟨hsave, hpair, ?_, ?_, hwithin, hdiffer, (hmore _ _ hwithin).1 _ _ hdiffer⟩
  · rw [(hwords _ _ hsave _ _).1]
    exact (hfunctions _).refl _
  · rw [(hwords' _ _ hpair _ _).1]
    exact (hclasses _).refl _

end Emend
