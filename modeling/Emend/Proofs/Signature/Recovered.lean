import Emend.Proofs.Signature.Fronts
/-!
# Declared functions are read back

A function with the keyword `fun` is declared with its modifiers, its name, its parameters and
perhaps the type of its result (`DeclaredFunction`).  Its text has single spaces between these and
ends with the brace of the body (`DeclaredFunction.text`).

What is located in this text is the function with all its parts, but for the default values of its
parameters (`DeclaredFunction.locateFunction_text`).  The front is found at the start of the text,
so the other shapes, which may find something there too, do not count.  From the front on, the
parentheses and brackets are balanced, and so the parameters end where they should, each of them
apart.
-/

namespace Emend

open Pattern

/-- A function with the keyword `fun` as it is declared. -/
structure DeclaredFunction where
  /-- Its modifiers. -/
  modifiers : List Text
  /-- Its name. -/
  name : Text
  /-- Its parameters. -/
  parameters : List DeclaredParameter
  /-- The type of its result, if it is named. -/
  result : Option Text
  /-- The modifiers are those of functions. -/
  areModifiers : ∀ m ∈ modifiers, m ∈ plainModifiers
  /-- The name is an identifier. -/
  isName : IsIdentifier name
  /-- The type of the result is written as such types are. -/
  isResult : ∀ r ∈ result, IsResult r

namespace DeclaredFunction

variable (f : DeclaredFunction)

/-- The signature, in which parameters have no default values. -/
def signature : FunctionSignature where
  modifiers := f.modifiers
  returnType := f.result
  name := f.name
  parameters := f.parameters.map DeclaredParameter.parameter

/-- The text up to the end of the parameters. -/
def header : Text :=
  frontText f.modifiers f.name ++ DeclaredParameter.listText f.parameters ++ [')']

/-- The text up to the brace of the body. -/
def text : Text := f.header ++ resultText f.result

/-- The modifiers of a row are its words. -/
theorem words_rowText {modifiers : List Text} (h : ∀ m ∈ modifiers, m ∈ plainModifiers) :
    Text.words (rowText modifiers) = modifiers := by
  induction modifiers with
  | nil => rfl
  | cons m modifiers ih =>
      obtain ⟨hm, hmore⟩ := List.forall_mem_cons.1 h
      have hword := isIdentifier_of_mem_plainModifiers m hm
      rw [rowText_cons, Text.words_append hword.ne_nil hword.solid, Text.words_cons (by decide),
        ih hmore]
      rintro c ⟨⟩
      decide

/-- The function is made of the front that is found. -/
theorem functionOfKeyword?_text : ∃ found, find funShape f.text = some found ∧
    found.marks.start = 0 ∧
      functionOfKeyword? f.text found = some ⟨f.signature, 0, Text.size f.header⟩ := by
  have htext : f.text = frontText f.modifiers f.name ++
      (DeclaredParameter.listText f.parameters ++ ')' :: resultText f.result) := by
    simp [text, header]
  obtain ⟨found, hfound, hspan, hmodifiers, hname⟩ := find_front f.areModifiers f.isName
    (DeclaredParameter.listText f.parameters ++ ')' :: resultText f.result)
  rw [← htext] at hfound hmodifiers hname
  have hstart : found.marks.start = 0 := by
    rw [← start_find isShape_funShape.part.slots hfound, hspan]
  have hsplit : splitAtClosing? 1 (f.text.dropBytes (Text.size (frontText f.modifiers f.name))) =
      some (DeclaredParameter.listText f.parameters, resultText f.result) := by
    rw [htext, Text.dropBytes_size]
    exact splitAtClosing?_balanced (DeclaredParameter.parens_listText _) _
  have hsize : Text.size f.header = Text.size (frontText f.modifiers f.name) +
      Text.size (DeclaredParameter.listText f.parameters) + 1 := by
    rw [header, Text.size_append, Text.size_append]
    rfl
  refine ⟨found, hfound, hstart, ?_⟩
  simp only [functionOfKeyword?, hspan, hsplit, hmodifiers, hname, words_rowText f.areModifiers,
    bind, Option.bind_some, parseReturnType?_resultText f.isResult,
    DeclaredParameter.parseParameters_listText, hsize]
  rfl

/-- A declared function is located in its text, with its signature and the end of its header. -/
theorem locateFunction_text :
    locateFunction f.text = some ⟨f.signature, 0, Text.size f.header⟩ := by
  have hfirst : ∀ {a b : Option (Located FunctionSignature)} {x : Located FunctionSignature},
      a = some x → x.start = 0 → earlier a b = some x := by
    intro a b x ha hx
    subst ha
    cases b with
    | none => rfl
    | some b => exact if_pos (by omega)
  have hfront := ((findSome_of_start isShape_funShape.part.slots
    (fun found b => functionOfKeyword?_start)).2 f.functionOfKeyword?_text).1
  exact hfirst (hfirst hfront rfl) rfl

end DeclaredFunction

/-- A function with generic types, a function type and a default value that has commas. -/
def declaredLoad : DeclaredFunction where
  modifiers := ["override", "suspend"].map String.toList
  name := "load".toList
  parameters :=
    [{ name := "ids".toList
       type := "Map<String, List<Long>>".toList
       default := none
       isName := isIdentifier_of_lower (by decide) (by decide)
       isType := by decide
       isDefault := by simp },
     { name := "then".toList
       type := "(a.User, Int) -> Unit".toList
       default := some "done(1, 2)".toList
       isName := isIdentifier_of_lower (by decide) (by decide)
       isType := by decide
       isDefault := by decide }]
  result := some "List<User>?".toList
  areModifiers := by decide
  isName := isIdentifier_of_lower (by decide) (by decide)
  isResult := by decide

theorem locateFunction_load :
    locateFunction (("override suspend fun load(ids: Map<String, List<Long>>, " ++
      "then: (a.User, Int) -> Unit = done(1, 2)): List<User>? \x7b").toList) =
        some ⟨declaredLoad.signature, 0, 97⟩ := by
  have htext : declaredLoad.text = ("override suspend fun load(ids: Map<String, List<Long>>, " ++
      "then: (a.User, Int) -> Unit = done(1, 2)): List<User>? \x7b").toList := by decide
  have hsize : Text.size declaredLoad.header = 97 := by decide
  rw [← htext, declaredLoad.locateFunction_text, hsize]

end Emend
