import DtoScaffold.Php.Class
import DtoScaffold.Proofs.Php.Layout

/-!
# The start and the end of a class

A printed class starts with the declaration of its namespace, if it has one, a doc block with its
name and the line that declares it, and it ends with the line of its closing brace. Only what is
between the braces depends on what the class holds.
-/
namespace DtoScaffold.Php

/-- The declaration of a namespace and an empty line; no namespace is not declared. -/
def declaration (namespaceText : String) : String :=
  if namespaceText = "" then "" else "namespace " ++ namespaceText ++ ";\n\n"

/-- The doc block that names a class, and the line that declares it. -/
def classHead (className : String) : String :=
  "/**\n" ++ (if className = "" then " *" else " * " ++ className) ++ "\n */\n" ++
    "class " ++ className ++ "\n"

/-- The lines before the body of a class. -/
def headerLines (namespaceText className : String) : List String :=
  (if namespaceText = "" then [] else ["namespace " ++ namespaceText ++ ";", ""]) ++
    ["/**", if className = "" then " *" else " * " ++ className, " */", "class " ++ className]

theorem unlines_headerLines (namespaceText className : String) :
    unlines (headerLines namespaceText className) =
      declaration namespaceText ++ classHead className := by
  apply String.toList_inj.mp
  unfold headerLines declaration classHead
  by_cases undeclared : namespaceText = ""
  · simp [undeclared]
  · simp [undeclared]

/-- The body of a class stands between two braces, moved to the right. -/
theorem layout_classItems (namespaceText className : String) (body : List Item) :
    layout false (classItems namespaceText className body) =
      headerLines namespaceText className ++ ["\x7b"] ++ indented (layout false body) ++
        ["\x7d"] := by
  have items : classItems namespaceText className body =
      (if namespaceText = "" then []
          else [.line ("namespace " ++ namespaceText ++ ";"), .line ""]) ++
        [.doc [className], .line ("class " ++ className), .block body] := by
    simp only [classItems, String.isEmpty_iff]
    rfl
  have shown : Printer.docLine className =
      if className = "" then " *" else " * " ++ className := by
    simp only [Printer.docLine, String.isEmpty_iff]
  rw [items, headerLines, ← shown]
  by_cases undeclared : namespaceText = ""
  · simp [undeclared, layout, Item.layout]
  · simp [undeclared, layout, Item.layout]

/-- A printed class starts with its namespace, its doc block and its name, and ends with its
closing brace. -/
theorem print_classItems (namespaceText className : String) (body : List Item) :
    ∃ inside, print (classItems namespaceText className body) =
      declaration namespaceText ++ classHead className ++ "\x7b\n" ++ (inside ++ "\x7d\n") := by
  refine ⟨unlines (indented (layout false body)), ?_⟩
  rw [print_eq_unlines, layout_classItems]
  simp only [unlines_append, unlines_headerLines, String.append_assoc]
  rfl

/-- Only a declared namespace starts a class like one. -/
theorem namespace_leads_iff (namespaceText className rest : String) :
    "namespace ".toList <+: (declaration namespaceText ++ classHead className ++ rest).toList ↔
      namespaceText ≠ "" := by
  unfold declaration
  split
  next none =>
    -- The doc block comes first, and its first character is another one.
    have slash : ¬ "namespace ".toList <+: ("" ++ classHead className ++ rest).toList := by
      simp [classHead]
    exact iff_of_false slash (not_not_intro none)
  next declared =>
    refine iff_of_true ?_ declared
    simp only [String.append_assoc, String.toList_append]
    exact List.prefix_append _ _

end DtoScaffold.Php
