import JsonShape.Go.Identifier
import JsonShape.Proofs.Text.Alphabet

/-!
# Characters of field names

Whatever the key, a field name is made of plain characters only, so the blanks
and quotes of the source text around it are never part of it.
-/

set_option autoImplicit false

namespace JsonShape.Go

open Text

theorem plain_of_mem_words {text word : List Char} (h : word ∈ words text) : Plain word := by
  intro char hchar
  obtain ⟨-, hword⟩ := List.mem_filter.mp h
  exact isPlain_of_isAlphanumeric (List.all_eq_true.mp hword char hchar)

theorem plain_spell (acronyms : List (List Char)) {word : List Char} (h : Plain word) :
    Plain (spell acronyms word) := by
  rw [spell]
  split
  · exact plain_upper h
  · exact plain_capitalize h

theorem plain_pascalCase (acronyms : List (List Char)) (text : List Char) :
    Plain (pascalCase acronyms text) := by
  intro char hchar
  obtain ⟨word, hword, hchar⟩ := List.mem_flatMap.mp hchar
  exact plain_spell acronyms (plain_of_mem_words hword) char hchar

theorem plain_fieldName (acronyms : List (List Char)) (key : List Char) :
    Plain (fieldName acronyms key) := by
  rw [fieldName]
  split
  · exact plain_pascalCase _ _
  · exact plain_append (plain_singleton (by decide)) (plain_pascalCase _ _)

end JsonShape.Go
