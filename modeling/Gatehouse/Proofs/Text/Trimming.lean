import Gatehouse.Text.Blank

/-!
What is left of a text whose ends are trimmed.
-/

namespace Gatehouse.Text

/-- There is no white space at the ends of a text. -/
structure Trimmed (s : String) : Prop where
  start : ∀ c ∈ s.toList.head?, isBlank c = false
  final : ∀ c ∈ s.toList.getLast?, isBlank c = false

theorem head?_dropWhile {α : Type} (p : α → Bool) (xs : List α) :
    ∀ x ∈ (xs.dropWhile p).head?, p x = false := by
  intro x isFirst
  have first := List.head?_dropWhile_not p xs
  rw [Option.mem_def.mp isFirst] at first
  exact first

theorem getLast?_trimEndBy {α : Type} (p : α → Bool) (xs : List α) :
    ∀ x ∈ (trimEndBy p xs).getLast?, p x = false := by
  rw [trimEndBy, List.getLast?_reverse]
  exact head?_dropWhile p xs.reverse

/-- Taking members of a set off the end leaves the start as it is, if anything is left. -/
theorem trimEndBy_prefix {α : Type} (p : α → Bool) (xs : List α) : trimEndBy p xs <+: xs := by
  rw [trimEndBy, ← List.reverse_suffix, List.reverse_reverse]
  exact List.dropWhile_suffix p

theorem trimmed_trim (s : String) : Trimmed (trim s) := by
  constructor
  · rw [trim, String.toList_ofList, trimBy]
    intro c isFirst
    obtain ⟨rest, whole⟩ := trimEndBy_prefix isBlank (s.toList.dropWhile isBlank)
    apply head?_dropWhile isBlank s.toList
    rw [← whole, List.head?_append, Option.mem_def.mp isFirst]
    rfl
  · rw [trim, String.toList_ofList, trimBy]
    exact getLast?_trimEndBy isBlank _

/-- A text without any white space has none at its ends. -/
theorem trimmed_of_plain {s : String} (plain : ∀ c ∈ s.toList, isBlank c = false) : Trimmed s :=
  ⟨fun c isFirst => plain c (List.mem_of_head? isFirst),
    fun c isLast => plain c (List.mem_of_getLast? isLast)⟩

end Gatehouse.Text
