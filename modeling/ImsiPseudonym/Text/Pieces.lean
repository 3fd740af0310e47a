/-!
Sequences cut at a separator, or behind the elements of one kind in front.  Main statement:
`pieces_ne_nil`, there is always at least one piece.
-/
namespace ImsiPseudonym.Text

variable {α : Type} [DecidableEq α]

/-- The pieces of a sequence between the places where a separator stands. -/
def pieces (separator : α) : List α → List (List α)
  | [] => [[]]
  | a :: rest =>
    match pieces separator rest with
    | [] => [[a]]
    | piece :: others => if a = separator then [] :: piece :: others else (a :: piece) :: others

theorem pieces_ne_nil (separator : α) (xs : List α) : pieces separator xs ≠ [] := by
  cases xs with
  | nil => simp [pieces]
  | cons a rest =>
    rw [pieces]
    split
    · simp
    · split <;> simp

section Front

variable {β : Type} {p : β → Bool} {xs rest : List β}

/-- A sequence that begins with no such element has none in front. -/
theorem span_of_head? (h : ∀ b ∈ rest.head?, p b = false) :
    rest.takeWhile p = [] ∧ rest.dropWhile p = rest := by
  cases rest with
  | nil => exact ⟨rfl, rfl⟩
  | cons b rest => simp [h b rfl]

/-- What is made of such elements ends before the first other one. -/
theorem span_append (hxs : ∀ b ∈ xs, p b = true) (hrest : ∀ b ∈ rest.head?, p b = false) :
    (xs ++ rest).takeWhile p = xs ∧ (xs ++ rest).dropWhile p = rest := by
  obtain ⟨htake, hdrop⟩ := span_of_head? hrest
  rw [List.takeWhile_append_of_pos hxs, List.dropWhile_append_of_pos hxs, htake, hdrop,
    List.append_nil]
  exact ⟨rfl, rfl⟩

end Front

end ImsiPseudonym.Text
