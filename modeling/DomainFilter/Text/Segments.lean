/-
# DomainFilter.Text.Segments — texts cut at a separator

A path such as `customer.address.city` is read as its segments. Segments without the separator are
cut where they were joined, so a text without it is its own only segment.
-/

namespace DomainFilter.Text

/-- The segments of a text between occurrences of `sep`; the empty text has one empty segment. -/
def segments (sep : Char) : List Char → List (List Char)
  | [] => [[]]
  | c :: s =>
    if c = sep then [] :: segments sep s
    else match segments sep s with
      | [] => [[c]]
      | first :: rest => (c :: first) :: rest

/-- The texts one after the other, with `sep` between neighbours. -/
def joinWith (sep : Char) : List (List Char) → List Char
  | [] => []
  | [s] => s
  | s :: t :: rest => s ++ sep :: joinWith sep (t :: rest)

/-- A text without the separator is one segment. -/
theorem segments_of_not_mem {sep : Char} {s : List Char} (h : sep ∉ s) : segments sep s = [s] := by
  induction s with
  | nil => rfl
  | cons c s ih =>
    simp only [List.mem_cons, not_or] at h
    simp [segments, ih h.2, Ne.symm h.1]

/-- The first segment is what stands before the first separator. -/
theorem segments_eq_cons (sep : Char) (s : List Char) :
    ∃ rest, segments sep s = s.takeWhile (· != sep) :: rest := by
  induction s with
  | nil => exact ⟨[], rfl⟩
  | cons c s ih =>
    obtain ⟨rest, hrest⟩ := ih
    by_cases hsep : c = sep
    · exact ⟨segments sep s, by simp [segments, hsep]⟩
    · exact ⟨rest, by simp [segments, hsep, hrest]⟩

theorem segments_append {sep : Char} {first : List Char} (h : sep ∉ first) (s : List Char) :
    segments sep (first ++ sep :: s) = first :: segments sep s := by
  induction first with
  | nil => simp [segments]
  | cons c first ih =>
    simp only [List.mem_cons, not_or] at h
    rw [List.cons_append, segments, if_neg (Ne.symm h.1), ih h.2]

/-- Segments without the separator are cut where they were joined. -/
theorem segments_joinWith {sep : Char} {parts : List (List Char)} (hne : parts ≠ [])
    (h : ∀ s ∈ parts, sep ∉ s) : segments sep (joinWith sep parts) = parts := by
  induction parts with
  | nil => exact absurd rfl hne
  | cons first rest ih =>
    have hfirst : sep ∉ first := h first List.mem_cons_self
    cases rest with
    | nil => exact segments_of_not_mem hfirst
    | cons second rest =>
      have hrest : ∀ s ∈ second :: rest, sep ∉ s := fun s hs => h s (List.mem_cons_of_mem _ hs)
      rw [joinWith, segments_append hfirst, ih (List.cons_ne_nil second rest) hrest]

end DomainFilter.Text
