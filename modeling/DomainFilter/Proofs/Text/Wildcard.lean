/-
# DomainFilter.Proofs.Text.Wildcard — the decision on patterns decides the relation

`likeMatch` starts from the verdicts of the pattern without items, one for each suffix of the text,
and passes over them once per item, last item first. Before and after each pass every verdict tells
whether the items so far take up its suffix.

* §A The relation `Matches`, read at its first item and at the first character of the text.
* §B The invariant `Tells`, one pass per kind of item, and the verdicts of a whole pattern.
* §C **`likeMatch_eq_rowMatch`** — rows of the pattern's prefixes, taken on by each character of the
  text, decide the same. Here the relation is read at its last item and its last character.
* §D Patterns as texts: what their characters take, and matching without `%`, character by character.
* §E **`likeMatch_iff_pieces`** — a text matches a pattern exactly if it can be cut into pieces, one
  for each character of the pattern, that these may take.
-/
import DomainFilter.Text.Wildcard
import Mathlib.Data.List.Forall2

namespace DomainFilter.Text

/-! ## §A The relation -/

section

variable {item : PatternItem} {items : List PatternItem} {c d : Char} {text : List Char}

theorem matches_nil_iff : Matches [] text ↔ text = [] := by
  constructor
  · intro h
    cases h
    rfl
  · rintro rfl
    exact .nil

theorem matches_cons_iff :
    Matches (item :: items) text ↔
      ∃ piece rest, text = piece ++ rest ∧ item.Takes piece ∧ Matches items rest := by
  constructor
  · intro h
    cases h with
    | cons htakes hrest => exact ⟨_, _, rfl, htakes, hrest⟩
  · rintro ⟨piece, rest, rfl, htakes, hrest⟩
    exact .cons htakes hrest

theorem Matches.cons_single (htakes : item.Takes [c]) (h : Matches items text) :
    Matches (item :: items) (c :: text) :=
  .cons htakes h

theorem Matches.run_append (piece : List Char) (h : Matches items text) :
    Matches (.run :: items) (piece ++ text) :=
  .cons trivial h

theorem matches_run_nil_iff : Matches (.run :: items) [] ↔ Matches items [] := by
  rw [matches_cons_iff]
  constructor
  · rintro ⟨piece, rest, hsplit, -, hrest⟩
    obtain ⟨-, rfl⟩ := List.append_eq_nil_iff.mp hsplit.symm
    exact hrest
  · intro h
    exact ⟨[], [], rfl, trivial, h⟩

/-- A run ends at the first character or goes on past it. -/
theorem matches_run_cons_iff :
    Matches (.run :: items) (c :: text)
      ↔ Matches items (c :: text) ∨ Matches (.run :: items) text := by
  rw [matches_cons_iff]
  constructor
  · rintro ⟨piece, rest, hsplit, -, hrest⟩
    cases piece with
    | nil =>
      left
      rw [List.nil_append] at hsplit
      rw [hsplit]
      exact hrest
    | cons b piece =>
      right
      obtain ⟨-, htext⟩ := List.cons_eq_cons.mp hsplit
      rw [htext]
      exact .cons trivial hrest
  · rintro (h | h)
    · exact ⟨[], c :: text, rfl, trivial, h⟩
    · obtain ⟨piece, rest, htext, -, hrest⟩ := matches_cons_iff.mp h
      exact ⟨c :: piece, rest, by rw [htext, List.cons_append], trivial, hrest⟩

theorem not_matches_one_nil : ¬ Matches (.one :: items) [] := by
  rw [matches_cons_iff]
  rintro ⟨piece, rest, hsplit, ⟨c, rfl⟩, -⟩
  cases hsplit

theorem matches_one_cons_iff : Matches (.one :: items) (c :: text) ↔ Matches items text := by
  rw [matches_cons_iff]
  constructor
  · rintro ⟨piece, rest, hsplit, ⟨b, rfl⟩, hrest⟩
    obtain ⟨-, rfl⟩ := List.cons_eq_cons.mp hsplit
    exact hrest
  · intro h
    exact ⟨[c], text, rfl, ⟨c, rfl⟩, h⟩

theorem not_matches_exact_nil : ¬ Matches (.exact d :: items) [] := by
  rw [matches_cons_iff]
  rintro ⟨piece, rest, hsplit, rfl, -⟩
  cases hsplit

theorem matches_exact_cons_iff :
    Matches (.exact d :: items) (c :: text) ↔ c = d ∧ Matches items text := by
  rw [matches_cons_iff]
  constructor
  · rintro ⟨piece, rest, hsplit, rfl, hrest⟩
    obtain ⟨rfl, rfl⟩ := List.cons_eq_cons.mp hsplit
    exact ⟨rfl, hrest⟩
  · rintro ⟨rfl, h⟩
    exact ⟨[c], text, rfl, rfl, h⟩

end

/-! ## §B The verdicts -/

/-- Each of the verdicts tells whether the items take up its suffix of the text, longest first. -/
def Tells (items : List PatternItem) (verdicts : List Bool) (text : List Char) : Prop :=
  List.Forall₂ (fun verdict suffix => verdict = true ↔ Matches items suffix) verdicts text.tails

section

variable {items : List PatternItem} {verdicts : List Bool} {c : Char} {text : List Char}

theorem tells_nil_iff :
    Tells items verdicts [] ↔
      ∃ verdict, verdicts = [verdict] ∧ (verdict = true ↔ Matches items []) := by
  rw [Tells, List.tails, List.forall₂_cons_right_iff]
  constructor
  · rintro ⟨verdict, rest, hverdict, hrest, rfl⟩
    rw [List.forall₂_nil_right_iff.mp hrest]
    exact ⟨verdict, rfl, hverdict⟩
  · rintro ⟨verdict, rfl, hverdict⟩
    exact ⟨verdict, [], hverdict, .nil, rfl⟩

theorem tells_cons_iff :
    Tells items verdicts (c :: text) ↔
      ∃ verdict rest, verdicts = verdict :: rest
        ∧ (verdict = true ↔ Matches items (c :: text)) ∧ Tells items rest text := by
  rw [Tells, List.tails, List.forall₂_cons_right_iff]
  constructor
  · rintro ⟨verdict, rest, hverdict, hrest, rfl⟩
    exact ⟨verdict, rest, rfl, hverdict, hrest⟩
  · rintro ⟨verdict, rest, rfl, hverdict, hrest⟩
    exact ⟨verdict, rest, hverdict, hrest, rfl⟩

/-- The first verdict is the one on the whole text. -/
theorem Tells.exists_first (h : Tells items verdicts text) :
    ∃ verdict rest, verdicts = verdict :: rest ∧ (verdict = true ↔ Matches items text) := by
  cases text with
  | nil =>
    obtain ⟨verdict, rfl, hverdict⟩ := tells_nil_iff.mp h
    exact ⟨verdict, [], rfl, hverdict⟩
  | cons c text =>
    obtain ⟨verdict, rest, rfl, hverdict, -⟩ := tells_cons_iff.mp h
    exact ⟨verdict, rest, rfl, hverdict⟩

theorem Tells.head_iff (h : Tells items verdicts text) :
    verdicts.head?.getD false = true ↔ Matches items text := by
  obtain ⟨verdict, rest, rfl, hverdict⟩ := h.exists_first
  exact hverdict

/-- Before the first pass: no items take up the empty text and nothing else. -/
theorem tells_no_items (text : List Char) : Tells [] (text.map (fun _ => false) ++ [true]) text := by
  induction text with
  | nil => exact tells_nil_iff.mpr ⟨true, rfl, by simp [matches_nil_iff]⟩
  | cons c text ih => exact tells_cons_iff.mpr ⟨false, _, rfl, by simp [matches_nil_iff], ih⟩

/-- The pass of a run: it may end here, or wherever later it may end. -/
theorem Tells.run (h : Tells items verdicts text) :
    Tells (.run :: items) (laterHolds verdicts) text := by
  induction text generalizing verdicts with
  | nil =>
    obtain ⟨verdict, rfl, hverdict⟩ := tells_nil_iff.mp h
    refine tells_nil_iff.mpr ⟨_, rfl, ?_⟩
    rw [matches_run_nil_iff, ← hverdict]
    simp [laterHolds]
  | cons c text ih =>
    obtain ⟨verdict, rest, rfl, hverdict, hrest⟩ := tells_cons_iff.mp h
    have hlater := ih hrest
    refine tells_cons_iff.mpr ⟨_, _, rfl, ?_, hlater⟩
    rw [matches_run_cons_iff, ← hverdict, ← hlater.head_iff, Bool.or_eq_true]

/-- The pass of a single character: what the other items say of the next suffix. -/
theorem Tells.one (h : Tells items verdicts text) :
    Tells (.one :: items) (verdicts.tail ++ [false]) text := by
  induction text generalizing verdicts with
  | nil =>
    obtain ⟨verdict, rfl, -⟩ := tells_nil_iff.mp h
    exact tells_nil_iff.mpr ⟨false, rfl, by simp [not_matches_one_nil]⟩
  | cons c text ih =>
    obtain ⟨verdict, rest, rfl, -, hrest⟩ := tells_cons_iff.mp h
    obtain ⟨next, later, rfl, hnext⟩ := hrest.exists_first
    exact tells_cons_iff.mpr ⟨next, _, rfl, hnext.trans matches_one_cons_iff.symm, ih hrest⟩

/-- The pass of a character that stands for itself: the same, where the text has it. -/
theorem Tells.exact (d : Char) (h : Tells items verdicts text) :
    Tells (.exact d :: items)
      (text.zipWith (fun c verdict => c == d && verdict) verdicts.tail ++ [false]) text := by
  induction text generalizing verdicts with
  | nil => exact tells_nil_iff.mpr ⟨false, rfl, by simp [not_matches_exact_nil]⟩
  | cons c text ih =>
    obtain ⟨verdict, rest, rfl, -, hrest⟩ := tells_cons_iff.mp h
    obtain ⟨next, later, rfl, hnext⟩ := hrest.exists_first
    refine tells_cons_iff.mpr ⟨c == d && next, _, rfl, ?_, ih hrest⟩
    rw [matches_exact_cons_iff, ← hnext, Bool.and_eq_true, beq_iff_eq]

end

/-- **`tells_suffixVerdicts`** — after the passes of all items the verdicts are those of the
pattern. -/
theorem tells_suffixVerdicts (items : List PatternItem) (text : List Char) :
    Tells items (suffixVerdicts items text) text := by
  induction items with
  | nil => exact tells_no_items text
  | cons item items ih =>
    cases item with
    | run => exact ih.run
    | one => exact ih.one
    | exact d => exact ih.exact d

theorem likeMatch_iff_matches {text pattern : List Char} :
    likeMatch text pattern = true ↔ Matches (pattern.map PatternItem.ofChar) text :=
  (tells_suffixVerdicts _ text).head_iff

/-! ## §C Rows of prefixes -/

section Prefixes

variable {front items : List PatternItem} {item : PatternItem} {c : Char} {text : List Char}

/-- The items in front take up the front of the text, and the others the rest of it. -/
theorem matches_append_iff :
    Matches (front ++ items) text ↔
      ∃ taken rest, text = taken ++ rest ∧ Matches front taken ∧ Matches items rest := by
  induction front generalizing text with
  | nil =>
    constructor
    · intro h
      exact ⟨[], text, rfl, .nil, h⟩
    · rintro ⟨taken, rest, rfl, htaken, hrest⟩
      rw [matches_nil_iff.mp htaken]
      exact hrest
  | cons first front ih =>
    constructor
    · intro h
      obtain ⟨piece, rest, rfl, hpiece, hrest⟩ := matches_cons_iff.mp h
      obtain ⟨taken, rest, rfl, htaken, hrest⟩ := ih.mp hrest
      exact ⟨piece ++ taken, rest, (List.append_assoc ..).symm, .cons hpiece htaken, hrest⟩
    · rintro ⟨taken, rest, rfl, htaken, hrest⟩
      obtain ⟨piece, taken, rfl, hpiece, htaken⟩ := matches_cons_iff.mp htaken
      rw [List.append_assoc]
      exact .cons hpiece (ih.mpr ⟨taken, rest, rfl, htaken, hrest⟩)

/-- The last item takes the end of the text. -/
theorem matches_snoc_iff :
    Matches (front ++ [item]) text ↔
      ∃ taken piece, text = taken ++ piece ∧ Matches front taken ∧ item.Takes piece := by
  rw [matches_append_iff]
  constructor
  · rintro ⟨taken, rest, rfl, htaken, hrest⟩
    obtain ⟨piece, rest, rfl, hpiece, hnone⟩ := matches_cons_iff.mp hrest
    rw [matches_nil_iff.mp hnone, List.append_nil]
    exact ⟨taken, piece, rfl, htaken, hpiece⟩
  · rintro ⟨taken, piece, rfl, htaken, hpiece⟩
    have hlast : Matches [item] (piece ++ []) := .cons hpiece .nil
    exact ⟨taken, piece ++ [], by rw [List.append_nil], htaken, hlast⟩

/-- The empty text is left to a run. -/
theorem matches_snoc_nil_iff : Matches (front ++ [item]) [] ↔ Matches front [] ∧ item = .run := by
  rw [matches_snoc_iff]
  constructor
  · rintro ⟨taken, piece, hsplit, htaken, hpiece⟩
    obtain ⟨rfl, rfl⟩ := List.append_eq_nil_iff.mp hsplit.symm
    refine ⟨htaken, ?_⟩
    cases item with
    | run => rfl
    | one =>
      obtain ⟨_, hpiece⟩ := hpiece
      cases hpiece
    | exact d => cases hpiece
  · rintro ⟨h, rfl⟩
    exact ⟨[], [], rfl, h, trivial⟩

/-- A last run takes the last character or ends before it. -/
theorem matches_snoc_run_iff :
    Matches (front ++ [.run]) (text ++ [c]) ↔
      Matches front (text ++ [c]) ∨ Matches (front ++ [.run]) text := by
  rw [matches_snoc_iff]
  constructor
  · rintro ⟨taken, piece, hsplit, htaken, -⟩
    rcases List.eq_nil_or_concat piece with rfl | ⟨piece, d, rfl⟩
    · left
      rwa [hsplit, List.append_nil]
    · right
      rw [List.concat_eq_append, ← List.append_assoc] at hsplit
      obtain ⟨rfl, -⟩ := List.append_inj' hsplit rfl
      exact matches_snoc_iff.mpr ⟨taken, piece, rfl, htaken, trivial⟩
  · rintro (h | h)
    · exact ⟨text ++ [c], [], (List.append_nil _).symm, h, trivial⟩
    · obtain ⟨taken, piece, rfl, htaken, -⟩ := matches_snoc_iff.mp h
      exact ⟨taken, piece ++ [c], List.append_assoc .., htaken, trivial⟩

/-- Any other last item takes the last character alone. -/
theorem matches_snoc_one_iff :
    Matches (front ++ [.one]) (text ++ [c]) ↔ Matches front text := by
  rw [matches_snoc_iff]
  constructor
  · rintro ⟨taken, piece, hsplit, htaken, d, rfl⟩
    obtain ⟨rfl, -⟩ := List.append_inj' hsplit rfl
    exact htaken
  · intro h
    exact ⟨text, [c], rfl, h, c, rfl⟩

theorem matches_snoc_exact_iff {d : Char} :
    Matches (front ++ [.exact d]) (text ++ [c]) ↔ Matches front text ∧ d = c := by
  rw [matches_snoc_iff]
  constructor
  · rintro ⟨taken, piece, hsplit, htaken, rfl⟩
    obtain ⟨rfl, hlast⟩ := List.append_inj' hsplit rfl
    exact ⟨htaken, (List.singleton_inj.mp hlast).symm⟩
  · rintro ⟨h, rfl⟩
    exact ⟨text, [d], rfl, h, rfl⟩

end Prefixes

/-- The entries of a row tell whether the text is taken up: by the items in front, and by these with
one more of the others each time. -/
inductive RowTells (text : List Char) :
    List PatternItem → List PatternItem → List Bool → Prop where
  | last {front : List PatternItem} {entry : Bool} :
      (entry = true ↔ Matches front text) → RowTells text front [] [entry]
  | step {front items : List PatternItem} {item : PatternItem} {entry : Bool}
      {row : List Bool} :
      (entry = true ↔ Matches front text) → RowTells text (front ++ [item]) items row →
        RowTells text front (item :: items) (entry :: row)

section Rows

variable {front items : List PatternItem} {text : List Char} {row : List Bool} {entry : Bool}

/-- Before any character only runs take up what there is, which is nothing. -/
theorem rowTells_firstRow (hentry : entry = true ↔ Matches front []) :
    RowTells [] front items (firstRow entry items) := by
  induction items generalizing front entry with
  | nil => exact .last hentry
  | cons item items ih =>
    refine .step hentry (ih ?_)
    rw [matches_snoc_nil_iff, ← hentry, Bool.and_eq_true, beq_iff_eq]

/-- The first entry is the one of the items in front. -/
theorem RowTells.exists_entry (h : RowTells text front items row) :
    ∃ entry rest, row = entry :: rest ∧ (entry = true ↔ Matches front text) := by
  cases h with
  | last hentry => exact ⟨_, [], rfl, hentry⟩
  | step hentry _ => exact ⟨_, _, rfl, hentry⟩

/-- An entry follows from the one before it in its own row and from the two of the row before. -/
theorem entry_iff {c : Char} {item : PatternItem} {short oldShort old : Bool}
    (hshort : short = true ↔ Matches front (text ++ [c]))
    (holdShort : oldShort = true ↔ Matches front text)
    (hold : old = true ↔ Matches (front ++ [item]) text) :
    item.entry c short oldShort old = true ↔ Matches (front ++ [item]) (text ++ [c]) := by
  cases item with
  | run => rw [PatternItem.entry, Bool.or_eq_true, hshort, hold, matches_snoc_run_iff]
  | one => rw [PatternItem.entry, holdShort, matches_snoc_one_iff]
  | exact d =>
    rw [PatternItem.entry, Bool.and_eq_true, holdShort, beq_iff_eq, matches_snoc_exact_iff]

/-- One more character, with the first entry of the next row given. -/
theorem RowTells.next {c : Char} (h : RowTells text front items row)
    (hentry : entry = true ↔ Matches front (text ++ [c])) :
    RowTells (text ++ [c]) front items (nextRow c entry items row) := by
  induction h generalizing entry with
  | last _ => exact .last hentry
  | step holdShort hrest ih =>
    obtain ⟨old, rest, rfl, hold⟩ := hrest.exists_entry
    exact .step hentry (ih (entry_iff hentry holdShort hold))

/-- The last entry is the one of all items. -/
theorem RowTells.getLast_iff (h : RowTells text front items row) :
    row.getLast?.getD false = true ↔ Matches (front ++ items) text := by
  induction h with
  | last hentry => rwa [List.append_nil]
  | step _ hrest ih =>
    obtain ⟨old, rest, rfl, -⟩ := hrest.exists_entry
    rw [List.getLast?_cons_cons, ih, List.append_assoc]
    rfl

end Rows

/-- Every character of a text takes the row on. -/
theorem RowTells.foldl {items : List PatternItem} {text : List Char} {row : List Bool}
    (h : RowTells text [] items row) (more : List Char) :
    RowTells (text ++ more) [] items
      (more.foldl (fun row c => nextRow c false items row) row) := by
  induction more generalizing text row with
  | nil => rwa [List.append_nil]
  | cons c more ih =>
    have hnone : false = true ↔ Matches [] (text ++ [c]) := by simp [matches_nil_iff]
    have hmore := ih (h.next hnone)
    rwa [List.append_assoc] at hmore

/-- **`rowTells_rowAfter`** — after the characters of a text the row is that of the text. -/
theorem rowTells_rowAfter (items : List PatternItem) (text : List Char) :
    RowTells text [] items (rowAfter items text) :=
  (rowTells_firstRow (by simp [matches_nil_iff])).foldl text

/-- **`likeMatch_eq_rowMatch`** — by suffixes of the text or by prefixes of the pattern, the decision
is the same. -/
theorem likeMatch_eq_rowMatch (text pattern : List Char) :
    likeMatch text pattern = rowMatch text pattern := by
  rw [Bool.eq_iff_iff, likeMatch_iff_matches, rowMatch, (rowTells_rowAfter _ text).getLast_iff,
    List.nil_append]

/-! ## §D Patterns as texts -/

theorem ofChar_of_not_wildcard {c : Char} (hrun : c ≠ '%') (hone : c ≠ '_') :
    PatternItem.ofChar c = .exact c := by
  unfold PatternItem.ofChar
  split
  · exact absurd rfl hrun
  · exact absurd rfl hone
  · rfl

theorem takes_ofChar_self (c : Char) : (PatternItem.ofChar c).Takes [c] := by
  by_cases hrun : c = '%'
  · subst hrun
    exact trivial
  by_cases hone : c = '_'
  · subst hone
    exact ⟨_, rfl⟩
  rw [ofChar_of_not_wildcard hrun hone]
  rfl

theorem matches_self (s : List Char) : Matches (s.map PatternItem.ofChar) s := by
  induction s with
  | nil => exact .nil
  | cons c s ih => exact .cons_single (takes_ofChar_self c) ih

section

variable {c : Char} {pattern text : List Char}

/-- A pattern that starts with anything but `%` matches no text without a first character, which it
shows unless it has a `_` for it. -/
theorem Matches.exists_cons (hrun : c ≠ '%')
    (h : Matches ((c :: pattern).map PatternItem.ofChar) text) :
    ∃ d rest, text = d :: rest ∧ (c = '_' ∨ d = c)
      ∧ Matches (pattern.map PatternItem.ofChar) rest := by
  rw [List.map_cons, matches_cons_iff] at h
  obtain ⟨piece, rest, rfl, htakes, hrest⟩ := h
  by_cases hone : c = '_'
  · subst hone
    obtain ⟨d, rfl⟩ : ∃ d, piece = [d] := htakes
    exact ⟨d, rest, rfl, .inl rfl, hrest⟩
  · rw [ofChar_of_not_wildcard hrun hone] at htakes
    obtain rfl : piece = [c] := htakes
    exact ⟨c, rest, rfl, .inr rfl, hrest⟩

/-- Without a `%` the pattern and the text are matched character by character, so the first part of
the pattern takes as much of the text as it is long. -/
theorem matches_of_append {q t : List Char} (hrun : '%' ∉ pattern)
    (hlength : pattern.length = text.length)
    (h : Matches ((pattern ++ q).map PatternItem.ofChar) (text ++ t)) :
    Matches (q.map PatternItem.ofChar) t := by
  induction pattern generalizing text with
  | nil =>
    obtain rfl := List.eq_nil_of_length_eq_zero hlength.symm
    exact h
  | cons c pattern ih =>
    obtain ⟨d, text, rfl⟩ := List.exists_cons_of_length_eq_add_one hlength.symm
    obtain ⟨hc, hpattern⟩ := not_or.mp (mt List.mem_cons.mpr hrun)
    obtain ⟨e, rest, hsplit, -, hrest⟩ := h.exists_cons (Ne.symm hc)
    obtain ⟨-, rfl⟩ := List.cons_eq_cons.mp hsplit
    exact ih hpattern (Nat.succ.inj hlength) hrest

theorem Matches.length_eq (hrun : '%' ∉ pattern)
    (h : Matches (pattern.map PatternItem.ofChar) text) : text.length = pattern.length := by
  induction pattern generalizing text with
  | nil => rw [matches_nil_iff.mp h]
  | cons c pattern ih =>
    obtain ⟨hc, hpattern⟩ := not_or.mp (mt List.mem_cons.mpr hrun)
    obtain ⟨d, rest, rfl, -, hrest⟩ := h.exists_cons (Ne.symm hc)
    rw [List.length_cons, List.length_cons, ih hpattern hrest]

/-- A pattern without wildcards matches no text but itself. -/
theorem Matches.eq_of_plain (hrun : '%' ∉ pattern) (hone : '_' ∉ pattern)
    (h : Matches (pattern.map PatternItem.ofChar) text) : text = pattern := by
  induction pattern generalizing text with
  | nil => exact matches_nil_iff.mp h
  | cons c pattern ih =>
    obtain ⟨hcRun, hrun⟩ := not_or.mp (mt List.mem_cons.mpr hrun)
    obtain ⟨hcOne, hone⟩ := not_or.mp (mt List.mem_cons.mpr hone)
    obtain ⟨d, rest, rfl, hd, hrest⟩ := h.exists_cons (Ne.symm hcRun)
    rw [ih hrun hone hrest, hd.resolve_left (Ne.symm hcOne)]

end

/-! ## §E Cutting the text into pieces -/

/-- What a character of a pattern may take of a text: `%` any run of characters, `_` any one, and
every other character exactly itself. -/
def MayTake : Char → List Char → Prop
  | '%', _ => True
  | '_', piece => piece.length = 1
  | c, piece => piece = [c]

theorem takes_ofChar_iff (c : Char) (piece : List Char) :
    (PatternItem.ofChar c).Takes piece ↔ MayTake c piece := by
  unfold PatternItem.ofChar
  split
  · exact Iff.rfl
  · exact List.length_eq_one_iff.symm
  · next hrun hone =>
    unfold MayTake
    split
    · exact absurd rfl hrun
    · exact absurd rfl hone
    · exact Iff.rfl

theorem matches_iff_pieces {items : List PatternItem} {text : List Char} :
    Matches items text ↔
      ∃ pieces, text = pieces.flatten ∧ List.Forall₂ PatternItem.Takes items pieces := by
  constructor
  · intro h
    induction h with
    | nil => exact ⟨[], rfl, .nil⟩
    | cons htakes _ ih =>
      obtain ⟨pieces, rfl, hpieces⟩ := ih
      exact ⟨_ :: pieces, rfl, .cons htakes hpieces⟩
  · rintro ⟨pieces, rfl, h⟩
    induction h with
    | nil => exact .nil
    | cons htakes _ ih => exact .cons htakes ih

/-- **`likeMatch_iff_pieces`** — a text matches a pattern exactly if it is made up of consecutive
pieces, one for each character of the pattern in order, each of which that character may take. -/
theorem likeMatch_iff_pieces (text pattern : List Char) :
    likeMatch text pattern = true ↔
      ∃ pieces : List (List Char), text = pieces.flatten ∧ List.Forall₂ MayTake pattern pieces := by
  rw [likeMatch_iff_matches, matches_iff_pieces]
  simp only [List.forall₂_map_left_iff, takes_ofChar_iff]

/-- A run may be empty, and two of them take what one does. -/
example : likeMatch "note".toList "n%%ote".toList = true ∧ likeMatch [] "%_".toList = false := by
  decide

end DomainFilter.Text
