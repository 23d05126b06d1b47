/-
# DomainFilter.Proofs.Text.Lowercase — patterns and texts in lower case

Lowering a text and a pattern each by itself can part what matched. A dotted capital I becomes two
characters, where a `_` takes one. A capital sigma is lowered by its word, and the pattern shows
only as much of the word as stands between two wildcards.

* §A Lowering a text in parts, and how many characters it has afterwards. Wildcards stay, and no
  other character becomes one.
* §B What leads to a cased letter, in a text and in a pattern that matches it.
* §C **`Matches.lowered`** — a match that neither of the two letters parts is a match in lower case.
* §D A text with a dotted capital I, or with a capital sigma after a cased letter of its word, has a
  pattern that matches it and does not in lower case.
* §E **`lowersPlainly_iff`** — so the texts that no lowering parts from a pattern are those without
  the two.
-/
import DomainFilter.Text.Lowercase
import DomainFilter.Proofs.Text.Wildcard

namespace DomainFilter.Text

/-! ## §A Lowering in parts -/

section

variable {c : Char} {before s : List Char}

theorem lowerAfter_sigma (before s : List Char) :
    lowerAfter before ('Σ' :: s)
      = (if endsWord before s then 'ς' else 'σ') :: lowerAfter ('Σ' :: before) s := rfl

theorem lowerAfter_of_ne_sigma (hsigma : c ≠ 'Σ') (before s : List Char) :
    lowerAfter before (c :: s) = lowerChar c ++ lowerAfter (c :: before) s := by
  rw [lowerAfter, if_neg hsigma]

theorem lowerAfter_of_single (hsigma : c ≠ 'Σ') (hdotted : c ≠ '\u0130') (before s : List Char) :
    lowerAfter before (c :: s) = lowerSingle c :: lowerAfter (c :: before) s := by
  rw [lowerAfter_of_ne_sigma hsigma, lowerChar, if_neg hdotted]
  rfl

/-- Any character but the dotted capital I becomes one. -/
theorem exists_lowerAfter_cons (hdotted : c ≠ '\u0130') (before s : List Char) :
    ∃ d, lowerAfter before (c :: s) = d :: lowerAfter (c :: before) s := by
  by_cases hsigma : c = 'Σ'
  · subst hsigma
    exact ⟨_, lowerAfter_sigma before s⟩
  · exact ⟨_, lowerAfter_of_single hsigma hdotted before s⟩

theorem lowerAfter_dotted (before s : List Char) :
    lowerAfter before ('\u0130' :: s) = 'i' :: '\u0307' :: lowerAfter ('\u0130' :: before) s :=
  lowerAfter_of_ne_sigma (by decide) before s

/-- A text in two parts is lowered part by part; the second one follows the first. -/
theorem exists_lowerAfter_append (before s t : List Char) :
    ∃ lowered, lowerAfter before (s ++ t) = lowered ++ lowerAfter (s.reverse ++ before) t
      ∧ lowered.length = s.length + s.count '\u0130' := by
  induction s generalizing before with
  | nil => exact ⟨[], rfl, rfl⟩
  | cons c s ih =>
    obtain ⟨lowered, hlowered, hlength⟩ := ih (c :: before)
    rw [List.cons_append, List.reverse_cons, List.append_assoc, List.singleton_append]
    by_cases hdotted : c = '\u0130'
    · subst hdotted
      refine ⟨'i' :: '\u0307' :: lowered, ?_, ?_⟩
      · rw [lowerAfter_dotted, hlowered]
        rfl
      · rw [List.count_cons_self, List.length_cons, List.length_cons, hlength, List.length_cons]
        omega
    · obtain ⟨d, hd⟩ := exists_lowerAfter_cons hdotted before (s ++ t)
      refine ⟨d :: lowered, ?_, ?_⟩
      · rw [hd, hlowered]
        rfl
      · rw [List.count_cons_of_ne hdotted, List.length_cons, hlength, List.length_cons]
        omega

/-- The lower case of a text is longer than the text by one for each dotted capital I. -/
theorem length_lower (s : List Char) : (lower s).length = s.length + s.count '\u0130' := by
  obtain ⟨lowered, hlowered, hlength⟩ := exists_lowerAfter_append [] s []
  rw [List.append_nil, lowerAfter, List.append_nil] at hlowered
  rw [lower, hlowered, hlength]

end

theorem lowerChar_run : lowerChar '%' = ['%'] := by decide

theorem lowerChar_one : lowerChar '_' = ['_'] := by decide

/-- The lower case of a character with one of its own lies above `%`. -/
theorem run_lt_lowercaseRuns :
    (lowercaseRuns.all fun (first, _, _, distance) =>
      decide (('%'.toNat : Int) < first + distance)) = true := by
  decide +kernel

theorem ofNat_ne_run {n : Nat} (h : '%'.toNat < n) : Char.ofNat n ≠ '%' := by
  intro heq
  by_cases hvalid : n.isValidChar
  · have hnat := congrArg Char.toNat heq
    rw [Char.ofNat, dif_pos hvalid] at hnat
    have hn : n = '%'.toNat := hnat
    omega
  · rw [Char.ofNat, dif_neg hvalid] at heq
    revert heq
    decide

/-- No other character becomes a `%`. -/
theorem lowerSingle_ne_run {c : Char} (h : c ≠ '%') : lowerSingle c ≠ '%' := by
  unfold lowerSingle
  split
  · next first last step distance hfind =>
    have hin := List.find?_some hfind
    have habove := List.all_eq_true.mp run_lt_lowercaseRuns _ (List.mem_of_find?_eq_some hfind)
    simp only [Bool.and_eq_true, decide_eq_true_eq] at hin habove
    apply ofNat_ne_run
    omega
  · exact h

theorem run_not_mem_lowerAfter {s : List Char} (h : '%' ∉ s) (before : List Char) :
    '%' ∉ lowerAfter before s := by
  induction s generalizing before with
  | nil => exact List.not_mem_nil
  | cons c s ih =>
    obtain ⟨hc, hs⟩ := not_or.mp (mt List.mem_cons.mpr h)
    have hrest := ih hs (c :: before)
    by_cases hsigma : c = 'Σ'
    · subst hsigma
      rw [lowerAfter_sigma, List.mem_cons, not_or]
      exact ⟨by split <;> decide, hrest⟩
    · by_cases hdotted : c = '\u0130'
      · subst hdotted
        rw [lowerAfter_dotted]
        simp [hrest]
      · rw [lowerAfter_of_single hsigma hdotted, List.mem_cons, not_or]
        exact ⟨(lowerSingle_ne_run (Ne.symm hc)).symm, hrest⟩

/-! ## §B What leads to a cased letter -/

theorem leadsToCased_cons (c : Char) (s : List Char) :
    leadsToCased (c :: s) = if isCaseIgnorable c then leadsToCased s else isCased c := by
  unfold leadsToCased
  by_cases hignorable : isCaseIgnorable c = true
  · rw [List.dropWhile_cons_of_pos hignorable, if_pos hignorable]
  · rw [List.dropWhile_cons_of_neg hignorable, if_neg hignorable]

/-- A word does not go on past a character without case that is not ignored. -/
theorem leadsToCased_of_breaks {c : Char} (hignorable : isCaseIgnorable c = false)
    (hcased : isCased c = false) (s : List Char) : leadsToCased (c :: s) = false := by
  rw [leadsToCased_cons, hignorable, hcased]
  rfl

theorem leadsToCased_run (s : List Char) : leadsToCased ('%' :: s) = false :=
  leadsToCased_of_breaks (by decide +kernel) (by decide +kernel) s

theorem leadsToCased_one (s : List Char) : leadsToCased ('_' :: s) = false :=
  leadsToCased_of_breaks (by decide +kernel) (by decide +kernel) s

/-- What a pattern shows of a word before some place, the text that it matches has there too. -/
theorem leadsToCased_of_takes {c : Char} {piece before seen : List Char}
    (htakes : (PatternItem.ofChar c).Takes piece)
    (h : leadsToCased before = true → leadsToCased seen = true)
    (hlead : leadsToCased (c :: before) = true) : leadsToCased (piece.reverse ++ seen) = true := by
  by_cases hrun : c = '%'
  · subst hrun
    rw [leadsToCased_run] at hlead
    cases hlead
  by_cases hone : c = '_'
  · subst hone
    rw [leadsToCased_one] at hlead
    cases hlead
  rw [ofChar_of_not_wildcard hrun hone] at htakes
  obtain rfl : piece = [c] := htakes
  change leadsToCased (c :: seen) = true
  rw [leadsToCased_cons] at hlead ⊢
  split
  · next hignorable =>
    rw [if_pos hignorable] at hlead
    exact h hlead
  · next hignorable =>
    rw [if_neg hignorable] at hlead
    exact hlead

/-- In the text, which follows what was seen of it last character first, each capital sigma begins
its word: none has a cased letter before it there. -/
def SigmasLead (seen text : List Char) : Prop :=
  ∀ before after, text = before ++ 'Σ' :: after → leadsToCased (before.reverse ++ seen) = false

theorem SigmasLead.of_append {seen piece rest : List Char} (h : SigmasLead seen (piece ++ rest)) :
    SigmasLead (piece.reverse ++ seen) rest := by
  rintro before after rfl
  have hlead := h (piece ++ before) after (List.append_assoc _ _ _).symm
  rw [List.reverse_append, List.append_assoc] at hlead
  exact hlead

theorem sigmasLead_cons_iff {c : Char} {seen text : List Char} :
    SigmasLead seen (c :: text) ↔
      (c = 'Σ' → leadsToCased seen = false) ∧ SigmasLead (c :: seen) text := by
  constructor
  · intro h
    have happend : SigmasLead seen ([c] ++ text) := h
    refine ⟨?_, happend.of_append⟩
    rintro rfl
    exact h [] text rfl
  · rintro ⟨hfirst, hrest⟩ before after hsplit
    cases before with
    | nil =>
      obtain ⟨rfl, -⟩ := List.cons_eq_cons.mp hsplit
      exact hfirst rfl
    | cons b before =>
      obtain ⟨rfl, rfl⟩ := List.cons_eq_cons.mp hsplit
      rw [List.reverse_cons, List.append_assoc]
      exact hrest before after rfl

instance SigmasLead.decidable : (seen text : List Char) → Decidable (SigmasLead seen text)
  | _, [] => isTrue fun before after h => by cases before <;> cases h
  | seen, c :: text =>
    haveI := SigmasLead.decidable (c :: seen) text
    decidable_of_iff _ sigmasLead_cons_iff.symm

/-! ## §C Matches in lower case -/

section

variable {before seen pattern rest : List Char}

theorem Matches.lowered_run (piece : List Char)
    (hrest : Matches ((lowerAfter ('%' :: before) pattern).map PatternItem.ofChar)
      (lowerAfter (piece.reverse ++ seen) rest)) :
    Matches ((lowerAfter before ('%' :: pattern)).map PatternItem.ofChar)
      (lowerAfter seen (piece ++ rest)) := by
  obtain ⟨lowered, hlowered, -⟩ := exists_lowerAfter_append seen piece rest
  rw [lowerAfter_of_ne_sigma (by decide), lowerChar_run, hlowered]
  exact .run_append lowered hrest

/-- A `_` takes the lower case of a character, if that is one character. -/
theorem Matches.lowered_one {d : Char} (hdotted : d ≠ '\u0130')
    (hrest : Matches ((lowerAfter ('_' :: before) pattern).map PatternItem.ofChar)
      (lowerAfter (d :: seen) rest)) :
    Matches ((lowerAfter before ('_' :: pattern)).map PatternItem.ofChar)
      (lowerAfter seen (d :: rest)) := by
  obtain ⟨e, he⟩ := exists_lowerAfter_cons hdotted seen rest
  rw [lowerAfter_of_ne_sigma (by decide), lowerChar_one, List.singleton_append, he]
  exact .cons_single ⟨e, rfl⟩ hrest

/-- A character becomes the same in the pattern and in the text, also a capital sigma if it begins
its word in both. -/
theorem Matches.lowered_exact {c : Char}
    (hsigma : c = 'Σ' → leadsToCased before = false ∧ leadsToCased seen = false)
    (hrest : Matches ((lowerAfter (c :: before) pattern).map PatternItem.ofChar)
      (lowerAfter (c :: seen) rest)) :
    Matches ((lowerAfter before (c :: pattern)).map PatternItem.ofChar)
      (lowerAfter seen (c :: rest)) := by
  by_cases hcapital : c = 'Σ'
  · subst hcapital
    obtain ⟨hshown, hseen⟩ := hsigma rfl
    rw [lowerAfter_sigma, lowerAfter_sigma, endsWord, endsWord, hseen, hshown]
    exact .cons_single rfl hrest
  by_cases hdotted : c = '\u0130'
  · subst hdotted
    rw [lowerAfter_dotted, lowerAfter_dotted]
    exact .cons_single rfl (.cons_single rfl hrest)
  rw [lowerAfter_of_single hcapital hdotted, lowerAfter_of_single hcapital hdotted]
  exact .cons_single (takes_ofChar_self _) hrest

end

/-- **`Matches.lowered`** — a pattern goes on matching a text in lower case if its `_` cannot meet a
dotted capital I and its capital sigmas meet only such as begin their word. The induction is on the
pattern; before a sigma the pattern never shows more of a word than the text has. -/
theorem Matches.lowered {pattern text before seen : List Char}
    (hdotted : '\u0130' ∉ text ∨ '_' ∉ pattern)
    (hsigma : 'Σ' ∉ pattern ∨
      SigmasLead seen text ∧ (leadsToCased before = true → leadsToCased seen = true))
    (h : Matches (pattern.map PatternItem.ofChar) text) :
    Matches ((lowerAfter before pattern).map PatternItem.ofChar) (lowerAfter seen text) := by
  induction pattern generalizing before seen text with
  | nil =>
    rw [matches_nil_iff.mp h]
    exact .nil
  | cons c pattern ih =>
    rw [List.map_cons, matches_cons_iff] at h
    obtain ⟨piece, rest, rfl, htakes, hrest⟩ := h
    have hrestLowered :
        Matches ((lowerAfter (c :: before) pattern).map PatternItem.ofChar)
          (lowerAfter (piece.reverse ++ seen) rest) := by
      refine ih ?_ ?_ hrest
      · exact hdotted.imp (mt (List.mem_append_right piece)) (mt (List.mem_cons_of_mem c))
      · refine hsigma.imp (mt (List.mem_cons_of_mem c)) ?_
        rintro ⟨hleads, hbefore⟩
        exact ⟨hleads.of_append, leadsToCased_of_takes htakes hbefore⟩
    by_cases hrun : c = '%'
    · subst hrun
      exact .lowered_run piece hrestLowered
    by_cases hone : c = '_'
    · subst hone
      obtain ⟨d, rfl⟩ : ∃ d, piece = [d] := htakes
      refine .lowered_one ?_ hrestLowered
      rintro rfl
      rcases hdotted with hdotted | hdotted
      · exact hdotted List.mem_cons_self
      · exact hdotted List.mem_cons_self
    rw [ofChar_of_not_wildcard hrun hone] at htakes
    obtain rfl : piece = [c] := htakes
    refine .lowered_exact ?_ hrestLowered
    rintro rfl
    obtain ⟨hleads, hbefore⟩ := hsigma.resolve_left (fun hnot => hnot List.mem_cons_self)
    have hseen : leadsToCased seen = false := hleads [] rest rfl
    refine ⟨?_, hseen⟩
    rw [← Bool.not_eq_true] at hseen ⊢
    exact mt hbefore hseen

/-! ## §D Patterns that lowering parts -/

/-- The pattern shows some of the characters of the text and has a `_` for each other one. -/
def Veils (pattern text : List Char) : Prop :=
  List.Forall₂ (fun shown c => shown = '_' ∨ shown = c ∧ c ≠ '%') pattern text

section

variable {pattern text : List Char}

theorem Veils.run_not_mem (h : Veils pattern text) : '%' ∉ pattern := by
  induction h with
  | nil => exact List.not_mem_nil
  | cons hshown _ ih =>
    rw [List.mem_cons, not_or]
    refine ⟨?_, ih⟩
    rcases hshown with rfl | ⟨rfl, hrun⟩
    · decide
    · exact hrun.symm

theorem Veils.dotted_not_mem (h : Veils pattern text) (hdotted : '\u0130' ∉ text) :
    '\u0130' ∉ pattern := by
  induction h with
  | nil => exact hdotted
  | cons hshown _ ih =>
    obtain ⟨hc, htext⟩ := not_or.mp (mt List.mem_cons.mpr hdotted)
    rw [List.mem_cons, not_or]
    refine ⟨?_, ih htext⟩
    rcases hshown with rfl | ⟨rfl, -⟩
    · decide
    · exact hc

theorem Veils.matches (h : Veils pattern text) : Matches (pattern.map PatternItem.ofChar) text := by
  induction h with
  | nil => exact .nil
  | @cons shown c pattern text hshown _ ih =>
    rw [List.map_cons]
    rcases hshown with rfl | ⟨rfl, -⟩
    · exact .cons_single ⟨c, rfl⟩ ih
    · exact .cons_single (takes_ofChar_self shown) ih

/-- The pattern that shows nothing of a text but its length. -/
def blanks (s : List Char) : List Char := s.map fun _ => '_'

/-- The pattern that shows all of a text but its `%`s. -/
def veilRuns (s : List Char) : List Char := s.map fun c => if c = '%' then '_' else c

theorem veils_blanks (s : List Char) : Veils (blanks s) s := by
  induction s with
  | nil => exact .nil
  | cons c s ih => exact .cons (.inl rfl) ih

theorem veils_veilRuns (s : List Char) : Veils (veilRuns s) s := by
  induction s with
  | nil => exact .nil
  | cons c s ih =>
    refine .cons ?_ ih
    beta_reduce
    split
    · exact .inl rfl
    · exact .inr ⟨rfl, ‹_›⟩

theorem leadsToCased_blanks (s : List Char) : leadsToCased (blanks s) = false := by
  cases s with
  | nil => rfl
  | cons c s => exact leadsToCased_one (blanks s)

theorem leadsToCased_veilRuns (s : List Char) : leadsToCased (veilRuns s) = leadsToCased s := by
  induction s with
  | nil => rfl
  | cons c s ih =>
    change leadsToCased ((if c = '%' then '_' else c) :: veilRuns s) = _
    split
    · next hrun => rw [hrun, leadsToCased_one, leadsToCased_run]
    · rw [leadsToCased_cons, leadsToCased_cons, ih]

theorem lower_blanks (s : List Char) : lower (blanks s) = blanks s := by
  apply lower_of_fixed
  intro c hc
  obtain ⟨d, -, rfl⟩ := List.mem_map.mp hc
  exact ⟨by decide, lowerChar_one⟩

end

/-- A `_` for each character matches the text, but has no place for both characters that a dotted
capital I becomes. -/
theorem not_matches_lower_blanks {text : List Char} (hdotted : '\u0130' ∈ text) :
    ¬ Matches ((lower (blanks text)).map PatternItem.ofChar) (lower text) := by
  intro h
  rw [lower_blanks] at h
  have hlength := h.length_eq (veils_blanks text).run_not_mem
  rw [length_lower, (veils_blanks text).length_eq] at hlength
  have hpos := List.count_pos_iff.mpr hdotted
  omega

/-- What a pattern shows before a capital sigma of a text that follows a cased letter: something
cased if the word goes on after the sigma, and nothing if it ends there. So in the pattern, which
shows nothing after the sigma, it is the other lower case of a sigma. -/
def frontAgainst (before after : List Char) : List Char :=
  if leadsToCased after then veilRuns before else blanks before

theorem veils_frontAgainst (before after : List Char) :
    Veils (frontAgainst before after) before := by
  unfold frontAgainst
  split
  · exact veils_veilRuns before
  · exact veils_blanks before

theorem leadsToCased_frontAgainst {before after : List Char}
    (hlead : leadsToCased before.reverse = true) :
    leadsToCased (frontAgainst before after).reverse = leadsToCased after := by
  unfold frontAgainst
  split
  · next hafter =>
    have hreverse : (veilRuns before).reverse = veilRuns before.reverse := List.map_reverse.symm
    rw [hreverse, leadsToCased_veilRuns, hlead, hafter]
  · next hafter =>
    have hreverse : (blanks before).reverse = blanks before.reverse := List.map_reverse.symm
    rw [hreverse, leadsToCased_blanks, Bool.eq_false_iff.mpr hafter]

theorem veils_against (before after : List Char) :
    Veils (frontAgainst before after ++ 'Σ' :: blanks after) (before ++ 'Σ' :: after) :=
  List.rel_append (veils_frontAgainst before after)
    (.cons (.inr ⟨rfl, by decide⟩) (veils_blanks after))

/-- In lower case too, what shows the start of a text takes up just that start. -/
theorem Veils.matches_rest {pattern text q t : List Char} (h : Veils pattern text)
    (hdotted : '\u0130' ∉ text) (hrun : '%' ∉ pattern ++ q)
    (hmatches : Matches ((lower (pattern ++ q)).map PatternItem.ofChar) (lower (text ++ t))) :
    Matches ((lowerAfter pattern.reverse q).map PatternItem.ofChar) (lowerAfter text.reverse t) := by
  obtain ⟨shown, hshown, hshownLength⟩ := exists_lowerAfter_append [] pattern q
  obtain ⟨lowered, hlowered, hloweredLength⟩ := exists_lowerAfter_append [] text t
  have hshownRun := run_not_mem_lowerAfter hrun []
  rw [hshown] at hshownRun
  have hlength : shown.length = lowered.length := by
    rw [hshownLength, hloweredLength, h.length_eq, List.count_eq_zero.mpr hdotted,
      List.count_eq_zero.mpr (h.dotted_not_mem hdotted)]
  rw [lower, lower, hshown, hlowered, List.append_nil, List.append_nil] at hmatches
  exact matches_of_append (mt (List.mem_append_left _) hshownRun) hlength hmatches

theorem not_matches_lower_against {before after : List Char}
    (hdotted : '\u0130' ∉ before ++ 'Σ' :: after) (hlead : leadsToCased before.reverse = true) :
    ¬ Matches ((lower (frontAgainst before after ++ 'Σ' :: blanks after)).map PatternItem.ofChar)
        (lower (before ++ 'Σ' :: after)) := by
  intro h
  have hsigma := (veils_frontAgainst before after).matches_rest
    (mt (List.mem_append_left _) hdotted) (veils_against before after).run_not_mem h
  rw [lowerAfter_sigma, lowerAfter_sigma, endsWord, endsWord, leadsToCased_frontAgainst hlead, hlead,
    leadsToCased_blanks] at hsigma
  -- the two sigmas differ, whether the word of the text goes on or not
  cases hafter : leadsToCased after with
  | false =>
    rw [hafter] at hsigma
    exact absurd (matches_exact_cons_iff.mp hsigma).1 (by decide)
  | true =>
    rw [hafter] at hsigma
    exact absurd (matches_exact_cons_iff.mp hsigma).1 (by decide)

/-! ## §E The texts that no lowering parts from a pattern -/

/-- The text has no dotted capital I, and no capital sigma after a cased letter of its word. -/
def LowersPlainly (text : List Char) : Prop := '\u0130' ∉ text ∧ SigmasLead [] text

instance (text : List Char) : Decidable (LowersPlainly text) :=
  inferInstanceAs (Decidable (_ ∧ _))

/-- **`lowersPlainly_iff`** — every pattern that matches the text matches it in lower case too,
exactly if the text has no dotted capital I and all its capital sigmas begin their words. -/
theorem lowersPlainly_iff (text : List Char) :
    LowersPlainly text ↔
      ∀ pattern, likeMatch text pattern = true → likeMatch (lower text) (lower pattern) = true := by
  simp only [likeMatch_iff_matches]
  constructor
  · rintro ⟨hdotted, hleads⟩ pattern h
    exact h.lowered (.inl hdotted) (.inr ⟨hleads, id⟩)
  · intro h
    have hdotted : '\u0130' ∉ text := by
      intro hdotted
      exact not_matches_lower_blanks hdotted (h _ (veils_blanks text).matches)
    refine ⟨hdotted, ?_⟩
    rintro before after rfl
    rw [List.append_nil, ← Bool.not_eq_true]
    intro hlead
    exact not_matches_lower_against hdotted hlead (h _ (veils_against before after).matches)

/-- A capital sigma may begin a word, but not end it. -/
example : LowersPlainly "Σωκράτης".toList ∧ ¬ LowersPlainly "ΣΩΚΡΑΤΗΣ".toList := by
  decide +kernel

end DomainFilter.Text
