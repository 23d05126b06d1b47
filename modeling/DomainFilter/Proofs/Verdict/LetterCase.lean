/-
# DomainFilter.Proofs.Verdict.LetterCase — patterns with and without regard to case

`ilike` lowers the text of the operand and the pattern each by itself and then asks what `like`
asks. So it says true wherever `like` does, except on texts that lowering parts from a pattern.

* §A Both operators as matches of texts.
* §B **`ilike_of_like_iff`** — the operands on which no pattern under `like` is lost under `ilike`,
  and for other operands the patterns that are safe.
* §C Two operands that lose one: a word in capitals that ends with a sigma, and a dotted capital I.
-/
import DomainFilter.Verdict
import DomainFilter.Proofs.Text.Lowercase

namespace DomainFilter.Verdict

open Text (likeMatch_iff_matches lower LowersPlainly SigmasLead PatternItem)

/-! ## §A The two operators -/

theorem ofOperator_like_iff {operand value : Value} :
    ofOperator .like operand value = some true
      ↔ Text.Matches (value.text.map PatternItem.ofChar) operand.text := by
  rw [← likeMatch_iff_matches]
  exact Option.some_inj

theorem ofOperator_ilike_iff {operand value : Value} :
    ofOperator .ilike operand value = some true
      ↔ Text.Matches ((lower value.text).map PatternItem.ofChar) (lower operand.text) := by
  rw [← likeMatch_iff_matches]
  exact Option.some_inj

/-! ## §B Where the one permits what the other does -/

/-- Lowering does not part the text of an operand from that of a value as its pattern: the pattern
has no wildcards, or it has no `_` for a dotted capital I and no capital sigma for one that follows
a cased letter of its word. -/
def LoweredAlike (operand value : Value) : Prop :=
  ('%' ∉ value.text ∧ '_' ∉ value.text)
    ∨ ('\u0130' ∉ operand.text ∨ '_' ∉ value.text)
      ∧ ('Σ' ∉ value.text ∨ SigmasLead [] operand.text)

instance (operand value : Value) : Decidable (LoweredAlike operand value) :=
  inferInstanceAs (Decidable (_ ∨ _))

/-- **`ilike_of_like_iff`** — `ilike` says true of an operand wherever `like` does, whatever the
value, exactly if the text of the operand has no dotted capital I and no capital sigma after a cased
letter of its word. Of any other operand it still does for every value that is lowered alike. -/
theorem ilike_of_like_iff (operand : Value) :
    ((∀ value, ofOperator .like operand value = some true →
        ofOperator .ilike operand value = some true) ↔ LowersPlainly operand.text)
      ∧ ∀ value, LoweredAlike operand value → ofOperator .like operand value = some true →
          ofOperator .ilike operand value = some true := by
  refine ⟨?_, ?_⟩
  · rw [Text.lowersPlainly_iff]
    constructor
    · intro h pattern
      -- every pattern is the text of a string
      have hpattern := h (.string (String.ofList pattern))
      have htext : (Value.string (String.ofList pattern)).text = pattern := String.toList_ofList
      rw [ofOperator_like_iff, ofOperator_ilike_iff, htext] at hpattern
      rw [likeMatch_iff_matches, likeMatch_iff_matches]
      exact hpattern
    · intro h value
      rw [ofOperator_like_iff, ofOperator_ilike_iff, ← likeMatch_iff_matches,
        ← likeMatch_iff_matches]
      exact h value.text
  · intro value halike hlike
    rw [ofOperator_like_iff] at hlike
    rw [ofOperator_ilike_iff]
    rcases halike with ⟨hrun, hone⟩ | ⟨hdotted, hsigma⟩
    · rw [hlike.eq_of_plain hrun hone]
      exact Text.matches_self _
    · exact hlike.lowered hdotted (hsigma.imp_right fun hleads => ⟨hleads, id⟩)

/-- A capital sigma is found with any pattern where it begins its word, and elsewhere with a pattern
that does not show it. -/
theorem ilike_of_like_socrates :
    ofOperator .ilike (.string "Σωκράτης") (.string "%Σ_κ%") = some true
      ∧ ofOperator .ilike (.string "ΣΩΚΡΑΤΗΣ") (.string "%ΡΑ%_") = some true := by
  refine ⟨?_, ?_⟩
  · exact (ilike_of_like_iff (.string "Σωκράτης")).1.mpr (by decide +kernel) _ (by decide +kernel)
  · exact (ilike_of_like_iff (.string "ΣΩΚΡΑΤΗΣ")).2 _ (by decide +kernel) (by decide +kernel)

/-! ## §C Where it does not -/

/-- At the end of its word the sigma is final in lower case; the pattern, which does not show the
word, has a medial one. -/
theorem ilike_loses_final_sigma :
    ofOperator .like (.string "ΑΣ") (.string "%Σ") = some true
      ∧ ofOperator .ilike (.string "ΑΣ") (.string "%Σ") = some false := by
  decide +kernel

/-- A dotted capital I has two characters in lower case, and a `_` takes one. -/
example :
    ofOperator .like (.string "İ") (.string "_") = some true
      ∧ ofOperator .ilike (.string "İ") (.string "_") = some false := by
  decide +kernel

end DomainFilter.Verdict
