/-
# DomainFilter.Text.Lowercase — full lower case of a text

The lower case of a text is that of its characters, one after the other, with two exceptions of the
Unicode standard: the capital I with dot above becomes two characters, an `i` and a combining dot,
and the capital sigma becomes a final sigma at the end of a word and a medial one elsewhere. So the
lower case of a text may be longer than the text, and it is not decided by characters alone.
-/
import DomainFilter.Text.LetterCase

namespace DomainFilter.Text

/-- The lower case of a character whose lower case is one character. -/
def lowerSingle (c : Char) : Char :=
  match lowercaseRuns.find? fun (first, last, step, _) =>
      first ≤ c.toNat && c.toNat ≤ last && (c.toNat - first) % step == 0 with
  | some (_, _, _, distance) => Char.ofNat ((c.toNat : Int) + distance).toNat
  | none => c

/-- The lower case of a character on its own. -/
def lowerChar (c : Char) : List Char :=
  if c = '\u0130' then ['i', '\u0307'] else [lowerSingle c]

/-- Whether the first character that is not ignored for case has case. -/
def leadsToCased (s : List Char) : Bool :=
  match s.dropWhile isCaseIgnorable with
  | [] => false
  | c :: _ => isCased c

/-- Whether a word ends between the two texts, the first of them given last character first. -/
def endsWord (before after : List Char) : Bool := leadsToCased before && !leadsToCased after

/-- The lower case of a text that follows `before`, which is given last character first. -/
def lowerAfter (before : List Char) : List Char → List Char
  | [] => []
  | c :: s =>
    (if c = 'Σ' then [if endsWord before s then 'ς' else 'σ'] else lowerChar c)
      ++ lowerAfter (c :: before) s

/-- The lower case of a text. -/
def lower (s : List Char) : List Char := lowerAfter [] s

theorem lowerAfter_of_fixed {s : List Char} (h : ∀ c ∈ s, c ≠ 'Σ' ∧ lowerChar c = [c])
    (before : List Char) : lowerAfter before s = s := by
  induction s generalizing before with
  | nil => rfl
  | cons c s ih =>
    obtain ⟨hsigma, hfixed⟩ := h c List.mem_cons_self
    have hrest := ih (fun d hd => h d (List.mem_cons_of_mem c hd)) (c :: before)
    rw [lowerAfter, if_neg hsigma, hfixed, hrest]
    rfl

/-- A text of characters that are their own lower case is its own lower case. -/
theorem lower_of_fixed {s : List Char} (h : ∀ c ∈ s, c ≠ 'Σ' ∧ lowerChar c = [c]) :
    lower s = s :=
  lowerAfter_of_fixed h []

end DomainFilter.Text
