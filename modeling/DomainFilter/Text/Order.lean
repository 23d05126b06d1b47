/-
# DomainFilter.Text.Order — texts in code point order

Texts are compared character by character by code point; a text comes before its own extensions.
This is also the order of their UTF-8 encodings.
-/

namespace DomainFilter.Text

/-- The order of two texts by code point. -/
def order : List Char → List Char → Ordering
  | [], [] => .eq
  | [], _ :: _ => .lt
  | _ :: _, [] => .gt
  | c :: s, d :: t =>
    if c.toNat < d.toNat then .lt else if d.toNat < c.toNat then .gt else order s t

theorem order_self (s : List Char) : order s s = .eq := by
  induction s with
  | nil => rfl
  | cons c s ih => simp [order, ih]

/-- Only equal texts compare as equal. -/
theorem order_eq_iff {s t : List Char} : order s t = .eq ↔ s = t := by
  constructor
  · intro h
    induction s generalizing t with
    | nil => cases t with
      | nil => rfl
      | cons d t => simp [order] at h
    | cons c s ih => cases t with
      | nil => simp [order] at h
      | cons d t =>
        simp only [order] at h
        split at h
        · cases h
        · split at h
          · cases h
          · rename_i h1 h2
            have hcd : c = d := Char.toNat_inj.mp (by omega)
            rw [hcd, ih h]
  · rintro rfl
    exact order_self s

end DomainFilter.Text
