import Mathlib.Data.List.Lex
import Mathlib.Data.List.Sort

/-!
# Byte strings

`Bytes` is Go's `[]byte`, and `Bytes.Lt` the order in which Badger keeps its keys and
`bytes.Compare` compares: byte by byte, a proper prefix before its extensions.

The scrutinizer's iterator proofs use three facts about this order: it is a strict total
order; a common prefix neither creates nor hides an inversion (`append_lt_append_iff`); and
the keys that extend a prefix `p` form an interval, since a key at or after `p` that does
not extend it comes after every key that does (`append_lt_of_not_prefix`).
-/

/-- A Go byte slice. -/
abbrev Bytes := List UInt8

namespace Bytes

instance : IsIrrefl UInt8 (· < ·) := ⟨UInt8.lt_irrefl⟩

theorem uint8_lt_iff_toNat_lt {x y : UInt8} :
  x < y ↔ x.toNat < y.toNat
  := by
  rw [UInt8.lt_def, BitVec.lt_def]
  rfl

theorem uint8_trichotomy (x y : UInt8) :
  x < y ∨ x = y ∨ y < x
  := by
  simp only [uint8_lt_iff_toNat_lt]
  rcases Nat.lt_trichotomy x.toNat y.toNat with h | h | h
  · exact .inl h
  · exact .inr (.inl (UInt8.toNat.inj h))
  · exact .inr (.inr h)

/-- Byte-wise lexicographic order, a proper prefix first. -/
def Lt (a b : Bytes) : Prop := List.Lex (· < ·) a b

instance : DecidableRel Lt := fun a b => List.Lex.decidableRel (· < ·) a b

theorem lt_irrefl (a : Bytes) :
  ¬ Lt a a
  := by
  induction a with
  | nil => exact List.Lex.not_nil_right _ _
  | cons x a ih =>
      intro h
      cases h with
      | cons h => exact ih h
      | rel h => exact UInt8.lt_irrefl x h

theorem lt_trans {a b c : Bytes} (hab : Lt a b) (hbc : Lt b c) :
  Lt a c
  := by
  induction hab generalizing c with
  | nil => cases hbc <;> exact .nil
  | cons _ ih =>
      cases hbc with
      | cons h => exact .cons (ih h)
      | rel h => exact .rel h
  | rel h =>
      cases hbc with
      | cons _ => exact .rel h
      | rel h' => exact .rel (UInt8.lt_trans h h')

theorem lt_asymm {a b : Bytes} (h : Lt a b) :
  ¬ Lt b a
  := fun h' => lt_irrefl a (lt_trans h h')

theorem lt_trichotomy (a b : Bytes) :
  Lt a b ∨ a = b ∨ Lt b a
  := by
  induction a generalizing b with
  | nil =>
      cases b with
      | nil => exact .inr (.inl rfl)
      | cons _ _ => exact .inl .nil
  | cons x a ih =>
      cases b with
      | nil => exact .inr (.inr .nil)
      | cons y b =>
          rcases uint8_trichotomy x y with h | rfl | h
          · exact .inl (.rel h)
          · rcases ih b with h | rfl | h
            · exact .inl (.cons h)
            · exact .inr (.inl rfl)
            · exact .inr (.inr (.cons h))
          · exact .inr (.inr (.rel h))

theorem not_lt_nil (a : Bytes) :
  ¬ Lt a []
  := List.Lex.not_nil_right _ a

/-- A common prefix neither creates nor hides an inversion. -/
theorem append_lt_append_iff (p : Bytes) {s t : Bytes} :
  Lt (p ++ s) (p ++ t) ↔ Lt s t
  := by
  induction p with
  | nil => rfl
  | cons _ p ih => exact List.Lex.cons_iff.trans ih

/-- No extension of `p` comes before `p`. -/
theorem not_lt_of_prefix {p k : Bytes} (h : p <+: k) :
  ¬ Lt k p
  := by
  obtain ⟨s, rfl⟩ := h
  induction p with
  | nil => exact not_lt_nil s
  | cons _ p ih => exact fun h => ih (List.Lex.cons_iff.mp h)

/-- A key at or after `p` that does not extend `p` comes after every key that does. -/
theorem append_lt_of_not_prefix {p k : Bytes} (t : Bytes) (hk : ¬ Lt k p)
    (hp : ¬ p <+: k) :
  Lt (p ++ t) k
  := by
  induction p generalizing k with
  | nil => exact absurd (List.nil_prefix) hp
  | cons x p ih =>
      cases k with
      | nil => exact absurd .nil hk
      | cons y k =>
          rcases uint8_trichotomy x y with h | rfl | h
          · exact .rel h
          · exact .cons (ih (fun h => hk (.cons h)) (fun h => hp (List.prefix_cons_inj x |>.mpr h)))
          · exact absurd (.rel h) hk

end Bytes
