import Mathlib.Algebra.Ring.Nat
import Mathlib.Data.List.Basic
import Outreach.Uuid

/-!
# Identifiers Read Back

The canonical text of an identifier has 32 digits in five groups with dashes between
them. Taking the dashes out gives the digits back, and the digits give the number back,
since it has no more than 128 bits.

## Main definitions

* `Text.IsHex`: A hexadecimal digit in lower case.

## Theorems

* `Text.isHex_of_mem`, `Text.ofHex?_hexDigits`: The digits of a number, and what they
  denote.
* `Uuid.readStrict?_text`: Every identifier is read back from its canonical text.
-/

namespace Outreach

namespace Text

/-- A hexadecimal digit in lower case. -/
def IsHex (c : Char) : Prop := c ∈ "0123456789abcdef".toList

instance : DecidablePred IsHex := fun c =>
  inferInstanceAs (Decidable (c ∈ "0123456789abcdef".toList))

theorem length_hexDigits (width : Nat) : ∀ n, (hexDigits width n).length = width := by
  induction width with
  | zero => exact fun _ => rfl
  | succ width ih =>
      intro n
      rw [hexDigits, List.length_append, ih]
      rfl

theorem isHex_hexDigit : ∀ d < 16, IsHex (hexDigit d) := by decide

theorem hexValue?_hexDigit : ∀ d < 16, Uuid.hexValue? (hexDigit d) = some d := by decide

theorem isHex_of_mem {c : Char} (width : Nat) : ∀ {n}, c ∈ hexDigits width n → IsHex c := by
  induction width with
  | zero => exact fun h => absurd h List.not_mem_nil
  | succ width ih =>
      intro n h
      rcases List.mem_append.1 h with h | h
      · exact ih h
      · rw [List.mem_singleton.1 h]
        exact isHex_hexDigit _ (Nat.mod_lt _ (by decide))

/-- Digits denote the number whose digits they are, as far as they go. -/
theorem ofHex?_hexDigits (width : Nat) : ∀ n, Uuid.ofHex? (hexDigits width n) =
    some (n % 16 ^ width) := by
  induction width with
  | zero =>
      intro n
      rw [Nat.pow_zero, Nat.mod_one]
      rfl
  | succ width ih =>
      intro n
      have hdigit := hexValue?_hexDigit (n % 16) (Nat.mod_lt _ (by decide))
      have hvalue : 16 * (n / 16 % 16 ^ width) + n % 16 = n % 16 ^ (width + 1) := by
        rw [Nat.pow_succ', Nat.mod_mul, Nat.add_comm]
      rw [Uuid.ofHex?, hexDigits, List.foldlM_append]
      change (Uuid.ofHex? (hexDigits width (n / 16))).bind _ = _
      rw [ih, Option.bind_some]
      simp only [List.foldlM_cons, List.foldlM_nil, hdigit, Option.map_some, Option.bind_eq_bind,
        Option.bind_some, Option.pure_def, hvalue]

end Text

namespace Uuid

open Text

/-- Without its dashes a grouped text is the digits. -/
theorem filter_grouped {ds : List Char} (h : ∀ c ∈ ds, c ≠ '-') :
    (grouped ds).filter (· != '-') = ds := by
  have hkeep : ∀ {part : List Char}, part ⊆ ds → part.filter (· != '-') = part :=
    fun hsub => List.filter_eq_self.2 fun c hc => bne_iff_ne.2 (h c (hsub hc))
  have hpart : ∀ n k, (ds.drop n).take k ⊆ ds :=
    fun n k c hc => List.drop_subset n ds (List.take_subset k _ hc)
  simp only [grouped, List.filter_append, List.filter_cons, bne_self_eq_false, Bool.false_eq_true,
    if_false, hkeep (List.take_subset _ _), hkeep (hpart _ _), hkeep (List.drop_subset _ _)]
  have hjoin : ∀ n k, (ds.drop n).take k ++ ds.drop (n + k) = ds.drop n := by
    intro n k
    rw [← List.drop_drop, List.take_append_drop]
  rw [List.append_assoc, List.append_assoc, List.append_assoc, hjoin 16 4, hjoin 12 4, hjoin 8 4,
    List.take_append_drop]

theorem length_grouped {ds : List Char} (h : ds.length = 32) : (grouped ds).length = 36 := by
  simp only [grouped, List.length_append, List.length_cons, List.length_take, List.length_drop, h]
  decide

/-- Every identifier is read back from its canonical text. -/
theorem readStrict?_text (u : Uuid) : readStrict? u.text = some u := by
  have hlength : (hexDigits 32 u.toNat).length = 32 := length_hexDigits 32 _
  have hdash : ∀ c ∈ hexDigits 32 u.toNat, c ≠ '-' := by
    rintro c hc rfl
    exact absurd (isHex_of_mem 32 hc) (by decide)
  have hungrouped : ungrouped? (grouped (hexDigits 32 u.toNat)) = some (hexDigits 32 u.toNat) := by
    rw [ungrouped?, filter_grouped hdash]
    exact if_pos ⟨length_grouped hlength, hlength, rfl⟩
  have hread : ofHex? (hexDigits 32 u.toNat) = some u.toNat :=
    (ofHex?_hexDigits 32 u.toNat).trans (congrArg some (Nat.mod_eq_of_lt u.bits.isLt))
  have hback : ofNat u.toNat = u :=
    congrArg Uuid.mk ((BitVec.ofNat_toNat 128 u.bits).trans (BitVec.setWidth_eq _))
  have hwidth : (36 : Nat) ≠ 32 := by decide
  simp only [readStrict?, text, chars, String.toList_ofList, length_grouped hlength, hungrouped,
    hwidth, if_false, if_true, Option.bind_eq_bind, Option.bind_some, hread, Option.map_some, hback]

end Uuid

end Outreach
