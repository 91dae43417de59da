import Outreach.Sql.Expr

/-!
# Values Are Equal When They Are the Same

A statement finds a row by comparing what a column holds with a parameter.
Identifiers are ordered by their numbers and texts by their code points, and no
two of them have the same, so a comparison for equality finds just the rows with
the value that was asked for.

## Theorems

* `Text.order_eq_iff`: No two texts have the same code points.
* `SqlValue.satisfies_text`, `SqlValue.satisfies_id`: Equality of texts and of
  identifiers.
* `SqlValue.satisfies_int_eq`, `SqlValue.satisfies_int_lt`,
  `SqlValue.satisfies_int_ge`: Comparisons of whole numbers.
-/

namespace Outreach

/-- A character is no half of a surrogate pair, so a code point has one point. -/
theorem Point.code_inj {p q : Point} (h : p.code = q.code) : p = q := by
  have hhalf : ∀ (c : Char) (k : Fin 2048), c.toNat ≠ 0xD800 + k.val := by
    intro c k hc
    have hvalid := c.valid
    have hk := k.isLt
    simp only [Char.toNat, UInt32.isValidChar, Nat.isValidChar] at hc hvalid
    omega
  cases p with
  | char c =>
      cases q with
      | char d => exact congrArg Point.char (Char.toNat_inj.1 h)
      | half k => exact absurd h (hhalf c k)
  | half j =>
      cases q with
      | char d => exact absurd h.symm (hhalf d j)
      | half k => exact congrArg Point.half (Fin.ext (Nat.add_left_cancel h))

namespace Text

theorem compareLex_eq_iff {as bs : List Nat} : order.compareLex as bs = .eq ↔ as = bs := by
  induction as generalizing bs with
  | nil => cases bs <;> simp [order.compareLex]
  | cons a as ih =>
      cases bs with
      | nil => simp [order.compareLex]
      | cons b bs =>
          by_cases hab : a = b
          · rw [order.compareLex, if_pos hab, ih, List.cons.injEq]
            exact (and_iff_right hab).symm
          · have hne : compare a b ≠ .eq := fun heq => hab (Nat.compare_eq_eq.1 heq)
            rw [order.compareLex, if_neg hab, List.cons.injEq]
            exact iff_of_false hne fun heq => hab heq.1

/-- No two texts have the same code points. -/
theorem order_eq_iff {s t : Text} : s.order t = .eq ↔ s = t := by
  rw [order, compareLex_eq_iff, codes, codes]
  constructor
  · intro h
    cases s
    cases t
    exact congrArg Text.mk ((List.map_inj_right fun _ _ => Point.code_inj).1 h)
  · rintro rfl
    rfl

theorem ofString_inj {s t : String} : ofString s = ofString t ↔ s = t := by
  constructor
  · intro h
    have hchars : ∀ cs ds : List Char, ofChars cs = ofChars ds → cs = ds := by
      intro cs ds hcs
      have hread := congrArg chars? hcs
      rw [chars?_ofChars, chars?_ofChars, Option.some.injEq] at hread
      exact hread
    exact String.toList_inj.1 (hchars _ _ h)
  · rintro rfl
    rfl

end Text

theorem Uuid.toNat_inj {u v : Uuid} : u.toNat = v.toNat ↔ u = v := by
  constructor
  · intro h
    cases u
    cases v
    exact congrArg Uuid.mk (BitVec.eq_of_toNat_eq h)
  · rintro rfl
    rfl

namespace Comparator

theorem accepts_eq {o : Ordering} : eq.accepts o = true ↔ o = .eq := by
  cases o <;> decide

theorem accepts_lt {o : Ordering} : lt.accepts o = true ↔ o = .lt := by
  cases o <;> decide

theorem accepts_ge {o : Ordering} : ge.accepts o = true ↔ o ≠ .lt := by
  cases o <;> decide

end Comparator

namespace SqlValue

theorem satisfies_text (s t : Text) : satisfies .eq (.text s) (.text t) = decide (s = t) := by
  rw [Bool.eq_iff_iff, decide_eq_true_iff]
  exact Comparator.accepts_eq.trans Text.order_eq_iff

theorem satisfies_id (u v : Uuid) : satisfies .eq (.id u) (.id v) = decide (u = v) := by
  rw [Bool.eq_iff_iff, decide_eq_true_iff]
  exact Comparator.accepts_eq.trans (Nat.compare_eq_eq.trans Uuid.toNat_inj)

theorem satisfies_int_eq (a b : Int) : satisfies .eq (.int a) (.int b) = decide (a = b) := by
  rw [Bool.eq_iff_iff, decide_eq_true_iff]
  exact Comparator.accepts_eq.trans Int.compare_eq_eq

theorem satisfies_int_lt (a b : Int) : satisfies .lt (.int a) (.int b) = decide (a < b) := by
  rw [Bool.eq_iff_iff, decide_eq_true_iff]
  exact Comparator.accepts_lt.trans Int.compare_eq_lt

theorem satisfies_int_ge (a b : Int) : satisfies .ge (.int a) (.int b) = decide (b ≤ a) := by
  rw [Bool.eq_iff_iff, decide_eq_true_iff]
  exact Comparator.accepts_ge.trans ((not_congr Int.compare_eq_lt).trans Int.not_lt)

end SqlValue

end Outreach
