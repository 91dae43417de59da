/-!
# Powers

The powers of two and of ten, which the binary and the decimal places of
numbers are weighed by, and the first whole number beyond a machine word.

## Main definitions

* `twoTo`, `tenTo`: The powers.
* `wordLimit`: What a signed word of 64 bits stays below.

## Theorems

* `twoTo_succ`, `tenTo_succ`: One place more.
* `twoTo_add`, `tenTo_add`: Places put together.
* `twoTo_pos`, `tenTo_pos`: No place has the weight zero.
-/

namespace Outreach

/-- A power of two. -/
def twoTo (n : Nat) : Nat := Nat.pow 2 n

/-- A power of ten. -/
def tenTo (n : Nat) : Nat := Nat.pow 10 n

/-- The least whole number that is too large for a signed word of 64 bits. The
    least that is not too small for it is its negative. -/
def wordLimit : Int := twoTo 63

theorem twoTo_succ (n : Nat) : twoTo (n + 1) = twoTo n * 2 := rfl

theorem tenTo_succ (n : Nat) : tenTo (n + 1) = tenTo n * 10 := rfl

theorem twoTo_add (m n : Nat) : twoTo (m + n) = twoTo m * twoTo n := by
  induction n with
  | zero => exact (Nat.mul_one (twoTo m)).symm
  | succ n ih => rw [← Nat.add_assoc, twoTo_succ, twoTo_succ, ih, Nat.mul_assoc]

theorem tenTo_add (m n : Nat) : tenTo (m + n) = tenTo m * tenTo n := by
  induction n with
  | zero => exact (Nat.mul_one (tenTo m)).symm
  | succ n ih => rw [← Nat.add_assoc, tenTo_succ, tenTo_succ, ih, Nat.mul_assoc]

theorem twoTo_pos (n : Nat) : 0 < twoTo n := by
  induction n with
  | zero => exact Nat.one_pos
  | succ n ih => rw [twoTo_succ]; exact Nat.mul_pos ih (by decide)

theorem tenTo_pos (n : Nat) : 0 < tenTo n := by
  induction n with
  | zero => exact Nat.one_pos
  | succ n ih => rw [tenTo_succ]; exact Nat.mul_pos ih (by decide)

end Outreach
