import Outreach.Text.Basic

/-!
# Substitution

Every occurrence of one text in another is replaced. The scan goes from left
to right and continues behind each occurrence, so occurrences do not overlap
and what was put in is not looked at again. An empty text occurs before every
point and at the end.

## Main definitions

* `afterHead?`: What follows a text at the start of another.
* `substituteFrom`: The scan for a text that is not empty.
* `substituteIn`, `substitute`: The replacement.
-/

namespace Outreach

namespace Text

/-- What follows `head` in a list that starts with it. -/
def afterHead? : List Point → List Point → Option (List Point)
  | [], cs => some cs
  | _ :: _, [] => none
  | h :: hs, c :: cs => if h = c then afterHead? hs cs else none

theorem length_of_afterHead? {head cs rest : List Point} (h : afterHead? head cs = some rest) :
    cs.length = head.length + rest.length := by
  induction head generalizing cs with
  | nil => simp [afterHead?] at h; simp [h]
  | cons x xs ih =>
      cases cs with
      | nil => simp [afterHead?] at h
      | cons c cs =>
          simp only [afterHead?] at h
          split at h
          · have := ih h
            simp only [List.length_cons]
            omega
          · simp at h

/-- Replace the occurrences of the text with first point `h` and further
    points `hs`. -/
def substituteFrom (h : Point) (hs value : List Point) (ps : List Point) : List Point :=
  match ps with
  | [] => []
  | p :: rest =>
    match _hm : afterHead? (h :: hs) (p :: rest) with
    | some tail => value ++ substituteFrom h hs value tail
    | none => p :: substituteFrom h hs value rest
termination_by ps.length
decreasing_by
  · have := length_of_afterHead? _hm
    simp only [List.length_cons] at this ⊢
    omega
  · simp

/-- Replace every occurrence of a list of points. -/
def substituteIn (target value ps : List Point) : List Point :=
  match target with
  | [] => value ++ ps.flatMap fun p => p :: value
  | h :: hs => substituteFrom h hs value ps

/-- Replace every occurrence of `target` in a text by `value`. -/
def substitute (text target value : Text) : Text :=
  ⟨substituteIn target.points value.points text.points⟩

end Text

end Outreach
