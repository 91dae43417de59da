import Outreach.Assembly
import Outreach.Proofs.Text.Substitute

/-!
# The Masked Password

To substitute is to join pieces in which the text that is searched for does not occur with
what is put in. If these two have no point in common, an occurrence cannot reach across a
joint, so none is left, even of a text that overlaps with itself. If there is just one
occurrence to begin with, the scan finds that one and keeps the rest.

This is how the address of the database is logged: with a mask for every occurrence of the
password.

## Main definitions

* `DatabaseSettings.beforePassword`, `DatabaseSettings.afterPassword`: The address around the
  password.

## Theorems

* `Text.infix_of_apart`: An occurrence does not reach across a text with no common point.
* `Text.not_contains_substitute`: No occurrence is left.
* `Text.one_lt_occurrences`: Two places are two occurrences.
* `Text.substitute_of_once`: The only occurrence is replaced.
* `Assembly.log_connect`: What connecting leaves in the log.
* `DatabaseSettings.password_masked`: The address that is logged.
-/

namespace Outreach

namespace Text

theorem append_points (s t : Text) : (s ++ t).points = s.points ++ t.points := rfl

theorem append_assoc (s t u : Text) : s ++ t ++ u = s ++ (t ++ u) :=
  congrArg Text.mk (List.append_assoc s.points t.points u.points)

/-! ## No occurrence is left -/

section

variable {target before mask after : List Point}

/-- No occurrence begins among points that it has none of. -/
theorem infix_of_append (hne : target ≠ []) (hapart : ∀ c ∈ mask, c ∉ target)
    (h : target <:+: mask ++ after) : target <:+: after := by
  induction mask with
  | nil => exact h
  | cons c mask ih =>
      rcases List.infix_cons_iff.1 h with hbegins | hlater
      · cases target with
        | nil => exact absurd rfl hne
        | cons d target =>
            have hsame : d = c := (List.cons_prefix_cons.1 hbegins).1
            exact absurd (hsame ▸ List.mem_cons_self) (hapart c List.mem_cons_self)
      · exact ih (fun d hd => hapart d (List.mem_cons_of_mem c hd)) hlater

/-- No occurrence reaches across points that it has none of. -/
theorem infix_of_apart (hne : target ≠ []) (hmask : mask ≠ []) (hapart : ∀ c ∈ mask, c ∉ target)
    (h : target <:+: before ++ (mask ++ after)) : target <:+: before ∨ target <:+: after := by
  induction before with
  | nil => exact .inr (infix_of_append hne hapart h)
  | cons c before ih =>
      rcases List.infix_cons_iff.1 h with hbegins | hlater
      · rcases hbegins with ⟨tail, htail⟩
        have heq : target ++ tail = c :: before ++ (mask ++ after) := htail
        -- It begins before the mask; if it did not end there, it would hold a point of it.
        rcases List.append_eq_append_iff.1 heq with ⟨gap, hgap, -⟩ | ⟨gap, hgap, hmore⟩
        · exact .inl ⟨[], gap, hgap.symm⟩
        · cases gap with
          | nil =>
              rw [hgap, List.append_nil]
              exact .inl List.infix_rfl
          | cons d gap =>
              cases mask with
              | nil => exact absurd rfl hmask
              | cons e mask =>
                  have hsame : e = d := (List.cons.inj hmore).1
                  refine absurd ?_ (hapart e List.mem_cons_self)
                  rw [hgap, hsame]
                  exact List.mem_append_right _ List.mem_cons_self
      · exact (ih hlater).imp_left List.infix_cons

end

variable {target value : Text}

theorem not_contains_join (hne : target.points ≠ []) (hvalue : value.points ≠ [])
    (hapart : ∀ c ∈ value.points, c ∉ target.points) : ∀ {pieces : List Text},
    (∀ p ∈ pieces, ¬p.Contains target) → ¬(join value pieces).Contains target
  | [], _ => not_infix_nil hne
  | [p], hfree => hfree p List.mem_cons_self
  | p :: q :: rest, hfree => by
      rw [Contains, join_cons_cons]
      intro h
      rcases infix_of_apart hne hvalue hapart h with hpiece | hrest
      · exact hfree p List.mem_cons_self hpiece
      · exact not_contains_join hne hvalue hapart
          (fun r hr => hfree r (List.mem_cons_of_mem p hr)) hrest

/-- A text does not occur where it was replaced by one with which it has no point in common. -/
theorem not_contains_substitute (hne : target.points ≠ []) (hvalue : value.points ≠ [])
    (hapart : ∀ c ∈ value.points, c ∉ target.points) (text : Text) :
    ¬(text.substitute target value).Contains target := by
  rcases exists_pieces_substitute hne text value with ⟨pieces, hpieces, hjoin⟩
  rw [hjoin]
  exact not_contains_join hne hvalue hapart hpieces.free

/-! ## The only occurrence -/

/-- What occurs in a text is counted there. -/
theorem countP_tails_pos {target ps : List Point} (h : target <:+: ps) :
    0 < ps.tails.countP target.isPrefixOf := by
  rcases h with ⟨before, after, rfl⟩
  refine List.countP_pos_iff.2 ⟨target ++ after, (List.mem_tails _ _).2 ?_, ?_⟩
  · exact ⟨before, (List.append_assoc _ _ _).symm⟩
  · exact List.isPrefixOf_iff_prefix.2 (List.prefix_append target after)

/-- Two places are two occurrences. -/
theorem one_lt_countP_tails {target after after' : List Point} : ∀ {before before' : List Point},
    before ++ (target ++ after) = before' ++ (target ++ after') →
      before.length < before'.length →
        1 < (before ++ (target ++ after)).tails.countP target.isPrefixOf
  | _, [], _, hlt => absurd hlt (Nat.not_lt_zero _)
  | [], c :: before', heq, _ => by
      have hhere : target.isPrefixOf ([] ++ (target ++ after)) = true :=
        List.isPrefixOf_iff_prefix.2 (List.prefix_append target after)
      have hlater : target <:+: before' ++ (target ++ after') :=
        ⟨before', after', List.append_assoc _ _ _⟩
      rw [heq] at hhere ⊢
      rw [List.cons_append] at hhere ⊢
      rw [List.tails_cons, List.countP_cons, if_pos hhere]
      exact Nat.succ_lt_succ (countP_tails_pos hlater)
  | b :: before, c :: before', heq, hlt => by
      rw [List.cons_append, List.cons_append, List.cons.injEq] at heq
      have hrest := one_lt_countP_tails heq.2 (Nat.lt_of_succ_lt_succ hlt)
      rw [List.cons_append, List.tails_cons, List.countP_cons]
      omega

theorem one_lt_occurrences {before after before' after' : Text}
    (heq : before ++ (target ++ after) = before' ++ (target ++ after'))
    (hlt : before.length < before'.length) :
    1 < (before ++ (target ++ after)).occurrences target :=
  one_lt_countP_tails (congrArg Text.points heq) hlt

/-- Where a text occurs once, there is one place for it. -/
theorem eq_of_occurrences {before after before' after' : Text}
    (honce : (before ++ (target ++ after)).occurrences target = 1)
    (heq : before ++ (target ++ after) = before' ++ (target ++ after')) :
    before = before' ∧ after = after' := by
  have hlength : before.length = before'.length := by
    rcases Nat.lt_trichotomy before.length before'.length with hlt | hsame | hgt
    · exact absurd honce (one_lt_occurrences heq hlt).ne'
    · exact hsame
    · exact absurd (heq ▸ honce) (one_lt_occurrences heq.symm hgt).ne'
  rcases List.append_inj (congrArg Text.points heq) hlength with ⟨hbefore, hrest⟩
  exact ⟨congrArg Text.mk hbefore, congrArg Text.mk (List.append_cancel_left hrest)⟩

/-- The only occurrence is replaced, and what stands around it is kept. -/
theorem substitute_of_once {before after : Text} (hne : target.points ≠ [])
    (honce : (before ++ (target ++ after)).occurrences target = 1) :
    (before ++ (target ++ after)).substitute target value = before ++ (value ++ after) := by
  rcases exists_pieces_substitute hne (before ++ (target ++ after)) value with
    ⟨pieces, hpieces, hjoin⟩
  rw [hjoin]
  match pieces with
  | [] => exact absurd rfl hpieces.nonempty
  | [p] =>
      refine absurd ?_ (hpieces.free p List.mem_cons_self)
      have hp : before ++ (target ++ after) = p := hpieces.joined
      rw [← hp]
      exact ⟨before.points, after.points, List.append_assoc _ _ _⟩
  | p :: q :: rest =>
      have hfirst : before ++ (target ++ after) = p ++ (target ++ join target (q :: rest)) :=
        hpieces.joined.trans (congrArg Text.mk (join_cons_cons p q rest))
      rcases eq_of_occurrences honce hfirst with ⟨rfl, hafter⟩
      cases rest with
      | nil =>
          have hq : after = q := hafter
          rw [hq]
          exact congrArg Text.mk (join_cons_cons before q [])
      | cons r rest =>
          -- Another joint would be another place.
          have hsecond : before ++ (target ++ after) =
              before ++ target ++ q ++ (target ++ join target (r :: rest)) := by
            rw [hafter]
            refine congrArg Text.mk ?_
            simp only [append_points, join_cons_cons, List.append_assoc]
          have hsame := congrArg Text.length (eq_of_occurrences honce hsecond).1
          have hpos := List.length_pos_iff.2 hne
          simp only [length, append_points, List.length_append] at hsame
          omega

end Text

open Text

/-- What connecting leaves in the log: the masked address and that it succeeded, unless there is
    nothing to connect to or the database is connected already. -/
theorem Assembly.log_connect {a b : Assembly} (h : a.connect = .ok b) :
    b.log = if a.inMemory || a.connected then a.log
      else a.log ++
        [⟨.info, .database, "Connecting to database: " ++ a.settings.database.shownUrl, []⟩,
          ⟨.info, .database, "Database connected", []⟩] := by
  rw [connect] at h
  by_cases hdone : (a.inMemory || a.connected) = true
  · rw [if_pos hdone] at h ⊢
    cases h
    rfl
  · rw [if_neg hdone] at h ⊢
    cases haddress : Address.ofText a.settings.database.url with
    | error fault =>
        rw [haddress] at h
        cases h
    | ok address =>
        rw [haddress] at h
        cases hcheck : address.check with
        | error fault =>
            simp only [bind, Except.bind, hcheck] at h
            cases h
        | ok checked =>
            simp only [bind, Except.bind, hcheck] at h
            cases h
            exact List.append_assoc _ _ _

namespace DatabaseSettings

variable {s : DatabaseSettings}

/-- The address before the password. -/
def beforePassword (s : DatabaseSettings) : Text :=
  "postgresql+asyncpg://" ++ s.username ++ ":"

/-- The address behind the password. -/
def afterPassword (s : DatabaseSettings) : Text :=
  "@" ++ s.host ++ ":" ++ toString s.port ++ "/" ++ s.database

theorem url_eq (s : DatabaseSettings) :
    s.url = s.beforePassword ++ (s.password ++ s.afterPassword) := by
  simp only [url, beforePassword, afterPassword, append_assoc]

/-- A password that is not empty and has no point in common with the mask does not occur in the
    address that is logged. If it occurs in the address only at its own place, everything around
    it is logged as it is. -/
theorem password_masked (hne : s.password.points ≠ [])
    (hstar : Point.char '*' ∉ s.password.points) :
    ¬s.shownUrl.Contains s.password ∧
      s.url = s.beforePassword ++ (s.password ++ s.afterPassword) ∧
      (s.url.occurrences s.password = 1 →
        s.shownUrl = s.beforePassword ++ ((mask : Text) ++ s.afterPassword)) ∧
      ∀ a b : Assembly, a.settings.database = s → a.connect = .ok b →
        b.log = if a.inMemory || a.connected then a.log
          else a.log ++ [⟨.info, .database, "Connecting to database: " ++ s.shownUrl, []⟩,
            ⟨.info, .database, "Database connected", []⟩] := by
  have hapart : ∀ c ∈ (Text.ofString mask).points, c ∉ s.password.points := by
    intro c hc
    have hall : ∀ c ∈ (Text.ofString mask).points, c = .char '*' := by decide +kernel
    rw [hall c hc]
    exact hstar
  refine ⟨not_contains_substitute hne (by decide +kernel) hapart s.url, s.url_eq, ?_, ?_⟩
  · intro honce
    rw [url_eq] at honce
    rw [shownUrl, url_eq]
    exact substitute_of_once hne honce
  · rintro a b rfl hconnect
    exact Assembly.log_connect hconnect

/-- Settings with a password that overlaps with itself and begins like the name of the host. -/
def overlapping : DatabaseSettings :=
  { (default : DatabaseSettings) with
    username := "app", password := "dbdb", host := "db", port := 5432, database := "store" }

theorem password_masked_overlapping :
    (overlapping.password.points ≠ [] ∧ Point.char '*' ∉ overlapping.password.points ∧
      overlapping.url.occurrences overlapping.password = 1) ∧
      ¬overlapping.shownUrl.Contains overlapping.password ∧
      overlapping.shownUrl = "postgresql+asyncpg://app:****@db:5432/store" := by
  have hne : overlapping.password.points ≠ [] := by decide +kernel
  have hstar : Point.char '*' ∉ overlapping.password.points := by decide +kernel
  have honce : overlapping.url.occurrences overlapping.password = 1 := by decide +kernel
  rcases password_masked hne hstar with ⟨hfree, -, hkept, -⟩
  refine ⟨⟨hne, hstar, honce⟩, hfree, ?_⟩
  rw [hkept honce]
  decide +kernel

end DatabaseSettings

end Outreach
