import TemplateTrace.Proofs.Include.Evaluation
import TemplateTrace.Proofs.Include.Spliced

/-!
# Expansion is complete

Expansion goes through a text once and does not look back, so that a call in the part that it has
passed would be left in the result. A fragment cannot make such a call: it starts with statements
or with a closing tag, over which the start of no call runs. Deleting a call can, because it joins
the texts on both sides. Where it does not, the result holds no call.

- `Expander.Passed`: no call starts in the part of a text that is done.
- `Expander.passed_spliced`: a fragment makes no call in front of it.
- `Expander.startsAt_spliced_cases`: where calls start in a text with a fragment.
- `Expander.Separated`: no deletion makes a call in front of it.
- `Expander.callFree_of_ends`: then a finished text holds no call.
-/

namespace TemplateTrace

open IncludeSite

namespace Expander

/-- No call starts in the part of a text that is done, in front of the rest. -/
def Passed (done rest : Text) : Prop := starts [] done rest = 0

variable {x : Expander} {done rest : Text} {site : IncludeSite}

theorem passed_nil (rest : Text) : Passed [] rest := rfl

/-- Up to the next call no call starts. -/
theorem passed_before (h : Passed done rest)
    (hfind : find (Text.lastOr none done) rest = .ok (some site)) :
    Passed (done ++ site.before) (site.text ++ site.rest) := by
  obtain ⟨hrest, -⟩ := find_spec hfind
  rw [Passed, starts_append, ← hrest, show starts [] done rest = 0 from h, List.nil_append,
    starts_before hfind]

/-- A fragment makes no call in front of it. -/
theorem passed_spliced (h : Passed done rest)
    (hfind : find (Text.lastOr none done) rest = .ok (some site)) (depth : Nat)
    (pairs : List (Text × Text)) (fragment : Text) (parent : Marker) :
    Passed (done ++ site.before) (spliced (.of depth pairs) fragment parent ++ site.rest) := by
  have hle := starts_nil_le [] (done ++ site.before) (site.text ++ site.rest)
  rw [show starts [] _ _ = 0 from passed_before h hfind] at hle
  rw [Passed, starts_spliced_seal]
  exact Nat.le_zero.1 hle

/-- A call in a text with a fragment without calls starts in the statements in front of the
fragment, or behind the replacement. -/
theorem startsAt_spliced_cases {depth : Nat} {pairs : List (Text × Text)} {before fragment : Text}
    {parent : Marker} (hpassed : Passed before (spliced (.of depth pairs) fragment parent ++ rest))
    (hfragment : CallFree fragment) (hparent : Barred parent.encode) {a b : Text}
    (hab : before ++ (spliced (.of depth pairs) fragment parent ++ rest) = a ++ b)
    (hstarts : StartsAt a b) :
    (∃ u, a = before ++ u ∧ u <+: statementsCode (Shadow.of depth pairs).enter ++ " ?>".toList) ∨
      ∃ w, a = before ++ spliced (.of depth pairs) fragment parent ++ w ∧ rest = w ++ b := by
  rcases List.append_eq_append_iff.1 hab with ⟨u, rfl, hu⟩ | ⟨c, rfl, rfl⟩
  · rw [spliced, enclosed_eq, List.append_assoc] at hu
    rcases List.append_eq_append_iff.1 hu with ⟨w, rfl, hw⟩ | ⟨u', hu', -⟩
    · rcases List.append_eq_append_iff.1 hw with ⟨w', rfl, hrest⟩ | ⟨c, hc, rfl⟩
      · refine .inr ⟨w', ?_, hrest⟩
        rw [spliced, enclosed_eq]
        simp only [List.append_assoc]
      · -- behind the statements and in front of the end no call starts
        have hbehind := barred_behind hfragment hparent (Shadow.barred_leave depth pairs)
        cases c with
        | nil =>
          refine .inr ⟨[], ?_, rfl⟩
          rw [List.append_nil, spliced, enclosed_eq, hc, List.append_nil]
        | cons d c =>
          rw [← List.append_assoc] at hstarts
          exact absurd hstarts
            (starts_eq_zero_iff.1 (hbehind _ rest) w (d :: c) hc (List.cons_ne_nil _ _))
    · exact .inl ⟨u, rfl, u', hu'.symm⟩
  · cases c with
    | nil => exact .inl ⟨[], by rw [List.append_nil, List.append_nil], List.nil_prefix⟩
    | cons d c =>
      exact absurd hstarts (starts_eq_zero_iff.1 hpassed a (d :: c) rfl (List.cons_ne_nil _ _))

/-- A text that is done, and in whose rest no call is found, holds no call. -/
theorem callFree_of_passed (h : Passed done rest)
    (hfind : find (Text.lastOr none done) rest = .ok none) : CallFree (done ++ rest) := by
  rw [callFree_iff, callCount, starts_append, List.append_nil, show starts [] done rest = 0 from h,
    List.nil_append, starts_of_find_eq_none hfind]

/-- No call that is deleted leaves a call in the text in front of it, at no stage that expansion
comes to. -/
def Separated (x : Expander) (start : Stage) : Prop :=
  ∀ chain done rest site, x.Visits start (.expanding chain done rest) →
    find (Text.lastOr none done) rest = .ok (some site) →
    x.fate chain (done ++ site.before) site = .deleted → Passed (done ++ site.before) site.rest

/-- What is done at a stage holds no call. -/
def Stage.Passed : Stage → Prop
  | rendering _ _ _ _ => True
  | expanding _ done rest => Expander.Passed done rest

/-- **A finished text holds no call**, when no deletion joins the text around it into one. -/
theorem callFree_of_ends {start stage : Stage} {r : Except AnalysisError Text}
    (hseparated : x.Separated start) (h : x.Ends stage r) (hvisit : x.Visits start stage)
    (hpassed : stage.Passed) : ∀ text, r = .ok text → CallFree text := by
  induction h with
  | unread => rintro text ⟨⟩
  | uncompiled => rintro text ⟨⟩
  | compiled hsource hcompile _ ih =>
    exact ih (hvisit.next (.compiled hsource hcompile)) (passed_nil _)
  | malformed => rintro text ⟨⟩
  | complete hfind =>
    rintro text ⟨⟩
    exact callFree_of_passed hpassed hfind
  | refused => rintro text ⟨⟩
  | unmarked => rintro text ⟨⟩
  | deleted hfind hfate _ ih =>
    exact ih (hvisit.next (.deleted hfind hfate)) (hseparated _ _ _ _ hvisit hfind hfate)
  | failed => rintro text ⟨⟩
  | spliced hfind hfate hfragment _ _ ih =>
    exact ih (hvisit.next (.spliced hfind hfate hfragment)) (passed_spliced hpassed hfind _ _ _ _)

end Expander

end TemplateTrace
