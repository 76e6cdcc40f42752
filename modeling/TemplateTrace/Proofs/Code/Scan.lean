import TemplateTrace.Proofs.Code.Balanced

/-!
# One-pass scans

The readers of host code go back to where a string or a group started when it does not end. A scan
goes over the text once instead, a character at a time: it keeps the closing brackets that are still
expected, and it knows whether it is in a string. Both find the same brackets.

- `Code.Scan`, `Code.Scan.step`, `Code.Scan.run`: the scan.
- `Code.Scan.exists_quoted_of_run`, `Code.Scan.exists_balanced_of_run`: what a scan has passed.
- `Code.balanced_iff_run`: a text is balanced if a scan ends where it started.
- `Code.Closes`, `Code.closeAt?_eq_some_iff_closes`: the bracket that closes the one at a byte
  offset.
-/

namespace TemplateTrace

namespace Text

theorem exists_bytes_cons (c : Char) (a : Text) :
    ∃ n, bytes (c :: a) = n + 1 ∧ c.utf8Size ≤ n + 1 ∧ n + 1 - c.utf8Size = bytes a := by
  have hsize := c.utf8Size_pos
  refine ⟨c.utf8Size - 1 + bytes a, ?_, ?_, ?_⟩
  · rw [bytes_cons]
    omega
  · omega
  · omega

/-- A text is cut where its front ends. -/
theorem cut?_append (a b : Text) : cut? (a ++ b) (bytes a) = some (a, b) := by
  induction a with
  | nil => cases b <;> rfl
  | cons c a ih =>
    obtain ⟨n, hn, hle, hrest⟩ := exists_bytes_cons c a
    rw [hn, List.cons_append, cut?, if_pos hle, hrest, ih]
    rfl

theorem cutFrom_append (a b : Text) : cutFrom (a ++ b) (bytes a) = (a, b) := by
  induction a with
  | nil => cases b <;> rfl
  | cons c a ih =>
    obtain ⟨n, hn, -, hrest⟩ := exists_bytes_cons c a
    rw [hn, List.cons_append, cutFrom, hrest, ih]

end Text

namespace Code

/-- A bracket that closes a group. -/
def isCloser (c : Char) : Bool := c == ')' || c == ']' || c == '\x7d'

/-- Where a scan is. -/
inductive Scan where
  /-- In code, with the closing brackets that are expected, the innermost one first. -/
  | code (expected : List Char)
  /-- In a string that a quote `q` started. -/
  | quoted (q : Char) (expected : List Char)
  /-- In a string, behind a backslash. -/
  | hidden (q : Char) (expected : List Char)
  /-- Behind a closing bracket that was not the one expected. -/
  | mismatched
  deriving DecidableEq, Repr

namespace Scan

/-- Behind the closing bracket `c`. -/
def close (c : Char) : List Char → Scan
  | [] => mismatched
  | d :: outer => if c = d then code outer else mismatched

/-- One character further. An opening bracket is the only one that adds to what is expected. -/
def step : Scan → Char → Scan
  | code expected, c =>
    if c = '\'' ∨ c = '"' then quoted c expected
    else if isCloser c then close c expected
    else code ((closer? c).toList ++ expected)
  | quoted q expected, c =>
    if c = '\\' then hidden q expected
    else if c = q then code expected
    else quoted q expected
  | hidden q expected, _ => quoted q expected
  | mismatched, _ => mismatched

/-- A text further. -/
def run (a : Scan) (s : Text) : Scan := s.foldl step a

/-- Whether a bracket is still open: a closing bracket is expected, or a string has not ended. -/
def IsOpen : Scan → Prop
  | code expected => expected ≠ []
  | quoted _ _ => True
  | hidden _ _ => True
  | mismatched => False

variable {st st' : List Char} {q : Char} {s : Text}

@[simp] theorem run_nil (a : Scan) : a.run [] = a := rfl

@[simp] theorem run_cons (a : Scan) (c : Char) (s : Text) : a.run (c :: s) = (a.step c).run s := rfl

@[simp] theorem run_append (a : Scan) (s t : Text) : a.run (s ++ t) = (a.run s).run t :=
  List.foldl_append

/-- There is no way back from a bracket that does not match. -/
@[simp] theorem run_mismatched (s : Text) : mismatched.run s = mismatched := by
  induction s with
  | nil => rfl
  | cons c s ih => exact ih

/-! ## Steps -/

theorem step_quote (hq : q = '\'' ∨ q = '"') : (code st).step q = quoted q st := if_pos hq

theorem step_closer {c : Char} (hc : isCloser c = true) : (code st).step c = close c st := by
  have hquote : ¬ (c = '\'' ∨ c = '"') := by
    rintro (rfl | rfl) <;> cases hc
  exact (if_neg hquote).trans (if_pos hc)

theorem step_opener {o d : Char} (hd : closer? o = some d) :
    (code st).step o = code (d :: st) := by
  obtain ⟨⟨hquote, hquote'⟩, -⟩ := closer?_spec hd
  have hcloser : isCloser o = false := by
    refine Bool.eq_false_iff.2 fun hcloser => ?_
    simp only [isCloser, Bool.or_eq_true, beq_iff_eq] at hcloser
    rcases hcloser with (rfl | rfl) | rfl <;> cases hd
  rw [step, if_neg (not_or.2 ⟨hquote, hquote'⟩), hcloser, hd]
  rfl

theorem isCloser_of_closer? {o d : Char} (hd : closer? o = some d) : isCloser d = true := by
  unfold closer? at hd
  split at hd
  all_goals cases hd
  all_goals rfl

/-- A character is a quote, a bracket that closes, a bracket that opens, or plain. -/
theorem cases_char (c : Char) : (c = '\'' ∨ c = '"') ∨ isCloser c = true ∨
    (∃ d, closer? c = some d) ∨ Extent.group.stops c = false := by
  cases hc : Extent.group.stops c with
  | false => exact .inr (.inr (.inr rfl))
  | true =>
    have hmem : c ∈ "()[]\x7b\x7d'\"".toList := List.contains_iff_mem.1 hc
    simp only [String.reduceToList, List.mem_cons, List.not_mem_nil, or_false] at hmem
    rcases hmem with rfl | rfl | rfl | rfl | rfl | rfl | rfl | rfl
    all_goals simp [isCloser, closer?]

theorem step_plain {c : Char} (hc : Extent.group.stops c = false) :
    (code st).step c = code st := by
  obtain ⟨⟨hquote, hquote'⟩, hopener⟩ := plain_of_stops hc
  have hcloser : isCloser c = false := by
    refine Bool.eq_false_iff.2 fun hcloser => ?_
    simp only [isCloser, Bool.or_eq_true, beq_iff_eq] at hcloser
    rcases hcloser with (rfl | rfl) | rfl <;> cases hc
  rw [step, if_neg (not_or.2 ⟨hquote, hquote'⟩), hcloser, hopener]
  rfl

/-! ## Strings -/

theorem run_body {body : Text} (h : QuotedBody q body) : (quoted q st).run body = quoted q st := by
  induction h with
  | nil => rfl
  | escape c _ ih => exact ih
  | @plain c body hq hback _ ih =>
    rw [run_cons, step, if_neg hback, if_neg hq]
    exact ih

/-- A scan that was in a string and is in code has passed the quote that ends the string. -/
theorem exists_quoted_of_run : ∀ s : Text,
    ((quoted q st).run s = code st' → ∃ body r, s = body ++ q :: r ∧ QuotedBody q body ∧
      (code st).run r = code st') ∧
    ((hidden q st).run s = code st' → ∃ c body r, s = c :: (body ++ q :: r) ∧ QuotedBody q body ∧
      (code st).run r = code st')
  | [] => ⟨nofun, nofun⟩
  | c :: s => by
    obtain ⟨ihquoted, ihhidden⟩ := exists_quoted_of_run s
    constructor
    · intro h
      rw [run_cons, step] at h
      by_cases hback : c = '\\'
      · rw [if_pos hback] at h
        obtain ⟨c', body, r, rfl, hbody, hr⟩ := ihhidden h
        exact ⟨c :: c' :: body, r, rfl, hback ▸ .escape c' hbody, hr⟩
      · rw [if_neg hback] at h
        by_cases hq : c = q
        · rw [if_pos hq] at h
          exact ⟨[], s, by rw [hq, List.nil_append], .nil, h⟩
        · rw [if_neg hq] at h
          obtain ⟨body, r, rfl, hbody, hr⟩ := ihquoted h
          exact ⟨c :: body, r, rfl, .plain hq hback hbody, hr⟩
    · intro h
      obtain ⟨body, r, rfl, hbody, hr⟩ := ihquoted h
      exact ⟨c, body, r, rfl, hbody, hr⟩

/-! ## Balanced texts -/

/-- A scan passes a balanced text and expects what it expected before. -/
theorem run_balanced {e : Extent} (h : Balanced e s) : (code st).run s = code st := by
  induction h generalizing st with
  | nil => rfl
  | plain hc _ ih =>
    rw [run_cons, step_plain (stops_group hc)]
    exact ih
  | @string e q body s hq hbody _ ih =>
    have hend : (quoted q st).step q = code st := by
      rcases hq with rfl | rfl <;> rfl
    rw [run_cons, step_quote hq, run_append, run_body hbody, run_cons, hend]
    exact ih
  | @group e o d inner s hd _ _ ihinner ih =>
    have hclose : (code (d :: st)).step d = code st :=
      (step_closer (isCloser_of_closer? hd)).trans (if_pos rfl)
    rw [run_cons, step_opener hd, run_append, ihinner, run_cons, hclose]
    exact ih

/-- A scan that expects no more than at its start has passed a balanced text, and behind it nothing
or the bracket that was expected first. -/
theorem exists_balanced_of_run (h : (code st).run s = code st') (hle : st'.length ≤ st.length) :
    ∃ m, Balanced .group m ∧ (s = m ∧ st' = st ∨
      ∃ d outer r, s = m ++ d :: r ∧ st = d :: outer ∧ (code outer).run r = code st') := by
  induction s using (measure (List.length (α := Char))).wf.induction generalizing st with
  | h s ih =>
    cases s with
    | nil =>
      obtain rfl := Scan.code.inj h
      exact ⟨[], .nil, .inl ⟨rfl, rfl⟩⟩
    | cons c s =>
      -- whatever is passed first, what is passed behind it is put together with it
      have hfront : ∀ {a t : Text}, c :: s = a ++ t → t.length < (c :: s).length →
          (∀ {m}, Balanced .group m → Balanced .group (a ++ m)) → (code st).run t = code st' →
          ∃ m, Balanced .group m ∧ (c :: s = m ∧ st' = st ∨ ∃ d outer r,
            c :: s = m ++ d :: r ∧ st = d :: outer ∧ (code outer).run r = code st') := by
        intro a t hs hlt hput ht
        obtain ⟨m, hm, hcases⟩ := ih t hlt ht hle
        refine ⟨a ++ m, hput hm, ?_⟩
        rcases hcases with ⟨rfl, rfl⟩ | ⟨d, outer, r, rfl, rfl, hr⟩
        · exact .inl ⟨hs, rfl⟩
        · exact .inr ⟨d, outer, r, by rw [hs, List.append_assoc], rfl, hr⟩
      rw [run_cons] at h
      rcases cases_char c with hq | hcloser | ⟨d, hd⟩ | hplain
      · rw [step_quote hq] at h
        obtain ⟨body, r, rfl, hbody, hr⟩ := (exists_quoted_of_run s).1 h
        refine hfront (a := c :: (body ++ [c])) (by simp) (by simp; omega) (fun hm => ?_) hr
        simpa using Balanced.string hq hbody hm
      · rw [step_closer hcloser] at h
        cases st with
        | nil => cases (run_mismatched s).symm.trans h
        | cons d outer =>
          rw [close] at h
          by_cases hd : c = d
          · rw [if_pos hd] at h
            exact ⟨[], .nil, .inr ⟨d, outer, s, by rw [hd, List.nil_append], rfl, h⟩⟩
          · rw [if_neg hd] at h
            cases (run_mismatched s).symm.trans h
      · rw [step_opener hd] at h
        obtain ⟨inner, hinner, hcases⟩ := ih s (Nat.lt_succ_self _) h (Nat.le_succ_of_le hle)
        rcases hcases with ⟨-, rfl⟩ | ⟨d', outer, r, rfl, heq, hr⟩
        · exact absurd hle (Nat.not_succ_le_self _)
        · obtain ⟨rfl, rfl⟩ := List.cons.inj heq
          refine hfront (a := c :: (inner ++ [d])) (by simp) (by simp; omega) (fun hm => ?_) hr
          simpa using Balanced.group hd hinner hm
      · rw [step_plain hplain] at h
        exact hfront (a := [c]) rfl (Nat.lt_succ_self _) (fun hm => .plain hplain hm) h

/-- As long as a scan of a balanced text goes on behind an opening bracket, a bracket is open. -/
theorem isOpen_of_prefix {inside front : Text} {o d : Char} (hd : closer? o = some d)
    (h : Balanced .group inside) (hfront : front <+: inside) :
    ((code [d]).run front).IsOpen := by
  obtain ⟨back, rfl⟩ := hfront
  have hrun : (code [d]).run (front ++ back) = code [d] := run_balanced h
  rw [run_append] at hrun
  cases hstate : (code [d]).run front with
  | code st =>
    rintro rfl
    -- the bracket would have been closed in the middle of the balanced text
    obtain ⟨m, hm, ⟨-, hne⟩ | ⟨d', outer, r, rfl, heq, -⟩⟩ :=
      exists_balanced_of_run hstate (Nat.zero_le _)
    · cases hne
    · obtain ⟨rfl, -⟩ := List.cons.inj heq
      have hstop := (hm.afterRun_append (d :: (r ++ back))).trans (afterRun_closer hd .group _)
      rw [← List.cons_append, ← List.append_assoc, h.afterRun_eq_nil] at hstop
      cases hstop
  | quoted => trivial
  | hidden => trivial
  | mismatched =>
    rw [hstate, run_mismatched] at hrun
    cases hrun

end Scan

open Scan

/-- A text is balanced exactly if a scan of it ends in code in which nothing is expected. -/
theorem balanced_iff_run {s : Text} : Balanced .group s ↔ (Scan.code []).run s = .code [] := by
  refine ⟨run_balanced, fun h => ?_⟩
  obtain ⟨m, hm, ⟨rfl, -⟩ | ⟨d, outer, r, -, hnil, -⟩⟩ := exists_balanced_of_run h (Nat.le_refl _)
  · exact hm
  · cases hnil

/-! ## The bracket that closes another one -/

/-- One pass from the bracket at byte `i` on finds the bracket that closes it at byte `j`: up to
there a bracket was open all the time, and behind it none is. -/
def Closes (s : Text) (i j : Nat) : Prop :=
  ∃ before o inside c rest d, s = before ++ o :: (inside ++ c :: rest) ∧ Text.bytes before = i ∧
    Text.bytes (before ++ o :: inside) = j ∧ closer? o = some d ∧
    (∀ front, front <+: inside → ((Scan.code [d]).run front).IsOpen) ∧
    (Scan.code [d]).run (inside ++ [c]) = .code []

/-- A bracket closes another one just when the text between them is balanced. -/
theorem closes_iff_balanced {s : Text} {i j : Nat} : Closes s i j ↔
    ∃ before o inside d rest, s = before ++ o :: (inside ++ d :: rest) ∧ Text.bytes before = i ∧
      Text.bytes (before ++ o :: inside) = j ∧ closer? o = some d ∧ Balanced .group inside := by
  constructor
  · rintro ⟨before, o, inside, c, rest, d, hs, hi, hj, hd, hopen, hempty⟩
    obtain ⟨m, hm, ⟨-, hne⟩ | ⟨d', outer, r, heq, hst, -⟩⟩ :=
      exists_balanced_of_run hempty (Nat.zero_le _)
    · cases hne
    · obtain ⟨rfl, -⟩ := List.cons.inj hst
      have hclosed : (Scan.code [d]).run (m ++ [d]) = .code [] := by
        rw [run_append, run_balanced hm, run_cons, step_closer (isCloser_of_closer? hd)]
        exact if_pos rfl
      have hfront : m ++ [d] <+: inside ++ [c] := ⟨r, by rw [heq, List.append_assoc]; rfl⟩
      -- the bracket that closes is the last one that was read, since nothing is open behind it
      rcases List.prefix_concat_iff.1 hfront with hlast | hbefore
      · obtain ⟨rfl, hc⟩ := List.append_inj' hlast rfl
        obtain ⟨rfl, -⟩ := List.cons.inj hc
        exact ⟨before, o, m, d, rest, hs, hi, hj, hd, hm⟩
      · have habsurd := hopen _ hbefore
        rw [hclosed] at habsurd
        exact absurd rfl habsurd
  · rintro ⟨before, o, inside, d, rest, hs, hi, hj, hd, hm⟩
    refine ⟨before, o, inside, d, rest, d, hs, hi, hj, hd, fun front hfront =>
      isOpen_of_prefix hd hm hfront, ?_⟩
    rw [run_append, run_balanced hm, run_cons, step_closer (isCloser_of_closer? hd)]
    exact if_pos rfl

/-- A group is an opening bracket, a balanced text and the bracket that closes it. -/
theorem afterGroup?_iff_balanced {o : Char} {s r : Text} :
    (afterGroup? (o :: s)).map (·.1) = some r ↔
      ∃ d inside, closer? o = some d ∧ s = inside ++ d :: r ∧ Balanced .group inside := by
  constructor
  · intro h
    obtain ⟨d, hd, hs, hinside⟩ := enclosed?_iff.1 (enclosed?_eq_some_iff.2 ⟨h, rfl⟩)
    exact ⟨d, _, hd, hs, hinside⟩
  · rintro ⟨d, inside, hd, hs, hinside⟩
    exact (enclosed?_eq_some_iff.1 (enclosed?_iff.2 ⟨d, hd, hs, hinside⟩)).1

theorem utf8Size_of_closer? {o d : Char} (hd : closer? o = some d) :
    o.utf8Size = 1 ∧ d.utf8Size = 1 := by
  unfold closer? at hd
  split at hd
  all_goals cases hd
  all_goals exact ⟨rfl, rfl⟩

/-- A reader finds the closing bracket that a scan finds. -/
theorem closeAt?_eq_some_iff_closes {s : Text} {i j : Nat} :
    closeAt? s i = some j ↔ Closes s i j := by
  rw [closes_iff_balanced]
  have hend : ∀ {before t inside r : Text} {o d : Char}, closer? o = some d →
      t = inside ++ d :: r →
      Text.bytes before + Text.bytes (Text.upTo (o :: t) r) - 1 =
        Text.bytes (before ++ o :: inside) := by
    rintro before t inside r o d hd rfl
    rw [show o :: (inside ++ d :: r) = o :: (inside ++ [d]) ++ r by simp, Text.upTo_append]
    simp only [Text.bytes_append, Text.bytes_cons, Text.bytes_nil, (utf8Size_of_closer? hd).2]
    omega
  constructor
  · intro h
    obtain ⟨⟨before, t⟩, hcut, hread⟩ := Option.bind_eq_some_iff.1 h
    obtain ⟨⟨r, hr⟩, hgroup, hj⟩ := Option.bind_eq_some_iff.1 hread
    obtain ⟨rfl, rfl⟩ := Text.cut?_eq_some hcut
    cases t with
    | nil => exact absurd hr (Nat.not_lt_zero _)
    | cons o t =>
      obtain ⟨d, inside, hd, ht, hinside⟩ :=
        afterGroup?_iff_balanced.1 (congrArg (Option.map (·.1)) hgroup)
      exact ⟨before, o, inside, d, r, congrArg (before ++ o :: ·) ht, rfl,
        (hend hd ht).symm.trans (Option.some.inj hj), hd, hinside⟩
  · rintro ⟨before, o, inside, d, r, rfl, rfl, rfl, hd, hinside⟩
    obtain ⟨⟨r', hlt⟩, hgroup, rfl⟩ := Option.map_eq_some_iff.1
      (afterGroup?_iff_balanced.2 ⟨d, inside, hd, rfl, hinside⟩)
    refine Option.bind_eq_some_iff.2 ⟨_, Text.cut?_append before _, ?_⟩
    refine Option.bind_eq_some_iff.2 ⟨_, hgroup, ?_⟩
    exact congrArg some (hend hd rfl)

/-- **The closing bracket.** The bracket that closes the one at a byte offset is found exactly if
one pass from there on finds it, and it is where the pass finds it. There is none where there is no
character, inside a character, behind a bracket that does not match, and if the text ends before. -/
theorem closeAt?_of_scan (s : Text) (i : Nat) :
    (∀ j, closeAt? s i = some j ↔ Closes s i j) ∧
    (closeAt? s i = none ↔ ∀ j, ¬ Closes s i j) := by
  refine ⟨fun j => closeAt?_eq_some_iff_closes, ?_⟩
  rw [Option.eq_none_iff_forall_ne_some]
  exact forall_congr' fun j => not_congr closeAt?_eq_some_iff_closes

end Code

end TemplateTrace
