import TemplateTrace.Proofs.Code.Snippet

/-!
# Code that goes on behind a place

When code is open at a place of a compiled text, what stands behind the place is cut up with little
regard to what stands in front of it: only the open run reaches across. So the pieces behind the
place are nearly the same for every text in front of it.

- `Snippet.Covers`: a piece and a piece that holds its end.
- `Snippet.scan_append`: the pieces of a line behind a place inside code.
- `Snippet.exists_covers_of_mem_ofLines`: pieces found from markup or code are covered by those
  found from code.
- `Snippet.exists_covers_of_mem_all`: the pieces of a text that lie behind a place inside code.
-/

namespace TemplateTrace

/-! ## Closing tags across a place -/

/-- Whether a closing tag runs across the place between two texts. -/
def CloseAcross (a b : Text) : Prop := a.getLast? = some '?' ∧ b.head? = some '>'

theorem after?_codeClose_cons (c : Char) (s : Text) :
    Text.after? codeClose (c :: s) = if '?' = c then Text.after? ['>'] s else none := by
  rw [show codeClose = ['?', '>'] by decide, Text.after?]

/-- The first closing tag behind a text without one. -/
theorem breakOn?_codeClose_append {a b : Text} (ha : Text.breakOn? codeClose a = none)
    (h : ¬ CloseAcross a b) :
    Text.breakOn? codeClose (a ++ b) =
      (Text.breakOn? codeClose b).map fun p => (a ++ p.1, p.2) := by
  induction a with
  | nil =>
    show Text.breakOn? codeClose b = _
    cases Text.breakOn? codeClose b <;> rfl
  | cons c a ih =>
    have hnone : Text.after? codeClose (c :: a) = none ∧ Text.breakOn? codeClose a = none := by
      rw [Text.breakOn?] at ha
      split at ha
      · cases ha
      next hnone => exact ⟨hnone, Option.map_eq_none_iff.1 ha⟩
    have hcross : ¬ CloseAcross a b := by
      rintro ⟨hlast, hhead⟩
      refine h ⟨?_, hhead⟩
      rw [List.getLast?_cons, hlast]
      rfl
    -- a tag that starts here lies in the first text, or it runs across the place
    have hhere : Text.after? codeClose (c :: (a ++ b)) = none := by
      have hc := hnone.1
      rw [after?_codeClose_cons] at hc ⊢
      split
      next hq =>
        rw [if_pos hq] at hc
        cases a with
        | nil =>
          cases b with
          | nil => rfl
          | cons d b =>
            show (if '>' = d then _ else _) = _
            rw [if_neg]
            rintro rfl
            exact h ⟨by rw [← hq]; rfl, rfl⟩
        | cons d a =>
          have hd : (if '>' = d then some a else none) = none := hc
          show (if '>' = d then _ else _) = _
          split
          next hgt =>
            rw [if_pos hgt] at hd
            cases hd
          · rfl
      · rfl
    rw [List.cons_append, Text.breakOn?, hhere, ih hnone.2 hcross]
    cases Text.breakOn? codeClose b <;> rfl

/-- A closing tag across a place ends code right there. -/
theorem breakOn?_codeClose_across {a b : Text}
    (ha : Text.breakOn? codeClose (a ++ ['?']) = none) :
    Text.breakOn? codeClose (a ++ ['?'] ++ '>' :: b) = some (a, b) := by
  have hself : Text.breakOn? codeClose ('?' :: '>' :: b) = some ([], b) := by
    rw [show '?' :: '>' :: b = codeClose ++ b by rw [show codeClose = ['?', '>'] by decide]; rfl]
    exact Text.breakOn?_append_self codeClose b
  have hnone : Text.breakOn? codeClose a = none := by
    cases hbreak : Text.breakOn? codeClose a with
    | none => rfl
    | some p =>
      rw [Text.breakOn?_eq_some hbreak, List.append_assoc, List.append_assoc] at ha
      exact absurd ha (Text.breakOn?_ne_none codeClose p.1 _)
  rw [List.append_assoc]
  show Text.breakOn? codeClose (a ++ '?' :: '>' :: b) = _
  rw [breakOn?_codeClose_append hnone, hself]
  · show some (a ++ [], b) = _
    rw [List.append_nil]
  · rintro ⟨-, hhead⟩
    cases hhead

namespace Snippet

/-! ## A line that is cut inside code -/

/-- When neither of two texts ends in a character, the two together do not. -/
theorem getLast?_append_ne {a b : Text} {c : Char} (ha : a.getLast? ≠ some c)
    (hb : b.getLast? ≠ some c) : (a ++ b).getLast? ≠ some c := by
  rw [List.getLast?_append]
  cases hlast : b.getLast? with
  | none => exact ha
  | some d => rwa [hlast] at hb

/-- When code is open at a place of a line, it was opened somewhere, and no tag closes it up to the
place. The pieces in front of that lie in front of the place. -/
theorem exists_last_open {run : Option Text} {tail run' : Text}
    (h : runAfter run tail = some run') :
    ∃ front opened last, tail = front ++ last ∧ run' = opened ++ last ∧
      front.getLast? ≠ some '?' ∧ Text.breakOn? codeClose last = none ∧
      ∀ more below, runAfter run (tail ++ more) = runAfter (some opened) (last ++ more) ∧
        ∃ pieces, scan run (tail ++ more) below =
            pieces ++ scan (some opened) (last ++ more) below ∧
          ∀ p ∈ pieces, more ++ below <:+ p.behind := by
  fun_induction runAfter run tail generalizing run' with
  | case1 tail run hbreak =>
    refine ⟨[], run, tail, rfl, (Option.some.inj h).symm, by simp, hbreak, fun more below => ?_⟩
    exact ⟨rfl, [], rfl, fun p hp => by cases hp⟩
  | case2 tail run code rest hbreak _ ih =>
    -- a tag closes the run: its pieces have the rest of the line behind them
    obtain ⟨front, opened, last, hrest, hrun, hfront, hlast, hmore⟩ := ih h
    refine ⟨code ++ codeClose ++ front, opened, last, ?_, hrun, ?_, hlast, fun more below => ?_⟩
    · rw [Text.breakOn?_eq_some hbreak, hrest, List.append_assoc, List.append_assoc,
        List.append_assoc]
    · refine getLast?_append_ne ?_ hfront
      rw [List.getLast?_append]
      exact fun heq => by cases heq
    · have hall := Text.breakOn?_append hbreak more
      obtain ⟨hafter, pieces, hscan, hbehind⟩ := hmore more below
      rw [runAfter_code_eq_markup hall, scan_code_eq_append hall, hscan, ← List.append_assoc]
      refine ⟨hafter, _, rfl, ?_⟩
      intro p hp
      rcases List.mem_append.1 hp with hp | hp
      · obtain ⟨-, -, u, v, -, hv⟩ := mem_cut hp
        refine ⟨v ++ (codeClose ++ rest), ?_⟩
        rw [hv]
        simp only [List.append_assoc]
      · exact hbehind p hp
  | case3 => cases h
  | case4 tail skipped rest hbreak _ ih =>
    -- a tag opens a run: nothing is kept of the markup in front of it
    obtain ⟨front, opened, last, hrest, hrun, hfront, hlast, hmore⟩ := ih h
    refine ⟨skipped ++ codeOpen ++ front, opened, last, ?_, hrun, ?_, hlast, fun more below => ?_⟩
    · rw [Text.breakOn?_eq_some hbreak, hrest, List.append_assoc, List.append_assoc,
        List.append_assoc]
    · refine getLast?_append_ne ?_ hfront
      rw [List.getLast?_append]
      exact fun heq => by cases heq
    · have hall := Text.breakOn?_append hbreak more
      rw [runAfter_markup_eq_code hall, scan_markup_eq_scan hall]
      exact hmore more below

/-- Behind a place inside code the pieces of a line are those that the open run goes on with. -/
theorem scan_append {run : Option Text} {tail run' : Text} (h : runAfter run tail = some run')
    {more : Text} (hcross : ¬ CloseAcross tail more) (below : Text) :
    runAfter run (tail ++ more) = runAfter (some run') more ∧
      ∃ pieces, scan run (tail ++ more) below = pieces ++ scan (some run') more below ∧
        ∀ p ∈ pieces, more ++ below <:+ p.behind := by
  obtain ⟨front, opened, last, rfl, rfl, hfront, hlast, hmore⟩ := exists_last_open h
  have hcross' : ¬ CloseAcross last more := by
    rintro ⟨hq, hhead⟩
    refine hcross ⟨?_, hhead⟩
    rw [List.getLast?_append, hq]
    rfl
  obtain ⟨hafter, pieces, hscan, hbehind⟩ := hmore more below
  rw [hafter, hscan]
  -- the first closing tag behind the place ends the open run, as it does alone
  have hopen : runAfter (some opened) (last ++ more) = runAfter (some (opened ++ last)) more ∧
      scan (some opened) (last ++ more) below = scan (some (opened ++ last)) more below := by
    have hall := breakOn?_codeClose_append hlast hcross'
    cases hbreak : Text.breakOn? codeClose more with
    | none =>
      rw [hbreak] at hall
      rw [runAfter_code_eq_some hall, runAfter_code_eq_some hbreak, scan_code_eq_cut hall,
        scan_code_eq_cut hbreak, List.append_assoc]
      exact ⟨rfl, rfl⟩
    | some q =>
      rw [hbreak] at hall
      rw [runAfter_code_eq_markup hall, runAfter_code_eq_markup hbreak,
        scan_code_eq_append hall, scan_code_eq_append hbreak, List.append_assoc opened]
      exact ⟨rfl, rfl⟩
  rw [hopen.1, hopen.2]
  exact ⟨rfl, pieces, rfl, hbehind⟩

/-- A closing tag across a place inside code leaves markup behind the place. -/
theorem scan_across {run : Option Text} {tail run' : Text} (h : runAfter run tail = some run')
    {more : Text} (hcross : CloseAcross tail ('>' :: more)) (below : Text) :
    runAfter run (tail ++ '>' :: more) = runAfter none more ∧
      ∃ pieces, scan run (tail ++ '>' :: more) below = pieces ++ scan none more below ∧
        ∀ p ∈ pieces, '>' :: more ++ below <:+ p.behind := by
  obtain ⟨front, opened, last, rfl, rfl, hfront, hlast, hmore⟩ := exists_last_open h
  obtain ⟨init, rfl⟩ : ∃ init, last = init ++ ['?'] := by
    have hq := hcross.1
    rw [List.getLast?_append] at hq
    cases hl : last.getLast? with
    | none =>
      rw [hl] at hq
      exact absurd hq hfront
    | some c =>
      rw [hl] at hq
      obtain rfl : c = '?' := Option.some.inj hq
      exact List.getLast?_eq_some_iff.1 hl
  obtain ⟨hafter, pieces, hscan, hbehind⟩ := hmore ('>' :: more) below
  have hall := breakOn?_codeClose_across (b := more) hlast
  rw [hafter, hscan, runAfter_code_eq_markup hall, scan_code_eq_append hall, ← List.append_assoc]
  refine ⟨rfl, _, rfl, ?_⟩
  intro p hp
  rcases List.mem_append.1 hp with hp | hp
  · exact hbehind p hp
  · obtain ⟨-, -, u, v, -, hv⟩ := mem_cut hp
    refine ⟨v ++ ['?'], ?_⟩
    rw [hv, show codeClose = ['?', '>'] by decide]
    simp only [List.append_assoc, List.cons_append, List.nil_append]

/-! ## Pieces that hold the end of a piece -/

/-- A piece that ends where another one does and holds it. -/
def Covers (q p : Snippet) : Prop :=
  q.closed = p.closed ∧ q.behind = p.behind ∧ p.code <:+ q.code

theorem Covers.refl (p : Snippet) : p.Covers p := ⟨rfl, rfl, List.suffix_refl _⟩

theorem trailing_append {b : Text} (h : Text.trimEnd Text.isBlank b ≠ []) (a : Text) :
    trailing (a ++ b) = trailing b := by
  have hab := trimEnd_append_trailing (a ++ b)
  rw [trimEnd_append h, List.append_assoc, List.append_cancel_left_eq] at hab
  conv at hab => rhs; rw [← trimEnd_append_trailing b]
  exact List.append_cancel_left hab

/-- Trimming takes nothing off a part that was trimmed. -/
theorem suffix_stripStart {s t : Text} (h : Text.stripStart t <:+ s) :
    Text.stripStart t <:+ Text.stripStart s := by
  obtain ⟨u, rfl⟩ := h
  have hhead : Text.stripStart (Text.stripStart t) = Text.stripStart t := by
    have hnot := List.head?_dropWhile_not Text.isBlank t
    show (t.dropWhile Text.isBlank).dropWhile Text.isBlank = t.dropWhile Text.isBlank
    cases ht : t.dropWhile Text.isBlank with
    | nil => rfl
    | cons c s =>
      rw [ht] at hnot
      have hc : Text.isBlank c = false := hnot
      exact List.dropWhile_cons_of_neg (by simp [hc])
  show _ <:+ (u ++ Text.stripStart t).dropWhile Text.isBlank
  rw [List.dropWhile_append]
  split
  · exact ⟨[], hhead.symm⟩
  · exact List.suffix_append _ _

/-- What the open run is does not matter to a piece that lies behind it. -/
theorem exists_covers_of_mem_cut {opened code rest : Text} {closed : Bool} {p : Snippet}
    (hp : p ∈ cut (opened ++ code) closed rest)
    (hlength : p.code.length + p.behind.length ≤ code.length + rest.length) (opened' : Text) :
    ∃ q ∈ cut (opened' ++ code) closed rest, q.Covers p := by
  unfold cut at hp
  split at hp
  · cases hp
  next hne =>
  obtain rfl := List.mem_singleton.1 hp
  have hwhole := trimEnd_append_trailing (Text.stripStart (opened ++ code))
  -- the piece is too short to reach into the run in front of `code`
  have hstart : Text.stripStart (opened ++ code) <:+ code := by
    refine List.suffix_of_suffix_length_le (List.dropWhile_suffix _) (List.suffix_append _ _) ?_
    have hlen := congrArg List.length hwhole
    simp only [List.length_append] at hlen hlength
    have hstrip : (Text.strip (opened ++ code)).length =
      (Text.trimEnd Text.isBlank (Text.stripStart (opened ++ code))).length := rfl
    omega
  have hstart' := suffix_stripStart (hstart.trans (List.suffix_append opened' code))
  obtain ⟨u, hu⟩ := hstart'
  have hstrip : Text.strip (opened' ++ code) = u ++ Text.strip (opened ++ code) := by
    show Text.trimEnd _ (Text.stripStart (opened' ++ code)) = _
    rw [← hu]
    exact trimEnd_append hne u
  refine ⟨⟨Text.strip (opened' ++ code), closed,
    trailing (Text.stripStart (opened' ++ code)) ++ rest⟩, ?_, rfl, ?_, ?_⟩
  · unfold cut
    rw [if_neg]
    · exact List.mem_singleton_self _
    · rw [hstrip]
      exact fun h => hne (List.append_eq_nil_iff.1 h).2
  · show trailing _ ++ rest = trailing _ ++ rest
    rw [← hu, trailing_append hne u]
  · show _ <:+ Text.strip (opened' ++ code)
    rw [hstrip]
    exact List.suffix_append _ _

/-! ## Markup and code over the same text -/

/-- An opening tag and a closing tag do not overlap: one of them comes first. -/
theorem open_close_cases {u v c r : Text} (h : c ++ codeClose ++ r = u ++ codeOpen ++ v) :
    (∃ w, u = c ++ codeClose ++ w ∧ r = w ++ codeOpen ++ v) ∨
      ∃ w, c = u ++ codeOpen ++ w ∧ v = w ++ codeClose ++ r := by
  have hclose : codeClose = ['?', '>'] := by decide
  have hopen : codeOpen = ['<', '?', 'p', 'h', 'p'] := by decide
  rw [List.append_assoc, List.append_assoc] at h
  rcases List.append_eq_append_iff.1 h with ⟨a, rfl, hr⟩ | ⟨a, rfl, hv⟩
  · -- the closing tag starts first
    rw [hclose, hopen] at hr
    match a, hr with
    | [], hr => simp at hr
    | [x], hr => simp at hr
    | x :: y :: w, hr =>
      obtain ⟨rfl, rfl, rfl⟩ := by simpa using hr
      exact .inl ⟨w, by rw [hclose]; simp, by rw [hopen]; simp⟩
  · -- the opening tag starts first, so that the closing tag comes behind it
    rw [hclose, hopen] at hv
    match a, hv with
    | [], hv => simp at hv
    | [x], hv => simp at hv
    | [x, y], hv => simp at hv
    | [x, y, z], hv => simp at hv
    | [x, y, z, t], hv => simp at hv
    | x :: y :: z :: t :: o :: w, hv =>
      obtain ⟨rfl, rfl, rfl, rfl, rfl, rfl⟩ := by simpa using hv
      exact .inr ⟨w, by rw [hopen]; simp, by rw [hclose]; simp⟩

/-- The pieces found from markup are covered by those found from code, and code that is open then
is open from code as well. -/
theorem exists_covers_of_mem_scan_markup (opened tail below : Text) :
    (∀ p ∈ scan none tail below, ∃ q ∈ scan (some opened) tail below, q.Covers p) ∧
      ((runAfter none tail).isSome = true → (runAfter (some opened) tail).isSome = true) := by
  cases hopen : Text.breakOn? codeOpen tail with
  | none =>
    rw [scan_markup_eq_nil hopen, runAfter_markup_eq_none hopen]
    refine ⟨?_, fun h => ?_⟩
    · intro p hp
      cases hp
    · cases h
  | some o =>
    obtain ⟨skipped, code⟩ := o
    have htail : tail = skipped ++ codeOpen ++ code := Text.breakOn?_eq_some hopen
    rw [scan_markup_eq_scan hopen, runAfter_markup_eq_code hopen]
    -- a piece right behind the opening tag is the end of a piece that starts further in front
    have hcut : ∀ {run rest : Text} {closed : Bool} {p : Snippet}, p ∈ cut run closed rest →
        ∃ q ∈ cut (opened ++ (skipped ++ codeOpen ++ run)) closed rest, q.Covers p := by
      intro run rest closed p hp
      obtain ⟨-, -, u, v, hrun, hbehind⟩ := mem_cut hp
      rw [← List.append_assoc]
      refine exists_covers_of_mem_cut (show p ∈ cut ([] ++ run) closed rest from hp) ?_ _
      simp only [hrun, hbehind, List.length_append]
      omega
    cases hclose : Text.breakOn? codeClose tail with
    | none =>
      have hclose' : Text.breakOn? codeClose code = none := by
        cases hbreak : Text.breakOn? codeClose code with
        | none => rfl
        | some q =>
          rw [htail, Text.breakOn?_eq_some hbreak, List.append_assoc q.1, ← List.append_assoc]
            at hclose
          exact absurd hclose (Text.breakOn?_ne_none codeClose _ _)
      rw [scan_code_eq_cut hclose, scan_code_eq_cut hclose', runAfter_code_eq_some hclose]
      refine ⟨fun p hp => ?_, fun _ => rfl⟩
      rw [htail]
      exact hcut hp
    | some q =>
      obtain ⟨front, rest⟩ := q
      have htail' : tail = front ++ codeClose ++ rest := Text.breakOn?_eq_some hclose
      rw [scan_code_eq_append hclose, runAfter_code_eq_markup hclose]
      -- from code the reader meets the closing tag first: in front of the opening tag or behind it
      rcases open_close_cases (htail'.symm.trans htail) with ⟨w, rfl, hrest⟩ | ⟨w, rfl, hcode⟩
      · have hopen' : Text.breakOn? codeOpen rest = some (w, code) := by
          rw [htail'] at hopen
          exact Text.breakOn?_of_append hopen
        rw [scan_markup_eq_scan hopen', runAfter_markup_eq_code hopen']
        exact ⟨fun p hp => ⟨p, List.mem_append_right _ hp, Covers.refl p⟩, fun h => h⟩
      · have hclose' : Text.breakOn? codeClose code = some (w, rest) := by
          rw [htail] at hclose
          exact Text.breakOn?_of_append hclose
        rw [scan_code_eq_append hclose', runAfter_code_eq_markup hclose']
        refine ⟨fun p hp => ?_, fun h => h⟩
        rcases List.mem_append.1 hp with hp | hp
        · obtain ⟨q, hq, hcovers⟩ := hcut hp
          exact ⟨q, List.mem_append_left _ hq, hcovers⟩
        · exact ⟨p, List.mem_append_right _ hp, Covers.refl p⟩

/-- A piece that lies behind the run that was open is covered by a piece of the same line behind any
other run. -/
theorem exists_covers_of_mem_scan_code {opened tail below : Text} {p : Snippet}
    (hp : p ∈ scan (some opened) tail below)
    (hlength : p.code.length + p.behind.length ≤ tail.length + below.length) (opened' : Text) :
    ∃ q ∈ scan (some opened') tail below, q.Covers p := by
  cases hclose : Text.breakOn? codeClose tail with
  | none =>
    rw [scan_code_eq_cut hclose] at hp ⊢
    exact exists_covers_of_mem_cut hp hlength opened'
  | some o =>
    obtain ⟨code, rest⟩ := o
    rw [scan_code_eq_append hclose] at hp ⊢
    rcases List.mem_append.1 hp with hp | hp
    · have hrest : p.code.length + p.behind.length ≤
          code.length + (codeClose ++ rest ++ below).length := by
        rw [Text.breakOn?_eq_some hclose] at hlength
        simp only [List.length_append] at hlength ⊢
        omega
      obtain ⟨q, hq, hcovers⟩ := exists_covers_of_mem_cut hp hrest opened'
      exact ⟨q, List.mem_append_left _ hq, hcovers⟩
    · exact ⟨p, List.mem_append_right _ hp, Covers.refl p⟩

theorem isSome_runAfter_code (opened opened' tail : Text) :
    (runAfter (some opened) tail).isSome = (runAfter (some opened') tail).isSome := by
  cases hclose : Text.breakOn? codeClose tail with
  | none => rw [runAfter_code_eq_some hclose, runAfter_code_eq_some hclose]; rfl
  | some o => rw [runAfter_code_eq_markup hclose, runAfter_code_eq_markup hclose]

/-- Lines that are entered in code cover whatever they hold when they are entered in markup. -/
theorem exists_covers_of_mem_ofLines {inside inside' : Bool} (h : inside = true → inside' = true)
    {lines : List Text} {p : Snippet} (hp : p ∈ ofLines inside lines) :
    ∃ q ∈ ofLines inside' lines, q.Covers p := by
  induction lines generalizing inside inside' with
  | nil => cases hp
  | cons line lines ih =>
    have hscan : (∀ p ∈ scan (start inside) (Marker.bare line) (Text.below lines),
          ∃ q ∈ scan (start inside') (Marker.bare line) (Text.below lines), q.Covers p) ∧
        ((runAfter (start inside) (Marker.bare line)).isSome = true →
          (runAfter (start inside') (Marker.bare line)).isSome = true) := by
      cases inside with
      | true =>
        rw [h rfl]
        exact ⟨fun p hp => ⟨p, hp, Covers.refl p⟩, fun h => h⟩
      | false =>
        cases inside' with
        | true => exact exists_covers_of_mem_scan_markup [] _ _
        | false => exact ⟨fun p hp => ⟨p, hp, Covers.refl p⟩, fun h => h⟩
    rcases List.mem_append.1 hp with hp | hp
    · obtain ⟨q, hq, hcovers⟩ := hscan.1 p hp
      exact ⟨q, List.mem_append_left _ hq, hcovers⟩
    · obtain ⟨q, hq, hcovers⟩ := ih hscan.2 hp
      exact ⟨q, List.mem_append_right _ hq, hcovers⟩

/-! ## A text that is cut inside code -/

/-- The pieces behind a place: those in the rest of its line, and those of the lines below. -/
def ofRest (run : Option Text) (tail : Text) (lines : List Text) : List Snippet :=
  scan run tail (Text.below lines) ++ ofLines (runAfter run tail).isSome lines

theorem ofLines_cons (inside : Bool) (line : Text) (lines : List Text) :
    ofLines inside (line :: lines) = ofRest (start inside) (Marker.bare line) lines := rfl

/-- A piece lies in the later lines, or else all of them stand behind it. -/
theorem mem_ofLines_append {inside : Bool} {a b : List Text} {p : Snippet}
    (h : p ∈ ofLines inside (a ++ b)) :
    p ∈ ofLines (insideAfter inside a) b ∨ Text.below b <:+ p.behind := by
  induction a generalizing inside with
  | nil => exact .inl h
  | cons line a ih =>
    rcases List.mem_append.1 h with h | h
    · obtain ⟨-, u, v, -, hbehind⟩ := mem_scan h
      have hbelow : Text.below (a ++ b) = Text.below a ++ Text.below b := Text.below_append a b
      refine .inr ⟨v ++ Text.below a, ?_⟩
      rw [hbehind, List.append_assoc, ← hbelow]
      rfl
    · exact ih h

theorem mem_ofLines_append_right {inside : Bool} {a b : List Text} {p : Snippet}
    (h : p ∈ ofLines (insideAfter inside a) b) : p ∈ ofLines inside (a ++ b) := by
  induction a generalizing inside with
  | nil => exact h
  | cons line a ih => exact List.mem_append_right _ (ih h)

theorem exists_runAfter_of_inside {a : Text} (h : inside a = true) :
    ∃ run, runAfter (start (insideAfter false (Text.lines a).dropLast))
      (Marker.bare (Text.lastLine a)) = some run := by
  rw [inside, ← Text.dropLast_lines_append_lastLine, insideAfter_append] at h
  exact Option.isSome_iff_exists.1 h

/-- No piece has all the text behind a place behind it and lies there too. -/
theorem not_suffix_behind {b front : Text} {p : Snippet} (hne : p.code ≠ [])
    (hb : b = front ++ (p.code ++ p.behind)) : ¬ b <:+ p.behind := by
  intro h
  have hle := h.length_le
  have hpos := List.length_pos_iff.2 hne
  rw [hb] at hle
  simp only [List.length_append] at hle
  omega

theorem code_ne_nil {s : Text} {p : Snippet} (hp : p ∈ all s) : p.code ≠ [] := by
  obtain ⟨before, line, behind, -, hp⟩ := mem_ofLines hp
  exact (mem_scan hp).1

/-- A piece behind a place inside code goes on from the open run, or else from markup if a closing
tag runs across the place. -/
theorem mem_ofRest_of_mem_all {a b front : Text} {p : Snippet} (hcut : Marker.Uncut a b)
    (hin : inside a = true) (hp : p ∈ all (a ++ b)) (hb : b = front ++ (p.code ++ p.behind)) :
    (∃ run, p ∈ ofRest (some run) (Text.firstLine b) (Text.lines b).tail) ∨
      ∃ more, Text.firstLine b = '>' :: more ∧ p ∈ ofRest none more (Text.lines b).tail := by
  have hne := code_ne_nil hp
  have hlast := not_suffix_behind hne hb
  obtain ⟨run, hrun⟩ := exists_runAfter_of_inside hin
  rw [all, Text.lines_append] at hp
  rcases mem_ofLines_append hp with hp | hp
  · rw [ofLines_cons, hcut.bare] at hp
    -- pieces in front of the place have all the text behind it behind them, and this one has not
    have hpieces : ∀ pieces : List Snippet,
        (∀ p ∈ pieces, Text.firstLine b ++ Text.below (Text.lines b).tail <:+ p.behind) →
        p ∉ pieces := by
      intro pieces hbehind hmem
      have hsuffix := hbehind p hmem
      rw [Text.firstLine_append_below] at hsuffix
      exact hlast hsuffix
    by_cases hcross : CloseAcross (Marker.bare (Text.lastLine a)) (Text.firstLine b)
    · obtain ⟨c, more, hmore⟩ : ∃ c more, Text.firstLine b = c :: more :=
        List.ne_nil_iff_exists_cons.1 fun h => by rw [h] at hcross; cases hcross.2
      rw [hmore] at hcross hp hpieces ⊢
      obtain rfl : c = '>' := Option.some.inj hcross.2
      obtain ⟨hafter, pieces, hscan, hbehind⟩ :=
        scan_across hrun hcross (Text.below (Text.lines b).tail)
      rw [ofRest, hafter, hscan, List.append_assoc] at hp
      exact .inr ⟨more, rfl, (List.mem_append.1 hp).resolve_left (hpieces pieces hbehind)⟩
    · obtain ⟨hafter, pieces, hscan, hbehind⟩ :=
        scan_append hrun hcross (Text.below (Text.lines b).tail)
      rw [ofRest, hafter, hscan, List.append_assoc] at hp
      exact .inl ⟨run, (List.mem_append.1 hp).resolve_left (hpieces pieces hbehind)⟩
  · rw [Text.below_cons, List.append_assoc, Text.firstLine_append_below] at hp
    refine absurd ?_ hlast
    exact (List.suffix_append ('\n' :: Text.lastLine a) b).trans hp

/-- Behind a place inside code that no closing tag runs across stands all that the open run goes on
with. -/
theorem exists_ofRest_subset_all {a b : Text} (hcut : Marker.Uncut a b) (hin : inside a = true)
    (hlast : a.getLast? ≠ some '?') :
    ∃ run, ∀ q ∈ ofRest (some run) (Text.firstLine b) (Text.lines b).tail, q ∈ all (a ++ b) := by
  obtain ⟨run, hrun⟩ := exists_runAfter_of_inside hin
  have hcross : ¬ CloseAcross (Marker.bare (Text.lastLine a)) (Text.firstLine b) := by
    rintro ⟨hq, -⟩
    obtain ⟨comment, hline, -⟩ := Marker.exists_comment (Text.lastLine a)
    obtain ⟨u, hu⟩ := Text.lastLine_suffix a
    refine hlast ?_
    rw [← hu, hline, List.getLast?_append, List.getLast?_append, hq]
    rfl
  obtain ⟨hafter, pieces, hscan, -⟩ := scan_append hrun hcross (Text.below (Text.lines b).tail)
  refine ⟨run, fun q hq => ?_⟩
  rw [all, Text.lines_append]
  refine mem_ofLines_append_right ?_
  rw [ofLines_cons, hcut.bare, ofRest, hafter, hscan, List.append_assoc]
  exact List.mem_append_right _ hq

/-- **Behind a place inside code** the pieces are covered by those that stand there when another
text that ends inside code stands in front. -/
theorem exists_covers_of_mem_all {a a' b front : Text} {p : Snippet} (hcut : Marker.Uncut a b)
    (hin : inside a = true) (hp : p ∈ all (a ++ b)) (hb : b = front ++ (p.code ++ p.behind))
    (hcut' : Marker.Uncut a' b) (hin' : inside a' = true) (hlast' : a'.getLast? ≠ some '?') :
    ∃ q ∈ all (a' ++ b), q.Covers p := by
  obtain ⟨run', hrun'⟩ := exists_ofRest_subset_all hcut' hin' hlast'
  have hlength : p.code.length + p.behind.length ≤
      (Text.firstLine b).length + (Text.below (Text.lines b).tail).length := by
    have hlen := congrArg List.length (Text.firstLine_append_below b)
    conv at hlen => rhs; rw [hb]
    simp only [List.length_append] at hlen
    omega
  suffices h : ∃ q ∈ ofRest (some run') (Text.firstLine b) (Text.lines b).tail, q.Covers p by
    obtain ⟨q, hq, hcovers⟩ := h
    exact ⟨q, hrun' q hq, hcovers⟩
  rcases mem_ofRest_of_mem_all hcut hin hp hb with ⟨run, hp⟩ | ⟨more, hmore, hp⟩
  · rcases List.mem_append.1 hp with hp | hp
    · obtain ⟨q, hq, hcovers⟩ := exists_covers_of_mem_scan_code hp hlength run'
      exact ⟨q, List.mem_append_left _ hq, hcovers⟩
    · rw [isSome_runAfter_code run run'] at hp
      exact ⟨p, List.mem_append_right _ hp, Covers.refl p⟩
  · -- a tag ran across the place; without it the `>` is code, and markup behind it is covered
    have hrun : runAfter (some run') ['>'] = some (run' ++ ['>']) :=
      runAfter_code_eq_some (by decide) run'
    have hcross : ¬ CloseAcross ['>'] more := by
      rintro ⟨hq, -⟩
      cases hq
    obtain ⟨hafter, pieces, hscan, -⟩ := scan_append hrun hcross (Text.below (Text.lines b).tail)
    rw [hmore, show '>' :: more = ['>'] ++ more from rfl, ofRest, hafter, hscan]
    obtain ⟨hcovered, hopen⟩ := exists_covers_of_mem_scan_markup (run' ++ ['>']) more
      (Text.below (Text.lines b).tail)
    rcases List.mem_append.1 hp with hp | hp
    · obtain ⟨q, hq, hcovers⟩ := hcovered p hp
      exact ⟨q, List.mem_append_left _ (List.mem_append_right _ hq), hcovers⟩
    · obtain ⟨q, hq, hcovers⟩ := exists_covers_of_mem_ofLines hopen hp
      exact ⟨q, List.mem_append_right _ hq, hcovers⟩

/-- A piece that covers another one is governed by the same marker. -/
theorem lastMarker?_of_covers {s front : Text} {p q : Snippet} (hq : q ∈ all s)
    (hcovers : q.Covers p) (hs : s = front ++ (p.code ++ p.behind)) :
    lastMarker? (Text.upTo s (q.code ++ q.behind)) = lastMarker? front := by
  obtain ⟨-, hbehind, k, hk⟩ := hcovers
  obtain ⟨front', hs', hmarker⟩ := exists_front hq
  have hfront : front' ++ k = front := by
    have heq := hs'.symm.trans hs
    rw [hbehind, ← hk, List.append_assoc, ← List.append_assoc front'] at heq
    exact List.append_cancel_right heq
  conv => lhs; rw [hs', Text.upTo_append]
  rw [← hfront, hmarker k ⟨p.code, hk⟩]

end Snippet

end TemplateTrace
