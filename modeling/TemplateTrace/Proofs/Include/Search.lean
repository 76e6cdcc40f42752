import TemplateTrace.Proofs.Code.Scan
import TemplateTrace.Proofs.Code.Snippet
import TemplateTrace.Proofs.Include.Starts

/-!
# Searching for calls

A search for the next call starts at an offset and reads no further than to the `;` of the call. So
the call that it finds is found by itself as well, and whatever stands behind it; and a search that
goes on from the end of each call comes to the end of the text, with one call behind another.

- `IncludeSite.exists_parts`: a call is a head, balanced arguments and a tail.
- `IncludeSite.find_text`, `IncludeSite.find_before`: a call is found wherever it stands, and in
  front of any text.
- `IncludeSite.Located.Local`: a call with all that its search depends on.
- `IncludeSite.Searches`: a search that goes on from the end of each call, which is what
  `IncludeSite.findAll` is.
- `IncludeSite.findFrom_local_and_ascending`: what is found, and what repeated searches come to.
-/

namespace TemplateTrace

namespace IncludeSite

variable {a b s : Text} {prev : Option Char} {site : IncludeSite}

/-! ## A call by itself -/

/-- A call is a head, balanced arguments, the bracket that closes them, and a tail. -/
theorem exists_parts (h : find prev s = .ok (some site)) :
    ∃ e inner behind, site.text = e ++ '(' :: (inner ++ ')' :: behind) ∧ "echo".toList <+: e ∧
      (∀ t, head.rest? (e ++ '(' :: t) = some t) ∧ Code.Balanced .group inner ∧
      (∀ t, tail.rest? (behind ++ t) = some t) ∧
      IncludeCall.ofArguments (stripMarkers inner) = .ok site.call := by
  obtain ⟨arguments, inner, after, hsearch, hinner, hrest, hcall, htext⟩ := find_eq_some_iff.1 h
  obtain ⟨t, rfl, hhead⟩ := Text.search_eq_some_lastOr hsearch
  have hhead := (Code.Head.wordRest?_eq_some_iff.1 hhead).2
  rw [head_eq] at hhead
  rw [tail_eq] at hrest
  obtain ⟨_, rfl, ⟨e, rfl⟩, he, -⟩ := Code.Head.exists_extent (by decide) hhead
  obtain ⟨d, hd, rfl, hbalanced⟩ := Code.enclosed?_iff.1 hinner
  obtain ⟨behind, rfl, -, hbehind, -⟩ := Code.Head.exists_extent (by decide) hrest
  rw [← head_eq] at he
  rw [← tail_eq] at hbehind
  obtain rfl : ')' = d := Option.some.inj hd
  have hbracket : ∀ t, e ++ "(".toList ++ t = e ++ '(' :: t := List.append_assoc e _
  refine ⟨e, inner, behind, ?_, ?_, fun t => hbracket t ▸ he t, hbalanced, hbehind, hcall⟩
  · have hcut : e ++ '(' :: (inner ++ ')' :: (behind ++ site.rest)) =
        e ++ '(' :: (inner ++ ')' :: behind) ++ site.rest := by
      simp only [List.append_assoc, List.cons_append]
    rw [htext, List.drop_left, hbracket, hcut, Text.upTo_append]
  · obtain ⟨r, hr, -⟩ := Option.bind_eq_some_iff.1 (he [])
    rw [List.append_nil] at hr
    have hecho : "echo".toList <+: e ++ ['('] := ⟨r, (Text.after?_eq_some_iff.1 hr).symm⟩
    rcases List.prefix_concat_iff.1 hecho with hlast | hecho
    · cases (congrArg List.getLast? hlast).trans List.getLast?_concat
    · exact hecho

/-- A call is found wherever a word can start, and in front of any text. -/
theorem find_text (h : find prev s = .ok (some site)) {z : Text} (hz : WordStart z) (t : Text) :
    find (Text.lastOr none z) (site.text ++ t) =
      .ok (some { site with before := [], rest := t }) := by
  obtain ⟨e, inner, behind, htext, -, he, hinner, hbehind, hcall⟩ := exists_parts h
  have hcut : site.text ++ t = e ++ '(' :: (inner ++ ')' :: (behind ++ t)) := by
    rw [htext]
    simp only [List.append_assoc, List.cons_append]
  refine find_eq_some_iff.2 ⟨inner ++ ')' :: (behind ++ t), inner, behind ++ t, ?_,
    Code.enclosed?_iff.2 ⟨')', rfl, rfl, hinner⟩, hbehind t, hcall, (Text.upTo_append _ t).symm⟩
  refine Text.search_append (u := []) (v := site.text ++ t) (fun u₁ u₂ hnil hne => ?_) ?_
  · exact absurd (List.append_eq_nil_iff.1 hnil.symm).2 hne
  · rw [hcut]
    exact Code.Head.wordRest?_eq_some_iff.2 ⟨hz, he _⟩

/-- What follows a character that no call has in its start does not matter to the calls in front of
it. -/
theorem StartsAt.reseal {x z : Text} {c : Char} (h : StartsAt a (x ++ c :: z))
    (hc : head.takes c = false) (z' : Text) : StartsAt a (x ++ c :: z') := by
  refine h.transfer id fun e he _ htakes => ?_
  obtain ⟨r, he⟩ := he
  rcases append_cons_eq_append he.symm with ⟨x', rfl, -⟩ | ⟨e', rfl, -⟩
  · rw [List.append_assoc]
    exact List.prefix_append e _
  · have htake := htakes c (by simp)
    rw [hc] at htake
    cases htake

/-- No call starts in front of the one that is found, whatever stands behind it. -/
theorem starts_before_text (h : find (Text.lastOr none a) s = .ok (some site)) (t : Text) :
    starts a site.before (site.text ++ t) = 0 := by
  obtain ⟨-, hlast, -⟩ := find_spec h
  obtain ⟨w, hw⟩ := List.getLast?_eq_some_iff.1 hlast
  have hcut : ∀ z r : Text, z ++ (site.text ++ r) = z ++ w ++ ';' :: r := by
    intro z r
    rw [hw]
    simp only [List.append_assoc, List.singleton_append]
  have hle : starts a site.before (site.text ++ t) ≤
      starts a site.before (site.text ++ site.rest) := by
    refine starts_le id fun x z _ hstarts => ?_
    rw [hcut] at hstarts ⊢
    exact hstarts.reseal (by decide) site.rest
  have hbefore := starts_before h
  omega

/-- A call is found in front of any text. -/
theorem find_before (h : find (Text.lastOr none a) s = .ok (some site)) (t : Text) :
    find (Text.lastOr none a) (site.before ++ (site.text ++ t)) =
      .ok (some { site with rest := t }) := by
  have hword : WordStart (a ++ site.before) := (startsAt_iff.1 (startsAt_site h)).1
  have halone := find_text h hword []
  rw [List.append_nil] at halone
  exact find_append halone rfl (starts_before_text h t)

/-! ## Offsets -/

theorem findFrom_append (a b : Text) : findFrom (a ++ b) (Text.bytes a) =
    (find (Text.lastOr none a) b).map (·.map (·.located (Text.bytes a))) := by
  rw [findFrom, Text.cutFrom_append]

/-- A search by offsets finds what the search behind a text finds, located from the end of that
text. -/
theorem findFrom_eq_some_iff {call : Located} :
    findFrom (a ++ b) (Text.bytes a) = .ok (some call) ↔
      ∃ site, find (Text.lastOr none a) b = .ok (some site) ∧
        site.located (Text.bytes a) = call := by
  rw [findFrom_append]
  match find (Text.lastOr none a) b with
  | .error e => exact ⟨nofun, nofun⟩
  | .ok none => exact ⟨nofun, nofun⟩
  | .ok (some site) =>
    constructor
    · intro h
      exact ⟨site, rfl, Option.some.inj (Except.ok.inj h)⟩
    · rintro ⟨site', hsite, rfl⟩
      obtain rfl := Option.some.inj (Except.ok.inj hsite)
      rfl

/-- The call `text`, found from the end of `a` on, with all that its search depends on. -/
structure Located.Local (call : Located) (a before text rest : Text) : Prop where
  start_eq : call.start = Text.bytes (a ++ before)
  stop_eq : call.stop = Text.bytes (a ++ before ++ text)
  /-- It is the first one. -/
  first : ∀ u v, before = u ++ v → v ≠ [] → ¬ StartsAt (a ++ u) (v ++ (text ++ rest))
  echo : "echo".toList <+: text
  semicolon : [';'] <:+ text
  /-- It is found by itself. -/
  alone : findFrom text 0 = .ok (some { call with start := 0, stop := call.stop - call.start })
  /-- It is found in front of any text. -/
  anywhere : ∀ t, findFrom (a ++ (before ++ (text ++ t))) (Text.bytes a) = .ok (some call)

/-- A call that is found depends on no text but its own: the head that it starts with and the
brackets behind it settle where it ends. -/
theorem local_located (h : find (Text.lastOr none a) b = .ok (some site)) :
    (site.located (Text.bytes a)).Local a site.before site.text site.rest := by
  obtain ⟨-, hlast, -⟩ := find_spec h
  obtain ⟨e, inner, behind, htext, hecho, -⟩ := exists_parts h
  constructor
  case start_eq => exact (Text.bytes_append a site.before).symm
  case stop_eq =>
    rw [Text.bytes_append, Text.bytes_append]
    rfl
  case first =>
    intro u v hbefore hne
    exact starts_eq_zero_iff.1 (starts_before h) u v hbefore hne
  case echo =>
    rw [htext]
    exact hecho.trans (List.prefix_append e _)
  case semicolon =>
    obtain ⟨w, hw⟩ := List.getLast?_eq_some_iff.1 hlast
    exact ⟨w, hw.symm⟩
  case alone =>
    have hfound : findFrom ([] ++ (site.text ++ [])) (Text.bytes []) = .ok (some _) :=
      findFrom_eq_some_iff.2 ⟨_, find_text h rfl [], rfl⟩
    rw [List.append_nil] at hfound
    have hlength : (site.located (Text.bytes a)).stop - (site.located (Text.bytes a)).start =
        Text.bytes site.text := Nat.add_sub_cancel_left _ _
    have hsame : ({ site with before := [], rest := [] } : IncludeSite).located 0 =
        { site.located (Text.bytes a) with start := 0, stop := Text.bytes site.text } := by
      simp [located]
    rw [hlength, ← hsame]
    exact hfound
  case anywhere =>
    intro t
    exact findFrom_eq_some_iff.2 ⟨_, find_before h t, rfl⟩

/-! ## One call behind another -/

/-- A text with a call in it, cut behind the call. -/
theorem append_eq_of_find_stop (h : find (Text.lastOr none a) b = .ok (some site)) :
    a ++ b = a ++ site.before ++ site.text ++ site.rest := by
  rw [append_eq_of_find h a, List.append_assoc (a ++ site.before)]

/-- The calls that are found when the search goes on from the end of each, and the error that ended
the search, if one did. -/
inductive Searches (s : Text) : Nat → List Located → Option MapError → Prop
  | failed {i : Nat} {e : MapError} (h : findFrom s i = .error e) : Searches s i [] (some e)
  | finished {i : Nat} (h : findFrom s i = .ok none) : Searches s i [] none
  | found {i : Nat} {call : Located} {calls : List Located} {fault : Option MapError}
      (h : findFrom s i = .ok (some call)) (hnext : Searches s call.stop calls fault) :
      Searches s i (call :: calls) fault

/-- The search from an offset comes to one end. -/
theorem Searches.unique {i : Nat} {calls calls' : List Located} {fault fault' : Option MapError}
    (h : Searches s i calls fault) (h' : Searches s i calls' fault') :
    calls = calls' ∧ fault = fault' := by
  induction h generalizing calls' with
  | failed hfind =>
    cases h' with
    | failed hfind' =>
      cases hfind.symm.trans hfind'
      exact ⟨rfl, rfl⟩
    | finished hfind' => cases hfind.symm.trans hfind'
    | found hfind' => cases hfind.symm.trans hfind'
  | finished hfind =>
    cases h' with
    | failed hfind' => cases hfind.symm.trans hfind'
    | finished hfind' => exact ⟨rfl, rfl⟩
    | found hfind' => cases hfind.symm.trans hfind'
  | found hfind _ ih =>
    cases h' with
    | failed hfind' => cases hfind.symm.trans hfind'
    | finished hfind' => cases hfind.symm.trans hfind'
    | found hfind' hnext =>
      cases hfind.symm.trans hfind'
      obtain ⟨rfl, rfl⟩ := ih hnext
      exact ⟨rfl, rfl⟩

/-- Searching on from the end of each call comes to an end, by induction on the length of what is
left. -/
theorem searches_findAll (a b : Text) :
    Searches (a ++ b) (Text.bytes a) (findAll (Text.lastOr none a) (Text.bytes a) b).1
      (findAll (Text.lastOr none a) (Text.bytes a) b).2 := by
  induction hn : b.length using Nat.strongRecOn generalizing a b with
  | ind n ih =>
    subst hn
    have hfrom := findFrom_append a b
    rw [findAll]
    split
    next e hfind =>
      rw [hfind] at hfrom
      exact .failed hfrom
    next hfind =>
      rw [hfind] at hfrom
      exact .finished hfrom
    next site hfind =>
      rw [hfind] at hfrom
      have hnext := ih _ (length_rest_lt hfind) (a ++ site.before ++ site.text) site.rest rfl
      have hne : site.text ≠ [] := by
        intro hnil
        have hlast := (find_spec hfind).2.1
        rw [hnil] at hlast
        cases hlast
      rw [← append_eq_of_find_stop hfind, ← (local_located hfind).stop_eq,
        Text.lastOr_append_of_ne_nil none _ hne, Text.lastOr_of_ne_nil hne none _] at hnext
      exact .found hfrom hnext

/-- A call stands behind the offset at which its search started, and is not empty. -/
theorem Located.Local.bounds {call : Located} {before text rest : Text}
    (h : call.Local a before text rest) : Text.bytes a ≤ call.start ∧ call.start < call.stop ∧
      call.stop ≤ Text.bytes (a ++ (before ++ (text ++ rest))) := by
  obtain ⟨w, rfl⟩ := h.semicolon
  have hsize : (';').utf8Size = 1 := rfl
  rw [h.start_eq, h.stop_eq]
  simp only [Text.bytes_append, Text.bytes_cons, Text.bytes_nil, hsize]
  omega

/-- Calls that are found one after another stand one behind another. -/
theorem Searches.ascending {i : Nat} {calls : List Located} {fault : Option MapError}
    (h : Searches s i calls fault) (hs : s = a ++ b) (hi : i = Text.bytes a) :
    calls.Pairwise (fun l l' => l.stop ≤ l'.start) ∧
      ∀ l ∈ calls, i ≤ l.start ∧ l.start < l.stop ∧ l.stop ≤ Text.bytes s := by
  induction h generalizing a b with
  | failed _ => exact ⟨.nil, nofun⟩
  | finished _ => exact ⟨.nil, nofun⟩
  | @found i call calls fault hfind _ ih =>
    subst hs hi
    obtain ⟨site, hsite, rfl⟩ := findFrom_eq_some_iff.1 hfind
    have hlocal := local_located hsite
    obtain ⟨hstart, hlt, hstop⟩ := hlocal.bounds
    rw [← (find_spec hsite).1] at hstop
    -- the next search starts at the end of the call
    obtain ⟨hpairwise, hbounds⟩ := ih (append_eq_of_find_stop hsite) hlocal.stop_eq
    constructor
    · exact .cons (fun l hl => (hbounds l hl).1) hpairwise
    · intro l hl
      rcases List.mem_cons.1 hl with rfl | hl
      · exact ⟨hstart, hlt, hstop⟩
      · obtain ⟨hstart', hlt', hstop'⟩ := hbounds l hl
        exact ⟨by omega, hlt', hstop'⟩

/-- **A call is found by itself, and the search for calls comes to an end.** Whatever is found from
an offset on is the first call behind it and depends on no text behind its own end; and searches
that go on from the end of each call find calls one behind another until none is left or one is
malformed. -/
theorem findFrom_local_and_ascending (a b : Text) :
    (∀ call, findFrom (a ++ b) (Text.bytes a) = .ok (some call) →
      Text.bytes a ≤ call.start ∧ call.start < call.stop ∧ call.stop ≤ Text.bytes (a ++ b) ∧
        ∃ before text rest, b = before ++ (text ++ rest) ∧ call.Local a before text rest) ∧
    ∃ calls fault, (∀ calls' fault', Searches (a ++ b) (Text.bytes a) calls' fault' ↔
        calls' = calls ∧ fault' = fault) ∧
      calls.Pairwise (fun l l' => l.stop ≤ l'.start) ∧ ∀ l ∈ calls,
        Text.bytes a ≤ l.start ∧ l.start < l.stop ∧ l.stop ≤ Text.bytes (a ++ b) := by
  constructor
  · intro call hfind
    obtain ⟨site, hsite, rfl⟩ := findFrom_eq_some_iff.1 hfind
    have hlocal := local_located hsite
    obtain ⟨hstart, hlt, hstop⟩ := hlocal.bounds
    obtain ⟨hb, -⟩ := find_spec hsite
    rw [← hb] at hstop
    exact ⟨hstart, hlt, hstop, site.before, site.text, site.rest, hb, hlocal⟩
  · have hall := searches_findAll a b
    refine ⟨_, _, fun calls fault => ⟨fun h => h.unique hall, ?_⟩, hall.ascending rfl rfl⟩
    rintro ⟨rfl, rfl⟩
    exact hall

/-- The first of two calls, behind a character of two bytes. -/
theorem findFrom_two_calls :
    let a := "é".toList
    let b := "x; echo $__env->make('p')->render(); echo $__env->make($q)->render();".toList
    let call : Located := ⟨5, 38, ⟨.literal "p".toList, none, none⟩⟩
    findFrom (a ++ b) (Text.bytes a) = .ok (some call) ∧
      ∃ before text rest, b = before ++ (text ++ rest) ∧ call.Local a before text rest := by
  intro a b call
  have hfind : findFrom (a ++ b) (Text.bytes a) = .ok (some call) := by decide +kernel
  obtain ⟨-, -, -, hlocal⟩ := (findFrom_local_and_ascending a b).1 call hfind
  exact ⟨hfind, hlocal⟩

end IncludeSite

end TemplateTrace
