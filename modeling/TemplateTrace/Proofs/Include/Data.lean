import TemplateTrace.Proofs.Code.Balanced
import TemplateTrace.Proofs.Include.Search
import TemplateTrace.Proofs.Include.Spliced
import TemplateTrace.Proofs.Text.Trimming

/-!
# Calls in the data of a call

The data of a call are copied in front of the fragment, and a value can be code that holds calls
itself. These calls are all in the call that is replaced: a value is a piece of its arguments,
between signs over which no call runs, and putting it on one line only takes blanks together. So the
data hold fewer calls than the call, unless taking the markers of later lines out of the arguments
makes some.

- `IncludeSite.callCount_inner_le`, `IncludeSite.callCount_append_cons`: the calls of a piece.
- `IncludeSite.Squeezed`: a text with runs of blanks taken together, and
  `IncludeSite.Squeezed.starts_le`: it holds no other calls.
- `IncludeCall.callCount_singleLine_le`: an expression on one line.
- `IncludeCall.dataCalls_le`: the calls of the data, against those of the arguments.
- `IncludeSite.dataCalls_lt`: the calls of the data, against those of the call.
-/

namespace TemplateTrace

theorem Text.isWord_of_isBlank {c : Char} (h : Text.isBlank c = true) : Text.isWord c = false := by
  have hall : ∀ n ∈ [0x9, 0xa, 0xb, 0xc, 0xd, 0x20, 0x85, 0xa0, 0x1680, 0x2000, 0x2001, 0x2002,
      0x2003, 0x2004, 0x2005, 0x2006, 0x2007, 0x2008, 0x2009, 0x200a, 0x2028, 0x2029, 0x202f,
      0x205f, 0x3000], Text.isWord (Char.ofNat n) = false := by
    decide +kernel
  have hmem := hall c.toNat (by
    simp [Text.isBlank] at h
    simp
    omega)
  rwa [Char.ofNat_toNat] at hmem

namespace IncludeSite

/-! ## The calls of a piece -/

theorem wordStart_append {a b : Text} (ha : WordStart a)
    (hb : ∀ c ∈ b, Text.isWord c = false) : WordStart (a ++ b) := by
  cases hlast : b.getLast? with
  | none => rwa [List.getLast?_eq_none_iff.1 hlast, List.append_nil]
  | some c =>
    obtain ⟨b', rfl⟩ := List.getLast?_eq_some_iff.1 hlast
    rw [← List.append_assoc, wordStart_concat]
    exact hb c (by simp)

/-- A piece of a text holds no more calls than the text, if a word can start in front of it. -/
theorem callCount_inner_le {a u b : Text} (ha : WordStart a) :
    callCount u ≤ callCount (a ++ u ++ b) := by
  have hpiece : callCount u ≤ starts a u b :=
    Nat.le_trans (starts_nil_le [] u b) (starts_le_of_wordStart (fun _ => ha) u b)
  have hsum : callCount (a ++ u ++ b) =
      starts [] a (u ++ b) + starts a u b + starts (a ++ u) b [] := by
    rw [callCount, starts_append, starts_append, List.append_nil, List.nil_append, List.nil_append]
  omega

/-- A sign over which no call runs, and which is in no word, separates the calls. -/
theorem callCount_append_cons (u : Text) {c : Char} (v : Text) (hc : head.takes c = false)
    (hword : Text.isWord c = false) : callCount (u ++ c :: v) = callCount u + callCount v := by
  have hsign : starts u [c] v = 0 := by
    refine barred_of_not_mem (fun h => ?_) _ _
    rw [← List.mem_singleton.1 h] at hc
    exact absurd hc (by decide)
  have hv : starts (u ++ [c]) v [] = callCount v :=
    Nat.le_antisymm (starts_le_of_wordStart (fun _ => rfl) _ _)
      (starts_le_of_wordStart (fun _ => (wordStart_concat u c).2 hword) _ _)
  rw [← List.singleton_append, callCount, starts_append, List.append_nil, List.nil_append,
    starts_append, List.append_nil, hsign, Nat.zero_add, hv, List.singleton_append]
  exact congrArg (· + _) (starts_seal [] u (y := []) List.not_mem_nil hc)

theorem callCount_strip_le (s : Text) : callCount (Text.strip s) ≤ callCount s := by
  obtain ⟨b, b', hs, hb, -⟩ := Text.exists_strip s
  conv => rhs; rw [hs]
  have hword : WordStart ([] ++ b) := wordStart_append rfl fun c hc =>
    Text.isWord_of_isBlank (hb c hc)
  exact callCount_inner_le hword

/-! ## Blanks taken together -/

/-- Runs of blanks taken together, and left out at the end. -/
inductive Squeezed : Text → Text → Prop where
  | trailing {b : Text} (hb : ∀ c ∈ b, Text.isBlank c = true) : Squeezed b []
  | char (c : Char) {s t : Text} (h : Squeezed s t) : Squeezed (c :: s) (c :: t)
  | run {b s t : Text} {d : Char} (hb : ∀ c ∈ b, Text.isBlank c = true) (hne : b ≠ [])
      (hd : Text.isBlank d = true) (h : Squeezed s t) : Squeezed (b ++ s) (d :: t)

namespace Squeezed

theorem stripStart_append {b : Text} (hb : ∀ c ∈ b, Text.isBlank c = true) (s : Text) :
    Text.stripStart (b ++ s) = Text.stripStart s := List.dropWhile_append_of_pos hb

/-- Runs of blanks taken together, with the blanks at the start left out on both sides. -/
theorem stripStart {s t : Text} (h : Squeezed s t) :
    Squeezed (Text.stripStart s) (Text.stripStart t) := by
  induction h with
  | @trailing b hb =>
    have hnil := stripStart_append hb []
    rw [List.append_nil] at hnil
    rw [hnil]
    exact .trailing fun c hc => by cases hc
  | @char c s t h ih =>
    by_cases hc : Text.isBlank c = true
    · have hdrop : ∀ u, Text.stripStart (c :: u) = Text.stripStart u :=
        fun u => List.dropWhile_cons_of_pos hc
      rw [hdrop, hdrop]
      exact ih
    · have hkeep : ∀ u, Text.stripStart (c :: u) = c :: u := fun u => List.dropWhile_cons_of_neg hc
      rw [hkeep, hkeep]
      exact .char c h
  | @run b s t d hb _ hd _ ih =>
    rw [stripStart_append hb, show Text.stripStart (d :: t) = Text.stripStart t from
      List.dropWhile_cons_of_pos hd]
    exact ih

/-- A word at the start of a text whose blanks were taken together was there before. -/
theorem word {w s r : Text} (hw : ∀ c ∈ w, Text.isBlank c = false) (h : Squeezed s (w ++ r)) :
    ∃ r', s = w ++ r' ∧ Squeezed r' r := by
  induction w generalizing s with
  | nil => exact ⟨s, rfl, h⟩
  | cons c w ih =>
    cases h with
    | @char _ s _ h =>
      obtain ⟨r', rfl, hr⟩ := ih (fun d hd => hw d (List.mem_cons_of_mem _ hd)) h
      exact ⟨r', rfl, hr⟩
    | run _ _ hd _ =>
      rw [hw c List.mem_cons_self] at hd
      cases hd

/-- What a head matches, it matches with more blanks as well. -/
theorem rest? {h : Code.Head}
    (hwords : ∀ w, Code.Piece.word w ∈ h → ∀ c ∈ w, Text.isBlank c = false) {s t r : Text}
    (hs : Squeezed s t) (hr : h.rest? t = some r) :
    ∃ r', h.rest? s = some r' ∧ Squeezed r' r := by
  induction h generalizing s t with
  | nil =>
    obtain rfl := Option.some.inj hr
    exact ⟨s, rfl, hs⟩
  | cons p ps ih =>
    obtain ⟨u, hu, hr⟩ := Option.bind_eq_some_iff.1 hr
    have hrest := fun w hw => hwords w (List.mem_cons_of_mem _ hw)
    -- the first piece stops at the same place in both texts, up to blanks
    obtain ⟨u', hu', hsqueezed⟩ : ∃ u', p.rest? s = some u' ∧ Squeezed u' u := by
      cases p with
      | word w =>
        rw [Text.after?_eq_some_iff.1 hu] at hs
        obtain ⟨u', rfl, hsqueezed⟩ := hs.word (hwords w List.mem_cons_self)
        exact ⟨u', Text.after?_eq_some_iff.2 rfl, hsqueezed⟩
      | blanks =>
        obtain rfl := Option.some.inj hu
        exact ⟨_, rfl, hs.stripStart⟩
      | someBlanks =>
        cases t with
        | nil => cases hu
        | cons c t =>
          simp only [Code.Piece.rest?, Option.ite_none_right_eq_some, Option.some.injEq] at hu
          obtain ⟨hc, rfl⟩ := hu
          -- one blank stands for itself or for a run of them, the rest of which is skipped
          cases hs with
          | @char _ s _ h => exact ⟨_, if_pos hc, h.stripStart⟩
          | @run b s _ _ hb hne _ h =>
            obtain ⟨d, b, rfl⟩ := List.ne_nil_iff_exists_cons.1 hne
            refine ⟨Text.stripStart (b ++ s), if_pos (hb d List.mem_cons_self), ?_⟩
            rw [stripStart_append fun x hx => hb x (List.mem_cons_of_mem _ hx)]
            exact h.stripStart
    obtain ⟨r', hr', hsqueezed'⟩ := ih hrest hsqueezed hr
    exact ⟨r', by rw [Code.Head.rest?, hu', Option.bind_some, hr'], hsqueezed'⟩

/-- A call in a text whose blanks were taken together was there before: a head allows any blanks
between its words. -/
theorem startsAt {a a' s t : Text} (h : Squeezed s t) (ha : WordStart a → WordStart a')
    (hstarts : StartsAt a t) : StartsAt a' s := by
  have hwords : ∀ w, Code.Piece.word w ∈ head → ∀ c ∈ w, Text.isBlank c = false := by
    intro w hw c hc
    have hword : (w.all fun c => !Text.isBlank c) = true := by
      simp only [head, List.mem_cons, Code.Piece.word.injEq, List.not_mem_nil, or_false,
        reduceCtorEq, false_or] at hw
      rcases hw with rfl | rfl | rfl | rfl | rfl <;> decide
    simpa using List.all_eq_true.1 hword c hc
  obtain ⟨hword, hrest⟩ := startsAt_iff.1 hstarts
  obtain ⟨r, hr⟩ := Option.isSome_iff_exists.1 hrest
  obtain ⟨r', hr', -⟩ := h.rest? hwords hr
  exact startsAt_iff.2 ⟨ha hword, by rw [hr']; rfl⟩

/-- Taking blanks together makes no calls. -/
theorem starts_le {a a' s t : Text} (h : Squeezed s t) (ha : WordStart a → WordStart a') :
    starts a t [] ≤ starts a' s [] := by
  induction h generalizing a a' with
  | trailing => exact Nat.zero_le _
  | @char c s t h ih =>
    have hhere : StartsAt a (c :: t ++ []) → StartsAt a' (c :: s ++ []) := by
      rw [List.append_nil, List.append_nil]
      exact (Squeezed.char c h).startsAt ha
    rw [starts, starts]
    refine Nat.add_le_add ?_ (ih fun hword => by rwa [wordStart_concat] at hword ⊢)
    split
    next h => exact Nat.le_of_eq (if_pos (hhere h)).symm
    · exact Nat.zero_le _
  | @run b s t d hb hne hd h ih =>
    have hblank : starts a [d] (t ++ []) = 0 := by
      refine barred_of_not_mem (fun hmem => ?_) _ _
      rw [← List.mem_singleton.1 hmem] at hd
      exact absurd hd (by decide)
    have hword : WordStart (a' ++ b) := by
      rw [wordStart_append_of_ne_nil a' hne]
      exact wordStart_append (a := []) rfl fun c hc => Text.isWord_of_isBlank (hb c hc)
    have hthere : starts (a ++ [d]) t [] ≤ starts (a' ++ b) s [] := ih fun _ => hword
    rw [← List.singleton_append, starts_append, hblank, Nat.zero_add, starts_append]
    exact Nat.le_trans hthere (Nat.le_add_left _ _)

theorem append_blanks (u : Text) {b : Text} (hb : ∀ c ∈ b, Text.isBlank c = true) :
    Squeezed (u ++ b) u := by
  induction u with
  | nil => exact .trailing hb
  | cons c u ih => exact .char c ih

theorem append_left (u : Text) {s t : Text} (h : Squeezed s t) : Squeezed (u ++ s) (u ++ t) := by
  induction u with
  | nil => exact h
  | cons c u ih => exact .char c ih

end Squeezed

end IncludeSite

open IncludeSite

/-! ## Readers of arguments -/

namespace Code

theorem isWord_of_closer? {o : Char} (h : (closer? o).isSome = true) : Text.isWord o = false := by
  unfold closer? at h
  split at h
  · decide
  · decide
  · decide
  · cases h

/-- The inside of an array literal holds no more calls than the literal. -/
theorem callCount_array?_le {s inner : Text} (h : array? s = some inner) :
    callCount inner ≤ callCount s := by
  -- in front of the inside is a bracket
  obtain ⟨a, o, d, t, rfl, hd, -⟩ := exists_of_array? h
  have hword : WordStart (a ++ [o]) :=
    (wordStart_concat a o).2 (isWord_of_closer? (by rw [hd]; rfl))
  have hle := callCount_inner_le (u := inner) (b := d :: t) hword
  rwa [List.append_assoc, List.append_assoc, List.singleton_append] at hle

/-- The items of a list hold the calls of the list. -/
theorem sum_callCount_items? {s : Text} {items : List Text} (h : items? s = some items) :
    (items.map callCount).sum = callCount s := by
  fun_induction items? s generalizing items with
  | case1 s =>
    obtain rfl := Option.some.inj h
    exact Nat.add_zero _
  | case2 s t hlt hrun _ ih =>
    obtain ⟨rest, hrest, rfl⟩ := Option.map_eq_some_iff.1 h
    have hsuffix := suffix_afterRun .item s
    rw [hrun] at hsuffix
    obtain ⟨u, hu⟩ := hsuffix
    have hs : s = u ++ ',' :: t := hu.symm
    subst hs
    rw [Text.upTo_append, List.map_cons, List.sum_cons, ih hrest,
      callCount_append_cons u t (by decide) (by decide)]
  | case3 => cases h

/-- The value of an array item holds no more calls than the item. -/
theorem callCount_keyed?_le {s key value : Text} (h : keyed? s = some (key, value)) :
    callCount value ≤ callCount s := by
  obtain ⟨⟨key', r⟩, hkey, h⟩ := Option.bind_eq_some_iff.1 h
  obtain ⟨e, he, h⟩ := Option.bind_eq_some_iff.1 h
  obtain ⟨-, rfl⟩ := Prod.mk.inj (Option.some.inj h)
  have hsuffix : "=>".toList ++ e <:+ s := by
    rw [← Text.after?_eq_some_iff.1 he]
    exact (List.dropWhile_suffix _).trans
      ((suffix_stringAt? hkey).trans (List.dropWhile_suffix _))
  obtain ⟨a, rfl⟩ := hsuffix
  have hword : WordStart (a ++ "=>".toList) := by
    rw [wordStart_append_of_ne_nil a (by decide)]
    decide
  have hle := callCount_inner_le (u := e) (b := []) hword
  rw [List.append_nil, List.append_assoc] at hle
  exact Nat.le_trans (callCount_strip_le e) hle

end Code

/-! ## The data of a call -/

namespace IncludeCall

/-- A carriage return at the end of a line is a blank. -/
theorem exists_dropReturn (l : Text) :
    ∃ b, l = Text.dropReturn l ++ b ∧ ∀ c ∈ b, Text.isBlank c = true := by
  unfold Text.dropReturn
  split
  next h =>
    obtain ⟨l', rfl⟩ := List.getLast?_eq_some_iff.1 h
    refine ⟨['\r'], by simp, fun c hc => ?_⟩
    rw [List.mem_singleton.1 hc]
    decide
  · exact ⟨[], (List.append_nil l).symm, fun c hc => by cases hc⟩

/-- Pieces as lines that end in a line feed, and a last one unless it is empty. -/
def ended (pieces : List Text) : List Text :=
  pieces.dropLast.map Text.dropReturn ++
    (if pieces.getLastD [] = [] then [] else [pieces.getLastD []])

/-- Lines that are trimmed and put on one line are the text with its blanks taken together. -/
theorem exists_squeezed {pieces : List Text} (hne : pieces ≠ []) :
    ∃ b s, Text.joinWith ['\n'] pieces = b ++ s ∧ (∀ c ∈ b, Text.isBlank c = true) ∧
      Squeezed s (Text.joinWith [' '] ((ended pieces).map Text.strip)) := by
  induction pieces with
  | nil => exact absurd rfl hne
  | cons l pieces ih =>
    cases pieces with
    | nil =>
      -- the last line: it is not counted if it is empty
      by_cases hl : l = []
      · subst hl
        have hnone : ∀ c ∈ ([] : Text), Text.isBlank c = true := fun c hc => by cases hc
        exact ⟨[], [], rfl, hnone, Squeezed.trailing hnone⟩
      · obtain ⟨b, b', hstrip, hb, hb'⟩ := Text.exists_strip l
        refine ⟨b, Text.strip l ++ b', by rw [← List.append_assoc]; exact hstrip, hb, ?_⟩
        rw [show ended [l] = [l] from if_neg hl]
        exact Squeezed.append_blanks _ hb'
    | cons l' pieces =>
      -- a line and those below it: what is between two pieces is one run of blanks
      obtain ⟨b₂, s₂, hjoin, hb₂, hsqueezed⟩ := ih (List.cons_ne_nil _ _)
      obtain ⟨b₁, hreturn, hb₁⟩ := exists_dropReturn l
      obtain ⟨b, b', hstrip, hb, hb'⟩ := Text.exists_strip (Text.dropReturn l)
      have hblank : ∀ c ∈ b' ++ b₁ ++ '\n' :: b₂, Text.isBlank c = true := by
        intro c hc
        rw [List.mem_append, List.mem_append, List.mem_cons] at hc
        rcases hc with (hc | hc) | rfl | hc
        · exact hb' c hc
        · exact hb₁ c hc
        · decide
        · exact hb₂ c hc
      refine ⟨b, Text.strip (Text.dropReturn l) ++ ((b' ++ b₁ ++ '\n' :: b₂) ++ s₂), ?_, hb, ?_⟩
      · have hl : l = b ++ Text.strip (Text.dropReturn l) ++ b' ++ b₁ := by rw [← hstrip, ← hreturn]
        rw [Text.joinWith, hjoin]
        · conv => lhs; rw [hl]
          simp only [List.append_assoc, List.cons_append, List.nil_append]
        · exact List.cons_ne_nil _ _
      · -- behind the first line come the other lines, or nothing when they are one empty line
        show Squeezed _ (Text.joinWith [' '] (Text.strip (Text.dropReturn l) ::
          (ended (l' :: pieces)).map Text.strip))
        cases hrest : (ended (l' :: pieces)).map Text.strip with
        | nil =>
          rw [hrest] at hsqueezed
          have hs₂ : ∀ c ∈ s₂, Text.isBlank c = true := by
            cases hsqueezed with
            | trailing h => exact h
          refine Squeezed.append_blanks _ fun c hc => ?_
          rcases List.mem_append.1 hc with hc | hc
          · exact hblank c hc
          · exact hs₂ c hc
        | cons t ts =>
          rw [hrest] at hsqueezed
          have hjoin : Text.joinWith [' '] (Text.strip (Text.dropReturn l) :: t :: ts) =
              Text.strip (Text.dropReturn l) ++ ' ' :: Text.joinWith [' '] (t :: ts) := by
            rw [Text.joinWith, List.append_assoc]
            · rfl
            · exact List.cons_ne_nil _ _
          rw [hjoin]
          exact Squeezed.append_left _ (.run hblank (by simp) (by decide) hsqueezed)

/-- An expression on one line holds no more calls. -/
theorem callCount_singleLine_le (e : Text) : callCount (singleLine e) ≤ callCount e := by
  obtain ⟨b, s, hjoin, hb, hsqueezed⟩ := exists_squeezed (Text.splitOn_ne_nil '\n' (Text.strip e))
  rw [Text.joinWith_splitOn] at hjoin
  have hword : WordStart ([] ++ b) := wordStart_append rfl fun c hc =>
    Text.isWord_of_isBlank (hb c hc)
  calc callCount (singleLine e)
      ≤ callCount s := hsqueezed.starts_le id
    _ ≤ callCount ([] ++ b ++ s ++ []) := callCount_inner_le hword
    _ = callCount (Text.strip e) := by rw [List.append_nil, List.nil_append, hjoin]
    _ ≤ callCount e := callCount_strip_le e

/-- An entry adds no more calls than its value holds. -/
theorem dataCalls_setEntry_le (entries : List (Text × Text)) (entry : Text × Text) :
    Shadow.dataCalls (setEntry entries entry) ≤
      Shadow.dataCalls entries + callCount entry.2 := by
  induction entries with
  | nil => exact Nat.le_of_eq (Nat.add_comm _ _)
  | cons e entries ih =>
    unfold setEntry
    split
    · simp only [Shadow.dataCalls, List.map_cons, List.sum_cons]
      omega
    · simp only [Shadow.dataCalls, List.map_cons, List.sum_cons] at ih ⊢
      omega

/-- Entries add no more calls than their values hold, by induction on them. -/
theorem dataCalls_foldl_setEntry_le (entries start : List (Text × Text)) :
    Shadow.dataCalls (entries.foldl setEntry start) ≤
      Shadow.dataCalls start + Shadow.dataCalls entries := by
  induction entries generalizing start with
  | nil => exact Nat.le_refl _
  | cons entry entries ih =>
    have hset := dataCalls_setEntry_le start entry
    have hrest := ih (setEntry start entry)
    have hcons : Shadow.dataCalls (entry :: entries) =
        callCount entry.2 + Shadow.dataCalls entries := rfl
    rw [List.foldl_cons]
    omega

/-- The values of entries hold no more calls than the items from which the entries are read. -/
theorem dataCalls_readEntries_le {items : List Text} {entries : List (Text × Text)}
    (h : items.mapM readEntry = .ok entries) :
    Shadow.dataCalls entries ≤ (items.map callCount).sum := by
  induction items generalizing entries with
  | nil =>
    obtain rfl := Except.ok.inj h
    exact Nat.le_refl 0
  | cons item items ih =>
    obtain ⟨entry, rest, hitem, hrest, rfl⟩ := Except.exists_of_mapM_cons h
    have hentry : callCount entry.2 ≤ callCount item := by
      unfold readEntry at hitem
      split at hitem
      next key e hkeyed =>
        obtain rfl := Except.ok.inj hitem
        exact Nat.le_trans (callCount_singleLine_le e) (Code.callCount_keyed?_le hkeyed)
      · cases hitem
    exact Nat.add_le_add hentry (ih hrest)

/-- The data that an argument passes hold no more calls than the argument. -/
theorem dataCalls_readData_le {argument : Text} {entries : List (Text × Text)}
    (h : readData argument = .ok (.pairs entries)) :
    Shadow.dataCalls entries ≤ callCount argument := by
  obtain ⟨inner, items, harray, hitems, hread⟩ := exists_of_readData h
  calc Shadow.dataCalls entries
      ≤ ((items.filter (Text.strip · ≠ [])).map callCount).sum := dataCalls_readEntries_le hread
    _ ≤ (items.map callCount).sum :=
        (List.filter_sublist.map _).sum_le_sum fun _ _ => Nat.zero_le _
    _ = callCount inner := Code.sum_callCount_items? hitems
    _ ≤ callCount argument := Code.callCount_array?_le harray

/-- The data of a call hold no more calls than the arguments that they are read from. -/
theorem dataCalls_le {arguments : Text} {call : IncludeCall}
    (h : ofArguments arguments = .ok call) :
    Shadow.dataCalls call.dataPairs ≤ callCount arguments := by
  unfold dataPairs
  split
  next entries hdata =>
    obtain ⟨items, argument, hitems, hmem, hread⟩ := data_of_ofArguments h hdata
    obtain ⟨item, hitem, rfl⟩ := List.mem_map.1 hmem
    calc Shadow.dataCalls (entries.foldl setEntry [])
        ≤ Shadow.dataCalls entries := by
          have hfold := dataCalls_foldl_setEntry_le entries []
          rwa [show Shadow.dataCalls [] = 0 from rfl, Nat.zero_add] at hfold
      _ ≤ callCount (Text.strip item) := dataCalls_readData_le hread
      _ ≤ callCount item := callCount_strip_le item
      _ ≤ (items.map callCount).sum := List.le_sum_of_mem (List.mem_map_of_mem hitem)
      _ = callCount arguments := Code.sum_callCount_items? hitems
  · exact Nat.zero_le _

end IncludeCall

/-! ## The calls of a call -/

/-- A text that has no comment of a marker's shape has none in any of its pieces. -/
theorem shape?_of_stripMarkers {s : Text} (h : stripMarkers s = s) {a b : Text} (hs : s = a ++ b) :
    Marker.shape? b = none := by
  have hlength : ∀ t : Text, (stripMarkers t).length ≤ t.length := by
    intro t
    fun_induction stripMarkers t with
    | case1 t p r hp hlt ih => omega
    | case2 => exact Nat.le_refl 0
    | case3 c t hnone ih => exact Nat.succ_le_succ ih
  fun_induction stripMarkers s generalizing a b with
  | case1 s p r hp hlt ih =>
    have hle := hlength r
    rw [h] at hle
    omega
  | case2 hnone =>
    obtain ⟨-, rfl⟩ := List.append_eq_nil_iff.1 hs.symm
    exact hnone
  | case3 c t hnone ih =>
    cases a with
    | nil =>
      rw [List.nil_append] at hs
      rw [← hs]
      exact hnone
    | cons d a =>
      obtain ⟨rfl, rfl⟩ := by simpa using hs
      exact ih (List.cons.inj h).2 rfl

/-- A text in which no marker comment starts anywhere is left as it is. -/
theorem stripMarkers_of_forall {s : Text} (h : ∀ a b, s = a ++ b → Marker.shape? b = none) :
    stripMarkers s = s := by
  fun_induction stripMarkers s with
  | case1 s p r hp =>
    rw [h [] s rfl] at hp
    cases hp
  | case2 => rfl
  | case3 c t _ ih => rw [ih fun a b ht => h (c :: a) b (by rw [ht, List.cons_append])]

/-- A part of a text without marker comments holds none. -/
theorem stripMarkers_inner {a u b : Text} (h : stripMarkers (a ++ u ++ b) = a ++ u ++ b) :
    stripMarkers u = u := by
  refine stripMarkers_of_forall fun v w hu => ?_
  cases hshape : Marker.shape? w with
  | none => rfl
  | some p =>
    obtain ⟨p, r⟩ := p
    obtain ⟨v', hw, hlocal⟩ := Marker.shape?_local hshape
    have hnone := shape?_of_stripMarkers h (a := a ++ v) (b := w ++ b) (by rw [hu]; simp)
    rw [hw, List.append_assoc, hlocal (r ++ b)] at hnone
    cases hnone

namespace IncludeSite

/-- The data of a call hold fewer calls than the call, when no marker stands in it. -/
theorem dataCalls_lt {a s : Text} {site : IncludeSite}
    (h : find (Text.lastOr none a) s = .ok (some site))
    (hstrip : stripMarkers site.text = site.text) :
    Shadow.dataCalls site.call.dataPairs < starts (a ++ site.before) site.text site.rest := by
  obtain ⟨u, arguments, behind, htext, hecho, -, -, -, hcall⟩ := exists_parts h
  generalize ')' :: behind = v at htext
  have hcut : site.text = (u ++ ['(']) ++ arguments ++ v := by rw [htext]; simp
  rw [hcut] at hstrip
  rw [stripMarkers_inner hstrip] at hcall
  have hdata := IncludeCall.dataCalls_le hcall
  -- the call itself starts in front of its arguments
  have hfirst : 1 ≤ starts (a ++ site.before) u ('(' :: (arguments ++ v) ++ site.rest) := by
    have hstarts := startsAt_site h
    rw [htext, List.append_assoc] at hstarts
    obtain ⟨u, rfl⟩ := hecho
    rw [show "echo".toList ++ u = 'e' :: ("cho".toList ++ u) from rfl] at hstarts ⊢
    rw [starts, if_pos hstarts]
    exact Nat.le_add_right 1 _
  have hinner : callCount arguments ≤
      starts (a ++ site.before ++ u ++ ['(']) arguments (v ++ site.rest) :=
    Nat.le_trans (starts_nil_le [] arguments (v ++ site.rest))
      (starts_le_of_wordStart (fun _ => (wordStart_concat _ '(').2 (by decide)) _ _)
  have hsplit : starts (a ++ site.before) site.text site.rest =
      starts (a ++ site.before) u ('(' :: (arguments ++ v) ++ site.rest) +
        (starts (a ++ site.before ++ u) ['('] (arguments ++ v ++ site.rest) +
          (starts (a ++ site.before ++ u ++ ['(']) arguments (v ++ site.rest) +
            starts (a ++ site.before ++ u ++ ['('] ++ arguments) v site.rest)) := by
    rw [htext, starts_append, ← List.singleton_append, starts_append, starts_append]
  omega

end IncludeSite

end TemplateTrace
