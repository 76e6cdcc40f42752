import Mathlib.Algebra.Order.BigOperators.Group.List
import Mathlib.Algebra.Order.Ring.Nat
import TemplateTrace.Proofs.Include.Starts

/-!
# Calls in what replaces a call

A fragment is put between statements and comments that expansion writes itself. The comments hold
names, paths and stacks as JSON, whose escapes neither make a call nor hide one; the statements are
words and a few signs, but for the data of the call, which are copied in front of the fragment. So
what replaces a call holds the calls of its data and those of the fragment, and no others.

- `starts_commentSafe_le`, `Json.barred_quote`: a text in a comment as JSON.
- `Marker.Plain`, `Marker.barred_encode`: the comment of a marker whose strings hold no call.
- `Shadow.counts_enter`, `Shadow.barred_leave`: the statements around a fragment.
- `Expander.barred_behind`: from the end of the statements in front of a fragment on.
-/

namespace TemplateTrace

open IncludeSite

/-! ## Texts in comments -/

/-- A text without stars at the start of one that was made safe for a comment was there before: only
a star is followed by something new. -/
theorem prefix_of_prefix_commentSafe {u v e : Text} (h : e <+: commentSafe u ++ v)
    (he : '*' ∉ e) : e <+: u ++ v := by
  fun_induction commentSafe u generalizing e with
  | case1 s =>
    cases e with
    | nil => exact List.nil_prefix
    | cons d e =>
      obtain ⟨rfl, -⟩ := List.cons_prefix_cons.1 h
      exact absurd List.mem_cons_self he
  | case2 c s _ ih =>
    cases e with
    | nil => exact List.nil_prefix
    | cons d e =>
      rw [List.mem_cons, not_or] at he
      obtain ⟨rfl, htail⟩ := List.cons_prefix_cons.1 h
      exact List.cons_prefix_cons.2 ⟨rfl, ih htail he.2⟩
  | case3 => exact h

/-- Keeping comment ends out of a text makes no calls. -/
theorem starts_commentSafe_le (a u v : Text) : starts a (commentSafe u) v ≤ starts a u v := by
  fun_induction commentSafe u generalizing a with
  | case1 s ih =>
    -- no call starts at the comment's end, with or without the backslash, which only ends words
    have hquiet : starts a ['*', '\\', '/'] (commentSafe s ++ v) = 0 :=
      barred_of_not_mem (by decide) _ _
    have hplace : WordStart (a ++ ['*', '\\', '/']) → WordStart (a ++ ['*', '/']) := by
      rw [wordStart_append_of_ne_nil a (List.cons_ne_nil _ _),
        wordStart_append_of_ne_nil a (List.cons_ne_nil _ _)]
      decide
    calc starts a ('*' :: '\\' :: '/' :: commentSafe s) v
        = starts (a ++ ['*', '\\', '/']) (commentSafe s) v := by
          rw [show '*' :: '\\' :: '/' :: commentSafe s = ['*', '\\', '/'] ++ commentSafe s from rfl,
            starts_append, hquiet, Nat.zero_add]
      _ ≤ starts (a ++ ['*', '/']) (commentSafe s) v := starts_le_of_wordStart hplace _ _
      _ ≤ starts (a ++ ['*', '/']) s v := ih _
      _ ≤ starts a ('*' :: '/' :: s) v := by
          rw [show '*' :: '/' :: s = ['*', '/'] ++ s from rfl, starts_append]
          exact Nat.le_add_left _ _
  | case2 c s _ ih =>
    -- a character that is kept starts a call only if it did
    have hhere : StartsAt a (c :: commentSafe s ++ v) → StartsAt a (c :: s ++ v) := by
      refine fun h => h.transfer id fun e he _ htakes => ?_
      cases e with
      | nil => exact List.nil_prefix
      | cons d e =>
        obtain ⟨rfl, htail⟩ := List.cons_prefix_cons.1 he
        refine List.cons_prefix_cons.2 ⟨rfl, prefix_of_prefix_commentSafe htail fun hstar => ?_⟩
        exact absurd (htakes '*' (List.mem_cons_of_mem _ hstar)) (by decide)
    rw [starts, starts]
    refine Nat.add_le_add ?_ (ih _)
    split
    next h => exact Nat.le_of_eq (if_pos (hhere h)).symm
    · exact Nat.zero_le _
  | case3 => exact Nat.le_refl _

theorem barred_commentSafe {u : Text} (h : Barred u) : Barred (commentSafe u) := by
  intro a v
  have hle := starts_commentSafe_le a u v
  rw [h a v] at hle
  exact Nat.le_zero.1 hle

namespace Json

/-- A text without escapes and quotes at the start of the characters of a JSON string is a text at
the start of the string. -/
theorem prefix_of_prefix_escape {s v e : Text} (h : e <+: s.flatMap escape ++ '"' :: v)
    (hback : '\\' ∉ e) (hquote : '"' ∉ e) : e <+: s := by
  induction s generalizing e with
  | nil =>
    cases e with
    | nil => exact List.nil_prefix
    | cons d e =>
      obtain ⟨rfl, -⟩ := List.cons_prefix_cons.1 h
      exact absurd List.mem_cons_self hquote
  | cons c s ih =>
    cases e with
    | nil => exact List.nil_prefix
    | cons d e =>
      rw [List.mem_cons, not_or] at hback hquote
      rw [List.flatMap_cons] at h
      -- an escape starts with a backslash, and all other characters stand for themselves
      rcases escape_cases c with ⟨_, _, _, _, heq, -⟩ | ⟨_, -, heq, -⟩ | ⟨heq, -⟩
      · rw [heq] at h
        exact absurd (List.cons_prefix_cons.1 h).1.symm hback.1
      · rw [heq] at h
        exact absurd (List.cons_prefix_cons.1 h).1.symm hback.1
      · rw [heq] at h
        obtain ⟨rfl, htail⟩ := List.cons_prefix_cons.1 h
        exact List.cons_prefix_cons.2 ⟨rfl, ih htail hback.2 hquote.2⟩

/-- An escape that is none of the character itself holds no start of a call, and the character is in
no word. -/
theorem quiet_escape (c : Char) :
    escape c = [c] ∨ quiet none (escape c) = true ∧ Text.isWord c = false := by
  rcases escape_cases c with ⟨a, b, d, e, heq, -, hlt, halpha⟩ | ⟨e, hmem, heq, he⟩ | ⟨heq, -⟩
  · have hword : ∀ x ∈ [a, b, d, e], Text.startsWord (some x) = false := by
      intro x hx
      show (!Text.isWord x) = false
      rw [Text.isWord, halpha x hx]
      rfl
    have hu : Text.startsWord (some 'u') = false := by decide
    have ha := hword a (by simp)
    have hb := hword b (by simp)
    have hd := hword d (by simp)
    refine .inr ⟨?_, ?_⟩
    · rw [heq]
      simp [quiet, hu, ha, hb, hd]
    · have hcontrol : ∀ n : Fin 32, Text.isWord (Char.ofNat n.val) = false := by decide
      have hc := hcontrol ⟨c.toNat, hlt⟩
      rwa [Char.ofNat_toNat] at hc
  · refine .inr ?_
    have hletters : "\"\\nrtbf".toList.all (fun e => quiet none ['\\', e] &&
        (unescape? e).all fun c => !Text.isWord c) = true := by decide
    have hletter := List.all_eq_true.1 hletters e hmem
    rw [he, Bool.and_eq_true, Option.all_some, Bool.not_eq_true'] at hletter
    rwa [heq]
  · exact .inl heq

/-- Escaping a text makes no calls. -/
theorem starts_escape_le {a a' : Text} (ha : WordStart a → WordStart a') (s v : Text) :
    starts a (s.flatMap escape) ('"' :: v) ≤ starts a' s [] := by
  induction s generalizing a a' with
  | nil => exact Nat.le_refl 0
  | cons c s ih =>
    rw [List.flatMap_cons, starts_append, starts]
    rcases quiet_escape c with heq | ⟨hquiet, hc⟩
    · -- a character that stays starts a call only if it did
      have hhere : StartsAt a (c :: (s.flatMap escape ++ '"' :: v)) →
          StartsAt a' (c :: s ++ []) := by
        refine fun h => h.transfer ha fun e he _ htakes => ?_
        cases e with
        | nil => exact List.nil_prefix
        | cons d e =>
          obtain ⟨rfl, htail⟩ := List.cons_prefix_cons.1 he
          have hfree : ∀ x, head.takes x = false → x ∉ e := by
            intro x hx hmem
            rw [htakes x (List.mem_cons_of_mem _ hmem)] at hx
            cases hx
          rw [List.append_nil]
          exact List.cons_prefix_cons.2
            ⟨rfl, prefix_of_prefix_escape htail (hfree _ (by decide)) (hfree _ (by decide))⟩
      have hthere : starts (a ++ [c]) (s.flatMap escape) ('"' :: v) ≤ starts (a' ++ [c]) s [] :=
        ih fun h => by rwa [wordStart_concat] at h ⊢
      rw [heq, starts, starts_nil, Nat.add_zero]
      refine Nat.add_le_add ?_ hthere
      rw [List.singleton_append]
      split
      next h => exact Nat.le_of_eq (if_pos (hhere h)).symm
      · exact Nat.zero_le _
    · -- no call starts within an escape
      have hzero : starts a (escape c) (s.flatMap escape ++ '"' :: v) = 0 :=
        barred_of_quiet hquiet _ _
      have hthere : starts (a ++ escape c) (s.flatMap escape) ('"' :: v) ≤
          starts (a' ++ [c]) s [] := ih fun _ => (wordStart_concat a' c).2 hc
      rw [hzero, Nat.zero_add]
      exact Nat.le_trans hthere (Nat.le_add_left _ _)

/-- A text without calls is barred as a JSON string. -/
theorem barred_quote {s : Text} (h : CallFree s) : Barred (quote s) := by
  intro a v
  have hopen : starts a ['"'] (s.flatMap escape ++ ['"'] ++ v) = 0 :=
    barred_of_not_mem (by decide) _ _
  have hclose : starts (a ++ ['"'] ++ s.flatMap escape) ['"'] v = 0 :=
    barred_of_not_mem (by decide) _ _
  have hbody : starts (a ++ ['"']) (s.flatMap escape) ('"' :: v) = 0 := by
    have hle : starts (a ++ ['"']) (s.flatMap escape) ('"' :: v) ≤ starts [] s [] :=
      starts_escape_le (fun _ => rfl) s v
    rw [show starts [] s [] = 0 from callFree_iff.1 h] at hle
    exact Nat.le_zero.1 hle
  rw [quote, List.cons_append, ← List.singleton_append, starts_append, hopen, starts_append, hclose,
    List.singleton_append, hbody]

end Json

theorem Text.barred_decimal (n : Nat) : Barred (Text.decimal n) := by
  refine barred_of_not_mem fun h => ?_
  exact absurd (Text.isDigit_of_mem_decimal h) (by decide)

/-! ## Comments of markers -/

/-- Whether the strings of a frame hold no call. -/
def Frame.Plain (f : Frame) : Prop := CallFree f.file ∧ ∀ name, f.name = some name → CallFree name

/-- Whether the strings of a marker hold no call. -/
structure Marker.Plain (m : Marker) : Prop where
  template : CallFree m.template
  path : CallFree m.path
  stack : ∀ f ∈ m.stack, f.Plain

/-- The stack of a template that is included at a marker is as plain as the marker. -/
theorem Marker.Plain.frames {m : Marker} (h : m.Plain) : ∀ f ∈ m.stack ++ [m.frame], f.Plain := by
  intro f hf
  rcases List.mem_append.1 hf with hf | hf
  · exact h.stack f hf
  · obtain rfl := List.mem_singleton.1 hf
    refine ⟨h.path, fun name hname => ?_⟩
    obtain rfl := Option.some.inj hname
    exact h.template

/-- No call starts in the JSON of a frame whose strings hold no call. -/
theorem Frame.barred_compact {f : Frame} (h : f.Plain) : Barred f.toJson.compact := by
  have hname : Barred (Json.ofText? f.name).compact := by
    cases hf : f.name with
    | none => exact barred_of_quiet (by decide)
    | some name => exact Json.barred_quote (h.2 name hf)
  have hcompact : f.toJson.compact = "\x7b\"file\":".toList ++ Json.quote f.file ++
      ",\"line\":".toList ++ Text.decimal f.line.toNat ++ ",\"name\":".toList ++
        (Json.ofText? f.name).compact ++ "\x7d".toList := by
    have hkeys : Json.quote "file".toList = "\"file\"".toList ∧
        Json.quote "line".toList = "\"line\"".toList ∧
        Json.quote "name".toList = "\"name\"".toList := by decide
    show '\x7b' :: (Json.quote _ ++ ':' :: Json.quote f.file ++ ',' ::
      (Json.quote _ ++ ':' :: Text.decimal f.line.toNat ++ ',' ::
        (Json.quote _ ++ ':' :: (Json.ofText? f.name).compact))) ++ ['\x7d'] = _
    rw [hkeys.1, hkeys.2.1, hkeys.2.2]
    simp
  have hfile := Json.barred_quote h.1
  have hline := Text.barred_decimal f.line.toNat
  rw [hcompact]
  exact (((((Barred.append (barred_of_quiet (by decide)) hfile).append
    (barred_of_quiet (by decide))).append hline).append (barred_of_quiet (by decide))).append
      hname).append (barred_of_quiet (by decide))

/-- No call starts in the JSON of a stack whose strings hold no call. -/
theorem barred_stackJson {stack : List Frame} (h : ∀ f ∈ stack, f.Plain) :
    Barred (stackJson stack) := by
  have hitems : Barred (Json.compactItems (stack.map Frame.toJson)) := by
    induction stack with
    | nil => exact barred_nil
    | cons f stack ih =>
      have hf := Frame.barred_compact (h f List.mem_cons_self)
      have hstack := ih fun f' hf' => h f' (List.mem_cons_of_mem _ hf')
      cases stack with
      | nil => exact hf
      | cons f' stack =>
        show Barred (f.toJson.compact ++ ',' :: Json.compactItems ((f' :: stack).map Frame.toJson))
        exact hf.append (barred_cons (by decide) hstack)
  show Barred ('[' :: Json.compactItems (stack.map Frame.toJson) ++ [']'])
  exact (barred_cons (by decide) hitems).append (barred_of_quiet (by decide))

/-- No call starts in the comment of a marker whose strings hold none. -/
theorem Marker.barred_encode {m : Marker} (h : m.Plain) : Barred m.encode := by
  have htemplate := barred_commentSafe (Json.barred_quote h.template)
  have hpath := barred_commentSafe (Json.barred_quote h.path)
  have hline := Text.barred_decimal m.line.toNat
  have hstack := barred_commentSafe (barred_stackJson h.stack)
  unfold encode
  exact ((((((((Barred.append (barred_of_quiet (by decide)) htemplate).append
    (barred_of_quiet (by decide))).append hpath).append (barred_of_quiet (by decide))).append
      hline).append (barred_of_quiet (by decide))).append hstack).append
        (barred_of_quiet (by decide)))

/-! ## Statements -/

/-- The calls of statements, when the calls of each one are known. -/
theorem counts_statementsCode {n : ShadowStatement → Nat} {statements : List ShadowStatement}
    (h : ∀ s ∈ statements, Counts s.code (n s)) :
    Counts (statementsCode statements) (statements.map n).sum := by
  induction statements with
  | nil => exact barred_nil
  | cons s rest ih =>
    have hs := h s List.mem_cons_self
    have hrest := ih fun s' hs' => h s' (List.mem_cons_of_mem _ hs')
    cases rest with
    | nil => exact hs
    | cons s' rest =>
      have hblank : Barred [' '] := barred_of_not_mem (by decide)
      have hcode := hs.append (Counts.append hblank hrest)
      rw [Nat.zero_add] at hcode
      exact hcode

namespace Shadow

/-- No call starts in a statement without arrows. -/
theorem barred_code {statement : ShadowStatement} (h : '>' ∉ statement.code) :
    Barred statement.code := by
  have hend : ∀ (s : Text) {t : Text} {c : Char}, t.getLast? = some c →
      (s ++ t).getLast? = some c := by
    intro s t c ht
    rw [List.getLast?_append, ht]
    rfl
  have hlast : statement.code.getLast? = some ';' ∨ statement.code.getLast? = some '\x7d' := by
    cases statement with
    | assign name value => exact .inl (hend _ (t := [';']) rfl)
    | restore had name saved => exact .inr (hend _ (t := "); \x7d".toList) (by decide))
    | unset names => exact .inl (hend _ (t := ");".toList) (by decide))
  rcases hlast with hlast | hlast
  · exact barred_of_not_mem_gt h hlast (by decide)
  · exact barred_of_not_mem_gt h hlast (by decide)

/-- The statement that computes a value holds the calls of the value. -/
theorem counts_compute (s : Shadow) {entry : Text × Text} (h : isIdentifier entry.1 = true) :
    Counts (s.compute entry).code (callCount entry.2) := by
  have hname : '>' ∉ variableCode (s.argument entry.1) := by
    have hall : (s.argument entry.1).all isStatementChar = true :=
      all_isStatementChar_helper (by decide) s.depth (all_isStatementChar_of_isIdentifier h)
    rw [variableCode, List.mem_cons, not_or]
    exact ⟨by decide, not_mem_of_all_isStatementChar hall (by decide)⟩
  have hfront : Barred (variableCode (s.argument entry.1) ++ " = ".toList) := by
    have heq : Barred (variableCode (s.argument entry.1) ++ " =".toList) := by
      refine barred_of_not_mem_gt (c := '=') ?_ (by simp) (by decide)
      rw [List.mem_append, not_or]
      exact ⟨hname, by decide⟩
    have hblank : Barred [' '] := barred_of_not_mem (by decide)
    have happend := heq.append hblank
    rwa [List.append_assoc] at happend
  have hend : Barred [';'] := barred_of_not_mem (by decide)
  intro a v
  -- a blank is in front of the value, and behind it a sign over which no call runs
  have hvalue : starts (a ++ (variableCode (s.argument entry.1) ++ " = ".toList)) entry.2
      ([';'] ++ v) = callCount entry.2 := by
    have hword : WordStart (a ++ (variableCode (s.argument entry.1) ++ " = ".toList)) := by
      rw [← List.append_assoc, wordStart_append_of_ne_nil _ (by decide)]
      decide
    have hseal := starts_seal (a ++ (variableCode (s.argument entry.1) ++ " = ".toList)) entry.2
      (y := []) (z := v) (c := ';') List.not_mem_nil (by decide)
    exact hseal.trans (Nat.le_antisymm (starts_le_of_wordStart (fun _ => rfl) _ _)
      (starts_le_of_wordStart (fun _ => hword) _ _))
  show starts a (variableCode (s.argument entry.1) ++ " = ".toList ++ entry.2 ++ [';']) v = _
  rw [starts_append, starts_append, hfront, hvalue, hend, Nat.zero_add, Nat.add_zero]

/-- No call starts in the statements that put a variable aside and take its name. -/
theorem barred_take (s : Shadow) {name : Text} (h : isIdentifier name = true)
    {statement : ShadowStatement} (hs : statement ∈ s.take name) : Barred statement.code := by
  have hhelper : ∀ role : String, role.toList.all isStatementChar = true →
      '>' ∉ helper role s.depth name := by
    intro role hrole
    exact not_mem_of_all_isStatementChar (all_isStatementChar_helper hrole s.depth
      (all_isStatementChar_of_isIdentifier h)) (by decide)
  have hname : '>' ∉ name :=
    not_mem_of_all_isStatementChar (all_isStatementChar_of_isIdentifier h) (by decide)
  have hargument := hhelper "arg" (by decide)
  have hhad := hhelper "had" (by decide)
  have hsaved := hhelper "saved" (by decide)
  rw [take, List.mem_cons, List.mem_cons, List.mem_singleton] at hs
  rcases hs with rfl | rfl | rfl
  · refine barred_code ?_
    unfold ShadowStatement.code variableCode ShadowValue.code had
    simp [hhad, hname]
  · refine barred_code ?_
    unfold ShadowStatement.code variableCode ShadowValue.code saved
    simp [variableCode, hsaved, hname]
  · refine barred_code ?_
    unfold ShadowStatement.code variableCode ShadowValue.code argument
    simp [variableCode, hargument, hname]

/-- The number of calls in the data that a call passes. -/
def dataCalls (pairs : List (Text × Text)) : Nat := (pairs.map (callCount ·.2)).sum

/-- The statements in front of a fragment hold the calls of the data. -/
theorem counts_enter (depth : Nat) (pairs : List (Text × Text)) :
    ∃ n ≤ dataCalls pairs, Counts (statementsCode (Shadow.of depth pairs).enter) n := by
  let n : ShadowStatement → Nat
    | .assign _ (.expression code) => callCount code
    | _ => 0
  have hall : ∀ s ∈ (Shadow.of depth pairs).enter, Counts s.code (n s) := by
    intro s hs
    rcases List.mem_append.1 hs with hs | hs
    · obtain ⟨entry, hentry, rfl⟩ := List.mem_map.1 hs
      exact counts_compute _ (List.mem_filter.1 hentry).2
    · obtain ⟨name, hname, hs⟩ := List.mem_flatMap.1 hs
      have hbarred := barred_take _ (isIdentifier_of_mem_names hname) hs
      have hzero : n s = 0 := by
        rw [take, List.mem_cons, List.mem_cons, List.mem_singleton] at hs
        rcases hs with rfl | rfl | rfl <;> rfl
      rwa [hzero]
  have hsum : ((Shadow.of depth pairs).enter.map n).sum =
      (((pairs.filter (isIdentifier ·.1))).map (callCount ·.2)).sum := by
    have htake : (((Shadow.of depth pairs).names.flatMap (Shadow.of depth pairs).take).map n).sum =
        0 := by
      induction (Shadow.of depth pairs).names with
      | nil => rfl
      | cons name names ih => rw [List.flatMap_cons, List.map_append, List.sum_append, ih]; rfl
    rw [enter, List.map_append, List.sum_append, htake, Nat.add_zero, List.map_map]
    rfl
  refine ⟨_, ?_, counts_statementsCode hall⟩
  rw [hsum]
  exact (List.filter_sublist.map _).sum_le_sum fun _ _ => Nat.zero_le _

/-- No call starts in the statements behind a fragment. -/
theorem barred_leave (depth : Nat) (pairs : List (Text × Text)) :
    Barred (statementsCode (Shadow.of depth pairs).leave) := by
  have hall : ∀ s ∈ (Shadow.of depth pairs).leave, Barred s.code := by
    intro s hs
    obtain ⟨name, hname, hs⟩ := List.mem_flatMap.1 hs
    have hident := isIdentifier_of_mem_names (List.mem_reverse.1 hname)
    exact barred_code
      (not_mem_of_all_isStatementChar (all_isStatementChar_giveBack _ hident hs) (by decide))
  have hcounts := counts_statementsCode (n := fun _ => 0) hall
  have hzero : ((Shadow.of depth pairs).leave.map fun _ => 0).sum = 0 := by
    rw [List.map_const', List.sum_replicate_nat, Nat.mul_zero]
  rwa [hzero] at hcounts

end Shadow

/-! ## Around a fragment -/

namespace Expander

/-- No call starts behind the statements in front of a fragment that holds none. -/
theorem barred_behind {fragment leave : Text} {parent : Marker} (hfragment : CallFree fragment)
    (hparent : Barred parent.encode) (hleave : Barred leave) :
    Barred ('\n' :: fragment ++ '\n' :: parent.encode ++ "<?php ".toList ++ leave) := by
  have hopen : Barred ['\n'] := barred_of_not_mem (by decide)
  have hphp : Barred "<?php ".toList := barred_of_not_mem (by decide)
  have hend : Barred ('\n' :: parent.encode ++ "<?php ".toList ++ leave) :=
    ((barred_cons (by decide) hparent).append hphp).append hleave
  intro a v
  -- a line feed is in front of the fragment, and the line behind it starts with a slash
  have hinner : starts (a ++ ['\n']) fragment
      ('\n' :: parent.encode ++ "<?php ".toList ++ leave ++ v) = 0 := by
    have hslash : '\n' :: parent.encode ++ "<?php ".toList ++ leave ++ v =
        ['\n'] ++ '/' :: (parent.encode.tail ++ "<?php ".toList ++ leave ++ v) := by
      conv => lhs; rw [parent.encode_eq_cons]
      simp
    have hword : WordStart [] := rfl
    rw [hslash, starts_seal _ _ (by decide) (by decide)]
    have hle := starts_le_of_wordStart (a := a ++ ['\n']) (fun _ => hword) fragment []
    rw [show starts [] fragment [] = 0 from callFree_iff.1 hfragment] at hle
    exact Nat.le_zero.1 hle
  have hcut : '\n' :: fragment ++ '\n' :: parent.encode ++ "<?php ".toList ++ leave =
      ['\n'] ++ (fragment ++ ('\n' :: parent.encode ++ "<?php ".toList ++ leave)) := by
    simp
  rw [hcut, starts_append, starts_append, hopen, hend, hinner]

/-- What replaces a call, as the statements in front of the fragment and what is behind them. -/
theorem enclosed_eq (enter fragment : Text) (parent : Marker) (leave : Text) :
    enclosed enter fragment parent leave = (enter ++ " ?>".toList) ++
      ('\n' :: fragment ++ '\n' :: parent.encode ++ "<?php ".toList ++ leave) := by
  rw [enclosed, show " ?>\n".toList = " ?>".toList ++ ['\n'] by decide]
  simp

/-- The calls in what replaces a call are those of its data. -/
theorem counts_spliced (depth : Nat) (pairs : List (Text × Text)) {fragment : Text}
    {parent : Marker} (hfragment : CallFree fragment) (hparent : Barred parent.encode) :
    ∃ n ≤ Shadow.dataCalls pairs, Counts (spliced (.of depth pairs) fragment parent) n := by
  obtain ⟨n, hn, henter⟩ := Shadow.counts_enter depth pairs
  have hclose : Barred " ?>".toList := barred_of_not_mem (by decide)
  have hbehind := barred_behind hfragment hparent (Shadow.barred_leave depth pairs)
  have hcounts := (henter.append hclose).append hbehind
  refine ⟨n, hn, ?_⟩
  rw [spliced, enclosed_eq]
  exact hcounts

/-- The statements in front of a fragment start with a helper variable, if there are any. -/
theorem enter_cases (depth : Nat) (pairs : List (Text × Text)) :
    statementsCode (Shadow.of depth pairs).enter = [] ∨
      ∃ z, statementsCode (Shadow.of depth pairs).enter = "$__l".toList ++ z := by
  rw [Shadow.enter]
  cases hentries : (Shadow.of depth pairs).entries with
  | nil =>
    rw [Shadow.names, hentries]
    exact .inl rfl
  | cons entry entries =>
    refine .inr ?_
    rw [List.map_cons, List.cons_append]
    cases entries.map (Shadow.of depth pairs).compute ++
        (Shadow.of depth pairs).names.flatMap (Shadow.of depth pairs).take with
    | nil => exact ⟨_, rfl⟩
    | cons s statements => exact ⟨_, rfl⟩

/-- No call runs over the start of what replaces a call. -/
theorem starts_spliced_seal (a u : Text) (depth : Nat) (pairs : List (Text × Text))
    (fragment : Text) (parent : Marker) (v : Text) :
    starts a u (spliced (.of depth pairs) fragment parent ++ v) = starts a u [] := by
  rw [spliced, enclosed]
  rcases enter_cases depth pairs with henter | ⟨z, henter⟩
  · rw [henter, show " ?>\n".toList = " ".toList ++ "?>\n".toList by decide]
    simp only [List.nil_append, List.append_assoc]
    exact starts_seal a u (c := '?') (by decide) (by decide)
  · rw [henter, show "$__l".toList = "$__".toList ++ ['l'] by decide]
    simp only [List.append_assoc]
    exact starts_seal a u (c := 'l') (by decide) (by decide)

end Expander

end TemplateTrace
