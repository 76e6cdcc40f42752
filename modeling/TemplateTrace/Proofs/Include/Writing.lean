import Mathlib.Data.List.TakeWhile
import TemplateTrace.Proofs.Marker.Tags

/-!
# Include calls as they are written

The shape of an include call, from the writer's side: a name, data in an array literal, the caller's
locals less an exclusion list, any blanks between these, and one more comma wherever a list ends.
Whatever the names, keys and expressions hold, the call reads back as what was written, and it ends
where it was ended; but the arguments as written must hold nothing of a marker's shape, because that
is taken out before they are read.

- `Written.Blanks`, `Written.Spaced`, `Written.Listing`: blanks and lists.
- `Written.Expression`, `Written.Entry`, `Written.ArrayLiteral`, `Written.Locals`: the arguments.
- `Written.Call`: a call, with its text and with what it renders and passes.
- `Written.Call.ofArguments_arguments`: the arguments read back.
- `IncludeSite.starts_eq_zero_of_callFree`: no call starts in front of a call and runs into it.
- `IncludeSite.find_written`: a call is found where it stands.
- `IncludeSite.exists_unread_name`: escaping can give a name the shape of a marker.
-/

namespace TemplateTrace

open IncludeSite

namespace Written

/-! ## Blanks and lists -/

/-- Blanks of host code: spaces, tabs, line feeds and carriage returns. -/
structure Blanks where
  text : Text
  blank : text.all Text.isAsciiBlank = true

namespace Blanks

theorem isAsciiBlank (b : Blanks) : ∀ c ∈ b.text, Text.isAsciiBlank c = true :=
  List.all_eq_true.1 b.blank

theorem isBlank (b : Blanks) : ∀ c ∈ b.text, Text.isBlank c = true :=
  fun c hc => Text.isBlank_of_isAsciiBlank (b.isAsciiBlank c hc)

theorem skip_append (b : Blanks) {c : Char} (hc : Text.isAsciiBlank c = false) (s : Text) :
    Code.skipBlanks (b.text ++ c :: s) = c :: s := by
  show List.dropWhile _ _ = _
  rw [List.dropWhile_append_of_pos b.isAsciiBlank]
  exact List.dropWhile_cons_of_neg (by simp [hc])

theorem stripStart_append (b : Blanks) {c : Char} (hc : Text.isBlank c = false) (s : Text) :
    Text.stripStart (b.text ++ c :: s) = c :: s :=
  Text.stripStart_append_cons b.isBlank hc s

theorem balanced (b : Blanks) : Code.Balanced .item b.text := by
  refine Code.Balanced.of_any (List.any_eq_false.2 fun c hc => ?_)
  have hany : [' ', '\t', '\n', '\r'].any Code.Extent.item.stops = false := by decide
  refine List.any_eq_false.1 hany c ?_
  have hblank := b.isAsciiBlank c hc
  simp only [Text.isAsciiBlank, Bool.or_eq_true, beq_iff_eq] at hblank
  simpa [or_assoc] using hblank

end Blanks

/-- Something written with blanks on both sides. -/
structure Spaced (α : Type) where
  before : Blanks
  item : α
  behind : Blanks

namespace Spaced

variable {α : Type} {write : α → Text}

def text (write : α → Text) (s : Spaced α) : Text :=
  s.before.text ++ (write s.item ++ s.behind.text)

theorem strip_text (s : Spaced α) (h : Text.strip (write s.item) = write s.item) :
    Text.strip (s.text write) = write s.item := by
  rw [text, Text.strip_append_blanks s.before.isBlank s.behind.isBlank, h]

theorem balanced (s : Spaced α) (h : Code.Balanced .item (write s.item)) :
    Code.Balanced .item (s.text write) :=
  s.before.balanced.append (h.append s.behind.balanced)

end Spaced

/-- A list written with commas between its items. Behind the last item one more comma may stand, and
an empty list may hold blanks. -/
structure Listing (α : Type) where
  items : List (Spaced α)
  ending : Option Blanks := none

namespace Listing

variable {α β : Type} {write : α → Text}

/-- What stands between the commas. -/
def pieces (write : α → Text) (l : Listing α) : List Text :=
  l.items.map (·.text write) ++ l.ending.toList.map (·.text)

def text (write : α → Text) (l : Listing α) : Text := Text.joinWith [','] (l.pieces write)

/-- What was written, in order. -/
def values (l : Listing α) : List α := l.items.map (·.item)

theorem balanced_of_mem_pieces (l : Listing α) (h : ∀ a, Code.Balanced .item (write a)) {s : Text}
    (hs : s ∈ l.pieces write) : Code.Balanced .item s := by
  rcases List.mem_append.1 hs with hs | hs
  · obtain ⟨a, -, rfl⟩ := List.mem_map.1 hs
    exact a.balanced (h a.item)
  · obtain ⟨b, -, rfl⟩ := List.mem_map.1 hs
    exact b.balanced

theorem balanced (l : Listing α) (h : ∀ a, Code.Balanced .item (write a)) :
    Code.Balanced .group (l.text write) :=
  Code.balanced_joinWith fun _ hs => l.balanced_of_mem_pieces h hs

/-- The pieces of a list that are not blank are its items. -/
theorem exists_items? (l : Listing α) (h : ∀ a, Code.Balanced .item (write a))
    (hitem : ∀ a, ∃ c ∈ write a, Text.isBlank c = false) :
    ∃ pieces, Code.items? (l.text write) = some pieces ∧
      pieces.filter (Text.strip · ≠ []) = l.items.map (·.text write) := by
  have hkept : ∀ s ∈ l.items.map (·.text write), Text.strip s ≠ [] := by
    intro s hs
    obtain ⟨a, -, rfl⟩ := List.mem_map.1 hs
    obtain ⟨c, hc, hblank⟩ := hitem a.item
    exact Text.strip_ne_nil (List.mem_append_right _ (List.mem_append_left _ hc)) hblank
  have hended : ∀ s ∈ l.ending.toList.map (·.text), Text.strip s = [] := by
    intro s hs
    obtain ⟨b, -, rfl⟩ := List.mem_map.1 hs
    exact Text.strip_eq_nil b.isBlank
  by_cases hne : l.pieces write = []
  · refine ⟨[[]], ?_, ?_⟩
    · rw [text, hne]
      exact Code.items?_of_balanced .nil
    · rw [(List.append_eq_nil_iff.1 hne).1]
      decide
  · refine ⟨l.pieces write, Code.items?_joinWith hne fun _ hs => l.balanced_of_mem_pieces h hs, ?_⟩
    rw [pieces, List.filter_append, List.filter_eq_self.2 (by simpa using hkept),
      List.filter_eq_nil_iff.2 (by simpa using hended), List.append_nil]

end Listing

/-! ## Names -/

theorem strip_quoteSingle (s : Text) : Text.strip (Code.quoteSingle s) = Code.quoteSingle s := by
  have hquote : Text.isBlank '\'' = false := by decide
  exact Text.strip_enclosed hquote hquote _

theorem string?_quoteSingle (s : Text) : Code.string? (Code.quoteSingle s) = some s := by
  have hstart : Code.skipBlanks (Code.quoteSingle s) = Code.quoteSingle s :=
    List.dropWhile_cons_of_neg (by decide)
  have hread := Code.stringAt?_quoteSingle s []
  rw [List.append_nil] at hread
  rw [Code.string?, hstart, hread]
  rfl

/-! ## Arguments -/

/-- A value expression on one line, whose brackets and quotes balance and which no comma ends. -/
structure Expression where
  text : Text
  ne_nil : text ≠ []
  oneLine : '\n' ∉ text
  trimmed : Text.strip text = text
  balanced : Code.Balanced .item text

/-- A key and its value expression. -/
structure Entry where
  key : Text
  beforeArrow : Blanks
  behindArrow : Blanks
  value : Expression

namespace Entry

def text (e : Entry) : Text :=
  Code.quoteSingle e.key ++
    (e.beforeArrow.text ++ ("=>".toList ++ (e.behindArrow.text ++ e.value.text)))

theorem balanced (e : Entry) : Code.Balanced .item e.text := by
  have harrow : Code.Balanced .item "=>".toList := Code.Balanced.of_any (by decide)
  exact (Code.balanced_quoteSingle _ _).append (e.beforeArrow.balanced.append
    (harrow.append (e.behindArrow.balanced.append e.value.balanced)))

end Entry

/-- An array literal, with brackets or with the word `array`. -/
structure ArrayLiteral (α : Type) where
  short : Bool
  listing : Listing α

namespace ArrayLiteral

variable {α : Type} {write : α → Text}

def text (write : α → Text) (a : ArrayLiteral α) : Text :=
  if a.short then '[' :: (a.listing.text write ++ [']'])
  else "array(".toList ++ (a.listing.text write ++ [')'])

theorem text_cases (write : α → Text) (a : ArrayLiteral α) :
    a.text write = '[' :: (a.listing.text write ++ [']']) ∨
      a.text write = "array(".toList ++ (a.listing.text write ++ [')']) := by
  unfold text
  split
  · exact .inl rfl
  · exact .inr rfl

theorem balanced (a : ArrayLiteral α) (h : ∀ x, Code.Balanced .item (write x)) :
    Code.Balanced .item (a.text write) := by
  have hinner := a.listing.balanced h
  rcases a.text_cases write with heq | heq
  · rw [heq]
    exact .group rfl hinner .nil
  · have hword : Code.Balanced .item "array".toList := Code.Balanced.of_any (by decide)
    rw [heq, show "array(".toList ++ (a.listing.text write ++ [')']) =
      "array".toList ++ '(' :: (a.listing.text write ++ [')']) by simp]
    exact hword.append (.group rfl hinner .nil)

/-- An array literal starts with one of two characters and ends in one of two others. -/
theorem exists_ends (write : α → Text) (a : ArrayLiteral α) :
    ∃ c m d, a.text write = c :: (m ++ [d]) ∧ (c = '[' ∨ c = 'a') ∧ (d = ']' ∨ d = ')') := by
  rcases a.text_cases write with heq | heq
  · exact ⟨'[', _, ']', heq, .inl rfl, .inl rfl⟩
  · exact ⟨'a', "rray(".toList ++ a.listing.text write, ')', by rw [heq]; simp, .inr rfl, .inr rfl⟩

theorem strip_text (write : α → Text) (a : ArrayLiteral α) :
    Text.strip (a.text write) = a.text write := by
  obtain ⟨c, m, d, heq, hc, hd⟩ := a.exists_ends write
  have hfirst : Text.isBlank c = false := by
    rcases hc with rfl | rfl <;> decide
  have hlast : Text.isBlank d = false := by
    rcases hd with rfl | rfl <;> decide
  rw [heq]
  exact Text.strip_enclosed hfirst hlast m

/-- An array literal is read as its inside. -/
theorem array?_text (a : ArrayLiteral α) (h : ∀ x, Code.Balanced .item (write x)) (b b' : Blanks) :
    Code.array? (b.text ++ (a.text write ++ b'.text)) = some (a.listing.text write) := by
  have hinner := a.listing.balanced h
  have hblank : Code.skipBlanks b'.text = [] := List.dropWhile_eq_nil_iff.2 b'.isAsciiBlank
  have hat : Code.arrayAt? (Code.skipBlanks (b.text ++ (a.text write ++ b'.text))) =
      some (a.listing.text write, b'.text) := by
    rcases a.text_cases write with heq | heq
    · rw [heq, List.cons_append, b.skip_append (by decide), List.append_assoc]
      exact Code.enclosed?_iff.2 ⟨']', rfl, rfl, hinner⟩
    · have htext : "array(".toList ++ (a.listing.text write ++ [')']) ++ b'.text =
          'a' :: 'r' :: 'r' :: 'a' :: 'y' :: '(' :: (a.listing.text write ++ ')' :: b'.text) := by
        simp
      have hopen : ∀ s, Code.skipBlanks ('(' :: s) = '(' :: s := fun s =>
        List.dropWhile_cons_of_neg (by decide)
      have hword : Code.afterArrayWord? ('a' :: 'r' :: 'r' :: 'a' :: 'y' :: '(' ::
          (a.listing.text write ++ ')' :: b'.text)) =
            some ('(' :: (a.listing.text write ++ ')' :: b'.text)) := if_pos rfl
      rw [heq, htext, b.skip_append (by decide), Code.arrayAt?, hword]
      · rw [Option.bind_eq_bind, Option.bind_some, hopen]
        exact Code.enclosed?_iff.2 ⟨')', rfl, rfl, hinner⟩
      · exact fun _ h => absurd (List.cons.inj h).1 (by decide)
  rw [Code.array?, hat]
  exact if_pos hblank

end ArrayLiteral

/-- The caller's locals less an exclusion list; the name of the function may be rooted. -/
structure Locals where
  rooted : Bool
  behindOpen : Blanks
  beforeComma : Blanks
  names : Spaced (ArrayLiteral Text)

namespace Locals

/-- The exclusion list, with the blanks around it. -/
def list (l : Locals) : Text := l.names.text (·.text Code.quoteSingle)

def text (l : Locals) : Text :=
  (if l.rooted then ['\\'] else []) ++ ("Illuminate\\Support\\Arr::except(".toList ++
    (l.behindOpen.text ++ ("get_defined_vars()".toList ++ (l.beforeComma.text ++
      ',' :: (l.list ++ [')'])))))

/-- The caller's locals are a balanced item, with an exclusion list or without. -/
theorem balanced (l : Locals) : Code.Balanced .item l.text := by
  have hplain : Code.Balanced .item ((if l.rooted then ['\\'] else []) ++
      "Illuminate\\Support\\Arr::except".toList) := by
    refine Code.Balanced.of_any ?_
    cases l.rooted <;> decide
  have hvars : Code.Balanced .group "get_defined_vars()".toList :=
    .append (s := "get_defined_vars".toList) (.of_any (by decide)) (.group rfl .nil .nil)
  have hlist : Code.Balanced .group l.list :=
    (l.names.balanced (l.names.item.balanced (Code.balanced_quoteSingle _))).inGroup
  have hinner : Code.Balanced .group (l.behindOpen.text ++ ("get_defined_vars()".toList ++
      (l.beforeComma.text ++ ',' :: l.list))) :=
    l.behindOpen.balanced.inGroup.append (hvars.append
      (l.beforeComma.balanced.inGroup.append (.plain (by decide) hlist)))
  have htext : l.text = (if l.rooted then ['\\'] else []) ++
      "Illuminate\\Support\\Arr::except".toList ++ '(' :: (l.behindOpen.text ++
        ("get_defined_vars()".toList ++ (l.beforeComma.text ++ ',' :: l.list)) ++ [')']) := by
    simp [text]
  rw [htext]
  exact hplain.append (.group rfl hinner .nil)

/-- The caller's locals have no blanks around them. -/
theorem strip_text (l : Locals) : Text.strip l.text = l.text := by
  have hlast : l.text.getLast? = some ')' := by
    rw [text]
    simp only [← List.append_assoc, ← List.cons_append]
    exact List.getLast?_concat
  refine Text.strip_of_ends (fun c hc => ?_) fun c hc => ?_
  · unfold text at hc
    cases hr : l.rooted with
    | true =>
      obtain rfl : '\\' = c := by simpa [hr] using hc
      decide
    | false =>
      obtain rfl : 'I' = c := by simpa [hr] using hc
      decide
  · rw [hlast] at hc
    obtain rfl := Option.some.inj hc
    decide

/-- The locals are read as their exclusion list. -/
theorem localsList?_text (l : Locals) : IncludeCall.localsList? l.text = some l.list := by
  -- a leading backslash is dropped
  have hroot : (Text.after? ['\\'] l.text).getD l.text =
      "Illuminate\\Support\\Arr::except(".toList ++ (l.behindOpen.text ++
        ("get_defined_vars()".toList ++ (l.beforeComma.text ++ ',' :: (l.list ++ [')'])))) := by
    unfold text
    cases l.rooted with
    | true => rfl
    | false => rfl
  -- how the words and blanks of a head are read off what is written
  have hword : ∀ (w r : Text) (ps : Code.Head),
      Code.Head.rest? (.word w :: ps) (w ++ r) = Code.Head.rest? ps r := by
    intro w r ps
    show (Text.after? w (w ++ r)).bind _ = _
    rw [Text.after?_eq_some_iff.2 rfl]
    rfl
  have hblanks : ∀ (b : Blanks) (c : Char) (r : Text) (ps : Code.Head), Text.isBlank c = false →
      Code.Head.rest? (.blanks :: ps) (b.text ++ c :: r) = Code.Head.rest? ps (c :: r) := by
    intro b c r ps hc
    show Code.Head.rest? ps (Text.stripStart (b.text ++ c :: r)) = _
    rw [b.stripStart_append hc]
  have hnone : ∀ (c : Char) (r : Text) (ps : Code.Head), Text.isBlank c = false →
      Code.Head.rest? (.blanks :: ps) (c :: r) = Code.Head.rest? ps (c :: r) :=
    fun c r ps hc => hblanks ⟨[], rfl⟩ c r ps hc
  have hsign : ∀ (c : Char) (r : Text) (ps : Code.Head),
      Code.Head.rest? (.word [c] :: ps) (c :: r) = Code.Head.rest? ps r :=
    fun c r ps => hword [c] r ps
  have hexcept : "Illuminate\\Support\\Arr::except(".toList =
      "Illuminate\\Support\\Arr::except".toList ++ ['('] := by decide
  have hvars : "get_defined_vars()".toList = "get_defined_vars".toList ++ ['(', ')'] := by decide
  have hopen : "(".toList = ['('] := by decide
  have hclose : ")".toList = [')'] := by decide
  have hcomma : ",".toList = [','] := by decide
  have hget : ∀ r : Text, "get_defined_vars".toList ++ r = 'g' :: ("et_defined_vars".toList ++ r) :=
    fun r => rfl
  -- read word by word, up to the list and its closing bracket
  rw [IncludeCall.localsList?, hroot, hexcept, hvars, hopen, hclose, hcomma]
  simp only [List.append_assoc, List.cons_append, List.nil_append]
  rw [hword, hnone '(' _ _ (by decide), hsign, hget, hblanks l.behindOpen 'g' _ _ (by decide),
    ← hget, hword, hnone '(' _ _ (by decide), hsign, hnone ')' _ _ (by decide), hsign,
    hblanks l.beforeComma ',' _ _ (by decide), hsign]
  show (if (l.list ++ [')']).getLast? = some ')' then some (l.list ++ [')']).dropLast else none) = _
  rw [List.getLast?_concat, if_pos rfl, List.dropLast_concat]

/-- The exclusion list reads back. -/
theorem readExclusions_list (l : Locals) :
    IncludeCall.readExclusions l.list = .ok l.names.item.listing.values := by
  have hbalanced : ∀ name, Code.Balanced .item (Code.quoteSingle name) :=
    Code.balanced_quoteSingle _
  obtain ⟨pieces, hpieces, hfilter⟩ := l.names.item.listing.exists_items? hbalanced
    fun name => ⟨'\'', List.mem_cons_self, by decide⟩
  have hnames : ((pieces.map Text.strip).filter (· ≠ [])) =
      l.names.item.listing.items.map fun a => Code.quoteSingle a.item := by
    rw [List.filter_map]
    show (pieces.filter (Text.strip · ≠ [])).map Text.strip = _
    rw [hfilter, List.map_map]
    exact List.map_congr_left fun a _ => a.strip_text (strip_quoteSingle a.item)
  have hread : ∀ a ∈ l.names.item.listing.items,
      IncludeCall.readExclusion (Code.quoteSingle a.item) = .ok a.item := by
    intro a _
    rw [IncludeCall.readExclusion, string?_quoteSingle]
  rw [IncludeCall.readExclusions, list, Spaced.text,
    l.names.item.array?_text hbalanced l.names.before l.names.behind]
  dsimp only
  rw [hpieces]
  show ((pieces.map Text.strip).filter (· ≠ [])).mapM _ = _
  rw [hnames]
  exact Except.mapM_map_eq_ok l.names.item.listing.items hread

end Locals

/-! ## Data -/

/-- A trimmed expression on one line is passed as it is written. -/
theorem Expression.singleLine_text (e : Expression) : IncludeCall.singleLine e.text = e.text := by
  have hlines : Text.endedLines e.text = [e.text] := by
    rw [Text.endedLines, Text.lines, Text.splitOn_of_not_mem e.oneLine]
    exact if_neg e.ne_nil
  rw [IncludeCall.singleLine, e.trimmed, hlines, List.map_singleton, e.trimmed]
  rfl

/-- An entry reads back, with blanks around it. -/
theorem readEntry_text (e : Spaced Entry) :
    IncludeCall.readEntry (e.text Entry.text) = .ok (e.item.key, e.item.value.text) := by
  have hkeyed : Code.keyed? (e.text Entry.text) = some (e.item.key, e.item.value.text) := by
    have hstart : Code.skipBlanks (e.text Entry.text) = Code.quoteSingle e.item.key ++
        (e.item.beforeArrow.text ++ '=' :: '>' :: (e.item.behindArrow.text ++
          (e.item.value.text ++ e.behind.text))) := by
      rw [Spaced.text, Entry.text, Code.quoteSingle, List.cons_append, List.cons_append,
        List.cons_append, e.before.skip_append (by decide)]
      simp
    have harrow := e.item.beforeArrow.skip_append (c := '=') (by decide)
      ('>' :: (e.item.behindArrow.text ++ (e.item.value.text ++ e.behind.text)))
    have hvalue := Text.strip_append_blanks e.item.behindArrow.isBlank e.behind.isBlank
      e.item.value.text
    rw [e.item.value.trimmed] at hvalue
    rw [Code.keyed?, hstart, Code.stringAt?_quoteSingle]
    show (Text.after? "=>".toList (Code.skipBlanks _)).bind _ = _
    rw [harrow]
    exact congrArg (fun v => some (e.item.key, v)) hvalue
  rw [IncludeCall.readEntry, hkeyed]
  exact congrArg (fun v => Except.ok (e.item.key, v)) e.item.value.singleLine_text

/-- The data of a call: each key with its value expression. -/
def entries (a : ArrayLiteral Entry) : List (Text × Text) :=
  a.listing.values.map fun e => (e.key, e.value.text)

/-- The entries of an array literal are read back from its text. -/
theorem readData_text (a : ArrayLiteral Entry) :
    IncludeCall.readData (a.text Entry.text) = .ok (.pairs (entries a)) := by
  obtain ⟨pieces, hpieces, hfilter⟩ := a.listing.exists_items? Entry.balanced
    fun e => ⟨'\'', List.mem_cons_self, by decide⟩
  have hinner : Code.array? (a.text Entry.text) = some (a.listing.text Entry.text) := by
    have hread := a.array?_text Entry.balanced ⟨[], rfl⟩ ⟨[], rfl⟩
    rwa [List.nil_append, List.append_nil] at hread
  have hread : (a.listing.items.map (·.text Entry.text)).mapM IncludeCall.readEntry =
      .ok (entries a) := by
    rw [entries, Listing.values, List.map_map]
    exact Except.mapM_map_eq_ok a.listing.items fun e _ => readEntry_text e
  rw [IncludeCall.readData, hinner]
  dsimp only
  rw [hpieces]
  show ((pieces.filter (Text.strip · ≠ [])).mapM IncludeCall.readEntry >>= _) = _
  rw [hfilter, hread]
  rfl

theorem localsList?_array {α : Type} (write : α → Text) (a : ArrayLiteral α) :
    IncludeCall.localsList? (a.text write) = none := by
  rcases a.text_cases write with heq | heq <;> rw [heq] <;> rfl

/-! ## Calls -/

/-- A call: the name of the template, and the data and the caller's locals where they are passed. -/
structure Call where
  name : Spaced Text
  data : Option (Spaced (ArrayLiteral Entry))
  locals : Option (Spaced Locals)
  /-- The blanks behind one more comma. -/
  ending : Option Blanks

namespace Call

/-- The arguments, each with the blanks around it. -/
def pieces (w : Call) : List Text :=
  w.name.text Code.quoteSingle ::
    (w.data.toList.map (·.text (·.text Entry.text)) ++ w.locals.toList.map (·.text Locals.text))

/-- What stands between the brackets. -/
def arguments (w : Call) : Text := Text.joinWith [','] (w.pieces ++ w.ending.toList.map (·.text))

def text (w : Call) : Text :=
  "echo $__env->make(".toList ++ (w.arguments ++ ")->render();".toList)

/-- What the call renders and passes. -/
def call (w : Call) : IncludeCall where
  target := .literal w.name.item
  data := w.data.map (.pairs <| entries ·.item)
  excluded := w.locals.map (·.item.names.item.listing.values)

/-- The pieces of a call are balanced items. -/
theorem balanced_of_mem (w : Call) {s : Text} (hs : s ∈ w.pieces ++ w.ending.toList.map (·.text)) :
    Code.Balanced .item s := by
  rw [pieces, List.cons_append, List.mem_cons, List.mem_append, List.mem_append] at hs
  rcases hs with rfl | (hs | hs) | hs
  · exact w.name.balanced (Code.balanced_quoteSingle _ _)
  · obtain ⟨d, -, rfl⟩ := List.mem_map.1 hs
    exact d.balanced (d.item.balanced Entry.balanced)
  · obtain ⟨l, -, rfl⟩ := List.mem_map.1 hs
    exact l.balanced l.item.balanced
  · obtain ⟨b, -, rfl⟩ := List.mem_map.1 hs
    exact b.balanced

/-- The arguments without the blanks around them. -/
def trimmed (w : Call) : List Text :=
  Code.quoteSingle w.name.item ::
    (w.data.toList.map (·.item.text Entry.text) ++ w.locals.toList.map (·.item.text))

theorem map_strip_pieces (w : Call) : w.pieces.map Text.strip = w.trimmed := by
  rw [pieces, trimmed, List.map_cons, List.map_append, List.map_map, List.map_map,
    w.name.strip_text (strip_quoteSingle _)]
  congr 2
  · exact List.map_congr_left fun d _ => d.strip_text (d.item.strip_text Entry.text)
  · exact List.map_congr_left fun l _ => l.strip_text l.item.strip_text

/-- No piece of a call is blank. -/
theorem nil_not_mem_trimmed (w : Call) : [] ∉ w.trimmed := by
  intro h
  rw [trimmed, List.mem_cons, List.mem_append] at h
  rcases h with h | h | h
  · cases h
  · obtain ⟨d, -, hd⟩ := List.mem_map.1 h
    obtain ⟨c, m, e, heq, -⟩ := d.item.exists_ends Entry.text
    rw [heq] at hd
    cases hd
  · obtain ⟨l, -, hl⟩ := List.mem_map.1 h
    have hmem : '(' ∈ l.item.text := by simp [Locals.text]
    rw [hl] at hmem
    cases hmem

/-- What is read as the arguments: the comma behind the last one is dropped. -/
theorem exists_items? (w : Call) : ∃ items, Code.items? w.arguments = some items ∧
    (if (items.map Text.strip).getLast? = some [] then (items.map Text.strip).dropLast
      else items.map Text.strip) = w.trimmed := by
  refine ⟨_, Code.items?_joinWith (List.cons_ne_nil _ _) fun _ => w.balanced_of_mem, ?_⟩
  rw [List.map_append, map_strip_pieces]
  cases w.ending with
  | none =>
    have hlast : w.trimmed.getLast? ≠ some [] := fun h =>
      w.nil_not_mem_trimmed (List.mem_of_getLast? h)
    rw [Option.toList_none, List.map_nil, List.map_nil, List.append_nil, if_neg hlast]
  | some b =>
    rw [Option.toList_some, List.map_singleton, List.map_singleton, Text.strip_eq_nil b.isBlank,
      List.getLast?_concat, if_pos rfl, List.dropLast_concat]

/-- The arguments read back. -/
theorem ofArguments_arguments (w : Call) : IncludeCall.ofArguments w.arguments = .ok w.call := by
  obtain ⟨items, hitems, htrimmed⟩ := w.exists_items?
  have hfilled : w.trimmed.any (·.isEmpty) = false := by
    rw [List.any_eq_false]
    intro s hs hnil
    exact w.nil_not_mem_trimmed (List.isEmpty_iff.1 hnil ▸ hs)
  have htarget : IncludeTarget.classify (Code.quoteSingle w.name.item) = .literal w.name.item := by
    rw [IncludeTarget.classify, string?_quoteSingle]
  have hdata : ∀ d : Spaced (ArrayLiteral Entry),
      IncludeCall.readData (d.item.text Entry.text) = .ok (.pairs (entries d.item)) :=
    fun d => readData_text d.item
  have hlocals := Locals.localsList?_text
  have hnames := Locals.readExclusions_list
  rw [IncludeCall.ofArguments, hitems]
  dsimp only
  rw [htrimmed, hfilled, if_neg Bool.false_ne_true, trimmed, call]
  -- by which of the two lists are given
  cases w.data with
  | none =>
    cases w.locals with
    | none =>
      show Except.ok (IncludeCall.mk (.classify _) none none) = _
      rw [htarget]
      rfl
    | some l =>
      simp only [Option.toList_none, Option.toList_some, List.map_nil, List.map_cons,
        List.nil_append, hlocals, hnames, htarget]
      rfl
  | some d =>
    cases w.locals with
    | none =>
      simp only [Option.toList_none, Option.toList_some, List.map_nil, List.map_cons,
        List.append_nil, localsList?_array, hdata, htarget]
      rfl
    | some l =>
      simp only [Option.toList_some, List.map_nil, List.map_cons, List.cons_append,
        List.nil_append, localsList?_array, hdata, hlocals, hnames, htarget]
      rfl

end Call

end Written

/-! ## Calls in a text -/

namespace IncludeSite

/-- No call starts in a text without calls and runs on into the word with which calls start. -/
theorem starts_eq_zero_of_callFree {u : Text} (hfree : CallFree u) (hword : WordStart u)
    (t : Text) : starts [] u ("echo".toList ++ t) = 0 := by
  refine starts_eq_zero_iff.2 fun u₁ u₂ hu hne hstarts => ?_
  obtain ⟨hword₁, hrest⟩ := startsAt_iff.1 hstarts
  obtain ⟨r, hr⟩ := Option.isSome_iff_exists.1 hrest
  obtain ⟨s, hecho, hbehind⟩ := Option.bind_eq_some_iff.1 hr
  rcases List.append_eq_append_iff.1 (Text.after?_eq_some_iff.1 hecho) with
    ⟨e, he, -⟩ | ⟨u₃, rfl, hs⟩
  · -- the first word of the call ends behind `u`, which then ends inside a word
    have hend : ∀ c, u₂.getLast? = some c → Text.isWord c = true := by
      intro c hc
      have hmem : c ∈ "echo".toList := he ▸ List.mem_append_left e (List.mem_of_getLast? hc)
      have hall : "echo".toList.all Text.isWord = true := by decide
      exact List.all_eq_true.1 hall c hmem
    obtain ⟨w, c, rfl⟩ := List.eq_nil_or_concat u₂ |>.resolve_left hne
    rw [hu, List.concat_eq_append, ← List.append_assoc, wordStart_concat] at hword
    rw [hend c (by simp)] at hword
    cases hword
  · -- the rest of a call's start has no `c` in it, so that it ends in front of the word
    have hs : s = u₃ ++ ['e'] ++ 'c' :: 'h' :: 'o' :: t := hs.trans (by simp)
    have heq : head.tail = head.tail.dropLast ++ [.word "(".toList] := rfl
    have hbehind : Code.Head.rest? (head.tail.dropLast ++ [.word "(".toList]) s = some r := hbehind
    obtain ⟨e, he, ⟨e', hlast⟩, hmatch, htakes⟩ := Code.Head.exists_extent (by decide) hbehind
    rw [hs] at he
    have hinside : ∃ u₄, u₃ = e ++ u₄ := by
      rcases append_cons_eq_append he with ⟨u₄, hu₄, -⟩ | ⟨e'', rfl, -⟩
      · rcases append_cons_eq_append hu₄ with ⟨u₅, hu₅, -⟩ | ⟨e'', rfl, hnil⟩
        · exact ⟨u₅, hu₅⟩
        · obtain ⟨rfl, -⟩ := List.append_eq_nil_iff.1 hnil.symm
          have hchar := (List.append_inj' hlast rfl).2
          exact absurd hchar (by decide)
      · have htake := htakes 'c' (by simp)
        exact absurd htake (by decide)
    obtain ⟨u₄, rfl⟩ := hinside
    refine hfree u₁ _ hu (startsAt_iff.2 ⟨hword₁, ?_⟩)
    show (Code.Head.rest? head.tail (e ++ u₄)).isSome = true
    rw [heq, hmatch]
    rfl

open Written

/-- A call is found where it stands, behind a text without calls and in front of any other. -/
theorem find_written (w : Call) {u : Text} (hfree : CallFree u) (hword : WordStart u)
    (hplain : Unmarked w.arguments) (v : Text) :
    find none (u ++ (w.text ++ v)) =
      .ok (some { before := u, text := w.text, call := w.call, rest := v }) := by
  have hhead : ∀ r : Text, head.rest? ("echo $__env->make(".toList ++ r) = some r := fun r => rfl
  have harguments : Code.Balanced .group w.arguments :=
    Code.balanced_joinWith fun _ => w.balanced_of_mem
  have hhere : find (Text.lastOr none ([] ++ u)) w.text =
      .ok (some { before := [], text := w.text, call := w.call, rest := [] }) := by
    have htail : tail.rest? "->render();".toList = some [] := by decide
    refine find_eq_some_iff.2 ⟨w.arguments ++ ")->render();".toList, w.arguments,
      "->render();".toList, ?_, ?_, htail, ?_, ?_⟩
    · refine Text.search_append (u := []) (fun u₁ u₂ h hne => ?_) ?_
      · exact absurd (List.append_eq_nil_iff.1 h.symm).2 hne
      · exact Code.Head.wordRest?_eq_some_iff.2 ⟨hword, hhead _⟩
    · exact Code.enclosed?_iff.2 ⟨')', rfl, rfl, harguments⟩
    · rw [stripMarkers_of_forall hplain]
      exact w.ofArguments_arguments
    · have hall := Text.upTo_append w.text []
      rw [List.append_nil] at hall
      exact hall.symm
  exact find_append hhere rfl (starts_eq_zero_of_callFree hfree hword _)

/-- A name with both characters that are escaped, a nested array, and a comma behind each list. -/
theorem find_written_item :
    let expression : Expression := ⟨"[$a, 'b']".toList, by decide, by decide, by decide,
      .group rfl (.plain (by decide) (.plain (by decide) (.plain (by decide) (.plain (by decide)
        (.string (.inl rfl) (.plain (by decide) (by decide) .nil) .nil))))) .nil⟩
    let empty : Blanks := ⟨[], by decide⟩
    let blank : Blanks := ⟨[' '], by decide⟩
    let entry : Written.Entry := ⟨"k".toList, blank, blank, expression⟩
    let names : ArrayLiteral Text := ⟨false, ⟨[⟨empty, "x".toList, empty⟩], some blank⟩⟩
    let w : Call := {
      name := ⟨empty, "it's\\here".toList, empty⟩
      data := some ⟨blank, ⟨true, ⟨[⟨empty, entry, empty⟩], some empty⟩⟩, empty⟩
      locals := some ⟨blank, ⟨true, empty, empty, ⟨blank, names, empty⟩⟩, empty⟩
      ending := some blank }
    CallFree "<?php ".toList ∧ WordStart "<?php ".toList ∧ Unmarked w.arguments ∧
      w.text = "echo $__env->make('it\\'s\\\\here', ['k' => [$a, 'b'],],".toList ++
        (" \\Illuminate\\Support\\Arr::except(get_defined_vars(), array('x', )), )".toList ++
          "->render();".toList) ∧
      find none ("<?php ".toList ++ (w.text ++ " ?>".toList)) = .ok (some {
        before := "<?php ".toList, text := w.text, rest := " ?>".toList
        call := ⟨.literal "it's\\here".toList, some (.pairs [("k".toList, "[$a, 'b']".toList)]),
          some ["x".toList]⟩ }) := by
  intro expression empty blank entry names w
  have hfree : CallFree "<?php ".toList := by decide +kernel
  have hword : WordStart "<?php ".toList := by decide
  have hplain : Unmarked w.arguments := by decide +kernel
  exact ⟨hfree, hword, hplain, by decide +kernel, find_written w hfree hword hplain _⟩

/-- Escaping can give a name the shape of a marker, which is then taken out of the call. -/
theorem exists_unread_name :
    ∃ name, Unmarked name ∧
      let empty : Blanks := ⟨[], by decide⟩
      let w : Call := ⟨⟨empty, name, empty⟩, none, none, none⟩
      find none w.text ≠
        .ok (some { before := [], text := w.text, call := w.call, rest := [] }) := by
  refine ⟨"/** template_name=\"a\\\", template_path=\"b\", line=1, stack= */".toList, ?_, ?_⟩
  · decide +kernel
  · decide +kernel

end IncludeSite

end TemplateTrace
