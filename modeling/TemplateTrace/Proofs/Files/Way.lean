import TemplateTrace.Files.Store
import TemplateTrace.Proofs.Text.Lines

/-!
# Ways of paths

What a path leads to is settled by its names alone: they lead through places, from the root or from
the working directory, and a store only says whether the places on the way are directories.

- `Path.through`, `Path.target`, `Path.way`: the places that a path leads through and to.
- `Path.way_parent`: a parent path leads through places of the path.
- `Path.through_append_slashes`: closing slashes add the target to the way at most.
- `Path.under`, `Path.exists_route_under`: paths behind a base path.
-/

namespace TemplateTrace

namespace Path

/-- The place that a name leads to. -/
def enter (place : Place) (name : Text) : Place :=
  if name = [] ∨ name = ['.'] then place
  else if name = ['.', '.'] then place.dropLast
  else place ++ [name]

/-- The places that names lead through, up to the one that they lead to. -/
def throughFrom (place : Place) : List Text → List Place
  | [] => []
  | name :: names => place :: throughFrom (enter place name) names

/-- Where a path starts, and its names from there on. -/
def route (wd : Place) (path : Text) : Place × List Text :=
  match path with
  | '/' :: rest => ([], parts rest)
  | _ => (wd, parts path)

/-- The places that a path leads through. -/
def through (wd : Place) (path : Text) : List Place :=
  throughFrom (route wd path).1 (route wd path).2

/-- The place that a path leads to, if it leads anywhere. -/
def target (wd : Place) (path : Text) : Place := (route wd path).2.foldl enter (route wd path).1

/-- The places on the way of a path, the one that it leads to among them. -/
def way (wd : Place) (path : Text) : List Place := through wd path ++ [target wd path]

variable {wd : Place} {path : Text}

theorem mem_way {q : Place} : q ∈ way wd path ↔ q ∈ through wd path ∨ q = target wd path := by
  rw [way, List.mem_append, List.mem_singleton]

theorem target_mem_way : target wd path ∈ way wd path := mem_way.2 (.inr rfl)

theorem throughFrom_append (place : Place) (a b : List Text) :
    throughFrom place (a ++ b) = throughFrom place a ++ throughFrom (a.foldl enter place) b := by
  induction a generalizing place with
  | nil => rfl
  | cons name a ih => exact congrArg (place :: ·) (ih _)

theorem mem_throughFrom {place : Place} {names : List Text} (h : names ≠ []) :
    place ∈ throughFrom place names := by
  cases names with
  | nil => exact absurd rfl h
  | cons name names => exact List.mem_cons_self

/-- A path that does not start at the root starts where relative paths do. -/
theorem route_of_relative (wd : Place) (h : ∀ rest, path ≠ '/' :: rest) :
    route wd path = (wd, parts path) := by
  unfold route
  split
  · exact absurd rfl (h _)
  · rfl

/-- A path that goes on behind a path has its names behind those of that path. -/
theorem route_append_slash {p : Text} (hp : p ≠ []) (s : Text) :
    route wd (p ++ '/' :: s) = ((route wd p).1, (route wd p).2 ++ parts s) := by
  unfold route
  split
  next rest heq =>
    cases p with
    | nil => exact absurd rfl hp
    | cons c p =>
      obtain ⟨rfl, rfl⟩ := List.cons.inj heq
      exact congrArg _ (Text.splitOn_append_cons '/' p s)
  next hrelative =>
    cases p with
    | nil => exact absurd rfl hp
    | cons c p =>
      split
      next rest heq =>
        obtain ⟨rfl, rfl⟩ := List.cons.inj heq
        exact absurd rfl (hrelative _)
      · exact congrArg _ (Text.splitOn_append_cons '/' (c :: p) s)

theorem way_subset_through {p : Text} (hp : p ≠ []) (s : Text) :
    ∀ q ∈ way wd p, q ∈ through wd (p ++ '/' :: s) := by
  intro q hq
  rw [through, route_append_slash hp, throughFrom_append, List.mem_append]
  rcases mem_way.1 hq with hq | rfl
  · exact .inl hq
  · exact .inr (mem_throughFrom (Text.splitOn_ne_nil _ _))

/-! ### Parents -/

/-- What is taken off behind a path ends in front of a slash. -/
theorem exists_trimBack (rev : Text) : ∃ t, rev = t ++ trimBack rev ∧
    (t = [] ∨ trimBack rev = [] ∨ ∃ s, t = s ++ ['/']) := by
  fun_induction trimBack rev with
  | case1 => exact ⟨[], rfl, .inl rfl⟩
  | case2 r ih =>
    obtain ⟨t, heq, ht⟩ := ih
    refine ⟨'/' :: t, congrArg ('/' :: ·) heq, ?_⟩
    rcases ht with rfl | ht | ⟨s, rfl⟩
    · exact .inr (.inr ⟨[], rfl⟩)
    · exact .inr (.inl ht)
    · exact .inr (.inr ⟨'/' :: s, rfl⟩)
  | case3 r ih =>
    obtain ⟨t, heq, ht⟩ := ih
    refine ⟨'.' :: '/' :: t, congrArg ('.' :: '/' :: ·) heq, ?_⟩
    rcases ht with rfl | ht | ⟨s, rfl⟩
    · exact .inr (.inr ⟨['.'], rfl⟩)
    · exact .inr (.inl ht)
    · exact .inr (.inr ⟨'.' :: '/' :: s, rfl⟩)
  | case4 => exact ⟨['.'], rfl, .inr (.inl rfl)⟩
  | case5 r => exact ⟨[], rfl, .inl rfl⟩

theorem splitStart_append (p : Text) : (splitStart p).1 ++ (splitStart p).2 = p := by
  unfold splitStart
  split <;> rfl

/-- What `trimBack` leaves of a text with a slash in front is empty, or stands behind a slash. -/
theorem trimBack_slash (r : Text) :
    trimBack ('/' :: r) = [] ∨ ∃ s, '/' :: r = s ++ '/' :: trimBack ('/' :: r) := by
  have hstep : trimBack ('/' :: r) = trimBack r := rfl
  obtain ⟨t, heq, rfl | ht | ⟨s, rfl⟩⟩ := exists_trimBack r
  · exact .inr ⟨[], congrArg ('/' :: ·) heq⟩
  · exact .inl (hstep.trans ht)
  · refine .inr ⟨'/' :: s, ?_⟩
    rw [hstep]
    conv => lhs; rw [heq]
    simp

/-- A reversed path without its last name is what is in front of a slash. -/
theorem exists_name (rev : Text) : trimBack (rev.dropWhile (· ≠ '/')) = [] ∨
    ∃ s, rev = s ++ '/' :: trimBack (rev.dropWhile (· ≠ '/')) := by
  induction rev with
  | nil => exact .inl rfl
  | cons c rev ih =>
    by_cases hc : c = '/'
    · subst hc
      exact trimBack_slash rev
    · rw [List.dropWhile_cons_of_pos (by simpa using hc)]
      exact ih.imp id fun ⟨s, hs⟩ => ⟨c :: s, congrArg (c :: ·) hs⟩

/-- A parent is the path up to one of its slashes, the root, or nothing. -/
theorem parent?_spec {p q : Text} (h : parent? p = some q) :
    (∃ s, p = q ++ '/' :: s) ∨ q = [] ∨ q = ['/'] ∧ ∃ s, p = '/' :: s := by
  have hp := splitStart_append p
  have hroot : (splitStart p).1 = ['/'] ∨
      (splitStart p).1 = ['.'] ∧ ((splitStart p).2 = [] ∨ ∃ s, (splitStart p).2 = '/' :: s) ∨
      (splitStart p).1 = [] := by
    unfold splitStart
    split <;> simp
  unfold parent? at h
  generalize splitStart p = parts at h hp hroot
  obtain ⟨start, body⟩ := parts
  dsimp only at h hp hroot
  obtain ⟨t, heq, -⟩ := exists_trimBack body.reverse
  generalize trimBack body.reverse = rev at h heq
  -- what is left without the last name is nothing, or a path in front of the slash
  cases rev with
  | nil =>
    dsimp only at h
    by_cases hdot : start = ['.']
    · rw [if_pos hdot] at h
      exact .inr (.inl (Option.some.inj h).symm)
    · rw [if_neg hdot] at h
      cases h
  | cons c rev =>
    obtain rfl := Option.some.inj h
    rcases exists_name (c :: rev) with hnone | ⟨s, hs⟩
    · rw [hnone, List.reverse_nil, List.append_nil]
      -- no name is left, only the start of the path
      rcases hroot with rfl | ⟨rfl, rfl | ⟨s, rfl⟩⟩ | rfl
      · exact .inr (.inr ⟨rfl, body, hp.symm⟩)
      · cases t <;> cases heq
      · exact .inl ⟨s, hp.symm⟩
      · exact .inr (.inl rfl)
    · have hbody : body = (t ++ c :: rev).reverse := by rw [← heq, List.reverse_reverse]
      generalize trimBack ((c :: rev).dropWhile (· ≠ '/')) = r at hs ⊢
      refine .inl ⟨s.reverse ++ t.reverse, ?_⟩
      rw [← hp, hbody, hs]
      simp

/-- A parent leads through places of the path. -/
theorem way_parent {p q : Text} (h : parent? p = some q) (hq : q ≠ []) :
    ∀ x ∈ way wd q, x ∈ way wd p := by
  intro x hx
  rcases parent?_spec h with ⟨s, rfl⟩ | rfl | ⟨rfl, s, rfl⟩
  · exact mem_way.2 (.inl (way_subset_through hq s x hx))
  · exact absurd rfl hq
  · have hroot : x = [] := by simpa [way, through, target, route, parts, Text.splitOn, throughFrom,
      enter] using hx
    rw [hroot]
    exact mem_way.2 (.inl (mem_throughFrom (Text.splitOn_ne_nil _ _)))

/-! ### Closing slashes -/

theorem parts_append_slashes (p : Text) (k : Nat) :
    parts (p ++ List.replicate k '/') = parts p ++ List.replicate k [] := by
  induction k generalizing p with
  | zero => simp
  | succ k ih =>
    rw [List.replicate_succ, List.replicate_succ, parts, Text.splitOn_append_cons]
    exact congrArg (Text.splitOn '/' p ++ ·) (ih [])

/-- Closing slashes add empty names to a route. -/
theorem route_append_slashes {p : Text} (hp : p ≠ []) (k : Nat) :
    route wd (p ++ List.replicate k '/') =
      ((route wd p).1, (route wd p).2 ++ List.replicate k []) := by
  cases k with
  | zero => simp
  | succ k =>
    rw [List.replicate_succ, route_append_slash hp]
    exact congrArg _ (congrArg _ (parts_append_slashes [] k))

theorem foldl_enter_replicate (place : Place) (k : Nat) :
    (List.replicate k []).foldl enter place = place := by
  induction k with
  | zero => rfl
  | succ k ih => exact ih

theorem mem_throughFrom_replicate {place q : Place} {k : Nat}
    (h : q ∈ throughFrom place (List.replicate k [])) : q = place := by
  induction k with
  | zero => cases h
  | succ k ih => exact (List.mem_cons.1 h).elim (fun h => h) ih

/-- Closing slashes ask for nothing but that the path leads to a directory. -/
theorem through_append_slashes (wd : Place) {p : Text} (hp : p ≠ []) (k : Nat) :
    target wd (p ++ List.replicate k '/') = target wd p ∧
      (∀ q ∈ through wd p, q ∈ through wd (p ++ List.replicate k '/')) ∧
      ∀ q ∈ through wd (p ++ List.replicate k '/'), q ∈ through wd p ∨ q = target wd p := by
  rw [target, target, through, through, route_append_slashes hp, List.foldl_append,
    foldl_enter_replicate, throughFrom_append]
  refine ⟨rfl, fun q hq => List.mem_append_left _ hq, fun q hq => ?_⟩
  exact (List.mem_append.1 hq).imp id mem_throughFrom_replicate

/-! ### Paths behind a base path -/

/-- A path behind a base path, with one slash between them. -/
def under (base p : Text) : Text :=
  if base = [] ∨ base.getLast? = some '/' then base ++ p else base ++ '/' :: p

theorem join_eq_under (base : Text) {p : Text} (hp : isAbsolute p = false) :
    join base p = under base p := by
  rw [join, if_neg (by rw [hp]; decide)]
  rfl

/-- The names of a path behind a base path are the last ones on its way. -/
theorem exists_route_under (wd : Place) (base : Text) : ∃ start names,
    names.foldl enter start = target wd base ∧
      ∀ p, isAbsolute p = false → route wd (under base p) = (start, names ++ parts p) := by
  by_cases hempty : base = []
  · subst hempty
    refine ⟨wd, [], rfl, fun p hp => ?_⟩
    have hrelative : ∀ rest, p ≠ '/' :: rest := by
      rintro rest rfl
      cases hp
    rw [under, if_pos (.inl rfl), List.nil_append, route_of_relative wd hrelative, List.nil_append]
  by_cases hslash : base.getLast? = some '/'
  · obtain ⟨w, rfl⟩ : ∃ w, base = w ++ ['/'] := List.getLast?_eq_some_iff.1 hslash
    by_cases hroot : w = []
    · subst hroot
      exact ⟨[], [], rfl, fun p hp => rfl⟩
    · refine ⟨_, _, (through_append_slashes wd hroot 1).1.symm, fun p hp => ?_⟩
      rw [under, if_pos (.inr hslash), List.append_assoc, List.singleton_append,
        route_append_slash hroot]
  · refine ⟨_, _, rfl, fun p hp => ?_⟩
    rw [under, if_neg (by simp [hempty, hslash]), route_append_slash hempty]

end Path

end TemplateTrace
