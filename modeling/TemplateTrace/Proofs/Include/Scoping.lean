import Mathlib.Data.List.Nodup
import Mathlib.Logic.Function.Basic
import TemplateTrace.Proofs.Include.Statements

/-!
# Scopes by shadowing

A fragment shares the variables of the code that it is spliced into, and the statements around it
make up for that. They are run here over a store of variables. In front of the fragment each key
holds what its expression means to the caller; behind it the caller has its variables back, also
those that held null and those that did not exist. That the helper variables of two depths never
meet lets fragments nest.

- `Variables`, `HostValues`: variable stores, and what the statements take from host code.
- `ShadowStatement.run`, `runAll`: what statements do to a store.
- `Shadow.IsHelper`: the helper variables of a depth, and `Shadow.helper_inj`.
- `Shadow.runAll_blocks`: blocks of statements about different names do not meet.
- `Shadow.NestedRun`: what fragments inside a fragment can do.
- `Shadow.scopes_data`: the statements around a fragment give it a scope of its own.
-/

namespace TemplateTrace

variable {V : Type}

/-! ## Running statements -/

/-- What each variable holds; a variable without a value is not defined. -/
abbrev Variables (V : Type) := Text → Option V

/-- Whether a name is set apart for helper variables. -/
def IsReserved (name : Text) : Prop := "__lens_".toList <+: name

instance (name : Text) : Decidable (IsReserved name) :=
  inferInstanceAs (Decidable ("__lens_".toList <+: name))

/-- The values of host code, as far as the statements need them. What a data expression means is
decided by the variables that are not set apart for helpers. -/
structure HostValues (V : Type) where
  null : V
  ofBool : Bool → V
  isTrue : V → Bool
  isTrue_ofBool : ∀ b, isTrue (ofBool b) = b
  /-- The value of a data expression. -/
  value : Text → Variables V → V
  value_congr : ∀ e s t, (∀ v, ¬ IsReserved v → s v = t v) → value e s = value e t

/-- The values of host code in which all expressions are variables: numbers, and null. -/
def HostValues.ofVariables : HostValues (Option Nat) where
  null := none
  ofBool b := some b.toNat
  isTrue v := v == some 1
  isTrue_ofBool b := by cases b <;> rfl
  value e s := if IsReserved (e.drop 1) then none else (s (e.drop 1)).getD none
  value_congr e s t hst := by
    by_cases he : IsReserved (e.drop 1)
    · rw [if_pos he, if_pos he]
    · rw [if_neg he, if_neg he, hst _ he]

/-- The value that a statement assigns. -/
def ShadowValue.eval (h : HostValues V) (s : Variables V) : ShadowValue → V
  | .expression e => h.value e s
  | .variable name => (s name).getD h.null
  | .isDefined name => h.ofBool (s name).isSome
  | .valueOrNull name => (s name).getD h.null

/-- What a statement does to a store. -/
def ShadowStatement.run (h : HostValues V) (s : Variables V) : ShadowStatement → Variables V
  | .assign name value => Function.update s name (some (value.eval h s))
  | .restore had name saved =>
    if h.isTrue ((s had).getD h.null) then
      Function.update s name (some ((s saved).getD h.null))
    else Function.update s name none
  | .unset names => names.foldl (fun s name => Function.update s name none) s

/-- What statements do one after another. -/
def runAll (h : HostValues V) (s : Variables V) (statements : List ShadowStatement) :
    Variables V :=
  statements.foldl (ShadowStatement.run h) s

theorem runAll_append (h : HostValues V) (s : Variables V) (l l' : List ShadowStatement) :
    runAll h s (l ++ l') = runAll h (runAll h s l) l' := List.foldl_append

namespace Shadow

/-! ## Helper variables -/

/-- Whether a variable is a helper of a depth. -/
def IsHelper (depth : Nat) (v : Text) : Prop :=
  ∃ role ∈ ["arg", "had", "saved"], ∃ name, v = helper role depth name

theorem IsHelper.isReserved {depth : Nat} {v : Text} (h : IsHelper depth v) : IsReserved v := by
  obtain ⟨role, -, name, rfl⟩ := h
  unfold IsReserved helper
  rw [List.append_assoc, List.append_assoc]
  exact List.prefix_append _ _

/-- A helper variable tells its role, its depth and its name. -/
theorem helper_inj {role role' : String} {depth depth' : Nat} {name name' : Text}
    (hrole : role ∈ ["arg", "had", "saved"]) (hrole' : role' ∈ ["arg", "had", "saved"])
    (h : helper role depth name = helper role' depth' name') :
    role = role' ∧ depth = depth' ∧ name = name' := by
  have hplain : ∀ r ∈ ["arg", "had", "saved"], '_' ∉ r.toList := by decide
  have hdigits : ∀ n, '_' ∉ Text.decimal n :=
    fun n hmem => absurd (Text.isDigit_of_mem_decimal hmem) (by decide)
  unfold helper at h
  rw [List.append_assoc, List.append_assoc, List.append_assoc, List.append_assoc] at h
  obtain ⟨hroles, h⟩ :=
    Text.eq_of_append_cons_eq (hplain _ hrole) (hplain _ hrole') (List.append_cancel_left h)
  obtain ⟨hdepths, hnames⟩ := Text.eq_of_append_cons_eq (hdigits _) (hdigits _) h
  refine ⟨String.toList_injective hroles, ?_, hnames⟩
  rw [← Text.appendDigits_decimal depth, hdepths, Text.appendDigits_decimal]

theorem IsHelper.depth_eq {depth depth' : Nat} {v : Text} (h : IsHelper depth v)
    (h' : IsHelper depth' v) : depth = depth' := by
  obtain ⟨role, hrole, name, rfl⟩ := h
  obtain ⟨role', hrole', name', heq⟩ := h'
  exact (helper_inj hrole hrole' heq).2.1

variable (s : Shadow)

theorem isHelper_argument (name : Text) : IsHelper s.depth (s.argument name) :=
  ⟨"arg", by decide, name, rfl⟩

theorem isHelper_had (name : Text) : IsHelper s.depth (s.had name) :=
  ⟨"had", by decide, name, rfl⟩

theorem isHelper_saved (name : Text) : IsHelper s.depth (s.saved name) :=
  ⟨"saved", by decide, name, rfl⟩

/-! ## What the statements about one name do -/

/-- Whether a variable belongs to a shadowed name: the name itself or one of its helpers. -/
def Owns (name v : Text) : Prop :=
  v = name ∨ v = s.argument name ∨ v = s.had name ∨ v = s.saved name

/-- The names that are shadowed are not helpers, and each is shadowed once. -/
structure Clean : Prop where
  nodup : s.names.Nodup
  free : ∀ name ∈ s.names, ¬ IsReserved name

variable {s} {name : Text}

theorem Clean.not_isHelper (hs : s.Clean) (hname : name ∈ s.names) {depth : Nat} :
    ¬ IsHelper depth name := fun h => hs.free name hname h.isReserved

/-- The variables of different names are different. -/
theorem Clean.owns_unique (hs : s.Clean) {name' v : Text} (hname : name ∈ s.names)
    (hname' : name' ∈ s.names) (h : s.Owns name v) (h' : s.Owns name' v) : name = name' := by
  have hhelper : ∀ {n : Text}, s.Owns n v → v ≠ n → ∃ role ∈ ["arg", "had", "saved"],
      v = helper role s.depth n := by
    rintro n (hv | hv | hv | hv) hne
    · exact absurd hv hne
    · exact ⟨"arg", by decide, hv⟩
    · exact ⟨"had", by decide, hv⟩
    · exact ⟨"saved", by decide, hv⟩
  by_cases hv : v = name
  · by_cases hv' : v = name'
    · exact hv.symm.trans hv'
    · obtain ⟨role, hrole, heq⟩ := hhelper h' hv'
      exact absurd ⟨role, hrole, name', hv.symm.trans heq⟩ (hs.not_isHelper hname)
  · obtain ⟨role, hrole, heq⟩ := hhelper h hv
    by_cases hv' : v = name'
    · exact absurd ⟨role, hrole, name, hv'.symm.trans heq⟩ (hs.not_isHelper hname')
    · obtain ⟨role', hrole', heq'⟩ := hhelper h' hv'
      exact (helper_inj hrole hrole' (heq.symm.trans heq')).2.2

variable (h : HostValues V) (t : Variables V)

/-- A block of statements takes a name: its value is that of the argument, and the helpers say what
was there before. -/
theorem run_take (hname : ¬ IsReserved name) :
    let t' := runAll h t (s.take name)
    t' name = some ((t (s.argument name)).getD h.null) ∧
      t' (s.had name) = some (h.ofBool (t name).isSome) ∧
      t' (s.saved name) = some ((t name).getD h.null) ∧
      ∀ v, v ≠ name → v ≠ s.had name → v ≠ s.saved name → t' v = t v := by
  have hargument : s.argument name ≠ name :=
    fun heq => hname (heq ▸ (s.isHelper_argument name).isReserved)
  have hhad : s.had name ≠ name := fun heq => hname (heq ▸ (s.isHelper_had name).isReserved)
  have hsaved : s.saved name ≠ name :=
    fun heq => hname (heq ▸ (s.isHelper_saved name).isReserved)
  have hroles : s.argument name ≠ s.had name ∧ s.argument name ≠ s.saved name ∧
      s.had name ≠ s.saved name := by
    refine ⟨fun heq => ?_, fun heq => ?_, fun heq => ?_⟩ <;>
      exact absurd (helper_inj (by decide) (by decide) heq).1 (by decide)
  obtain ⟨hah, has, hhs⟩ := hroles
  refine ⟨?_, ?_, ?_, ?_⟩
  · simp [runAll, take, ShadowStatement.run, ShadowValue.eval, hah, has]
  · simp [runAll, take, ShadowStatement.run, ShadowValue.eval, hhad, hhs]
  · simp [runAll, take, ShadowStatement.run, ShadowValue.eval, hsaved, hhad.symm]
  · intro v hv hv' hv''
    simp [runAll, take, ShadowStatement.run, hv, hv', hv'']

/-- A block of statements gives a name back. -/
theorem run_giveBack (hname : ¬ IsReserved name) :
    let t' := runAll h t (s.giveBack name)
    t' name = (if h.isTrue ((t (s.had name)).getD h.null)
      then some ((t (s.saved name)).getD h.null) else none) ∧
      t' (s.argument name) = none ∧ t' (s.had name) = none ∧ t' (s.saved name) = none ∧
      ∀ v, ¬ s.Owns name v → t' v = t v := by
  have hargument : name ≠ s.argument name :=
    fun heq => hname (heq ▸ (s.isHelper_argument name).isReserved)
  have hhad : name ≠ s.had name := fun heq => hname (heq ▸ (s.isHelper_had name).isReserved)
  have hsaved : name ≠ s.saved name :=
    fun heq => hname (heq ▸ (s.isHelper_saved name).isReserved)
  have hunset : ∀ v, runAll h t (s.giveBack name) v =
      if v = s.argument name ∨ v = s.saved name ∨ v = s.had name then none
      else (ShadowStatement.run h t (.restore (s.had name) name (s.saved name))) v := by
    intro v
    show Function.update (Function.update (Function.update
      (ShadowStatement.run h t (.restore (s.had name) name (s.saved name)))
      (s.argument name) none) (s.saved name) none) (s.had name) none v = _
    simp only [Function.update_apply]
    grind
  refine ⟨?_, ?_, ?_, ?_, ?_⟩
  · rw [hunset, if_neg (by grind), ShadowStatement.run]
    split <;> simp
  · rw [hunset, if_pos (.inl rfl)]
  · rw [hunset, if_pos (.inr (.inr rfl))]
  · rw [hunset, if_pos (.inr (.inl rfl))]
  · intro v hv
    rw [Owns, not_or, not_or, not_or] at hv
    rw [hunset, if_neg (by grind), ShadowStatement.run]
    split <;> exact Function.update_of_ne hv.1 _ _

/-! ## Blocks of statements -/

/-- Blocks about different names do not meet: after all of them the variables of a name are as
after its own block. -/
theorem runAll_blocks (hs : s.Clean) {block : Text → List ShadowStatement}
    (hkeep : ∀ n ∈ s.names, ∀ t v, ¬ s.Owns n v → runAll h t (block n) v = t v)
    (hcongr : ∀ n ∈ s.names, ∀ t u, (∀ v, s.Owns n v → t v = u v) →
      ∀ v, s.Owns n v → runAll h t (block n) v = runAll h u (block n) v)
    {names : List Text} (hsub : names ⊆ s.names) (hnodup : names.Nodup) :
    (∀ n ∈ names, ∀ v, s.Owns n v →
      runAll h t (names.flatMap block) v = runAll h t (block n) v) ∧
    ∀ v, (∀ n ∈ names, ¬ s.Owns n v) → runAll h t (names.flatMap block) v = t v := by
  induction names generalizing t with
  | nil =>
    refine ⟨fun n hn => ?_, fun v _ => rfl⟩
    cases hn
  | cons m names ih =>
    have hm := hsub List.mem_cons_self
    have hrest : names ⊆ s.names := fun n hn => hsub (List.mem_cons_of_mem _ hn)
    obtain ⟨hfresh, hnodup⟩ := List.nodup_cons.1 hnodup
    obtain ⟨hnames, hothers⟩ := ih (runAll h t (block m)) hrest hnodup
    have hsplit : runAll h t ((m :: names).flatMap block) =
        runAll h (runAll h t (block m)) (names.flatMap block) := by
      rw [List.flatMap_cons, runAll_append]
    -- the variables of another name are not touched by the block of `m`
    have hapart : ∀ n ∈ names, ∀ v, s.Owns n v → ¬ s.Owns m v := by
      intro n hn v hv hv'
      obtain rfl := hs.owns_unique (hrest hn) hm hv hv'
      exact hfresh hn
    refine ⟨fun n hn v hv => ?_, fun v hv => ?_⟩
    · rw [hsplit]
      rcases List.mem_cons.1 hn with rfl | hn
      · exact hothers v fun n' hn' hv' => hapart n' hn' v hv' hv
      · rw [hnames n hn v hv]
        exact hcongr n (hrest hn) _ _ (fun w hw => hkeep m hm t w (hapart n hn w hw)) v hv
    · rw [hsplit, hothers v fun n hn => hv n (List.mem_cons_of_mem _ hn)]
      exact hkeep m hm t v (hv m List.mem_cons_self)

/-- What taking all names leaves. -/
theorem run_takes (hs : s.Clean) :
    let t' := runAll h t (s.names.flatMap s.take)
    (∀ n ∈ s.names, t' n = some ((t (s.argument n)).getD h.null) ∧
      t' (s.had n) = some (h.ofBool (t n).isSome) ∧
      t' (s.saved n) = some ((t n).getD h.null)) ∧
    ∀ v, (∀ n ∈ s.names, ¬ s.Owns n v) → t' v = t v := by
  have hkeep : ∀ n ∈ s.names, ∀ t v, ¬ s.Owns n v → runAll h t (s.take n) v = t v := by
    intro n hn t v hv
    rw [Owns, not_or, not_or, not_or] at hv
    exact (run_take h t (hs.free n hn)).2.2.2 v hv.1 hv.2.2.1 hv.2.2.2
  have hcongr : ∀ n ∈ s.names, ∀ t u, (∀ v, s.Owns n v → t v = u v) →
      ∀ v, s.Owns n v → runAll h t (s.take n) v = runAll h u (s.take n) v := by
    intro n hn t u htu v hv
    obtain ⟨hname, hhad, hsaved, hother⟩ := run_take (s := s) h t (hs.free n hn)
    obtain ⟨hname', hhad', hsaved', hother'⟩ := run_take (s := s) h u (hs.free n hn)
    have hsame := htu n (.inl rfl)
    by_cases h₁ : v = n
    · rw [h₁, hname, hname', htu _ (.inr (.inl rfl))]
    by_cases h₂ : v = s.had n
    · rw [h₂, hhad, hhad', hsame]
    by_cases h₃ : v = s.saved n
    · rw [h₃, hsaved, hsaved', hsame]
    rw [hother v h₁ h₂ h₃, hother' v h₁ h₂ h₃, htu v hv]
  obtain ⟨hnames, hothers⟩ := runAll_blocks h t hs hkeep hcongr (List.Subset.refl _) hs.nodup
  refine ⟨fun n hn => ?_, hothers⟩
  obtain ⟨hname, hhad, hsaved, -⟩ := run_take (s := s) h t (hs.free n hn)
  refine ⟨?_, ?_, ?_⟩
  · rw [hnames n hn n (.inl rfl), hname]
  · rw [hnames n hn _ (.inr (.inr (.inl rfl))), hhad]
  · rw [hnames n hn _ (.inr (.inr (.inr rfl))), hsaved]

/-- What giving all names back leaves. -/
theorem run_leave (hs : s.Clean) :
    let t' := runAll h t s.leave
    (∀ n ∈ s.names, t' n = (if h.isTrue ((t (s.had n)).getD h.null)
        then some ((t (s.saved n)).getD h.null) else none) ∧
      t' (s.argument n) = none ∧ t' (s.had n) = none ∧ t' (s.saved n) = none) ∧
    ∀ v, (∀ n ∈ s.names, ¬ s.Owns n v) → t' v = t v := by
  have hkeep : ∀ n ∈ s.names, ∀ t v, ¬ s.Owns n v → runAll h t (s.giveBack n) v = t v :=
    fun n hn t v => (run_giveBack h t (hs.free n hn)).2.2.2.2 v
  have hcongr : ∀ n ∈ s.names, ∀ t u, (∀ v, s.Owns n v → t v = u v) →
      ∀ v, s.Owns n v → runAll h t (s.giveBack n) v = runAll h u (s.giveBack n) v := by
    intro n hn t u htu v hv
    obtain ⟨hname, hargument, hhad, hsaved, -⟩ := run_giveBack (s := s) h t (hs.free n hn)
    obtain ⟨hname', hargument', hhad', hsaved', -⟩ := run_giveBack (s := s) h u (hs.free n hn)
    rcases hv with rfl | rfl | rfl | rfl
    · rw [hname, hname', htu _ (.inr (.inr (.inl rfl))), htu _ (.inr (.inr (.inr rfl)))]
    · rw [hargument, hargument']
    · rw [hhad, hhad']
    · rw [hsaved, hsaved']
  have hsub : s.names.reverse ⊆ s.names := fun n hn => List.mem_reverse.1 hn
  obtain ⟨hnames, hothers⟩ :=
    runAll_blocks h t hs hkeep hcongr hsub (List.nodup_reverse.2 hs.nodup)
  refine ⟨fun n hn => ?_, fun v hv => hothers v fun n hn => hv n (List.mem_reverse.1 hn)⟩
  obtain ⟨hname, hargument, hhad, hsaved, -⟩ := run_giveBack (s := s) h t (hs.free n hn)
  have hown := hnames n (List.mem_reverse.2 hn)
  refine ⟨?_, ?_, ?_, ?_⟩
  · rw [leave, hown n (.inl rfl), hname]
  · rw [leave, hown _ (.inr (.inl rfl)), hargument]
  · rw [leave, hown _ (.inr (.inr (.inl rfl))), hhad]
  · rw [leave, hown _ (.inr (.inr (.inr rfl))), hsaved]

/-- What computing the values leaves: the expressions see the caller's variables, since nothing
but helpers is assigned. -/
theorem run_computes {entries : List (Text × Text)} (hnodup : (entries.map (·.1)).Nodup)
    {caller : Variables V} (hcaller : ∀ v, ¬ IsReserved v → t v = caller v) :
    let t' := runAll h t (entries.map s.compute)
    (∀ entry ∈ entries, t' (s.argument entry.1) = some (h.value entry.2 caller)) ∧
    ∀ v, (∀ entry ∈ entries, v ≠ s.argument entry.1) → t' v = t v := by
  induction entries generalizing t with
  | nil =>
    refine ⟨fun entry hentry => ?_, fun v _ => rfl⟩
    cases hentry
  | cons e entries ih =>
    obtain ⟨hfresh, hnodup⟩ := List.nodup_cons.1 hnodup
    -- a value is that of the caller's variables, which no helper changes
    have hcompute : ShadowStatement.run h t (s.compute e) =
        Function.update t (s.argument e.1) (some (h.value e.2 caller)) := by
      show Function.update t (s.argument e.1) (some (h.value e.2 t)) = _
      rw [h.value_congr e.2 t caller hcaller]
    have hkept : ∀ v, ¬ IsReserved v →
        ShadowStatement.run h t (s.compute e) v = caller v := by
      intro v hv
      have hne : v ≠ s.argument e.1 :=
        fun heq => hv (heq ▸ (s.isHelper_argument e.1).isReserved)
      rw [hcompute, Function.update_of_ne hne, hcaller v hv]
    obtain ⟨hentries, hothers⟩ := ih _ hnodup hkept
    refine ⟨fun entry hentry => ?_, fun v hv => ?_⟩
    · rcases List.mem_cons.1 hentry with rfl | hentry
      · refine (hothers _ fun entry' hentry' heq => ?_).trans ?_
        · -- a later entry has another name, and so another helper
          have hnames := (helper_inj (by decide) (by decide) heq).2.2
          exact hfresh (List.mem_map.2 ⟨_, hentry', hnames.symm⟩)
        · rw [hcompute, Function.update_self]
      · exact hentries entry hentry
    · refine (hothers v fun entry hentry => hv entry (List.mem_cons_of_mem _ hentry)).trans ?_
      rw [hcompute, Function.update_of_ne (hv e List.mem_cons_self)]

/-- What the statements in front of a fragment leave. -/
theorem run_enter (hs : s.Clean) :
    let t' := runAll h t s.enter
    (∀ entry ∈ s.entries, t' entry.1 = some (h.value entry.2 t)) ∧
    (∀ n ∈ s.names, t' (s.had n) = some (h.ofBool (t n).isSome) ∧
      t' (s.saved n) = some ((t n).getD h.null)) ∧
    ∀ v, (∀ n ∈ s.names, ¬ s.Owns n v) → t' v = t v := by
  obtain ⟨hvalues, hkept⟩ := run_computes (s := s) h t hs.nodup fun v _ => rfl
  obtain ⟨htaken, hothers⟩ := run_takes h (runAll h t (s.entries.map s.compute)) hs
  have hname : ∀ n ∈ s.names, runAll h t (s.entries.map s.compute) n = t n := by
    intro n hn
    refine hkept n fun entry _ heq => hs.free n hn ?_
    exact heq ▸ (s.isHelper_argument entry.1).isReserved
  rw [enter, runAll_append]
  refine ⟨fun entry hentry => ?_, fun n hn => ?_, fun v hv => ?_⟩
  · rw [(htaken entry.1 (List.mem_map_of_mem hentry)).1, hvalues entry hentry, Option.getD_some]
  · obtain ⟨-, hhad, hsaved⟩ := htaken n hn
    rw [hhad, hsaved, hname n hn]
    exact ⟨rfl, rfl⟩
  · rw [hothers v hv]
    refine hkept v fun entry hentry heq => ?_
    exact hv entry.1 (List.mem_map_of_mem hentry) (.inr (.inl heq))

/-! ## The data of a call -/

/-- An entry whose name is there takes the place of the old one, and a new one comes last. -/
theorem map_fst_setEntry (entries : List (Text × Text)) (entry : Text × Text) :
    (setEntry entries entry).map (·.1) =
      if entry.1 ∈ entries.map (·.1) then entries.map (·.1)
      else entries.map (·.1) ++ [entry.1] := by
  induction entries with
  | nil => rfl
  | cons e entries ih =>
    by_cases he : e.1 = entry.1
    · rw [setEntry, if_pos he, if_pos (by simp [he])]
      simp [he]
    · rw [setEntry, if_neg he, List.map_cons, ih]
      have hmem : entry.1 ∈ (e :: entries).map (·.1) ↔ entry.1 ∈ entries.map (·.1) := by
        rw [List.map_cons, List.mem_cons, or_iff_right (Ne.symm he)]
      by_cases hrest : entry.1 ∈ entries.map (·.1)
      · rw [if_pos hrest, if_pos (hmem.2 hrest), List.map_cons]
      · rw [if_neg hrest, if_neg (mt hmem.1 hrest), List.map_cons, List.cons_append]

/-- A call passes each key once. -/
theorem nodup_dataPairs (call : IncludeCall) : (call.dataPairs.map (·.1)).Nodup := by
  have hfold : ∀ entries acc : List (Text × Text), (acc.map (·.1)).Nodup →
      ((entries.foldl setEntry acc).map (·.1)).Nodup := by
    intro entries
    induction entries with
    | nil => exact fun acc hacc => hacc
    | cons entry entries ih =>
      intro acc hacc
      refine ih _ ?_
      rw [map_fst_setEntry]
      split
      · exact hacc
      next hnew =>
        rw [← List.concat_eq_append]
        exact hacc.concat hnew
  unfold IncludeCall.dataPairs
  split
  · exact hfold _ [] List.nodup_nil
  · exact List.nodup_nil

/-- The shadowing of data whose keys are not set apart for helpers is clean. -/
theorem clean_of {depth : Nat} {call : IncludeCall}
    (hkeys : ∀ entry ∈ call.dataPairs, isIdentifier entry.1 = true → ¬ IsReserved entry.1) :
    (Shadow.of depth call.dataPairs).Clean := by
  constructor
  · exact (nodup_dataPairs call).sublist (List.filter_sublist.map _)
  · intro name hname
    obtain ⟨entry, hentry, rfl⟩ := List.mem_map.1 hname
    obtain ⟨hmem, hident⟩ := List.mem_filter.1 hentry
    exact hkeys entry hmem hident

/-! ## Fragments inside fragments -/

/-- What code at depths greater than `depth` can do to a store: the code of templates leaves the
helpers of the depth alone, and fragments are entered and left. -/
inductive NestedRun (h : HostValues V) (depth : Nat) : Variables V → Variables V → Prop where
  | code {t u : Variables V} (hkeep : ∀ v, IsHelper depth v → u v = t v) :
      NestedRun h depth t u
  | append {t u w : Variables V} (hfirst : NestedRun h depth t u)
      (hsecond : NestedRun h depth u w) : NestedRun h depth t w
  | fragment {t u : Variables V} {depth' : Nat} {call : IncludeCall} (hdepth : depth < depth')
      (hkeys : ∀ entry ∈ call.dataPairs, isIdentifier entry.1 = true → ¬ IsReserved entry.1)
      (hbody : NestedRun h depth (runAll h t (Shadow.of depth' call.dataPairs).enter) u) :
      NestedRun h depth t (runAll h u (Shadow.of depth' call.dataPairs).leave)

/-- The helpers of a depth belong to no name that is shadowed at another one. -/
theorem Clean.not_owns (hs : s.Clean) {depth : Nat} (hdepth : depth ≠ s.depth) {v : Text}
    (hv : IsHelper depth v) : ∀ n ∈ s.names, ¬ s.Owns n v := by
  rintro n hn (rfl | rfl | rfl | rfl)
  · exact hs.not_isHelper hn hv
  · exact hdepth (hv.depth_eq (s.isHelper_argument n))
  · exact hdepth (hv.depth_eq (s.isHelper_had n))
  · exact hdepth (hv.depth_eq (s.isHelper_saved n))

/-- Code at greater depths leaves the helpers of a depth alone. -/
theorem NestedRun.keep {h : HostValues V} {depth : Nat} {t u : Variables V}
    (hrun : NestedRun h depth t u) : ∀ v, IsHelper depth v → u v = t v := by
  induction hrun with
  | code hkeep => exact hkeep
  | append _ _ ih ih' => exact fun v hv => (ih' v hv).trans (ih v hv)
  | @fragment t u depth' call hdepth hkeys _ ih =>
    intro v hv
    have hs : (Shadow.of depth' call.dataPairs).Clean := clean_of hkeys
    have hapart := hs.not_owns (Nat.ne_of_lt hdepth) hv
    calc runAll h u (Shadow.of depth' call.dataPairs).leave v
      _ = u v := (run_leave h u hs).2 v hapart
      _ = runAll h t (Shadow.of depth' call.dataPairs).enter v := ih v hv
      _ = t v := (run_enter h t hs).2.2 v hapart

/-! ## Scopes -/

/-- **Shadowing gives a fragment a scope of its own.** In front of the fragment each key holds the
value that its expression has among the caller's variables. Behind it, whatever the fragment did
except to the helpers of this depth, each key is what it was to the caller, the helpers are gone,
and all else is as the fragment left it. Fragments inside the fragment leave these helpers
alone. -/
theorem scopes_data (h : HostValues V) (depth : Nat) (call : IncludeCall)
    (hkeys : ∀ entry ∈ call.dataPairs, isIdentifier entry.1 = true → ¬ IsReserved entry.1)
    (caller : Variables V) (hcaller : ∀ v, IsHelper depth v → caller v = none) :
    let shadow := Shadow.of depth call.dataPairs
    let entered := runAll h caller shadow.enter
    ((∀ entry ∈ call.dataPairs, isIdentifier entry.1 = true →
        entered entry.1 = some (h.value entry.2 caller)) ∧
      ∀ v, v ∉ shadow.names → ¬ IsHelper depth v → entered v = caller v) ∧
    (∀ left : Variables V, (∀ v, IsHelper depth v → left v = entered v) →
      (∀ name ∈ shadow.names, runAll h left shadow.leave name = caller name) ∧
      (∀ v, IsHelper depth v → runAll h left shadow.leave v = none) ∧
      ∀ v, v ∉ shadow.names → ¬ IsHelper depth v → runAll h left shadow.leave v = left v) ∧
    ∀ left : Variables V, NestedRun h depth entered left →
      ∀ v, IsHelper depth v → left v = entered v := by
  intro shadow entered
  have hs : shadow.Clean := clean_of hkeys
  obtain ⟨hvalues, hasked, hothers⟩ := run_enter h caller hs
  -- a variable that is neither shadowed nor a helper belongs to no name
  have hapart : ∀ v, v ∉ shadow.names → ¬ IsHelper depth v → ∀ n ∈ shadow.names,
      ¬ shadow.Owns n v := by
    rintro v hv hv' n hn (rfl | rfl | rfl | rfl)
    · exact hv hn
    · exact hv' (shadow.isHelper_argument n)
    · exact hv' (shadow.isHelper_had n)
    · exact hv' (shadow.isHelper_saved n)
  refine ⟨⟨fun entry hentry hident => ?_, fun v hv hv' => ?_⟩, fun left hleft => ?_,
    fun left hrun => hrun.keep⟩
  · exact hvalues entry (List.mem_filter.2 ⟨hentry, hident⟩)
  · exact hothers v (hapart v hv hv')
  · obtain ⟨hgiven, hkept⟩ := run_leave h left hs
    refine ⟨fun name hname => ?_, fun v hv => ?_, fun v hv hv' => hkept v (hapart v hv hv')⟩
    · -- a shadowed name gets back what the helpers kept, or is unset as it was
      obtain ⟨hhad, hsaved⟩ := hasked name hname
      rw [(hgiven name hname).1, hleft _ (shadow.isHelper_had name),
        hleft _ (shadow.isHelper_saved name)]
      show (if h.isTrue ((runAll h caller shadow.enter _).getD _) then some
        ((runAll h caller shadow.enter _).getD _) else none) = _
      rw [hhad, hsaved, Option.getD_some, Option.getD_some, h.isTrue_ofBool]
      cases caller name with
      | none => rfl
      | some value => rfl
    · -- a helper is one of a shadowed name, or the caller did not have it
      by_cases hown : ∃ n ∈ shadow.names, shadow.Owns n v
      · obtain ⟨n, hn, rfl | rfl | rfl | rfl⟩ := hown
        · exact absurd hv (hs.not_isHelper hn)
        · exact (hgiven n hn).2.1
        · exact (hgiven n hn).2.2.1
        · exact (hgiven n hn).2.2.2
      · have hnone : ∀ n ∈ shadow.names, ¬ shadow.Owns n v := by simpa using hown
        rw [hkept v hnone, hleft v hv]
        exact (hothers v hnone).trans (hcaller v hv)

/-- Two variables swapped, one of which holds null, by a call that names one of them twice. The
fragment unsets one of them and defines another variable. -/
theorem scopes_data_swapped :
    let a := "a".toList
    let b := "b".toList
    let call : IncludeCall :=
      { target := .literal "t".toList, excluded := none
        data := some (.pairs [(a, "$c".toList), (b, "$a".toList), ("x-y".toList, "$a".toList),
          (a, "$b".toList)]) }
    let shadow := Shadow.of 1 call.dataPairs
    let caller : Variables (Option Nat) :=
      fun v => if v = a then some (some 5) else if v = b then some none else none
    let entered := runAll .ofVariables caller shadow.enter
    let left := Function.update (Function.update entered a none) "z".toList (some (some 7))
    let after := runAll .ofVariables left shadow.leave
    (∀ entry ∈ call.dataPairs, isIdentifier entry.1 = true → ¬ IsReserved entry.1) ∧
      (∀ v, IsHelper 1 v → caller v = none) ∧
      entered a = some none ∧ entered b = some (some 5) ∧
      after a = some (some 5) ∧ after b = some none ∧ after "z".toList = some (some 7) ∧
      ∀ v, IsHelper 1 v → after v = none := by
  intro a b call shadow caller entered left after
  have hkeys : ∀ entry ∈ call.dataPairs, isIdentifier entry.1 = true → ¬ IsReserved entry.1 := by
    decide
  have hfree : ∀ v, IsHelper 1 v → v ≠ a ∧ v ≠ b ∧ v ≠ "z".toList := by
    intro v hv
    have hreserved := hv.isReserved
    refine ⟨?_, ?_, ?_⟩ <;> rintro rfl <;> exact absurd hreserved (by decide)
  have hcaller : ∀ v, IsHelper 1 v → caller v = none := by
    intro v hv
    show (if v = a then _ else if v = b then _ else none) = _
    rw [if_neg (hfree v hv).1, if_neg (hfree v hv).2.1]
  obtain ⟨⟨hvalues, -⟩, hscope, -⟩ := scopes_data .ofVariables 1 call hkeys caller hcaller
  -- the body unsets one name and sets another one, and leaves the helpers
  have hleft : ∀ v, IsHelper 1 v → left v = entered v := by
    intro v hv
    show Function.update (Function.update entered a none) _ _ v = _
    rw [Function.update_of_ne (hfree v hv).2.2, Function.update_of_ne (hfree v hv).1]
  obtain ⟨hnames, hhelpers, hothers⟩ := hscope left hleft
  have hz : ¬ IsHelper 1 "z".toList := fun h => (hfree _ h).2.2 rfl
  refine ⟨hkeys, hcaller, hvalues (a, "$b".toList) (by decide) (by decide),
    hvalues (b, "$a".toList) (by decide) (by decide), hnames a (by decide), hnames b (by decide),
    ?_, hhelpers⟩
  exact (hothers _ (by decide) hz).trans (Function.update_self _ _ _)

end Shadow

end TemplateTrace
