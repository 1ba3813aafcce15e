import Mathlib.Data.List.Forall2
import Mathlib.Data.List.Perm.Subperm

/-!
# Traversals that can fail, and look-ups by name

A traversal succeeds exactly when every step does, and then its result is the
list of the steps' results.  Struct fields and object members are lists of named
entries, of which the first with a name counts.
-/

set_option autoImplicit false

namespace JsonShape

variable {α β γ ε : Type}

/-! ## Results -/

@[simp]
theorem bind_eq_ok_iff {result : Except ε α} {next : α → Except ε β} {value : β} :
    result >>= next = .ok value ↔ ∃ first, result = .ok first ∧ next first = .ok value := by
  cases result <;> simp [bind, Except.bind]

theorem bind_eq_error_iff {result : Except ε α} {next : α → Except ε β} {error : ε} :
    result >>= next = .error error ↔
      result = .error error ∨ ∃ first, result = .ok first ∧ next first = .error error := by
  cases result <;> simp [bind, Except.bind]

@[simp]
theorem map_eq_ok_iff {result : Except ε α} {f : α → β} {value : β} :
    result.map f = .ok value ↔ ∃ first, result = .ok first ∧ f first = value := by
  cases result <;> simp [Except.map]

@[simp]
theorem fmap_eq_ok_iff {result : Except ε α} {f : α → β} {value : β} :
    f <$> result = .ok value ↔ ∃ first, result = .ok first ∧ f first = value :=
  map_eq_ok_iff

@[simp]
theorem map_eq_error_iff {result : Except ε α} {f : α → β} {error : ε} :
    result.map f = .error error ↔ result = .error error := by
  cases result <;> simp [Except.map]

@[simp]
theorem mapError_eq_ok_iff {result : Except ε α} {f : ε → γ} {value : α} :
    result.mapError f = .ok value ↔ result = .ok value := by
  cases result <;> simp [Except.mapError]

theorem mapError_eq_error_iff {result : Except ε α} {f : ε → γ} {error : γ} :
    result.mapError f = .error error ↔ ∃ cause, result = .error cause ∧ f cause = error := by
  cases result <;> simp [Except.mapError]

@[simp]
theorem pure_eq_ok_iff {first value : α} :
    (pure first : Except ε α) = .ok value ↔ first = value := by
  simp [pure, Except.pure]

/-! ## Lists that correspond -/

theorem eq_of_forall₂ {R S : α → β → Prop} {values : List α} {lefts rights : List β}
    (hunique : ∀ value left right, R value left → S value right → left = right)
    (hlefts : List.Forall₂ R values lefts) (hrights : List.Forall₂ S values rights) :
    lefts = rights := by
  induction hlefts generalizing rights with
  | nil =>
      cases hrights
      rfl
  | cons hleft _ ih =>
      cases hrights with
      | cons hright hrest => rw [hunique _ _ _ hleft hright, ih hrest]

theorem exists_of_mem_forall₂ {R : α → β → Prop} {values : List α} {results : List β} {value : α}
    (h : List.Forall₂ R values results) (hvalue : value ∈ values) :
    ∃ result ∈ results, R value result := by
  induction h with
  | nil => simp at hvalue
  | cons hfirst _ ih =>
      rcases List.mem_cons.mp hvalue with rfl | hrest
      · exact ⟨_, List.mem_cons_self, hfirst⟩
      · obtain ⟨result, hresult, hrelated⟩ := ih hrest
        exact ⟨result, List.mem_cons_of_mem _ hresult, hrelated⟩

theorem exists_forall₂ {R : α → β → Prop} {values : List α}
    (h : ∀ value ∈ values, ∃ result, R value result) :
    ∃ results, List.Forall₂ R values results := by
  induction values with
  | nil => exact ⟨[], .nil⟩
  | cons value rest ih =>
      rw [List.forall_mem_cons] at h
      obtain ⟨result, hresult⟩ := h.1
      obtain ⟨results, hresults⟩ := ih h.2
      exact ⟨result :: results, .cons hresult hresults⟩

theorem flip_of_forall₂ {R : α → β → Prop} {S : β → α → Prop} {values : List α}
    {results : List β} (h : List.Forall₂ R values results)
    (hS : ∀ value ∈ values, ∀ result ∈ results, R value result → S result value) :
    List.Forall₂ S results values := by
  induction h with
  | nil => exact .nil
  | cons hfirst _ ih =>
      refine .cons (hS _ List.mem_cons_self _ List.mem_cons_self hfirst) (ih ?_)
      exact fun value hvalue result hresult =>
        hS value (List.mem_cons_of_mem _ hvalue) result (List.mem_cons_of_mem _ hresult)

/-! ## Traversals -/

theorem mapM_eq_ok_iff {f : α → Except ε β} {values : List α} {results : List β} :
    values.mapM f = .ok results ↔
      List.Forall₂ (fun value result => f value = .ok result) values results := by
  induction values generalizing results with
  | nil => cases results <;> simp
  | cons value rest ih =>
      rw [List.mapM_cons]
      cases results with
      | nil => simp
      | cons result others =>
          simp only [bind_eq_ok_iff, pure_eq_ok_iff, List.cons.injEq, List.forall₂_cons, ← ih]
          grind

/-- A traversal whose steps succeed under a condition, with a known result. -/
theorem mapM_eq_ok_map_iff {f : α → Except ε β} {holds : α → Prop} {g : α → β}
    {values : List α} {results : List β}
    (hf : ∀ value ∈ values, ∀ result, f value = .ok result ↔ holds value ∧ result = g value) :
    values.mapM f = .ok results ↔ (∀ value ∈ values, holds value) ∧ results = values.map g := by
  induction values generalizing results with
  | nil => simp [pure, Except.pure, eq_comm]
  | cons value rest ih =>
      cases results with
      | nil => simp [mapM_eq_ok_iff]
      | cons result others =>
          have hrest : rest.mapM f = .ok others ↔
              (∀ other ∈ rest, holds other) ∧ others = rest.map g :=
            ih fun other hother => hf other (List.mem_cons_of_mem _ hother)
          rw [mapM_eq_ok_iff] at hrest ⊢
          rw [List.forall₂_cons, hrest, hf value List.mem_cons_self, List.forall_mem_cons,
            List.map_cons, List.cons.injEq]
          tauto

theorem mapM_eq_ok_map {f : α → Except ε β} {g : α → β} {values : List α}
    (hf : ∀ value ∈ values, f value = .ok (g value)) : values.mapM f = .ok (values.map g) := by
  rw [mapM_eq_ok_iff, List.forall₂_map_right_iff, List.forall₂_same]
  exact hf

theorem exists_mapM_eq_ok {f : α → Except ε β} {values : List α}
    (hf : ∀ value ∈ values, ∃ result, f value = .ok result) :
    ∃ results, values.mapM f = .ok results := by
  obtain ⟨results, hresults⟩ := exists_forall₂ hf
  exact ⟨results, mapM_eq_ok_iff.mpr hresults⟩

/-- A traversal of names whose every step gives an entry of the same name. -/
theorem mapM_eq_ok_entries_iff {f : String → Except ε (String × β)} {names : List String}
    {entries : List (String × β)} (hf : ∀ name entry, f name = .ok entry → entry.1 = name) :
    names.mapM f = .ok entries ↔
      entries.map Prod.fst = names ∧ ∀ entry ∈ entries, f entry.1 = .ok entry := by
  rw [mapM_eq_ok_iff]
  constructor
  · intro h
    induction h with
    | nil => simp
    | cons hentry _ ih =>
        have hname := hf _ _ hentry
        rw [List.map_cons, hname, ih.1, List.forall_mem_cons, hname]
        exact ⟨rfl, hentry, ih.2⟩
  · rintro ⟨rfl, hentries⟩
    rw [List.forall₂_map_left_iff, List.forall₂_same]
    exact hentries

theorem exists_of_mem_mapM {f : α → Except ε β} {values : List α} {results : List β} {result : β}
    (h : values.mapM f = .ok results) (hresult : result ∈ results) :
    ∃ value ∈ values, f value = .ok result :=
  exists_of_mem_forall₂ (mapM_eq_ok_iff.mp h).flip hresult

theorem exists_eq_ok_of_mapM {f : α → Except ε β} {values : List α} {results : List β} {value : α}
    (h : values.mapM f = .ok results) (hvalue : value ∈ values) :
    ∃ result ∈ results, f value = .ok result :=
  exists_of_mem_forall₂ (mapM_eq_ok_iff.mp h) hvalue

/-- A traversal fails with the error of the step that is the first to fail. -/
theorem mapM_eq_error_iff {f : α → Except ε β} {values : List α} {error : ε} :
    values.mapM f = .error error ↔
      ∃ before value after, values = before ++ value :: after ∧
        (∀ earlier ∈ before, ∃ result, f earlier = .ok result) ∧ f value = .error error := by
  constructor
  · intro h
    induction values with
    | nil => cases h
    | cons value rest ih =>
        rw [List.mapM_cons, bind_eq_error_iff] at h
        rcases h with hvalue | ⟨result, hresult, h⟩
        · exact ⟨[], value, rest, rfl, List.forall_mem_nil _, hvalue⟩
        · rw [bind_eq_error_iff] at h
          rcases h with hrest | ⟨_, -, hpure⟩
          · obtain ⟨before, other, after, rfl, hbefore, hother⟩ := ih hrest
            exact ⟨value :: before, other, after, rfl,
              List.forall_mem_cons.mpr ⟨⟨result, hresult⟩, hbefore⟩, hother⟩
          · cases hpure
  · rintro ⟨before, value, after, rfl, hbefore, hvalue⟩
    obtain ⟨results, hresults⟩ := exists_mapM_eq_ok hbefore
    rw [List.mapM_append, bind_eq_error_iff]
    refine .inr ⟨results, hresults, ?_⟩
    rw [bind_eq_error_iff, List.mapM_cons, bind_eq_error_iff]
    exact .inl (.inl hvalue)

/-- A traversal fails with the error of one of its steps. -/
theorem exists_of_mapM_eq_error {f : α → Except ε β} {values : List α} {error : ε}
    (h : values.mapM f = .error error) : ∃ value ∈ values, f value = .error error := by
  obtain ⟨before, value, after, rfl, -, hvalue⟩ := mapM_eq_error_iff.mp h
  exact ⟨value, by simp, hvalue⟩

/-- If every step fails with the first fault of its value, a traversal fails with the
first fault of all. -/
theorem mapM_eq_error_of_first {f : α → Except ε β} {faults : α → List γ} (failure : γ → ε)
    {values : List α}
    (hok : ∀ value ∈ values, faults value = [] → ∃ result, f value = .ok result)
    (hfault : ∀ value ∈ values, ∀ first others, faults value = first :: others →
      f value = .error (failure first))
    {first : γ} {others : List γ} (h : values.flatMap faults = first :: others) :
    values.mapM f = .error (failure first) := by
  induction values with
  | nil => simp at h
  | cons value rest ih =>
      rw [List.forall_mem_cons] at hok hfault
      rw [List.flatMap_cons] at h
      rw [List.mapM_cons]
      cases hvalue : faults value with
      | nil =>
          rw [hvalue, List.nil_append] at h
          obtain ⟨result, hresult⟩ := hok.1 hvalue
          rw [hresult, ih hok.2 hfault.2 h]
          rfl
      | cons fault more =>
          rw [hvalue, List.cons_append, List.cons.injEq] at h
          rw [hfault.1 fault more hvalue, h.1]
          rfl

/-- Steps that agree with other steps, or else fail in a certain way. -/
theorem mapM_eq_or_fails {f g : α → Except ε β} {fails : ε → Prop} {values : List α}
    (h : ∀ value ∈ values, f value = g value ∨ ∃ error, fails error ∧ f value = .error error) :
    values.mapM f = values.mapM g ∨ ∃ error, fails error ∧ values.mapM f = .error error := by
  induction values with
  | nil => exact .inl rfl
  | cons value rest ih =>
      rw [List.forall_mem_cons] at h
      rw [List.mapM_cons, List.mapM_cons]
      cases h.1 with
      | inl hvalue =>
          rw [hvalue]
          cases g value with
          | error first => exact .inl rfl
          | ok result =>
              cases ih h.2 with
              | inl hrest => exact .inl (by rw [hrest])
              | inr hrest =>
                  obtain ⟨error, hfails, hrest⟩ := hrest
                  exact .inr ⟨error, hfails, by rw [hrest]; rfl⟩
      | inr hvalue =>
          obtain ⟨error, hfails, hvalue⟩ := hvalue
          exact .inr ⟨error, hfails, by rw [hvalue]; rfl⟩

/-- Steps that have known results, or else all fail alike. -/
theorem mapM_eq_ok_or_error {f : α → Except ε β} {error : ε} {values : List α} {results : List β}
    (h : List.Forall₂ (fun value result => f value = .ok result ∨ f value = .error error)
      values results) :
    values.mapM f = .ok results ∨ values.mapM f = .error error := by
  induction h with
  | nil => exact .inl rfl
  | cons hvalue _ ih =>
      rw [List.mapM_cons]
      cases hvalue with
      | inl hok => cases ih with
          | inl hrest => exact .inl (by rw [hok, hrest]; rfl)
          | inr hrest => exact .inr (by rw [hok, hrest]; rfl)
      | inr herror => exact .inr (by rw [herror]; rfl)

/-- A traversal that drops some values and gives something for every other one. -/
theorem filterMap_mapM_eq_ok_iff {f : α → Except ε (Option β)} {keep : α → Bool}
    {values : List α} {others : List β} (hdrop : ∀ value, keep value = false → f value = .ok none)
    (hkeep : ∀ value, keep value = true → f value ≠ .ok none) :
    (∃ results, values.mapM f = .ok results ∧ others = results.filterMap id) ↔
      List.Forall₂ (fun value other => f value = .ok (some other)) (values.filter keep) others := by
  simp only [mapM_eq_ok_iff]
  constructor
  · rintro ⟨results, hresults, rfl⟩
    induction hresults with
    | nil => exact .nil
    | @cons value result values results hvalue _ ih =>
        cases hvalues : keep value with
        | true =>
            rw [List.filter_cons_of_pos hvalues]
            cases result with
            | none => exact absurd hvalue (hkeep value hvalues)
            | some other => exact .cons hvalue ih
        | false =>
            rw [hdrop value hvalues, Except.ok.injEq] at hvalue
            rw [← hvalue, List.filter_cons_of_neg (by simp [hvalues])]
            exact ih
  · intro h
    induction values generalizing others with
    | nil =>
        cases h
        exact ⟨[], .nil, rfl⟩
    | cons value rest ih =>
        cases hvalue : keep value with
        | true =>
            rw [List.filter_cons_of_pos hvalue] at h
            cases h with
            | cons hfirst hrest =>
                obtain ⟨results, hresults, rfl⟩ := ih hrest
                exact ⟨_, .cons hfirst hresults, rfl⟩
        | false =>
            rw [List.filter_cons_of_neg (by simp [hvalue])] at h
            obtain ⟨results, hresults, rfl⟩ := ih h
            exact ⟨_, .cons (hdrop value hvalue) hresults, rfl⟩

/-- A fold fails with the error of the step that is the first to fail. -/
theorem foldlM_eq_error_iff {f : β → α → Except ε β} {values : List α} {start : β} {error : ε} :
    values.foldlM f start = .error error ↔
      ∃ before value after state, values = before ++ value :: after ∧
        before.foldlM f start = .ok state ∧ f state value = .error error := by
  constructor
  · intro h
    induction values generalizing start with
    | nil => cases h
    | cons value rest ih =>
        rw [List.foldlM_cons, bind_eq_error_iff] at h
        rcases h with hvalue | ⟨next, hnext, hrest⟩
        · exact ⟨[], value, rest, start, rfl, rfl, hvalue⟩
        · obtain ⟨before, other, after, state, rfl, hbefore, hother⟩ := ih hrest
          refine ⟨value :: before, other, after, state, rfl, ?_, hother⟩
          rw [List.foldlM_cons, hnext]
          exact hbefore
  · rintro ⟨before, value, after, state, rfl, hbefore, hvalue⟩
    rw [List.foldlM_append, bind_eq_error_iff]
    refine .inr ⟨state, hbefore, ?_⟩
    rw [List.foldlM_cons, bind_eq_error_iff]
    exact .inl hvalue

/-! ## Entries by name -/

theorem mem_of_lookup_eq_some {κ : Type} [BEq κ] [LawfulBEq κ] {name : κ} {value : α}
    {entries : List (κ × α)} (h : entries.lookup name = some value) : (name, value) ∈ entries := by
  obtain ⟨before, after, rfl, -⟩ := List.lookup_eq_some_iff.mp h
  simp

theorem lookup_cons_ite {κ : Type} [BEq κ] [LawfulBEq κ] [DecidableEq κ] (name other : κ)
    (value : α) (entries : List (κ × α)) :
    List.lookup other ((name, value) :: entries) =
      if other = name then some value else entries.lookup other := by
  rw [List.lookup_cons]
  by_cases h : other = name
  · simp [h]
  · rw [beq_false_of_ne h, if_neg h]

theorem lookup_cons_eq_some_iff {name known : String} {value first : α}
    {rest : List (String × α)} :
    ((known, first) :: rest).lookup name = some value ↔
      name = known ∧ first = value ∨ name ≠ known ∧ rest.lookup name = some value := by
  rw [List.lookup_cons]
  cases h : name == known with
  | true => simp [beq_iff_eq.mp h]
  | false => simp [beq_eq_false_iff_ne.mp h]

theorem lookup_eq_some_of_mem {name : String} {value : α} {entries : List (String × α)}
    (hnames : (entries.map Prod.fst).Nodup) (hentry : (name, value) ∈ entries) :
    entries.lookup name = some value := by
  induction entries with
  | nil => simp at hentry
  | cons entry rest ih =>
      obtain ⟨known, first⟩ := entry
      rw [List.map_cons, List.nodup_cons] at hnames
      rcases List.mem_cons.mp hentry with hhere | hrest
      · rw [Prod.mk.injEq] at hhere
        rw [hhere.1, hhere.2, List.lookup_cons_self]
      · have hne : (name == known) = false := by
          rw [beq_eq_false_iff_ne]
          rintro rfl
          exact hnames.1 (List.mem_map.mpr ⟨_, hrest, rfl⟩)
        rw [List.lookup_cons, hne]
        exact ih hnames.2 hrest

theorem mem_names_iff {name : String} {entries : List (String × α)} :
    name ∈ entries.map Prod.fst ↔ (entries.lookup name).isSome := by
  rw [List.lookup_isSome_iff, List.mem_map]
  simp only [beq_iff_eq, eq_comm (a := name)]

theorem lookup_map_snd (f : α → β) (name : String) (entries : List (String × α)) :
    (entries.map fun entry => (entry.1, f entry.2)).lookup name = (entries.lookup name).map f := by
  induction entries with
  | nil => rfl
  | cons entry rest ih =>
      rw [List.map_cons, List.lookup_cons, List.lookup_cons]
      cases name == entry.1 with
      | true => rfl
      | false => exact ih

theorem lookup_filter (keep : String → Bool) (name : String) (entries : List (String × α)) :
    (entries.filter fun entry => keep entry.1).lookup name =
      if keep name then entries.lookup name else none := by
  induction entries with
  | nil => simp
  | cons entry rest ih =>
      obtain ⟨known, value⟩ := entry
      by_cases hname : name = known
      · subst hname
        cases hkeep : keep name <;> simp [hkeep, ih]
      · have hne : (name == known) = false := beq_eq_false_iff_ne.mpr hname
        rw [List.lookup_cons, hne, ← ih, List.filter_cons]
        cases keep known with
        | true => rw [if_pos rfl, List.lookup_cons, hne]
        | false => rfl

/-- Entries that correspond to others of the same names are found in them. -/
theorem exists_of_lookup_forall₂ {R : String × α → String × β → Prop}
    {entries : List (String × α)} {others : List (String × β)} {name : String} {other : β}
    (hR : ∀ entry other, R entry other → other.1 = entry.1) (h : List.Forall₂ R entries others)
    (hother : others.lookup name = some other) :
    ∃ value, entries.lookup name = some value ∧ R (name, value) (name, other) := by
  induction h with
  | nil => simp at hother
  | @cons entry first _ _ hfirst _ ih =>
      obtain ⟨known, value⟩ := entry
      obtain ⟨_, found⟩ := first
      cases hR _ _ hfirst
      rcases lookup_cons_eq_some_iff.mp hother with ⟨rfl, rfl⟩ | ⟨hne, hrest⟩
      · exact ⟨value, List.lookup_cons_self, hfirst⟩
      · obtain ⟨later, hlater, hrelated⟩ := ih hrest
        exact ⟨later, lookup_cons_eq_some_iff.mpr (.inr ⟨hne, hlater⟩), hrelated⟩

/-- Entries in another order, their names being distinct, are found all the same. -/
theorem lookup_eq_of_perm {name : String} {entries others : List (String × α)}
    (hnames : (entries.map Prod.fst).Nodup) (hperm : entries.Perm others) :
    entries.lookup name = others.lookup name := by
  have hothers : (others.map Prod.fst).Nodup := (hperm.map Prod.fst).nodup_iff.mp hnames
  apply Option.ext
  intro value
  constructor
  · intro h
    exact lookup_eq_some_of_mem hothers (hperm.subset (mem_of_lookup_eq_some h))
  · intro h
    exact lookup_eq_some_of_mem hnames (hperm.symm.subset (mem_of_lookup_eq_some h))

/-- Entries that are found among equally many others have the names of the others. -/
theorem names_perm_of_found {entries : List (String × α)} {others : List (String × β)}
    (hnames : (entries.map Prod.fst).Nodup) (hlength : entries.length = others.length)
    (h : ∀ entry ∈ entries, ∃ other, others.lookup entry.1 = some other) :
    (entries.map Prod.fst).Perm (others.map Prod.fst) := by
  have hsubset : entries.map Prod.fst ⊆ others.map Prod.fst := by
    intro name hname
    obtain ⟨entry, hentry, rfl⟩ := List.mem_map.mp hname
    obtain ⟨other, hother⟩ := h entry hentry
    exact List.mem_map_of_mem (mem_of_lookup_eq_some hother)
  exact (List.subperm_of_subset hnames hsubset).perm_of_length_le (by simp [hlength])

/-- Where all entries are found among equally many others, the others are found among them. -/
theorem found_symm {R : α → β → Prop} {entries : List (String × α)} {others : List (String × β)}
    (hnames : (entries.map Prod.fst).Nodup) (hothers : (others.map Prod.fst).Nodup)
    (hlength : entries.length = others.length)
    (h : ∀ entry ∈ entries, ∃ other, others.lookup entry.1 = some other ∧ R entry.2 other) :
    ∀ other ∈ others, ∃ entry, entries.lookup other.1 = some entry ∧ R entry other.2 := by
  intro other hother
  have hperm : (entries.map Prod.fst).Perm (others.map Prod.fst) :=
    names_perm_of_found hnames hlength fun entry hentry => (h entry hentry).imp fun _ => And.left
  have hname : other.1 ∈ entries.map Prod.fst := hperm.symm.subset (List.mem_map_of_mem hother)
  obtain ⟨entry, hentry⟩ := Option.isSome_iff_exists.mp (mem_names_iff.mp hname)
  obtain ⟨found, hfound, hrelated⟩ := h _ (mem_of_lookup_eq_some hentry)
  rw [lookup_eq_some_of_mem hothers hother, Option.some.injEq] at hfound
  exact ⟨entry, hentry, hfound ▸ hrelated⟩

theorem nodup_eraseDups [BEq α] [LawfulBEq α] (values : List α) : values.eraseDups.Nodup := by
  match values with
  | [] => simp
  | value :: rest =>
      rw [List.eraseDups_cons, List.nodup_cons]
      constructor
      · simp [List.mem_eraseDups]
      · exact nodup_eraseDups (rest.filter fun other => !other == value)
termination_by values.length
decreasing_by exact Nat.lt_succ_of_le (List.length_filter_le _ _)

theorem eraseDups_sublist [BEq α] (values : List α) : values.eraseDups.Sublist values := by
  match values with
  | [] => simp
  | value :: rest =>
      rw [List.eraseDups_cons]
      have hrest := eraseDups_sublist (rest.filter fun other => !other == value)
      exact .cons_cons value (hrest.trans List.filter_sublist)
termination_by values.length
decreasing_by exact Nat.lt_succ_of_le (List.length_filter_le _ _)

/-- Leaving names out does not change which of the others come first. -/
theorem eraseDups_filter (keep : String → Bool) (names : List String) :
    (names.filter keep).eraseDups = names.eraseDups.filter keep := by
  match names with
  | [] => simp
  | name :: rest =>
      have hrest := eraseDups_filter keep (rest.filter fun other => !other == name)
      rw [List.eraseDups_cons]
      cases hkeep : keep name with
      | true =>
          rw [List.filter_cons_of_pos hkeep, List.eraseDups_cons, List.filter_cons_of_pos hkeep,
            ← hrest, List.filter_filter, List.filter_filter]
          simp only [Bool.and_comm]
      | false =>
          have hskip :
              rest.filter keep = (rest.filter fun other => !other == name).filter keep := by
            rw [List.filter_filter]
            apply List.filter_congr
            intro other _
            cases hother : other == name with
            | true => simp [beq_iff_eq.mp hother, hkeep]
            | false => simp
          rw [List.filter_cons_of_neg (by simp [hkeep]), List.filter_cons_of_neg (by simp [hkeep]),
            hskip, hrest]
termination_by names.length
decreasing_by exact Nat.lt_succ_of_le (List.length_filter_le _ _)

/-! ## First occurrences -/

/-- The names are all that occur, each of them once, in the order in which they
occur for the first time. -/
structure FirstSeen (occurrences names : List String) : Prop where
  mem_iff : ∀ name, name ∈ names ↔ name ∈ occurrences
  ordered : names.Pairwise fun left right =>
    occurrences.idxOf left < occurrences.idxOf right

/-- What is left out does not change which of two names comes first. -/
theorem idxOf_lt_of_filter {keep : String → Bool} {left right : String} {names : List String}
    (hleft : keep left = true) (hright : keep right = true)
    (h : (names.filter keep).idxOf left < (names.filter keep).idxOf right) :
    names.idxOf left < names.idxOf right := by
  induction names with
  | nil => simp at h
  | cons name rest ih =>
      cases hname : keep name with
      | true =>
          rw [List.filter_cons_of_pos hname, List.idxOf_cons, List.idxOf_cons] at h
          rw [List.idxOf_cons, List.idxOf_cons]
          grind
      | false =>
          have hne {other : String} (hother : keep other = true) : (name == other) = false := by
            rw [beq_eq_false_iff_ne]
            rintro rfl
            simp [hname] at hother
          rw [List.filter_cons_of_neg (by simp [hname])] at h
          rw [List.idxOf_cons, List.idxOf_cons, hne hleft, hne hright]
          simpa using ih h

theorem firstSeen_eraseDups (names : List String) : FirstSeen names names.eraseDups := by
  refine ⟨fun name => List.mem_eraseDups, ?_⟩
  match names with
  | [] => simp
  | name :: rest =>
      have hrest := (firstSeen_eraseDups (rest.filter fun other => !other == name)).ordered
      have hne {other : String}
          (hother : other ∈ (rest.filter fun other => !other == name).eraseDups) :
          (name == other) = false := by
        rw [List.mem_eraseDups, List.mem_filter, Bool.not_eq_true', beq_eq_false_iff_ne] at hother
        exact beq_eq_false_iff_ne.mpr hother.2.symm
      rw [List.eraseDups_cons, List.pairwise_cons]
      constructor
      · intro other hother
        rw [List.idxOf_cons_self, List.idxOf_cons, hne hother]
        simp
      · refine hrest.imp_of_mem fun {left right} hleft hright hlt => ?_
        have hkeep {other : String} (hother : (name == other) = false) :
            (!other == name) = true := by
          rw [Bool.beq_comm, hother, Bool.not_false]
        have hbefore : rest.idxOf left < rest.idxOf right :=
          idxOf_lt_of_filter (hkeep (hne hleft)) (hkeep (hne hright)) hlt
        rw [List.idxOf_cons, List.idxOf_cons, hne hleft, hne hright]
        simpa using hbefore
termination_by names.length
decreasing_by exact Nat.lt_succ_of_le (List.length_filter_le _ _)

end JsonShape
