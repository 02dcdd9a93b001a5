import SearchLink.Catalog
import Mathlib.Data.List.Induction
import Mathlib.Data.List.Nodup

/-!
# `SearchLink.Proofs.Catalog.Construction`: what a catalog is built from

`Catalog.ofSettings` adds the engines of a list one by one and stops at the first that cannot be
added. This module says what comes out in terms of the list alone.

`faultAt?` is what is wrong with the settings at an index: their alias is blank, or some settings
in front of them have it. `Holds` says what a catalog is after some settings have been added: it
has their engines, in the order of the aliases. `Holds.add_eq` and `Holds.insert` are the step
for one more settings, and `ofSettings_run` is the run over all of them, by induction from the
end of the list: a catalog that holds them all, or the first fault.

An engine stands where its alias belongs, so a catalog does not depend on the order of its
settings (`Ordered.eq_of_perm`).
-/

set_option autoImplicit false

namespace SearchLink.Catalog

/-! ### Engines in order -/

/-- Engines in the order of their aliases, no two with the same one. -/
def Ordered (engines : List Engine) : Prop := engines.Pairwise fun e f => e.key < f.key

/-- An engine that is put in its place is one more engine. -/
theorem insertInOrder_perm (e : Engine) (engines : List Engine) :
    (insertInOrder e engines).Perm (e :: engines) := by
  induction engines with
  | nil => exact .refl _
  | cons f r ih =>
    rw [insertInOrder]
    split
    · exact .refl _
    · exact (ih.cons f).trans (.swap e f r)

/-- Its place is the one that keeps the order, if its alias is new. -/
theorem Ordered.insertInOrder {engines : List Engine} {e : Engine} (h : Ordered engines)
    (hnew : ∀ f ∈ engines, f.key ≠ e.key) : Ordered (insertInOrder e engines) := by
  induction engines with
  | nil => exact List.pairwise_singleton _ e
  | cons f r ih =>
    obtain ⟨hfirst, hrest⟩ := List.pairwise_cons.1 h
    rw [Catalog.insertInOrder]
    split
    · rename_i hlt
      refine List.pairwise_cons.2 ⟨?_, h⟩
      intro g hg
      rcases List.mem_cons.1 hg with rfl | hg
      · exact hlt
      · exact List.lt_trans hlt (hfirst g hg)
    · rename_i hle
      have hfe : f.key < e.key := by
        by_contra hge
        exact hnew f List.mem_cons_self (Std.Trichotomous.trichotomous f.key e.key hge hle)
      refine List.pairwise_cons.2 ⟨?_, ih hrest fun g hg => hnew g (List.mem_cons_of_mem f hg)⟩
      intro g hg
      rcases List.mem_cons.1 ((insertInOrder_perm e r).mem_iff.1 hg) with rfl | hg
      · exact hfe
      · exact hfirst g hg

/-- The aliases are all different. -/
theorem Ordered.nodup_keys {engines : List Engine} (h : Ordered engines) :
    (engines.map Engine.key).Nodup := by
  refine List.pairwise_map.2 (h.imp ?_)
  intro e f hlt hsame
  rw [hsame] at hlt
  exact List.lt_irrefl _ hlt

/-- Engines have one order only. -/
theorem Ordered.eq_of_perm {engines engines' : List Engine} (h : Ordered engines)
    (h' : Ordered engines') (hperm : engines.Perm engines') : engines = engines' := by
  refine List.Perm.eq_of_pairwise ?_ h h' hperm
  intro e f _ _ hlt hgt
  exact absurd (List.lt_trans hlt hgt) (List.lt_irrefl _)

/-- What is found under an alias is the engine that has it. -/
theorem get?_eq_some_iff {c : Catalog} (h : Ordered c.engines) {key : Text} {e : Engine} :
    c.get? key = some e ↔ e ∈ c.engines ∧ e.key = key := by
  constructor
  · intro hfound
    exact ⟨List.mem_of_find?_eq_some hfound, by simpa using List.find?_some hfound⟩
  · rintro ⟨he, rfl⟩
    have hsome : (c.get? e.key).isSome := List.find?_isSome.2 ⟨e, he, by simp⟩
    obtain ⟨f, hfound⟩ := Option.isSome_iff_exists.1 hsome
    have hf : f ∈ c.engines := List.mem_of_find?_eq_some hfound
    have hkey : f.key = e.key := by simpa using List.find?_some hfound
    rw [hfound, List.inj_on_of_nodup_map h.nodup_keys hf he hkey]

/-- Nothing is found under an alias that no engine has. -/
theorem get?_eq_none_iff {c : Catalog} {key : Text} :
    c.get? key = none ↔ key ∉ c.engines.map Engine.key := by
  rw [get?, List.find?_eq_none, List.mem_map]
  simp

/-! ### Faults -/

/-- What is wrong with settings that stand behind others with some aliases. -/
def faultAfter? (earlier : List Text) (s : EngineSettings) : Option CatalogError :=
  if Text.trim s.key = [] then some (.blankKey s.name)
  else if s.key ∈ earlier then some (.duplicateKey s.key)
  else none

/-- What is wrong with the settings at an index of a list: their alias is blank, or settings in
front of them have it. -/
def faultAt? (settings : List EngineSettings) (i : Nat) : Option CatalogError :=
  settings[i]?.bind (faultAfter? ((settings.take i).map EngineSettings.key))

/-- At an index there is a fault, and there is none in front of it. -/
def IsFirstFault (settings : List EngineSettings) (i : Nat) (error : CatalogError) : Prop :=
  faultAt? settings i = some error ∧ ∀ j, j < i → faultAt? settings j = none

/-- The first fault is one only. -/
theorem IsFirstFault.unique {settings : List EngineSettings} {i j : Nat}
    {error error' : CatalogError} (h : IsFirstFault settings i error)
    (h' : IsFirstFault settings j error') : error = error' := by
  rcases Nat.lt_trichotomy i j with hlt | rfl | hgt
  · have hnone := h'.2 i hlt
    rw [h.1] at hnone
    simp at hnone
  · exact Option.some.inj (h.1.symm.trans h'.1)
  · have hnone := h.2 j hgt
    rw [h'.1] at hnone
    simp at hnone

section
variable {done : List EngineSettings} {s : EngineSettings}

/-- Settings at the end change nothing for those in front of them. -/
theorem faultAt?_append_of_lt {i : Nat} (h : i < done.length) :
    faultAt? (done ++ [s]) i = faultAt? done i := by
  rw [faultAt?, faultAt?, List.getElem?_append_left h,
    List.take_append_of_le_length (Nat.le_of_lt h)]

/-- The settings at the end have all others in front of them. -/
theorem faultAt?_append_length :
    faultAt? (done ++ [s]) done.length = faultAfter? (done.map EngineSettings.key) s := by
  rw [faultAt?, List.getElem?_concat_length, List.take_left, Option.bind_some]

/-- Behind the end there are no settings. -/
theorem faultAt?_of_length_le {i : Nat} (h : done.length ≤ i) : faultAt? done i = none := by
  rw [faultAt?, List.getElem?_eq_none h, Option.bind_none]

/-- A list is free of faults when it is up to its last settings, and those have none. -/
theorem forall_faultAt?_append_iff :
    (∀ i, faultAt? (done ++ [s]) i = none) ↔
      (∀ i, faultAt? done i = none) ∧ faultAfter? (done.map EngineSettings.key) s = none := by
  constructor
  · intro h
    refine ⟨fun i => ?_, faultAt?_append_length ▸ h done.length⟩
    rcases Nat.lt_or_ge i done.length with hi | hi
    · rw [← faultAt?_append_of_lt hi]
      exact h i
    · exact faultAt?_of_length_le hi
  · rintro ⟨hfront, hlast⟩ i
    rcases Nat.lt_trichotomy i done.length with hi | rfl | hi
    · rw [faultAt?_append_of_lt hi]
      exact hfront i
    · rw [faultAt?_append_length]
      exact hlast
    · refine faultAt?_of_length_le ?_
      rw [List.length_append, List.length_singleton]
      exact hi

end

/-- Settings are in order behind others when their alias is not blank and new. -/
theorem faultAfter?_eq_none_iff {earlier : List Text} {s : EngineSettings} :
    faultAfter? earlier s = none ↔ Text.trim s.key ≠ [] ∧ s.key ∉ earlier := by
  unfold faultAfter?
  by_cases hblank : Text.trim s.key = []
  · simp [hblank]
  · by_cases htaken : s.key ∈ earlier <;> simp [hblank, htaken]

/-- A list is free of faults when no alias is blank and all are different. -/
theorem forall_faultAt?_eq_none_iff {settings : List EngineSettings} :
    (∀ i, faultAt? settings i = none) ↔
      (∀ s ∈ settings, Text.trim s.key ≠ []) ∧ (settings.map EngineSettings.key).Nodup := by
  induction settings using List.reverseRecOn with
  | nil => simp [faultAt?]
  | append_singleton done s ih =>
    rw [forall_faultAt?_append_iff, ih, faultAfter?_eq_none_iff, List.map_append,
      List.map_singleton, List.forall_mem_append, List.forall_mem_singleton,
      ← List.concat_eq_append, List.nodup_concat]
    tauto

/-! ### Adding engines -/

/-- What a catalog is after some settings have been added: it has their engines, in order. -/
structure Holds (c : Catalog) (done : List EngineSettings) : Prop where
  /-- The engines stand in the order of their aliases. -/
  ordered : Ordered c.engines
  /-- They are the engines of the settings. -/
  perm : c.engines.Perm (done.map Engine.ofSettings)

section
variable {c : Catalog} {done : List EngineSettings} {s : EngineSettings}

/-- The aliases are those of the settings. -/
theorem Holds.mem_keys_iff (h : Holds c done) {key : Text} :
    key ∈ c.engines.map Engine.key ↔ key ∈ done.map EngineSettings.key := by
  have hkeys : (done.map Engine.ofSettings).map Engine.key = done.map EngineSettings.key := by
    rw [List.map_map]
    rfl
  rw [(h.perm.map Engine.key).mem_iff, hkeys]

/-- An alias is taken when settings that have been added have it. -/
theorem Holds.isSome_get?_iff (h : Holds c done) {key : Text} :
    (c.get? key).isSome ↔ key ∈ done.map EngineSettings.key := by
  rw [← h.mem_keys_iff, Option.isSome_iff_ne_none, ne_eq, get?_eq_none_iff, not_not]

/-- Settings with a fault are not added, all others are. -/
theorem Holds.add_eq (h : Holds c done) :
    c.add s = match faultAfter? (done.map EngineSettings.key) s with
      | some error => .error error
      | none => .ok (c.insert (Engine.ofSettings s)) := by
  unfold add faultAfter?
  by_cases hblank : Text.trim s.key = []
  · rw [if_pos (List.isEmpty_iff.2 hblank), if_pos hblank]
  · rw [if_neg (mt List.isEmpty_iff.1 hblank), if_neg hblank]
    by_cases htaken : s.key ∈ done.map EngineSettings.key
    · rw [if_pos (h.isSome_get?_iff.2 htaken), if_pos htaken]
    · rw [if_neg (mt h.isSome_get?_iff.1 htaken), if_neg htaken]

/-- With the engine of settings without a fault a catalog holds them, too. -/
theorem Holds.insert (h : Holds c done)
    (hfault : faultAfter? (done.map EngineSettings.key) s = none) :
    Holds (c.insert (Engine.ofSettings s)) (done ++ [s]) where
  ordered := by
    refine h.ordered.insertInOrder ?_
    intro e he hkey
    have htaken : s.key ∈ done.map EngineSettings.key :=
      h.mem_keys_iff.1 (List.mem_map.2 ⟨e, he, hkey⟩)
    exact (faultAfter?_eq_none_iff.1 hfault).2 htaken
  perm := by
    have hmap : (done ++ [s]).map Engine.ofSettings
        = done.map Engine.ofSettings ++ [Engine.ofSettings s] := List.map_append
    rw [hmap]
    calc (insertInOrder (Engine.ofSettings s) c.engines).Perm
          (Engine.ofSettings s :: c.engines) := insertInOrder_perm _ _
      List.Perm _ (Engine.ofSettings s :: done.map Engine.ofSettings) := h.perm.cons _
      List.Perm _ (done.map Engine.ofSettings ++ [Engine.ofSettings s]) :=
        (List.perm_append_singleton _ _).symm

/-- The last settings of a list are added to the catalog of the others. -/
theorem ofSettings_append (done : List EngineSettings) (s : EngineSettings) :
    ofSettings (done ++ [s]) = (ofSettings done).bind fun c => c.add s := by
  rw [ofSettings, List.foldlM_append, ofSettings]
  cases List.foldlM add empty done with
  | error error => rfl
  | ok c =>
    show (c.add s).bind pure = c.add s
    cases c.add s <;> rfl

end

/-- A catalog comes out that holds all settings, and there is no fault, or the first fault comes
out. -/
theorem ofSettings_run (settings : List EngineSettings) :
    (∃ c, ofSettings settings = .ok c ∧ Holds c settings ∧ ∀ i, faultAt? settings i = none) ∨
      ∃ error i, ofSettings settings = .error error ∧ IsFirstFault settings i error := by
  induction settings using List.reverseRecOn with
  | nil => exact .inl ⟨empty, rfl, ⟨List.Pairwise.nil, .refl _⟩, fun _ => rfl⟩
  | append_singleton done s ih =>
    rcases ih with ⟨c, hrun, hholds, hnone⟩ | ⟨error, i, hrun, hfirst⟩
    · have hadd : ofSettings (done ++ [s]) = c.add s := by
        rw [ofSettings_append, hrun]
        rfl
      rw [hadd, hholds.add_eq]
      cases hfault : faultAfter? (done.map EngineSettings.key) s with
      | none =>
        exact .inl ⟨_, rfl, hholds.insert hfault, forall_faultAt?_append_iff.2 ⟨hnone, hfault⟩⟩
      | some error =>
        refine .inr ⟨error, done.length, rfl, ?_, ?_⟩
        · rw [faultAt?_append_length, hfault]
        · intro j hj
          rw [faultAt?_append_of_lt hj]
          exact hnone j
    · -- The run has stopped in front of the last settings.
      have hi : i < done.length := by
        rw [← Nat.not_le]
        intro hle
        rw [IsFirstFault, faultAt?_of_length_le hle] at hfirst
        simp at hfirst
      refine .inr ⟨error, i, ?_, ?_, ?_⟩
      · rw [ofSettings_append, hrun]
        rfl
      · rw [faultAt?_append_of_lt hi]
        exact hfirst.1
      · intro j hj
        rw [faultAt?_append_of_lt (Nat.lt_trans hj hi)]
        exact hfirst.2 j hj

/-! ### What comes out -/

section
variable {settings settings' : List EngineSettings} {c c' : Catalog}

/-- What a catalog holds says what it is, whatever the order of the settings. -/
theorem Holds.unique (h : Holds c settings) (h' : Holds c' settings')
    (hperm : settings.Perm settings') : c = c' := by
  have hengines : c.engines.Perm c'.engines :=
    h.perm.trans ((hperm.map Engine.ofSettings).trans h'.perm.symm)
  cases c
  cases c'
  exact congrArg Catalog.mk (h.ordered.eq_of_perm h'.ordered hengines)

/-- A catalog comes out when it holds the settings and these are free of faults. -/
theorem ofSettings_eq_ok_iff :
    ofSettings settings = .ok c ↔ Holds c settings ∧ ∀ i, faultAt? settings i = none := by
  constructor
  · intro hok
    rcases ofSettings_run settings with ⟨c', hrun, hholds, hnone⟩ | ⟨error, i, hrun, -⟩
    · rw [hok] at hrun
      obtain rfl := Except.ok.inj hrun
      exact ⟨hholds, hnone⟩
    · rw [hok] at hrun
      simp at hrun
  · rintro ⟨hholds, hnone⟩
    rcases ofSettings_run settings with ⟨c', hrun, hholds', -⟩ | ⟨error, i, -, hfirst⟩
    · rw [hrun, hholds'.unique hholds (.refl _)]
    · rw [IsFirstFault, hnone i] at hfirst
      simp at hfirst

/-- An error comes out when it is the first fault. -/
theorem ofSettings_eq_error_iff {error : CatalogError} :
    ofSettings settings = .error error ↔ ∃ i, IsFirstFault settings i error := by
  constructor
  · intro herror
    rcases ofSettings_run settings with ⟨c, hrun, -⟩ | ⟨error', i, hrun, hfirst⟩
    · rw [herror] at hrun
      simp at hrun
    · rw [herror] at hrun
      obtain rfl := Except.error.inj hrun
      exact ⟨i, hfirst⟩
  · rintro ⟨i, hfirst⟩
    rcases ofSettings_run settings with ⟨c, -, -, hnone⟩ | ⟨error', j, hrun, hfirst'⟩
    · rw [IsFirstFault, hnone i] at hfirst
      simp at hfirst
    · rw [hrun, hfirst'.unique hfirst]

/-- In another order the settings give the same catalog. -/
theorem ofSettings_eq_ok_of_perm (hok : ofSettings settings = .ok c)
    (hperm : settings.Perm settings') : ofSettings settings' = .ok c := by
  obtain ⟨hholds, hnone⟩ := ofSettings_eq_ok_iff.1 hok
  obtain ⟨hblank, hnodup⟩ := forall_faultAt?_eq_none_iff.1 hnone
  refine ofSettings_eq_ok_iff.2 ⟨⟨hholds.ordered, ?_⟩, forall_faultAt?_eq_none_iff.2 ⟨?_, ?_⟩⟩
  · exact hholds.perm.trans (hperm.map Engine.ofSettings)
  · intro s hs
    exact hblank s (hperm.mem_iff.2 hs)
  · exact (hperm.map EngineSettings.key).nodup_iff.1 hnodup

/-- Faults depend on the aliases and names alone. -/
theorem faultAt?_congr
    (h : settings.map (fun s => (s.key, s.name)) = settings'.map fun s => (s.key, s.name))
    (i : Nat) : faultAt? settings i = faultAt? settings' i := by
  have hkeys : (settings.take i).map EngineSettings.key
      = (settings'.take i).map EngineSettings.key := by
    have htake := congrArg (fun entries => (entries.take i).map Prod.fst) h
    simp only [← List.map_take, List.map_map] at htake
    exact htake
  have hentry : settings[i]?.map (fun s => (s.key, s.name))
      = settings'[i]?.map fun s => (s.key, s.name) := by
    rw [← List.getElem?_map, h, List.getElem?_map]
  rw [faultAt?, faultAt?, hkeys]
  cases hs : settings[i]? with
  | none =>
    rw [hs, Option.map_none, eq_comm, Option.map_eq_none_iff] at hentry
    rw [hentry]
  | some s =>
    rw [hs, Option.map_some, eq_comm, Option.map_eq_some_iff] at hentry
    obtain ⟨s', hs', hsame⟩ := hentry
    obtain ⟨hkey, hname⟩ := Prod.mk.inj hsame
    rw [hs', Option.bind_some, Option.bind_some, faultAfter?, faultAfter?, hkey, hname]

end

/-- **What a catalog is built from.** Take any list of settings.

* A catalog comes out when no alias is blank and all aliases are different.
* Its engines are those of the settings, encoding unless the settings say not to, in the strict
  order of their aliases. The engine under an alias is the one that has it, and there is none
  under any other alias. It has as many engines as there are settings, and the settings in every
  other order give the same catalog.
* Otherwise the first fault comes out: a blank alias is reported with the name of the engine,
  and an alias that stands in front already is reported itself.
* Nothing but the aliases and names of the settings decides about that, so no problem that a
  template shows does. -/
theorem ofSettings_engines_or_first_fault (settings : List EngineSettings) :
    ((∃ c, ofSettings settings = .ok c) ↔
      (∀ s ∈ settings, Text.trim s.key ≠ []) ∧ (settings.map EngineSettings.key).Nodup) ∧
    (∀ c, ofSettings settings = .ok c →
      c.engines.Pairwise (fun e f => e.key < f.key) ∧
      c.engines.Perm (settings.map fun s =>
        ⟨s.key, s.name, s.template, s.description, s.encode.getD true⟩) ∧
      (∀ key e, c.get? key = some e ↔ e ∈ c.engines ∧ e.key = key) ∧
      (∀ key, c.get? key = none ↔ key ∉ settings.map EngineSettings.key) ∧
      c.size = settings.length ∧
      ∀ settings', settings.Perm settings' → ofSettings settings' = .ok c) ∧
    (∀ error, ofSettings settings = .error error ↔ ∃ i, IsFirstFault settings i error) ∧
    ∀ settings' : List EngineSettings,
      settings.map (fun s => (s.key, s.name)) = settings'.map (fun s => (s.key, s.name)) →
        ∀ error, ofSettings settings = .error error ↔ ofSettings settings' = .error error := by
  refine ⟨?_, ?_, fun error => ofSettings_eq_error_iff, ?_⟩
  · rw [← forall_faultAt?_eq_none_iff]
    constructor
    · rintro ⟨c, hok⟩
      exact (ofSettings_eq_ok_iff.1 hok).2
    · intro hnone
      rcases ofSettings_run settings with ⟨c, hrun, -⟩ | ⟨error, i, -, hfirst⟩
      · exact ⟨c, hrun⟩
      · rw [IsFirstFault, hnone i] at hfirst
        simp at hfirst
  · intro c hok
    obtain ⟨hholds, -⟩ := ofSettings_eq_ok_iff.1 hok
    refine ⟨hholds.ordered, hholds.perm, fun key e => get?_eq_some_iff hholds.ordered, ?_, ?_,
      fun settings' hperm => ofSettings_eq_ok_of_perm hok hperm⟩
    · intro key
      rw [get?_eq_none_iff, hholds.mem_keys_iff]
    · rw [size, hholds.perm.length_eq, List.length_map]
  · intro settings' hsame error
    simp only [ofSettings_eq_error_iff, IsFirstFault, faultAt?_congr hsame]

/-- Two engines whose templates are not in order make a catalog in either order. A third one
with a blank alias is not reported when the second has the alias of the first. -/
theorem ofSettings_engines_or_first_fault_two :
    (∃ c, ofSettings [⟨['g'], ['G'], "ftp://g/".toList, none, none⟩,
          ⟨['d'], ['D'], [], none, some false⟩] = .ok c ∧
        ofSettings [⟨['d'], ['D'], [], none, some false⟩,
          ⟨['g'], ['G'], "ftp://g/".toList, none, none⟩] = .ok c ∧
        c.size = 2 ∧ c.get? ['G'] = none) ∧
      Template.lint "ftp://g/".toList ≠ [] ∧ Template.lint [] ≠ [] ∧
      ofSettings [⟨['g'], ['G'], [], none, none⟩, ⟨['g'], ['H'], [], none, none⟩,
        ⟨[' '], ['I'], [], none, none⟩] = .error (.duplicateKey ['g']) := by
  obtain ⟨hok, hcatalog, -, -⟩ := ofSettings_engines_or_first_fault
    [⟨['g'], ['G'], "ftp://g/".toList, none, none⟩, ⟨['d'], ['D'], [], none, some false⟩]
  obtain ⟨c, hc⟩ := hok.2 (by decide)
  obtain ⟨-, -, -, hnone, hsize, hperm⟩ := hcatalog c hc
  obtain ⟨-, -, herror, -⟩ := ofSettings_engines_or_first_fault
    [⟨['g'], ['G'], [], none, none⟩, ⟨['g'], ['H'], [], none, none⟩,
      ⟨[' '], ['I'], [], none, none⟩]
  refine ⟨⟨c, hc, hperm _ (.swap _ _ _), hsize, (hnone _).2 (by decide)⟩, ?_, ?_,
    (herror _).2 ⟨1, by decide, by decide⟩⟩
  · decide +kernel
  · decide +kernel

end SearchLink.Catalog
