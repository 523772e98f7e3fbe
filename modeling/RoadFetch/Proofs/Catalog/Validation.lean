import RoadFetch.Catalog.Basic
import RoadFetch.World.Basic
import RoadFetch.Proofs.Session.Counters
import Mathlib

/-! # Which catalogs are accepted

A catalog specification is accepted exactly when it is *valid* (`CatalogSpec.Valid`): its
default dog speed and every map's dog speed are finite and at least zero, the retirement time
and the spawn period are spans of seconds, the spawn chance lies in `[0, 1]`, the map ids are
distinct, every road names an end, and the office ids of each map are distinct.

The checks are spread over folds that stop at the first refusal. Such a fold succeeds exactly
when each element passes its own check (`foldlM_ok_iff_forall`) and, where the fold refuses a
key it already holds, when the keys are moreover new and distinct (`foldlM_fresh_ok_iff`).
An accepted catalog has the roads its specification describes, each along one axis, and a world
can be built over its maps, which never clash.

Main statement: `Catalog.parse_ok_iff_valid`.
-/

namespace RoadFetch

/-! ### Folds that stop at the first refusal -/

theorem bind_ok_iff {ε α β : Type} {x : Except ε α} {f : α → Except ε β} :
    (∃ b, x >>= f = .ok b) ↔ ∃ a, x = .ok a ∧ ∃ b, f a = .ok b := by
  simp only [bind_eq_ok]
  exact ⟨fun ⟨b, a, ha, hb⟩ => ⟨a, ha, b, hb⟩, fun ⟨a, ha, b, hb⟩ => ⟨b, a, ha, hb⟩⟩

/-- A fold whose step succeeds exactly when the element passes its own check succeeds exactly
when every element passes. -/
theorem foldlM_ok_iff_forall {ε σ α : Type} (ok : α → Prop) (step : σ → α → Except ε σ)
    (hstep : ∀ s a, (∃ s', step s a = .ok s') ↔ ok a) :
    ∀ (l : List α) (s : σ), (∃ s', l.foldlM step s = .ok s') ↔ ∀ a ∈ l, ok a
  | [], s => by simp [pure, Except.pure]
  | a :: l, s => by
    simp only [List.foldlM_cons, bind_ok_iff, List.forall_mem_cons]
    constructor
    · rintro ⟨s', hs', hrest⟩
      exact ⟨(hstep s a).mp ⟨s', hs'⟩, (foldlM_ok_iff_forall ok step hstep l s').mp hrest⟩
    · rintro ⟨ha, hl⟩
      obtain ⟨s', hs'⟩ := (hstep s a).mpr ha
      exact ⟨s', hs', (foldlM_ok_iff_forall ok step hstep l s').mpr hl⟩

/-- A fold that records a key per element and refuses an element whose key it holds already
succeeds exactly when every element passes its own check with a key the start does not hold,
and the keys of the elements are distinct. -/
theorem foldlM_fresh_ok_iff {ε σ α κ : Type} (keys : σ → List κ) (keyOf : α → κ) (ok : α → Prop)
    (step : σ → α → Except ε σ)
    (hstep : ∀ s a, (∃ s', step s a = .ok s') ↔ keyOf a ∉ keys s ∧ ok a)
    (hkeys : ∀ s a s', step s a = .ok s' → keys s' = keys s ++ [keyOf a]) :
    ∀ (l : List α) (s : σ), (∃ s', l.foldlM step s = .ok s') ↔
      (∀ a ∈ l, keyOf a ∉ keys s ∧ ok a) ∧ (l.map keyOf).Nodup
  | [], s => by simp [pure, Except.pure]
  | a :: l, s => by
    simp only [List.foldlM_cons, bind_ok_iff, List.forall_mem_cons, List.map_cons,
      List.nodup_cons, List.mem_map, not_exists, not_and]
    constructor
    · rintro ⟨s', hs', hrest⟩
      -- the rest of the fold starts from the keys of `s` and the key of `a`
      have hrest := (foldlM_fresh_ok_iff keys keyOf ok step hstep hkeys l s').mp hrest
      rw [hkeys s a s' hs'] at hrest
      refine ⟨⟨(hstep s a).mp ⟨s', hs'⟩, fun b hb => ?_⟩, fun b hb hab => ?_, hrest.2⟩
      · exact ⟨fun h => (hrest.1 b hb).1 (List.mem_append_left _ h), (hrest.1 b hb).2⟩
      · exact (hrest.1 b hb).1 (by simp [hab])
    · rintro ⟨⟨ha, hl⟩, hfresh, hnd⟩
      obtain ⟨s', hs'⟩ := (hstep s a).mpr ha
      refine ⟨s', hs', (foldlM_fresh_ok_iff keys keyOf ok step hstep hkeys l s').mpr ⟨?_, hnd⟩⟩
      rw [hkeys s a s' hs']
      intro b hb
      simp only [List.mem_append, List.mem_singleton, not_or]
      exact ⟨⟨(hl b hb).1, fun h => hfresh b hb h⟩, (hl b hb).2⟩

/-- A fold whose every step adds the image of its element to the state, through an action
that adds lists one after the other, adds the images of all the elements in order. -/
theorem foldlM_eq_act {ε σ α β : Type} {step : σ → α → Except ε σ} (act : σ → List β → σ)
    (g : α → β) (hact : ∀ s xs ys, act (act s xs) ys = act s (xs ++ ys))
    (hnil : ∀ s, act s [] = s) (hstep : ∀ s a s', step s a = .ok s' → s' = act s [g a]) :
    ∀ {l : List α} {s s' : σ}, l.foldlM step s = .ok s' → s' = act s (l.map g)
  | [], s, s', h => by
    simp only [List.foldlM_nil, pure_eq_ok] at h
    rw [← h, List.map_nil, hnil]
  | a :: l, s, s', h => by
    simp only [List.foldlM_cons, bind_eq_ok] at h
    obtain ⟨s₁, h₁, h⟩ := h
    rw [foldlM_eq_act act g hact hnil hstep h, hstep s a s₁ h₁, hact, List.map_cons,
      List.singleton_append]

/-! ### What a valid specification is -/

/-- A double the catalog takes as a speed: finite and at least zero. -/
def FiniteNonneg (x : Float) : Prop := (Decimal.Binary64.ofFloat x).isFinite = true ∧ 0.0 ≤ x

namespace RoadSpec

/-- The end a road specification gives: along the x axis to `x1` when it names one, otherwise
along the y axis to `y1` (the start itself when it names neither). -/
def stop (rs : RoadSpec) : GridPoint :=
  match rs.x1 with
  | some x1 => ⟨x1, rs.y0⟩
  | none => ⟨rs.x0, rs.y1.getD rs.y0⟩

/-- The road a specification describes. -/
def road (rs : RoadSpec) : Road := ⟨⟨rs.x0, rs.y0⟩, rs.stop⟩

theorem road_axisAligned (rs : RoadSpec) : rs.road.isAxisAligned = true := by
  cases h : rs.x1 <;> simp [road, stop, h, Road.isAxisAligned]

end RoadSpec

/-- The office a specification describes. -/
def OfficeSpec.office (o : OfficeSpec) : Office := ⟨o.id, ⟨o.x, o.y⟩, (o.offsetX, o.offsetY)⟩

/-- A map specification the catalog takes. -/
@[mk_iff]
structure MapSpec.Valid (ms : MapSpec) : Prop where
  dogSpeed : ∀ v ∈ ms.dogSpeed, FiniteNonneg v
  roadEnds : ∀ r ∈ ms.roads, r.x1.isSome ∨ r.y1.isSome
  officeIds : (ms.offices.map (·.id)).Nodup

/-- A catalog specification the catalog takes. -/
@[mk_iff]
structure CatalogSpec.Valid (s : CatalogSpec) : Prop where
  defaultDogSpeed : FiniteNonneg s.defaultDogSpeed
  retirement : (Duration.ofSecsFloat? s.dogRetirementTime).isSome
  period : ∀ g ∈ s.spawn, (Duration.ofSecsFloat? g.period).isSome
  probability : ∀ g ∈ s.spawn, 0.0 ≤ g.probability ∧ g.probability ≤ 1.0
  mapIds : (s.maps.map (·.id)).Nodup
  maps : ∀ ms ∈ s.maps, ms.Valid

instance (x : Float) : Decidable (FiniteNonneg x) := inferInstanceAs (Decidable (_ ∧ _))

instance (ms : MapSpec) : Decidable ms.Valid := decidable_of_iff _ (MapSpec.valid_iff ms).symm

instance (s : CatalogSpec) : Decidable s.Valid := decidable_of_iff _ (CatalogSpec.valid_iff s).symm

namespace Catalog

/-! ### One check at a time -/

theorem nonNegative_eq_ok {name : String} {x v : Float} :
    nonNegative name x = .ok v ↔ FiniteNonneg x ∧ v = x := by
  unfold nonNegative FiniteNonneg
  split
  · next h =>
    simp only [Bool.and_eq_true, decide_eq_true_eq] at h
    simp only [Except.ok.injEq, h, true_and]
    exact eq_comm
  · next h =>
    simp only [Bool.and_eq_true, decide_eq_true_eq] at h
    simp [h]

theorem nonNegative_ok_iff (name : String) {x : Float} :
    (∃ v, nonNegative name x = .ok v) ↔ FiniteNonneg x := by
  simp [nonNegative_eq_ok]

theorem seconds_ok_iff (name : String) {x : Float} :
    (∃ d, seconds name x = .ok d) ↔ (Duration.ofSecsFloat? x).isSome := by
  unfold seconds
  cases Duration.ofSecsFloat? x <;> simp

theorem dogSpeedOf_ok_iff {v : Option Float} :
    (∃ d, dogSpeedOf v = .ok d) ↔ ∀ x ∈ v, FiniteNonneg x := by
  cases v with
  | none => simp [dogSpeedOf, pure, Except.pure]
  | some x =>
    simp only [dogSpeedOf, Option.mem_def, Option.some.injEq, forall_eq']
    rw [← nonNegative_ok_iff "dogSpeed"]
    cases nonNegative "dogSpeed" x <;> simp [Functor.map, Except.map]

theorem spawnOf_ok_iff {g : SpawnSpec} :
    (∃ sp, spawnOf g = .ok sp) ↔
      (Duration.ofSecsFloat? g.period).isSome ∧ 0.0 ≤ g.probability ∧ g.probability ≤ 1.0 := by
  simp only [spawnOf, bind_ok_iff, ← seconds_ok_iff "lootGeneratorConfig.period"]
  by_cases hp : 0.0 ≤ g.probability ∧ g.probability ≤ 1.0
  · simp [hp, pure, Except.pure]
  · simp [hp, throw, throwThe, MonadExceptOf.throw]

theorem roadOf_eq_ok {id : String} {rs : RoadSpec} {r : Road} :
    roadOf id rs = .ok r ↔ (rs.x1.isSome ∨ rs.y1.isSome) ∧ r = rs.road := by
  obtain ⟨x0, y0, x1, y1⟩ := rs
  cases x1 <;> cases y1 <;>
    simp [roadOf, RoadSpec.road, RoadSpec.stop, Road.horizontal, Road.vertical, eq_comm]

/-! ### Building a map -/

theorem addRoadSpec_eq_ok {id : String} {m m' : Map} {rs : RoadSpec} :
    addRoadSpec id m rs = .ok m' ↔
      (rs.x1.isSome ∨ rs.y1.isSome) ∧ m' = { m with roads := m.roads ++ [rs.road] } := by
  simp only [addRoadSpec, bind_eq_ok, roadOf_eq_ok]
  constructor
  · rintro ⟨r, ⟨hend, rfl⟩, h⟩
    simp only [Map.addRoad, RoadSpec.road_axisAligned, if_true, inMap, Except.ok.injEq] at h
    exact ⟨hend, h.symm⟩
  · rintro ⟨hend, rfl⟩
    exact ⟨rs.road, ⟨hend, rfl⟩, by simp [Map.addRoad, RoadSpec.road_axisAligned, inMap]⟩

theorem addOfficeSpec_eq_ok {id : String} {m m' : Map} {o : OfficeSpec} :
    addOfficeSpec id m o = .ok m' ↔
      o.id ∉ m.offices.map (·.id) ∧ m' = { m with offices := m.offices ++ [o.office] } := by
  unfold addOfficeSpec Map.addOffice
  split
  · next h =>
    simp only [List.any_eq_true, beq_iff_eq] at h
    simp [inMap, h]
  · next h =>
    simp only [List.any_eq_true, beq_iff_eq, not_exists, not_and] at h
    simp only [inMap, Except.ok.injEq, List.mem_map, not_exists, not_and, OfficeSpec.office]
    exact ⟨fun he => ⟨h, he.symm⟩, fun ⟨_, he⟩ => he.symm⟩

/-- The roads of a specification go to the map in order, and nothing else changes. -/
theorem foldlM_addRoadSpec {id : String} {l : List RoadSpec} {m m' : Map}
    (h : l.foldlM (addRoadSpec id) m = .ok m') :
    m' = { m with roads := m.roads ++ l.map RoadSpec.road } :=
  foldlM_eq_act (fun m rs => { m with roads := m.roads ++ rs }) RoadSpec.road (by simp) (by simp)
    (fun _ _ _ h => (addRoadSpec_eq_ok.mp h).2) h

theorem foldlM_addRoadSpec_ok_iff (id : String) (l : List RoadSpec) (m : Map) :
    (∃ m', l.foldlM (addRoadSpec id) m = .ok m') ↔ ∀ rs ∈ l, rs.x1.isSome ∨ rs.y1.isSome :=
  foldlM_ok_iff_forall _ (addRoadSpec id) (fun _ _ => by simp [addRoadSpec_eq_ok]) l m

theorem foldlM_addOfficeSpec_ok_iff (id : String) (l : List OfficeSpec) (m : Map) :
    (∃ m', l.foldlM (addOfficeSpec id) m = .ok m') ↔
      (∀ o ∈ l, o.id ∉ m.offices.map (·.id)) ∧ (l.map (·.id)).Nodup := by
  have h := foldlM_fresh_ok_iff (fun m : Map => m.offices.map (·.id)) OfficeSpec.id (fun _ => True)
    (addOfficeSpec id) (fun _ _ => by simp [addOfficeSpec_eq_ok])
    (fun m o m' h => by simp [(addOfficeSpec_eq_ok.mp h).2, OfficeSpec.office]) l m
  simpa using h

/-- The offices of a specification go to the map in order, and nothing else changes. -/
theorem foldlM_addOfficeSpec {id : String} {l : List OfficeSpec} {m m' : Map}
    (h : l.foldlM (addOfficeSpec id) m = .ok m') :
    m' = { m with offices := m.offices ++ l.map OfficeSpec.office } :=
  foldlM_eq_act (fun m os => { m with offices := m.offices ++ os }) OfficeSpec.office (by simp)
    (by simp) (fun _ _ _ h => (addOfficeSpec_eq_ok.mp h).2) h

theorem foldlM_addRoadSpec_eq {id : String} {l : List RoadSpec} (m : Map)
    (h : ∀ rs ∈ l, rs.x1.isSome ∨ rs.y1.isSome) :
    l.foldlM (addRoadSpec id) m = .ok { m with roads := m.roads ++ l.map RoadSpec.road } := by
  obtain ⟨m', h'⟩ := (foldlM_addRoadSpec_ok_iff id l m).mpr h
  rw [h', foldlM_addRoadSpec h']

theorem foldlM_addOfficeSpec_eq {id : String} {l : List OfficeSpec} (m : Map)
    (hfresh : ∀ o ∈ l, o.id ∉ m.offices.map (·.id)) (hnd : (l.map (·.id)).Nodup) :
    l.foldlM (addOfficeSpec id) m = .ok { m with offices := m.offices ++ l.map OfficeSpec.office } := by
  obtain ⟨m', h'⟩ := (foldlM_addOfficeSpec_ok_iff id l m).mpr ⟨hfresh, hnd⟩
  rw [h', foldlM_addOfficeSpec h']

theorem mapOf_ok_iff (ms : MapSpec) : (∃ m, mapOf ms = .ok m) ↔ ms.Valid := by
  simp only [mapOf, bind_ok_iff, pure_eq_ok, exists_eq', and_true, MapSpec.valid_iff]
  constructor
  · rintro ⟨d, hd, m₁, h₁, m₂, h₂⟩
    have hoffices := (foldlM_addOfficeSpec_ok_iff ms.id _ _).mp ⟨m₂, h₂⟩
    exact ⟨dogSpeedOf_ok_iff.mp ⟨d, hd⟩, (foldlM_addRoadSpec_ok_iff ms.id _ _).mp ⟨m₁, h₁⟩,
      hoffices.2⟩
  · rintro ⟨hspeed, hroads, hoffices⟩
    obtain ⟨d, hd⟩ := dogSpeedOf_ok_iff.mpr hspeed
    -- the offices are added to a map that has none yet
    exact ⟨d, hd, _, foldlM_addRoadSpec_eq _ hroads, _,
      foldlM_addOfficeSpec_eq _ (by simp) hoffices⟩

/-- A map keeps the id of its specification and has the roads it describes. -/
theorem mapOf_eq_ok {ms : MapSpec} {m : Map} (h : mapOf ms = .ok m) :
    m.id = ms.id ∧ m.roads = ms.roads.map RoadSpec.road := by
  simp only [mapOf, bind_eq_ok, pure_eq_ok] at h
  obtain ⟨d, -, m₁, h₁, m₂, h₂, rfl⟩ := h
  rw [foldlM_addOfficeSpec h₂, foldlM_addRoadSpec h₁]
  simp

/-! ### Building the catalog -/

theorem addMapSpec_eq_ok {acc acc' : List Map} {ms : MapSpec} :
    addMapSpec acc ms = .ok acc' ↔
      ms.id ∉ acc.map (·.id) ∧ ∃ m, mapOf ms = .ok m ∧ acc' = acc ++ [m] := by
  unfold addMapSpec
  by_cases h : acc.any (·.id == ms.id)
  · have h' : ms.id ∈ acc.map (·.id) := by simpa using h
    simp [h, h', throw, throwThe, MonadExceptOf.throw, bind, Except.bind]
  · have h' : ms.id ∉ acc.map (·.id) := by simpa using h
    simp only [h, Bool.false_eq_true, if_false, h', not_false_eq_true, true_and]
    simp only [bind_eq_ok, pure_eq_ok]
    exact ⟨fun ⟨m, hm, he⟩ => ⟨m, hm, he.symm⟩, fun ⟨m, hm, he⟩ => ⟨m, hm, he.symm⟩⟩

theorem foldlM_addMapSpec_ok_iff (l : List MapSpec) :
    (∃ r, l.foldlM addMapSpec [] = .ok r) ↔ (l.map (·.id)).Nodup ∧ ∀ ms ∈ l, ms.Valid := by
  have h := foldlM_fresh_ok_iff (fun acc : List Map => acc.map (·.id)) MapSpec.id
    (fun ms => ∃ m, mapOf ms = .ok m) addMapSpec
    (fun _ _ => by simp [addMapSpec_eq_ok])
    (fun acc ms acc' h => by
      obtain ⟨-, m, hm, rfl⟩ := addMapSpec_eq_ok.mp h
      simp [(mapOf_eq_ok hm).1])
    l []
  simp only [List.map_nil, List.not_mem_nil, not_false_eq_true, true_and, mapOf_ok_iff] at h
  rw [h, and_comm]

/-- The maps of a catalog keep the ids of their specifications and have the roads they
describe. -/
theorem foldlM_addMapSpec : ∀ {l : List MapSpec} {acc r : List Map},
    l.foldlM addMapSpec acc = .ok r →
      r.map (fun m => (m.id, m.roads)) =
        acc.map (fun m => (m.id, m.roads)) ++ l.map fun ms => (ms.id, ms.roads.map RoadSpec.road)
  | [], acc, r, h => by
    simp only [List.foldlM_nil, pure_eq_ok] at h
    simp [h]
  | ms :: l, acc, r, h => by
    simp only [List.foldlM_cons, bind_eq_ok] at h
    obtain ⟨acc₁, h₁, h⟩ := h
    obtain ⟨-, m, hm, rfl⟩ := addMapSpec_eq_ok.mp h₁
    obtain ⟨hid, hroads⟩ := mapOf_eq_ok hm
    simp [foldlM_addMapSpec h, hid, hroads]

theorem ofSpec_ok_iff (s : CatalogSpec) : (∃ c, ofSpec s = .ok c) ↔ s.Valid := by
  obtain ⟨speed, bag, retirement, spawn, maps⟩ := s
  cases spawn with
  | none =>
    simp only [ofSpec, bind_ok_iff, pure_eq_ok, exists_eq', and_true, exists_and_right,
      nonNegative_ok_iff, seconds_ok_iff, foldlM_addMapSpec_ok_iff, CatalogSpec.valid_iff]
    simp
  | some g =>
    simp only [ofSpec, bind_ok_iff, pure_eq_ok, exists_eq', and_true, exists_and_right,
      nonNegative_ok_iff, seconds_ok_iff, foldlM_addMapSpec_ok_iff, CatalogSpec.valid_iff,
      spawnOf_ok_iff, Option.mem_def, Option.some.injEq, forall_eq']
    tauto

/-- The maps of an accepted specification keep the ids of their specifications and have the
roads they describe. -/
theorem ofSpec_eq_ok {s : CatalogSpec} {c : Catalog} (h : ofSpec s = .ok c) :
    c.maps.map (fun m => (m.id, m.roads)) =
      s.maps.map fun ms => (ms.id, ms.roads.map RoadSpec.road) := by
  obtain ⟨speed, bag, retirement, spawn, maps⟩ := s
  -- the maps come last, whatever the spawning
  cases spawn <;>
  · simp only [ofSpec, bind_eq_ok, pure_eq_ok] at h
    obtain ⟨-, -, -, -, -, -, r, hr, rfl⟩ := h
    simpa using foldlM_addMapSpec hr

end Catalog

namespace World

/-- A world can be built over a list of maps exactly when their ids are distinct. -/
theorem new_ok_iff (maps : List Map) (settings : GameSettings) :
    (∃ w, World.new maps settings = .ok w) ↔ (maps.map (·.id)).Nodup := by
  have h := foldlM_fresh_ok_iff (fun w : World => w.maps.map (·.id)) Map.id (fun _ => True) addMap
    (fun w m => by
      unfold addMap
      split <;> simp_all)
    (fun w m w' h => by
      unfold addMap at h
      split at h
      · cases h
      · cases h
        simp)
    maps
  unfold World.new
  rw [h]
  simp

end World

/-- An accepted specification gives the roads it describes, all along one axis, on maps that a
world can be built over. -/
theorem Catalog.ofSpec_accepted {s : CatalogSpec} {c : Catalog} (h : Catalog.ofSpec s = .ok c) :
    c.maps.map Map.roads = s.maps.map (fun ms => ms.roads.map RoadSpec.road) ∧
      (∀ m ∈ c.maps, ∀ r ∈ m.roads, r.isAxisAligned = true) ∧
      ∀ settings, ∃ w, World.new c.maps settings = .ok w := by
  have hvalid : s.Valid := (Catalog.ofSpec_ok_iff s).mp ⟨c, h⟩
  have hmaps := Catalog.ofSpec_eq_ok h
  -- the roads and the ids of the maps, read off the pairs
  have hroads : c.maps.map Map.roads = s.maps.map (fun ms => ms.roads.map RoadSpec.road) := by
    simpa [Function.comp_def] using congrArg (List.map Prod.snd) hmaps
  have hids : c.maps.map Map.id = s.maps.map MapSpec.id := by
    simpa [Function.comp_def] using congrArg (List.map Prod.fst) hmaps
  refine ⟨hroads, ?_, fun settings => (World.new_ok_iff _ _).mpr (hids ▸ hvalid.mapIds)⟩
  intro m hm r hr
  obtain ⟨ms, -, hms⟩ := List.mem_map.mp (hroads ▸ List.mem_map_of_mem hm)
  obtain ⟨rs, -, rfl⟩ := List.mem_map.mp (hms ▸ hr)
  exact rs.road_axisAligned

/-- The catalog checks: a catalog text is accepted exactly when it reads as a specification
that is valid. Every accepted catalog has the roads its specification describes (the end from
`x1` when the road names one, otherwise from `y1`), all of them along one axis, and a world can
be built over its maps with any settings. -/
theorem Catalog.parse_ok_iff_valid (text : String) :
    ((∃ c, Catalog.parse text = .ok c) ↔ ∃ s, CatalogSpec.parse text = .ok s ∧ s.Valid) ∧
      ∀ c, Catalog.parse text = .ok c → ∃ s, CatalogSpec.parse text = .ok s ∧
        c.maps.map Map.roads = s.maps.map (fun ms => ms.roads.map RoadSpec.road) ∧
        (∀ m ∈ c.maps, ∀ r ∈ m.roads, r.isAxisAligned = true) ∧
        ∀ settings, ∃ w, World.new c.maps settings = .ok w := by
  unfold Catalog.parse
  cases CatalogSpec.parse text with
  | error e => simp
  | ok s => exact ⟨by simpa using Catalog.ofSpec_ok_iff s, fun c hc => ⟨s, rfl, Catalog.ofSpec_accepted hc⟩⟩

end RoadFetch
