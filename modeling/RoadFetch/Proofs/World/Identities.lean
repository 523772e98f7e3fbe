import RoadFetch.Proofs.World.Restore
import RoadFetch.Proofs.World.DogKeys
import Mathlib

/-! # What a restore keeps of the records' identities

Applying a snapshot checks the records against each other in two places only: a session
record whose key or map an earlier restored record already has is skipped, and a binding whose
token or dog is bound already is dropped. The dogs and the loot of a record restored go into
its session as they are: every dog keeps its key and id, every piece of loot on the map keeps
its id, and every bag keeps the ids of the items within its capacity. So the identities in the
world after a restore are exactly those of the records it restored
(`applySnapshot_identities`), and two dogs of one key, or two pieces of loot of one id, in
those records are two in the world too (`duplicate_records_restored`).
-/

namespace RoadFetch

/-- What identifies a session and what it holds: its key, the keys and ids of its dogs in
order, the ids of its loot on the map, and the loot ids in each dog's bag. -/
def Session.identities (s : Session) : UInt64 × List (UInt64 × UInt64) × List UInt64 × List (List UInt64) :=
  (s.key, s.dogs.map (fun d => (d.key, d.id)), s.loot.map (·.id), s.dogs.map fun d => d.bag.items.map (·.lootId))

/-- The same read off a session record, each bag cut to its capacity as restoring cuts it. -/
def SessionRecord.identities (r : SessionRecord) :
    UInt64 × List (UInt64 × UInt64) × List UInt64 × List (List UInt64) :=
  (r.header.key, r.dogs.map (fun d => (d.key, d.id)), r.loot.map (·.id),
    r.dogs.map fun d => (d.bag.take d.bagCapacity.toNat).map (·.lootId))

/-- A traversal that succeeds relates its results to its inputs as each step does. -/
theorem mapM_eq_ok_map {ε α β γ : Type} {f : α → Except ε β} {F : β → γ} {G : α → γ}
    (hf : ∀ a b, f a = .ok b → F b = G a) {l : List α} {r : List β} (h : l.mapM f = .ok r) :
    r.map F = l.map G := by
  induction l generalizing r with
  | nil =>
    simp only [List.mapM_nil, pure_eq_ok] at h
    simp [← h]
  | cons a l ih =>
    obtain ⟨b, bs, hb, hbs, rfl⟩ := mapM_eq_ok_cons.mp h
    simp only [List.map_cons, hf a b hb, ih hbs]

/-- A dog rebuilt from its record has the record's key and id, and the items of the record's
bag within its capacity. -/
theorem DogRecord.toDog_identities {r : DogRecord} {d : Dog} (h : r.toDog = .ok d) :
    (d.key, d.id) = (r.key, r.id) ∧ d.bag.items = r.bag.take r.bagCapacity.toNat := by
  simp only [DogRecord.toDog, bind_eq_ok, pure_eq_ok] at h
  obtain ⟨d₀, hd₀, rfl⟩ := h
  obtain ⟨-, rfl⟩ := Dog.new_eq_ok.mp hd₀
  exact ⟨rfl, rfl⟩

/-- A session rebuilt from a record's dogs and loot has the record's identities. -/
theorem ofParts_identities {r : SessionRecord} {m : Map} {spawn : SpawnConfig} {dogs : List Dog} {s : Session}
    (hdogs : r.dogs.mapM DogRecord.toDog = .ok dogs)
    (hs : Session.ofParts r.header.key m r.header.tuning spawn r.header.counters dogs r.loot = .ok s) :
    s.identities = r.identities := by
  obtain ⟨-, -, -, -, rfl⟩ := Session.ofParts_eq_ok hs
  have hkeys : dogs.map (fun d => (d.key, d.id)) = r.dogs.map fun d => (d.key, d.id) :=
    mapM_eq_ok_map (fun _ _ h => (DogRecord.toDog_identities h).1) hdogs
  have hbags : dogs.map (fun d => d.bag.items.map (·.lootId)) =
      r.dogs.map fun d => (d.bag.take d.bagCapacity.toNat).map (·.lootId) :=
    mapM_eq_ok_map (fun _ _ h => by rw [(DogRecord.toDog_identities h).2]) hdogs
  simp only [Session.identities, SessionRecord.identities, hkeys, hbags]

/-- Whether two session records have the same key or the same map. -/
def SessionRecord.clash (a b : SessionRecord) : Bool :=
  a.header.key == b.header.key || a.header.mapId == b.header.mapId

namespace World

/-! ### The records a restore keeps -/

/-- The records kept so far, with one more record kept unless it clashes with one of them. -/
def keepRecord (kept : List SessionRecord) (r : SessionRecord) : List SessionRecord :=
  if kept.any (SessionRecord.clash · r) then kept else kept ++ [r]

/-- The session records a snapshot restores: each record unless an earlier one restored has
its key or its map. -/
def firstRecords (records : List SessionRecord) : List SessionRecord := records.foldl keepRecord []

/-- The sessions and the map index of a world hold the records `kept`: the same identities up
to order, and their maps in order. -/
structure Holds (kept : List SessionRecord) (w : World) : Prop where
  identities : (w.sessions.map Session.identities).Perm (kept.map SessionRecord.identities)
  maps : w.sessionByMap.map (·.1) = kept.map (·.header.mapId)

theorem Holds.keys {kept : List SessionRecord} {w : World} (h : Holds kept w) :
    (w.sessions.map (·.key)).Perm (kept.map (·.header.key)) := by
  have hp := h.identities.map Prod.fst
  simpa [List.map_map, Function.comp_def, Session.identities, SessionRecord.identities] using hp

/-- A record clashes with one kept exactly when the world finds a session of its key or a
session on its map. -/
theorem Holds.clash_iff {kept : List SessionRecord} {w : World} (h : Holds kept w) (r : SessionRecord) :
    kept.any (SessionRecord.clash · r) =
      ((w.session? r.header.key).isSome || (w.sessionKeyOf? r.header.mapId).isSome) := by
  have hkey : (w.session? r.header.key).isSome = kept.any (·.header.key == r.header.key) := by
    rw [World.session?, List.isSome_find?]
    simpa [List.any_map, Function.comp_def] using h.keys.any_eq (f := (· == r.header.key))
  have hmap : (w.sessionKeyOf? r.header.mapId).isSome = kept.any (·.header.mapId == r.header.mapId) := by
    rw [World.sessionKeyOf?, Option.isSome_map, List.isSome_find?]
    simpa [List.any_map, Function.comp_def] using congrArg (List.any · (· == r.header.mapId)) h.maps
  rw [hkey, hmap, Bool.eq_iff_iff]
  simp only [SessionRecord.clash, List.any_eq_true, Bool.or_eq_true, and_or_left, exists_or]

/-- What restoring one session record does: it is skipped when the world has a session of its
key or on its map, and otherwise its session, rebuilt from the record, goes in. -/
theorem restoreSession_cases {p p' : World × Option UInt64} {r : SessionRecord} {m : Map}
    (h : restoreSession p (r, m) = .ok p') :
    (((p.1.session? r.header.key).isSome || (p.1.sessionKeyOf? r.header.mapId).isSome) = true ∧ p' = p) ∨
    (((p.1.session? r.header.key).isSome || (p.1.sessionKeyOf? r.header.mapId).isSome) = false ∧
      ∃ dogs s, r.dogs.mapM DogRecord.toDog = .ok dogs ∧
        Session.ofParts r.header.key m r.header.tuning p.1.settings.loot r.header.counters dogs r.loot = .ok s ∧
        p'.1.sessions = insertSession s p.1.sessions ∧
        p'.1.sessionByMap = p.1.sessionByMap ++ [(r.header.mapId, r.header.key)]) := by
  obtain ⟨w, highest⟩ := p
  unfold restoreSession at h
  dsimp only at h
  split at h
  · next htaken => exact .inl ⟨htaken, (pure_eq_ok.mp h).symm⟩
  · next hfree =>
    simp only [bind_eq_ok, pure_eq_ok] at h
    obtain ⟨dogs, hdogs, s, hs, rfl⟩ := h
    exact .inr ⟨by simpa using hfree, dogs, s, hdogs, hs, rfl, rfl⟩

theorem Holds.restoreSession {kept : List SessionRecord} {p p' : World × Option UInt64} {r : SessionRecord}
    {m : Map} (hk : Holds kept p.1) (h : World.restoreSession p (r, m) = .ok p') :
    Holds (keepRecord kept r) p'.1 := by
  rcases restoreSession_cases h with ⟨hclash, rfl⟩ | ⟨hfree, dogs, s, hdogs, hs, hsessions, hmaps⟩
  · -- skipped: the record clashes with one kept
    rw [keepRecord, hk.clash_iff, hclash, if_pos rfl]
    exact hk
  · -- restored: its session is new, with a key no session had
    have hnew : ∀ t ∈ p.1.sessions, t.key ≠ s.key := by
      obtain ⟨-, -, -, -, rfl⟩ := Session.ofParts_eq_ok hs
      intro t ht he
      have hfound : (p.1.session? r.header.key).isSome = true :=
        List.find?_isSome.mpr ⟨t, ht, by simp [he]⟩
      simp [hfound] at hfree
    simp only [keepRecord, hk.clash_iff, hfree, Bool.false_eq_true, if_false]
    refine ⟨?_, ?_⟩
    · rw [hsessions, ((insertSession_perm_of_fresh s hnew).map _).congr_left, List.map_cons,
        ofParts_identities hdogs hs, List.map_append, List.map_singleton]
      exact (hk.identities.cons _).trans (List.perm_append_singleton _ _).symm
    · simp [hmaps, hk.maps]

/-- Restoring session records one after another keeps what `firstRecords` keeps. -/
theorem Holds.restoreSessions (entries : List (SessionRecord × Map)) {kept : List SessionRecord}
    {p p' : World × Option UInt64} (hk : Holds kept p.1) (h : entries.foldlM World.restoreSession p = .ok p') :
    Holds ((entries.map (·.1)).foldl keepRecord kept) p'.1 := by
  induction entries generalizing kept p with
  | nil =>
    simp only [List.foldlM_nil, pure_eq_ok] at h
    subst h
    exact hk
  | cons e entries ih =>
    simp only [List.foldlM_cons, bind_eq_ok] at h
    obtain ⟨p₁, h₁, hrest⟩ := h
    exact ih (hk.restoreSession h₁) hrest

theorem foldl_restoreBinding_sessions (bs : List Binding) (w : World) :
    (bs.foldl restoreBinding w).sessions = w.sessions :=
  foldl_inv (fun v : World => v.sessions = w.sessions) (fun v b _ hv => by
    rcases restoreBinding_cases v b with heq | ⟨-, -, -, -, heq⟩ <;> rw [heq] <;> exact hv) rfl

/-! ### Applying a snapshot -/

/-- Applying a snapshot leaves in the world exactly the identities of the session records it
keeps, the first of each key and each map: the keys and ids of their dogs, the ids of their
loot and the ids in their bags within capacity, all as recorded. -/
theorem applySnapshot_identities {w w' : World} {snap : WorldSnapshot} (h : w.applySnapshot snap = .ok (.ok w')) :
    (w'.sessions.map Session.identities).Perm ((firstRecords snap.sessions).map SessionRecord.identities) := by
  obtain ⟨maps, w₂, highest, floor, hmaps, hfold, -, rfl⟩ := applySnapshot_eq_ok h
  have hlen : maps.length = snap.sessions.length := (mapM_eq_ok_zip hmaps).1
  have hstart : Holds [] w.clearSessions := ⟨by simp [World.clearSessions], by simp [World.clearSessions]⟩
  have hk := hstart.restoreSessions _ hfold
  rw [List.map_fst_zip (Nat.le_of_eq hlen.symm)] at hk
  simp only [foldl_restoreBinding_sessions]
  exact hk.identities

/-- Restoring leaves the dog keys of the world distinct exactly when the session records it
keeps have distinct dog keys. -/
theorem applySnapshot_dogKeys_nodup_iff {w w' : World} {snap : WorldSnapshot}
    (h : w.applySnapshot snap = .ok (.ok w')) :
    w'.dogKeys.Nodup ↔ ((firstRecords snap.sessions).flatMap fun r => r.dogs.map (·.key)).Nodup := by
  have hp : (w'.sessions.map fun s => s.dogs.map (·.key)).Perm
      ((firstRecords snap.sessions).map fun r => r.dogs.map (·.key)) := by
    have hp := (applySnapshot_identities h).map fun i => i.2.1.map (·.1)
    simpa [List.map_map, Function.comp_def, Session.identities, SessionRecord.identities] using hp
  rw [dogKeys, List.flatMap_def, List.flatMap_def]
  exact hp.flatten.nodup_iff

/-- A snapshot whose one session record holds two dogs of key 5 and id 0 and two pieces of
loot of id 3 is applied, and all four stay in the world. -/
theorem duplicate_records_restored :
    let w : World := ⟨[⟨"m", "M", [], [], [], [], none, none⟩], [], [], {}, {},
      ⟨Tuning.default, SpawnConfig.default, 0⟩, none, 0, 0, ByteArray.empty⟩
    let dog : String → DogRecord := fun name => ⟨5, 0, name, Vec2.zero, 3, [], Vec2.zero, 1.0, .up, 0, 0, 0⟩
    let snap : WorldSnapshot :=
      ⟨[⟨[dog "a", dog "b"], [⟨3, 0, Vec2.zero⟩, ⟨3, 0, Vec2.zero⟩], ⟨0, "m", 0, 0, (1, 2), Tuning.default⟩⟩], [], 0⟩
    ∃ w', w.applySnapshot snap = .ok (.ok w') ∧ w'.dogKeys = [5, 5] ∧
      w'.sessions.map (fun s => s.dogs.map (·.id)) = [[0, 0]] ∧
      w'.sessions.map (fun s => s.loot.map (·.id)) = [[3, 3]] :=
  ⟨_, rfl, rfl, rfl, rfl⟩

end World

end RoadFetch
