import RoadFetch.Proofs.World.Coherent
import RoadFetch.World.Restore
import Mathlib

/-! # Restoring keeps the world coherent

Applying a snapshot rebuilds the sessions and bindings from records that may contradict each
other. The world is cleared first, with every session unsubscribed. Each session record is
then restored unless its key or its map is taken, so keys stay distinct and maps stay
distinct; the highest key restored is tracked as it goes. A binding is restored only when its
dog is in its session and neither its token nor its dog is bound. Last the key counter is
raised past the highest key. So whatever the snapshot holds, a coherent world stays coherent,
and its key counter does not go back.
-/

namespace RoadFetch

namespace DogRecord

theorem toDog_eq_ok {r : DogRecord} {d : Dog} (h : r.toDog = .ok d) : d.key = r.key ∧ d.bag.Fits := by
  simp only [toDog, bind_eq_ok, pure_eq_ok] at h
  obtain ⟨d₀, hd₀, rfl⟩ := h
  obtain ⟨hcap, rfl⟩ := Dog.new_eq_ok.mp hd₀
  refine ⟨rfl, ?_, hcap⟩
  simp [Bag.ofItems]

end DogRecord

namespace World

variable {w w' : World}

/-! ### Clearing -/

theorem count_unsubscribeAll (ss : List Session) (sch : Scheduler Target) (k : Target) :
    (ss.foldl (fun sch s => (sch.unsubscribe (.session s.key)).1) sch).count k =
      if k ∈ ss.map (fun s => Target.session s.key) then 0 else sch.count k := by
  induction ss generalizing sch with
  | nil => simp
  | cons s ss ih =>
    rw [List.foldl_cons, ih, Scheduler.count_unsubscribe]
    simp only [List.map_cons, List.mem_cons]
    by_cases hk : k = .session s.key <;> by_cases hm : k ∈ ss.map (fun s => Target.session s.key) <;>
      simp [hk, hm]

theorem Indexed.clearSessions (h : Indexed w) : Indexed w.clearSessions where
  sorted := List.Pairwise.nil
  byMap := List.Perm.nil
  maps_nodup := List.nodup_nil
  sessionSubs k := by
    simp only [World.clearSessions, count_unsubscribeAll, h.sessionSubs k, List.map_nil, List.not_mem_nil,
      if_false]
    by_cases hk : k ∈ w.sessions.map (·.key) <;> simp_all
  persistenceSubs := by
    have hc := count_unsubscribeAll w.sessions w.scheduler .persistence
    simp only [List.mem_map, reduceCtorEq, and_false, exists_false, if_false] at hc
    exact hc.trans h.persistenceSubs

/-! ### The highest key -/

/-- `k` is at most the highest key seen. -/
def AtMost (k : UInt64) (highest : Option UInt64) : Prop := ∃ x, highest = some x ∧ k ≤ x

theorem atMost_raiseKey_self (highest : Option UInt64) (k : UInt64) : AtMost k (raiseKey highest k) := by
  cases highest with
  | none => exact ⟨k, rfl, UInt64.le_refl k⟩
  | some x =>
    refine ⟨max x k, rfl, ?_⟩
    rw [UInt64.le_iff_toNat_le, UInt64.toNat_max]
    omega

theorem AtMost.raiseKey {j : UInt64} {highest : Option UInt64} (h : AtMost j highest) (k : UInt64) :
    AtMost j (raiseKey highest k) := by
  obtain ⟨x, rfl, hjx⟩ := h
  refine ⟨max x k, rfl, ?_⟩
  rw [UInt64.le_iff_toNat_le, UInt64.toNat_max]
  rw [UInt64.le_iff_toNat_le] at hjx
  omega

theorem AtMost.raiseKeys {j : UInt64} {highest : Option UInt64} (h : AtMost j highest) (dogs : List Dog) :
    AtMost j (dogs.foldl (fun h d => World.raiseKey h d.key) highest) :=
  foldl_inv (AtMost j) (fun _ d _ ha => ha.raiseKey d.key) h

theorem atMost_raiseKeys (highest : Option UInt64) (dogs : List Dog) :
    ∀ d ∈ dogs, AtMost d.key (dogs.foldl (fun h d => raiseKey h d.key) highest) := by
  induction dogs generalizing highest with
  | nil => simp
  | cons d dogs ih =>
    intro e he
    rw [List.foldl_cons]
    rcases List.mem_cons.mp he with rfl | he
    · exact (atMost_raiseKey_self highest e.key).raiseKeys dogs
    · exact ih _ e he

/-! ### Restoring sessions -/

/-- What restoring session records keeps of a coherent world `w` in the world and highest key
`p` so far: the indexes agree, nothing is bound, every session is sound, every key restored
is at most the highest, and the key counter is as it was. -/
structure RestoreKeeps (w : World) (p : World × Option UInt64) : Prop where
  indexed : Indexed p.1
  players : p.1.players = {}
  sound : ∀ s ∈ p.1.sessions, s.Sound
  upTo : ∀ s ∈ p.1.sessions, AtMost s.key p.2 ∧ ∀ d ∈ s.dogs, AtMost d.key p.2
  nextKey : p.1.nextKey = w.nextKey
  maps : p.1.maps = w.maps
  catalog : ∀ s ∈ p.1.sessions, ∃ m ∈ w.maps, m.id = s.map.id

theorem restoreKeeps_init (h : Coherent w) (highest : Option UInt64) :
    RestoreKeeps w (w.clearSessions, highest) :=
  ⟨h.toIndexed.clearSessions, rfl, by simp [World.clearSessions], by simp [World.clearSessions], rfl, rfl,
    by simp [World.clearSessions]⟩

theorem restoreSession_eq_ok {p p' : World × Option UInt64} {r : SessionRecord} {m : Map}
    (h : restoreSession p (r, m) = .ok p') :
    p' = p ∨ ∃ dogs s, p.1.session? r.header.key = none ∧ p.1.sessionKeyOf? r.header.mapId = none ∧
      r.dogs.mapM DogRecord.toDog = .ok dogs ∧
      Session.ofParts r.header.key m r.header.tuning p.1.settings.loot r.header.counters dogs r.loot = .ok s ∧
      p' = ({ (p.1.putSession s) with
                sessionByMap := p.1.sessionByMap ++ [(r.header.mapId, r.header.key)]
                scheduler := p.1.scheduler.subscribe (.session r.header.key) sessionPriority },
            dogs.foldl (fun h d => raiseKey h d.key) (raiseKey p.2 r.header.key)) := by
  obtain ⟨w, highest⟩ := p
  unfold restoreSession at h
  dsimp only at h
  split at h
  · next htaken =>
    simp only [pure_eq_ok] at h
    exact .inl h.symm
  · next hfree =>
    simp only [Bool.or_eq_true, Option.isSome_iff_ne_none, ne_eq, not_or, not_not] at hfree
    simp only [bind_eq_ok, pure_eq_ok] at h
    obtain ⟨dogs, hdogs, s, hs, rfl⟩ := h
    exact .inr ⟨dogs, s, hfree.1, hfree.2, hdogs, hs, rfl⟩

theorem RestoreKeeps.restoreSession (hk : RestoreKeeps w p) {p' : World × Option UInt64} {r : SessionRecord}
    {m : Map} (hm : m.id = r.header.mapId) (hmw : m ∈ w.maps) (h : World.restoreSession p (r, m) = .ok p') :
    RestoreKeeps w p' := by
  rcases restoreSession_eq_ok h with rfl | ⟨dogs, s, hkey, hmap, hdogs, hs, rfl⟩
  · exact hk
  obtain ⟨dogIds, lootIds, -, -, rfl⟩ := Session.ofParts_eq_ok hs
  have hx := hk.indexed
  -- the record's key and map are free
  have hkey' : ∀ t ∈ p.1.sessions, t.key ≠ r.header.key := by
    intro t ht he
    have hsome : p.1.session? r.header.key = some t := (session?_eq_some_iff hx.sorted).mpr ⟨ht, he⟩
    rw [hkey] at hsome
    cases hsome
  have hmap' : ∀ t ∈ p.1.sessions, t.map.id ≠ m.id := by
    intro t ht he
    have hsome : p.1.sessionKeyOf? r.header.mapId = some t.key :=
      (sessionKeyOf?_eq_some_iff hx.byMap hx.maps_nodup).mpr ⟨t, ht, he.trans hm, rfl⟩
    rw [hmap] at hsome
    cases hsome
  have hfit : ∀ d ∈ dogs, d.bag.Fits := fun d hd => by
    obtain ⟨dr, -, hdr⟩ := mapM_eq_ok_mem hdogs hd
    exact (DogRecord.toDog_eq_ok hdr).2
  refine ⟨?_, hk.players, sound_insertSession hk.sound (Session.sound_ofParts hs hfit), ?_, hk.nextKey, hk.maps,
    ?_⟩
  · rw [← hm]
    exact hx.addSession _ hkey' hmap'
  · intro t ht
    rcases mem_insertSession_of_mem _ ht with rfl | ht
    · exact ⟨(atMost_raiseKey_self p.2 _).raiseKeys dogs, atMost_raiseKeys _ dogs⟩
    · obtain ⟨hkt, hdt⟩ := hk.upTo t ht
      exact ⟨(hkt.raiseKey _).raiseKeys dogs, fun d hd => ((hdt d hd).raiseKey _).raiseKeys dogs⟩
  · intro t ht
    rcases mem_insertSession_of_mem _ ht with rfl | ht
    · exact ⟨m, hmw, rfl⟩
    · exact hk.catalog t ht

theorem recordMaps_eq_ok {records : List SessionRecord} {maps : List Map} (h : w.recordMaps records = .ok maps) :
    ∀ p ∈ records.zip maps, p.2.id = p.1.header.mapId ∧ p.2 ∈ w.maps := by
  intro p hp
  have hf := (mapM_eq_ok_zip h).2 p hp
  split at hf
  · next m hm =>
    cases hf
    exact ⟨by simpa using List.find?_some hm, List.mem_of_find?_eq_some hm⟩
  · cases hf

/-! ### Restoring bindings -/

theorem restoreBinding_cases (w : World) (b : Binding) :
    restoreBinding w b = w ∨ ∃ s ∈ w.sessions, s.key = b.session ∧ b.dog ∈ s.dogs.map (·.key) ∧
      restoreBinding w b = { w with players := (w.players.insert b).1 } := by
  unfold restoreBinding
  split
  · next s hs =>
    split
    · next hdog =>
      obtain ⟨d, hd⟩ := Option.isSome_iff_exists.mp hdog
      have hdm := List.mem_of_find?_eq_some hd
      have hdk : d.key = b.dog := by simpa using List.find?_some hd
      exact .inr ⟨s, List.mem_of_find?_eq_some hs, by simpa using List.find?_some hs,
        hdk ▸ List.mem_map_of_mem hdm, rfl⟩
    · exact .inl rfl
  · exact .inl rfl

/-- Restoring bindings changes only the bindings, keeps them well formed, and binds only
dogs of live sessions. -/
theorem restoreBindings (bs : List Binding) (hw : w.players.WellFormed) (hb : BoundLive w.players w.sessions) :
    bs.foldl restoreBinding w = { w with players := (bs.foldl restoreBinding w).players } ∧
      (bs.foldl restoreBinding w).players.WellFormed ∧
      BoundLive (bs.foldl restoreBinding w).players (bs.foldl restoreBinding w).sessions := by
  refine foldl_inv (fun (v : World) => v = { w with players := v.players } ∧ v.players.WellFormed ∧
    BoundLive v.players v.sessions) ?_ ⟨rfl, hw, hb⟩
  rintro a b - ⟨ha, hwf, hlive⟩
  rcases restoreBinding_cases a b with heq | ⟨s, hs, hkey, hdog, heq⟩
  · rw [heq]
    exact ⟨ha, hwf, hlive⟩
  · rw [heq]
    refine ⟨by rw [ha], hwf.insert b, ?_⟩
    intro c hc
    rw [Bindings.insert_fst] at hc
    split at hc
    · exact hlive c hc
    · rcases Bindings.mem_insertSorted.mp hc with rfl | hc
      · exact ⟨s, hs, hkey, hdog⟩
      · exact hlive c hc

/-! ### Applying a snapshot -/

/-- A request run in place and answered with its world: it answers with success exactly when it
ran and succeeded. -/
theorem answered_eq_ok {ε : Type} {x : Except Fault (World × Except ε Unit)} :
    x.map (fun r => (settle r).map (·.1)) = .ok (.ok w') ↔ x = .ok (w', .ok ()) := by
  rcases x with f | ⟨w, r | u⟩ <;> simp [Except.map, settle]

theorem applySnapshot_eq_ok {snap : WorldSnapshot} (h : w.applySnapshot snap = .ok (.ok w')) :
    ∃ maps w₂ highest floor, w.recordMaps snap.sessions = .ok maps ∧
      (snap.sessions.zip maps).foldlM restoreSession
        (w.clearSessions, if snap.nextKey == 0 then none else some (snap.nextKey - 1)) = .ok (w₂, highest) ∧
      ((highest = none ∧ floor = 0) ∨ ∃ k, highest = some k ∧ Checked.succ k = .ok floor) ∧
      w' = { snap.bindings.foldl restoreBinding w₂ with
             nextKey := max (snap.bindings.foldl restoreBinding w₂).nextKey floor } := by
  have hin : w.applySnapshotInPlace snap = .ok (w', .ok ()) := answered_eq_ok.mp h
  unfold applySnapshotInPlace at hin
  cases hm : w.recordMaps snap.sessions with
  | error e =>
    simp only [hm, pure_eq_ok] at hin
    cases hin
  | ok maps =>
    simp only [hm, bind_eq_ok, pure_bind] at hin
    obtain ⟨⟨w₂, highest⟩, hfold, h⟩ := hin
    cases highest with
    | none =>
      simp only [pure_eq_ok, Prod.mk.injEq] at h
      exact ⟨maps, w₂, none, 0, rfl, hfold, .inl ⟨rfl, rfl⟩, h.1.symm⟩
    | some k =>
      simp only [bind_eq_ok, pure_eq_ok, Prod.mk.injEq] at h
      obtain ⟨floor, hf, h⟩ := h
      exact ⟨maps, w₂, some k, floor, rfl, hfold, .inr ⟨k, rfl, hf⟩, h.1.symm⟩

/-- Applying any snapshot to a coherent world leaves it coherent, and its key counter does not
go back. -/
theorem Coherent.applySnapshot (h : Coherent w) {snap : WorldSnapshot} (ha : w.applySnapshot snap = .ok (.ok w')) :
    Coherent w' ∧ w.nextKey ≤ w'.nextKey := by
  obtain ⟨maps, w₂, highest, floor, hmaps, hfold, hfloor, rfl⟩ := applySnapshot_eq_ok ha
  have hk : RestoreKeeps w (w₂, highest) := by
    refine foldlM_inv (RestoreKeeps w) ?_ (restoreKeeps_init h _) hfold
    rintro p ⟨r, m⟩ p' hmem hp hstep
    obtain ⟨hid, hmw⟩ := recordMaps_eq_ok hmaps (r, m) hmem
    exact hp.restoreSession hid hmw hstep
  have hp : w₂.players = {} := hk.players
  obtain ⟨hframe, hwf, hlive⟩ := restoreBindings snap.bindings (hp ▸ Bindings.WellFormed.empty)
    (by simp [BoundLive, hp])
  set w₃ := snap.bindings.foldl restoreBinding w₂
  have hsess : w₃.sessions = w₂.sessions := by rw [hframe]
  have hnext : w₃.nextKey = w.nextKey := by rw [hframe]; exact hk.nextKey
  -- every key restored is below the new counter
  have hbelow : KeysBelow w₃.sessions (max w₃.nextKey floor) := by
    intro s hs
    rw [hsess] at hs
    obtain ⟨hks, hkd⟩ := hk.upTo s hs
    obtain ⟨x, hx, hsx⟩ := hks
    obtain ⟨rfl, -⟩ | ⟨k, rfl, hsucc⟩ := hfloor
    · cases hx
    cases hx
    have hlt : x < max w₃.nextKey floor := by
      rw [UInt64.lt_iff_toNat_lt, UInt64.toNat_max, Checked.toNat_of_succ_eq_ok hsucc]
      omega
    refine ⟨UInt64.lt_of_le_of_lt hsx hlt, fun d hd => ?_⟩
    obtain ⟨y, hy, hdy⟩ := hkd d hd
    cases hy
    exact UInt64.lt_of_le_of_lt hdy hlt
  have hmaps₃ : w₃.maps = w.maps := by rw [hframe]; exact hk.maps
  refine ⟨⟨hk.indexed.congr (by rw [hframe]) (by rw [hframe]) (by rw [hframe]) (by rw [hframe]),
    hwf, hlive, hbelow, hsess ▸ hk.sound, ?_⟩, ?_⟩
  · show ∀ s ∈ w₃.sessions, ∃ m ∈ w₃.maps, m.id = s.map.id
    rw [hsess, hmaps₃]
    exact hk.catalog
  show w.nextKey ≤ max w₃.nextKey floor
  rw [UInt64.le_iff_toNat_le, UInt64.toNat_max, hnext]
  omega

theorem restore_eq_ok {bytes : List UInt8} (h : w.restore bytes = .ok (.ok w')) :
    ∃ snap, w.applySnapshot snap = .ok (.ok w') := by
  have hin : w.restoreInPlace bytes = .ok (w', .ok ()) := answered_eq_ok.mp h
  unfold restoreInPlace at hin
  split at hin
  · exact ⟨_, answered_eq_ok.mpr hin⟩
  · simp only [pure_eq_ok] at hin
    cases hin

end World

end RoadFetch
