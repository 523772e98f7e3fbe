import RoadFetch.Proofs.World.Coherent
import RoadFetch.Proofs.Session.Tick
import RoadFetch.World.Tick
import Mathlib

/-! # A world tick keeps the world coherent

A coherent world subscribes every live session and, while it runs, the autosave timer, so
every visit of a tick finds its subscriber and nothing is dropped or added: the scheduler
keeps its counts. Each session is replaced by its ticked self, of the same key and map, so
both indexes stay as they were. A ticked session keeps some of its dogs and reports the
others retired, and the tick then unbinds every retired dog, so every binding left names a
live dog.
-/

namespace RoadFetch.World

theorem mem_removeDogs {rs : List Retirement} {bs : Bindings} {b : Binding} :
    b ∈ (rs.foldl (fun ps r => ps.removeDog r.dog) bs).list ↔ b ∈ bs.list ∧ b.dog ∉ rs.map (·.dog) := by
  induction rs generalizing bs with
  | nil => simp
  | cons r rs ih =>
    rw [List.foldl_cons, ih, Bindings.mem_removeDog, List.map_cons, List.mem_cons]
    tauto

theorem wellFormed_removeDogs {bs : Bindings} (h : bs.WellFormed) (rs : List Retirement) :
    (rs.foldl (fun ps r => ps.removeDog r.dog) bs).WellFormed := by
  induction rs generalizing bs with
  | nil => exact h
  | cons r rs ih => exact ih (h.removeDog r.dog)

/-- What every visit of a tick keeps of a coherent world `w` in the tick's state `t`: the
sessions in key order with the same keys and maps, the autosave timer running or not, keys
below the counter, sound sessions, and every binding live or reported retired. -/
structure TickKeeps (w : World) (t : Ticking) : Prop where
  sorted : KeysSorted t.sessions
  index : mapIndex t.sessions = mapIndex w.sessions
  autosave : t.autosave.isSome = w.autosave.isSome
  below : KeysBelow t.sessions w.nextKey
  sound : ∀ s ∈ t.sessions, s.Sound
  bound : ∀ b ∈ w.players.list, (∃ s ∈ t.sessions, s.key = b.session ∧ b.dog ∈ s.dogs.map (·.key)) ∨
    b.dog ∈ t.report.retirements.map (·.dog)

variable {w : World} {t : Ticking}

theorem tickKeeps_init (h : Coherent w) : TickKeeps w ⟨w.sessions, w.autosave, ⟨[], false⟩, none⟩ :=
  ⟨h.sorted, rfl, rfl, h.below, h.sound, fun b hb => .inl (h.bound b hb)⟩

theorem TickKeeps.keys (hk : TickKeeps w t) : t.sessions.map (·.key) = w.sessions.map (·.key) := by
  rw [← mapIndex_keys, hk.index, mapIndex_keys]

theorem TickKeeps.replace (hk : TickKeeps w t) {s s' : Session} {events : List Event} (hs : s ∈ t.sessions)
    (ht : Session.Ticked s s' events) :
    TickKeeps w { t with sessions := insertSession s' t.sessions,
                         report := { t.report with retirements := t.report.retirements ++ retirements events } } := by
  have hkeys : ∀ k ∈ s'.dogs.map (·.key), k ∈ s.dogs.map (·.key) := fun k hk' => ht.keys.subset hk'
  refine ⟨insertSession_sorted s' hk.sorted, ?_, hk.autosave, ?_, sound_insertSession hk.sound ht.sound, ?_⟩
  · rw [mapIndex_insertSession_of_mem s' hk.sorted hs ht.key.symm (by rw [ht.map])]
    exact hk.index
  · refine hk.below.insertSession (ht.key ▸ (hk.below s hs).1) fun d hd => ?_
    obtain ⟨e, he, hek⟩ := List.mem_map.mp (hkeys _ (List.mem_map_of_mem hd))
    exact hek ▸ (hk.below s hs).2 e he
  · intro b hb
    rcases hk.bound b hb with ⟨u, hu, hub, hdog⟩ | hr
    · by_cases hus : u.key = s'.key
      · -- the binding's session is the one ticked: its dog stayed or was reported retired
        have hsu : u = s := hk.sorted.key_unique hu hs (hus.trans ht.key)
        subst hsu
        obtain ⟨d, hd, hdk⟩ := List.mem_map.mp hdog
        rcases ht.kept_or_retired d hd with hkept | hret
        · exact .inl ⟨s', (mem_insertSession s' hk.sorted).mpr (.inl rfl), hus ▸ hub, hdk ▸ hkept⟩
        · refine .inr ?_
          rw [List.map_append]
          exact List.mem_append_right _ (hdk ▸ hret)
      · exact .inl ⟨u, (mem_insertSession s' hk.sorted).mpr (.inr ⟨hu, hus⟩), hub, hdog⟩
    · refine .inr ?_
      rw [List.map_append]
      exact List.mem_append_left _ hr

/-- Every subscriber of a coherent world is found alive, whatever the tick did before. -/
theorem TickKeeps.visit (h : Coherent w) (hk : TickKeeps w t) (elapsed : Duration) {target : Target}
    (hsub : 0 < w.scheduler.count target) :
    ∃ t', World.visit elapsed t target = (t', [], .alive) ∧ TickKeeps w t' := by
  cases target with
  | session k =>
    have hkey : k ∈ t.sessions.map (·.key) := by
      rw [hk.keys]
      by_contra hnot
      rw [h.sessionSubs k, if_neg hnot] at hsub
      exact Nat.lt_irrefl 0 hsub
    unfold World.visit
    by_cases hf : t.fault.isSome
    · exact ⟨t, by simp [hf], hk⟩
    obtain ⟨s, hs⟩ : ∃ s, t.sessions.find? (·.key == k) = some s := by
      obtain ⟨u, hu, huk⟩ := List.mem_map.mp hkey
      exact Option.isSome_iff_exists.mp (List.find?_isSome.mpr ⟨u, hu, by simp [huk]⟩)
    have hsm := List.mem_of_find?_eq_some hs
    cases htick : s.tick elapsed with
    | error f =>
      refine ⟨{ t with fault := some f }, by simp [hf, hs, htick], ?_⟩
      exact ⟨hk.sorted, hk.index, hk.autosave, hk.below, hk.sound, hk.bound⟩
    | ok p =>
      obtain ⟨s', events⟩ := p
      exact ⟨_, by simp [hf, hs, htick], hk.replace hsm ((hk.sound s hsm).ticked htick)⟩
  | persistence =>
    have hauto : t.autosave.isSome := by
      rw [hk.autosave]
      by_contra hnot
      rw [h.persistenceSubs, if_neg hnot] at hsub
      exact Nat.lt_irrefl 0 hsub
    unfold World.visit
    by_cases hf : t.fault.isSome
    · exact ⟨t, by simp [hf], hk⟩
    obtain ⟨timer, htimer⟩ := Option.isSome_iff_exists.mp hauto
    simp only [hf, Bool.false_eq_true, if_false, htimer]
    split
    · exact ⟨_, rfl, ⟨hk.sorted, hk.index, by simp [← hk.autosave, htimer], hk.below, hk.sound, hk.bound⟩⟩
    · exact ⟨_, rfl, ⟨hk.sorted, hk.index, by simp [← hk.autosave, htimer], hk.below, hk.sound, hk.bound⟩⟩

/-- A tick of a coherent world that does not fault leaves it coherent, with the same key
counter. -/
theorem Coherent.tick (h : Coherent w) {elapsed : Duration} {w' : World} {report : TickReport}
    (htick : w.tick elapsed = .ok (w', report)) : Coherent w' ∧ w'.nextKey = w.nextKey := by
  have hvisit : ∀ t, TickKeeps w t → ∀ sub ∈ w.scheduler.active ++ w.scheduler.waiting,
      ∃ t', World.visit elapsed t sub.key = (t', [], .alive) ∧ TickKeeps w t' :=
    fun t hk sub hsub => hk.visit h elapsed (Scheduler.count_pos_of_mem hsub)
  obtain ⟨t, hrun, hk⟩ := Scheduler.tick_of_alive (TickKeeps w) w.scheduler (World.visit elapsed) _
    (tickKeeps_init h) hvisit
  have hcount : ∀ k, Scheduler.count ⟨w.scheduler.admitted, [], w.scheduler.nextSeq⟩ k = w.scheduler.count k := by
    intro k
    have hc := Scheduler.count_tick_of_alive (TickKeeps w) w.scheduler (World.visit elapsed) _
      (tickKeeps_init h) hvisit k
    rwa [hrun] at hc
  unfold World.tick at htick
  rw [hrun] at htick
  cases hf : t.fault with
  | some f => simp [hf] at htick
  | none =>
    simp only [hf, Except.ok.injEq, Prod.mk.injEq] at htick
    obtain ⟨rfl, rfl⟩ := htick
    refine ⟨⟨⟨hk.sorted, hk.index ▸ h.byMap, ?_, ?_, ?_⟩, wellFormed_removeDogs h.players _, ?_, hk.below, hk.sound,
      ?_⟩, rfl⟩
    · rw [← mapIndex_maps, hk.index, mapIndex_maps]
      exact h.maps_nodup
    · intro k
      rw [hcount, hk.keys]
      exact h.sessionSubs k
    · rw [hcount, hk.autosave]
      exact h.persistenceSubs
    · -- a binding left is not of a retired dog, so its dog is live
      intro b hb
      obtain ⟨hb, hnot⟩ := mem_removeDogs.mp hb
      rcases hk.bound b hb with hlive | hret
      · exact hlive
      · exact absurd hret hnot
    · -- the maps played are those played before
      intro s hs
      have hid : s.map.id ∈ w.sessions.map (·.map.id) := by
        rw [← mapIndex_maps, ← hk.index, mapIndex_maps]
        exact List.mem_map_of_mem hs
      obtain ⟨s₀, hs₀, he⟩ := List.mem_map.mp hid
      exact he ▸ h.catalog s₀ hs₀

end RoadFetch.World
