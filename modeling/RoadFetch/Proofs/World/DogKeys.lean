import RoadFetch.Proofs.World.Ticks
import RoadFetch.Proofs.Session.Retirements
import Mathlib

/-! # The dogs in play

`dogKeys` lists the keys of the dogs in play, session by session. Up to order, a tick keeps
them but for the dogs it reports retired (`Coherent.tick_dogKeys`), a join adds exactly the key
it hands out, which is at least the key counter (`Coherent.joinInPlace_dogKeys`), and steering
keeps them (`Coherent.movePlayerInPlace_dogKeys`).
-/

namespace RoadFetch.World

/-- The keys of the dogs in play, session by session. -/
def dogKeys (w : World) : List UInt64 := w.sessions.flatMap fun s => s.dogs.map (·.key)

variable {w w' : World}

theorem Coherent.dogKeys_lt (h : Coherent w) : ∀ k ∈ w.dogKeys, k < w.nextKey := by
  intro k hk
  obtain ⟨s, hs, hk⟩ := List.mem_flatMap.mp hk
  obtain ⟨d, hd, rfl⟩ := List.mem_map.mp hk
  exact (h.below s hs).2 d hd

section Insert

variable {β : Type} (f : Session → List β) {s t : Session} {ss : List Session}

/-- Replacing the session of a key changes a `flatMap` by what the two sessions differ in. -/
theorem insertSession_flatMap_perm (a b : List β) (h : KeysSorted ss) (ht : t ∈ ss) (hkey : t.key = s.key)
    (hperm : (f s ++ a).Perm (f t ++ b)) : ((insertSession s ss).flatMap f ++ a).Perm (ss.flatMap f ++ b) := by
  induction ss with
  | nil => simp at ht
  | cons u rest ih =>
    obtain ⟨hu, hrest⟩ := List.pairwise_cons.mp h
    unfold insertSession
    rcases List.mem_cons.mp ht with rfl | ht
    · -- the session of the key is the head, and `s` takes its place
      simp only [hkey, UInt64.lt_irrefl, if_false, beq_self_eq_true, if_true, List.flatMap_cons,
        List.append_assoc]
      calc (f s ++ (rest.flatMap f ++ a)).Perm (f s ++ a ++ rest.flatMap f) := by
            rw [List.append_assoc]
            exact List.perm_append_comm.append_left (f s)
        List.Perm _ (f t ++ b ++ rest.flatMap f) := hperm.append_right _
        List.Perm _ (f t ++ (rest.flatMap f ++ b)) := by
            rw [List.append_assoc]
            exact List.perm_append_comm.append_left (f t)
    · -- the session of the key is further on, past `u`
      have hus : u.key < s.key := hkey ▸ hu t ht
      have hne : (s.key == u.key) = false := beq_eq_false_iff_ne.mpr (UInt64.ne_of_lt hus).symm
      simp only [UInt64.lt_asymm hus, if_false, hne, Bool.false_eq_true, List.flatMap_cons,
        List.append_assoc]
      exact (ih hrest ht).append_left (f u)

end Insert

/-! ### Ticks -/

/-- While a tick runs, the dogs of its sessions and the dogs it has reported retired are, up
to order, the dogs of the world it started from. -/
def Accounted (w : World) (t : Ticking) : Prop :=
  (t.sessions.flatMap (fun s => s.dogs.map (·.key)) ++ t.report.retirements.map (·.dog)).Perm w.dogKeys

/-- A visit either leaves the sessions and the retirements as they were, or ticks one session,
puts it back in its place and reports what that tick retired. -/
theorem visit_cases (elapsed : Duration) (t : Ticking) (target : Target) :
    ((World.visit elapsed t target).1.sessions = t.sessions ∧
      (World.visit elapsed t target).1.report.retirements = t.report.retirements) ∨
    ∃ s ∈ t.sessions, ∃ s' events, s.tick elapsed = .ok (s', events) ∧
      (World.visit elapsed t target).1.sessions = insertSession s' t.sessions ∧
      (World.visit elapsed t target).1.report.retirements = t.report.retirements ++ retirements events := by
  cases target with
  | session k =>
    by_cases hf : t.fault.isSome
    · exact .inl (by simp [World.visit, hf])
    cases hs : t.sessions.find? (·.key == k) with
    | none => exact .inl (by simp [World.visit, hf, hs])
    | some s =>
      cases htick : s.tick elapsed with
      | error f => exact .inl (by simp [World.visit, hf, hs, htick])
      | ok p =>
        obtain ⟨s', events⟩ := p
        exact .inr ⟨s, List.mem_of_find?_eq_some hs, s', events, htick, by simp [World.visit, hf, hs, htick],
          by simp [World.visit, hf, hs, htick]⟩
  | persistence =>
    -- the autosave timer touches neither the sessions nor the retirements
    left
    by_cases hf : t.fault.isSome
    · simp [World.visit, hf]
    cases ha : t.autosave with
    | none => simp [World.visit, hf, ha]
    | some timer =>
      simp only [World.visit, hf, ha, Bool.false_eq_true, if_false]
      split <;> exact ⟨rfl, rfl⟩

theorem Accounted.visit {t : Ticking} (ha : Accounted w t) (hk : TickKeeps w t) (elapsed : Duration)
    (target : Target) : Accounted w (World.visit elapsed t target).1 := by
  rcases visit_cases elapsed t target with ⟨hs, hr⟩ | ⟨s, hs, s', events, htick, hs', hr⟩
  · unfold Accounted
    rw [hs, hr]
    exact ha
  · have hsound := hk.sound s hs
    -- the ticked session keeps its key, and its dogs with its retired dogs are the dogs before
    have hrep := insertSession_flatMap_perm (fun s => s.dogs.map (·.key)) ((retirements events).map (·.dog)) []
      hk.sorted hs (hsound.ticked htick).key.symm (by rw [List.append_nil]; exact hsound.tick_keys_perm htick)
    rw [List.append_nil] at hrep
    unfold Accounted
    rw [hs', hr, List.map_append]
    calc (((insertSession s' t.sessions).flatMap fun s => s.dogs.map (·.key)) ++
          (t.report.retirements.map (·.dog) ++ (retirements events).map (·.dog))).Perm
          (((insertSession s' t.sessions).flatMap fun s => s.dogs.map (·.key)) ++
            (retirements events).map (·.dog) ++ t.report.retirements.map (·.dog)) := by
          rw [List.append_assoc]
          exact List.perm_append_comm.append_left _
      List.Perm _ ((t.sessions.flatMap fun s => s.dogs.map (·.key)) ++ t.report.retirements.map (·.dog)) :=
          hrep.append_right _
      List.Perm _ w.dogKeys := ha

/-- A tick of a coherent world that does not fault retires dogs in play only, each once: the
dogs after it and the dogs it reports retired are, up to order, the dogs before it. -/
theorem Coherent.tick_dogKeys (h : Coherent w) {elapsed : Duration} {report : TickReport}
    (htick : w.tick elapsed = .ok (w', report)) :
    (w'.dogKeys ++ report.retirements.map (·.dog)).Perm w.dogKeys := by
  have hinit : TickKeeps w ⟨w.sessions, w.autosave, ⟨[], false⟩, none⟩ ∧
      Accounted w ⟨w.sessions, w.autosave, ⟨[], false⟩, none⟩ :=
    ⟨tickKeeps_init h, by simp [Accounted, dogKeys]⟩
  obtain ⟨t, hrun, -, ha⟩ := Scheduler.tick_of_alive (fun t => TickKeeps w t ∧ Accounted w t) w.scheduler
    (World.visit elapsed) _ hinit fun t ht sub hsub => by
      obtain ⟨t', hv, hk'⟩ := ht.1.visit h elapsed (Scheduler.count_pos_of_mem hsub)
      have ha' := ht.2.visit ht.1 elapsed sub.key
      rw [hv] at ha'
      exact ⟨t', hv, hk', ha'⟩
  unfold World.tick at htick
  rw [hrun] at htick
  cases hf : t.fault with
  | some f => simp [hf] at htick
  | none =>
    simp only [hf, Except.ok.injEq, Prod.mk.injEq] at htick
    obtain ⟨rfl, rfl⟩ := htick
    exact ha

/-! ### Joins -/

theorem joinInPlace_eq_ok {mapId name : String} {j : Joined} (h : w.joinInPlace mapId name = .ok (w', .ok j)) :
    ∃ m w₁ w₂ s s' d, w.map? mapId = some m ∧ w.sessionFor m = .ok (w₁, j.session) ∧
      w₁.allocateKey = .ok (w₂, j.dog) ∧ w₂.session? j.session = some s ∧ s.join j.dog name = .ok (s', d) ∧
      w' = ((w₂.putSession s').bind j.dog j.session).1 := by
  unfold joinInPlace at h
  split at h
  · simp [pure_eq_ok] at h
  · cases hm : w.map? mapId with
    | none => simp [hm, pure_eq_ok] at h
    | some m =>
      simp only [hm, bind_eq_ok] at h
      obtain ⟨⟨w₁, sk⟩, h1, ⟨w₂, dk⟩, h2, h⟩ := h
      cases hs : w₂.session? sk with
      | none => simp [hs, pure_eq_ok] at h
      | some s =>
        simp only [hs, bind_eq_ok] at h
        obtain ⟨⟨s', d⟩, h3, h⟩ := h
        simp only [pure_eq_ok, Prod.mk.injEq, Except.ok.injEq] at h
        obtain ⟨rfl, rfl⟩ := h
        exact ⟨m, w₁, w₂, s, s', d, rfl, h1, h2, hs, h3, rfl⟩

theorem Coherent.sessionFor_dogKeys (h : Coherent w) {m : Map} {key : UInt64}
    (hs : w.sessionFor m = .ok (w', key)) : w'.dogKeys.Perm w.dogKeys := by
  rcases sessionFor_eq_ok hs with ⟨-, rfl⟩ | ⟨-, w₀, ha, rfl⟩
  · exact List.Perm.refl _
  · obtain ⟨rfl, -, hw₀⟩ := allocateKey_eq_ok ha
    -- the new session's key is the counter, past every live key, and it has no dogs
    have hfresh : ∀ t ∈ w₀.sessions, t.key ≠ w.nextKey := by
      rw [hw₀]
      exact fun t ht he => UInt64.lt_irrefl _ (he ▸ (h.below t ht).1)
    have hperm := (insertSession_perm_of_fresh (w₀.newSession w.nextKey m) hfresh).flatMap_right
      (fun s => s.dogs.map (·.key))
    rw [hw₀] at hperm ⊢
    simpa [dogKeys, newSession, Session.new] using hperm

/-- A join adds exactly the dog it hands out, keyed by a key taken from the counter. -/
theorem Coherent.joinInPlace_dogKeys (h : Coherent w) {mapId name : String} {j : Joined}
    (hj : w.joinInPlace mapId name = .ok (w', .ok j)) :
    Coherent w' ∧ w'.dogKeys.Perm (w.dogKeys ++ [j.dog]) ∧ w.nextKey ≤ j.dog ∧ j.dog < w'.nextKey := by
  have hc : Coherent w' := (h.join (by rw [World.join, hj]; rfl)).1
  obtain ⟨m, w₁, w₂, s, s', d, hm, h1, h2, hs, h3, rfl⟩ := joinInPlace_eq_ok hj
  obtain ⟨hc₁, hle₁, -⟩ := h.sessionFor (List.mem_of_find?_eq_some hm) h1
  obtain ⟨hdk, hlt₂, hw₂⟩ := allocateKey_eq_ok h2
  have hc₂ := hc₁.allocateKey h2
  obtain ⟨hsm, hsk⟩ := (session?_eq_some_iff hc₂.sorted).mp hs
  obtain ⟨n, -, hd, hs'⟩ := Session.join_eq_ok h3
  obtain ⟨-, hd'⟩ := Dog.new_eq_ok.mp hd
  -- the joined session holds the dogs before and the new dog
  have hjoined : ((s'.dogs.map fun d : Dog => d.key) ++ []).Perm ((s.dogs.map fun d : Dog => d.key) ++ [j.dog]) := by
    rw [hs', hd']
    simp
  have hput := insertSession_flatMap_perm (fun s => s.dogs.map (·.key)) [] [j.dog] hc₂.sorted hsm
    (by rw [hs']) hjoined
  rw [List.append_nil] at hput
  refine ⟨hc, ?_, hdk ▸ hle₁, ?_⟩
  · rw [dogKeys, bind_fst]
    refine hput.trans ?_
    rw [hw₂]
    exact (h.sessionFor_dogKeys h1).append_right _
  · rw [bind_fst]
    exact hdk ▸ hlt₂

/-! ### Steering -/

/-- Steering keeps the dogs in play, the key counter and the coherence of the world. -/
theorem Coherent.movePlayerInPlace_dogKeys (h : Coherent w) {token : Token} {dir : String}
    (hm : w.movePlayerInPlace token dir = (w', .ok ())) :
    Coherent w' ∧ w'.dogKeys.Perm w.dogKeys ∧ w'.nextKey = w.nextKey := by
  have hmove : w.movePlayer token dir = .ok w' := by
    rw [World.movePlayer, hm]
    rfl
  obtain ⟨b, s, c, hs, rfl⟩ := movePlayer_eq_ok hmove
  obtain ⟨hsm, -⟩ := (session?_eq_some_iff h.sorted).mp hs
  have hsame : (((s.moveDog b.dog c).1.dogs.map fun d : Dog => d.key) ++ []).Perm
      ((s.dogs.map fun d : Dog => d.key) ++ []) := by
    rw [Session.moveDog_dogs_map s b.dog c _ fun d => by cases c <;> rfl]
  have hput := insertSession_flatMap_perm (fun s => s.dogs.map (·.key)) [] [] h.sorted hsm
    (show s.key = (s.moveDog b.dog c).1.key from rfl) hsame
  rw [List.append_nil, List.append_nil] at hput
  exact ⟨h.movePlayer hmove, hput, rfl⟩

end RoadFetch.World
