import RoadFetch.Proofs.World.Sessions
import RoadFetch.Proofs.Schedule.Subscriptions
import RoadFetch.Proofs.Session.Counters
import Mathlib

/-! # A coherent world

A world keeps the same facts in several places: its sessions in key order, the map index,
the tick subscriptions, the two indexes of the bindings, the key counter and each session's
own counters. A world is *coherent* when they agree: the map index lists every session once
and no map twice, the scheduler has one subscription per session and one for the autosave
timer while it runs, the bindings are well formed and each names a dog in a live session,
the key counter is past every session and dog key, and every session is sound. Building a
world, the autosave switches, steering a dog and joining keep a world coherent.
-/

namespace RoadFetch.World

/-- The indexes of the sessions agree with the sessions. -/
structure Indexed (w : World) : Prop where
  sorted : KeysSorted w.sessions
  byMap : w.sessionByMap.Perm (mapIndex w.sessions)
  maps_nodup : (w.sessions.map (·.map.id)).Nodup
  sessionSubs : ∀ k, w.scheduler.count (.session k) = if k ∈ w.sessions.map (·.key) then 1 else 0
  persistenceSubs : w.scheduler.count .persistence = if w.autosave.isSome then 1 else 0

/-- Every binding names a dog in a live session. -/
def BoundLive (bs : Bindings) (ss : List Session) : Prop :=
  ∀ b ∈ bs.list, ∃ s ∈ ss, s.key = b.session ∧ b.dog ∈ s.dogs.map (·.key)

/-- Every session key and dog key is below `next`. -/
def KeysBelow (ss : List Session) (next : UInt64) : Prop :=
  ∀ s ∈ ss, s.key < next ∧ ∀ d ∈ s.dogs, d.key < next

structure Coherent (w : World) : Prop extends Indexed w where
  players : w.players.WellFormed
  bound : BoundLive w.players w.sessions
  below : KeysBelow w.sessions w.nextKey
  sound : ∀ s ∈ w.sessions, s.Sound
  catalog : ∀ s ∈ w.sessions, ∃ m ∈ w.maps, m.id = s.map.id

variable {w w' : World}

/-! ### The parts of the invariant -/

theorem Indexed.congr (h : Indexed w) (hs : w'.sessions = w.sessions) (hm : w'.sessionByMap = w.sessionByMap)
    (hsch : w'.scheduler = w.scheduler) (ha : w'.autosave = w.autosave) : Indexed w' := by
  obtain ⟨h1, h2, h3, h4, h5⟩ := h
  refine ⟨?_, ?_, ?_, ?_, ?_⟩ <;> simp only [hs, hm, hsch, ha] <;> assumption

theorem KeysBelow.mono {ss : List Session} {n n' : UInt64} (h : KeysBelow ss n) (hle : n ≤ n') :
    KeysBelow ss n' := fun s hs =>
  ⟨UInt64.lt_of_lt_of_le (h s hs).1 hle, fun d hd => UInt64.lt_of_lt_of_le ((h s hs).2 d hd) hle⟩

theorem BoundLive.mono {bs : Bindings} {ss ss' : List Session} (h : BoundLive bs ss)
    (hsub : ∀ s ∈ ss, s ∈ ss') : BoundLive bs ss' := fun b hb => by
  obtain ⟨s, hs, hkey, hdog⟩ := h b hb
  exact ⟨s, hsub s hs, hkey, hdog⟩

/-- The parts a change leaves alone, with the key counter not going back. -/
theorem Coherent.congr (h : Coherent w) (hs : w'.sessions = w.sessions) (hm : w'.sessionByMap = w.sessionByMap)
    (hp : w'.players = w.players) (hsch : w'.scheduler = w.scheduler) (ha : w'.autosave = w.autosave)
    (hmaps : w'.maps = w.maps) (hk : w.nextKey ≤ w'.nextKey) : Coherent w' where
  toIndexed := h.toIndexed.congr hs hm hsch ha
  players := hp ▸ h.players
  bound := hp ▸ hs ▸ h.bound
  below := hs ▸ h.below.mono hk
  sound := hs ▸ h.sound
  catalog := hmaps ▸ hs ▸ h.catalog

/-! ### Building a world -/

theorem Scheduler.count_empty (k : Target) : Scheduler.count ({} : Scheduler Target) k = 0 := by
  simp [Scheduler.count]

theorem coherent_of_empty (hs : w.sessions = []) (hm : w.sessionByMap = []) (hp : w.players = {})
    (hsch : w.scheduler = {}) (ha : w.autosave = none) : Coherent w where
  sorted := hs ▸ List.Pairwise.nil
  byMap := by simp [hs, hm, mapIndex]
  maps_nodup := by simp [hs]
  sessionSubs := by simp [hsch, hs, Scheduler.count_empty]
  persistenceSubs := by simp [hsch, ha, Scheduler.count_empty]
  players := hp ▸ Bindings.WellFormed.empty
  bound := by simp [BoundLive, hp]
  below := by simp [KeysBelow, hs]
  sound := by simp [hs]
  catalog := by simp [hs]

theorem coherent_new {maps : List Map} {settings : GameSettings} (h : World.new maps settings = .ok w) :
    Coherent w := by
  let Empty : World → Prop := fun w => w.sessions = [] ∧ w.sessionByMap = [] ∧ w.players = {} ∧
    w.scheduler = {} ∧ w.autosave = none
  have hempty : Empty w := by
    refine foldlM_inv Empty ?_ ⟨rfl, rfl, rfl, rfl, rfl⟩ h
    intro a m a' _ ha hstep
    unfold addMap at hstep
    split at hstep
    · cases hstep
    · cases hstep
      exact ha
  obtain ⟨hs, hm, hp, hsch, ha⟩ := hempty
  exact coherent_of_empty hs hm hp hsch ha

theorem Coherent.withTokenKey (h : Coherent w) (key : ByteArray) : Coherent (w.withTokenKey key) :=
  h.congr rfl rfl rfl rfl rfl rfl (UInt64.le_refl _)

/-! ### The autosave switches -/

theorem Coherent.enableAutosave (h : Coherent w) (period : Duration) : Coherent (w.enableAutosave period) where
  sorted := h.sorted
  byMap := h.byMap
  maps_nodup := h.maps_nodup
  sessionSubs k := by
    simp [World.enableAutosave, Scheduler.count_subscribe, Scheduler.count_unsubscribe, h.sessionSubs k]
  persistenceSubs := by simp [World.enableAutosave, Scheduler.count_subscribe, Scheduler.count_unsubscribe]
  players := h.players
  bound := h.bound
  below := h.below
  sound := h.sound
  catalog := h.catalog

theorem Coherent.disableAutosave (h : Coherent w) : Coherent w.disableAutosave where
  sorted := h.sorted
  byMap := h.byMap
  maps_nodup := h.maps_nodup
  sessionSubs k := by simp [World.disableAutosave, Scheduler.count_unsubscribe, h.sessionSubs k]
  persistenceSubs := by simp [World.disableAutosave, Scheduler.count_unsubscribe]
  players := h.players
  bound := h.bound
  below := h.below
  sound := h.sound
  catalog := h.catalog

/-! ### Replacing a session -/

section Replace

variable {ss : List Session} {s t : Session}

theorem BoundLive.insertSession {bs : Bindings} (h : BoundLive bs ss) (hsorted : KeysSorted ss) (ht : t ∈ ss)
    (hkey : s.key = t.key) (hdogs : ∀ k ∈ t.dogs.map (·.key), k ∈ s.dogs.map (·.key)) :
    BoundLive bs (insertSession s ss) := by
  intro b hb
  obtain ⟨u, hu, hub, hdog⟩ := h b hb
  by_cases hus : u.key = s.key
  · -- the binding's session is the one replaced
    have hut : u = t := hsorted.key_unique hu ht (hus.trans hkey)
    subst hut
    exact ⟨s, (mem_insertSession s hsorted).mpr (.inl rfl), hus ▸ hub, hdogs _ hdog⟩
  · exact ⟨u, (mem_insertSession s hsorted).mpr (.inr ⟨hu, hus⟩), hub, hdog⟩

theorem KeysBelow.insertSession {n : UInt64} (h : KeysBelow ss n) (hs : s.key < n)
    (hd : ∀ d ∈ s.dogs, d.key < n) : KeysBelow (insertSession s ss) n := by
  intro x hx
  rcases mem_insertSession_of_mem s hx with rfl | hx
  · exact ⟨hs, hd⟩
  · exact h x hx

theorem sound_insertSession (h : ∀ x ∈ ss, x.Sound) (hs : s.Sound) : ∀ x ∈ insertSession s ss, x.Sound := by
  intro x hx
  rcases mem_insertSession_of_mem s hx with rfl | hx
  · exact hs
  · exact h x hx

theorem Indexed.putSession (h : Indexed w) (ht : t ∈ w.sessions) (hkey : s.key = t.key)
    (hmap : s.map.id = t.map.id) : Indexed (w.putSession s) where
  sorted := insertSession_sorted s h.sorted
  byMap := by
    rw [World.putSession, mapIndex_insertSession_of_mem s h.sorted ht hkey.symm hmap.symm]
    exact h.byMap
  maps_nodup := by
    rw [World.putSession, insertSession_map_of_mem s _ h.sorted ht hkey.symm hmap.symm]
    exact h.maps_nodup
  sessionSubs k := by
    rw [World.putSession, insertSession_map_of_mem s _ h.sorted ht hkey.symm hkey.symm]
    exact h.sessionSubs k
  persistenceSubs := h.persistenceSubs

/-- A session that keeps the key and map of a live session, keeps its dogs' keys and adds
only keys below the counter, and is sound, keeps the world coherent in its place. -/
theorem Coherent.putSession (h : Coherent w) (ht : t ∈ w.sessions) (hkey : s.key = t.key)
    (hmap : s.map.id = t.map.id) (hdogs : ∀ k ∈ t.dogs.map (·.key), k ∈ s.dogs.map (·.key))
    (hlt : ∀ d ∈ s.dogs, d.key < w.nextKey) (hs : s.Sound) : Coherent (w.putSession s) where
  toIndexed := h.toIndexed.putSession ht hkey hmap
  players := h.players
  bound := h.bound.insertSession h.sorted ht hkey hdogs
  below := h.below.insertSession (hkey ▸ (h.below t ht).1) hlt
  sound := sound_insertSession h.sound hs
  catalog := by
    intro x hx
    rcases mem_insertSession_of_mem s hx with rfl | hx
    · rw [hmap]
      exact h.catalog t ht
    · exact h.catalog x hx

end Replace

/-! ### Steering -/

/-- A request answered with success is one that ran in place and succeeded. -/
theorem settle_eq_ok {ε α : Type} {p : World × Except ε α} {a : α} :
    settle p = .ok (w', a) ↔ p = (w', .ok a) := by
  obtain ⟨w, r⟩ := p
  cases r <;> simp [settle, Except.map, and_comm, eq_comm]

theorem movePlayer_eq_ok {token : Token} {dir : String} (h : w.movePlayer token dir = .ok w') :
    ∃ (b : Binding) (s : Session) (c : Command), w.session? b.session = some s ∧
      w' = w.putSession (s.moveDog b.dog c).1 := by
  have hin : w.movePlayerInPlace token dir = (w', .ok ()) := by
    unfold movePlayer at h
    cases hp : settle (w.movePlayerInPlace token dir) with
    | error e => simp [hp, Except.map] at h
    | ok p => simp only [hp, Except.map, Except.ok.injEq] at h; exact settle_eq_ok.mp (h ▸ hp)
  unfold movePlayerInPlace at hin
  cases hb : w.players.find? token with
  | none => simp [hb] at hin
  | some b =>
    cases hc : Command.parse dir with
    | error e => simp [hb, hc] at hin
    | ok c =>
      cases hs : w.session? b.session with
      | none => simp [hb, hc, hs] at hin
      | some s =>
        simp only [hb, hc, hs, Prod.mk.injEq] at hin
        exact ⟨b, s, c, hs, hin.1.symm⟩

theorem Coherent.movePlayer (h : Coherent w) {token : Token} {dir : String}
    (hm : w.movePlayer token dir = .ok w') : Coherent w' := by
  obtain ⟨b, s, c, hs, rfl⟩ := movePlayer_eq_ok hm
  have hmem := ((session?_eq_some_iff h.sorted).mp hs).1
  have hkeys : (s.moveDog b.dog c).1.dogs.map (·.key) = s.dogs.map (·.key) :=
    Session.moveDog_dogs_map s b.dog c _ fun d => by cases c <;> rfl
  refine h.putSession hmem rfl rfl (fun k hk => hkeys ▸ hk) ?_ (h.sound s hmem |>.moveDog b.dog c)
  intro d hd
  obtain ⟨e, he, hed⟩ := List.mem_map.mp (hkeys ▸ List.mem_map_of_mem hd : d.key ∈ s.dogs.map (·.key))
  exact hed ▸ (h.below s hmem).2 e he

/-! ### Joining -/

theorem allocateKey_eq_ok {k : UInt64} (h : w.allocateKey = .ok (w', k)) :
    k = w.nextKey ∧ w.nextKey < w'.nextKey ∧ w' = { w with nextKey := w'.nextKey } := by
  simp only [allocateKey, bind_eq_ok, pure_eq_ok, Prod.mk.injEq] at h
  obtain ⟨n, hn, rfl, rfl⟩ := h
  exact ⟨rfl, Checked.lt_of_succ_eq_ok hn, rfl⟩

theorem Coherent.allocateKey (h : Coherent w) {k : UInt64} (ha : w.allocateKey = .ok (w', k)) : Coherent w' := by
  obtain ⟨-, hlt, hw⟩ := allocateKey_eq_ok ha
  rw [hw]
  exact h.congr rfl rfl rfl rfl rfl rfl (UInt64.le_of_lt hlt)

/-- A session of a new key on a map without one joins both indexes and the scheduler. -/
theorem Indexed.addSession (h : Indexed w) (s : Session) (hkey : ∀ t ∈ w.sessions, t.key ≠ s.key)
    (hmap : ∀ t ∈ w.sessions, t.map.id ≠ s.map.id) :
    Indexed { w with sessions := insertSession s w.sessions, sessionByMap := w.sessionByMap ++ [(s.map.id, s.key)],
                     scheduler := w.scheduler.subscribe (.session s.key) sessionPriority } := by
  have hperm := insertSession_perm_of_fresh s hkey
  have hnew : s.key ∉ w.sessions.map (·.key) := by
    intro hk
    obtain ⟨t, ht, hts⟩ := List.mem_map.mp hk
    exact hkey t ht hts
  refine ⟨insertSession_sorted s h.sorted, ?_, ?_, ?_, ?_⟩
  · exact (List.perm_append_singleton _ _).trans
      ((h.byMap.cons _).trans (mapIndex_insertSession_of_fresh s hkey).symm)
  · rw [(hperm.map _).nodup_iff, List.map_cons, List.nodup_cons]
    refine ⟨fun hm => ?_, h.maps_nodup⟩
    obtain ⟨t, ht, hts⟩ := List.mem_map.mp hm
    exact hmap t ht hts
  · intro k
    simp only [Scheduler.count_subscribe, Target.session.injEq, (hperm.map _).mem_iff, List.map_cons,
      List.mem_cons, h.sessionSubs k]
    by_cases hk : s.key = k
    · subst hk
      simp [hnew]
    · simp [hk, Ne.symm hk]
  · simp [Scheduler.count_subscribe, h.persistenceSubs]

theorem sessionFor_eq_ok {m : Map} {key : UInt64} (h : w.sessionFor m = .ok (w', key)) :
    (w.sessionKeyOf? m.id = some key ∧ w' = w) ∨
    (w.sessionKeyOf? m.id = none ∧ ∃ w₀, w.allocateKey = .ok (w₀, key) ∧
      w' = { w₀ with sessions := insertSession (w₀.newSession key m) w₀.sessions,
                     sessionByMap := w₀.sessionByMap ++ [(m.id, key)],
                     scheduler := w₀.scheduler.subscribe (.session key) sessionPriority }) := by
  unfold sessionFor at h
  split at h
  · next k hk =>
    simp only [pure_eq_ok, Prod.mk.injEq] at h
    obtain ⟨rfl, rfl⟩ := h
    exact .inl ⟨hk, rfl⟩
  · next hk =>
    simp only [bind_eq_ok, pure_eq_ok, Prod.mk.injEq] at h
    obtain ⟨⟨w₀, k⟩, ha, rfl, rfl⟩ := h
    exact .inr ⟨hk, w₀, ha, rfl⟩

/-- Finding or creating the session of a map keeps the world coherent and gives the key of a
live session. -/
theorem Coherent.sessionFor (h : Coherent w) {m : Map} (hm : m ∈ w.maps) {key : UInt64}
    (hs : w.sessionFor m = .ok (w', key)) :
    Coherent w' ∧ w.nextKey ≤ w'.nextKey ∧ ∃ s ∈ w'.sessions, s.key = key := by
  rcases sessionFor_eq_ok hs with ⟨hk, rfl⟩ | ⟨hk, w₀, ha, rfl⟩
  · obtain ⟨s, hs, -, hkey⟩ := (sessionKeyOf?_eq_some_iff h.byMap h.maps_nodup).mp hk
    exact ⟨h, UInt64.le_refl _, s, hs, hkey⟩
  · obtain ⟨rfl, hlt, hw₀⟩ := allocateKey_eq_ok ha
    have h₀ := h.allocateKey ha
    have hsess : w₀.sessions = w.sessions := by rw [hw₀]
    let ns := w₀.newSession w.nextKey m
    -- the new key is past every key, and the map has no session yet
    have hkey : ∀ t ∈ w₀.sessions, t.key ≠ ns.key := fun t ht he =>
      UInt64.lt_irrefl _ (he ▸ (h.below t (hsess ▸ ht)).1)
    have hmap : ∀ t ∈ w₀.sessions, t.map.id ≠ ns.map.id := by
      intro t ht he
      obtain ⟨k, hk'⟩ : ∃ k, w.sessionKeyOf? m.id = some k :=
        ⟨t.key, (sessionKeyOf?_eq_some_iff h.byMap h.maps_nodup).mpr ⟨t, hsess ▸ ht, he, rfl⟩⟩
      rw [hk] at hk'
      cases hk'
    have hperm := insertSession_perm_of_fresh ns hkey
    have hmem : ∀ t ∈ w₀.sessions, t ∈ insertSession ns w₀.sessions := fun t ht =>
      hperm.symm.subset (List.mem_cons_of_mem _ ht)
    refine ⟨⟨h₀.toIndexed.addSession ns hkey hmap, h₀.players, h₀.bound.mono hmem, ?_, ?_, ?_⟩,
      UInt64.le_of_lt hlt, ns, hperm.symm.subset List.mem_cons_self, rfl⟩
    · exact h₀.below.insertSession hlt (by simp [newSession, Session.new])
    · exact sound_insertSession h₀.sound (Session.sound_new _ _ _ _ _)
    · intro x hx
      rcases mem_insertSession_of_mem ns hx with rfl | hx
      · exact ⟨m, hw₀ ▸ hm, rfl⟩
      · exact h₀.catalog x hx

/-- A token drawn for a new binding is bound to nothing: a draw is taken only when it is
free, and the text after the last draw is longer than every bound token. -/
theorem freshToken_unbound (players : Bindings) (key : ByteArray) (fuel n : Nat) :
    players.hasToken (freshToken players key fuel n).1 = false := by
  induction fuel generalizing n with
  | zero =>
    rw [Bindings.hasToken_eq_false_iff]
    intro b hb he
    have hle : b.token.text.length ≤ (players.list.map (·.token.text.length)).foldl max 0 := by
      have hmem : b.token.text.length ∈ players.list.map (·.token.text.length) := List.mem_map_of_mem hb
      rw [List.foldl_max_eq_max (List.ne_nil_of_mem hmem)]
      exact le_max_of_le_right (List.le_max_of_mem hmem)
    have hlen := congrArg (·.text.length) he
    simp only [freshToken, String.length_ofList, List.length_replicate] at hlen
    omega
  | succ fuel ih =>
    simp only [freshToken]
    split
    · exact ih (n + 1)
    · next hfree => exact eq_false_of_ne_true hfree

theorem bind_fst (w : World) (dog session : UInt64) : (w.bind dog session).1 =
    { w with players := ⟨Bindings.insertSorted
                ⟨(freshToken w.players w.tokenKey (w.players.size + 1) w.nextToken).1, dog, session⟩ w.players.list⟩,
             nextToken := (freshToken w.players w.tokenKey (w.players.size + 1) w.nextToken).2 } := rfl

theorem Coherent.bind (h : Coherent w) {dog session : UInt64}
    (hlive : ∃ s ∈ w.sessions, s.key = session ∧ dog ∈ s.dogs.map (·.key))
    (hfree : w.players.hasDog dog = false) : Coherent (w.bind dog session).1 := by
  rw [bind_fst]
  refine ⟨h.toIndexed.congr rfl rfl rfl rfl, h.players.insertSorted (freshToken_unbound _ _ _ _) hfree,
    ?_, h.below, h.sound, h.catalog⟩
  intro b hb
  rcases Bindings.mem_insertSorted.mp hb with rfl | hb
  · exact hlive
  · exact h.bound b hb

theorem join_eq_ok {mapId name : String} {j : Joined} (h : w.join mapId name = .ok (.ok (w', j))) :
    ∃ m w₁ sk w₂ dk s s' d, w.map? mapId = some m ∧ w.sessionFor m = .ok (w₁, sk) ∧
      w₁.allocateKey = .ok (w₂, dk) ∧
      w₂.session? sk = some s ∧ s.join dk name = .ok (s', d) ∧ w' = ((w₂.putSession s').bind dk sk).1 := by
  have hin : w.joinInPlace mapId name = .ok (w', .ok j) := by
    unfold join at h
    cases hp : w.joinInPlace mapId name with
    | error f => simp [hp, Except.map] at h
    | ok p => simp only [hp, Except.map, Except.ok.injEq] at h; rw [settle_eq_ok.mp h]
  unfold joinInPlace at hin
  split at hin
  · simp [pure_eq_ok] at hin
  · cases hm : w.map? mapId with
    | none => simp [hm, pure_eq_ok] at hin
    | some m =>
      simp only [hm, bind_eq_ok] at hin
      obtain ⟨⟨w₁, sk⟩, h1, ⟨w₂, dk⟩, h2, h⟩ := hin
      cases hs : w₂.session? sk with
      | none => simp [hs, pure_eq_ok] at h
      | some s =>
        simp only [hs, bind_eq_ok] at h
        obtain ⟨⟨s', d⟩, h3, h⟩ := h
        simp only [pure_eq_ok, Prod.mk.injEq] at h
        exact ⟨m, w₁, sk, w₂, dk, s, s', d, rfl, h1, h2, hs, h3, h.1.symm⟩

/-- A join keeps the world coherent, and the key counter only moves forward. -/
theorem Coherent.join (h : Coherent w) {mapId name : String} {j : Joined}
    (hj : w.join mapId name = .ok (.ok (w', j))) : Coherent w' ∧ w.nextKey ≤ w'.nextKey := by
  obtain ⟨m, w₁, sk, w₂, dk, s, s', d, hm, h1, h2, hs, h3, rfl⟩ := join_eq_ok hj
  obtain ⟨hc₁, hle₁, -⟩ := h.sessionFor (List.mem_of_find?_eq_some hm) h1
  obtain ⟨rfl, hlt₂, hw₂⟩ := allocateKey_eq_ok h2
  have hc₂ := hc₁.allocateKey h2
  obtain ⟨hsm, rfl⟩ := (session?_eq_some_iff hc₂.sorted).mp hs
  obtain ⟨n, -, hd, hs'⟩ := Session.join_eq_ok h3
  obtain ⟨-, hd'⟩ := Dog.new_eq_ok.mp hd
  -- the joined session: the dogs before and the new dog, whose key is the one just taken
  have hdogs' : s'.dogs = s.dogs ++ [d] := by rw [hs']
  have hdogs : ∀ k ∈ s.dogs.map (·.key), k ∈ s'.dogs.map (·.key) := fun k hk => by
    rw [hdogs', List.map_append]
    exact List.mem_append_left _ hk
  have hlt : ∀ e ∈ s'.dogs, e.key < w₂.nextKey := by
    intro e he
    rw [hdogs'] at he
    rcases List.mem_append.mp he with he | he
    · exact (hc₂.below s hsm).2 e he
    · rw [List.mem_singleton.mp he, hd']
      exact hlt₂
  have hc₃ := hc₂.putSession (s := s') hsm (by rw [hs']) (by rw [hs']) hdogs hlt ((hc₂.sound s hsm).join h3)
  -- no binding names the new dog: every bound dog is live, so its key is below the counter
  have hfree : w₁.players.hasDog w₁.nextKey = false := by
    rw [Bindings.hasDog_eq_false_iff]
    intro b hb he
    obtain ⟨u, hu, -, hdog⟩ := hc₁.bound b hb
    obtain ⟨e, he', hek⟩ := List.mem_map.mp hdog
    exact UInt64.lt_irrefl _ (he ▸ hek ▸ (hc₁.below u hu).2 e he')
  refine ⟨hc₃.bind ⟨s', (mem_insertSession _ hc₂.sorted).mpr (.inl rfl), by rw [hs'], ?_⟩
    (by rw [hw₂]; exact hfree), ?_⟩
  · rw [hdogs', List.map_append]
    exact List.mem_append_right _ (by simp [hd'])
  · rw [bind_fst]
    exact UInt64.le_trans hle₁ (UInt64.le_of_lt hlt₂)

end RoadFetch.World
