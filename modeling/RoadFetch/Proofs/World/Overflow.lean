import RoadFetch.Proofs.World.RoundTrip
import RoadFetch.Proofs.World.Refusals
import Mathlib

/-! # Overflow on restoring a world

Keys, ids and counters are 64-bit words taken from the snapshot as they are, and restoring
adds one to several of them: to the highest restored session or dog key, to find the next
key, and to every dog id and loot id, to find a session's next ids. A snapshot that holds the
largest word in one of those places therefore faults halfway through the restore
(`lastKey_snapshot_overflows`, a session keyed by the largest word restored into a new world).
What holds instead is `applySnapshot_ne_addOverflow`: a snapshot in which none of those keys
and ids is the largest word restores without an overflow, whatever the world it is applied to.
-/

namespace RoadFetch

/-- The largest 64-bit word. -/
def lastWord : UInt64 := 0xFFFFFFFFFFFFFFFF

theorem foldlM_ne_error {ε α β : Type} (P : α → Prop) {step : α → β → Except ε α} {items : List β}
    {init : α} {e : ε} (preserve : ∀ a x a', x ∈ items → P a → step a x = .ok a' → P a')
    (never : ∀ a x, x ∈ items → P a → step a x ≠ .error e) (start : P init) :
    items.foldlM step init ≠ .error e := by
  induction items generalizing init with
  | nil => simp [pure, Except.pure]
  | cons x rest ih =>
    intro h
    rw [List.foldlM_cons] at h
    rcases World.bind_eq_error.mp h with hstep | ⟨a, hstep, hrest⟩
    · exact never init x List.mem_cons_self start hstep
    · exact ih (fun a y a' hy => preserve a y a' (List.mem_cons_of_mem _ hy))
        (fun a y hy => never a y (List.mem_cons_of_mem _ hy))
        (preserve init x a List.mem_cons_self start hstep) hrest

theorem mapM_ne_error {ε α β : Type} {f : α → Except ε β} {l : List α} {e : ε}
    (h : ∀ a ∈ l, f a ≠ .error e) : l.mapM f ≠ .error e := by
  induction l with
  | nil => simp [pure, Except.pure]
  | cons a l ih =>
    intro hl
    rcases World.mapM_eq_error_cons.mp hl with ha | ⟨b, -, hrest⟩
    · exact h a List.mem_cons_self ha
    · exact ih (fun x hx => h x (List.mem_cons_of_mem _ hx)) hrest

namespace DogRecord

theorem toDog_ne_addOverflow (r : DogRecord) : r.toDog ≠ .error .addOverflow := by
  simp only [toDog, Dog.new, Bag.reserve, Checked.reserve]
  split <;> simp [bind, Except.bind, pure, Except.pure]

theorem toDog_fields {r : DogRecord} {d : Dog} (h : r.toDog = .ok d) :
    d.key = r.key ∧ d.id = r.id ∧ ∀ i ∈ d.bag.items, i ∈ r.bag := by
  simp only [toDog, bind_eq_ok, pure_eq_ok] at h
  obtain ⟨d₀, hd₀, rfl⟩ := h
  obtain ⟨-, rfl⟩ := Dog.new_eq_ok.mp hd₀
  exact ⟨rfl, rfl, fun i hi => List.mem_of_mem_take hi⟩

end DogRecord

/-- Saved parts whose ids are all below the last word rebuild a session without a fault. -/
theorem Session.ofParts_ok (key : UInt64) (map : Map) (tuning : Tuning) (spawn : SpawnConfig)
    (counters : Counters) {dogs : List Dog} {loot : List LootItem}
    (hdogs : ∀ d ∈ dogs, d.id < lastWord ∧ ∀ i ∈ d.bag.items, i.lootId < lastWord)
    (hloot : ∀ l ∈ loot, l.id < lastWord) :
    ∃ s, Session.ofParts key map tuning spawn counters dogs loot = .ok s := by
  have hdogIds : ∀ i ∈ dogs.map (·.id), i < lastWord := by
    intro i hi
    obtain ⟨d, hd, rfl⟩ := List.mem_map.mp hi
    exact (hdogs d hd).1
  have hlootIds : ∀ i ∈ loot.map (·.id) ++ dogs.flatMap (fun d => d.bag.items.map (·.lootId)),
      i < lastWord := by
    intro i hi
    rcases List.mem_append.mp hi with hi | hi
    · obtain ⟨l, hl, rfl⟩ := List.mem_map.mp hi
      exact hloot l hl
    · obtain ⟨d, hd, hi⟩ := List.mem_flatMap.mp hi
      obtain ⟨b, hb, rfl⟩ := List.mem_map.mp hi
      exact (hdogs d hd).2 b hb
  obtain ⟨dogIds, hdi, -⟩ := nextIds_ok hdogIds
  obtain ⟨lootIds, hli, -⟩ := nextIds_ok hlootIds
  simp only [Session.ofParts, hdi, hli, bind_eq_ok, pure_eq_ok]
  exact ⟨_, dogIds, rfl, lootIds, rfl, rfl⟩

/-- A session record none of whose keys and ids is the largest word. -/
def SessionRecord.HasSuccessors (r : SessionRecord) : Prop :=
  r.header.key < lastWord ∧ (∀ l ∈ r.loot, l.id < lastWord) ∧
    ∀ d ∈ r.dogs, d.key < lastWord ∧ d.id < lastWord ∧ ∀ i ∈ d.bag, i.lootId < lastWord

/-- No key and no id that restoring adds one to is the largest word. -/
def WorldSnapshot.HasSuccessors (snap : WorldSnapshot) : Prop :=
  ∀ r ∈ snap.sessions, r.HasSuccessors

namespace World

/-- The highest key seen while restoring has a successor. -/
def HighestBelow (p : World × Option UInt64) : Prop := ∀ k, p.2 = some k → k < lastWord

theorem highestBelow_raiseKey {highest : Option UInt64} {k : UInt64}
    (h : ∀ j, highest = some j → j < lastWord) (hk : k < lastWord) :
    ∀ j, raiseKey highest k = some j → j < lastWord := by
  intro j hj
  cases highest with
  | none =>
    cases hj
    exact hk
  | some x =>
    cases hj
    have hx := h x rfl
    rw [UInt64.lt_iff_toNat_lt, UInt64.toNat_max] at *
    omega

/-- Restoring a record without last words does not overflow: its dogs are rebuilt without
one, and so is its session, from ids that all have successors. -/
theorem restoreSession_ne_addOverflow (p : World × Option UInt64) {r : SessionRecord} (m : Map)
    (hr : r.HasSuccessors) : restoreSession p (r, m) ≠ .error .addOverflow := by
  obtain ⟨w, highest⟩ := p
  obtain ⟨-, hloot, hdogs⟩ := hr
  unfold restoreSession
  dsimp only
  split
  · simp [pure, Except.pure]
  · intro h
    rcases bind_eq_error.mp h with hm | ⟨dogs, hm, hrest⟩
    · exact mapM_ne_error (fun d _ => DogRecord.toDog_ne_addOverflow d) hm
    · -- every dog comes from a record of the session, with its id and some of its bag
      have hfrom : ∀ d ∈ dogs, d.id < lastWord ∧ ∀ i ∈ d.bag.items, i.lootId < lastWord := by
        intro d hd
        obtain ⟨dr, hdr, hto⟩ := mapM_eq_ok_mem hm hd
        obtain ⟨-, hi, hb⟩ := DogRecord.toDog_fields hto
        obtain ⟨-, hi', hb'⟩ := hdogs dr hdr
        exact ⟨hi ▸ hi', fun i hi => hb' i (hb i hi)⟩
      obtain ⟨s, hs⟩ := Session.ofParts_ok r.header.key m r.header.tuning w.settings.loot
        r.header.counters hfrom hloot
      rw [hs] at hrest
      cases hrest

theorem HighestBelow.restoreSession {p p' : World × Option UInt64} {r : SessionRecord} {m : Map}
    (hp : HighestBelow p) (hr : r.HasSuccessors) (h : World.restoreSession p (r, m) = .ok p') :
    HighestBelow p' := by
  rcases restoreSession_eq_ok h with rfl | ⟨dogs, s, -, -, hm, -, rfl⟩
  · exact hp
  · obtain ⟨hkey, -, hdogs⟩ := hr
    -- the highest key is raised by the session key, then by the key of each rebuilt dog
    refine foldl_inv (fun h => ∀ j, h = some j → j < lastWord) ?_ (highestBelow_raiseKey hp hkey)
    intro highest d hd hbelow
    obtain ⟨dr, hdr, hto⟩ := mapM_eq_ok_mem hm hd
    exact highestBelow_raiseKey hbelow ((DogRecord.toDog_fields hto).1 ▸ (hdogs dr hdr).1)

/-- The highest key a restore starts from, one below the snapshot's next key, has a
successor. -/
theorem highestBelow_start (w : World) (next : UInt64) :
    HighestBelow (w, if next == 0 then none else some (next - 1)) := by
  intro k hk
  by_cases h0 : next = 0
  · simp [h0] at hk
  · simp only [h0, beq_iff_eq, if_false, Option.some.injEq] at hk
    subst hk
    have hlt := sub_one_lt_of_ne_zero h0
    have hle : next.toNat ≤ lastWord.toNat := by
      have hlast : lastWord.toNat = 18446744073709551615 := rfl
      have := next.toNat_lt
      omega
    rw [UInt64.lt_iff_toNat_lt] at hlt ⊢
    omega

/-- A snapshot none of whose keys and ids is the largest word is applied to any world without
an overflow. -/
theorem applySnapshot_ne_addOverflow (w : World) {snap : WorldSnapshot} (h : snap.HasSuccessors) :
    w.applySnapshot snap ≠ .error .addOverflow := by
  have hin : w.applySnapshotInPlace snap ≠ .error .addOverflow := by
    unfold applySnapshotInPlace
    cases hm : w.recordMaps snap.sessions with
    | error e => simp [pure, Except.pure]
    | ok maps =>
      intro hf
      simp only [pure_bind] at hf
      rcases bind_eq_error.mp hf with hfold | ⟨⟨w₂, highest⟩, hfold, hrest⟩
      · refine foldlM_ne_error HighestBelow (fun p x p' hx hp hstep => ?_)
          (fun p x hx _ => ?_) (highestBelow_start _ _) hfold
        · exact hp.restoreSession (h x.1 (List.of_mem_zip hx).1) hstep
        · exact restoreSession_ne_addOverflow p x.2 (h x.1 (List.of_mem_zip hx).1)
      · -- the next key is one past the highest key restored, which has a successor
        have hbelow : HighestBelow (w₂, highest) :=
          foldlM_inv HighestBelow (fun p x p' hx hp hstep => hp.restoreSession (h x.1 (List.of_mem_zip hx).1) hstep)
            (highestBelow_start _ _) hfold
        cases highest with
        | none => cases hrest
        | some k =>
          obtain ⟨hsucc, -⟩ := Checked.succ_of_lt (hbelow k rfl)
          dsimp only at hrest
          rw [hsucc] at hrest
          cases hrest
  intro ha
  unfold applySnapshot at ha
  cases hx : w.applySnapshotInPlace snap with
  | error f =>
    rw [hx] at ha
    cases ha
    exact hin hx
  | ok p =>
    rw [hx] at ha
    cases ha

/-- A session keyed by the largest word, restored into a new world over its map: finding the
next key overflows. -/
theorem lastKey_snapshot_overflows :
    ∃ w, World.new [{ id := "m", name := "M" }] ⟨Tuning.default, SpawnConfig.default, 0⟩ = .ok w ∧
      w.applySnapshot ⟨[⟨[], [], ⟨lastWord, "m", 0, 0, (1, 2), Tuning.default⟩⟩], [], 0⟩ =
        .error .addOverflow :=
  ⟨_, rfl, rfl⟩

end World

end RoadFetch
