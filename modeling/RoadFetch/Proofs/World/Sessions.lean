import RoadFetch.Proofs.World.Bindings
import RoadFetch.World.Basic
import Mathlib

/-! # The sessions of a world as an index

A world keeps its sessions in one list, in strictly increasing key order, and finds them by
key; it finds the session of a map through a second list of pairs of a map id and a key.
`insertSession` puts a session in its place by key, replacing the one of the same key. On a
list in key order it keeps the order, and it either replaces one session, leaving every
other one where it was, or adds a session with a new key.
-/

namespace RoadFetch.World

def KeysSorted (ss : List Session) : Prop := ss.Pairwise fun a b => a.key < b.key

theorem KeysSorted.keys_nodup {ss : List Session} (h : KeysSorted ss) : (ss.map (·.key)).Nodup :=
  List.pairwise_map.mpr (h.imp UInt64.ne_of_lt)

theorem KeysSorted.key_unique {ss : List Session} (h : KeysSorted ss) {a b : Session} (ha : a ∈ ss)
    (hb : b ∈ ss) (hab : a.key = b.key) : a = b :=
  List.inj_on_of_nodup_map h.keys_nodup ha hb hab

theorem key_lt_of_not_lt {a b : UInt64} (hlt : ¬a < b) (hne : (a == b) = false) : b < a := by
  rw [beq_eq_false_iff_ne, ne_eq, ← UInt64.toNat_inj] at hne
  rw [UInt64.lt_iff_toNat_lt] at hlt ⊢
  omega

/-- The map index of sessions: the id of each one's map with its key. -/
def mapIndex (ss : List Session) : List (String × UInt64) := ss.map fun s => (s.map.id, s.key)

/-! ### Inserting by key -/

section Insert

variable (s : Session)

theorem mem_insertSession_of_mem {ss : List Session} {x : Session} (hx : x ∈ insertSession s ss) :
    x = s ∨ x ∈ ss := by
  induction ss with
  | nil => exact .inl (List.mem_singleton.mp hx)
  | cons t rest ih =>
    unfold insertSession at hx
    split at hx
    · exact List.mem_cons.mp hx |>.imp_right id
    · split at hx
      · rcases List.mem_cons.mp hx with rfl | hx
        · exact .inl rfl
        · exact .inr (List.mem_cons_of_mem _ hx)
      · rcases List.mem_cons.mp hx with rfl | hx
        · exact .inr List.mem_cons_self
        · exact (ih hx).imp_right (List.mem_cons_of_mem _)

theorem insertSession_sorted {ss : List Session} (h : KeysSorted ss) : KeysSorted (insertSession s ss) := by
  induction ss with
  | nil => exact List.pairwise_singleton _ _
  | cons t rest ih =>
    obtain ⟨ht, hrest⟩ := List.pairwise_cons.mp h
    unfold insertSession
    split
    · next hlt =>
      refine List.pairwise_cons.mpr ⟨?_, h⟩
      intro x hx
      rcases List.mem_cons.mp hx with rfl | hx
      · exact hlt
      · exact UInt64.lt_trans hlt (ht x hx)
    · next hnlt =>
      split
      · next heq =>
        rw [beq_iff_eq] at heq
        refine List.pairwise_cons.mpr ⟨?_, hrest⟩
        intro x hx
        rw [heq]
        exact ht x hx
      · next hne =>
        refine List.pairwise_cons.mpr ⟨?_, ih hrest⟩
        intro x hx
        rcases mem_insertSession_of_mem s hx with rfl | hx
        · exact key_lt_of_not_lt hnlt (eq_false_of_ne_true hne)
        · exact ht x hx

/-- In key order, inserting keeps the inserted session and every session of another key. -/
theorem mem_insertSession {ss : List Session} (h : KeysSorted ss) {x : Session} :
    x ∈ insertSession s ss ↔ x = s ∨ (x ∈ ss ∧ x.key ≠ s.key) := by
  induction ss with
  | nil => simp [insertSession]
  | cons t rest ih =>
    obtain ⟨ht, hrest⟩ := List.pairwise_cons.mp h
    unfold insertSession
    split
    · next hlt =>
      -- every key of the list is past the new one
      have hgt : ∀ y ∈ t :: rest, s.key < y.key := by
        intro y hy
        rcases List.mem_cons.mp hy with rfl | hy
        · exact hlt
        · exact UInt64.lt_trans hlt (ht y hy)
      constructor
      · intro hx
        rcases List.mem_cons.mp hx with rfl | hx
        · exact .inl rfl
        · exact .inr ⟨hx, fun he => UInt64.lt_irrefl _ (he ▸ hgt x hx)⟩
      · rintro (rfl | ⟨hx, -⟩)
        · exact List.mem_cons_self
        · exact List.mem_cons_of_mem _ hx
    · next hnlt =>
      split
      · next heq =>
        rw [beq_iff_eq] at heq
        constructor
        · intro hx
          rcases List.mem_cons.mp hx with rfl | hx
          · exact .inl rfl
          · exact .inr ⟨List.mem_cons_of_mem _ hx, fun he => UInt64.lt_irrefl _ (heq ▸ he ▸ ht x hx)⟩
        · rintro (rfl | ⟨hx, hne⟩)
          · exact List.mem_cons_self
          · rcases List.mem_cons.mp hx with rfl | hx
            · exact absurd heq.symm hne
            · exact List.mem_cons_of_mem _ hx
      · next hne =>
        have hts := key_lt_of_not_lt hnlt (eq_false_of_ne_true hne)
        rw [List.mem_cons, ih hrest, List.mem_cons]
        constructor
        · rintro (rfl | rfl | ⟨hx, hxs⟩)
          · exact .inr ⟨.inl rfl, UInt64.ne_of_lt hts⟩
          · exact .inl rfl
          · exact .inr ⟨.inr hx, hxs⟩
        · rintro (rfl | ⟨rfl | hx, hxs⟩)
          · exact .inr (.inl rfl)
          · exact .inl rfl
          · exact .inr (.inr ⟨hx, hxs⟩)

theorem insertSession_perm_of_fresh {ss : List Session} (h : ∀ t ∈ ss, t.key ≠ s.key) :
    (insertSession s ss).Perm (s :: ss) := by
  induction ss with
  | nil => rfl
  | cons t rest ih =>
    have hne : (s.key == t.key) = false :=
      beq_eq_false_iff_ne.mpr fun he => h t List.mem_cons_self he.symm
    unfold insertSession
    split
    · rfl
    · rw [hne]
      exact ((ih fun x hx => h x (List.mem_cons_of_mem _ hx)).cons t).trans (List.Perm.swap s t rest)

/-- A session replacing one of its key leaves every view that the two share. -/
theorem insertSession_map_of_mem {β : Type} (g : Session → β) {ss : List Session} (h : KeysSorted ss)
    {t : Session} (ht : t ∈ ss) (hkey : t.key = s.key) (hg : g t = g s) :
    (insertSession s ss).map g = ss.map g := by
  induction ss with
  | nil => simp at ht
  | cons u rest ih =>
    obtain ⟨hu, hrest⟩ := List.pairwise_cons.mp h
    unfold insertSession
    rcases List.mem_cons.mp ht with rfl | ht
    · simp [hkey, UInt64.lt_irrefl, hg]
    · -- the session of the key is further on, so the key is past `u`'s
      have hus : u.key < s.key := hkey ▸ hu t ht
      have hnlt : ¬s.key < u.key := UInt64.lt_asymm hus
      have hne : (s.key == u.key) = false := beq_eq_false_iff_ne.mpr (UInt64.ne_of_lt hus).symm
      simp only [hnlt, if_false, hne, Bool.false_eq_true, List.map_cons, ih hrest ht]

/-- A session replacing one of its key and map leaves the keys and the map index as they were. -/
theorem mapIndex_insertSession_of_mem {ss : List Session} (h : KeysSorted ss) {t : Session} (ht : t ∈ ss)
    (hkey : t.key = s.key) (hmap : t.map.id = s.map.id) : mapIndex (insertSession s ss) = mapIndex ss :=
  insertSession_map_of_mem s _ h ht hkey (by rw [hkey, hmap])

/-- A session of a new key joins the map index. -/
theorem mapIndex_insertSession_of_fresh {ss : List Session} (h : ∀ t ∈ ss, t.key ≠ s.key) :
    (mapIndex (insertSession s ss)).Perm ((s.map.id, s.key) :: mapIndex ss) :=
  (insertSession_perm_of_fresh s h).map _

end Insert

/-! ### Finding sessions -/

theorem session?_eq_some_iff {w : World} (h : KeysSorted w.sessions) {k : UInt64} {s : Session} :
    w.session? k = some s ↔ s ∈ w.sessions ∧ s.key = k :=
  find?_eq_some_iff_of_nodup h.keys_nodup

theorem mapIndex_keys (ss : List Session) : (mapIndex ss).map (·.2) = ss.map (·.key) := by
  simp [mapIndex]

theorem mapIndex_maps (ss : List Session) : (mapIndex ss).map (·.1) = ss.map (·.map.id) := by
  simp [mapIndex]

/-- Through an index that lists every session once, the key of a map is the key of the one
session on it. -/
theorem sessionKeyOf?_eq_some_iff {w : World} (hperm : w.sessionByMap.Perm (mapIndex w.sessions))
    (hn : (w.sessions.map (·.map.id)).Nodup) {m : String} {k : UInt64} :
    w.sessionKeyOf? m = some k ↔ ∃ s ∈ w.sessions, s.map.id = m ∧ s.key = k := by
  have hfst : (w.sessionByMap.map (·.1)).Nodup := by
    rw [(hperm.map _).nodup_iff, mapIndex_maps]
    exact hn
  simp only [sessionKeyOf?, Option.map_eq_some_iff]
  constructor
  · rintro ⟨p, hp, rfl⟩
    obtain ⟨hmem, rfl⟩ := (find?_eq_some_iff_of_nodup hfst).mp hp
    obtain ⟨s, hs, rfl⟩ := List.mem_map.mp (hperm.subset hmem)
    exact ⟨s, hs, rfl, rfl⟩
  · rintro ⟨s, hs, rfl, rfl⟩
    have hmem : (s.map.id, s.key) ∈ w.sessionByMap := hperm.symm.subset (List.mem_map_of_mem hs)
    exact ⟨(s.map.id, s.key), (find?_eq_some_iff_of_nodup hfst).mpr ⟨hmem, rfl⟩, rfl⟩

end RoadFetch.World
