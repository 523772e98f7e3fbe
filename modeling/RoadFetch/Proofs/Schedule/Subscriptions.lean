import RoadFetch.Schedule.Scheduler
import Mathlib

/-! # Counting subscriptions

How many subscriptions a key has, waiting ones included, and how subscribing, unsubscribing
and a tick change that count. The tick lemma covers the ticks a world makes: every visit
subscribes nothing and finds its subscriber alive. Such a tick visits the subscriptions in
their order, keeps every one of them and leaves nothing waiting.
-/

namespace RoadFetch.Scheduler

variable {κ σ : Type}

/-- The number of subscriptions of a key, waiting ones included. -/
def count [BEq κ] (s : Scheduler κ) (key : κ) : Nat := (s.active ++ s.waiting).countP (·.key == key)

theorem sort_perm (l : List (Subscription κ)) : (sort l).Perm l := List.mergeSort_perm l _

theorem admitted_perm (s : Scheduler κ) : s.admitted.Perm (s.active ++ s.waiting) := by
  unfold admitted
  split
  · next h => simp [List.isEmpty_iff.mp h]
  · exact sort_perm _

/-- Visiting subscribers that each subscribe nothing and stay alive changes only the state. -/
theorem foldl_visitOne_alive (P : σ → Prop) (visit : σ → κ → σ × List (κ × Int) × Liveness)
    (subs : List (Subscription κ)) (p : Pass κ σ) (hp : P p.state)
    (hvisit : ∀ st, P st → ∀ sub ∈ subs, ∃ st', visit st sub.key = (st', [], .alive) ∧ P st') :
    ∃ st', subs.foldl (visitOne visit) p = { p with state := st' } ∧ P st' := by
  induction subs generalizing p with
  | nil => exact ⟨p.state, rfl, hp⟩
  | cons sub subs ih =>
    obtain ⟨st, hv, hst⟩ := hvisit p.state hp sub List.mem_cons_self
    have hone : visitOne visit p sub = { p with state := st } := by simp [visitOne, hv]
    obtain ⟨st', hfold, hst'⟩ := ih { p with state := st } hst
      (fun st h sub hs => hvisit st h sub (List.mem_cons_of_mem _ hs))
    exact ⟨st', by rw [List.foldl_cons, hone, hfold], hst'⟩

theorem count_pos_of_mem [BEq κ] [LawfulBEq κ] {s : Scheduler κ} {sub : Subscription κ}
    (h : sub ∈ s.active ++ s.waiting) : 0 < s.count sub.key :=
  List.countP_pos_iff.mpr ⟨sub, h, by simp⟩

variable [DecidableEq κ]

theorem count_subscribe (s : Scheduler κ) (key k : κ) (p : Int) :
    (s.subscribe key p).count k = s.count k + if key = k then 1 else 0 := by
  have hp := (sort_perm (s.active ++ [⟨key, p, s.nextSeq⟩])).countP_eq (·.key == k)
  simp only [count, subscribe, List.countP_append, hp]
  by_cases h : key = k
  · simp [h]
    omega
  · simp [h]

theorem count_unsubscribe (s : Scheduler κ) (key k : κ) :
    (s.unsubscribe key).1.count k = if k = key then 0 else s.count k := by
  by_cases h : k = key
  · subst h
    simp [count, unsubscribe, List.countP_filter]
  · simp only [count, unsubscribe, List.countP_append, List.countP_filter, h, if_false]
    congr 1 <;> apply List.countP_congr <;> intro x _ <;> by_cases hx : x.key = k <;> simp_all

/-! ### Ticks in which every subscriber stays -/

omit [DecidableEq κ] in
/-- A tick whose every visit, from a state satisfying `P`, keeps `P`, subscribes nothing and
finds its subscriber alive: the admitted subscriptions become the active ones, nothing waits,
and the final state satisfies `P`. -/
theorem tick_of_alive (P : σ → Prop) (s : Scheduler κ) (visit : σ → κ → σ × List (κ × Int) × Liveness)
    (init : σ) (hinit : P init)
    (hvisit : ∀ st, P st → ∀ sub ∈ s.active ++ s.waiting,
      ∃ st', visit st sub.key = (st', [], .alive) ∧ P st') :
    ∃ st', s.tick visit init = (⟨s.admitted, [], s.nextSeq⟩, st') ∧ P st' := by
  have hmem : ∀ sub ∈ s.admitted, sub ∈ s.active ++ s.waiting := fun sub h => (admitted_perm s).subset h
  obtain ⟨st', hfold, hst'⟩ := foldl_visitOne_alive P visit s.admitted ⟨init, [], s.nextSeq, []⟩ hinit
    (fun st h sub hs => hvisit st h sub (hmem sub hs))
  refine ⟨st', ?_, hst'⟩
  simp [tick, hfold]

theorem count_tick_of_alive (P : σ → Prop) (s : Scheduler κ) (visit : σ → κ → σ × List (κ × Int) × Liveness)
    (init : σ) (hinit : P init)
    (hvisit : ∀ st, P st → ∀ sub ∈ s.active ++ s.waiting,
      ∃ st', visit st sub.key = (st', [], .alive) ∧ P st') (k : κ) :
    (s.tick visit init).1.count k = s.count k := by
  obtain ⟨st', htick, -⟩ := tick_of_alive P s visit init hinit hvisit
  rw [htick]
  simpa [count] using (admitted_perm s).countP_eq (·.key == k)

end RoadFetch.Scheduler
