import RoadFetch.Proofs.Schedule.Subscriptions
import RoadFetch.Time.Duration
import Mathlib

/-! # What the scheduler promises

A scheduler keeps its subscriptions in two lists, the active ones in visiting order and the
ones made during the last tick, and numbers every subscription as it is made. Read as one list
of subscriptions it keeps its promises: a tick visits exactly the subscriptions there when it
starts, each once, by priority and then by subscription order; what the visitors subscribe
during a tick waits for the next one; a subscriber found gone is dropped for good, while every
other one stays, whatever its key; unsubscribing drops every subscription of a key, and the
size and the membership test read the one list. All of it rests on one invariant, kept by
every request: sequence numbers are distinct and below the next one, and the active list is in
visiting order.
-/

namespace RoadFetch.Scheduler

variable {κ σ : Type}

/-- All subscriptions, waiting ones included. -/
def subscriptions (s : Scheduler κ) : List (Subscription κ) := s.active ++ s.waiting

/-- `a` is visited before `b`: it has a higher priority, or the same one and was made earlier. -/
def Precedes (a b : Subscription κ) : Prop :=
  b.priority < a.priority ∨ (a.priority = b.priority ∧ a.seq < b.seq)

/-- Subscriptions requested as key and priority, numbered in order from `n`. -/
def numbered (n : Nat) (adds : List (κ × Int)) : List (Subscription κ) :=
  adds.zipIdx.map fun ((k, pr), i) => ⟨k, pr, n + i⟩

/-- What the visitor replies along a pass, its state threaded through: for each subscription
visited, the subscriptions it makes and whether it is gone. -/
def replies (visit : σ → κ → σ × List (κ × Int) × Liveness) : σ → List (Subscription κ) →
    List (List (κ × Int) × Liveness)
  | _, [] => []
  | st, x :: xs => ((visit st x.key).2.1, (visit st x.key).2.2) :: replies visit (visit st x.key).1 xs

/-- The subscriptions of a pass with the given liveness in the replies. -/
def withLiveness (live : Liveness) (l : List (Subscription κ)) (r : List (List (κ × Int) × Liveness)) :
    List (Subscription κ) :=
  ((l.zip r).filter fun e => e.2.2 = live).map (·.1)

/-- Sequence numbers are distinct and below the next one, and the active subscriptions are in
visiting order. -/
structure Wf (s : Scheduler κ) : Prop where
  seqs_nodup : (s.subscriptions.map (·.seq)).Nodup
  seq_lt : ∀ x ∈ s.subscriptions, x.seq < s.nextSeq
  sorted : s.active.Pairwise Precedes

/-! ### Visiting order -/

theorem before_trans (a b c : Subscription κ) (hab : before a b = true) (hbc : before b c = true) :
    before a c = true := by
  simp only [before, Bool.or_eq_true, decide_eq_true_eq, Bool.and_eq_true, beq_iff_eq] at *
  omega

theorem before_total (a b : Subscription κ) : (before a b || before b a) = true := by
  simp only [before, Bool.or_eq_true, decide_eq_true_eq, Bool.and_eq_true, beq_iff_eq]
  omega

theorem sort_precedes {l : List (Subscription κ)} (hnd : (l.map (·.seq)).Nodup) :
    (sort l).Pairwise Precedes := by
  have hsorted := List.pairwise_mergeSort before_trans before_total l
  have hnd' : ((sort l).map (·.seq)).Nodup := ((sort_perm l).map _).nodup_iff.mpr hnd
  have hdistinct : (sort l).Pairwise fun a b => a.seq ≠ b.seq := List.pairwise_map.mp hnd'
  refine (hsorted.and hdistinct).imp ?_
  rintro a b ⟨hab, hne⟩
  simp only [before, Bool.or_eq_true, decide_eq_true_eq, Bool.and_eq_true, beq_iff_eq] at hab
  unfold Precedes
  omega

theorem Wf.admitted_sorted {s : Scheduler κ} (h : s.Wf) : s.admitted.Pairwise Precedes := by
  unfold admitted
  split
  · exact h.sorted
  · exact sort_precedes h.seqs_nodup

theorem Wf.admitted_seqs_nodup {s : Scheduler κ} (h : s.Wf) : (s.admitted.map (·.seq)).Nodup :=
  ((admitted_perm s).map (·.seq)).nodup_iff.mpr h.seqs_nodup

/-! ### One pass -/

theorem numbered_append (n : Nat) (a b : List (κ × Int)) :
    numbered n (a ++ b) = numbered n a ++ numbered (n + a.length) b := by
  simp only [numbered, List.zipIdx_append, List.map_append, Nat.zero_add]
  rw [List.zipIdx_eq_map_add (l := b) (i := a.length), List.map_map]
  congr 1
  apply List.map_congr_left
  rintro ⟨⟨k, pr⟩, i⟩ -
  simp [Nat.add_assoc]

theorem seqs_numbered (n : Nat) (adds : List (κ × Int)) :
    (numbered n adds).map (·.seq) = List.range' n adds.length := by
  have h : (numbered n adds).map (·.seq) = (adds.zipIdx.map Prod.snd).map (n + ·) := by
    simp only [numbered, List.map_map]
    apply List.map_congr_left
    rintro ⟨⟨k, pr⟩, i⟩ -
    rfl
  rw [h, List.zipIdx_map_snd, List.map_add_range', Nat.add_zero]

theorem visitOne_eq (visit : σ → κ → σ × List (κ × Int) × Liveness) (p : Pass κ σ) (x : Subscription κ) :
    visitOne visit p x =
      { state := (visit p.state x.key).1
        made := p.made ++ numbered p.nextSeq (visit p.state x.key).2.1
        nextSeq := p.nextSeq + (visit p.state x.key).2.1.length
        gone := if (visit p.state x.key).2.2 = .gone then p.gone ++ [x.seq] else p.gone } := rfl

/-- A pass from any point: the visitor's state folds over the subscriptions, what it makes is
numbered on from the next sequence number, and what it finds gone is recorded by number. -/
theorem foldl_visitOne (visit : σ → κ → σ × List (κ × Int) × Liveness) (l : List (Subscription κ))
    (p : Pass κ σ) :
    l.foldl (visitOne visit) p =
      { state := l.foldl (fun st x => (visit st x.key).1) p.state
        made := p.made ++ numbered p.nextSeq ((replies visit p.state l).flatMap (·.1))
        nextSeq := p.nextSeq + ((replies visit p.state l).flatMap (·.1)).length
        gone := p.gone ++ (withLiveness .gone l (replies visit p.state l)).map (·.seq) } := by
  induction l generalizing p with
  | nil => simp [replies, numbered, withLiveness]
  | cons x xs ih =>
    rw [List.foldl_cons, ih]
    rcases hv : visit p.state x.key with ⟨st, adds, live⟩
    cases live <;>
      simp [visitOne_eq, hv, replies, withLiveness, numbered_append, Nat.add_assoc]

theorem length_replies (visit : σ → κ → σ × List (κ × Int) × Liveness) (st : σ) (l : List (Subscription κ)) :
    (replies visit st l).length = l.length := by
  induction l generalizing st with
  | nil => rfl
  | cons x xs ih => simp [replies, ih]

theorem mem_of_mem_withLiveness {live : Liveness} {l : List (Subscription κ)}
    {r : List (List (κ × Int) × Liveness)} {x : Subscription κ} (h : x ∈ withLiveness live l r) : x ∈ l := by
  obtain ⟨e, he, rfl⟩ := List.mem_map.mp h
  exact (List.of_mem_zip (List.mem_filter.mp he).1).1

theorem withLiveness_cons (live : Liveness) (x : Subscription κ) (xs : List (Subscription κ))
    (y : List (κ × Int) × Liveness) (ys : List (List (κ × Int) × Liveness)) :
    withLiveness live (x :: xs) (y :: ys) =
      if y.2 = live then x :: withLiveness live xs ys else withLiveness live xs ys := by
  by_cases hy : y.2 = live <;> simp [withLiveness, hy]

/-- With distinct sequence numbers, dropping by number what a pass found gone keeps exactly what
it found alive: no subscription goes with another of the same key. -/
theorem filter_gone_eq {l : List (Subscription κ)} {r : List (List (κ × Int) × Liveness)}
    (hnd : (l.map (·.seq)).Nodup) (hlen : r.length = l.length) :
    l.filter (fun x => !((withLiveness .gone l r).map (·.seq)).contains x.seq) = withLiveness .alive l r := by
  induction l generalizing r with
  | nil => simp [withLiveness]
  | cons x xs ih =>
    cases r with
    | nil => simp at hlen
    | cons y ys =>
      simp only [List.map_cons, List.nodup_cons, List.mem_map] at hnd
      obtain ⟨hx, hxs⟩ := hnd
      have hlen' : ys.length = xs.length := by simpa using hlen
      -- the numbers found gone after `x` are numbers of later subscriptions, never that of `x`
      have hxgone : x.seq ∉ (withLiveness .gone xs ys).map (·.seq) := by
        rintro hm
        obtain ⟨z, hz, hzx⟩ := List.mem_map.mp hm
        exact hx ⟨z, mem_of_mem_withLiveness hz, hzx⟩
      have htail : xs.filter (fun z => !((withLiveness .gone (x :: xs) (y :: ys)).map (·.seq)).contains z.seq) =
          xs.filter (fun z => !((withLiveness .gone xs ys).map (·.seq)).contains z.seq) := by
        apply List.filter_congr
        intro z hz
        have hzx : z.seq ≠ x.seq := fun he => hx ⟨z, hz, he⟩
        rw [withLiveness_cons]
        split <;> simp [hzx]
      rw [List.filter_cons, htail, ih hxs hlen', withLiveness_cons, withLiveness_cons]
      cases hy : y.2 <;> simp [hxgone]

/-- A tick: the visitor's state folds over the admitted subscriptions; the ones found gone are
dropped by number; what the visitors subscribe waits, numbered on from the next number. -/
theorem tick_eq (s : Scheduler κ) (visit : σ → κ → σ × List (κ × Int) × Liveness) (init : σ) :
    s.tick visit init =
      ({ active := s.admitted.filter fun x =>
           !((withLiveness .gone s.admitted (replies visit init s.admitted)).map (·.seq)).contains x.seq
         waiting := numbered s.nextSeq ((replies visit init s.admitted).flatMap (·.1))
         nextSeq := s.nextSeq + ((replies visit init s.admitted).flatMap (·.1)).length },
       s.admitted.foldl (fun st x => (visit st x.key).1) init) := by
  simp [tick, foldl_visitOne]

/-! ### The invariant -/

theorem wf_empty : ({} : Scheduler κ).Wf where
  seqs_nodup := by simp [subscriptions]
  seq_lt := by simp [subscriptions]
  sorted := List.Pairwise.nil

theorem subscriptions_subscribe (s : Scheduler κ) (key : κ) (priority : Int) :
    (s.subscribe key priority).subscriptions.Perm (s.subscriptions ++ [⟨key, priority, s.nextSeq⟩]) := by
  simp only [subscriptions, subscribe, List.append_assoc]
  refine ((sort_perm _).append_right _).trans ?_
  rw [List.append_assoc]
  exact List.perm_append_comm.append_left _

theorem Wf.subscribe {s : Scheduler κ} (h : s.Wf) (key : κ) (priority : Int) : (s.subscribe key priority).Wf := by
  have hperm := (subscriptions_subscribe s key priority).map (·.seq)
  -- the new number is past every number in use
  have hnd : ((s.subscriptions ++ [(⟨key, priority, s.nextSeq⟩ : Subscription κ)]).map (·.seq)).Nodup := by
    rw [List.map_append, List.nodup_append]
    refine ⟨h.seqs_nodup, List.nodup_singleton _, ?_⟩
    intro a ha b hb
    simp only [List.map_cons, List.map_nil, List.mem_singleton] at hb
    subst hb
    obtain ⟨x, hx, rfl⟩ := List.mem_map.mp ha
    exact Nat.ne_of_lt (h.seq_lt x hx)
  refine ⟨hperm.nodup_iff.mpr hnd, fun x hx => ?_, sort_precedes ?_⟩
  · rcases List.mem_append.mp ((subscriptions_subscribe s key priority).subset hx) with hx | hx
    · exact Nat.lt_succ_of_lt (h.seq_lt x hx)
    · simp only [List.mem_singleton] at hx
      subst hx
      exact Nat.lt_succ_self _
  · refine hnd.sublist (List.Sublist.map _ ?_)
    simp only [subscriptions, List.append_assoc]
    exact List.Sublist.append_left (List.sublist_append_right _ _) _

theorem mem_subscriptions_of_admitted {s : Scheduler κ} {x : Subscription κ} (hx : x ∈ s.admitted) :
    x ∈ s.subscriptions :=
  (admitted_perm s).subset hx

theorem seq_of_mem_numbered {n : Nat} {adds : List (κ × Int)} {x : Subscription κ} (hx : x ∈ numbered n adds) :
    n ≤ x.seq ∧ x.seq < n + adds.length := by
  have hm : x.seq ∈ List.range' n adds.length := seqs_numbered n adds ▸ List.mem_map_of_mem hx
  obtain ⟨i, hi, he⟩ := List.mem_range'.mp hm
  omega

theorem Wf.tick {s : Scheduler κ} (h : s.Wf) (visit : σ → κ → σ × List (κ × Int) × Liveness) (init : σ) :
    (s.tick visit init).1.Wf := by
  rw [tick_eq]
  have hkept := List.filter_sublist (l := s.admitted)
    (p := fun x => !((withLiveness .gone s.admitted (replies visit init s.admitted)).map (·.seq)).contains x.seq)
  refine ⟨?_, ?_, h.admitted_sorted.sublist hkept⟩
  · -- kept numbers are old, new ones are fresh and consecutive
    rw [subscriptions, List.map_append, List.nodup_append, seqs_numbered]
    refine ⟨h.admitted_seqs_nodup.sublist (hkept.map _), List.nodup_range' .., ?_⟩
    intro a ha b hb
    obtain ⟨x, hx, rfl⟩ := List.mem_map.mp ha
    obtain ⟨i, -, rfl⟩ := List.mem_range'.mp hb
    have := h.seq_lt x (mem_subscriptions_of_admitted (hkept.subset hx))
    omega
  · intro x hx
    rcases List.mem_append.mp hx with hx | hx
    · have := h.seq_lt x (mem_subscriptions_of_admitted (hkept.subset hx))
      simp only
      omega
    · exact (seq_of_mem_numbered hx).2

theorem size_eq (s : Scheduler κ) : s.size = s.subscriptions.length := by
  simp [size, subscriptions]

section Keys

variable [BEq κ]

theorem contains_eq (s : Scheduler κ) (key : κ) : s.contains key = s.subscriptions.any (·.key == key) := by
  simp [contains, subscriptions, List.any_append]

theorem subscriptions_unsubscribe (s : Scheduler κ) (key : κ) :
    (s.unsubscribe key).1.subscriptions = s.subscriptions.filter fun x => !(x.key == key) := by
  simp [subscriptions, unsubscribe, List.filter_append]

theorem unsubscribe_snd (s : Scheduler κ) (key : κ) :
    (s.unsubscribe key).2 = s.subscriptions.any (·.key == key) := by
  have hsize : (s.unsubscribe key).2 = ((s.unsubscribe key).1.size != s.size) := rfl
  rw [hsize, size_eq, size_eq, subscriptions_unsubscribe, Bool.eq_iff_iff]
  simp [List.length_filter_eq_length_iff, List.any_eq_true]

theorem Wf.unsubscribe {s : Scheduler κ} (h : s.Wf) (key : κ) : (s.unsubscribe key).1.Wf where
  seqs_nodup := by
    rw [subscriptions_unsubscribe]
    exact h.seqs_nodup.sublist (List.filter_sublist.map _)
  seq_lt x hx := by
    rw [subscriptions_unsubscribe] at hx
    exact h.seq_lt x (List.mem_of_mem_filter hx)
  sorted := h.sorted.filter _

/-- One request to a scheduler: a subscription, an unsubscription, or a tick with any visitor. -/
inductive Step : Scheduler κ → Scheduler κ → Prop
  | subscribe (s : Scheduler κ) (key : κ) (priority : Int) : Step s (s.subscribe key priority)
  | unsubscribe (s : Scheduler κ) (key : κ) : Step s (s.unsubscribe key).1
  | tick {σ : Type} (s : Scheduler κ) (visit : σ → κ → σ × List (κ × Int) × Liveness) (init : σ) :
      Step s (s.tick visit init).1

/-- The schedulers reachable from an empty one. -/
def Reachable (s : Scheduler κ) : Prop := Relation.ReflTransGen Step {} s

theorem Wf.step {s s' : Scheduler κ} (h : s.Wf) (hs : Step s s') : s'.Wf := by
  cases hs with
  | subscribe _ key priority => exact h.subscribe key priority
  | unsubscribe _ key => exact h.unsubscribe key
  | tick _ visit init => exact h.tick visit init

theorem Reachable.wf {s : Scheduler κ} (h : Reachable s) : s.Wf := by
  induction h with
  | refl => exact wf_empty
  | tail _ hs ih => exact ih.step hs

/-- A request never brings a subscription back: every subscription after it was there before or
is numbered from the old next number on. -/
theorem Step.fresh {s s' : Scheduler κ} (h : Step s s') :
    s.nextSeq ≤ s'.nextSeq ∧ ∀ x ∈ s'.subscriptions, x ∈ s.subscriptions ∨ s.nextSeq ≤ x.seq := by
  cases h with
  | subscribe _ key priority =>
    refine ⟨Nat.le_succ _, fun x hx => ?_⟩
    rcases List.mem_append.mp ((subscriptions_subscribe s key priority).subset hx) with hx | hx
    · exact .inl hx
    · rw [List.mem_singleton.mp hx]
      exact .inr (Nat.le_refl _)
  | unsubscribe _ key =>
    refine ⟨Nat.le_refl _, fun x hx => .inl ?_⟩
    rw [subscriptions_unsubscribe] at hx
    exact List.mem_of_mem_filter hx
  | tick _ visit init =>
    rw [tick_eq]
    refine ⟨Nat.le_add_right _ _, fun x hx => ?_⟩
    rcases List.mem_append.mp hx with hx | hx
    · exact .inl (mem_subscriptions_of_admitted (List.mem_of_mem_filter hx))
    · exact .inr (seq_of_mem_numbered hx).1

theorem fresh_of_reaches {s s' : Scheduler κ} (h : Relation.ReflTransGen Step s s') :
    s.nextSeq ≤ s'.nextSeq ∧ ∀ x ∈ s'.subscriptions, x ∈ s.subscriptions ∨ s.nextSeq ≤ x.seq := by
  induction h with
  | refl => exact ⟨Nat.le_refl _, fun x hx => .inl hx⟩
  | tail _ hs ih =>
    obtain ⟨hle, hmem⟩ := ih
    obtain ⟨hle', hmem'⟩ := hs.fresh
    refine ⟨Nat.le_trans hle hle', fun x hx => ?_⟩
    rcases hmem' x hx with hx | hx
    · exact hmem x hx
    · exact .inr (Nat.le_trans hle hx)

/-! ### The contract -/

/-- What a scheduler promises, read over its one list of subscriptions. -/
structure Contract (s : Scheduler κ) : Prop where
  /-- The size counts every subscription, waiting ones included. -/
  size_eq : s.size = s.subscriptions.length
  /-- A key is contained when a subscription has it, waiting or not. -/
  contains_eq : ∀ key, s.contains key = s.subscriptions.any (·.key == key)
  /-- A new subscription is added, numbered past every subscription there. -/
  subscribe_last : ∀ key priority,
    (s.subscribe key priority).subscriptions.Perm (s.subscriptions ++ [⟨key, priority, s.nextSeq⟩]) ∧
      ∀ x ∈ s.subscriptions, x.seq < s.nextSeq
  /-- Unsubscribing drops every subscription of the key, waiting ones included, and tells
  whether there was one. -/
  unsubscribe_drops : ∀ key,
    (s.unsubscribe key).1.subscriptions = s.subscriptions.filter (fun x => !(x.key == key)) ∧
      (s.unsubscribe key).2 = s.subscriptions.any (·.key == key)
  /-- A tick by `elapsed` visits exactly the subscriptions there when it starts, in visiting
  order, each once and with `elapsed`. It keeps every subscriber found alive, whatever its key,
  and none found gone ever comes back; what the visitors subscribe waits for the next tick, in
  the order it was made. -/
  tick_visits : ∃ l : List (Subscription κ), l.Perm s.subscriptions ∧ l.Pairwise Precedes ∧
    ∀ {σ : Type} (elapsed : Duration) (visit : Duration → σ → κ → σ × List (κ × Int) × Liveness) (init : σ),
      (s.tick (visit elapsed) init).2 = l.foldl (fun st x => (visit elapsed st x.key).1) init ∧
      (s.tick (visit elapsed) init).1.active = withLiveness .alive l (replies (visit elapsed) init l) ∧
      (s.tick (visit elapsed) init).1.waiting =
        numbered s.nextSeq ((replies (visit elapsed) init l).flatMap (·.1)) ∧
      (∀ x ∈ (s.tick (visit elapsed) init).1.waiting, x ∉ l) ∧
      ∀ x ∈ withLiveness .gone l (replies (visit elapsed) init l), ∀ s',
        Relation.ReflTransGen Step (s.tick (visit elapsed) init).1 s' → x ∉ s'.subscriptions

/-- What a tick does to a scheduler that keeps the invariant, for any visitor. -/
theorem Wf.tick_visits {s : Scheduler κ} (h : s.Wf) (visit : σ → κ → σ × List (κ × Int) × Liveness) (init : σ) :
    (s.tick visit init).2 = s.admitted.foldl (fun st x => (visit st x.key).1) init ∧
    (s.tick visit init).1.active = withLiveness .alive s.admitted (replies visit init s.admitted) ∧
    (s.tick visit init).1.waiting = numbered s.nextSeq ((replies visit init s.admitted).flatMap (·.1)) ∧
    (∀ x ∈ (s.tick visit init).1.waiting, x ∉ s.admitted) ∧
    ∀ x ∈ withLiveness .gone s.admitted (replies visit init s.admitted), ∀ s',
      Relation.ReflTransGen Step (s.tick visit init).1 s' → x ∉ s'.subscriptions := by
  have hlen := length_replies visit init s.admitted
  have hkept := filter_gone_eq h.admitted_seqs_nodup hlen
  have hold : ∀ x ∈ s.admitted, x.seq < s.nextSeq := fun x hx =>
    h.seq_lt x (mem_subscriptions_of_admitted hx)
  rw [tick_eq]
  refine ⟨rfl, hkept, rfl, fun x hx hmem => ?_, fun x hx s' hreach hmem => ?_⟩
  · -- what the visitors subscribe is numbered from the next number on, past every visited one
    exact absurd (hold x hmem) (Nat.not_lt.mpr (seq_of_mem_numbered hx).1)
  · -- a subscriber found gone is neither kept nor new, so no later request brings it back
    have hadm : x ∈ s.admitted := mem_of_mem_withLiveness hx
    have hgone : x.seq ∈ (withLiveness .gone s.admitted (replies visit init s.admitted)).map (·.seq) :=
      List.mem_map_of_mem hx
    obtain ⟨-, hback⟩ := fresh_of_reaches hreach
    rcases hback x hmem with hx' | hx'
    · rcases List.mem_append.mp hx' with hx' | hx'
      · have := (List.mem_filter.mp hx').2
        simp [hgone] at this
      · exact absurd (hold x hadm) (Nat.not_lt.mpr (seq_of_mem_numbered hx').1)
    · exact absurd (hold x hadm) (by simp only at hx'; omega)

theorem Wf.contract {s : Scheduler κ} (h : s.Wf) : s.Contract where
  size_eq := size_eq s
  contains_eq := contains_eq s
  subscribe_last key priority := ⟨subscriptions_subscribe s key priority, h.seq_lt⟩
  unsubscribe_drops key := ⟨subscriptions_unsubscribe s key, unsubscribe_snd s key⟩
  tick_visits := ⟨s.admitted, admitted_perm s, h.admitted_sorted,
    fun elapsed visit init => h.tick_visits (visit elapsed) init⟩

/-- Every scheduler reached by subscribing, unsubscribing and ticking keeps its contract. -/
theorem reachable_contract {s : Scheduler κ} (h : Reachable s) : s.Contract :=
  h.wf.contract

theorem two_keys_contract :
    let s := ((({} : Scheduler String).subscribe "a" 1).subscribe "a" 1).subscribe "b" 5
    Reachable s ∧ s.Contract := by
  have h : Reachable ((({} : Scheduler String).subscribe "a" 1).subscribe "a" 1 |>.subscribe "b" 5) :=
    ((Relation.ReflTransGen.single (.subscribe _ "a" 1)).tail (.subscribe _ "a" 1)).tail (.subscribe _ "b" 5)
  exact ⟨h, reachable_contract h⟩

end Keys

end RoadFetch.Scheduler
