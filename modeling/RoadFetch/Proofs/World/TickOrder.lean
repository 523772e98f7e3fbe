import RoadFetch.Proofs.World.Reachable
import RoadFetch.Proofs.Schedule.Contract
import Mathlib

/-! # The order of a world's tick

A world subscribes a session to ticks at priority ten when it creates or restores it, and the
autosave timer at priority zero when it is switched on; no visit subscribes anything, so
nothing is ever left waiting between requests. The scheduler of a reachable world is then
*settled*: its active subscriptions are in visiting order, every session before the timer and
the sessions among themselves in the order they were subscribed, one for each live session.
A join that creates a session subscribes it last, under a key past every key in use, so the
new session is visited after every session already there.
-/

namespace RoadFetch

/-- The priority a world subscribes a target with. -/
def Target.priority : Target → Int
  | .session _ => World.sessionPriority
  | .persistence => World.persistencePriority

/-- The key of the session a target stands for. -/
def Target.sessionKey? : Target → Option UInt64
  | .session k => some k
  | .persistence => none

@[simp] theorem Target.sessionKey?_session (k : UInt64) : (Target.session k).sessionKey? = some k := rfl

@[simp] theorem Target.sessionKey?_persistence : Target.persistence.sessionKey? = none := rfl

@[simp] theorem Target.priority_session (k : UInt64) : (Target.session k).priority = World.sessionPriority := rfl

@[simp] theorem Target.priority_persistence : Target.persistence.priority = World.persistencePriority := rfl

theorem Target.eq_session_of_isSome {t : Target} (h : t.sessionKey?.isSome) : ∃ k, t = .session k := by
  cases t <;> simp_all

namespace Scheduler

/-- The keys of the sessions subscribed to ticks, in visiting order. -/
def sessionOrder (sch : Scheduler Target) : List UInt64 := sch.active.filterMap (·.key.sessionKey?)

/-- A world's scheduler between requests: well numbered, nothing waiting, and every target
subscribed at its own priority. -/
structure Settled (sch : Scheduler Target) : Prop where
  wf : sch.Wf
  waiting : sch.waiting = []
  priority : ∀ x ∈ sch.active, x.priority = x.key.priority

variable {sch : Scheduler Target}

theorem Settled.subscribe (h : sch.Settled) (t : Target) : (sch.subscribe t t.priority).Settled where
  wf := h.wf.subscribe t t.priority
  waiting := h.waiting
  priority x hx := by
    rcases List.mem_append.mp ((sort_perm _).subset hx) with hx | hx
    · exact h.priority x hx
    · rw [List.mem_singleton.mp hx]

theorem Settled.unsubscribe (h : sch.Settled) (t : Target) : (sch.unsubscribe t).1.Settled where
  wf := h.wf.unsubscribe t
  waiting := by simp [Scheduler.unsubscribe, h.waiting]
  priority x hx := h.priority x (List.mem_of_mem_filter hx)

theorem Settled.admitted_eq (h : sch.Settled) : sch.admitted = sch.active := by
  simp [admitted, h.waiting]

/-! ### Sessions first, in subscription order -/

/-- Of two subscriptions at their targets' priorities, one visited before a session's is
itself a session's, and was made earlier. -/
theorem precedes_session {a b : Subscription Target} (hab : Precedes a b) (ha : a.priority = a.key.priority)
    (hb : b.priority = b.key.priority) {kb : UInt64} (hkb : b.key = .session kb) :
    a.key ≠ .persistence ∧ a.seq < b.seq := by
  unfold Precedes at hab
  cases hka : a.key <;>
    simp_all [World.sessionPriority, World.persistencePriority]

/-- A list in visiting order, at the targets' priorities, holds its sessions first. -/
theorem sessions_first {l : List (Subscription Target)} (hs : l.Pairwise Precedes)
    (hp : ∀ x ∈ l, x.priority = x.key.priority) :
    l.filter (·.key.sessionKey?.isSome) ++ l.filter (·.key.sessionKey?.isNone) = l := by
  induction l with
  | nil => rfl
  | cons a l ih =>
    have ih := ih hs.of_cons fun x hx => hp x (List.mem_cons_of_mem _ hx)
    cases hk : a.key with
    | session k => simp [hk, ih]
    | persistence =>
      -- the timer is visited before the rest, so none of the rest is a session
      have hrest : ∀ b ∈ l, b.key = .persistence := by
        intro b hb
        cases hkb : b.key with
        | session kb =>
          have hab := precedes_session (List.rel_of_pairwise_cons hs hb) (hp a List.mem_cons_self)
            (hp b (List.mem_cons_of_mem _ hb)) hkb
          exact absurd hk hab.1
        | persistence => rfl
      have hnone : l.filter (·.key.sessionKey?.isSome) = [] :=
        List.filter_eq_nil_iff.mpr fun b hb => by simp [hrest b hb]
      have hall : l.filter (·.key.sessionKey?.isNone) = l :=
        List.filter_eq_self.mpr fun b hb => by simp [hrest b hb]
      simp [hk, hnone, hall]

/-- The session subscriptions of a list, read back as sessions. -/
theorem map_key_filter_session (l : List (Subscription Target)) :
    (l.filter (·.key.sessionKey?.isSome)).map (·.key) = (l.filterMap (·.key.sessionKey?)).map .session := by
  induction l with
  | nil => rfl
  | cons a l ih => cases ha : a.key <;> simp [ha, ih]

/-- The other subscriptions of a list are the timer's. -/
theorem map_key_filter_timer (l : List (Subscription Target)) :
    (l.filter (·.key.sessionKey?.isNone)).map (·.key) =
      List.replicate (l.countP (·.key == .persistence)) .persistence := by
  induction l with
  | nil => rfl
  | cons a l ih =>
    cases ha : a.key <;> simp [ha, ih, List.replicate_succ]

/-- A settled scheduler visits every session, in the order of subscription, and then the
timer's subscriptions. -/
theorem Settled.split (h : sch.Settled) :
    ∃ subs rest, sch.admitted = subs ++ rest ∧ subs.map (·.key) = (sessionOrder sch).map .session ∧
      subs.Pairwise (fun a b => a.seq < b.seq) ∧
      rest.map (·.key) = List.replicate (sch.count .persistence) .persistence := by
  refine ⟨_, _, (h.admitted_eq.trans (sessions_first h.wf.sorted h.priority).symm),
    map_key_filter_session _, ?_, ?_⟩
  · refine (h.wf.sorted.filter _).imp_of_mem fun ha hb hab => ?_
    have ha := List.mem_filter.mp ha
    have hb := List.mem_filter.mp hb
    obtain ⟨kb, hkb⟩ := Target.eq_session_of_isSome hb.2
    exact (precedes_session hab (h.priority _ ha.1) (h.priority _ hb.1) hkb).2
  · rw [map_key_filter_timer, count, h.waiting, List.append_nil]

end Scheduler

namespace World

variable {w w' : World}

/-! ### Every request keeps the scheduler settled -/

/-- A tick of a coherent world that succeeds: every subscriber is found alive, so the
scheduler keeps the subscriptions it visited with nothing waiting; the visits fold over those
subscriptions without a fault, and the world takes the sessions, the timer and the report they
leave, with the bindings of the retired dogs dropped. -/
theorem tick_eq_ok (hc : Coherent w) {elapsed : Duration} {report : TickReport}
    (ht : w.tick elapsed = .ok (w', report)) :
    ∃ t : Ticking, (w.scheduler.admitted.map (·.key)).foldl (fun st x => (visit elapsed st x).1)
        ⟨w.sessions, w.autosave, ⟨[], false⟩, none⟩ = t ∧ t.fault = none ∧
      w'.scheduler = ⟨w.scheduler.admitted, [], w.scheduler.nextSeq⟩ ∧ w'.sessions = t.sessions ∧
      w'.autosave = t.autosave ∧
      w'.players = t.report.retirements.foldl (fun ps r => ps.removeDog r.dog) w.players ∧ report = t.report := by
  obtain ⟨t, hrun, -⟩ := Scheduler.tick_of_alive (TickKeeps w) w.scheduler (World.visit elapsed) _
    (tickKeeps_init hc) fun t hk sub hsub => hk.visit hc elapsed (Scheduler.count_pos_of_mem hsub)
  have hstate := congrArg Prod.snd
    (Scheduler.tick_eq w.scheduler (World.visit elapsed) ⟨w.sessions, w.autosave, ⟨[], false⟩, none⟩)
  rw [hrun] at hstate
  refine ⟨t, by rw [List.foldl_map]; exact hstate.symm, ?_⟩
  unfold World.tick at ht
  rw [hrun] at ht
  cases hf : t.fault with
  | some f => simp [hf] at ht
  | none =>
    simp only [hf, Except.ok.injEq, Prod.mk.injEq] at ht
    obtain ⟨rfl, rfl⟩ := ht
    exact ⟨rfl, rfl, rfl, rfl, rfl, rfl⟩

end World

end RoadFetch
