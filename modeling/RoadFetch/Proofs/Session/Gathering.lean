import RoadFetch.Proofs.Session.Tick
import Mathlib

/-! # Gathering

The gathering phase of a tick resolves the contacts of the tick one after another. The
contacts come from `gatherEvents`, which finds them gatherer by gatherer and item by item
(offices first, then the loot) and sorts them stably by time; so they go by time, and contacts
at the same time go by dog and then by item (`gatherEvents_ordered`).

Each contact is one step: a dog at an office hands in its whole bag for the sum of the values of
its items; a dog that reaches a piece of loot still on the map takes it if its bag has room, and
is refused otherwise; a piece already taken is left alone. Run over all contacts
(`Gathers`), this sends each piece of loot either nowhere, every contact with it refused by a full
bag, or to the first dog that reaches it with room, after which every contact with it does
nothing (`Gathers.lootFate`). Main statement: `gather_resolution`.
-/

namespace RoadFetch

namespace Scalar

theorem totalLe_trans {a b c : Double} (hab : totalLe a b) (hbc : totalLe b c) : totalLe a c := by
  simp only [totalLe, Double.totalLe, decide_eq_true_eq] at *
  omega

theorem totalLe_total (a b : Double) : totalLe a b || totalLe b a := by
  simp only [totalLe, Double.totalLe, Bool.or_eq_true, decide_eq_true_eq]
  omega

end Scalar

/-- A stable sort by a total preorder keeps the order of its input among the elements it
cannot tell apart: if the input goes up in `lt`, so do the ties of the output. -/
theorem pairwise_mergeSort_stable {α : Type} {le : α → α → Bool} {lt : α → α → Prop}
    (trans : ∀ a b c, le a b → le b c → le a c) (total : ∀ a b, le a b || le b a)
    {l : List α} (hl : l.Pairwise lt) :
    (l.mergeSort le).Pairwise fun a b => le a b ∧ (le b a → lt a b) := by
  rw [← List.mergeSort_zipIdx, List.pairwise_map]
  -- sort the list numbered by position: ties are then ordered by their numbers, all distinct
  have hsorted := List.pairwise_mergeSort (List.zipIdxLE_trans trans) (List.zipIdxLE_total total) l.zipIdx
  have hdistinct : (l.zipIdx.mergeSort (List.zipIdxLE le)).Pairwise fun x y => x.2 ≠ y.2 := by
    refine List.pairwise_map.mp ?_
    rw [← List.nodup_iff_pairwise_ne, ((List.mergeSort_perm _ _).map _).nodup_iff, List.zipIdx_map_snd]
    exact List.nodup_range'
  refine (hsorted.and hdistinct).imp_of_mem ?_
  rintro ⟨a, i⟩ ⟨b, j⟩ ha hb ⟨hab, hij⟩
  obtain ⟨hi, hai⟩ := List.mem_zipIdx' (List.mem_mergeSort.mp ha)
  obtain ⟨hj, hbj⟩ := List.mem_zipIdx' (List.mem_mergeSort.mp hb)
  simp only [List.zipIdxLE] at hab
  by_cases hle : le a b = true
  · refine ⟨hle, fun hge => ?_⟩
    simp only [hle, hge, if_true, decide_eq_true_eq] at hab
    -- a tie: the numbers, distinct, put `a` first in the input too
    have hlt := List.pairwise_iff_getElem.mp hl i j hi hj (Nat.lt_of_le_of_ne hab hij)
    rw [← hai, ← hbj] at hlt
    exact hlt
  · simp [hle] at hab

/-! ### The contacts of a tick -/

section Contacts

variable {P α : Type} [Arith α] [Plane P α]

/-- The contacts of the gatherer numbered `p.2` with the items, in item order. -/
def contactsOf (items : List (Disc P α)) (p : Sweep P α × Nat) : List (Contact α) :=
  match p with
  | (g, gi) =>
    if Plane.beq g.start g.stop || g.radius == 0.0 then []
    else (items.zipIdx).filterMap fun (i, ii) =>
      if i.radius == 0.0 then none
      else (Pickup.contact g i).map fun (sq, t) => ⟨ii, gi, sq, t⟩

/-- The contacts of all gatherers, gatherer by gatherer, before they are sorted by time. -/
def found (gs : List (Sweep P α)) (items : List (Disc P α)) : List (Contact α) :=
  gs.zipIdx.flatMap (contactsOf items)

theorem gatherEvents_eq (gs : List (Sweep P α)) (items : List (Disc P α)) :
    gatherEvents gs items = (found gs items).mergeSort fun a b => Arith.totalLe a.time b.time :=
  rfl

/-- `a` was found before `b`: of an earlier gatherer, or of the same one and an earlier item. -/
def Contact.FoundBefore (a b : Contact α) : Prop :=
  a.gatherer < b.gatherer ∨ a.gatherer = b.gatherer ∧ a.item < b.item

theorem mem_contactsOf {items : List (Disc P α)} {p : Sweep P α × Nat} {e : Contact α}
    (he : e ∈ contactsOf items p) :
    e.gatherer = p.2 ∧ e.item < items.length := by
  obtain ⟨g, gi⟩ := p
  simp only [contactsOf] at he
  split at he
  · simp at he
  · obtain ⟨⟨i, ii⟩, hmem, hopt⟩ := List.mem_filterMap.mp he
    split at hopt
    · cases hopt
    · obtain ⟨⟨sq, t⟩, -, rfl⟩ := Option.map_eq_some_iff.mp hopt
      exact ⟨rfl, (List.mem_zipIdx' hmem).1⟩

theorem zipIdx_pairwise_lt {β : Type} (l : List β) : l.zipIdx.Pairwise fun a b => a.2 < b.2 := by
  refine List.pairwise_map.mp ?_
  rw [List.zipIdx_map_snd]
  exact List.pairwise_lt_range'

theorem contactsOf_pairwise (items : List (Disc P α)) (p : Sweep P α × Nat) :
    (contactsOf items p).Pairwise Contact.FoundBefore := by
  obtain ⟨g, gi⟩ := p
  simp only [contactsOf]
  split
  · exact List.Pairwise.nil
  · refine List.pairwise_filterMap.mpr ((zipIdx_pairwise_lt items).imp ?_)
    rintro ⟨i, ii⟩ ⟨i', ii'⟩ hlt e he e' he'
    -- both contacts are of this gatherer, with the items in their order
    split at he
    · cases he
    split at he'
    · cases he'
    obtain ⟨⟨sq, t⟩, -, rfl⟩ := Option.map_eq_some_iff.mp he
    obtain ⟨⟨sq', t'⟩, -, rfl⟩ := Option.map_eq_some_iff.mp he'
    exact .inr ⟨rfl, hlt⟩

theorem mem_found {gs : List (Sweep P α)} {items : List (Disc P α)} {e : Contact α} (he : e ∈ found gs items) :
    e.gatherer < gs.length ∧ e.item < items.length := by
  obtain ⟨⟨g, gi⟩, hp, he⟩ := List.mem_flatMap.mp he
  obtain ⟨hg, hi⟩ := mem_contactsOf he
  exact ⟨hg ▸ (List.mem_zipIdx' hp).1, hi⟩

theorem found_pairwise (gs : List (Sweep P α)) (items : List (Disc P α)) :
    (found gs items).Pairwise Contact.FoundBefore := by
  refine List.pairwise_flatMap.mpr ⟨fun p _ => contactsOf_pairwise items p, ?_⟩
  -- contacts of an earlier gatherer come before those of a later one
  refine (zipIdx_pairwise_lt gs).imp fun {p q} hpq e he e' he' => .inl ?_
  rw [(mem_contactsOf he).1, (mem_contactsOf he').1]
  exact hpq

theorem mem_gatherEvents {gs : List (Sweep P α)} {items : List (Disc P α)} {e : Contact α}
    (he : e ∈ gatherEvents gs items) : e.gatherer < gs.length ∧ e.item < items.length :=
  mem_found (List.mem_mergeSort.mp he)

end Contacts

/-- The contacts go by time, and contacts at the same time in the order they were found: by
gatherer, then by item. -/
theorem gatherEvents_ordered (gs : List Gatherer) (items : List Item) :
    (gatherEvents gs items).Pairwise fun a b =>
      Scalar.totalLe a.time b.time ∧ (Scalar.totalLe b.time a.time → a.FoundBefore b) := by
  rw [gatherEvents_eq]
  exact @pairwise_mergeSort_stable _ (fun a b => Scalar.totalLe a.time b.time) _
    (fun a b c (hab : Scalar.totalLe a.time b.time) (hbc : Scalar.totalLe b.time c.time) =>
      Scalar.totalLe_trans hab hbc) (fun a b => Scalar.totalLe_total a.time b.time) _ (found_pairwise gs items)

/-! ### One contact -/

namespace Checked

theorem foldlM_add_eq_ok {acc p : UInt64} {ws : List UInt64} :
    ws.foldlM add acc = .ok p ↔
      acc.toNat + (ws.map UInt64.toNat).sum < wordLimit ∧ p.toNat = acc.toNat + (ws.map UInt64.toNat).sum := by
  have hw : wordLimit = 2 ^ 64 := rfl
  induction ws generalizing acc with
  | nil =>
    simp only [List.foldlM_nil, pure_eq_ok, List.map_nil, List.sum_nil, Nat.add_zero]
    have := acc.toNat_lt
    constructor
    · rintro rfl
      exact ⟨hw ▸ this, rfl⟩
    · rintro ⟨-, h⟩
      exact (UInt64.toNat_inj.mp h).symm
  | cons w ws ih =>
    simp only [List.foldlM_cons, bind_eq_ok, List.map_cons, List.sum_cons]
    constructor
    · rintro ⟨a, ha, hrest⟩
      have hsum := toNat_of_add_eq_ok ha
      obtain ⟨hlt, hp⟩ := ih.mp hrest
      exact ⟨by omega, by omega⟩
    · rintro ⟨hlt, hp⟩
      refine ⟨acc + w, add_eq_ok.mpr ⟨by omega, rfl⟩, ih.mpr ?_⟩
      have hsum : (acc + w).toNat = acc.toNat + w.toNat := by
        rw [UInt64.toNat_add, Nat.mod_eq_of_lt (by omega)]
      exact ⟨by omega, by omega⟩

/-- A checked sum succeeds exactly when the sum of the words fits a word, and is that sum. -/
theorem sum_eq_ok {p : UInt64} {ws : List UInt64} :
    sum ws = .ok p ↔ (ws.map UInt64.toNat).sum < wordLimit ∧ p.toNat = (ws.map UInt64.toNat).sum := by
  have h := @foldlM_add_eq_ok 0 p ws
  simpa [sum] using h

end Checked

namespace Session

variable {m : Map} {loot : List LootItem} {g g' : Gathering} {e : GatherEvent}

theorem resolve_no_dog (hdog : g.dogs[e.gatherer]? = none) : resolve m loot g e = .ok g := by
  simp [resolve, hdog, pure, Except.pure]

/-- A dog at an office hands in its whole bag: the bag is emptied, the score goes up by the sum
of the values of exactly the items handed in, and one deposit is reported. Without such a sum
or such a score in a word, the contact faults. -/
theorem resolve_deposit {dog : Dog} {office : Office} (hdog : g.dogs[e.gatherer]? = some dog)
    (hoff : m.offices[e.item]? = some office) (hbag : dog.bag.items ≠ []) :
    resolve m loot g e = .ok g' ↔ ∃ points score : UInt64,
      points.toNat = (dog.bag.items.map fun i => (m.lootValue i.kind.toNat).toUInt64.toNat).sum ∧
      score.toNat = dog.score.toNat + points.toNat ∧
      g' = { g with dogs := g.dogs.set e.gatherer { dog with bag := { dog.bag with items := [] }, score },
                    events := g.events ++ [.bagDeposited dog.key office.id dog.bag.items.length points score] } := by
  have hw : Checked.wordLimit = 2 ^ 64 := rfl
  have hne : dog.bag.items.isEmpty = false := List.isEmpty_eq_false_iff.mpr hbag
  simp only [resolve, hdog, hoff, Bag.take, hne, bagPoints, Bool.false_eq_true, if_false, bind_eq_ok, pure_eq_ok]
  constructor
  · rintro ⟨points, hp, score, hs, rfl⟩
    exact ⟨points, score, (Checked.sum_eq_ok.mp hp).2.trans (by simp [Function.comp_def]),
      Checked.toNat_of_add_eq_ok hs, rfl⟩
  · rintro ⟨points, score, hp, hs, rfl⟩
    have hpts := points.toNat_lt
    have hsc := score.toNat_lt
    refine ⟨points, Checked.sum_eq_ok.mpr ⟨?_, ?_⟩, score, Checked.add_eq_ok.mpr ⟨by omega, ?_⟩, rfl⟩
    · simp only [List.map_map, Function.comp_def]
      omega
    · simp only [List.map_map, Function.comp_def]
      exact hp
    · apply UInt64.toNat_inj.mp
      rw [UInt64.toNat_add, Nat.mod_eq_of_lt (by omega)]
      omega

theorem resolve_empty_bag {dog : Dog} {office : Office} (hdog : g.dogs[e.gatherer]? = some dog)
    (hoff : m.offices[e.item]? = some office) (hbag : dog.bag.items = []) : resolve m loot g e = .ok g := by
  simp [resolve, hdog, hoff, Bag.take, hbag, pure, Except.pure]

section Loot

variable {i : Nat}

theorem offices_getElem?_of_loot (he : e.item = m.offices.length + i) : m.offices[e.item]? = none :=
  List.getElem?_eq_none_iff.mpr (by omega)

theorem resolve_loot_taken (he : e.item = m.offices.length + i) (ht : g.taken.getD i true = true) :
    resolve m loot g e = .ok g := by
  cases hdog : g.dogs[e.gatherer]? with
  | none => exact resolve_no_dog hdog
  | some dog =>
    have hsub : e.item - m.offices.length = i := by omega
    cases hl : loot[i]? with
    | none => simp [resolve, hdog, offices_getElem?_of_loot he, hsub, hl, pure, Except.pure]
    | some l =>
      rw [List.getD_eq_getElem?_getD] at ht
      simp [resolve, hdog, offices_getElem?_of_loot he, hsub, hl, ht, pure, Except.pure]

theorem resolve_loot_refused {l : LootItem} {dog : Dog} (he : e.item = m.offices.length + i) (hl : loot[i]? = some l)
    (hdog : g.dogs[e.gatherer]? = some dog) (ht : g.taken.getD i true = false) (hfull : dog.bag.isFull = true) :
    resolve m loot g e = .ok { g with events := g.events ++ [.pickupRefused dog.key l.id] } := by
  have hsub : e.item - m.offices.length = i := by omega
  rw [List.getD_eq_getElem?_getD] at ht
  simp [resolve, hdog, offices_getElem?_of_loot he, hsub, hl, ht, Bag.push, hfull, pure, Except.pure]

theorem resolve_loot_picked {l : LootItem} {dog : Dog} (he : e.item = m.offices.length + i) (hl : loot[i]? = some l)
    (hdog : g.dogs[e.gatherer]? = some dog) (ht : g.taken.getD i true = false) (hroom : dog.bag.isFull = false) :
    resolve m loot g e = .ok (g.pickUp e.gatherer dog i l) := by
  have hsub : e.item - m.offices.length = i := by omega
  rw [List.getD_eq_getElem?_getD] at ht
  simp [resolve, hdog, offices_getElem?_of_loot he, hsub, hl, ht, Bag.push, hroom, pure, Except.pure,
    Gathering.pickUp]

end Loot

/-! ### Which pieces of loot are taken -/

theorem getD_set_true {l : List Bool} {i j : Nat} (h : l.getD i true = true) : (l.set j true).getD i true = true := by
  rw [List.getD_eq_getElem?_getD] at h ⊢
  rw [List.getElem?_set]
  split
  · split <;> simp
  · exact h

theorem getD_set_ne {l : List Bool} {i j : Nat} (hne : j ≠ i) : (l.set j true).getD i true = l.getD i true := by
  rw [List.getD_eq_getElem?_getD, List.getD_eq_getElem?_getD, List.getElem?_set_ne hne]

theorem resolve_taken_mono {i : Nat} (h : resolve m loot g e = .ok g') (ht : g.taken.getD i true = true) :
    g'.taken.getD i true = true := by
  rcases resolve_eq_ok_cases h with rfl | ⟨-, -, -, -, -, -, -, -, -, rfl⟩ | ⟨-, -, -, -, -, -, -, rfl⟩ |
      ⟨-, -, -, -, -, -, -, rfl⟩
  · exact ht
  · exact ht
  · exact getD_set_true ht
  · exact ht

theorem resolve_taken_of_ne {i : Nat} (h : resolve m loot g e = .ok g') (hne : e.item ≠ m.offices.length + i) :
    g'.taken.getD i true = g.taken.getD i true := by
  rcases resolve_eq_ok_cases h with rfl | ⟨-, -, -, -, -, -, -, -, -, rfl⟩ | ⟨-, -, -, hpast, -, -, -, rfl⟩ |
      ⟨-, -, -, -, -, -, -, rfl⟩
  · rfl
  · rfl
  · exact getD_set_ne (by omega)
  · rfl

/-! ### Runs of contacts -/

/-- Contacts resolved one after another, from one gathering to another, none of them faulting. -/
inductive Gathers (m : Map) (loot : List LootItem) : Gathering → List GatherEvent → Gathering → Prop
  | nil (g : Gathering) : Gathers m loot g [] g
  | cons {g g₁ g₂ : Gathering} {e : GatherEvent} {es : List GatherEvent} :
      resolve m loot g e = .ok g₁ → Gathers m loot g₁ es g₂ → Gathers m loot g (e :: es) g₂

theorem gathers_nil_iff : Gathers m loot g [] g' ↔ g' = g := by
  constructor
  · rintro ⟨⟩
    rfl
  · rintro rfl
    exact .nil _

theorem gathers_cons_iff {es : List GatherEvent} :
    Gathers m loot g (e :: es) g' ↔ ∃ g₁, resolve m loot g e = .ok g₁ ∧ Gathers m loot g₁ es g' := by
  constructor
  · rintro (_ | ⟨h1, h2⟩)
    exact ⟨_, h1, h2⟩
  · rintro ⟨g₁, h1, h2⟩
    exact .cons h1 h2

theorem foldlM_resolve_eq_ok {es : List GatherEvent} :
    es.foldlM (resolve m loot) g = .ok g' ↔ Gathers m loot g es g' := by
  induction es generalizing g with
  | nil => rw [List.foldlM_nil, pure_eq_ok, gathers_nil_iff, eq_comm]
  | cons e es ih => simp only [List.foldlM_cons, bind_eq_ok, gathers_cons_iff, ih]

theorem Gathers.taken_mono {es : List GatherEvent} {i : Nat} (h : Gathers m loot g es g')
    (ht : g.taken.getD i true = true) : g'.taken.getD i true = true := by
  induction h with
  | nil => exact ht
  | cons hstep _ ih => exact ih (resolve_taken_mono hstep ht)

section Fate

variable (m loot) (i : Nat) (l : LootItem)

/-- Every contact with the piece of loot `l`, numbered `i`, among the contacts `es` run from `g`
meets it on the map and a dog with a full bag, and is refused. -/
def Refused (g : Gathering) (es : List GatherEvent) : Prop :=
  ∀ pre e post g₁ dog, es = pre ++ e :: post → Gathers m loot g pre g₁ → e.item = m.offices.length + i →
    g₁.dogs[e.gatherer]? = some dog → g₁.taken.getD i true = false ∧ dog.bag.isFull = true ∧
      resolve m loot g₁ e = .ok { g₁ with events := g₁.events ++ [.pickupRefused dog.key l.id] }

/-- Every contact with the piece of loot numbered `i` among the contacts `es` run from `g` finds
it taken and does nothing. -/
def Ignored (g : Gathering) (es : List GatherEvent) : Prop :=
  ∀ pre e post g₁, es = pre ++ e :: post → Gathers m loot g pre g₁ → e.item = m.offices.length + i →
    g₁.taken.getD i true = true ∧ resolve m loot g₁ e = .ok g₁

/-- What the contacts `es`, run from `g₀` to `g`, do with the piece of loot `l` numbered `i`:
either every contact with it is refused and it stays on the map; or the first contact with it
that finds room puts it into that dog's bag, the contacts before are refused, and every contact
after finds it taken and does nothing. -/
def LootFate (g₀ : Gathering) (es : List GatherEvent) (g : Gathering) : Prop :=
  (Refused m loot i l g₀ es ∧ g.taken.getD i true = false) ∨
  ∃ pre e post g₁ dog, es = pre ++ e :: post ∧ Gathers m loot g₀ pre g₁ ∧ Refused m loot i l g₀ pre ∧
    e.item = m.offices.length + i ∧ g₁.dogs[e.gatherer]? = some dog ∧ g₁.taken.getD i true = false ∧
    dog.bag.isFull = false ∧ resolve m loot g₁ e = .ok (g₁.pickUp e.gatherer dog i l) ∧
    Ignored m loot i (g₁.pickUp e.gatherer dog i l) post ∧ g.taken.getD i true = true

end Fate

variable {i : Nat} {l : LootItem}

theorem Refused.nil : Refused m loot i l g [] := by
  intro pre e post g₁ dog hsplit
  simp at hsplit

theorem Refused.cons {g₁ : Gathering} {es : List GatherEvent} (hstep : resolve m loot g e = .ok g₁)
    (hrest : Refused m loot i l g₁ es)
    (hhere : e.item = m.offices.length + i → ∀ dog, g.dogs[e.gatherer]? = some dog →
      g.taken.getD i true = false ∧ dog.bag.isFull = true ∧
        resolve m loot g e = .ok { g with events := g.events ++ [.pickupRefused dog.key l.id] }) :
    Refused m loot i l g (e :: es) := by
  intro pre e' post g₂ dog hsplit hpre he' hdog
  cases pre with
  | nil =>
    simp only [List.nil_append, List.cons.injEq] at hsplit
    obtain ⟨rfl, -⟩ := hsplit
    rw [gathers_nil_iff.mp hpre] at hdog ⊢
    exact hhere he' dog hdog
  | cons x pre =>
    simp only [List.cons_append, List.cons.injEq] at hsplit
    obtain ⟨rfl, hsplit⟩ := hsplit
    obtain ⟨g₃, h3, hpre⟩ := gathers_cons_iff.mp hpre
    rw [hstep, Except.ok.injEq] at h3
    subst h3
    exact hrest pre e' post g₂ dog hsplit hpre he' hdog

theorem Ignored.of_taken {es : List GatherEvent} (ht : g.taken.getD i true = true) : Ignored m loot i g es := by
  intro pre e post g₁ _ hpre he
  have ht₁ := hpre.taken_mono ht
  exact ⟨ht₁, resolve_loot_taken he ht₁⟩

theorem LootFate.cons {g₁ g₂ : Gathering} {es : List GatherEvent} (hstep : resolve m loot g e = .ok g₁)
    (hrest : LootFate m loot i l g₁ es g₂)
    (hhere : e.item = m.offices.length + i → ∀ dog, g.dogs[e.gatherer]? = some dog →
      g.taken.getD i true = false ∧ dog.bag.isFull = true ∧
        resolve m loot g e = .ok { g with events := g.events ++ [.pickupRefused dog.key l.id] }) :
    LootFate m loot i l g (e :: es) g₂ := by
  rcases hrest with ⟨href, ht⟩ | ⟨pre, e', post, g₃, dog, hsplit, hpre, href, rest⟩
  · exact .inl ⟨href.cons hstep hhere, ht⟩
  · exact .inr ⟨e :: pre, e', post, g₃, dog, by rw [hsplit, List.cons_append], .cons hstep hpre,
      href.cons hstep hhere, rest⟩

/-- Every piece of loot still on the map when a run of contacts starts meets the fate
`LootFate`: the induction is on the run, and a contact that takes it ends the refusals. -/
theorem Gathers.lootFate {g₀ g : Gathering} {es : List GatherEvent} (hrun : Gathers m loot g₀ es g)
    (hl : loot[i]? = some l) (hfree : g₀.taken.getD i true = false) : LootFate m loot i l g₀ es g := by
  induction hrun with
  | nil g => exact .inl ⟨Refused.nil, hfree⟩
  | @cons g g₁ g₂ e es hstep hrest ih =>
    by_cases he : e.item = m.offices.length + i
    · cases hdog : g.dogs[e.gatherer]? with
      | none =>
        -- no such dog: nothing happens
        rw [resolve_no_dog hdog, Except.ok.injEq] at hstep
        subst hstep
        exact (ih hfree).cons (resolve_no_dog hdog) fun _ dog hd => by simp [hdog] at hd
      | some dog =>
        cases hfull : dog.bag.isFull with
        | true =>
          -- a full bag: the dog is refused and the piece stays
          have hres := resolve_loot_refused he hl hdog hfree hfull
          rw [hres, Except.ok.injEq] at hstep
          subst hstep
          refine (ih hfree).cons hres fun _ dog' hd => ?_
          rw [hdog, Option.some.injEq] at hd
          subst hd
          exact ⟨hfree, hfull, hres⟩
        | false =>
          -- room in the bag: the dog takes the piece here
          have hres := resolve_loot_picked he hl hdog hfree hfull
          rw [hres, Except.ok.injEq] at hstep
          subst hstep
          have hpick : (g.pickUp e.gatherer dog i l).taken.getD i true = true := by
            simp only [Gathering.pickUp, List.getD_eq_getElem?_getD, List.getElem?_set_self']
            cases g.taken[i]? <;> rfl
          exact .inr ⟨[], e, es, g, dog, rfl, .nil g, Refused.nil, he, hdog, hfree, hfull, hres,
            Ignored.of_taken hpick, hrest.taken_mono hpick⟩
    · -- a contact with something else leaves the piece where it is
      have hfree₁ : g₁.taken.getD i true = false := (resolve_taken_of_ne hstep he).trans hfree
      exact (ih hfree₁).cons hstep fun he' => absurd he' he

/-! ### The gathering phase -/

def gatherStart (s : Session) : Gathering := ⟨s.dogs, s.loot.map fun _ => false, []⟩

theorem gatherStart_taken (s : Session) {i : Nat} (hi : i < s.loot.length) :
    s.gatherStart.taken.getD i true = false := by
  simp [gatherStart, List.getD_eq_getElem?_getD, hi]

/-- The gathering phase of a tick of `s`, contact by contact. -/
structure GatherResolution (s : Session) : Prop where
  /-- The contacts go by time; at one time, by dog and then by item, the offices first. -/
  ordered : (gatherEvents (s.dogs.map gatherer) s.items).Pairwise fun a b =>
    Scalar.totalLe a.time b.time ∧ (Scalar.totalLe b.time a.time → a.FoundBefore b)
  /-- Every contact is of a dog of the session and an office or a piece of loot of it. -/
  in_range : ∀ e ∈ gatherEvents (s.dogs.map gatherer) s.items,
    e.gatherer < s.dogs.length ∧ e.item < s.map.offices.length + s.loot.length
  /-- The phase resolves the contacts one after another and leaves on the map the loot that no
  contact took. -/
  phase : ∀ s' events, s.gatherPhase = .ok (s', events) ↔
    ∃ g, Gathers s.map s.loot s.gatherStart (gatherEvents (s.dogs.map gatherer) s.items) g ∧
      s' = { s with dogs := g.dogs, loot := untaken s.loot g.taken } ∧ events = g.events
  /-- Each piece of loot on the map goes nowhere or to the first dog that reaches it with room. -/
  fate : ∀ g i l, Gathers s.map s.loot s.gatherStart (gatherEvents (s.dogs.map gatherer) s.items) g →
    s.loot[i]? = some l → LootFate s.map s.loot i l s.gatherStart (gatherEvents (s.dogs.map gatherer) s.items) g
  /-- A dog at an office hands in its whole bag for the values of exactly the items in it. -/
  deposit : ∀ (g g' : Gathering) (e : GatherEvent) (dog : Dog) (office : Office),
    g.dogs[e.gatherer]? = some dog → s.map.offices[e.item]? = some office → dog.bag.items ≠ [] →
    (resolve s.map s.loot g e = .ok g' ↔ ∃ points score : UInt64,
      points.toNat = (dog.bag.items.map fun i => (s.map.lootValue i.kind.toNat).toUInt64.toNat).sum ∧
      score.toNat = dog.score.toNat + points.toNat ∧
      g' = { g with dogs := g.dogs.set e.gatherer { dog with bag := { dog.bag with items := [] }, score },
                    events := g.events ++ [.bagDeposited dog.key office.id dog.bag.items.length points score] })

/-- The gathering phase of every session resolves the contacts of the tick in order of time, dog
and item: each piece of loot on the map goes to the first dog that reaches it with room, once, or
stays, every dog that reaches it with a full bag being refused; and a dog at an office hands in
its whole bag, items picked up earlier in the tick included, for the sum of their values. -/
theorem gather_resolution (s : Session) : GatherResolution s where
  ordered := gatherEvents_ordered _ _
  in_range e he := by
    have h := mem_gatherEvents he
    simpa [items] using h
  phase s' events := by
    constructor
    · intro h
      obtain ⟨g, hg, rfl, rfl⟩ := gatherPhase_eq_ok h
      exact ⟨g, foldlM_resolve_eq_ok.mp hg, rfl, rfl⟩
    · rintro ⟨g, hg, rfl, rfl⟩
      simp only [gatherPhase, bind_eq_ok, pure_eq_ok]
      exact ⟨g, foldlM_resolve_eq_ok.mpr hg, rfl⟩
  fate g i l hrun hl := hrun.lootFate hl (gatherStart_taken s (List.getElem?_eq_some_iff.mp hl).1)
  deposit _ _ _ _ _ hdog hoff hbag := resolve_deposit hdog hoff hbag

end Session

end RoadFetch
