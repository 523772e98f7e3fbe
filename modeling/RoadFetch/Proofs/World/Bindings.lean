import RoadFetch.World.Players
import Mathlib

/-! # Bindings as a registry

The bindings of a world are one list in strict token order. Read as a registry it has two
indexes: the binding of a token, and the token of a dog. Both are functions, and inverse to
each other, as long as the list is well formed: strictly sorted by token text (so no token is
bound twice) and no dog bound twice. Inserting and removing keep it well formed, and inserting
bindings in token order rebuilds the list they came from.
-/

namespace RoadFetch

/-- In a list whose `f`-values are distinct, the element found by its `f`-value is the one
element with that value. -/
theorem find?_eq_some_iff_of_nodup {α β : Type} [BEq β] [LawfulBEq β] {f : α → β} {l : List α}
    (hn : (l.map f).Nodup) {b : β} {a : α} : l.find? (fun x => f x == b) = some a ↔ a ∈ l ∧ f a = b := by
  constructor
  · intro h
    exact ⟨List.mem_of_find?_eq_some h, by simpa using List.find?_some h⟩
  · rintro ⟨ha, rfl⟩
    obtain ⟨c, hc⟩ : ∃ c, l.find? (fun x => f x == f a) = some c :=
      Option.isSome_iff_exists.mp (List.find?_isSome.mpr ⟨a, ha, by simp⟩)
    have hca : c = a :=
      List.inj_on_of_nodup_map hn (List.mem_of_find?_eq_some hc) ha (by simpa using List.find?_some hc)
    rw [hc, hca]

namespace Bindings

/-- Strictly increasing token order, and no dog twice. -/
structure WellFormed (bs : Bindings) : Prop where
  sorted : bs.list.Pairwise fun a b => a.token.text < b.token.text
  dogs_nodup : (bs.list.map (·.dog)).Nodup

theorem token_lt_iff (a b : Token) : Token.lt a b = true ↔ a.text < b.text := by
  simp [Token.lt]

theorem text_lt_of_not_lt {a b : Token} (hne : a ≠ b) (h : ¬a.text < b.text) : b.text < a.text := by
  rw [String.not_lt] at h
  by_cases hle : a.text ≤ b.text
  · exfalso
    apply hne
    cases a
    cases b
    simp only [Token.mk.injEq]
    exact String.le_antisymm hle h
  · exact String.not_le.mp hle

/-! ### Sorted insertion -/

theorem insertSorted_perm (b : Binding) (l : List Binding) : (insertSorted b l).Perm (b :: l) := by
  induction l with
  | nil => rfl
  | cons c rest ih =>
    unfold insertSorted
    split
    · rfl
    · exact (ih.cons c).trans (List.Perm.swap b c rest)

theorem mem_insertSorted {b x : Binding} {l : List Binding} : x ∈ insertSorted b l ↔ x = b ∨ x ∈ l := by
  rw [(insertSorted_perm b l).mem_iff, List.mem_cons]

theorem insertSorted_sorted (b : Binding) (l : List Binding)
    (hl : l.Pairwise fun a b => a.token.text < b.token.text) (hb : ∀ c ∈ l, c.token ≠ b.token) :
    (insertSorted b l).Pairwise fun a b => a.token.text < b.token.text := by
  induction l with
  | nil => simp [insertSorted]
  | cons c rest ih =>
    obtain ⟨hc, hrest⟩ := List.pairwise_cons.mp hl
    unfold insertSorted
    split
    · next hlt =>
      rw [token_lt_iff] at hlt
      refine List.pairwise_cons.mpr ⟨?_, hl⟩
      intro x hx
      rcases List.mem_cons.mp hx with rfl | hx
      · exact hlt
      · exact String.lt_trans hlt (hc x hx)
    · next hnlt =>
      rw [token_lt_iff] at hnlt
      have hcb : c.token.text < b.token.text :=
        text_lt_of_not_lt (fun h => hb c List.mem_cons_self h.symm) hnlt
      refine List.pairwise_cons.mpr ⟨?_, ih hrest (fun x hx => hb x (List.mem_cons_of_mem _ hx))⟩
      intro x hx
      rcases mem_insertSorted.mp hx with rfl | hx
      · exact hcb
      · exact hc x hx

theorem hasToken_eq_false_iff {bs : Bindings} {t : Token} :
    bs.hasToken t = false ↔ ∀ b ∈ bs.list, b.token ≠ t := by
  simp [hasToken]

theorem hasDog_eq_false_iff {bs : Bindings} {d : UInt64} :
    bs.hasDog d = false ↔ ∀ b ∈ bs.list, b.dog ≠ d := by
  simp [hasDog]

theorem mem_removeDog {bs : Bindings} {d : UInt64} {b : Binding} :
    b ∈ (bs.removeDog d).list ↔ b ∈ bs.list ∧ b.dog ≠ d := by
  simp [removeDog]

theorem insert_fst (bs : Bindings) (b : Binding) :
    (bs.insert b).1 = if bs.hasToken b.token || bs.hasDog b.dog then bs else ⟨insertSorted b bs.list⟩ := by
  unfold insert
  split <;> rfl

/-! ### Well-formedness is kept -/

namespace WellFormed

variable {bs : Bindings}

theorem empty : WellFormed {} := ⟨List.Pairwise.nil, List.nodup_nil⟩

theorem insertSorted (h : bs.WellFormed) {b : Binding} (ht : bs.hasToken b.token = false)
    (hd : bs.hasDog b.dog = false) : WellFormed ⟨Bindings.insertSorted b bs.list⟩ := by
  refine ⟨insertSorted_sorted b bs.list h.sorted (hasToken_eq_false_iff.mp ht), ?_⟩
  have hperm := ((insertSorted_perm b bs.list).map (·.dog)).nodup_iff
  rw [hperm, List.map_cons, List.nodup_cons]
  refine ⟨?_, h.dogs_nodup⟩
  intro hmem
  obtain ⟨c, hc, hcd⟩ := List.mem_map.mp hmem
  exact hasDog_eq_false_iff.mp hd c hc hcd

theorem insert (h : bs.WellFormed) (b : Binding) : (bs.insert b).1.WellFormed := by
  rw [insert_fst]
  split
  · exact h
  · next hb =>
    simp only [Bool.or_eq_true, not_or, Bool.not_eq_true] at hb
    exact h.insertSorted hb.1 hb.2

theorem removeDog (h : bs.WellFormed) (d : UInt64) : (bs.removeDog d).WellFormed :=
  ⟨h.sorted.sublist List.filter_sublist, h.dogs_nodup.sublist (List.filter_sublist.map _)⟩

/-- Strict token order binds no token twice. -/
theorem tokens_nodup (h : bs.WellFormed) : (bs.list.map (·.token)).Nodup :=
  List.pairwise_map.mpr (h.sorted.imp fun hlt heq => by simp [heq] at hlt)

theorem token_unique (h : bs.WellFormed) {a b : Binding} (ha : a ∈ bs.list) (hb : b ∈ bs.list)
    (hab : a.token = b.token) : a = b :=
  List.inj_on_of_nodup_map h.tokens_nodup ha hb hab

theorem dog_unique (h : bs.WellFormed) {a b : Binding} (ha : a ∈ bs.list) (hb : b ∈ bs.list)
    (hab : a.dog = b.dog) : a = b :=
  List.inj_on_of_nodup_map h.dogs_nodup ha hb hab

/-- The binding of a token is the one binding that names it. -/
theorem find?_eq_some_iff (h : bs.WellFormed) {t : Token} {b : Binding} :
    bs.find? t = some b ↔ b ∈ bs.list ∧ b.token = t :=
  find?_eq_some_iff_of_nodup h.tokens_nodup

end WellFormed

end Bindings

end RoadFetch
