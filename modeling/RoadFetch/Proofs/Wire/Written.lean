import RoadFetch.Proofs.Wire.Read
import Mathlib

/-! # Readers read only what writers write

The converse of reading back: whatever a reader returns, the bytes it consumed are a writing of
that value, and what it leaves is what followed them. Fixed-width words, doubles, booleans,
lengths, texts (through `Utf8.toUTF8_of_decode`), enumeration indexes and sequences have one
writing per value, so a reader of one of them consumed exactly the writing of what it returned.
A duration is the exception: its two words are read with the nanoseconds past a second carried
into the seconds, so what a duration reader consumed is the writing of some duration that
carries to what it returned. Sequences are stated for any such reading, through a `view` from
what was written to what is returned.
-/

namespace RoadFetch.Wire.Reader

variable {α β : Type}

theorem run_bind_eq_ok {r : Reader α} {f : α → Reader β} {bs rest : List UInt8} {y : β}
    (h : (r >>= f).run bs = .ok (y, rest)) :
    ∃ x mid, r.run bs = .ok (x, mid) ∧ (f x).run mid = .ok (y, rest) := by
  simp only [run, StateT.run_bind] at h
  cases hr : StateT.run r bs with
  | error e => rw [hr] at h; cases h
  | ok p => rw [hr] at h; exact ⟨p.1, p.2, hr, h⟩

theorem run_pure_eq_ok {x y : α} {bs rest : List UInt8} (h : (pure x : Reader α).run bs = .ok (y, rest)) :
    x = y ∧ bs = rest := by
  cases h
  exact ⟨rfl, rfl⟩

theorem take_written {n : Nat} {bs front rest : List UInt8} (h : (take n).run bs = .ok (front, rest)) :
    front.length = n ∧ bs = front ++ rest := by
  simp only [run, take] at h
  by_cases hn : bs.length < n
  · simp [hn] at h
    cases h
  · simp [hn] at h
    cases h
    exact ⟨by simp; omega, (List.take_append_drop n bs).symm⟩

theorem u8_written {bs rest : List UInt8} {b : UInt8} (h : u8.run bs = .ok (b, rest)) : bs = b :: rest := by
  obtain ⟨front, mid, hf, h⟩ := run_bind_eq_ok h
  obtain ⟨hlen, rfl⟩ := take_written hf
  obtain ⟨c, rfl⟩ := List.length_eq_one_iff.mp hlen
  obtain ⟨rfl, rfl⟩ := run_pure_eq_ok h
  rfl

/-- A word read from `k` bytes was written as those bytes. -/
theorem word_written {k : Nat} {bs front rest : List UInt8} (h : (take k).run bs = .ok (front, rest)) :
    Bytes.ofLe front < 256 ^ k ∧ bs = Bytes.le k (Bytes.ofLe front) ++ rest := by
  obtain ⟨hlen, rfl⟩ := take_written h
  refine ⟨hlen ▸ Bytes.ofLe_lt front, ?_⟩
  rw [← hlen, Bytes.le_ofLe]

theorem u16_written {bs rest : List UInt8} {w : UInt16} (h : u16.run bs = .ok (w, rest)) :
    bs = Wire.u16 w ++ rest := by
  obtain ⟨front, mid, hf, h⟩ := run_bind_eq_ok h
  obtain ⟨hlt, hbs⟩ := word_written hf
  obtain ⟨rfl, rfl⟩ := run_pure_eq_ok h
  rw [hbs, Wire.u16, Nat.toUInt16_eq, UInt16.toNat_ofNat', Nat.mod_eq_of_lt (by simpa using hlt)]

theorem u32_written {bs rest : List UInt8} {w : UInt32} (h : u32.run bs = .ok (w, rest)) :
    bs = Wire.u32 w ++ rest := by
  obtain ⟨front, mid, hf, h⟩ := run_bind_eq_ok h
  obtain ⟨hlt, hbs⟩ := word_written hf
  obtain ⟨rfl, rfl⟩ := run_pure_eq_ok h
  rw [hbs, Wire.u32, Nat.toUInt32_eq, UInt32.toNat_ofNat', Nat.mod_eq_of_lt (by simpa using hlt)]

theorem u64_written {bs rest : List UInt8} {w : UInt64} (h : u64.run bs = .ok (w, rest)) :
    bs = Wire.u64 w ++ rest := by
  obtain ⟨front, mid, hf, h⟩ := run_bind_eq_ok h
  obtain ⟨hlt, hbs⟩ := word_written hf
  obtain ⟨rfl, rfl⟩ := run_pure_eq_ok h
  rw [hbs, Wire.u64, Bytes.le64, Nat.toUInt64_eq, UInt64.toNat_ofNat', Nat.mod_eq_of_lt (by simpa using hlt)]

theorem f64_written {bs rest : List UInt8} {d : Double} (h : f64.run bs = .ok (d, rest)) :
    bs = Wire.f64 d ++ rest := by
  obtain ⟨w, mid, hw, h⟩ := run_bind_eq_ok h
  obtain ⟨rfl, rfl⟩ := run_pure_eq_ok h
  exact u64_written hw

theorem bool_written {bs rest : List UInt8} {b : Bool} (h : bool.run bs = .ok (b, rest)) :
    bs = Wire.bool b ++ rest := by
  obtain ⟨c, mid, hc, h⟩ := run_bind_eq_ok h
  rw [u8_written hc]
  -- only the bytes zero and one are read as booleans
  split at h
  · obtain ⟨rfl, rfl⟩ := run_pure_eq_ok h; rfl
  · obtain ⟨rfl, rfl⟩ := run_pure_eq_ok h; rfl
  · cases h

theorem len_written {bs rest : List UInt8} {n : Nat} (h : len.run bs = .ok (n, rest)) :
    n < 2 ^ 64 ∧ bs = Wire.len n ++ rest := by
  obtain ⟨w, mid, hw, h⟩ := run_bind_eq_ok h
  obtain ⟨rfl, rfl⟩ := run_pure_eq_ok h
  refine ⟨w.toNat_lt, ?_⟩
  rw [u64_written hw, Wire.len, Nat.toUInt64_eq, UInt64.ofNat_toNat]

theorem run_get_bind {f : List UInt8 → Reader α} {bs : List UInt8} : (get >>= f).run bs = (f bs).run bs := rfl

theorem slice_written {bs front rest : List UInt8} (h : slice.run bs = .ok (front, rest)) :
    front.length < 2 ^ 64 ∧ bs = Wire.bytes front ++ rest := by
  obtain ⟨n, mid, hn, hk⟩ := run_bind_eq_ok h
  obtain ⟨hlt, rfl⟩ := len_written hn
  rw [run_get_bind] at hk
  dsimp only at hk
  split at hk
  · cases hk
  · rename_i hfull
    cases hk
    have hlen : (mid.take n).length = n := by simp at hfull ⊢; omega
    exact ⟨by rw [hlen]; exact hlt, by rw [Wire.bytes, hlen, List.append_assoc, List.take_append_drop]⟩

theorem byteSeq_written {bs front rest : List UInt8} (h : byteSeq.run bs = .ok (front, rest)) :
    front.length < 2 ^ 64 ∧ bs = Wire.bytes front ++ rest := by
  obtain ⟨n, mid, hn, hk⟩ := run_bind_eq_ok h
  obtain ⟨hlt, hbs⟩ := len_written hn
  obtain ⟨hlen, hmid⟩ := take_written hk
  refine ⟨by rw [hlen]; exact hlt, ?_⟩
  rw [hbs, hmid, Wire.bytes, hlen, List.append_assoc]

theorem text_written {bs rest : List UInt8} {s : String} (h : text.run bs = .ok (s, rest)) :
    bs = Wire.text s ++ rest := by
  obtain ⟨front, mid, hf, hk⟩ := run_bind_eq_ok h
  obtain ⟨-, hbs⟩ := slice_written hf
  split at hk
  · rename_i hd
    obtain ⟨rfl, rfl⟩ := run_pure_eq_ok hk
    rw [hbs, Wire.text, Utf8.toUTF8_of_decode hd]
  · cases hk

/-- Items read one by one were written one after another, each as a value `view` takes to the
item read and of which `P` holds. -/
theorem items_written {item : Reader α} {w : β → List UInt8} {view : β → α} {P : β → Prop}
    (hitem : ∀ {bs x rest}, item.run bs = .ok (x, rest) → ∃ y, P y ∧ view y = x ∧ bs = w y ++ rest) :
    ∀ {n : Nat} {acc xs : List α} {bs rest : List UInt8}, (items item n acc).run bs = .ok (xs, rest) →
      ∃ ys : List β, (∀ y ∈ ys, P y) ∧ ys.length = n ∧ xs = acc.reverse ++ ys.map view ∧
        bs = ys.flatMap w ++ rest
  | 0, acc, xs, bs, rest, h => by
    obtain ⟨rfl, rfl⟩ := run_pure_eq_ok h
    exact ⟨[], by simp, rfl, by simp, rfl⟩
  | n + 1, acc, xs, bs, rest, h => by
    obtain ⟨x, mid, hx, hk⟩ := run_bind_eq_ok h
    obtain ⟨y, hy, rfl, rfl⟩ := hitem hx
    obtain ⟨ys, hys, hlen, rfl, rfl⟩ := items_written hitem hk
    exact ⟨y :: ys, List.forall_mem_cons.mpr ⟨hy, hys⟩, by simp [hlen], by simp, by simp⟩

theorem seq_written {item : Reader α} {w : β → List UInt8} {view : β → α} {P : β → Prop}
    (hitem : ∀ {bs x rest}, item.run bs = .ok (x, rest) → ∃ y, P y ∧ view y = x ∧ bs = w y ++ rest)
    {bs rest : List UInt8} {xs : List α} (h : (seq item).run bs = .ok (xs, rest)) :
    ∃ ys : List β, (∀ y ∈ ys, P y) ∧ ys.map view = xs ∧ bs = Wire.seq w ys ++ rest := by
  obtain ⟨n, mid, hn, hk⟩ := run_bind_eq_ok h
  obtain ⟨-, rfl⟩ := len_written hn
  obtain ⟨ys, hys, rfl, rfl, rfl⟩ := items_written hitem hk
  exact ⟨ys, hys, by simp, by simp [Wire.seq]⟩

theorem variant_written {count i : Nat} {bs rest : List UInt8} (h : (variant count).run bs = .ok (i, rest)) :
    i < count ∧ bs = Wire.u32 i.toUInt32 ++ rest := by
  obtain ⟨w, mid, hw, hk⟩ := run_bind_eq_ok h
  rw [u32_written hw]
  dsimp only at hk
  split at hk
  · rename_i hlt
    obtain ⟨rfl, rfl⟩ := run_pure_eq_ok hk
    exact ⟨hlt, by rw [Nat.toUInt32_eq, UInt32.ofNat_toNat]⟩
  · cases hk

theorem duration_written {bs rest : List UInt8} {d : Duration} (h : duration.run bs = .ok (d, rest)) :
    ∃ raw : Duration, raw.CarryFits ∧ raw.carried = d ∧ bs = Wire.duration raw ++ rest := by
  obtain ⟨secs, m₁, hs, h⟩ := run_bind_eq_ok h
  obtain ⟨nanos, m₂, hn, hk⟩ := run_bind_eq_ok h
  dsimp only at hk
  split at hk
  · cases hk
  · rename_i hfits
    obtain ⟨rfl, rfl⟩ := run_pure_eq_ok hk
    refine ⟨⟨secs, nanos⟩, by simp only [Duration.CarryFits]; simp only [Nat.pow_eq] at hfits; omega, rfl, ?_⟩
    rw [u64_written hs, u32_written hn, Wire.duration, List.append_assoc]

end RoadFetch.Wire.Reader
