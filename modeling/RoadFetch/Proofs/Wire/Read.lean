import RoadFetch.Proofs.Wire.Utf8
import RoadFetch.Wire.Encode
import RoadFetch.Wire.Decode
import Mathlib

/-! # Readers read back what writers write

A reader *reads* a value from some bytes when, whatever follows them, it returns that value and
leaves exactly what follows. Reading is preserved by sequencing, so each writer's bytes are read
back by its reader once its parts are: fixed-width words, doubles and booleans always, texts and
sequences while their lengths fit in a 64-bit word, enumeration indexes in range, and durations
with their nanoseconds past a second carried into the seconds.
-/

namespace RoadFetch

namespace Bytes

theorem le_eq (width n : Nat) : le width n = (List.range width).map fun i => (n / 256 ^ i % 256).toUInt8 := by
  simp only [le, Nat.pow_eq, pow_mul]
  rfl

theorem le_succ (width n : Nat) : le (width + 1) n = (n % 256).toUInt8 :: le width (n / 256) := by
  rw [le_eq, le_eq, List.range_succ_eq_map, List.map_cons, List.map_map]
  congr 1
  · simp
  · apply List.map_congr_left
    intro i _
    simp [Nat.div_div_eq_div_mul, pow_succ, Nat.mul_comm]

@[simp] theorem length_le (width n : Nat) : (le width n).length = width := by simp [le]

theorem ofLe_cons (b : UInt8) (bs : List UInt8) : ofLe (b :: bs) = b.toNat + 256 * ofLe bs := rfl

theorem ofLe_le (width n : Nat) : ofLe (le width n) = n % 256 ^ width := by
  induction width generalizing n with
  | zero => simp [le, ofLe, Nat.mod_one]
  | succ w ih =>
    rw [le_succ, ofLe_cons, ih, pow_succ', Nat.mod_mul, Nat.toUInt8_eq, UInt8.toNat_ofNat']
    have h8 : n % 256 % 2 ^ 8 = n % 256 := by omega
    rw [h8]

theorem le_ofLe (bs : List UInt8) : le bs.length (ofLe bs) = bs := by
  induction bs with
  | nil => rfl
  | cons b bs ih =>
    have hb := b.toNat_lt
    rw [List.length_cons, le_succ, ofLe_cons]
    have hmod : (b.toNat + 256 * ofLe bs) % 256 = b.toNat := by omega
    have hdiv : (b.toNat + 256 * ofLe bs) / 256 = ofLe bs := by omega
    rw [hmod, hdiv, ih, Nat.toUInt8_eq, UInt8.ofNat_toNat]

theorem ofLe_lt (bs : List UInt8) : ofLe bs < 256 ^ bs.length := by
  induction bs with
  | nil => simp [ofLe]
  | cons b bs ih =>
    rw [ofLe_cons, List.length_cons, pow_succ]
    have := b.toNat_lt
    omega

theorem eq_of_ofLe_eq {a b : List UInt8} (hl : a.length = b.length) (h : ofLe a = ofLe b) : a = b := by
  rw [← le_ofLe a, ← le_ofLe b, hl, h]

end Bytes

/-- A duration as reading its two words gives it: nanoseconds past a second carried into the
seconds. -/
def Duration.carried (d : Duration) : Duration :=
  ⟨(d.secs.toNat + d.nanos.toNat / Duration.nanosPerSec).toUInt64,
    (d.nanos.toNat % Duration.nanosPerSec).toUInt32⟩

/-- The seconds of a duration, its nanoseconds past a second carried into them, fit their word. -/
def Duration.CarryFits (d : Duration) : Prop :=
  d.secs.toNat + d.nanos.toNat / Duration.nanosPerSec < 2 ^ 64

theorem Duration.carried_eq_self {d : Duration} (hd : d.nanos.toNat < Duration.nanosPerSec) :
    d.carried = d := by
  have hcarry : d.nanos.toNat / Duration.nanosPerSec = 0 := Nat.div_eq_of_lt hd
  simp only [Duration.carried, hcarry, Nat.mod_eq_of_lt hd, Nat.add_zero, Nat.toUInt64_eq,
    UInt64.ofNat_toNat, Nat.toUInt32_eq, UInt32.ofNat_toNat]

theorem Duration.carryFits_of_lt {d : Duration} (hd : d.nanos.toNat < Duration.nanosPerSec) : d.CarryFits := by
  have hs := d.secs.toNat_lt
  have hcarry : d.nanos.toNat / Duration.nanosPerSec = 0 := Nat.div_eq_of_lt hd
  simp only [Duration.CarryFits, hcarry, Nat.add_zero]
  exact hs

namespace Wire

/-- `r` reads `x` from `bs`: whatever follows `bs`, it returns `x` and leaves what follows. -/
def Reads {α : Type} (r : Reader α) (x : α) (bs : List UInt8) : Prop :=
  ∀ rest, r.run (bs ++ rest) = .ok (x, rest)

namespace Reads

variable {α β : Type} {r : Reader α} {x : α} {bs : List UInt8}

theorem run_bind {f : α → Reader β} (h : Reads r x bs) (rest : List UInt8) :
    (r >>= f).run (bs ++ rest) = (f x).run rest := by
  have h := h rest
  simp only [Reader.run, StateT.run_bind] at h ⊢
  rw [h]
  rfl

theorem bind {f : α → Reader β} {y : β} {cs : List UInt8} (hr : Reads r x bs) (hf : Reads (f x) y cs) :
    Reads (r >>= f) y (bs ++ cs) := by
  intro rest
  rw [List.append_assoc, hr.run_bind]
  exact hf rest

theorem pure (x : α) : Reads (Pure.pure x : Reader α) x [] := fun _ => rfl

theorem congr {y : α} {cs : List UInt8} (h : Reads r x bs) (hx : x = y) (hb : bs = cs) : Reads r y cs :=
  hx ▸ hb ▸ h

theorem map (g : α → β) (h : Reads r x bs) : Reads (do return g (← r)) (g x) bs :=
  (bind (f := fun a => Pure.pure (g a)) h (pure (g x))).congr rfl (List.append_nil _)

theorem run_eq (h : Reads r x bs) : r.run bs = .ok (x, []) := by
  simpa using h []

end Reads

/-- `r` reads `x` from exactly `bs`: it reads `x` from `bs` whatever follows, and it fails for
want of input on every proper prefix of `bs`. -/
structure ReadsExactly {α : Type} (r : Reader α) (x : α) (bs : List UInt8) : Prop where
  reads : Reads r x bs
  short : ∀ k < bs.length, r.run (bs.take k) = .error .unexpectedEnd

namespace ReadsExactly

variable {α β : Type} {r : Reader α} {x : α} {bs : List UInt8}

theorem bind {f : α → Reader β} {y : β} {cs : List UInt8} (hr : ReadsExactly r x bs)
    (hf : ReadsExactly (f x) y cs) : ReadsExactly (r >>= f) y (bs ++ cs) := by
  refine ⟨hr.reads.bind hf.reads, fun k hk => ?_⟩
  by_cases hkb : k < bs.length
  · -- the cut falls inside `bs`: the first reader already runs out
    have h := hr.short k hkb
    rw [List.take_append_of_le_length hkb.le]
    simp only [Reader.run, StateT.run_bind] at h ⊢
    rw [h]
    rfl
  · -- the cut falls inside `cs`: the first reader reads `x`, the second runs out
    rw [List.length_append] at hk
    rw [List.take_append, List.take_of_length_le (by omega), hr.reads.run_bind]
    exact hf.short _ (by omega)

theorem pure (x : α) : ReadsExactly (Pure.pure x : Reader α) x [] :=
  ⟨Reads.pure x, fun k hk => absurd hk (Nat.not_lt_zero k)⟩

theorem congr {y : α} {cs : List UInt8} (h : ReadsExactly r x bs) (hx : x = y) (hb : bs = cs) :
    ReadsExactly r y cs :=
  hx ▸ hb ▸ h

theorem map (g : α → β) (h : ReadsExactly r x bs) : ReadsExactly (do return g (← r)) (g x) bs :=
  (bind (f := fun a => Pure.pure (g a)) h (pure (g x))).congr rfl (List.append_nil _)

end ReadsExactly

theorem ofLe_len {n : Nat} (h : n < 2 ^ 64) : Bytes.ofLe (Wire.len n) = n := by
  rw [Wire.len, Wire.u64, Bytes.le64, Bytes.ofLe_le, Nat.toUInt64_eq, UInt64.toNat_ofNat',
    Nat.mod_eq_of_lt h]
  exact Nat.mod_eq_of_lt (by simpa using h)

theorem len_ofLe {l : List UInt8} (hl : l.length = 8) : Wire.len (Bytes.ofLe l) = l := by
  have hn : Bytes.ofLe l < 2 ^ 64 := by simpa [hl] using Bytes.ofLe_lt l
  calc Wire.len (Bytes.ofLe l) = Bytes.le l.length (Bytes.ofLe l) := by
        rw [hl, Wire.len, Wire.u64, Bytes.le64, Nat.toUInt64_eq, UInt64.toNat_ofNat', Nat.mod_eq_of_lt hn]
    _ = l := Bytes.le_ofLe l

namespace Reader

theorem exactly_take {bs : List UInt8} {n : Nat} (h : bs.length = n) : ReadsExactly (take n) bs bs := by
  subst h
  refine ⟨fun rest => ?_, fun k hk => ?_⟩
  · simp [Reader.run, take]
    rfl
  · simp [Reader.run, take]
    rw [if_pos hk]
    rfl

theorem reads_take {bs : List UInt8} {n : Nat} (h : bs.length = n) : Reads (take n) bs bs :=
  (exactly_take h).reads

theorem exactly_u16 {v : List UInt8} (hv : v.length = 2) : ReadsExactly u16 (Bytes.ofLe v).toUInt16 v :=
  (exactly_take (n := 2) hv).map _

theorem reads_u16 (w : UInt16) : Reads u16 w (Wire.u16 w) := by
  have hv : (Bytes.ofLe (Wire.u16 w)).toUInt16 = w := by
    rw [Wire.u16, Bytes.ofLe_le, Nat.mod_eq_of_lt (by simpa using w.toNat_lt), Nat.toUInt16_eq,
      UInt16.ofNat_toNat]
  exact (exactly_u16 (Bytes.length_le 2 _)).reads.congr hv rfl

theorem reads_u32 (w : UInt32) : Reads u32 w (Wire.u32 w) := by
  have hv : (Bytes.ofLe (Wire.u32 w)).toUInt32 = w := by
    rw [Wire.u32, Bytes.ofLe_le, Nat.mod_eq_of_lt (by simpa using w.toNat_lt), Nat.toUInt32_eq,
      UInt32.ofNat_toNat]
  exact ((reads_take (n := 4) (Bytes.length_le 4 _)).map _).congr hv rfl

theorem reads_u64 (w : UInt64) : Reads u64 w (Wire.u64 w) := by
  have hv : (Bytes.ofLe (Wire.u64 w)).toUInt64 = w := by
    rw [Wire.u64, Bytes.le64, Bytes.ofLe_le, Nat.mod_eq_of_lt (by simpa using w.toNat_lt),
      Nat.toUInt64_eq, UInt64.ofNat_toNat]
  exact ((reads_take (n := 8) (Bytes.length_le 8 _)).map _).congr hv rfl

theorem reads_f64 (d : Double) : Reads f64 d (Wire.f64 d) :=
  (reads_u64 d.word).map (fun w => (⟨w⟩ : Double))

theorem reads_u8 (b : UInt8) : Reads u8 b [b] := by
  intro rest
  have h := reads_take (n := 1) (rfl : [b].length = 1) rest
  simp only [Reader.run, u8, StateT.run_bind] at h ⊢
  rw [h]
  rfl

theorem reads_bool (b : Bool) : Reads bool b (Wire.bool b) := by
  cases b
  · exact ((reads_u8 0).bind (Reads.pure false)).congr rfl rfl
  · exact ((reads_u8 1).bind (Reads.pure true)).congr rfl rfl

theorem exactly_len_bytes {l : List UInt8} (hl : l.length = 8) : ReadsExactly len (Bytes.ofLe l) l := by
  have hv : (Bytes.ofLe l).toUInt64.toNat = Bytes.ofLe l := by
    rw [Nat.toUInt64_eq, UInt64.toNat_ofNat', Nat.mod_eq_of_lt (by simpa [hl] using Bytes.ofLe_lt l)]
  have hw : ReadsExactly u64 (Bytes.ofLe l).toUInt64 l := (exactly_take (n := 8) hl).map _
  exact (hw.map UInt64.toNat).congr hv rfl

theorem exactly_len {n : Nat} (h : n < 2 ^ 64) : ReadsExactly len n (Wire.len n) :=
  (exactly_len_bytes (Bytes.length_le 8 _)).congr (ofLe_len h) rfl

theorem reads_len {n : Nat} (h : n < 2 ^ 64) : Reads len n (Wire.len n) := (exactly_len h).reads

theorem exactly_byteSeq {bs : List UInt8} (h : bs.length < 2 ^ 64) :
    ReadsExactly byteSeq bs (Wire.bytes bs) :=
  (exactly_len h).bind (exactly_take rfl)

theorem reads_slice {bs : List UInt8} (h : bs.length < 2 ^ 64) : Reads slice bs (Wire.bytes bs) := by
  refine (reads_len h).bind ?_
  intro rest
  simp [Reader.run, StateT.run_bind]
  rfl

theorem reads_text {s : String} (h : s.toUTF8.toList.length < 2 ^ 64) : Reads text s (Wire.text s) := by
  rw [Wire.text, ← List.append_nil (Wire.bytes _)]
  refine (reads_slice h).bind ?_
  simp only [Utf8.decode_toUTF8]
  exact Reads.pure s

theorem reads_variant {i count : Nat} (hi : i < count) (hc : count < 2 ^ 32) :
    Reads (variant count) i (Wire.u32 i.toUInt32) := by
  have hv : i.toUInt32.toNat = i := by
    rw [Nat.toUInt32_eq, UInt32.toNat_ofNat', Nat.mod_eq_of_lt (by omega)]
  refine (reads_u32 i.toUInt32).bind ?_
  simp only [hv, if_pos hi]
  exact Reads.pure i

/-- Reading a duration's two words carries its nanoseconds into its seconds, as long as the
seconds then still fit their word. -/
theorem reads_duration {d : Duration} (hfit : d.CarryFits) : Reads duration d.carried (Wire.duration d) := by
  refine (reads_u64 d.secs).bind ((reads_u32 d.nanos).bind ?_)
  have hfits : ¬ d.secs.toNat + d.nanos.toNat / Duration.nanosPerSec ≥ Nat.pow 2 64 := by
    simp only [Duration.CarryFits] at hfit
    simp only [Nat.pow_eq]
    omega
  simp only [if_neg hfits]
  exact Reads.pure _

end Reader

@[simp] theorem length_u16 (w : UInt16) : (Wire.u16 w).length = 2 := by simp [Wire.u16]

@[simp] theorem length_u64 (w : UInt64) : (Wire.u64 w).length = 8 := by simp [Wire.u64, Bytes.le64]

@[simp] theorem length_len (n : Nat) : (Wire.len n).length = 8 := length_u64 _

@[simp] theorem u64_ne_nil (w : UInt64) : Wire.u64 w ≠ [] :=
  List.ne_nil_of_length_pos (by simp)

@[simp] theorem len_ne_nil (n : Nat) : Wire.len n ≠ [] := u64_ne_nil _

theorem length_le_length_flatMap {enc : α → List UInt8} :
    ∀ {xs : List α}, (∀ x ∈ xs, enc x ≠ []) → xs.length ≤ (xs.flatMap enc).length
  | [], _ => by simp
  | x :: xs, hne => by
    have hx := List.length_pos_of_ne_nil (hne x (List.mem_cons_self ..))
    have ih := length_le_length_flatMap fun y hy => hne y (List.mem_cons_of_mem x hy)
    simp only [List.flatMap_cons, List.length_append, List.length_cons]
    omega

/-- `r` reads `x` back from `bs` whenever `bs` is shorter than `2 ^ 64` bytes, so that every
length written inside it fits the 64-bit word it is written as. -/
def Recovers (r : Reader α) (x : α) (bs : List UInt8) : Prop :=
  bs.length < 2 ^ 64 → Reads r x bs

theorem Reads.recovers {r : Reader α} {x : α} {bs : List UInt8} (h : Reads r x bs) : Recovers r x bs :=
  fun _ => h

namespace Recovers

variable {α β : Type} {r : Reader α} {x : α} {bs : List UInt8}

theorem bind {f : α → Reader β} {y : β} {cs : List UInt8} (hr : Recovers r x bs)
    (hf : Recovers (f x) y cs) : Recovers (r >>= f) y (bs ++ cs) := by
  intro h
  rw [List.length_append] at h
  exact (hr (by omega)).bind (hf (by omega))

theorem congr {y : α} {cs : List UInt8} (h : Recovers r x bs) (hx : x = y) (hb : bs = cs) :
    Recovers r y cs :=
  hx ▸ hb ▸ h

theorem map (g : α → β) (h : Recovers r x bs) : Recovers (do return g (← r)) (g x) bs :=
  fun hb => (h hb).map g

end Recovers

namespace Reader

theorem recovers_text (s : String) : Recovers text s (Wire.text s) := by
  intro h
  simp only [Wire.text, Wire.bytes, List.length_append, length_len] at h
  exact reads_text (by omega)

theorem recovers_items {β : Type} {item : Reader α} {enc : β → List UInt8} {view : β → α} :
    ∀ {xs : List β}, (∀ x ∈ xs, Recovers item (view x) (enc x)) →
      ∀ acc, Recovers (items item xs.length acc) (acc.reverse ++ xs.map view) (xs.flatMap enc)
  | [], _, acc => (Reads.pure acc.reverse).recovers.congr (by simp) rfl
  | x :: xs, hitem, acc => by
    have hx := hitem x (List.mem_cons_self ..)
    have hxs := recovers_items (fun y hy => hitem y (List.mem_cons_of_mem x hy)) (view x :: acc)
    exact (hx.bind hxs).congr (by simp) (by simp)

/-- A sequence is read back item by item, each item as `view` takes what was written, provided
no item is written as no bytes: only then does a sequence that fits in `2 ^ 64` bytes have fewer
than `2 ^ 64` items to count. -/
theorem recovers_seq_map {β : Type} {item : Reader α} {enc : β → List UInt8} {view : β → α}
    {xs : List β} (hitem : ∀ x ∈ xs, Recovers item (view x) (enc x)) (hne : ∀ x ∈ xs, enc x ≠ []) :
    Recovers (seq item) (xs.map view) (Wire.seq enc xs) := by
  intro h
  have hn := length_le_length_flatMap hne
  have hlen : xs.length < 2 ^ 64 := by
    simp only [Wire.seq, List.length_append, length_len] at h
    omega
  exact ((reads_len hlen).recovers.bind ((recovers_items hitem []).congr (by simp) rfl)) h

theorem recovers_seq {item : Reader α} {enc : α → List UInt8} {xs : List α}
    (hitem : ∀ x ∈ xs, Recovers item x (enc x)) (hne : ∀ x ∈ xs, enc x ≠ []) :
    Recovers (seq item) xs (Wire.seq enc xs) :=
  (recovers_seq_map (fun x hx => (hitem x hx : Recovers item (id x) (enc x))) hne).congr (List.map_id xs) rfl

end Reader

end Wire

end RoadFetch
