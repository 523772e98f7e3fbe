import RoadFetch.Proofs.Wire.Written
import RoadFetch.Proofs.Snapshot.Codec
import Mathlib

/-! # Which bytes are the encoding of what they decode to

Decoding accepts more than encoding writes. The envelope reader leaves whatever follows the
envelope, the snapshot reader leaves whatever follows the snapshot inside the payload, and a
retirement time is read with its nanoseconds past a second carried into its seconds. Nothing else
gives a choice: every record reader consumed the writing of what it returned (`snapshot_written`).
So bytes that decode are laid out as the seal of a snapshot written as it stands, some slack and a
tail (`SealedLayout`); they decode to that snapshot carried (`SealedLayout.decodeWith_eq`), and
they are its encoding exactly when the layout is tight: no tail, no slack, and no retirement time
written with a second or more of nanoseconds. Carrying keeps the length of a writing and changes it
only there (`Wire.snapshot_carried_eq_iff`). Main statement: `WorldSnapshot.encodeWith_eq_iff_tight`,
for every digest function of 32 bytes.
-/

namespace RoadFetch

open Wire Wire.Reader

/-! ### Every record reader consumed a writing -/

namespace Wire.Reader

theorem vec_written {bs rest : List UInt8} {v : Vec2} (h : vec.run bs = .ok (v, rest)) :
    bs = Wire.vec v ++ rest := by
  obtain ⟨x, m₁, h₁, h⟩ := run_bind_eq_ok h
  obtain ⟨y, m₂, h₂, h⟩ := run_bind_eq_ok h
  obtain ⟨rfl, rfl⟩ := run_pure_eq_ok h
  rw [f64_written h₁, f64_written h₂, Wire.vec, List.append_assoc]

theorem bagItem_written {bs rest : List UInt8} {i : BagItem} (h : bagItem.run bs = .ok (i, rest)) :
    bs = Wire.bagItem i ++ rest := by
  obtain ⟨x, m₁, h₁, h⟩ := run_bind_eq_ok h
  obtain ⟨y, m₂, h₂, h⟩ := run_bind_eq_ok h
  obtain ⟨rfl, rfl⟩ := run_pure_eq_ok h
  rw [u64_written h₁, u64_written h₂, Wire.bagItem, List.append_assoc]

theorem index_ofIndex? {i : Nat} (hi : i < 4) : ((Direction.ofIndex? i).getD .up).index = i := by
  interval_cases i <;> rfl

theorem direction_written {bs rest : List UInt8} {d : Direction} (h : direction.run bs = .ok (d, rest)) :
    bs = Wire.u32 d.index.toUInt32 ++ rest := by
  obtain ⟨i, m, hi, h⟩ := run_bind_eq_ok h
  obtain ⟨hlt, hbs⟩ := variant_written hi
  obtain ⟨rfl, rfl⟩ := run_pure_eq_ok h
  rw [hbs, index_ofIndex? hlt]

theorem dogRecord_written {bs rest : List UInt8} {r : DogRecord} (h : dogRecord.run bs = .ok (r, rest)) :
    bs = Wire.dogRecord r ++ rest := by
  obtain ⟨key, m₁, h₁, h⟩ := run_bind_eq_ok h
  obtain ⟨id, m₂, h₂, h⟩ := run_bind_eq_ok h
  obtain ⟨name, m₃, h₃, h⟩ := run_bind_eq_ok h
  obtain ⟨position, m₄, h₄, h⟩ := run_bind_eq_ok h
  obtain ⟨capacity, m₅, h₅, h⟩ := run_bind_eq_ok h
  obtain ⟨bag, m₆, h₆, h⟩ := run_bind_eq_ok h
  obtain ⟨velocity, m₇, h₇, h⟩ := run_bind_eq_ok h
  obtain ⟨speed, m₈, h₈, h⟩ := run_bind_eq_ok h
  obtain ⟨direction, m₉, h₉, h⟩ := run_bind_eq_ok h
  obtain ⟨score, m₁₀, h₁₀, h⟩ := run_bind_eq_ok h
  obtain ⟨idle, m₁₁, h₁₁, h⟩ := run_bind_eq_ok h
  obtain ⟨play, m₁₂, h₁₂, h⟩ := run_bind_eq_ok h
  obtain ⟨rfl, rfl⟩ := run_pure_eq_ok h
  obtain ⟨items, -, hitems, hbag⟩ := seq_written (fun h => ⟨_, trivial, rfl, bagItem_written h⟩) h₆
  rw [u64_written h₁, u64_written h₂, text_written h₃, vec_written h₄, u64_written h₅, hbag,
    vec_written h₇, f64_written h₈, direction_written h₉, u64_written h₁₀, u64_written h₁₁,
    u64_written h₁₂, ← hitems]
  simp [Wire.dogRecord]

theorem lootItem_written {bs rest : List UInt8} {l : LootItem} (h : lootItem.run bs = .ok (l, rest)) :
    bs = Wire.lootItem l ++ rest := by
  obtain ⟨id, m₁, h₁, h⟩ := run_bind_eq_ok h
  obtain ⟨kind, m₂, h₂, h⟩ := run_bind_eq_ok h
  obtain ⟨position, m₃, h₃, h⟩ := run_bind_eq_ok h
  obtain ⟨rfl, rfl⟩ := run_pure_eq_ok h
  rw [u64_written h₁, u64_written h₂, vec_written h₃]
  simp [Wire.lootItem]

theorem tuning_written {bs rest : List UInt8} {t : Tuning} (h : tuning.run bs = .ok (t, rest)) :
    ∃ t' : Tuning, t'.retirementAfter.CarryFits ∧ t'.carried = t ∧ bs = Wire.tuning t' ++ rest := by
  obtain ⟨speed, m₁, h₁, h⟩ := run_bind_eq_ok h
  obtain ⟨capacity, m₂, h₂, h⟩ := run_bind_eq_ok h
  obtain ⟨after, m₃, h₃, h⟩ := run_bind_eq_ok h
  obtain ⟨randomize, m₄, h₄, h⟩ := run_bind_eq_ok h
  obtain ⟨rfl, rfl⟩ := run_pure_eq_ok h
  obtain ⟨raw, hfit, rfl, hraw⟩ := duration_written h₃
  refine ⟨⟨speed, capacity, raw, randomize⟩, hfit, rfl, ?_⟩
  rw [f64_written h₁, u64_written h₂, hraw, bool_written h₄]
  simp [Wire.tuning]

theorem sessionMeta_written {bs rest : List UInt8} {m : SessionMeta} (h : sessionMeta.run bs = .ok (m, rest)) :
    ∃ m' : SessionMeta, m'.tuning.retirementAfter.CarryFits ∧ m'.carried = m ∧
      bs = Wire.sessionMeta m' ++ rest := by
  obtain ⟨key, m₁, h₁, h⟩ := run_bind_eq_ok h
  obtain ⟨mapId, m₂, h₂, h⟩ := run_bind_eq_ok h
  obtain ⟨nextDog, m₃, h₃, h⟩ := run_bind_eq_ok h
  obtain ⟨nextLoot, m₄, h₄, h⟩ := run_bind_eq_ok h
  obtain ⟨rng₁, m₅, h₅, h⟩ := run_bind_eq_ok h
  obtain ⟨rng₂, m₆, h₆, h⟩ := run_bind_eq_ok h
  obtain ⟨t, m₇, h₇, h⟩ := run_bind_eq_ok h
  obtain ⟨rfl, rfl⟩ := run_pure_eq_ok h
  obtain ⟨t', hfit, rfl, ht⟩ := tuning_written h₇
  refine ⟨⟨key, mapId, nextDog, nextLoot, (rng₁, rng₂), t'⟩, hfit, rfl, ?_⟩
  rw [u64_written h₁, text_written h₂, u64_written h₃, u64_written h₄, u64_written h₅, u64_written h₆, ht]
  simp [Wire.sessionMeta]

theorem sessionRecord_written {bs rest : List UInt8} {r : SessionRecord}
    (h : sessionRecord.run bs = .ok (r, rest)) :
    ∃ r' : SessionRecord, r'.header.tuning.retirementAfter.CarryFits ∧ r'.carried = r ∧
      bs = Wire.sessionRecord r' ++ rest := by
  obtain ⟨dogs, m₁, h₁, h⟩ := run_bind_eq_ok h
  obtain ⟨loot, m₂, h₂, h⟩ := run_bind_eq_ok h
  obtain ⟨header, m₃, h₃, h⟩ := run_bind_eq_ok h
  obtain ⟨rfl, rfl⟩ := run_pure_eq_ok h
  obtain ⟨ds, -, hds, hdogs⟩ := seq_written (fun h => ⟨_, trivial, rfl, dogRecord_written h⟩) h₁
  obtain ⟨ls, -, hls, hloot⟩ := seq_written (fun h => ⟨_, trivial, rfl, lootItem_written h⟩) h₂
  obtain ⟨header', hfit, rfl, hheader⟩ := sessionMeta_written h₃
  refine ⟨⟨ds, ls, header'⟩, hfit, by simp [SessionRecord.carried, ← hds, ← hls], ?_⟩
  rw [hdogs, hloot, hheader]
  simp [Wire.sessionRecord]

theorem binding_written {bs rest : List UInt8} {b : Binding} (h : binding.run bs = .ok (b, rest)) :
    bs = Wire.binding b ++ rest := by
  obtain ⟨token, m₁, h₁, h⟩ := run_bind_eq_ok h
  obtain ⟨dog, m₂, h₂, h⟩ := run_bind_eq_ok h
  obtain ⟨session, m₃, h₃, h⟩ := run_bind_eq_ok h
  obtain ⟨rfl, rfl⟩ := run_pure_eq_ok h
  rw [text_written h₁, u64_written h₂, u64_written h₃]
  simp [Wire.binding]

/-- A snapshot read from some bytes was written there with its retirement times as they were
before their nanoseconds were carried. -/
theorem snapshot_written {bs rest : List UInt8} {s : WorldSnapshot} (h : snapshot.run bs = .ok (s, rest)) :
    ∃ raw : WorldSnapshot, (∀ r ∈ raw.sessions, r.header.tuning.retirementAfter.CarryFits) ∧
      raw.carried = s ∧ bs = Wire.snapshot raw ++ rest := by
  obtain ⟨sessions, m₁, h₁, h⟩ := run_bind_eq_ok h
  obtain ⟨bindings, m₂, h₂, h⟩ := run_bind_eq_ok h
  obtain ⟨nextKey, m₃, h₃, h⟩ := run_bind_eq_ok h
  obtain ⟨rfl, rfl⟩ := run_pure_eq_ok h
  obtain ⟨rs, hfit, hrs, hsessions⟩ := seq_written (fun h => sessionRecord_written h) h₁
  obtain ⟨bs', -, hbs', hbindings⟩ := seq_written (fun h => ⟨_, trivial, rfl, binding_written h⟩) h₂
  refine ⟨⟨rs, bs', nextKey⟩, hfit, by simp [WorldSnapshot.carried, hrs, ← hbs'], ?_⟩
  rw [hsessions, hbindings, u64_written h₃]
  simp [Wire.snapshot]

end Wire.Reader

/-! ### Carrying changes a writing only at the retirement times -/

namespace Wire

@[simp] theorem length_u32 (w : UInt32) : (Wire.u32 w).length = 4 := by simp [Wire.u32]

theorem u32_inj {a b : UInt32} (h : Wire.u32 a = Wire.u32 b) : a = b := by
  have h' := congrArg Bytes.ofLe h
  simp only [Wire.u32, Bytes.ofLe_le] at h'
  rw [Nat.mod_eq_of_lt (by simpa using a.toNat_lt), Nat.mod_eq_of_lt (by simpa using b.toNat_lt)] at h'
  exact UInt32.toNat_inj.mp h'

@[simp] theorem length_duration (d : Duration) : (Wire.duration d).length = 12 := by
  simp [Wire.duration]

/-- Carrying changes the writing of a duration exactly when its nanoseconds reach a second. -/
theorem duration_carried_eq_iff {d : Duration} :
    Wire.duration d.carried = Wire.duration d ↔ d.nanos.toNat < Duration.nanosPerSec := by
  refine ⟨fun h => ?_, fun h => by rw [Duration.carried_eq_self h]⟩
  obtain ⟨-, hnanos⟩ := List.append_inj h (by simp)
  have hword := congrArg UInt32.toNat (u32_inj hnanos)
  simp only [Duration.carried, Nat.toUInt32_eq, UInt32.toNat_ofNat'] at hword
  have hlt : d.nanos.toNat % Duration.nanosPerSec < Duration.nanosPerSec :=
    Nat.mod_lt _ (by simp [Duration.nanosPerSec])
  rw [Nat.mod_eq_of_lt (by simp only [Duration.nanosPerSec] at hlt ⊢; omega)] at hword
  omega

theorem tuning_carried_eq_iff {t : Tuning} :
    Wire.tuning t.carried = Wire.tuning t ↔ t.retirementAfter.nanos.toNat < Duration.nanosPerSec := by
  rw [← duration_carried_eq_iff]
  simp [Wire.tuning, Tuning.carried]

theorem sessionMeta_carried_eq_iff {m : SessionMeta} :
    Wire.sessionMeta m.carried = Wire.sessionMeta m ↔ m.tuning.retirementAfter.nanos.toNat < Duration.nanosPerSec := by
  rw [← tuning_carried_eq_iff]
  simp [Wire.sessionMeta, SessionMeta.carried]

theorem sessionRecord_carried_eq_iff {r : SessionRecord} :
    Wire.sessionRecord r.carried = Wire.sessionRecord r ↔
      r.header.tuning.retirementAfter.nanos.toNat < Duration.nanosPerSec := by
  rw [← sessionMeta_carried_eq_iff]
  simp [Wire.sessionRecord, SessionRecord.carried]

theorem length_sessionRecord_carried (r : SessionRecord) :
    (Wire.sessionRecord r.carried).length = (Wire.sessionRecord r).length := by
  simp [Wire.sessionRecord, SessionRecord.carried, Wire.sessionMeta, SessionMeta.carried, Wire.tuning,
    Tuning.carried]

/-- Two writings of a list item by item, each item's two writings of one length, agree exactly
when every item's two writings do. -/
theorem flatMap_eq_flatMap_iff {α : Type} {xs : List α} {f g : α → List UInt8}
    (hlen : ∀ x ∈ xs, (f x).length = (g x).length) :
    xs.flatMap f = xs.flatMap g ↔ ∀ x ∈ xs, f x = g x := by
  induction xs with
  | nil => simp
  | cons x xs ih =>
    have ih := ih fun y hy => hlen y (List.mem_cons_of_mem x hy)
    simp only [List.flatMap_cons, List.forall_mem_cons]
    constructor
    · intro h
      obtain ⟨hx, hxs⟩ := List.append_inj h (hlen x List.mem_cons_self)
      exact ⟨hx, ih.mp hxs⟩
    · rintro ⟨hx, hxs⟩
      rw [hx, ih.mpr hxs]

/-- Carrying changes the writing of a snapshot exactly when some retirement time has a second
or more of nanoseconds. -/
theorem snapshot_carried_eq_iff {s : WorldSnapshot} :
    Wire.snapshot s.carried = Wire.snapshot s ↔
      ∀ r ∈ s.sessions, r.header.tuning.retirementAfter.nanos.toNat < Duration.nanosPerSec := by
  simp only [Wire.snapshot, WorldSnapshot.carried, Wire.seq, List.length_map, List.flatMap_map,
    List.append_cancel_left_eq, List.append_cancel_right_eq]
  rw [flatMap_eq_flatMap_iff fun r _ => length_sessionRecord_carried r]
  exact forall₂_congr fun r _ => sessionRecord_carried_eq_iff

theorem length_snapshot_carried (s : WorldSnapshot) :
    (Wire.snapshot s.carried).length = (Wire.snapshot s).length := by
  simp [Wire.snapshot, WorldSnapshot.carried, Wire.seq, List.flatMap_map, List.length_flatMap,
    length_sessionRecord_carried]

end Wire

/-! ### Layouts of a sealed snapshot -/

theorem Envelope.parts_written {bs rest : List UInt8} {p : Envelope.Parts}
    (h : Reader.run Envelope.parts bs = .ok (p, rest)) :
    p.digest.length = 32 ∧ p.payload.length < 2 ^ 64 ∧
      bs = p.magic ++ Wire.u16 p.version ++ p.digest ++ Wire.bytes p.payload ++ rest := by
  obtain ⟨magic, m₁, h₁, h⟩ := run_bind_eq_ok h
  obtain ⟨version, m₂, h₂, h⟩ := run_bind_eq_ok h
  obtain ⟨digest, m₃, h₃, h⟩ := run_bind_eq_ok h
  obtain ⟨payload, m₄, h₄, h⟩ := run_bind_eq_ok h
  obtain ⟨rfl, rfl⟩ := run_pure_eq_ok h
  obtain ⟨-, hmagic⟩ := take_written h₁
  obtain ⟨hdigest, hdigest'⟩ := take_written h₃
  obtain ⟨hpayload, hpayload'⟩ := byteSeq_written h₄
  refine ⟨hdigest, hpayload, ?_⟩
  rw [hmagic, u16_written h₂, hdigest', hpayload']
  simp

section Digest

variable {digest : List UInt8 → List UInt8}

/-- Bytes that open were sealed: the seal of the payload they open to, followed by a tail. -/
theorem openPayload_written {bs payload : List UInt8} (h : openPayload digest bs = .ok payload) :
    payload.length < 2 ^ 64 ∧ ∃ tail, bs = sealPayload digest payload ++ tail := by
  unfold openPayload at h
  split at h
  · cases h
  · rename_i p tail hrun
    obtain ⟨-, hlen, hbs⟩ := Envelope.parts_written hrun
    -- the three checks pin the magic, the version and the digest
    split at h
    · cases h
    split at h
    · cases h
    split at h
    · cases h
    rename_i hmagic hversion hdigest
    cases h
    simp only [bne_iff_ne, ne_eq, Decidable.not_not] at hmagic hversion hdigest
    refine ⟨hlen, tail, ?_⟩
    rw [hbs, sealPayload, hmagic, hversion, hdigest]

/-- Two seals under a digest of fixed width, the second followed by a tail, agree only when the
payloads agree and the tail is empty, as long as the first payload is no longer than the second. -/
theorem sealPayload_eq_append {x y tail : List UInt8} (hlen : ∀ p, (digest p).length = 32)
    (h : sealPayload digest x = sealPayload digest y ++ tail) (hxy : x.length ≤ y.length) :
    x = y ∧ tail = [] := by
  simp only [sealPayload, List.append_assoc, List.append_cancel_left_eq] at h
  obtain ⟨-, h⟩ := List.append_inj h (by rw [hlen, hlen])
  have hl := congrArg List.length h
  simp only [Wire.bytes, List.length_append, length_len] at hl
  have htail : tail = [] := List.eq_nil_of_length_eq_zero (by omega)
  subst htail
  obtain ⟨-, hpayload⟩ := List.append_inj (by simpa [Wire.bytes] using h) (by simp)
  exact ⟨hpayload, rfl⟩

/-- A way to lay out some bytes as a sealed snapshot: the seal of a payload that holds a snapshot,
written with its retirement times as they stand, then slack the snapshot reader never reaches; the
seal followed by a tail past the envelope. The payload fits its length word and every retirement
time's carry fits its seconds word. -/
structure SealedLayout (digest : List UInt8 → List UInt8) (bs : List UInt8) where
  written : WorldSnapshot
  slack : List UInt8
  tail : List UInt8
  carries : ∀ r ∈ written.sessions, r.header.tuning.retirementAfter.CarryFits
  fits : (Wire.snapshot written ++ slack).length < 2 ^ 64
  eq : bs = sealPayload digest (Wire.snapshot written ++ slack) ++ tail

/-- The layout holds nothing the encoder would not write: no tail past the envelope, no slack after
the snapshot, and every retirement time written with fewer than a second of nanoseconds. -/
def SealedLayout.Tight {bs : List UInt8} (L : SealedLayout digest bs) : Prop :=
  L.tail = [] ∧ L.slack = [] ∧
    ∀ r ∈ L.written.sessions, r.header.tuning.retirementAfter.nanos.toNat < Duration.nanosPerSec

namespace SealedLayout

variable {bs : List UInt8}

/-- Bytes laid out as a sealed snapshot decode to the written snapshot with its retirement times
carried. -/
theorem decodeWith_eq (L : SealedLayout digest bs) (hlen : ∀ p, (digest p).length = 32) :
    WorldSnapshot.decodeWith digest bs = .ok L.written.carried := by
  obtain ⟨written, slack, tail, carries, fits, rfl⟩ := L
  have hopen : openPayload digest (sealPayload digest (Wire.snapshot written ++ slack) ++ tail) =
      .ok (Wire.snapshot written ++ slack) := by
    have hrun := (Envelope.parts_exactly (show Envelope.magic.length = 4 from rfl)
      (length_u16 Envelope.version) (hlen (Wire.snapshot written ++ slack)) fits).reads tail
    simp only [openPayload, sealPayload, hrun]
    simp [Envelope.ofLe_version]
  have hread := (Reader.recovers_snapshot_carried written carries
    (by simp only [List.length_append] at fits; omega)) slack
  simp only [WorldSnapshot.decodeWith, hopen, bind, Except.bind, hread]
  rfl

/-- Bytes that decode have a layout, and it is written as what they decode to before carrying. -/
theorem exists_of_decodeWith {s : WorldSnapshot} (h : WorldSnapshot.decodeWith digest bs = .ok s) :
    ∃ L : SealedLayout digest bs, L.written.carried = s := by
  cases hopen : openPayload digest bs with
  | error e => simp [WorldSnapshot.decodeWith, hopen, bind, Except.bind] at h
  | ok payload =>
    cases hread : Reader.run Reader.snapshot payload with
    | error e => simp [WorldSnapshot.decodeWith, hopen, hread, bind, Except.bind, throw, throwThe, MonadExceptOf.throw] at h
    | ok p =>
      obtain ⟨s', slack⟩ := p
      have hs : s' = s := by
        simpa [WorldSnapshot.decodeWith, hopen, hread, bind, Except.bind, pure, Except.pure] using h
      subst hs
      obtain ⟨hfit, tail, hbs⟩ := openPayload_written hopen
      obtain ⟨raw, hcarries, hcarried, rfl⟩ := snapshot_written hread
      exact ⟨⟨raw, slack, tail, hcarries, hfit, hbs⟩, hcarried⟩

/-- Bytes laid out as a sealed snapshot are the encoding of what they decode to exactly when the
layout is tight. -/
theorem encodeWith_carried_eq_iff (L : SealedLayout digest bs) (hlen : ∀ p, (digest p).length = 32) :
    WorldSnapshot.encodeWith digest L.written.carried = bs ↔ L.Tight := by
  obtain ⟨written, slack, tail, carries, fits, rfl⟩ := L
  simp only [Tight, WorldSnapshot.encodeWith]
  constructor
  · intro h
    obtain ⟨hpayload, rfl⟩ := sealPayload_eq_append hlen h (by simp [Wire.length_snapshot_carried])
    -- carrying keeps the length of the writing, so nothing is left for slack
    have hslack : slack = [] := by
      have hl := congrArg List.length hpayload
      simp only [Wire.length_snapshot_carried, List.length_append] at hl
      exact List.eq_nil_of_length_eq_zero (by omega)
    subst hslack
    exact ⟨rfl, rfl, Wire.snapshot_carried_eq_iff.mp (by simpa using hpayload)⟩
  · rintro ⟨rfl, rfl, hnanos⟩
    simp [WorldSnapshot.carried_eq_self hnanos]

end SealedLayout

/-- A byte string that decodes has a layout as a sealed snapshot, and whichever layout is read, it
is the encoding of what it decodes to exactly when the layout is tight: nothing past the envelope,
nothing past the snapshot inside the payload, and every retirement time written with fewer than a
second of nanoseconds. -/
theorem WorldSnapshot.encodeWith_eq_iff_tight (hlen : ∀ p, (digest p).length = 32) {b : List UInt8}
    {s : WorldSnapshot} (h : WorldSnapshot.decodeWith digest b = .ok s) :
    Nonempty (SealedLayout digest b) ∧
      ∀ L : SealedLayout digest b, (WorldSnapshot.encodeWith digest s = b ↔ L.Tight) := by
  obtain ⟨L₀, -⟩ := SealedLayout.exists_of_decodeWith h
  refine ⟨⟨L₀⟩, fun L => ?_⟩
  -- every layout decodes to its own snapshot carried, so that is what `b` decodes to
  have hs : L.written.carried = s := by
    have hdec := L.decodeWith_eq hlen
    rw [h] at hdec
    exact (Except.ok.inj hdec).symm
  rw [← hs]
  exact L.encodeWith_carried_eq_iff hlen

end Digest

/-- One byte past the envelope of the empty world, sealed under a constant digest: the bytes decode,
and every layout of them answers whether they are the encoding of what they decode to. -/
theorem WorldSnapshot.trailing_byte_layout :
    let digest : List UInt8 → List UInt8 := fun _ => List.replicate 32 0
    let b := WorldSnapshot.encodeWith digest ⟨[], [], 0⟩ ++ [7]
    (∀ p, (digest p).length = 32) ∧ WorldSnapshot.decodeWith digest b = .ok ⟨[], [], 0⟩ ∧
      Nonempty (SealedLayout digest b) ∧
      ∀ L : SealedLayout digest b, (WorldSnapshot.encodeWith digest ⟨[], [], 0⟩ = b ↔ L.Tight) :=
  have hlen : ∀ p : List UInt8, ((fun _ => List.replicate 32 0) p : List UInt8).length = 32 :=
    fun _ => List.length_replicate
  have hdec : WorldSnapshot.decodeWith (fun _ => List.replicate 32 0)
      (WorldSnapshot.encodeWith (fun _ => List.replicate 32 0) ⟨[], [], 0⟩ ++ [7]) = .ok ⟨[], [], 0⟩ := rfl
  ⟨hlen, hdec, WorldSnapshot.encodeWith_eq_iff_tight hlen hdec⟩

end RoadFetch
