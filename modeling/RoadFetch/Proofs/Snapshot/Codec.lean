import RoadFetch.Proofs.Wire.Read
import RoadFetch.Snapshot.Codec
import RoadFetch.Snapshot.Envelope
import Mathlib

/-! # Decoding a snapshot undoes encoding it

Every record reader reads back what its writer wrote, field by field, for any texts, doubles bit
for bit, and lists of any length that fits a 64-bit word; the one field a writer can write that
its reader would not give back is a duration whose nanoseconds reach a second, which the reader
carries into the seconds. The envelope is read back for any digest function of 32 bytes: nothing
here looks inside the digest.
-/

namespace RoadFetch

/-! ### What reading gives back

Reading carries a duration's nanoseconds past a second into its seconds; the only duration of a
snapshot is each session's retirement time, so a record read back is the record written with
that one duration carried. -/

def Tuning.carried (t : Tuning) : Tuning := { t with retirementAfter := t.retirementAfter.carried }

def SessionMeta.carried (m : SessionMeta) : SessionMeta := { m with tuning := m.tuning.carried }

def SessionRecord.carried (r : SessionRecord) : SessionRecord := { r with header := r.header.carried }

def WorldSnapshot.carried (s : WorldSnapshot) : WorldSnapshot :=
  { s with sessions := s.sessions.map SessionRecord.carried }

theorem SessionRecord.carried_eq_self {r : SessionRecord}
    (hd : r.header.tuning.retirementAfter.nanos.toNat < Duration.nanosPerSec) : r.carried = r := by
  simp only [SessionRecord.carried, SessionMeta.carried, Tuning.carried, Duration.carried_eq_self hd]

theorem WorldSnapshot.carried_eq_self {s : WorldSnapshot}
    (hd : ∀ r ∈ s.sessions, r.header.tuning.retirementAfter.nanos.toNat < Duration.nanosPerSec) :
    s.carried = s := by
  have hrecords : s.sessions.map SessionRecord.carried = s.sessions :=
    (List.map_congr_left fun r hr => SessionRecord.carried_eq_self (hd r hr)).trans (List.map_id _)
  simp only [WorldSnapshot.carried, hrecords]

end RoadFetch

namespace RoadFetch.Wire

section Nonempty

-- Every record starts with a word or a length, so no record is written as no bytes: this is
-- what lets a sequence of records that fits in `2 ^ 64` bytes count its records in a word.

@[simp] theorem bagItem_ne_nil (i : BagItem) : Wire.bagItem i ≠ [] := by simp [Wire.bagItem]

@[simp] theorem dogRecord_ne_nil (r : DogRecord) : Wire.dogRecord r ≠ [] := by simp [Wire.dogRecord]

@[simp] theorem lootItem_ne_nil (l : LootItem) : Wire.lootItem l ≠ [] := by simp [Wire.lootItem]

@[simp] theorem sessionRecord_ne_nil (r : SessionRecord) : Wire.sessionRecord r ≠ [] := by
  simp [Wire.sessionRecord, Wire.seq]

@[simp] theorem binding_ne_nil (b : Binding) : Wire.binding b ≠ [] := by
  simp [Wire.binding, Wire.text, Wire.bytes]

end Nonempty

namespace Reader

theorem recovers_vec (v : Vec2) : Recovers vec v (Wire.vec v) := by
  unfold vec
  exact (reads_f64 _).recovers.bind ((reads_f64 _).recovers.map _)

theorem recovers_bagItem (i : BagItem) : Recovers bagItem i (Wire.bagItem i) := by
  unfold bagItem
  exact (reads_u64 _).recovers.bind ((reads_u64 _).recovers.map _)

theorem ofIndex?_index (d : Direction) : (Direction.ofIndex? d.index).getD .up = d := by
  cases d <;> rfl

theorem recovers_direction (d : Direction) : Recovers direction d (Wire.u32 d.index.toUInt32) := by
  have hi : d.index < 4 := by cases d <;> decide
  unfold direction
  exact ((reads_variant hi (by decide)).recovers.map _).congr (ofIndex?_index d) rfl

theorem recovers_dogRecord (r : DogRecord) : Recovers dogRecord r (Wire.dogRecord r) := by
  unfold dogRecord
  rw [Wire.dogRecord]
  simp only [List.append_assoc]
  exact (reads_u64 _).recovers.bind <| (reads_u64 _).recovers.bind <| (recovers_text _).bind <|
    (recovers_vec _).bind <| (reads_u64 _).recovers.bind <|
    (recovers_seq (fun i _ => recovers_bagItem i) (fun i _ => bagItem_ne_nil i)).bind <|
    (recovers_vec _).bind <| (reads_f64 _).recovers.bind <| (recovers_direction _).bind <|
    (reads_u64 _).recovers.bind <| (reads_u64 _).recovers.bind <| (reads_u64 _).recovers.map _

theorem recovers_lootItem (l : LootItem) : Recovers lootItem l (Wire.lootItem l) := by
  unfold lootItem
  rw [Wire.lootItem, List.append_assoc]
  exact (reads_u64 _).recovers.bind <| (reads_u64 _).recovers.bind <| (recovers_vec _).map _

theorem recovers_tuning (t : Tuning) (hfit : t.retirementAfter.CarryFits) :
    Recovers tuning t.carried (Wire.tuning t) := by
  unfold tuning
  rw [Wire.tuning]
  simp only [List.append_assoc]
  exact (reads_f64 _).recovers.bind <| (reads_u64 _).recovers.bind <|
    (reads_duration hfit).recovers.bind <| (reads_bool _).recovers.map _

theorem recovers_sessionMeta (m : SessionMeta) (hfit : m.tuning.retirementAfter.CarryFits) :
    Recovers sessionMeta m.carried (Wire.sessionMeta m) := by
  unfold sessionMeta
  rw [Wire.sessionMeta]
  simp only [List.append_assoc]
  exact (reads_u64 _).recovers.bind <| (recovers_text _).bind <| (reads_u64 _).recovers.bind <|
    (reads_u64 _).recovers.bind <| (reads_u64 _).recovers.bind <| (reads_u64 _).recovers.bind <|
    (recovers_tuning _ hfit).map _

theorem recovers_sessionRecord (r : SessionRecord) (hfit : r.header.tuning.retirementAfter.CarryFits) :
    Recovers sessionRecord r.carried (Wire.sessionRecord r) := by
  unfold sessionRecord
  rw [Wire.sessionRecord, List.append_assoc]
  exact (recovers_seq (fun d _ => recovers_dogRecord d) (fun d _ => dogRecord_ne_nil d)).bind <|
    (recovers_seq (fun l _ => recovers_lootItem l) (fun l _ => lootItem_ne_nil l)).bind <|
    (recovers_sessionMeta _ hfit).map _

theorem recovers_binding (b : Binding) : Recovers binding b (Wire.binding b) := by
  unfold binding
  rw [Wire.binding, List.append_assoc]
  exact (recovers_text _).bind <| (reads_u64 _).recovers.bind <| (reads_u64 _).recovers.map _

/-- A snapshot is read back with its retirement times carried, as long as their seconds then
fit their word. -/
theorem recovers_snapshot_carried (s : WorldSnapshot)
    (hfit : ∀ r ∈ s.sessions, r.header.tuning.retirementAfter.CarryFits) :
    Recovers snapshot s.carried (Wire.snapshot s) := by
  unfold snapshot
  rw [Wire.snapshot, List.append_assoc]
  exact (recovers_seq_map (fun r hr => recovers_sessionRecord r (hfit r hr))
      (fun r _ => sessionRecord_ne_nil r)).bind <|
    (recovers_seq (fun b _ => recovers_binding b) (fun b _ => binding_ne_nil b)).bind <|
    (reads_u64 _).recovers.map _

theorem recovers_snapshot (s : WorldSnapshot)
    (hd : ∀ r ∈ s.sessions, r.header.tuning.retirementAfter.nanos.toNat < Duration.nanosPerSec) :
    Recovers snapshot s (Wire.snapshot s) :=
  (recovers_snapshot_carried s fun r hr => Duration.carryFits_of_lt (hd r hr)).congr
    (WorldSnapshot.carried_eq_self hd) rfl

end Reader

end RoadFetch.Wire

namespace RoadFetch

open Wire

/-- An envelope is read from exactly its bytes whatever its four magic bytes, its two version
bytes and its 32 digest bytes, as long as the payload's length fits its word. -/
theorem Envelope.parts_exactly {m v d q : List UInt8} (hm : m.length = 4) (hv : v.length = 2)
    (hd : d.length = 32) (hq : q.length < 2 ^ 64) :
    ReadsExactly Envelope.parts ⟨m, (Bytes.ofLe v).toUInt16, d, q⟩ (m ++ v ++ d ++ Wire.bytes q) := by
  unfold Envelope.parts
  simp only [List.append_assoc]
  exact (Reader.exactly_take hm).bind <| (Reader.exactly_u16 hv).bind <|
    (Reader.exactly_take hd).bind <| (Reader.exactly_byteSeq hq).map _

theorem Envelope.ofLe_version : (Bytes.ofLe (Wire.u16 Envelope.version)).toUInt16 = Envelope.version := by
  decide

theorem Envelope.length_digest (p : List UInt8) : (Envelope.digest p).length = 32 := by
  simp [Envelope.digest, Sha256.digestTagged, Sha256.digest, Utf8.toList_eq_data]

section Digest

variable {digest : List UInt8 → List UInt8}

theorem openPayload_sealPayload {payload : List UInt8} (hlen : (digest payload).length = 32)
    (hp : payload.length < 2 ^ 64) : openPayload digest (sealPayload digest payload) = .ok payload := by
  unfold openPayload sealPayload
  rw [(Envelope.parts_exactly (v := Wire.u16 Envelope.version) rfl (Bytes.length_le 2 _) hlen hp).reads.run_eq]
  simp [Envelope.ofLe_version]

/-- Decoding a sealed snapshot gives the snapshot back, for any digest function of 32 bytes,
any snapshot whose payload's length fits a 64-bit word, and durations whose nanoseconds stay
below a second. -/
theorem WorldSnapshot.decodeWith_encodeWith (hlen : ∀ p, (digest p).length = 32) (s : WorldSnapshot)
    (hfit : (Wire.snapshot s).length < 2 ^ 64)
    (hdur : ∀ r ∈ s.sessions, r.header.tuning.retirementAfter.nanos.toNat < Duration.nanosPerSec) :
    WorldSnapshot.decodeWith digest (WorldSnapshot.encodeWith digest s) = .ok s := by
  have hread := (Reader.recovers_snapshot s hdur hfit).run_eq
  simp only [WorldSnapshot.decodeWith, WorldSnapshot.encodeWith, openPayload_sealPayload (hlen _) hfit,
    bind, Except.bind, hread]
  rfl

theorem WorldSnapshot.one_session_round_trip :
    WorldSnapshot.decode (WorldSnapshot.encode ⟨[⟨[], [], ⟨1, "", 0, 0, (1, 2), Tuning.default⟩⟩], [], 2⟩) =
      .ok ⟨[⟨[], [], ⟨1, "", 0, 0, (1, 2), Tuning.default⟩⟩], [], 2⟩ :=
  WorldSnapshot.decodeWith_encodeWith Envelope.length_digest _
    (by simp [Wire.snapshot, Wire.seq, Wire.sessionRecord, Wire.sessionMeta, Wire.tuning, Wire.text,
      Wire.bytes, Wire.duration, Wire.f64, Wire.bool, Wire.u32])
    (by decide)

end Digest

end RoadFetch
