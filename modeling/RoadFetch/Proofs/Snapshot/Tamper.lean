import RoadFetch.Proofs.Snapshot.Codec
import Mathlib

/-! # Tampering with a sealed snapshot is detected

Opening reads the envelope first and checks the magic, the version and the digest after, in that
order. So, whatever the digest function, every proper prefix of a sealed payload runs out of
input while the envelope is read, and a changed byte of the magic or of the version is reported as
such. A changed digest byte never matches. A changed payload byte, or a changed length that cuts
the payload short, is caught by the digest as long as no other payload has the sealed payload's
digest; a changed length that points past the end runs out of input.
-/

namespace RoadFetch

open Wire

/-- Opening `e` cut short, or with one byte changed, fails, and the error says where the change
is. -/
structure TamperEvident {α : Type} (decode : List UInt8 → Except PersistenceError α) (e : List UInt8) :
    Prop where
  /-- Every proper prefix runs out of input while the envelope is read. -/
  cut : ∀ k < e.length, decode (e.take k) = .error (.corrupt (.envelope .unexpectedEnd))
  /-- A changed magic byte is bad magic. -/
  magic : ∀ i (hi : i < e.length) b, b ≠ e[i] → i < 4 → decode (e.set i b) = .error (.corrupt .badMagic)
  /-- A changed version byte gives the version the two bytes now spell, which is never 1. -/
  version : ∀ i (hi : i < e.length) b, b ≠ e[i] → 4 ≤ i → i < 6 →
    ∃ v, v ≠ 1 ∧ decode (e.set i b) = .error (.unsupportedVersion v)
  /-- Any other changed byte leaves a digest that does not match, or a length past the end. -/
  rest : ∀ i (hi : i < e.length) b, b ≠ e[i] → 6 ≤ i →
    decode (e.set i b) = .error (.corrupt .digestMismatch) ∨
      decode (e.set i b) = .error (.corrupt (.envelope .unexpectedEnd))

section Open

variable {digest : List UInt8 → List UInt8}

/-- Opening an envelope seen as its five regions: magic, version, digest, length, and what
follows the length. -/
theorem openPayload_regions {m v d l q : List UInt8} (hm : m.length = 4) (hv : v.length = 2)
    (hd : d.length = 32) (hl : l.length = 8) :
    openPayload digest (m ++ v ++ d ++ (l ++ q)) =
      if q.length < Bytes.ofLe l then .error (.corrupt (.envelope .unexpectedEnd))
      else if m ≠ Envelope.magic then .error (.corrupt .badMagic)
      else if (Bytes.ofLe v).toUInt16 ≠ Envelope.version then
        .error (.unsupportedVersion (Bytes.ofLe v).toUInt16)
      else if digest (q.take (Bytes.ofLe l)) ≠ d then .error (.corrupt .digestMismatch)
      else .ok (q.take (Bytes.ofLe l)) := by
  have hn : Bytes.ofLe l < 2 ^ 64 := by simpa [hl] using Bytes.ofLe_lt l
  have hword := len_ofLe hl
  have hhead : (m ++ v ++ d ++ l).length = 46 := by simp [hm, hv, hd, hl]
  by_cases hshort : q.length < Bytes.ofLe l
  · -- the bytes are a proper prefix of an envelope whose payload is padded to its length
    let pad := List.replicate (Bytes.ofLe l - q.length) (0 : UInt8)
    have hpad : (q ++ pad).length = Bytes.ofLe l := by simp [pad]; omega
    have hfull := Envelope.parts_exactly (q := q ++ pad) hm hv hd (by omega)
    have hcut : (m ++ v ++ d ++ Wire.bytes (q ++ pad)).take (46 + q.length) = m ++ v ++ d ++ (l ++ q) := by
      have hre : m ++ v ++ d ++ Wire.bytes (q ++ pad) = (m ++ v ++ d ++ l) ++ (q ++ pad) := by
        rw [Wire.bytes, hpad, hword]
        simp
      rw [hre, List.take_append, List.take_of_length_le (by omega), hhead, Nat.add_sub_cancel_left,
        List.take_left' rfl]
      simp
    have hrun := hfull.short (46 + q.length)
      (by simp only [Wire.bytes, List.length_append, hm, hv, hd, length_len, hpad]; omega)
    simp only [openPayload, ← hcut, hrun, if_pos hshort]
  · -- the payload is the first `ofLe l` bytes of `q`, and the rest is left over
    have hlen : (q.take (Bytes.ofLe l)).length = Bytes.ofLe l := by simp; omega
    have hsplit : m ++ v ++ d ++ (l ++ q) =
        m ++ v ++ d ++ Wire.bytes (q.take (Bytes.ofLe l)) ++ q.drop (Bytes.ofLe l) := by
      rw [Wire.bytes, hlen, hword]
      simp
    have hrun := (Envelope.parts_exactly (q := q.take (Bytes.ofLe l)) hm hv hd (by omega)).reads
      (q.drop (Bytes.ofLe l))
    simp only [openPayload, hsplit, hrun, if_neg hshort]
    simp

theorem set_ne_self {e : List UInt8} {i : Nat} (hi : i < e.length) {b : UInt8} (hb : b ≠ e[i]) :
    e.set i b ≠ e := by
  intro h
  have h' := congrArg (·[i]?) h
  simp only [List.getElem?_set_self hi, List.getElem?_eq_getElem hi, Option.some.injEq] at h'
  exact hb h'

section Sealed

variable {p : List UInt8}

theorem sealPayload_regions :
    sealPayload digest p = Envelope.magic ++ Wire.u16 Envelope.version ++ digest p ++ (Wire.len p.length ++ p) :=
  rfl

theorem length_head (hlen : (digest p).length = 32) :
    (Envelope.magic ++ Wire.u16 Envelope.version ++ digest p).length = 38 := by
  simp [hlen, Envelope.magic]

variable (hlen : (digest p).length = 32) (hp : p.length < 2 ^ 64)
include hlen hp

theorem openPayload_take_sealPayload {k : Nat} (hk : k < (sealPayload digest p).length) :
    openPayload digest ((sealPayload digest p).take k) = .error (.corrupt (.envelope .unexpectedEnd)) := by
  have hrun := (Envelope.parts_exactly (v := Wire.u16 Envelope.version) rfl (length_u16 _) hlen hp).short
    k hk
  simp only [openPayload, sealPayload] at hrun ⊢
  rw [hrun]

variable {i : Nat} {b : UInt8} (hne : (sealPayload digest p).set i b ≠ sealPayload digest p)
include hne

theorem openPayload_set_magic (hi : i < 4) :
    openPayload digest ((sealPayload digest p).set i b) = .error (.corrupt .badMagic) := by
  have hset : (sealPayload digest p).set i b =
      Envelope.magic.set i b ++ Wire.u16 Envelope.version ++ digest p ++ (Wire.len p.length ++ p) := by
    rw [sealPayload_regions, List.set_append_left _ _ (by rw [length_head hlen]; omega),
      List.set_append_left _ _ (by simp [Envelope.magic]; omega),
      List.set_append_left _ _ (by simp [Envelope.magic]; omega)]
  have hm : Envelope.magic.set i b ≠ Envelope.magic := fun h => hne (by rw [hset, h]; rfl)
  rw [hset, openPayload_regions (by simp [Envelope.magic]) (length_u16 _) hlen (length_len _)]
  simp [hm, ofLe_len hp]

theorem openPayload_set_version (hi4 : 4 ≤ i) (hi6 : i < 6) :
    ∃ v, v ≠ Envelope.version ∧
      openPayload digest ((sealPayload digest p).set i b) = .error (.unsupportedVersion v) := by
  have hset : (sealPayload digest p).set i b =
      Envelope.magic ++ (Wire.u16 Envelope.version).set (i - 4) b ++ digest p ++
        (Wire.len p.length ++ p) := by
    rw [sealPayload_regions, List.set_append_left _ _ (by rw [length_head hlen]; omega),
      List.set_append_left _ _ (by simp [Envelope.magic]; omega),
      List.set_append_right _ _ (by simp [Envelope.magic]; omega)]
    rfl
  set v := (Wire.u16 Envelope.version).set (i - 4) b
  have hvlen : v.length = 2 := by simp [v]
  have hv : v ≠ Wire.u16 Envelope.version := fun h => hne (by rw [hset, h]; rfl)
  -- two bytes spell a number below `2 ^ 16`, so the word they are read as is that number
  have hw : (Bytes.ofLe v).toUInt16 ≠ Envelope.version := by
    intro h
    have hlt : Bytes.ofLe v < 2 ^ 16 := by simpa [hvlen] using Bytes.ofLe_lt v
    apply hv (Bytes.eq_of_ofLe_eq (by simp [hvlen]) _)
    calc Bytes.ofLe v = (Bytes.ofLe v).toUInt16.toNat := by
          rw [Nat.toUInt16_eq, UInt16.toNat_ofNat', Nat.mod_eq_of_lt hlt]
      _ = Bytes.ofLe (Wire.u16 Envelope.version) := by rw [h]; decide
  refine ⟨_, hw, ?_⟩
  rw [hset, openPayload_regions rfl hvlen hlen (length_len _)]
  simp [hw, ofLe_len hp]

theorem openPayload_set_digest (hi6 : 6 ≤ i) (hi38 : i < 38) :
    openPayload digest ((sealPayload digest p).set i b) = .error (.corrupt .digestMismatch) := by
  have hset : (sealPayload digest p).set i b =
      Envelope.magic ++ Wire.u16 Envelope.version ++ (digest p).set (i - 6) b ++
        (Wire.len p.length ++ p) := by
    rw [sealPayload_regions, List.set_append_left _ _ (by rw [length_head hlen]; omega),
      List.set_append_right _ _ (by simp [Envelope.magic]; omega)]
    rfl
  set d := (digest p).set (i - 6) b
  have hd : d ≠ digest p := fun h => hne (by rw [hset, h]; rfl)
  rw [hset, openPayload_regions rfl (length_u16 _) (by simp [d, hlen]) (length_len _)]
  simp [ofLe_len hp, Envelope.ofLe_version, Ne.symm hd]

variable (hcol : ∀ q, digest q = digest p → q = p)
include hcol

/-- A changed length byte makes the length point past the end, or cut the payload short, and a
shorter payload has another digest. -/
theorem openPayload_set_length (hi38 : 38 ≤ i) (hi46 : i < 46) :
    openPayload digest ((sealPayload digest p).set i b) = .error (.corrupt .digestMismatch) ∨
      openPayload digest ((sealPayload digest p).set i b) = .error (.corrupt (.envelope .unexpectedEnd)) := by
  have hset : (sealPayload digest p).set i b =
      Envelope.magic ++ Wire.u16 Envelope.version ++ digest p ++
        ((Wire.len p.length).set (i - 38) b ++ p) := by
    rw [sealPayload_regions, List.set_append_right _ _ (by rw [length_head hlen]; omega),
      List.set_append_left _ _ (by rw [length_head hlen]; simp; omega), length_head hlen]
  set l := (Wire.len p.length).set (i - 38) b
  have hl : l.length = 8 := by simp [l]
  have hl' : l ≠ Wire.len p.length := fun h => hne (by rw [hset, h]; rfl)
  have hN : Bytes.ofLe l ≠ p.length :=
    fun h => hl' (Bytes.eq_of_ofLe_eq (by simp [hl]) (by rw [h, ofLe_len hp]))
  rw [hset, openPayload_regions rfl (length_u16 _) hlen hl]
  by_cases hshort : p.length < Bytes.ofLe l
  · exact .inr (by simp [hshort])
  · have hcut : p.take (Bytes.ofLe l) ≠ p := fun h => hN (by
      have h' := congrArg List.length h
      simp only [List.length_take] at h'
      omega)
    have hdig : digest (p.take (Bytes.ofLe l)) ≠ digest p := fun h => hcut (hcol _ h)
    exact .inl (by simp [hshort, Envelope.ofLe_version, hdig])

theorem openPayload_set_payload (hi46 : 46 ≤ i) :
    openPayload digest ((sealPayload digest p).set i b) = .error (.corrupt .digestMismatch) := by
  have hset : (sealPayload digest p).set i b =
      Envelope.magic ++ Wire.u16 Envelope.version ++ digest p ++
        (Wire.len p.length ++ p.set (i - 46) b) := by
    rw [sealPayload_regions, List.set_append_right _ _ (by rw [length_head hlen]; omega),
      List.set_append_right _ _ (by rw [length_head hlen]; simp; omega), length_head hlen,
      length_len]
    rfl
  set q := p.set (i - 46) b
  have hq : q ≠ p := fun h => hne (by rw [hset, h]; rfl)
  have hqlen : q.length = p.length := List.length_set
  have hdig : digest q ≠ digest p := fun h => hq (hcol _ h)
  have hN : Bytes.ofLe (Wire.len p.length) = q.length := by rw [ofLe_len hp, hqlen]
  rw [hset, openPayload_regions rfl (length_u16 _) hlen (length_len _)]
  simp [hN, Envelope.ofLe_version, hdig]

end Sealed

theorem sealPayload_tamperEvident {p : List UInt8} (hlen : (digest p).length = 32) (hp : p.length < 2 ^ 64)
    (hcol : ∀ q, digest q = digest p → q = p) :
    TamperEvident (openPayload digest) (sealPayload digest p) where
  cut _ hk := openPayload_take_sealPayload hlen hp hk
  magic _ hi _ hb h4 := openPayload_set_magic hlen hp (set_ne_self hi hb) h4
  version _ hi _ hb h4 h6 := openPayload_set_version hlen hp (set_ne_self hi hb) h4 h6
  rest i hi _ hb h6 := by
    -- the byte is in the digest, in the length, or in the payload
    rcases lt_or_ge i 38 with h38 | h38
    · exact .inl (openPayload_set_digest hlen hp (set_ne_self hi hb) h6 h38)
    rcases lt_or_ge i 46 with h46 | h46
    · exact openPayload_set_length hlen hp (set_ne_self hi hb) hcol h38 h46
    · exact .inl (openPayload_set_payload hlen hp (set_ne_self hi hb) hcol h46)

end Open

theorem TamperEvident.of_errors {α β : Type} {dec : List UInt8 → Except PersistenceError α}
    {dec' : List UInt8 → Except PersistenceError β} {e : List UInt8} (h : TamperEvident dec e)
    (hpass : ∀ bs err, dec bs = .error err → dec' bs = .error err) : TamperEvident dec' e where
  cut k hk := hpass _ _ (h.cut k hk)
  magic i hi b hb h4 := hpass _ _ (h.magic i hi b hb h4)
  version i hi b hb h4 h6 := by
    obtain ⟨v, hv, he⟩ := h.version i hi b hb h4 h6
    exact ⟨v, hv, hpass _ _ he⟩
  rest i hi b hb h6 := (h.rest i hi b hb h6).imp (hpass _ _) (hpass _ _)

theorem WorldSnapshot.decodeWith_of_openPayload {digest : List UInt8 → List UInt8} {bs : List UInt8}
    {err : PersistenceError} (h : openPayload digest bs = .error err) :
    WorldSnapshot.decodeWith digest bs = .error err := by
  simp only [WorldSnapshot.decodeWith, h]
  rfl

/-- A sealed snapshot cut short or with one byte changed is never decoded: the error names the
magic or the version when the byte is there, and is a corruption otherwise, for any digest
function of 32 bytes under which no other payload has the snapshot's digest. -/
theorem WorldSnapshot.encodeWith_tamperEvident {digest : List UInt8 → List UInt8}
    (hlen : ∀ q, (digest q).length = 32) (s : WorldSnapshot) (hfit : (Wire.snapshot s).length < 2 ^ 64)
    (hcol : ∀ q, digest q = digest (Wire.snapshot s) → q = Wire.snapshot s) :
    TamperEvident (WorldSnapshot.decodeWith digest) (WorldSnapshot.encodeWith digest s) :=
  (sealPayload_tamperEvident (hlen _) hfit hcol).of_errors fun _ _ => WorldSnapshot.decodeWith_of_openPayload

/-- A digest that marks the empty world's payload apart from every other payload. -/
theorem WorldSnapshot.empty_tamperEvident :
    TamperEvident
      (WorldSnapshot.decodeWith fun q => if q = Wire.snapshot ⟨[], [], 0⟩ then List.replicate 32 0 else List.replicate 32 1)
      (WorldSnapshot.encodeWith (fun q => if q = Wire.snapshot ⟨[], [], 0⟩ then List.replicate 32 0 else List.replicate 32 1)
        ⟨[], [], 0⟩) :=
  WorldSnapshot.encodeWith_tamperEvident (fun q => by split <;> rfl) _
    (by simp [Wire.snapshot, Wire.seq])
    (fun q hq => by
      by_contra hne
      simp [hne] at hq)

end RoadFetch
