import RoadFetch.Snapshot.Store
import RoadFetch.Proofs.Snapshot.Canonical

/-!
# Saving is atomic

A disk is a map from paths to contents, together with how each coming operation ends. Creating,
syncing and renaming a file each take full effect or fail with none; a write that fails may
leave any prefix of its bytes behind; a rename replaces its target in one step; reading a path
gives its contents, or fails as not found when there is no file.

On that disk the store's operations obey a small Hoare logic (`Disk.Triple`): one triple for each
file operation, chained through a save by `Triple.bind`. Main statement
(`SnapshotStore.save_atomic`): whatever the disk does, a save that goes through leaves the sealed
snapshot in the file and a load gives the captured world back, a save that fails leaves the file
as it was, and a load finds no snapshot exactly when there is no file.
-/

namespace RoadFetch

/-- How the disk ends one operation: it carries it out, or it fails for a reason, a write
having put down its first `written` bytes. -/
inductive Outcome where
  | done
  | fail (reason : String) (written : Nat)
  deriving Repr, DecidableEq

/-- A file system: what each path holds, and how the operations still to come end. Once those
have run out, every operation is carried out. -/
structure Disk where
  files : String → Option (List UInt8)
  outcomes : List Outcome

namespace Disk

/-- How the next operation ends. -/
def outcome (d : Disk) : Outcome := d.outcomes.headD .done

/-- The disk once the next operation has ended. -/
def spend (d : Disk) : Disk := { d with outcomes := d.outcomes.tail }

/-- The disk with `path` holding `c`, or nothing. -/
def put (d : Disk) (path : String) (c : Option (List UInt8)) : Disk :=
  { d with files := fun q => if q = path then c else d.files q }

/-- What a file holds, nothing when there is no file. -/
def contents (d : Disk) (path : String) : List UInt8 := (d.files path).getD []

def notFound : IoError := .notFound "No such file or directory (os error 2)"

def create (path : String) : StateM Disk (Except IoError String) := fun d =>
  match d.outcome with
  | .done => (.ok path, (d.put path (some [])).spend)
  | .fail r _ => (.error (.other r), d.spend)

/-- Appends to a file; a write that fails leaves a prefix of its bytes behind. -/
def writeAll (path : String) (bytes : List UInt8) : StateM Disk (Except IoError Unit) := fun d =>
  match d.outcome with
  | .done => (.ok (), (d.put path (some (d.contents path ++ bytes))).spend)
  | .fail r k => (.error (.other r), (d.put path (some (d.contents path ++ bytes.take k))).spend)

/-- The files are what is on the disk already, so a sync changes none of them. -/
def syncAll (_ : String) : StateM Disk (Except IoError Unit) := fun d =>
  match d.outcome with
  | .done => (.ok (), d.spend)
  | .fail r _ => (.error (.other r), d.spend)

/-- Moves a file over another in one step. -/
def rename (src dst : String) : StateM Disk (Except IoError Unit) := fun d =>
  match d.outcome, d.files src with
  | .done, some c => (.ok (), ((d.put src none).put dst (some c)).spend)
  | .done, none => (.error notFound, d.spend)
  | .fail r _, _ => (.error (.other r), d.spend)

def read (path : String) : StateM Disk (Except IoError (List UInt8)) := fun d =>
  match d.files path with
  | some c => (.ok c, d)
  | none => (.error notFound, d)

/-- The disk's file operations; an open file is named by its path. -/
def ops : FileOps (StateM Disk) String := ⟨create, writeAll, syncAll, rename, read⟩

@[simp] theorem spend_files (d : Disk) : d.spend.files = d.files := rfl

@[simp] theorem put_files (d : Disk) (p q : String) (c : Option (List UInt8)) :
    (d.put p c).files q = if q = p then c else d.files q := rfl

variable {α β : Type}

/-! ### Running the store on a disk -/

/-- Runs a store operation on a disk: what it answers, and the disk after it. -/
def perform (act : ExceptT PersistenceError (StateM Disk) α) (d : Disk) :
    Except PersistenceError α × Disk :=
  (act.run.run d).run

theorem perform_bind (x : ExceptT PersistenceError (StateM Disk) α)
    (f : α → ExceptT PersistenceError (StateM Disk) β) (d : Disk) :
    perform (x >>= f) d = match perform x d with
      | (.ok a, d') => perform (f a) d'
      | (.error e, d') => (.error e, d') := by
  simp only [perform, ExceptT.run_bind, StateT.run_bind]
  show Id.run (x.run.run d >>= _) = _
  rw [Id.run_bind]
  rcases (x.run.run d).run with ⟨_ | a, d'⟩ <;> rfl

theorem perform_ioAt (path : String) (act : StateM Disk (Except IoError α)) (d : Disk) :
    perform (SnapshotStore.ioAt path act) d =
      ((act d).1.mapError fun e => .io path e.reason, (act d).2) := rfl

/-- From every disk where `pre` holds, `act` answers `a` on a disk where `ok a` holds, or fails
on one where `err` holds. -/
def Triple (pre : Disk → Prop) (act : ExceptT PersistenceError (StateM Disk) α)
    (ok : α → Disk → Prop) (err : Disk → Prop) : Prop :=
  ∀ d, pre d → match perform act d with
    | (.ok a, d') => ok a d'
    | (.error _, d') => err d'

namespace Triple

variable {pre : Disk → Prop} {x : ExceptT PersistenceError (StateM Disk) α}
  {ok : α → Disk → Prop} {err : Disk → Prop}

theorem bind {f : α → ExceptT PersistenceError (StateM Disk) β} {mid : α → Disk → Prop}
    {ok : β → Disk → Prop} (hx : Triple pre x mid err) (hf : ∀ a, Triple (mid a) (f a) ok err) :
    Triple pre (x >>= f) ok err := by
  intro d hd
  have h := hx d hd
  rw [perform_bind]
  rcases hp : perform x d with ⟨_ | a, d'⟩ <;> rw [hp] at h
  · exact h
  · exact hf a d' h

theorem weaken {ok' : α → Disk → Prop} {err' : Disk → Prop} (h : Triple pre x ok err)
    (hok : ∀ a d, ok a d → ok' a d) (herr : ∀ d, err d → err' d) : Triple pre x ok' err' := by
  intro d hd
  have h := h d hd
  rcases hp : perform x d with ⟨_ | a, d'⟩ <;> rw [hp] at h
  · exact herr d' h
  · exact hok a d' h

/-- A fact about the answer to come may be assumed before the operation. -/
theorem assume {φ : Prop} (h : φ → Triple pre x ok err) : Triple (fun d => φ ∧ pre d) x ok err :=
  fun d ⟨hφ, hd⟩ => h hφ d hd

end Triple

/-! ### One triple for each file operation -/

section Steps

variable {p q : String} {c₀ : Option (List UInt8)}

/-- Creating `p` leaves it empty, and every other file as it was. -/
theorem create_triple (reported : String) (hq : q ≠ p) :
    Triple (fun d => d.files q = c₀) (SnapshotStore.ioAt reported (ops.create p))
      (fun f d => f = p ∧ d.files p = some [] ∧ d.files q = c₀) (fun d => d.files q = c₀) := by
  intro d hd
  cases ho : d.outcome <;> simp [perform_ioAt, ops, create, Except.mapError, ho, hq, hd]

/-- A write appends to its file, and leaves every other file as it was, whether it goes through
or fails part way. -/
theorem writeAll_triple (reported : String) {c : List UInt8} (bytes : List UInt8) (hq : q ≠ p) :
    Triple (fun d => d.files p = some c ∧ d.files q = c₀) (SnapshotStore.ioAt reported (ops.writeAll p bytes))
      (fun _ d => d.files p = some (c ++ bytes) ∧ d.files q = c₀) (fun d => d.files q = c₀) := by
  rintro d ⟨hp, hd⟩
  cases ho : d.outcome <;> simp [perform_ioAt, ops, writeAll, contents, Except.mapError, ho, hq, hp, hd]

/-- A sync changes no file. -/
theorem syncAll_triple (reported h : String) {pre : Disk → Prop} (hpre : ∀ d, pre d → pre d.spend) :
    Triple pre (SnapshotStore.ioAt reported (ops.syncAll h)) (fun _ => pre) pre := by
  intro d hd
  cases ho : d.outcome <;> simp [perform_ioAt, ops, syncAll, Except.mapError, ho, hpre d hd]

/-- A rename that goes through moves the file over its target; one that fails changes nothing. -/
theorem rename_triple (reported : String) {c : List UInt8} (hne : p ≠ q) :
    Triple (fun d => d.files p = some c ∧ d.files q = c₀) (SnapshotStore.ioAt reported (ops.rename p q))
      (fun _ d => d.files q = some c ∧ d.files p = none) (fun d => d.files q = c₀) := by
  rintro d ⟨hp, hd⟩
  cases ho : d.outcome <;> simp [perform_ioAt, ops, rename, Except.mapError, ho, hne, hp, hd]

end Steps

end Disk

/-! ### Saving and loading -/

theorem SnapshotStore.path_ne_tempPath (st : SnapshotStore) : st.path ≠ st.tempPath := by
  intro h
  have hlen := congrArg String.length h
  simp [SnapshotStore.tempPath] at hlen

open Disk in
/-- Whatever the disk does, a save of sealed bytes that goes through leaves them in the snapshot
file and no temporary file behind, and one that fails leaves the snapshot file as it was. -/
theorem SnapshotStore.saveBytes_triple (st : SnapshotStore) (bytes : List UInt8) (c₀ : Option (List UInt8)) :
    Triple (fun d => d.files st.path = c₀) (st.saveBytes ops bytes)
      (fun _ d => d.files st.path = some bytes ∧ d.files st.tempPath = none)
      (fun d => d.files st.path = c₀) := by
  have hne := st.path_ne_tempPath
  refine (create_triple st.tempPath hne).bind fun file => Triple.assume fun hfile => ?_
  subst hfile
  refine (writeAll_triple st.tempPath bytes hne).bind fun _ => ?_
  refine ((syncAll_triple st.tempPath st.tempPath fun _ h => h).weaken (fun _ _ h => h)
    fun _ h => h.2).bind fun _ => ?_
  exact (rename_triple st.path hne.symm).weaken (fun _ _ h => by simpa using h) fun _ h => h

open Disk in
/-- Loading reads the snapshot file and decodes it, finds nothing when there is no file, and
changes no file. -/
theorem SnapshotStore.perform_load (st : SnapshotStore) (d : Disk) :
    perform (st.load ops) d =
      ((match d.files st.path with
        | some bytes => (WorldSnapshot.decode bytes).map some
        | none => .ok none), d) := by
  have hbytes : perform (st.loadBytes ops) d = (.ok (d.files st.path), d) := by
    simp only [SnapshotStore.loadBytes, perform, ExceptT.run_mk, StateT.run_bind]
    cases h : d.files st.path <;> simp only [ops, Disk.read, StateT.run, h] <;> rfl
  simp only [SnapshotStore.load, perform_bind, hbytes]
  rcases d.files st.path with _ | bytes
  · rfl
  · dsimp only
    cases WorldSnapshot.decode bytes <;> rfl

open Disk in
/-- A load finds no snapshot exactly when there is no file: a file that is there is decoded, and
either gives a snapshot or fails. -/
theorem SnapshotStore.load_eq_none_iff (st : SnapshotStore) (d : Disk) :
    (perform (st.load ops) d).1 = .ok none ↔ d.files st.path = none := by
  rw [perform_load]
  cases h : d.files st.path with
  | none => simp
  | some bytes =>
    dsimp only
    cases WorldSnapshot.decode bytes <;> simp [Except.map]

/-- A sealed snapshot decodes to itself, when its payload's length fits its word and its
retirement times are proper durations. -/
theorem WorldSnapshot.decode_encode {s : WorldSnapshot} (hfit : (Wire.snapshot s).length < 2 ^ 64)
    (hdur : ∀ r ∈ s.sessions, r.header.tuning.retirementAfter.nanos.toNat < Duration.nanosPerSec) :
    WorldSnapshot.decode s.encode = .ok s := by
  let L : SealedLayout Envelope.digest s.encode :=
    ⟨s, [], [], fun r hr => Duration.carryFits_of_lt (hdur r hr), by simpa using hfit,
      by simp [WorldSnapshot.encode, WorldSnapshot.encodeWith]⟩
  rw [WorldSnapshot.decode, L.decodeWith_eq Envelope.length_digest]
  exact congrArg Except.ok (WorldSnapshot.carried_eq_self hdur)

open Disk in
theorem SnapshotStore.save_atomic (st : SnapshotStore) (g : World) (d : Disk)
    (hfit : (Wire.snapshot (WorldSnapshot.capture g)).length < 2 ^ 64)
    (hdur : ∀ s ∈ g.sessions, s.tuning.retirementAfter.nanos.toNat < Duration.nanosPerSec) :
    (∀ r d', perform (st.save ops g) d = (r, d') →
      (r = .ok () → d'.files st.path = some (WorldSnapshot.capture g).encode ∧
        perform (st.load ops) d' = (.ok (some (WorldSnapshot.capture g)), d')) ∧
      (∀ e, r = .error e → d'.files st.path = d.files st.path)) ∧
    ∀ d' : Disk, (perform (st.load ops) d').1 = .ok none ↔ d'.files st.path = none := by
  have hround : WorldSnapshot.decode (WorldSnapshot.capture g).encode = .ok (WorldSnapshot.capture g) := by
    refine WorldSnapshot.decode_encode hfit fun r hr => ?_
    obtain ⟨s, hs, rfl⟩ := List.mem_map.mp hr
    exact hdur s hs
  refine ⟨fun r d' hsave => ?_, st.load_eq_none_iff⟩
  -- a save is the save of the world's sealed bytes
  have h := st.saveBytes_triple (WorldSnapshot.capture g).encode (d.files st.path) d rfl
  rw [show st.saveBytes ops (WorldSnapshot.capture g).encode = st.save ops g from rfl, hsave] at h
  rcases r with e | ⟨⟩ <;> dsimp only at h
  · exact ⟨(fun h' => nomatch h'), fun _ _ => h⟩
  · refine ⟨fun _ => ⟨h.1, ?_⟩, fun _ h' => nomatch h'⟩
    rw [perform_load, h.1]
    simp [hround, Except.map]

open Disk in
/-- A save of the empty world over an older snapshot file, on a disk that fails the write after
two bytes. -/
theorem SnapshotStore.save_atomic_torn_write :
    let g : World := ⟨[], [], [], {}, {}, ⟨Tuning.default, SpawnConfig.default, 0⟩, none, 0, 0, ByteArray.empty⟩
    let st : SnapshotStore := ⟨"state.bin"⟩
    let d : Disk := ⟨fun p => if p = "state.bin" then some [1, 2, 3] else none,
      [.done, .fail "No space left on device" 2]⟩
    (Wire.snapshot (WorldSnapshot.capture g)).length < 2 ^ 64 ∧
      (∀ s ∈ g.sessions, s.tuning.retirementAfter.nanos.toNat < Duration.nanosPerSec) ∧
      (∀ r d', perform (st.save ops g) d = (r, d') →
        (r = .ok () → d'.files st.path = some (WorldSnapshot.capture g).encode ∧
          perform (st.load ops) d' = (.ok (some (WorldSnapshot.capture g)), d')) ∧
        (∀ e, r = .error e → d'.files st.path = d.files st.path)) ∧
      ∀ d' : Disk, (perform (st.load ops) d').1 = .ok none ↔ d'.files st.path = none :=
  have hfit : (Wire.snapshot (WorldSnapshot.capture
      ⟨[], [], [], {}, {}, ⟨Tuning.default, SpawnConfig.default, 0⟩, none, 0, 0, ByteArray.empty⟩)).length < 2 ^ 64 := by
    decide
  ⟨hfit, by simp, SnapshotStore.save_atomic _ _ _ hfit (by simp)⟩

end RoadFetch
