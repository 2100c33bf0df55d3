/-
  `checkpoints.py`: `FileCheckpointSink`, and what is left when its `publish` is cut short.

  A publication reaches the disk as a list of operations on one file, `fileOps`: create it, append
  the bytes in order, sync, close.

  Structure of the proof:
  1. `foldl_take_fileOps`: cut after any number of its operations, a publication has bound the path
     to a prefix of the body or to nothing; `publish_files` says it of an `Attempt`, which also
     tells where the host stopped it;
  2. an attempt never touches a path that was bound (`publish_preserves`);
  3. **the crux**, `findSome_written`: so the first attempt that gets as far as creating the file
     decides for all later ones (`attempts_destination`, by induction on the attempts);
  4. a later one succeeds exactly if that attempt wrote everything (`publishes_attempts_iff`), which
     is `fileRecovery_iff`.
-/
import AEControl.Lib.CreateOnly
import AEControl.Evidence.Publication
import AEControl.Evidence.Ledger

namespace AEControl.Evidence

open CreateOnly

/-! ## The file system -/

/-- The parts of an absolute path. -/
abbrev Path := List String

/-- `str(path)`. -/
def pathText (p : Path) : String := "/" ++ "/".intercalate p

/-- What the regular files hold. -/
abbrev Files := Path → Option Bytes

/-- The host, apart from the files: what `Path.resolve` makes of a path, and the `OSError`s of
    `mkdir` and of `os.open` on a path that holds no file. -/
structure Host where
  resolve : Path → Path
  mkdir : Path → Except String Unit
  openExclusive : Path → Except String Unit

/-- What an open file undergoes. -/
inductive FileOp where
  | create
  | append (b : UInt8)
  | fsync
  | close
  deriving DecidableEq

/-- An operation on the file at `p`. -/
def FileOp.apply (p : Path) (files : Files) : FileOp → Files
  | create => Function.update files p (some [])
  | append b => Function.update files p ((files p).map (· ++ [b]))
  | fsync | close => files

/-- `os.open`, `stream.write(body)` with the flush, `os.fsync` and the end of the `with` block. -/
def fileOps (body : Bytes) : List FileOp :=
  .create :: (body.map FileOp.append ++ [.fsync, .close])

/-! ## The sink -/

/-- `FileCheckpointSink`. -/
structure FileCheckpointSink where
  root : Path

/-- `(self.root / object_key).resolve()`. -/
def FileCheckpointSink.path (host : Host) (sink : FileCheckpointSink) (objectKey : String) : Path :=
  host.resolve (sink.root ++ objectKey.splitOn "/")

/-- Where and what to write: the first lines of `publish`, up to `canonical_bytes()`. -/
def FileCheckpointSink.prepare (P : Platform) (host : Host) (sink : FileCheckpointSink)
    (checkpoint : SignedLedgerCheckpoint) : Except SinkError (String × Path × Bytes) := do
  let objectKey ← (checkpointObjectKey checkpoint).mapError .evidence
  let destination := sink.path host objectKey
  if ¬ sink.root <+: destination then
    .error (.publication "checkpoint path escapes the configured root")
  else
    (host.mkdir destination.dropLast).mapError .osError
    let text ← (canonicalJsonText P.toInterpreter (checkpoint.dump P)).mapError .evidence
    .ok (objectKey, destination, utf8 text)

/-- How far an attempt gets: to its end, or only past some operations on the file. -/
structure Attempt where
  now : Timestamp
  cut : Option ℕ

/-- The operations of an attempt that take place. -/
def Attempt.perform (a : Attempt) (ops : List FileOp) : List FileOp :=
  match a.cut with
  | none => ops
  | some n => ops.take n

/-- What comes of an attempt that would end with `result`. -/
def Attempt.finish (a : Attempt) (result : Except SinkError CheckpointPublication) :
    Except SinkError CheckpointPublication :=
  match a.cut with
  | none => result
  | some _ => .error .interrupted

/-- `FileCheckpointSink.publish`. -/
def FileCheckpointSink.publish (P : Platform) (host : Host) (sink : FileCheckpointSink)
    (checkpoint : SignedLedgerCheckpoint) (a : Attempt) (files : Files) :
    Except SinkError CheckpointPublication × Files :=
  match sink.prepare P host checkpoint with
  | .error e => (.error e, files)
  | .ok (objectKey, destination, body) =>
    let publication := CheckpointPublication.make checkpoint (pathText destination) objectKey
      (.utc a.now) [] 1 []
    match files destination with
    | some content =>
      if content ≠ body then
        (a.finish (.error (.publication ("checkpoint destination already contains different bytes: "
          ++ pathText destination))), files)
      else (a.finish publication, files)
    | none =>
      match host.openExclusive destination with
      | .error e => (.error (.osError e), files)
      | .ok () => (a.finish publication, (a.perform (fileOps body)).foldl (FileOp.apply destination)
          files)

/-- The files after some attempts to publish one checkpoint. -/
def FileCheckpointSink.attempts (P : Platform) (host : Host) (sink : FileCheckpointSink)
    (checkpoint : SignedLedgerCheckpoint) (files : Files) (attempts : List Attempt) : Files :=
  Runs.run (fun files a => (sink.publish P host checkpoint a files).2) files attempts

/-! ## What the operations leave -/

/-- Appending to a file that exists appends. -/
theorem foldl_append (p : Path) (content bytes : Bytes) (files : Files)
    (h : files p = some content) :
    (bytes.map FileOp.append).foldl (FileOp.apply p) files =
      Function.update files p (some (content ++ bytes)) := by
  induction bytes generalizing content files with
  | nil =>
    rw [List.append_nil, ← h]
    exact (Function.update_eq_self p files).symm
  | cons b bs ih =>
    have hstep : FileOp.apply p files (.append b) =
        Function.update files p (some (content ++ [b])) := by
      simp only [FileOp.apply, h, Option.map_some]
    rw [List.map_cons, List.foldl_cons, hstep,
      ih (content ++ [b]) _ (Function.update_self p _ files)]
    simp

/-- **Where the cut falls.**  The first operations of a publication bind a new path to a prefix of
    the body. -/
theorem foldl_take_fileOps (p : Path) (body : Bytes) (n : ℕ) {files : Files}
    (h : files p = none) :
    ((fileOps body).take (n + 1)).foldl (FileOp.apply p) files =
      create p (body.take n) files := by
  have hcreated : ∀ bytes : Bytes,
      (bytes.map FileOp.append).foldl (FileOp.apply p) (FileOp.apply p files .create) =
        create p bytes files := by
    intro bytes
    have hnew : FileOp.apply p files .create p = some [] := Function.update_self p _ files
    rw [foldl_append p [] bytes _ hnew, create_of_none h]
    simp [FileOp.apply]
  -- `fsync` and `close` change no file
  have hclosing : ∀ (k : ℕ) (g : Files),
      ([FileOp.fsync, .close].take k).foldl (FileOp.apply p) g = g
    | 0, _ | 1, _ | k + 2, _ => by simp [FileOp.apply]
  rw [fileOps, List.take_succ_cons, List.foldl_cons, List.take_append, List.foldl_append,
    hclosing, ← List.map_take, hcreated]

/-- All of them bind it to the body. -/
theorem foldl_fileOps (p : Path) (body : Bytes) {files : Files} (h : files p = none) :
    (fileOps body).foldl (FileOp.apply p) files = create p body files := by
  have hlen : (fileOps body).length ≤ body.length + 2 + 1 := by simp [fileOps]
  have hall := foldl_take_fileOps p body (body.length + 2) h
  rwa [List.take_of_length_le hlen, List.take_of_length_le (by omega)] at hall

/-- What an attempt leaves in a file that it creates, `none` if it does not get that far. -/
def Attempt.written (a : Attempt) (body : Bytes) : Option Bytes :=
  match a.cut with
  | none => some body
  | some 0 => none
  | some (n + 1) => some (body.take n)

/-- `written`, as the new files. -/
theorem foldl_perform (a : Attempt) (p : Path) (body : Bytes) {files : Files}
    (h : files p = none) :
    (a.perform (fileOps body)).foldl (FileOp.apply p) files =
      match a.written body with
      | none => files
      | some bytes => create p bytes files := by
  obtain ⟨now, _ | _ | n⟩ := a
  · exact foldl_fileOps p body h
  · rfl
  · exact foldl_take_fileOps p body n h

/-! ## One attempt -/

section

variable {P : Platform} {host : Host} {sink : FileCheckpointSink}
  {checkpoint : SignedLedgerCheckpoint} {objectKey : String} {destination : Path} {body : Bytes}

/-- What an attempt does to the files, once it knows where to write. -/
theorem publish_files
    (hprepare : sink.prepare P host checkpoint = .ok (objectKey, destination, body))
    (hopen : host.openExclusive destination = .ok ()) (a : Attempt) (files : Files) :
    (sink.publish P host checkpoint a files).2 =
      match a.written body with
      | none => files
      | some bytes => create destination bytes files := by
  unfold FileCheckpointSink.publish
  rw [hprepare]
  cases hfile : files destination with
  | some content =>
    have hkept : ∀ r : Except SinkError CheckpointPublication, (r, files).2 =
        match a.written body with
        | none => files
        | some bytes => create destination bytes files := by
      intro r
      cases a.written body with
      | none => rfl
      | some bytes => exact (create_of_some hfile bytes).symm
    simp only [hfile]
    split <;> exact hkept _
  | none =>
    simp only [hfile, hopen]
    exact foldl_perform a destination body hfile

/-- An attempt changes no file that exists, whatever it publishes. -/
theorem publish_preserves (P : Platform) (host : Host) (sink : FileCheckpointSink)
    (checkpoint : SignedLedgerCheckpoint) (a : Attempt) (files : Files) :
    Preserves files (sink.publish P host checkpoint a files).2 := by
  cases hprepare : sink.prepare P host checkpoint with
  | error e =>
    unfold FileCheckpointSink.publish
    rw [hprepare]
    exact Preserves.refl files
  | ok prepared =>
    obtain ⟨objectKey, destination, body⟩ := prepared
    cases hopen : host.openExclusive destination with
    | ok =>
      rw [publish_files hprepare hopen]
      cases a.written body with
      | none => exact Preserves.refl files
      | some bytes => exact preserves_create destination bytes files
    | error e =>
      unfold FileCheckpointSink.publish
      simp only [hprepare, hopen]
      split
      · split <;> exact Preserves.refl files
      · exact Preserves.refl files

/-- The host lets the sink write to `destination`, and the checkpoint has canonical bytes. -/
structure Reaches (host : Host) (sink : FileCheckpointSink) (checkpoint : SignedLedgerCheckpoint)
    (objectKey : String) (destination : Path) : Prop where
  key : checkpointObjectKey checkpoint = .ok objectKey
  path : destination = sink.path host objectKey
  inside : sink.root <+: destination
  mkdir : host.mkdir destination.dropLast = .ok ()
  printable : checkpoint.printable = true

theorem prepare_ok : sink.prepare P host checkpoint = .ok (objectKey, destination, body) ↔
    Reaches host sink checkpoint objectKey destination ∧ body = checkpoint.canonicalBytes P := by
  unfold FileCheckpointSink.prepare
  constructor
  · intro h
    obtain ⟨key, hkey, h⟩ := Raising.bind_ok h
    rw [Raising.mapError_ok] at hkey
    dsimp only at h
    split at h
    · cases h
    · rename_i hinside
      obtain ⟨_, hmkdir, h⟩ := Raising.bind_ok h
      obtain ⟨text, htext, h⟩ := Raising.bind_ok h
      rw [Raising.mapError_ok] at hmkdir
      rw [Raising.mapError_ok, canonicalJsonText_dump] at htext
      obtain ⟨rfl, rfl, rfl⟩ : key = objectKey ∧ sink.path host key = destination ∧
          utf8 text = body := by simpa using h
      split at htext
      · rename_i hprintable
        obtain rfl := Except.ok.inj htext
        exact ⟨⟨hkey, rfl, not_not.mp hinside, hmkdir, hprintable⟩, rfl⟩
      · cases htext
  · rintro ⟨⟨hkey, rfl, hinside, hmkdir, hprintable⟩, rfl⟩
    rw [hkey]
    show (if ¬ sink.root <+: sink.path host objectKey then _ else _) = _
    rw [if_neg (not_not.mpr hinside), hmkdir, canonicalJsonText_dump, if_pos hprintable]
    rfl

/-! ## Many attempts -/

/-- The attempt gets past `os.open`. -/
def Attempt.creates (a : Attempt) : Bool := a.cut ≠ some 0

/-- The attempt is cut, if at all, after the last byte. -/
def Attempt.WritesAll (body : Bytes) (a : Attempt) : Prop := ∀ n, a.cut = some n → body.length < n

/-- The first attempt that creates the file leaves the whole body or less. -/
theorem findSome_written (body : Bytes) (as : List Attempt) :
    (as.findSome? (Attempt.written · body) = none ∨
        as.findSome? (Attempt.written · body) = some body) ↔
      ∀ a ∈ as.find? Attempt.creates, a.WritesAll body := by
  induction as with
  | nil => simp
  | cons a as ih =>
    obtain ⟨now, _ | _ | n⟩ := a
    · simp [Attempt.written, Attempt.creates, Attempt.WritesAll]
    · simpa [Attempt.written, Attempt.creates] using ih
    · have hall : body.take n = body ↔ body.length < n + 1 := by
        rw [List.take_eq_self_iff]
        omega
      simp [Attempt.written, Attempt.creates, Attempt.WritesAll, hall]

theorem attempts_cons (a : Attempt) (as : List Attempt) (files : Files) :
    sink.attempts P host checkpoint files (a :: as) =
      sink.attempts P host checkpoint (sink.publish P host checkpoint a files).2 as :=
  Runs.run_cons files a as

theorem attempts_preserves (P : Platform) (host : Host) (sink : FileCheckpointSink)
    (checkpoint : SignedLedgerCheckpoint) (files : Files) (as : List Attempt) :
    Preserves files (sink.attempts P host checkpoint files as) :=
  run_preserves (fun s b => publish_preserves P host sink checkpoint b s) files as

/-- What the path holds after some attempts: the first to create the file decides. -/
theorem attempts_destination
    (hprepare : sink.prepare P host checkpoint = .ok (objectKey, destination, body))
    (hopen : host.openExclusive destination = .ok ()) {files : Files}
    (hnone : files destination = none) (as : List Attempt) :
    sink.attempts P host checkpoint files as destination =
      as.findSome? (Attempt.written · body) := by
  induction as generalizing files with
  | nil => exact hnone
  | cons a as ih =>
    have hstep := publish_files hprepare hopen a files
    rw [attempts_cons, hstep, List.findSome?_cons]
    cases hw : a.written body with
    | none => exact ih hnone
    | some bytes =>
      exact attempts_preserves P host sink checkpoint (create destination bytes files) as
        destination bytes
        (create_self_of_none hnone bytes)

/-- Without leave to create the file nothing appears. -/
theorem attempts_unopened
    (hprepare : sink.prepare P host checkpoint = .ok (objectKey, destination, body)) {e : String}
    (hopen : host.openExclusive destination = .error e) {files : Files}
    (hnone : files destination = none) (as : List Attempt) :
    sink.attempts P host checkpoint files as = files := by
  induction as with
  | nil => rfl
  | cons a as ih =>
    have hstep : (sink.publish P host checkpoint a files).2 = files := by
      unfold FileCheckpointSink.publish
      simp only [hprepare, hnone, hopen]
    rw [attempts_cons, hstep, ih]

end

/-! ## Recovery from interruption -/

/-- An attempt that is not cut returns a publication, and the file it names is the checkpoint. -/
def Publishes (P : Platform) (host : Host) (sink : FileCheckpointSink)
    (checkpoint : SignedLedgerCheckpoint) (now : Timestamp) (files : Files) : Prop :=
  ∃ p files' objectKey, sink.publish P host checkpoint ⟨now, none⟩ files = (.ok p, files') ∧
    p.checkpoint = checkpoint ∧ p.objectKey = objectKey ∧
    checkpointObjectKey checkpoint = .ok objectKey ∧
    files' (sink.path host objectKey) = some (checkpoint.canonicalBytes P)

/-- The contract of the sink: after any attempts, cut wherever they were, one more publishes the
    checkpoint; and no publications of any checkpoints change a file that exists. -/
structure FileRecovery (P : Platform) (host : Host) (sink : FileCheckpointSink)
    (checkpoint : SignedLedgerCheckpoint) (files : Files) (as : List Attempt) (now : Timestamp) :
    Prop where
  retried : Publishes P host sink checkpoint now (sink.attempts P host checkpoint files as)
  kept : ∀ publications : List (SignedLedgerCheckpoint × Attempt),
    Preserves files (Runs.run (fun files i => (sink.publish P host i.1 i.2 files).2) files
      publications)

/-- What the contract takes: the sink reaches a path for the checkpoint; a file that was there
    before holds its bytes; else the host lets one be created, and the first attempt to create it
    was cut after its last byte or not at all. -/
def Recoverable (P : Platform) (host : Host) (sink : FileCheckpointSink)
    (checkpoint : SignedLedgerCheckpoint) (files : Files) (as : List Attempt) : Prop :=
  ∃ objectKey destination, Reaches host sink checkpoint objectKey destination ∧
    match files destination with
    | some content => content = checkpoint.canonicalBytes P
    | none => host.openExclusive destination = .ok () ∧
        ∀ a ∈ as.find? Attempt.creates, a.WritesAll (checkpoint.canonicalBytes P)

section

variable {P : Platform} {host : Host} {sink : FileCheckpointSink}
  {checkpoint : SignedLedgerCheckpoint} {objectKey : String} {destination : Path}

/-- One uncut attempt succeeds exactly if the file is the checkpoint or can be created. -/
theorem publishes_iff (hreaches : Reaches host sink checkpoint objectKey destination)
    (now : Timestamp) (files : Files) :
    Publishes P host sink checkpoint now files ↔
      files destination = some (checkpoint.canonicalBytes P) ∨
        files destination = none ∧ host.openExclusive destination = .ok () := by
  have hprepare := (prepare_ok (P := P)).mpr ⟨hreaches, rfl⟩
  obtain ⟨p, hp, hcheckpoint, -, hkey, -⟩ := @CheckpointPublication.make_ok checkpoint
    (pathText destination) objectKey (.utc now) [] 1 [] (by decide) (.inr ⟨rfl, rfl⟩)
    (by simp [destinationIds]) (by simp) (by simp)
  -- what `publish` does, by what the path holds
  have hpublish : sink.publish P host checkpoint ⟨now, none⟩ files =
      match files destination with
      | some content =>
        if content ≠ checkpoint.canonicalBytes P then
          (.error (.publication ("checkpoint destination already contains different bytes: "
            ++ pathText destination)), files)
        else (.ok p, files)
      | none =>
        match host.openExclusive destination with
        | .error e => (.error (.osError e), files)
        | .ok () => (.ok p, create destination (checkpoint.canonicalBytes P) files) := by
    unfold FileCheckpointSink.publish
    rw [hprepare]
    cases hfile : files destination with
    | some content => simp only [hfile, Attempt.finish, hp]
    | none =>
      cases hopen : host.openExclusive destination with
      | error e => simp only [hfile, hopen]
      | ok => simp only [hfile, hopen, Attempt.finish, hp, Attempt.perform, foldl_fileOps _ _ hfile]
  have hpath := hreaches.path
  unfold Publishes
  rw [hpublish]
  cases hfile : files destination with
  | some content =>
    by_cases hcontent : content = checkpoint.canonicalBytes P
    · subst hcontent
      simp only [ne_eq, not_true_eq_false, if_false, true_or, iff_true]
      exact ⟨p, files, objectKey, rfl, hcheckpoint, hkey, hreaches.key, hpath ▸ hfile⟩
    · simp [hcontent]
  | none =>
    cases hopen : host.openExclusive destination with
    | error e => simp
    | ok =>
      simp only [reduceCtorEq, false_or, and_self, iff_true]
      exact ⟨p, _, objectKey, rfl, hcheckpoint, hkey, hreaches.key,
        hpath ▸ create_self_of_none hfile _⟩

/-- Nothing is published to a path that the sink does not reach. -/
theorem Publishes.reaches {now : Timestamp} {files : Files}
    (h : Publishes P host sink checkpoint now files) :
    ∃ objectKey destination, Reaches host sink checkpoint objectKey destination := by
  obtain ⟨p, files', objectKey, hpublish, -⟩ := h
  cases hprepare : sink.prepare P host checkpoint with
  | error e =>
    unfold FileCheckpointSink.publish at hpublish
    rw [hprepare] at hpublish
    cases hpublish
  | ok prepared =>
    obtain ⟨key, destination, body⟩ := prepared
    exact ⟨key, destination, (prepare_ok.mp hprepare).1⟩

/-- A retry succeeds exactly under `Recoverable`. -/
theorem publishes_attempts_iff (files : Files) (as : List Attempt) (now : Timestamp) :
    Publishes P host sink checkpoint now (sink.attempts P host checkpoint files as) ↔
      Recoverable P host sink checkpoint files as := by
  constructor
  · intro h
    obtain ⟨objectKey, destination, hreaches⟩ := h.reaches
    have hprepare := (prepare_ok (P := P)).mpr ⟨hreaches, rfl⟩
    rw [publishes_iff hreaches] at h
    refine ⟨objectKey, destination, hreaches, ?_⟩
    cases hfile : files destination with
    | some content =>
      have hkept := attempts_preserves P host sink checkpoint files as destination content hfile
      rw [hkept] at h
      simpa using h
    | none =>
      cases hopen : host.openExclusive destination with
      | error e =>
        rw [attempts_unopened hprepare hopen hfile, hfile, hopen] at h
        simp at h
      | ok =>
        rw [attempts_destination hprepare hopen hfile] at h
        exact ⟨rfl, (findSome_written _ as).mp (h.symm.imp_left And.left)⟩
  · rintro ⟨objectKey, destination, hreaches, hholds⟩
    have hprepare := (prepare_ok (P := P)).mpr ⟨hreaches, rfl⟩
    rw [publishes_iff hreaches]
    cases hfile : files destination with
    | some content =>
      simp only [hfile] at hholds
      have hkept := attempts_preserves P host sink checkpoint files as destination content hfile
      exact .inl (hholds ▸ hkept)
    | none =>
      simp only [hfile] at hholds
      obtain ⟨hopen, hwrites⟩ := hholds
      rw [attempts_destination hprepare hopen hfile]
      exact ((findSome_written _ as).mpr hwrites).symm.imp_right fun hnot => ⟨hnot, hopen⟩

end

/-- **When a file publication recovers from interruption.**  Existing files are never changed; and
    the retry succeeds exactly if the attempt that created the file was not cut inside the bytes. -/
theorem fileRecovery_iff (P : Platform) (host : Host) (sink : FileCheckpointSink)
    (checkpoint : SignedLedgerCheckpoint) (files : Files) (as : List Attempt) (now : Timestamp) :
    FileRecovery P host sink checkpoint files as now ↔
      Recoverable P host sink checkpoint files as := by
  constructor
  · intro h
    exact (publishes_attempts_iff files as now).mp h.retried
  · intro h
    refine ⟨(publishes_attempts_iff files as now).mpr h, fun publications => ?_⟩
    have hstep : ∀ (s : Files) (i : SignedLedgerCheckpoint × Attempt),
        Preserves s (sink.publish P host i.1 i.2 s).2 :=
      fun s i => publish_preserves P host sink i.1 i.2 s
    exact run_preserves hstep files publications

/-- A host without symbolic links that lets the sink write everywhere. -/
def Sample.host : Host := ⟨id, fun _ => .ok (), fun _ => .ok ()⟩

/-- **Stopped right after it created the file, a publication can never be made good**: the retry
    finds an empty file under the key and refuses to go on. -/
theorem fileRecovery_fails_after_create :
    ¬ FileRecovery Sample.platform Sample.host ⟨["srv", "checkpoints"]⟩ Sample.checkpoint
      (fun _ => none) [⟨0, some 1⟩] 1767225780000000 := by
  intro h
  obtain ⟨objectKey, destination, -, hopen, hwrites⟩ :=
    (publishes_attempts_iff _ _ _).mp h.retried
  have hlast : (Sample.checkpoint.canonicalBytes Sample.platform).length < 1 :=
    hwrites ⟨0, some 1⟩ rfl 1 rfl
  have hsome : Sample.checkpoint.canonicalBytes Sample.platform ≠ [] :=
    canonicalBytes_ne_nil Sample.platform Sample.checkpoint
  exact hsome (List.length_eq_zero_iff.mp (Nat.lt_one_iff.mp hlast))

end AEControl.Evidence
