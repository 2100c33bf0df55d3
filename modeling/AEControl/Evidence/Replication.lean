/-
  `checkpoints.py`: `ReplicatedCheckpointSink`, publication to several destinations.

  The sinks are asked in their order, and one that fails does not stop the others; the publication
  succeeds with enough copies, and says which destinations have none.

  Structure of the proof:
  1. the loop over the destinations splits them into those with a receipt and those that failed
     (`publishAll_ok`, by induction on the sinks), and touches no key that was bound
     (`publishAll_preserves`);
  2. soundness, for any answers of the object stores: a publication that returns has its copies
     where its receipts say (`replicated_sound`), with the single sinks of `Evidence/S3Sink`;
  3. **the crux** of the retry: whatever was published before, of this checkpoint or of others, the
     keys of a checkpoint hold nothing but copies of it (`step_binds`), so a destination in order
     gives a receipt when its turn comes (`publishAll_count`, `replicated_retryable`);
  4. the three bounds under which a copy can be read back (`WithinBounds`) are needed:
     `replication_fails_beyond_bounds` has a checkpoint beyond each of them.
-/
import AEControl.Evidence.S3Sink
import AEControl.Evidence.Ledger

namespace AEControl.Evidence

open CreateOnly

/-! ## Several destinations -/

/-- `ReplicatedCheckpointSink`. -/
structure ReplicatedCheckpointSink where
  sinks : List S3CheckpointSink
  requiredCopies : ℕ
  two_to_five : 2 ≤ sinks.length ∧ sinks.length ≤ 5
  ids_distinct : (sinks.map fun sink => sink.destinationId.val).Nodup
  required_range : 1 ≤ requiredCopies ∧ requiredCopies ≤ sinks.length

/-- What every client does in one publication, by destination. -/
abbrev Answers := DestinationId → ClientAnswers

/-- The loop of `publish`: the receipts and the names of the failed destinations.  Only a
    `CheckpointPublicationError` is caught. -/
def publishAll (P : Platform) (c : SignedLedgerCheckpoint) (answers : Answers) :
    List S3CheckpointSink → ObjectStore →
      Except SinkError (List CheckpointObjectReceipt × List String) × ObjectStore
  | [], store => (.ok ([], []), store)
  | sink :: sinks, store =>
    match sink.publish P c (answers sink.destinationId) store with
    | (.error (.publication _), store) =>
      let rest := publishAll P c answers sinks store
      (rest.1.map fun r => (r.1, sink.destinationId.val :: r.2), rest.2)
    | (.error e, store) => (.error e, store)
    | (.ok publication, store) =>
      let rest := publishAll P c answers sinks store
      (rest.1.map fun r => (publication.copies ++ r.1, r.2), rest.2)

/-- `",".join(names) or "none"`. -/
def joinedNames (names : List String) : String :=
  let joined := ",".intercalate names
  if joined = "" then "none" else joined

/-- `max(copy.verified_at for copy in copies)`. -/
def latestVerification : List CheckpointObjectReceipt → Datetime
  | [] => .utc 0
  | copy :: copies => copies.foldl (fun latest copy =>
      if latest.instant < copy.verifiedAt.instant then copy.verifiedAt else latest) copy.verifiedAt

/-- `publish`, after the loop. -/
def ReplicatedCheckpointSink.conclude (r : ReplicatedCheckpointSink) (c : SignedLedgerCheckpoint)
    (copies : List CheckpointObjectReceipt) (failures : List String) :
    Except SinkError CheckpointPublication :=
  if copies.length < r.requiredCopies then
    .error (.publication ("checkpoint replication durability policy was not met (succeeded=" ++
      joinedNames (destinationIds copies) ++ "; failed=" ++ joinedNames failures ++ ")"))
  else do
    let objectKey ← (checkpointObjectKey c).mapError .evidence
    CheckpointPublication.make c
      ("replicated://" ++ toString copies.length ++ "-of-" ++ toString r.sinks.length) objectKey
      (latestVerification copies) copies r.requiredCopies failures

/-- `ReplicatedCheckpointSink.publish`. -/
def ReplicatedCheckpointSink.publish (P : Platform) (r : ReplicatedCheckpointSink)
    (c : SignedLedgerCheckpoint) (answers : Answers) (store : ObjectStore) :
    Except SinkError CheckpointPublication × ObjectStore :=
  let all := publishAll P c answers r.sinks store
  (all.1.bind fun (copies, failures) => r.conclude c copies failures, all.2)

/-! ## The loop over the destinations -/

section

variable {P : Platform} {c : SignedLedgerCheckpoint} {answers : Answers}

/-- One turn of the loop for a printable checkpoint: no exception gets through. -/
theorem publishAll_cons (hprintable : c.printable = true) (sink : S3CheckpointSink)
    (sinks : List S3CheckpointSink) (store : ObjectStore) :
    publishAll P c answers (sink :: sinks) store =
      let one := sink.publish P c (answers sink.destinationId) store
      let rest := publishAll P c answers sinks one.2
      (rest.1.map fun r => match one.1 with
        | .ok publication => (publication.copies ++ r.1, r.2)
        | .error _ => (r.1, sink.destinationId.val :: r.2), rest.2) := by
  have herror : ∀ e, (sink.publish P c (answers sink.destinationId) store).1 = .error e →
      ∃ message, e = .publication message := fun e => sinkPublish_error hprintable
  rw [publishAll]
  rcases hpublish : sink.publish P c (answers sink.destinationId) store with ⟨e | p, store'⟩
  · obtain ⟨message, rfl⟩ := herror e (by rw [hpublish])
    rfl
  · rfl

/-- The loop returns for a printable checkpoint. -/
theorem publishAll_returns (hprintable : c.printable = true) (sinks : List S3CheckpointSink)
    (store : ObjectStore) : ∃ copies failures,
      (publishAll P c answers sinks store).1 = .ok (copies, failures) := by
  induction sinks generalizing store with
  | nil => exact ⟨[], [], rfl⟩
  | cons sink sinks ih =>
    rw [publishAll_cons hprintable]
    obtain ⟨copies, failures, hrest⟩ :=
      ih (sink.publish P c (answers sink.destinationId) store).2
    simp only [hrest, Except.map]
    split <;> exact ⟨_, _, rfl⟩

/-- What the loop returns: every destination has a receipt for what was read back there, or it is
    among the failed ones. -/
theorem publishAll_ok {sinks : List S3CheckpointSink} {store : ObjectStore}
    {copies : List CheckpointObjectReceipt} {failures : List String}
    (h : (publishAll P c answers sinks store).1 = .ok (copies, failures)) :
    (destinationIds copies ++ failures).Perm (sinks.map fun sink => sink.destinationId.val) ∧
      ∀ copy ∈ copies, ∃ sink ∈ sinks, copy.destinationId = sink.destinationId ∧
        copy.bodySha256 = c.bodySha256 P ∧ sink.key c = .ok copy.objectKey ∧
        ReadBack P c (answers sink.destinationId) copy := by
  induction sinks generalizing store copies failures with
  | nil =>
    obtain ⟨rfl, rfl⟩ : [] = copies ∧ [] = failures := by simpa [publishAll] using h
    exact ⟨List.Perm.refl _, nofun⟩
  | cons sink sinks ih =>
    -- copies at later destinations are copies at one of all
    have hold : ∀ copies : List CheckpointObjectReceipt,
        (∀ copy ∈ copies, ∃ sink ∈ sinks, copy.destinationId = sink.destinationId ∧
          copy.bodySha256 = c.bodySha256 P ∧ sink.key c = .ok copy.objectKey ∧
          ReadBack P c (answers sink.destinationId) copy) →
        ∀ copy ∈ copies, ∃ s ∈ sink :: sinks, copy.destinationId = s.destinationId ∧
          copy.bodySha256 = c.bodySha256 P ∧ s.key c = .ok copy.objectKey ∧
          ReadBack P c (answers s.destinationId) copy := by
      intro copies hcopies copy hcopy
      obtain ⟨s, hs, hread⟩ := hcopies copy hcopy
      exact ⟨s, List.mem_cons_of_mem _ hs, hread⟩
    rw [publishAll] at h
    rcases hpublish : sink.publish P c (answers sink.destinationId) store with ⟨e | p, store'⟩
    · rw [hpublish] at h
      -- a `CheckpointPublicationError` is collected; anything else ends the loop
      cases e with
      | publication message =>
        obtain ⟨⟨copies', failures'⟩, hrest, hpair⟩ := Raising.map_ok h
        obtain ⟨rfl, rfl⟩ := Prod.mk.inj hpair
        obtain ⟨hperm, hcopies⟩ := ih hrest
        refine ⟨?_, hold copies' hcopies⟩
        exact List.perm_middle.trans (hperm.cons _)
      | evidence error => cases h
      | osError message => cases h
      | interrupted => cases h
    · have hok : (sink.publish P c (answers sink.destinationId) store).1 = .ok p := by
        rw [hpublish]
      obtain ⟨receipt, hreceipt, hid, hsha, hkey, hread⟩ := sinkPublish_ok hok
      rw [hpublish] at h
      obtain ⟨⟨copies', failures'⟩, hrest, hpair⟩ := Raising.map_ok h
      obtain ⟨rfl, rfl⟩ := Prod.mk.inj hpair
      obtain ⟨hperm, hcopies⟩ := ih hrest
      rw [hreceipt]
      refine ⟨?_, ?_⟩
      · have hhead : destinationIds ([receipt] ++ copies') =
            sink.destinationId.val :: destinationIds copies' := by simp [destinationIds, hid]
        rw [hhead]
        exact hperm.cons _
      · intro copy hcopy
        rcases List.mem_append.mp hcopy with hnew | hrest
        · obtain rfl := List.mem_singleton.mp hnew
          exact ⟨sink, List.mem_cons_self, hid, hsha, hkey, hread⟩
        · exact hold copies' hcopies copy hrest

/-- The loop changes no object that exists. -/
theorem publishAll_preserves (P : Platform) (c : SignedLedgerCheckpoint) (answers : Answers)
    (sinks : List S3CheckpointSink) (store : ObjectStore) :
    Preserves store (publishAll P c answers sinks store).2 := by
  induction sinks generalizing store with
  | nil => exact Preserves.refl store
  | cons sink sinks ih =>
    have hone : Preserves store (sink.publish P c (answers sink.destinationId) store).2 := by
      rcases sinkPublish_store P sink c (answers sink.destinationId) store with
        hsame | ⟨key, o, -, -, hnew⟩
      · rw [hsame]
        exact Preserves.refl store
      · rw [hnew]
        exact preserves_create _ _ store
    rw [publishAll]
    rcases hpublish : sink.publish P c (answers sink.destinationId) store with ⟨e | p, store'⟩
    · rw [hpublish] at hone
      cases e with
      | publication message => exact hone.trans (ih store')
      | evidence error => exact hone
      | osError message => exact hone
      | interrupted => exact hone
    · rw [hpublish] at hone
      exact hone.trans (ih store')

/-- What the loop binds an address to satisfies `R`, if every copy bound to it does. -/
theorem publishAll_binds {address : Address} {R : S3Object → Prop} {sinks : List S3CheckpointSink}
    (hR : ∀ sink ∈ sinks, ∀ key o, sink.key c = .ok key → IsCopy P c o →
      address = (sink.endpoint, sink.bucket, key) → R o) (store : ObjectStore) :
    Binds address R store (publishAll P c answers sinks store).2 := by
  induction sinks generalizing store with
  | nil => exact Binds.refl address R store
  | cons sink sinks ih =>
    have ih := ih fun s hs => hR s (List.mem_cons_of_mem _ hs)
    have hone : Binds address R store (sink.publish P c (answers sink.destinationId) store).2 := by
      rcases sinkPublish_store P sink c (answers sink.destinationId) store with
        hsame | ⟨key, o, hkey, hcopy, hnew⟩
      · rw [hsame]
        exact Binds.refl address R store
      · rw [hnew]
        exact binds_create
          (fun haddress => hR sink List.mem_cons_self key o hkey hcopy haddress) store
    rw [publishAll]
    rcases hpublish : sink.publish P c (answers sink.destinationId) store with ⟨e | p, store'⟩
    · rw [hpublish] at hone
      cases e with
      | publication message => exact hone.trans (ih store')
      | evidence error => exact hone
      | osError message => exact hone
      | interrupted => exact hone
    · rw [hpublish] at hone
      exact hone.trans (ih store')

/-- Destinations that succeed when their turn comes have receipts. -/
theorem publishAll_count (hprintable : c.printable = true) {good : S3CheckpointSink → Bool}
    {sinks : List S3CheckpointSink} {store : ObjectStore}
    (hgood : ∀ before sink after, sinks = before ++ sink :: after → good sink = true →
      ∃ p, (sink.publish P c (answers sink.destinationId)
        (publishAll P c answers before store).2).1 = .ok p)
    {copies : List CheckpointObjectReceipt} {failures : List String}
    (h : (publishAll P c answers sinks store).1 = .ok (copies, failures)) :
    (sinks.filter good).length ≤ copies.length := by
  induction sinks generalizing store copies failures with
  | nil => simp
  | cons sink sinks ih =>
    -- the other destinations find the store as the first one left it
    have hrest : ∀ before s after, sinks = before ++ s :: after → good s = true →
        ∃ p, (s.publish P c (answers s.destinationId) (publishAll P c answers before
          (sink.publish P c (answers sink.destinationId) store).2).2).1 = .ok p := by
      intro before s after hsplit hs
      have hturn := hgood (sink :: before) s after (by rw [hsplit]; rfl) hs
      rwa [publishAll_cons hprintable] at hturn
    rw [publishAll_cons hprintable] at h
    obtain ⟨⟨copies', failures'⟩, hok, hpair⟩ := Raising.map_ok h
    have hle := ih hrest hok
    have hfirst := hgood [] sink sinks rfl
    cases hpublish : (sink.publish P c (answers sink.destinationId) store).1 with
    | ok p =>
      obtain ⟨receipt, hreceipt, -⟩ := sinkPublish_ok hpublish
      rw [hpublish] at hpair
      obtain ⟨rfl, rfl⟩ := Prod.mk.inj hpair
      rw [hreceipt, List.filter_cons]
      split <;> simp only [List.length_cons, List.length_append, List.length_nil] <;> omega
    | error e =>
      -- one that fails in its turn is not counted as good
      have hbad : good sink = false := by
        by_contra hgood
        obtain ⟨p, hp⟩ := hfirst (Bool.eq_true_of_not_eq_false hgood)
        rw [show (publishAll P c answers [] store).2 = store from rfl, hpublish] at hp
        cases hp
      rw [hpublish] at hpair
      obtain ⟨rfl, rfl⟩ := Prod.mk.inj hpair
      rw [List.filter_cons_of_neg (by rw [hbad]; exact Bool.false_ne_true)]
      exact hle

end

/-! ## Replicated publication -/

section

variable {P : Platform} {r : ReplicatedCheckpointSink} {c : SignedLedgerCheckpoint}

/-- After the loop a publication is constructed if there are copies enough, else a
    `CheckpointPublicationError` is raised. -/
theorem conclude_cases (hprintable : c.printable = true) {copies : List CheckpointObjectReceipt}
    {failures : List String} (hperm : (destinationIds copies ++ failures).Perm
      (r.sinks.map fun sink => sink.destinationId.val)) :
    (copies.length < r.requiredCopies ∧
        ∃ message, r.conclude c copies failures = .error (.publication message)) ∨
      (r.requiredCopies ≤ copies.length ∧ ∃ p, r.conclude c copies failures = .ok p) := by
  by_cases hfew : copies.length < r.requiredCopies
  · exact .inl ⟨hfew, _, if_pos hfew⟩
  · refine .inr ⟨not_lt.mp hfew, ?_⟩
    have hnodup : (destinationIds copies ++ failures).Nodup := hperm.nodup_iff.mpr r.ids_distinct
    obtain ⟨hcopies, hfailures, hdisjoint⟩ := List.nodup_append'.mp hnodup
    have hvalid : ∀ name ∈ failures, isDestinationId name = true := by
      intro name hname
      obtain ⟨sink, -, rfl⟩ := List.mem_map.mp
        (hperm.subset (List.mem_append_right (destinationIds copies) hname))
      exact sink.destinationId.property
    have hfive : r.requiredCopies ≤ 5 := le_trans r.required_range.2 r.two_to_five.2
    obtain ⟨key, hkey⟩ := checkpointObjectKey_of_printable hprintable
    obtain ⟨p, hp, -⟩ := CheckpointPublication.make_ok c
      ("replicated://" ++ toString copies.length ++ "-of-" ++ toString r.sinks.length) key
      (latestVerification copies) ⟨r.required_range.1, hfive⟩ (.inl (not_lt.mp hfew)) hcopies
      ⟨hfailures, hvalid⟩ (fun name hname hfailed => hdisjoint hname hfailed)
    refine ⟨p, ?_⟩
    unfold ReplicatedCheckpointSink.conclude
    rw [if_neg hfew, hkey]
    exact hp

/-- A publication is concluded with enough copies, and says which. -/
theorem conclude_ok {copies : List CheckpointObjectReceipt} {failures : List String}
    {p : CheckpointPublication} (h : r.conclude c copies failures = .ok p) :
    r.requiredCopies ≤ copies.length ∧ p.checkpoint = c ∧ p.copies = copies ∧
      p.requiredCopies = r.requiredCopies ∧ p.failedDestinations = failures := by
  unfold ReplicatedCheckpointSink.conclude at h
  split at h
  · cases h
  rename_i hfew
  obtain ⟨key, -, h⟩ := Raising.bind_ok h
  obtain ⟨hchecked, hcopies, hrequired, hfailures⟩ := CheckpointPublication.make_fields h
  exact ⟨not_lt.mp hfew, hchecked, hcopies, hrequired, hfailures⟩

end

/-- What `publish` may tell its caller.  A publication has the required receipts, from distinct
    destinations, each for a copy that was read back, and names the others as failed; an exception
    is a `CheckpointPublicationError`, unless the numbers of the checkpoint cannot be printed. -/
def TellsTheTruth (P : Platform) (r : ReplicatedCheckpointSink) (c : SignedLedgerCheckpoint)
    (answers : Answers) : Except SinkError CheckpointPublication → Prop
  | .ok p => r.requiredCopies ≤ p.copies.length ∧ p.checkpoint = c ∧
      (destinationIds p.copies).Nodup ∧
      (∀ copy ∈ p.copies, ∃ sink ∈ r.sinks, copy.destinationId = sink.destinationId ∧
        copy.bodySha256 = c.bodySha256 P ∧ sink.key c = .ok copy.objectKey ∧
        ReadBack P c (answers sink.destinationId) copy) ∧
      (destinationIds p.copies ++ p.failedDestinations).Perm
        (r.sinks.map fun sink => sink.destinationId.val)
  | .error e => c.printable = true → ∃ message, e = .publication message

/-- One publication in a history of the stores. -/
def ReplicatedCheckpointSink.step (P : Platform) (r : ReplicatedCheckpointSink)
    (store : ObjectStore) (i : SignedLedgerCheckpoint × Answers) : ObjectStore :=
  (r.publish P i.1 i.2 store).2

/-- Other checkpoints have other places. -/
def Separate (r : ReplicatedCheckpointSink) (c : SignedLedgerCheckpoint)
    (history : List (SignedLedgerCheckpoint × Answers)) : Prop :=
  ∀ i ∈ history, i.1 = c ∨ ∀ sink ∈ r.sinks, ∀ sink' ∈ r.sinks, ∀ key key',
    sink.key i.1 = .ok key → sink'.key c = .ok key' →
      (sink'.endpoint, sink'.bucket, key') ≠ (sink.endpoint, sink.bucket, key)

/-- A destination that behaves: nothing but copies of the checkpoint was in its place at the start,
    the deadline is not reached, and the client is in order when its turn comes. -/
structure Behaves (P : Platform) (r : ReplicatedCheckpointSink) (c : SignedLedgerCheckpoint)
    (start now : ObjectStore) (answers : Answers) (sink : S3CheckpointSink) : Prop where
  place : ∀ key o, sink.key c = .ok key → start (sink.endpoint, sink.bucket, key) = some o →
    IsCopy P c o
  early : (answers sink.destinationId).now < c.payload.retentionUntil.instant
  faithful : ∀ before after key, r.sinks = before ++ sink :: after → sink.key c = .ok key →
    Faithful P sink c key (answers sink.destinationId) (publishAll P c answers before now).2

/-- The contract of replicated publication. -/
structure ReplicationContract (P : Platform) (r : ReplicatedCheckpointSink)
    (c : SignedLedgerCheckpoint) : Prop where
  sound : ∀ answers store, TellsTheTruth P r c answers (r.publish P c answers store).1
  kept : ∀ (history : List (SignedLedgerCheckpoint × Answers)) (store : ObjectStore),
    Preserves store (Runs.run (r.step P) store history)
  retryable : ∀ (history : List (SignedLedgerCheckpoint × Answers)) (store : ObjectStore)
    (answers : Answers) (good : S3CheckpointSink → Bool), WithinBounds P c → Separate r c history →
    (∀ sink ∈ r.sinks, good sink = true →
      Behaves P r c store (Runs.run (r.step P) store history) answers sink) →
    r.requiredCopies ≤ (r.sinks.filter good).length →
    ∃ p, (r.publish P c answers (Runs.run (r.step P) store history)).1 = .ok p

section

variable {P : Platform} {r : ReplicatedCheckpointSink} {c : SignedLedgerCheckpoint}

/-- After the loop over the sinks, a publication ends as its copies say. -/
theorem replicatedPublish_of_loop {answers : Answers} {store : ObjectStore}
    {copies : List CheckpointObjectReceipt} {failures : List String}
    (h : (publishAll P c answers r.sinks store).1 = .ok (copies, failures)) :
    (r.publish P c answers store).1 = r.conclude c copies failures := by
  simp only [ReplicatedCheckpointSink.publish, h]
  rfl

/-- **Whatever is answered, the publication tells the truth** about its copies and its failures. -/
theorem replicated_sound (answers : Answers) (store : ObjectStore) :
    TellsTheTruth P r c answers (r.publish P c answers store).1 := by
  cases hall : (publishAll P c answers r.sinks store).1 with
  | error e =>
    have hraised : (r.publish P c answers store).1 = .error e := by
      simp only [ReplicatedCheckpointSink.publish, hall]
      rfl
    rw [hraised]
    intro hprintable
    obtain ⟨copies, failures, hok⟩ := publishAll_returns hprintable r.sinks store
    rw [hall] at hok
    cases hok
  | ok result =>
    obtain ⟨copies, failures⟩ := result
    obtain ⟨hperm, hread⟩ := publishAll_ok hall
    rw [replicatedPublish_of_loop hall]
    cases hconclude : r.conclude c copies failures with
    | ok p =>
      obtain ⟨hrequired, hchecked, rfl, -, rfl⟩ := conclude_ok hconclude
      exact ⟨hrequired, hchecked, p.copies_distinct, hread, hperm⟩
    | error e =>
      intro hprintable
      -- a printable checkpoint has no other error than the count of the copies
      rcases conclude_cases hprintable hperm with ⟨-, message, hmessage⟩ | ⟨-, p, hp⟩
      · rw [hconclude] at hmessage
        exact ⟨message, Except.error.inj hmessage⟩
      · rw [hconclude] at hp
        cases hp

/-- A step changes no object that exists. -/
theorem step_preserves (store : ObjectStore) (i : SignedLedgerCheckpoint × Answers) :
    Preserves store (r.step P store i) :=
  publishAll_preserves P i.1 i.2 r.sinks store

/-- A step binds the places of a checkpoint to copies of it only. -/
theorem step_binds {sink : S3CheckpointSink} (hsink : sink ∈ r.sinks) {key : String}
    (hkey : sink.key c = .ok key) {i : SignedLedgerCheckpoint × Answers}
    (hseparate : i.1 = c ∨ ∀ s ∈ r.sinks, ∀ s' ∈ r.sinks, ∀ k k', s.key i.1 = .ok k →
      s'.key c = .ok k' → (s'.endpoint, s'.bucket, k') ≠ (s.endpoint, s.bucket, k))
    (store : ObjectStore) :
    Binds (sink.endpoint, sink.bucket, key) (IsCopy P c) store (r.step P store i) := by
  refine publishAll_binds (fun s hs k o hk hcopy haddress => ?_) store
  rcases hseparate with hsame | hother
  · exact hsame ▸ hcopy
  · exact absurd haddress (hother s hs sink hsink k key hk hkey)

/-- **A publication that failed can be made again**, after any history of publications of this and
    other checkpoints: the sinks that behave accept it. -/
theorem replicated_retryable (history : List (SignedLedgerCheckpoint × Answers))
    (store : ObjectStore) (answers : Answers) (good : S3CheckpointSink → Bool)
    (hbounds : WithinBounds P c) (hseparate : Separate r c history)
    (hbehaves : ∀ sink ∈ r.sinks, good sink = true →
      Behaves P r c store (Runs.run (r.step P) store history) answers sink)
    (hrequired : r.requiredCopies ≤ (r.sinks.filter good).length) :
    ∃ p, (r.publish P c answers (Runs.run (r.step P) store history)).1 = .ok p := by
  obtain ⟨copies, failures, hall⟩ := @publishAll_returns P c answers hbounds.printable r.sinks
    (Runs.run (r.step P) store history)
  obtain ⟨hperm, -⟩ := publishAll_ok hall
  -- every destination that behaves finds its key free or bound to a copy
  have hcount : (r.sinks.filter good).length ≤ copies.length := by
    refine publishAll_count hbounds.printable (fun before sink after hsplit hgood => ?_) hall
    have hsink : sink ∈ r.sinks := by
      rw [hsplit]
      exact List.mem_append_right before List.mem_cons_self
    obtain ⟨hplace, hearly, hfaithful⟩ := hbehaves sink hsink hgood
    obtain ⟨relativeKey, hrelative⟩ := checkpointObjectKey_of_printable hbounds.printable
    have hkey : sink.key c = .ok (sink.keyPrefix ++ "/" ++ relativeKey) := by
      unfold S3CheckpointSink.key
      rw [hrelative]
      rfl
    have hstep : ∀ s, ∀ i ∈ history, Binds (sink.endpoint, sink.bucket,
        sink.keyPrefix ++ "/" ++ relativeKey) (IsCopy P c) s (r.step P s i) :=
      fun s i hi => step_binds hsink hkey (hseparate i hi) s
    have hhistory := run_cell hstep store fun i hi => hi
    have hbefore : Binds (sink.endpoint, sink.bucket, sink.keyPrefix ++ "/" ++ relativeKey)
        (IsCopy P c) (Runs.run (r.step P) store history)
        (publishAll P c answers before (Runs.run (r.step P) store history)).2 :=
      publishAll_binds (fun s hs k o hk hcopy _ => hcopy) _
    refine sinkPublish_succeeds hbounds hkey hearly (hfaithful before after _ hsplit hkey) ?_
    intro o ho
    rcases hhistory.trans hbefore with hsame | ⟨-, v, hv, hcopy⟩
    · exact hplace _ o hkey (hsame ▸ ho)
    · rw [hv] at ho
      exact Option.some.inj ho ▸ hcopy
  rcases conclude_cases hbounds.printable hperm with ⟨hfew, -⟩ | ⟨-, p, hp⟩
  · omega
  · exact ⟨p, by rw [replicatedPublish_of_loop hall, hp]⟩

end

/-- **Replicated publication is sound and can be retried.**  Whatever the clients answer, a
    publication tells the truth about its copies and failures; no history of publications
    overwrites an object; and within the bounds of the receipts, a retry that enough of the sinks
    behave for returns, whatever was published before it. -/
theorem replication_contract (P : Platform) (r : ReplicatedCheckpointSink)
    (c : SignedLedgerCheckpoint) : ReplicationContract P r c where
  sound := replicated_sound
  kept history store := run_preserves step_preserves store history
  retryable := replicated_retryable

/-! ## Buckets in order -/

section

variable {P : Platform} {r : ReplicatedCheckpointSink} {c : SignedLedgerCheckpoint}

/-- What the client of a bucket in order does that holds `held` under the key. -/
def inOrder (P : Platform) (c : SignedLedgerCheckpoint) (now : Timestamp)
    (held : Option S3Object) : ClientAnswers :=
  let object := match held with
    | some o => some o
    | none => (retentionRequestDeadline c.payload.retentionUntil).map fun deadline =>
        (checkpointRequest P c "" deadline).object "etag" none
  { now
    configuration := .ok ⟨some (some "Enabled")⟩
    stores := true
    etag := "etag"
    versionId := none
    put := match held with
      | none => .ok ()
      | some _ => .error (.ofCode "PreconditionFailed")
    head := match object with
      | none => .error (.ofCode "404")
      | some o => .ok o.head
    get := match object with
      | none => .error (.ofCode "NoSuchKey")
      | some o => .ok (some ⟨fun n => .ok (some (o.body.take n)), none⟩)
    verifiedAt := now }

/-- Answers in the order of the calls are faithful. -/
theorem faithful_inOrder (sink : S3CheckpointSink) (key : String) (now : Timestamp)
    {held : Option S3Object} {store : ObjectStore}
    (h : store (sink.endpoint, sink.bucket, key) = held) :
    Faithful P sink c key (inOrder P c now held) store where
  configuration := ⟨⟨some (some "Enabled")⟩, rfl, rfl⟩
  free hnone := by
    obtain rfl : held = none := h.symm.trans hnone
    exact ⟨rfl, rfl⟩
  bound o ho := by
    obtain rfl : held = some o := h.symm.trans ho
    exact ⟨_, rfl, rfl⟩
  readBack o ho := by
    unfold S3CheckpointSink.put at ho
    cases held with
    | some o' =>
      -- a key that is bound keeps its object
      have hsame : o' = o := by
        split at ho
        · exact Option.some.inj (h.symm.trans ho)
        · dsimp only at ho
          split at ho
          · rw [create_of_some h, h] at ho
            exact Option.some.inj ho
          · exact Option.some.inj (h.symm.trans ho)
      subst hsame
      exact ⟨rfl, _, rfl, rfl, fun _ => rfl⟩
    | none =>
      cases hdeadline : retentionRequestDeadline c.payload.retentionUntil with
      | none =>
        rw [hdeadline] at ho
        have hnone : none = some o := h.symm.trans ho
        cases hnone
      | some deadline =>
        rw [hdeadline] at ho
        -- a free key holds what was sent
        have hcreated : some ((checkpointRequest P c key deadline).object "etag" none) = some o :=
          (create_self_of_none h _).symm.trans ho
        obtain rfl := Option.some.inj hcreated
        simp only [inOrder, hdeadline]
        exact ⟨rfl, _, rfl, rfl, fun _ => rfl⟩

/-- Destinations in different buckets behave, when their clients answer for what the buckets hold
    before the publication. -/
theorem behaves_inOrder {start now : ObjectStore} {answers : Answers} {sink : S3CheckpointSink}
    {t : Timestamp}
    (hbuckets : ∀ s ∈ r.sinks, s.destinationId ≠ sink.destinationId →
      (s.endpoint, s.bucket) ≠ (sink.endpoint, sink.bucket))
    (hstart : ∀ key, sink.key c = .ok key → start (sink.endpoint, sink.bucket, key) = none)
    (ht : t < c.payload.retentionUntil.instant)
    (hanswers : ∀ key, sink.key c = .ok key → answers sink.destinationId =
      inOrder P c t (now (sink.endpoint, sink.bucket, key)))
    (hprintable : c.printable = true) :
    Behaves P r c start now answers sink := by
  obtain ⟨relativeKey, hrelative⟩ := checkpointObjectKey_of_printable hprintable
  have hkey : sink.key c = .ok (sink.keyPrefix ++ "/" ++ relativeKey) := by
    unfold S3CheckpointSink.key
    rw [hrelative]
    rfl
  refine ⟨fun key o hk ho => ?_, ?_, fun before after key hsplit hk => ?_⟩
  · rw [hstart key hk] at ho
    cases ho
  · rw [hanswers _ hkey]
    exact ht
  · -- the destinations before it write to other buckets
    have hother : ∀ s ∈ before, s.destinationId ≠ sink.destinationId := by
      have hnodup := r.ids_distinct
      rw [hsplit, List.map_append, List.nodup_append'] at hnodup
      intro s hs heq
      refine hnodup.2.2 (List.mem_map_of_mem hs) ?_
      rw [List.map_cons, heq]
      exact List.mem_cons_self
    have hbinds : Binds (sink.endpoint, sink.bucket, key) (fun _ => False) now
        (publishAll P c answers before now).2 := by
      refine publishAll_binds (fun s hs k o _ _ haddress => ?_) now
      have hmem : s ∈ r.sinks := by
        rw [hsplit]
        exact List.mem_append_left _ hs
      obtain ⟨hendpoint, hrest⟩ := Prod.mk.inj haddress
      obtain ⟨hbucket, -⟩ := Prod.mk.inj hrest
      exact hbuckets s hmem (hother s hs) (by rw [hendpoint, hbucket])
    have hsame : (publishAll P c answers before now).2 (sink.endpoint, sink.bucket, key) =
        now (sink.endpoint, sink.bucket, key) := by
      rcases hbinds with hsame | ⟨-, v, -, hfalse⟩
      · exact hsame
      · exact hfalse.elim
    rw [hanswers key hk]
    exact faithful_inOrder sink key t hsame

end

/-! ## Beyond the bounds -/

section

variable {P : Platform} {r : ReplicatedCheckpointSink} {c : SignedLedgerCheckpoint}

/-- Without a copy that can be read back nothing is published. -/
theorem refused_of_readBack {answers : Answers} {store : ObjectStore}
    (h : ∀ destinationId receipt, ¬ ReadBack P c (answers destinationId) receipt)
    (p : CheckpointPublication) : (r.publish P c answers store).1 ≠ .ok p := by
  intro hok
  have htells := replicated_sound (P := P) (r := r) (c := c) answers store
  rw [hok] at htells
  obtain ⟨hrequired, -, -, hread, -⟩ := htells
  have hlength : 0 < p.copies.length := lt_of_lt_of_le r.required_range.1 hrequired
  obtain ⟨copy, hcopy⟩ := List.exists_mem_of_length_pos hlength
  obtain ⟨sink, -, -, -, -, hcopied⟩ := hread copy hcopy
  exact h _ copy hcopied

/-- A body that outgrows the buffer is never read back whole. -/
theorem not_readBack_oversized (hlong : 1024 * 1024 + 1 < (c.canonicalBytes P).length)
    (now : Timestamp) (receipt : CheckpointObjectReceipt) :
    ¬ ReadBack P c (inOrder P c now none) receipt := by
  rintro ⟨head, stream, metadata, -, hget, hread, -⟩
  cases hdeadline : retentionRequestDeadline c.payload.retentionUntil with
  | none =>
    simp only [inOrder, hdeadline, Option.map_none] at hget
    cases hget
  | some deadline =>
    simp only [inOrder, hdeadline, Option.map_some, Except.ok.injEq, Option.some.injEq] at hget
    subst hget
    have htake := congrArg List.length (Option.some.inj (Except.ok.inj hread))
    have hle := List.length_take_le (1024 * 1024 + 1)
      ((checkpointRequest P c "" deadline).object "etag" none).body
    omega

/-- A deadline that cannot be rounded up is never requested. -/
theorem not_readBack_overflow (hdeadline : retentionRequestDeadline c.payload.retentionUntil = none)
    (now : Timestamp) (receipt : CheckpointObjectReceipt) :
    ¬ ReadBack P c (inOrder P c now none) receipt := by
  rintro ⟨head, stream, metadata, hhead, -⟩
  simp only [inOrder, hdeadline, Option.map_none] at hhead
  cases hhead

/-- A sequence number that cannot be printed ends the loop with a plain `ValueError`. -/
theorem publish_unprintable {answers : Answers} {store : ObjectStore}
    (hsequence : Json.intPrintable c.payload.ledgerSequence = false)
    (hanswers : ∀ sink ∈ r.sinks,
      (answers sink.destinationId).now < c.payload.retentionUntil.instant ∧
      ∃ configuration, (answers sink.destinationId).configuration = .ok configuration ∧
        configuration.enabled = true) :
    (r.publish P c answers store).1 = .error (.evidence digitLimitError) := by
  have hkey : ∀ sink : S3CheckpointSink, sink.key c = .error digitLimitError := by
    intro sink
    simp only [S3CheckpointSink.key, checkpointObjectKey, zeroPadded, hsequence]
    rfl
  cases hsinks : r.sinks with
  | nil =>
    have := r.two_to_five.1
    rw [hsinks] at this
    simp at this
  | cons sink sinks =>
    obtain ⟨hnow, configuration, hconfiguration, henabled⟩ :=
      hanswers sink (by rw [hsinks]; exact List.mem_cons_self)
    -- the first destination raises, and the loop does not catch it
    have hprepare : sink.prepare P c (answers sink.destinationId) =
        .error (.evidence digitLimitError) := by
      unfold S3CheckpointSink.prepare
      rw [if_neg (not_le.mpr hnow), hconfiguration]
      simp only [henabled, not_true_eq_false, if_false, hkey]
      rfl
    simp only [ReplicatedCheckpointSink.publish, hsinks, publishAll, sinkPublish_refused hprepare]
    rfl

end

namespace Sample

theorem isDestinationId_primary : isDestinationId "primary" = true := by decide

theorem isDestinationId_replica : isDestinationId "replica" = true := by decide

def primary : S3CheckpointSink :=
  ⟨"us-east-1", "evidence-primary", "aecontrol/checkpoints", ⟨"primary", isDestinationId_primary⟩,
    none⟩

def replica : S3CheckpointSink :=
  ⟨"us-west-2", "evidence-replica", "aecontrol/checkpoints", ⟨"replica", isDestinationId_replica⟩,
    none⟩

theorem two_sinks : 2 ≤ [primary, replica].length ∧ [primary, replica].length ≤ 5 := by decide

/-- The two sinks have their own names. -/
theorem names_distinct :
    ([primary, replica].map fun sink => sink.destinationId.val).Nodup := by decide

theorem two_copies : 1 ≤ 2 ∧ 2 ≤ [primary, replica].length := by decide

/-- Two destinations, both required. -/
def replicated : ReplicatedCheckpointSink :=
  ⟨[primary, replica], 2, two_sinks, names_distinct, two_copies⟩

/-- The clients of two buckets in order that hold nothing, at the time of the checkpoint. -/
def freshAnswers (c : SignedLedgerCheckpoint) : Answers := fun _ =>
  inOrder platform c createdAt.instant none

/-- The checkpoint, with a sequence number of 4301 digits. -/
def hugeSequence : SignedLedgerCheckpoint :=
  { checkpoint with payload := { payload with ledgerSequence := 10 ^ 4300 } }

/-- The long signature is not empty. -/
theorem longSignature_ne : String.ofList (List.replicate (1024 * 1024 + 2) 'A') ≠ "" := by
  intro h
  have hlength := congrArg String.length h
  rw [String.length_ofList, List.length_replicate] at hlength
  cases hlength

/-- The checkpoint, with a signature of more than a megabyte. -/
def hugeSignature : SignedLedgerCheckpoint :=
  { checkpoint with
    signature := String.ofList (List.replicate (1024 * 1024 + 2) 'A')
    signature_ne := longSignature_ne }

/-- The last second of the range comes after the creation. -/
theorem createdAt_lt_lastSecond :
    createdAt.instant < (Datetime.utc 253402300799500000).instant := by decide

/-- The checkpoint, to be retained until half a second before the end of the calendar. -/
def lastSecond : SignedLedgerCheckpoint :=
  { checkpoint with payload := { payload with
    retentionUntil := .utc 253402300799500000
    retention := createdAt_lt_lastSecond } }

/-- Two empty buckets in order behave. -/
theorem behaves_fresh {c : SignedLedgerCheckpoint} (hprintable : c.printable = true)
    (hdeadline : createdAt.instant < c.payload.retentionUntil.instant) :
    ∀ sink ∈ replicated.sinks,
      Behaves platform replicated c (fun _ => none) (fun _ => none) (freshAnswers c) sink := by
  intro sink hsink
  refine behaves_inOrder (fun s hs hne hbucket => ?_) (fun _ _ => rfl) hdeadline
    (fun _ _ => rfl) hprintable
  simp only [replicated, List.mem_cons, List.not_mem_nil, or_false] at hsink hs
  rcases hsink with rfl | rfl <;> rcases hs with rfl | rfl
  · exact hne rfl
  · exact absurd hbucket (by decide)
  · exact absurd hbucket (by decide)
  · exact hne rfl

/-- A checkpoint at the head of a ledger of one entry can be printed. -/
theorem printable_small {c : SignedLedgerCheckpoint} (hsequence : c.payload.ledgerSequence = 1)
    (hentries : c.payload.ledgerEntries = 1) : c.printable = true := by
  rw [SignedLedgerCheckpoint.printable, hsequence, hentries]
  exact Bool.and_eq_true_iff.mpr ⟨intPrintable_one, intPrintable_one⟩

end Sample

/-- Two buckets in order: a checkpoint with a sequence number of 4301 digits is refused with a
    `ValueError`; one with a signature of more than a megabyte, and one to be retained until the
    last second of the calendar, cannot be published. -/
theorem replication_fails_beyond_bounds :
    (Sample.replicated.publish Sample.platform Sample.hugeSequence
        (Sample.freshAnswers Sample.hugeSequence) (fun _ => none)).1 =
      .error (.evidence digitLimitError) ∧
    ∀ c ∈ [Sample.hugeSignature, Sample.lastSecond],
      (∀ sink ∈ Sample.replicated.sinks, Behaves Sample.platform Sample.replicated c
        (fun _ => none) (fun _ => none) (Sample.freshAnswers c) sink) ∧
      ∀ p, (Sample.replicated.publish Sample.platform c (Sample.freshAnswers c)
        (fun _ => none)).1 ≠ .ok p := by
  refine ⟨publish_unprintable ?_ fun sink _ => ?_, fun c hc => ?_⟩
  · exact decide_eq_false (lt_irrefl _)
  · exact ⟨Sample.hugeSequence.payload.retention, ⟨some (some "Enabled")⟩, rfl, rfl⟩
  · simp only [List.mem_cons, List.not_mem_nil, or_false] at hc
    rcases hc with rfl | rfl
    · refine ⟨Sample.behaves_fresh (Sample.printable_small rfl rfl) Sample.payload.retention,
        refused_of_readBack fun _ => not_readBack_oversized ?_ _⟩
      have hlong := length_signature_le Sample.platform Sample.hugeSignature
      have hlength : Sample.hugeSignature.signature.length = 1024 * 1024 + 2 := by
        simp only [Sample.hugeSignature, String.length_ofList, List.length_replicate]
      omega
    · exact ⟨Sample.behaves_fresh (Sample.printable_small rfl rfl) Sample.createdAt_lt_lastSecond,
        refused_of_readBack fun _ => not_readBack_overflow (by decide) _⟩

/-! ## A retry -/

namespace Sample

/-- SHA-256 of the checkpoint's canonical bytes. -/
def envelopeDigest : HexDigest :=
  ⟨"eef2909473a03e4fa86a734cc1c273d46491f907665ecf677eeb730f6d4d4b41", by decide +kernel⟩

/-- The platform, with the digest of the one envelope that is published. -/
def publicationPlatform : Platform := { platform with sha256 := fun _ => envelopeDigest }

/-- The replica's put is lost. -/
def partialAnswers : Answers := fun destinationId =>
  let answers := inOrder publicationPlatform checkpoint createdAt.instant none
  if destinationId = primary.destinationId then answers
  else { answers with stores := false, put := .error .noResponse }

/-- Both buckets are in order again. -/
def retryAnswers (store : ObjectStore) : Answers := fun destinationId =>
  let sink := if destinationId = primary.destinationId then primary else replica
  inOrder publicationPlatform checkpoint createdAt.instant
    (match sink.key checkpoint with
      | .ok key => store (sink.endpoint, sink.bucket, key)
      | .error _ => none)

/-- The worked checkpoint is within the three bounds. -/
theorem withinBounds : WithinBounds publicationPlatform checkpoint where
  printable := printable_small rfl rfl
  length_le := by
    have hprint : ((checkpoint.dump publicationPlatform).canon.print).length ≤ 4096 := by
      decide +kernel
    refine le_trans (utf8_length_le _) ?_
    rw [SignedLedgerCheckpoint.canonicalText, Json.canonicalText, String.length_ofList]
    omega
  deadline := by decide

/-- The store after the first, partial publication. -/
def partialStore : ObjectStore :=
  Runs.run (replicated.step publicationPlatform) (fun _ => none) [(checkpoint, partialAnswers)]

/-- The sinks of the worked checkpoint behave at the retry. -/
theorem behaves_retry : ∀ sink ∈ replicated.sinks, Behaves publicationPlatform replicated checkpoint
    (fun _ => none) partialStore (retryAnswers partialStore) sink := by
  intro sink hsink
  refine behaves_inOrder (t := createdAt.instant) (fun s hs hne hbucket => ?_) (fun _ _ => rfl)
    payload.retention (fun key hkey => ?_) (printable_small rfl rfl)
  · simp only [replicated, List.mem_cons, List.not_mem_nil, or_false] at hsink hs
    rcases hsink with rfl | rfl <;> rcases hs with rfl | rfl
    · exact hne rfl
    · exact absurd hbucket (by decide)
    · exact absurd hbucket (by decide)
    · exact hne rfl
  · simp only [replicated, List.mem_cons, List.not_mem_nil, or_false] at hsink
    rcases hsink with rfl | rfl
    · simp only [retryAnswers, if_true, hkey]
    · have hne : replica.destinationId ≠ primary.destinationId := by decide
      simp only [retryAnswers, if_neg hne, hkey]

end Sample

/-- One copy was stored, the other was lost; the retry completes the publication. -/
theorem replication_contract_sample :
    ∃ p, (Sample.replicated.publish Sample.publicationPlatform Sample.checkpoint
      (Sample.retryAnswers Sample.partialStore) (Runs.run
        (Sample.replicated.step Sample.publicationPlatform) (fun _ => none)
        [(Sample.checkpoint, Sample.partialAnswers)])).1 = .ok p :=
  (replication_contract Sample.publicationPlatform Sample.replicated Sample.checkpoint).retryable
    [(Sample.checkpoint, Sample.partialAnswers)] (fun _ => none)
    (Sample.retryAnswers Sample.partialStore) (fun _ => true) Sample.withinBounds
    (fun i hi => .inl (by rw [List.mem_singleton.mp hi]))
    (fun sink hsink _ => Sample.behaves_retry sink hsink) (by decide)

end AEControl.Evidence
