/-
  `guardrail_bundle_digest`: one SHA-256 over the files of a configuration directory.

  The directory is what `rglob` lists, in any order.  Each file is hashed as two frames, its path
  and its content, so the hashed bytes determine the files (`encoding_eq_iff`), whatever the
  contents imitate; the order of the paths does not depend on the listing (`sortedFiles_eq_iff`).

  1. **Directories** — a `BundleDirectory` carries what the code checks of a listing before it
     hashes: a configuration file, no links, distinct paths that UTF-8 has, sizes that fit in their
     fields.  For such a directory there is a digest (`digest_eq`).

  2. **Order** — the files are sorted by their paths, which are distinct, so two listings of the
     same files are hashed alike.

  3. **Frames** — a length of eight bytes stands before every path and every content, so the bytes
     are taken apart again (`Lib/Framing`), and UTF-8 is read back (`Lib/Unicode`).

  `bundleDigest_injective` is the three together.
-/
import Mathlib.Data.List.Lex
import Mathlib.Data.Set.Basic
import AEControl.Evidence.Integrity
import AEControl.Lib.Framing
import AEControl.Lib.Unicode

namespace AEControl.Guardrails

open Unicode Framing
open Evidence (HexDigest)

/-! ## The directory -/

/-- What stands at a path. -/
inductive Node where
  | directory
  /-- A regular file, by its octets. -/
  | file (content : List ℕ)
  /-- A symbolic link, and whether it leads to a regular file. -/
  | symlink (toFile : Bool)
  /-- A device, a pipe or a socket. -/
  | other
  deriving DecidableEq

/-- An item of `root.rglob("*")`: its relative path in posix form, as code points.  An octet of a
    name that is no UTF-8 is a lone surrogate. -/
structure Entry where
  path : List ℕ
  node : Node
  deriving DecidableEq

namespace Entry

def isSymlink (e : Entry) : Bool :=
  match e.node with
  | .symlink _ => true
  | _ => false

/-- `is_file` follows links. -/
def isFile (e : Entry) : Bool :=
  match e.node with
  | .file _ | .symlink true => true
  | _ => false

/-- The path and the content of a regular file. -/
def file (e : Entry) : Option (List ℕ × List ℕ) :=
  match e.node with
  | .file content => some (e.path, content)
  | _ => none

end Entry

/-- What `guardrail_bundle_digest` raises. -/
inductive BundleError where
  | valueError (message : String)
  /-- A name that is no UTF-8. -/
  | unicodeEncodeError
  /-- A size beyond eight bytes. -/
  | overflowError
  deriving DecidableEq

/-! ## The digest -/

def codePoints (s : String) : List ℕ := s.toList.map Char.toNat

/-- `any((root / name).is_file() for name in ("config.yml", "config.yaml"))`. -/
def hasConfig (entries : List Entry) : Bool :=
  entries.any fun e =>
    (e.path = codePoints "config.yml" || e.path = codePoints "config.yaml") && e.isFile

/-- `sorted(root.rglob("*"), key=…)`. -/
def candidates (entries : List Entry) : List Entry :=
  entries.insertionSort fun e f => e.path ≤ f.path

/-- `path.encode()`. -/
def encodePath (path : List ℕ) : Except BundleError (List ℕ) :=
  if ∀ c ∈ path, IsScalar c then .ok (encodeUtf8 path)
  else .error .unicodeEncodeError

/-- `n.to_bytes(8, "big")`. -/
def sizeBytes (n : ℕ) : Except BundleError (List ℕ) :=
  if n < 256 ^ 8 then .ok (bigEndian 8 n) else .error .overflowError

/-- What the loop hashes of one file. -/
def record (file : List ℕ × List ℕ) : Except BundleError (List ℕ) := do
  let relative ← encodePath file.1
  let relativeSize ← sizeBytes relative.length
  let contentSize ← sizeBytes file.2.length
  return relativeSize ++ relative ++ (contentSize ++ file.2)

/-- `guardrail_bundle_digest`; `none` is a path that is no directory. -/
def guardrailBundleDigest (sha256 : List ℕ → HexDigest) (root : String) :
    Option (List Entry) → Except BundleError HexDigest
  | none => .error (.valueError ("guardrail configuration directory does not exist: " ++ root))
  | some entries =>
    if !hasConfig entries then
      .error (.valueError "guardrail configuration requires config.yml or config.yaml")
    else if (candidates entries).any Entry.isSymlink then
      .error (.valueError "guardrail configuration bundles cannot contain symbolic links")
    else do
      let records ← ((candidates entries).filterMap Entry.file).mapM record
      return sha256 records.flatten

/-! ## Bundles -/

/-- A bundle directory: entries with distinct paths, a configuration, and no symbolic links, whose
    paths are text and whose sizes fit in eight bytes. -/
structure BundleDirectory where
  entries : List Entry
  distinct : (entries.map Entry.path).Nodup
  config : hasConfig entries = true
  noLinks : ∀ e ∈ entries, e.isSymlink = false
  text : ∀ e ∈ entries, ∀ file ∈ e.file, ∀ c ∈ file.1, IsScalar c
  pathSize : ∀ e ∈ entries, ∀ file ∈ e.file, (encodeUtf8 file.1).length < 256 ^ 8
  contentSize : ∀ e ∈ entries, ∀ file ∈ e.file, file.2.length < 256 ^ 8

namespace BundleDirectory

variable (B B' : BundleDirectory)

/-- The files of the bundle: their paths and contents. -/
def files : Set (List ℕ × List ℕ) := fun file => ∃ e ∈ B.entries, e.file = some file

/-- The files in the order they are hashed. -/
def sortedFiles : List (List ℕ × List ℕ) := (candidates B.entries).filterMap Entry.file

/-- The bytes that are hashed. -/
def encoding : List ℕ := frames 8 (B.sortedFiles.flatMap fun file => [encodeUtf8 file.1, file.2])

variable {B B'}

/-- An entry is a file exactly if it is one at this path. -/
theorem file_some {e : Entry} {file : List ℕ × List ℕ} :
    e.file = some file ↔ e.path = file.1 ∧ e.node = .file file.2 := by
  unfold Entry.file
  split
  · rename_i content hnode
    simp only [Option.some.injEq, hnode, Node.file.injEq]
    exact ⟨fun h => h ▸ ⟨rfl, rfl⟩, fun h => Prod.ext h.1 h.2⟩
  · rename_i hnode
    simp only [reduceCtorEq, false_iff, not_and]
    exact fun _ h => hnode _ h

/-- The walk visits every entry, in whatever order. -/
theorem mem_candidates {entries : List Entry} {e : Entry} : e ∈ candidates entries ↔ e ∈ entries :=
  List.mem_insertionSort _

/-- Sorting the files keeps them. -/
theorem mem_sortedFiles {file : List ℕ × List ℕ} : file ∈ B.sortedFiles ↔ file ∈ B.files := by
  simp only [sortedFiles, List.mem_filterMap, mem_candidates]
  rfl

/-- Leaving out what is no file keeps the order of the paths. -/
theorem keys_sortedFiles :
    (B.sortedFiles.map Prod.fst).Sublist ((candidates B.entries).map Entry.path) := by
  unfold sortedFiles
  induction candidates B.entries with
  | nil => exact List.Sublist.refl _
  | cons e es ih =>
    cases hfile : e.file with
    | none =>
      rw [List.filterMap_cons_none hfile]
      exact ih.cons _
    | some file =>
      rw [List.filterMap_cons_some hfile, List.map_cons, List.map_cons, (file_some.mp hfile).1]
      exact ih.cons_cons _

/-- The sorted files have one file at each path. -/
theorem sortedFiles_nodup : (B.sortedFiles.map Prod.fst).Nodup := by
  refine keys_sortedFiles.nodup ?_
  have hperm : ((candidates B.entries).map Entry.path).Perm (B.entries.map Entry.path) :=
    (List.perm_insertionSort _ _).map _
  exact hperm.nodup_iff.mpr B.distinct

/-- The sorted files stand in the order of their paths. -/
theorem sortedFiles_sorted : B.sortedFiles.Pairwise fun f g => f.1 ≤ g.1 := by
  have hsorted : ((candidates B.entries).map Entry.path).Pairwise (· ≤ ·) :=
    List.pairwise_map.mpr (List.pairwise_insertionSort _ _)
  exact List.pairwise_map.mp (hsorted.sublist keys_sortedFiles)

/-- **The order of the listing does not matter**: the files alone decide what is hashed. -/
theorem sortedFiles_eq_iff : B.sortedFiles = B'.sortedFiles ↔ B.files = B'.files := by
  constructor
  · intro h
    ext file
    rw [← mem_sortedFiles, ← mem_sortedFiles, h]
  · intro h
    have hmem : ∀ file, file ∈ B.sortedFiles ↔ file ∈ B'.sortedFiles := fun file => by
      rw [mem_sortedFiles, mem_sortedFiles, h]
    have hperm := (List.perm_ext_iff_of_nodup sortedFiles_nodup.of_map sortedFiles_nodup.of_map).mpr
      hmem
    exact eq_of_perm_of_sorted sortedFiles_nodup hperm sortedFiles_sorted sortedFiles_sorted

/-! ### The hashed bytes -/

/-- The record of a file is its path and its content, each with its length before it. -/
theorem record_of_mem {file : List ℕ × List ℕ} (h : file ∈ B.files) :
    record file = .ok (frames 8 [encodeUtf8 file.1, file.2]) := by
  obtain ⟨e, he, hfile⟩ := h
  have hpath : encodePath file.1 = .ok (encodeUtf8 file.1) := if_pos (B.text e he file hfile)
  have hrelative : sizeBytes (encodeUtf8 file.1).length = .ok (bigEndian 8 (encodeUtf8 file.1).length) :=
    if_pos (B.pathSize e he file hfile)
  have hcontent : sizeBytes file.2.length = .ok (bigEndian 8 file.2.length) :=
    if_pos (B.contentSize e he file hfile)
  simp only [record, hpath, hrelative, hcontent, bind, Except.bind, pure, Except.pure, frames_cons,
    frames_nil, frame, List.append_nil]

/-- **A bundle has a digest**, the SHA-256 of its encoding. -/
theorem digest_eq (sha256 : List ℕ → HexDigest) (root : String) :
    guardrailBundleDigest sha256 root (some B.entries) = .ok (sha256 B.encoding) := by
  have hlinks : (candidates B.entries).any Entry.isSymlink = false := by
    refine List.any_eq_false.mpr fun e he => ?_
    rw [B.noLinks e (mem_candidates.mp he)]
    exact Bool.false_ne_true
  have hrecords : B.sortedFiles.mapM record =
      .ok (B.sortedFiles.map fun file => frames 8 [encodeUtf8 file.1, file.2]) :=
    Raising.mapM_eq_map fun file hfile => record_of_mem (mem_sortedFiles.mp hfile)
  have hflatten : (B.sortedFiles.map fun file => frames 8 [encodeUtf8 file.1, file.2]).flatten =
      B.encoding := by
    unfold encoding
    induction B.sortedFiles with
    | nil => rfl
    | cons file rest ih =>
      rw [List.map_cons, List.flatten_cons, ih, List.flatMap_cons, frames_append]
  have hfiles : (candidates B.entries).filterMap Entry.file = B.sortedFiles := rfl
  simp only [guardrailBundleDigest, B.config, hlinks, hfiles, hrecords, hflatten, Bool.not_true,
    Bool.false_eq_true, if_false, bind, Except.bind, pure, Except.pure]

/-- Paths and contents, one after the other, are read back in pairs. -/
theorem files_eq_of_strings_eq {fs gs : List (List ℕ × List ℕ)}
    (hfs : ∀ f ∈ fs, ∀ c ∈ f.1, IsScalar c) (hgs : ∀ g ∈ gs, ∀ c ∈ g.1, IsScalar c)
    (h : (fs.flatMap fun f => [encodeUtf8 f.1, f.2]) = gs.flatMap fun g => [encodeUtf8 g.1, g.2]) :
    fs = gs := by
  induction fs generalizing gs with
  | nil =>
    cases gs with
    | nil => rfl
    | cons g gs => simp at h
  | cons f fs ih =>
    cases gs with
    | nil => simp at h
    | cons g gs =>
      obtain ⟨hf, hfs⟩ := List.forall_mem_cons.mp hfs
      obtain ⟨hg, hgs⟩ := List.forall_mem_cons.mp hgs
      simp only [List.flatMap_cons, List.cons_append, List.nil_append, List.cons.injEq] at h
      obtain ⟨hpath, hcontent, hrest⟩ := h
      have hdecoded := decodeUtf8_encodeUtf8 fun c hc => (hf c hc).le
      rw [hpath, decodeUtf8_encodeUtf8 fun c hc => (hg c hc).le] at hdecoded
      rw [ih hfs hgs hrest, Prod.ext (Option.some.inj hdecoded).symm hcontent]

/-- No text is longer than its length field can say. -/
theorem strings_size {x : List ℕ}
    (h : x ∈ B.sortedFiles.flatMap fun file => [encodeUtf8 file.1, file.2]) :
    x.length < 256 ^ 8 := by
  obtain ⟨file, hfile, hx⟩ := List.mem_flatMap.mp h
  obtain ⟨e, he, hsome⟩ := mem_sortedFiles.mp hfile
  rcases List.mem_cons.mp hx with rfl | hx
  · exact B.pathSize e he file hsome
  · rw [List.mem_singleton.mp hx]
    exact B.contentSize e he file hsome

/-- The paths of the sorted files are texts that UTF-8 has. -/
theorem text_of_sortedFiles {file : List ℕ × List ℕ} (h : file ∈ B.sortedFiles) :
    ∀ c ∈ file.1, IsScalar c := by
  obtain ⟨e, he, hsome⟩ := mem_sortedFiles.mp h
  exact B.text e he file hsome

/-- **The encoding is unambiguous**, for all paths and contents. -/
theorem encoding_eq_iff : B.encoding = B'.encoding ↔ B.files = B'.files := by
  rw [← sortedFiles_eq_iff]
  constructor
  · intro h
    have hstrings := frames_inj (Nat.succ_pos 7) (fun _ hx => strings_size hx)
      (fun _ hy => strings_size hy) h
    exact files_eq_of_strings_eq (fun _ hf => text_of_sortedFiles hf)
      (fun _ hg => text_of_sortedFiles hg) hstrings
  · intro h
    rw [encoding, encoding, h]

/-- The same directory, listed in another order. -/
def relisted {entries : List Entry} (h : entries.Perm B.entries) : BundleDirectory where
  entries
  distinct := (h.map Entry.path).nodup_iff.mpr B.distinct
  config := h.any_eq.trans B.config
  noLinks e he := B.noLinks e (h.mem_iff.mp he)
  text e he := B.text e (h.mem_iff.mp he)
  pathSize e he := B.pathSize e (h.mem_iff.mp he)
  contentSize e he := B.contentSize e (h.mem_iff.mp he)

/-- The order of a listing does not matter. -/
theorem encoding_relisted {entries : List Entry} (h : entries.Perm B.entries) :
    (B.relisted h).encoding = B.encoding :=
  encoding_eq_iff.mpr (Set.ext fun _ => exists_congr fun _ => and_congr_left fun _ => h.mem_iff)

end BundleDirectory

/-- **The bundle digest is injective.**  Two bundle directories, listed in any order, have one
    encoding exactly if they have the same files; and so one digest, SHA-256 being free of
    collisions on the two encodings. -/
theorem bundleDigest_injective {sha256 : List ℕ → HexDigest} (root root' : String)
    {B B' : BundleDirectory}
    (hcollision : sha256 B.encoding = sha256 B'.encoding → B.encoding = B'.encoding) :
    (B.encoding = B'.encoding ↔ B.files = B'.files) ∧
    ((∃ digest, guardrailBundleDigest sha256 root (some B.entries) = .ok digest ∧
      guardrailBundleDigest sha256 root' (some B'.entries) = .ok digest) ↔ B.files = B'.files) := by
  refine ⟨BundleDirectory.encoding_eq_iff, ?_⟩
  rw [BundleDirectory.digest_eq, BundleDirectory.digest_eq, ← BundleDirectory.encoding_eq_iff]
  constructor
  · rintro ⟨digest, hdigest, hdigest'⟩
    exact hcollision (Except.ok.inj (hdigest.trans hdigest'.symm))
  · intro h
    exact ⟨sha256 B.encoding, rfl, by rw [h]⟩

namespace Sample

/-- A configuration with one rail. -/
def entries : List Entry :=
  [⟨codePoints "config.yml", .file (codePoints "\x7b\x7d")⟩, ⟨codePoints "rails", .directory⟩,
    ⟨codePoints "rails/a.co", .file (codePoints "x")⟩]

/-- The paths of the sample bundle are distinct. -/
theorem distinct_entries : (entries.map Entry.path).Nodup := by decide
theorem hasConfig_entries : hasConfig entries = true := by decide
theorem noLinks_entries : ∀ e ∈ entries, e.isSymlink = false := by decide
theorem text_entries : ∀ e ∈ entries, ∀ file ∈ e.file, ∀ c ∈ file.1, IsScalar c := by decide
theorem pathSize_entries :
    ∀ e ∈ entries, ∀ file ∈ e.file, (encodeUtf8 file.1).length < 256 ^ 8 := by decide
theorem contentSize_entries : ∀ e ∈ entries, ∀ file ∈ e.file, file.2.length < 256 ^ 8 := by decide

def bundle : BundleDirectory :=
  ⟨entries, distinct_entries, hasConfig_entries, noLinks_entries, text_entries, pathSize_entries,
    contentSize_entries⟩

/-- The same directory, listed the other way round. -/
def relisted : BundleDirectory := bundle.relisted (List.reverse_perm entries)

/-- The listed digest has the form of one. -/
theorem isHexDigest_digest : Evidence.isHexDigest
    "2d0e81bb9e52bbd5c7c3b661df2f1f5226eef942b6eae1768ab79d0f4d62c35c" = true := by decide

def digest : HexDigest := ⟨_, isHexDigest_digest⟩

/-- SHA-256 on the encoding of the bundle. -/
def sha256 (bytes : List ℕ) : HexDigest :=
  if bytes = bundle.encoding then digest else Evidence.ledgerGenesisSha256

theorem encoding_relisted : bundle.encoding = relisted.encoding :=
  (bundle.encoding_relisted (List.reverse_perm entries)).symm

end Sample

/-- The two listings have one digest. -/
theorem bundleDigest_injective_relisted :
    (Sample.bundle.encoding = Sample.relisted.encoding ↔
      Sample.bundle.files = Sample.relisted.files) ∧
    ((∃ digest, guardrailBundleDigest Sample.sha256 "a" (some Sample.bundle.entries) = .ok digest ∧
      guardrailBundleDigest Sample.sha256 "b" (some Sample.relisted.entries) = .ok digest) ↔
        Sample.bundle.files = Sample.relisted.files) :=
  bundleDigest_injective "a" "b" fun _ => Sample.encoding_relisted

end AEControl.Guardrails
