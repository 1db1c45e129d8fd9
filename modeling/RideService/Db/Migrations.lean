import Mathlib.Data.String.Basic
import Mathlib.Data.List.Sort

/-!
# `DB.RunMigrations`: the migrations of `pkg/db`

`RunMigrations` (`postgres.go:39`) makes sure `schema_migrations` exists, lists the `.sql`
files of the embedded `migrations` directory, sorts their names with `sort.Strings`, and for
each name asks `SELECT COUNT(*) … WHERE version=$1`. A file with a row is skipped; any other
file has its SQL run, and then its name inserted as a version. The first error ends the run,
except the error of the `COUNT` query, which the code drops: `count` then stays `0`.

The database is what `RunMigrations` sees of it: the versions of `schema_migrations`, distinct
by its `PRIMARY KEY`, and the list of statements the code has sent, in order. Every failure
is an input of the run (`MigrationFaults`); a failed statement changes no table.

`sort.Strings` compares bytes. On UTF-8 text that is the order of code points, so a file name
is ordered by its list of characters (`sortLe`), and `V10_x.sql` comes before `V2_y.sql`:
the run applies files in the order of their names, not of their version numbers
(`versionsOutOfOrder`). What does hold for every directory and every prior content of the
table is `migrations_applied_once`.
-/

namespace RideService.Db

/-! ## Sorting file names -/

/-- The order `sort.Strings` sorts by: `a` before `b` unless `b < a`, with Go's `<` on
strings, bytewise, which on UTF-8 text is the order of the code points. -/
def sortLe (a b : String) : Prop := ¬ b.toList < a.toList

instance : DecidableRel sortLe := fun _ _ => inferInstanceAs (Decidable (¬ _))

/-- `sort.Strings` (`postgres.go:61`). Go's sort is not stable, but two names equal under
`sortLe` are equal, so every sort returns the same list (`sortStrings_unique`). -/
def sortStrings (l : List String) : List String := l.insertionSort sortLe

theorem sortLe_iff {a b : String} : sortLe a b ↔ a ≤ b := by
  rw [String.le_iff_toList_le, sortLe, not_lt]

instance : IsTotal String sortLe := ⟨fun a b => (le_total a b).imp sortLe_iff.2 sortLe_iff.2⟩

instance : IsTrans String sortLe := ⟨fun _ _ _ h₁ h₂ => sortLe_iff.2 ((sortLe_iff.1 h₁).trans (sortLe_iff.1 h₂))⟩

theorem sortStrings_perm (l : List String) : (sortStrings l).Perm l := List.perm_insertionSort _ l

theorem sortStrings_sorted (l : List String) : (sortStrings l).Sorted (· ≤ ·) :=
  (List.sorted_insertionSort sortLe l).imp sortLe_iff.1

/-- **Any sort gives the model's list.** A list of names has one sorted permutation. -/
theorem sortStrings_unique {l l' : List String} (hp : l'.Perm l) (hs : l'.Sorted (· ≤ ·)) :
    l' = sortStrings l :=
  List.eq_of_perm_of_sorted (hp.trans (sortStrings_perm l).symm) hs (sortStrings_sorted l)

/-! ## The directory, the table and the faults -/

/-- An entry of `fs.ReadDir`: its name, and whether it is a directory. -/
structure DirEntry where
  name : String
  isDir : Bool
  deriving DecidableEq, Repr

/-- The embedded `migrations` directory. Two entries of a directory have different names. -/
structure MigrationDir where
  entries : List DirEntry
  nodup : (entries.map DirEntry.name).Nodup

/-- `!e.IsDir() && strings.HasSuffix(e.Name(), ".sql")` (`postgres.go:57`). The suffix is
ASCII, so a suffix of the bytes is a suffix of the characters. -/
def isSqlFile (e : DirEntry) : Bool := !e.isDir && ".sql".toList.isSuffixOf e.name.toList

/-- The names the loop of `postgres.go:56` collects, in the directory's order. -/
def sqlFiles (entries : List DirEntry) : List String :=
  (entries.filter isSqlFile).map DirEntry.name

/-- A statement `RunMigrations` sends to the database. -/
inductive MigrationStmt
  /-- `CREATE TABLE IF NOT EXISTS schema_migrations (…)`. -/
  | create
  /-- `SELECT COUNT(*) FROM schema_migrations WHERE version=$1`. -/
  | count (file : String)
  /-- The file's own SQL. -/
  | exec (file : String)
  /-- `INSERT INTO schema_migrations (version) VALUES ($1)`. -/
  | record (file : String)
  deriving DecidableEq, Repr

/-- What `RunMigrations` sees of the database: the versions of `schema_migrations`, which
its `PRIMARY KEY` keeps distinct, and the statements sent so far, oldest first. A table that
does not exist yet reads as an empty one once `CREATE TABLE IF NOT EXISTS` has run. -/
structure MigrationDb where
  versions : List String
  nodup : versions.Nodup
  sent : List MigrationStmt

/-- Which statements and reads of one run fail. The `COUNT` query, the file's SQL and the
`INSERT` are asked once per file in a run, so a failure is a function of the file. -/
structure MigrationFaults where
  create : Bool
  readDir : Bool
  count : String → Bool
  readFile : String → Bool
  exec : String → Bool
  record : String → Bool

/-- A run where nothing fails. -/
def MigrationFaults.none : MigrationFaults :=
  ⟨false, false, fun _ => false, fun _ => false, fun _ => false, fun _ => false⟩

/-- The code sends a statement. -/
def MigrationDb.send (db : MigrationDb) (s : MigrationStmt) : MigrationDb :=
  { db with sent := db.sent ++ [s] }

/-- The row the `INSERT` adds; the `PRIMARY KEY` refuses a version that is there. -/
def MigrationDb.insert (db : MigrationDb) (file : String) : Option MigrationDb :=
  if h : file ∈ db.versions then none
  else some { db with
    versions := db.versions ++ [file]
    nodup := db.nodup.append (List.nodup_singleton file)
      fun _ hv hf => h (List.mem_singleton.1 hf ▸ hv) }

@[simp] theorem MigrationDb.send_sent (db : MigrationDb) (s : MigrationStmt) :
    (db.send s).sent = db.sent ++ [s] := rfl

@[simp] theorem MigrationDb.send_versions (db : MigrationDb) (s : MigrationStmt) :
    (db.send s).versions = db.versions := rfl

theorem MigrationDb.insert_of_not_mem {db : MigrationDb} {file : String} (h : file ∉ db.versions) :
    ∃ db', db.insert file = some db' ∧ db'.versions = db.versions ++ [file] ∧ db'.sent = db.sent := by
  simp [MigrationDb.insert, h]

/-! ## The run -/

/-- `count` after the query of `postgres.go:65`: the rows of `file`, or `0` when the query
fails, since `Scan`'s error is dropped. -/
def countRows (faults : MigrationFaults) (file : String) (db : MigrationDb) : Nat :=
  if faults.count file then 0 else db.versions.count file

/-- A file that counted no row (`postgres.go:71`): read it, run its SQL, insert its name. The
database after it, and the error that ends the run, if any; the texts are those `fmt.Errorf`
puts before the wrapped error. -/
def applyFile (faults : MigrationFaults) (file : String) (db : MigrationDb) :
    MigrationDb × Option String :=
  if faults.readFile file then (db, some ("read " ++ file))
  else
    let db := db.send (.exec file)
    if faults.exec file then (db, some ("exec " ++ file))
    else
      let db := db.send (.record file)
      if faults.record file then (db, some ("record " ++ file))
      else match db.insert file with
        | some db => (db, none)
        | none => (db, some ("record " ++ file))

/-- One file of the loop (`postgres.go:64`). -/
def migrateFile (faults : MigrationFaults) (file : String) (db : MigrationDb) :
    MigrationDb × Option String :=
  let db := db.send (.count file)
  if 0 < countRows faults file db then (db, none) else applyFile faults file db

/-- The loop of `postgres.go:63` over the sorted names. -/
def applyMigrations (faults : MigrationFaults) :
    List String → MigrationDb → MigrationDb × Except String Unit
  | [], db => (db, .ok ())
  | file :: files, db =>
    match migrateFile faults file db with
    | (db, none) => applyMigrations faults files db
    | (db, some e) => (db, .error e)

/-- `DB.RunMigrations` (`postgres.go:39`). -/
def runMigrations (faults : MigrationFaults) (dir : MigrationDir) (db : MigrationDb) :
    MigrationDb × Except String Unit :=
  let db := db.send .create
  if faults.create then (db, .error "create schema_migrations")
  else if faults.readDir then (db, .error "read migrations dir")
  else applyMigrations faults (sortStrings (sqlFiles dir.entries)) db

/-! ## What a run sends -/

/-- The statements sent since `db`. -/
def MigrationDb.sentSince (db' db : MigrationDb) : List MigrationStmt := db'.sent.drop db.sent.length

/-- The file whose SQL a statement runs. -/
def MigrationStmt.executed? : MigrationStmt → Option String
  | .exec file => some file
  | _ => none

/-- The files whose SQL the statements run, in order. -/
def executedFiles (stmts : List MigrationStmt) : List String := stmts.filterMap MigrationStmt.executed?

/-- The statements for one file: the `COUNT`, and for a file not among `recorded`, its SQL
and then its `INSERT`. -/
def fileStmts (recorded : List String) (file : String) : List MigrationStmt :=
  if file ∈ recorded then [.count file] else [.count file, .exec file, .record file]

/-- Every statement that runs a file's SQL is followed right away by the `INSERT` of it. -/
def RecordedAfterExec (stmts : List MigrationStmt) : Prop :=
  ∀ i file, stmts[i]? = some (.exec file) → stmts[i + 1]? = some (.record file)

theorem recordedAfterExec_cons {s : MigrationStmt} {stmts : List MigrationStmt}
    (hs : ∀ file, s = .exec file → stmts[0]? = some (.record file)) (h : RecordedAfterExec stmts) :
    RecordedAfterExec (s :: stmts) := by
  rintro (_ | i) file hi
  · rw [List.getElem?_cons_zero, Option.some.injEq] at hi
    rw [List.getElem?_cons_succ]; exact hs file hi
  · rw [List.getElem?_cons_succ] at hi ⊢; exact h i file hi

theorem recordedAfterExec_fileStmts (recorded : List String) :
    ∀ files : List String, RecordedAfterExec (files.flatMap (fileStmts recorded))
  | [] => fun _ _ h => nomatch h
  | file :: files => by
    have h := recordedAfterExec_fileStmts recorded files
    rw [List.flatMap_cons, fileStmts]
    split
    · exact recordedAfterExec_cons (fun _ e => nomatch e) h
    · refine recordedAfterExec_cons (fun _ e => nomatch e) (recordedAfterExec_cons ?_
        (recordedAfterExec_cons (fun _ e => nomatch e) h))
      rintro _ ⟨⟩; simp

theorem executedFiles_fileStmts (recorded : List String) (files : List String) :
    executedFiles (files.flatMap (fileStmts recorded)) = files.filter (· ∉ recorded) := by
  induction files with
  | nil => rfl
  | cons file files ih =>
    simp only [executedFiles, List.flatMap_cons, List.filterMap_append] at ih ⊢
    rw [ih, fileStmts]
    by_cases h : file ∈ recorded <;> simp [h, MigrationStmt.executed?]

section
variable {faults : MigrationFaults} {file : String} {db : MigrationDb}

theorem countRows_pos (h : 0 < countRows faults file db) : file ∈ db.versions := by
  unfold countRows at h
  split at h
  · cases h
  · exact List.count_pos_iff.1 h

theorem countRows_eq_zero (h : ¬ 0 < countRows faults file db) :
    file ∉ db.versions ∨ faults.count file = true := by
  unfold countRows at h
  split at h
  · exact .inr ‹_›
  · exact .inl fun hv => h (List.count_pos_iff.2 hv)

/-- **What a file without a row can do.** Either it runs its SQL and is recorded, or it
stops the run having sent part of that, and recorded nothing. -/
theorem applyFile_cases (faults : MigrationFaults) (file : String) (db : MigrationDb) :
    ((applyFile faults file db).2 = none ∧ file ∉ db.versions ∧
        (applyFile faults file db).1.sent = db.sent ++ [.exec file, .record file] ∧
        (applyFile faults file db).1.versions = db.versions ++ [file]) ∨
      ((applyFile faults file db).2.isSome ∧ (applyFile faults file db).1.versions = db.versions ∧
        ∃ new ⊆ [.exec file, .record file], (applyFile faults file db).1.sent = db.sent ++ new) := by
  unfold applyFile
  dsimp only
  split_ifs
  · exact .inr ⟨rfl, rfl, [], by simp, by simp⟩
  · exact .inr ⟨rfl, rfl, [.exec file], by simp, by simp⟩
  · exact .inr ⟨rfl, rfl, [.exec file, .record file], by simp, by simp⟩
  · by_cases hv : file ∈ db.versions
    · have hi : ((db.send (.exec file)).send (.record file)).insert file = none := dif_pos hv
      rw [hi]
      exact .inr ⟨rfl, rfl, [.exec file, .record file], by simp, by simp⟩
    · obtain ⟨db', hi, hvs, hs⟩ :=
        @MigrationDb.insert_of_not_mem ((db.send (.exec file)).send (.record file)) file hv
      rw [hi]
      exact .inl ⟨rfl, hv, by simp [hs], by simp [hvs]⟩

/-- **A file that lets the run go on** sent its `COUNT`, and if it had no row, its SQL and
its `INSERT`, which added its row. -/
theorem migrateFile_continue (h : (migrateFile faults file db).2 = none) :
    (migrateFile faults file db).1.sent = db.sent ++ fileStmts db.versions file ∧
      (migrateFile faults file db).1.versions =
        if file ∈ db.versions then db.versions else db.versions ++ [file] := by
  unfold migrateFile at h ⊢
  dsimp only at h ⊢
  by_cases hc : 0 < countRows faults file (db.send (.count file))
  · have hv : file ∈ db.versions := countRows_pos hc
    simp [hc, fileStmts, hv]
  · rw [if_neg hc] at h ⊢
    rcases applyFile_cases faults file (db.send (.count file)) with
      ⟨-, hv, hs, hvs⟩ | ⟨he, -⟩
    · simp only [MigrationDb.send_versions] at hv hvs
      simp [hs, hvs, fileStmts, hv]
    · rw [h] at he; cases he

/-- Whatever its outcome, a file adds to what was sent, and sends its SQL only when it had
no row or its `COUNT` failed. -/
theorem migrateFile_sent (faults : MigrationFaults) (file : String) (db : MigrationDb) :
    ∃ new, (migrateFile faults file db).1.sent = db.sent ++ new ∧
      ∀ f, .exec f ∈ new → f = file ∧ (file ∉ db.versions ∨ faults.count file = true) := by
  unfold migrateFile
  dsimp only
  split_ifs with hc
  · exact ⟨[.count file], by simp, by simp⟩
  · have hrow := countRows_eq_zero hc
    simp only [MigrationDb.send_versions] at hrow
    have hexec : ∀ new ⊆ [MigrationStmt.exec file, .record file], ∀ f,
        .exec f ∈ .count file :: new → f = file ∧ (file ∉ db.versions ∨ faults.count file = true) :=
      fun new hn f hf => by
        rcases List.mem_cons.1 hf with h | h
        · cases h
        · rcases List.mem_pair.1 (hn h) with h | h <;> cases h
          exact ⟨rfl, hrow⟩
    rcases applyFile_cases faults file (db.send (.count file)) with
      ⟨-, -, hs, -⟩ | ⟨-, -, new, hn, hs⟩
    · exact ⟨_, by simp [hs], hexec _ (List.Subset.refl _)⟩
    · exact ⟨_, by simp [hs], hexec new hn⟩

/-- A file never removes a version. -/
theorem migrateFile_versions_sub (faults : MigrationFaults) (file : String) (db : MigrationDb) :
    db.versions ⊆ (migrateFile faults file db).1.versions := by
  unfold migrateFile
  dsimp only
  split_ifs
  · exact List.Subset.refl _
  · rcases applyFile_cases faults file (db.send (.count file)) with
      ⟨-, -, -, hv⟩ | ⟨-, hv, -⟩ <;> rw [hv]
    · exact List.subset_append_left _ _
    · exact List.Subset.refl _

end

section
variable {faults : MigrationFaults} {files : List String} {db db' : MigrationDb}

/-- **A loop that succeeds** sent, for every file in turn, what `fileStmts` says, and
recorded every file that had no row. -/
theorem applyMigrations_ok (hnd : files.Nodup) (h : applyMigrations faults files db = (db', .ok ())) :
    db'.sent = db.sent ++ files.flatMap (fileStmts db.versions) ∧
      db'.versions = db.versions ++ files.filter (· ∉ db.versions) := by
  induction files generalizing db with
  | nil => cases h; simp
  | cons file files ih =>
    obtain ⟨hf, hnd⟩ := List.nodup_cons.1 hnd
    rw [applyMigrations] at h
    rcases hm : migrateFile faults file db with ⟨d, _ | e⟩ <;> rw [hm] at h
    · obtain ⟨hs, hv⟩ := migrateFile_continue (by rw [hm])
      rw [hm] at hs hv
      dsimp only at hs hv
      obtain ⟨ihs, ihv⟩ := ih hnd h
      /- the rest of the files have the same rows before and after this one -/
      have hrest : ∀ f ∈ files, (f ∈ d.versions ↔ f ∈ db.versions) := fun f hf' => by
        have hne : f ≠ file := fun e => hf (e ▸ hf')
        rw [hv]; split <;> simp [hne]
      have hstmts : files.flatMap (fileStmts d.versions) = files.flatMap (fileStmts db.versions) :=
        List.flatMap_congr fun f hf' => by simp only [fileStmts, hrest f hf']
      have hfilter : files.filter (· ∉ d.versions) = files.filter (· ∉ db.versions) :=
        List.filter_congr fun f hf' => by simp only [hrest f hf']
      refine ⟨by rw [ihs, hs, hstmts, List.flatMap_cons, List.append_assoc], ?_⟩
      rw [ihv, hfilter, hv, List.filter_cons]
      by_cases hv' : file ∈ db.versions <;> simp [hv']
    · cases h

/-- Whatever its outcome, the loop sends SQL only for its files, each without a row or with a
failed `COUNT`. -/
theorem applyMigrations_sent (faults : MigrationFaults) (files : List String) (db : MigrationDb) :
    ∃ new, (applyMigrations faults files db).1.sent = db.sent ++ new ∧
      ∀ f, .exec f ∈ new → f ∈ files ∧ (f ∉ db.versions ∨ faults.count f = true) := by
  induction files generalizing db with
  | nil => exact ⟨[], by simp [applyMigrations], by simp⟩
  | cons file files ih =>
    obtain ⟨new, hs, hn⟩ := migrateFile_sent faults file db
    have hsub := migrateFile_versions_sub faults file db
    rw [applyMigrations]
    rcases hm : migrateFile faults file db with ⟨d, _ | e⟩ <;> rw [hm] at hs hsub
    · obtain ⟨new', hs', hn'⟩ := ih d
      refine ⟨new ++ new', by rw [hs', hs, List.append_assoc], fun f hf => ?_⟩
      rcases List.mem_append.1 hf with hf | hf
      · obtain ⟨rfl, h⟩ := hn f hf
        exact ⟨List.mem_cons_self _ _, h⟩
      · obtain ⟨hm, h⟩ := hn' f hf
        exact ⟨List.mem_cons_of_mem _ hm, h.imp_left fun h' hv => h' (hsub hv)⟩
    · refine ⟨new, hs, fun f hf => ?_⟩
      obtain ⟨rfl, h⟩ := hn f hf
      exact ⟨List.mem_cons_self _ _, h⟩

end

theorem sentSince_of_append {db db' : MigrationDb} {new : List MigrationStmt}
    (h : db'.sent = db.sent ++ new) : db'.sentSince db = new := by
  rw [MigrationDb.sentSince, h, List.drop_left]

theorem sqlFiles_nodup (dir : MigrationDir) : (sortStrings (sqlFiles dir.entries)).Nodup :=
  (sortStrings_perm _).nodup_iff.2 (dir.nodup.sublist ((List.filter_sublist _).map _))

section
variable {faults : MigrationFaults} {dir : MigrationDir} {db db' : MigrationDb}

/-- A run that succeeds got past its `CREATE TABLE` and its `ReadDir`, and its loop
succeeded. -/
theorem runMigrations_ok (h : runMigrations faults dir db = (db', .ok ())) :
    applyMigrations faults (sortStrings (sqlFiles dir.entries)) (db.send .create) = (db', .ok ()) := by
  simp only [runMigrations] at h
  split at h
  · cases h
  split at h
  · cases h
  exact h

/-- Whatever its outcome, a run sends its `CREATE TABLE`, and then SQL only for `.sql` files
of the directory, each without a row or with a failed `COUNT`. -/
theorem runMigrations_sent (faults : MigrationFaults) (dir : MigrationDir) (db : MigrationDb) :
    ∃ new, (runMigrations faults dir db).1.sentSince db = .create :: new ∧
      ∀ f, .exec f ∈ new → f ∈ sortStrings (sqlFiles dir.entries) ∧
        (f ∉ db.versions ∨ faults.count f = true) := by
  simp only [runMigrations]
  split
  · exact ⟨[], sentSince_of_append (MigrationDb.send_sent db _), by simp⟩
  split
  · exact ⟨[], sentSince_of_append (MigrationDb.send_sent db _), by simp⟩
  obtain ⟨new, hs, hn⟩ := applyMigrations_sent faults _ (db.send .create)
  exact ⟨new, sentSince_of_append (by simp [hs]), hn⟩

end

/-- **What a successful `RunMigrations` does**, for every directory, every prior content of
`schema_migrations` and every failure it survives: it runs the SQL of exactly the `.sql`
files with no row, each once, in ascending order of their names, each followed right away by
its `INSERT`; the table then holds every `.sql` file, so a second run sends no file's SQL
unless that file's `COUNT` query fails (whose error the code drops). -/
theorem migrations_applied_once {faults : MigrationFaults} {dir : MigrationDir}
    {db db' : MigrationDb} (h : runMigrations faults dir db = (db', .ok ())) :
    executedFiles (db'.sentSince db) = (sortStrings (sqlFiles dir.entries)).filter (· ∉ db.versions) ∧
      (executedFiles (db'.sentSince db)).Sorted (· < ·) ∧
      RecordedAfterExec (db'.sentSince db) ∧
      db'.versions = db.versions ++ executedFiles (db'.sentSince db) ∧
      ∀ (faults' : MigrationFaults) (f : String),
        .exec f ∈ (runMigrations faults' dir db').1.sentSince db' → faults'.count f = true := by
  obtain ⟨hs, hv⟩ := applyMigrations_ok (sqlFiles_nodup dir) (runMigrations_ok h)
  simp only [MigrationDb.send_sent, MigrationDb.send_versions, List.append_assoc,
    List.singleton_append] at hs hv
  have hsince := sentSince_of_append hs
  have hexec : executedFiles (db'.sentSince db) =
      (sortStrings (sqlFiles dir.entries)).filter (· ∉ db.versions) := by
    rw [hsince, executedFiles, List.filterMap_cons, ← executedFiles, executedFiles_fileStmts]
    rfl
  refine ⟨hexec, ?_, ?_, by rw [hv, hexec], fun faults' f hf => ?_⟩
  · rw [hexec]
    exact ((sortStrings_sorted _).lt_of_le (sqlFiles_nodup dir)).filter _
  · rw [hsince]
    exact recordedAfterExec_cons (fun _ e => nomatch e) (recordedAfterExec_fileStmts _ _)
  · /- every file of the directory has a row now -/
    have hrec : ∀ g ∈ sortStrings (sqlFiles dir.entries), g ∈ db'.versions := fun g hg => by
      rw [hv]
      by_cases hg' : g ∈ db.versions
      · exact List.mem_append_left _ hg'
      · exact List.mem_append_right _ (List.mem_filter.2 ⟨hg, by simpa using hg'⟩)
    obtain ⟨new, hs', hn⟩ := runMigrations_sent faults' dir db'
    rw [hs'] at hf
    obtain ⟨hm, h'⟩ := hn f (List.mem_of_ne_of_mem (by simp) hf)
    exact h'.resolve_left fun h'' => h'' (hrec f hm)

/-! ## Runs on fixed inputs -/

/-- A `schema_migrations` with the given distinct versions, before any statement. -/
def MigrationDb.ofVersions (versions : List String) (h : versions.Nodup) : MigrationDb :=
  ⟨versions, h, []⟩

/-- The repository's own `migrations` directory. -/
def shippedMigrations : MigrationDir :=
  ⟨[⟨"V2_create_drivers.sql", false⟩, ⟨"V3_create_trips.sql", false⟩], by decide⟩

/-- A database where `V2_create_drivers.sql` has run. -/
def driversMigrated : MigrationDb := .ofVersions ["V2_create_drivers.sql"] (by decide)

/-- From a table that records `V2`, a run of the shipped directory applies `V3` alone. -/
theorem shippedMigrations_applied :
    executedFiles ((runMigrations .none shippedMigrations driversMigrated).1.sentSince driversMigrated) =
        (sortStrings (sqlFiles shippedMigrations.entries)).filter (· ∉ driversMigrated.versions) ∧
      (executedFiles ((runMigrations .none shippedMigrations driversMigrated).1.sentSince
        driversMigrated)).Sorted (· < ·) ∧
      RecordedAfterExec ((runMigrations .none shippedMigrations driversMigrated).1.sentSince
        driversMigrated) ∧
      (runMigrations .none shippedMigrations driversMigrated).1.versions = driversMigrated.versions ++
        executedFiles ((runMigrations .none shippedMigrations driversMigrated).1.sentSince
          driversMigrated) ∧
      ∀ (faults' : MigrationFaults) (f : String),
        .exec f ∈ (runMigrations faults' shippedMigrations
            (runMigrations .none shippedMigrations driversMigrated).1).1.sentSince
          (runMigrations .none shippedMigrations driversMigrated).1 → faults'.count f = true :=
  migrations_applied_once (show runMigrations .none shippedMigrations driversMigrated =
    ((runMigrations .none shippedMigrations driversMigrated).1, .ok ()) from rfl)

/-- A directory with a two-digit version next to the shipped ones, as `fs.ReadDir` lists it. -/
def twoDigitMigrations : MigrationDir :=
  ⟨[⟨"V10_add_trip_index.sql", false⟩, ⟨"V2_create_drivers.sql", false⟩,
    ⟨"V3_create_trips.sql", false⟩], by decide⟩

/-- From an empty table, the run goes through and applies `V10` before `V2` and `V3`. -/
theorem versionsOutOfOrder :
    (runMigrations .none twoDigitMigrations (.ofVersions [] .nil)).2 = .ok () ∧
      executedFiles (runMigrations .none twoDigitMigrations (.ofVersions [] .nil)).1.sent =
        ["V10_add_trip_index.sql", "V2_create_drivers.sql", "V3_create_trips.sql"] :=
  ⟨rfl, rfl⟩


/-! ## What a run that fails leaves

The code runs a file's SQL and inserts its version as two statements with no transaction
around them, so a run that fails can leave a file's SQL run and its row missing. It is at most
one file, the last one the run ran, and the run's error then says `record` and names it
(`migrations_record_ran_sql`). -/

/-- The files whose SQL the statements ran to the end: `faults.exec` is the SQL that fails,
and a failed statement changes no table. -/
def ranFiles (faults : MigrationFaults) (stmts : List MigrationStmt) : List String :=
  (executedFiles stmts).filter fun f => !faults.exec f

@[simp] theorem ranFiles_append (faults : MigrationFaults) (s t : List MigrationStmt) :
    ranFiles faults (s ++ t) = ranFiles faults s ++ ranFiles faults t := by
  simp [ranFiles, executedFiles, List.filterMap_append]

@[simp] theorem ranFiles_nil (faults : MigrationFaults) : ranFiles faults [] = [] := rfl

@[simp] theorem ranFiles_count (faults : MigrationFaults) (file : String) (s : List MigrationStmt) :
    ranFiles faults (.count file :: s) = ranFiles faults s := rfl

@[simp] theorem ranFiles_create (faults : MigrationFaults) (s : List MigrationStmt) :
    ranFiles faults (.create :: s) = ranFiles faults s := rfl

@[simp] theorem ranFiles_record (faults : MigrationFaults) (file : String) (s : List MigrationStmt) :
    ranFiles faults (.record file :: s) = ranFiles faults s := rfl

theorem ranFiles_exec {faults : MigrationFaults} {file : String} (s : List MigrationStmt) :
    ranFiles faults (.exec file :: s) =
      if faults.exec file then ranFiles faults s else file :: ranFiles faults s := by
  by_cases h : faults.exec file <;> simp [ranFiles, executedFiles, MigrationStmt.executed?, h]

/-- A file without a row adds to `schema_migrations` the file if it ran its SQL, unless the
`INSERT` after the SQL failed, and then its error says `record`. -/
theorem applyFile_records (faults : MigrationFaults) (file : String) (db : MigrationDb) :
    ∃ new, (applyFile faults file db).1.sent = db.sent ++ new ∧
      ((applyFile faults file db).1.versions = db.versions ++ ranFiles faults new ∨
        (applyFile faults file db).2 = some ("record " ++ file) ∧
          (applyFile faults file db).1.versions ++ [file] = db.versions ++ ranFiles faults new) := by
  unfold applyFile
  dsimp only
  split_ifs with hr he hrec
  · exact ⟨[], by simp, .inl (by simp)⟩
  · exact ⟨[.exec file], by simp, .inl (by simp [ranFiles_exec, he])⟩
  · exact ⟨[.exec file, .record file], by simp, .inr ⟨rfl, by simp [ranFiles_exec, he]⟩⟩
  · have hran : ranFiles faults [.exec file, .record file] = [file] := by
      simp [ranFiles_exec, he, ranFiles, executedFiles, MigrationStmt.executed?]
    by_cases hv : file ∈ db.versions
    · have hi : ((db.send (.exec file)).send (.record file)).insert file = none := dif_pos hv
      rw [hi]
      exact ⟨[.exec file, .record file], by simp, .inr ⟨rfl, by simp [hran]⟩⟩
    · obtain ⟨db', hi, hvs, hs⟩ :=
        @MigrationDb.insert_of_not_mem ((db.send (.exec file)).send (.record file)) file hv
      rw [hi]
      exact ⟨[.exec file, .record file], by simp [hs], .inl (by simp [hvs, hran])⟩

/-- The same for a file of the loop, whose `COUNT` comes first. -/
theorem migrateFile_records (faults : MigrationFaults) (file : String) (db : MigrationDb) :
    ∃ new, (migrateFile faults file db).1.sent = db.sent ++ new ∧
      ((migrateFile faults file db).1.versions = db.versions ++ ranFiles faults new ∨
        (migrateFile faults file db).2 = some ("record " ++ file) ∧
          (migrateFile faults file db).1.versions ++ [file] = db.versions ++ ranFiles faults new) := by
  unfold migrateFile
  dsimp only
  split_ifs
  · exact ⟨[.count file], by simp, .inl (by simp)⟩
  · obtain ⟨new, hs, hv⟩ := applyFile_records faults file (db.send (.count file))
    refine ⟨.count file :: new, by simp [hs], ?_⟩
    simpa only [MigrationDb.send_versions, ranFiles_count] using hv

/-- Whatever its outcome, the loop adds to `schema_migrations` the files whose SQL it ran,
save the last when the run ends with an error that says `record` and names it. -/
theorem applyMigrations_records (faults : MigrationFaults) (files : List String) (db : MigrationDb) :
    ∃ new, (applyMigrations faults files db).1.sent = db.sent ++ new ∧
      ((applyMigrations faults files db).1.versions = db.versions ++ ranFiles faults new ∨
        ∃ f, (applyMigrations faults files db).2 = .error ("record " ++ f) ∧
          (applyMigrations faults files db).1.versions ++ [f] = db.versions ++ ranFiles faults new) := by
  induction files generalizing db with
  | nil => exact ⟨[], by simp [applyMigrations], .inl (by simp [applyMigrations])⟩
  | cons file files ih =>
    obtain ⟨new, hs, hv⟩ := migrateFile_records faults file db
    rw [applyMigrations]
    rcases hm : migrateFile faults file db with ⟨d, _ | e⟩ <;> rw [hm] at hs hv <;> dsimp only at hs hv ⊢
    · obtain ⟨new', hs', hv'⟩ := ih d
      have hd : d.versions = db.versions ++ ranFiles faults new :=
        hv.resolve_right fun ⟨h, _⟩ => nomatch h
      refine ⟨new ++ new', by rw [hs', hs, List.append_assoc], ?_⟩
      rw [ranFiles_append, ← List.append_assoc, ← hd]
      exact hv'
    · exact ⟨new, hs, hv.imp_right fun ⟨h, hf⟩ => ⟨file, by rw [Option.some.inj h], hf⟩⟩

/-- **What any run leaves in `schema_migrations`**, whatever fails: the table gains exactly the
files whose SQL the run ran, in that order, except when the run ends with the error
`record <f>`, where `f`, the last of them, may have no row. -/
theorem migrations_record_ran_sql (faults : MigrationFaults) (dir : MigrationDir) (db : MigrationDb) :
    (runMigrations faults dir db).1.versions =
        db.versions ++ ranFiles faults ((runMigrations faults dir db).1.sentSince db) ∨
      ∃ f, (runMigrations faults dir db).2 = .error ("record " ++ f) ∧
        (runMigrations faults dir db).1.versions ++ [f] =
          db.versions ++ ranFiles faults ((runMigrations faults dir db).1.sentSince db) := by
  have hcreate : (db.send .create).sentSince db = [.create] :=
    sentSince_of_append (MigrationDb.send_sent db _)
  simp only [runMigrations]
  split
  · exact .inl (by simp [hcreate])
  split
  · exact .inl (by simp [hcreate])
  obtain ⟨new, hs, hv⟩ := applyMigrations_records faults (sortStrings (sqlFiles dir.entries)) (db.send .create)
  rw [sentSince_of_append (show _ = db.sent ++ (.create :: new) by simp [hs])]
  simpa only [MigrationDb.send_versions, ranFiles_create] using hv

/-- A failed `INSERT` of `V3`: its SQL ran, the table has no row for it, and the error names it. -/
example :
    (runMigrations ⟨false, false, fun _ => false, fun _ => false, fun _ => false,
        (· == "V3_create_trips.sql")⟩ shippedMigrations driversMigrated) =
      (⟨["V2_create_drivers.sql"], by decide, [.create, .count "V2_create_drivers.sql",
          .count "V3_create_trips.sql", .exec "V3_create_trips.sql", .record "V3_create_trips.sql"]⟩,
        .error "record V3_create_trips.sql") := rfl

end RideService.Db
