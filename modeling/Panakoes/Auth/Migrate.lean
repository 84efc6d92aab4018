import Mathlib.Data.List.Lex
import Mathlib.Data.List.Sort
import Panakoes.Foundation.Run
import Panakoes.Foundation.Table

/-! # The migration runner

Runs of `runMigrations` over one database, any number at a time, each in a process that may die
between two of its queries. A transaction takes effect in one step, where it commits, or not at all;
its answer may be lost. What the SQL of a file does to the schema is not part of the model.
-/

namespace Panakoes.Auth.Migrate

open Transition

/-- A file of SQL. -/
structure File where
  name : String
  content : String
  deriving DecidableEq

/-- A directory, which holds one file of a name. -/
structure Directory where
  files : List File
  distinct : (files.map File.name).Nodup

/-- The UTF-16 units of a text. `sort` compares texts by them. -/
def units (text : String) : List ℕ :=
  text.toList.flatMap fun char =>
    if char.toNat < 0x10000 then [char.toNat]
    else [0xD800 + (char.toNat - 0x10000) / 0x400, 0xDC00 + (char.toNat - 0x10000) % 0x400]

/-- `allFiles.filter((name) => name.endsWith(".sql")).sort()`. -/
def Directory.migrations (directory : Directory) : List File :=
  (directory.files.filter fun file => ".sql".toList.isSuffixOf file.name.toList).insertionSort
    fun first second => units first.name ≤ units second.name

/-! ## The database -/

/-- The database: its schema, and the table `__migrations` once it is created, with the hash of each
file by its name. -/
structure Database (δ : Type*) where
  schema : δ
  migrations : Option (Table String String)

variable {δ ι : Type*} (sha256 : String → String) (runSql : String → δ → Except String δ)

/-- `MIGRATIONS_TABLE_DDL`. -/
def Database.createTable (database : Database δ) : Database δ :=
  { database with migrations := some (database.migrations.getD ∅) }

/-- The hash under which a file is recorded. -/
def Database.recorded (database : Database δ) (name : String) : Option String :=
  (database.migrations.getD ∅).lookup name

/-- The transaction of a file: its SQL, and its row, of which the name is the primary key. -/
def Database.transact (database : Database δ) (file : File) : Except String (Database δ) :=
  match runSql file.content database.schema with
  | .error message => .error message
  | .ok schema =>
      match database.migrations with
      | none => .error "relation \"__migrations\" does not exist"
      | some table =>
          if table.lookup file.name = none then
            .ok ⟨schema, some (table.insert file.name (sha256 file.content))⟩
          else .error "duplicate key value violates unique constraint \"__migrations_pkey\""

/-! ## A run -/

/-- What becomes of a query: the database answers it, or refuses it and nothing happens, or its answer
is lost behind what it does. -/
inductive Answer where
  | given
  | refused (message : String)
  | lost (message : String)

/-- The loop over the files: all of them, the snapshot, those to come, and the names in the result. -/
structure Loop where
  files : List File
  recorded : Table String String
  pending : List File
  applied : List String
  skipped : List String

/-- Where a run is. -/
inductive Phase where
  | ready
  | listed (files : List File)
  | created (files : List File)
  | looping (loop : Loop)
  | finished (files : List File) (applied skipped : List String)
  | failed (message : String)
  | dead

inductive Query where
  | list (databaseUrl : String) (listing : Except String Directory)
  | createTable (answer : Answer)
  | select (answer : Answer)
  | round (answer : Answer)
  | die

/-- What a query leaves: the run, the database, and the files whose transaction is committed. -/
structure Outcome (δ : Type*) where
  phase : Phase
  database : Database δ
  committed : List File

/-- The message of a migration that fails. -/
def failedMessage (name message : String) : String :=
  s!"migration {name} failed: {message}"

/-- The message of a file that is not what was applied. -/
def mismatchMessage (name : String) : String :=
  s!"migration {name} has been modified since it was applied (hash mismatch); " ++
    "refusing to continue"

/-- The transaction of a round. -/
def Loop.apply (loop : Loop) (database : Database δ) (file : File) (rest : List File) :
    Answer → Outcome δ
  | .refused message => ⟨.failed (failedMessage file.name message), database, []⟩
  | .given =>
      match database.transact sha256 runSql file with
      | .error message => ⟨.failed (failedMessage file.name message), database, []⟩
      | .ok changed =>
          ⟨.looping { loop with pending := rest, applied := loop.applied ++ [file.name] }, changed,
            [file]⟩
  | .lost message =>
      match database.transact sha256 runSql file with
      | .error _ => ⟨.failed (failedMessage file.name message), database, []⟩
      | .ok changed => ⟨.failed (failedMessage file.name message), changed, [file]⟩

/-- One round of the loop. -/
def Loop.round (loop : Loop) (database : Database δ) (answer : Answer) : Outcome δ :=
  match loop.pending with
  | [] => ⟨.finished loop.files loop.applied loop.skipped, database, []⟩
  | file :: rest =>
      match loop.recorded.lookup file.name with
      | some priorHash =>
          if priorHash ≠ sha256 file.content then
            ⟨.failed (mismatchMessage file.name), database, []⟩
          else
            ⟨.looping { loop with pending := rest, skipped := loop.skipped ++ [file.name] },
              database, []⟩
      | none => loop.apply sha256 runSql database file rest answer

/-- One step of a run. -/
def Phase.advance (database : Database δ) : Phase → Query → Option (Outcome δ)
  | .finished _ _ _, _ | .failed _, _ | .dead, _ => none
  | .ready, .list databaseUrl listing =>
      some
        ⟨if databaseUrl = "" then .failed "DATABASE_URL is required but was empty"
          else
            match listing with
            | .error message => .failed message
            | .ok directory => .listed directory.migrations,
          database, []⟩
  | .listed files, .createTable answer =>
      some <|
        match answer with
        | .given => ⟨.created files, database.createTable, []⟩
        | .refused message => ⟨.failed message, database, []⟩
        | .lost message => ⟨.failed message, database.createTable, []⟩
  | .created files, .select answer =>
      some <|
        match answer, database.migrations with
        | .given, some table => ⟨.looping ⟨files, table, files, [], []⟩, database, []⟩
        | .given, none => ⟨.failed "relation \"__migrations\" does not exist", database, []⟩
        | .refused message, _ | .lost message, _ => ⟨.failed message, database, []⟩
  | .looping loop, .round answer => some (loop.round sha256 runSql database answer)
  | _, .die => some ⟨.dead, database, []⟩
  | _, _ => none

/-- The database, the files whose transactions are committed, in their order, and the runs. -/
structure World (ι δ : Type*) where
  database : Database δ
  executed : List File
  runs : ι → Phase

structure Action (ι : Type*) where
  run : ι
  query : Query

/-- No run has started, and no migration was ever applied. -/
def World.start (schema : δ) : World ι δ := ⟨⟨schema, none⟩, [], fun _ => .ready⟩

variable [DecidableEq ι]

/-- One step of one of the runs. -/
def step (world : World ι δ) (action : Action ι) : Option (World ι δ) :=
  ((world.runs action.run).advance sha256 runSql world.database action.query).map fun outcome =>
    { database := outcome.database
      executed := world.executed ++ outcome.committed
      runs := Function.update world.runs action.run outcome.phase }

/-! ## What a transaction does -/

variable {sha256 : String → String} {runSql : String → δ → Except String δ}
  {database changed later : Database δ} {file : File} {phase : Phase} {query : Query}
  {outcome : Outcome δ}

/-- The table stays, and what is recorded in it stays recorded, under the same hash. -/
def Database.Keeps (database later : Database δ) : Prop :=
  (database.migrations ≠ none → later.migrations ≠ none) ∧
    ∀ name hash, database.recorded name = some hash → later.recorded name = some hash

theorem recorded_createTable (name : String) :
    database.createTable.recorded name = database.recorded name := rfl

/-- A transaction that commits runs the SQL of a file that is not recorded, and records it. -/
theorem transact_ok (committed : database.transact sha256 runSql file = .ok changed) :
    database.recorded file.name = none ∧
      runSql file.content database.schema = .ok changed.schema ∧ changed.migrations ≠ none ∧
      ∀ name, changed.recorded name =
        if name = file.name then some (sha256 file.content) else database.recorded name := by
  unfold Database.transact at committed
  split at committed
  · cases committed
  · rename_i schema ran
    split at committed
    · cases committed
    · rename_i table created
      split at committed
      · rename_i absent
        cases committed
        have read : ∀ name, database.recorded name = table.lookup name := by
          intro name
          unfold Database.recorded
          rw [created, Option.getD_some]
        refine ⟨(read _).trans absent, ran, Option.some_ne_none _, fun name => ?_⟩
        rw [read]
        split
        · rename_i same
          subst same
          exact AList.lookup_insert table
        · rename_i other
          exact AList.lookup_insert_ne other
      · cases committed

theorem keeps_transact (committed : database.transact sha256 runSql file = .ok changed) :
    database.Keeps changed := by
  obtain ⟨absent, -, present, read⟩ := transact_ok committed
  refine ⟨fun _ => present, fun name hash held => ?_⟩
  rw [read, if_neg]
  · exact held
  · intro same
    rw [same, absent] at held
    cases held

/-- **What a step does to the database.** It records nothing and changes no schema, or it commits the
transaction of the next file of a loop, which is not in its snapshot. -/
theorem advance_database
    (taken : phase.advance sha256 runSql database query = some outcome) :
    (outcome.committed = [] ∧ outcome.database.schema = database.schema ∧
        (database.migrations ≠ none → outcome.database.migrations ≠ none) ∧
        ∀ name, outcome.database.recorded name = database.recorded name) ∨
      ∃ loop file rest, phase = .looping loop ∧ loop.pending = file :: rest ∧
        database.transact sha256 runSql file = .ok outcome.database ∧
        outcome.committed = [file] := by
  have still : ∀ phase : Phase, (⟨phase, database, []⟩ : Outcome δ) = outcome →
      outcome.committed = [] ∧ outcome.database.schema = database.schema ∧
        (database.migrations ≠ none → outcome.database.migrations ≠ none) ∧
        ∀ name, outcome.database.recorded name = database.recorded name := by
    intro phase same
    subst same
    exact ⟨rfl, rfl, id, fun _ => rfl⟩
  unfold Phase.advance at taken
  split at taken
  · cases taken
  · cases taken
  · cases taken
  · exact Or.inl (still _ (Option.some.inj taken))
  · rename_i files answer
    cases answer with
    | given =>
        cases taken
        exact Or.inl ⟨rfl, rfl, fun _ => Option.some_ne_none _, recorded_createTable⟩
    | refused message => exact Or.inl (still _ (Option.some.inj taken))
    | lost message =>
        cases taken
        exact Or.inl ⟨rfl, rfl, fun _ => Option.some_ne_none _, recorded_createTable⟩
  · left
    have answered := Option.some.inj taken
    split at answered
    · exact still _ answered
    · exact still _ answered
    · exact still _ answered
    · exact still _ answered
  · rename_i loop answer
    have rounded := Option.some.inj taken
    unfold Loop.round at rounded
    split at rounded
    · exact Or.inl (still _ rounded)
    · rename_i file rest pending
      split at rounded
      · split at rounded
        · exact Or.inl (still _ rounded)
        · exact Or.inl (still _ rounded)
      · unfold Loop.apply at rounded
        split at rounded
        · exact Or.inl (still _ rounded)
        · split at rounded
          · exact Or.inl (still _ rounded)
          · rename_i changed committed
            subst rounded
            exact Or.inr ⟨loop, file, rest, rfl, pending, committed, rfl⟩
        · split at rounded
          · exact Or.inl (still _ rounded)
          · rename_i changed committed
            subst rounded
            exact Or.inr ⟨loop, file, rest, rfl, pending, committed, rfl⟩
  · exact Or.inl (still _ (Option.some.inj taken))
  · cases taken

theorem keeps_advance (taken : phase.advance sha256 runSql database query = some outcome) :
    database.Keeps outcome.database := by
  rcases advance_database taken with ⟨-, -, stays, read⟩ | ⟨loop, file, rest, -, -, committed, -⟩
  · exact ⟨stays, fun name hash held => (read name).trans held⟩
  · exact keeps_transact committed

/-! ## What a run knows -/

variable (sha256) in
/-- The files that are done are recorded under the hashes of their contents. -/
def Done (database : Database δ) (done : List File) (applied skipped : List String) : Prop :=
  (∀ file ∈ done, database.recorded file.name = some (sha256 file.content)) ∧
    (applied ++ skipped).Perm (done.map File.name)

variable (sha256) in
/-- The snapshot of a loop is still recorded, and so is what it has gone through. -/
def Loop.Sound (loop : Loop) (database : Database δ) : Prop :=
  (∀ name hash, loop.recorded.lookup name = some hash → database.recorded name = some hash) ∧
    ∃ done, loop.files = done ++ loop.pending ∧
      Done sha256 database done loop.applied loop.skipped

variable (sha256) in
/-- What holds of the database where a run is. -/
def Phase.Sound (database : Database δ) : Phase → Prop
  | .looping loop => loop.Sound sha256 database
  | .finished files applied skipped => Done sha256 database files applied skipped
  | .created _ => database.migrations ≠ none
  | .ready | .listed _ | .failed _ | .dead => True

theorem Done.mono {done : List File} {applied skipped : List String}
    (holds : Done sha256 database done applied skipped) (keeps : database.Keeps later) :
    Done sha256 later done applied skipped :=
  ⟨fun file member => keeps.2 _ _ (holds.1 file member), holds.2⟩

theorem Loop.Sound.mono {loop : Loop} (sound : loop.Sound sha256 database)
    (keeps : database.Keeps later) : loop.Sound sha256 later := by
  obtain ⟨snapshot, done, files, holds⟩ := sound
  exact ⟨fun name hash held => keeps.2 name hash (snapshot name hash held), done, files,
    holds.mono keeps⟩

theorem Phase.Sound.mono (sound : phase.Sound sha256 database) (keeps : database.Keeps later) :
    phase.Sound sha256 later := by
  cases phase with
  | looping loop => exact Loop.Sound.mono sound keeps
  | finished files applied skipped => exact Done.mono sound keeps
  | ready => exact True.intro
  | listed files => exact True.intro
  | created files => exact keeps.1 sound
  | failed message => exact True.intro
  | dead => exact True.intro

/-- One more file is done. -/
theorem Done.concat {done : List File} {applied skipped names : List String}
    (holds : Done sha256 database done applied skipped)
    (recorded : database.recorded file.name = some (sha256 file.content))
    (named : names.Perm ((applied ++ skipped) ++ [file.name])) :
    (∀ other ∈ done ++ [file], database.recorded other.name = some (sha256 other.content)) ∧
      names.Perm ((done ++ [file]).map File.name) := by
  constructor
  · intro other member
    rcases List.mem_append.mp member with early | now
    · exact holds.1 other early
    · cases List.mem_singleton.mp now
      exact recorded
  · rw [List.map_append]
    exact named.trans (holds.2.append_right _)

theorem sound_apply {loop : Loop} {rest : List File} {answer : Answer}
    (sound : loop.Sound sha256 database) (pending : loop.pending = file :: rest) :
    (loop.apply sha256 runSql database file rest answer).phase.Sound sha256
      (loop.apply sha256 runSql database file rest answer).database := by
  unfold Loop.apply
  cases answer with
  | refused message => exact True.intro
  | lost message =>
      dsimp only
      split
      · exact True.intro
      · exact True.intro
  | given =>
      dsimp only
      split
      · exact True.intro
      · rename_i changed committed
        obtain ⟨snapshot, done, files, holds⟩ := sound.mono (keeps_transact committed)
        have written : changed.recorded file.name = some (sha256 file.content) := by
          rw [(transact_ok committed).2.2.2, if_pos rfl]
        refine ⟨snapshot, done ++ [file], ?_, ?_⟩
        · rw [files, pending, List.append_assoc]
          rfl
        · apply holds.concat written
          dsimp only
          rw [List.append_assoc, List.append_assoc]
          exact List.perm_append_comm.append_left _

theorem sound_round {loop : Loop} {answer : Answer} (sound : loop.Sound sha256 database) :
    (loop.round sha256 runSql database answer).phase.Sound sha256
      (loop.round sha256 runSql database answer).database := by
  unfold Loop.round
  split
  · rename_i pending
    obtain ⟨-, done, files, holds⟩ := sound
    rw [pending, List.append_nil] at files
    dsimp only [Phase.Sound]
    rw [files]
    exact holds
  · rename_i file rest pending
    split
    · rename_i prior found
      split
      · exact True.intro
      · rename_i matches_
        obtain ⟨snapshot, done, files, holds⟩ := sound
        have written : database.recorded file.name = some (sha256 file.content) :=
          not_not.mp matches_ ▸ snapshot _ _ found
        refine ⟨snapshot, done ++ [file], ?_, ?_⟩
        · rw [files, pending, List.append_assoc]
          rfl
        · apply holds.concat written
          dsimp only
          rw [List.append_assoc]
    · exact sound_apply sound pending

/-- A step keeps what a run knows. -/
theorem sound_advance (sound : phase.Sound sha256 database)
    (taken : phase.advance sha256 runSql database query = some outcome) :
    outcome.phase.Sound sha256 outcome.database := by
  unfold Phase.advance at taken
  split at taken
  · cases taken
  · cases taken
  · cases taken
  · cases taken
    dsimp only
    split
    · exact True.intro
    · split
      · exact True.intro
      · exact True.intro
  · rename_i files answer
    cases answer with
    | given =>
        cases taken
        exact Option.some_ne_none _
    | refused message =>
        cases taken
        exact True.intro
    | lost message =>
        cases taken
        exact True.intro
  · rename_i files answer
    have answered := Option.some.inj taken
    split at answered
    · rename_i table created
      subst answered
      refine ⟨fun name hash held => ?_, [], rfl, ?_⟩
      · unfold Database.recorded
        rw [created]
        exact held
      · exact ⟨fun file member => absurd member List.not_mem_nil, List.Perm.refl _⟩
    · subst answered
      exact True.intro
    · subst answered
      exact True.intro
    · subst answered
      exact True.intro
  · cases taken
    exact sound_round sound
  · cases taken
    exact True.intro
  · cases taken

/-! ## Each migration once -/

variable (sha256 runSql) in
/-- What is recorded is what was executed, each file once, and the schema is what the files make of the
initial one in their order. -/
structure World.Sound (initial : δ) (world : World ι δ) : Prop where
  distinct : (world.executed.map File.name).Nodup
  recorded : ∀ name hash, world.database.recorded name = some hash ↔
    ∃ file ∈ world.executed, file.name = name ∧ sha256 file.content = hash
  schema : world.executed.foldlM (fun schema file => runSql file.content schema) initial =
    .ok world.database.schema
  runs : ∀ run, (world.runs run).Sound sha256 world.database

variable {initial : δ} {world next after : World ι δ} {action : Action ι}

omit [DecidableEq ι] in
theorem sound_start : World.Sound sha256 runSql initial (World.start initial : World ι δ) where
  distinct := List.nodup_nil
  recorded name hash := by
    constructor
    · intro held
      cases held
    · intro ⟨file, member, _⟩
      cases member
  schema := rfl
  runs _ := True.intro

theorem sound_step (sound : world.Sound sha256 runSql initial)
    (taken : step sha256 runSql world action = some next) :
    next.Sound sha256 runSql initial ∧ world.database.Keeps next.database := by
  obtain ⟨outcome, advanced, rfl⟩ := Option.map_eq_some_iff.mp taken
  have keeps := keeps_advance advanced
  refine ⟨?_, keeps⟩
  have runs : ∀ run, (Function.update world.runs action.run outcome.phase run).Sound sha256
      outcome.database := by
    intro run
    by_cases same : run = action.run
    · subst same
      rw [Function.update_self]
      exact sound_advance (sound.runs _) advanced
    · rw [Function.update_of_ne same]
      exact (sound.runs run).mono keeps
  rcases advance_database advanced with ⟨none, schema, -, read⟩ | ⟨_, file, _, -, -, committed, only⟩
  · refine
      { distinct := ?_
        recorded := ?_
        schema := ?_
        runs := runs }
    · rw [none, List.append_nil]
      exact sound.distinct
    · intro name hash
      rw [none, List.append_nil, read]
      exact sound.recorded name hash
    · rw [none, List.append_nil, schema]
      exact sound.schema
  · obtain ⟨absent, ran, -, read⟩ := transact_ok committed
    rw [only]
    refine
      { distinct := ?_
        recorded := ?_
        schema := ?_
        runs := runs }
    · rw [List.map_append, List.map_singleton]
      refine List.nodup_append.mpr ⟨sound.distinct, List.nodup_singleton _, ?_⟩
      intro name early other now same
      cases List.mem_singleton.mp now
      subst same
      obtain ⟨earlier, member, named⟩ := List.mem_map.mp early
      have held := (sound.recorded _ _).mpr ⟨earlier, member, named, rfl⟩
      rw [absent] at held
      cases held
    · intro name hash
      rw [read]
      by_cases same : name = file.name
      · rw [if_pos same]
        constructor
        · intro held
          exact ⟨file, List.mem_concat_self, same.symm, Option.some.inj held⟩
        · intro ⟨other, member, named, hashed⟩
          rcases List.mem_append.mp member with early | now
          · have held := (sound.recorded _ _).mpr ⟨other, early, named, hashed⟩
            rw [same, absent] at held
            cases held
          · cases List.mem_singleton.mp now
            exact congrArg some hashed
      · rw [if_neg same, sound.recorded]
        constructor
        · intro ⟨other, member, found⟩
          exact ⟨other, List.mem_append_left _ member, found⟩
        · intro ⟨other, member, named, hashed⟩
          rcases List.mem_append.mp member with early | now
          · exact ⟨other, early, named, hashed⟩
          · cases List.mem_singleton.mp now
            exact absurd named.symm same
    · rw [List.foldlM_append, sound.schema]
      show List.foldlM (fun schema file => runSql file.content schema) world.database.schema [file] =
        .ok outcome.database.schema
      rw [List.foldlM_cons, ran]
      rfl

theorem sound_of_execute {actions : List (Action ι)}
    (run : execute (step sha256 runSql) (.start initial) actions = some world) :
    world.Sound sha256 runSql initial :=
  execute_invariant_of_step sound_start (fun _ _ _ sound taken => (sound_step sound taken).1) run

/-- What a run of the model has executed and recorded stays. -/
theorem keeps_of_execute {actions : List (Action ι)} (sound : world.Sound sha256 runSql initial)
    (run : execute (step sha256 runSql) world actions = some after) :
    world.executed <+: after.executed ∧ world.database.Keeps after.database := by
  have kept : after.Sound sha256 runSql initial ∧ world.executed <+: after.executed ∧
      world.database.Keeps after.database := by
    have keeps_step : ∀ (before : World ι δ) (action : Action ι) (next : World ι δ),
        before.Sound sha256 runSql initial ∧ world.executed <+: before.executed ∧
          world.database.Keeps before.database →
        step sha256 runSql before action = some next →
        next.Sound sha256 runSql initial ∧ world.executed <+: next.executed ∧
          world.database.Keeps next.database := by
      intro before action next ⟨earlier, executed, keeps⟩ taken
      obtain ⟨later, more⟩ := sound_step earlier taken
      refine ⟨later, ?_, more.1 ∘ keeps.1, fun name hash held =>
        more.2 name hash (keeps.2 name hash held)⟩
      obtain ⟨outcome, -, rfl⟩ := Option.map_eq_some_iff.mp taken
      exact executed.trans (List.prefix_append _ _)
    exact execute_invariant_of_step ⟨sound, List.prefix_rfl, id, fun _ _ held => held⟩
      keeps_step run
  exact kept.2

/-- A migration that creates a table. -/
def createUser : File :=
  ⟨"0000_initial.sql", "CREATE TABLE \"user\" (\"id\" text PRIMARY KEY);"⟩

def drizzle : Directory := ⟨[⟨"README.md", ""⟩, createUser], by decide⟩

/-- The hash of its text. -/
def hashOf (content : String) : String :=
  if content = createUser.content then
    "77d9c27db039e9cd00de4588f26e6b2f" ++
      "7f2468df3de6f4ec6b1c2ca998632b22"
  else ""

/-- What its text does to a list of tables. -/
def runCreateUser (content : String) (tables : List String) : Except String (List String) :=
  if content = createUser.content then
    if "user" ∈ tables then .error "relation \"user\" already exists" else .ok ("user" :: tables)
  else .error "syntax error"

/-- Two runs that take their snapshots before either applies the file, and a third that has created
the table behind them. -/
def race : List (Action ℕ) :=
  [⟨0, .list "postgres://auth" (.ok drizzle)⟩, ⟨1, .list "postgres://auth" (.ok drizzle)⟩,
    ⟨0, .createTable .given⟩, ⟨1, .createTable .given⟩, ⟨0, .select .given⟩, ⟨1, .select .given⟩,
    ⟨0, .round .given⟩, ⟨1, .round .given⟩, ⟨0, .round .given⟩,
    ⟨2, .list "postgres://auth" (.ok drizzle)⟩, ⟨2, .createTable .given⟩]

/-- The world behind them. -/
def raced : World ℕ (List String) :=
  (execute (step hashOf runCreateUser) (.start []) race).getD (.start [])

/-- The files that a run goes through. -/
def Phase.files : Phase → Option (List File)
  | .listed files | .created files | .finished files _ _ => some files
  | .looping loop => some loop.files
  | .ready | .failed _ | .dead => none

/-- A run goes through the files that it has listed. -/
theorem files_advance (taken : phase.advance sha256 runSql database query = some outcome)
    {files : List File} (through : outcome.phase.files = some files) :
    phase.files = some files ∨
      ∃ databaseUrl directory, query = .list databaseUrl (.ok directory) ∧
        files = directory.migrations := by
  unfold Phase.advance at taken
  split at taken
  · cases taken
  · cases taken
  · cases taken
  · rename_i databaseUrl listing
    cases taken
    dsimp only at through
    split at through
    · cases through
    · split at through
      · cases through
      · rename_i directory
        exact Or.inr ⟨databaseUrl, directory, rfl, (Option.some.inj through).symm⟩
  · left
    rename_i listed answer
    cases answer with
    | given =>
        cases taken
        exact through
    | refused message =>
        cases taken
        cases through
    | lost message =>
        cases taken
        cases through
  · left
    have answered := Option.some.inj taken
    split at answered
    all_goals
      subst answered
    · exact through
    · cases through
    · cases through
    · cases through
  · left
    rename_i loop answer
    cases taken
    unfold Loop.round at through
    split at through
    · exact through
    · split at through
      · split at through
        · cases through
        · exact through
      · unfold Loop.apply at through
        split at through
        · cases through
        · split at through
          · cases through
          · exact through
        · split at through
          · cases through
          · cases through
  · cases taken
    cases through
  · cases taken

theorem distinct_migrations (directory : Directory) :
    (directory.migrations.map File.name).Nodup := by
  unfold Directory.migrations
  refine ((List.perm_insertionSort _ _).map File.name).nodup_iff.mpr ?_
  exact directory.distinct.sublist (List.filter_sublist.map _)

/-- A file of the list that is not among those executed comes right behind them, where all the files
ahead of it are executed. -/
theorem executed_eq_done {all executed done rest : List File} (distinct : (all.map File.name).Nodup)
    (isPrefix : executed <+: all) (split : all = done ++ file :: rest)
    (ahead : ∀ other ∈ done, other ∈ executed) (absent : file ∉ executed) : executed = done := by
  have nodup : all.Nodup := List.Nodup.of_map _ distinct
  obtain ⟨behind, whole⟩ := isPrefix
  rw [split] at whole nodup
  rcases List.append_eq_append_iff.mp whole with ⟨more, longer, -⟩ | ⟨more, shorter, rest_⟩
  · -- what is executed ends before `file`
    cases more with
    | nil => rw [longer, List.append_nil]
    | cons first more =>
        have member : first ∈ executed := ahead first (by
          rw [longer]
          exact List.mem_append_right _ List.mem_cons_self)
        have unique : done.Nodup := (List.nodup_append.mp nodup).1
        rw [longer] at unique
        exact absurd rfl ((List.nodup_append.mp unique).2.2 first member first List.mem_cons_self)
  · cases more with
    | nil => rw [shorter, List.append_nil]
    | cons first more =>
        have same : file = first := (List.cons.inj rest_).1
        refine absurd ?_ absent
        rw [shorter, same]
        exact List.mem_append_right _ List.mem_cons_self

/-- What is executed begins the list of the files, which every run goes through. -/
def World.Ordered (directory : Directory) (world : World ι δ) : Prop :=
  world.executed <+: directory.migrations ∧
    ∀ run files, (world.runs run).files = some files → files = directory.migrations

omit [DecidableEq ι] in
/-- A file that is recorded as it is in the list is executed. -/
theorem mem_executed {directory : Directory} (sound : world.Sound sha256 runSql initial)
    (ordered : world.Ordered directory) (member : file ∈ directory.migrations)
    {hash : String} (held : world.database.recorded file.name = some hash) :
    file ∈ world.executed := by
  obtain ⟨other, executed, named, -⟩ := (sound.recorded _ _).mp held
  have same : other = file :=
    List.inj_on_of_nodup_map (distinct_migrations directory)
      (ordered.1.subset executed) member named
  exact same ▸ executed

theorem ordered_step {directory : Directory} (sound : world.Sound sha256 runSql initial)
    (ordered : world.Ordered directory)
    (given : ∀ databaseUrl other, action.query = .list databaseUrl (.ok other) → other = directory)
    (taken : step sha256 runSql world action = some next) : next.Ordered directory := by
  obtain ⟨outcome, advanced, rfl⟩ := Option.map_eq_some_iff.mp taken
  constructor
  · dsimp only
    rcases advance_database advanced with ⟨none, -⟩ | ⟨loop, file, rest, at_, pending, done, only⟩
    · rw [none, List.append_nil]
      exact ordered.1
    · have loops : (world.runs action.run).Sound sha256 world.database := sound.runs _
      rw [at_] at loops
      obtain ⟨-, before, files, holds, -⟩ := loops
      have through : loop.files = directory.migrations :=
        ordered.2 action.run loop.files (by rw [at_]; rfl)
      rw [pending, through] at files
      have inside : ∀ other ∈ before ++ file :: rest, other ∈ directory.migrations :=
        fun other member => files ▸ member
      have absent : file ∉ world.executed := by
        intro executed
        have held := (sound.recorded _ _).mpr ⟨file, executed, rfl, rfl⟩
        rw [(transact_ok done).1] at held
        cases held
      have whole : world.executed = before := by
        refine executed_eq_done (distinct_migrations directory) ordered.1 files ?_ absent
        intro other member
        exact mem_executed sound ordered (inside other (List.mem_append_left _ member))
          (holds other member)
      rw [only, whole, files]
      exact ⟨rest, by rw [List.append_assoc]; rfl⟩
  · intro run files through
    dsimp only at through
    by_cases same : run = action.run
    · subst same
      rw [Function.update_self] at through
      rcases files_advance advanced through with early | ⟨databaseUrl, other, listed, rfl⟩
      · exact ordered.2 _ files early
      · rw [given databaseUrl other listed]
    · rw [Function.update_of_ne same] at through
      exact ordered.2 run files through

/-- **Runs of one directory execute its files in order.** What any number of them have executed is at
every moment the first files of the sorted list, and all of them once one of the runs is finished. -/
theorem executed_in_order {directory : Directory} {actions : List (Action ι)}
    (given : ∀ action ∈ actions, ∀ databaseUrl other,
      action.query = .list databaseUrl (.ok other) → other = directory)
    (run : execute (step sha256 runSql) (.start initial) actions = some world) :
    world.executed <+: directory.migrations ∧
      ∀ run files applied skipped, world.runs run = .finished files applied skipped →
        world.executed = directory.migrations := by
  have ordered : world.Ordered directory := by
    have both : world.Sound sha256 runSql initial ∧
        ((∀ action ∈ actions, ∀ databaseUrl other,
          action.query = .list databaseUrl (.ok other) → other = directory) →
            world.Ordered directory) := by
      refine execute_induction
        (motive := fun past world => world.Sound sha256 runSql initial ∧
          ((∀ action ∈ past, ∀ databaseUrl other,
            action.query = .list databaseUrl (.ok other) → other = directory) →
              world.Ordered directory))
        ⟨sound_start, fun _ => ⟨List.nil_prefix, fun _ _ through => by cases through⟩⟩ ?_
        Meets.trivial run
      intro past before action after _ ⟨sound, ordered⟩ _ taken
      refine ⟨(sound_step sound taken).1, fun given => ?_⟩
      exact ordered_step sound
        (ordered fun earlier member => given earlier (List.mem_append_left _ member))
        (given action List.mem_concat_self) taken
    exact both.2 given
  have sound := sound_of_execute run
  refine ⟨ordered.1, fun run files applied skipped finished => ?_⟩
  have done : (world.runs run).Sound sha256 world.database := sound.runs run
  rw [finished] at done
  have through : files = directory.migrations := ordered.2 run files (by rw [finished]; rfl)
  apply ordered.1.eq_of_length_le
  apply (List.subperm_of_subset (List.Nodup.of_map _ (distinct_migrations directory)) ?_).length_le
  intro file member
  exact mem_executed sound ordered member (done.1 file (through ▸ member))

/-- The run that has executed the file is finished. -/
theorem executed_in_order_race : raced.executed = drizzle.migrations := by
  have run : execute (step hashOf runCreateUser) (.start []) race = some raced := rfl
  have given : ∀ action ∈ race, ∀ databaseUrl other,
      action.query = .list databaseUrl (.ok other) → other = drizzle := by
    intro action member databaseUrl other listed
    simp only [race, List.mem_cons, List.not_mem_nil, or_false] at member
    rcases member with rfl | rfl | rfl | rfl | rfl | rfl | rfl | rfl | rfl | rfl | rfl <;>
      cases listed <;> rfl
  exact (executed_in_order given run).2 0 drizzle.migrations [createUser.name] [] rfl

/-! ## A run behind a finished one -/

variable (sha256) in
/-- A run that applies nothing: all the files it has to go through are in its snapshot, under the
hashes that they have. -/
def Phase.Quiet (files : List File) : Phase → Prop
  | .looping loop =>
      loop.files = files ∧ loop.applied = [] ∧
        loop.skipped ++ loop.pending.map File.name = files.map File.name ∧
        ∀ file ∈ loop.pending, loop.recorded.lookup file.name = some (sha256 file.content)
  | .finished through applied skipped =>
      through = files ∧ applied = [] ∧ skipped = files.map File.name
  | .dead => True
  | .ready | .listed _ | .created _ | .failed _ => False

theorem quiet_advance {files : List File} (quiet : phase.Quiet sha256 files)
    (taken : phase.advance sha256 runSql database query = some outcome) :
    outcome.phase.Quiet sha256 files ∧ outcome.committed = [] := by
  unfold Phase.advance at taken
  split at taken
  · cases taken
  · cases taken
  · cases taken
  · exact quiet.elim
  · exact quiet.elim
  · exact quiet.elim
  · rename_i loop answer
    cases taken
    obtain ⟨through, nothing, names, known⟩ := quiet
    unfold Loop.round
    split
    · rename_i pending
      rw [pending, List.map_nil, List.append_nil] at names
      exact ⟨⟨through, nothing, names⟩, rfl⟩
    · rename_i file rest pending
      rw [pending] at names known
      rw [known file List.mem_cons_self]
      dsimp only
      rw [if_neg (not_not.mpr rfl)]
      refine ⟨⟨through, nothing, ?_, fun other member =>
        known other (List.mem_cons_of_mem _ member)⟩, rfl⟩
      dsimp only
      rw [List.append_assoc]
      exact names
  · cases taken
    exact ⟨True.intro, rfl⟩
  · cases taken

theorem quiet_step {files : List File} {run : ι} (quiet : (world.runs run).Quiet sha256 files)
    (taken : step sha256 runSql world action = some next) :
    (next.runs run).Quiet sha256 files := by
  obtain ⟨outcome, advanced, rfl⟩ := Option.map_eq_some_iff.mp taken
  dsimp only
  by_cases same : run = action.run
  · subst same
    rw [Function.update_self]
    exact (quiet_advance quiet advanced).1
  · rw [Function.update_of_ne same]
    exact quiet

/-- The snapshot that is taken where all the files are recorded. -/
theorem quiet_select {files : List File} {run : ι} (created : world.runs run = .created files)
    (recorded : ∀ file ∈ files, world.database.recorded file.name = some (sha256 file.content))
    (exists_ : world.database.migrations ≠ none)
    (taken : step sha256 runSql world ⟨run, .select .given⟩ = some next) :
    (next.runs run).Quiet sha256 files := by
  obtain ⟨outcome, advanced, rfl⟩ := Option.map_eq_some_iff.mp taken
  dsimp only
  rw [Function.update_self]
  obtain ⟨table, found⟩ := Option.ne_none_iff_exists'.mp exists_
  rw [created] at advanced
  unfold Phase.advance at advanced
  rw [found] at advanced
  cases advanced
  refine ⟨rfl, rfl, rfl, fun file member => ?_⟩
  have held := recorded file member
  unfold Database.recorded at held
  rw [found] at held
  exact held

/-- **A run is not repeated.** The files that a run has gone through when it is finished are recorded
under the hashes of their contents, and are the names that it returns. A run over the same files that
takes its snapshot afterwards does not fail and applies none of them. -/
theorem rerun_skips {past later : List (Action ι)} {first second : ι} {files : List File}
    {applied skipped : List String}
    (run : execute (step sha256 runSql) (.start initial) past = some world)
    (finished : world.runs first = .finished files applied skipped)
    (created : world.runs second = .created files)
    (rerun : execute (step sha256 runSql) world (⟨second, .select .given⟩ :: later) = some after) :
    (∀ file ∈ files, world.database.recorded file.name = some (sha256 file.content)) ∧
      (applied ++ skipped).Perm (files.map File.name) ∧
      (after.runs second = .dead ∨ after.runs second = .finished files [] (files.map File.name) ∨
        ∃ loop, after.runs second = .looping loop ∧ loop.applied = []) := by
  have sound := sound_of_execute run
  have done : (world.runs first).Sound sha256 world.database := sound.runs first
  rw [finished] at done
  have table : (world.runs second).Sound sha256 world.database := sound.runs second
  rw [created] at table
  obtain ⟨snapshot, taken, rest⟩ := Option.bind_eq_some_iff.mp rerun
  have stays : ∀ before action next, (before.runs second).Quiet sha256 files →
      step sha256 runSql before action = some next → (next.runs second).Quiet sha256 files :=
    fun _ _ _ quiet taken => quiet_step quiet taken
  have quiet : (after.runs second).Quiet sha256 files :=
    @execute_invariant_of_step _ _ _ _ (fun world => (world.runs second).Quiet sha256 files)
      (quiet_select created done.1 table taken) stays _ _ rest
  refine ⟨done.1, done.2, ?_⟩
  cases at_ : after.runs second with
  | dead => exact Or.inl rfl
  | finished through applied skipped =>
      rw [at_] at quiet
      obtain ⟨rfl, rfl, rfl⟩ := quiet
      exact Or.inr (Or.inl rfl)
  | looping loop =>
      rw [at_] at quiet
      exact Or.inr (Or.inr ⟨loop, rfl, quiet.2.1⟩)
  | ready =>
      rw [at_] at quiet
      exact quiet.elim
  | listed through =>
      rw [at_] at quiet
      exact quiet.elim
  | created through =>
      rw [at_] at quiet
      exact quiet.elim
  | failed message =>
      rw [at_] at quiet
      exact quiet.elim

/-- The third run skips the file. -/
theorem rerun_skips_race :
    let after := (execute (step hashOf runCreateUser) raced
      [⟨2, .select .given⟩, ⟨2, .round .given⟩, ⟨2, .round .given⟩]).getD raced
    after.runs 2 = .finished drizzle.migrations [] [createUser.name] ∧
      raced.database.recorded createUser.name = some (hashOf createUser.content) := by
  intro after
  have run : execute (step hashOf runCreateUser) (.start []) race = some raced := rfl
  have rerun : execute (step hashOf runCreateUser) raced
      [⟨2, .select .given⟩, ⟨2, .round .given⟩, ⟨2, .round .given⟩] = some after := rfl
  have finished : raced.runs 0 = .finished drizzle.migrations [createUser.name] [] := rfl
  have created : raced.runs 2 = .created drizzle.migrations := rfl
  exact ⟨rfl, (rerun_skips run finished created rerun).1 createUser (by decide +kernel)⟩

end Panakoes.Auth.Migrate
