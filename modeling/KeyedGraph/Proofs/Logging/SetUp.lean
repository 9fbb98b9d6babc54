import KeyedGraph.Logging
import KeyedGraph.Proofs.FileTree
import KeyedGraph.Proofs.Machine

/-!
# One log for a process

A process may try to set its log up any number of times. A call that finds no place for the lines
fails and leaves the process without a log; the first that finds one decides, and those behind it
fail and touch nothing. The lines go to the place of that call alone, behind what stood there.
All this holds of every file system that keeps the laws, and of every filter and every form of
lines.
-/

namespace KeyedGraph

variable {φ : Type}

/-! ### Finding a place -/

section Places

variable (system : FileSystem φ)

/-- The directories above a path are made as far as they are missing, if it has any. -/
inductive MakesAbove (files : φ) (path : String) : φ → Prop
  | nothing (h : parentPath? path = none) : MakesAbove files path files
  | made {parent : String} {files' : φ} (h : parentPath? path = some parent)
      (hm : system.makeDirectories files parent = (.ok (), files')) :
      MakesAbove files path files'

/-- A place for the lines is found: the standard error if no file is asked for, and else the
file, if the directories above it can be made and it can be opened. -/
inductive FindsPlace (files : φ) : Option String → LogPlace → φ → Prop
  | standardError : FindsPlace files none .standardError files
  | file {path : String} {name : FileName} {above files' : φ}
      (ha : MakesAbove system files path above)
      (ho : system.openForAppend above path = (.ok name, files')) :
      FindsPlace files (some path) (.file name) files'

/-- No place is found: a directory above the file cannot be made, or the file cannot be opened.
What was made on the way stays. -/
inductive Blocked (files : φ) : Option String → Error → φ → Prop
  | directory {path parent : String} {cause : FileError} {files' : φ}
      (h : parentPath? path = some parent)
      (hm : system.makeDirectories files parent = (.error cause, files')) :
      Blocked files (some path) (.operationFailed "create_log_dir" (.file cause)) files'
  | file {path : String} {cause : FileError} {above files' : φ}
      (ha : MakesAbove system files path above)
      (ho : system.openForAppend above path = (.error cause, files')) :
      Blocked files (some path) (.operationFailed "open_log_file" (.fileAt path cause)) files'

end Places

section Lookup

variable {system : FileSystem φ} {content : φ → FileName → Option ByteArray} {files files' : φ}
  {path : String} {asked : Option String} {place : LogPlace} {cause : Error}

/-- If there are directories above the path, they are made. -/
lemma MakesAbove.makeDirectories_eq (h : MakesAbove system files path files') {parent : String}
    (hp : parentPath? path = some parent) :
    system.makeDirectories files parent = (.ok (), files') := by
  cases h with
  | nothing hp' =>
    rw [hp] at hp'
    cases hp'
  | made hp' hm =>
    obtain rfl := Option.some.inj (hp.symm.trans hp')
    exact hm

lemma MakesAbove.unique {other : φ} (h : MakesAbove system files path files')
    (h' : MakesAbove system files path other) : files' = other := by
  cases h with
  | nothing hp =>
    cases h' with
    | nothing => rfl
    | made hp' =>
      rw [hp] at hp'
      cases hp'
  | made hp hm => exact (Prod.mk.inj (hm.symm.trans (h'.makeDirectories_eq hp))).2

/-- Where no place is found, there is none. -/
lemma Blocked.not_findsPlace (h : Blocked system files asked cause files') (place : LogPlace)
    (other : φ) : ¬ FindsPlace system files asked place other := by
  intro hf
  cases h with
  | directory hp hm =>
    cases hf with
    | file ha ho =>
      rw [ha.makeDirectories_eq hp] at hm
      cases hm
  | file ha ho =>
    cases hf with
    | file ha' ho' =>
      obtain rfl := ha.unique ha'
      rw [ho] at ho'
      cases ho'

/-- The error tells what could not be done. -/
lemma Blocked.answer_cases (h : Blocked system files asked cause files') :
    (∃ e, (.error cause : Except Error Unit) =
      .error (.operationFailed "create_log_dir" (.file e))) ∨
      ∃ path e, (.error cause : Except Error Unit) =
        .error (.operationFailed "open_log_file" (.fileAt path e)) := by
  cases h with
  | directory => exact .inl ⟨_, rfl⟩
  | file => exact .inr ⟨_, _, rfl⟩

/-! ### What the files hold -/

section Laws

variable (hsystem : system.Lawful content)
include hsystem

/-- The directories above a path change no file. -/
lemma MakesAbove.content_eq (h : MakesAbove system files path files') (name : FileName) :
    content files' name = content files name := by
  cases h with
  | nothing => rfl
  | @made parent _ _ hm => rw [← hsystem.content_makeDirectories files parent, hm]

lemma MakesAbove.keeps (h : MakesAbove system files path files') :
    FileSystem.Keeps content files files' := by
  intro name bytes hc
  rw [h.content_eq hsystem, hc]

lemma Blocked.keeps (h : Blocked system files asked cause files') :
    FileSystem.Keeps content files files' := by
  cases h with
  | @directory _ parent _ _ _ hm =>
    have hkeeps := hsystem.keeps_makeDirectories files parent
    rwa [hm] at hkeeps
  | @file path _ above _ ha ho =>
    have hkeeps := hsystem.keeps_openForAppend above path
    rw [ho] at hkeeps
    exact (ha.keeps hsystem).trans hkeeps

lemma FindsPlace.keeps (h : FindsPlace system files asked place files') :
    FileSystem.Keeps content files files' := by
  cases h with
  | standardError => exact .refl content files
  | @file path _ above _ ha ho =>
    have hkeeps := hsystem.keeps_openForAppend above path
    rw [ho] at hkeeps
    exact (ha.keeps hsystem).trans hkeeps

/-- A file that is found is there, with what stood in it before. -/
lemma FindsPlace.content_eq {name : FileName}
    (h : FindsPlace system files asked (.file name) files') :
    content files' name = some ((content files name).getD ByteArray.empty) := by
  cases h with
  | file ha ho => rw [hsystem.content_of_opened ho, ha.content_eq hsystem]

end Laws

end Lookup

/-! ### Setting the log up -/

/-- The log of a configuration that found its place. -/
def LoggingConfig.logAt (config : LoggingConfig) (place : LogPlace) : Log :=
  ⟨config.layout, config.filter, place⟩

/-- The ways in which a call ends: there is a log already, there is no place for one, or it is
set up. -/
inductive SetUp (system : FileSystem φ) (s : LogState φ) (config : LoggingConfig) :
    Except Error Unit × LogState φ → Prop
  | already {log : Log} (h : s.log = some log) :
      SetUp system s config (.error (.operationFailed "logging_init" .alreadyInitialized), s)
  | blocked {cause : Error} {files : φ} (h : s.log = none)
      (hb : Blocked system s.files config.file cause files) :
      SetUp system s config (.error cause, { s with files })
  | opened {place : LogPlace} {files : φ} (h : s.log = none)
      (hf : FindsPlace system s.files config.file place files) :
      SetUp system s config (.ok (), { s with files, log := some (config.logAt place) })

section Calls

variable {system : FileSystem φ}

/-- A file is opened, or there is no place. -/
lemma openLogFile_cases (system : FileSystem φ) (files : φ) (path : String) :
    (∃ name files', openLogFile system files path = (.ok name, files') ∧
      FindsPlace system files (some path) (.file name) files') ∨
    ∃ cause files', openLogFile system files path = (.error cause, files') ∧
      Blocked system files (some path) cause files' := by
  have hopen {above : φ} (ha : MakesAbove system files path above) :
      (∃ name files', openLogFile.openFile system path above = (.ok name, files') ∧
        FindsPlace system files (some path) (.file name) files') ∨
      ∃ cause files', openLogFile.openFile system path above = (.error cause, files') ∧
        Blocked system files (some path) cause files' := by
    rw [openLogFile.openFile]
    generalize ho : system.openForAppend above path = opened
    obtain ⟨answer, files'⟩ := opened
    cases answer with
    | ok name => exact .inl ⟨name, files', rfl, .file ha ho⟩
    | error cause => exact .inr ⟨_, files', rfl, .file ha ho⟩
  rw [openLogFile]
  split
  · rename_i hp
    exact hopen (.nothing hp)
  · rename_i parent hp
    split
    · rename_i above hm
      exact hopen (.made hp hm)
    · rename_i cause above hm
      exact .inr ⟨_, above, rfl, .directory hp hm⟩

/-- Every call ends in one of the ways. -/
theorem setUp_cases (system : FileSystem φ) (s : LogState φ) (config : LoggingConfig) :
    SetUp system s config (s.setUp system config) := by
  rw [LogState.setUp]
  split
  · rename_i log hl
    exact .already hl
  · rename_i hl hfile
    refine .opened hl ?_
    rw [hfile]
    exact .standardError
  · rename_i path hl hfile
    rcases openLogFile_cases system s.files path with ⟨name, files, ho, hf⟩ |
      ⟨cause, files, ho, hb⟩
    · rw [ho]
      rw [← hfile] at hf
      exact .opened hl hf
    · rw [ho]
      rw [← hfile] at hb
      exact .blocked hl hb

lemma SetUp.keeps {content : φ → FileName → Option ByteArray} (hsystem : system.Lawful content)
    {s left : LogState φ} {config : LoggingConfig} {answer : Except Error Unit}
    (h : SetUp system s config (answer, left)) :
    FileSystem.Keeps content s.files left.files := by
  cases h with
  | already => exact .refl content s.files
  | blocked _ hb => exact hb.keeps hsystem
  | opened _ hf => exact hf.keeps hsystem

/-! ### Calls one after the other -/

/-- A call, with what becomes of the files before it. -/
structure SetUpCall (φ : Type) where
  meanwhile : φ → φ
  config : LoggingConfig

/-- A call that was made: what it found, its answer, and what it left. -/
structure Moment (φ : Type) where
  call : SetUpCall φ
  found : LogState φ
  answer : Except Error Unit
  left : LogState φ

/-- Makes a call. -/
def SetUpCall.make (system : FileSystem φ) (s : LogState φ) (c : SetUpCall φ) :
    Moment φ × LogState φ :=
  let found := { s with files := c.meanwhile s.files }
  let (answer, left) := found.setUp system c.config
  (⟨c, found, answer, left⟩, left)

/-- Between the calls, nobody else touches a file. -/
def SetUpCall.Spares (content : φ → FileName → Option ByteArray) (c : SetUpCall φ)
    (name : FileName) : Prop :=
  ∀ files, content (c.meanwhile files) name = content files name

namespace Moment

variable {m : Moment φ}

/-- At that moment there is a place for the lines that the call asks for. -/
def Finds (system : FileSystem φ) (m : Moment φ) : Prop :=
  ∃ place files, FindsPlace system m.found.files m.call.config.file place files

/-- The call fails for want of a place and leaves the process without a log. -/
structure Fails (m : Moment φ) : Prop where
  answer : (∃ cause, m.answer = .error (.operationFailed "create_log_dir" (.file cause))) ∨
    ∃ path cause, m.answer = .error (.operationFailed "open_log_file" (.fileAt path cause))
  log : m.left.log = none

/-- The call succeeds and sets the log up at a place that it finds. -/
structure SetsUp (system : FileSystem φ) (m : Moment φ) (place : LogPlace) : Prop where
  answer : m.answer = .ok ()
  finds : FindsPlace system m.found.files m.call.config.file place m.left.files
  log : m.left.log = some (m.call.config.logAt place)

/-- The call fails since there is a log, and changes nothing at all. -/
structure IsRejected (m : Moment φ) : Prop where
  answer : m.answer = .error (.operationFailed "logging_init" .alreadyInitialized)
  left : m.left = m.found

/-- What a call comes to depends on whether there is a log, and else on whether there is a place
for one. -/
inductive Ends (system : FileSystem φ) (m : Moment φ) : Prop
  | rejected {log : Log} (h : m.found.log = some log) (hr : m.IsRejected)
  | failed (h : m.found.log = none) (hn : ¬ m.Finds system) (hf : m.Fails)
  | setUp {place : LogPlace} (h : m.found.log = none) (hs : m.SetsUp system place)

lemma SetsUp.finds_place {place : LogPlace} (h : m.SetsUp system place) : m.Finds system :=
  ⟨place, m.left.files, h.finds⟩

lemma SetsUp.isOk {place : LogPlace} (h : m.SetsUp system place) : m.answer.isOk = true := by
  rw [h.answer]
  rfl

lemma Fails.isOk (h : m.Fails) : m.answer.isOk = false := by
  rcases h.answer with ⟨cause, ha⟩ | ⟨path, cause, ha⟩ <;> rw [ha] <;> rfl

lemma IsRejected.isOk (h : m.IsRejected) : m.answer.isOk = false := by
  rw [h.answer]
  rfl

end Moment

/-- Every call comes to one of these, and writes no line. -/
lemma SetUpCall.make_ends (system : FileSystem φ) (s : LogState φ) (c : SetUpCall φ) :
    let m := (c.make system s).1
    m.Ends system ∧ m.left.written = s.written := by
  intro m
  have hc := setUp_cases system m.found c.config
  have hanswer : m.found.setUp system c.config = (m.answer, m.left) := rfl
  rw [hanswer] at hc
  generalize hleft : m.left = left at hc ⊢
  generalize ha : m.answer = answer at hc
  cases hc with
  | already h => exact ⟨.rejected h ⟨ha, hleft⟩, rfl⟩
  | blocked h hb =>
    refine ⟨.failed h ?_ ⟨?_, ?_⟩, rfl⟩
    · rintro ⟨place, files, hf⟩
      exact hb.not_findsPlace place files hf
    · rw [ha]
      exact hb.answer_cases
    · rw [hleft]
      exact h
  | @opened place files h hf =>
    have hs : m.SetsUp system place :=
      { answer := ha
        finds := by
          rw [hleft]
          exact hf
        log := by
          rw [hleft]
          rfl }
    exact ⟨.setUp h hs, rfl⟩

lemma SetUpCall.rejected_of_log {s : LogState φ} {c : SetUpCall φ} {log : Log}
    (h : s.log = some log) : (c.make system s).1.IsRejected := by
  obtain ⟨hends, -⟩ := SetUpCall.make_ends system s c
  cases hends with
  | rejected _ hr => exact hr
  | failed hn | setUp hn =>
    have hlog : s.log = none := hn
    rw [h] at hlog
    cases hlog

/-- Once there is a log, every call is rejected; the log, the lines and the files that nobody
else touches stay as they are. -/
lemma SetUpCall.rejected_run {log : Log} (calls : List (SetUpCall φ)) {s : LogState φ}
    (h : s.log = some log) :
    let run := transcript (SetUpCall.make system) calls s
    (∀ m ∈ run.1, m.IsRejected) ∧ run.2.log = some log ∧ run.2.written = s.written ∧
      ∀ (content : φ → FileName → Option ByteArray) (name : FileName),
        (∀ m ∈ run.1, m.call.Spares content name) →
        content run.2.files name = content s.files name := by
  induction calls generalizing s with
  | nil => exact ⟨fun _ hm => absurd hm List.not_mem_nil, h, rfl, fun _ _ _ => rfl⟩
  | cons c calls ih =>
    have hr : (c.make system s).1.IsRejected := SetUpCall.rejected_of_log h
    have hleft : (c.make system s).2 = { s with files := c.meanwhile s.files } := hr.left
    have hlog : (c.make system s).2.log = some log := by rw [hleft]; exact h
    obtain ⟨hrest, hlast, hwritten, hfiles⟩ := ih hlog
    refine ⟨List.forall_mem_cons.mpr ⟨hr, hrest⟩, hlast, ?_, fun content name hs => ?_⟩
    · rw [transcript_cons, hwritten, hleft]
    · obtain ⟨hc, hs⟩ := List.forall_mem_cons.mp hs
      rw [transcript_cons, hfiles content name hs, hleft]
      exact hc s.files

/-- How the calls of a process come out: no call finds a place, or those before the first that
does fail, that one sets the log up, and those behind it are rejected. No line is written. -/
inductive Unfolds (system : FileSystem φ) (content : φ → FileName → Option ByteArray)
    (written : List (LogPlace × LogLine)) (last : LogState φ) : List (Moment φ) → Prop
  | never {moments : List (Moment φ)} (hm : ∀ m ∈ moments, ¬ m.Finds system ∧ m.Fails)
      (hlog : last.log = none) (hwritten : last.written = written) :
      Unfolds system content written last moments
  | once {before after : List (Moment φ)} {m : Moment φ} {place : LogPlace}
      (hb : ∀ b ∈ before, ¬ b.Finds system ∧ b.Fails) (hm : m.SetsUp system place)
      (ha : ∀ a ∈ after, a.IsRejected) (hlog : last.log = some (m.call.config.logAt place))
      (hwritten : last.written = written)
      (hfiles : ∀ name, (∀ a ∈ after, a.call.Spares content name) →
        content last.files name = content m.left.files name) :
      Unfolds system content written last (before ++ m :: after)

section Unfolding

variable {content : φ → FileName → Option ByteArray} {written : List (LogPlace × LogLine)}
  {last : LogState φ} {moments : List (Moment φ)}

/-- A call that fails may come before all others. -/
lemma Unfolds.cons {m : Moment φ} (hn : ¬ m.Finds system) (hf : m.Fails)
    (h : Unfolds system content written last moments) :
    Unfolds system content written last (m :: moments) := by
  cases h with
  | never hm hlog hwritten =>
    exact .never (List.forall_mem_cons.mpr ⟨⟨hn, hf⟩, hm⟩) hlog hwritten
  | @once before after m' place hb hm ha hlog hwritten hfiles =>
    rw [← List.cons_append]
    exact .once (List.forall_mem_cons.mpr ⟨⟨hn, hf⟩, hb⟩) hm ha hlog hwritten hfiles

/-- The calls of a process without a log unfold in this way. -/
theorem SetUpCall.run_unfolds (content : φ → FileName → Option ByteArray)
    (calls : List (SetUpCall φ)) {s : LogState φ} (h : s.log = none) :
    Unfolds system content s.written (transcript (SetUpCall.make system) calls s).2
      (transcript (SetUpCall.make system) calls s).1 := by
  induction calls generalizing s with
  | nil => exact .never (fun _ hm => absurd hm List.not_mem_nil) h rfl
  | cons c calls ih =>
    obtain ⟨hends, hwritten⟩ := SetUpCall.make_ends system s c
    rw [transcript_cons, ← hwritten]
    cases hends with
    | rejected hlog =>
      have hnone : (c.make system s).1.found.log = none := h
      rw [hnone] at hlog
      cases hlog
    | failed _ hn hf => exact (ih hf.log).cons hn hf
    | setUp _ hs =>
      obtain ⟨hrejected, hlast, hsame, hfiles⟩ := SetUpCall.rejected_run calls hs.log
      exact .once (fun _ hb => absurd hb List.not_mem_nil) hs hrejected hlast hsame
        (hfiles content)

lemma Unfolds.countP_le_one (h : Unfolds system content written last moments) :
    moments.countP (·.answer.isOk) ≤ 1 := by
  have hfails {l : List (Moment φ)} (hl : ∀ b ∈ l, ¬ b.Finds system ∧ b.Fails) :
      l.countP (·.answer.isOk) = 0 :=
    List.countP_eq_zero.mpr fun b hb => by simp [(hl b hb).2.isOk]
  cases h with
  | never hm =>
    rw [hfails hm]
    exact Nat.zero_le 1
  | @once before after m place hb hm ha =>
    have hafter : after.countP (·.answer.isOk) = 0 :=
      List.countP_eq_zero.mpr fun a hmem => by simp [(ha a hmem).isOk]
    simp [hfails hb, hafter, hm.isOk]

end Unfolding

/-- Every call is made, in its turn. -/
lemma SetUpCall.map_call_run (calls : List (SetUpCall φ)) (s : LogState φ) :
    (transcript (SetUpCall.make system) calls s).1.map Moment.call = calls := by
  induction calls generalizing s with
  | nil => rfl
  | cons c calls ih =>
    rw [transcript_cons, List.map_cons, ih]
    rfl

/-- No call takes anything away from a file. -/
lemma SetUpCall.keeps_run {content : φ → FileName → Option ByteArray}
    (hsystem : system.Lawful content) (calls : List (SetUpCall φ)) (s : LogState φ) :
    ∀ m ∈ (transcript (SetUpCall.make system) calls s).1,
      FileSystem.Keeps content m.found.files m.left.files := by
  induction calls generalizing s with
  | nil => exact fun _ hm => absurd hm List.not_mem_nil
  | cons c calls ih =>
    rw [transcript_cons]
    have hc : SetUp system (c.make system s).1.found c.config
        ((c.make system s).1.answer, (c.make system s).1.left) :=
      setUp_cases system (c.make system s).1.found c.config
    exact List.forall_mem_cons.mpr ⟨hc.keeps hsystem, ih _⟩

/-! ### Lines -/

/-- The bytes of lines that follow on a number of others. -/
def bytesFrom (form : Nat → LogLine → ByteArray) : Nat → List LogLine → ByteArray
  | _, [] => ByteArray.empty
  | n, line :: lines => form n line ++ bytesFrom form (n + 1) lines

section Lines

variable {content : φ → FileName → Option ByteArray} {form : Nat → LogLine → ByteArray}
  {s : LogState φ} {log : Log} {place : LogPlace}

/-- Without a log, nothing is written. -/
lemma LogState.write_of_no_log (h : s.log = none) (emissions : List Emission) :
    s.write system form emissions = s := by
  rw [write, h]

lemma LogState.write_of_log (h : s.log = some log) (emissions : List Emission) :
    s.write system form emissions =
      (log.linesOf emissions).foldl (put system form log.place) s := by
  rw [write, h]

/-- All lines go to the place. -/
lemma LogState.written_put (lines : List LogLine) (s : LogState φ) :
    (lines.foldl (put system form place) s).written = s.written ++ lines.map (place, ·) := by
  induction lines generalizing s with
  | nil => simp
  | cons line lines ih =>
    rw [List.foldl_cons, ih]
    simp [put]

/-- No other file is touched. -/
lemma LogState.content_put_of_ne (hsystem : system.Lawful content) {other : FileName}
    (h : place ≠ .file other) (lines : List LogLine) (s : LogState φ) :
    content (lines.foldl (put system form place) s).files other = content s.files other := by
  induction lines generalizing s with
  | nil => rfl
  | cons line lines ih =>
    rw [List.foldl_cons, ih]
    cases place with
    | standardError => rfl
    | file name =>
      have hne : other ≠ name := fun heq => h (congrArg _ heq.symm)
      exact hsystem.content_append_of_ne hne s.files _

/-- The lines come to stand behind what the file holds, as far as the system takes them. -/
lemma LogState.content_put (hsystem : system.Lawful content)
    (form : Nat → LogLine → ByteArray) {name : FileName} (lines : List LogLine) {s : LogState φ}
    {before : ByteArray} (h : content s.files name = some before) :
    ∃ rest, content (lines.foldl (put system form (.file name)) s).files name =
        some (before ++ rest) ∧
      (system.Takes name → rest = bytesFrom form s.written.length lines) := by
  induction lines generalizing s before with
  | nil =>
    refine ⟨ByteArray.empty, ?_, fun _ => rfl⟩
    rw [List.foldl_nil, h, ByteArray.append_empty]
  | cons line lines ih =>
    obtain ⟨part, hpart, htaken⟩ := hsystem.content_append h (form s.written.length line)
    obtain ⟨rest, hrest, hall⟩ := ih (s := s.put system form (.file name) line) hpart
    refine ⟨part ++ rest, ?_, fun htakes => ?_⟩
    · rw [List.foldl_cons, hrest, ByteArray.append_assoc]
    · rw [htaken (htakes _ _), hall htakes, bytesFrom]
      simp [put]

end Lines

/-- For every lawful file system, every form of lines and every sequence of calls, whatever
becomes of the files meanwhile: no call takes anything away from a file, and at most one
succeeds. Either no call finds a place; then all fail for want of one, and nothing is written
anywhere. Or those before the first that finds one fail so, that one succeeds, and those behind
it are rejected and change nothing. Of what is emitted then, all that passes the filter of that
call is written in its format to its place, and no other file is touched; a log file holds it
behind what it held before, which is nothing if it was not there, as long as nobody else touches
the file and the system takes it. -/
theorem log_is_set_up_once {content : φ → FileName → Option ByteArray}
    (hsystem : system.Lawful content) (form : Nat → LogLine → ByteArray) (files : φ)
    (calls : List (SetUpCall φ)) (emissions : List Emission) :
    let run := transcript (SetUpCall.make system) calls { files }
    let last := run.2.write system form emissions
    run.1.map Moment.call = calls ∧
    (∀ m ∈ run.1, FileSystem.Keeps content m.found.files m.left.files) ∧
    run.1.countP (·.answer.isOk) ≤ 1 ∧
    ((∀ m ∈ run.1, ¬ m.Finds system ∧ m.Fails) ∧ run.2.log = none ∧ last = run.2 ∧
        last.written = [] ∨
      ∃ before m after place layout, run.1 = before ++ m :: after ∧
        (∀ b ∈ before, ¬ b.Finds system ∧ b.Fails) ∧ m.Finds system ∧ m.SetsUp system place ∧
        (∀ a ∈ after, a.IsRejected) ∧ run.2.log = m.left.log ∧
        layout.format = m.call.config.format ∧
        let lines := (emissions.filter m.call.config.filter.passes).map (LogLine.mk layout)
        last.written = lines.map (place, ·) ∧
        (∀ other, place ≠ .file other →
          content last.files other = content run.2.files other) ∧
        ∀ name, place = .file name → (∀ a ∈ after, a.call.Spares content name) →
          ∃ rest, content last.files name =
              some ((content m.found.files name).getD ByteArray.empty ++ rest) ∧
            (system.Takes name → rest = bytesFrom form 0 lines)) := by
  intro run last
  have hunfolds : Unfolds system content [] run.2 run.1 :=
    SetUpCall.run_unfolds (s := { files }) content calls rfl
  refine ⟨SetUpCall.map_call_run calls _, SetUpCall.keeps_run hsystem calls _,
    hunfolds.countP_le_one, ?_⟩
  generalize hmoments : run.1 = moments at hunfolds ⊢
  cases hunfolds with
  | never hm hlog hwritten =>
    have hlast : last = run.2 := LogState.write_of_no_log hlog emissions
    refine .inl ⟨hm, hlog, hlast, ?_⟩
    rw [hlast, hwritten]
  | @once before after m place hb hm ha hlog hwritten hfiles =>
    have hlast : last = (((m.call.config.logAt place).linesOf emissions).foldl
        (LogState.put system form place) run.2) := LogState.write_of_log hlog emissions
    refine .inr ⟨before, m, after, place, m.call.config.layout, rfl, hb, hm.finds_place, hm, ha,
      hlog.trans hm.log.symm, m.call.config.format_layout, ?_, fun other hne => ?_, ?_⟩
    · rw [hlast, LogState.written_put, hwritten]
      rfl
    · rw [hlast]
      exact LogState.content_put_of_ne hsystem hne _ _
    · rintro name rfl hs
      have hheld : content run.2.files name =
          some ((content m.found.files name).getD ByteArray.empty) := by
        rw [hfiles name hs, hm.finds.content_eq hsystem]
      obtain ⟨rest, hrest, hall⟩ := LogState.content_put hsystem form
        ((m.call.config.logAt (.file name)).linesOf emissions) hheld
      rw [hwritten] at hall
      refine ⟨rest, ?_, hall⟩
      rw [hlast]
      exact hrest

end Calls

/-- The first of three calls asks for a file below another file and fails, the second sets the
log up in that other file, and the third, which would have the standard error, is rejected. What
is written then stands behind what the file held. -/
theorem second_call_sets_the_log_up :
    let system := FileTree.system []
    let files : FileTree := { entries := [(["log"], .file "old".toUTF8)] }
    let call (file : Option String) : SetUpCall FileTree :=
      { meanwhile := id
        config :=
          { format := .json, filter := { text := "trace", passes := fun _ => true }, file } }
    let calls := [some "/log/new", some "/log", none].map call
    let emission : Emission :=
      { record := { level := .info, target := "db", message := "event" } }
    let run := transcript (SetUpCall.make system) calls { files }
    let last := run.2.write system (fun _ _ => "new".toUTF8) [emission]
    system.Lawful FileTree.content ∧
    run.1.map (·.answer.isOk) = [false, true, false] ∧
    run.1.countP (·.answer.isOk) ≤ 1 ∧
    ∃ m ∈ run.1, m.SetsUp system (.file ["log"]) ∧
      last.written.map (·.2.emission) = [emission] ∧
      last.files.content ["log"] =
        some ((m.found.files.content ["log"]).getD ByteArray.empty ++ "new".toUTF8) := by
  intro system files call calls emission run last
  have hanswers : run.1.map (·.answer.isOk) = [false, true, false] := by decide +kernel
  have hplace : run.2.log.map Log.place = some (.file ["log"]) := by decide +kernel
  obtain ⟨hcalls, -, hcount, ⟨hfails, -⟩ | ⟨before, m, after, place, layout, hrun, -, -, hm, ha,
    hlog, -, hwritten, -, hcontent⟩⟩ := log_is_set_up_once (FileTree.lawful_system [])
      (fun _ _ => "new".toUTF8) files calls [emission]
  · have hmem : true ∈ run.1.map (·.answer.isOk) := by
      rw [hanswers]
      decide
    obtain ⟨m, hm, hok⟩ := List.mem_map.mp hmem
    rw [(hfails m hm).2.isOk] at hok
    cases hok
  · rw [show run.2.log = _ from hlog.trans hm.log] at hplace
    obtain rfl : place = .file ["log"] := Option.some.inj hplace
    have hmem : m ∈ run.1 := by
      rw [show run.1 = _ from hrun]
      simp
    have hcall {a : Moment FileTree} (h : a ∈ run.1) : ∃ file, call file = a.call := by
      have hmade : a.call ∈ calls := hcalls ▸ List.mem_map_of_mem h
      obtain ⟨file, -, hfile⟩ := List.mem_map.mp hmade
      exact ⟨file, hfile⟩
    have hpasses : m.call.config.filter.passes = fun _ => true := by
      obtain ⟨file, hfile⟩ := hcall hmem
      rw [← hfile]
    have hspares : ∀ a ∈ after, a.call.Spares FileTree.content ["log"] := by
      intro a hafter tree
      have hmade : a ∈ run.1 := by
        rw [show run.1 = _ from hrun]
        simp [hafter]
      obtain ⟨file, hfile⟩ := hcall hmade
      rw [← hfile]
      rfl
    obtain ⟨rest, hheld, hrest⟩ := hcontent ["log"] rfl hspares
    rw [hrest (FileTree.takes_system [] ["log"]), hpasses] at hheld
    rw [hpasses] at hwritten
    refine ⟨FileTree.lawful_system [], hanswers, hcount, m, hmem, hm, ?_, hheld⟩
    rw [show last.written = _ from hwritten]
    rfl

end KeyedGraph
