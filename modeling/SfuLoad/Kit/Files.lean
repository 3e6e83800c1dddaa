import Mathlib.Data.List.Basic

/-!
# Scripts of fallible file commands

A directory maps names to contents, each with a stamp that tells where it came
from. A command removes, writes or inspects files; its outcome says whether it
failed and what it left behind. A script runs commands until one fails, or until
the outcomes end, which is a crash. Scripts are judged by what holds before them,
after them, and wherever they stop short.
-/

namespace Kit.Files

variable {F S : Type*}

/-- The bytes of a file and the stamp of who wrote them. -/
structure Content (S : Type*) where
  stamp : S
  bytes : List UInt8
deriving DecidableEq

/-- The files that are there, by name. -/
abbrev Directory (F S : Type*) := F → Option (Content S)

/-- How one command went. A writer that fails may leave what it wrote so far. -/
inductive Outcome where
  | done (bytes : List UInt8)
  | failed (left : Option (List UInt8))
deriving DecidableEq

/-- The bytes a writer leaves, if it comes to write any. -/
def Outcome.left : Outcome → Option (List UInt8)
  | .done bytes => some bytes
  | .failed left => left

/-- One step of a script. What a file is filled with may be known beforehand or not. -/
inductive Command (F S : Type*) where
  /-- Remove a file; one that is not there is removed already. -/
  | remove (file : F)
  /-- Anything that may fail and changes no file. -/
  | attempt (holds : Directory F S → Bool)
  /-- Have a file filled with bytes that are not known before. -/
  | emit (file : F) (stamp : Directory F S → S) (accepts : List UInt8 → Bool)
  /-- Write these bytes. -/
  | write (file : F) (stamp : Directory F S → S) (bytes : List UInt8)

/-- The file a command may change. -/
def Command.target : Command F S → Option F
  | .remove file => some file
  | .attempt _ => none
  | .emit file _ _ => some file
  | .write file _ _ => some file

variable [DecidableEq F]

/-- Sets or removes one file. -/
def put (files : Directory F S) (file : F) (content : Option (Content S)) : Directory F S :=
  fun name => if name = file then content else files name

/-- The file that is set has the new content. -/
@[simp] theorem put_same (files : Directory F S) (file : F) (content : Option (Content S)) :
    put files file content file = content :=
  if_pos rfl

/-- Every other file is as it was. -/
@[simp] theorem put_other (files : Directory F S) {file name : F} (other : name ≠ file)
    (content : Option (Content S)) : put files file content name = files name :=
  if_neg other

/-- What a failed writer leaves of its file. -/
def leave (files : Directory F S) (file : F) (stamp : S) (left : Option (List UInt8)) :
    Directory F S :=
  left.elim files (fun bytes => put files file (some ⟨stamp, bytes⟩))

/-- The files after one command, and whether it succeeded. -/
def perform (files : Directory F S) : Command F S → Outcome → Directory F S × Bool
  | .remove file, .done _ => (put files file none, true)
  | .remove _, .failed _ => (files, false)
  | .attempt holds, .done _ => (files, holds files)
  | .attempt _, .failed _ => (files, false)
  | .emit file stamp accepts, .done bytes =>
    (put files file (some ⟨stamp files, bytes⟩), accepts bytes)
  | .emit file stamp _, .failed left => (leave files file (stamp files) left, false)
  | .write file stamp bytes, .done _ => (put files file (some ⟨stamp files, bytes⟩), true)
  | .write file stamp _, .failed left => (leave files file (stamp files) left, false)

/-- The files after a script, and whether all of it succeeded. -/
def runScript : List (Command F S) → List Outcome → Directory F S → Directory F S × Bool
  | [], _, files => (files, true)
  | _ :: _, [], files => (files, false)
  | command :: commands, outcome :: outcomes, files =>
    if (perform files command outcome).2 then
      runScript commands outcomes (perform files command outcome).1
    else ((perform files command outcome).1, false)

/-- A command that leaves bytes behind in its own file changes no other. -/
theorem leave_other (files : Directory F S) {file name : F} (other : name ≠ file) (stamp : S)
    (left : Option (List UInt8)) : leave files file stamp left name = files name := by
  cases left with
  | none => rfl
  | some bytes => exact put_other files other _

/-- A command changes its target only. -/
theorem perform_other (files : Directory F S) {command : Command F S} {name : F}
    (other : command.target ≠ some name) (outcome : Outcome) :
    (perform files command outcome).1 name = files name := by
  cases command with
  | attempt holds => cases outcome <;> rfl
  | remove file =>
    have distinct : name ≠ file := fun same => other (congrArg some same.symm)
    cases outcome with
    | done bytes => exact put_other files distinct _
    | failed left => rfl
  | emit file stamp accepts =>
    have distinct : name ≠ file := fun same => other (congrArg some same.symm)
    cases outcome with
    | done bytes => exact put_other files distinct _
    | failed left => exact leave_other files distinct _ left
  | write file stamp bytes =>
    have distinct : name ≠ file := fun same => other (congrArg some same.symm)
    cases outcome with
    | done _ => exact put_other files distinct _
    | failed left => exact leave_other files distinct _ left

/-- Where it is started, a script reaches one of its two ends. -/
def Meets (before : Directory F S → Prop) (commands : List (Command F S))
    (after stopped : Directory F S → Prop) : Prop :=
  ∀ outcomes files, before files →
    if (runScript commands outcomes files).2 = true then
      after (runScript commands outcomes files).1
    else stopped (runScript commands outcomes files).1

/-- The same of one command. -/
def Ends (before : Directory F S → Prop) (command : Command F S)
    (after stopped : Directory F S → Prop) : Prop :=
  ∀ outcome files, before files →
    if (perform files command outcome).2 = true then after (perform files command outcome).1
    else stopped (perform files command outcome).1

section Rules

variable {before after middle stopped : Directory F S → Prop} {command : Command F S}
  {commands : List (Command F S)}

/-- The empty script ends where it began. -/
theorem meets_nil (onward : ∀ files, before files → after files) :
    Meets before [] after stopped :=
  fun _ files holds => onward files holds

/-- The rule of sequence: the first command leads to what the rest requires, and it may stop,
or the program may crash before it, only where that is tolerated. -/
theorem meets_cons (first : Ends before command middle stopped)
    (rest : Meets middle commands after stopped)
    (crash : ∀ files, before files → stopped files) :
    Meets before (command :: commands) after stopped := by
  intro outcomes files holds
  cases outcomes with
  | nil => exact crash files holds
  | cons outcome outcomes =>
    have ends := first outcome files holds
    rw [runScript]
    split
    · next succeeded =>
      rw [if_pos succeeded] at ends
      exact rest outcomes _ ends
    · next failed =>
      rw [if_neg failed] at ends
      exact ends

/-- Two scripts, one after the other: the second is run where the first succeeds, on the
outcomes the first has left over. -/
theorem runScript_append (commands rest : List (Command F S)) (outcomes : List Outcome)
    (files : Directory F S) :
    runScript (commands ++ rest) outcomes files =
      if (runScript commands outcomes files).2 then
        runScript rest (outcomes.drop commands.length) (runScript commands outcomes files).1
      else runScript commands outcomes files := by
  induction commands generalizing outcomes files with
  | nil => rfl
  | cons command commands hypothesis =>
    cases outcomes with
    | nil => rfl
    | cons outcome outcomes =>
      simp only [List.cons_append, runScript, List.length_cons, List.drop_succ_cons]
      by_cases succeeded : (perform files command outcome).2 = true
      · simp only [succeeded, if_true]
        exact hypothesis outcomes _
      · simp [succeeded]

/-- Scripts are put together at what holds between them. -/
theorem meets_append {rest : List (Command F S)} (first : Meets before commands middle stopped)
    (second : Meets middle rest after stopped) :
    Meets before (commands ++ rest) after stopped := by
  intro outcomes files holds
  have met := first outcomes files holds
  rw [runScript_append]
  by_cases succeeded : (runScript commands outcomes files).2 = true
  · rw [if_pos succeeded] at met ⊢
    exact second _ _ met
  · rw [if_neg succeeded] at met ⊢
    rw [if_neg succeeded]
    exact met

/-- Commands that all keep an assertion keep it as a script. -/
theorem meets_of_keeps (keeps : ∀ command ∈ commands, Ends before command before stopped)
    (crash : ∀ files, before files → stopped files) :
    Meets before commands before stopped := by
  induction commands with
  | nil => exact meets_nil (fun _ holds => holds)
  | cons command commands hypothesis =>
    apply meets_cons (keeps command List.mem_cons_self) _ crash
    exact hypothesis (fun command among => keeps command (List.mem_cons_of_mem _ among))

/-- A script may be asked for less after it and given more before it. -/
theorem Meets.weaken {before' after' stopped' : Directory F S → Prop}
    (met : Meets before commands after stopped) (weaker : ∀ files, before' files → before files)
    (ends : ∀ files, after files → after' files)
    (stops : ∀ files, stopped files → stopped' files) :
    Meets before' commands after' stopped' := by
  intro outcomes files holds
  have ended := met outcomes files (weaker files holds)
  split at ended
  · next succeeded =>
    rw [if_pos succeeded]
    exact ends _ ended
  · next failed =>
    rw [if_neg failed]
    exact stops _ ended

/-- What does not depend on a command's target survives it. -/
theorem ends_attempt {holds : Directory F S → Bool}
    (onward : ∀ files, before files → holds files = true → after files)
    (stop : ∀ files, before files → stopped files) :
    Ends before (.attempt holds) after stopped := by
  intro outcome files given
  cases outcome with
  | done bytes =>
    change if holds files = true then after files else stopped files
    split
    · next held => exact onward files given held
    · exact stop files given
  | failed left => exact stop files given

/-- A removal goes through or fails; in both cases nothing but its file has changed. -/
theorem ends_remove {file : F} (onward : ∀ files, before files → after (put files file none))
    (stop : ∀ files, before files → stopped files) :
    Ends before (.remove file) after stopped := by
  intro outcome files given
  cases outcome with
  | done bytes => exact onward files given
  | failed left => exact stop files given

/-- An emitted file may hold any bytes, and is judged by them only on success. -/
theorem ends_emit {file : F} {stamp : Directory F S → S} {accepts : List UInt8 → Bool}
    (onward : ∀ files bytes, before files → accepts bytes = true →
      after (put files file (some ⟨stamp files, bytes⟩)))
    (stop : ∀ files bytes, before files → stopped (put files file (some ⟨stamp files, bytes⟩)))
    (idle : ∀ files, before files → stopped files) :
    Ends before (.emit file stamp accepts) after stopped := by
  intro outcome files given
  cases outcome with
  | done bytes =>
    change if accepts bytes = true then after _ else stopped _
    split
    · next accepted => exact onward files bytes given accepted
    · exact stop files bytes given
  | failed left =>
    cases left with
    | none => exact idle files given
    | some bytes => exact stop files bytes given

/-- A write goes through with its bytes, or fails, and then any bytes may be left behind. -/
theorem ends_write {file : F} {stamp : Directory F S → S} {bytes : List UInt8}
    (onward : ∀ files, before files → after (put files file (some ⟨stamp files, bytes⟩)))
    (stop : ∀ files left, before files → stopped (put files file (some ⟨stamp files, left⟩)))
    (idle : ∀ files, before files → stopped files) :
    Ends before (.write file stamp bytes) after stopped := by
  intro outcome files given
  cases outcome with
  | done _ => exact onward files given
  | failed left =>
    cases left with
    | none => exact idle files given
    | some bytes => exact stop files bytes given

end Rules

/-- A script changes the targets of its commands only. -/
theorem runScript_other {commands : List (Command F S)} {name : F}
    (other : ∀ command ∈ commands, command.target ≠ some name) (outcomes : List Outcome)
    (files : Directory F S) : (runScript commands outcomes files).1 name = files name := by
  have met : Meets (fun now => now name = files name) commands
      (fun now => now name = files name) (fun now => now name = files name) := by
    apply meets_of_keeps
    · intro command among outcome now same
      rw [ite_self]
      exact (perform_other now (other command among) outcome).trans same
    · exact fun _ same => same
  have kept := met outcomes files rfl
  rwa [ite_self] at kept

/-- A script that succeeds was given an outcome of success for each command. -/
theorem outcomes_of_succeeded {commands : List (Command F S)} {outcomes : List Outcome}
    {files : Directory F S} (succeeded : (runScript commands outcomes files).2 = true) :
    ∃ (written : List (List UInt8)) (rest : List Outcome),
      written.length = commands.length ∧ outcomes = written.map .done ++ rest := by
  induction commands generalizing outcomes files with
  | nil => exact ⟨[], outcomes, rfl, rfl⟩
  | cons command commands hypothesis =>
    cases outcomes with
    | nil => cases succeeded
    | cons outcome outcomes =>
      rw [runScript] at succeeded
      split at succeeded
      · next performed =>
        obtain ⟨written, rest, count, rfl⟩ := hypothesis succeeded
        cases outcome with
        | done bytes => exact ⟨bytes :: written, rest, congrArg (· + 1) count, rfl⟩
        | failed left => cases command <;> cases performed
      · cases succeeded

/-- Removals that all succeed leave none of their files. -/
theorem removes_leave_none {names : List F} {outcomes : List Outcome} {files : Directory F S}
    (succeeded : (runScript (names.map .remove) outcomes files).2 = true) :
    ∀ name ∈ names, (runScript (names.map .remove) outcomes files).1 name = none := by
  induction names generalizing outcomes files with
  | nil => exact fun _ among => absurd among List.not_mem_nil
  | cons first names hypothesis =>
    cases outcomes with
    | nil => cases succeeded
    | cons outcome outcomes =>
      cases outcome with
      | failed left => cases succeeded
      | done bytes =>
        change (runScript (names.map .remove) outcomes (put files first none)).2 = true
          at succeeded
        change ∀ name ∈ first :: names,
          (runScript (names.map .remove) outcomes (put files first none)).1 name = none
        intro name among
        by_cases again : name ∈ names
        · exact hypothesis succeeded name again
        · have same : name = first := (List.mem_cons.mp among).resolve_right again
          rw [runScript_other _ outcomes, same, put_same]
          intro command removal
          obtain ⟨other, present, rfl⟩ := List.mem_map.mp removal
          intro targeted
          exact again (Option.some.inj targeted ▸ present)

/-- Checks that all succeed all hold. -/
theorem attempts_hold {checks : List (Directory F S → Bool)} {outcomes : List Outcome}
    {files : Directory F S} (succeeded : (runScript (checks.map .attempt) outcomes files).2 = true) :
    ∀ check ∈ checks, check files = true := by
  induction checks generalizing outcomes with
  | nil => exact fun _ among => absurd among List.not_mem_nil
  | cons check checks hypothesis =>
    cases outcomes with
    | nil => cases succeeded
    | cons outcome outcomes =>
      cases outcome with
      | failed left => cases succeeded
      | done bytes =>
        change (if check files = true then runScript (checks.map .attempt) outcomes files
          else (files, false)).2 = true at succeeded
        by_cases held : check files = true
        · rw [if_pos held] at succeeded
          intro other among
          rcases List.mem_cons.mp among with rfl | among
          · exact held
          · exact hypothesis succeeded other among
        · rw [if_neg held] at succeeded
          cases succeeded

end Kit.Files
