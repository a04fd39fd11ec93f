import Kronkeeper.FileTree
import Kronkeeper.WorkerTask

namespace Kronkeeper

/-!
# The script sandbox

`validate_script_path` resolves the safe directory and the path a client gave,
and compares the two results by whole components.  Both are free of links and
dots by then, so nothing that is accepted lies outside the safe directory, and
nothing inside it is turned away.
-/

namespace Executor

variable {system : FileSystem}
variable {safeDir script : Path}
variable {path : String}

def validateScriptPath
    (system : FileSystem)
    (safeDir : Path)
    (path : String) : Except String Path :=
  let candidate := safeDir.join (Path.ofString path)
  match system.canonicalize safeDir with
  | .error e => .error ("script safe dir unavailable: " ++ e.text)
  | .ok canonicalSafe =>
      match system.canonicalize candidate with
      | .error e => .error ("script path invalid: " ++ e.text)
      | .ok canonicalScript =>
          if !canonicalScript.startsWith canonicalSafe then
            .error "script path escapes safe directory"
          else
            .ok canonicalScript

/-- What `execute_script` meets; `command` runs a program with arguments. -/
def scriptOutcome
    (system : FileSystem)
    (safeDir : Path)
    (path : String)
    (args : List String)
    (command : Path → List String → ExecutionOutcome) :
    ExecutionOutcome :=
  match validateScriptPath system safeDir path with
  | .ok validPath => command validPath args
  | .error e => .scriptRejected e

/-- The path resolves to the resolved safe directory or below it. -/
structure Sandboxed
    (system : FileSystem)
    (safeDir : Path)
    (path : String)
    (safe place : TreePlace) : Prop where
  safeResolves : system.Resolves safeDir safe
  resolves : system.Resolves (safeDir.join (Path.ofString path)) place
  inside : safe <+: place

/-- A path is accepted as its place when that is inside. -/
theorem validateScriptPath_eq_ok_iff :
    validateScriptPath system safeDir path = .ok script ↔
      ∃ safe place,
        Sandboxed system safeDir path safe place ∧ script = place.path := by
  constructor
  · intro accepted
    rw [validateScriptPath] at accepted
    split at accepted
    next => cases accepted
    next canonicalSafe safeFound =>
      split at accepted
      next => cases accepted
      next canonicalScript found =>
        split at accepted
        next => cases accepted
        next inside =>
          cases accepted
          obtain ⟨safe, safeResolves, rfl⟩ :=
            FileSystem.canonicalize_eq_ok_iff.mp safeFound
          obtain ⟨place, resolves, rfl⟩ :=
            FileSystem.canonicalize_eq_ok_iff.mp found
          have isPrefix :=
            (TreePlace.startsWith_path_iff resolves.named
              safeResolves.named).mp (by simpa using inside)
          exact ⟨safe, place, ⟨safeResolves, resolves, isPrefix⟩, rfl⟩
  · rintro ⟨safe, place, sandboxed, rfl⟩
    have safeFound :=
      FileSystem.canonicalize_eq_ok_iff.mpr
        ⟨safe, sandboxed.safeResolves, rfl⟩
    have found :=
      FileSystem.canonicalize_eq_ok_iff.mpr
        ⟨place, sandboxed.resolves, rfl⟩
    have inside :=
      (TreePlace.startsWith_path_iff sandboxed.resolves.named
        sandboxed.safeResolves.named).mpr sandboxed.inside
    simp [validateScriptPath, safeFound, found, inside]

/--
A path is accepted if and only if the safe directory and the path in it both
resolve, the latter to the former's place or below it.  What is returned is the
path of that place: no link is on the way, and it resolves to itself.
-/
theorem validate_script_path_ok_iff
    (system : FileSystem)
    (safeDir : Path)
    (path : String) :
    ((∃ script, validateScriptPath system safeDir path = .ok script) ↔
      ∃ safe place,
        system.Resolves safeDir safe ∧
        system.Resolves (safeDir.join (Path.ofString path)) place ∧
        safe <+: place) ∧
    ∀ script,
      validateScriptPath system safeDir path = .ok script →
        ∃ place,
          system.Resolves (safeDir.join (Path.ofString path)) place ∧
          script = place.path ∧
          system.tree.Genuine place ∧
          system.canonicalize script = .ok script := by
  refine ⟨⟨?_, ?_⟩, ?_⟩
  · rintro ⟨script, accepted⟩
    obtain ⟨safe, place, sandboxed, _⟩ :=
      validateScriptPath_eq_ok_iff.mp accepted
    exact ⟨safe, place, sandboxed.safeResolves, sandboxed.resolves,
      sandboxed.inside⟩
  · rintro ⟨safe, place, safeResolves, resolves, inside⟩
    exact ⟨place.path, validateScriptPath_eq_ok_iff.mpr
      ⟨safe, place, ⟨safeResolves, resolves, inside⟩, rfl⟩⟩
  · intro script accepted
    obtain ⟨safe, place, sandboxed, rfl⟩ :=
      validateScriptPath_eq_ok_iff.mp accepted
    have resolves := sandboxed.resolves
    exact ⟨place, resolves, rfl, resolves.genuine,
      FileSystem.canonicalize_eq_ok_iff.mpr
        ⟨place, resolves.path_resolves, rfl⟩⟩

/-- What programs do elsewhere has no part in what a script answers. -/
theorem scriptOutcome_congr
    {safe : TreePlace}
    (safeResolves : system.Resolves safeDir safe)
    {args : List String}
    {command other : Path → List String → ExecutionOutcome}
    (alike :
      ∀ place, system.tree.Genuine place → safe <+: place →
        command place.path args = other place.path args) :
    scriptOutcome system safeDir path args command =
      scriptOutcome system safeDir path args other := by
  rw [scriptOutcome, scriptOutcome]
  cases answered : validateScriptPath system safeDir path with
  | error message =>
      rfl
  | ok script =>
      obtain ⟨safe', place, sandboxed, rfl⟩ :=
        validateScriptPath_eq_ok_iff.mp answered
      obtain rfl := sandboxed.safeResolves.unique safeResolves
      exact alike place sandboxed.resolves.genuine sandboxed.inside

end Executor

namespace Sample

/-- Two directories side by side, with links into and out of the first. -/
def scripts : FileSystem where
  tree :=
    FileTree.ofEntries
      ([ ("safe", .directory), ("safe2", .directory),
          ("outside.sh", .file), ("safe/run.sh", .file),
          ("safe/inner", .link (Path.ofString "run.sh")),
          ("safe/outer", .link (Path.ofString "../outside.sh")),
          ("safe2/run.sh", .file) ].map fun (name, entry) =>
        ((Path.ofString name).segments, entry))
      (by decide)
  workingDirectory := []
  isDirectory := rfl
  linkLimit := 40

/-- Only what resolves into the safe directory is accepted. -/
example :
    (["run.sh", "./inner", "/safe//run.sh", ""].map fun path =>
      Executor.validateScriptPath scripts (Path.ofString "safe") path) =
        (["/safe/run.sh", "/safe/run.sh", "/safe/run.sh", "/safe"].map
          fun script => .ok (Path.ofString script)) := by
  decide

example :
    (["../outside.sh", "outer", "/safe2/run.sh"].map fun path =>
      Executor.validateScriptPath scripts (Path.ofString "safe") path) =
        List.replicate 3 (.error "script path escapes safe directory") := by
  decide

end Sample

end Kronkeeper
