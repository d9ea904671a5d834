import RetroBrowser.Foundation.Sha2
import RetroBrowser.SessionEntrypoint.Launcher

/-!
Owns what the launcher checks of its container before it configures the emulator: the
stream's environment, the files that the specification and the core's profile name, and the
mounts.

Contract: `Surroundings` says what the container answers. A path that does not resolve, or a
file that cannot be read, stands for the `OSError` that the launcher translates.
-/

namespace RetroBrowser.SessionEntrypoint

open RetroBrowser.Foundation
open RetroBrowser.Foundation.ConfigText (Text)

/-- A line of `findmnt`. -/
structure Filesystem where
  target : Text
  options : Text
deriving DecidableEq, Repr

/-- What the launcher finds around it: its environment, the files, the mount that a path lies
on, and the directory it runs in. -/
structure Surroundings where
  environ : String → Option String
  resolve : Text → Option PurePath.Resolved
  isFile : PurePath.Resolved → Bool
  read : PurePath.Resolved → Option (List UInt8)
  findmnt : Text → Option Filesystem
  workingDirectory : PurePath.Resolved
  sha256 : List UInt8 → Digest

/-- `RuntimePaths`, as far as the checks read it. -/
structure RuntimePaths where
  romRoot : Text := "/run/roms".toList
  coreRoot : Text := "/opt/libretro".toList
  frontendPath : Text := "/usr/local/bin/retroarch".toList
  persistentSaveRoot : Text := "/run/retro-saves".toList
deriving DecidableEq, Repr

/-- The artifacts of an accepted specification, with their digests. -/
structure Artifacts where
  romPath : PurePath.Resolved
  romSha256 : String
  corePath : PurePath.Resolved
  coreSha256 : String
  frontendPath : PurePath.Resolved
  frontendSha256 : String
deriving DecidableEq

namespace Surroundings

variable (surroundings : Surroundings)

/-- `_sha256`. -/
def fileSha256 (path : PurePath.Resolved) : Except String String :=
  match surroundings.read path with
  | none => .error "approved artifact could not be read"
  | some content => .ok (surroundings.sha256 content).hexdigest

/-- `candidate.absolute()`. -/
def absolute (candidate : Text) : PurePath.Parsed :=
  let parsed := PurePath.Posix.parse candidate
  if parsed.root ≠ [] then parsed
  else ⟨[], ['/'], surroundings.workingDirectory.parts ++ parsed.tail⟩

/-- `_resolve_approved_file`. -/
def resolveApprovedFile (candidate root : Text) (label : String) :
    Except String PurePath.Resolved :=
  match surroundings.resolve root, surroundings.resolve candidate with
  | some resolvedRoot, some resolved =>
    if resolved.isRelativeTo resolvedRoot = false then
      .error s!"{label} is outside the approved {label} root"
    else if surroundings.isFile resolved = false then .error s!"{label} is not a regular file"
    else if (PurePath.Posix.parse candidate).tail.contains ['.', '.'] = true ∨
        surroundings.absolute candidate ≠ ⟨[], ['/'], resolved.parts⟩ then
      .error s!"{label} path is not canonical"
    else .ok resolved
  | _, _ => .error s!"{label} does not exist"

/-- A file beneath its root, with the digest that is expected of it. -/
def approvedFile (candidate root : Text) (label expected mismatch : String) :
    Except String (PurePath.Resolved × String) := do
  let path ← surroundings.resolveApprovedFile candidate root label
  let digest ← surroundings.fileSha256 path
  if digest ≠ expected then throw mismatch
  pure (path, digest)

/-- The frontend of a profile is the image's own. -/
def approvedFrontend (frontend : ManifestArtifact) (path : Text) :
    Except String (PurePath.Resolved × String) :=
  match surroundings.resolve path, surroundings.resolve frontend.artifactPath.toList with
  | some frontendPath, some manifestFrontendPath => do
    if manifestFrontendPath ≠ frontendPath ∨ surroundings.isFile frontendPath = false then
      throw "core profile selects an unapproved RetroArch artifact"
    let digest ← surroundings.fileSha256 frontendPath
    if digest ≠ frontend.artifactSha256 then throw "RetroArch SHA-256 mismatch"
    pure (frontendPath, digest)
  | _, _ => throw "approved RetroArch artifact does not exist"

/-- `resolve_runtime`. -/
def resolveRuntime (spec : RuntimeSpec) (profiles : List (String × CoreProfile))
    (paths : RuntimePaths) : Except String Artifacts :=
  match profiles.lookup spec.emulator.coreProfile with
  | none => .error "RuntimeSpec does not select an approved core profile"
  | some profile => do
    let (romPath, romSha256) ← surroundings.approvedFile spec.game.canonicalPath.toList
      paths.romRoot "ROM" spec.game.expectedSha256 "ROM SHA-256 mismatch"
    let (corePath, coreSha256) ← surroundings.approvedFile profile.core.artifactPath.toList
      paths.coreRoot "core" profile.core.artifactSha256 "core SHA-256 mismatch"
    let (frontendPath, frontendSha256) ←
      surroundings.approvedFrontend profile.frontend paths.frontendPath
    pure ⟨romPath, romSha256, corePath, coreSha256, frontendPath, frontendSha256⟩

/-- `mount_options_are_read_only`. -/
def mountOptionsAreReadOnly (options : Text) : Bool :=
  (options.splitOn ',').contains "ro".toList

/-- `_validate_read_only_mount`. -/
def validateReadOnlyMount (path : Text) : Except String Unit :=
  match surroundings.findmnt path with
  | none => .error "ROM mount options could not be verified"
  | some filesystem =>
    if mountOptionsAreReadOnly filesystem.options = false then
      .error "ROM must be mounted read-only"
    else .ok ()

/-- `_validate_persistent_save_mount`. -/
def validatePersistentSaveMount (path : Text) : Except String Unit :=
  match surroundings.findmnt path with
  | none => .error "persistent save mount could not be verified"
  | some filesystem =>
    if filesystem.target ≠ path ∨
        (filesystem.options.splitOn ',').contains "rw".toList = false then
      .error "persistent save directory must be an exact writable mount"
    else .ok ()

/-- The variables that a specification fixes. -/
def expectedEnvironment (spec : RuntimeSpec) : List (String × String) :=
  [("SELKIES_SUBFOLDER", spec.stream.subfolder), ("SELKIES_MANUAL_WIDTH", "1280"),
    ("SELKIES_MANUAL_HEIGHT", "720"), ("SELKIES_FRAMERATE", "60-60")]

/-- `_validate_stream_environment`. -/
def validateStreamEnvironment (spec : RuntimeSpec) : Except String Unit :=
  let mismatches := (expectedEnvironment spec).filter fun expected =>
    surroundings.environ expected.1 ≠ some expected.2
  if mismatches = [] then .ok ()
  else .error ("Selkies environment does not match RuntimeSpec fields: " ++
    ", ".intercalate (mismatches.map Prod.fst))

/-- The checks of `run`, in their order, from an accepted specification and the profiles of
the manifest. -/
def validated (spec : RuntimeSpec) (profiles : List (String × CoreProfile))
    (paths : RuntimePaths) : Except String Artifacts := do
  surroundings.validateStreamEnvironment spec
  let artifacts ← surroundings.resolveRuntime spec profiles paths
  surroundings.validateReadOnlyMount artifacts.romPath.str
  if spec.persistence.saveMode = .hostAuthoritative then
    surroundings.validatePersistentSaveMount paths.persistentSaveRoot
  pure artifacts

end Surroundings

end RetroBrowser.SessionEntrypoint
