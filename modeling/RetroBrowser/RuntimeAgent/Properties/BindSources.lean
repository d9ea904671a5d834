import RetroBrowser.Foundation.PathFlavour
import RetroBrowser.RuntimeAgent.Quiet
import RetroBrowser.RuntimeAgent.Run

/-!
Owns where the bind mounts of a payload point to. The agent resolves each path with POSIX rules
and writes it beneath a Docker root with the rules of Windows, if the root looks like a path of
Windows. Backslashes and drives inside of names, and a root that looks like one of the other
kind, change what the source denotes.

Contract: a Docker root and the sources beneath it are read with the rules of the Docker host,
whichever these are; a root of the agent's own is one of POSIX.
-/

namespace RetroBrowser.RuntimeAgent

open RetroBrowser.Foundation
open RetroBrowser.Foundation.Frame

/-! ## One bind mount -/

/-- `_docker_path` writes beneath the root with the rules of Windows. -/
def WrittenByWindows (root : PurePath.Text) : Prop :=
  '\\' ∈ root ∨ PurePath.Windows.drive root ≠ []

instance (root : PurePath.Text) : Decidable (WrittenByWindows root) :=
  inferInstanceAs (Decidable (_ ∨ _))

/-- A path beneath a root of the agent, which the Docker host has at a root of its own. -/
structure Bind where
  dockerRoot : PurePath.Text
  root : PurePath.Resolved
  path : PurePath.Resolved

namespace Bind

variable (bind : Bind)

/-- The components of the path relative to the agent's root. -/
def relative : List PurePath.Text := bind.path.relativeTo bind.root

def source : String := String.ofList (RuntimeService.dockerPath bind.dockerRoot bind.relative)

/-- For a reader of this kind the source has the components of the Docker root, followed by those
of the path relative to the agent's root. -/
def Stays (flavour : PurePath.Flavour) : Prop :=
  flavour.parse bind.source.toList =
    { flavour.parse bind.dockerRoot with
      tail := (flavour.parse bind.dockerRoot).tail ++ bind.relative }

/-- What a Docker host on Windows needs. Where the root looks like a path of Windows, the
components hold neither a backslash nor a drive, and the root takes names, if there are any.
Elsewhere they hold no backslash, and the first name of a relative path is no drive. -/
def PlainForWindows : Prop :=
  if WrittenByWindows bind.dockerRoot then
    (∀ part ∈ bind.relative, PurePath.Windows.Undriven part) ∧
      (bind.relative = [] ∨ PurePath.Windows.TakesNames bind.dockerRoot)
  else
    (∀ part ∈ bind.relative, '\\' ∉ part) ∧
      PurePath.Posix.FirstUndriven bind.dockerRoot bind.relative

/-- What a Docker host on POSIX needs: that the root does not look like a path of Windows, or that
nothing is joined to a root which is one name that Windows writes as it is. -/
def PlainForPosix : Prop :=
  WrittenByWindows bind.dockerRoot → bind.relative = [] ∧
    PurePath.Posix.parse bind.dockerRoot = ⟨[], [], [PurePath.Windows.str bind.dockerRoot]⟩

def Plain : PurePath.Flavour → Prop
  | .windows => bind.PlainForWindows
  | .posix => bind.PlainForPosix

variable {bind}

theorem proper_relative {part : PurePath.Text} (member : part ∈ bind.relative) :
    PurePath.Proper '/' part :=
  bind.path.proper part (List.mem_of_mem_drop member)

theorem source_eq (bind : Bind) : bind.source.toList =
    if WrittenByWindows bind.dockerRoot then
      PurePath.Windows.joined bind.dockerRoot bind.relative
    else PurePath.Posix.joined bind.dockerRoot bind.relative := by
  rw [source, String.toList_ofList]
  rfl

theorem stays_windows_iff (bind : Bind) : bind.Stays .windows ↔ bind.PlainForWindows := by
  have proper : ∀ part ∈ bind.relative, PurePath.Proper '/' part := fun _ => proper_relative
  unfold Stays PlainForWindows
  rw [source_eq]
  by_cases written : WrittenByWindows bind.dockerRoot
  · rw [if_pos written, if_pos written]
    exact PurePath.Windows.parse_joined_iff proper
  · obtain ⟨plain, undriven⟩ := not_or.mp written
    rw [if_neg written, if_neg written]
    exact PurePath.Posix.windows_parse_joined_iff plain (not_not.mp undriven) proper

theorem stays_posix_iff (bind : Bind) : bind.Stays .posix ↔ bind.PlainForPosix := by
  have proper : ∀ part ∈ bind.relative, PurePath.Proper '/' part := fun _ => proper_relative
  unfold Stays PlainForPosix
  rw [source_eq]
  by_cases written : WrittenByWindows bind.dockerRoot
  · rw [if_pos written, forall_prop_of_true written]
    exact PurePath.Windows.posix_parse_joined_iff written proper
  · rw [if_neg written, forall_prop_of_false written, iff_true]
    exact PurePath.Posix.parse_joined bind.dockerRoot proper

/-- For each reader a bind mount stays beneath its Docker root just when it is plain. -/
theorem stays_iff (bind : Bind) (flavour : PurePath.Flavour) :
    bind.Stays flavour ↔ bind.Plain flavour := by
  cases flavour with
  | posix => exact bind.stays_posix_iff
  | windows => exact bind.stays_windows_iff

end Bind

/-! ## The mounts of a payload -/

namespace RuntimeService

variable (self : RuntimeService)

/-- The bind mount of a path beneath an agent's root, with the Docker root configured for it
or else the agent's own. -/
structure Binds (configured : Option String) (agentRoot : String) (path : PurePath.Resolved)
    (bind : Bind) : Prop where
  dockerRoot : self.DockerRoot configured agentRoot bind.dockerRoot
  root : self.Resolves agentRoot.toList bind.root
  beneath : path.isRelativeTo bind.root = true
  path : bind.path = path

/-- The bind mounts of a save directory: none without one. -/
def SaveBinds (persistenceDirectory : Option PurePath.Resolved) (binds : List Bind) : Prop :=
  match persistenceDirectory with
  | none => binds = []
  | some directory => ∃ saveDataRoot bind, self.config.saveDataRoot = some saveDataRoot ∧
      binds = [bind] ∧ self.Binds self.config.dockerSaveDataRoot saveDataRoot directory bind

/-- The bind mounts of a payload: the ROM, the user data and the saves. -/
def PayloadBinds (romPath runtimeDirectory : PurePath.Resolved)
    (persistenceDirectory : Option PurePath.Resolved) (binds : List Bind) : Prop :=
  ∃ rom userData saves, binds = rom :: userData :: saves ∧
    self.Binds self.config.dockerRomRoot self.config.romRoot romPath rom ∧
    self.Binds self.config.dockerUserDataRoot self.config.userDataRoot runtimeDirectory userData ∧
    self.SaveBinds persistenceDirectory saves

/-- The mounts have the sources of these bind mounts. -/
def Sources (mounts : List Mount) (binds : List Bind) : Prop :=
  mounts.map (fun mount => mount.source) = binds.map Bind.source

variable {self}

theorem dockerRoot_of_configured {configured : Option String} {agentRoot : String}
    {root : PurePath.Resolved} (resolves : self.Resolves agentRoot.toList root) :
    self.DockerRoot configured agentRoot (match configured with
      | some text => if text.isEmpty then root.str else text.toList
      | none => root.str) := by
  cases configured with
  | none => exact Or.inr ⟨by simp, root, resolves, rfl⟩
  | some text =>
      by_cases unset : text.isEmpty = true
      · exact Or.inr ⟨by simpa using unset, root, resolves, if_pos unset⟩
      · exact Or.inl ⟨text, rfl, by simpa using unset, if_neg unset⟩

theorem quiet_saveBinds (persistenceDirectory : Option PurePath.Resolved) :
    quiet.Holds (self.saveMounts persistenceDirectory) fun mounts =>
      ∃ binds, self.SaveBinds persistenceDirectory binds ∧ Sources mounts binds := by
  unfold saveMounts SaveBinds
  cases persistenceDirectory with
  | none => exact holds_pure ⟨[], rfl, rfl⟩
  | some directory =>
      cases configured : self.config.saveDataRoot with
      | none => exact holds_throw _
      | some saveDataRoot =>
          apply holds_bind (self.quiet_resolve _)
          intro root resolves
          apply holds_bind (quiet_relativeTo directory root)
          intro relative ⟨beneath, isRelative⟩
          subst isRelative
          have binds : self.Binds self.config.dockerSaveDataRoot saveDataRoot directory
              ⟨_, root, directory⟩ :=
            ⟨dockerRoot_of_configured resolves, resolves, beneath, rfl⟩
          exact holds_pure ⟨[_], ⟨saveDataRoot, _, rfl, rfl, binds⟩, rfl⟩

theorem quiet_payloadBinds (request : CreateRuntimeRequest)
    (romPath runtimeDirectory : PurePath.Resolved) (fingerprint : String)
    (persistenceDirectory : Option PurePath.Resolved) (saveKey : Option Digest) :
    quiet.Holds (self.payload request romPath runtimeDirectory fingerprint persistenceDirectory
      saveKey) fun payload => ∃ binds,
        self.PayloadBinds romPath runtimeDirectory persistenceDirectory binds ∧
        Sources payload.hostConfig.mounts binds := by
  apply holds_bind (self.quiet_resolve _)
  intro romRoot romResolves
  apply holds_bind (quiet_relativeTo romPath romRoot)
  intro romRelative ⟨romBeneath, isRomRelative⟩
  apply holds_bind (self.quiet_resolve _)
  intro userDataRoot userResolves
  apply holds_bind (quiet_relativeTo runtimeDirectory userDataRoot)
  intro userRelative ⟨userBeneath, isUserRelative⟩
  apply holds_bind (self.quiet_dockerRoot _ _)
  intro dockerRomRoot romDocker
  apply holds_bind (self.quiet_dockerRoot _ _)
  intro dockerUserDataRoot userDocker
  apply holds_bind (quiet_saveBinds persistenceDirectory)
  intro mounts ⟨saves, saveBinds, saveSources⟩
  apply holds_bind (holds_ofExcept _ fun env accepted => accepted)
  intro env _
  subst isRomRelative isUserRelative
  have rom : self.Binds self.config.dockerRomRoot self.config.romRoot romPath
      ⟨dockerRomRoot, romRoot, romPath⟩ := ⟨romDocker, romResolves, romBeneath, rfl⟩
  have userData : self.Binds self.config.dockerUserDataRoot self.config.userDataRoot
      runtimeDirectory ⟨dockerUserDataRoot, userDataRoot, runtimeDirectory⟩ :=
    ⟨userDocker, userResolves, userBeneath, rfl⟩
  apply holds_pure
  refine ⟨_, ⟨_, _, saves, rfl, rom, userData, saveBinds⟩, ?_⟩
  show _ :: _ :: mounts.map _ = _ :: _ :: saves.map _
  rw [saveSources]
  rfl

end RuntimeService

/-- The sources of a payload are those of the ROM, the user data and the saves, each beneath
its root; and each stays beneath the Docker root just when it is plain, for a Docker host of
either kind. -/
theorem payload_binds_stay (self : RuntimeService) (request : CreateRuntimeRequest)
    (romPath runtimeDirectory : PurePath.Resolved) (fingerprint : String)
    (persistenceDirectory : Option PurePath.Resolved) (saveKey : Option Digest) (host : Host)
    {payload : Payload}
    (computed : (self.payload request romPath runtimeDirectory fingerprint persistenceDirectory
      saveKey host).1 = .returned payload) :
    ∃ binds, self.PayloadBinds romPath runtimeDirectory persistenceDirectory binds ∧
      payload.hostConfig.mounts.map (fun mount => mount.source) = binds.map Bind.source ∧
      ∀ bind ∈ binds, ∀ flavour, (bind.Stays flavour ↔ bind.Plain flavour) := by
  have ⟨_, meets⟩ := self.quiet_payloadBinds request romPath runtimeDirectory fingerprint
    persistenceDirectory saveKey host
  rw [computed] at meets
  have ⟨binds, payloadBinds, sources⟩ := meets
  exact ⟨binds, payloadBinds, sources, fun bind _ => bind.stays_iff⟩

section Example

/-- The user data of the participant. -/
def exampleDirectory : PurePath.Resolved where
  parts := ["data".toList, "sessions".toList, (UUID.str 2).toList]
  proper := by decide +kernel

theorem example_binds_stay :
    ∃ (payload : Payload) (binds : List Bind),
      (exampleAgent.service .working).PayloadBinds exampleRomPath exampleDirectory none binds ∧
      payload.hostConfig.mounts.map (fun mount => mount.source) = binds.map Bind.source ∧
      ∀ bind ∈ binds, ∀ flavour, (bind.Stays flavour ↔ bind.Plain flavour) :=
  ⟨_, payload_binds_stay (exampleAgent.service .working) exampleRequest exampleRomPath
    exampleDirectory "" none none Host.empty rfl⟩

/-- An agent whose Docker host has the ROMs on a drive. -/
def windowsConfig : AgentConfig where
  __ := exampleConfig
  dockerRomRoot := some "D:\\roms"
  accepted := by decide +kernel

def windowsAgent : Agent := ⟨windowsConfig, .standard exampleTables⟩

/-- A ROM whose name has backslashes, directly in the ROM root. -/
def backslashRom : PurePath.Resolved where
  parts := ["data".toList, "roms".toList, "..\\..\\secret.nes".toList]
  proper := by decide

def backslashRequest : CreateRuntimeRequest :=
  { exampleRequest with romPath := String.ofList backslashRom.str }

/-- A file system with this ROM. -/
def backslashFileSystem : FileSystem where
  resolve := exampleFileSystem.resolve
  isFile path := path = backslashRom.str
  isDirectory _ := true
  read path := if path = backslashRom.str then some exampleGame else none

def Dependencies.backslash : Dependencies where
  __ := Dependencies.working
  fileSystem _ := backslashFileSystem
  lawful := Dependencies.working.lawful

/-- The mount of the ROM. -/
def backslashBind : Bind where
  dockerRoot := "D:\\roms".toList
  root := ⟨["data".toList, "roms".toList], by decide⟩
  path := backslashRom

/-- An agent whose Docker host, one of POSIX, has the ROMs in a directory with a backslash. -/
def posixConfig : AgentConfig where
  __ := exampleConfig
  dockerRomRoot := some "/data/ro\\ms"
  accepted := by decide +kernel

/-- The mount of the ROM. -/
def posixBind : Bind where
  dockerRoot := "/data/ro\\ms".toList
  root := ⟨["data".toList, "roms".toList], by decide⟩
  path := exampleRomPath

/-- The request is served with a source that climbs above a Docker root of Windows; and beneath
a Docker root of POSIX, the source of another request is none of that root. -/
theorem backslash_leaves_root :
    let service := windowsAgent.service .backslash
    let created := windowsAgent.execute Host.empty [⟨.create backslashRequest, .backslash⟩]
    (service.Binds windowsConfig.dockerRomRoot windowsConfig.romRoot backslashRom backslashBind ∧
      (backslashRequest.valid exampleTables = true ∧
        (service.validateRequest backslashRequest Host.empty).1 = .returned backslashRom ∧
        backslashBind.source ∈ created.engine.containers.flatMap
          (fun container => container.mounts.map fun mount => mount.source) ∧
        PurePath.Windows.parse backslashBind.source.toList =
          ⟨"D:".toList, ['\\'],
            ["roms".toList, "..".toList, "..".toList, "secret.nes".toList]⟩) ∧
      ¬backslashBind.Stays .windows) ∧
    (Agent.service ⟨posixConfig, .standard exampleTables⟩ .working).Binds
        posixConfig.dockerRomRoot posixConfig.romRoot exampleRomPath posixBind ∧
      posixBind.source = "\\data\\ro\\ms\\game.nes" ∧ ¬posixBind.Stays .posix := by
  intro service created
  refine ⟨⟨⟨?_, ⟨0, rfl⟩, by decide, rfl⟩, by decide +kernel, ?_⟩,
    ⟨?_, ⟨0, rfl⟩, by decide, rfl⟩, by decide +kernel, ?_⟩
  · exact Or.inl ⟨_, rfl, by decide, rfl⟩
  · show ¬(_ : PurePath.Parsed) = _
    decide +kernel
  · exact Or.inl ⟨_, rfl, by decide, rfl⟩
  · show ¬(_ : PurePath.Parsed) = _
    decide +kernel

end Example

end RetroBrowser.RuntimeAgent
