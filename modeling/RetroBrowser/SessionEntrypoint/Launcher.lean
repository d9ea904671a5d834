import RetroBrowser.Foundation.ConfigText
import RetroBrowser.Foundation.PathJoin
import RetroBrowser.SessionEntrypoint.Models

/-!
Owns the launcher's configuration of the emulator: the settings of a resolved runtime
and their text.

Contract: a path object keeps the text it was made from and what was joined to it.
-/

namespace RetroBrowser.SessionEntrypoint

open RetroBrowser.Foundation
open RetroBrowser.Foundation.ConfigText (Text)

/-- A path object. -/
structure SessionPath where
  root : Text
  parts : List Text
deriving DecidableEq, Repr

/-- `path / name`. -/
def SessionPath.child (path : SessionPath) (name : String) : SessionPath :=
  { path with parts := path.parts ++ [name.toList] }

/-- `str(path)`. -/
def SessionPath.str (path : SessionPath) : Text := PurePath.Posix.joined path.root path.parts

/-- What the configuration is rendered from: an accepted specification, an accepted profile,
and the root of the sessions. -/
structure ResolvedRuntime (tables : PythonText.CharacterTables) where
  spec : RuntimeSpec
  accepted : spec.errors tables = []
  profile : CoreProfile
  approved : profile.errors = []
  sessionRoot : Text

variable {tables : PythonText.CharacterTables}

namespace ResolvedRuntime

variable (runtime : ResolvedRuntime tables)

/-- `session_home`, as `resolve_runtime` makes it. -/
def sessionHome : SessionPath :=
  ((⟨runtime.sessionRoot, []⟩ : SessionPath).child (UUID.str runtime.spec.sessionId)).child
    (UUID.str runtime.spec.participantId)

/-- The mount of the shared saves. -/
def persistentSaveRoot : Text := "/run/retro-saves".toList

def saveDirectory : Text :=
  if runtime.spec.persistence.saveMode = .hostAuthoritative then persistentSaveRoot
  else (runtime.sessionHome.child "saves").str

/-- The settings that do not depend on the ports. -/
def fixedValues : List (String × Text) :=
  let spec := runtime.spec
  [("netplay_nickname", spec.playerName.toList),
    ("netplay_ip_port", (toString spec.netplay.port).toList),
    ("netplay_mode", (if spec.netplay.role = .client then "true" else "false").toList),
    ("netplay_ip_address", (spec.netplay.host.getD "").toList),
    ("netplay_public_announce", "false".toList),
    ("netplay_use_mitm_server", "false".toList),
    ("netplay_nat_traversal", "false".toList),
    ("netplay_spectator_mode_enable", "false".toList),
    ("netplay_client_swap_input", "false".toList),
    ("netplay_delay_frames", "0".toList),
    ("netplay_allow_pausing", "false".toList),
    ("netplay_max_connections", (toString (max (runtime.profile.maxPlayers - 1) 1)).toList),
    ("config_save_on_exit", "false".toList),
    ("block_sram_overwrite", "true".toList),
    ("core_options_path",
      ((runtime.sessionHome.child "config").child "retroarch-core-options.cfg").str),
    ("savefile_directory", runtime.saveDirectory),
    ("savestate_directory", (runtime.sessionHome.child "states").str),
    ("system_directory", (runtime.sessionHome.child "system").str)]

/-- The setting of one port. -/
def deviceValue (item : ℕ × ℕ) : String × Text :=
  ("input_libretro_device_p" ++ toString item.1, (toString item.2).toList)

/-- The order of pairs. -/
def inOrder (left right : ℕ × ℕ) :
    Bool := left.1 < right.1 || (left.1 == right.1 && left.2 ≤ right.2)

/-- `values`. -/
def values : List (String × Text) :=
  runtime.fixedValues ++
    (runtime.profile.controllerPortDevices.items.mergeSort inOrder).map deviceValue

end ResolvedRuntime

/-- `text.replace(old, new)` for a single character. -/
def replaceCharacter (old : Char) (new text : Text) : Text :=
  text.flatMap fun character => if character = old then new else [character]

/-- `_quote_config`. -/
def quoteConfig (value : Text) : Text :=
  '"' :: (replaceCharacter '"' ['\\', '"'] (replaceCharacter '\\' ['\\', '\\'] value) ++ ['"'])

def generatedBy : Text := "# Generated by session-entrypoint; do not edit.".toList

/-- `render_retroarch_config`. -/
def renderRetroarchConfig (baseConfig : Text) (runtime : ResolvedRuntime tables) : Text :=
  let managed := ['\n'].intercalate
    (runtime.values.map fun (key, value) => key.toList ++ " = ".toList ++ quoteConfig value)
  baseConfig.rdropWhile PythonText.isSpace ++
    '\n' :: '\n' :: (generatedBy ++ '\n' :: (managed ++ ['\n']))

end RetroBrowser.SessionEntrypoint
