import ParserRefresh.Files.Walk
import ParserRefresh.Settings.Loader
import ParserRefresh.Settings.Reading
import ParserRefresh.Toml.Document

/-! # Sources of settings

A file is looked for under its name and then with `.toml` behind it. A file that may be missing is
also passed over when it cannot be read, but not when it is malformed. Sources are merged in their
order, and single settings are put over all of them. -/

namespace ParserRefresh.Settings

def fullPath (files : FileSystem) (path : Path) : Path :=
  (FileSystem.absolute files.workingDirectory).join path

/-- The path with a suffix behind its last component, if that is a name. -/
def withSuffix? (suffix : Text) (path : Path) : Option Path :=
  match path.fileName?, path.parent? with
  | some name, some parent => some (parent.join ⟨name ++ suffix⟩)
  | _, _ => none

def find? (files : FileSystem) (name : Path) : Option Path :=
  let full := fullPath files name
  if files.isFile full then some full
  else (withSuffix? ".toml".toList full).filter files.isFile

def parts (path : Path) : List Text :=
  path.components.filterMap (fun component =>
    match component with
    | .name part => some part
    | .up => some ['.', '.']
    | _ => none)

def wayFrom : List Text → List Text → List Text
  | [], path => path
  | base :: bases, part :: path =>
    if base = part then wayFrom bases path
    else (base :: bases).map (fun _ => ['.', '.']) ++ part :: path
  | bases, [] => bases.map (fun _ => ['.', '.'])

/-- How a file is named in messages: by its way from the working directory. -/
def originOf (files : FileSystem) (file : Path) : Text :=
  Text.join '/' (wayFrom files.workingDirectory (parts file))

def dropMark (text : Text) : Text :=
  match text with
  | '\uFEFF' :: rest => rest
  | text => text

def readFile (files : FileSystem) (required : Bool) (name : Path) :
    Except SettingsFault (List (Text × Setting)) :=
  let failed (fault : SettingsFault) : Except SettingsFault (List (Text × Setting)) :=
    if required then .error fault else .ok []
  match find? files name with
  | none => failed (.fileNotFound name)
  | some file =>
    match files.readText file with
    | .error _ => failed .notUtf8
    | .ok (_, text) =>
      match Toml.parse (dropMark text) with
      | none => .error .malformed
      | some entries => .ok (Setting.ofTomlEntries (some (originOf files file)) entries)

def entries (files : FileSystem) : SettingsSource → Except SettingsFault (List (Text × Setting))
  | .document text =>
    match Toml.parse text with
    | none => .error .malformed
    | some entries => .ok (Setting.ofTomlEntries none entries)
  | .file required path => readFile files required path

def setPath (setting : Setting) (path : KeyPath) (value : Setting) : Except SettingsFault Setting :=
  match setting.set path value with
  | some setting => .ok setting
  | none => .error .crashed

/-- Puts the value of a source under one of its keys. A key that reads as a path is one. -/
def putKey (setting : Setting) (entry : Text × Setting) : Except SettingsFault Setting :=
  match KeyPath.parse entry.1 with
  | .error _ => .ok (Setting.assign (Text.lower entry.1) entry.2 setting)
  | .ok path => setPath setting path entry.2

def addSource (files : FileSystem) (setting : Setting) (source : SettingsSource) :
    Except SettingsFault Setting := do
  (← entries files source).foldlM putKey setting

/-- What a library of settings has been asked for. -/
structure Builder where
  sources : List SettingsSource
  overrides : List (KeyPath × Setting)

def Builder.setOverride (key : Text) (value : Setting) (builder : Builder) :
    Except SettingsFault Builder :=
  match KeyPath.parse key with
  | .error fault => .error (.badKey fault)
  | .ok path =>
    let others := builder.overrides.filter (fun override => override.1 ≠ path)
    .ok { builder with overrides := others ++ [(path, value)] }

def Builder.build (files : FileSystem) (builder : Builder) : Except SettingsFault Setting := do
  let merged ← builder.sources.foldlM (addSource files) .empty
  builder.overrides.foldlM (fun setting (path, value) => setPath setting path value) merged

/-- The library that reads sources as TOML and merges them key by key. -/
def library : SettingsLibrary where
  Builder := Builder
  builder := ⟨[], []⟩
  addSource source builder := { builder with sources := builder.sources ++ [source] }
  setOverride := Builder.setOverride
  build := Builder.build
  deserialize := Configuration.ofSetting

end ParserRefresh.Settings
