import ParserRefresh.Proofs.ConfigurationReading
import ParserRefresh.Proofs.DefaultDocument

/-! # A lawful library of settings

The library that reads sources as TOML and merges them key by key, in the order in which their
entries stand, obeys the laws of a library of settings. -/

namespace ParserRefresh

/-! ## Putting values -/

namespace Setting

variable {key other name : Text} {alter : Option Setting → Setting} {steps : List KeyStep}
  {value setting after old : Setting}

theorem lookup_cons_eq (name : Text) (value : Setting) (entries : List (Text × Setting)) :
    ((name, value) :: entries).lookup key =
      if key = name then some value else entries.lookup key := by
  by_cases same : key = name
  · subst same
    rw [List.lookup_cons_self, if_pos rfl]
  · rw [List.lookup_cons, beq_false_of_ne same, if_neg same]

theorem lookup_updateEntry (entries : List (Text × Setting)) :
    (updateEntry key alter entries).lookup other =
      if other = key then some (alter (entries.lookup key)) else entries.lookup other := by
  induction entries with
  | nil => rw [updateEntry, lookup_cons_eq]; rfl
  | cons entry rest ih =>
    obtain ⟨name, old⟩ := entry
    rw [updateEntry]
    by_cases here : name = key
    · subst here
      rw [if_pos rfl, lookup_cons_eq, lookup_cons_eq, lookup_cons_eq, if_pos rfl]
      split <;> rfl
    · rw [if_neg here, lookup_cons_eq, lookup_cons_eq, lookup_cons_eq, ih, if_neg (Ne.symm here)]
      by_cases same : other = key
      · subst same
        rw [if_neg (Ne.symm here), if_pos rfl, if_pos rfl]
      · rw [if_neg same, if_neg same]

/-- An update of a key changes what stands under it and nothing else. -/
theorem find?_update (setting : Setting) :
    (setting.update key alter).find? other =
      if other = key then some (alter (setting.find? key)) else setting.find? other := by
  have shown : (setting.update key alter).entries = updateEntry key alter setting.entries := by
    cases setting <;> rfl
  rw [find?, shown, lookup_updateEntry]
  rfl

/-- To put a value behind a key is to update the key. -/
theorem exists_update_of_place (placed : place value (.child name :: steps) setting = some after) :
    ∃ alter, after = setting.update (Text.lower name) alter := by
  cases steps with
  | nil =>
    cases placed
    cases value <;> exact ⟨_, rfl⟩
  | cons step steps =>
    rw [place, Option.map_eq_some_iff] at placed
    · obtain ⟨inner, -, rfl⟩ := placed
      exact ⟨_, rfl⟩
    · nofun

/-- Putting values one after the other, where a path goes. -/
abbrev put : Put := fun steps value setting => place value steps setting

theorem putAll_ofEntries (entries : List (Text × Setting)) :
    Change.putAll put (Change.ofEntries entries) setting = some (assignAll entries setting) := by
  induction entries generalizing setting with
  | nil => rw [assignAll]; rfl
  | cons entry rest ih =>
    rw [Change.ofEntries, List.map_cons, Change.putAll_cons, put, place, Option.bind_some,
      assignAll]
    exact ih

theorem keyByKey_put : put.KeyByKey where
  aside placed apart := by
    obtain ⟨alter, rfl⟩ := exists_update_of_place placed
    rw [find?_update, if_neg apart]
  last {name value setting after} placed := by
    cases placed
    cases value with
    | scalar | list => exact ⟨_, .replace rfl, by rw [assign, find?_update, if_pos rfl]⟩
    | table origin entries =>
      refine ⟨_, .merge (.refl entries) (putAll_ofEntries entries), ?_⟩
      rw [assign, find?_update, if_pos rfl]
  below {name step steps value setting after old} placed found := by
    rw [put, place, Option.map_eq_some_iff] at placed
    · obtain ⟨inner, placed, rfl⟩ := placed
      rw [found] at placed
      exact ⟨inner, placed, by rw [find?_update, if_pos rfl]⟩
    · nofun

theorem isSome_place (value setting : Setting) (name : Text) (names : List Text) :
    (place value (.child name :: names.map .child) setting).isSome = true := by
  induction names generalizing name setting with
  | nil => rfl
  | cons next names ih =>
    rw [List.map_cons, place, Option.isSome_map]
    · exact ih _ next
    · nofun

end Setting

/-! ## Reading paths -/

namespace KeyPath

open SettingsLibrary

theorem key?_append {name rest : Text} (named : IsName name)
    (ends : ∀ c ∈ rest.head?, isKeyChar c = false) : key? (name ++ rest) = some (name, rest) := by
  obtain ⟨some, chars⟩ := named
  have none : rest.takeWhile isKeyChar = [] ∧ rest.dropWhile isKeyChar = rest := by
    cases rest with
    | nil => exact ⟨rfl, rfl⟩
    | cons c rest => simp [ends c rfl]
  rw [key?, List.takeWhile_append_of_pos chars, List.dropWhile_append_of_pos chars, none.1, none.2,
    List.append_nil, if_neg]
  rwa [List.isEmpty_iff]

theorem isKeyChar_head? (names : List Text) :
    ∀ c ∈ (names.flatMap ('.' :: ·)).head?, isKeyChar c = false := by
  cases names with
  | nil => nofun
  | cons next names =>
    intro c first
    cases first
    rfl

theorem readSteps_of_names {names : List Text} (named : ∀ name ∈ names, IsName name) :
    readSteps (names.flatMap ('.' :: ·)) = .ok (names.map .child) := by
  induction names with
  | nil => rw [readSteps]; rfl
  | cons name names ih =>
    have stepped : step ((name :: names).flatMap ('.' :: ·)) =
        .ok (.child name, names.flatMap ('.' :: ·)) := by
      rw [List.flatMap_cons, List.cons_append, step,
        key?_append (named _ List.mem_cons_self) (isKeyChar_head? names)]
    have shorter :
        (names.flatMap ('.' :: ·)).length < ((name :: names).flatMap ('.' :: ·)).length := by
      simp only [List.flatMap_cons, List.length_append, List.length_cons]
      omega
    rw [readSteps, if_neg (by simp), stepped]
    dsimp only
    rw [if_pos shorter, ih fun name among => named name (List.mem_cons_of_mem _ among)]
    rfl

theorem join_cons (name : Text) (names : List Text) :
    Text.join '.' (name :: names) = name ++ names.flatMap ('.' :: ·) := by
  induction names generalizing name with
  | nil => exact (List.append_nil name).symm
  | cons next names ih => rw [Text.join, ih, List.flatMap_cons, List.cons_append]; simp

/-- Names with dots between them are a path. -/
theorem parse_join {name : Text} {names : List Text}
    (named : ∀ part ∈ name :: names, IsName part) :
    parse (Text.join '.' (name :: names)) = .ok ⟨name, names.map .child⟩ := by
  rw [join_cons, parse, key?_append (named _ List.mem_cons_self) (isKeyChar_head? names)]
  dsimp only
  rw [readSteps_of_names fun name among => named name (List.mem_cons_of_mem _ among)]
  rfl

end KeyPath

/-! ## Building settings -/

namespace Settings

open Change SettingsLibrary

def way (path : KeyPath) : List KeyStep := .child path.first :: path.steps

/-- How the library reads and merges. -/
def behaviour : Behaviour where
  path key := (KeyPath.parse key).toOption.map way
  entries := entries
  put := Setting.put
  readers := Configuration.readers

def ofOverride (override : KeyPath × Setting) : Change := ⟨way override.1, override.2⟩

variable {files : FileSystem} {sources : List SettingsSource} {single : List Change}
  {builder : library.Builder} {contents : List (List (Text × Setting))} {setting after : Setting}

theorem setPath_eq_ok_iff {path : KeyPath} {value : Setting} :
    setPath setting path value = .ok after ↔
      Setting.put (way path) value setting = some after := by
  have same : Setting.put (way path) value setting = setting.set path value := rfl
  rw [same, setPath]
  cases setting.set path value <;> simp

theorem steps_change (entry : Text × Setting) :
    (behaviour.change entry).steps =
      match KeyPath.parse entry.1 with
      | .ok path => way path
      | .error _ => [.child entry.1] := by
  change ((KeyPath.parse entry.1).toOption.map way).getD _ = _
  cases KeyPath.parse entry.1 <;> rfl

theorem steps_change_ne_nil (entry : Text × Setting) : (behaviour.change entry).steps ≠ [] := by
  rw [steps_change]
  split <;> exact List.cons_ne_nil _ _

theorem putKey_eq_ok_iff {entry : Text × Setting} :
    putKey setting entry = .ok after ↔
      Setting.put (behaviour.change entry).steps entry.2 setting = some after := by
  rw [steps_change, putKey]
  cases KeyPath.parse entry.1 with
  | error fault => simp [Setting.place]
  | ok path => exact setPath_eq_ok_iff

/-- A fold that makes a change for each member of a list. -/
theorem foldlM_eq_ok_iff_makesAll {α : Type} {make : Setting → α → Except SettingsFault Setting}
    {change : α → Change} (placed : ∀ given, (change given).steps ≠ [])
    (makes : ∀ given setting after, make setting given = .ok after ↔
      Setting.put (change given).steps (change given).value setting = some after)
    {members : List α} :
    members.foldlM make setting = .ok after ↔
      MakesAll Setting.put (members.map change) setting after := by
  rw [makesAll_iff_putAll (List.forall_mem_map.mpr fun given _ => placed given)]
  induction members generalizing setting with
  | nil => simp [pure, Except.pure, putAll]
  | cons given rest ih =>
    simp only [List.foldlM_cons, bind_eq_ok_iff, makes, ih, List.map_cons, putAll_cons,
      Option.bind_eq_some_iff]

theorem foldlM_putKey_eq_ok_iff {entries : List (Text × Setting)} :
    entries.foldlM putKey setting = .ok after ↔
      MakesAll Setting.put (entries.map behaviour.change) setting after :=
  foldlM_eq_ok_iff_makesAll steps_change_ne_nil fun _ _ _ => putKey_eq_ok_iff

theorem foldlM_setPath_eq_ok_iff {overrides : List (KeyPath × Setting)} :
    overrides.foldlM (fun setting (path, value) => setPath setting path value) setting =
        .ok after ↔
      MakesAll Setting.put (overrides.map ofOverride) setting after :=
  foldlM_eq_ok_iff_makesAll (fun _ => List.cons_ne_nil _ _) fun _ _ _ => setPath_eq_ok_iff

theorem exists_contents_of_foldlM (merged : sources.foldlM (addSource files) setting = .ok after) :
    ∃ contents, sources.mapM (entries files) = .ok contents ∧
      MakesLayers Setting.put (contents.map (·.map behaviour.change)) setting after := by
  induction sources generalizing setting with
  | nil =>
    cases merged
    exact ⟨[], rfl, .nil after⟩
  | cons source sources ih =>
    rw [List.foldlM_cons, bind_eq_ok_iff] at merged
    obtain ⟨between, first, merged⟩ := merged
    obtain ⟨content, read, first⟩ := bind_eq_ok_iff.mp first
    obtain ⟨contents, reads, later⟩ := ih merged
    refine ⟨content :: contents, ?_, .cons (.refl _) (foldlM_putKey_eq_ok_iff.mp first) later⟩
    rw [List.mapM_cons, read, reads]
    rfl

/-- What a builder has been asked for is what it holds. -/
theorem of_asked (asked : library.Asked behaviour sources single builder)
    (apart : single.Pairwise (·.steps ≠ ·.steps)) :
    Builder.sources builder = sources ∧
      (Builder.overrides builder).map ofOverride = single := by
  induction asked with
  | start => exact ⟨rfl, rfl⟩
  | source asked source ih =>
    obtain ⟨same, overrides⟩ := ih apart
    exact ⟨congrArg (· ++ [source]) same, overrides⟩
  | @override sources single builder after asked key change path done ih =>
    obtain ⟨apart, -, fresh⟩ := List.pairwise_append.mp apart
    obtain ⟨same, overrides⟩ := ih apart
    simp only [library, Builder.setOverride] at done
    simp only [behaviour] at path
    cases parsed : KeyPath.parse key with
    | error fault => rw [parsed] at path; cases path
    | ok keyPath =>
      rw [parsed] at done path
      cases done
      have steps : way keyPath = change.steps := Option.some.inj path
      have others : (Builder.overrides builder).filter (fun override => override.1 ≠ keyPath) =
          Builder.overrides builder := by
        refine List.filter_eq_self.mpr fun override among => decide_eq_true fun clash => ?_
        refine fresh (ofOverride override) (overrides ▸ List.mem_map_of_mem among) change
          (List.mem_singleton.mpr rfl) ?_
        rw [← steps, ← clash]
        rfl
      refine ⟨same, ?_⟩
      dsimp only
      rw [others, List.map_append, overrides, List.map_singleton, ofOverride, steps]

theorem exists_makesAll {changes : List Change}
    (plain : ∀ change ∈ changes, ∃ names : List Text, change.steps = names.map .child)
    (placed : ∀ change ∈ changes, change.steps ≠ []) (setting : Setting) :
    ∃ after, MakesAll Setting.put changes setting after := by
  induction changes generalizing setting with
  | nil => exact ⟨setting, .nil setting⟩
  | cons change rest ih =>
    obtain ⟨names, steps⟩ := plain change List.mem_cons_self
    have some := placed change List.mem_cons_self
    obtain ⟨_, value⟩ := change
    cases steps
    cases names with
    | nil => exact absurd rfl some
    | cons name names =>
      obtain ⟨between, first⟩ := Option.isSome_iff_exists.mp
        (Setting.isSome_place value setting name names)
      obtain ⟨after, later⟩ := ih (fun change among => plain change (List.mem_cons_of_mem _ among))
        (fun change among => placed change (List.mem_cons_of_mem _ among)) between
      exact ⟨after, .cons (.place first) later⟩

/-- Sources whose keys are names can be merged when they can be read. -/
theorem exists_foldlM_addSource (reads : sources.mapM (entries files) = .ok contents)
    (plain : ∀ layer ∈ contents.map (·.map behaviour.change), ∀ change ∈ layer,
      ∃ names : List Text, change.steps = names.map .child) (setting : Setting) :
    ∃ after, sources.foldlM (addSource files) setting = .ok after := by
  induction sources generalizing contents setting with
  | nil => exact ⟨setting, rfl⟩
  | cons source sources ih =>
    rw [List.mapM_cons] at reads
    obtain ⟨content, read, reads⟩ := bind_eq_ok_iff.mp reads
    obtain ⟨later, readsLater, same⟩ := bind_eq_ok_iff.mp reads
    cases same
    obtain ⟨between, first⟩ := exists_makesAll (plain _ List.mem_cons_self)
      (List.forall_mem_map.mpr fun entry _ => steps_change_ne_nil entry) setting
    obtain ⟨after, merged⟩ :=
      ih readsLater (fun layer among => plain layer (List.mem_cons_of_mem _ among)) between
    refine ⟨after, ?_⟩
    rw [List.foldlM_cons]
    refine bind_eq_ok_iff.mpr ⟨between, ?_, merged⟩
    exact bind_eq_ok_iff.mpr ⟨content, read, foldlM_putKey_eq_ok_iff.mpr first⟩

/-- The library obeys the laws. -/
theorem lawful_library : library.Lawful behaviour where
  put := Setting.keyByKey_put
  readers := Configuration.plain_readers
  path {names} some named := by
    obtain ⟨name, names, rfl⟩ := List.exists_cons_of_ne_nil some
    simp only [behaviour, KeyPath.parse_join named]
    rfl
  defaults files := by
    obtain ⟨parsed, found, same⟩ := exists_parse_defaultDocument
    have read : entries files (.document Loader.defaultDocument) =
        .ok (Setting.ofTomlEntries none parsed) := by
      rw [entries, found]
    exact same ▸ read
  override {key steps} value builder path := by
    simp only [behaviour] at path
    simp only [library, Builder.setOverride]
    cases parsed : KeyPath.parse key with
    | error fault =>
      rw [parsed] at path
      cases path
    | ok path => exact ⟨_, rfl⟩
  build {sources single builder files setting} asked apart built := by
    obtain ⟨rfl, rfl⟩ := of_asked asked apart
    obtain ⟨merged, first, later⟩ := bind_eq_ok_iff.mp built
    obtain ⟨contents, reads, layers⟩ := exists_contents_of_foldlM first
    exact ⟨contents, reads, makesLayers_append layers
      (.cons (.refl _) (foldlM_setPath_eq_ok_iff.mp later) (.nil setting))⟩
  builds {sources single builder files contents} asked apart reads plain := by
    obtain ⟨rfl, rfl⟩ := of_asked asked apart
    obtain ⟨merged, first⟩ := exists_foldlM_addSource reads
      (fun layer among => plain layer (List.mem_append_left _ among)) .empty
    obtain ⟨setting, later⟩ := exists_makesAll (plain _ List.mem_concat_self)
      (List.forall_mem_map.mpr fun _ _ => List.cons_ne_nil _ _) merged
    exact ⟨setting, bind_eq_ok_iff.mpr ⟨merged, first, foldlM_setPath_eq_ok_iff.mpr later⟩⟩
  deserialize there := Configuration.ofSetting_eq_ok_iff there

end Settings

end ParserRefresh
