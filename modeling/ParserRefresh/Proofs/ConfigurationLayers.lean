import ParserRefresh.CommandLine.Program
import ParserRefresh.Proofs.LawfulSettings

/-! # Layers of a configuration

Whatever a loader is asked for, the sources are layers over the defaults, in the order in which they
are added, and the single settings are the last layer. So each leaf of the configuration is decided
by the last layer that names it, and it does not matter when the single settings are given. -/

namespace ParserRefresh

open SettingsLibrary Change

variable {library : SettingsLibrary} {behaviour : Behaviour} {files : FileSystem}

/-! ## What a loader is asked for -/

/-- One thing that a loader is asked for. -/
inductive Call where
  | source (source : SettingsSource)
  | set (key value : Text)

namespace Call

def source? : Call → Option SettingsSource
  | source given => some given
  | set .. => none

def set? : Call → Option (Text × Text)
  | source _ => none
  | set key value => some (key, value)

end Call

namespace Loader

def call (loader : Loader library) : Call → Except SettingsFault (Loader library)
  | .source source => .ok (loader.withSource source)
  | .set key value => loader.setOverride key (.ofText value)

def load (library : SettingsLibrary) (files : FileSystem) (calls : List Call) :
    Except SettingsFault Configuration := do
  let loader : Loader library ← calls.foldlM call .new
  loader.build files

end Loader

/-- A single setting has a path and puts its text there. -/
def SettingsLibrary.Behaviour.Sets (behaviour : Behaviour) (set : Text × Text) (change : Change) :
    Prop :=
  behaviour.path set.1 = some change.steps ∧ change.value = .ofText set.2

namespace Loader

variable {loader after : Loader library} {calls : List Call} {sources : List SettingsSource}
  {single changes : List Change}

/-- A builder remembers what its loader has been asked for. -/
theorem asked_of_foldlM (done : calls.foldlM call loader = .ok after)
    (asked : library.Asked behaviour sources single loader.builder)
    (sets : List.Forall₂ behaviour.Sets (calls.filterMap Call.set?) changes) :
    library.Asked behaviour (sources ++ calls.filterMap Call.source?) (single ++ changes)
      after.builder := by
  induction calls generalizing loader sources single changes with
  | nil =>
    cases done
    cases sets
    simpa using asked
  | cons next calls ih =>
    rw [List.foldlM_cons] at done
    obtain ⟨between, first, rest⟩ := bind_eq_ok_iff.mp done
    cases next with
    | source source =>
      cases first
      have later := ih rest (.source asked source) sets
      rw [List.append_assoc] at later
      exact later
    | set key value =>
      obtain ⟨builder, made, rfl⟩ := map_eq_ok_iff.mp first
      cases sets with
      | @cons _ change _ changes here sets =>
        obtain ⟨path, text⟩ := here
        have later := ih rest (.override asked path (text ▸ made)) sets
        rw [List.append_assoc] at later
        exact later

/-- Single settings with paths are accepted wherever they stand. -/
theorem exists_foldlM (lawful : library.Lawful behaviour)
    (sets : List.Forall₂ behaviour.Sets (calls.filterMap Call.set?) changes)
    (loader : Loader library) : ∃ after, calls.foldlM call loader = .ok after := by
  induction calls generalizing loader changes with
  | nil => exact ⟨loader, rfl⟩
  | cons next calls ih =>
    rw [List.foldlM_cons]
    cases next with
    | source source => exact ih sets _
    | set key value =>
      cases sets with
      | cons here sets =>
        obtain ⟨builder, made⟩ := lawful.override (.ofText value) loader.builder here.1
        obtain ⟨after, done⟩ := ih sets ⟨builder⟩
        exact ⟨after, bind_eq_ok_iff.mpr ⟨⟨builder⟩, map_eq_ok_iff.mpr ⟨builder, made, rfl⟩, done⟩⟩

end Loader

namespace Configuration

variable {sources : List SettingsSource} {sets : List (Text × Text)}
  {contents : List (List (Text × Setting))} {single : List Change} {calls : List Call}
  {configuration : Configuration} {leaf : Leaf}

/-! ## The defaults -/

/-- What a leaf is where nothing is said about it. -/
def Leaf.initial (leaf : Leaf) : Setting :=
  (only? leaf.keys (ofEntries defaultEntries)).getD .nothing

def ofOptions (options : Options) : Configuration where
  source := options.layout.source
  prelude := options.layout.prelude
  compiled := options.layout.compiled
  grammar := options.layout.grammar
  markers := options.prelude.markers
  keptComments := options.prelude.keptComments
  stripAttributes := !options.prelude.crateAttributes.isEmpty
  attributeNames := options.prelude.crateAttributes
  indentUnit := options.prelude.indentUnit
  header := options.prelude.header.getD []
  extract := options.extract
  grammarFlag := options.grammarFlag
  build := options.build
  compiler := options.compiler

theorem only?_defaults :
    ∀ leaf ∈ leaves, only? leaf.keys (ofEntries defaultEntries) = some leaf.initial := by
  have there : ∀ keys ∈ leaves.map Leaf.keys,
      (only? keys (ofEntries defaultEntries)).isSome = true := by
    rw [defaultEntries_eq]
    decide +kernel
  intro leaf among
  obtain ⟨value, found⟩ := Option.isSome_iff_exists.mp (there _ (List.mem_map_of_mem among))
  rw [Leaf.initial, found]
  rfl

theorem map_initial_leaves : leaves.map Leaf.initial = [
    .ofText "src/parser.rs".toList, .ofText "src/prelude.rs".toList,
    .ofText "target/bootpeg/compiled_parser.rs".toList, .ofText "src/grammar.peg".toList,
    .ofText "// RULES START".toList, .ofText "// RULES END".toList, .ofText "#[cfg(test)]".toList,
    .ofTexts ["///".toList, "//!".toList], .scalar none (.boolean true),
    .ofTexts ["crate_id".toList, "crate_name".toList, "crate_type".toList], .ofText "  ".toList,
    .ofText [], .ofText "rule!( Grammar <-".toList, .scalar none (.boolean true),
    .ofText "-g".toList, .ofText "make".toList, .ofTexts ["-B".toList],
    .ofText "./nailgun".toList, .ofTexts []] := by
  have shown : Leaf.initial =
      fun leaf => (only? leaf.keys (ofEntries defaultEntries)).getD .nothing := rfl
  rw [shown, defaultEntries_eq]
  decide +kernel

theorem reads_ofText {readers : Readers} (plain : readers.Plain) (chars : Text) :
    readers.text (.ofText chars) = some chars := plain.text none chars

theorem reads_ofTexts {readers : Readers} (plain : readers.Plain) (texts : List Text) :
    readers.texts (.ofTexts texts) = some texts := by
  refine plain.texts none ?_
  induction texts with
  | nil => rfl
  | cons text texts ih => rw [List.map_cons, List.mapM_cons, reads_ofText plain, ih]; rfl

/-- The defaults are read as the options of a project that given nothing. -/
theorem reads_initial {readers : Readers} (plain : readers.Plain) :
    ∀ leaf ∈ leaves, leaf.Reads readers leaf.initial (ofOptions {}) := by
  have shown := map_initial_leaves
  simp only [leaves, List.map_cons, List.cons.injEq] at shown
  simp only [leaves, List.forall_mem_cons, Leaf.Reads, shown, reads_ofText plain,
    reads_ofTexts plain, plain.flag]
  exact ⟨rfl, rfl, rfl, rfl, rfl, rfl, rfl, rfl, rfl, rfl, rfl, rfl, rfl, rfl, rfl, rfl, rfl, rfl,
    rfl, List.forall_mem_nil _⟩

/-- Leaves that can be read are the leaves of a configuration. -/
theorem exists_reads {readers : Readers} {values : Leaf → Setting}
    (readable : ∀ leaf ∈ leaves, ∃ content, leaf.read readers (values leaf) = some content) :
    ∃ configuration, ∀ leaf ∈ leaves, leaf.Reads readers (values leaf) configuration := by
  simp only [leaves, List.forall_mem_cons] at readable
  obtain ⟨⟨source, h1⟩, ⟨prelude, h2⟩, ⟨compiled, h3⟩, ⟨grammar, h4⟩, ⟨rulesStart, h5⟩,
    ⟨rulesEnd, h6⟩, ⟨testSentinel, h7⟩, ⟨keptComments, h8⟩, ⟨stripAttributes, h9⟩,
    ⟨attributeNames, h10⟩, ⟨indentUnit, h11⟩, ⟨header, h12⟩, ⟨sentinel, h13⟩, ⟨dedent, h14⟩,
    ⟨grammarFlag, h15⟩, ⟨builder, h16⟩, ⟨buildArgs, h17⟩, ⟨compiler, h18⟩,
    ⟨compilerArgs, h19⟩, -⟩ := readable
  refine ⟨⟨⟨source⟩, ⟨prelude⟩, ⟨compiled⟩, ⟨grammar⟩, ⟨rulesStart, rulesEnd, testSentinel⟩,
    keptComments, stripAttributes, attributeNames, indentUnit, header, ⟨sentinel, dedent⟩,
    grammarFlag, ⟨builder, buildArgs⟩, ⟨compiler, compilerArgs⟩⟩, ?_⟩
  simp only [leaves, List.forall_mem_cons]
  exact ⟨h1, h2, h3, h4, h5, h6, h7, h8, h9, h10, h11, h12, h13, h14, h15, h16, h17, h18, h19,
    List.forall_mem_nil _⟩

/-! ## Layers over the defaults -/

theorem leaves_apart : ∀ leaf ∈ leaves, ∀ other ∈ leaves,
    leaf.keys = other.keys ∨ ¬ leaf.keys <+: other.keys := by
  have apart : ∀ keys ∈ leaves.map Leaf.keys, ∀ others ∈ leaves.map Leaf.keys,
      keys = others ∨ ¬ keys <+: others := by
    decide +kernel
  exact fun leaf among other amongOthers =>
    apart _ (List.mem_map_of_mem among) _ (List.mem_map_of_mem amongOthers)

/-- What a loader is asked for: the sources have these entries, and leave every table a table on the
way to a leaf; the single settings make these changes, each of another leaf. -/
structure Given (behaviour : Behaviour) (files : FileSystem) (sources : List SettingsSource)
    (sets : List (Text × Text)) (contents : List (List (Text × Setting)))
    (single : List Change) : Prop where
  reads : sources.mapM (behaviour.entries files) = .ok contents
  makes : List.Forall₂ behaviour.Sets sets single
  kept : ∀ content ∈ contents, ∀ leaf ∈ leaves,
    KeepTables leaf.keys (content.map behaviour.change)
  named : ∀ change ∈ single, ∃ leaf ∈ leaves, change.Names leaf.keys
  distinct : single.Pairwise fun one other => ∀ keys, one.Names keys → ¬ other.Names keys

namespace Given

variable (given : Given behaviour files sources sets contents single)

include given

theorem pairwise_steps : single.Pairwise (·.steps ≠ ·.steps) := by
  refine given.distinct.imp_of_mem fun {one other} among _ apart same => ?_
  obtain ⟨leaf, -, names, steps, folded⟩ := given.named one among
  exact apart leaf.keys ⟨names, steps, folded⟩ ⟨names, same ▸ steps, folded⟩

/-- The layers leave every table a table on the way to a leaf. -/
theorem keepTables : ∀ leaf ∈ leaves, ∀ layer ∈ behaviour.layers contents single,
    KeepTables leaf.keys layer := by
  intro leaf among layer amongLayers
  rcases List.mem_append.mp amongLayers with source | own
  · obtain ⟨content, amongContents, rfl⟩ := List.mem_map.mp source
    exact given.kept content amongContents leaf among
  · cases List.mem_singleton.mp own
    refine keepTables_of_forall fun change amongSingle => ?_
    obtain ⟨other, amongOthers, named⟩ := given.named change amongSingle
    exact keepTables_of_names named (leaves_apart other amongOthers leaf among)

/-- A single setting is all that the single settings change at its leaf. -/
theorem under_single (among : leaf ∈ leaves) {change : Change} (listed : change ∈ single)
    (named : change.Names leaf.keys) : under leaf.keys single = [⟨[], change.value⟩] := by
  obtain ⟨before, behind, rfl⟩ := List.append_of_mem listed
  have nothing (others : List Change) (each : ∀ other ∈ others,
      other ∈ before ++ change :: behind ∧ ¬ other.Names leaf.keys) :
      under leaf.keys others = [] := by
    induction others with
    | nil => exact under_nil
    | cons other others ih =>
      obtain ⟨listed, apart⟩ := each other List.mem_cons_self
      obtain ⟨home, amongHomes, names⟩ := given.named other listed
      have different : home.keys ≠ leaf.keys := fun same => apart (same ▸ names)
      rw [← List.singleton_append, under_append,
        under_of_apart names ((leaves_apart home amongHomes leaf among).resolve_left different)
          ((leaves_apart leaf among home amongHomes).resolve_left different.symm),
        ih fun other among => each other (List.mem_cons_of_mem _ among)]
      rfl
  obtain ⟨-, later, earlier⟩ := List.pairwise_append.mp given.distinct
  rw [under_append, ← List.singleton_append, under_append, under_of_names named,
    nothing before fun other listed => ⟨List.mem_append_left _ listed, fun clash =>
      earlier other listed change List.mem_cons_self leaf.keys clash named⟩,
    nothing behind fun other listed => ⟨List.mem_append_right _ (List.mem_cons_of_mem _ listed),
      (List.pairwise_cons.mp later).1 other listed leaf.keys named⟩]
  rfl

end Given

def ArePlain (layers : List (List Change)) : Prop :=
  ∀ layer ∈ layers, ∀ change ∈ layer, ∃ names : List Text, change.steps = names.map .child

/-- The calls ask for these sources in their order, and for these single settings in some order. -/
structure Interleaves (sources : List SettingsSource) (sets : List (Text × Text))
    (calls : List Call) : Prop where
  sources : calls.filterMap Call.source? = sources
  sets : (calls.filterMap Call.set?).Perm sets

section

variable (lawful : library.Lawful behaviour)
  (given : Given behaviour files sources sets contents single)
  (asks : Interleaves sources sets calls)

include lawful

/-- The entries of the document of defaults are tables under plain names. -/
theorem map_change_defaults : defaultEntries.map behaviour.change = ofEntries defaultEntries := by
  have named : ∀ entry ∈ defaultEntries, IsName entry.1 := by
    have plain : ∀ name ∈ defaultEntries.map Prod.fst,
        name ≠ [] ∧ name.all KeyPath.isKeyChar = true := by
      rw [defaultEntries_eq]
      decide +kernel
    intro entry listed
    obtain ⟨some, chars⟩ := plain _ (List.mem_map_of_mem listed)
    exact ⟨some, List.all_eq_true.mp chars⟩
  refine List.map_congr_left fun entry listed => ?_
  have path := lawful.path (List.cons_ne_nil entry.1 []) (by simpa using named entry listed)
  rw [Text.join] at path
  rw [Behaviour.change, path]
  rfl

theorem layers_defaults : behaviour.layers (defaultEntries :: contents) single =
    ofEntries defaultEntries :: behaviour.layers contents single := by
  rw [← map_change_defaults lawful]
  rfl

include given asks

/-- The loader has been asked for the defaults, the sources and the single settings. -/
theorem exists_asked : ∃ loader : Loader library, calls.foldlM Loader.call .new = .ok loader ∧
    ∃ ordered, ordered.Perm single ∧ ordered.Pairwise (·.steps ≠ ·.steps) ∧
      library.Asked behaviour (.document Loader.defaultDocument :: sources) ordered
        loader.builder := by
  obtain ⟨ordered, makes, same⟩ := List.perm_comp_forall₂ asks.sets given.makes
  obtain ⟨loader, done⟩ := Loader.exists_foldlM lawful makes .new
  have asked := Loader.asked_of_foldlM done (.source .start _) makes
  rw [asks.sources] at asked
  exact ⟨loader, done, ordered, same,
    (same.pairwise_iff fun apart => Ne.symm apart).mpr given.pairwise_steps, asked⟩

/-- What is built are the layers over settings with all defaults. -/
theorem exists_makesLayers_of_build {loader : Loader library} {last : Setting}
    (done : calls.foldlM Loader.call .new = .ok loader)
    (built : library.build files loader.builder = .ok last) :
    ∃ first, (∀ leaf ∈ leaves, first.at? leaf.keys = some leaf.initial) ∧
      MakesLayers behaviour.put (behaviour.layers contents single) first last := by
  obtain ⟨_, again, ordered, same, apart, asked⟩ := exists_asked lawful given asks
  cases done.symm.trans again
  obtain ⟨all, reads, made⟩ := lawful.build asked apart built
  rw [List.mapM_cons, lawful.defaults, given.reads] at reads
  cases reads
  rw [layers_defaults lawful] at made
  cases made with
  | @cons _ order _ _ first _ sameDefaults start later =>
    refine ⟨first, fun leaf among => ?_, makesLayers_of_perm ?_ later⟩
    · exact at?_of_only? lawful.put (List.forall_mem_map.mpr fun _ _ => ⟨_, _, rfl⟩)
        (only?_defaults leaf among) sameDefaults start
    · exact List.rel_append (List.forall₂_same.mpr fun _ _ => .refl _) (.cons same .nil)

/-- Settings are built when all paths are made of names. -/
theorem exists_build (plain : ArePlain (behaviour.layers contents single)) :
    ∃ loader : Loader library, calls.foldlM Loader.call .new = .ok loader ∧
      ∃ last, library.build files loader.builder = .ok last := by
  obtain ⟨loader, done, ordered, same, apart, asked⟩ := exists_asked lawful given asks
  have reads : (.document Loader.defaultDocument :: sources).mapM (behaviour.entries files) =
      .ok (defaultEntries :: contents) := by
    rw [List.mapM_cons, lawful.defaults, given.reads]
    rfl
  refine ⟨loader, done, lawful.builds asked apart reads ?_⟩
  rw [layers_defaults lawful]
  refine List.forall_mem_cons.mpr ⟨List.forall_mem_map.mpr fun entry _ => ⟨[entry.1], rfl⟩, ?_⟩
  intro layer among change listed
  rcases List.mem_append.mp among with source | own
  · exact plain layer (List.mem_append_left _ source) change listed
  · cases List.mem_singleton.mp own
    exact plain single List.mem_concat_self change (same.mem_iff.mp listed)

end

/-! ## Where the leaves come from -/

/-- What the last layer that names a leaf says about it. -/
def Leaf.said (leaf : Leaf) (behaviour : Behaviour) (contents : List (List (Text × Setting)))
    (single : List Change) : List Change :=
  deciding ((behaviour.layers contents single).map (under leaf.keys))

/-- Where the value of a leaf comes from: from the single setting that names it; else from the last
of the sources that name it, if this one says lists or scalars; else from the defaults. -/
def Leaf.ComesFrom (leaf : Leaf) (behaviour : Behaviour) (contents : List (List (Text × Setting)))
    (single : List Change) (configuration : Configuration) : Prop :=
  (∀ change ∈ single, change.Names leaf.keys →
    leaf.Reads behaviour.readers change.value configuration) ∧
  match leaf.said behaviour contents single with
  | [] => leaf.Reads behaviour.readers leaf.initial configuration
  | changes => (∀ change ∈ changes, change.replaces = true) →
    ∃ change ∈ changes, leaf.Reads behaviour.readers change.value configuration

/-- A leaf has what is said about it when this is one list or scalar. -/
theorem Leaf.ComesFrom.reads (comes : leaf.ComesFrom behaviour contents single configuration)
    {change : Change} (said : leaf.said behaviour contents single = [change])
    (whole : change.replaces = true) : leaf.Reads behaviour.readers change.value configuration := by
  have ends := comes.2
  rw [said] at ends
  obtain ⟨last, listed, here⟩ := ends (List.forall_mem_singleton.mpr whole)
  cases List.mem_singleton.mp listed
  exact here

/-- A leaf has its default when nothing is said about it. -/
theorem Leaf.ComesFrom.reads_initial
    (comes : leaf.ComesFrom behaviour contents single configuration)
    (said : leaf.said behaviour contents single = []) :
    leaf.Reads behaviour.readers leaf.initial configuration := by
  have ends := comes.2
  rw [said] at ends
  exact ends

/-- All that is said about a leaf is a list or a scalar that can be read. -/
def Leaf.IsReadable (leaf : Leaf) (behaviour : Behaviour) (contents : List (List (Text × Setting)))
    (single : List Change) : Prop :=
  ∀ change ∈ leaf.said behaviour contents single,
    change.replaces = true ∧ ∃ content, leaf.read behaviour.readers change.value = some content

/-- At most one thing is said about a leaf, a list or a scalar. -/
def Leaf.IsSettled (leaf : Leaf) (behaviour : Behaviour) (contents : List (List (Text × Setting)))
    (single : List Change) : Prop :=
  (leaf.said behaviour contents single).length ≤ 1 ∧
    ∀ change ∈ leaf.said behaviour contents single, change.replaces = true

/-- A layer leaves a setting as it is that it does not name. -/
def Keeps (layer : List Change) (before after : Setting) : Prop :=
  ∀ keys setting, KeepTables keys layer → under keys layer = [] →
    before.at? keys = some setting → after.at? keys = some setting

theorem isTable_of_sets (makes : List.Forall₂ behaviour.Sets sets single) :
    ∀ change ∈ single, change.value.isTable = false := by
  induction makes with
  | nil => nofun
  | cons here _ ih =>
    refine List.forall_mem_cons.mpr ⟨?_, ih⟩
    rw [here.2]
    rfl

/-- A configuration is read from settings that are made layer by layer over the defaults, and each
layer keeps what it does not name. -/
def IsLayered (library : SettingsLibrary) (behaviour : Behaviour)
    (contents : List (List (Text × Setting))) (single : List Change)
    (configuration : Configuration) : Prop :=
  ∃ first last, (∀ leaf ∈ leaves, first.at? leaf.keys = some leaf.initial) ∧
    library.deserialize last = .ok configuration ∧
    ∀ lower layer upper, behaviour.layers contents single = lower ++ layer :: upper →
      ∃ before after, MakesLayers behaviour.put lower first before ∧
        MakesLayers behaviour.put [layer] before after ∧ Keeps layer before after ∧
        MakesLayers behaviour.put upper after last

theorem Given.said_of_named (given : Given behaviour files sources sets contents single)
    (among : leaf ∈ leaves) {change : Change} (listed : change ∈ single)
    (named : change.Names leaf.keys) :
    leaf.said behaviour contents single = [⟨[], change.value⟩] := by
  rw [Leaf.said, Behaviour.layers, List.map_append, List.map_singleton,
    given.under_single among listed named]
  exact deciding_concat (List.cons_ne_nil _ _)

/-- What is settled about a leaf is what layers make of it. -/
theorem Leaf.IsSettled.eq (settled : leaf.IsSettled behaviour contents single) {value : Setting}
    (made : MakesLayers behaviour.put ((behaviour.layers contents single).map (under leaf.keys))
      leaf.initial value) :
    value = ((leaf.said behaviour contents single).head?.map Change.value).getD leaf.initial := by
  have ends := eq_of_makesLayers made
  rw [← Leaf.said] at ends
  obtain ⟨one, whole⟩ := settled
  cases said : leaf.said behaviour contents single with
  | nil =>
    rw [said] at ends
    exact ends
  | cons change rest =>
    rw [said] at ends one whole
    obtain ⟨last, listed, same⟩ := ends whole
    cases List.length_eq_zero_iff.mp (Nat.le_zero.mp (Nat.le_of_succ_le_succ one))
    cases List.mem_singleton.mp listed
    exact same

section

variable {first last : Setting}
  (lawful : library.Lawful behaviour)
  (given : Given behaviour files sources sets contents single)
  (initial : ∀ leaf ∈ leaves, first.at? leaf.keys = some leaf.initial)
  (made : MakesLayers behaviour.put (behaviour.layers contents single) first last)

include lawful given initial made

/-- Where a leaf stands in the end. -/
theorem exists_at?_leaf (among : leaf ∈ leaves) : ∃ value, last.at? leaf.keys = some value ∧
    MakesLayers behaviour.put ((behaviour.layers contents single).map (under leaf.keys))
      leaf.initial value := by
  obtain ⟨value, under, found⟩ :=
    at?_of_makesLayers lawful.put (given.keepTables leaf among) made (initial leaf among)
  exact ⟨value, found, under⟩

theorem deserialize_iff : library.deserialize last = .ok configuration ↔
    ∀ leaf ∈ leaves, ∃ value, last.at? leaf.keys = some value ∧
      leaf.Reads behaviour.readers value configuration :=
  lawful.deserialize fun _ among =>
    (exists_at?_leaf lawful given initial made among).imp fun _ found => found.1

theorem comesFrom_of_deserialize (read : library.deserialize last = .ok configuration)
    (among : leaf ∈ leaves) : leaf.ComesFrom behaviour contents single configuration := by
  obtain ⟨value, found, under⟩ := exists_at?_leaf lawful given initial made among
  obtain ⟨_, again, reads⟩ := (deserialize_iff lawful given initial made).mp read leaf among
  cases found.symm.trans again
  have ends := eq_of_makesLayers under
  rw [← Leaf.said] at ends
  constructor
  · intro change listed named
    rw [given.said_of_named among listed named] at ends
    obtain ⟨last, listed, same⟩ := ends (List.forall_mem_singleton.mpr (by
      rw [replaces, isTable_of_sets given.makes change listed]; rfl))
    cases List.mem_singleton.mp listed
    exact same ▸ reads
  · cases said : leaf.said behaviour contents single with
    | nil =>
      rw [said] at ends
      exact ends ▸ reads
    | cons change rest =>
      rw [said] at ends
      intro whole
      obtain ⟨last, listed, same⟩ := ends whole
      exact ⟨last, listed, same ▸ reads⟩

/-- When all that is said can be read, a configuration is read. -/
theorem exists_deserialize_eq_ok
    (readable : ∀ leaf ∈ leaves, leaf.IsReadable behaviour contents single) :
    ∃ configuration, library.deserialize last = .ok configuration := by
  have contents leaf (among : leaf ∈ leaves) : ∃ content,
      leaf.read behaviour.readers ((last.at? leaf.keys).getD .nothing) = some content := by
    obtain ⟨value, found, under⟩ := exists_at?_leaf lawful given initial made among
    have ends := eq_of_makesLayers under
    rw [← Leaf.said] at ends
    rw [found, Option.getD_some]
    have reads := readable leaf among
    unfold Leaf.IsReadable at reads
    cases said : leaf.said behaviour contents single with
    | nil =>
      rw [said] at ends
      exact ⟨_, ends ▸ reads_initial lawful.readers leaf among⟩
    | cons change rest =>
      rw [said] at ends reads
      obtain ⟨last, listed, same⟩ := ends fun change listed => (reads change listed).1
      exact same ▸ (reads last listed).2
  obtain ⟨configuration, reads⟩ := exists_reads contents
  refine ⟨configuration, (deserialize_iff lawful given initial made).mpr fun leaf among => ?_⟩
  obtain ⟨value, found, -⟩ := exists_at?_leaf lawful given initial made among
  have here := reads leaf among
  rw [found, Option.getD_some] at here
  exact ⟨value, found, here⟩

omit given initial in
/-- Between the layers stand settings, and each layer keeps what it does not name. -/
theorem exists_keeps {lower upper : List (List Change)} {layer : List Change}
    (split : behaviour.layers contents single = lower ++ layer :: upper) :
    ∃ before after, MakesLayers behaviour.put lower first before ∧
      MakesLayers behaviour.put [layer] before after ∧ Keeps layer before after ∧
      MakesLayers behaviour.put upper after last := by
  rw [split, ← List.singleton_append] at made
  obtain ⟨before, start, rest⟩ := exists_of_makesLayers_append made
  obtain ⟨after, here, later⟩ := exists_of_makesLayers_append rest
  exact ⟨before, after, start, here,
    fun keys setting kept unnamed found => at?_of_unnamed lawful.put kept unnamed here found, later⟩

end

/-- The configuration depends only on what is said last about each leaf. -/
theorem deserialize_iff_of_settled {first last others : Setting} {start : Setting}
    (lawful : library.Lawful behaviour)
    (given : Given behaviour files sources sets contents single)
    (settled : ∀ leaf ∈ leaves, leaf.IsSettled behaviour contents single)
    (initial : ∀ leaf ∈ leaves, first.at? leaf.keys = some leaf.initial)
    (made : MakesLayers behaviour.put (behaviour.layers contents single) first last)
    (initial' : ∀ leaf ∈ leaves, start.at? leaf.keys = some leaf.initial)
    (made' : MakesLayers behaviour.put (behaviour.layers contents single) start others) :
    library.deserialize last = .ok configuration ↔
      library.deserialize others = .ok configuration := by
  rw [deserialize_iff lawful given initial made, deserialize_iff lawful given initial' made']
  refine forall₂_congr fun leaf among => ?_
  obtain ⟨value, found, under⟩ := exists_at?_leaf lawful given initial made among
  obtain ⟨other, found', under'⟩ := exists_at?_leaf lawful given initial' made' among
  rw [found, found', (settled leaf among).eq under, (settled leaf among).eq under']

/-! ## Calls in any order -/

theorem load_eq_ok_iff : Loader.load library files calls = .ok configuration ↔
    ∃ loader : Loader library, calls.foldlM Loader.call .new = .ok loader ∧
      ∃ last, library.build files loader.builder = .ok last ∧
        library.deserialize last = .ok configuration := by
  simp only [Loader.load, Loader.build, bind_eq_ok_iff]

section

variable (lawful : library.Lawful behaviour)
  (given : Given behaviour files sources sets contents single)
  (asks : Interleaves sources sets calls)

include lawful given asks

/-- The settings of a configuration are made layer by layer over the defaults. -/
theorem exists_makesLayers_of_load
    (loaded : Loader.load library files calls = .ok configuration) :
    ∃ first last, (∀ leaf ∈ leaves, first.at? leaf.keys = some leaf.initial) ∧
      MakesLayers behaviour.put (behaviour.layers contents single) first last ∧
      library.deserialize last = .ok configuration := by
  obtain ⟨loader, done, last, built, read⟩ := load_eq_ok_iff.mp loaded
  obtain ⟨first, initial, made⟩ := exists_makesLayers_of_build lawful given asks done built
  exact ⟨first, last, initial, made, read⟩

theorem comesFrom_of_load (loaded : Loader.load library files calls = .ok configuration)
    (among : leaf ∈ leaves) : leaf.ComesFrom behaviour contents single configuration := by
  obtain ⟨first, last, initial, made, read⟩ := exists_makesLayers_of_load lawful given asks loaded
  exact comesFrom_of_deserialize lawful given initial made read among

theorem exists_load_eq_ok (plain : ArePlain (behaviour.layers contents single))
    (readable : ∀ leaf ∈ leaves, leaf.IsReadable behaviour contents single) :
    ∃ configuration, Loader.load library files calls = .ok configuration := by
  obtain ⟨loader, done, last, built⟩ := exists_build lawful given asks plain
  obtain ⟨first, initial, made⟩ := exists_makesLayers_of_build lawful given asks done built
  obtain ⟨configuration, read⟩ := exists_deserialize_eq_ok lawful given initial made readable
  exact ⟨configuration, load_eq_ok_iff.mpr ⟨loader, done, last, built, read⟩⟩

theorem isLayered_of_load (loaded : Loader.load library files calls = .ok configuration) :
    IsLayered library behaviour contents single configuration := by
  obtain ⟨first, last, initial, made, read⟩ := exists_makesLayers_of_load lawful given asks loaded
  exact ⟨first, last, initial, read, fun _ _ _ split => exists_keeps lawful made split⟩

variable {others : List Call} (asksToo : Interleaves sources sets others)
  (settled : ∀ leaf ∈ leaves, leaf.IsSettled behaviour contents single)

include asksToo settled

/-- It does not matter where the single settings stand among the sources. -/
theorem eq_of_interleaves {other : Configuration}
    (loaded : Loader.load library files calls = .ok configuration)
    (loadedToo : Loader.load library files others = .ok other) : configuration = other := by
  obtain ⟨first, last, initial, made, read⟩ := exists_makesLayers_of_load lawful given asks loaded
  obtain ⟨start, ending, initialToo, madeToo, readToo⟩ :=
    exists_makesLayers_of_load lawful given asksToo loadedToo
  have same := (deserialize_iff_of_settled lawful given settled initial made initialToo madeToo).mp
    read
  exact Except.ok.inj (same.symm.trans readToo)

theorem load_eq_ok_of_interleaves (plain : ArePlain (behaviour.layers contents single))
    (loaded : Loader.load library files calls = .ok configuration) :
    Loader.load library files others = .ok configuration := by
  obtain ⟨first, last, initial, made, read⟩ := exists_makesLayers_of_load lawful given asks loaded
  obtain ⟨loader, done, ending, built⟩ := exists_build lawful given asksToo plain
  obtain ⟨start, initialToo, madeToo⟩ :=
    exists_makesLayers_of_build lawful given asksToo done built
  have same := (deserialize_iff_of_settled lawful given settled initial made initialToo madeToo).mp
    read
  exact load_eq_ok_iff.mpr ⟨loader, done, ending, built, same⟩

end

/-- A project that says nothing has the options that nothing is said about. -/
theorem load_nil (lawful : library.Lawful behaviour) (files : FileSystem) (root : Path) :
    ∃ configuration, Loader.load library files [] = .ok configuration ∧
      configuration.options root = { layout := { root } } := by
  have nothing : Given behaviour files [] [] [] [] := ⟨rfl, .nil, nofun, nofun, .nil⟩
  have asks : Interleaves [] [] [] := ⟨rfl, .nil⟩
  obtain ⟨loader, done, last, built⟩ := exists_build lawful nothing asks (by
    simp [ArePlain, Behaviour.layers])
  obtain ⟨first, initial, made⟩ := exists_makesLayers_of_build lawful nothing asks done built
  refine ⟨ofOptions {}, load_eq_ok_iff.mpr ⟨loader, done, last, built,
    (deserialize_iff lawful nothing initial made).mpr fun leaf among => ?_⟩, ?_⟩
  · obtain ⟨value, found, under⟩ := exists_at?_leaf lawful nothing initial made among
    have same := eq_of_makesLayers under
    have none : deciding ((behaviour.layers [] []).map (Change.under leaf.keys)) = [] := under_nil
    rw [none] at same
    exact ⟨value, found, same ▸ reads_initial lawful.readers leaf among⟩
  · rfl

end Configuration

namespace Program

def sources (arguments : Arguments) : List SettingsSource :=
  .file false (arguments.root.join Loader.projectFile) ::
    (arguments.config.map (SettingsSource.file true)).toList

def calls (arguments : Arguments) (sets : List (Text × Text)) : List Call :=
  (sources arguments).map .source ++ sets.map fun set => .set set.1 set.2

theorem interleaves_calls (arguments : Arguments) (sets : List (Text × Text)) :
    Configuration.Interleaves (sources arguments) sets (calls arguments sets) where
  sources := by
    simp [calls, List.filterMap_append, List.filterMap_map, Function.comp_def, Call.source?]
  sets := by
    simp [calls, List.filterMap_append, List.filterMap_map, Function.comp_def, Call.set?]

variable {arguments : Arguments} {settings : List Text} {sets : List (Text × Text)}
  {configuration : Configuration}

theorem foldlM_addSetting_eq_ok_iff (splits : settings.mapM splitSetting = .ok sets)
    {loader after : Loader library} :
    settings.foldlM addSetting loader = .ok after ↔
      (sets.map fun set => Call.set set.1 set.2).foldlM Loader.call loader = .ok after := by
  induction settings generalizing loader sets with
  | nil =>
    rw [List.mapM_nil] at splits
    cases splits
    simp [pure, Except.pure]
  | cons setting settings ih =>
    rw [List.mapM_cons] at splits
    obtain ⟨set, split, splits⟩ := bind_eq_ok_iff.mp splits
    obtain ⟨later, splitLater, same⟩ := bind_eq_ok_iff.mp splits
    cases same
    rw [List.foldlM_cons, List.map_cons, List.foldlM_cons, bind_eq_ok_iff, bind_eq_ok_iff]
    refine exists_congr fun between => and_congr ?_ (ih splitLater)
    rw [addSetting, split]
    change ((loader.setOverride set.1 (.ofText set.2)).mapError Obstacle.settings) = .ok between ↔
      loader.setOverride set.1 (.ofText set.2) = .ok between
    cases loader.setOverride set.1 (.ofText set.2) <;> simp [Except.mapError]

/-- To load the configuration of a run is to ask a loader for its sources and then for its single
settings. -/
theorem loadConfiguration_eq_ok_iff (splits : arguments.settings.mapM splitSetting = .ok sets) :
    loadConfiguration library files arguments = .ok configuration ↔
      Loader.load library files (calls arguments sets) = .ok configuration := by
  have files : (calls arguments sets).foldlM Loader.call (.new : Loader library) =
      (sets.map fun set => Call.set set.1 set.2).foldlM Loader.call (fileLoader arguments) := by
    rw [calls, List.foldlM_append, sources, fileLoader]
    cases arguments.config <;> rfl
  rw [loadConfiguration, Loader.load, files, bind_eq_ok_iff, bind_eq_ok_iff]
  refine exists_congr fun loader => and_congr (foldlM_addSetting_eq_ok_iff splits) ?_
  cases loader.build _ <;> simp [Except.mapError]

end Program

namespace Configuration

variable {arguments : Arguments} {sets : List (Text × Text)}
  {contents : List (List (Text × Setting))} {single : List Change}

/-- The layers of a run take effect key by key. Each leaf of the configuration comes from the single
setting that names it, else from the file that the run is told to use, else from the file of the
project, else from the defaults; and a layer keeps what it does not name. A configuration is loaded
when all that is said can be read. The single settings can as well be given before the files or
between them. -/
theorem loadConfiguration_layers (lawful : library.Lawful behaviour)
    (splits : arguments.settings.mapM Program.splitSetting = .ok sets)
    (given : Given behaviour files (Program.sources arguments) sets contents single) :
    (∀ configuration, Program.loadConfiguration library files arguments = .ok configuration →
      (∀ leaf ∈ leaves, leaf.ComesFrom behaviour contents single configuration) ∧
        IsLayered library behaviour contents single configuration) ∧
    (ArePlain (behaviour.layers contents single) →
      (∀ leaf ∈ leaves, leaf.IsReadable behaviour contents single) →
      ∃ configuration, Program.loadConfiguration library files arguments = .ok configuration) ∧
    ∀ others, Interleaves (Program.sources arguments) sets others →
      (∀ configuration, Loader.load library files others = .ok configuration →
        ∀ leaf ∈ leaves, leaf.ComesFrom behaviour contents single configuration) ∧
      ((∀ leaf ∈ leaves, leaf.IsSettled behaviour contents single) →
        (∀ configuration other,
          Program.loadConfiguration library files arguments = .ok configuration →
          Loader.load library files others = .ok other → configuration = other) ∧
        (ArePlain (behaviour.layers contents single) → ∀ configuration,
          Program.loadConfiguration library files arguments = .ok configuration ↔
            Loader.load library files others = .ok configuration)) := by
  have asks := Program.interleaves_calls arguments sets
  simp only [Program.loadConfiguration_eq_ok_iff splits]
  refine ⟨fun configuration loaded => ⟨fun leaf => comesFrom_of_load lawful given asks loaded,
    isLayered_of_load lawful given asks loaded⟩, exists_load_eq_ok lawful given asks,
    fun others asksToo => ⟨fun configuration loaded leaf =>
      comesFrom_of_load lawful given asksToo loaded, fun settled => ⟨fun configuration other =>
        eq_of_interleaves lawful given asks asksToo settled, fun plain configuration => ?_⟩⟩⟩
  exact ⟨load_eq_ok_of_interleaves lawful given asks asksToo settled plain,
    load_eq_ok_of_interleaves lawful given asksToo asks settled plain⟩

/-- Two files whose keys are written in capitals. -/
def layered : FileSystem where
  entries := [
    (["bootpeg.toml".toList], .file (.text
      "[PATHS]\nSOURCE = \"own.rs\"\nPRELUDE = \"own.rs\"\nGRAMMAR = \"own.peg\"\n".toList) false),
    (["more.toml".toList], .file (.text
      "[PATHS]\nSOURCE = \"more.rs\"\nPRELUDE = \"more.rs\"\n".toList) false)]
  workingDirectory := []

def ownEntries : List (Text × Setting) :=
  Setting.ofTomlEntries (some "bootpeg.toml".toList) [
    ("PATHS".toList, .table [
      ("SOURCE".toList, .text "own.rs".toList), ("PRELUDE".toList, .text "own.rs".toList),
      ("GRAMMAR".toList, .text "own.peg".toList)])]

def moreEntries : List (Text × Setting) :=
  Setting.ofTomlEntries (some "more.toml".toList) [
    ("PATHS".toList, .table [
      ("SOURCE".toList, .text "more.rs".toList), ("PRELUDE".toList, .text "more.rs".toList)])]

def layeredRun : Arguments where
  root := ⟨['.']⟩
  config := some ⟨"more.toml".toList⟩
  settings := ["PATHS.PRELUDE=set.rs".toList]
  json := false
  task := .run

def layeredSet : Change :=
  ⟨[.child "PATHS".toList, .child "PRELUDE".toList], .ofText "set.rs".toList⟩

theorem given_layered : Given Settings.behaviour layered (Program.sources layeredRun)
    [("PATHS.PRELUDE".toList, "set.rs".toList)] [ownEntries, moreEntries] [layeredSet] where
  reads := by decide +kernel
  makes := .cons ⟨by decide +kernel, rfl⟩ .nil
  kept := by
    have kept : ∀ content ∈ [ownEntries, moreEntries], ∀ keys ∈ leaves.map Leaf.keys,
        KeepTables keys (content.map Settings.behaviour.change) := by
      decide +kernel
    exact fun content listed leaf among => kept content listed _ (List.mem_map_of_mem among)
  named := List.forall_mem_singleton.mpr
    ⟨⟨["paths", "prelude"], Readers.text, (·.prelude.text)⟩, by simp [leaves],
      ["PATHS".toList, "PRELUDE".toList], rfl, by decide +kernel⟩
  distinct := List.pairwise_singleton _ _

/-- What is said about the leaves. -/
theorem map_said_layered :
    leaves.map (·.said Settings.behaviour [ownEntries, moreEntries] [layeredSet]) = [
      [⟨[], .scalar (some "more.toml".toList) (.text "more.rs".toList)⟩],
      [⟨[], .ofText "set.rs".toList⟩], [],
      [⟨[], .scalar (some "bootpeg.toml".toList) (.text "own.peg".toList)⟩],
      [], [], [], [], [], [], [], [], [], [], [], [], [], [], []] := by
  decide +kernel

theorem arePlain_layered :
    ArePlain (Settings.behaviour.layers [ownEntries, moreEntries] [layeredSet]) := by
  have path : Settings.behaviour.path "PATHS".toList = some [.child "PATHS".toList] := by
    decide +kernel
  have plain (origin : Option Text) (table : Toml.Value) : ∀ change ∈ (Setting.ofTomlEntries origin
      [("PATHS".toList, table)]).map Settings.behaviour.change,
      ∃ names : List Text, change.steps = names.map .child := by
    refine List.forall_mem_singleton.mpr ⟨["PATHS".toList], ?_⟩
    rw [Behaviour.change, path]
    rfl
  exact List.forall_mem_cons.mpr ⟨plain _ _, List.forall_mem_cons.mpr ⟨plain _ _,
    List.forall_mem_singleton.mpr (List.forall_mem_singleton.mpr
      ⟨["PATHS".toList, "PRELUDE".toList], rfl⟩)⟩⟩

/-- The leaves that are said something about are texts. -/
theorem isReadable_layered (leaf : Leaf) (among : leaf ∈ leaves) :
    leaf.IsReadable Settings.behaviour [ownEntries, moreEntries] [layeredSet] := by
  have said := map_said_layered
  simp only [leaves, List.map_cons, List.cons.injEq] at said
  revert leaf
  simp only [leaves, List.forall_mem_cons, Leaf.IsReadable, said, List.not_mem_nil, false_implies,
    implies_true, and_true, true_and]
  exact ⟨⟨rfl, _, rfl⟩, ⟨rfl, _, rfl⟩, rfl, _, rfl⟩

theorem isSettled_layered (leaf : Leaf) (among : leaf ∈ leaves) :
    leaf.IsSettled Settings.behaviour [ownEntries, moreEntries] [layeredSet] := by
  have said := map_said_layered
  simp only [leaves, List.map_cons, List.cons.injEq] at said
  have short : ∀ leaf ∈ leaves,
      (leaf.said Settings.behaviour [ownEntries, moreEntries] [layeredSet]).length ≤ 1 := by
    simp only [leaves, List.forall_mem_cons, said]
    simp
  exact ⟨short leaf among, fun change listed => (isReadable_layered leaf among change listed).1⟩

/-- Each layer decides a leaf: the prelude is where the single setting says, the source where the
file asked for says, the grammar where the project says, and the compiled parser where the defaults
say. It is the same when the single setting is given first. -/
theorem loadConfiguration_layers_layered :
    Settings.library.Lawful Settings.behaviour ∧
      layeredRun.settings.mapM Program.splitSetting =
        .ok [("PATHS.PRELUDE".toList, "set.rs".toList)] ∧
      Given Settings.behaviour layered (Program.sources layeredRun)
        [("PATHS.PRELUDE".toList, "set.rs".toList)] [ownEntries, moreEntries] [layeredSet] ∧
      ∃ configuration,
        Program.loadConfiguration Settings.library layered layeredRun = .ok configuration ∧
        Loader.load Settings.library layered (.set "PATHS.PRELUDE".toList "set.rs".toList ::
          (Program.sources layeredRun).map .source) = .ok configuration ∧
        configuration.source.text = "more.rs".toList ∧
        configuration.prelude.text = "set.rs".toList ∧
        configuration.grammar.text = "own.peg".toList ∧
        configuration.compiled.text = "target/bootpeg/compiled_parser.rs".toList := by
  have splits : layeredRun.settings.mapM Program.splitSetting =
      .ok [("PATHS.PRELUDE".toList, "set.rs".toList)] := by
    decide +kernel
  obtain ⟨comes, loads, reorders⟩ :=
    loadConfiguration_layers Settings.lawful_library splits given_layered
  obtain ⟨configuration, loaded⟩ := loads arePlain_layered isReadable_layered
  have each := (comes configuration loaded).1
  have said := map_said_layered
  have initial := map_initial_leaves
  simp only [leaves, List.map_cons, List.cons.injEq] at said initial
  simp only [leaves, List.forall_mem_cons] at each
  obtain ⟨source, prelude, compiled, grammar, -⟩ := each
  replace source := source.reads said.1 rfl
  replace prelude := prelude.reads said.2.1 rfl
  replace compiled := compiled.reads_initial said.2.2.1
  replace grammar := grammar.reads said.2.2.2.1 rfl
  rw [initial.2.2.1] at compiled
  have asks : Interleaves (Program.sources layeredRun) [("PATHS.PRELUDE".toList, "set.rs".toList)]
      (.set "PATHS.PRELUDE".toList "set.rs".toList :: (Program.sources layeredRun).map .source) :=
    ⟨rfl, .refl _⟩
  exact ⟨Settings.lawful_library, splits, given_layered, configuration, loaded,
    (((reorders _ asks).2 isSettled_layered).2 arePlain_layered configuration).mp loaded,
    (Option.some.inj source).symm, (Option.some.inj prelude).symm, (Option.some.inj grammar).symm,
    (Option.some.inj compiled).symm⟩

end Configuration

end ParserRefresh
