import Mathlib.Data.List.Perm.Basic
import ParserRefresh.Settings.KeyPath

/-! # Changes of settings

What a layer of settings does is a list of changes, each of which puts a value at the end of a path.
Nothing is known of the order in which the changes of one layer are made, nor of the order in which
the entries of a table are merged, and a value is put at a path by a function of which is known only
what it does at the first key. As long as tables stay tables, what the layers do to the setting under
a key depends only on the changes below that key and on the setting itself: no layer takes a key away
that it does not name. -/

namespace ParserRefresh

namespace Setting

/-- The setting that a row of keys leads to. -/
def at? : List Text → Setting → Option Setting
  | [], setting => some setting
  | key :: keys, setting => (setting.find? key).bind (at? keys)

def isTable : Setting → Bool
  | .table .. => true
  | _ => false

end Setting

/-- A value that is put at the end of a path. -/
structure Change where
  steps : List KeyStep
  value : Setting
  deriving DecidableEq

/-- A way to put a value at the end of a path into a setting. -/
abbrev Put := List KeyStep → Setting → Setting → Option Setting

namespace Change

variable {put : Put} {key : Text} {keys : List Text} {change : Change}
  {changes more order : List Change} {layers : List (List Change)} {setting after old : Setting}

/-- The entries of a table as changes of the setting that the table is merged into. -/
def ofEntries (entries : List (Text × Setting)) : List Change :=
  entries.map fun entry => ⟨[.child entry.1], entry.2⟩

def putAll (put : Put) (changes : List Change) (setting : Setting) : Option Setting :=
  changes.foldlM (fun setting change => put change.steps change.value setting) setting

/-- What a change makes of a setting. Where no step is left, a table is merged into what is there,
its entries in some order, and anything else takes its place. -/
inductive Makes (put : Put) : Change → Setting → Setting → Prop where
  | merge {origin : Option Text} {entries order : List (Text × Setting)} {setting after : Setting}
    (same : order.Perm entries) (made : putAll put (ofEntries order) setting = some after) :
    Makes put ⟨[], .table origin entries⟩ setting after
  | replace {value setting : Setting} (whole : value.isTable = false) :
    Makes put ⟨[], value⟩ setting value
  | place {step : KeyStep} {steps : List KeyStep} {value setting after : Setting}
    (made : put (step :: steps) value setting = some after) :
    Makes put ⟨step :: steps, value⟩ setting after

/-- What changes make of a setting one after the other. -/
inductive MakesAll (put : Put) : List Change → Setting → Setting → Prop where
  | nil (setting : Setting) : MakesAll put [] setting setting
  | cons {change : Change} {changes : List Change} {setting between after : Setting}
    (first : Makes put change setting between) (rest : MakesAll put changes between after) :
    MakesAll put (change :: changes) setting after

/-- What layers of changes make of a setting one after the other, the changes of each layer in some
order. -/
inductive MakesLayers (put : Put) : List (List Change) → Setting → Setting → Prop where
  | nil (setting : Setting) : MakesLayers put [] setting setting
  | cons {layer order : List Change} {layers : List (List Change)}
    {setting between after : Setting} (same : order.Perm layer)
    (first : MakesAll put order setting between) (rest : MakesLayers put layers between after) :
    MakesLayers put (layer :: layers) setting after

end Change

/-- Values are put key by key, and keys in lower case. What stands beside the first key of a path
stays as it is; a path of one key ends there, and any other goes on below its first key. -/
structure Put.KeyByKey (put : Put) : Prop where
  aside {name key : Text} {steps : List KeyStep} {value setting after : Setting} :
    put (.child name :: steps) value setting = some after → key ≠ Text.lower name →
      after.find? key = setting.find? key
  last {name : Text} {value setting after : Setting} :
    put [.child name] value setting = some after →
      ∃ new, Change.Makes put ⟨[], value⟩ ((setting.find? (Text.lower name)).getD .empty) new ∧
        after.find? (Text.lower name) = some new
  below {name : Text} {step : KeyStep} {steps : List KeyStep} {value setting after old : Setting} :
    put (.child name :: step :: steps) value setting = some after →
      setting.find? (Text.lower name) = some old →
      ∃ new, put (step :: steps) value old = some new ∧ after.find? (Text.lower name) = some new

namespace Change

variable {put : Put} {key : Text} {keys : List Text} {change : Change}
  {changes more order : List Change} {layers : List (List Change)} {setting after old : Setting}

/-- Whether a change leaves a table a table: it merges a table into it or goes on with a key. -/
def keepsTable : Change → Bool
  | ⟨[], .table ..⟩ => true
  | ⟨.child _ :: _, _⟩ => true
  | _ => false

/-- The changes that a change of a table makes under one of its keys. -/
def below (key : Text) : Change → List Change
  | ⟨[], value⟩ =>
    (value.entries.filter fun entry => Text.lower entry.1 = key).map fun entry => ⟨[], entry.2⟩
  | ⟨.child name :: steps, value⟩ => if Text.lower name = key then [⟨steps, value⟩] else []
  | ⟨.position _ :: _, _⟩ => []

/-- The changes that changes make of the setting under a row of keys. -/
def under : List Text → List Change → List Change
  | [], changes => changes
  | key :: keys, changes => under keys (changes.flatMap (below key))

def KeepTables : List Text → List Change → Prop
  | [], _ => True
  | key :: keys, changes =>
    (∀ change ∈ changes, change.keepsTable = true) ∧ KeepTables keys (changes.flatMap (below key))

instance KeepTables.decidable : ∀ keys changes, Decidable (KeepTables keys changes)
  | [], _ => .isTrue trivial
  | _ :: keys, _ => @instDecidableAnd _ _ inferInstance (KeepTables.decidable keys _)

theorem keepTables_append :
    KeepTables keys (changes ++ more) ↔ KeepTables keys changes ∧ KeepTables keys more := by
  induction keys generalizing changes more with
  | nil => simp [KeepTables]
  | cons key keys ih =>
    simp only [KeepTables, List.flatMap_append, ih, List.mem_append, or_imp, forall_and]
    exact and_and_and_comm

theorem keepTables_nil : KeepTables keys [] := by
  induction keys with
  | nil => trivial
  | cons key keys ih => exact ⟨nofun, ih⟩

theorem keepTables_of_forall (each : ∀ change ∈ changes, KeepTables keys [change]) :
    KeepTables keys changes := by
  induction changes with
  | nil => exact keepTables_nil
  | cons change rest ih =>
    exact keepTables_append.mpr ⟨each _ List.mem_cons_self,
      ih fun change among => each change (List.mem_cons_of_mem _ among)⟩

/-- A change names a setting when its path is a row of keys that leads there. -/
def Names (change : Change) (keys : List Text) : Prop :=
  ∃ names : List Text, change.steps = names.map .child ∧ names.map Text.lower = keys

/-- A change at the end of a row of keys leaves the tables along another row tables, unless it ends
on the way there. -/
theorem keepTables_of_names {others : List Text} (named : change.Names keys)
    (apart : keys = others ∨ ¬ keys <+: others) : KeepTables others [change] := by
  obtain ⟨names, steps, rfl⟩ := named
  obtain ⟨_, value⟩ := change
  cases steps
  induction others generalizing names with
  | nil => trivial
  | cons key others ih =>
    cases names with
    | nil => simp at apart
    | cons name names =>
      refine ⟨by simp [keepsTable], ?_⟩
      rw [List.flatMap_singleton, List.map_cons, below]
      by_cases here : Text.lower name = key
      · rw [if_pos here]
        refine ih names ?_
        simpa [here] using apart
      · rw [if_neg here]
        exact keepTables_nil

theorem under_append : under keys (changes ++ more) = under keys changes ++ under keys more := by
  induction keys generalizing changes more with
  | nil => rfl
  | cons key keys ih => rw [under, List.flatMap_append, ih, under, under]

theorem under_nil : under keys [] = [] := by
  induction keys with
  | nil => rfl
  | cons key keys ih => exact ih

/-- Under the row of keys that it names, a change puts its value. -/
theorem under_of_names (named : change.Names keys) :
    under keys [change] = [⟨[], change.value⟩] := by
  obtain ⟨names, steps, rfl⟩ := named
  obtain ⟨_, value⟩ := change
  cases steps
  induction names with
  | nil => rfl
  | cons name names ih =>
    rw [List.map_cons, List.map_cons, under, List.flatMap_singleton, below, if_pos rfl]
    exact ih

/-- Under a row of keys that parts from the one that it names, a change does nothing. -/
theorem under_of_apart {others : List Text} (named : change.Names keys) (apart : ¬ keys <+: others)
    (apart' : ¬ others <+: keys) : under others [change] = [] := by
  obtain ⟨names, steps, rfl⟩ := named
  obtain ⟨_, value⟩ := change
  cases steps
  induction others generalizing names with
  | nil => simp at apart'
  | cons key others ih =>
    cases names with
    | nil => simp at apart
    | cons name names =>
      rw [List.map_cons, under, List.flatMap_singleton, below]
      by_cases here : Text.lower name = key
      · rw [if_pos here]
        refine ih names ?_ ?_
        · simpa [here] using apart
        · simpa [here] using apart'
      · rw [if_neg here, under_nil]

/-! ## What stands under a key -/

theorem makesAll_append :
    MakesAll put (changes ++ more) setting after ↔
      ∃ between, MakesAll put changes setting between ∧ MakesAll put more between after := by
  constructor
  · intro made
    induction changes generalizing setting with
    | nil => exact ⟨setting, .nil setting, made⟩
    | cons change rest ih =>
      cases made with
      | cons first rest =>
        obtain ⟨between, made, later⟩ := ih rest
        exact ⟨between, .cons first made, later⟩
  · rintro ⟨between, made, later⟩
    induction made with
    | nil => exact later
    | cons first _ ih => exact .cons first (ih later)

theorem putAll_cons :
    putAll put (change :: changes) setting =
      (put change.steps change.value setting).bind (putAll put changes) := by
  rw [putAll, List.foldlM_cons]
  rfl

/-- Changes at the ends of paths are made just as their values are put there. -/
theorem makesAll_iff_putAll (placed : ∀ change ∈ changes, change.steps ≠ []) :
    MakesAll put changes setting after ↔ putAll put changes setting = some after := by
  induction changes generalizing setting with
  | nil =>
    refine ⟨fun made => ?_, fun made => ?_⟩
    · cases made
      rfl
    · cases made
      exact .nil after
  | cons change changes ih =>
    have rest {between : Setting} : MakesAll put changes between after ↔
        putAll put changes between = some after :=
      ih fun change among => placed change (List.mem_cons_of_mem _ among)
    obtain ⟨steps, value⟩ := change
    obtain ⟨step, steps, rfl⟩ := List.exists_cons_of_ne_nil (placed _ List.mem_cons_self)
    rw [putAll_cons, Option.bind_eq_some_iff]
    constructor
    · rintro (_ | ⟨_ | _ | first, later⟩)
      exact ⟨_, first, rest.mp later⟩
    · rintro ⟨between, first, later⟩
      exact .cons (.place first) (rest.mpr later)

theorem makesAll_ofEntries {entries : List (Text × Setting)} :
    MakesAll put (ofEntries entries) setting after ↔
      putAll put (ofEntries entries) setting = some after :=
  makesAll_iff_putAll (List.forall_mem_map.mpr fun _ _ => List.cons_ne_nil _ _)

theorem makesLayers_append {more : List (List Change)} {between : Setting}
    (made : MakesLayers put layers setting between) (later : MakesLayers put more between after) :
    MakesLayers put (layers ++ more) setting after := by
  induction made with
  | nil => exact later
  | cons same first _ ih => exact .cons same first (ih later)

theorem forall_child_ofEntries (entries : List (Text × Setting)) :
    ∀ change ∈ ofEntries entries, ∃ name steps, change.steps = .child name :: steps :=
  List.forall_mem_map.mpr fun entry _ => ⟨entry.1, [], rfl⟩

theorem flatMap_below_ofEntries (entries : List (Text × Setting)) :
    (ofEntries entries).flatMap (below key) =
      (entries.filter fun entry => Text.lower entry.1 = key).map fun entry => ⟨[], entry.2⟩ := by
  induction entries with
  | nil => rfl
  | cons entry rest ih =>
    rw [ofEntries] at ih
    rw [ofEntries, List.map_cons, List.flatMap_cons, ih, below, List.filter_cons]
    by_cases named : Text.lower entry.1 = key
    · rw [if_pos named, if_pos (decide_eq_true named)]
      rfl
    · rw [if_neg named, if_neg (by simpa using named)]
      rfl

variable (laws : put.KeyByKey)

include laws

/-- A change that goes on with a key changes what stands under it and nothing else. -/
theorem find?_of_makes_child {name : Text} {steps : List KeyStep} {value : Setting}
    (made : Makes put ⟨.child name :: steps, value⟩ setting after)
    (found : setting.find? key = some old) :
    ∃ new, MakesAll put (below key ⟨.child name :: steps, value⟩) old new ∧
      after.find? key = some new := by
  obtain _ | _ | made := made
  rw [below]
  by_cases here : Text.lower name = key
  · subst here
    rw [if_pos rfl]
    cases steps with
    | nil =>
      obtain ⟨new, makes, foundNew⟩ := laws.last made
      rw [found, Option.getD_some] at makes
      exact ⟨new, .cons makes (.nil new), foundNew⟩
    | cons step steps =>
      obtain ⟨new, put, foundNew⟩ := laws.below made found
      exact ⟨new, .cons (.place put) (.nil new), foundNew⟩
  · rw [if_neg here]
    exact ⟨old, .nil old, (laws.aside made (Ne.symm here)).trans found⟩

omit laws in
/-- Changes that can be made below a key one by one can be so one after the other. -/
theorem find?_of_each
    (each : ∀ change ∈ changes, ∀ setting after old, Makes put change setting after →
      setting.find? key = some old →
      ∃ order new, order.Perm (below key change) ∧ MakesAll put order old new ∧
        after.find? key = some new)
    (made : MakesAll put changes setting after) (found : setting.find? key = some old) :
    ∃ order new, order.Perm (changes.flatMap (below key)) ∧ MakesAll put order old new ∧
      after.find? key = some new := by
  induction made generalizing old with
  | nil => exact ⟨[], old, .nil, .nil old, found⟩
  | cons first _ ih =>
    obtain ⟨order, mid, same, makes, foundMid⟩ := each _ List.mem_cons_self _ _ _ first found
    obtain ⟨later, new, sameLater, makesLater, foundNew⟩ :=
      ih (fun change among => each change (List.mem_cons_of_mem _ among)) foundMid
    rw [List.flatMap_cons]
    exact ⟨order ++ later, new, same.append sameLater,
      makesAll_append.mpr ⟨mid, makes, makesLater⟩, foundNew⟩

/-- Changes that all go on with a key. -/
theorem find?_of_children
    (children : ∀ change ∈ changes, ∃ name steps, change.steps = .child name :: steps)
    (made : MakesAll put changes setting after) (found : setting.find? key = some old) :
    ∃ order new, order.Perm (changes.flatMap (below key)) ∧ MakesAll put order old new ∧
      after.find? key = some new := by
  refine find?_of_each (fun change among setting after old made found => ?_) made found
  obtain ⟨name, steps, child⟩ := children change among
  obtain ⟨_, value⟩ := change
  cases child
  obtain ⟨new, makes, foundNew⟩ := find?_of_makes_child laws made found
  exact ⟨_, new, .refl _, makes, foundNew⟩

/-- A change that leaves a table a table changes what stands under a key only by what it puts below
that key. -/
theorem find?_of_makes (kept : change.keepsTable = true) (made : Makes put change setting after)
    (found : setting.find? key = some old) :
    ∃ order new, order.Perm (below key change) ∧ MakesAll put order old new ∧
      after.find? key = some new := by
  cases made with
  | @merge origin entries order _ _ same made =>
    obtain ⟨order', new, sameOrder, makes, foundNew⟩ := find?_of_children laws
      (forall_child_ofEntries order) (makesAll_ofEntries.mpr made) found
    refine ⟨order', new, sameOrder.trans ?_, makes, foundNew⟩
    rw [flatMap_below_ofEntries]
    exact (same.filter _).map _
  | replace whole =>
    cases after with
    | table => cases whole
    | scalar | list => cases kept
  | @place step steps value _ _ made =>
    cases step with
    | position => cases kept
    | child name =>
      obtain ⟨new, makes, foundNew⟩ := find?_of_makes_child laws (.place made) found
      exact ⟨_, new, .refl _, makes, foundNew⟩

/-! ## What stands under a row of keys -/

theorem find?_of_makesLayers
    (kept : ∀ layer ∈ layers, ∀ change ∈ layer, change.keepsTable = true)
    (made : MakesLayers put layers setting after) (found : setting.find? key = some old) :
    ∃ new, MakesLayers put (layers.map (·.flatMap (below key))) old new ∧
      after.find? key = some new := by
  induction made generalizing old with
  | nil => exact ⟨old, .nil old, found⟩
  | cons same first _ ih =>
    have keptHere := kept _ List.mem_cons_self
    obtain ⟨order, mid, sameBelow, makes, foundMid⟩ := find?_of_each
      (fun change among _ _ _ => find?_of_makes laws (keptHere change (same.mem_iff.mp among)))
      first found
    obtain ⟨new, later, foundNew⟩ :=
      ih (fun layer among => kept layer (List.mem_cons_of_mem _ among)) foundMid
    exact ⟨new, .cons (sameBelow.trans (same.flatMap_right _)) makes later, foundNew⟩

/-- As long as tables stay tables, layers change what a row of keys leads to by just what they put
under that row. -/
theorem at?_of_makesLayers (kept : ∀ layer ∈ layers, KeepTables keys layer)
    (made : MakesLayers put layers setting after) (found : setting.at? keys = some old) :
    ∃ new, MakesLayers put (layers.map (under keys)) old new ∧ after.at? keys = some new := by
  induction keys generalizing layers setting after with
  | nil =>
    cases found
    have same : layers.map (under []) = layers := List.map_id layers
    exact ⟨after, same.symm ▸ made, rfl⟩
  | cons key keys ih =>
    rw [Setting.at?, Option.bind_eq_some_iff] at found
    obtain ⟨mid, foundMid, foundOld⟩ := found
    obtain ⟨between, madeBelow, foundBetween⟩ :=
      find?_of_makesLayers laws (fun layer among => (kept layer among).1) made foundMid
    obtain ⟨new, madeUnder, foundNew⟩ := ih (List.forall_mem_map.mpr fun layer among =>
      (kept layer among).2) madeBelow foundOld
    refine ⟨new, ?_, by rw [Setting.at?, foundBetween]; exact foundNew⟩
    rwa [List.map_map] at madeUnder

/-- What no change of a layer names stays as it is. -/
theorem at?_of_unnamed {layer : List Change} (kept : KeepTables keys layer)
    (unnamed : under keys layer = []) (made : MakesLayers put [layer] setting after)
    (found : setting.at? keys = some old) : after.at? keys = some old := by
  obtain ⟨new, madeUnder, foundNew⟩ :=
    at?_of_makesLayers laws (List.forall_mem_singleton.mpr kept) made found
  rw [List.map_singleton, unnamed] at madeUnder
  obtain _ | ⟨same, first, rest⟩ := madeUnder
  cases same.eq_nil
  cases first
  cases rest
  exact foundNew

omit laws

/-! ## Which layer decides -/

/-- Whether a change puts its value in the place of whatever is there. -/
def replaces : Change → Bool
  | ⟨[], value⟩ => !value.isTable
  | _ => false

def deciding : List (List Change) → List Change
  | [] => []
  | layer :: layers =>
    match deciding layers with
    | [] => layer
    | changes => changes

/-- A last layer that has changes is the last one that has. -/
theorem deciding_concat {layer : List Change} (some : layer ≠ []) :
    deciding (layers ++ [layer]) = layer := by
  induction layers with
  | nil => rfl
  | cons first layers ih =>
    rw [List.cons_append, deciding, ih]
    cases layer with
    | nil => exact absurd rfl some
    | cons => rfl

theorem eq_of_makes (whole : change.replaces = true) (made : Makes put change setting after) :
    after = change.value := by
  cases made with
  | merge => cases whole
  | replace => rfl
  | place => cases whole

theorem exists_eq_of_makesAll (some : changes ≠ [])
    (whole : ∀ change ∈ changes, change.replaces = true)
    (made : MakesAll put changes setting after) : ∃ change ∈ changes, after = change.value := by
  induction made with
  | nil => cases some rfl
  | @cons change changes _ _ _ first rest ih =>
    cases rest with
    | nil => exact ⟨change, List.mem_cons_self, eq_of_makes (whole _ List.mem_cons_self) first⟩
    | cons _ _ =>
      obtain ⟨last, among, same⟩ :=
        ih (List.cons_ne_nil _ _) fun change among => whole change (List.mem_cons_of_mem _ among)
      exact ⟨last, List.mem_cons_of_mem _ among, same⟩

/-- What layers make of a setting is the setting itself if they have no changes, and else a value
that the last layer with changes puts in its place. -/
theorem eq_of_makesLayers (made : MakesLayers put layers setting after) :
    match deciding layers with
    | [] => after = setting
    | changes => (∀ change ∈ changes, change.replaces = true) →
      ∃ change ∈ changes, after = change.value := by
  induction made with
  | nil => rfl
  | @cons layer order layers _ _ _ same first _ ih =>
    rw [deciding]
    cases later : deciding layers with
    | cons change changes =>
      rw [later] at ih
      exact ih
    | nil =>
      rw [later] at ih
      cases ih
      cases layer with
      | nil =>
        cases same.eq_nil
        cases first
        rfl
      | cons change changes =>
        intro whole
        obtain ⟨last, among, value⟩ := exists_eq_of_makesAll
          (fun none => List.cons_ne_nil _ _ (none ▸ same).nil_eq.symm)
          (fun change among => whole change (same.mem_iff.mp among)) first
        exact ⟨last, same.mem_iff.mp among, value⟩

/-- Layers with the same changes in other orders make the same. -/
theorem makesLayers_of_perm {others : List (List Change)}
    (same : List.Forall₂ List.Perm layers others)
    (made : MakesLayers put layers setting after) : MakesLayers put others setting after := by
  induction made generalizing others with
  | nil =>
    cases same
    exact .nil _
  | cons order first _ ih =>
    cases same with
    | cons here rest => exact .cons (order.trans here) first (ih rest)

theorem exists_of_makesLayers_append {more : List (List Change)}
    (made : MakesLayers put (layers ++ more) setting after) :
    ∃ between, MakesLayers put layers setting between ∧ MakesLayers put more between after := by
  induction layers generalizing setting with
  | nil => exact ⟨setting, .nil setting, made⟩
  | cons layer layers ih =>
    cases made with
    | cons same first rest =>
      obtain ⟨between, made, later⟩ := ih rest
      exact ⟨between, .cons same first made, later⟩

/-! ## A first layer -/

/-- The value under a row of keys each of which stands once where it stands. -/
def only? : List Text → List Change → Option Setting
  | [], _ => none
  | key :: keys, changes =>
    match changes.flatMap (below key) with
    | [⟨[], .table _ entries⟩] => only? keys (ofEntries entries)
    | [⟨[], value⟩] => if keys = [] then some value else none
    | _ => none

include laws

theorem exists_find?_of_single {value : Setting}
    (children : ∀ change ∈ changes, ∃ name steps, change.steps = .child name :: steps)
    (single : changes.flatMap (below key) = [⟨[], value⟩])
    (made : MakesAll put changes setting after) :
    ∃ old new, Makes put ⟨[], value⟩ old new ∧ after.find? key = some new := by
  induction made with
  | nil => cases single
  | @cons change changes _ _ _ first rest ih =>
    obtain ⟨name, steps, child⟩ := children _ List.mem_cons_self
    have later change (among : change ∈ changes) := children change (List.mem_cons_of_mem _ among)
    obtain ⟨_, put⟩ := change
    cases child
    rw [List.flatMap_cons, below] at single
    by_cases here : Text.lower name = key
    · subst here
      rw [if_pos rfl] at single
      rw [List.singleton_append] at single
      obtain ⟨same, none⟩ := List.cons.inj single
      cases same
      obtain _ | _ | first := first
      obtain ⟨new, makes, found⟩ := laws.last first
      -- Nothing behind the change names the key.
      obtain ⟨order, last, same, makesNone, foundLast⟩ := find?_of_children laws later rest found
      rw [none] at same
      cases same.eq_nil
      cases makesNone
      exact ⟨_, new, makes, foundLast⟩
    · rw [if_neg here] at single
      exact ih later single

/-- Where each key stands once, a layer puts its value whatever is there. -/
theorem at?_of_only? {value : Setting}
    (children : ∀ change ∈ changes, ∃ name steps, change.steps = .child name :: steps)
    (only : only? keys changes = some value) (same : order.Perm changes)
    (made : MakesAll put order setting after) : after.at? keys = some value := by
  induction keys generalizing changes order setting after with
  | nil => cases only
  | cons key keys ih =>
    have single {inner : Setting} (one : changes.flatMap (below key) = [⟨[], inner⟩]) :
        ∃ old new, Makes put ⟨[], inner⟩ old new ∧ after.find? key = some new := by
      refine exists_find?_of_single laws
        (fun change among => children change (same.mem_iff.mp among)) ?_ made
      exact List.perm_singleton.mp (one ▸ same.flatMap_right _)
    rw [only?] at only
    rw [Setting.at?]
    split at only
    · next origin entries one =>
      obtain ⟨old, new, makes, found⟩ := single one
      rw [found]
      cases makes with
      | replace whole => cases whole
      | @merge _ _ order _ _ sameEntries merged =>
        exact ih (forall_child_ofEntries entries) only (sameEntries.map _)
          (makesAll_ofEntries.mpr merged)
    · next inner noTable one =>
      obtain ⟨old, new, makes, found⟩ := single one
      rw [found]
      split at only
      · next ended =>
        subst ended
        cases only
        cases makes with
        | merge => exact absurd rfl (noTable _ _)
        | replace => rfl
      · cases only
    · cases only

end Change

end ParserRefresh
