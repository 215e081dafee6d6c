/-
Module: Blueprint.Proofs.Layering
Purpose: Preferences in layers. A choice is decided by the last of the layers that make it, and by the default of
  the generator where none does. Indentation is told by two choices: tabs prevail over any number of spaces,
  whichever of the two was asked for last. So a number of spaces takes effect unless an earlier layer asks for
  tabs and no later one takes that back.
Main exports: Preferences.mergeAll, Preferences.lastChoice?, Preferences.Decides, IsLayered.decides,
  indent_mergeAll, layers_decide_options
-/
import Blueprint.Proofs.Command.Run

namespace Blueprint.Preferences

open Command (Arguments Invocation preferencesOf)
open Output (FileTree Logged)
open Php (IndentStyle Options)

variable {α : Type} {choice : Preferences → Option α} {layers before after : List Preferences}
  {layer : Preferences} {value initial : α}

/-- All layers, each laid over those before it. -/
def mergeAll (layers : List Preferences) : Preferences :=
  layers.foldl merge {}

/-- What the last of the layers that make a choice makes of it. -/
def lastChoice? (choice : Preferences → Option α) (layers : List Preferences) : Option α :=
  layers.reverse.findSome? choice

/-- The value that layers decide for a choice: the one of the last layer that makes the choice, or the initial
    one where no layer makes it. -/
inductive Decides (choice : Preferences → Option α) (initial : α) (layers : List Preferences) : α → Prop where
  | last {before after : List Preferences} {layer : Preferences} {value : α}
      (split : layers = before ++ layer :: after) (made : choice layer = some value)
      (silent : ∀ later ∈ after, choice later = none) : Decides choice initial layers value
  | untouched (silent : ∀ layer ∈ layers, choice layer = none) : Decides choice initial layers initial

/-! ### The last choice -/

theorem lastChoice?_append (choice : Preferences → Option α) (layers more : List Preferences) :
    lastChoice? choice (layers ++ more) = (lastChoice? choice more).or (lastChoice? choice layers) := by
  rw [lastChoice?, List.reverse_append, List.findSome?_append]
  rfl

theorem lastChoice?_singleton (choice : Preferences → Option α) (layer : Preferences) :
    lastChoice? choice [layer] = choice layer := by
  rw [lastChoice?, List.reverse_singleton, List.findSome?_singleton]

theorem lastChoice?_eq_none_iff :
    lastChoice? choice layers = none ↔ ∀ layer ∈ layers, choice layer = none := by
  simp [lastChoice?]

/-- Layers that do not make the choice leave it to those before them. -/
theorem lastChoice?_of_silent (silent : ∀ later ∈ after, choice later = none) :
    lastChoice? choice (before ++ layer :: after) = (choice layer).or (lastChoice? choice before) := by
  rw [List.append_cons, lastChoice?_append, lastChoice?_eq_none_iff.mpr silent, Option.none_or,
    lastChoice?_append, lastChoice?_singleton]

theorem lastChoice?_eq_some_iff :
    lastChoice? choice layers = some value ↔ ∃ before layer after, layers = before ++ layer :: after ∧
      choice layer = some value ∧ ∀ later ∈ after, choice later = none := by
  constructor
  · intro found
    obtain ⟨after, layer, before, split, made, silent⟩ := List.findSome?_eq_some_iff.mp found
    refine ⟨before.reverse, layer, after.reverse, ?_, made, by simpa using silent⟩
    simpa using congrArg List.reverse split
  · rintro ⟨before, layer, after, rfl, made, silent⟩
    rw [lastChoice?_of_silent silent, made, Option.some_or]

theorem decides_iff : Decides choice initial layers value ↔ (lastChoice? choice layers).getD initial = value := by
  constructor
  · intro decides
    cases decides with
    | last split made silent =>
        rw [lastChoice?_eq_some_iff.mpr ⟨_, _, _, split, made, silent⟩, Option.getD_some]
    | untouched silent => rw [lastChoice?_eq_none_iff.mpr silent, Option.getD_none]
  · rintro rfl
    cases found : lastChoice? choice layers with
    | none => exact .untouched (lastChoice?_eq_none_iff.mp found)
    | some value =>
        obtain ⟨before, layer, after, split, made, silent⟩ := lastChoice?_eq_some_iff.mp found
        exact .last split made silent

/-! ### Choices of merged layers -/

/-- A choice that blank preferences leave open, and for which a later layer prevails over an earlier one. -/
structure IsLayered (choice : Preferences → Option α) : Prop where
  blank : choice {} = none
  merge : ∀ earlier later, choice (earlier.merge later) = (choice later).or (choice earlier)

theorem isLayered_useTab : IsLayered useTab? :=
  ⟨rfl, fun _ _ => rfl⟩

/-- The number of spaces, as the indentation that it stands for. -/
def spaces? (preferences : Preferences) : Option IndentStyle :=
  preferences.indentSpaces?.map .spaces

theorem isLayered_spaces : IsLayered spaces? :=
  ⟨rfl, fun _ _ => Option.map_or⟩

theorem IsLayered.foldl_merge (layered : IsLayered choice) (layers : List Preferences) (base : Preferences) :
    choice (layers.foldl Preferences.merge base) = (lastChoice? choice layers).or (choice base) := by
  induction layers generalizing base with
  | nil => rfl
  | cons layer layers ih =>
      rw [List.foldl_cons, ih, layered.merge, ← List.singleton_append, lastChoice?_append, lastChoice?_singleton,
        Option.or_assoc]

theorem IsLayered.mergeAll (layered : IsLayered choice) (layers : List Preferences) :
    choice (mergeAll layers) = lastChoice? choice layers := by
  rw [Preferences.mergeAll, layered.foldl_merge, layered.blank, Option.or_none]

/-- What merged preferences make of a choice is what the layers decide for it. -/
theorem IsLayered.decides (layered : IsLayered choice) (layers : List Preferences) (initial : α) :
    Decides choice initial layers ((choice (Preferences.mergeAll layers)).getD initial) := by
  rw [decides_iff, layered.mergeAll]

/-! ### Indentation -/

theorem indent_eq (preferences : Preferences) :
    preferences.indent =
      if preferences.useTab? = some true then .tab else preferences.spaces?.getD ({} : Options).indent := by
  rw [indent, spaces?]
  cases preferences.indentSpaces? <;> rfl

theorem indent_mergeAll_eq (layers : List Preferences) :
    (mergeAll layers).indent =
      if lastChoice? useTab? layers = some true then .tab
      else (lastChoice? spaces? layers).getD ({} : Options).indent := by
  rw [indent_eq, isLayered_useTab.mergeAll, isLayered_spaces.mergeAll]

/-- Tabs are used where the layers decide to use them, and elsewhere the layers decide on the spaces. -/
theorem indent_mergeAll (layers : List Preferences) :
    Decides useTab? false layers true ∧ (mergeAll layers).indent = .tab ∨
      Decides useTab? false layers false ∧
        Decides spaces? ({} : Options).indent layers (mergeAll layers).indent := by
  rw [indent_mergeAll_eq, decides_iff, decides_iff, decides_iff]
  cases lastChoice? useTab? layers with
  | none => exact .inr ⟨rfl, rfl⟩
  | some tabs =>
      cases tabs with
      | true => exact .inl ⟨rfl, rfl⟩
      | false => exact .inr ⟨rfl, rfl⟩

/-- The last layer that tells anything about indentation asks for tabs. -/
theorem indent_of_tabs (silent : ∀ later ∈ after, later.useTab? = none) (tabs : layer.useTab? = some true) :
    (mergeAll (before ++ layer :: after)).indent = .tab := by
  rw [indent_mergeAll_eq, lastChoice?_of_silent silent, tabs, Option.some_or, if_pos rfl]

/-- The last layer that tells anything about indentation asks for a number of spaces, and not for tabs. These
    take effect unless tabs are asked for before, and the layer does not take that back. -/
theorem indent_of_spaces_iff {count : Nat} (silent : ∀ later ∈ after, later.useTab? = none)
    (quiet : ∀ later ∈ after, later.indentSpaces? = none) (spaces : layer.indentSpaces? = some count)
    (noTabs : layer.useTab? ≠ some true) :
    (mergeAll (before ++ layer :: after)).indent = .spaces count ↔
      ¬(layer.useTab? = none ∧ Decides useTab? false before true) := by
  have asked : layer.spaces? = some (.spaces count) := by rw [spaces?, spaces, Option.map_some]
  have spaceless : ∀ later ∈ after, later.spaces? = none := by
    intro later member
    rw [spaces?, quiet later member, Option.map_none]
  rw [indent_mergeAll_eq, lastChoice?_of_silent silent, lastChoice?_of_silent spaceless, asked, Option.some_or,
    Option.getD_some, decides_iff]
  cases own : layer.useTab? with
  | none => cases lastChoice? useTab? before <;> simp
  | some tabs =>
      have off : tabs = false := by simpa [own] using noTabs
      simp [off]

/-! ### The command line -/

/-- A command line does not ask for tabs and for a number of spaces at once. -/
theorem tabs_of_indent {line : List String} {model : String} {arguments : Arguments} {count : Nat}
    (asks : Invocation.ofArguments line = .run model arguments) (spaces : arguments.indent? = some count) :
    arguments.tabs = false := by
  unfold Invocation.ofArguments at asks
  split at asks
  · cases asks
  · cases asks
  · split at asks
    · cases asks
    · split at asks
      · cases asks
      · rename_i apart
        cases asks
        simpa [spaces] using apart

/-- A number of spaces on the command line takes effect unless the preferences file asks for tabs. -/
theorem indent_of_command_line {line : List String} {model path : String} {arguments : Arguments}
    {count : Nat} {file : Preferences} {tree : FileTree}
    (asks : Invocation.ofArguments line = .run model arguments) (given : arguments.preferences? = some path)
    (loads : loadPreferences (.frozen tree) path = .ok file) (spaces : arguments.indent? = some count) :
    ∃ preferences, preferencesOf (.frozen tree) arguments = .ok preferences ∧
      (preferences.options.indent = .spaces count ↔ file.useTab? ≠ some true) := by
  refine ⟨file.merge arguments.overrides, by rw [Command.preferencesOf_of_given given, loads], ?_⟩
  have quiet : arguments.overrides.useTab? = none := by
    rw [Arguments.overrides, tabs_of_indent asks spaces]
    rfl
  have asked : arguments.overrides.spaces? = some (.spaces count) := by
    rw [spaces?, Arguments.overrides, spaces, Option.map_some]
  have told : (file.merge arguments.overrides).options.indent =
      if file.useTab? = some true then .tab else .spaces count := by
    rw [options, indent_eq, isLayered_useTab.merge, isLayered_spaces.merge, quiet, asked, Option.none_or,
      Option.some_or, Option.getD_some]
  rw [told]
  by_cases tabs : file.useTab? = some true <;> simp [tabs]

/-! ### Layers decide -/

/-- Layers decide the options. All but the indentation are decided one by one, each by the last layer that makes
    the choice, and by the default of the generator where no layer makes it. The indentation is decided by two
    choices, which do not take each other back: where the layers decide to use tabs, the indentation is a
    tab, whatever they decide on spaces. So a layer that is the last to tell anything about indentation
    and asks for tabs has its way; one that asks for a number of spaces has its way unless an earlier layer
    asks for tabs and neither that layer nor any between takes this back. In particular a number of spaces
    on the command line does not prevail over a preferences file that asks for tabs. -/
theorem layers_decide_options (layers : List Preferences) :
    (Decides classSuffix? ({} : Options).classSuffix layers (mergeAll layers).options.classSuffix ∧
      Decides interfaceSuffix? ({} : Options).interfaceSuffix layers (mergeAll layers).options.interfaceSuffix ∧
      Decides docs? ({} : Options).docs layers (mergeAll layers).options.docs ∧
      Decides strictTypes? ({} : Options).strictTypes layers (mergeAll layers).options.strictTypes ∧
      Decides returnTypes? ({} : Options).returnTypes layers (mergeAll layers).options.returnTypes ∧
      Decides enumStyle? ({} : Options).enumStyle layers (mergeAll layers).options.enumStyle) ∧
    (Decides useTab? false layers true ∧ (mergeAll layers).options.indent = .tab ∨
      Decides useTab? false layers false ∧
        Decides spaces? ({} : Options).indent layers (mergeAll layers).options.indent) ∧
    (∀ before layer after, layers = before ++ layer :: after →
      (∀ later ∈ after, later.useTab? = none ∧ later.indentSpaces? = none) →
      (layer.useTab? = some true → (mergeAll layers).options.indent = .tab) ∧
      ∀ count, layer.indentSpaces? = some count → layer.useTab? ≠ some true →
        ((mergeAll layers).options.indent = .spaces count ↔
          ¬(layer.useTab? = none ∧ Decides useTab? false before true))) ∧
    ∀ line model path arguments count file tree, Invocation.ofArguments line = .run model arguments →
      arguments.preferences? = some path → loadPreferences (.frozen tree) path = .ok file →
      arguments.indent? = some count →
      ∃ preferences, preferencesOf (.frozen tree) arguments = .ok preferences ∧
        (preferences.options.indent = .spaces count ↔ file.useTab? ≠ some true) := by
  refine ⟨⟨?_, ?_, ?_, ?_, ?_, ?_⟩, indent_mergeAll layers, ?_, ?_⟩
  · exact IsLayered.decides ⟨rfl, fun _ _ => rfl⟩ layers _
  · exact IsLayered.decides ⟨rfl, fun _ _ => rfl⟩ layers _
  · exact IsLayered.decides ⟨rfl, fun _ _ => rfl⟩ layers _
  · exact IsLayered.decides ⟨rfl, fun _ _ => rfl⟩ layers _
  · exact IsLayered.decides ⟨rfl, fun _ _ => rfl⟩ layers _
  · exact IsLayered.decides ⟨rfl, fun _ _ => rfl⟩ layers _
  · rintro before layer after rfl quiet
    have silent : ∀ later ∈ after, later.useTab? = none := fun later member => (quiet later member).1
    refine ⟨indent_of_tabs silent, fun count spaces noTabs => ?_⟩
    exact indent_of_spaces_iff silent (fun later member => (quiet later member).2) spaces noTabs
  · intro line model path arguments count file tree asks given loads spaces
    exact indent_of_command_line asks given loads spaces

/-- A place with a preferences file that asks for tabs. -/
def tabbedPlace : FileTree :=
  FileTree.empty.put ["tabs.xml"] (.file "<preferences useTab='true'/>".toUTF8)

/-- Tabs are asked for first and spaces last, by layers and by a file and the command line, and tabs are used. -/
theorem layers_decide_options_tabs :
    (mergeAll [{ useTab? := some true }, { indentSpaces? := some 2 }]).options.indent ≠ .spaces 2 ∧
      ∃ arguments preferences,
        Invocation.ofArguments ["-p", "tabs.xml", "--indent", "4", "m.xml"] = .run "m.xml" arguments ∧
        preferencesOf (.frozen tabbedPlace) arguments = .ok preferences ∧
        preferences.options.indent ≠ .spaces 4 := by
  obtain ⟨-, -, layered, ofCommandLine⟩ :=
    layers_decide_options [{ useTab? := some true }, { indentSpaces? := some 2 }]
  obtain ⟨-, spaces⟩ := layered [{ useTab? := some true }] { indentSpaces? := some 2 } [] rfl (by simp)
  have loads : loadPreferences (.frozen tabbedPlace) "tabs.xml" = .ok { useTab? := some true } :=
    Document.eq_ok_of_toOption (by decide +kernel)
  obtain ⟨preferences, settled, decides⟩ :=
    ofCommandLine ["-p", "tabs.xml", "--indent", "4", "m.xml"] "m.xml" "tabs.xml"
      { model? := some "m.xml", preferences? := some "tabs.xml", indent? := some 4 } 4 _ tabbedPlace
      (by decide +kernel) rfl loads rfl
  refine ⟨fun two => ?_, _, preferences, by decide +kernel, settled, fun four => decides.mp four rfl⟩
  exact (spaces 2 rfl (by decide)).mp two ⟨rfl, decides_iff.mpr rfl⟩

end Blueprint.Preferences
