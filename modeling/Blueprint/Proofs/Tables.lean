import Blueprint.Documentation
import Blueprint.Proofs.Lines
import Mathlib.Data.List.Basic
import Mathlib.Data.List.Forall2

/-!
The tables of the documentation, as a reader of the text sees them. Lines end with line feeds, and a
line is cut into columns at every pipe that no backslash stands in front of. Whatever the names, types,
defaults and values of an entity are, its row stays on one line and has a column for each of them.
-/
set_option autoImplicit false

namespace Blueprint.Documentation

open Text Sources

/-! ## Reading a row -/

/-- The number of pipes in a text that no backslash stands directly in front of. The first argument is
the character in front of the text. -/
def barePipes (before : Char) : List Char → Nat
  | [] => 0
  | c :: rest => (if c = '|' ∧ before ≠ '\\' then 1 else 0) + barePipes c rest

/-- The pieces of a text between those pipes. -/
def columns (before : Char) : List Char → List (List Char)
  | [] => [[]]
  | c :: rest =>
    if c = '|' ∧ before ≠ '\\' then [] :: columns c rest
    else match columns c rest with
      | [] => [[c]]
      | column :: others => (c :: column) :: others

/-- A text with a pipe in place of each escaped pipe. -/
def unescaped : List Char → List Char
  | '\\' :: '|' :: rest => '|' :: unescaped rest
  | c :: rest => c :: unescaped rest
  | [] => []

/-- The texts in the cells of a line: what stands between its first pipe and its last one, without the
blank at either end of a cell. -/
def readCells (line : List Char) : List (List Char) :=
  ((columns '\n' line).drop 1).dropLast.map fun column => unescaped (column.drop 1).dropLast

theorem columns_plain {before c : Char} (plain : ¬ (c = '|' ∧ before ≠ '\\'))
    {rest column : List Char} {others : List (List Char)}
    (known : columns c rest = column :: others) :
    columns before (c :: rest) = (c :: column) :: others := by
  rw [columns, if_neg plain, known]

/-- There is one column more than there are pipes. -/
theorem length_columns (before : Char) (text : List Char) :
    (columns before text).length = barePipes before text + 1 := by
  induction text generalizing before with
  | nil => rfl
  | cons c text ih =>
    have later := ih c
    rw [columns, barePipes]
    split
    · rw [List.length_cons, later]
      omega
    · cases known : columns c text with
      | nil => simp [known] at later
      | cons column others =>
        rw [known] at later
        rw [List.length_cons] at later ⊢
        omega

/-- A text without bare pipes, with a blank behind it, stays in one column. -/
theorem columns_append {front : List Char} {before : Char} (free : barePipes before front = 0)
    {rest column : List Char} {others : List (List Char)}
    (known : columns ' ' rest = column :: others) :
    columns before (front ++ ' ' :: rest) = (front ++ ' ' :: column) :: others := by
  induction front generalizing before with
  | nil => exact columns_plain (by simp) known
  | cons c front ih =>
    -- A pipe that is not bare does not end the column, so `c` stays in front of what follows.
    rw [barePipes, Nat.add_eq_zero_iff] at free
    have plain : ¬ (c = '|' ∧ before ≠ '\\') := fun bare => by simp [bare] at free
    exact columns_plain plain (ih free.2)

/-! ## Spelling a cell -/

/-- What stands in a cell for a character. -/
def spelling : Char → List Char
  | '|' => ['\\', '|']
  | '\n' => [' ']
  | c => [c]

/-- A character as a cell shows it: a line break is a blank. -/
def unbroken (c : Char) : Char := if c = '\n' then ' ' else c

theorem spelling_plain {c : Char} (noPipe : c ≠ '|') : spelling c = [unbroken c] := by
  by_cases breaks : c = '\n'
  · subst breaks
    rfl
  · rw [unbroken, if_neg breaks]
    unfold spelling
    split <;> simp_all

theorem unbroken_ne_pipe {c : Char} (noPipe : c ≠ '|') : unbroken c ≠ '|' := by
  rw [unbroken]
  split
  · decide
  · exact noPipe

theorem toList_cell (content : String) : (cell content).toList = content.toList.flatMap spelling := by
  have each (c : Char) : (if c == '|' then "\\|".toList else [c]).flatMap
      (fun d => if d == '\n' then " ".toList else [d]) = spelling c := by
    by_cases isPipe : c = '|'
    · subst isPipe
      rfl
    · rw [spelling_plain isPipe, unbroken]
      by_cases breaks : c = '\n' <;> simp [isPipe, breaks]
  have piped : (replaceChar '|' "\\|" content).toList =
      content.toList.flatMap fun c => if c == '|' then "\\|".toList else [c] := String.toList_ofList
  have whole : (cell content).toList = (replaceChar '|' "\\|" content).toList.flatMap
      fun d => if d == '\n' then " ".toList else [d] := String.toList_ofList
  rw [whole, piped, List.flatMap_assoc]
  exact List.flatMap_congr fun c _ => each c

/-- No pipe of a cell is bare. -/
theorem barePipes_spelled (before : Char) (content : List Char) :
    barePipes before (content.flatMap spelling) = 0 := by
  induction content generalizing before with
  | nil => rfl
  | cons c content ih =>
    rw [List.flatMap_cons]
    by_cases isPipe : c = '|'
    · subst isPipe
      simp [spelling, barePipes, ih]
    · rw [spelling_plain isPipe, List.singleton_append, barePipes, ih]
      simp [unbroken_ne_pipe isPipe]

theorem unbroken_spelled (content : List Char) : '\n' ∉ content.flatMap spelling := by
  intro member
  obtain ⟨c, -, among⟩ := List.mem_flatMap.mp member
  by_cases isPipe : c = '|'
  · subst isPipe
    exact absurd among (by decide)
  · rw [spelling_plain isPipe, List.mem_singleton, unbroken] at among
    split at among
    · contradiction
    · next other => exact other among.symm

theorem head?_spelled (content : List Char) : (content.flatMap spelling).head? ≠ some '|' := by
  cases content with
  | nil => nofun
  | cons c content =>
    rw [List.flatMap_cons]
    by_cases isPipe : c = '|'
    · subst isPipe
      nofun
    · rw [spelling_plain isPipe]
      exact fun same => unbroken_ne_pipe isPipe (Option.some.inj same)

theorem unescaped_cons (c : Char) {rest : List Char} (noPipe : rest.head? ≠ some '|') :
    unescaped (c :: rest) = c :: unescaped rest := by
  rw [unescaped]
  rintro rest' rfl rfl
  exact noPipe rfl

/-- What is read in a cell is what was written into it, but for line breaks. -/
theorem unescaped_spelled (content : List Char) :
    unescaped (content.flatMap spelling) = content.map unbroken := by
  induction content with
  | nil => rfl
  | cons c content ih =>
    rw [List.flatMap_cons, List.map_cons, ← ih]
    by_cases isPipe : c = '|'
    · subst isPipe
      rfl
    · rw [spelling_plain isPipe, List.singleton_append, unescaped_cons _ (head?_spelled content)]

/-! ## Rows -/

/-- A row as a pipe and, for each cell, the cell between blanks and a pipe. -/
theorem toList_row (first : String) (others : List String) : (row (first :: others)).toList =
    '|' :: (first :: others).flatMap fun cell => ' ' :: (cell.toList ++ [' ', '|']) := by
  have cells : ' ' :: ((" | ".intercalate (first :: others)).toList ++ [' ', '|']) =
      (first :: others).flatMap fun cell => ' ' :: (cell.toList ++ [' ', '|']) := by
    induction others generalizing first with
    | nil => simp
    | cons second others ih =>
      rw [String.intercalate_cons_cons, List.flatMap_cons, ← ih]
      simp
  rw [← cells]
  simp [row]

/-- The columns behind the first pipe of a row. -/
theorem columns_cells {texts : List (List Char)} (free : ∀ text ∈ texts, barePipes ' ' text = 0) :
    columns '|' (texts.flatMap fun text => ' ' :: (text ++ [' ', '|'])) =
      texts.map (fun text => ' ' :: (text ++ [' '])) ++ [[]] := by
  induction texts with
  | nil => rfl
  | cons text texts ih =>
    obtain ⟨here, later⟩ := List.forall_mem_cons.mp free
    have ended : columns ' ' ('|' :: texts.flatMap fun text => ' ' :: (text ++ [' ', '|'])) =
        [] :: (texts.map (fun text => ' ' :: (text ++ [' '])) ++ [[]]) := by
      rw [columns, if_pos (by decide), ih later]
    have blank : ¬ (' ' = '|' ∧ '|' ≠ '\\') := by decide
    have column := columns_plain blank (columns_append here ended)
    simpa using column

theorem columns_row (first : String) (others : List String) :
    columns '\n' (row ((first :: others).map cell)).toList = [] :: ((first :: others).map
      (fun text => ' ' :: (text.toList.flatMap spelling ++ [' '])) ++ [[]]) := by
  have spelled : ((first :: others).map cell).flatMap
      (fun cell => ' ' :: (cell.toList ++ [' ', '|'])) =
      ((first :: others).map fun text => text.toList.flatMap spelling).flatMap
        fun text => ' ' :: (text ++ [' ', '|']) := by
    rw [List.flatMap_map, List.flatMap_map]
    exact List.flatMap_congr fun text _ => by rw [toList_cell]
  have free : ∀ text ∈ (first :: others).map fun text => text.toList.flatMap spelling,
      barePipes ' ' text = 0 := by
    intro _ member
    obtain ⟨text, -, rfl⟩ := List.mem_map.mp member
    exact barePipes_spelled ' ' text.toList
  rw [List.map_cons, toList_row, ← List.map_cons, spelled, columns, if_pos (by decide),
    columns_cells free, List.map_map]
  rfl

theorem barePipes_row (first : String) (others : List String) :
    barePipes '\n' (row ((first :: others).map cell)).toList = (first :: others).length + 1 := by
  have length := length_columns '\n' (row ((first :: others).map cell)).toList
  rw [columns_row, List.length_cons, List.length_append, List.length_map, List.length_singleton]
    at length
  exact (Nat.succ.inj length).symm

theorem readCells_row (first : String) (others : List String) :
    readCells (row ((first :: others).map cell)).toList =
      (first :: others).map fun text => text.toList.map unbroken := by
  rw [readCells, columns_row, List.drop_one, List.tail_cons, List.dropLast_concat, List.map_map]
  refine List.map_congr_left fun text _ => ?_
  simp [unescaped_spelled]

theorem not_mem_row (first : String) (others : List String) :
    '\n' ∉ (row ((first :: others).map cell)).toList := by
  rw [List.map_cons, toList_row, ← List.map_cons]
  intro member
  rcases List.mem_cons.mp member with isPipe | member
  · exact absurd isPipe (by decide)
  · obtain ⟨text, among, inside⟩ := List.mem_flatMap.mp member
    obtain ⟨content, -, rfl⟩ := List.mem_map.mp among
    rw [toList_cell] at inside
    have breaks : '\n' ∈ content.toList.flatMap spelling := by simpa using inside
    exact unbroken_spelled content.toList breaks

/-! ## Tables in a text -/

/-- The lines of a text that is written line by line; a piece with line breaks is several of them. -/
def linesOf (content : List String) : List (List Char) :=
  content.flatMap fun line => splitChars '\n' line.toList

theorem splitChars_lines (content : List String) :
    splitChars '\n' (lines content).toList = linesOf content ++ [[]] := by
  induction content with
  | nil => rfl
  | cons line content ih =>
    have whole : (lines (line :: content)).toList =
        line.toList ++ '\n' :: (lines content).toList := by
      simp [lines]
    rw [whole, splitChars_append, ih, linesOf, linesOf, List.flatMap_cons, List.append_assoc]

theorem linesOf_append (content others : List String) :
    linesOf (content ++ others) = linesOf content ++ linesOf others := List.flatMap_append

theorem linesOf_unbroken {content : List String} (free : ∀ line ∈ content, '\n' ∉ line.toList) :
    linesOf content = content.map String.toList := by
  rw [linesOf, List.map_eq_flatMap]
  exact List.flatMap_congr fun line member => splitChars_free (free line member)

/-- The text begins with some lines, and right below them it holds a table: the two lines of its
heading, then one line for each entity, in order, and an empty line. The line of an entity has the
given number of bare pipes, and its cells show the texts of the entity. -/
def HoldsTable {α : Type} (text : String) (above heading : List String) (pipes : Nat)
    (texts : α → List String) (entities : List α) : Prop :=
  ∃ rows after, splitChars '\n' text.toList =
      linesOf above ++ heading.map String.toList ++ rows ++ [] :: after ∧
    List.Forall₂ (fun entity row => barePipes '\n' row = pipes ∧
      readCells row = (texts entity).map fun text => text.toList.map unbroken) entities rows

/-- A table with its heading and the empty line below it. -/
def tableLines {α : Type} (heading : List String) (cells : α → List String) (entities : List α) :
    List String :=
  heading ++ entities.map (fun entity => row (cells entity)) ++ [""]

theorem holdsTable_of_isPrefix {α : Type} {content above heading : List String} {entities : List α}
    {cells texts : α → List String} {pipes : Nat}
    (starts : above ++ tableLines heading cells entities <+: content)
    (free : ∀ line ∈ heading, '\n' ∉ line.toList)
    (shaped : ∀ entity, ∃ first others, texts entity = first :: others ∧
      cells entity = (first :: others).map cell ∧ (first :: others).length + 1 = pipes) :
    HoldsTable (lines content) above heading pipes texts entities := by
  obtain ⟨after, rfl⟩ := starts
  have unbroken : ∀ line ∈ entities.map (fun entity => row (cells entity)), '\n' ∉ line.toList := by
    intro _ member
    obtain ⟨entity, -, rfl⟩ := List.mem_map.mp member
    obtain ⟨first, others, -, written, -⟩ := shaped entity
    rw [written]
    exact not_mem_row first others
  -- Each row is one line only because no cell has a line break; the lines above need no such care.
  refine ⟨(entities.map fun entity => row (cells entity)).map String.toList,
    linesOf after ++ [[]], ?lines, ?rows⟩
  case lines =>
    rw [splitChars_lines, tableLines]
    simp only [linesOf_append, linesOf_unbroken free, linesOf_unbroken unbroken, List.append_assoc]
    rfl
  case rows =>
    rw [List.map_map, List.forall₂_map_right_iff, List.forall₂_same]
    intro entity _
    obtain ⟨first, others, isTexts, written, rfl⟩ := shaped entity
    rw [Function.comp, written, isTexts]
    exact ⟨barePipes_row first others, readCells_row first others⟩

/-! ## The tables of the documentation -/

def propertyHeading : List String :=
  ["| Property | Type | Required | Default | Notes |",
   "|----------|------|----------|---------|-------|"]

def parameterHeading : List String :=
  ["| Name | Type | Required |",
   "|------|------|----------|"]

/-- The texts that the cells of a property show. -/
def propertyTexts (property : Property) : List String :=
  let values := ", ".intercalate property.enumValues
  [property.name, property.type.text, checkCell property.required, property.defaultValue.getD "",
    if property.enumValues.isEmpty then "" else s!"Enum: [{values}]"]

def parameterTexts (parameter : Parameter) : List String :=
  [parameter.name, parameter.type.text, checkCell parameter.required]

theorem cell_checkCell (b : Bool) : cell (checkCell b) = checkCell b := by
  cases b <;> decide

theorem propertyCells_eq (property : Property) :
    propertyCells property = (propertyTexts property).map cell := by
  have notes (values : String) : cell (if property.enumValues.isEmpty then "" else values) =
      if property.enumValues.isEmpty then "" else cell values := by
    split
    · decide
    · rfl
  simp only [propertyTexts, List.map_cons, List.map_nil, cell_checkCell, notes]
  rfl

theorem parameterCells_eq (parameter : Parameter) :
    parameterCells parameter = (parameterTexts parameter).map cell := by
  simp only [parameterTexts, List.map_cons, List.map_nil, cell_checkCell]
  rfl

/-- What stands directly above the table of a model. -/
def aboveModel (model : Model) : List String := [s!"### {model.name}", ""]

/-- What stands directly above the table of a screen: what its section is without parameters, and the
heading of the table. -/
def aboveScreen (screen : Screen) : List String :=
  screenLines { screen with parameters := [] } ++ ["#### Parameters", ""]

def aboveEndpoint (endpoint : Endpoint) : List String :=
  [s!"### {endpoint.id}", "", s!"**Method:** {endpoint.method}", s!"**Path:** {endpoint.path}", "",
    "#### Parameters", ""]

theorem isPrefix_modelLines (model : Model) :
    aboveModel model ++ tableLines propertyHeading propertyCells model.properties <+:
      modelLines model := List.prefix_rfl

theorem parameterLines_eq {parameters : List Parameter} (some : parameters ≠ []) :
    parameterLines parameters =
      ["#### Parameters", ""] ++ tableLines parameterHeading parameterCells parameters := by
  cases parameters with
  | nil => contradiction
  | cons first others => rfl

theorem isPrefix_screenLines {screen : Screen} (some : screen.parameters ≠ []) :
    aboveScreen screen ++ tableLines parameterHeading parameterCells screen.parameters <+:
      screenLines screen := by
  rw [screenLines, parameterLines_eq some]
  simp [aboveScreen, screenLines, parameterLines, onlyIf]

theorem isPrefix_endpointLines {endpoint : Endpoint} (some : endpoint.parameters ≠ []) :
    aboveEndpoint endpoint ++ tableLines parameterHeading parameterCells endpoint.parameters <+:
      endpointLines endpoint := by
  have own : aboveEndpoint endpoint ++
      tableLines parameterHeading parameterCells endpoint.parameters =
      [s!"### {endpoint.id}", "", s!"**Method:** {endpoint.method}", s!"**Path:** {endpoint.path}",
        ""] ++ parameterLines endpoint.parameters := by
    rw [parameterLines_eq some]
    simp [aboveEndpoint]
  rw [own, endpointLines]
  exact (List.prefix_append _ _).trans (List.prefix_append _ _)

/-! ## The parts of the documentation -/

/-- The lines in front of the sections of the models. -/
def aboveModels (app : Application) : List String :=
  let platforms := ", ".intercalate (app.platforms.map Platform.name)
  [s!"# {app.title}", "", s!"**App ID:** {app.appId}", s!"**Version:** {app.version}",
    s!"**Platforms:** {platforms}", "", "## Data Models", ""]

/-- The lines in front of the sections of the screens. -/
def aboveScreens (app : Application) : List String :=
  aboveModels app ++ sectionsOr "No models defined." modelLines app.models ++ ["## Screens", ""]

/-- The lines in front of the sections of the endpoints. -/
def aboveEndpoints (app : Application) (api : Api) : List String :=
  aboveScreens app ++ sectionsOr "No screens defined." screenLines app.screens ++
    ["## Navigation", ""] ++ navigationLines app.navigation ++ ["## API Endpoints", ""] ++
    [s!"**Base URL:** {api.baseUrl}"] ++ onlyIf api.mock ["**Mock data:** enabled"] ++ [""]

theorem markdown_models (app : Application) : ∃ after, markdown app =
    lines (aboveModels app ++ sectionsOr "No models defined." modelLines app.models ++ after) := by
  refine ⟨["## Screens", ""] ++ sectionsOr "No screens defined." screenLines app.screens ++
    ["## Navigation", ""] ++ navigationLines app.navigation ++ ["## API Endpoints", ""] ++
    apiLines app.api, ?_⟩
  simp only [markdown, aboveModels, List.append_assoc]

theorem markdown_screens (app : Application) : ∃ after, markdown app =
    lines (aboveScreens app ++ sectionsOr "No screens defined." screenLines app.screens ++ after) := by
  refine ⟨["## Navigation", ""] ++ navigationLines app.navigation ++ ["## API Endpoints", ""] ++
    apiLines app.api, ?_⟩
  simp only [markdown, aboveScreens, aboveModels, List.append_assoc]

theorem markdown_endpoints {app : Application} {api : Api} (isApi : app.api = some api)
    (some : api.endpoints ≠ []) :
    markdown app = lines (aboveEndpoints app api ++ api.endpoints.flatMap endpointLines) := by
  have sections : apiLines app.api = [s!"**Base URL:** {api.baseUrl}"] ++
      onlyIf api.mock ["**Mock data:** enabled"] ++ [""] ++ api.endpoints.flatMap endpointLines := by
    rw [isApi, apiLines, if_neg (by simpa using some)]
  simp only [markdown, sections, aboveEndpoints, aboveScreens, aboveModels, List.append_assoc]

variable {α : Type} {content : α → List String} {entity : α} {own table : List String}

/-- What the section of an entity starts with comes behind the sections of the earlier entities. -/
theorem isPrefix_sections (starts : own ++ table <+: content entity) (before : List String)
    (earlier later : List α) : before ++ earlier.flatMap content ++ own ++ table <+:
      before ++ (earlier ++ entity :: later).flatMap content := by
  rw [List.flatMap_append, List.flatMap_cons, List.append_assoc, List.append_assoc,
    List.prefix_append_right_inj, List.prefix_append_right_inj]
  exact starts.trans (List.prefix_append _ _)

theorem isPrefix_sectionsOr (starts : own ++ table <+: content entity) (before : List String)
    (earlier later : List α) (remark : String) (after : List String) :
    before ++ earlier.flatMap content ++ own ++ table <+:
      before ++ sectionsOr remark content (earlier ++ entity :: later) ++ after := by
  rw [sectionsOr, if_neg (by simp)]
  exact (isPrefix_sections starts before earlier later).trans (List.prefix_append _ _)

/-- The tables of the documentation keep their shape. Behind the sections of the earlier models, below
the heading of the table of a model, stands one line for each property, in order, with six bare pipes
and so five cells, which show the name, the type, the mark, the default and the values of the property.
Below the heading of a table of parameters of a screen or an endpoint stands one line for each
parameter, with four pipes and three cells. -/
theorem tables_keep_shape (app : Application) :
    (∀ earlier model later, app.models = earlier ++ model :: later →
      HoldsTable (markdown app) (aboveModels app ++ earlier.flatMap modelLines ++ aboveModel model)
        propertyHeading 6 propertyTexts model.properties) ∧
    (∀ earlier screen later, app.screens = earlier ++ screen :: later → screen.parameters ≠ [] →
      HoldsTable (markdown app) (aboveScreens app ++ earlier.flatMap screenLines ++ aboveScreen screen)
        parameterHeading 4 parameterTexts screen.parameters) ∧
    ∀ api ∈ app.api, ∀ earlier endpoint later, api.endpoints = earlier ++ endpoint :: later →
      endpoint.parameters ≠ [] →
      HoldsTable (markdown app)
        (aboveEndpoints app api ++ earlier.flatMap endpointLines ++ aboveEndpoint endpoint)
        parameterHeading 4 parameterTexts endpoint.parameters := by
  have properties (property : Property) : ∃ first others, propertyTexts property = first :: others ∧
      propertyCells property = (first :: others).map cell ∧ (first :: others).length + 1 = 6 :=
    ⟨_, _, rfl, propertyCells_eq property, rfl⟩
  have parameters (parameter : Parameter) : ∃ first others,
      parameterTexts parameter = first :: others ∧
      parameterCells parameter = (first :: others).map cell ∧ (first :: others).length + 1 = 4 :=
    ⟨_, _, rfl, parameterCells_eq parameter, rfl⟩
  refine ⟨?models, ?screens, ?endpoints⟩
  case models =>
    intro earlier model later split
    obtain ⟨after, whole⟩ := markdown_models app
    have starts := isPrefix_modelLines model
    rw [whole, split]
    exact holdsTable_of_isPrefix (isPrefix_sectionsOr starts _ earlier later _ after) (by decide)
      properties
  case screens =>
    intro earlier screen later split some
    obtain ⟨after, whole⟩ := markdown_screens app
    have starts := isPrefix_screenLines some
    rw [whole, split]
    exact holdsTable_of_isPrefix (isPrefix_sectionsOr starts _ earlier later _ after) (by decide)
      parameters
  case endpoints =>
    intro api isApi earlier endpoint later split some
    have whole := markdown_endpoints isApi (by simp [split])
    have starts := isPrefix_endpointLines some
    rw [whole, split]
    exact holdsTable_of_isPrefix (isPrefix_sections starts _ earlier later) (by decide) parameters

/-! Entities whose texts hold pipes, backslashes, quotes and line breaks. -/

def ledgerModel : Model :=
  ⟨"Entry", [{ name := "a|b\\|", type := ⟨"string", false⟩, defaultValue := some "x\ny"
               enumValues := ["p|q", "\"r\\"] }]⟩

def ledgerScreen : Screen :=
  { name := "Main", title := "m|n", isInitial := true, layout := some {}
    parameters := [{ name := "|\n|", type := ⟨"number", true⟩ }] }

def ledgerEndpoint : Endpoint :=
  { id := "e", method := "GET", path := "/\x7ba\x7d"
    parameters := [{ name := "\\|", type := ⟨"Entry", false⟩ }] }

def ledgerApi : Api :=
  { baseUrl := "/", endpoints := [{ ledgerEndpoint with id := "d" }, ledgerEndpoint] }

def ledger : Application :=
  { name := "Ledger", version := "1", models := [⟨"First\n| a |", []⟩, ledgerModel]
    screens := [ledgerScreen], api := some ledgerApi }

theorem tables_keep_shape_ledger :
    HoldsTable (markdown ledger)
      (aboveModels ledger ++ modelLines ⟨"First\n| a |", []⟩ ++ aboveModel ledgerModel)
      propertyHeading 6 propertyTexts ledgerModel.properties ∧
    HoldsTable (markdown ledger) (aboveScreens ledger ++ aboveScreen ledgerScreen)
      parameterHeading 4 parameterTexts ledgerScreen.parameters ∧
    HoldsTable (markdown ledger)
      (aboveEndpoints ledger ledgerApi ++ endpointLines { ledgerEndpoint with id := "d" } ++
        aboveEndpoint ledgerEndpoint)
      parameterHeading 4 parameterTexts ledgerEndpoint.parameters := by
  obtain ⟨models, screens, endpoints⟩ := tables_keep_shape ledger
  have model := models [⟨"First\n| a |", []⟩] ledgerModel [] rfl
  have screen := screens [] ledgerScreen [] rfl (List.cons_ne_nil _ _)
  have endpoint := endpoints ledgerApi rfl [{ ledgerEndpoint with id := "d" }] ledgerEndpoint [] rfl
    (List.cons_ne_nil _ _)
  rw [List.flatMap_singleton] at model endpoint
  rw [List.flatMap_nil, List.append_nil] at screen
  exact ⟨model, screen, endpoint⟩

end Blueprint.Documentation
