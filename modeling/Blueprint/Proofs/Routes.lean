import Blueprint.Proofs.Signatures

/-!
Routes of screens, and the navigation to them. On the web and on Android the route of a screen is its
name in lower case, and an action navigates to the route of the screen that it names. So the screens
of an application without errors have routes of their own exactly if no two names differ in case
only, and then each navigation leads to the screen that its action names and to no other.
-/
set_option autoImplicit false

namespace Blueprint

open Text Sources

/-! ## Reading lines -/

namespace Sources

/-- The line for the route of a screen. -/
def Web.routeLine (screen : Screen) : String :=
  s!"        <Route path=\"{routePath screen.name}\" element=\x7b<{screen.name}Screen />\x7d />"

/-- The path of the route that a line declares, if it declares one. -/
def Web.routeOn? (line : String) : Option String :=
  (between? "        <Route path=\"" '"' line.toList).map String.ofList

/-- The path that a line navigates to, if it does. -/
def Web.navigatedOn? (line : String) : Option String :=
  (between? "    navigate('" '\'' line.toList).map String.ofList

/-- The lines for the route of a screen. -/
def Android.routeLines (screen : Screen) : List String :=
  [s!"        composable(\"{routeName screen}\") \x7b",
   s!"            {screen.name}Screen(onNavigate = \x7b navController.navigate(it) \x7d)",
   "        \x7d"]

/-- The name of the route that a line declares, if it declares one. -/
def Android.routeOn? (line : String) : Option String :=
  (between? "        composable(\"" '"' line.toList).map String.ofList

end Sources

/-- What stands between a literal and a mark is read from a line that begins with the literal. -/
theorem between?_line (literal : String) {inside rest : String} {mark : Char}
    (closes : rest.toList.head? = some mark) (free : mark ∉ inside.toList) :
    (between? literal mark (literal ++ inside ++ rest).toList).map String.ofList = some inside := by
  obtain ⟨more, begins⟩ := List.head?_eq_some_iff.mp closes
  rw [String.toList_append, String.toList_append, begins, List.append_assoc,
    between?_append literal free, Option.map_some, String.ofList_toList]

theorem IsRun.lower_unquoted {name : String} (isRun : IsRun name) {mark : Char}
    (isQuote : IsQuote mark) : mark ∉ (Text.lower name).toList := by
  -- Neither quotation mark is a character of words, and lower case brings in neither.
  rcases isQuote with rfl | rfl
  all_goals
    apply lower_free (by decide) (by decide)
    exact isRun.not_mem (by decide)

namespace Sources

section Reading

variable (read : String → Option String)

@[simp] theorem filterMap_onlyIf (condition : Bool) (content : List String) :
    (onlyIf condition content).filterMap read = onlyIf condition (content.filterMap read) := by
  cases condition <;> rfl

@[simp] theorem onlyIf_nil (condition : Bool) : onlyIf condition [] = [] := by
  cases condition <;> rfl

@[simp] theorem filterMap_about (text : Option String) (content : String → List String) :
    (about text content).filterMap read = about text fun text => (content text).filterMap read := by
  unfold about
  split <;> rfl

@[simp] theorem about_none (content : String → List String) : about none content = [] := rfl

theorem about_of_isRun {text : String} (isRun : IsRun text) (content : String → List String) :
    about (some text) content = content text := by
  rw [about, filled?_of_isRun isRun]

@[simp] theorem about_nil (text : Option String) : about text (fun _ => []) = [] := by
  unfold about
  split <;> rfl

end Reading

theorem Web.routePath_eq (name : String) : Web.routePath name = "/" ++ Text.lower name := by
  simp [Web.routePath, toString]

theorem Web.routePath_unquoted {name : String} (isRun : IsRun name) {mark : Char}
    (isQuote : IsQuote mark) : mark ∉ (Web.routePath name).toList := by
  have lowered := isRun.lower_unquoted isQuote
  have slash : mark ≠ '/' := by
    rcases isQuote with rfl | rfl <;> decide
  simp [Web.routePath, toString, lowered, slash]

theorem Web.screenPath_inj {screen other : Screen}
    (same : Web.screenPath other = Web.screenPath screen) : other.name = screen.name := by
  simpa [Web.screenPath, toString] using same

theorem Web.routeOn?_routeLine {screen : Screen} (isRun : IsRun screen.name) :
    Web.routeOn? (Web.routeLine screen) = some (Web.routePath screen.name) := by
  have free := Web.routePath_unquoted isRun (.inl rfl)
  have line (path name : String) :
      s!"        <Route path=\"{path}\" element=\x7b<{name}Screen />\x7d />" =
        "        <Route path=\"" ++ path ++ ("\" element=\x7b<" ++ name ++ "Screen />\x7d />") := by
    simp only [toString, String.append_assoc]
  unfold Web.routeOn? Web.routeLine
  rw [line]
  apply between?_line _ _ free
  rw [String.toList_append, String.toList_append]
  rfl

/-- Among the lines for an action there is the one that navigates to the screen it names. -/
theorem Web.navigatedOn?_actionLines {action : Action}
    (areRuns : ∀ target ∈ action.navigate, IsRun target) :
    (Web.actionLines action).filterMap Web.navigatedOn? =
      (action.navigate.map Web.routePath).toList := by
  have opens : Web.navigatedOn? s!"  const {action.event} = () => \x7b" = none := by
    simp [Web.navigatedOn?, between?, afterLiteral?, toString]
  have calls (api : String) : Web.navigatedOn? s!"    // calls endpoint {api}" = none := by
    simp [Web.navigatedOn?, between?, afterLiteral?, toString]
  have closes : Web.navigatedOn? "  \x7d;" = none := by decide
  unfold Web.actionLines
  cases isTarget : action.navigate with
  | none => simp [opens, calls, closes]
  | some target =>
    have isRun := areRuns target isTarget
    have free := Web.routePath_unquoted isRun (.inr rfl)
    have navigates : Web.navigatedOn? s!"    navigate('{Web.routePath target}');" =
        some (Web.routePath target) := by
      unfold Web.navigatedOn?
      exact between?_line "    navigate('" (by decide) free
    simp [opens, calls, closes, navigates, about_of_isRun isRun]

theorem Android.routeOn?_routeLines {screen : Screen} (isRun : IsRun screen.name) :
    (Android.routeLines screen).filterMap Android.routeOn? = [Text.lower screen.name] := by
  have free := isRun.lower_unquoted (.inl rfl)
  have first : Android.routeOn? s!"        composable(\"{Android.routeName screen}\") \x7b" =
      some (Text.lower screen.name) := by
    unfold Android.routeOn?
    exact between?_line "        composable(\"" (by decide) free
  have second : Android.routeOn?
      s!"            {screen.name}Screen(onNavigate = \x7b navController.navigate(it) \x7d)" =
        none := by
    simp [Android.routeOn?, between?, afterLiteral?, toString]
  rw [Android.routeLines, List.filterMap_cons_some first, List.filterMap_cons_none second]
  rfl

end Sources

/-! ## Files with routes -/

namespace Sources

theorem Web.appText_routes {app : Application} (areRuns : ∀ screen ∈ app.screens, IsRun screen.name) :
    ∃ content, Web.appText app = lines content ∧ content.filterMap Web.routeOn? =
      app.screens.map (fun screen => Web.routePath screen.name) ++
        app.startScreen?.toList.map fun _ => "/" := by
  have routes : (app.screens.map Web.routeLine).filterMap Web.routeOn? =
      app.screens.map fun screen => Web.routePath screen.name := by
    rw [List.filterMap_map, List.filterMap_eq_map_iff_forall_eq_some]
    intro screen member
    rw [Function.comp_apply]
    exact Web.routeOn?_routeLine (areRuns screen member)
  have redirects (start : Screen) : Web.routeOn?
      s!"        <Route path=\"/\" element=\x7b<Navigate to=\"{Web.routePath start.name}\" />\x7d />" =
        some "/" := by
    simp [Web.routeOn?, between?, afterLiteral?, List.isPrefixOf?, upTo?, toString]
  refine ⟨_, rfl, ?_⟩
  unfold Web.routeLine at routes
  simp only [List.filterMap_append, routes]
  cases app.startScreen? with
  | none =>
    simp [Web.routeOn?, between?, afterLiteral?, toString, Function.comp_def]
  | some start =>
    simp only [List.filterMap_cons_some (redirects _)]
    simp [Web.routeOn?, between?, afterLiteral?, toString, Function.comp_def]

theorem Android.appText_routes {app : Application}
    (areRuns : ∀ screen ∈ app.screens, IsRun screen.name) (package : String) :
    ∃ content, Android.appText package app = lines content ∧
      content.filterMap Android.routeOn? = app.screens.map fun screen => Text.lower screen.name := by
  have routes : (app.screens.flatMap Android.routeLines).filterMap Android.routeOn? =
      app.screens.map fun screen => Text.lower screen.name := by
    rw [List.filterMap_flatMap, List.map_eq_flatMap]
    apply List.flatMap_congr
    exact fun screen member => Android.routeOn?_routeLines (areRuns screen member)
  refine ⟨_, rfl, ?_⟩
  unfold Android.routeLines at routes
  simp only [List.filterMap_append, routes]
  simp [Android.routeOn?, between?, afterLiteral?, toString, Function.comp_def]

theorem Web.fieldLines_navigate (field : FormField) :
    (Web.fieldLines field).filterMap Web.navigatedOn? = [] := by
  simp [Web.fieldLines, Web.navigatedOn?, between?, afterLiteral?, toString]

theorem Web.screenText_navigates {screen : Screen}
    (areRuns : ∀ action ∈ screen.layoutOrDefault.actions, ∀ target ∈ action.navigate,
      IsRun target) :
    ∃ content, Web.screenText screen = lines content ∧ content.filterMap Web.navigatedOn? =
      (screen.layoutOrDefault.actions.filterMap Action.navigate).map Web.routePath := by
  have handlers : (screen.layoutOrDefault.actions.flatMap Web.actionLines).filterMap
      Web.navigatedOn? =
        (screen.layoutOrDefault.actions.filterMap Action.navigate).map Web.routePath := by
    rw [List.filterMap_flatMap, List.map_filterMap, List.filterMap_eq_flatMap_toList]
    apply List.flatMap_congr
    exact fun action member => Web.navigatedOn?_actionLines (areRuns action member)
  refine ⟨_, rfl, ?_⟩
  simp only [List.filterMap_append, handlers]
  simp [Web.fieldLines_navigate, Web.navigatedOn?, between?, afterLiteral?, toString,
    List.filterMap_flatMap, Function.comp_def]

end Sources

namespace Application

variable {app : Application}

/-- The text of the file that an application has on a platform for itself. -/
def mainText (app : Application) : Platform → String
  | .web => Web.appText app
  | .ios => Ios.appText app
  | .android => Android.appText (Android.packageName app) app

theorem get?_main (named : app.Named) (platform : Platform) :
    (app.sources platform).get? (pathOf (app.filing platform).main) =
      some (app.mainText platform) := by
  obtain ⟨before, path, whole⟩ : ∃ before path, app.entries platform =
      before ++ [(path, app.mainText platform)] := by
    cases platform <;> exact ⟨_, _, rfl⟩
  have paths := paths_eq named platform
  rw [whole, Filing.places, Filing.otherPlaces, ← List.append_assoc] at paths
  simp only [List.map_append] at paths
  obtain rfl : path = pathOf (app.filing platform).main := by
    simpa using (List.append_inj' paths rfl).2
  exact get?_of_last whole List.not_mem_nil

/-- The file of a screen has its text: the later screens have other names, and no other file after it
is put into the directory of the screens. -/
theorem get?_screenFile (distinct : (app.screens.map Screen.name).Nodup) {screen : Screen}
    (member : screen ∈ app.screens) :
    (app.sources .web).get? (Web.screenPath screen) = some (Web.screenText screen) := by
  obtain ⟨earlier, later, whole⟩ := List.append_of_mem member
  let file (other : Screen) := (Web.screenPath other, Web.screenText other)
  obtain ⟨front, entries⟩ : ∃ front, app.entries .web = front ++ file screen :: (later.map file ++
      ((app.api.toList.map fun api =>
        ("src/api/client.ts", Web.clientText api (app.referencedModels api.endpoints))) ++
      [("src/App.tsx", Web.appText app)])) := by
    refine ⟨app.models.map (app.modelFile .web) ++
      ("src/models/index.ts", Web.indexText app.models) :: earlier.map file, ?_⟩
    rw [web_entries, whole, List.map_append, List.map_cons]
    simp only [file, List.append_assoc, List.cons_append]
  have others : ∀ other ∈ later, other.name ≠ screen.name := by
    rw [whole, List.map_append, List.map_cons] at distinct
    have fresh := (List.nodup_cons.mp distinct.of_append_right).1
    exact fun other among same => fresh (List.mem_map.mpr ⟨other, among, same⟩)
  refine get?_of_last entries ?_
  rw [List.map_append, List.mem_append]
  rintro (isScreen | isOther)
  · obtain ⟨_, fromScreen, same⟩ := List.mem_map.mp isScreen
    obtain ⟨other, among, rfl⟩ := List.mem_map.mp fromScreen
    exact others other among (Web.screenPath_inj same)
  · simp [Web.screenPath, toString, ← String.toList_inj] at isOther

theorem validScreens_of_errorless (errorless : app.hasErrors = false) :
    ∀ screen ∈ app.screens, ValidScreen app screen := by
  rw [hasErrors_eq_false, findings, errorless_append, errorless_append, errorless_append,
    errorless_screensFindings] at errorless
  exact errorless.1.1.2.2

/-- Actions on the screens of an application without errors navigate to its screens. -/
theorem declaresScreen_of_errorless (errorless : app.hasErrors = false) {screen : Screen}
    (member : screen ∈ app.screens) {action : Action}
    (acts : action ∈ screen.layoutOrDefault.actions) {target : String}
    (isTarget : action.navigate = some target) : DeclaresScreen app target := by
  obtain ⟨layout, isLayout, valid⟩ :=
    (validScreens_of_errorless errorless screen member).layout
  have own : screen.layoutOrDefault = layout := by simp [Screen.layoutOrDefault, isLayout]
  exact (valid.actions action (own ▸ acts)).navigate target isTarget

end Application

/-- In an application without errors each screen has a route for its name in lower case, on the web
and on Android, and the handlers of a screen navigate to the routes of the screens that its actions
name. So the routes are distinct exactly if the names are in lower case, and then the path that is
navigated to is the route of the named screen alone. -/
theorem routes_distinct_iff {source : String} {strategy : Strategy} {compilation : Compilation}
    (compiled : compile source strategy = .ok compilation)
    (errorless : compilation.application.hasErrors = false) :
    let app := compilation.application
    let paths := app.screens.map fun screen => Web.routePath screen.name
    let names := app.screens.map fun screen => lower screen.name
    (∃ content, (app.sources .web).get? "src/App.tsx" = some (lines content) ∧
        content.filterMap Web.routeOn? = paths ++ app.startScreen?.toList.map fun _ => "/") ∧
      (∃ content, (app.sources .android).get? (pathOf (app.filing .android).main) =
          some (lines content) ∧ content.filterMap Android.routeOn? = names) ∧
      (paths.Nodup ↔ names.Nodup) ∧
      ∀ screen ∈ app.screens,
        let targets := screen.layoutOrDefault.actions.filterMap Action.navigate
        (∃ content, (app.sources .web).get? (Web.screenPath screen) = some (lines content) ∧
            content.filterMap Web.navigatedOn? = targets.map Web.routePath) ∧
          ∀ target ∈ targets, ∃ goal ∈ app.screens, goal.name = target ∧
            (names.Nodup → ∀ other ∈ app.screens,
              Web.routePath other.name = Web.routePath target → other = goal) := by
  intro app paths names
  have named : app.Named := compile_named compiled
  have areRuns : ∀ screen ∈ app.screens, IsRun screen.name := fun _ member => named.screens member
  have distinct := (Application.distinct_of_errorless errorless).2
  have lowered : paths = names.map ("/" ++ ·) := by
    rw [List.map_map]
    apply List.map_congr_left
    exact fun screen _ => Web.routePath_eq screen.name
  refine ⟨?_, ?_, ?_, fun screen member => ⟨?_, fun target isTarget => ?_⟩⟩
  · obtain ⟨content, text, read⟩ := Web.appText_routes areRuns
    exact ⟨content, text ▸ Application.get?_main named .web, read⟩
  · obtain ⟨content, text, read⟩ := Android.appText_routes areRuns (Android.packageName app)
    exact ⟨content, text ▸ Application.get?_main named .android, read⟩
  · rw [lowered]
    exact List.nodup_map_iff fun _ _ => (String.append_right_inj "/").mp
  · have targetsAreRuns : ∀ action ∈ screen.layoutOrDefault.actions, ∀ target ∈ action.navigate,
        IsRun target := by
      intro action acts target isTarget
      obtain ⟨goal, isScreen, rfl⟩ :=
        Application.declaresScreen_of_errorless errorless member acts isTarget
      exact areRuns goal isScreen
    obtain ⟨content, text, read⟩ := Web.screenText_navigates targetsAreRuns
    exact ⟨content, text ▸ Application.get?_screenFile distinct member, read⟩
  · obtain ⟨action, acts, isTarget⟩ := List.mem_filterMap.mp isTarget
    obtain ⟨goal, isScreen, rfl⟩ :=
      Application.declaresScreen_of_errorless errorless member acts isTarget
    refine ⟨goal, isScreen, rfl, fun apart other among same => ?_⟩
    rw [Web.routePath_eq, Web.routePath_eq, String.append_right_inj] at same
    exact List.inj_on_of_nodup_map apart among isScreen same

/-- A screen that another one navigates to. -/
def atticSource : String :=
  "app A \x7bname: 'a' id: 'b' version: '1'\x7d " ++
    "screen Hall \x7btitle: 'h' initial layout: \x7btype: stack\x7d\x7d " ++
    "screen Attic \x7btitle: 'h' layout: " ++
    "\x7btype: stack actions: \x7bonTap: \x7bnavigate: Hall\x7d\x7d\x7d\x7d"

def hall : Screen := { name := "Hall", title := "h", isInitial := true, layout := some {} }

/-- A screen with an action that navigates to the hall. -/
def leadingToHall (name : String) : Screen :=
  { name, title := "h"
    layout := some { actions := [{ event := "onTap", navigate := some "Hall" }] } }

/-- An application with the hall and another screen, from which it is navigated to. -/
def withHall (name : String) : Application :=
  { name := "A", displayName := "a", appId := "b", version := "1"
    screens := [hall, leadingToHall name] }

theorem compile_atticSource : compile atticSource .grammar =
    .ok ⟨withHall "Attic", [], Extraction.ofSource atticSource⟩ := by
  have parsed : Document.parse atticSource = .ok ⟨some {
      header := some { name := "A", displayName := "a", appId := "b", version := "1" }
      screens := [hall, leadingToHall "Attic"] }, []⟩ := by
    cbv
  exact compile_of_header parsed rfl rfl .grammar

theorem routes_distinct_iff_attic : (withHall "Attic").hasErrors = false ∧
    ((withHall "Attic").screens.map fun screen => Web.routePath screen.name).Nodup ∧
    ∃ goal ∈ (withHall "Attic").screens, goal.name = "Hall" ∧
      ∀ other ∈ (withHall "Attic").screens,
        Web.routePath other.name = Web.routePath "Hall" → other = goal := by
  have errorless : (withHall "Attic").hasErrors = false := by cbv
  have read := routes_distinct_iff compile_atticSource errorless
  have names : (withHall "Attic").screens.map (fun screen => lower screen.name) =
      ["hall", "attic"] := by
    cbv
  have apart : ((withHall "Attic").screens.map fun screen => lower screen.name).Nodup := by
    rw [names]
    decide
  obtain ⟨-, leads⟩ := read.2.2.2 (leadingToHall "Attic") (.tail _ (.head _))
  obtain ⟨goal, isScreen, isHall, alone⟩ := leads "Hall" (.head _)
  exact ⟨errorless, read.2.2.1.mpr apart, goal, isScreen, isHall, alone apart⟩

/-- The hall, and a screen whose name differs from it in case only. -/
def hallsSource : String :=
  "app A \x7bname: 'a' id: 'b' version: '1'\x7d " ++
    "screen Hall \x7btitle: 'h' initial layout: \x7btype: stack\x7d\x7d " ++
    "screen hall \x7btitle: 'h' layout: " ++
    "\x7btype: stack actions: \x7bonTap: \x7bnavigate: Hall\x7d\x7d\x7d\x7d"

theorem compile_hallsSource : compile hallsSource .grammar =
    .ok ⟨withHall "hall", [], Extraction.ofSource hallsSource⟩ := by
  have parsed : Document.parse hallsSource = .ok ⟨some {
      header := some { name := "A", displayName := "a", appId := "b", version := "1" }
      screens := [hall, leadingToHall "hall"] }, []⟩ := by
    cbv
  exact compile_of_header parsed rfl rfl .grammar

/-- The two screens pass the checks and share their route, so that the path which the second one
navigates to is its own. -/
theorem names_in_case_share_route : ∃ compilation screen goal,
    compile hallsSource .grammar = .ok compilation ∧
      compilation.application.hasErrors = false ∧
      screen ∈ compilation.application.screens ∧ goal ∈ compilation.application.screens ∧
      screen.name ≠ goal.name ∧
      screen.layoutOrDefault.actions.filterMap Action.navigate = [goal.name] ∧
      Web.routePath screen.name = Web.routePath goal.name ∧
      Android.routeName screen = Android.routeName goal := by
  refine ⟨_, leadingToHall "hall", hall, compile_hallsSource, by cbv, .tail _ (.head _), .head _,
    by decide, rfl, ?_, ?_⟩
  · cbv
  · cbv

end Blueprint
