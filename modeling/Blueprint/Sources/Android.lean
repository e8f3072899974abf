import Blueprint.Sources.Basic
import Blueprint.Sources.Endpoints
import Blueprint.Sources.Types
import Blueprint.Text.Case
import Blueprint.Text.Trim

/-!
Sources for Android: a class for each model, a screen function for each screen, a client for the
interface, and the application with its routes.
-/
set_option autoImplicit false

namespace Blueprint.Sources.Android

open Text

def packageName (app : Application) : String := s!"com.{lower app.name}"

/-- The directory of a package: its name with slashes for dots. -/
def packageDirectory (package : String) : String :=
  "app/src/main/java/" ++ replaceChar '.' "/" package

/-- Items with what follows each of them, which is different for the last. -/
def withSeparators {α : Type} (between last : String) : List α → List (α × String)
  | [] => []
  | [item] => [(item, last)]
  | item :: rest => (item, between) :: withSeparators between last rest

def propertyLines (property : Property) (ending : String) : List String :=
  let values := ", ".intercalate property.enumValues
  let initial := if property.required then "" else "? = null"
  onlyIf (!property.enumValues.isEmpty)
    [s!"    /** One of: {values} */"]
  ++
  [s!"    @SerializedName(\"{property.name}\")",
   s!"    val {property.name}: {property.type.kotlin}{initial}{ending}"]

def modelText (package : String) (model : Model) : String :=
  lines <|
    [s!"package {package}.models",
     "",
     "import com.google.gson.annotations.SerializedName",
     "",
     s!"// {remark}",
     s!"data class {model.name}("]
    ++ (withSeparators "," "" model.properties).flatMap (fun (property, ending) =>
      propertyLines property ending)
    ++
    [")"]

def fieldLines (field : FormField) : List String :=
  ["        OutlinedTextField(",
   s!"            value = {field.name},",
   s!"            onValueChange = \x7b {field.name} = it \x7d,",
   s!"            label = \x7b Text({jsonString field.caption}) \x7d,",
   "            modifier = Modifier.fillMaxWidth()",
   "        )"]

def screenText (package : String) (screen : Screen) : String :=
  let layout := screen.layoutOrDefault
  lines <|
    [s!"package {package}.ui.screens",
     "",
     "import androidx.compose.foundation.layout.*",
     "import androidx.compose.material3.*",
     "import androidx.compose.runtime.*",
     "import androidx.compose.ui.Modifier",
     "import androidx.compose.ui.unit.dp",
     "",
     s!"// {remark}",
     "@Composable",
     s!"fun {screen.name}Screen(onNavigate: (String) -> Unit = \x7b\x7d) \x7b"]
    ++ layout.fields.map (fun field =>
      s!"    var {field.name} by remember \x7b mutableStateOf(\"\") \x7d")
    ++
    ["    Column(",
     "        modifier = Modifier",
     "            .fillMaxSize()",
     "            .padding(16.dp)",
     "    ) \x7b",
     "        Text(",
     s!"            text = {jsonString screen.title},",
     "            style = MaterialTheme.typography.headlineMedium",
     "        )"]
    ++ layout.components.map (fun component => s!"        // {component.type}")
    ++ layout.fields.flatMap fieldLines
    ++ layout.actions.flatMap (fun action => about action.navigate fun target =>
      [s!"        // {action.event} navigates to {target}"])
    ++ about layout.submitButton (fun label =>
      [s!"        Button(onClick = \x7b\x7d) \x7b Text({jsonString label}) \x7d"])
    ++ about layout.cancelButton (fun label =>
      [s!"        TextButton(onClick = \x7b\x7d) \x7b Text({jsonString label}) \x7d"])
    ++
    ["    \x7d",
     "\x7d"]

/-- An argument of a generated function: a placeholder of the path, or the body. -/
inductive Argument where
  | placeholder (name : String)
  | body
  deriving DecidableEq, Repr

namespace Argument

def name : Argument → String
  | .placeholder name => name
  | .body => "body"

def text : Argument → String
  | .placeholder name => s!"@Path(\"{name}\") {name}: String"
  | .body => "@Body body: RequestBody"

end Argument

/-- The arguments of an endpoint's function: one for each placeholder, and the body if it is
declared. -/
def arguments (endpoint : Endpoint) : List Argument :=
  endpoint.pathParameters.map Argument.placeholder
    ++ ((filled? endpoint.body).map fun _ => Argument.body).toList

def relativePath (endpoint : Endpoint) : String := dropLeading '/' endpoint.path

def endpointLines (endpoint : Endpoint) : List String :=
  let signature := ", ".intercalate ((arguments endpoint).map Argument.text)
  [s!"    @{endpoint.method}(\"{relativePath endpoint}\")",
   s!"    suspend fun {endpoint.id}({signature}): ResponseBody"]

/-- The client; its base address ends with one slash. -/
def clientText (package : String) (api : Api) : String :=
  let baseUrl := jsonString (dropTrailing '/' api.baseUrl ++ "/")
  lines <|
    [s!"package {package}.network",
     "",
     "import okhttp3.RequestBody",
     "import okhttp3.ResponseBody",
     "import retrofit2.Retrofit",
     "import retrofit2.converter.gson.GsonConverterFactory",
     "import retrofit2.http.*",
     "",
     s!"// {remark}",
     "interface ApiService \x7b"]
    ++ api.endpoints.flatMap endpointLines
    ++
    ["\x7d",
     "",
     "object ApiClient \x7b",
     s!"    const val BASE_URL = {baseUrl}",
     s!"    const val USE_MOCK_DATA = {flag api.mock}",
     "",
     "    val service: ApiService by lazy \x7b",
     "        Retrofit.Builder()",
     "            .baseUrl(BASE_URL)",
     "            .addConverterFactory(GsonConverterFactory.create())",
     "            .build()",
     "            .create(ApiService::class.java)",
     "    \x7d",
     "\x7d"]

def routeName (screen : Screen) : String := lower screen.name

def appText (package : String) (app : Application) : String :=
  let start := match app.startScreen? with
    | some screen => routeName screen
    | none => ""
  lines <|
    [s!"package {package}",
     "",
     "import android.app.Application",
     "import androidx.compose.runtime.Composable",
     "import androidx.navigation.compose.NavHost",
     "import androidx.navigation.compose.composable",
     "import androidx.navigation.compose.rememberNavController"]
    ++ app.screens.map (fun screen => s!"import {package}.ui.screens.{screen.name}Screen")
    ++
    ["",
     s!"// {remark}",
     s!"class {app.name}Application : Application()",
     "",
     "@Composable",
     s!"fun {app.name}App() \x7b",
     "    val navController = rememberNavController()",
     "",
     s!"    NavHost(navController = navController, startDestination = \"{start}\") \x7b"]
    ++ app.screens.flatMap (fun screen =>
      [s!"        composable(\"{routeName screen}\") \x7b",
       s!"            {screen.name}Screen(onNavigate = \x7b navController.navigate(it) \x7d)",
       "        \x7d"])
    ++
    ["    \x7d",
     "\x7d"]

def modelPath (root : String) (model : Model) : String := s!"{root}/models/{model.name}.kt"

def screenPath (root : String) (screen : Screen) : String :=
  s!"{root}/ui/screens/{screen.name}Screen.kt"

/-- The generated files, in order, as they are written one after the other. -/
def entries (app : Application) : List (String × String) :=
  let package := packageName app
  let root := packageDirectory package
  app.models.map (fun model => (modelPath root model, modelText package model))
    ++ app.screens.map (fun screen => (screenPath root screen, screenText package screen))
    ++ (app.api.toList.map fun api => (s!"{root}/network/ApiClient.kt", clientText package api))
    ++ [(s!"{root}/{app.name}Application.kt", appText package app)]

def files (app : Application) : SourceFiles := Fields.ofList (entries app)

end Blueprint.Sources.Android
