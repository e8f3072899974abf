import Blueprint.Proofs.PathArguments
import Blueprint.Proofs.SourceFiles

/-!
The arguments of the functions that the clients have for endpoints, as they are read off the
signatures. An application without errors has a word for each of them: the placeholders of the path,
in order, and what a platform adds for the payload. Words may recur among them all the same: the
checks ask for a parameter to each placeholder, but neither that a placeholder stand in the path only
once nor that its name differ from that of the payload.
-/
set_option autoImplicit false

namespace Blueprint

open Text Sources

/-! ## Reading a signature -/

/-- The names of arguments in a text behind the characters of a word. In each of the languages a name
stands before a colon, perhaps with a question mark between. -/
def namesBehind (word : List Char) : List Char → List String
  | [] => []
  | c :: rest =>
    if c == ':' then String.ofList word :: namesBehind [] rest
    else if isWordChar c then namesBehind (word ++ [c]) rest
    else if c == '?' then namesBehind word rest
    else namesBehind [] rest

/-- The names of the arguments that a signature declares. -/
def argumentNames (signature : String) : List String := namesBehind [] signature.toList

theorem namesBehind_free {text : List Char} (free : ':' ∉ text) (word : List Char) :
    namesBehind word text = [] := by
  induction text generalizing word with
  | nil => rfl
  | cons c rest ih =>
    obtain ⟨noColon, free⟩ := List.ne_and_not_mem_of_not_mem_cons free
    rw [namesBehind, if_neg (by simpa using noColon.symm)]
    split
    · exact ih free _
    · split <;> exact ih free _

theorem namesBehind_blank {text : List Char} (free : ':' ∉ text) (word rest : List Char) :
    namesBehind word (text ++ ' ' :: rest) = namesBehind [] rest := by
  induction text generalizing word with
  | nil => simp [namesBehind, show isWordChar ' ' = false by decide]
  | cons c text ih =>
    obtain ⟨noColon, free⟩ := List.ne_and_not_mem_of_not_mem_cons free
    rw [List.cons_append, namesBehind, if_neg (by simpa using noColon.symm)]
    split
    · exact ih free _
    · split <;> exact ih free _

theorem namesBehind_letters {letters : List Char} (isRun : ∀ c ∈ letters, isWordChar c = true)
    (word rest : List Char) :
    namesBehind word (letters ++ rest) = namesBehind (word ++ letters) rest := by
  induction letters generalizing word with
  | nil => simp
  | cons c letters ih =>
    obtain ⟨isLetter, isRun⟩ := List.forall_mem_cons.mp isRun
    have noColon : c ≠ ':' := fun same => absurd isLetter (by rw [same]; decide)
    rw [List.cons_append, namesBehind, if_neg (by simpa using noColon), if_pos isLetter, ih isRun,
      List.append_assoc, List.singleton_append]

/-- A text declares an argument: its name with a colon and a type, perhaps behind a label. -/
inductive Declares (name : String) : List Char → Prop where
  | plain {mark type : List Char} (isRun : ∀ c ∈ name.toList, isWordChar c = true)
    (isMark : mark = [] ∨ mark = ['?']) (free : ':' ∉ type) :
    Declares name (name.toList ++ (mark ++ ':' :: type))
  | labelled {label text : List Char} (free : ':' ∉ label) (declares : Declares name text) :
    Declares name (label ++ ' ' :: text)

namespace Declares

variable {name : String} {text : List Char}

/-- Behind the name of a declared argument only a type without colons is left. -/
theorem read (declares : Declares name text) : ∃ type, ':' ∉ type ∧ ∀ rest,
    namesBehind [] (text ++ rest) = name :: namesBehind [] (type ++ rest) := by
  induction declares with
  | @plain mark type isRun isMark free =>
    refine ⟨type, free, fun rest => ?_⟩
    rw [List.append_assoc, namesBehind_letters isRun, List.nil_append]
    rcases isMark with rfl | rfl
    · simp [namesBehind]
    · simp [namesBehind, show isWordChar '?' = false by decide]
  | @labelled label text free _ ih =>
    obtain ⟨type, typeFree, reads⟩ := ih
    refine ⟨type, typeFree, fun rest => ?_⟩
    rw [List.append_assoc, List.cons_append, namesBehind_blank free, reads]

theorem alone (declares : Declares name text) : namesBehind [] text = [name] := by
  obtain ⟨type, free, reads⟩ := declares.read
  have whole := reads []
  rwa [List.append_nil, List.append_nil, namesBehind_free free] at whole

theorem followed (declares : Declares name text) (rest : List Char) :
    namesBehind [] (text ++ ", ".toList ++ rest) = name :: namesBehind [] rest := by
  obtain ⟨type, free, reads⟩ := declares.read
  have free : ':' ∉ type ++ [','] := by simpa using free
  have blank := namesBehind_blank free [] rest
  rw [List.append_assoc, reads, ← blank, List.append_assoc]
  rfl

end Declares

/-- From declarations with commas between them their names are read. -/
theorem argumentNames_intercalate {names texts : List String}
    (declare : List.Forall₂ (fun name text => Declares name text.toList) names texts) :
    argumentNames (", ".intercalate texts) = names := by
  induction declare with
  | nil => rfl
  | @cons name text names texts first later ih =>
    -- Only a declaration that another one follows has a comma behind it.
    cases later with
    | nil => exact first.alone
    | cons _ _ =>
      rw [argumentNames, String.intercalate_cons_cons, String.toList_append, String.toList_append,
        first.followed, ← argumentNames, ih]

/-! ## Signatures of endpoints -/

namespace Endpoint

variable {endpoint : Endpoint}

/-- The texts of the arguments of an endpoint's function. -/
def argumentTexts (endpoint : Endpoint) : Platform → List String
  | .web => (Web.arguments endpoint).map Web.Argument.text
  | .ios => endpoint.pathParameters.map (fun name => s!"{name}: String") ++ ["body: Data? = nil"]
  | .android => (Android.arguments endpoint).map Android.Argument.text

def signature (endpoint : Endpoint) (platform : Platform) : String :=
  ", ".intercalate (endpoint.argumentTexts platform)

/-- The line that an endpoint's function begins with. -/
def functionLine (endpoint : Endpoint) : Platform → String
  | .web =>
    let result := Web.resultType endpoint
    s!"export async function {endpoint.id}({endpoint.signature .web}): Promise<{result}> \x7b"
  | .ios => s!"    func {endpoint.id}({endpoint.signature .ios}) async throws -> Data \x7b"
  | .android => s!"    suspend fun {endpoint.id}({endpoint.signature .android}): ResponseBody"

/-- The name of the argument for the payload: the body, or the query where the web sends no body. -/
def payloadName? (endpoint : Endpoint) : Platform → Option String
  | .web => some (if endpoint.sendsBody then "body" else "query")
  | .ios => some "body"
  | .android => endpoint.body.map fun _ => "body"

/-- The arguments of an endpoint's function by name. -/
def argumentNames (endpoint : Endpoint) (platform : Platform) : List String :=
  endpoint.pathParameters ++ (endpoint.payloadName? platform).toList

theorem argumentNames_nodup {platform : Platform} : (endpoint.argumentNames platform).Nodup ↔
    endpoint.pathParameters.Nodup ∧
      ∀ name ∈ endpoint.payloadName? platform, name ∉ endpoint.pathParameters := by
  unfold argumentNames
  cases endpoint.payloadName? platform with
  | none => simp
  | some payload =>
    rw [Option.toList_some, List.nodup_append_comm, List.singleton_append, List.nodup_cons,
      and_comm]
    simp

/-- An endpoint of which the placeholders and the body have names. -/
structure Signed (endpoint : Endpoint) : Prop where
  placeholders : ∀ name ∈ endpoint.pathParameters, IsRun name
  body : ∀ model ∈ endpoint.body, IsRun model

end Endpoint

section Arguments

variable {endpoint : Endpoint}

theorem IsRun.free {name : String} (isRun : IsRun name) : ':' ∉ name.toList :=
  isRun.not_mem (by decide)

theorem filled?_of_isRun {text : String} (isRun : IsRun text) : filled? (some text) = some text := by
  have filled : text.isEmpty = false := by
    rw [String.isEmpty_eq_false_iff]
    exact fun empty => isRun.1 (by rw [empty]; rfl)
  rw [filled?, if_neg (by simp [filled])]

theorem Endpoint.Signed.filled_body (signed : endpoint.Signed) :
    filled? endpoint.body = endpoint.body := by
  cases isBody : endpoint.body with
  | none => rfl
  | some model => exact filled?_of_isRun (signed.body model isBody)

theorem isRun_body : IsRun "body" := ⟨by decide, List.all_eq_true.mp (by decide)⟩

theorem isRun_query : IsRun "query" := ⟨by decide, List.all_eq_true.mp (by decide)⟩

namespace Sources

theorem Web.Argument.declares (argument : Web.Argument) (isRun : IsRun argument.name)
    (free : ':' ∉ argument.type.toList) : Declares argument.name argument.text.toList := by
  have text : argument.text.toList = argument.name.toList ++
      ((Web.optionMark (!argument.optional)).toList ++ ':' :: (' ' :: argument.type.toList)) := by
    simp [Web.Argument.text, toString]
  rw [text]
  refine .plain isRun.2 ?_ (by simpa using free)
  cases argument.optional with
  | true => exact .inr rfl
  | false => exact .inl rfl

theorem Web.placeholderType_free (parameters : List Parameter) (name : String) :
    ':' ∉ (Web.placeholderType parameters name).toList := by
  unfold Web.placeholderType
  split
  · decide
  · split <;> decide

theorem Web.lastArgument_declares (signed : endpoint.Signed) :
    Declares (Web.lastArgument endpoint).name (Web.lastArgument endpoint).text.toList := by
  unfold Web.lastArgument
  split
  · refine Argument.declares _ isRun_body ?_
    rw [signed.filled_body]
    cases isBody : endpoint.body with
    | none => decide
    | some model => exact (signed.body model isBody).free
  · exact Argument.declares _ isRun_query (by simp)

theorem Android.Argument.declares (argument : Android.Argument) (isRun : IsRun argument.name) :
    Declares argument.name argument.text.toList := by
  cases argument with
  | placeholder name =>
    have text : (Argument.placeholder name).text.toList = ("@Path(\"" ++ name ++ "\")").toList ++
        ' ' :: (name.toList ++ ([] ++ ':' :: " String".toList)) := by
      simp [Argument.text, toString]
    rw [text]
    have free : ':' ∉ name.toList := isRun.free
    exact .labelled (by simpa using free) (.plain isRun.2 (.inl rfl) (by decide))
  | body =>
    have body : Declares "body" ("body".toList ++ ([] ++ ':' :: " RequestBody".toList)) :=
      .plain isRun.2 (.inl rfl) (by decide)
    have free : ':' ∉ "@Body".toList := by decide
    exact .labelled free body

end Sources

theorem declares_each {names : List String} {text : String → String}
    (each : ∀ name ∈ names, Declares name (text name).toList) :
    List.Forall₂ (fun name text => Declares name text.toList) names (names.map text) :=
  List.forall₂_map_right_iff.mpr (List.forall₂_same.mpr each)

/-- The arguments of an endpoint's function declare the names that it has arguments for. -/
theorem Endpoint.Signed.declare (signed : endpoint.Signed) (platform : Platform) :
    List.Forall₂ (fun name text => Declares name text.toList) (endpoint.argumentNames platform)
      (endpoint.argumentTexts platform) := by
  cases platform with
  | web =>
    have name : (Web.lastArgument endpoint).name =
        if endpoint.sendsBody then "body" else "query" := by
      unfold Web.lastArgument
      split <;> rfl
    rw [argumentNames, argumentTexts, Web.arguments, List.map_append, List.map_map]
    refine List.rel_append (declares_each fun name member => ?_) (.cons ?_ .nil)
    · exact Web.Argument.declares ⟨name, false, _⟩ (signed.placeholders name member)
        (Web.placeholderType_free endpoint.parameters name)
    · rw [← name]
      exact Web.lastArgument_declares signed
  | ios =>
    refine List.rel_append (declares_each fun name member => ?_) (.cons ?_ .nil)
    · have text : s!"{name}: String".toList = name.toList ++ ([] ++ ':' :: " String".toList) := by
        simp [toString]
      rw [text]
      exact .plain (signed.placeholders name member).2 (.inl rfl) (by decide)
    · have body : Declares "body" ("body".toList ++ ([] ++ ':' :: " Data? = nil".toList)) :=
        .plain isRun_body.2 (.inl rfl) (by decide)
      exact body
  | android =>
    rw [argumentNames, argumentTexts, Android.arguments, List.map_append, List.map_map,
      signed.filled_body]
    refine List.rel_append (declares_each fun name member => ?_) ?_
    · exact Android.Argument.declares (.placeholder name) (signed.placeholders name member)
    · rw [payloadName?]
      cases endpoint.body with
      | none => exact .nil
      | some model => exact .cons (Android.Argument.declares .body isRun_body) .nil

end Arguments

/-! ## Clients -/

namespace Application

variable {app : Application} {api : Api}

/-- The client of an application for an interface. -/
def clientText (app : Application) : Platform → Api → String
  | .web, api => Web.clientText api (app.referencedModels api.endpoints)
  | .ios, api => Ios.clientText api
  | .android, api => Android.clientText (Android.packageName app) api

/-- The file of the client comes before the last one, whose place is another. -/
theorem get?_client (named : app.Named) (hasApi : app.api = some api) (platform : Platform) :
    (app.sources platform).get? (pathOf (app.filing platform).client) =
      some (app.clientText platform api) := by
  obtain ⟨before, path, main, whole⟩ : ∃ before path main, app.entries platform =
      before ++ [(path, app.clientText platform api)] ++ [main] := by
    cases platform with
    | web => exact ⟨_, _, _, by rw [entries, Web.entries, hasApi]; rfl⟩
    | ios => exact ⟨_, _, _, by rw [entries, Ios.entries, hasApi]; rfl⟩
    | android => exact ⟨_, _, _, by rw [entries, Android.entries, hasApi]; rfl⟩
  -- Paths and places are given in the same order, so the last two of each belong together.
  have paths := paths_eq named platform
  rw [whole, Filing.places, Filing.otherPlaces, hasApi, ← List.append_assoc, ← List.append_assoc]
    at paths
  simp only [List.map_append] at paths
  obtain ⟨front, isMain⟩ := List.append_inj' paths rfl
  obtain rfl : path = pathOf (app.filing platform).client := by
    simpa using (List.append_inj' front rfl).2
  rw [List.append_assoc, List.singleton_append] at whole
  refine get?_of_last whole ?_
  rw [isMain, List.map_singleton, List.mem_singleton]
  have client : (app.filing platform).client ∈ (app.filing platform).otherPlaces app :=
    List.mem_append_left _ (List.mem_append_right _ (by simp [hasApi]))
  have last : (app.filing platform).main ∈ (app.filing platform).otherPlaces app :=
    List.mem_append_right _ (List.mem_singleton_self _)
  exact fun same => (app.filing_apart platform).ends ((filing_leadsDown named platform).injective
    named (List.mem_append_right _ client) (List.mem_append_right _ last) same)

/-- Among the lines of the client each endpoint's function begins with its line. -/
theorem functionLine_mem_client (app : Application) {endpoint : Endpoint}
    (member : endpoint ∈ api.endpoints) (platform : Platform) :
    ∃ content, app.clientText platform api = lines content ∧
      endpoint.functionLine platform ∈ content := by
  cases platform with
  | web =>
    refine ⟨_, rfl, List.mem_append_right _ (List.mem_flatMap.mpr ⟨endpoint, member, ?_⟩)⟩
    exact .tail _ (.tail _ (.tail _ (.tail _ (.head _))))
  | ios =>
    refine ⟨_, rfl, List.mem_append_left _ (List.mem_append_right _
      (List.mem_flatMap.mpr ⟨endpoint, member, ?_⟩))⟩
    exact .tail _ (.tail _ (.head _))
  | android =>
    refine ⟨_, rfl, List.mem_append_left _ (List.mem_append_right _
      (List.mem_flatMap.mpr ⟨endpoint, member, ?_⟩))⟩
    exact .tail _ (.head _)

end Application

/-- What compiles without errors has words for the placeholders and the bodies of its endpoints. -/
theorem signed_of_errorless {source : String} {strategy : Strategy} {compilation : Compilation}
    (compiled : compile source strategy = .ok compilation)
    (errorless : compilation.application.hasErrors = false) {api : Api}
    (hasApi : compilation.application.api = some api) {endpoint : Endpoint}
    (member : endpoint ∈ api.endpoints) : endpoint.Signed := by
  refine ⟨placeholderNames_isRun errorless hasApi (compile_api_named compiled hasApi) member, ?_⟩
  intro name isBody
  have valid := (validApi_of_errorless errorless hasApi).endpoints endpoint member
  obtain ⟨model, declared, rfl⟩ := valid.body name isBody
  exact (compile_named compiled).models declared

/-- The functions generated for the endpoints of an application without errors have the placeholders
of their paths for arguments, in order, and the argument for the payload. So they have distinct
arguments exactly if no placeholder occurs twice in the path and none is named like the payload. -/
theorem arguments_distinct_iff {source : String} {strategy : Strategy} {compilation : Compilation}
    (compiled : compile source strategy = .ok compilation)
    (errorless : compilation.application.hasErrors = false) {api : Api}
    (hasApi : compilation.application.api = some api) {endpoint : Endpoint}
    (member : endpoint ∈ api.endpoints) (platform : Platform) :
    let app := compilation.application
    let names := argumentNames (endpoint.signature platform)
    (∃ content, (app.sources platform).get? (pathOf (app.filing platform).client) =
        some (lines content) ∧ endpoint.functionLine platform ∈ content) ∧
      names = endpoint.pathParameters ++ (endpoint.payloadName? platform).toList ∧
      (names.Nodup ↔ endpoint.pathParameters.Nodup ∧
        ∀ name ∈ endpoint.payloadName? platform, name ∉ endpoint.pathParameters) := by
  intro app names
  have signed := signed_of_errorless compiled errorless hasApi member
  have read : names = endpoint.argumentNames platform :=
    argumentNames_intercalate (signed.declare platform)
  refine ⟨?_, read, read ▸ Endpoint.argumentNames_nodup⟩
  obtain ⟨content, isClient, among⟩ := app.functionLine_mem_client member platform
  exact ⟨content, isClient ▸ Application.get?_client (compile_named compiled) hasApi platform, among⟩

theorem arguments_distinct_iff_door : house.hasErrors = false ∧
    argumentNames (door.signature .android) = ["hall", "door"] ∧
    (argumentNames (door.signature .web)).Nodup := by
  have errorless : house.hasErrors = false := by cbv
  have read (platform : Platform) := arguments_distinct_iff compile_doorSource errorless rfl
    (List.mem_singleton_self door) platform
  have placeholders : door.pathParameters = ["hall", "door"] := by cbv
  refine ⟨errorless, (read .android).2.1.trans ?_, (read .web).2.2.mpr ?_⟩
  · rw [placeholders]
    rfl
  · rw [placeholders]
    decide

/-- An endpoint with the same placeholder twice. -/
def rideSource : String :=
  "app A \x7bname: 'a' id: 'b' version: '1'\x7d api \x7bbaseUrl: 'u' endpoint ride " ++
    "\x7bpath: '/\x7bid\x7d/\x7bid\x7d' method: GET params: [\x7bname: id\x7d]\x7d\x7d"

def ride : Endpoint :=
  { id := "ride", path := "/\x7bid\x7d/\x7bid\x7d", method := "GET"
    parameters := [{ name := "id", type := { name := "string" } }] }

def ferry : Application :=
  { name := "A", displayName := "a", appId := "b", version := "1"
    api := some { baseUrl := "u", endpoints := [ride] } }

set_option maxRecDepth 2000 in
theorem compile_rideSource : compile rideSource .grammar =
    .ok ⟨ferry, [], Extraction.ofSource rideSource⟩ := by
  have parsed : Document.parse rideSource = .ok ⟨some {
      header := some { name := "A", displayName := "a", appId := "b", version := "1" }
      api := some { baseUrl := "u", endpoints := [ride] } }, []⟩ := by
    cbv
  exact compile_of_header parsed rfl rfl .grammar

/-- It passes the checks, and its functions have two arguments of one name on each platform. -/
theorem repeated_placeholder_repeats_argument : ∃ compilation api endpoint,
    compile rideSource .grammar = .ok compilation ∧
      compilation.application.hasErrors = false ∧ compilation.application.api = some api ∧
      endpoint ∈ api.endpoints ∧
      ∀ platform, ¬ (argumentNames (endpoint.signature platform)).Nodup := by
  refine ⟨_, _, ride, compile_rideSource, by cbv, rfl, List.mem_singleton_self ride, ?_⟩
  intro platform
  cases platform with
  | web =>
    have names : argumentNames (ride.signature .web) = ["id", "id", "query"] := by cbv
    rw [names]
    decide
  | ios =>
    have names : argumentNames (ride.signature .ios) = ["id", "id", "body"] := by cbv
    rw [names]
    decide
  | android =>
    have names : argumentNames (ride.signature .android) = ["id", "id"] := by cbv
    rw [names]
    decide

end Blueprint
