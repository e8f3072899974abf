import Blueprint.Proofs.Lines
import Blueprint.Proofs.Signatures

/-!
The bindings of a function for Android: an annotation with a name for each placeholder of its URL.
The names are the texts between the braces of the URL without the blanks around them, so a binding
finds its placeholder in the URL as it stands there exactly if no blank is next to a brace.
-/
set_option autoImplicit false

namespace Blueprint

open Text Sources

/-! ## Reading annotations -/

/-- The names in the annotations `@Path(".."` of a text, in order. -/
def annotatedNames : List Char → List (List Char)
  | [] => []
  | c :: rest => (between? "@Path(\"" '"' (c :: rest)).toList ++ annotatedNames rest

theorem annotatedNames_free {text : List Char} (free : '@' ∉ text) (rest : List Char) :
    annotatedNames (text ++ rest) = annotatedNames rest := by
  induction text with
  | nil => rfl
  | cons c text ih =>
    obtain ⟨other, free⟩ := List.ne_and_not_mem_of_not_mem_cons free
    have nothing : between? "@Path(\"" '"' (c :: (text ++ rest)) = none := by
      simp [between?, afterLiteral?, List.isPrefixOf?, other]
    rw [List.cons_append, annotatedNames, nothing, ih free]
    rfl

theorem annotatedNames_annotation {name : List Char} (closed : '"' ∉ name) (free : '@' ∉ name)
    (rest : List Char) :
    annotatedNames ("@Path(\"".toList ++ (name ++ '"' :: rest)) = name :: annotatedNames rest := by
  have found := between?_append "@Path(\"" closed rest
  have others : '@' ∉ "Path(\"".toList ++ (name ++ ['"']) := by
    simpa using free
  have behind := annotatedNames_free others rest
  rw [List.append_assoc, List.append_assoc, List.singleton_append] at behind
  have read : annotatedNames ("@Path(\"".toList ++ (name ++ '"' :: rest)) =
      (between? "@Path(\"" '"' ("@Path(\"".toList ++ (name ++ '"' :: rest))).toList ++
        annotatedNames ("Path(\"".toList ++ (name ++ '"' :: rest)) := rfl
  rw [read, found, behind]
  rfl

namespace Sources.Android

/-- The names that an argument of a function is bound by. -/
def Argument.bound : Argument → List (List Char)
  | .placeholder name => [name.toList]
  | .body => []

theorem annotatedNames_argument {argument : Argument} (isRun : IsRun argument.name)
    (rest : List Char) :
    annotatedNames (argument.text.toList ++ rest) = argument.bound ++ annotatedNames rest := by
  cases argument with
  | placeholder name =>
    have closed : '"' ∉ name.toList := isRun.not_mem (by decide)
    have free : '@' ∉ name.toList := isRun.not_mem (by decide)
    have text : (Argument.placeholder name).text.toList ++ rest = "@Path(\"".toList ++
        (name.toList ++ '"' :: ((") ".toList ++ (name.toList ++ ": String".toList)) ++ rest)) := by
      simp [Argument.text, toString]
    have others : '@' ∉ ") ".toList ++ (name.toList ++ ": String".toList) := by
      simpa using free
    rw [text, annotatedNames_annotation closed free, annotatedNames_free others]
    rfl
  | body => rfl

/-- What is read off a signature are the names that its arguments are bound by. -/
theorem annotatedNames_intercalate {arguments : List Argument}
    (areRuns : ∀ argument ∈ arguments, IsRun argument.name) :
    annotatedNames (", ".intercalate (arguments.map Argument.text)).toList =
      arguments.flatMap Argument.bound := by
  induction arguments with
  | nil => rfl
  | cons argument arguments ih =>
    obtain ⟨isRun, areRuns⟩ := List.forall_mem_cons.mp areRuns
    cases arguments with
    | nil =>
      have alone := annotatedNames_argument isRun []
      rw [List.append_nil] at alone
      simpa [annotatedNames] using alone
    | cons other others =>
      have later := ih areRuns
      have comma : annotatedNames (", ".toList ++ (", ".intercalate
          ((other :: others).map Argument.text)).toList) = _ :=
        annotatedNames_free (by decide) _
      rw [List.map_cons, List.map_cons, String.intercalate_cons_cons, String.toList_append,
        String.toList_append, List.append_assoc, annotatedNames_argument isRun, ← List.map_cons,
        comma, later]
      rfl

theorem flatMap_bound (endpoint : Endpoint) : (arguments endpoint).flatMap Argument.bound =
    (placeholders endpoint.path.toList).map trimChars := by
  have placeholder : (endpoint.pathParameters.map Argument.placeholder).flatMap Argument.bound =
      (placeholders endpoint.path.toList).map trimChars := by
    rw [Endpoint.pathParameters, placeholderNames, List.map_map, List.flatMap_map,
      List.map_eq_flatMap]
    simp [Argument.bound]
  rw [arguments, List.flatMap_append, placeholder]
  cases filled? endpoint.body <;> simp [Argument.bound]

end Sources.Android

/-! ## URLs -/

/-- Slashes in front of a path hold no placeholders. -/
theorem placeholders_dropLeading (text : List Char) :
    placeholders (text.dropWhile (· == '/')) = placeholders text := by
  induction text with
  | nil => rfl
  | cons c text ih =>
    rw [List.dropWhile_cons]
    split
    · next slash =>
      rw [ih, placeholders.eq_def (c :: text), beq_iff_eq.mp slash]
      rfl
    · rfl

/-- The line in front of a function for Android, with its method and its URL. -/
def Endpoint.methodLine (endpoint : Endpoint) : String :=
  s!"    @{endpoint.method}(\"{Android.relativePath endpoint}\")"

theorem Android.clientText_endpoint {api : Api} {endpoint : Endpoint}
    (member : endpoint ∈ api.endpoints) (package : String) : ∃ before after,
      Android.clientText package api =
        lines (before ++ [endpoint.methodLine, endpoint.functionLine .android] ++ after) := by
  obtain ⟨earlier, later, whole⟩ := List.append_of_mem member
  obtain ⟨head, tail, text⟩ : ∃ head tail, Android.clientText package api =
      lines (head ++ api.endpoints.flatMap Android.endpointLines ++ tail) := ⟨_, _, rfl⟩
  refine ⟨head ++ earlier.flatMap Android.endpointLines,
    later.flatMap Android.endpointLines ++ tail, ?_⟩
  rw [text, whole, List.flatMap_append, List.flatMap_cons]
  simp only [List.append_assoc]
  rfl

/-- The functions for Android of an application without errors are bound by the names of the
placeholders: the texts between the braces of their URLs, without the blanks around them. They are
these texts as they stand in the URL exactly if no text between braces begins or ends with a blank. -/
theorem bindings_match_iff {source : String} {strategy : Strategy} {compilation : Compilation}
    (compiled : compile source strategy = .ok compilation)
    (errorless : compilation.application.hasErrors = false) {api : Api}
    (hasApi : compilation.application.api = some api) {endpoint : Endpoint}
    (member : endpoint ∈ api.endpoints) :
    let app := compilation.application
    let url := (Android.relativePath endpoint).toList
    let bound := annotatedNames (endpoint.signature .android).toList
    (∃ before after, (app.sources .android).get? (pathOf (app.filing .android).client) =
        some (lines (before ++ [endpoint.methodLine, endpoint.functionLine .android] ++ after))) ∧
      bound = (placeholders url).map trimChars ∧
      (bound = placeholders url ↔ ∀ inside, HasPlaceholder inside url → Begins inside ∧ Ends inside) ∧
      ((∀ inside, HasPlaceholder inside url → Begins inside ∧ Ends inside) →
        ∀ name ∈ bound, HasPlaceholder name url) := by
  intro app url bound
  have named : app.Named := compile_named compiled
  have signed := signed_of_errorless compiled errorless hasApi member
  have texts : placeholders url = placeholders endpoint.path.toList := by
    have same := placeholders_dropLeading endpoint.path.toList
    rwa [← String.toList_ofList (l := endpoint.path.toList.dropWhile _)] at same
  have areRuns : ∀ argument ∈ Android.arguments endpoint, IsRun argument.name := by
    intro argument among
    rcases List.mem_append.mp among with isPlaceholder | isBody
    · obtain ⟨name, isName, rfl⟩ := List.mem_map.mp isPlaceholder
      exact signed.placeholders name isName
    · obtain ⟨_, _, rfl⟩ := Option.map_eq_some_iff.mp (Option.mem_toList.mp isBody)
      exact isRun_body
  have read : bound = (placeholders url).map trimChars := by
    rw [texts, ← Android.flatMap_bound]
    exact Android.annotatedNames_intercalate areRuns
  have same : bound = placeholders url ↔
      ∀ inside, HasPlaceholder inside url → Begins inside ∧ Ends inside := by
    have own : (placeholders url).map id = placeholders url := List.map_id _
    rw [read]
    nth_rewrite 2 [← own]
    rw [List.map_inj_left]
    simp only [id, trimChars_eq_self_iff, mem_placeholders]
  refine ⟨?_, read, same, fun trimmed name isBound => ?_⟩
  · obtain ⟨before, after, text⟩ := Android.clientText_endpoint member (Android.packageName app)
    exact ⟨before, after, text ▸ Application.get?_client named hasApi .android⟩
  · rw [same.mpr trimmed] at isBound
    exact mem_placeholders.mp isBound

theorem bindings_match_iff_ride : ferry.hasErrors = false ∧
    annotatedNames (ride.signature .android).toList = ["id".toList, "id".toList] ∧
    ∀ name ∈ annotatedNames (ride.signature .android).toList,
      HasPlaceholder name (Android.relativePath ride).toList := by
  have errorless : ferry.hasErrors = false := by cbv
  have read := bindings_match_iff compile_rideSource errorless rfl (List.mem_singleton_self ride)
  have texts : placeholders (Android.relativePath ride).toList = ["id".toList, "id".toList] := by
    cbv
  refine ⟨errorless, ?_, read.2.2.2 fun inside has => ?_⟩
  · rw [read.2.1, texts]
    decide
  · rw [← mem_placeholders, texts] at has
    obtain rfl : inside = "id".toList := by simpa using has
    exact ⟨begins_cons (by decide) _, ends_concat ['i'] (by decide)⟩

/-- A placeholder with blanks inside its braces passes the checks; its function is bound by a name
that no placeholder of the URL has. -/
theorem padded_placeholder_unbound : ∃ compilation api endpoint,
    compile doorSource .grammar = .ok compilation ∧
      compilation.application.hasErrors = false ∧ compilation.application.api = some api ∧
      endpoint ∈ api.endpoints ∧
      annotatedNames (endpoint.signature .android).toList ≠
        placeholders (Android.relativePath endpoint).toList ∧
      ∃ name ∈ annotatedNames (endpoint.signature .android).toList,
        ¬ HasPlaceholder name (Android.relativePath endpoint).toList := by
  have bound : annotatedNames (door.signature .android).toList = ["hall".toList, "door".toList] := by
    cbv
  have texts : placeholders (Android.relativePath door).toList =
      ["hall".toList, " door ".toList] := by
    cbv
  refine ⟨_, _, door, compile_doorSource, by cbv, rfl, List.mem_singleton_self door, ?_, ?_⟩
  · rw [bound, texts]
    decide
  · refine ⟨"door".toList, by rw [bound]; decide, ?_⟩
    rw [← mem_placeholders, texts]
    decide

end Blueprint
