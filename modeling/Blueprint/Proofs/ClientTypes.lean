import Blueprint.Proofs.Reordering
import Blueprint.Proofs.Signatures
import Mathlib.Data.String.Basic

/-!
The types that the client for the web mentions. It imports the models that its endpoints exchange, in
the order of code points, and the index of the models exports them. In an application without errors
every body is one of them, and so is every response that is neither a primitive type nor reported as
undeclared.
-/
set_option autoImplicit false

namespace Blueprint

open Text Sources Validation

/-! ## Imports -/

theorem textLE_iff {text other : String} : textLE text other = true ↔ text ≤ other := by
  rw [textLE, Bool.not_eq_true', decide_eq_false_iff_not, not_lt]

/-- Sorting texts that are distinct puts them into strictly increasing order. -/
theorem pairwise_lt_mergeSort {names : List String} (distinct : names.Nodup) :
    (names.mergeSort textLE).Pairwise (· < ·) := by
  have sorted : (names.mergeSort textLE).Pairwise fun name other => textLE name other = true := by
    apply List.pairwise_mergeSort
    · intro first second third
      simp only [textLE_iff]
      exact le_trans
    · intro first second
      simp only [Bool.or_eq_true, textLE_iff]
      exact le_total first second
  have apart : (names.mergeSort textLE).Nodup := (List.mergeSort_perm names textLE).nodup_iff.mpr distinct
  refine (sorted.and apart).imp ?_
  rintro name other ⟨least, differs⟩
  exact lt_of_le_of_ne (textLE_iff.mp least) differs

namespace Application

variable {app : Application} {endpoints : List Endpoint}

theorem mem_referencedModels {name : String} : name ∈ app.referencedModels endpoints ↔
    DeclaresModel app name ∧ ∃ endpoint ∈ endpoints, name ∈ endpoint.typeNames := by
  simp [referencedModels, DeclaresModel, List.mem_mergeSort]

theorem referencedModels_increasing (app : Application) (endpoints : List Endpoint) :
    (app.referencedModels endpoints).Pairwise (· < ·) := by
  apply pairwise_lt_mergeSort
  exact (nodup_eraseDups _).filter _

end Application

/-! ## Files -/

namespace Sources.Web

/-- The line that imports the models. -/
def importLine (imports : List String) : String :=
  let names := ", ".intercalate imports
  s!"import type \x7b {names} \x7d from '../models';"

/-- The line that exports the type of a model. -/
def exportLine (name : String) : String := s!"export type \x7b {name} \x7d from './{name}';"

theorem exportLine_mem_index (models : List Model) : ∃ content, indexText models = lines content ∧
    ∀ model ∈ models, exportLine model.name ∈ content := by
  refine ⟨_, rfl, fun model member => ?_⟩
  apply List.mem_append_right
  exact List.mem_flatMap.mpr ⟨model, member, .head _⟩

/-- The client imports the models that it is given, if there are any, and has a function for each
endpoint. -/
theorem clientText_lines (api : Api) (imports : List String) : ∃ content,
    clientText api imports = lines content ∧ (imports ≠ [] → importLine imports ∈ content) ∧
      ∀ endpoint ∈ api.endpoints, endpoint.functionLine .web ∈ content := by
  refine ⟨_, rfl, fun some => ?_, fun endpoint member => ?_⟩
  · apply List.mem_append_left
    apply List.mem_append_left
    apply List.mem_append_right
    simp [onlyIf, some, importLine]
  · apply List.mem_append_right
    exact List.mem_flatMap.mpr ⟨endpoint, member, .tail _ (.tail _ (.tail _ (.tail _ (.head _))))⟩

/-- A type without its list marks is a primitive one or imported. -/
def Available (imports : List String) (type : String) : Prop :=
  (∃ primitive : DataType, type = primitive.typeScript) ∨ type ∈ imports

end Sources.Web

namespace Application

variable {app : Application} {api : Api}

/-- The file of the client comes before that of the application only. -/
theorem get?_webClient (hasApi : app.api = some api) :
    (app.sources .web).get? "src/api/client.ts" =
      some (Web.clientText api (app.referencedModels api.endpoints)) := by
  have entries : app.entries .web = (app.models.map (app.modelFile .web) ++
      ("src/models/index.ts", Web.indexText app.models) ::
        app.screens.map fun screen => (Web.screenPath screen, Web.screenText screen)) ++
      ("src/api/client.ts", Web.clientText api (app.referencedModels api.endpoints)) ::
        [("src/App.tsx", Web.appText app)] := by
    simp [web_entries, hasApi]
  exact get?_of_last entries (by simp)

end Application

/-! ## Types of endpoints -/

section Endpoints

variable {app : Application} {api : Api} {endpoint : Endpoint}
  (hasApi : app.api = some api) (member : endpoint ∈ api.endpoints)
include hasApi member

theorem finding_mem_findings {finding : Finding}
    (found : finding ∈ endpointFindings (app.models.map Model.name) endpoint) :
    finding ∈ app.findings := by
  rw [Application.findings, hasApi]
  apply List.mem_append_right
  apply List.mem_append_right
  exact List.mem_flatMap.mpr ⟨endpoint, member, found⟩

/-- A response that is not reported as undeclared has a primitive type or is that of a model. -/
theorem response_declared {response : TypeRef} (isResponse : endpoint.response = some response)
    (unreported : Finding.undeclaredResponse endpoint.id response.name ∉ app.findings) :
    (∃ primitive, response.dataType? = some primitive) ∨ DeclaresModel app response.name := by
  by_contra undeclared
  obtain ⟨unknown, noModel⟩ := not_or.mp undeclared
  apply unreported
  apply finding_mem_findings hasApi member
  apply List.mem_append_right
  have isUnknown : isUnknownType response = true := by
    rw [isUnknownType, Option.isNone_iff_eq_none, Option.eq_none_iff_forall_ne_some]
    exact fun primitive isPrimitive => unknown ⟨primitive, isPrimitive⟩
  have absent : (!(app.models.map Model.name).contains response.name) = true := by
    rw [← Bool.not_eq_false, contains_names_iff]
    exact noModel
  simp only [isResponse, absent, isUnknown, when, Bool.and_self, if_pos, List.mem_singleton]

theorem result_available
    (unreported : ∀ id type, Finding.undeclaredResponse id type ∉ app.findings) :
    Web.resultType endpoint = "void" ∨ ∃ response type, endpoint.response = some response ∧
      Web.Available (app.referencedModels api.endpoints) type ∧
      Web.resultType endpoint = if response.isArray then type ++ "[]" else type := by
  cases isResponse : endpoint.response with
  | none =>
    left
    rw [Web.resultType, isResponse]
  | some response =>
    right
    refine ⟨response, response.baseName DataType.typeScript, rfl, ?_, ?_⟩
    · rw [TypeRef.baseName]
      cases isPrimitive : response.dataType? with
      | some primitive => exact .inl ⟨primitive, rfl⟩
      | none =>
        right
        have declared := response_declared hasApi member isResponse (unreported _ _)
        rw [isPrimitive] at declared
        have isModel := declared.resolve_left (by simp)
        apply Application.mem_referencedModels.mpr
        exact ⟨isModel, endpoint, member, by simp [Endpoint.typeNames, isResponse]⟩
    · rw [Web.resultType, isResponse]
      rfl

theorem body_available (errorless : app.hasErrors = false) (sends : endpoint.sendsBody = true) :
    ∃ type, (Web.arguments endpoint).getLast? = some { name := "body", type } ∧
      (type = "unknown" ∨ type ∈ app.referencedModels api.endpoints) := by
  refine ⟨(filled? endpoint.body).getD "unknown", ?_, ?_⟩
  · rw [Web.arguments, List.getLast?_concat, Web.lastArgument, if_pos sends]
  · cases isBody : endpoint.body with
    | none => exact .inl rfl
    | some model =>
      have valid := (validApi_of_errorless errorless hasApi).endpoints endpoint member
      by_cases empty : model.isEmpty
      · left
        simp [filled?, empty]
      · right
        have used : model ∈ endpoint.typeNames := by simp [Endpoint.typeNames, isBody]
        have imported : model ∈ app.referencedModels api.endpoints :=
          Application.mem_referencedModels.mpr ⟨valid.body model isBody, endpoint, member, used⟩
        simpa [filled?, empty] using imported

end Endpoints

/-- In the client for the web of an application without errors, and without responses reported as
undeclared, every body is unknown or imported, and every response is void, a primitive type or
imported, perhaps a list of it. The imports are in strictly increasing order, each of them is a type
that some endpoint exchanges, and the index of the models exports it. -/
theorem client_types_available {app : Application} {api : Api} (hasApi : app.api = some api)
    (errorless : app.hasErrors = false)
    (unreported : ∀ id type, Finding.undeclaredResponse id type ∉ app.findings) :
    let imports := app.referencedModels api.endpoints
    (∃ content, (app.sources .web).get? "src/api/client.ts" = some (lines content) ∧
        (imports ≠ [] → Web.importLine imports ∈ content) ∧
        ∀ endpoint ∈ api.endpoints, endpoint.functionLine .web ∈ content) ∧
      (∀ endpoint ∈ api.endpoints,
        (endpoint.sendsBody = true →
          ∃ type, (Web.arguments endpoint).getLast? = some { name := "body", type } ∧
            (type = "unknown" ∨ type ∈ imports)) ∧
        (Web.resultType endpoint = "void" ∨ ∃ response type, endpoint.response = some response ∧
          Web.Available imports type ∧
          Web.resultType endpoint = if response.isArray then type ++ "[]" else type)) ∧
      imports.Pairwise (· < ·) ∧
      (∀ name ∈ imports, ∃ endpoint ∈ api.endpoints, name ∈ endpoint.typeNames) ∧
      ∃ index, (app.sources .web).get? "src/models/index.ts" = some (lines index) ∧
        ∀ name ∈ imports, Web.exportLine name ∈ index := by
  intro imports
  refine ⟨?_, fun endpoint member => ⟨?_, ?_⟩, app.referencedModels_increasing _, ?_, ?_⟩
  · obtain ⟨content, text, contains⟩ := Web.clientText_lines api imports
    exact ⟨content, text ▸ Application.get?_webClient hasApi, contains⟩
  · exact body_available hasApi member errorless
  · exact result_available hasApi member unreported
  · intro name imported
    exact (Application.mem_referencedModels.mp imported).2
  · obtain ⟨index, text, exports⟩ := Web.exportLine_mem_index app.models
    refine ⟨index, text ▸ get?_index app, fun name imported => ?_⟩
    obtain ⟨model, member, rfl⟩ := (Application.mem_referencedModels.mp imported).1
    exact exports model member

/-- An endpoint that is sent a horse and answers with the grooms who take it. -/
def takeHorse : Endpoint :=
  { id := "take", path := "/", method := "POST", body := some "Horse"
    response := some { name := "Groom", isArray := true } }

def stableApi : Api := { baseUrl := "u", endpoints := [takeHorse] }

def stable : Application :=
  { name := "A", displayName := "a", appId := "b", version := "1"
    models := [⟨"Horse", [{ name := "id", type := { name := "string" } }]⟩,
      ⟨"Groom", [{ name := "id", type := { name := "string" } }]⟩]
    api := some stableApi }

theorem client_types_available_stable : stable.hasErrors = false ∧
    (∀ id type, Finding.undeclaredResponse id type ∉ stable.findings) ∧
    (stable.referencedModels stableApi.endpoints).Pairwise (· < ·) ∧
    (∃ type, (Web.arguments takeHorse).getLast? = some { name := "body", type } ∧
      (type = "unknown" ∨ type ∈ stable.referencedModels stableApi.endpoints)) ∧
    ∃ index, (stable.sources .web).get? "src/models/index.ts" = some (lines index) ∧
      Web.exportLine "Groom" ∈ index := by
  have errorless : stable.hasErrors = false := by cbv
  have findings : stable.findings = [.noScreens "A", .noNavigation "A"] := by cbv
  have unreported (id type : String) : Finding.undeclaredResponse id type ∉ stable.findings := by
    simp [findings]
  obtain ⟨-, types, increasing, -, index, isIndex, exports⟩ :=
    client_types_available (rfl : stable.api = some stableApi) errorless unreported
  have imported : "Groom" ∈ stable.referencedModels stableApi.endpoints :=
    Application.mem_referencedModels.mpr
      ⟨⟨_, .tail _ (.head _), rfl⟩, takeHorse, .head _, .tail _ (.head _)⟩
  exact ⟨errorless, unreported, increasing, (types takeHorse (.head _)).1 rfl, index, isIndex,
    exports "Groom" imported⟩

end Blueprint
