import Blueprint.Resolution.Directives

namespace Blueprint

/-!
# Guessed paths

The path of a route that is not declared is put together part by part, and a slash goes before a
part unless the path ends in one already. A parameter ends in a brace, so that a slash goes before
every part that follows one; only where the action has no segment is there a slash already. So the
whole path has one form, in which the parts stand in order with one slash between any two.
-/

open Http

namespace Resolution

/-- The path below a base of the segment of an action and of the models that it binds. -/
def formedPath
    (base segment : String) :
    List Binding →
    String
  | [] => base ++ "/" ++ segment
  | first :: others =>
      base ++ "/" ++ (if segment = "" then "" else segment ++ "/") ++ first.parameter ++
        String.join (others.map fun model => "/" ++ model.directoryParameter)

/-- The parts of such a path. Every model has one, with its parameter at the end. -/
def pathParts
    (base segment : String) :
    List Binding →
    List String
  | [] => [base, segment]
  | first :: others =>
      base :: ((if segment = "" then [] else [segment]) ++
        first.parameter :: others.map Binding.directoryParameter)

/-! Slashes. -/

/-- A path that does not end in a slash gets one. -/
theorem slashed_of_getLast?_ne
    {path : String}
    (notSlashed : path.toList.getLast? ≠ some '/') :
    slashed path = path ++ "/" :=
  if_neg notSlashed

theorem slashed_append_slash
    (path : String) :
    slashed (path ++ "/") = path ++ "/" := by
  rw [slashed, if_pos]
  simp

theorem getLast?_append_of_ne_empty
    (path : String)
    {part : String}
    (nonempty : part ≠ "") :
    (path ++ part).toList.getLast? = part.toList.getLast? := by
  have hasLetters : part.toList ≠ [] := fun none => nonempty (String.toList_eq_nil_iff.mp none)
  rw [String.toList_append, List.getLast?_append, List.getLast?_eq_some_getLast hasLetters,
    Option.some_or]

/-- A slash goes after the segment of an action unless there is none. -/
theorem slashed_segment
    (base : String)
    {segment : String}
    (notSlashed : segment.toList.getLast? ≠ some '/') :
    slashed (base ++ "/" ++ segment) =
      base ++ "/" ++ (if segment = "" then "" else segment ++ "/") := by
  by_cases empty : segment = ""
  · rw [if_pos empty, empty, String.append_empty, slashed_append_slash]
  · rw [if_neg empty, ← String.append_assoc]
    apply slashed_of_getLast?_ne
    rwa [getLast?_append_of_ne_empty _ empty]

/-- The segment of an action ends in a slash only if the action does. -/
theorem getLast?_actionSegment_ne
    {action : String}
    (notSlashed : action.toList.getLast? ≠ some '/') :
    (actionSegment action).toList.getLast? ≠ some '/' := by
  unfold actionSegment
  split
  · simp
  · exact notSlashed

/-! Parameters. -/

/-- A parameter ends in a closing brace. -/
theorem exists_parameter_eq_append
    (binding : Binding) :
    ∃ inner, binding.parameter = inner ++ "\x7d" := by
  unfold Binding.parameter
  cases binding.column with
  | none =>
      exact ⟨_, rfl⟩
  | some column =>
      exact ⟨_, rfl⟩

/-- A path with a parameter at its end does not end in a slash. -/
theorem getLast?_append_parameter
    (path : String)
    (binding : Binding) :
    (path ++ binding.parameter).toList.getLast? = some '\x7d' := by
  obtain ⟨inner, isParameter⟩ := exists_parameter_eq_append binding
  rw [isParameter, ← String.append_assoc, String.toList_append]
  exact List.getLast?_concat

theorem getLast?_append_directoryParameter
    (path : String)
    (binding : Binding) :
    (path ++ binding.directoryParameter).toList.getLast? = some '\x7d' := by
  rw [Binding.directoryParameter, ← String.append_assoc]
  exact getLast?_append_parameter _ binding

/-- After a parameter every further model goes below one more slash. -/
theorem foldl_slashed
    {path : String}
    (ends : path.toList.getLast? = some '\x7d')
    (others : List Binding) :
    others.foldl (fun path model => slashed path ++ model.directoryParameter) path =
      path ++ String.join (others.map fun model => "/" ++ model.directoryParameter) := by
  induction others generalizing path with
  | nil =>
      simp
  | cons model rest inductionHypothesis =>
      have oneSlash : slashed path = path ++ "/" :=
        slashed_of_getLast?_ne (by simp [ends])
      rw [List.foldl_cons, oneSlash,
        inductionHypothesis (getLast?_append_directoryParameter _ model)]
      simp [String.append_assoc]

/-- Slashes never meet, so a guessed path is its parts with single ones between them. -/
theorem guessedPath_eq_formedPath
    (controller : String)
    {action : String}
    (notSlashed : action.toList.getLast? ≠ some '/')
    (models : List Binding) :
    guessedPath controller action models =
      formedPath (Naming.delimited "/" (routeBase controller)) (actionSegment action) models := by
  cases models with
  | nil =>
      rfl
  | cons first others =>
      rw [guessedPath, slashed_segment _ (getLast?_actionSegment_ne notSlashed),
        foldl_slashed (getLast?_append_parameter _ first)]
      rfl

/-! Parts. -/

/-- All parts but the first have a slash before them. -/
theorem intercalate_slash_cons
    (part : String)
    (others : List String) :
    "/".intercalate (part :: others) = part ++ String.join (others.map ("/" ++ ·)) := by
  induction others generalizing part with
  | nil =>
      simp
  | cons next rest inductionHypothesis =>
      rw [String.intercalate_cons_cons, inductionHypothesis]
      simp [String.append_assoc]

/-- There is one slash between any two parts that stand next to each other. -/
theorem formedPath_eq_intercalate
    (base segment : String)
    (models : List Binding) :
    formedPath base segment models = "/".intercalate (pathParts base segment models) := by
  cases models with
  | nil =>
      simp [formedPath, pathParts]
  | cons first others =>
      by_cases empty : segment = "" <;>
        simp [formedPath, pathParts, intercalate_slash_cons, empty, String.append_assoc,
          Function.comp_def]

/-- The path of a guessed route has one form, which is that of its parts with slashes between. -/
theorem path_guessedRoute
    (controller : String)
    {action : String}
    (notSlashed : action.toList.getLast? ≠ some '/')
    (models : List Binding) :
    let base := Naming.delimited "/" (routeBase controller)
    let segment := actionSegment action
    (guessedRoute controller action models).path = formedPath base segment models ∧
      (guessedRoute controller action models).path =
        "/".intercalate (pathParts base segment models) := by
  have formed := guessedPath_eq_formedPath controller notSlashed models
  exact ⟨formed, formed.trans (formedPath_eq_intercalate _ _ models)⟩

theorem path_guessedRoute_publish :
    (guessedRoute "PostController" "publish"
        [⟨"Post", "post", none⟩, ⟨"Comment", "comment", some "slug"⟩]).path =
      "post/publish/\x7bpost\x7d/comment/\x7bcomment:slug\x7d" := by
  have notSlashed : "publish".toList.getLast? ≠ some '/' := by
    decide
  have formed := (path_guessedRoute "PostController" notSlashed
    [⟨"Post", "post", none⟩, ⟨"Comment", "comment", some "slug"⟩]).1
  exact formed.trans (by decide +kernel)

end Resolution

end Blueprint
