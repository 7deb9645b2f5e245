import DecimalMachine.Proofs.Text.Numerals
import DecimalMachine.Text.Path

/-!
# Normal forms of paths

A path that is put together from slashes at its front and names that lead somewhere starts with just
these slashes and leads through just these names. So the normal form of a path is its own normal form.
-/

namespace DecimalMachine.Text

/-- A name that leads somewhere, and is only one. -/
structure IsStep (name : String) : Prop where
  given : name ≠ ""
  moving : name ≠ "."
  whole : '/' ∉ name.toList

/-- The slashes with which a path may start. -/
def IsRoot (root : String) : Prop := root = "" ∨ root = "/" ∨ root = "//"

private theorem isStep_of_mem_pathSteps {path name : String} (h : name ∈ pathSteps path) :
    IsStep name := by
  rw [pathSteps, List.mem_filter, decide_eq_true_iff] at h
  obtain ⟨inside, given, moving⟩ := h
  rw [pathNames, List.mem_map] at inside
  obtain ⟨cs, piece, rfl⟩ := inside
  refine ⟨given, moving, ?_⟩
  rw [String.toList_ofList]
  exact not_mem_of_mem_splitOn piece

private theorem isRoot_pathRoot (path : String) : IsRoot (pathRoot path) := by
  unfold pathRoot
  split
  · exact .inr (.inl rfl)
  · exact .inr (.inr rfl)
  · exact .inr (.inl rfl)
  · exact .inl rfl

private theorem pathNames_slash (path : String) :
    pathNames ("/" ++ path) = "" :: pathNames path := by
  have chars : ("/" ++ path).toList = '/' :: path.toList := String.toList_append
  rw [pathNames, chars, List.splitOn_cons_eq_if_modifyHead, if_pos (beq_self_eq_true '/')]
  rfl

private theorem pathSteps_slash (path : String) : pathSteps ("/" ++ path) = pathSteps path := by
  rw [pathSteps, pathNames_slash, List.filter_cons_of_neg (by decide)]
  rfl

variable {root : String} {names : List String}

private theorem pathNames_joined (steps : ∀ n ∈ names, IsStep n) (some_names : names ≠ []) :
    pathNames ("/".intercalate names) = names := by
  have whole : ∀ cs ∈ names.map String.toList, '/' ∉ cs := by
    intro cs h
    obtain ⟨n, hn, rfl⟩ := List.mem_map.mp h
    exact (steps n hn).whole
  have nonempty : names.map String.toList ≠ [] := mt List.map_eq_nil_iff.mp some_names
  have split := List.splitOn_intercalate '/' whole nonempty
  rw [pathNames, String.toList_intercalate]
  show (List.splitOn '/' (['/'].intercalate _)).map _ = _
  rw [split, List.map_map]
  exact List.map_id'' (fun n ↦ String.ofList_toList) names

private theorem pathSteps_joined (steps : ∀ n ∈ names, IsStep n) :
    pathSteps ("/".intercalate names) = names := by
  by_cases none : names = []
  · rw [none]
    decide
  · rw [pathSteps, pathNames_joined steps none, List.filter_eq_self]
    intro n h
    exact decide_eq_true ⟨(steps n h).given, (steps n h).moving⟩

private theorem joined_ne_slash (steps : ∀ n ∈ names, IsStep n) (path : String) :
    "/".intercalate names ≠ "/" ++ path := by
  intro same
  by_cases none : names = []
  · rw [none] at same
    have chars := congrArg String.toList same
    rw [String.toList_append] at chars
    cases chars
  · have first := pathNames_joined steps none
    rw [same, pathNames_slash] at first
    rw [← first] at steps
    exact (steps "" List.mem_cons_self).given rfl

/-- A path put together from names that lead somewhere leads through just these. -/
theorem pathSteps_pathOf (start : IsRoot root) (steps : ∀ n ∈ names, IsStep n) :
    pathSteps (pathOf root names) = names := by
  have given : pathSteps (root ++ "/".intercalate names) = names := by
    rcases start with rfl | rfl | rfl
    · rw [String.empty_append, pathSteps_joined steps]
    · rw [pathSteps_slash, pathSteps_joined steps]
    · have two : "//" = "/" ++ "/" := rfl
      rw [two, String.append_assoc, pathSteps_slash, pathSteps_slash, pathSteps_joined steps]
  simp only [pathOf]
  split
  · next none =>
    rw [none] at given
    rw [← given]
    decide
  · exact given

private theorem pathRoot_of_ne_slash {path : String} (other : ∀ s, path ≠ "/" ++ s) :
    pathRoot path = "" ∧ pathRoot ("/" ++ path) = "/" ∧ pathRoot ("//" ++ path) = "//" := by
  have bare : ∀ cs, path.toList ≠ '/' :: cs := by
    intro cs same
    have slash : "/" ++ String.ofList cs = String.ofList ('/' :: cs) := String.ofList_append.symm
    apply other (String.ofList cs)
    rw [slash, ← same, String.ofList_toList]
  have one : ("/" ++ path).toList = '/' :: path.toList := String.toList_append
  have two : ("//" ++ path).toList = '/' :: '/' :: path.toList := String.toList_append
  unfold pathRoot
  rw [one, two]
  cases chars : path.toList with
  | nil => exact ⟨rfl, rfl, rfl⟩
  | cons c cs =>
    have apart : c ≠ '/' := by
      rintro rfl
      exact bare cs chars
    simp [apart]

/-- A path put together from names that lead somewhere starts with the slashes put in front of them. -/
theorem pathRoot_pathOf (start : IsRoot root) (steps : ∀ n ∈ names, IsStep n) :
    pathRoot (pathOf root names) = root := by
  obtain ⟨none, one, two⟩ := pathRoot_of_ne_slash (joined_ne_slash steps)
  have given : pathRoot (root ++ "/".intercalate names) = root := by
    rcases start with rfl | rfl | rfl
    · rw [String.empty_append, none]
    · exact one
    · exact two
  simp only [pathOf]
  split
  · next empty =>
    rw [empty] at given
    rw [← given]
    decide
  · exact given

/-- The normal form of a path is its own normal form. -/
@[simp] theorem normalPath_normalPath (path : String) :
    normalPath (normalPath path) = normalPath path := by
  have start := isRoot_pathRoot path
  have steps : ∀ n ∈ pathSteps path, IsStep n := fun n ↦ isStep_of_mem_pathSteps
  rw [normalPath, normalPath, pathRoot_pathOf start steps, pathSteps_pathOf start steps]

end DecimalMachine.Text
