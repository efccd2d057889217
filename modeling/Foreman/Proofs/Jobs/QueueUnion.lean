import Foreman.Jobs.History

/-!
# The history job's filtered union

A history job's queue reads the waiting rows of its view in every schema: one select per
schema with the waiting clause, joined by `UNION ALL`. `HistoryJob.unionWhere` builds it by
cutting the bare union (`viewUnion`) at each `UNION ALL` and putting the clause after every
piece.

* Cutting at a separator gives back the pieces when none holds it, nor runs into the one
  after it (`Text.splitChars_intercalate`); hence the filtered union is each schema's select
  with its clause when no select holds `UNION ALL` so (`filtered_union_per_schema`).
* A job name with ` UNION ALL ` in it is cut inside its literal, and the clause lands inside
  the name (`union_in_job_name_splits_literal`).
-/

namespace Foreman

set_option autoImplicit false

namespace Text

variable {sep : List Char}

theorem splitChars_nil (cur : List Char) : splitChars sep cur [] = [cur.reverse] := by
  rw [splitChars]

theorem splitChars_append (cur p rest : List Char)
    (h : ∀ i < p.length, ¬ sep <+: p.drop i ++ rest) :
    splitChars sep cur (p ++ rest) = splitChars sep (p.reverse ++ cur) rest := by
  induction p generalizing cur with
  | nil => rfl
  | cons c p ih =>
    have here : ¬ (sep ≠ [] ∧ sep.isPrefixOf (c :: (p ++ rest)) = true) := by
      rintro ⟨-, starts⟩
      exact h 0 (by simp) (by simpa using starts)
    have later : ∀ i < p.length, ¬ sep <+: p.drop i ++ rest := fun i hi =>
      h (i + 1) (by simp [hi])
    rw [List.cons_append, splitChars, if_neg here, ih _ later]
    simp

theorem splitChars_sep (hsep : sep ≠ []) (cur rest : List Char) :
    splitChars sep cur (sep ++ rest) = cur.reverse :: splitChars sep [] rest := by
  obtain ⟨c, s, rfl⟩ := List.exists_cons_of_ne_nil hsep
  rw [List.cons_append, splitChars, if_pos ⟨hsep, by simp⟩]
  simp

theorem not_prefix_of_not_infix {p : List Char} (apart : ¬ sep <:+: p ++ sep.dropLast) {i : Nat}
    (hi : i < p.length) {rest : List Char} (hr : rest = [] ∨ sep <+: rest) :
    ¬ sep <+: p.drop i ++ rest := by
  intro starts
  have within : sep <+: p.drop i ++ sep.dropLast := by
    rcases hr with rfl | next
    · exact starts.trans (by simp)
    · refine List.prefix_of_prefix_length_le starts ?_ ?_
      · exact List.prefix_append_right_inj _ |>.2 ((List.dropLast_prefix sep).trans next)
      · simp only [List.length_append, List.length_drop, List.length_dropLast]
        omega
  obtain ⟨t, ht⟩ := within
  exact apart ⟨p.take i, t, by rw [List.append_assoc, ht, ← List.append_assoc, List.take_append_drop]⟩

theorem splitChars_intercalate (hsep : sep ≠ []) (parts : List (List Char)) (hne : parts ≠ [])
    (apart : ∀ p ∈ parts, ¬ sep <:+: p ++ sep.dropLast) :
    splitChars sep [] (sep.intercalate parts) = parts := by
  induction parts with
  | nil => exact absurd rfl hne
  | cons p ps ih =>
    have hp := apart p List.mem_cons_self
    cases ps with
    | nil =>
      rw [List.intercalate_singleton, ← List.append_nil p,
        splitChars_append _ _ _ fun i hi => not_prefix_of_not_infix hp hi (.inl rfl)]
      simp [splitChars_nil]
    | cons q qs =>
      rw [List.intercalate_cons_cons, List.append_assoc,
        splitChars_append _ _ _ fun i hi => not_prefix_of_not_infix hp hi (.inr (List.prefix_append _ _)),
        splitChars_sep hsep, ih (by simp) fun x m => apart x (List.mem_cons_of_mem _ m)]
      simp

theorem splitOn_intercalate {sep : String} (hsep : sep ≠ "") {parts : List String} (hne : parts ≠ [])
    (apart : ∀ p ∈ parts, ¬ sep.toList <:+: p.toList ++ sep.toList.dropLast) :
    splitOn (sep.intercalate parts) sep = parts := by
  have pieces := splitChars_intercalate (show sep.toList ≠ [] by simpa using hsep)
    (parts.map String.toList) (by simpa using hne) (by simpa using apart)
  rw [splitOn, String.toList_intercalate, pieces, List.map_map]
  simp

end Text

theorem viewUnion_eq_intercalate (d : Dialect) (schemas : List String) (view jobName : String) :
    viewUnion d schemas view jobName =
      " UNION ALL ".intercalate (schemas.map fun s => viewUnion d [s] view jobName) := by
  simp [viewUnion]

theorem viewUnion_ne_empty (d : Dialect) {schemas : List String} (hne : schemas ≠ [])
    (view jobName : String) : viewUnion d schemas view jobName ≠ "" := by
  obtain ⟨s, rest, rfl⟩ := List.exists_cons_of_ne_nil hne
  simp [viewUnion, ← String.toList_inj]

/-- The history job's filtered union is the join, over each schema in order, of that schema's
select followed by the clause, when no schema's select holds ` UNION ALL `, even running on
into the separator after it. -/
theorem filtered_union_per_schema (d : Dialect) (schemas : List String) (view jobName clause : String)
    (apart : ∀ s ∈ schemas,
      ¬ " UNION ALL ".toList <:+: (viewUnion d [s] view jobName ++ " UNION ALL").toList) :
    HistoryJob.unionWhere d schemas view jobName clause =
      " UNION ALL ".intercalate (schemas.map fun s => viewUnion d [s] view jobName ++ " WHERE " ++ clause) := by
  by_cases hne : schemas = []
  · subst hne
    simp [HistoryJob.unionWhere, viewUnion]
  · have cut : Text.splitOn (viewUnion d schemas view jobName) " UNION ALL " =
        schemas.map fun s => viewUnion d [s] view jobName := by
      rw [viewUnion_eq_intercalate]
      refine Text.splitOn_intercalate (by decide) (by simpa using hne) ?_
      simpa using apart
    rw [HistoryJob.unionWhere, if_neg (by simpa using viewUnion_ne_empty d hne view jobName), cut,
      List.map_map]
    rfl

/-- The queue of a job under SQLite over its default schema and one more. -/
theorem filtered_union_per_schema_for_two_schemas :
    HistoryJob.unionWhere .sqlite ["main", "s2"] "V_MENU_CREATE_HISTORY" "menu" "JOB_STATUS = '1'" =
      " UNION ALL ".intercalate (["main", "s2"].map fun s =>
        viewUnion .sqlite [s] "V_MENU_CREATE_HISTORY" "menu" ++ " WHERE " ++ "JOB_STATUS = '1'") := by
  refine filtered_union_per_schema .sqlite ["main", "s2"] "V_MENU_CREATE_HISTORY" "menu" "JOB_STATUS = '1'" ?_
  intro s m
  simp only [List.mem_cons, List.not_mem_nil, or_false] at m
  rcases m with rfl | rfl
  · have main : viewUnion .sqlite ["main"] "V_MENU_CREATE_HISTORY" "menu" = "SELECT ORGANIZATION_ID, WORKSPACE_ID, JOB_KEY, LAST_UPDATE_TIMESTAMP, 'menu' AS JOB_NAME FROM V_MENU_CREATE_HISTORY" := by
      decide
    simp only [main, String.toList_append, String.reduceToList, ← List.isInfixOf_internal_iff_isInfix]
    decide
  · have other : viewUnion .sqlite ["s2"] "V_MENU_CREATE_HISTORY" "menu" = "SELECT ORGANIZATION_ID, WORKSPACE_ID, JOB_KEY, LAST_UPDATE_TIMESTAMP, 'menu' AS JOB_NAME FROM \"s2\".V_MENU_CREATE_HISTORY" := by
      decide
    simp only [other, String.toList_append, String.reduceToList, ← List.isInfixOf_internal_iff_isInfix]
    decide

set_option maxRecDepth 2000 in
/-- A job name holding ` UNION ALL ` is cut inside its literal: the clause lands in the middle
of the name in every schema's select, and the queue differs from the join of the selects
each with its clause. -/
theorem union_in_job_name_splits_literal :
    HistoryJob.unionWhere .sqlite ["main", "s2"] "V_MENU_CREATE_HISTORY" "a UNION ALL b" "JOB_STATUS = '1'" =
        " UNION ALL ".intercalate
          (["SELECT ORGANIZATION_ID, WORKSPACE_ID, JOB_KEY, LAST_UPDATE_TIMESTAMP, 'a", "b' AS JOB_NAME FROM V_MENU_CREATE_HISTORY", "SELECT ORGANIZATION_ID, WORKSPACE_ID, JOB_KEY, LAST_UPDATE_TIMESTAMP, 'a", "b' AS JOB_NAME FROM \"s2\".V_MENU_CREATE_HISTORY"].map
            (· ++ " WHERE " ++ "JOB_STATUS = '1'")) ∧
      HistoryJob.unionWhere .sqlite ["main", "s2"] "V_MENU_CREATE_HISTORY" "a UNION ALL b" "JOB_STATUS = '1'" ≠
        " UNION ALL ".intercalate (["main", "s2"].map fun s =>
          viewUnion .sqlite [s] "V_MENU_CREATE_HISTORY" "a UNION ALL b" ++ " WHERE " ++ "JOB_STATUS = '1'") := by
  have main : viewUnion .sqlite ["main"] "V_MENU_CREATE_HISTORY" "a UNION ALL b" =
      "SELECT ORGANIZATION_ID, WORKSPACE_ID, JOB_KEY, LAST_UPDATE_TIMESTAMP, 'a UNION ALL b' AS JOB_NAME FROM V_MENU_CREATE_HISTORY" := by
    decide
  have other : viewUnion .sqlite ["s2"] "V_MENU_CREATE_HISTORY" "a UNION ALL b" =
      "SELECT ORGANIZATION_ID, WORKSPACE_ID, JOB_KEY, LAST_UPDATE_TIMESTAMP, 'a UNION ALL b' AS JOB_NAME FROM \"s2\".V_MENU_CREATE_HISTORY" := by
    decide
  -- the union of the two selects falls into four pieces at its four separators
  have pieces : Text.splitOn (viewUnion .sqlite ["main", "s2"] "V_MENU_CREATE_HISTORY" "a UNION ALL b") " UNION ALL " =
      ["SELECT ORGANIZATION_ID, WORKSPACE_ID, JOB_KEY, LAST_UPDATE_TIMESTAMP, 'a", "b' AS JOB_NAME FROM V_MENU_CREATE_HISTORY", "SELECT ORGANIZATION_ID, WORKSPACE_ID, JOB_KEY, LAST_UPDATE_TIMESTAMP, 'a", "b' AS JOB_NAME FROM \"s2\".V_MENU_CREATE_HISTORY"] := by
    have union : viewUnion .sqlite ["main", "s2"] "V_MENU_CREATE_HISTORY" "a UNION ALL b" = " UNION ALL ".intercalate
        ["SELECT ORGANIZATION_ID, WORKSPACE_ID, JOB_KEY, LAST_UPDATE_TIMESTAMP, 'a", "b' AS JOB_NAME FROM V_MENU_CREATE_HISTORY", "SELECT ORGANIZATION_ID, WORKSPACE_ID, JOB_KEY, LAST_UPDATE_TIMESTAMP, 'a", "b' AS JOB_NAME FROM \"s2\".V_MENU_CREATE_HISTORY"] := by
      rw [viewUnion_eq_intercalate]
      simp only [List.map_cons, List.map_nil, main, other, String.intercalate_cons_cons,
        String.intercalate_singleton, String.reduceAppend]
    rw [union]
    refine Text.splitOn_intercalate (by decide) (by simp) ?_
    intro p m
    simp only [List.mem_cons, List.not_mem_nil, or_false] at m
    rcases m with rfl | rfl | rfl | rfl
    all_goals
      simp only [String.reduceToList, ← List.isInfixOf_internal_iff_isInfix]
      decide
  have queue : HistoryJob.unionWhere .sqlite ["main", "s2"] "V_MENU_CREATE_HISTORY" "a UNION ALL b" "JOB_STATUS = '1'" =
      " UNION ALL ".intercalate
        (["SELECT ORGANIZATION_ID, WORKSPACE_ID, JOB_KEY, LAST_UPDATE_TIMESTAMP, 'a", "b' AS JOB_NAME FROM V_MENU_CREATE_HISTORY", "SELECT ORGANIZATION_ID, WORKSPACE_ID, JOB_KEY, LAST_UPDATE_TIMESTAMP, 'a", "b' AS JOB_NAME FROM \"s2\".V_MENU_CREATE_HISTORY"].map
          (· ++ " WHERE " ++ "JOB_STATUS = '1'")) := by
    rw [HistoryJob.unionWhere, if_neg (by simpa using viewUnion_ne_empty .sqlite (by simp) _ _), pieces]
  refine ⟨queue, ?_⟩
  rw [queue]
  simp only [List.map_cons, List.map_nil, main, other, String.intercalate_cons_cons,
    String.intercalate_singleton, String.reduceAppend, ne_eq, String.reduceEq, not_false_eq_true]

end Foreman
