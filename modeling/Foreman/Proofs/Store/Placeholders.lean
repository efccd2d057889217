import Foreman.Jobs.History
import Foreman.Jobs.TestJob
import Foreman.Proofs.Store.Names

/-!
# Numbered placeholders

Statements use `?`; PostgreSQL wants `$1`, `$2`, …, and `Dialect.rebind` numbers them,
skipping single-quoted literals.

* Outside a literal every `?` takes the next number (`numberPlaceholders_outside`), a literal
  is copied whole (`numberPlaceholders_literal`), an open one runs to the end
  (`numberPlaceholders_open`); numbering twice numbers once (`rebind_rebind`).
* `Numbered sql m`: the placeholders are `$1` to `$m` from the left, nothing else changed.
  Every statement the jobs build is numbered for exactly its arguments, when the names in it
  carry no single quote and no `?` (`Plain`).
* A tenant id with a single quote, inside a double-quoted schema name, opens a literal for the
  numbering and leaves a `?` (`quoted_tenant_id_keeps_placeholder`).
-/

namespace Foreman

set_option autoImplicit false

namespace Dialect

/-! ## Numbering -/

/-- The text with each `?` replaced by the next placeholder, from `$n+1` on, and every other
character kept. -/
def numberHoles : Nat → List Char → List Char
  | _, [] => []
  | n, c :: rest =>
    if c = '?' then '$' :: (toString (n + 1)).toList ++ numberHoles (n + 1) rest
    else c :: numberHoles n rest

/-- A statement whose `m` placeholders are numbered `$1` to `$m` from the left: the numbering of
a text with `m` question marks and no single quote. -/
def Numbered (sql : String) (m : Nat) : Prop :=
  ∃ raw : List Char, '\'' ∉ raw ∧ raw.count '?' = m ∧ sql.toList = numberHoles 0 raw

/-- The digits of a placeholder's number are neither a quote nor a question mark. -/
theorem ne_of_mem_toString {n : Nat} {c : Char} (h : c ∈ (toString n).toList) :
    c ≠ '\'' ∧ c ≠ '?' := by
  have digit : c.isDigit :=
    Nat.isDigit_of_mem_toDigits (b := 10) (by decide) (by decide) (by simpa using h)
  constructor <;> rintro rfl <;> simp at digit

theorem not_mem_numberHoles (n : Nat) (cs : List Char) : '?' ∉ numberHoles n cs := by
  induction cs generalizing n with
  | nil => simp [numberHoles]
  | cons c rest ih =>
    by_cases hole : c = '?'
    · simp only [numberHoles, hole, if_true, List.cons_append, List.mem_cons, List.mem_append,
        not_or]
      exact ⟨by decide, fun m => (ne_of_mem_toString m).2 rfl, ih (n + 1)⟩
    · simp only [numberHoles, hole, if_false, List.mem_cons, not_or]
      exact ⟨Ne.symm hole, ih n⟩

theorem Numbered.not_mem {sql : String} {m : Nat} (h : Numbered sql m) : '?' ∉ sql.toList := by
  obtain ⟨raw, -, -, text⟩ := h
  rw [text]
  exact not_mem_numberHoles 0 raw

theorem numberPlaceholders_outside {o : List Char} (h : '\'' ∉ o) (n : Nat) (rest : List Char) :
    numberPlaceholders n false (o ++ rest) =
      numberHoles n o ++ numberPlaceholders (n + o.count '?') false rest := by
  induction o generalizing n with
  | nil => rfl
  | cons c o ih =>
    have hc : c ≠ '\'' := fun e => h (e ▸ List.mem_cons_self)
    have ih := ih (fun m => h (List.mem_cons_of_mem _ m))
    by_cases hole : c = '?'
    · subst hole
      simp [numberPlaceholders, numberHoles, ih, Nat.add_right_comm, Nat.add_assoc]
    · simp [numberPlaceholders, numberHoles, hc, hole, ih]

theorem numberPlaceholders_inside {l : List Char} (h : '\'' ∉ l) (n : Nat) (rest : List Char) :
    numberPlaceholders n true (l ++ rest) = l ++ numberPlaceholders n true rest := by
  induction l with
  | nil => rfl
  | cons c l ih =>
    have hc : c ≠ '\'' := fun e => h (e ▸ List.mem_cons_self)
    simp [numberPlaceholders, hc, ih (fun m => h (List.mem_cons_of_mem _ m))]

theorem numberPlaceholders_literal {o l : List Char} (ho : '\'' ∉ o) (hl : '\'' ∉ l) (n : Nat)
    (rest : List Char) :
    numberPlaceholders n false (o ++ '\'' :: (l ++ '\'' :: rest)) =
      numberHoles n o ++ '\'' :: (l ++ '\'' :: numberPlaceholders (n + o.count '?') false rest) := by
  rw [numberPlaceholders_outside ho]
  simp [numberPlaceholders, numberPlaceholders_inside hl]

theorem numberPlaceholders_open {o l : List Char} (ho : '\'' ∉ o) (hl : '\'' ∉ l) (n : Nat) :
    numberPlaceholders n false (o ++ '\'' :: l) = numberHoles n o ++ '\'' :: l := by
  rw [numberPlaceholders_outside ho]
  simpa [numberPlaceholders] using numberPlaceholders_inside hl _ []

theorem numberPlaceholders_of_not_mem {cs : List Char} (h : '?' ∉ cs) (n : Nat) (quoted : Bool) :
    numberPlaceholders n quoted cs = cs := by
  induction cs generalizing quoted with
  | nil => rfl
  | cons c rest ih =>
    have hc : c ≠ '?' := fun e => h (e ▸ List.mem_cons_self)
    have ih := ih (fun m => h (List.mem_cons_of_mem _ m))
    by_cases hq : c = '\''
    · simp [numberPlaceholders, hq, ih]
    · simp [numberPlaceholders, hq, hc, ih]

theorem numberPlaceholders_plain {ds : List Char} (h : ∀ d ∈ ds, d ≠ '\'' ∧ d ≠ '?') (n : Nat)
    (quoted : Bool) (rest : List Char) :
    numberPlaceholders n quoted (ds ++ rest) = ds ++ numberPlaceholders n quoted rest := by
  induction ds with
  | nil => rfl
  | cons d ds ih =>
    obtain ⟨hq, hh⟩ := h d List.mem_cons_self
    simp [numberPlaceholders, hq, hh, ih (fun e m => h e (List.mem_cons_of_mem _ m))]

/-- A numbered text numbers to itself: a number's digits are never a placeholder or a quote,
and the quotes, kept in place, leave every remaining `?` inside a literal. -/
theorem numberPlaceholders_idem (cs : List Char) (n m : Nat) (quoted : Bool) :
    numberPlaceholders m quoted (numberPlaceholders n quoted cs) = numberPlaceholders n quoted cs := by
  induction cs generalizing n m quoted with
  | nil => rfl
  | cons c rest ih =>
    by_cases hq : c = '\''
    · subst hq; simp [numberPlaceholders, ih]
    by_cases hole : c = '?' ∧ quoted = false
    · obtain ⟨rfl, rfl⟩ := hole
      have digits : ∀ d ∈ Nat.toDigits 10 (n + 1), d ≠ '\'' ∧ d ≠ '?' :=
        fun _ h => ne_of_mem_toString (by simpa using h)
      simp [numberPlaceholders, numberPlaceholders_plain digits, ih]
    · -- any other character is copied, the second time as the first
      simp only [numberPlaceholders, beq_iff_eq, hq, if_false]
      split
      · simp_all
      · simp [numberPlaceholders, *]

theorem rebind_postgres (q : String) :
    (postgres.rebind q).toList = numberPlaceholders 0 false q.toList := by
  by_cases hole : Text.hasChar q '?' = true
  · simp [rebind, postgres, hole]
  · have none : '?' ∉ q.toList := by simpa [Text.hasChar] using hole
    simp [rebind, postgres, hole, numberPlaceholders_of_not_mem none]

theorem rebind_of_quote_free {q : String} (h : '\'' ∉ q.toList) :
    (postgres.rebind q).toList = numberHoles 0 q.toList := by
  simpa [rebind_postgres, numberPlaceholders] using numberPlaceholders_outside h 0 []

theorem rebind_rebind (d : Dialect) (q : String) : d.rebind (d.rebind q) = d.rebind q := by
  by_cases kept : (!d.dollar || !Text.hasChar q '?') = true
  · simp only [rebind, kept, if_true]
  · have numbered : d.rebind q = String.ofList (numberPlaceholders 0 false q.toList) := by
      simp [rebind, kept]
    rw [numbered, rebind]
    split
    · rfl
    · simp [numberPlaceholders_idem]

theorem numbered_of {q : String} {m : Nat} (h : '\'' ∉ q.toList) (count : q.toList.count '?' = m) :
    Numbered (postgres.rebind q) m :=
  ⟨q.toList, h, count, rebind_of_quote_free h⟩

/-! ## Plain names -/

def Plain (cs : List Char) : Prop := cs.all (fun c => c != '\'' && c != '?') = true

instance (cs : List Char) : Decidable (Plain cs) := instDecidableEqBool _ _

theorem plain_iff {cs : List Char} : Plain cs ↔ ∀ c ∈ cs, c ≠ '\'' ∧ c ≠ '?' := by
  simp [Plain]

theorem Plain.no_quote {cs : List Char} (h : Plain cs) : '\'' ∉ cs := fun m => (plain_iff.1 h _ m).1 rfl

theorem Plain.no_holes {cs : List Char} (h : Plain cs) : cs.count '?' = 0 :=
  List.count_eq_zero.2 fun m => (plain_iff.1 h _ m).2 rfl

theorem plain_append {a b : List Char} : Plain (a ++ b) ↔ Plain a ∧ Plain b := by
  simp [Plain]

theorem quote_plain {s : String} (h : Plain s.toList) : Plain (postgres.quote s).toList := by
  rw [plain_iff]
  intro c m
  simp only [quote, postgres, String.toList_ofList, List.mem_cons, List.mem_append,
    List.mem_flatMap] at m
  rcases m with (rfl | ⟨d, hd, m⟩) | m
  · decide
  · by_cases e : d = '"'
    · have quote : c = '"' := by simpa [e] using m
      subst quote; decide
    · have same : c = d := by simpa [e] using m
      subst same; exact plain_iff.1 h c hd
  · have quote : c = '"' := by simpa using m
    subst quote; decide

theorem qualify_plain {schema table : String} (hs : Plain schema.toList) (ht : Plain table.toList) :
    Plain (postgres.qualify schema table).toList := by
  unfold qualify
  split
  · exact ht
  · simp only [String.toList_append, plain_append]
    exact ⟨⟨quote_plain hs, by decide⟩, ht⟩

end Dialect

open Dialect

/-- The names a tenant's tables are reached by: its ids and the handle's schema pattern. -/
def Handle.PlainTenant (h : Handle) (org ws : String) : Prop :=
  Plain org.toList ∧ Plain ws.toList ∧ Plain h.workspacePattern.toList

theorem Handle.workspaceTable_plain {h : Handle} {org ws table : String} (pg : h.dialect = .postgres)
    (tenant : h.PlainTenant org ws) (ht : Plain table.toList) :
    Plain (h.workspaceTable org ws table).toList := by
  obtain ⟨o, w, p⟩ := tenant
  have schema : Plain (h.workspaceSchema org ws).toList := by
    rw [plain_iff]
    intro c m
    rcases (h.workspaceSchema_filled org ws).mem m with m | m | m
    · exact plain_iff.1 o c m
    · exact plain_iff.1 w c m
    · exact plain_iff.1 p c m
  rw [Handle.workspaceTable, pg]
  exact qualify_plain schema ht

def HistoryTable.Plain (t : HistoryTable) : Prop :=
  Dialect.Plain t.table.toList ∧ Dialect.Plain t.statusColumn.toList ∧
    Dialect.Plain t.keyColumn.toList ∧ Dialect.Plain t.userColumn.toList

/-! ## The statements of the jobs -/

section Statements

variable {h : Handle} (pg : h.dialect = .postgres)

include pg

theorem HistoryRun.statusQuery_numbered {r : HistoryRun} (tenant : h.PlainTenant r.row.org r.row.ws)
    (names : r.table.Plain) : Numbered (r.statusQuery h) 1 := by
  obtain ⟨table, st, key, -⟩ := names
  have name := (Handle.workspaceTable_plain pg tenant table).no_quote
  have holes := (Handle.workspaceTable_plain pg tenant table).no_holes
  simp only [HistoryRun.statusQuery, HistoryRun.tableName, Handle.rebind, pg]
  refine numbered_of ?_ ?_
  · simp only [String.toList_append, List.mem_append, name, st.no_quote, key.no_quote, not_or]
    decide
  · simp only [String.toList_append, List.count_append, holes, st.no_holes, key.no_holes]
    decide

theorem HistoryRun.statusUpdate_numbered {r : HistoryRun} (now : Instant) (target source : String)
    (tenant : h.PlainTenant r.row.org r.row.ws) (names : r.table.Plain) :
    Numbered (r.statusUpdate h now target source).1 (r.statusUpdate h now target source).2.length := by
  obtain ⟨table, st, key, user⟩ := names
  have name := (Handle.workspaceTable_plain pg tenant table).no_quote
  have holes := (Handle.workspaceTable_plain pg tenant table).no_holes
  -- the user column and the source status each add one placeholder and one argument
  by_cases u : r.table.userColumn = "" <;> by_cases s : source = "" <;>
    simp only [HistoryRun.statusUpdate, HistoryRun.tableName, Handle.rebind, pg, u, s, beq_iff_eq,
      if_true, if_false]
  all_goals
    refine numbered_of ?_ ?_
    · simp only [String.toList_append, List.mem_append, name, st.no_quote, key.no_quote,
        user.no_quote, not_or]
      decide
    · simp only [String.toList_append, List.count_append, holes, st.no_holes, key.no_holes,
        user.no_holes, List.length_append, List.length_cons, List.length_nil]
      decide

theorem TestRun.statusQuery_numbered {r : TestRun} (tenant : h.PlainTenant r.row.org r.row.ws) :
    Numbered (r.statusQuery h) 1 := by
  have table := Handle.workspaceTable_plain pg tenant (show Plain TestJob.table.toList by decide)
  simp only [TestRun.statusQuery, TestRun.tableName, Handle.rebind, pg]
  refine numbered_of ?_ ?_
  · simp only [String.toList_append, List.mem_append, table.no_quote, not_or]
    decide
  · simp only [String.toList_append, List.count_append, table.no_holes]
    decide

theorem TestRun.statusUpdate_numbered {r : TestRun} (now : Instant) (target source : String)
    (tenant : h.PlainTenant r.row.org r.row.ws) :
    Numbered (r.statusUpdate h now target source).1 (r.statusUpdate h now target source).2.length := by
  have table := Handle.workspaceTable_plain pg tenant (show Plain TestJob.table.toList by decide)
  by_cases s : source = "" <;>
    simp only [TestRun.statusUpdate, TestRun.tableName, Handle.rebind, pg, s, beq_iff_eq, if_true,
      if_false]
  all_goals
    refine numbered_of ?_ ?_
    · simp only [String.toList_append, List.mem_append, table.no_quote, not_or]
      decide
    · simp only [String.toList_append, List.count_append, table.no_holes, List.length_append,
        List.length_cons, List.length_nil]
      decide

theorem TestJob.staleUpdate_numbered {s : String} (now cutoff : Instant) (schema : Plain s.toList) :
    Numbered (TestJob.staleUpdate h s now cutoff).1 (TestJob.staleUpdate h s now cutoff).2.length := by
  have table := qualify_plain schema (show Plain TestJob.table.toList by decide)
  simp only [TestJob.staleUpdate, Handle.rebind, pg]
  refine numbered_of ?_ ?_
  · simp only [String.toList_append, List.mem_append, table.no_quote, not_or]
    decide
  · simp only [String.toList_append, List.count_append, table.no_holes, List.length_cons,
      List.length_nil]
    decide

end Statements

/-- Each schema's select of the stale rows carries two placeholders and no quote. -/
theorem HistoryJob.stalePart_plain {s view : String} (schema : Plain s.toList) (hv : Plain view.toList) :
    '\'' ∉ ("SELECT ORGANIZATION_ID, WORKSPACE_ID, JOB_KEY FROM " ++ postgres.qualify s view ++
        " WHERE JOB_STATUS = ? AND LAST_UPDATE_TIMESTAMP < ?").toList ∧
      ("SELECT ORGANIZATION_ID, WORKSPACE_ID, JOB_KEY FROM " ++ postgres.qualify s view ++
        " WHERE JOB_STATUS = ? AND LAST_UPDATE_TIMESTAMP < ?").toList.count '?' = 2 := by
  have table := qualify_plain schema hv
  constructor
  · simp only [String.toList_append, List.mem_append, table.no_quote, not_or]
    decide
  · simp only [String.toList_append, List.count_append, table.no_holes]
    decide

theorem intercalate_union_count (parts : List String)
    (each : ∀ p ∈ parts, '\'' ∉ p.toList ∧ p.toList.count '?' = 2) :
    '\'' ∉ (" UNION ALL ".intercalate parts).toList ∧
      (" UNION ALL ".intercalate parts).toList.count '?' = 2 * parts.length := by
  induction parts with
  | nil => simp
  | cons p ps ih =>
    obtain ⟨hq, hc⟩ := each p List.mem_cons_self
    obtain ⟨ihq, ihc⟩ := ih fun x m => each x (List.mem_cons_of_mem _ m)
    cases ps with
    | nil => simp [hq, hc]
    | cons p' ps =>
      rw [String.intercalate_cons_cons]
      simp only [String.toList_append, List.mem_append, List.count_append, hq, hc, ihq, ihc, not_or,
        List.length_cons]
      have sep : " UNION ALL ".toList.count '?' = 0 := by decide
      exact ⟨by decide, by omega⟩

theorem HistoryJob.staleQuery_numbered {h : Handle} (pg : h.dialect = .postgres) {schemas : List String}
    {view : String} (cutoff : Instant) (names : ∀ s ∈ schemas, Plain s.toList) (hv : Plain view.toList) :
    Numbered (HistoryJob.staleQuery h schemas view cutoff).1
      (HistoryJob.staleQuery h schemas view cutoff).2.length := by
  obtain ⟨hq, hc⟩ := intercalate_union_count _ fun p m => by
    obtain ⟨s, hs, rfl⟩ := List.mem_map.1 m
    exact HistoryJob.stalePart_plain (names s hs) hv
  simp only [HistoryJob.staleQuery, Handle.rebind, pg]
  refine numbered_of hq ?_
  rw [hc, List.length_map]
  clear hq hc names
  induction schemas with
  | nil => rfl
  | cons s rest ih =>
    simp only [List.flatMap_cons, List.length_append, List.length_cons, List.length_nil]
    omega

theorem viewSchemasQuery_numbered : Numbered postgres.viewSchemasQuery 1 :=
  numbered_of (q := postgres.viewQuery) (by decide) (by decide)

/-! ## Numbering against the statements -/

/-- PostgreSQL placeholders agree with the statements using them. Binding numbers every `?`
outside a single-quoted literal from the left and copies the rest, a literal whole, an open one
to the end, and binding twice binds once. Every statement the jobs build and bind is numbered
`$1` to `$m` for its `m` arguments when tenant ids, schema pattern, discovered schemas and
names hold no `'` and no `?`. -/
theorem placeholders_numbered (h : Handle) (pg : h.dialect = .postgres) :
    (∀ q : String, (h.rebind q).toList = numberPlaceholders 0 false q.toList) ∧
    (∀ (o rest : List Char) (n : Nat), '\'' ∉ o →
      numberPlaceholders n false (o ++ rest) =
        numberHoles n o ++ numberPlaceholders (n + o.count '?') false rest) ∧
    (∀ (o l rest : List Char) (n : Nat), '\'' ∉ o → '\'' ∉ l →
      numberPlaceholders n false (o ++ '\'' :: (l ++ '\'' :: rest)) =
        numberHoles n o ++ '\'' :: (l ++ '\'' :: numberPlaceholders (n + o.count '?') false rest)) ∧
    (∀ (o l : List Char) (n : Nat), '\'' ∉ o → '\'' ∉ l →
      numberPlaceholders n false (o ++ '\'' :: l) = numberHoles n o ++ '\'' :: l) ∧
    (∀ (d : Dialect) (q : String), d.rebind (d.rebind q) = d.rebind q) ∧
    (∀ (r : HistoryRun) (now : Instant) (target source : String),
      h.PlainTenant r.row.org r.row.ws → r.table.Plain →
      Numbered (r.statusQuery h) 1 ∧
        Numbered (r.statusUpdate h now target source).1 (r.statusUpdate h now target source).2.length) ∧
    (∀ (r : TestRun) (now : Instant) (target source : String), h.PlainTenant r.row.org r.row.ws →
      Numbered (r.statusQuery h) 1 ∧
        Numbered (r.statusUpdate h now target source).1 (r.statusUpdate h now target source).2.length) ∧
    (∀ (schemas : List String) (view : String) (cutoff : Instant),
      (∀ s ∈ schemas, Plain s.toList) → Plain view.toList →
      Numbered (HistoryJob.staleQuery h schemas view cutoff).1
        (HistoryJob.staleQuery h schemas view cutoff).2.length) ∧
    (∀ (s : String) (now cutoff : Instant), Plain s.toList →
      Numbered (TestJob.staleUpdate h s now cutoff).1 (TestJob.staleUpdate h s now cutoff).2.length) ∧
    Numbered postgres.viewSchemasQuery 1 :=
  ⟨fun q => by rw [Handle.rebind, pg, rebind_postgres],
    fun _ rest n ho => numberPlaceholders_outside ho n rest,
    fun _ _ rest n ho hl => numberPlaceholders_literal ho hl n rest,
    fun _ _ n ho hl => numberPlaceholders_open ho hl n,
    rebind_rebind,
    fun _ now target source tenant names =>
      ⟨HistoryRun.statusQuery_numbered pg tenant names,
        HistoryRun.statusUpdate_numbered pg now target source tenant names⟩,
    fun _ now target source tenant =>
      ⟨TestRun.statusQuery_numbered pg tenant, TestRun.statusUpdate_numbered pg now target source tenant⟩,
    fun _ _ cutoff names hv => HistoryJob.staleQuery_numbered pg cutoff names hv,
    fun _ now cutoff schema => TestJob.staleUpdate_numbered pg now cutoff schema,
    viewSchemasQuery_numbered⟩

/-- A tenant with plain ids under a schema pattern, a literal among placeholders, and two
discovered schemas. -/
theorem placeholders_numbered_for_a_plain_tenant :
    numberPlaceholders 0 false ("a = ? AND b = ".toList ++ '\'' :: ("?".toList ++ '\'' :: " AND c = ?".toList)) =
        "a = $1 AND b = '?' AND c = $2".toList ∧
      Numbered (HistoryRun.statusQuery
          ⟨{ org := "o1", ws := "w1", job := "menu", key := "K1" }, HistoryTable.withDefaults {}, .complete⟩
          { dialect := .postgres, workspacePattern := "t_{organization_id}" }) 1 ∧
      Numbered (HistoryJob.staleQuery { dialect := .postgres, workspacePattern := "t_{organization_id}" }
          ["s1", "s2"] "V_MENU_CREATE_HISTORY" Instant.zero).1 4 := by
  obtain ⟨-, -, literal, -, -, history, -, stale, -⟩ :=
    placeholders_numbered { dialect := .postgres, workspacePattern := "t_{organization_id}" } rfl
  refine ⟨?_, (history _ Instant.zero "" "" ?_ ?_).1, stale ["s1", "s2"] _ Instant.zero ?_ ?_⟩
  · rw [literal _ _ _ 0 (by decide) (by decide)]
    decide
  · exact ⟨by decide, by decide, by decide⟩
  · exact ⟨by decide, by decide, by decide, by decide⟩
  · intro s m
    simp only [List.mem_cons, List.not_mem_nil, or_false] at m
    rcases m with rfl | rfl <;> decide
  · decide

/-- A single quote in a tenant id, inside the double-quoted schema, opens a literal for the
numbering: the statement that reads a row's status keeps its placeholder as `?`. -/
theorem quoted_tenant_id_keeps_placeholder :
    HistoryRun.statusQuery
        ⟨{ org := "o'1", ws := "w1", job := "menu", key := "K1" }, HistoryTable.withDefaults {}, .complete⟩
        { dialect := .postgres, workspacePattern := "{organization_id}" } =
      "SELECT STATUS_ID FROM \"o'1\".T_MENU_CREATE_HISTORY WHERE HISTORY_ID = ? FOR UPDATE NOWAIT" ∧
    ¬ Numbered (HistoryRun.statusQuery
        ⟨{ org := "o'1", ws := "w1", job := "menu", key := "K1" }, HistoryTable.withDefaults {}, .complete⟩
        { dialect := .postgres, workspacePattern := "{organization_id}" }) 1 := by
  have schema : ({ dialect := .postgres, workspacePattern := "{organization_id}" } : Handle).workspaceSchema
      "o'1" "w1" = "o'1" := by
    rw [Handle.workspaceSchema, if_neg (by decide)]
    show String.ofList (SchemaPattern.fill "o'1" "w1" ("{organization_id}".toList ++ [])) = _
    rw [SchemaPattern.fill_organization, SchemaPattern.fill_nil]
    decide
  have text : HistoryRun.statusQuery
        ⟨{ org := "o'1", ws := "w1", job := "menu", key := "K1" }, HistoryTable.withDefaults {}, .complete⟩
        { dialect := .postgres, workspacePattern := "{organization_id}" } =
      "SELECT STATUS_ID FROM \"o'1\".T_MENU_CREATE_HISTORY WHERE HISTORY_ID = ? FOR UPDATE NOWAIT" := by
    simp only [HistoryRun.statusQuery, HistoryRun.tableName, Handle.workspaceTable, schema]
    decide
  exact ⟨text, fun numbered => numbered.not_mem (by rw [text]; decide)⟩

end Foreman
