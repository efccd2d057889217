import Foreman.Store.Handle
import Foreman.Job.Schema

/-!
# Names in SQL text

Tenant ids, schema names and job names reach statements through the schema pattern, identifier
quoting and the job name's string literal; this module reads that text back as a database
does.

* `SchemaPattern.filled_iff`: a schema is the pattern with `{organization_id}` and
  `{workspace_id}` replaced in one pass from the left (`SchemaPattern.Filled`), the text put in
  never read again.
* `Dialect.readIdentifier_quote`: a quoted identifier reads back as its name, ending at its
  closing quote; so a tenant's table is the bare table or one quoted identifier of schema, dot
  and table (`Handle.workspaceTable_read`).
* `viewUnion_literal`: the job name in the ready-view union is one string literal, read back
  under PostgreSQL and SQLite, and under MySQL without a backslash; there a trailing backslash
  leaves the literal open (`backslash_name_opens_literal`).
-/

namespace Foreman

set_option autoImplicit false

namespace SchemaPattern

variable (org ws : String)

@[simp] theorem fill_nil : fill org ws [] = [] := by
  rw [fill]

theorem fill_organization (rest : List Char) :
    fill org ws ("{organization_id}".toList ++ rest) = org.toList ++ fill org ws rest := by
  rw [show "{organization_id}".toList ++ rest = '{' :: ("{organization_id}".toList.tail ++ rest)
    from rfl, fill]
  simp [String.startsWith_string_iff]

theorem fill_workspace (rest : List Char) :
    fill org ws ("{workspace_id}".toList ++ rest) = ws.toList ++ fill org ws rest := by
  rw [show "{workspace_id}".toList ++ rest = '{' :: ("{workspace_id}".toList.tail ++ rest) from rfl,
    fill]
  simp [String.startsWith_string_iff]

theorem fill_cons {c : Char} {rest : List Char} (ho : ¬ "{organization_id}".toList <+: c :: rest)
    (hw : ¬ "{workspace_id}".toList <+: c :: rest) :
    fill org ws (c :: rest) = c :: fill org ws rest := by
  rw [fill]
  simp only [String.startsWith_string_iff, String.toList_ofList, ho, hw, if_false]

/-- The schema a pattern names for a tenant: read from the left, each placeholder is replaced
by its value and every other character is kept; what is put in is not read again. -/
inductive Filled : List Char → List Char → Prop
  | nil : Filled [] []
  | organization {rest out : List Char} :
      Filled rest out → Filled ("{organization_id}".toList ++ rest) (org.toList ++ out)
  | workspace {rest out : List Char} :
      Filled rest out → Filled ("{workspace_id}".toList ++ rest) (ws.toList ++ out)
  | keep {c : Char} {rest out : List Char} :
      ¬ "{organization_id}".toList <+: c :: rest → ¬ "{workspace_id}".toList <+: c :: rest →
      Filled rest out → Filled (c :: rest) (c :: out)

variable {org ws}

theorem filled_fill (p : List Char) : Filled org ws p (fill org ws p) := by
  fun_induction fill org ws p with
  | case1 => exact .nil
  | case2 c rest s starts ih =>
    have split := List.prefix_iff_eq_append.1 (String.startsWith_string_iff.1 starts)
    simp only [s, String.toList_ofList] at split
    rw [← split]
    exact .organization ih
  | case3 c rest s _ starts ih =>
    have split := List.prefix_iff_eq_append.1 (String.startsWith_string_iff.1 starts)
    simp only [s, String.toList_ofList] at split
    rw [← split]
    exact .workspace ih
  | case4 c rest s no_org no_ws ih =>
    simp only [s, String.startsWith_string_iff, String.toList_ofList] at no_org no_ws
    exact .keep no_org no_ws ih

theorem Filled.eq_fill {p out : List Char} (h : Filled org ws p out) : out = fill org ws p := by
  induction h with
  | nil => rw [fill_nil]
  | organization _ ih => rw [fill_organization, ih]
  | workspace _ ih => rw [fill_workspace, ih]
  | keep ho hw _ ih => rw [fill_cons org ws ho hw, ih]

/-- Filling a pattern is the one left-to-right substitution of its placeholders. -/
theorem filled_iff {p out : List Char} : Filled org ws p out ↔ out = fill org ws p :=
  ⟨Filled.eq_fill, fun h => h ▸ filled_fill p⟩

theorem Filled.mem {p out : List Char} {c : Char} (h : Filled org ws p out) (m : c ∈ out) :
    c ∈ org.toList ∨ c ∈ ws.toList ∨ c ∈ p := by
  induction h with
  | nil => simp at m
  | organization _ ih =>
    rcases List.mem_append.1 m with m | m
    · exact .inl m
    · rcases ih m with m | m | m <;> simp [m]
  | workspace _ ih =>
    rcases List.mem_append.1 m with m | m
    · exact .inr (.inl m)
    · rcases ih m with m | m | m <;> simp [m]
  | keep _ _ _ ih =>
    rcases List.mem_cons.1 m with rfl | m
    · simp
    · rcases ih m with m | m | m <;> simp [m]

end SchemaPattern

theorem Handle.workspaceSchema_filled (h : Handle) (org ws : String) :
    SchemaPattern.Filled org ws h.workspacePattern.toList (h.workspaceSchema org ws).toList := by
  rw [SchemaPattern.filled_iff, Handle.workspaceSchema]
  split
  · next empty => simp [beq_iff_eq.1 empty]
  · simp

/-! ## Quoted tokens -/

/-- Where a reader of a quoted token stands: inside it, just after a quote (which ends the
token unless a second one follows), or just after a backslash. -/
inductive QuoteMark
  | inside
  | quote
  | backslash

/-- What MySQL reads for a backslash and the character after it. -/
def mysqlEscape : Char → List Char
  | '0' => [Char.ofNat 0]
  | 'b' => [Char.ofNat 8]
  | 'n' => ['\n']
  | 'r' => ['\r']
  | 't' => ['\t']
  | 'Z' => [Char.ofNat 26]
  | '%' => ['\\', '%']
  | '_' => ['\\', '_']
  | c => [c]

/-- The rest of a token quoted by `q`, from a reader's mark: the text it stands for, and
what follows the token. A doubled quote stands for one quote; with `escapes`, a backslash
escapes the next character. `none` when the token is not closed. -/
def unquote (q : Char) (escapes : Bool) : QuoteMark → List Char → Option (List Char × List Char)
  | .inside, [] => none
  | .quote, [] => some ([], [])
  | .backslash, [] => none
  | .inside, c :: rest =>
    if c = q then unquote q escapes .quote rest
    else if escapes = true ∧ c = '\\' then unquote q escapes .backslash rest
    else (unquote q escapes .inside rest).map fun r => (c :: r.1, r.2)
  | .quote, c :: rest =>
    if c = q then (unquote q escapes .inside rest).map fun r => (q :: r.1, r.2)
    else some ([], c :: rest)
  | .backslash, c :: rest => (unquote q escapes .inside rest).map fun r => (mysqlEscape c ++ r.1, r.2)

/-- One token quoted by `q` at the head of a text: what it stands for, and the text after it. -/
def readQuoted (q : Char) (escapes : Bool) : List Char → Option (List Char × List Char)
  | [] => none
  | c :: rest => if c = q then unquote q escapes .inside rest else none

def doubled (q : Char) (s : List Char) : List Char :=
  s.flatMap fun c => if c = q then [q, q] else [c]

/-- Reading a doubled text and its closing quote gives the text back, and stops right after
the quote when no second quote follows it. -/
theorem unquote_doubled {q : Char} {escapes : Bool} {s rest : List Char}
    (plain : escapes = false ∨ '\\' ∉ s) (ends : rest.head? ≠ some q) :
    unquote q escapes .inside (doubled q s ++ q :: rest) = some (s, rest) := by
  induction s with
  | nil =>
    cases rest with
    | nil => simp [doubled, unquote]
    | cons d rest =>
      have : d ≠ q := fun e => ends (by simp [e])
      simp [doubled, unquote, this]
  | cons c s ih =>
    have plain' : escapes = false ∨ '\\' ∉ s := by
      rcases plain with e | m
      · exact .inl e
      · exact .inr fun h => m (List.mem_cons_of_mem _ h)
    have read := ih plain'
    simp only [doubled] at read
    by_cases hq : c = q
    · subst hq
      simp [doubled, unquote, read]
    · have not_escape : ¬ (escapes = true ∧ c = '\\') := by
        rintro ⟨e, rfl⟩
        rcases plain with e' | m
        · simp [e] at e'
        · exact m List.mem_cons_self
      simp [doubled, unquote, hq, not_escape, read]

namespace Dialect

/-- One identifier quoted in the dialect's quote character; a backslash is no escape there. -/
def readIdentifier (d : Dialect) : List Char → Option (List Char × List Char) :=
  readQuoted d.quoteChar false

/-- One string literal, under the dialect's own rules: a doubled single quote stands for one,
and under MySQL's default mode a backslash escapes the character after it. -/
def readLiteral (d : Dialect) : List Char → Option (List Char × List Char) :=
  readQuoted '\'' (d.name == mysql.name)

theorem quote_toList (d : Dialect) (s : String) :
    (d.quote s).toList = d.quoteChar :: doubled d.quoteChar s.toList ++ [d.quoteChar] := by
  simp [quote, doubled]

/-- A quoted identifier reads back as the name it quotes, and the token ends at its closing
quote. -/
theorem readIdentifier_quote (d : Dialect) (s : String) {rest : List Char}
    (ends : rest.head? ≠ some d.quoteChar) :
    d.readIdentifier ((d.quote s).toList ++ rest) = some (s.toList, rest) := by
  rw [quote_toList]
  simpa [readIdentifier, readQuoted] using unquote_doubled (.inl rfl) ends

end Dialect

/-- A tenant's table is the bare table when the schema is empty (or SQLite's `main`), and
otherwise one quoted identifier that reads as the schema, a dot, and the table; the schema
is the pattern filled for the tenant. -/
theorem Handle.workspaceTable_read (h : Handle) (org ws table : String)
    (dot : h.dialect.quoteChar ≠ '.') :
    SchemaPattern.Filled org ws h.workspacePattern.toList (h.workspaceSchema org ws).toList ∧
      (h.workspaceSchema org ws = "" ∨
          h.dialect.name = Dialect.sqlite.name ∧ h.workspaceSchema org ws = "main" →
        h.workspaceTable org ws table = table) ∧
      (¬ (h.workspaceSchema org ws = "" ∨
          h.dialect.name = Dialect.sqlite.name ∧ h.workspaceSchema org ws = "main") →
        h.dialect.readIdentifier (h.workspaceTable org ws table).toList =
          some ((h.workspaceSchema org ws).toList, '.' :: table.toList)) := by
  refine ⟨h.workspaceSchema_filled org ws, fun bare => ?_, fun quoted => ?_⟩
  · simp only [Handle.workspaceTable, Dialect.qualify]
    rw [if_pos (by simpa [Bool.or_eq_true, beq_iff_eq] using bare)]
  · simp only [Handle.workspaceTable, Dialect.qualify]
    rw [if_neg (by simpa [Bool.or_eq_true, beq_iff_eq] using quoted)]
    have ends : ('.' :: table.toList).head? ≠ some h.dialect.quoteChar := by simp [Ne.symm dot]
    simpa using h.dialect.readIdentifier_quote (h.workspaceSchema org ws) ends

/-! ## The job name's literal -/

theorem viewUnion_tag (jobName : String) :
    String.join (jobName.toList.map fun c => if c == '\'' then "''" else c.toString) =
      String.ofList (doubled '\'' jobName.toList) := by
  rw [← String.toList_inj]
  simp only [String.toList_join, String.toList_ofList, doubled, List.map_map, List.flatMap]
  congr 1
  apply List.map_congr_left
  intro c _
  by_cases hc : c = '\'' <;> simp [hc]

/-- The job name in the ready-view union is one string literal, the same in every part, that
reads back as the name under the dialect's rules, unless the dialect is MySQL and the name
holds a backslash. -/
theorem viewUnion_literal (d : Dialect) (schemas : List String) (view jobName : String) :
    ∃ lit : String,
      viewUnion d schemas view jobName = " UNION ALL ".intercalate (schemas.map fun s =>
        "SELECT ORGANIZATION_ID, WORKSPACE_ID, JOB_KEY, LAST_UPDATE_TIMESTAMP, " ++ lit ++
          " AS JOB_NAME FROM " ++ d.qualify s view) ∧
      ∀ rest : List Char, rest.head? ≠ some '\'' → (d.name ≠ Dialect.mysql.name ∨ '\\' ∉ jobName.toList) →
        d.readLiteral (lit.toList ++ rest) = some (jobName.toList, rest) := by
  refine ⟨"'" ++ String.ofList (doubled '\'' jobName.toList) ++ "'", ?_, fun rest ends plain => ?_⟩
  · -- the quotes around the name belong to the literal, not to the text around it
    have opening : ("SELECT ORGANIZATION_ID, WORKSPACE_ID, JOB_KEY, LAST_UPDATE_TIMESTAMP, '" : String) =
        "SELECT ORGANIZATION_ID, WORKSPACE_ID, JOB_KEY, LAST_UPDATE_TIMESTAMP, " ++ "'" := by simp
    have closing : ("' AS JOB_NAME FROM " : String) = "'" ++ " AS JOB_NAME FROM " := by simp
    rw [viewUnion, viewUnion_tag, opening, closing]
    simp only [String.append_assoc]
  · have plain : (d.name == Dialect.mysql.name) = false ∨ '\\' ∉ jobName.toList := by
      simpa [beq_eq_false_iff_ne] using plain
    simpa [Dialect.readLiteral, readQuoted] using unquote_doubled plain ends

/-- Names read back from the SQL text they are written into: a quoted identifier (the
dialect's quote, the name with quotes doubled, the quote) reads back as the name; a tenant's
table is bare or one quoted schema, dot and table, the schema the pattern filled in one pass;
and the job name's literal reads back as the name, but under MySQL with a backslash in it. -/
theorem names_read_back (d : Dialect) :
    (∀ (s : String) (rest : List Char), rest.head? ≠ some d.quoteChar →
      (d.quote s).toList = d.quoteChar :: doubled d.quoteChar s.toList ++ [d.quoteChar] ∧
        d.readIdentifier ((d.quote s).toList ++ rest) = some (s.toList, rest)) ∧
    (∀ (h : Handle) (org ws table : String), h.dialect = d → d.quoteChar ≠ '.' →
      SchemaPattern.Filled org ws h.workspacePattern.toList (h.workspaceSchema org ws).toList ∧
        (h.workspaceSchema org ws = "" ∨
            d.name = Dialect.sqlite.name ∧ h.workspaceSchema org ws = "main" →
          h.workspaceTable org ws table = table) ∧
        (¬ (h.workspaceSchema org ws = "" ∨
            d.name = Dialect.sqlite.name ∧ h.workspaceSchema org ws = "main") →
          d.readIdentifier (h.workspaceTable org ws table).toList =
            some ((h.workspaceSchema org ws).toList, '.' :: table.toList))) ∧
    (∀ (schemas : List String) (view jobName : String), ∃ lit : String,
      viewUnion d schemas view jobName = " UNION ALL ".intercalate (schemas.map fun s =>
        "SELECT ORGANIZATION_ID, WORKSPACE_ID, JOB_KEY, LAST_UPDATE_TIMESTAMP, " ++ lit ++
          " AS JOB_NAME FROM " ++ d.qualify s view) ∧
      ∀ rest : List Char, rest.head? ≠ some '\'' →
        (d.name ≠ Dialect.mysql.name ∨ '\\' ∉ jobName.toList) →
        d.readLiteral (lit.toList ++ rest) = some (jobName.toList, rest)) :=
  ⟨fun s _ ends => ⟨d.quote_toList s, d.readIdentifier_quote s ends⟩,
    fun h org ws table hd dot => by
      subst hd
      exact h.workspaceTable_read org ws table dot,
    viewUnion_literal d⟩

/-- A tenant id with a quote in it, under PostgreSQL: the quoted id reads back as the id, and
so does the schema of a pattern that holds it; a job name with a quote reads back from its
literal. -/
theorem names_read_back_with_quotes :
    Dialect.postgres.readIdentifier ((Dialect.postgres.quote "o\"1").toList ++ ['.']) =
        some ("o\"1".toList, ['.']) ∧
      Dialect.postgres.readIdentifier
          (({ dialect := .postgres, workspacePattern := "t_{organization_id}" } : Handle).workspaceTable
            "o\"1" "w" "T").toList = some ("t_o\"1".toList, '.' :: "T".toList) ∧
      (∃ lit : String,
        viewUnion .postgres ["s"] "V" "it's" = " UNION ALL ".intercalate (["s"].map fun s =>
          "SELECT ORGANIZATION_ID, WORKSPACE_ID, JOB_KEY, LAST_UPDATE_TIMESTAMP, " ++ lit ++
            " AS JOB_NAME FROM " ++ Dialect.postgres.qualify s "V") ∧
        Dialect.postgres.readLiteral (lit.toList ++ [' ']) = some ("it's".toList, [' '])) := by
  obtain ⟨quoted, table, literal⟩ := names_read_back .postgres
  have schema : ({ dialect := .postgres, workspacePattern := "t_{organization_id}" } : Handle).workspaceSchema
      "o\"1" "w" = "t_o\"1" := by
    rw [Handle.workspaceSchema, if_neg (by decide)]
    show String.ofList (SchemaPattern.fill "o\"1" "w" ('t' :: '_' :: ("{organization_id}".toList ++ []))) = _
    rw [SchemaPattern.fill_cons _ _ (by decide) (by decide), SchemaPattern.fill_cons _ _ (by decide) (by decide),
      SchemaPattern.fill_organization, SchemaPattern.fill_nil]
    decide
  obtain ⟨-, -, read⟩ := table { dialect := .postgres, workspacePattern := "t_{organization_id}" } "o\"1" "w" "T"
    rfl (by decide)
  obtain ⟨lit, text, read_literal⟩ := literal ["s"] "V" "it's"
  refine ⟨(quoted "o\"1" ['.'] (by decide)).2, ?_, lit, text,
    read_literal [' '] (by decide) (.inl (by decide))⟩
  rw [← schema]
  exact read (by rw [schema]; decide)

/-- Under MySQL a job name ending in a backslash escapes its closing quote: the literal runs
on past the name and is never closed. -/
theorem backslash_name_opens_literal :
    viewUnion .mysql ["s"] "V" "a\\" =
        "SELECT ORGANIZATION_ID, WORKSPACE_ID, JOB_KEY, LAST_UPDATE_TIMESTAMP, 'a\\' AS JOB_NAME FROM `s`.V" ∧
      Dialect.mysql.readLiteral ("'a\\' AS JOB_NAME FROM `s`.V".toList) = none := by
  constructor
  · decide
  · decide

end Foreman
