import Foreman.Sql.Token

/-!
# The text the schema table keeps

For each table, index, view, trigger and virtual table, the schema table keeps its creating
statement's text from the object's name to the last token, after its kind's words (`CREATE
TABLE`, `CREATE INDEX`, `CREATE UNIQUE INDEX`, `CREATE VIEW`, `CREATE TRIGGER`, `CREATE
VIRTUAL TABLE`), leaving out `TEMP`, `IF NOT EXISTS` and the schema's name. A table's text
marks where its column definitions end (before its first table constraint's comma, or at the
closing parenthesis), where `ADD COLUMN` writes. Renaming a table writes its new name in double
quotes, a column's only when it or the old name was quoted; dropping a column cuts its
definition out.
-/

namespace Foreman.Sql

namespace SchemaText

/-- Whether a token carries meaning: no blank, comment or end of the text. -/
def meaningful (t : Token) : Bool :=
  match t.kind with
  | .space | .comment | .finish => false
  | _ => true

def isWord (w : String) (t : Token) : Bool := t.kind == .keyword w

def isMark (m : String) (t : Token) : Bool := t.kind == .op m

def slice (text : Array Char) (start stop : Nat) : String :=
  String.ofList ((text.extract start stop).toList)

/-- Where the column definitions of a table's text end, counted in the tokens after the
opening parenthesis: the first comma at the top level followed by a table constraint, else
the closing parenthesis. -/
def columnsEnd (toks : List Token) : Option Token :=
  let constraintWords := ["CONSTRAINT", "PRIMARY", "UNIQUE", "CHECK", "FOREIGN"]
  let rec go (depth : Nat) : List Token → Option Token
    | [] => none
    | t :: rest =>
      if isMark "(" t then go (depth + 1) rest
      else if isMark ")" t then
        if depth == 0 then some t else go (depth - 1) rest
      else if isMark "," t && depth == 0 then
        match rest with
        | n :: _ =>
          if constraintWords.any (isWord · n) then some t else go depth rest
        | [] => none
      else go depth rest
  go 0 toks

/-- The text the schema table keeps for the object a statement creates, given the
statement's tokens, and for a table where its column definitions end in that text; for
`ALTER TABLE ... ADD COLUMN`, the new column's definition as written. -/
def ofStatement (text : Array Char) (tokens : List Token) : Option (String × Nat) :=
  let toks := tokens.filter meaningful
  let toks := (toks.reverse.dropWhile (isMark ";")).reverse
  match toks.getLast? with
  | none => none
  | some lastTok =>
    match toks with
    | c :: rest =>
      if isWord "CREATE" c then
        let rest := rest.dropWhile fun t => isWord "TEMP" t || isWord "TEMPORARY" t
        let kind : Option (String × List Token) := match rest with
          | t :: more =>
            if isWord "TABLE" t then some ("TABLE", more)
            else if isWord "VIEW" t then some ("VIEW", more)
            else if isWord "INDEX" t then some ("INDEX", more)
            else if isWord "TRIGGER" t then some ("TRIGGER", more)
            else if isWord "UNIQUE" t then
              match more with
              | i :: more' => if isWord "INDEX" i then some ("UNIQUE INDEX", more') else none
              | [] => none
            else if isWord "VIRTUAL" t then
              match more with
              | i :: more' => if isWord "TABLE" i then some ("VIRTUAL TABLE", more') else none
              | [] => none
            else none
          | [] => none
        match kind with
        | none => none
        | some (kindText, more) =>
          let more := match more with
            | i :: n :: e :: after =>
              if isWord "IF" i && isWord "NOT" n && isWord "EXISTS" e then after else more
            | _ => more
          let named := match more with
            | _ :: dot :: n :: after => if isMark "." dot then n :: after else more
            | _ => more
          match named with
          | nameTok :: afterName =>
            let head := "CREATE " ++ kindText ++ " "
            let sql := head ++ slice text nameTok.start lastTok.stop
            let offset := match afterName with
              | p :: body =>
                if kindText == "TABLE" && isMark "(" p then
                  match columnsEnd body with
                  | some t => head.length + (t.start - nameTok.start)
                  | none => 0
                else 0
              | [] => 0
            some (sql, offset)
          | [] => none
      else if isWord "ALTER" c then
        let afterAdd := (rest.dropWhile (!isWord "ADD" ·)).drop 1
        let afterAdd := match afterAdd with
          | t :: more => if isWord "COLUMN" t then more else afterAdd
          | [] => []
        match afterAdd with
        | first :: _ => some (slice text first.start lastTok.stop, 0)
        | [] => none
      else none
    | [] => none

def quoted (name : String) : String := "\"" ++ name.replace "\"" "\"\"" ++ "\""

/-- Whether a token is a name (or a word that stands for one) equal to `name`. -/
def namesAs (name : String) (t : Token) : Bool :=
  let stripped :=
    match t.text.toList with
    | q :: body =>
      if q == '"' || q == '`' || q == '[' then String.ofList (body.take (body.length - 1)) else t.text
    | [] => t.text
  match t.kind with
  | .name | .keyword _ | .string => stripped.map Char.toLower == name.map Char.toLower
  | _ => false

def replaceToken (sql : String) (t : Token) (replacement : String) : String :=
  let cs := sql.toList
  String.ofList (cs.take t.start ++ replacement.toList ++ cs.drop t.stop)

/-- The text of a table after its table is renamed: the name after `CREATE TABLE`. -/
def renameTable (sql newName : String) : String :=
  match ((tokenize sql).toList.filter meaningful).drop 2 with
  | t :: _ => replaceToken sql t (quoted newName)
  | [] => sql

/-- The text of an index or a trigger after the table it is on is renamed: the name after
the first `ON`. -/
def renameTarget (sql oldName newName : String) : String :=
  let toks := (tokenize sql).toList.filter meaningful
  match (toks.dropWhile (!isWord "ON" ·)).drop 1 with
  | t :: _ => if namesAs oldName t then replaceToken sql t (quoted newName) else sql
  | [] => sql

/-- What a walk through a table text's column definitions has seen: its parenthesis depth
(1 inside the definitions), whether the next token starts a definition or a table constraint,
whether it just passed `REFERENCES` (2) or the parent's name (1), the depth of the parent's
column list when the parent is another table, and whether the list closed. -/
structure Walk where
  depth : Nat := 0
  itemStart : Bool := false
  afterReferences : Nat := 0
  parentColumns : Option Nat := none
  closed : Bool := false

def constraintWords : List String := ["CONSTRAINT", "PRIMARY", "UNIQUE", "CHECK", "FOREIGN"]

/-- The tokens of a table's text naming one of its columns, in order, each with whether it
starts a definition: each definition's name, and every name within a definition's or table
constraint's parentheses, except the column list of a parent other than `table`. `named`
picks the names wanted. -/
def columnMentions (toks : List Token) (table : String) (named : Token → Bool) : List (Token × Bool) :=
  let step (acc : Walk × List (Token × Bool)) (t : Token) : Walk × List (Token × Bool) :=
    let (w, found) := acc
    if w.closed then (w, found)
    else if w.depth == 0 then
      if isMark "(" t then ({ w with depth := 1, itemStart := true }, found) else (w, found)
    else if isMark "(" t then
      let parentColumns := if w.afterReferences == 1 && w.parentColumns.isNone then some (w.depth + 1) else w.parentColumns
      ({ w with depth := w.depth + 1, afterReferences := 0, parentColumns }, found)
    else if isMark ")" t then
      let parentColumns := if w.parentColumns == some w.depth then none else w.parentColumns
      ({ w with depth := w.depth - 1, parentColumns, closed := w.depth == 1 }, found)
    else if w.depth == 1 && isMark "," t then ({ w with itemStart := true, afterReferences := 0 }, found)
    else if isWord "REFERENCES" t then ({ w with afterReferences := 2, itemStart := false }, found)
    else if w.afterReferences == 2 then
      -- the parent's name: its column list is left alone unless it is the table itself
      ({ w with afterReferences := if namesAs table t then 0 else 1 }, found)
    else if w.itemStart then
      let isColumn := !constraintWords.any (isWord · t)
      let found := if isColumn && named t then found ++ [(t, true)] else found
      ({ w with itemStart := false, afterReferences := 0 }, found)
    else
      let found := if w.depth ≥ 2 && w.parentColumns.isNone && named t then found ++ [(t, false)] else found
      ({ w with afterReferences := 0 }, found)
  (toks.foldl step ({}, [])).2

/-- Whether a token is a name (or a word standing for one), not a string. -/
def isNameToken (t : Token) : Bool :=
  match t.kind with
  | .name | .keyword _ => true
  | _ => false

/-- Writes a new name over tokens of a text, the last first so that the offsets of the
others stay: unquoted where the old name was written without quotes and the new one was
not quoted, in double quotes otherwise. -/
def replaceNames (sql : String) (toks : List Token) (newName : String) (quote : Bool) : String :=
  (toks.reverse).foldl (fun acc t =>
    let plain := !quote && (t.text.toList.head?.map fun c => c.isAlpha || c == '_' || c == '$' || c.toNat ≥ 128).getD false
    replaceToken acc t (if plain then newName else quoted newName)) sql

/-- The text of a table after one of its columns is renamed: every mention of the column
in its definitions and table constraints. `quote` when the new name was written quoted. -/
def renameColumn (sql table oldName newName : String) (quote : Bool) : String :=
  let toks := (tokenize sql).toList.filter meaningful
  let mentions := columnMentions toks table fun t => isNameToken t && namesAs oldName t
  replaceNames sql (mentions.map (·.1)) newName quote

/-- The text of an index after a column of its table is renamed: every mention of the
column after the table's name. -/
def renameIndexColumn (sql oldName newName : String) (quote : Bool) : String :=
  let toks := (tokenize sql).toList.filter meaningful
  let after := (toks.dropWhile (!isWord "ON" ·)).drop 2
  replaceNames sql (after.filter fun t => isNameToken t && namesAs oldName t) newName quote

/-- The text of a table after its column at `index` is dropped, with where its column
definitions now end: a column before the last goes with everything up to the next
definition; the last goes from the comma before it to where the definitions end. -/
def dropColumn (sql table : String) (columnsEnd index : Nat) : String × Nat :=
  let toks := (tokenize sql).toList.filter meaningful
  let starts := ((columnMentions toks table fun _ => true).filter (·.2)).map (·.1)
  let cs := sql.toList
  match starts[index]? with
  | none => (sql, columnsEnd)
  | some t =>
    let (cut, stop) := match starts[index + 1]? with
      | some next => (t.start, next.start)
      | none =>
        let comma := ((List.range t.start).reverse.find? fun k => cs.getD k ' ' == ',').getD t.start
        (comma, columnsEnd)
    (String.ofList (cs.take cut ++ cs.drop stop), columnsEnd - (stop - cut))

/-- The text of a table with a column's definition added where its definitions end. -/
def addColumn (sql : String) (offset : Nat) (definition : String) : String × Nat :=
  let cs := sql.toList
  let piece := ", " ++ definition
  (String.ofList (cs.take offset ++ piece.toList ++ cs.drop offset), offset + piece.length)

end SchemaText

end Foreman.Sql
