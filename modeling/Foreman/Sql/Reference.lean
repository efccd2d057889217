import Foreman.Sql.Catalog

/-!
# Foreign keys

A foreign key makes a child table's rows refer to rows of a parent in its schema: a child row
whose key columns are all non-null needs a parent row with the same values in the parent's
key, the row number or a unique key over exactly the columns named, else the key is a mismatch
(`foreign key mismatch - "c" referencing "p"`). A statement may leave no more parentless rows
than it found (`FOREIGN KEY constraint failed`); a deferred key is counted at the commit.
-/

namespace Foreman.Sql

/-- The failure of a statement that leaves a child row without a parent. -/
def foreignKeyMessage : String := "FOREIGN KEY constraint failed"

/-- The message of a foreign key whose parent has no key over the columns it refers to. -/
def mismatchMessage (child parent : String) : String :=
  "foreign key mismatch - \"" ++ child ++ "\" referencing \"" ++ parent ++ "\""

namespace Schema

/-- The unique keys of a table as foreign keys may refer to them: its own keys and the
unique indexes over plain columns made on it, each with whether it is the primary key. -/
def uniqueKeysOf (s : Schema) (p : Table) : List (List Nat × Bool) :=
  p.keys.map (fun k => (k.columns, k.primary)) ++
    (s.indexes.filter fun i => i.unique && sameName i.table p.name && i.filter.isNone &&
      i.columns.all Option.isSome).map fun i => (i.columns.filterMap id, false)

/-- The parent columns a foreign key refers to, in the order of its own columns, or none
when the parent has no key over them. -/
def parentKey? (s : Schema) (p : Table) (fk : ForeignKey) : Option (List Nat) :=
  let rowidKey : Option (List Nat) := match fk.columns, p.rowidAlias with
    | [_], some j =>
      match fk.parentColumns with
      | [] => some [j]
      | [c] => if sameName c (p.columns.getD j default).name then some [j] else none
      | _ => none
    | _, _ => none
  match rowidKey with
  | some ks => some ks
  | none =>
    let n := fk.columns.length
    match fk.parentColumns with
    | [] => ((s.uniqueKeysOf p).find? fun (cols, primary) => primary && cols.length == n).map (·.1)
    | named =>
      let wanted := named.map p.columnIndex
      if wanted.any Option.isNone || named.length != n then none
      else
        let ks := wanted.filterMap id
        let fits := (s.uniqueKeysOf p).any fun (cols, _) =>
          cols.length == n && cols.all (ks.contains ·)
        if fits then some ks else none

/-- The failure of finding a foreign key's parent and its key, if any: a parent that does
not exist in the schema, or one without a key over the columns referred to. -/
def parentFault (s : Schema) (sn : String) (child : Table) (fk : ForeignKey) : Option String :=
  match s.table? fk.parent with
  | none =>
    if (s.view? fk.parent).isSome then some (mismatchMessage child.name fk.parent)
    else some ("no such table: " ++ sn ++ "." ++ fk.parent)
  | some p => if (s.parentKey? p fk).isSome then none else some (mismatchMessage child.name fk.parent)

end Schema

/-- The values of a child row's key, as the parent's key columns would hold them. -/
def ForeignKey.keyOf (fk : ForeignKey) (p : Table) (ks : List Nat) (row : Array Value) : List Value :=
  (fk.columns.zip ks).map fun (j, k) =>
    Value.withAffinity (p.columns.getD k default).affinity (row.getD j .null)

/-- Whether a parent row holds a key's values, each compared under the parent column's
collation. -/
def Table.holdsKey (p : Table) (ks : List Nat) (key : List Value) (prow : Array Value) : Bool :=
  (ks.zip key).all fun (k, v) =>
    let nocase := ((p.columns.getD k default).collation.map (sameName · "NOCASE")).getD false
    Value.compare nocase (prow.getD k .null) v == 0

/-- Whether a child row finds its parent: a column of its key is null, or a parent row
holds its key. -/
def ForeignKey.found (fk : ForeignKey) (p : Table) (ks : List Nat) (row : Array Value) : Bool :=
  let key := fk.keyOf p ks row
  key.any Value.isNull || p.rows.any fun (_, prow) => p.holdsKey ks key prow

/-- The rows of a catalog that break its foreign keys, over the keys `counts` picks whose
parent and key can be found. -/
def Catalog.orphans (c : Catalog) (counts : ForeignKey → Bool) : Nat :=
  c.searchOrder.foldl (fun n (_, s) =>
    s.tables.foldl (fun n t =>
      t.foreignKeys.foldl (fun n fk =>
        if !counts fk then n
        else match s.table? fk.parent with
          | none => n
          | some p =>
            match s.parentKey? p fk with
            | none => n
            | some ks => n + (t.rows.toList.filter fun (_, row) => !fk.found p ks row).length) n) n) 0

end Foreman.Sql
