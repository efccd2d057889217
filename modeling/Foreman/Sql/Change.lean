import Foreman.Sql.Write

/-!
# Changing rows, and the triggers they fire

`INSERT`, `UPDATE` and `DELETE` change rows one at a time: `BEFORE` triggers see the row about
to be written as `new` and the replaced row as `old`; the row is checked and written (`Write`);
`RETURNING` is computed on the row as written; `AFTER` triggers see it. A view's `INSTEAD OF`
triggers do a change of the view. A trigger fires when its `WHEN` holds, never again while
running unless recursive triggers are on (then no deeper than `triggerDepth`); `temp` triggers
fire first. `RAISE(IGNORE)` drops the firing row; the other `RAISE`s end the statement with
code 1811.
-/

namespace Foreman.Sql

/-- Where a statement changing rows runs: at the top of a script, or as a trigger's step,
which sees `new` and `old`, looks table names up in its own schema unless temporary, and knows
the triggers running; and the `OR` clause settling its conflicts in place of its own. -/
structure Scope where
  pseudo : List SourceRow := []
  fixed : Option String := none
  running : List String := []
  orElse : Option Resolution := none
  /-- Whether foreign keys are enforced, so that their actions are carried out. -/
  foreignKeys : Bool := false
  /-- Whether triggers are kept from firing, as for the deletion `DROP TABLE` makes. -/
  quiet : Bool := false
  /-- Whether rows are held to their tables' checks. -/
  checks : Bool := true
  /-- The `RETURNING` clause of the statement, with the name its table is known by. -/
  returning : Option (String × List ResultColumn) := none
  deriving Inhabited

namespace Scope

/-- The names a statement of the scope sees on a catalog. -/
def env (sc : Scope) (catalog : Catalog) : Env :=
  { catalog, pseudo := sc.pseudo, fixed := sc.fixed, checks := sc.checks }

/-- How a statement of the scope settles its conflicts: by the clause of the statement
that fired its trigger, else by its own. -/
def settling (sc : Scope) (own : Option Resolution) : Option Resolution :=
  sc.orElse.orElse fun _ => own

end Scope

/-- The failure of a row that breaks a foreign key at once (`RESTRICT`). -/
def foreignKeyFailure : WriteFailure := ⟨{ code := 787, message := foreignKeyMessage }, .abort⟩

/-- Steps that change the catalog; a failure keeps the catalog as far as it got. -/
abbrev Change := ExceptT WriteFailure (StateM Catalog)

namespace Change

def write (w : Write α) : Change α :=
  match w with
  | .ok a => pure a
  | .error e => throw e

/-- Runs an evaluation step: its failure ends the statement as `Write.run` says. -/
def eval (r : Run α) : Change α := write (Write.run r)

def refuse (m : String) : Change α := throw ⟨Failure.logic m, .abort⟩

def table? (sn name : String) : Change (Option Table) := do
  return ((← get).schema? sn).bind (·.table? name)

def putTable (sn : String) (t : Table) : Change Unit :=
  modify fun c => c.modifySchema sn (·.putTable t)

end Change

/-- Evaluates the `RETURNING` clause of the scope's statement on a row it wrote (or
deleted): the values go nowhere, but a failure to compute them ends the statement. -/
def Scope.giveBack (sc : Scope) (schema : String) (t : Table) (rid : Int) (row : Array Value) :
    Change Unit := do
  let some (label, cols) := sc.returning | return
  let seen := [rowOf (targetSource label schema t) t (some rid) row]
  let env := sc.env (← get)
  for c in cols do
    if let .expr e _ _ := c then
      discard <| Change.eval (evalOn env seen e)

/-- Whether a trigger may fire while the triggers `running` run: when it is not one of
them, or when triggers may fire themselves. -/
def Catalog.mayFire (c : Catalog) (running : List String) (tr : Trigger) : Bool :=
  c.settings.recursiveTriggers || !running.any (sameName · tr.name)

/-- Whether any trigger that may fire fires on a change of a subject at a time. -/
def Catalog.anyTrigger (c : Catalog) (subj : Subject) (time : TriggerTime) (e : RowEvent)
    (running : List String) : Bool :=
  (c.triggersOn subj.schema subj.name).any fun (_, tr) =>
    tr.time == time && tr.firesOn e && c.mayFire running tr

def triggerDepth : Nat := 1000

/-- The row `new` of a view an `INSERT` proposes: the values given to the columns it
names (or to every column, in order), null for the others. -/
def Subject.givenRow (subj : Subject) (cols : Option (List Name)) (given : List Value) : Array Value :=
  match cols with
  | none => (subj.columns.zipIdx.map fun (_, i) => given.getD i .null).toArray
  | some cs =>
    (subj.columns.map fun c => match cs.findIdx? (sameName ·.text c) with
      | some i => given.getD i .null
      | none => .null).toArray

/-- The rows of the view a name stands for, each as the values of its columns. -/
def viewRows (catalog : Catalog) (q : QName) : Run (List (List Value)) :=
  match catalog.relation? (q.schema.map (·.text)) q.name.text with
  | some (.view sn v) => runSelect checkFuel { env := { catalog, fixed := triggerFixed sn } } v.query none
  | _ => pure []

/-- The values of the columns of a new row: the values given to the columns the
statement names (or to every column that takes one, in order), the others their default.
The value given to the row number, if any, comes apart. -/
def newRowValues (env : Env) (t : Table) (cols : Option (List Name)) (given : List Value) :
    Run (Option Value × Array Value) := do
  let n := t.columns.size
  let mut slots : Array (Option Value) := Array.replicate n none
  let mut rid : Option Value := none
  match cols with
  | none =>
    let targets := (List.range n).filter fun j =>
      let c := t.columns.getD j default
      !c.hidden && !c.generated
    for (j, v) in targets.zip given do
      slots := slots.set! j (some v)
      if t.rowidAlias == some j then rid := some v
  | some cs =>
    for (c, v) in cs.zip given do
      match t.columnIndex c.text with
      | some j =>
        if (slots.getD j none).isNone then
          slots := slots.set! j (some v)
          if t.rowidAlias == some j then rid := some v
      | none => if rid.isNone then rid := some v
  let mut vals : Array Value := #[]
  for j in [0:n] do
    match slots.getD j none with
    | some v => vals := vals.push v
    | none =>
      let c := t.columns.getD j default
      match c.default with
      | some d => if c.generated then vals := vals.push .null else vals := vals.push (← evalOn env [] d)
      | none => vals := vals.push .null
  return (rid, vals)

/-- The rows of an `INSERT`'s source: a single row of values, a query's rows, or one row
of defaults. -/
def insertRows (env : Env) (source : InsertSource) : Run (List (List Value)) :=
  match source with
  | .defaults => pure [[]]
  | .query (.mk [] (.values [row] _) []) => do pure [← row.mapM (evalOn env [])]
  | .query q => runSelect checkFuel { env } q none

def Table.subject (t : Table) (sn : String) : Subject :=
  { schema := sn, name := t.name, columns := t.visibleColumns, rowid := t.hasRowid }

/-- The label a statement's target is known by: its alias, else its name. -/
def Target.label (target : Target) (name : String) : String :=
  (target.asName.map (·.text)).getD name

mutual

/-- Fires the triggers of a subject for a change of one row at a time, with the rows they
see. True when a trigger's `RAISE(IGNORE)` dropped the row. -/
def fire : Nat → Scope → Subject → TriggerTime → RowEvent → List SourceRow → Change Bool
  | 0, _, _, _, _, _ => Change.refuse Parse.tooDeep
  | fuel + 1, sc, subj, time, event, rows => do
    if sc.quiet then return false
    let catalog ← get
    let triggers := catalog.triggersOn subj.schema subj.name
    for (tsn, tr) in triggers do
      if tr.time != time || !tr.firesOn event || !catalog.mayFire sc.running tr then continue
      if sc.running.length ≥ triggerDepth then Change.refuse "too many levels of trigger recursion"
      let inner : Scope :=
        { sc with pseudo := rows, fixed := triggerFixed tsn, running := tr.name :: sc.running, returning := none }
      let ran : Change Unit := do
        if let some w := tr.condition then
          let v ← Change.eval (evalOn (inner.env (← get)) [] w)
          if Value.truth v != some true then return
        runSteps fuel inner tr.body
      let ignored ← tryCatch (ran *> pure false) fun w =>
        if w.settled == .ignore then pure true else throw w
      if ignored then return true
    return false

def runSteps : Nat → Scope → List Stmt → Change Unit
  | 0, _, _ => Change.refuse Parse.tooDeep
  | fuel + 1, sc, steps => do
    for st in steps do
      match st with
      | .insert ctes orElse target cols source upserts _ =>
        runInsert fuel sc ctes (sc.settling orElse) (target.fixedTo sc.fixed) cols source upserts
      | .update ctes orElse target set _ filter _ =>
        runUpdate fuel sc ctes (sc.settling orElse) (target.fixedTo sc.fixed) set filter
      | .delete ctes target filter _ => runDelete fuel sc ctes (target.fixedTo sc.fixed) filter
      | .select q => discard <| Change.eval (runSelect checkFuel { env := sc.env (← get) } q none)
      | _ => pure ()

/-- Runs an `INSERT`, row by row, settling its conflicts by `orElse`. -/
def runInsert : Nat → Scope → List Cte → Option Resolution → Target → Option (List Name) →
    InsertSource → List Upsert → Change Unit
  | 0, _, _, _, _, _, _, _ => Change.refuse Parse.tooDeep
  | fuel + 1, sc, ctes, orElse, target, cols, source, upserts => do
    let catalog ← get
    let firing := { sc with orElse }
    match writableTable catalog target.table with
    | .error m => Change.refuse m
    | .ok none =>
      let some subj := catalog.subject? target.table | return
      let rows ← Change.eval (insertRows ((sc.env catalog).withCtes ctes) source)
      for r in rows do
        let row : SourceRow := { source := subj.source "new", values := subj.givenRow cols r }
        discard <| fire fuel firing subj .insteadOf .insert [row]
    | .ok (some (sn, t0)) =>
      let src := targetSource (target.label t0.name) sn t0
      let subj := t0.subject sn
      let rows ← Change.eval (insertRows ((sc.env catalog).withCtes ctes) source)
      for r in rows do
        let some t ← Change.table? sn t0.name | return
        let env := (sc.env (← get)).withCtes ctes
        let (given, full) ← Change.eval (newRowValues env t cols r)
        let vals := t.withAffinities full
        let asked ← Change.write (askedRowid given)
        if (← get).anyTrigger subj .before .insert sc.running then
          let rid := asked.getD (-1)
          let shown := match t.rowidAlias with
            | some j => vals.set! j (.int rid)
            | none => vals
          let shown ← Change.eval (t.generate env src (some rid) shown)
          if ← fire fuel firing subj .before .insert [rowOf (subj.source "new") t (some rid) shown] then
            continue
        let some t ← Change.table? sn t0.name | return
        let catalog ← get
        let env := (sc.env catalog).withCtes ctes
        let rid ← match asked with
          | some r => pure r
          | none => Change.write t.freshRowid
        match ← Change.write (proposeRow env catalog sn src t orElse upserts rid asked.isSome vals) with
        | .dropped => pure ()
        | .inserted t' rid written =>
          let t' := if t'.autoincrement then { t' with sequence := max t'.sequence rid } else t'
          Change.putTable sn t'
          sc.giveBack sn t' rid written
          discard <| fire fuel firing subj .after .insert [rowOf (subj.source "new") t' (some rid) written]
        | .update u other rid proposed =>
          let some (set, cond) := u.update | continue
          let some old := t.rowAt? other | continue
          let excluded : Source := { name := "excluded", columns := t.visibleColumns, qualifiedOnly := true }
          let seen := [rowOf src t (some other) old, rowOf excluded t (some rid) proposed]
          if let some w := cond then
            if Value.truth (← Change.eval (evalOn env seen w)) != some true then continue
          let assigned ← Change.eval (assignedValues env seen set)
          updateRow fuel sc subj src (some .abort) set.columnNames other old assigned

/-- Updates one row of a table: fires the `BEFORE UPDATE` triggers, then changes the row
as they left it (none when they removed it), then fires the `AFTER UPDATE` triggers. -/
def updateRow : Nat → Scope → Subject → Source → Option Resolution → List String → Int →
    Array Value → List (Name × Value) → Change Unit
  | 0, _, _, _, _, _, _, _, _ => Change.refuse Parse.tooDeep
  | fuel + 1, sc, subj, src, orElse, setCols, rid, old, assigned => do
    let firing := { sc with orElse }
    let event := RowEvent.update setCols
    let some t ← Change.table? subj.schema subj.name | return
    if (← get).anyTrigger subj .before event sc.running then
      let (newRid, shown) ← Change.write (t.assign rid old assigned)
      let shown ← Change.eval (t.generate (sc.env (← get)) src (some newRid) shown)
      let seen := [rowOf (subj.source "old") t (some rid) old, rowOf (subj.source "new") t (some newRid) shown]
      if ← fire fuel firing subj .before event seen then return
    let some t ← Change.table? subj.schema subj.name | return
    let some cur := t.rowAt? rid | return
    let catalog ← get
    match ← Change.write (changeRow (sc.env catalog) catalog subj.schema src t orElse rid cur assigned) with
    | none => pure ()
    | some (t', newRid, written) =>
      Change.putTable subj.schema t'
      if sc.foreignKeys then referActions fuel sc subj t' old (some written)
      sc.giveBack subj.schema t' newRid written
      let seen := [rowOf (subj.source "old") t (some rid) old, rowOf (subj.source "new") t' (some newRid) written]
      discard <| fire fuel firing subj .after event seen

/-- Deletes one row of a table: fires the `BEFORE DELETE` triggers, deletes the row unless
they removed it, carries out the actions of the foreign keys that refer to it, and fires
the `AFTER DELETE` triggers. -/
def deleteRow : Nat → Scope → Subject → Int → Change Unit
  | 0, _, _, _ => Change.refuse Parse.tooDeep
  | fuel + 1, sc, subj, rid => do
    -- the statements of the triggers a deletion fires settle their conflicts themselves
    let firing := { sc with orElse := none }
    let some t ← Change.table? subj.schema subj.name | return
    let some old := t.rowAt? rid | return
    if ← fire fuel firing subj .before .delete [rowOf (subj.source "old") t (some rid) old] then return
    let some t ← Change.table? subj.schema subj.name | return
    if (t.rowAt? rid).isNone then return
    let t' := t.dropRow rid
    Change.putTable subj.schema t'
    -- the actions of the keys fire the triggers of the rows they change
    if sc.foreignKeys then referActions fuel { sc with quiet := false } subj t' old none
    sc.giveBack subj.schema t rid old
    discard <| fire fuel firing subj .after .delete [rowOf (subj.source "old") t (some rid) old]

/-- Carries out the actions of the foreign keys referring to a parent row deleted (`new` is
none) or whose key changed to `new`'s: child rows referring to the old key are deleted or
changed with it (`CASCADE`), given nulls or defaults, or refuse the change (`RESTRICT`); with
no action they are left to the count of rows breaking the keys. -/
def referActions : Nat → Scope → Subject → Table → Array Value → Option (Array Value) → Change Unit
  | 0, _, _, _, _, _ => Change.refuse Parse.tooDeep
  | fuel + 1, sc, subj, p, old, new => do
    let sc := { sc with returning := none }
    let some s := (← get).schema? subj.schema | return
    for c in s.tables do
      for fk in c.foreignKeys do
        if !sameName fk.parent p.name then continue
        let some ks := s.parentKey? p fk | continue
        let oldKey := ks.map (old.getD · .null)
        if oldKey.any Value.isNull then continue
        let newKey := new.map fun nv => ks.map (nv.getD · .null)
        if let some nk := newKey then
          if (oldKey.zip nk).all (fun (a, b) => Value.compare false a b == 0) then continue
        let action := if new.isSome then fk.actions.onUpdate else fk.actions.onDelete
        if action == .noAction then continue
        let some child ← Change.table? subj.schema c.name | continue
        let rids := child.rows.toList.filterMap fun (rid, row) =>
          let key := fk.keyOf p ks row
          if !key.any Value.isNull && p.holdsKey ks key old then some rid else none
        if rids.isEmpty then continue
        let csub := child.subject subj.schema
        let src := targetSource child.name subj.schema child
        let colName (j : Nat) : Name := let n := (child.columns.getD j default).name; ⟨n, n⟩
        match action with
        | .restrict => throw foreignKeyFailure
        | .cascade =>
          match newKey with
          | none => for rid in rids do deleteRow fuel sc csub rid
          | some nk =>
            for rid in rids do
              let some ct ← Change.table? subj.schema c.name | return
              let some row := ct.rowAt? rid | continue
              let assigned := (fk.columns.zip nk).map fun (j, v) => (colName j, v)
              updateRow fuel { sc with orElse := none } csub src (some .abort)
                (assigned.map (·.1.text)) rid row assigned
        | _ =>
          for rid in rids do
            let some ct ← Change.table? subj.schema c.name | return
            let some row := ct.rowAt? rid | continue
            let mut assigned : List (Name × Value) := []
            for j in fk.columns do
              let v ← if action == .setNull then pure Value.null else
                match (ct.columns.getD j default).default with
                | some d => Change.eval (evalOn (sc.env (← get)) [] d)
                | none => pure Value.null
              assigned := assigned ++ [(colName j, v)]
            updateRow fuel { sc with orElse := none } csub src (some .abort)
              (assigned.map (·.1.text)) rid row assigned

/-- Runs an `UPDATE` of the rows its condition holds for, settling its conflicts by
`orElse`. The rows are chosen before any changes. -/
def runUpdate : Nat → Scope → List Cte → Option Resolution → Target → Assignments →
    Option Expr → Change Unit
  | 0, _, _, _, _, _, _ => Change.refuse Parse.tooDeep
  | fuel + 1, sc, ctes, orElse, target, set, filter => do
    let catalog ← get
    let env := (sc.env catalog).withCtes ctes
    match writableTable catalog target.table with
    | .error m => Change.refuse m
    | .ok none =>
      let some subj := catalog.subject? target.table | return
      let src : Source := { name := target.label subj.name, columns := subj.columns }
      let rows ← Change.eval (viewRows catalog target.table)
      for r in rows do
        let row : SourceRow := { source := src, values := r.toArray }
        if let some w := filter then
          if Value.truth (← Change.eval (evalOn env [row] w)) != some true then continue
        let assigned ← Change.eval (assignedValues env [row] set)
        let changed := assigned.foldl (fun vs (c, v) =>
          match subj.columns.findIdx? (sameName · c.text) with
          | some j => vs.set! j v
          | none => vs) r.toArray
        let seen : List SourceRow :=
          [{ source := subj.source "old", values := r.toArray }, { source := subj.source "new", values := changed }]
        discard <| fire fuel { sc with orElse } subj .insteadOf (.update set.columnNames) seen
    | .ok (some (sn, t0)) =>
      let src := targetSource (target.label t0.name) sn t0
      let subj := t0.subject sn
      let rids ← Change.eval (t0.rows.toList.filterMapM fun (rid, vals) => do
        match filter with
        | none => pure (some rid)
        | some w =>
          let v ← evalOn env [rowOf src t0 (some rid) vals] w
          pure (if Value.truth v == some true then some rid else none))
      for rid in rids do
        let some t ← Change.table? sn t0.name | return
        let some old := t.rowAt? rid | continue
        let env := (sc.env (← get)).withCtes ctes
        let assigned ← Change.eval (assignedValues env [rowOf src t (some rid) old] set)
        updateRow fuel sc subj src orElse set.columnNames rid old assigned

/-- Runs a `DELETE` of the rows its condition holds for. The rows are chosen before any
changes; a row a `BEFORE` trigger removed is passed over. -/
def runDelete : Nat → Scope → List Cte → Target → Option Expr → Change Unit
  | 0, _, _, _, _ => Change.refuse Parse.tooDeep
  | fuel + 1, sc, ctes, target, filter => do
    let catalog ← get
    let env := (sc.env catalog).withCtes ctes
    let firing := { sc with orElse := none }
    match writableTable catalog target.table with
    | .error m => Change.refuse m
    | .ok none =>
      let some subj := catalog.subject? target.table | return
      let src : Source := { name := target.label subj.name, columns := subj.columns }
      let rows ← Change.eval (viewRows catalog target.table)
      for r in rows do
        let row : SourceRow := { source := src, values := r.toArray }
        if let some w := filter then
          if Value.truth (← Change.eval (evalOn env [row] w)) != some true then continue
        discard <| fire fuel firing subj .insteadOf .delete [{ source := subj.source "old", values := r.toArray }]
    | .ok (some (sn, t0)) =>
      let src := targetSource (target.label t0.name) sn t0
      let subj := t0.subject sn
      let rids ← Change.eval (t0.rows.toList.filterMapM fun (rid, vals) => do
        match filter with
        | none => pure (some rid)
        | some w =>
          let v ← evalOn env [rowOf src t0 (some rid) vals] w
          pure (if Value.truth v == some true then some rid else none))
      let c ← get
      let referred := sc.foreignKeys && ((c.schema? sn).map fun sch =>
        sch.tables.any fun ct => ct.foreignKeys.any (sameName ·.parent t0.name)).getD false
      if !referred && !c.anyTrigger subj .before .delete sc.running &&
          !c.anyTrigger subj .after .delete sc.running then
        Change.putTable sn { t0 with rows := t0.rows.filter fun (rid, _) => !rids.contains rid }
        return
      for rid in rids do deleteRow fuel sc subj rid

end

end Foreman.Sql
