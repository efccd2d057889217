import Mathlib
import Foreman.Proofs.Json.Printing
import Foreman.Config.Source

/-!
# Configuration documents read back

Reading the text `Config.toJson` writes with `Config.decode` gives the document back
(`Config.decode_toJson`) whenever JSON can carry its values (`Config.Representable`):
64-bit integers, job types in name order, and extra settings that are the compact text of
one JSON value with room for their nesting. A duration goes as a string and comes back as
that string. Each section is read from the fields its text writes; an optional field not
written keeps its default, the value that made it optional (`foldlM_optional`).
-/

namespace Foreman

set_option autoImplicit false

open Json

/-! ## Integers -/

theorem toNat!_of_toNat? {s : String} {n : Nat} (h : s.toNat? = some n) : s.toNat! = n := by
  unfold String.toNat? String.Slice.toNat? at h
  unfold String.toNat! String.Slice.toNat!
  split_ifs at h ⊢
  simpa using h

theorem toNat!_toDigits (m : Nat) : (String.ofList (Nat.toDigits 10 m)).toNat! = m := by
  rw [← Nat.repr_eq_ofList_toDigits]
  exact toNat!_of_toNat? (Nat.toNat?_repr m)

theorem Field.int64?_toString {n : Int} (hlo : -(2 ^ 63) ≤ n) (hhi : n < 2 ^ 63) :
    Field.int64? (toString n) = some n := by
  unfold Field.int64?
  rw [Int.toString_eq_repr]
  cases n with
  | ofNat m =>
    have hd : ∀ c ∈ Nat.toDigits 10 m, c.isDigit :=
      fun c hc => Nat.isDigit_of_mem_toDigits (by decide) (by decide) hc
    obtain ⟨d, t, ht⟩ := List.exists_cons_of_ne_nil (Nat.toDigits_ne_nil (n := m) (b := 10))
    have hdm : d ≠ '-' := by
      rintro rfl
      have := hd '-' (by simp [ht])
      revert this
      decide
    have hall : (Nat.toDigits 10 m).all Char.isDigit = true := List.all_eq_true.2 hd
    have hnat := toNat!_toDigits m
    simp only [Int.repr, Nat.repr_eq_ofList_toDigits, String.toList_ofList]
    rw [ht] at hall hnat ⊢
    simp only [String.ofList_cons] at hnat
    simp [hdm, hall, hnat]
    simp only [Int.ofNat_eq_natCast] at hhi
    omega
  | negSucc m =>
    have hd : ∀ c ∈ Nat.toDigits 10 (m + 1), c.isDigit :=
      fun c hc => Nat.isDigit_of_mem_toDigits (by decide) (by decide) hc
    have hall : (Nat.toDigits 10 (m + 1)).all Char.isDigit = true := List.all_eq_true.2 hd
    have hne : (Nat.toDigits 10 (m + 1)).isEmpty = false := by simp [Nat.toDigits_ne_nil]
    simp [Int.repr, Nat.repr_eq_ofList_toDigits, hall, hne, toNat!_toDigits]
    rw [Int.negSucc_eq] at hlo ⊢
    omega

def Int64Range (n : Int) : Prop := -(2 ^ 63) ≤ n ∧ n < 2 ^ 63

instance : DecidablePred Int64Range := fun n =>
  inferInstanceAs (Decidable (-(2 ^ 63) ≤ n ∧ n < 2 ^ 63))

theorem Field.int_written {n cur : Int} {p : Place} (h : Int64Range n) :
    Field.int cur p (written (.int n)) = pure n := by
  simp only [Field.int, written, Json.int, Field.int64?_toString h.1 h.2]

/-! ## Members -/

@[simp] theorem Decoding.run_pure {α : Type} (a : α) : (pure a : Decoding α).run = .ok a := rfl

theorem writtenMembers_append (a b : List (String × Json)) :
    writtenMembers (a ++ b) = writtenMembers a ++ writtenMembers b := by
  induction a with
  | nil => rfl
  | cons m a ih =>
    obtain ⟨k, v⟩ := m
    simp [writtenMembers, ih]

/-- Reading an optional member into a record that still holds the field's default: a member that
is written sets the field, and one that is not leaves the default, which is what it would set. -/
theorem foldlM_optional {α : Type} (step : α → String × Written → Decoding α) (keep : Bool)
    (key : String) (v : Json) (acc : α) (upd : α → α)
    (hkeep : keep = true → step acc (key, written v) = pure (upd acc))
    (hskip : keep = false → upd acc = acc) :
    (writtenMembers (Config.optional keep key v)).foldlM step acc = pure (upd acc) := by
  cases keep with
  | false => simp [Config.optional, writtenMembers, hskip rfl]
  | true => simp [Config.optional, writtenMembers, hkeep rfl]

/-! ## Sections -/

theorem loggingJson_reads (l : LoggingSection) (p : Place) :
    Field.record "config.LoggingConfig" "LoggingConfig" ConfigRead.loggingFields (some p) {}
      (written (Config.loggingJson l)) = pure l := by
  simp only [Field.record, Field.recordWith, Config.loggingJson, written, writtenMembers_append,
    List.foldlM_append]
  simp [writtenMembers, List.foldlM_cons, Field.find?, ConfigRead.loggingFields, Field.text,
    Field.flag, written]
  rw [foldlM_optional _ _ _ _ _ (fun acc => { acc with json := l.json })
    (fun h => by simp [h, written]) (fun h => by simp [h])]
  simp [Field.record, Field.recordWith, List.foldlM_cons, Field.find?, ConfigRead.logFileFields,
    Field.text, Field.flag]

theorem databaseJson_reads (d : DatabaseSection) (p : Place) (hd : Int64Range d.maxOpenConns) :
    Field.record "config.DatabaseConfig" "DatabaseConfig" ConfigRead.databaseFields (some p) {}
      (written (Config.databaseJson d)) = pure d := by
  simp only [Field.record, Field.recordWith, Config.databaseJson, written, writtenMembers_append,
    List.foldlM_append]
  simp [writtenMembers, List.foldlM_cons, Field.find?, ConfigRead.databaseFields, Field.text,
    written]
  rw [foldlM_optional _ _ _ _ _ (fun acc => { acc with maxOpenConns := d.maxOpenConns })
    (fun _ => by simp [Field.int_written hd]) (fun h => by simp at h; simp [h])]
  simp only [pure_bind]
  rw [foldlM_optional _ _ _ _ _ (fun acc => { acc with busyTimeout := d.busyTimeout })
    (fun _ => by simp [written, Field.duration]) (fun h => by simp at h; simp [h])]
  simp only [pure_bind]
  rw [foldlM_optional _ _ _ _ _ (fun acc => { acc with connectTimeout := d.connectTimeout })
    (fun _ => by simp [written, Field.duration]) (fun h => by simp at h; simp [h])]
  simp only [pure_bind]
  rw [foldlM_optional _ _ _ _ _ (fun acc => { acc with workspaceSchema := d.workspaceSchema })
    (fun _ => by simp [written]) (fun h => by simp at h; simp [h])]

theorem managerJson_reads (m : ManagerSection) (p : Place) (hpool : Int64Range m.poolSize)
    (hjobs : Int64Range m.maxJobPerProcess) (hrows : Int64Range m.queueLoadRows) :
    Field.record "config.ManagerConfig" "ManagerConfig" ConfigRead.managerFields (some p) {}
      (written (Config.managerJson m)) = pure m := by
  simp only [Field.record, Field.recordWith, Config.managerJson, written, writtenMembers_append,
    List.foldlM_append]
  rw [foldlM_optional _ _ _ _ _ (fun acc => { acc with poolSize := m.poolSize })
    (fun _ => by simp [Field.find?, ConfigRead.managerFields, Field.int_written hpool])
    (fun h => by simp at h; simp [h]), pure_bind]
  rw [foldlM_optional _ _ _ _ _ (fun acc => { acc with watchInterval := m.watchInterval })
    (fun _ => by simp [Field.find?, ConfigRead.managerFields, written, Field.duration])
    (fun h => by simp at h; simp [h]), pure_bind]
  rw [foldlM_optional _ _ _ _ _
    (fun acc => { acc with dbReconnectInterval := m.dbReconnectInterval })
    (fun _ => by simp [Field.find?, ConfigRead.managerFields, written, Field.duration])
    (fun h => by simp at h; simp [h]), pure_bind]
  rw [foldlM_optional _ _ _ _ _
    (fun acc => { acc with exceptionRestartInterval := m.exceptionRestartInterval })
    (fun _ => by simp [Field.find?, ConfigRead.managerFields, written, Field.duration])
    (fun h => by simp at h; simp [h]), pure_bind]
  rw [foldlM_optional _ _ _ _ _
    (fun acc => { acc with queueWatchInterval := m.queueWatchInterval })
    (fun _ => by simp [Field.find?, ConfigRead.managerFields, written, Field.duration])
    (fun h => by simp at h; simp [h]), pure_bind]
  rw [foldlM_optional _ _ _ _ _
    (fun acc => { acc with maintenanceCheckInterval := m.maintenanceCheckInterval })
    (fun _ => by simp [Field.find?, ConfigRead.managerFields, written, Field.duration])
    (fun h => by simp at h; simp [h]), pure_bind]
  rw [foldlM_optional _ _ _ _ _ (fun acc => { acc with jobCancelTimeout := m.jobCancelTimeout })
    (fun _ => by simp [Field.find?, ConfigRead.managerFields, written, Field.duration])
    (fun h => by simp at h; simp [h]), pure_bind]
  rw [foldlM_optional _ _ _ _ _ (fun acc => { acc with maxJobPerProcess := m.maxJobPerProcess })
    (fun _ => by simp [Field.find?, ConfigRead.managerFields, Field.int_written hjobs])
    (fun h => by simp at h; simp [h]), pure_bind]
  rw [foldlM_optional _ _ _ _ _ (fun acc => { acc with queueLoadRows := m.queueLoadRows })
    (fun _ => by simp [Field.find?, ConfigRead.managerFields, Field.int_written hrows])
    (fun h => by simp at h; simp [h]), pure_bind]
  rw [foldlM_optional _ _ _ _ _ (fun acc => { acc with acceptableMin := m.acceptableMin })
    (fun _ => by simp [Field.find?, ConfigRead.managerFields, written, Field.duration])
    (fun h => by simp at h; simp [h]), pure_bind]
  rw [foldlM_optional _ _ _ _ _ (fun acc => { acc with sharedDir := m.sharedDir })
    (fun _ => by simp [Field.find?, ConfigRead.managerFields, written, Field.text])
    (fun h => by simp at h; simp [h])]

theorem cleanupJson_reads (c : CleanUpSection) (p : Place) :
    Field.record "config.CleanUpConfig" "CleanUpConfig" ConfigRead.cleanUpFields (some p) {}
      (written (.obj (Config.optional (c.schedule != "") "schedule" (.str c.schedule)))) =
      pure c := by
  simp only [Field.record, Field.recordWith, written]
  rw [foldlM_optional _ _ _ _ _ (fun acc => { acc with schedule := c.schedule })
    (fun _ => by simp [Field.find?, ConfigRead.cleanUpFields, written, Field.text])
    (fun h => by obtain ⟨schedule⟩ := c; simp at h; simp [h])]

/-! ## Job types -/

/-- Extra settings a job type can carry through its document: the compact text of exactly one
JSON value, nested so that below the document, its job table and its job type it stays within
the reader's depth. -/
def FitsExtra (e : String) : Prop :=
  compactText e = e ∧ ∃ w, readWhole e = .ok w ∧ w.text = e ∧ 3 + w.depth ≤ maxDepth

structure JobSection.Representable (j : JobSection) : Prop where
  maxJobPerProcess : Int64Range j.maxJobPerProcess
  extra : ∀ e, j.extra = some e → FitsExtra e

theorem FitsExtra.ne_empty {e : String} (h : FitsExtra e) : e ≠ "" := by
  rintro rfl
  obtain ⟨-, w, hw, -⟩ := h
  exact nomatch hw

theorem jobJson_reads (j : JobSection) (hj : j.Representable) :
    Field.record "config.tmp" "tmp" ConfigRead.jobFields none {} (written (Config.jobJson j)) =
      pure j := by
  obtain ⟨executor, timeout, maxJobs, extra⟩ := j
  have hmax : Int64Range maxJobs := hj.maxJobPerProcess
  simp only [Field.record, Field.recordWith, Config.jobJson, written, writtenMembers_append,
    List.foldlM_append]
  rw [foldlM_optional _ _ _ _ _ (fun acc => { acc with executor := executor })
    (fun _ => by simp [Field.find?, ConfigRead.jobFields, written, Field.text])
    (fun h => by simp at h; simp [h]), pure_bind]
  simp [writtenMembers, Field.find?, ConfigRead.jobFields, written, Field.duration,
    Field.int_written hmax]
  cases extra with
  | none => simp [writtenMembers]
  | some e =>
    have hne := (hj.extra e rfl).ne_empty
    obtain ⟨hc, w, hw, htext, -⟩ := hj.extra e rfl
    simp [hc, hne, Config.optional, writtenMembers, written, hw, htext]

theorem JobTable.insert_of_lt {t : JobTable} {k : String} (j : JobSection)
    (h : ∀ p ∈ t, p.1 < k) : t.insert k j = t ++ [(k, j)] := by
  induction t with
  | nil => rfl
  | cons p t ih =>
    obtain ⟨k', j'⟩ := p
    have hlt : k' < k := h (k', j') (List.mem_cons_self ..)
    have hne : (k == k') = false := by simpa using ne_of_gt hlt
    have hnlt : ¬ k < k' := lt_asymm hlt
    simp only [JobTable.insert, hne, hnlt, if_false, Bool.false_eq_true, List.cons_append]
    rw [ih fun p hp => h p (List.mem_cons_of_mem _ hp)]

/-- Job types written in the order of their names are read back into the same table: each one
is inserted after all the names before it. -/
theorem foldlM_jobs (f : String × JobSection → String × Json)
    (step : Option JobTable → String × Written → Decoding (Option JobTable))
    (hf : ∀ k j, f (k, j) = (k, Config.jobJson j))
    (hstep : ∀ acc k j, j.Representable →
      step acc (k, written (Config.jobJson j)) = pure (some ((acc.getD []).insert k j))) :
    ∀ (t pre : JobTable), (pre ++ t).Pairwise (fun a b => a.1 < b.1) →
      (∀ p ∈ t, p.2.Representable) →
      (writtenMembers (t.map f)).foldlM step (some pre) = pure (some (pre ++ t))
  | [], pre, _, _ => by simp [writtenMembers]
  | (k, j) :: t, pre, hsorted, hj => by
    have hlt : ∀ p ∈ pre, p.1 < k :=
      fun p hp => (List.pairwise_append.1 hsorted).2.2 p hp (k, j) (List.mem_cons_self ..)
    have hsorted' : (pre ++ [(k, j)] ++ t).Pairwise (fun a b => a.1 < b.1) := by simpa using hsorted
    simp only [List.map_cons, hf, writtenMembers, List.foldlM_cons,
      hstep _ k j (hj (k, j) (List.mem_cons_self ..)), pure_bind, Option.getD_some,
      JobTable.insert_of_lt j hlt]
    rw [foldlM_jobs f step hf hstep t (pre ++ [(k, j)]) hsorted'
      fun p hp => hj p (List.mem_cons_of_mem _ hp)]
    simp

/-! ## The document -/

/-- A document whose values its JSON text carries: integers within 64 bits, job types in the
order of their names, and extra settings that fit (`FitsExtra`). -/
structure Config.Representable (c : Config) : Prop where
  maxOpenConns : Int64Range c.database.maxOpenConns
  poolSize : Int64Range c.manager.poolSize
  maxJobPerProcess : Int64Range c.manager.maxJobPerProcess
  queueLoadRows : Int64Range c.manager.queueLoadRows
  jobsSorted : ∀ t, c.jobs = some t → t.Pairwise (fun a b => a.1 < b.1)
  jobs : ∀ t, c.jobs = some t → ∀ p ∈ t, p.2.Representable

theorem toJson_reads (c : Config) (hc : c.Representable) :
    Field.record "config.Config" "Config" ConfigRead.configFields none {}
      (written (Config.toJson c)) = pure c := by
  obtain ⟨logging, database, manager, cleanup, jobs⟩ := c
  rw [Config.toJson, written]
  simp only [Field.record, Field.recordWith, writtenMembers, List.foldlM_cons, List.foldlM_nil]
  simp [Field.find?, ConfigRead.configFields, loggingJson_reads,
    databaseJson_reads _ _ hc.maxOpenConns,
    managerJson_reads _ _ hc.poolSize hc.maxJobPerProcess hc.queueLoadRows, cleanupJson_reads]
  cases jobs with
  | none => simp [ConfigRead.jobs, written]
  | some t =>
    have hjobs : ConfigRead.jobs ⟨"Config", ["jobs"]⟩ none
        (written (.obj (t.map fun p => (p.1, Config.jobJson p.2)))) = pure (some t) := by
      simp only [ConfigRead.jobs, written, Option.getD_none]
      rw [foldlM_jobs _ _ (fun _ _ => rfl)
        (fun acc k j hj => by simp [ConfigRead.job, jobJson_reads j hj])
        t [] (by simpa using hc.jobsSorted t rfl) (hc.jobs t rfl)]
      rfl
    simp [hjobs]

/-! ## The document's text -/

@[simp] theorem membersEmbed_append (a b : List (String × Json)) :
    MembersEmbed (a ++ b) ↔ MembersEmbed a ∧ MembersEmbed b := by
  induction a with
  | nil => simp [MembersEmbed]
  | cons m a ih =>
    obtain ⟨k, v⟩ := m
    simp [MembersEmbed, ih, and_assoc]

@[simp] theorem membersEmbed_optional (keep : Bool) (key : String) (v : Json) :
    MembersEmbed (Config.optional keep key v) ↔ (keep = true → Embeds v) := by
  cases keep <;> simp [Config.optional, MembersEmbed]

theorem Written.membersDepth_append (a b : List (String × Written)) :
    Written.membersDepth (a ++ b) = max (Written.membersDepth a) (Written.membersDepth b) := by
  induction a with
  | nil => simp [Written.membersDepth]
  | cons m a ih =>
    obtain ⟨k, v⟩ := m
    simp [Written.membersDepth, ih, max_assoc]

@[simp] theorem membersDepth_written_append (a b : List (String × Json)) :
    Written.membersDepth (writtenMembers (a ++ b)) =
      max (Written.membersDepth (writtenMembers a)) (Written.membersDepth (writtenMembers b)) := by
  rw [writtenMembers_append, Written.membersDepth_append]

@[simp] theorem membersDepth_written_optional (keep : Bool) (key : String) (v : Json) :
    Written.membersDepth (writtenMembers (Config.optional keep key v)) =
      if keep then (written v).depth else 0 := by
  cases keep <;> simp [Config.optional, writtenMembers, Written.membersDepth]

theorem membersEmbed_of_forall : ∀ {ms : List (String × Json)}, (∀ m ∈ ms, Embeds m.2) →
    MembersEmbed ms
  | [], _ => trivial
  | _ :: _, h => ⟨h _ (List.mem_cons_self ..),
      membersEmbed_of_forall fun m hm => h m (List.mem_cons_of_mem _ hm)⟩

theorem membersDepth_le_of_forall {n : Nat} : ∀ {ms : List (String × Json)},
    (∀ m ∈ ms, (written m.2).depth ≤ n) → Written.membersDepth (writtenMembers ms) ≤ n
  | [], _ => Nat.zero_le n
  | (_, v) :: _, h => by
    rw [writtenMembers, Written.membersDepth]
    exact max_le (h _ (List.mem_cons_self ..))
      (membersDepth_le_of_forall fun m hm => h m (List.mem_cons_of_mem _ hm))

theorem embeds_int (n : Int) : Embeds (Json.int n) := readNumber_int n

theorem jobJson_embeds (j : JobSection) (hj : j.Representable) : Embeds (Config.jobJson j) := by
  obtain ⟨executor, timeout, maxJobs, extra⟩ := j
  cases extra with
  | none => simp [Config.jobJson, Embeds, MembersEmbed, embeds_int]
  | some e =>
    have hne := (hj.extra e rfl).ne_empty
    obtain ⟨hc, w, hw, htext, -⟩ := hj.extra e rfl
    simp [Config.jobJson, Embeds, MembersEmbed, embeds_int, hne, hc]
    exact ⟨w, hw, htext⟩

theorem jobJson_depth (j : JobSection) (hj : j.Representable) :
    (written (Config.jobJson j)).depth + 2 ≤ maxDepth := by
  obtain ⟨executor, timeout, maxJobs, extra⟩ := j
  cases extra with
  | none => simp [Config.jobJson, written, Written.depth, writtenMembers, Written.membersDepth,
      Json.int, maxDepth]
  | some e =>
    have hne := (hj.extra e rfl).ne_empty
    obtain ⟨hc, w, hw, -, hd⟩ := hj.extra e rfl
    simp [Config.jobJson, written, Written.depth, writtenMembers, Written.membersDepth, Json.int,
      hne, hc, hw]
    omega

theorem toJson_embeds (c : Config) (hc : c.Representable) : Embeds (Config.toJson c) := by
  obtain ⟨logging, database, manager, cleanup, jobs⟩ := c
  simp [Config.toJson, Config.loggingJson, Config.databaseJson, Config.managerJson, Embeds,
    MembersEmbed, embeds_int]
  cases jobs with
  | none => trivial
  | some t =>
    refine membersEmbed_of_forall fun m hm => ?_
    obtain ⟨⟨k, j⟩, hkj, rfl⟩ := List.mem_map.1 hm
    exact jobJson_embeds j (hc.jobs t rfl _ hkj)

theorem toJson_depth (c : Config) (hc : c.Representable) :
    (written (Config.toJson c)).depth ≤ maxDepth := by
  obtain ⟨logging, database, manager, cleanup, jobs⟩ := c
  simp [Config.toJson, Config.loggingJson, Config.databaseJson, Config.managerJson, written,
    Written.depth, writtenMembers, Written.membersDepth, Json.int]
  refine ⟨by simp [maxDepth], by simp [maxDepth], ?_⟩
  cases jobs with
  | none => simp [written, Written.depth, maxDepth]
  | some t =>
    have hjobs : Written.membersDepth (writtenMembers (t.map fun p => (p.1, Config.jobJson p.2))) ≤
        maxDepth - 2 := by
      refine membersDepth_le_of_forall fun m hm => ?_
      obtain ⟨⟨k, j⟩, hkj, rfl⟩ := List.mem_map.1 hm
      have := jobJson_depth j (hc.jobs t rfl _ hkj)
      show (written (Config.jobJson j)).depth ≤ maxDepth - 2
      omega
    simp only [written, Written.depth]
    simp only [maxDepth] at hjobs ⊢
    omega

/-! ## Reading back -/

theorem readFirst_nil : readFirst [] = .error .empty := rfl

/-- A document written as JSON reads back as itself from a file that is not YAML. -/
theorem Config.decode_toJson {path : String} (hp : ConfigFile.isYaml path = false) {c : Config}
    (hc : c.Representable) : Config.decode path (Config.toJson c).render = .ok c := by
  have hread : readFirst (Config.toJson c).render.toList = .ok (written (Config.toJson c), []) :=
    readFirst_render_obj _ (toJson_embeds c hc) (toJson_depth c hc)
  have hfirst : (readFirst (Config.toJson c).render.toList).mapError DecodeError.read =
      pure (written (Config.toJson c), []) := by
    rw [hread]
    rfl
  simp only [Config.decode, Config.decodeJson, hp, hfirst, toJson_reads c hc, Bool.false_eq_true,
    if_false, pure_bind, Decoding.run_pure, readFirst_nil]
  rfl

/-! ## Nesting

The depth bound of `FitsExtra` is needed: extra settings nested 9998 deep are the compact text
of one JSON value, and their document is written but not read back, since under the document,
job table and job type they pass the reader's depth. -/

theorem join_map_toString (cs : List Char) :
    String.join (cs.map Char.toString) = String.ofList cs := by
  rw [← String.toList_inj]
  induction cs with
  | nil => rfl
  | cons c cs ih =>
    simp only [List.map_cons, String.join_cons, String.toList_append, String.toList_ofList] at ih ⊢
    rw [ih]
    simp [Char.toString]

theorem compactPieces_brackets : ∀ cs : List Char, (∀ c ∈ cs, c = '[' ∨ c = ']') →
    compactPieces cs false false = cs.map Char.toString
  | [], _ => rfl
  | c :: cs, h => by
    have ih := compactPieces_brackets cs fun x hx => h x (List.mem_cons_of_mem _ hx)
    rcases h c (List.mem_cons_self ..) with rfl | rfl <;> simp [compactPieces, ih]

def nestedArrays (n : Nat) : String := String.ofList (List.replicate n '[' ++ List.replicate n ']')

/-- A document on a SQLite database with one job type `a`, given its extra settings. -/
def Config.oneJob (extra : String) : Config :=
  { database := { driver := "sqlite", dsn := "file:x.db" },
    jobs := some [("a", { timeout := "1m", maxJobPerProcess := 1, extra := some extra })] }

theorem compactText_nestedArrays (n : Nat) : compactText (nestedArrays n) = nestedArrays n := by
  have hbrackets : ∀ c ∈ List.replicate n '[' ++ List.replicate n ']', c = '[' ∨ c = ']' := by
    intro c hc
    simp only [List.mem_append, List.mem_replicate] at hc
    rcases hc with ⟨-, rfl⟩ | ⟨-, rfl⟩ <;> simp
  rw [compactText, nestedArrays, String.toList_ofList, compactPieces_brackets _ hbrackets,
    join_map_toString]

theorem nestedArrays_breaks {n d : Nat} (hn : maxDepth ≤ d + n - 1) (hpos : 0 < n) :
    Breaks d (.raw (nestedArrays n)) := by
  intro f y w r
  obtain ⟨m, rfl⟩ : ∃ m, n = m + 1 := ⟨n - 1, by omega⟩
  have htext : (nestedArrays (m + 1)).toList ++ y =
      '[' :: (List.replicate m '[' ++ (List.replicate (m + 1) ']' ++ y)) := by
    simp [nestedArrays, List.replicate_succ]
  rw [htext]
  exact readValue_replicate_open _ m f d w r (by omega)

theorem oneJob_breaks {e : String} (hne : e ≠ "") (hc : compactText e = e)
    (hb : Breaks 3 (.raw e)) : Breaks 0 (Config.toJson (Config.oneJob e)) := by
  simp [Config.oneJob, Config.toJson, Config.loggingJson, Config.databaseJson, Config.managerJson,
    Config.jobJson, Config.optional, Breaks, MembersBreak, Embeds, MembersEmbed,
    written, Written.depth, writtenMembers, Written.membersDepth, Json.int, hc, hne, maxDepth]
  exact ⟨by simpa [Int.toString_eq_repr] using readNumber_int 1, hb⟩

/-- A document whose extra settings nest too deep is written, and reading its text fails. -/
theorem decode_nestedArrays_fails {n : Nat} (hn : maxDepth ≤ n + 2) :
    ∃ e, Config.decode "x.json" (Config.toJson (Config.oneJob (nestedArrays n))).render =
      .error e := by
  have hpos : 0 < n := by
    simp only [maxDepth] at hn
    omega
  have hne : nestedArrays n ≠ "" := by
    intro h
    have := congrArg String.length h
    simp [nestedArrays, ← String.length_toList] at this
    omega
  have hb := oneJob_breaks hne (compactText_nestedArrays n) (nestedArrays_breaks (by omega) hpos)
  have hyaml : ConfigFile.isYaml "x.json" = false := by decide +kernel
  cases h : readFirst (Config.toJson (Config.oneJob (nestedArrays n))).render.toList with
  | ok x => exact absurd h (readFirst_render_breaks _ hb x)
  | error e =>
    refine ⟨(DecodeError.read e).toFault, ?_⟩
    simp only [Config.decode, hyaml, Bool.false_eq_true, if_false, pure_bind, Config.decodeJson, h]
    rfl

theorem decode_deep_extra_fails :
    ∃ e, Config.decode "x.json" (Config.toJson (Config.oneJob (nestedArrays 9998))).render =
      .error e :=
  decode_nestedArrays_fails (by simp [maxDepth])

end Foreman
