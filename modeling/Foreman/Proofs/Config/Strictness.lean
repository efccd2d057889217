import Foreman.Proofs.Config.RoundTrip

/-!
# Strict reading of configuration documents

A text `Config.decodeJson` accepts is one JSON value and blanks, every key of which names a
field of its record up to case, except the job table's keys, which are names, and a job's
extra settings, kept as written (`Config.decodeJson_strict`). A `Shape` describes the places
of a document, and `KnownKeys` says a value's keys fit one.

A reading notes the first error and goes on, succeeding only if nothing was noted. Every
reader keeps a noted error (`Decoding.Keeps`), so a clean reading was clean at every step
(`foldlM_clean`), and a reader that notes nothing read a value fitting its shape
(`Strictly`): a scalar reader notes arrays and objects, a record reader unknown keys, the job
table every non-object.
-/

namespace Foreman

set_option autoImplicit false

open Json

/-- What the strict reader expects at a place of a document: a record with its named fields, a
table whose keys are names, a value kept as written, or a scalar. -/
inductive Shape where
  | record (fields : List (String × Shape))
  | table (entry : Shape)
  | any
  | scalar

namespace Shape

/-- The field a key names: the one of that exact name, else one equal to it ignoring case, as
`Field.find?` matches keys. -/
def lookup (fields : List (String × Shape)) (key : String) : Option Shape :=
  match fields.find? (·.1 == key) with
  | some f => some f.2
  | none => (fields.find? fun f => foldKey f.1 == foldKey key).map (·.2)

/-- The record whose fields are a reader's, each with the shape its name gives. -/
def ofFields {α : Type} (fields : List (Field α)) (sub : String → Shape) : Shape :=
  .record (fields.map fun f => (f.name, sub f.name))

def scalars {α : Type} (fields : List (Field α)) : Shape := ofFields fields fun _ => .scalar

end Shape

mutual
def Json.Written.NoKeys : Written → Prop
  | .obj _ ms => ms = []
  | .arr _ xs => Written.ItemsNoKeys xs
  | _ => True

def Json.Written.ItemsNoKeys : List Written → Prop
  | [] => True
  | x :: xs => x.NoKeys ∧ Written.ItemsNoKeys xs
end

mutual
/-- The keys of a value fit a shape: in a record every key names a field and its value fits
that field, in a table every value fits the entry, a value kept as written may hold anything,
and a scalar, or a value of the wrong kind, holds no key. -/
def KnownKeys : Shape → Written → Prop
  | .any, _ => True
  | .record fs, .obj _ ms => MembersKnown fs ms
  | .table s, .obj _ ms => EntriesKnown s ms
  | _, w => w.NoKeys

/-- Every member's key names a field, and its value fits that field. -/
def MembersKnown (fs : List (String × Shape)) : List (String × Written) → Prop
  | [] => True
  | (k, v) :: ms => (∃ s, Shape.lookup fs k = some s ∧ KnownKeys s v) ∧ MembersKnown fs ms

def EntriesKnown (s : Shape) : List (String × Written) → Prop
  | [] => True
  | (_, v) :: ms => KnownKeys s v ∧ EntriesKnown s ms
end

def loggingShape : Shape :=
  Shape.ofFields ConfigRead.loggingFields fun name =>
    if name = "file" then Shape.scalars ConfigRead.logFileFields else .scalar

def jobShape : Shape :=
  Shape.ofFields ConfigRead.jobFields fun name => if name = "extra" then .any else .scalar

def sectionShape (name : String) : Shape :=
  if name = "logging" then loggingShape
  else if name = "database" then Shape.scalars ConfigRead.databaseFields
  else if name = "manager" then Shape.scalars ConfigRead.managerFields
  else if name = "cleanup" then Shape.scalars ConfigRead.cleanUpFields
  else .table jobShape

def configShape : Shape := Shape.ofFields ConfigRead.configFields sectionShape

/-! ## Noted errors are kept -/

namespace Decoding

/-- A reading started with an error noted either stops or ends with that error still noted. -/
def Keeps {β : Type} (d : Decoding β) : Prop := ∀ e r, d (some e) = .ok r → r.2 = some e

variable {β γ : Type}

theorem Keeps.pure (b : β) : (pure b : Decoding β).Keeps := by
  intro e r h
  cases h
  rfl

theorem Keeps.throw (e : DecodeError) : (throw e : Decoding β).Keeps := by
  intro e' r h
  cases h

theorem Keeps.note (e : DecodeError) : (note e).Keeps := by
  intro e' r h
  cases h
  rfl

theorem Keeps.bind {x : Decoding β} {g : β → Decoding γ} (hx : x.Keeps) (hg : ∀ b, (g b).Keeps) :
    (x >>= g).Keeps := by
  intro e r h
  change (do let (b, s) ← x (some e); g b s) = Except.ok r at h
  cases hx' : x (some e) with
  | error e' => simp [hx'] at h; cases h
  | ok bs =>
    obtain ⟨b, s⟩ := bs
    obtain rfl : s = some e := hx e _ hx'
    simp only [hx'] at h
    exact hg b e r h

theorem keeps_map {x : Decoding β} {g : β → γ} : (g <$> x).Keeps ↔ x.Keeps := by
  constructor
  · intro h e r hx
    exact h e (g r.1, r.2) (by simp [Functor.map, StateT.map, hx, Except.map])
  · intro h e r hx
    simp only [Functor.map, StateT.map] at hx
    cases hx' : x (some e) with
    | error e' => simp [hx'] at hx
    | ok bs =>
      simp only [hx'] at hx
      cases hx
      exact h e bs hx'

theorem Keeps.foldlM {step : β → γ → Decoding β} (h : ∀ b x, (step b x).Keeps) :
    ∀ (xs : List γ) (b : β), (xs.foldlM step b).Keeps
  | [], b => Keeps.pure b
  | x :: xs, b => by
    rw [List.foldlM_cons]
    exact Keeps.bind (h b x) fun b' => Keeps.foldlM h xs b'

/-- A reading that ends with nothing noted went through each of its steps with nothing
noted. -/
theorem bind_clean {x : Decoding β} {g : β → Decoding γ} (hg : ∀ b, (g b).Keeps) {c : γ}
    (h : (x >>= g) none = .ok (c, none)) : ∃ b, x none = .ok (b, none) ∧ g b none = .ok (c, none) := by
  change (do let (b, s) ← x none; g b s) = Except.ok (c, none) at h
  cases hx : x none with
  | error e =>
    simp [hx] at h
    cases h
  | ok bs =>
    obtain ⟨b, s⟩ := bs
    simp only [hx] at h
    cases s with
    | none => exact ⟨b, rfl, h⟩
    | some e => cases hg b e _ h

theorem map_clean {x : Decoding β} {g : β → γ} {c : γ} (h : (g <$> x) none = .ok (c, none)) :
    ∃ b, x none = .ok (b, none) ∧ c = g b := by
  simp only [Functor.map, StateT.map] at h
  cases hx : x none with
  | error e => simp [hx] at h
  | ok bs =>
    obtain ⟨b, s⟩ := bs
    simp only [hx] at h
    cases h
    exact ⟨b, rfl, rfl⟩

theorem note_not_clean (e : DecodeError) {g : Unit → Decoding β} (hg : ∀ u, (g u).Keeps) {b : β} :
    (note e >>= g) none ≠ .ok (b, none) := by
  intro h
  obtain ⟨u, hn, -⟩ := bind_clean hg h
  cases hn

theorem foldlM_clean {step : β → γ → Decoding β} (h : ∀ b x, (step b x).Keeps) :
    ∀ (xs : List γ) (b c : β), (xs.foldlM step b) none = .ok (c, none) →
      ∀ x ∈ xs, ∃ b₀ b₁, step b₀ x none = .ok (b₁, none)
  | [], _, _, _, _, hx => nomatch hx
  | x :: xs, b, c, hf, y, hy => by
    rw [List.foldlM_cons] at hf
    obtain ⟨b', hstep, hrest⟩ := bind_clean (fun b' => Keeps.foldlM h xs b') hf
    rcases List.mem_cons.1 hy with rfl | hy
    · exact ⟨b, b', hstep⟩
    · exact foldlM_clean h xs b' c hrest y hy

theorem run_eq_ok {d : Decoding β} {b : β} : d.run = .ok b ↔ d none = .ok (b, none) := by
  unfold run
  constructor
  · intro h
    split at h
    · cases h
    · cases h
    · cases h
      assumption
  · intro h
    simp [StateT.run, h]

end Decoding

/-! ## Readers that note nothing -/

open Decoding

/-- A reading of `w` that keeps a noted error, and that notes nothing only when the keys of `w`
fit `s`. -/
def Strictly {β : Type} (s : Shape) (d : Decoding β) (w : Written) : Prop :=
  d.Keeps ∧ ∀ b, d none = .ok (b, none) → KnownKeys s w

section Strictly

variable {β γ : Type}

@[simp] theorem strictly_map {s : Shape} {d : Decoding β} {g : β → γ} {w : Written} :
    Strictly s (g <$> d) w ↔ Strictly s d w := by
  unfold Strictly
  rw [keeps_map]
  refine and_congr_right fun _ => ⟨fun h b hd => h (g b) ?_, fun h c hd => ?_⟩
  · simp [Functor.map, StateT.map, hd, Except.map]
  · obtain ⟨b, hb, -⟩ := map_clean hd
    exact h b hb

theorem knownKeys_scalar {w : Written} (h : w.isContainer = false) : KnownKeys .scalar w := by
  cases w <;> simp_all [KnownKeys, Written.NoKeys, Written.isContainer]

@[simp] theorem text_strictly (cur : String) (p : Place) (w : Written) :
    Strictly .scalar (Field.text cur p w) w := by
  refine ⟨?_, fun b h => knownKeys_scalar ?_⟩
  · unfold Field.text
    split
    · exact Keeps.pure _
    · exact Keeps.pure _
    · exact Keeps.bind (Keeps.note _) fun _ => Keeps.pure _
  · unfold Field.text at h
    cases w <;> first | rfl | exact (note_not_clean _ (fun _ => Keeps.pure _) h).elim

@[simp] theorem flag_strictly (cur : Bool) (p : Place) (w : Written) :
    Strictly .scalar (Field.flag cur p w) w := by
  refine ⟨?_, fun b h => knownKeys_scalar ?_⟩
  · unfold Field.flag
    split
    · exact Keeps.pure _
    · exact Keeps.pure _
    · exact Keeps.bind (Keeps.note _) fun _ => Keeps.pure _
  · unfold Field.flag at h
    cases w <;> first | rfl | exact (note_not_clean _ (fun _ => Keeps.pure _) h).elim

@[simp] theorem int_strictly (cur : Int) (p : Place) (w : Written) :
    Strictly .scalar (Field.int cur p w) w := by
  refine ⟨?_, fun b h => knownKeys_scalar ?_⟩
  · unfold Field.int
    split
    · split
      · exact Keeps.pure _
      · exact Keeps.bind (Keeps.note _) fun _ => Keeps.pure _
    · exact Keeps.pure _
    · exact Keeps.bind (Keeps.note _) fun _ => Keeps.pure _
  · unfold Field.int at h
    cases w <;> first | rfl | exact (note_not_clean _ (fun _ => Keeps.pure _) h).elim

@[simp] theorem duration_strictly (w : Written) : Strictly .scalar (Field.duration w) w := by
  refine ⟨?_, fun b h => knownKeys_scalar ?_⟩
  · unfold Field.duration
    split
    · exact Keeps.pure _
    · exact Keeps.pure _
    · exact Keeps.pure _
    · exact Keeps.throw _
  · unfold Field.duration at h
    cases w <;> first | rfl | cases h

@[simp] theorem knownKeys_any (w : Written) : KnownKeys .any w := by
  cases w <;> simp [KnownKeys]

@[simp] theorem any_strictly (b : β) (w : Written) : Strictly .any (pure b : Decoding β) w :=
  ⟨Keeps.pure b, fun _ _ => knownKeys_any w⟩

end Strictly

/-! ## Records -/

theorem Field.mem_of_find? {α : Type} {fields : List (Field α)} {key : String} {f : Field α}
    (h : Field.find? fields key = some f) : f ∈ fields := by
  unfold Field.find? at h
  split at h
  · cases h
    exact List.mem_of_find?_eq_some (by assumption)
  · exact List.mem_of_find?_eq_some h

theorem Shape.lookup_ofFields {α : Type} (fields : List (Field α)) (sub : String → Shape)
    (key : String) :
    Shape.lookup (fields.map fun f => (f.name, sub f.name)) key =
      (Field.find? fields key).map fun f => sub f.name := by
  unfold Shape.lookup Field.find?
  simp only [List.find?_map, Function.comp_def]
  cases fields.find? (fun f => f.name == key) <;> simp [Option.map_map, Function.comp_def]

theorem membersKnown_of_forall {fs : List (String × Shape)} :
    ∀ {ms : List (String × Written)},
      (∀ m ∈ ms, ∃ s, Shape.lookup fs m.1 = some s ∧ KnownKeys s m.2) → MembersKnown fs ms
  | [], _ => trivial
  | _ :: _, h => ⟨h _ (List.mem_cons_self ..),
      membersKnown_of_forall fun m hm => h m (List.mem_cons_of_mem _ hm)⟩

theorem entriesKnown_of_forall {s : Shape} :
    ∀ {ms : List (String × Written)}, (∀ m ∈ ms, KnownKeys s m.2) → EntriesKnown s ms
  | [], _ => trivial
  | _ :: _, h => ⟨h _ (List.mem_cons_self ..),
      entriesKnown_of_forall fun m hm => h m (List.mem_cons_of_mem _ hm)⟩

/-- One member read into a record: the field its key names reads its value, and a key that
names no field is noted when the record is strict. -/
def Field.memberStep {α : Type} (strict : Bool) (record : String) (fields : List (Field α))
    (path : List String) (acc : α) (m : String × Written) : Decoding α :=
  match Field.find? fields m.1 with
  | some f => f.read ⟨record, path ++ [f.name]⟩ acc m.2
  | none => do
    if strict then Decoding.note (.unknownField m.1)
    pure acc

section Records

variable {α : Type} {strict : Bool} {typeName record : String} {fields : List (Field α)}

theorem Field.recordWith_obj (place : Option Place) (cur : α) (t : Thunk String)
    (ms : List (String × Written)) :
    Field.recordWith strict typeName record fields place cur (.obj t ms) =
      ms.foldlM (Field.memberStep strict record fields (match place with
        | some p => p.path
        | none => [])) cur := rfl

theorem Field.memberStep_keeps (hfields : ∀ f ∈ fields, ∀ p a w, (f.read p a w).Keeps)
    (path : List String) (acc : α) (m : String × Written) :
    (Field.memberStep strict record fields path acc m).Keeps := by
  unfold Field.memberStep
  split
  · exact hfields _ (Field.mem_of_find? (by assumption)) _ _ _
  · split
    · exact Keeps.bind (Keeps.note _) fun _ => Keeps.pure _
    · exact Keeps.pure _

/-- A strict record reads a member with nothing noted only through a field its key names. -/
theorem Field.memberStep_clean {path : List String} {acc b : α} {k : String} {v : Written}
    (h : Field.memberStep true record fields path acc (k, v) none = .ok (b, none)) :
    ∃ f, Field.find? fields k = some f ∧ f.read ⟨record, path ++ [f.name]⟩ acc v none = .ok (b, none) := by
  unfold Field.memberStep at h
  cases hf : Field.find? fields k with
  | some f =>
    simp only [hf] at h
    exact ⟨f, rfl, h⟩
  | none =>
    simp only [hf, if_true] at h
    exact (note_not_clean _ (fun _ => Keeps.pure _) h).elim

theorem record_strictly {sub : String → Shape}
    (hfields : ∀ f ∈ fields, ∀ p a w, Strictly (sub f.name) (f.read p a w) w)
    (place : Option Place) (cur : α) (w : Written) :
    Strictly (Shape.ofFields fields sub) (Field.record typeName record fields place cur w) w := by
  have hkeeps : ∀ f ∈ fields, ∀ p a w, (f.read p a w).Keeps :=
    fun f hf p a w => (hfields f hf p a w).1
  unfold Field.record
  cases w with
  | obj t ms =>
    rw [Field.recordWith_obj]
    refine ⟨Keeps.foldlM (Field.memberStep_keeps hkeeps _) _ _, fun b h => ?_⟩
    have hsteps := foldlM_clean (Field.memberStep_keeps hkeeps _) ms cur b h
    refine membersKnown_of_forall fun ⟨k, v⟩ hm => ?_
    obtain ⟨b₀, b₁, hstep⟩ := hsteps _ hm
    obtain ⟨f, hf, hread⟩ := Field.memberStep_clean hstep
    refine ⟨sub f.name, by rw [Shape.lookup_ofFields, hf]; rfl, ?_⟩
    exact (hfields f (Field.mem_of_find? hf) _ _ _).2 _ hread
  | null => exact ⟨Keeps.pure _, fun _ _ => by simp [Shape.ofFields, KnownKeys, Written.NoKeys]⟩
  | bool _ | num _ | str _ _ | arr _ _ =>
    refine ⟨Keeps.bind (Keeps.note _) fun _ => Keeps.pure _, fun b h => ?_⟩
    exact (note_not_clean _ (fun _ => Keeps.pure _) h).elim

end Records

/-! ## The document -/

theorem logFileFields_strictly :
    ∀ f ∈ ConfigRead.logFileFields, ∀ p a w, Strictly .scalar (f.read p a w) w := by
  simp [ConfigRead.logFileFields]

theorem loggingFields_strictly : ∀ f ∈ ConfigRead.loggingFields, ∀ p a w,
    Strictly (if f.name = "file" then Shape.scalars ConfigRead.logFileFields else .scalar)
      (f.read p a w) w := by
  simp only [ConfigRead.loggingFields, List.forall_mem_cons]
  simp
  intro p a w
  exact record_strictly logFileFields_strictly _ _ _

theorem jobFields_strictly : ∀ f ∈ ConfigRead.jobFields, ∀ p a w,
    Strictly (if f.name = "extra" then .any else .scalar) (f.read p a w) w := by
  simp [ConfigRead.jobFields]

theorem ConfigRead.job_keeps (place : Place) (w : Written) : (ConfigRead.job place w).Keeps := by
  unfold ConfigRead.job
  split
  · exact Keeps.pure _
  · exact Keeps.throw _
  · exact Keeps.throw _

theorem ConfigRead.job_clean {place : Place} {w : Written} {j : JobSection}
    (h : ConfigRead.job place w none = .ok (j, none)) :
    Field.record "config.tmp" "tmp" ConfigRead.jobFields none {} w none = .ok (j, none) := by
  unfold ConfigRead.job at h
  cases hr : (Field.record "config.tmp" "tmp" ConfigRead.jobFields none {} w).run with
  | ok j' =>
    simp only [hr] at h
    cases h
    exact run_eq_ok.1 hr
  | error e =>
    simp only [hr] at h
    cases e <;> cases h

theorem jobs_strictly (place : Place) (cur : Option JobTable) (w : Written) :
    Strictly (.table jobShape) (ConfigRead.jobs place cur w) w := by
  unfold ConfigRead.jobs
  cases w with
  | obj t ms =>
    have hkeeps : ∀ (acc : Option JobTable) (m : String × Written),
        (do
          let j ← ConfigRead.job place m.2
          pure (some ((acc.getD []).insert m.1 j)) : Decoding (Option JobTable)).Keeps :=
      fun acc m => Keeps.bind (ConfigRead.job_keeps place m.2) fun _ => Keeps.pure _
    refine ⟨Keeps.foldlM (fun acc m => hkeeps acc m) _ _, fun b h => ?_⟩
    have hsteps := foldlM_clean (fun acc m => hkeeps acc m) ms _ b h
    refine entriesKnown_of_forall fun m hm => ?_
    obtain ⟨b₀, b₁, hstep⟩ := hsteps m hm
    obtain ⟨j, hjob, -⟩ := bind_clean (fun _ => Keeps.pure _) hstep
    exact (record_strictly jobFields_strictly none {} m.2).2 j (ConfigRead.job_clean hjob)
  | null => exact ⟨Keeps.pure _, fun _ _ => by simp [KnownKeys, Written.NoKeys]⟩
  | bool _ | num _ | str _ _ | arr _ _ =>
    refine ⟨Keeps.bind (Keeps.note _) fun _ => Keeps.pure _, fun b h => ?_⟩
    exact (note_not_clean _ (fun _ => Keeps.pure _) h).elim

theorem configFields_strictly :
    ∀ f ∈ ConfigRead.configFields, ∀ p a w, Strictly (sectionShape f.name) (f.read p a w) w := by
  simp only [ConfigRead.configFields, List.forall_mem_cons]
  simp [sectionShape]
  refine ⟨fun p a w => ?_, fun p a w => ?_, fun p a w => ?_, fun p a w => ?_, fun p a w => ?_⟩
  · exact record_strictly loggingFields_strictly _ _ _
  · exact record_strictly (by simp [ConfigRead.databaseFields]) _ _ _
  · exact record_strictly (by simp [ConfigRead.managerFields]) _ _ _
  · exact record_strictly (by simp [ConfigRead.cleanUpFields]) _ _ _
  · exact jobs_strictly _ _ _

/-- A text the strict reader accepts is one JSON value and blanks, and every key of that value
names a field of the record it stands in, except for job names and inside extra settings. -/
theorem Config.decodeJson_strict {t : String} {c : Config} (h : Config.decodeJson t = .ok c) :
    ∃ w rest, readFirst t.toList = .ok (w, rest) ∧ skipBlank rest = [] ∧ KnownKeys configShape w := by
  unfold Config.decodeJson at h
  cases hr : readFirst t.toList with
  | error e =>
    rw [hr] at h
    cases h
  | ok x =>
    obtain ⟨w, rest⟩ := x
    rw [hr] at h
    simp only [Except.mapError, bind, Except.bind] at h
    cases hc : (Field.record "config.Config" "Config" ConfigRead.configFields none {} w).run with
    | error e =>
      rw [hc] at h
      cases h
    | ok c' =>
      rw [hc] at h
      -- the rest reads as no value at all: after a second value the reading fails in any case
      have hrest : readFirst rest = .error .empty := by
        cases hf : readFirst rest with
        | error e =>
          rw [hf] at h
          cases e with
          | empty => rfl
          | invalid _ _ => cases h
          | truncated => cases h
        | ok y =>
          obtain ⟨extra, r⟩ := y
          rw [hf] at h
          simp only at h
          split at h <;> cases h
      exact ⟨w, rest, rfl, skipBlank_eq_nil_of_readFirst hrest,
        (record_strictly configFields_strictly none {} w).2 c' (run_eq_ok.1 hc)⟩

theorem Config.decode_json {path : String} (hp : ConfigFile.isYaml path = false) (t : String) :
    Config.decode path t = (Config.decodeJson t).mapError DecodeError.toFault := by
  simp [Config.decode, hp]

/-- Reading a JSON file is exact: a document whose values its text can carry is read back as
itself, and a text is read only when it is one value, blanks apart, whose keys all name fields. -/
theorem Config.strict_round_trip (path : String) (hp : ConfigFile.isYaml path = false) :
    (∀ c : Config, c.Representable → Config.decode path (Config.toJson c).render = .ok c) ∧
    (∀ (t : String) (c : Config), Config.decode path t = .ok c →
      ∃ w rest, readFirst t.toList = .ok (w, rest) ∧ skipBlank rest = [] ∧
        KnownKeys configShape w) := by
  refine ⟨fun c hc => Config.decode_toJson hp hc, fun t c h => ?_⟩
  rw [Config.decode_json hp] at h
  cases hj : Config.decodeJson t with
  | error e =>
    rw [hj] at h
    cases h
  | ok c' =>
    exact Config.decodeJson_strict hj

def Config.plainJob : Config :=
  { database := { driver := "sqlite", dsn := "file:x.db" },
    jobs := some [("a", { timeout := "1m", maxJobPerProcess := 1 })] }

theorem Config.plainJob_round_trip :
    ConfigFile.isYaml "x.json" = false ∧ Config.plainJob.Representable ∧
      Config.decode "x.json" (Config.toJson Config.plainJob).render = .ok Config.plainJob := by
  have hp : ConfigFile.isYaml "x.json" = false := by decide +kernel
  have hc : Config.plainJob.Representable := by
    refine ⟨by decide, by decide, by decide, by decide, ?_, ?_⟩
    · intro t ht
      cases ht
      simp
    · intro t ht p hp
      cases ht
      simp only [List.mem_singleton] at hp
      subst hp
      exact ⟨by decide, by simp⟩
  exact ⟨hp, hc, (Config.strict_round_trip "x.json" hp).1 Config.plainJob hc⟩

end Foreman
