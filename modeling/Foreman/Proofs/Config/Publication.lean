import Foreman.Config.Manager
import Mathlib.Logic.Relation
import Mathlib.Logic.Function.Iterate
import Mathlib.Tactic.SplitIfs
import Mathlib.Data.List.Basic

/-!
# Reloading and publishing configurations

A manager changes through loads, commits, reloads, subscriptions, closings and receives; this
module follows every interleaving of them with one publisher. A reload commits only when the
file reads, its hash is unknown or new and the validator passes it (`ConfigManager.reload_run`).
It then publishes channel by channel, holding the lock that subscribing and closing also take:
at each open channel a send and, when that finds the channel full, the removal of the oldest
waiting configuration and a second send (`Publications.publishStep`). Subscribers receive
between any two of these tries. With nothing in between, the tries leave the channels as
`ConfigManager.publish` does (`Publications.publishStep_iterate`).

A channel holds, in order, a run of what was offered to it since it was handed out, reaching
the newest while open (`ConfigChannel.Holds`); once the publisher is past a channel with room
for one, the channel ends with the configuration published. `Publications.Inv` holds along
every run (`Inv.reaches`). The main statement is `ConfigManager.publication_protocol`.
-/

namespace Foreman

set_option autoImplicit false

namespace LogM

variable {α β : Type}

@[simp 1100] theorem run_bind (x : LogM α) (f : α → LogM β) (w : LogWorld) :
    (x >>= f).run w = (f (x.run w).1).run (x.run w).2 := rfl

@[simp 1100] theorem run_pure (a : α) (w : LogWorld) : (pure a : LogM α).run w = (a, w) := rfl

@[simp 1100] theorem run_map (f : α → β) (x : LogM α) (w : LogWorld) :
    (f <$> x).run w = (f (x.run w).1, (x.run w).2) := rfl

theorem mapM_run_fst (f : α → LogM β) (g : α → β) (hf : ∀ a w, ((f a).run w).1 = g a)
    (xs : List α) (w : LogWorld) : ((xs.mapM f).run w).1 = xs.map g := by
  induction xs generalizing w with
  | nil => rfl
  | cons x xs ih => simp only [List.mapM_cons, run_bind, run_pure, List.map_cons, hf, ih]

end LogM

/-! ## One channel -/

/-- The tries a publication makes at an open channel: a send; when that finds the channel full,
taking out the oldest waiting configuration, if one is still there; and a second send, after
which a configuration that found no room is dropped. -/
inductive Try where
  | send
  | dropOldest
  | resend
  deriving DecidableEq

namespace ConfigChannel

/-- What publishing does to a channel: an open one is offered the configuration, a closed
one is left alone. -/
def deliver (c : Config) (ch : ConfigChannel) : ConfigChannel :=
  if ch.isOpen then (ch.offer c).2 else ch

/-- One try at an open channel: the channel after it, and the next try there, `none` once the
publication is done with the channel. -/
def attempt (ch : ConfigChannel) (c : Config) : Try → ConfigChannel × Option Try
  | .send =>
    match ch.trySend c with
    | (true, ch) => (ch, none)
    | (false, ch) => (ch, some .dropOldest)
  | .dropOldest => (ch.receive.2, some .resend)
  | .resend => ((ch.trySend c).2, none)

/-- A channel where a send goes through, unless it has no capacity at all. -/
def Spare (ch : ConfigChannel) : Prop := ch.waiting.length < ch.capacity ∨ ch.capacity = 0

variable (ch : ConfigChannel) (c : Config)

theorem trySend_of_room (room : ch.waiting.length < ch.capacity) :
    ch.trySend c = (true, { ch with waiting := ch.waiting ++ [c] }) := if_pos room

theorem trySend_of_full (full : ¬ch.waiting.length < ch.capacity) : ch.trySend c = (false, ch) :=
  if_neg full

/-- Receiving takes out the oldest waiting configuration and changes nothing else. -/
theorem receive_eq : ch.receive.2 = { ch with waiting := ch.waiting.tail } := by
  obtain ⟨capacity, waiting, isOpen⟩ := ch
  cases waiting <;> rfl

@[simp] theorem receive_capacity : ch.receive.2.capacity = ch.capacity := by rw [receive_eq]

@[simp] theorem receive_isOpen : ch.receive.2.isOpen = ch.isOpen := by rw [receive_eq]

@[simp] theorem receive_waiting : ch.receive.2.waiting = ch.waiting.tail := by rw [receive_eq]

theorem attempt_send : ch.attempt c .send =
    if ch.waiting.length < ch.capacity then ((ch.trySend c).2, none) else (ch, some .dropOldest) := by
  unfold attempt trySend; split_ifs <;> rfl

/-- A try changes only what waits in the channel. -/
theorem attempt_eq_waiting (t : Try) :
    (ch.attempt c t).1 = { ch with waiting := (ch.attempt c t).1.waiting } := by
  cases t with
  | send => rw [attempt_send]; unfold trySend; split_ifs <;> rfl
  | dropOldest => rw [attempt, receive_eq]
  | resend => unfold attempt trySend; split_ifs <;> rfl

@[simp] theorem attempt_capacity (t : Try) : (ch.attempt c t).1.capacity = ch.capacity := by
  rw [attempt_eq_waiting]

@[simp] theorem attempt_isOpen (t : Try) : (ch.attempt c t).1.isOpen = ch.isOpen := by
  rw [attempt_eq_waiting]

theorem deliver_of_closed (closed : ch.isOpen = false) : ch.deliver c = ch := by
  simp [deliver, closed]

/-- The tries at an open channel, made with nothing in between, offer it the configuration:
the first send goes through, or the three tries are made. -/
theorem attempt_offer :
    (ch.attempt c .send).2 = none ∧ (ch.attempt c .send).1 = (ch.offer c).2 ∨
      (ch.attempt c .send).2 = some .dropOldest ∧
        ((ch.attempt c .send).1.attempt c .dropOldest).1.attempt c .resend = ((ch.offer c).2, none) := by
  rw [attempt_send]
  by_cases room : ch.waiting.length < ch.capacity
  · simp [room, offer, trySend_of_room ch c room]
  · simp [room, offer, trySend_of_full ch c room, attempt]

/-- A full channel of one place gives up the configuration it held for the one offered. -/
example : (({ capacity := 1, waiting := [{}] } : ConfigChannel).offer
    { cleanup := { schedule := "1h" } }).2.waiting.map (·.cleanup.schedule) = ["1h"] := rfl

/-- What a channel holds, against the configurations offered to it since it was handed out: at
most its capacity, a run of them in order, and while the channel is open a run that reaches
the newest of them. -/
structure Holds (ch : ConfigChannel) (since : List Config) : Prop where
  bounded : ch.waiting.length ≤ ch.capacity
  run : ch.waiting <:+: since
  newest : ch.isOpen → ch.waiting <:+ since

variable {ch c} {L : List Config}

theorem Holds.fresh (capacity : Nat) : Holds { capacity := capacity } [] :=
  ⟨by simp, List.nil_infix, fun _ => List.nil_suffix⟩

theorem Holds.receive (h : ch.Holds L) : ch.receive.2.Holds L := by
  have tail : ch.waiting.tail <:+ ch.waiting := List.tail_suffix _
  refine ⟨?_, ?_, ?_⟩
  · simpa using Nat.le_trans tail.length_le h.bounded
  · simpa using tail.isInfix.trans h.run
  · intro opened
    simpa using tail.trans (h.newest (by simpa using opened))

theorem Holds.close (h : ch.Holds L) : ({ ch with isOpen := false } : ConfigChannel).Holds L :=
  ⟨h.bounded, h.run, by simp⟩

theorem Holds.emptied (ch : ConfigChannel) (L : List Config) :
    ({ ch with waiting := [] } : ConfigChannel).Holds L :=
  ⟨by simp, List.nil_infix, fun _ => List.nil_suffix⟩

/-- A channel a publication leaves alone holds what it held against what was offered, the
publication included, when it is closed or holds nothing. -/
theorem Holds.skip (h : ch.Holds L) (skipped : ch.isOpen = false ∨ ch.waiting = []) :
    ch.Holds (L ++ [c]) := by
  rcases skipped with closed | empty
  · exact ⟨h.bounded, List.infix_append_of_infix_left h.run, by simp [closed]⟩
  · exact ⟨h.bounded, by simp [empty], fun _ => by simp [empty]⟩

theorem Holds.spare_receive (h : ch.Holds L) : ch.receive.2.Spare := by
  have bounded := h.bounded
  simp only [Spare, receive_waiting, List.length_tail, receive_capacity]
  omega

/-- A send to an open channel with room, or with no capacity, leaves it holding what it held
followed by the configuration, which is the last waiting unless there is no capacity. -/
theorem Holds.send (h : ch.Holds L) (opened : ch.isOpen) (spare : ch.Spare) :
    (ch.trySend c).2.Holds (L ++ [c]) ∧ (0 < ch.capacity → (ch.trySend c).2.waiting.getLast? = some c) := by
  by_cases room : ch.waiting.length < ch.capacity
  · have suffix : ch.waiting ++ [c] <:+ L ++ [c] := List.suffix_append_self_iff.mpr (h.newest opened)
    rw [trySend_of_room ch c room]
    exact ⟨⟨by simp; omega, suffix.isInfix, fun _ => suffix⟩, fun _ => by simp⟩
  · have none : ch.capacity = 0 := spare.resolve_left room
    have empty : ch.waiting = [] := List.length_eq_zero_iff.mp (by have := h.bounded; omega)
    rw [trySend_of_full ch c room]
    exact ⟨h.skip (.inr empty), fun pos => absurd none (by omega)⟩

theorem Holds.attempt_more (h : ch.Holds L) {t t' : Try} (more : (ch.attempt c t).2 = some t') :
    (ch.attempt c t).1.Holds L ∧ (t' = .resend → (ch.attempt c t).1.Spare) := by
  cases t with
  | send =>
    rw [attempt_send] at more ⊢
    by_cases room : ch.waiting.length < ch.capacity
    · simp [room] at more
    · simp only [room, ↓reduceIte, Option.some.injEq] at more ⊢
      subst more
      exact ⟨h, fun resend => by cases resend⟩
  | dropOldest =>
    cases more
    exact ⟨h.receive, fun _ => h.spare_receive⟩
  | resend => cases more

theorem Holds.attempt_done (h : ch.Holds L) (opened : ch.isOpen) {t : Try}
    (spare : t = .resend → ch.Spare) (done : (ch.attempt c t).2 = none) :
    (ch.attempt c t).1.Holds (L ++ [c]) ∧
      (0 < ch.capacity → (ch.attempt c t).1.waiting.getLast? = some c) := by
  cases t with
  | send =>
    rw [attempt_send] at done ⊢
    by_cases room : ch.waiting.length < ch.capacity
    · simp only [room, ↓reduceIte]
      exact h.send opened (.inl room)
    · simp [room] at done
  | dropOldest => cases done
  | resend => exact h.send opened (spare rfl)

end ConfigChannel

/-! ## One step of the manager -/

namespace ConfigManager

variable (m : ConfigManager) (file : Option String) (w : LogWorld)

/-- The configuration a reload takes: the file's, when it can be read, passes the validator,
and its hash is unknown (`0`) or differs from the hash kept. -/
def taken : Option Config :=
  match m.parse file with
  | .error _ => none
  | .ok c =>
    match m.validator c with
    | .error _ => none
    | .ok () => if hashOf (some c) ≠ 0 ∧ hashOf (some c) = m.lastHash then none else some c

theorem taken_eq_some_iff (c : Config) :
    m.taken file = some c ↔
      m.parse file = .ok c ∧ (hashOf (some c) = 0 ∨ hashOf (some c) ≠ m.lastHash) ∧
        m.validator c = .ok () := by
  unfold taken
  cases parsed : m.parse file with
  | error e => simp
  | ok d =>
    cases valid : m.validator d with
    | error e =>
      simp only [valid, reduceCtorEq, false_iff, not_and, Except.ok.injEq]
      rintro rfl - rejected
      simp [valid] at rejected
    | ok u =>
      cases u
      simp only [valid]
      by_cases same : hashOf (some d) ≠ 0 ∧ hashOf (some d) = m.lastHash
      · rw [if_pos same]
        simp only [reduceCtorEq, false_iff, not_and, Except.ok.injEq]
        rintro rfl fresh -
        omega
      · rw [if_neg same]
        simp only [Option.some.injEq, Except.ok.injEq]
        constructor
        · rintro rfl; exact ⟨rfl, by omega, valid⟩
        · rintro ⟨rfl, -, -⟩; rfl

@[simp] theorem commit_channels (c : Option Config) : (m.commit c).channels = m.channels := rfl

@[simp] theorem commit_lastHash (c : Option Config) : (m.commit c).lastHash = hashOf c := rfl

@[simp] theorem commit_current (c : Option Config) : (m.commit c).current = c := rfl

/-- Publishing offers the configuration to every open channel and changes nothing else. -/
theorem publish_run (c : Config) :
    ((m.publish c).run w).1 = { m with channels := m.channels.map (ConfigChannel.deliver c) } := by
  unfold publish
  rw [LogM.run_bind, LogM.mapM_run_fst _ (ConfigChannel.deliver c)]
  · rfl
  · intro ch w
    unfold ConfigChannel.deliver
    cases ch.isOpen with
    | false => rfl
    | true =>
      generalize ch.offer c = offered
      obtain ⟨took, ch'⟩ := offered
      cases took <;> rfl

theorem reload_run :
    ((m.reload file).run w).1 = match m.taken file with
      | some c => { m.commit (some c) with channels := m.channels.map (ConfigChannel.deliver c) }
      | none => m := by
  unfold reload taken
  cases parsed : m.parse file with
  | error e => simp
  | ok c =>
    simp only
    by_cases same : hashOf (some c) ≠ 0 ∧ hashOf (some c) = m.lastHash
    · have skip : (hashOf (some c) != 0 && hashOf (some c) == m.lastHash) = true := by
        simpa using same
      cases m.validator c <;> simp only [skip, ↓reduceIte, if_pos same, LogM.run_bind, LogM.run_pure]
    · have fresh : (hashOf (some c) != 0 && hashOf (some c) == m.lastHash) = false := by
        simpa using same
      cases m.validator c with
      | error e => simp only [fresh, Bool.false_eq_true, ↓reduceIte, LogM.run_bind, LogM.run_pure]
      | ok u =>
        simp only [fresh, if_neg same, Bool.false_eq_true, ↓reduceIte, LogM.run_bind, LogM.run_pure,
          publish_run, commit_channels]

theorem load_run : (m.load file).2 = m ∨ ∃ c, (m.load file).2 = m.commit (some c) := by
  unfold load
  cases m.parse file with
  | error e => exact .inl rfl
  | ok c =>
    dsimp only
    cases m.validator c with
    | error e => exact .inl rfl
    | ok u => exact .inr ⟨c, rfl⟩

@[simp] theorem load_channels : (m.load file).2.channels = m.channels := by
  rcases m.load_run file with same | ⟨c, committed⟩ <;> simp [*]

theorem load_hash (consistent : m.lastHash = hashOf m.current) :
    (m.load file).2.lastHash = hashOf (m.load file).2.current := by
  rcases m.load_run file with same | ⟨c, committed⟩ <;> simp [*]

theorem receive_run (i : Nat) :
    (m.receive i).2 = { m with channels := m.channels.modify i fun ch => ch.receive.2 } := by
  unfold receive
  cases found : m.channels[i]? with
  | none => simp [List.modify_eq_set_getElem?, found]
  | some ch => simp [List.modify_eq_set_getElem?, found]

theorem drain_run (i : Nat) :
    (m.drain i).2 = { m with channels := m.channels.modify i fun ch => { ch with waiting := [] } } := by
  unfold drain
  cases found : m.channels[i]? with
  | none => simp [List.modify_eq_set_getElem?, found]
  | some ch => simp [List.modify_eq_set_getElem?, found]

end ConfigManager

/-! ## Every run -/

/-- A publication under way: its configuration, the channel it is at, and its next try there. -/
structure Sending where
  config : Config
  channel : Nat
  next : Try

/-- Where a publication goes after a try: the next try at the same channel, or a send at the
next one. -/
def Sending.after (s : Sending) : Option Try → Sending
  | some t => { s with next := t }
  | none => ⟨s.config, s.channel + 1, .send⟩

/-- A configuration manager with the history of what it published: every configuration
handed to the subscribers, oldest first, for each channel how many had been published before
it was handed out, and the publication under way. -/
structure Publications where
  manager : ConfigManager
  published : List Config := []
  since : List Nat := []
  sending : Option Sending := none

namespace Publications

/-- A manager as made for a file, with any validator and logger, before anything happened. -/
def start (path : String) (validator : Config → Except Fault Unit) (log : Logger) : Publications :=
  ⟨{ ConfigManager.new path with validator := validator, log := log }, [], [], none⟩

/-- A reload that took `c`: committed, and to be published from the first channel on. -/
def reloading (p : Publications) (c : Config) : Publications :=
  { manager := p.manager.commit (some c), published := p.published ++ [c], since := p.since,
    sending := some ⟨c, 0, .send⟩ }

/-- The publisher's next move: a try at the channel it is at when that channel is open; a
closed channel is passed by, and past the last channel the publication ends. -/
def publishStep (p : Publications) : Publications :=
  match p.sending with
  | none => p
  | some s =>
    match p.manager.channels[s.channel]? with
    | none => { p with sending := none }
    | some ch =>
      if ch.isOpen then
        { p with
          manager := { p.manager with
            channels := p.manager.channels.set s.channel (ch.attempt s.config s.next).1 }
          sending := some (s.after (ch.attempt s.config s.next).2) }
      else { p with sending := some (s.after none) }

/-- One step: a load or a commit of any configuration, at any time; while no publication is
under way, a reload of any file content, a subscription of any capacity or the closing of any
channel, all of which wait for the publisher's lock; a move of the publisher; or a subscriber
taking one or all of what waits in its channel, at any time. -/
inductive Step : Publications → Publications → Prop
  | load (p : Publications) (file : Option String) :
      Step p { p with manager := (p.manager.load file).2 }
  | commit (p : Publications) (c : Option Config) :
      Step p { p with manager := p.manager.commit c }
  | rejected (p : Publications) (file : Option String) (w : LogWorld) :
      p.sending = none → p.manager.taken file = none →
      Step p { p with manager := ((p.manager.reload file).run w).1 }
  | reload (p : Publications) (file : Option String) (c : Config) :
      p.sending = none → p.manager.taken file = some c → Step p (p.reloading c)
  | publish (p : Publications) : p.sending ≠ none → Step p p.publishStep
  | subscribe (p : Publications) (capacity : Nat) :
      p.sending = none →
      Step p { p with manager := (p.manager.subscribe capacity).2,
                      since := p.since ++ [p.published.length] }
  | unsubscribe (p : Publications) (i : Nat) :
      p.sending = none → Step p { p with manager := p.manager.unsubscribe i }
  | receive (p : Publications) (i : Nat) :
      Step p { p with manager := (p.manager.receive i).2 }
  | drain (p : Publications) (i : Nat) :
      Step p { p with manager := (p.manager.drain i).2 }

abbrev Reaches : Publications → Publications → Prop := Relation.ReflTransGen Step

/-- What channel `i` has been offered: everything published, less the configuration under way
until the publisher is past the channel. -/
def offered (p : Publications) (i : Nat) : List Config :=
  match p.sending with
  | some s => if i < s.channel then p.published else p.published.dropLast
  | none => p.published

variable {p : Publications} {s : Sending} {ch : ConfigChannel}

private theorem set_found {l : List ConfigChannel} {i : Nat} {a : ConfigChannel}
    (found : l[i]? = some a) : l.set i a = l := by
  obtain ⟨lt, rfl⟩ := List.getElem?_eq_some_iff.mp found
  exact List.set_getElem_self lt

@[simp] theorem offered_manager (m : ConfigManager) :
    ({ p with manager := m } : Publications).offered = p.offered := rfl

theorem publishStep_of_idle (idle : p.sending = none) : p.publishStep = p := by
  simp [publishStep, idle]

theorem publishStep_of_missing (sending : p.sending = some s)
    (missing : p.manager.channels[s.channel]? = none) : p.publishStep = { p with sending := none } := by
  simp [publishStep, sending, missing]

theorem publishStep_of_closed (sending : p.sending = some s)
    (found : p.manager.channels[s.channel]? = some ch) (closed : ch.isOpen = false) :
    p.publishStep = { p with sending := some (s.after none) } := by
  simp [publishStep, sending, found, closed]

theorem publishStep_of_open (sending : p.sending = some s)
    (found : p.manager.channels[s.channel]? = some ch) (opened : ch.isOpen) :
    p.publishStep = { p with
      manager := { p.manager with
        channels := p.manager.channels.set s.channel (ch.attempt s.config s.next).1 }
      sending := some (s.after (ch.attempt s.config s.next).2) } := by
  simp [publishStep, sending, found, opened]

/-- What holds after every run: the hash kept is the hash of the configuration in force, and
each channel holds what it has been offered since it was handed out. -/
structure Inv (p : Publications) : Prop where
  hash : p.manager.lastHash = ConfigManager.hashOf p.manager.current
  channels : ∀ (i : Nat) (ch : ConfigChannel), p.manager.channels[i]? = some ch →
    ∃ s, p.since[i]? = some s ∧ s ≤ (p.offered i).length ∧ ch.Holds ((p.offered i).drop s)
  counted : p.since.length = p.manager.channels.length
  /-- The configuration under way is the newest published. -/
  underWay : ∀ s, p.sending = some s → p.published = p.published.dropLast ++ [s.config]
  /-- Before the second send, the publisher's channel has room, or no capacity. -/
  spare : ∀ s ch, p.sending = some s → s.next = .resend →
    p.manager.channels[s.channel]? = some ch → ch.Spare

theorem Inv.start (path : String) (validator : Config → Except Fault Unit) (log : Logger) :
    (start path validator log).Inv :=
  ⟨rfl, by simp [Publications.start, ConfigManager.new], rfl, by simp [Publications.start],
    by simp [Publications.start]⟩

/-- A change made to one channel, that keeps what every channel holds and the room before a
second send, keeps the invariant. -/
theorem Inv.update (h : p.Inv) (f : ConfigChannel → ConfigChannel)
    (keeps : ∀ ch L, ch.Holds L → (f ch).Holds L) (spares : ∀ ch, ch.Spare → (f ch).Spare)
    (i : Nat) :
    Inv { p with manager := { p.manager with channels := p.manager.channels.modify i f } } := by
  refine ⟨h.hash, fun j ch found => ?_, by simpa using h.counted, h.underWay,
    fun s ch sending resend found => ?_⟩
  · simp only [List.getElem?_modify] at found
    cases before : p.manager.channels[j]? with
    | none => simp [before] at found
    | some ch₀ =>
      obtain ⟨s, at_j, le, holds⟩ := h.channels j ch₀ before
      simp only [before, Option.map_eq_map, Option.map_some, Option.some.injEq] at found
      subst found
      exact ⟨s, at_j, le, by split_ifs <;> simp_all⟩
  · simp only [List.getElem?_modify] at found
    cases before : p.manager.channels[s.channel]? with
    | none => simp [before] at found
    | some ch₀ =>
      have spare := h.spare s ch₀ sending resend before
      simp only [before, Option.map_eq_map, Option.map_some, Option.some.injEq] at found
      subst found
      split_ifs <;> simp_all

theorem Inv.reloading (h : p.Inv) (idle : p.sending = none) (c : Config) : (p.reloading c).Inv := by
  refine ⟨by simp [Publications.reloading], fun i ch found => ?_, h.counted, fun s sending => ?_,
    fun s ch sending resend => ?_⟩
  · simpa [Publications.reloading, offered, idle] using h.channels i ch found
  · cases sending
    simp [Publications.reloading]
  · cases sending
    cases resend

theorem Inv.subscribe (h : p.Inv) (idle : p.sending = none) (capacity : Nat) :
    Inv { p with manager := (p.manager.subscribe capacity).2,
                 since := p.since ++ [p.published.length] } := by
  refine ⟨h.hash, fun i ch found => ?_, by simp [ConfigManager.subscribe, h.counted],
    fun s sending => by simp [idle] at sending, fun s ch sending => by simp [idle] at sending⟩
  simp only [ConfigManager.subscribe, offered, idle] at found ⊢
  have holds := h.channels i
  simp only [offered, idle] at holds
  by_cases old : i < p.manager.channels.length
  · rw [List.getElem?_append_left old] at found
    obtain ⟨s, at_i, le, held⟩ := holds ch found
    exact ⟨s, by rw [List.getElem?_append_left (h.counted ▸ old)]; exact at_i, le, held⟩
  · rw [List.getElem?_append_right (by omega), List.getElem?_singleton] at found
    split_ifs at found with new
    obtain rfl := Option.some.inj found
    have counted := h.counted
    refine ⟨p.published.length, ?_, Nat.le_refl _, by simpa using ConfigChannel.Holds.fresh capacity⟩
    rw [List.getElem?_append_right (by omega), List.getElem?_singleton, if_pos (by omega)]

theorem Inv.finish (h : p.Inv) (sending : p.sending = some s)
    (missing : p.manager.channels[s.channel]? = none) : Inv { p with sending := none } := by
  refine ⟨h.hash, fun i ch found => ?_, h.counted, by simp, by simp⟩
  change p.manager.channels[i]? = some ch at found
  have past : i < s.channel := by
    have := (List.getElem?_eq_some_iff.mp found).1
    have := List.getElem?_eq_none_iff.mp missing
    omega
  simpa [offered, sending, past] using h.channels i ch found

theorem Inv.stay (h : p.Inv) (sending : p.sending = some s)
    (found : p.manager.channels[s.channel]? = some ch) (t : Try) (ch' : ConfigChannel)
    (keeps : ∀ L, ch.Holds L → ch'.Holds L ∧ (t = .resend → ch'.Spare)) :
    Inv { p with
      manager := { p.manager with channels := p.manager.channels.set s.channel ch' }
      sending := some (s.after (some t)) } := by
  have same : ∀ i, Publications.offered { p with
      manager := { p.manager with channels := p.manager.channels.set s.channel ch' }
      sending := some (s.after (some t)) } i = p.offered i := by
    intro i
    simp only [offered, sending, Sending.after]
    rfl
  refine ⟨h.hash, fun i ch₁ found₁ => ?_, by simpa using h.counted,
    fun s' sending' => ?_, fun s' ch₁ sending' resend found₁ => ?_⟩
  · rw [same]
    rw [List.getElem?_set] at found₁
    split_ifs at found₁ with here
    · subst here
      obtain rfl := Option.some.inj found₁
      obtain ⟨s₀, at_i, le, holds⟩ := h.channels s.channel ch found
      exact ⟨s₀, at_i, le, (keeps _ holds).1⟩
    · exact h.channels i ch₁ found₁
  · cases sending'
    exact h.underWay s sending
  · cases sending'
    simp only [Sending.after, List.getElem?_set_self (List.getElem?_eq_some_iff.mp found).1,
      Option.some.injEq] at found₁ resend
    subst found₁
    obtain ⟨s₀, -, -, holds⟩ := h.channels s.channel ch found
    exact (keeps _ holds).2 resend

theorem Inv.pass (h : p.Inv) (sending : p.sending = some s)
    (found : p.manager.channels[s.channel]? = some ch) (ch' : ConfigChannel)
    (extends_ : ∀ L, ch.Holds L → ch'.Holds (L ++ [s.config])) :
    Inv { p with
      manager := { p.manager with channels := p.manager.channels.set s.channel ch' }
      sending := some (s.after none) } := by
  have newest := h.underWay s sending
  refine ⟨h.hash, fun i ch₁ found₁ => ?_, by simpa using h.counted,
    fun s' sending' => ?_, fun s' ch₁ sending' resend => ?_⟩
  · rw [List.getElem?_set] at found₁
    split_ifs at found₁ with here
    · subst here
      obtain rfl := Option.some.inj found₁
      obtain ⟨s₀, at_i, le, holds⟩ := h.channels s.channel ch found
      simp only [offered, sending, Nat.lt_irrefl, ↓reduceIte] at le holds
      refine ⟨s₀, at_i, by simpa [offered, Sending.after] using Nat.le_trans le (List.dropLast_prefix _).length_le, ?_⟩
      have extended := extends_ _ holds
      rw [← List.drop_append_of_le_length le, ← newest] at extended
      simpa [offered, Sending.after] using extended
    · have other : i < s.channel + 1 ↔ i < s.channel := by omega
      simpa [offered, sending, Sending.after, other] using h.channels i ch₁ found₁
  · cases sending'
    exact newest
  · cases sending'
    cases resend

theorem Inv.publishStep (h : p.Inv) : p.publishStep.Inv := by
  cases sending : p.sending with
  | none => rwa [publishStep_of_idle sending]
  | some s =>
    cases found : p.manager.channels[s.channel]? with
    | none =>
      rw [publishStep_of_missing sending found]
      exact h.finish sending found
    | some ch =>
      cases opened : ch.isOpen with
      | false =>
        rw [publishStep_of_closed sending found opened]
        have pass := h.pass sending found ch (fun L holds => holds.skip (.inl opened))
        rwa [set_found found] at pass
      | true =>
        rw [publishStep_of_open sending found opened]
        have spare : s.next = .resend → ch.Spare := fun resend => h.spare s ch sending resend found
        cases next : (ch.attempt s.config s.next).2 with
        | none => exact h.pass sending found _ (fun L holds => (holds.attempt_done opened spare next).1)
        | some t => exact h.stay sending found t _ (fun L holds => holds.attempt_more next)

theorem Inv.step {q : Publications} (h : p.Inv) (step : Step p q) : q.Inv := by
  cases step with
  | load file =>
    refine ⟨p.manager.load_hash file h.hash, fun i ch found => ?_, by simpa using h.counted,
      h.underWay, fun s ch sending resend found => h.spare s ch sending resend (by simpa using found)⟩
    exact h.channels i ch (by simpa using found)
  | commit c => exact ⟨by simp, h.channels, h.counted, h.underWay, h.spare⟩
  | rejected file w idle taken =>
    rw [ConfigManager.reload_run, taken]
    exact h
  | reload file c idle taken => exact h.reloading idle c
  | publish => exact h.publishStep
  | subscribe capacity idle => exact h.subscribe idle capacity
  | unsubscribe i idle =>
    exact h.update _ (fun _ _ holds => holds.close) (fun _ spare => spare) i
  | receive i =>
    rw [ConfigManager.receive_run]
    refine h.update _ (fun _ _ holds => holds.receive) (fun ch spare => ?_) i
    simp only [ConfigChannel.Spare, ConfigChannel.receive_waiting, List.length_tail,
      ConfigChannel.receive_capacity] at spare ⊢
    omega
  | drain i =>
    rw [ConfigManager.drain_run]
    refine h.update _ (fun ch L _ => ConfigChannel.Holds.emptied ch L) (fun ch spare => ?_) i
    simp only [ConfigChannel.Spare, List.length_nil] at spare ⊢
    omega

theorem Inv.reaches {q : Publications} (h : p.Inv) (run : Reaches p q) : q.Inv := by
  induction run with
  | refl => exact h
  | tail _ step ih => exact ih.step step

/-- What the invariant gives each channel against everything published: at most its capacity,
a run of what was published since it was handed out, reaching the newest while it is open and
no publication is under way. -/
theorem Inv.holds_published (h : p.Inv) {i : Nat} (found : p.manager.channels[i]? = some ch) :
    ∃ s, p.since[i]? = some s ∧ ch.waiting.length ≤ ch.capacity ∧
      ch.waiting <:+: p.published.drop s ∧ (ch.isOpen → p.sending = none → ch.waiting <:+ p.published.drop s) := by
  obtain ⟨s, at_i, le, holds⟩ := h.channels i ch found
  refine ⟨s, at_i, holds.bounded, ?_, fun opened idle => by simpa [offered, idle] using holds.newest opened⟩
  cases sending : p.sending with
  | none => simpa [offered, sending] using holds.run
  | some u =>
    have prefix_ : (p.offered i).drop s <+: p.published.drop s := by
      simp only [offered, sending]
      split_ifs
      · exact List.prefix_refl _
      · simp only [offered, sending] at le
        split_ifs at le
        conv_rhs => rw [h.underWay u sending, List.drop_append_of_le_length le]
        exact List.prefix_append _ _
    exact holds.run.trans prefix_.isInfix

theorem Inv.passed_last (h : p.Inv) (sending : p.sending = some s)
    (moved : p.publishStep.sending = some (s.after none))
    (found : p.publishStep.manager.channels[s.channel]? = some ch) (opened : ch.isOpen)
    (pos : 0 < ch.capacity) : ch.waiting.getLast? = some s.config := by
  cases before : p.manager.channels[s.channel]? with
  | none => simp [publishStep_of_missing sending before] at moved
  | some ch₀ =>
    cases open₀ : ch₀.isOpen with
    | false =>
      simp only [publishStep_of_closed sending before open₀, before, Option.some.injEq] at found
      subst found
      simp [open₀] at opened
    | true =>
      rw [publishStep_of_open sending before open₀] at moved found
      have done : (ch₀.attempt s.config s.next).2 = none := by
        cases next : (ch₀.attempt s.config s.next).2 with
        | none => rfl
        | some t => simp [next, Sending.after] at moved
      simp only [List.getElem?_set_self (List.getElem?_eq_some_iff.mp before).1,
        Option.some.injEq] at found
      subst found
      obtain ⟨s₀, -, -, holds⟩ := h.channels s.channel ch₀ before
      exact (holds.attempt_done open₀ (h.spare s ch₀ sending · before) done).2 (by simpa using pos)

theorem Step.keeps_closed {q : Publications} (step : Step p q) {i : Nat}
    (found : p.manager.channels[i]? = some ch) (closed : ch.isOpen = false) :
    ∃ ch', q.manager.channels[i]? = some ch' ∧ ch'.isOpen = false ∧ ch'.waiting <:+ ch.waiting := by
  have unchanged : ∃ ch', some ch = some ch' ∧ ch'.isOpen = false ∧ ch'.waiting <:+ ch.waiting :=
    ⟨ch, rfl, closed, List.suffix_refl _⟩
  have modified (f : ConfigChannel → ConfigChannel) (j : Nat)
      (keeps : (f ch).isOpen = false ∧ (f ch).waiting <:+ ch.waiting) :
      ∃ ch', (p.manager.channels.modify j f)[i]? = some ch' ∧ ch'.isOpen = false ∧
        ch'.waiting <:+ ch.waiting := by
    rw [List.getElem?_modify, found]
    by_cases same : j = i
    · exact ⟨f ch, by simp [same], keeps⟩
    · exact ⟨ch, by simp [same], closed, List.suffix_refl _⟩
  cases step with
  | load file => simpa [found] using unchanged
  | commit c => simpa [found] using unchanged
  | rejected file w idle taken => simpa [ConfigManager.reload_run, taken, found] using unchanged
  | reload file c idle taken => simpa [reloading, found] using unchanged
  | publish =>
    cases sending : p.sending with
    | none => simpa [publishStep_of_idle sending, found] using unchanged
    | some s =>
      cases at_s : p.manager.channels[s.channel]? with
      | none => simpa [publishStep_of_missing sending at_s, found] using unchanged
      | some ch₀ =>
        cases open₀ : ch₀.isOpen with
        | false => simpa [publishStep_of_closed sending at_s open₀, found] using unchanged
        | true =>
          have other : s.channel ≠ i := by
            rintro rfl
            simp [found] at at_s
            simp [← at_s, closed] at open₀
          simpa [publishStep_of_open sending at_s open₀, List.getElem?_set, other, found] using unchanged
  | subscribe capacity idle =>
    have old : i < p.manager.channels.length := (List.getElem?_eq_some_iff.mp found).1
    simpa [ConfigManager.subscribe, List.getElem?_append_left old, found] using unchanged
  | unsubscribe j idle => exact modified _ j ⟨rfl, List.suffix_refl _⟩
  | receive j =>
    rw [ConfigManager.receive_run]
    exact modified _ j ⟨by simpa using closed, by simpa using List.tail_suffix _⟩
  | drain j =>
    rw [ConfigManager.drain_run]
    exact modified _ j ⟨closed, List.nil_suffix⟩

theorem publishStep_channel {c : Config} {i : Nat} (sending : p.sending = some ⟨c, i, .send⟩)
    (found : p.manager.channels[i]? = some ch) :
    ∃ m, publishStep^[m] p = { p with
      manager := { p.manager with channels := p.manager.channels.set i (ch.deliver c) }
      sending := some ⟨c, i + 1, .send⟩ } := by
  have at_i : i < p.manager.channels.length := (List.getElem?_eq_some_iff.mp found).1
  cases opened : ch.isOpen with
  | false =>
    refine ⟨1, ?_⟩
    rw [Function.iterate_one, publishStep_of_closed sending found opened,
      ConfigChannel.deliver_of_closed _ _ opened, set_found found]
    rfl
  | true =>
    have delivered : ch.deliver c = (ch.offer c).2 := by simp [ConfigChannel.deliver, opened]
    rcases ch.attempt_offer c with ⟨done, offered⟩ | ⟨more, offered⟩
    · refine ⟨1, ?_⟩
      rw [Function.iterate_one, publishStep_of_open sending found opened]
      simp [done, offered, delivered, Sending.after]
    · refine ⟨3, ?_⟩
      have first := publishStep_of_open sending found opened
      simp only [more, Sending.after] at first
      have second := @publishStep_of_open p.publishStep ⟨c, i, .dropOldest⟩ (ch.attempt c .send).1
        (by rw [first]) (by rw [first]; simp [at_i]) (by simp [opened])
      rw [first] at second
      have third := @publishStep_of_open p.publishStep.publishStep ⟨c, i, .resend⟩
        ((ch.attempt c .send).1.attempt c .dropOldest).1 (by rw [first, second]; rfl) (by rw [first, second]; simp [at_i]) (by simp [opened])
      rw [first, second] at third
      rw [show publishStep^[3] p = p.publishStep.publishStep.publishStep from rfl, first, second, third]
      simp [offered, delivered, Sending.after]

theorem publishStep_finish {c : Config} {i : Nat} (sending : p.sending = some ⟨c, i, .send⟩)
    (missing : p.manager.channels[i]? = none) :
    publishStep^[1] p = { p with
      manager := { p.manager with
        channels := p.manager.channels.mapIdx fun j ch => if i ≤ j then ch.deliver c else ch }
      sending := none } := by
  have untouched : p.manager.channels.mapIdx (fun j ch => if i ≤ j then ch.deliver c else ch) =
      p.manager.channels := by
    apply List.ext_getElem?
    intro j
    rw [List.getElem?_mapIdx]
    cases at_j : p.manager.channels[j]? with
    | none => rfl
    | some ch =>
      have : j < i := by
        have := (List.getElem?_eq_some_iff.mp at_j).1
        have := List.getElem?_eq_none_iff.mp missing
        omega
      simp [show ¬i ≤ j by omega]
  rw [Function.iterate_one, publishStep_of_missing (s := ⟨c, i, .send⟩) sending missing, untouched]

private theorem mapIdx_set_deliver {c : Config} {l : List ConfigChannel} {i : Nat}
    (found : l[i]? = some ch) :
    (l.set i (ch.deliver c)).mapIdx (fun j ch => if i + 1 ≤ j then ch.deliver c else ch) =
      l.mapIdx (fun j ch => if i ≤ j then ch.deliver c else ch) := by
  apply List.ext_getElem?
  intro j
  rw [List.getElem?_mapIdx, List.getElem?_mapIdx, List.getElem?_set]
  by_cases here : i = j
  · subst here
    obtain ⟨lt, rfl⟩ := List.getElem?_eq_some_iff.mp found
    simp [lt, show ¬i + 1 ≤ i by omega]
  · by_cases past : i + 1 ≤ j
    · simp [here, past, show i ≤ j by omega]
    · simp [here, past, show ¬i ≤ j by omega]

/-- With nothing in between, the publisher's moves from channel `i` on offer the configuration
to every channel from `i` on, and end the publication. -/
theorem publishStep_iterate (c : Config) (k : Nat) :
    ∀ (p : Publications) (i : Nat), p.manager.channels.length ≤ i + k →
      p.sending = some ⟨c, i, .send⟩ →
      ∃ n, publishStep^[n] p = { p with
        manager := { p.manager with
          channels := p.manager.channels.mapIdx fun j ch => if i ≤ j then ch.deliver c else ch }
        sending := none } := by
  induction k with
  | zero =>
    intro p i short sending
    exact ⟨1, publishStep_finish sending (List.getElem?_eq_none_iff.mpr (by omega))⟩
  | succ k ih =>
    intro p i short sending
    cases found : p.manager.channels[i]? with
    | none => exact ⟨1, publishStep_finish sending found⟩
    | some ch =>
      obtain ⟨m, channel⟩ := publishStep_channel sending found
      obtain ⟨n, rest⟩ := ih (publishStep^[m] p) (i + 1) (by rw [channel]; simp; omega)
        (by rw [channel])
      refine ⟨n + m, ?_⟩
      rw [Function.iterate_add_apply, rest, channel]
      simp only [mapIdx_set_deliver found]

/-- A reload that takes a configuration, then the publisher's moves with nothing in between,
leave the manager as the reload run at once does. -/
theorem reloading_publishes (p : Publications) {file : Option String} {c : Config}
    (taken : p.manager.taken file = some c) (w : LogWorld) :
    ∃ n, (publishStep^[n] (p.reloading c)).manager = ((p.manager.reload file).run w).1 ∧
      (publishStep^[n] (p.reloading c)).sending = none := by
  obtain ⟨n, run⟩ := publishStep_iterate c (p.reloading c).manager.channels.length (p.reloading c) 0
    (by omega) rfl
  refine ⟨n, ?_, by rw [run]⟩
  rw [run, ConfigManager.reload_run, taken]
  simp [reloading, List.mapIdx_eq_iff]

end Publications

namespace ConfigManager

/-- The reload protocol of a manager with one publisher. A reload changes nothing (the
configuration in force, the hash, the channels) unless the file reads, its hash is unknown or
new, and the validator passes it; then it commits it and offers it to the open channels only,
channel by channel, as three tries at each. Along every run from a fresh manager, with
subscribers receiving between any two tries: the hash kept is the configuration in force's;
every channel holds at most its capacity, a run of what was published since it subscribed, in
order, reaching the newest while open and no publication is under way; once the publisher is
past an open channel with room for one, the channel ends with the configuration published; and
a closed channel is sent nothing again. -/
theorem publication_protocol :
    (∀ (m : ConfigManager) (file : Option String) (w : LogWorld),
      (∀ c, m.parse file = .ok c → (hashOf (some c) = 0 ∨ hashOf (some c) ≠ m.lastHash) →
        m.validator c ≠ .ok ()) →
      ((m.reload file).run w).1 = m) ∧
    (∀ (m : ConfigManager) (file : Option String) (w : LogWorld) (c : Config),
      m.parse file = .ok c → (hashOf (some c) = 0 ∨ hashOf (some c) ≠ m.lastHash) →
      m.validator c = .ok () →
      ((m.reload file).run w).1 =
        { m.commit (some c) with channels := m.channels.map (ConfigChannel.deliver c) }) ∧
    (∀ (p : Publications) (file : Option String) (w : LogWorld) (c : Config),
      p.manager.parse file = .ok c →
      (hashOf (some c) = 0 ∨ hashOf (some c) ≠ p.manager.lastHash) →
      p.manager.validator c = .ok () →
      ∃ n, (Publications.publishStep^[n] (p.reloading c)).manager = ((p.manager.reload file).run w).1 ∧
        (Publications.publishStep^[n] (p.reloading c)).sending = none) ∧
    (∀ (path : String) (validator : Config → Except Fault Unit) (log : Logger) (p : Publications),
      Publications.Reaches (Publications.start path validator log) p →
      p.manager.lastHash = hashOf p.manager.current ∧
      (∀ (i : Nat) (ch : ConfigChannel), p.manager.channels[i]? = some ch →
        ∃ s, p.since[i]? = some s ∧ ch.waiting.length ≤ ch.capacity ∧
          ch.waiting <:+: p.published.drop s ∧
          (ch.isOpen → p.sending = none → ch.waiting <:+ p.published.drop s)) ∧
      (∀ (c : Config) (i : Nat) (t : Try) (ch : ConfigChannel), p.sending = some ⟨c, i, t⟩ →
        p.publishStep.sending = some ⟨c, i + 1, .send⟩ →
        p.publishStep.manager.channels[i]? = some ch → ch.isOpen → 0 < ch.capacity →
        ch.waiting.getLast? = some c) ∧
      (∀ (q : Publications), Publications.Step p q → ∀ (i : Nat) (ch : ConfigChannel),
        p.manager.channels[i]? = some ch → ch.isOpen = false →
        ∃ ch', q.manager.channels[i]? = some ch' ∧ ch'.isOpen = false ∧ ch'.waiting <:+ ch.waiting)) := by
  refine ⟨fun m file w nothing => ?_, fun m file w c parsed fresh valid => ?_,
    fun p file w c parsed fresh valid =>
      p.reloading_publishes ((p.manager.taken_eq_some_iff file c).mpr ⟨parsed, fresh, valid⟩) w, ?_⟩
  · have none : m.taken file = none := by
      cases taken : m.taken file with
      | none => rfl
      | some c =>
        obtain ⟨parsed, fresh, valid⟩ := (m.taken_eq_some_iff file c).mp taken
        exact absurd valid (nothing c parsed fresh)
    rw [reload_run, none]
  · rw [reload_run, (m.taken_eq_some_iff file c).mpr ⟨parsed, fresh, valid⟩]
  · intro path validator log p run
    have h := (Publications.Inv.start path validator log).reaches run
    exact ⟨h.hash, fun i ch found => h.holds_published found,
      fun c i t ch sending moved found opened pos => h.passed_last sending moved found opened pos,
      fun q step i ch found closed => step.keeps_closed found closed⟩

end ConfigManager

end Foreman
