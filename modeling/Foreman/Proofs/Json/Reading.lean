import Foreman.Json.Read
import Mathlib.Tactic.SplitIfs
import Mathlib.Data.List.Infix

/-!
# How the JSON reader reads

`readValue`, `readMembers` and `readItems` are read through one inversion lemma each, what a
successful read found at the start of its text (`Opens`, `MembersGo`, `ItemsGo`), the nested
readers as parameters. From these and an induction on the fuel:

* more fuel gives the same answer (`readValue_fuel_le`);
* a value's text is exactly what was consumed (`readValue_text`);
* a value read inside `d` containers reads the same at any depth with room for its nesting
  (`readValue_at_depth`);
* text after a value does not change it, unless it extends a number (`readValue_append`);
* opening brackets nested past `maxDepth` are never read (`readValue_replicate_open`).
-/

namespace Foreman.Json

set_option autoImplicit false

theorem map_eq_ok_iff {ε α β : Type} {g : α → β} {x : Except ε α} {b : β} :
    x.map g = .ok b ↔ ∃ a, x = .ok a ∧ g a = b := by
  cases x <;> simp [Except.map]

theorem bind_eq_ok_iff {ε α β : Type} {x : Except ε α} {g : α → Except ε β} {b : β} :
    x >>= g = .ok b ↔ ∃ a, x = .ok a ∧ g a = .ok b := by
  cases x <;> simp [bind, Except.bind]

/-! ## Blanks and consumed text -/

theorem skipBlank_suffix (cs : List Char) : skipBlank cs <:+ cs := by
  induction cs with
  | nil => exact List.suffix_refl _
  | cons c cs ih =>
    unfold skipBlank
    split
    · exact ih.trans (List.suffix_cons c cs)
    · exact List.suffix_refl _

theorem skipBlank_append {cs s x : List Char} {c : Char} (h : skipBlank cs = c :: s) :
    skipBlank (cs ++ x) = c :: (s ++ x) := by
  induction cs with
  | nil => cases h
  | cons b cs ih =>
    by_cases hb : isBlank b
    · simp only [skipBlank, hb, if_true, List.cons_append] at h ⊢
      exact ih h
    · simp only [skipBlank, hb, Bool.false_eq_true, if_false, List.cons_append,
        List.cons.injEq] at h ⊢
      obtain ⟨rfl, rfl⟩ := h
      exact ⟨rfl, rfl⟩

theorem consumed_get (pre rest : List Char) :
    (consumed (pre ++ rest) rest).get = String.ofList pre := by
  simp [consumed, Thunk.get]

theorem consumed_text {start rest : List Char} (h : rest <:+ start) :
    (consumed start rest).get.toList ++ rest = start := by
  obtain ⟨pre, rfl⟩ := h
  rw [consumed_get, String.toList_ofList]

theorem consumed_append (start rest x : List Char) :
    consumed (start ++ x) (rest ++ x) = consumed start rest := by
  have hlen : (start ++ x).length - (rest ++ x).length = start.length - rest.length := by
    simp only [List.length_append]
    omega
  simp only [consumed, hlen, List.take_append_of_le_length (Nat.sub_le _ _)]

/-! ## Strings, literals and numbers -/

theorem stringBody_ok (r : List Char) {ps : List Piece} {rest : List Char}
    (h : stringBody r = .ok (ps, rest)) :
    rest <:+ r ∧ ∀ x, stringBody (r ++ x) = .ok (ps, rest ++ x) := by
  revert ps rest
  refine stringBody.induct
    (fun cs => ∀ {ps rest}, stringBody.unit4 cs = .ok (ps, rest) →
      rest <:+ cs ∧ ∀ x, stringBody.unit4 (cs ++ x) = .ok (ps, rest ++ x))
    (fun r => ∀ {ps rest}, stringBody r = .ok (ps, rest) →
      rest <:+ r ∧ ∀ x, stringBody (r ++ x) = .ok (ps, rest ++ x))
    ?_ ?_ ?_ ?_ ?_ ?_ ?_ ?_ ?_ ?_ ?_ ?_ ?_ ?_ ?_ r
  · intro a b c d r n1 n2 n3 n4 ha hb hc hd ih ps rest h
    simp only [stringBody.unit4, ha, hb, hc, hd] at h
    obtain ⟨⟨ps', rest'⟩, hr, he⟩ := map_eq_ok_iff.1 h
    cases he
    obtain ⟨hs, happ⟩ := ih hr
    refine ⟨hs.trans (List.suffix_append [a, b, c, d] r), fun x => ?_⟩
    simp [stringBody.unit4, ha, hb, hc, hd, happ, Except.map]
  · intro a b c d r ha ps rest h
    simp [stringBody.unit4, ha] at h
  · intro a b c d r hb ha ps rest h
    cases h' : hexValue? a <;> simp_all [stringBody.unit4]
  · intro a b c d r hc ha hb ps rest h
    cases h' : hexValue? a <;> cases h'' : hexValue? b <;> simp_all [stringBody.unit4]
  · intro a b c d r hd ha hb hc ps rest h
    cases h' : hexValue? a <;> cases h'' : hexValue? b <;> cases h''' : hexValue? c <;>
      simp_all [stringBody.unit4]
  · intro cs hcs c hf ps rest h
    rw [stringBody.unit4.eq_def] at h
    split at h
    · exact (hcs _ _ _ _ _ rfl).elim
    · simp [hf] at h
  · intro cs hcs hf ps rest h
    rw [stringBody.unit4.eq_def] at h
    split at h
    · exact (hcs _ _ _ _ _ rfl).elim
    · simp [hf] at h
  · intro ps rest h
    simp [stringBody] at h
  · intro r ps rest h
    simp only [stringBody, Except.ok.injEq, Prod.mk.injEq] at h
    obtain ⟨rfl, rfl⟩ := h
    exact ⟨List.suffix_cons _ _, fun x => by simp [stringBody]⟩
  · intro ps rest h
    simp [stringBody] at h
  · intro r1 ih ps rest h
    simp only [stringBody] at h
    obtain ⟨hs, happ⟩ := ih h
    exact ⟨hs.trans (List.suffix_append ['\\', 'u'] r1), fun x => by simp [stringBody, happ]⟩
  · intro e r1 hu c hc ih ps rest h
    simp only [stringBody, hc] at h
    obtain ⟨⟨ps', rest'⟩, hr, he⟩ := map_eq_ok_iff.1 h
    cases he
    obtain ⟨hs, happ⟩ := ih hr
    refine ⟨hs.trans (List.suffix_append ['\\', e] r1), fun x => ?_⟩
    simp [stringBody, hc, happ, Except.map]
  · intro e r1 hu hc ps rest h
    simp [stringBody, hc] at h
  · intro c r h1 h2 hlt ps rest h
    simp [stringBody, hlt] at h
  · intro c r h1 h2 hlt ih ps rest h
    simp only [stringBody, hlt] at h
    obtain ⟨⟨ps', rest'⟩, hr, he⟩ := map_eq_ok_iff.1 h
    cases he
    obtain ⟨hs, happ⟩ := ih hr
    refine ⟨hs.trans (List.suffix_cons c r), fun x => ?_⟩
    simp [stringBody, hlt, happ, Except.map]

theorem readString_ok {r rest : List Char} {s : String} (h : readString r = .ok (s, rest)) :
    rest <:+ r ∧ ∀ x, readString (r ++ x) = .ok (s, rest ++ x) := by
  obtain ⟨⟨ps, rest'⟩, hb, he⟩ := map_eq_ok_iff.1 h
  cases he
  obtain ⟨hs, happ⟩ := stringBody_ok r hb
  exact ⟨hs, fun x => by simp [readString, happ x, Except.map]⟩

theorem literalRest_ok {word : String} {ws : List Char} :
    ∀ {r rest : List Char}, literalRest word ws r = .ok ((), rest) →
      r = ws ++ rest ∧ ∀ x, literalRest word ws (r ++ x) = .ok ((), rest ++ x) := by
  induction ws with
  | nil =>
    intro r rest h
    simp only [literalRest, Except.ok.injEq, Prod.mk.injEq, true_and] at h
    subst h
    exact ⟨rfl, fun x => rfl⟩
  | cons w ws ih =>
    intro r rest h
    cases r with
    | nil => cases h
    | cons c r =>
      simp only [literalRest] at h
      split_ifs at h with hc
      obtain ⟨hr, happ⟩ := ih h
      obtain rfl : c = w := by simpa using hc
      exact ⟨by simp [hr], fun x => by simp [literalRest, happ]⟩

/-- Whether a text starts with a character that would continue a number written before it. -/
def extendsNumber : List Char → Bool
  | c :: _ => c.isDigit || c == '.' || c == 'e' || c == 'E'
  | [] => false

theorem takeWhile_dropWhile_of_stop {p : Char → Bool} {ds rest : List Char}
    (hds : ∀ c ∈ ds, p c) (hr : ∀ c t, rest = c :: t → p c = false) :
    (ds ++ rest).takeWhile p = ds ∧ (ds ++ rest).dropWhile p = rest := by
  rw [List.takeWhile_append_of_pos hds, List.dropWhile_append_of_pos hds]
  cases rest with
  | nil => simp
  | cons c t => simp [hr c t rfl]

theorem digitRun_eq_ok {context : String} {cs ds rest : List Char} :
    digitRun context cs = .ok (ds, rest) ↔
      ds ≠ [] ∧ (∀ c ∈ ds, c.isDigit) ∧ (∀ c t, rest = c :: t → c.isDigit = false) ∧
        cs = ds ++ rest := by
  constructor
  · intro h
    unfold digitRun at h
    split at h
    · cases h
    · next c t =>
      split_ifs at h with hc
      simp only [Except.ok.injEq, Prod.mk.injEq] at h
      obtain ⟨rfl, rfl⟩ := h
      refine ⟨by simp [hc], fun a ha => ?_, fun a u hu => ?_, List.takeWhile_append_dropWhile.symm⟩
      · have := List.all_takeWhile (p := Char.isDigit) (l := c :: t)
        rw [List.all_eq_true] at this
        exact this a ha
      · have := List.head?_dropWhile_not Char.isDigit (c :: t)
        rw [hu] at this
        exact this
  · rintro ⟨hne, hds, hr, rfl⟩
    obtain ⟨htake, hdrop⟩ := takeWhile_dropWhile_of_stop hds hr
    cases ds with
    | nil => exact absurd rfl hne
    | cons d ds =>
      have hd : d.isDigit = true := hds d (by simp)
      simp only [digitRun, List.cons_append, hd, if_true]
      rw [← List.cons_append, htake, hdrop]

/-- A reader of a part of a number reads a prefix of its text, and text after that prefix
changes nothing unless it would continue the number. -/
def ReadsPrefix (read : List Char → Except ReadError ((List Char) × List Char)) : Prop :=
  ∀ cs t rest, read cs = .ok (t, rest) →
    cs = t ++ rest ∧ ∀ x, (rest = [] → extendsNumber x = false) → read (cs ++ x) = .ok (t, rest ++ x)

theorem digitRun_readsPrefix (context : String) : ReadsPrefix (digitRun context) := by
  intro cs ds rest h
  obtain ⟨hne, hds, hr, rfl⟩ := digitRun_eq_ok.1 h
  refine ⟨rfl, fun x hx => digitRun_eq_ok.2 ⟨hne, hds, fun c t hct => ?_, by simp⟩⟩
  cases rest with
  | nil =>
    subst hct
    have hx := hx rfl
    simp only [extendsNumber, Bool.or_eq_false_iff] at hx
    exact hx.1.1.1
  | cons a u =>
    obtain ⟨rfl, -⟩ := List.cons.inj hct
    exact hr _ _ rfl

theorem exponentPart_readsPrefix : ReadsPrefix exponentPart := by
  intro cs t rest h
  unfold exponentPart at h
  split at h
  · next e r =>
    split_ifs at h with he
    · split at h
      · next s r' =>
        split_ifs at h with hs
        · obtain ⟨⟨ds, rest'⟩, hd, he'⟩ := map_eq_ok_iff.1 h
          cases he'
          obtain ⟨hcs, happ⟩ := digitRun_readsPrefix _ _ _ _ hd
          refine ⟨by simp [hcs], fun x hx => ?_⟩
          simp [exponentPart, he, hs, happ x hx, Except.map]
        · obtain ⟨⟨ds, rest'⟩, hd, he'⟩ := map_eq_ok_iff.1 h
          cases he'
          obtain ⟨hcs, happ⟩ := digitRun_readsPrefix _ _ _ _ hd
          refine ⟨by simp [hcs], fun x hx => ?_⟩
          have := happ x hx
          simp only [List.cons_append] at this ⊢
          simp [exponentPart, he, hs, this, Except.map]
      · cases h
    · simp only [Except.ok.injEq, Prod.mk.injEq] at h
      obtain ⟨rfl, rfl⟩ := h
      exact ⟨rfl, fun x _ => by simp [exponentPart, he]⟩
  · simp only [Except.ok.injEq, Prod.mk.injEq] at h
    obtain ⟨rfl, rfl⟩ := h
    refine ⟨rfl, fun x hx => ?_⟩
    cases x with
    | nil => rfl
    | cons c x =>
      have hx := hx rfl
      simp only [extendsNumber, Bool.or_eq_false_iff, beq_eq_false_iff_ne] at hx
      simp [exponentPart, hx.2, hx.1.2]

theorem ReadsPrefix.rest_nil {read : List Char → Except ReadError ((List Char) × List Char)}
    (hr : ReadsPrefix read) {t rest : List Char} (h : read [] = .ok (t, rest)) : rest = [] :=
  (List.append_eq_nil_iff.1 (hr _ _ _ h).1.symm).2

theorem fractionPart_readsPrefix : ReadsPrefix fractionPart := by
  intro cs t rest h
  unfold fractionPart at h
  split at h
  · next r =>
    obtain ⟨⟨ds, r1⟩, hd, h⟩ := bind_eq_ok_iff.1 h
    obtain ⟨⟨ex, r2⟩, he, h⟩ := bind_eq_ok_iff.1 h
    cases h
    obtain ⟨hr, hdapp⟩ := digitRun_readsPrefix _ _ _ _ hd
    obtain ⟨hr1, heapp⟩ := exponentPart_readsPrefix _ _ _ he
    refine ⟨by simp [hr, hr1], fun x hx => ?_⟩
    have hd' : digitRun "after decimal point in numeric literal" (r ++ x) = .ok (ds, r1 ++ x) :=
      hdapp x fun h1 => hx (by subst h1; exact exponentPart_readsPrefix.rest_nil he)
    simp [fractionPart, hd', heapp x hx, bind, Except.bind, pure, Except.pure]
  · next hne =>
    obtain ⟨hcs, happ⟩ := exponentPart_readsPrefix _ _ _ h
    refine ⟨hcs, fun x hx => ?_⟩
    cases cs with
    | nil =>
      have hnil := exponentPart_readsPrefix.rest_nil h
      have hx0 := hx hnil
      subst hnil
      obtain rfl : t = [] := by simpa using hcs.symm
      simp only [List.nil_append]
      cases x with
      | nil => exact h
      | cons c x =>
        simp only [extendsNumber, Bool.or_eq_false_iff, beq_eq_false_iff_ne] at hx0
        simp [fractionPart, exponentPart, hx0.1.1.2, hx0.1.2, hx0.2]
    | cons c r =>
      have hc : c ≠ '.' := by rintro rfl; exact hne r rfl
      have := happ x hx
      simp only [List.cons_append] at this ⊢
      simp [fractionPart, hc, this]

theorem unsignedNumber_readsPrefix : ReadsPrefix unsignedNumber := by
  intro cs t rest h
  unfold unsignedNumber at h
  split at h
  · next r =>
    obtain ⟨⟨t', r1⟩, hf, he⟩ := map_eq_ok_iff.1 h
    cases he
    obtain ⟨hr, happ⟩ := fractionPart_readsPrefix _ _ _ hf
    exact ⟨by simp [hr], fun x hx => by simp [unsignedNumber, happ x hx, Except.map]⟩
  · next hne =>
    obtain ⟨⟨ds, r1⟩, hd, h⟩ := bind_eq_ok_iff.1 h
    obtain ⟨⟨t', r2⟩, hf, h⟩ := bind_eq_ok_iff.1 h
    cases h
    obtain ⟨hr, hdapp⟩ := digitRun_readsPrefix _ _ _ _ hd
    obtain ⟨hr1, hfapp⟩ := fractionPart_readsPrefix _ _ _ hf
    refine ⟨by simp [hr, hr1], fun x hx => ?_⟩
    have hd' : digitRun "in numeric literal" (cs ++ x) = .ok (ds, r1 ++ x) :=
      hdapp x fun h1 => hx (by subst h1; exact fractionPart_readsPrefix.rest_nil hf)
    cases cs with
    | nil => simp [digitRun] at hd
    | cons c r =>
      have hc : c ≠ '0' := by rintro rfl; exact hne r rfl
      simp only [List.cons_append] at hd' ⊢
      simp [unsignedNumber, hc, hd', hfapp x hx, bind, Except.bind, pure, Except.pure]

theorem readNumber_ok {cs rest : List Char} {lit : String} (h : readNumber cs = .ok (lit, rest)) :
    cs = lit.toList ++ rest ∧
      ∀ x, (rest = [] → extendsNumber x = false) → readNumber (cs ++ x) = .ok (lit, rest ++ x) := by
  unfold readNumber at h
  split at h
  · next r =>
    obtain ⟨⟨t, r1⟩, hu, he⟩ := map_eq_ok_iff.1 h
    cases he
    obtain ⟨hr, happ⟩ := unsignedNumber_readsPrefix _ _ _ hu
    exact ⟨by simp [hr], fun x hx => by simp [readNumber, happ x hx, Except.map]⟩
  · next hne =>
    obtain ⟨⟨t, r1⟩, hu, he⟩ := map_eq_ok_iff.1 h
    cases he
    obtain ⟨hr, happ⟩ := unsignedNumber_readsPrefix _ _ _ hu
    refine ⟨by simp [hr], fun x hx => ?_⟩
    cases cs with
    | nil => simp [unsignedNumber, digitRun, bind, Except.bind] at hu
    | cons c r =>
      have hc : c ≠ '-' := by rintro rfl; exact hne r rfl
      have := happ x hx
      simp only [List.cons_append] at this ⊢
      simp [readNumber, hc, this, Except.map]

/-! ## What one read finds -/

section Shapes

variable (members : Nat → List (String × Written) → List Char →
    Except ReadError ((List (String × Written)) × List Char))
  (items : Nat → List Written → List Char → Except ReadError ((List Written) × List Char))
  (value : List Char → Except ReadError (Written × List Char))

/-- A value at the start of a text without leading blanks, inside `depth` containers, given the
readers of an object's members and of an array's items. -/
inductive Opens (depth : Nat) : List Char → Written → List Char → Prop
  | emptyObject {r0 r : List Char} : depth < maxDepth → skipBlank r0 = '}' :: r →
      Opens depth ('{' :: r0) (.obj (consumed ('{' :: r0) r) []) r
  | object {r0 r1 r : List Char} {ms : List (String × Written)} : depth < maxDepth →
      skipBlank r0 = '"' :: r1 → members (depth + 1) [] r1 = .ok (ms, r) →
      Opens depth ('{' :: r0) (.obj (consumed ('{' :: r0) r) ms) r
  | emptyArray {r0 r : List Char} : depth < maxDepth → skipBlank r0 = ']' :: r →
      Opens depth ('[' :: r0) (.arr (consumed ('[' :: r0) r) []) r
  | array {r0 r : List Char} {xs : List Written} : depth < maxDepth → skipBlank r0 ≠ [] →
      (∀ r', skipBlank r0 ≠ ']' :: r') → items (depth + 1) [] r0 = .ok (xs, r) →
      Opens depth ('[' :: r0) (.arr (consumed ('[' :: r0) r) xs) r
  | string {r0 r : List Char} {s : String} : readString r0 = .ok (s, r) →
      Opens depth ('"' :: r0) (.str (consumed ('"' :: r0) r) s) r
  | literalTrue {r0 r : List Char} : literalRest "true" ['r', 'u', 'e'] r0 = .ok ((), r) →
      Opens depth ('t' :: r0) (.bool true) r
  | literalFalse {r0 r : List Char} : literalRest "false" ['a', 'l', 's', 'e'] r0 = .ok ((), r) →
      Opens depth ('f' :: r0) (.bool false) r
  | literalNull {r0 r : List Char} : literalRest "null" ['u', 'l', 'l'] r0 = .ok ((), r) →
      Opens depth ('n' :: r0) .null r
  | number {c : Char} {r0 r : List Char} {lit : String} : (c = '-' ∨ c.isDigit) →
      readNumber (c :: r0) = .ok (lit, r) → Opens depth (c :: r0) (.num lit) r

/-- The members of an object after the opening quote of a key, given the reader of a value
and the reader of the members after this one. -/
inductive MembersGo (more : List (String × Written) → List Char →
    Except ReadError ((List (String × Written)) × List Char))
    (acc : List (String × Written)) (r : List Char) :
    List (String × Written) → List Char → Prop
  | last {k : String} {v : Written} {r1 r2 r3 rest : List Char} : readString r = .ok (k, r1) →
      skipBlank r1 = ':' :: r2 → value r2 = .ok (v, r3) → skipBlank r3 = '}' :: rest →
      MembersGo more acc r ((k, v) :: acc).reverse rest
  | next {k : String} {v : Written} {r1 r2 r3 r4 r5 rest : List Char}
      {ms : List (String × Written)} : readString r = .ok (k, r1) →
      skipBlank r1 = ':' :: r2 → value r2 = .ok (v, r3) → skipBlank r3 = ',' :: r4 →
      skipBlank r4 = '"' :: r5 → more ((k, v) :: acc) r5 = .ok (ms, rest) →
      MembersGo more acc r ms rest

/-- The items of an array from the first one on, given the reader of a value and the reader
of the items after this one. -/
inductive ItemsGo (more : List Written → List Char → Except ReadError ((List Written) × List Char))
    (acc : List Written) (r : List Char) : List Written → List Char → Prop
  | last {v : Written} {r1 rest : List Char} : value r = .ok (v, r1) →
      skipBlank r1 = ']' :: rest → ItemsGo more acc r (v :: acc).reverse rest
  | next {v : Written} {r1 r2 rest : List Char} {xs : List Written} : value r = .ok (v, r1) →
      skipBlank r1 = ',' :: r2 → more (v :: acc) r2 = .ok (xs, rest) → ItemsGo more acc r xs rest

end Shapes

theorem number_head_ne {c : Char} (hc : c = '-' ∨ c.isDigit) :
    c ≠ '{' ∧ c ≠ '[' ∧ c ≠ '"' ∧ c ≠ 't' ∧ c ≠ 'f' ∧ c ≠ 'n' := by
  rcases hc with rfl | hc
  · decide
  · refine ⟨?_, ?_, ?_, ?_, ?_, ?_⟩ <;> (rintro rfl; revert hc; decide)

@[simp] theorem readValue_zero (d : Nat) (cs : List Char) : readValue 0 d cs = .error .truncated :=
  rfl

@[simp] theorem readMembers_zero (d : Nat) (acc : List (String × Written)) (r : List Char) :
    readMembers 0 d acc r = .error .truncated := rfl

@[simp] theorem readItems_zero (d : Nat) (acc : List Written) (r : List Char) :
    readItems 0 d acc r = .error .truncated := rfl

theorem readValue_succ_eq_ok {f d : Nat} {cs r : List Char} {w : Written} :
    readValue (f + 1) d cs = .ok (w, r) ↔
      Opens (readMembers f) (readItems f) d (skipBlank cs) w r := by
  rw [readValue]
  generalize skipBlank cs = s
  constructor
  · intro h
    split at h
    · cases h
    · split_ifs at h with hd
      split at h
      · cases h
      · simp only [Except.ok.injEq, Prod.mk.injEq] at h
        obtain ⟨rfl, rfl⟩ := h
        exact .emptyObject (by omega) ‹_›
      · obtain ⟨⟨ms, rest⟩, hm, he⟩ := map_eq_ok_iff.1 h
        simp only [Prod.mk.injEq] at he
        obtain ⟨rfl, rfl⟩ := he
        exact .object (by omega) ‹_› hm
      · cases h
    · split_ifs at h with hd
      split at h
      · cases h
      · simp only [Except.ok.injEq, Prod.mk.injEq] at h
        obtain ⟨rfl, rfl⟩ := h
        exact .emptyArray (by omega) ‹_›
      · obtain ⟨⟨xs, rest⟩, hm, he⟩ := map_eq_ok_iff.1 h
        simp only [Prod.mk.injEq] at he
        obtain ⟨rfl, rfl⟩ := he
        exact .array (by omega) ‹_› ‹_› hm
    · obtain ⟨⟨s, rest⟩, hm, he⟩ := map_eq_ok_iff.1 h
      simp only [Prod.mk.injEq] at he
      obtain ⟨rfl, rfl⟩ := he
      exact .string hm
    · obtain ⟨⟨u, rest⟩, hm, he⟩ := map_eq_ok_iff.1 h
      simp only [Prod.mk.injEq] at he
      obtain ⟨rfl, rfl⟩ := he
      exact .literalTrue hm
    · obtain ⟨⟨u, rest⟩, hm, he⟩ := map_eq_ok_iff.1 h
      simp only [Prod.mk.injEq] at he
      obtain ⟨rfl, rfl⟩ := he
      exact .literalFalse hm
    · obtain ⟨⟨u, rest⟩, hm, he⟩ := map_eq_ok_iff.1 h
      simp only [Prod.mk.injEq] at he
      obtain ⟨rfl, rfl⟩ := he
      exact .literalNull hm
    · split_ifs at h with hc
      obtain ⟨⟨lit, rest⟩, hm, he⟩ := map_eq_ok_iff.1 h
      simp only [Prod.mk.injEq] at he
      obtain ⟨rfl, rfl⟩ := he
      exact .number (by simpa using hc) hm
  · intro h
    cases h with
    | emptyObject hd hs => simp [hs, Nat.not_le.2 hd]
    | object hd hs hm => simp [hs, Nat.not_le.2 hd, hm, Except.map]
    | emptyArray hd hs => simp [hs, Nat.not_le.2 hd]
    | array hd hne hnc hm => simp [Nat.not_le.2 hd, hm, Except.map]
    | string hm => simp [hm, Except.map]
    | literalTrue hm => simp [hm, Except.map]
    | literalFalse hm => simp [hm, Except.map]
    | literalNull hm => simp [hm, Except.map]
    | @number c r0 r lit hc hm =>
      obtain ⟨h1, h2, h3, h4, h5, h6⟩ := number_head_ne hc
      have hc' : (c == '-' || c.isDigit) = true := by simpa using hc
      split <;> simp_all [Except.map]
      exact hc.resolve_left

theorem readMembers_succ_eq_ok {f d : Nat} {acc ms : List (String × Written)}
    {r rest : List Char} :
    readMembers (f + 1) d acc r = .ok (ms, rest) ↔
      MembersGo (readValue f d) (readMembers f d) acc r ms rest := by
  rw [readMembers]
  constructor
  · intro h
    obtain ⟨⟨k, r1⟩, hk, h⟩ := bind_eq_ok_iff.1 h
    dsimp only at h
    split at h
    · cases h
    · obtain ⟨⟨v, r3⟩, hv, h⟩ := bind_eq_ok_iff.1 h
      dsimp only at h
      split at h
      · cases h
      · split at h
        · cases h
        · exact .next hk ‹_› hv ‹_› ‹_› h
        · cases h
      · simp only [Except.ok.injEq, Prod.mk.injEq] at h
        obtain ⟨rfl, rfl⟩ := h
        exact .last hk ‹_› hv ‹_›
      · cases h
    · cases h
  · intro h
    cases h with
    | last hk hc hv hb => simp [hk, hc, hv, hb, bind, Except.bind]
    | next hk hc hv hb hq hm => simp [hk, hc, hv, hb, hq, hm, bind, Except.bind]

theorem readItems_succ_eq_ok {f d : Nat} {acc xs : List Written} {r rest : List Char} :
    readItems (f + 1) d acc r = .ok (xs, rest) ↔
      ItemsGo (readValue f d) (readItems f d) acc r xs rest := by
  rw [readItems]
  constructor
  · intro h
    obtain ⟨⟨v, r1⟩, hv, h⟩ := bind_eq_ok_iff.1 h
    dsimp only at h
    split at h
    · cases h
    · exact .next hv ‹_› h
    · simp only [Except.ok.injEq, Prod.mk.injEq] at h
      obtain ⟨rfl, rfl⟩ := h
      exact .last hv ‹_›
    · cases h
  · intro h
    cases h with
    | last hv hb => simp [hv, hb, bind, Except.bind]
    | next hv hb hm => simp [hv, hb, hm, bind, Except.bind]

section Mono

variable {members members' : Nat → List (String × Written) → List Char →
    Except ReadError ((List (String × Written)) × List Char)}
  {items items' : Nat → List Written → List Char → Except ReadError ((List Written) × List Char)}
  {value value' : List Char → Except ReadError (Written × List Char)}

/-- What a value opens with stays found when its readers find at least as much. -/
theorem Opens.mono (hm : ∀ d acc r x, members d acc r = .ok x → members' d acc r = .ok x)
    (hi : ∀ d acc r x, items d acc r = .ok x → items' d acc r = .ok x) {d : Nat}
    {cs r : List Char} {w : Written} (h : Opens members items d cs w r) :
    Opens members' items' d cs w r := by
  cases h
  case object hd hs hr => exact .object hd hs (hm _ _ _ _ hr)
  case array hd hne hnc hr => exact .array hd hne hnc (hi _ _ _ _ hr)
  all_goals constructor <;> assumption

theorem MembersGo.mono {more more' : List (String × Written) → List Char →
      Except ReadError ((List (String × Written)) × List Char)}
    (hv : ∀ cs x, value cs = .ok x → value' cs = .ok x)
    (hm : ∀ acc r x, more acc r = .ok x → more' acc r = .ok x)
    {acc ms : List (String × Written)} {r rest : List Char}
    (h : MembersGo value more acc r ms rest) : MembersGo value' more' acc r ms rest := by
  cases h with
  | last hk hc hr hb => exact .last hk hc (hv _ _ hr) hb
  | next hk hc hr hb hq hn => exact .next hk hc (hv _ _ hr) hb hq (hm _ _ _ hn)

theorem ItemsGo.mono {more more' : List Written → List Char →
      Except ReadError ((List Written) × List Char)}
    (hv : ∀ cs x, value cs = .ok x → value' cs = .ok x)
    (hm : ∀ acc r x, more acc r = .ok x → more' acc r = .ok x)
    {acc xs : List Written} {r rest : List Char}
    (h : ItemsGo value more acc r xs rest) : ItemsGo value' more' acc r xs rest := by
  cases h with
  | last hr hb => exact .last (hv _ _ hr) hb
  | next hr hb hn => exact .next (hv _ _ hr) hb (hm _ _ _ hn)

end Mono

/-! ## Fuel -/

theorem readers_fuel_succ (f : Nat) :
    (∀ d cs x, readValue f d cs = .ok x → readValue (f + 1) d cs = .ok x) ∧
    (∀ d acc r x, readMembers f d acc r = .ok x → readMembers (f + 1) d acc r = .ok x) ∧
    (∀ d acc r x, readItems f d acc r = .ok x → readItems (f + 1) d acc r = .ok x) := by
  induction f with
  | zero => simp
  | succ f ih =>
    obtain ⟨hv, hm, hi⟩ := ih
    refine ⟨fun d cs ⟨w, r⟩ h => ?_, fun d acc r ⟨ms, rest⟩ h => ?_,
      fun d acc r ⟨xs, rest⟩ h => ?_⟩
    · exact readValue_succ_eq_ok.2 ((readValue_succ_eq_ok.1 h).mono hm hi)
    · exact readMembers_succ_eq_ok.2 ((readMembers_succ_eq_ok.1 h).mono (hv d) (hm d))
    · exact readItems_succ_eq_ok.2 ((readItems_succ_eq_ok.1 h).mono (hv d) (hi d))

theorem readValue_fuel_le {f f' d : Nat} {cs : List Char} {x : Written × List Char}
    (hf : f ≤ f') (h : readValue f d cs = .ok x) : readValue f' d cs = .ok x := by
  induction hf with
  | refl => exact h
  | step _ ih => exact (readers_fuel_succ _).1 _ _ _ ih

/-! ## The text of a value -/

theorem suffix_of_skipBlank {r0 r : List Char} {c : Char} (h : skipBlank r0 = c :: r) :
    r <:+ r0 :=
  (List.suffix_cons c r).trans (h ▸ skipBlank_suffix r0)

theorem suffix_of_text {cs t r : List Char} (h : skipBlank cs = t ++ r) : r <:+ cs :=
  (List.suffix_append t r).trans (h ▸ skipBlank_suffix cs)

theorem readers_text (f : Nat) :
    (∀ d cs w r, readValue f d cs = .ok (w, r) → skipBlank cs = w.text.toList ++ r) ∧
    (∀ d acc r ms rest, readMembers f d acc r = .ok (ms, rest) → rest <:+ r) ∧
    (∀ d acc r xs rest, readItems f d acc r = .ok (xs, rest) → rest <:+ r) := by
  induction f with
  | zero => simp
  | succ f ih =>
    obtain ⟨hv, hm, hi⟩ := ih
    refine ⟨fun d cs w r h => ?_, fun d acc r ms rest h => ?_, fun d acc r xs rest h => ?_⟩
    · have h := readValue_succ_eq_ok.1 h
      generalize skipBlank cs = s at h ⊢
      cases h with
      | emptyObject _ hs =>
        exact (consumed_text ((suffix_of_skipBlank hs).trans (List.suffix_cons _ _))).symm
      | object _ hs hr =>
        exact (consumed_text
          (((hm _ _ _ _ _ hr).trans (suffix_of_skipBlank hs)).trans (List.suffix_cons _ _))).symm
      | emptyArray _ hs =>
        exact (consumed_text ((suffix_of_skipBlank hs).trans (List.suffix_cons _ _))).symm
      | array _ _ _ hr =>
        exact (consumed_text ((hi _ _ _ _ _ hr).trans (List.suffix_cons _ _))).symm
      | string hr =>
        exact (consumed_text ((readString_ok hr).1.trans (List.suffix_cons _ _))).symm
      | literalTrue hr => simp [Written.text, (literalRest_ok hr).1]
      | literalFalse hr => simp [Written.text, (literalRest_ok hr).1]
      | literalNull hr => simp [Written.text, (literalRest_ok hr).1]
      | number _ hr => exact (readNumber_ok hr).1
    · cases readMembers_succ_eq_ok.1 h with
      | last hk hc hr hb =>
        exact (((suffix_of_skipBlank hb).trans (suffix_of_text (hv _ _ _ _ hr))).trans
          (suffix_of_skipBlank hc)).trans (readString_ok hk).1
      | next hk hc hr hb hq hn =>
        exact (((((hm _ _ _ _ _ hn).trans (suffix_of_skipBlank hq)).trans
          (suffix_of_skipBlank hb)).trans (suffix_of_text (hv _ _ _ _ hr))).trans
          (suffix_of_skipBlank hc)).trans (readString_ok hk).1
    · cases readItems_succ_eq_ok.1 h with
      | last hr hb => exact (suffix_of_skipBlank hb).trans (suffix_of_text (hv _ _ _ _ hr))
      | next hr hb hn =>
        exact ((hi _ _ _ _ _ hn).trans (suffix_of_skipBlank hb)).trans
          (suffix_of_text (hv _ _ _ _ hr))

theorem readValue_text {f d : Nat} {cs r : List Char} {w : Written}
    (h : readValue f d cs = .ok (w, r)) : skipBlank cs = w.text.toList ++ r :=
  (readers_text f).1 d cs w r h

/-! ## Text after a value -/

theorem skipBlank_ne_nil_of_cons {r : List Char} {c : Char} {rest : List Char}
    (h : skipBlank r = c :: rest) : r ≠ [] := by
  rintro rfl
  cases h

/-- Text appended after a value read changes neither the value nor the rest before it, unless
the value is a number that ends the text and the appended text would continue it. -/
theorem readers_append (f : Nat) :
    (∀ d cs w r x, readValue f d cs = .ok (w, r) → (r = [] → extendsNumber x = false) →
      readValue f d (cs ++ x) = .ok (w, r ++ x)) ∧
    (∀ d acc r ms rest x, readMembers f d acc r = .ok (ms, rest) →
      readMembers f d acc (r ++ x) = .ok (ms, rest ++ x)) ∧
    (∀ d acc r xs rest x, readItems f d acc r = .ok (xs, rest) →
      readItems f d acc (r ++ x) = .ok (xs, rest ++ x)) := by
  induction f with
  | zero => simp
  | succ f ih =>
    obtain ⟨hv, hm, hi⟩ := ih
    refine ⟨fun d cs w r x h hx => ?_, fun d acc r ms rest x h => ?_,
      fun d acc r xs rest x h => ?_⟩
    · have h := readValue_succ_eq_ok.1 h
      rw [readValue_succ_eq_ok]
      generalize hs0 : skipBlank cs = s at h
      cases h with
      | emptyObject hd hs =>
        rw [skipBlank_append hs0, ← consumed_append, List.cons_append]
        exact .emptyObject hd (skipBlank_append hs)
      | object hd hs hr =>
        rw [skipBlank_append hs0, ← consumed_append, List.cons_append]
        exact .object hd (skipBlank_append hs) (hm _ _ _ _ _ _ hr)
      | emptyArray hd hs =>
        rw [skipBlank_append hs0, ← consumed_append, List.cons_append]
        exact .emptyArray hd (skipBlank_append hs)
      | @array r0 r xs hd hne hnc hr =>
        rw [skipBlank_append hs0, ← consumed_append, List.cons_append]
        obtain ⟨c, t, hct⟩ := List.exists_cons_of_ne_nil hne
        have hc : c ≠ ']' := by rintro rfl; exact hnc t hct
        refine .array hd (by simp [skipBlank_append hct]) (fun r' => ?_) (hi _ _ _ _ _ _ hr)
        simp [skipBlank_append hct, hc]
      | string hr =>
        rw [skipBlank_append hs0, ← consumed_append, List.cons_append]
        exact .string ((readString_ok hr).2 x)
      | literalTrue hr =>
        rw [skipBlank_append hs0]
        exact .literalTrue ((literalRest_ok hr).2 x)
      | literalFalse hr =>
        rw [skipBlank_append hs0]
        exact .literalFalse ((literalRest_ok hr).2 x)
      | literalNull hr =>
        rw [skipBlank_append hs0]
        exact .literalNull ((literalRest_ok hr).2 x)
      | number hc hr =>
        rw [skipBlank_append hs0]
        exact .number hc ((readNumber_ok hr).2 x hx)
    · rw [readMembers_succ_eq_ok]
      cases readMembers_succ_eq_ok.1 h with
      | last hk hc hr hb =>
        exact .last ((readString_ok hk).2 x) (skipBlank_append hc)
          (hv _ _ _ _ x hr fun h3 => absurd h3 (skipBlank_ne_nil_of_cons hb))
          (skipBlank_append hb)
      | next hk hc hr hb hq hn =>
        exact .next ((readString_ok hk).2 x) (skipBlank_append hc)
          (hv _ _ _ _ x hr fun h3 => absurd h3 (skipBlank_ne_nil_of_cons hb))
          (skipBlank_append hb) (skipBlank_append hq) (hm _ _ _ _ _ x hn)
    · rw [readItems_succ_eq_ok]
      cases readItems_succ_eq_ok.1 h with
      | last hr hb =>
        exact .last (hv _ _ _ _ x hr fun h1 => absurd h1 (skipBlank_ne_nil_of_cons hb))
          (skipBlank_append hb)
      | next hr hb hn =>
        exact .next (hv _ _ _ _ x hr fun h1 => absurd h1 (skipBlank_ne_nil_of_cons hb))
          (skipBlank_append hb) (hi _ _ _ _ _ x hn)

theorem readValue_append {f d : Nat} {cs r : List Char} {w : Written} (x : List Char)
    (h : readValue f d cs = .ok (w, r)) (hx : r = [] → extendsNumber x = false) :
    readValue f d (cs ++ x) = .ok (w, r ++ x) :=
  (readers_append f).1 d cs w r x h hx

/-! ## Nesting -/

mutual
/-- How many arrays and objects are nested in a value, itself included. -/
def Written.depth : Written → Nat
  | .arr _ xs => Written.itemsDepth xs + 1
  | .obj _ ms => Written.membersDepth ms + 1
  | _ => 0

def Written.itemsDepth : List Written → Nat
  | [] => 0
  | x :: xs => max x.depth (Written.itemsDepth xs)

def Written.membersDepth : List (String × Written) → Nat
  | [] => 0
  | (_, v) :: ms => max v.depth (Written.membersDepth ms)
end

theorem Written.depth_le_itemsDepth {v : Written} :
    ∀ {xs : List Written}, v ∈ xs → v.depth ≤ Written.itemsDepth xs
  | x :: xs, h => by
    rw [Written.itemsDepth]
    rcases List.mem_cons.1 h with rfl | h
    · exact Nat.le_max_left _ _
    · exact (depth_le_itemsDepth h).trans (Nat.le_max_right _ _)

theorem Written.depth_le_membersDepth {k : String} {v : Written} :
    ∀ {ms : List (String × Written)}, (k, v) ∈ ms → v.depth ≤ Written.membersDepth ms
  | (k', v') :: ms, h => by
    rw [Written.membersDepth]
    rcases List.mem_cons.1 h with h | h
    · cases h
      exact Nat.le_max_left _ _
    · exact (depth_le_membersDepth h).trans (Nat.le_max_right _ _)

/-- The members read before are the first members of the object. -/
theorem readMembers_keeps_acc : ∀ {f d : Nat} {acc ms : List (String × Written)} {r rest : List Char},
    readMembers f d acc r = .ok (ms, rest) → acc.reverse <+: ms
  | 0, _, _, _, _, _, h => by simp at h
  | f + 1, _, acc, _, _, _, h => by
    cases readMembers_succ_eq_ok.1 h with
    | last => exact ⟨_, (List.reverse_cons ..).symm⟩
    | next _ _ _ _ _ hn =>
      exact (List.prefix_append _ _).trans (List.reverse_cons .. ▸ readMembers_keeps_acc hn)

theorem readItems_keeps_acc : ∀ {f d : Nat} {acc xs : List Written} {r rest : List Char},
    readItems f d acc r = .ok (xs, rest) → acc.reverse <+: xs
  | 0, _, _, _, _, _, h => by simp at h
  | f + 1, _, acc, _, _, _, h => by
    cases readItems_succ_eq_ok.1 h with
    | last => exact ⟨_, (List.reverse_cons ..).symm⟩
    | next _ _ hn => exact (List.prefix_append _ _).trans (List.reverse_cons .. ▸ readItems_keeps_acc hn)

theorem readers_depth (f : Nat) :
    (∀ d d' cs w r, readValue f d cs = .ok (w, r) → d' + w.depth ≤ maxDepth →
      readValue f d' cs = .ok (w, r)) ∧
    (∀ d d' acc r ms rest, readMembers f d acc r = .ok (ms, rest) →
      d' + Written.membersDepth ms ≤ maxDepth → readMembers f d' acc r = .ok (ms, rest)) ∧
    (∀ d d' acc r xs rest, readItems f d acc r = .ok (xs, rest) →
      d' + Written.itemsDepth xs ≤ maxDepth → readItems f d' acc r = .ok (xs, rest)) := by
  induction f with
  | zero => simp
  | succ f ih =>
    obtain ⟨hv, hm, hi⟩ := ih
    refine ⟨fun d d' cs w r h hd' => ?_, fun d d' acc r ms rest h hd' => ?_,
      fun d d' acc r xs rest h hd' => ?_⟩
    · rw [readValue_succ_eq_ok] at h ⊢
      generalize skipBlank cs = s at h ⊢
      cases h with
      | emptyObject _ hs =>
        simp only [Written.depth, Written.membersDepth] at hd'
        exact .emptyObject (by omega) hs
      | object _ hs hr =>
        simp only [Written.depth] at hd'
        exact .object (by omega) hs (hm _ _ _ _ _ _ hr (by omega))
      | emptyArray _ hs =>
        simp only [Written.depth, Written.itemsDepth] at hd'
        exact .emptyArray (by omega) hs
      | array _ hne hnc hr =>
        simp only [Written.depth] at hd'
        exact .array (by omega) hne hnc (hi _ _ _ _ _ _ hr (by omega))
      | string hr => exact .string hr
      | literalTrue hr => exact .literalTrue hr
      | literalFalse hr => exact .literalFalse hr
      | literalNull hr => exact .literalNull hr
      | number hc hr => exact .number hc hr
    · rw [readMembers_succ_eq_ok] at h ⊢
      cases h with
      | @last k v _ _ _ _ hk hc hr hb =>
        have hmem : (k, v) ∈ ((k, v) :: acc).reverse := by simp
        have := Written.depth_le_membersDepth hmem
        exact .last hk hc (hv _ _ _ _ _ hr (by omega)) hb
      | @next k v _ _ _ _ _ _ _ hk hc hr hb hq hn =>
        have hmem : (k, v) ∈ ms := (readMembers_keeps_acc hn).subset (by simp)
        have := Written.depth_le_membersDepth hmem
        exact .next hk hc (hv _ _ _ _ _ hr (by omega)) hb hq (hm _ _ _ _ _ _ hn hd')
    · rw [readItems_succ_eq_ok] at h ⊢
      cases h with
      | @last v _ _ hr hb =>
        have hmem : v ∈ (v :: acc).reverse := by simp
        have := Written.depth_le_itemsDepth hmem
        exact .last (hv _ _ _ _ _ hr (by omega)) hb
      | @next v _ _ _ _ hr hb hn =>
        have hmem : v ∈ xs := (readItems_keeps_acc hn).subset (by simp)
        have := Written.depth_le_itemsDepth hmem
        exact .next (hv _ _ _ _ _ hr (by omega)) hb (hi _ _ _ _ _ _ hn hd')

theorem readValue_at_depth {f d d' : Nat} {cs r : List Char} {w : Written}
    (h : readValue f d cs = .ok (w, r)) (hd : d' + w.depth ≤ maxDepth) :
    readValue f d' cs = .ok (w, r) :=
  (readers_depth f).1 d d' cs w r h hd

theorem skipBlank_open (t : List Char) : skipBlank ('[' :: t) = '[' :: t := rfl

theorem readValue_replicate_open (y : List Char) :
    ∀ (k f d : Nat) (w : Written) (r : List Char), maxDepth ≤ d + k →
      readValue f d ('[' :: (List.replicate k '[' ++ y)) ≠ .ok (w, r)
  | _, 0, _, _, _, _, h => by simp at h
  | k, f + 1, d, w, r, hk, h => by
    rw [readValue_succ_eq_ok, skipBlank_open] at h
    cases h with
    | emptyArray hd hs =>
      cases k with
      | zero => omega
      | succ k => cases hs
    | array hd _ _ hr =>
      cases k with
      | zero => omega
      | succ k =>
        cases f with
        | zero => simp at hr
        | succ f =>
          obtain ⟨v, r1, hv⟩ : ∃ v r1, readValue f (d + 1) ('[' :: (List.replicate k '[' ++ y)) =
              .ok (v, r1) := by
            cases readItems_succ_eq_ok.1 hr with
            | last hv => exact ⟨_, _, hv⟩
            | next hv => exact ⟨_, _, hv⟩
          exact readValue_replicate_open y k f (d + 1) v r1 (by omega) hv
    | number hc => revert hc; decide

/-! ## Whole texts -/

theorem readFirst_eq_ok {cs r : List Char} {w : Written} (h : readFirst cs = .ok (w, r)) :
    readValue (2 * (skipBlank cs).length + 2) 0 (skipBlank cs) = .ok (w, r) := by
  unfold readFirst at h
  split at h
  · cases h
  · next start _ =>
    obtain ⟨⟨w', r'⟩, hv, h⟩ := bind_eq_ok_iff.1 h
    dsimp only at h
    have : (w', r') = (w, r) := by
      split_ifs at h
      · simpa [pure, Except.pure] using h
      · split at h
        · simpa [pure, Except.pure] using h
        · split_ifs at h
          simpa [pure, Except.pure] using h
    rw [← this]
    exact hv

theorem readFirst_of_container {cs r : List Char} {w : Written} (hw : w.isContainer = true)
    (h : readValue (2 * (skipBlank cs).length + 2) 0 (skipBlank cs) = .ok (w, r)) :
    readFirst cs = .ok (w, r) := by
  unfold readFirst
  split
  · next hs =>
    rw [hs] at h
    cases readValue_succ_eq_ok.1 h
  · simp [h, hw, bind, Except.bind, pure, Except.pure]

theorem eq_nil_of_append_suffix {a b : List Char} (h : a ++ b <:+ a) : b = [] := by
  have := h.length_le
  simp only [List.length_append] at this
  exact List.eq_nil_of_length_eq_zero (by omega)

/-- A text that is exactly one JSON value, with nothing around it, reads as that value at any
place in a document that leaves room for its nesting, before anything that cannot continue
it. -/
theorem readValue_of_readWhole {e : String} {w : Written} (h : readWhole e = .ok w)
    (htext : w.text = e) {f d : Nat} {y : List Char} (hf : 2 * e.length + 2 ≤ f)
    (hd : d + w.depth ≤ maxDepth) (hy : extendsNumber y = false) :
    readValue f d (e.toList ++ y) = .ok (w, y) := by
  obtain ⟨⟨w', r0⟩, hfirst, h⟩ := bind_eq_ok_iff.1 h
  have hw : w' = w := by
    dsimp only at h
    split at h
    · simpa [pure, Except.pure] using h
    · cases h
  subst hw
  have hv := readFirst_eq_ok hfirst
  have htx := readValue_text hv
  rw [htext] at htx
  have hsuf : e.toList ++ r0 <:+ e.toList :=
    htx ▸ (skipBlank_suffix _).trans (skipBlank_suffix _)
  have hr0 : r0 = [] := eq_nil_of_append_suffix hsuf
  subst hr0
  have hstart : skipBlank e.toList = e.toList := by
    have h1 : e.toList <:+ skipBlank e.toList := by
      have := skipBlank_suffix (skipBlank e.toList)
      rwa [htx, List.append_nil] at this
    exact (skipBlank_suffix _).eq_of_length (Nat.le_antisymm (skipBlank_suffix _).length_le
      h1.length_le)
  rw [hstart, String.length_toList] at hv
  have hv := readValue_at_depth (readValue_fuel_le hf hv) hd
  simpa using readValue_append y hv fun _ => hy

/-! ## Errors

Only `readFirst` says that a text is `empty`: every reader below it stops with `truncated` or
`invalid`. So a stream whose next value is `empty` holds nothing but blanks. -/

theorem map_ne_error {ε α β : Type} {x : Except ε α} {e : ε} (h : x ≠ .error e) (g : α → β) :
    x.map g ≠ .error e := by
  cases x <;> simp_all [Except.map]

theorem bind_ne_error {ε α β : Type} {x : Except ε α} {g : α → Except ε β} {e : ε}
    (h : x ≠ .error e) (hg : ∀ a, g a ≠ .error e) : x >>= g ≠ .error e := by
  cases x with
  | error e' => simpa [bind, Except.bind] using h
  | ok a => exact hg a

theorem stringBody_ne_empty (r : List Char) : stringBody r ≠ .error .empty := by
  refine stringBody.induct (fun cs => stringBody.unit4 cs ≠ .error .empty)
    (fun r => stringBody r ≠ .error .empty) ?_ ?_ ?_ ?_ ?_ ?_ ?_ ?_ ?_ ?_ ?_ ?_ ?_ ?_ ?_ r
  · intro a b c d r n1 n2 n3 n4 ha hb hc hd ih
    simp only [stringBody.unit4, ha, hb, hc, hd]
    exact map_ne_error ih _
  · intro a b c d r ha
    simp [stringBody.unit4, ha]
  · intro a b c d r hb ha
    cases h1 : hexValue? a <;> simp_all [stringBody.unit4]
  · intro a b c d r hc ha hb
    cases h1 : hexValue? a <;> cases h2 : hexValue? b <;> simp_all [stringBody.unit4]
  · intro a b c d r hd ha hb hc
    cases h1 : hexValue? a <;> cases h2 : hexValue? b <;> cases h3 : hexValue? c <;>
      simp_all [stringBody.unit4]
  · intro cs hcs c hf
    rw [stringBody.unit4.eq_def]
    split
    · exact (hcs _ _ _ _ _ rfl).elim
    · simp [hf]
  · intro cs hcs hf
    rw [stringBody.unit4.eq_def]
    split
    · exact (hcs _ _ _ _ _ rfl).elim
    · simp [hf]
  · simp [stringBody]
  · intro r
    simp [stringBody]
  · simp [stringBody]
  · intro r1 ih
    simpa only [stringBody] using ih
  · intro e r1 hu c hc ih
    simp only [stringBody, hc]
    exact map_ne_error ih _
  · intro e r1 hu hc
    simp [stringBody, hc]
  · intro c r h1 h2 hlt
    simp [stringBody, hlt]
  · intro c r h1 h2 hlt ih
    simp only [stringBody, hlt]
    exact map_ne_error ih _

theorem readNumber_ne_empty (cs : List Char) : readNumber cs ≠ .error .empty := by
  have hdigits : ∀ s cs, digitRun s cs ≠ .error .empty := by
    intro s cs
    unfold digitRun
    split
    · simp
    · split <;> simp
  have hexp : ∀ cs, exponentPart cs ≠ .error .empty := by
    intro cs
    unfold exponentPart
    repeat' split
    all_goals first | exact map_ne_error (hdigits _ _) _ | simp
  have hfrac : ∀ cs, fractionPart cs ≠ .error .empty := by
    intro cs
    unfold fractionPart
    split
    · exact bind_ne_error (hdigits _ _) fun _ => bind_ne_error (hexp _) fun _ => by simp [pure, Except.pure]
    · exact hexp _
  have hun : ∀ cs, unsignedNumber cs ≠ .error .empty := by
    intro cs
    unfold unsignedNumber
    split
    · exact map_ne_error (hfrac _) _
    · exact bind_ne_error (hdigits _ _) fun _ => bind_ne_error (hfrac _) fun _ => by simp [pure, Except.pure]
  unfold readNumber
  split
  · exact map_ne_error (hun _) _
  · exact map_ne_error (hun _) _

theorem literalRest_ne_empty (word : String) : ∀ (ws r : List Char),
    literalRest word ws r ≠ .error .empty
  | [], _ => by simp [literalRest]
  | _ :: _, [] => by simp [literalRest]
  | w :: ws, c :: rest => by
    unfold literalRest
    split
    · exact literalRest_ne_empty word ws rest
    · simp

theorem readers_ne_empty : ∀ f : Nat,
    (∀ d cs, readValue f d cs ≠ .error .empty) ∧
    (∀ d acc r, readMembers f d acc r ≠ .error .empty) ∧
    (∀ d acc r, readItems f d acc r ≠ .error .empty)
  | 0 => ⟨by simp [readValue], by simp [readMembers], by simp [readItems]⟩
  | f + 1 => by
    obtain ⟨hv, hm, hi⟩ := readers_ne_empty f
    refine ⟨fun d cs => ?_, fun d acc r => ?_, fun d acc r => ?_⟩
    · unfold readValue
      repeat' split
      all_goals first
        | exact map_ne_error (hm _ _ _) _
        | exact map_ne_error (hi _ _ _) _
        | exact map_ne_error (map_ne_error (stringBody_ne_empty _) _) _
        | exact map_ne_error (literalRest_ne_empty _ _ _) _
        | exact map_ne_error (readNumber_ne_empty _) _
        | simp
    · unfold readMembers
      refine bind_ne_error (map_ne_error (stringBody_ne_empty _) _) fun (k, r1) => ?_
      simp only
      split
      · simp
      · refine bind_ne_error (hv _ _) fun (v, r3) => ?_
        simp only
        split
        · simp
        · split
          · simp
          · exact hm _ _ _
          · simp
        · simp
        · simp
      · simp
    · unfold readItems
      refine bind_ne_error (hv _ _) fun _ => ?_
      repeat' split
      all_goals first | exact hi _ _ _ | simp

theorem skipBlank_eq_nil_of_readFirst {cs : List Char} (h : readFirst cs = .error .empty) :
    skipBlank cs = [] := by
  unfold readFirst at h
  split at h
  · assumption
  · exfalso
    revert h
    refine bind_ne_error ((readers_ne_empty _).1 _ _) fun _ => ?_
    repeat' split
    all_goals simp [pure, Except.pure]

end Foreman.Json
