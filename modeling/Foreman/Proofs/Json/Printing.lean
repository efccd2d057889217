import Foreman.Proofs.Json.Reading
import Foreman.Json.Print

/-!
# Reading compact JSON back

The reader reads back the compact text `render` writes, as `written j`: the same value spelt
as printed, each stored fragment the value it reads as.

* Every character escapes into text that reads back as it (`stringBody_escapeChar`), so a
  quoted string reads back (`readString_quoted`), and an integer is a number that reads back
  whole (`readNumber_int`).
* The compact text reads back as `written j` at any depth with room for its nesting, with
  enough fuel, before any text that cannot continue it (`readValue_render`), when its numbers
  are numbers and its fragments single values (`Embeds`).
* A fragment that cannot be read where it stands makes the whole unreadable
  (`readValue_render_breaks`).
-/

namespace Foreman.Json

set_option autoImplicit false

/-! ## Strings -/

/-- A piece of a string's content that stands for one character by itself: a `\u` unit
that is not a surrogate. -/
def Piece.Plain : Piece → Prop
  | .char _ => True
  | .unit u => u < 0xD800 ∨ 0xE000 ≤ u

instance : DecidablePred Piece.Plain := fun p =>
  match p with
  | .char _ => isTrue trivial
  | .unit u => inferInstanceAs (Decidable (u < 0xD800 ∨ 0xE000 ≤ u))

def Piece.toChar : Piece → Char
  | .char c => c
  | .unit u => Char.ofNat u

theorem hexValue?_hexDigit : ∀ n, n < 16 → hexValue? (hexDigit n) = some n := by
  decide

theorem joinPieces_plain : ∀ (ps : List Piece), (∀ p ∈ ps, p.Plain) →
    joinPieces ps = ps.map Piece.toChar
  | [], _ => by simp [joinPieces]
  | .char c :: ps, h => by
    simp [joinPieces, Piece.toChar, joinPieces_plain ps (fun p hp => h p (by simp [hp]))]
  | .unit u :: ps, h => by
    have hu : (Piece.unit u).Plain := h _ (by simp)
    simp only [Piece.Plain] at hu
    have hchar : unitChar u = Char.ofNat u := by
      unfold unitChar
      rw [if_neg (by simp only [Bool.and_eq_true, decide_eq_true_eq]; omega)]
    have hrest := joinPieces_plain ps (fun p hp => h p (by simp [hp]))
    cases ps with
    | nil => simp [joinPieces, hchar, Piece.toChar]
    | cons p ps' =>
      cases p with
      | char c => rw [joinPieces.eq_4] <;> simp_all [Piece.toChar]
      | unit lo =>
        rw [joinPieces, if_neg (by simp only [Bool.and_eq_true, decide_eq_true_eq]; omega)]
        simp [hchar, hrest, Piece.toChar]

/-- One escaped character is read back as one piece that stands for it. -/
theorem stringBody_escapeChar (c : Char) (rest : List Char) :
    ∃ p : Piece, p.Plain ∧ p.toChar = c ∧
      stringBody ((escapeChar c).toList ++ rest) = (stringBody rest).map fun (ps, r) => (p :: ps, r) := by
  unfold escapeChar
  split
  · exact ⟨.char '"', trivial, rfl, by simp [stringBody, shortEscape?]⟩
  · exact ⟨.char '\\', trivial, rfl, by simp [stringBody, shortEscape?]⟩
  · exact ⟨.char '\n', trivial, rfl, by simp [stringBody, shortEscape?]⟩
  · exact ⟨.char '\r', trivial, rfl, by simp [stringBody, shortEscape?]⟩
  · exact ⟨.char '\t', trivial, rfl, by simp [stringBody, shortEscape?]⟩
  · exact ⟨.unit 60, by decide, by decide, by simp [stringBody, stringBody.unit4, hexValue?]⟩
  · exact ⟨.unit 62, by decide, by decide, by simp [stringBody, stringBody.unit4, hexValue?]⟩
  · exact ⟨.unit 38, by decide, by decide, by simp [stringBody, stringBody.unit4, hexValue?]⟩
  · next hq hb hn hr ht hlt hgt hamp =>
    split_ifs with h8 h12 hctl hsep
    · have h8 : c.toNat = 8 := by simpa using h8
      refine ⟨.char (Char.ofNat 8), trivial, ?_, by simp [stringBody, shortEscape?]⟩
      rw [Piece.toChar, ← h8, Char.ofNat_toNat]
    · have h12 : c.toNat = 12 := by simpa using h12
      refine ⟨.char (Char.ofNat 12), trivial, ?_, by simp [stringBody, shortEscape?]⟩
      rw [Piece.toChar, ← h12, Char.ofNat_toNat]
    · refine ⟨.unit c.toNat, .inl (by omega), Char.ofNat_toNat c, ?_⟩
      have hi := hexValue?_hexDigit (c.toNat / 16 % 16) (by omega)
      have hl := hexValue?_hexDigit (c.toNat % 16) (by omega)
      have hsum : c.toNat / 16 % 16 * 16 + c.toNat % 16 = c.toNat := by omega
      have h0 : hexValue? '0' = some 0 := by decide
      simp [hexByte, stringBody, stringBody.unit4, h0, hi, hl, hsum]
    · obtain h | h : c.toNat = 0x2028 ∨ c.toNat = 0x2029 := by simpa using hsep
      · obtain rfl : c = Char.ofNat 0x2028 := by rw [← h, Char.ofNat_toNat]
        exact ⟨.unit 0x2028, by decide, by decide, by
          simp [hex4, hexByte, hexDigit, stringBody, stringBody.unit4, hexValue?]⟩
      · obtain rfl : c = Char.ofNat 0x2029 := by rw [← h, Char.ofNat_toNat]
        exact ⟨.unit 0x2029, by decide, by decide, by
          simp [hex4, hexByte, hexDigit, stringBody, stringBody.unit4, hexValue?]⟩
    · refine ⟨.char c, trivial, rfl, ?_⟩
      simp [stringBody, hctl]

theorem stringBody_escaped (y : List Char) : ∀ cs : List Char, ∃ ps : List Piece,
    (∀ p ∈ ps, p.Plain) ∧ ps.map Piece.toChar = cs ∧
      stringBody ((String.join (cs.map escapeChar)).toList ++ '"' :: y) = .ok (ps, y)
  | [] => ⟨[], by simp, rfl, by simp [stringBody]⟩
  | c :: cs => by
    obtain ⟨p, hp, hpc, hc⟩ := stringBody_escapeChar c
      ((String.join (cs.map escapeChar)).toList ++ '"' :: y)
    obtain ⟨ps, hps, hpsc, hcs⟩ := stringBody_escaped y cs
    refine ⟨p :: ps, ?_, by simp [hpc, hpsc], ?_⟩
    · intro q hq
      rcases List.mem_cons.1 hq with rfl | hq
      · exact hp
      · exact hps q hq
    · simp only [List.map_cons, String.join_cons, String.toList_append, List.append_assoc]
      rw [hc, hcs]
      rfl

theorem quote_toList (s : String) :
    (quote s).toList = '"' :: ((String.join (s.toList.map escapeChar)).toList ++ ['"']) := by
  simp [quote]

theorem readString_quoted (s : String) (y : List Char) :
    readString ((String.join (s.toList.map escapeChar)).toList ++ '"' :: y) = .ok (s, y) := by
  obtain ⟨ps, hps, hpc, hbody⟩ := stringBody_escaped y s.toList
  rw [readString, hbody]
  simp [Except.map, joinPieces_plain ps hps, hpc]

/-! ## Integers -/

theorem toDigits_head_ne_zero : ∀ {m : Nat}, 0 < m → ∃ d t, Nat.toDigits 10 m = d :: t ∧ d ≠ '0'
  | m, hm => by
    by_cases hlt : m < 10
    · exact ⟨_, _, Nat.toDigits_of_lt_base hlt, by simp; omega⟩
    · obtain ⟨d, t, ht, hd⟩ := toDigits_head_ne_zero (m := m / 10) (by omega)
      refine ⟨d, t ++ [Nat.digitChar (m % 10)], ?_, hd⟩
      rw [Nat.toDigits_of_base_le (by decide) (by omega), ht]
      rfl

theorem unsignedNumber_toDigits (m : Nat) :
    unsignedNumber (Nat.toDigits 10 m) = .ok (Nat.toDigits 10 m, []) := by
  rcases Nat.eq_zero_or_pos m with rfl | hm
  · rfl
  · obtain ⟨d, t, ht, hd⟩ := toDigits_head_ne_zero hm
    have hdigits : ∀ c ∈ Nat.toDigits 10 m, c.isDigit :=
      fun c hc => Nat.isDigit_of_mem_toDigits (by decide) (by decide) hc
    have hrun : digitRun "in numeric literal" (Nat.toDigits 10 m) = .ok (Nat.toDigits 10 m, []) :=
      digitRun_eq_ok.2 ⟨Nat.toDigits_ne_nil, hdigits, by simp, by simp⟩
    rw [ht] at hrun ⊢
    simp [unsignedNumber, hd, hrun, fractionPart, exponentPart, bind, Except.bind, pure,
      Except.pure]

theorem readNumber_int (n : Int) : readNumber (toString n).toList = .ok (toString n, []) := by
  rw [Int.toString_eq_repr]
  cases n with
  | ofNat m =>
    have hd : ∀ c ∈ Nat.toDigits 10 m, c.isDigit :=
      fun c hc => Nat.isDigit_of_mem_toDigits (by decide) (by decide) hc
    obtain ⟨d, t, ht⟩ := List.exists_cons_of_ne_nil (Nat.toDigits_ne_nil (n := m) (b := 10))
    have hdm : d ≠ '-' := by
      rintro rfl
      have := hd '-' (by simp [ht])
      revert this
      decide
    have hu := unsignedNumber_toDigits m
    simp only [Int.repr, Nat.repr_eq_ofList_toDigits, String.toList_ofList]
    rw [ht] at hu ⊢
    simp [readNumber, hdm, hu, Except.map]
  | negSucc m =>
    simp [Int.repr, readNumber, unsignedNumber_toDigits, Except.map, Nat.repr_eq_ofList_toDigits]

/-! ## Values -/

mutual
/-- The value the reader gives back for the compact text of a value: the same value spelled as
printed, where a stored fragment is the value its own text reads as. -/
def written : Json → Written
  | .null => .null
  | .bool b => .bool b
  | .num lit => .num lit
  | .str s => .str (Thunk.pure (quote s)) s
  | .arr xs => .arr (Thunk.pure (render (.arr xs))) (writtenItems xs)
  | .obj ms => .obj (Thunk.pure (render (.obj ms))) (writtenMembers ms)
  | .raw e =>
    match readWhole e with
    | .ok w => w
    | .error _ => .null

def writtenItems : List Json → List Written
  | [] => []
  | x :: xs => written x :: writtenItems xs

def writtenMembers : List (String × Json) → List (String × Written)
  | [] => []
  | (k, v) :: ms => (k, written v) :: writtenMembers ms
end

mutual
/-- A value whose compact text reads back: its numbers are JSON numbers, and each stored
fragment is the text of one JSON value with nothing around it. -/
def Embeds : Json → Prop
  | .num lit => readNumber lit.toList = .ok (lit, [])
  | .arr xs => ItemsEmbed xs
  | .obj ms => MembersEmbed ms
  | .raw e => ∃ w, readWhole e = .ok w ∧ w.text = e
  | _ => True

def ItemsEmbed : List Json → Prop
  | [] => True
  | x :: xs => Embeds x ∧ ItemsEmbed xs

def MembersEmbed : List (String × Json) → Prop
  | [] => True
  | (_, v) :: ms => Embeds v ∧ MembersEmbed ms
end

theorem skipBlank_of_not_blank {c : Char} (cs : List Char) (h : isBlank c = false) :
    skipBlank (c :: cs) = c :: cs := by
  simp [skipBlank, h]

theorem consumed_pure (t y : List Char) : consumed (t ++ y) y = Thunk.pure (String.ofList t) := by
  simp [consumed, Thunk.pure]

theorem readNumber_head {cs rest : List Char} {lit : String} (h : readNumber cs = .ok (lit, rest)) :
    ∃ c t, cs = c :: t ∧ (c = '-' ∨ c.isDigit) := by
  unfold readNumber at h
  split at h
  · exact ⟨'-', _, rfl, .inl rfl⟩
  · obtain ⟨⟨t, r1⟩, hu, -⟩ := map_eq_ok_iff.1 h
    unfold unsignedNumber at hu
    split at hu
    · exact ⟨'0', _, rfl, .inr (by decide)⟩
    · obtain ⟨⟨ds, r2⟩, hd, -⟩ := bind_eq_ok_iff.1 hu
      obtain ⟨hne, hds, -, rfl⟩ := digitRun_eq_ok.1 hd
      obtain ⟨c, t, rfl⟩ := List.exists_cons_of_ne_nil hne
      exact ⟨c, t ++ r2, rfl, .inr (hds c (by simp))⟩

/-- What a value is read from starts with a character that does not close an array. -/
theorem readValue_start {f d : Nat} {cs r : List Char} {w : Written}
    (h : readValue f d cs = .ok (w, r)) : ∃ c t, skipBlank cs = c :: t ∧ c ≠ ']' := by
  cases f with
  | zero => simp at h
  | succ f =>
    have h := readValue_succ_eq_ok.1 h
    generalize skipBlank cs = s at h ⊢
    cases h with
    | number hc => exact ⟨_, _, rfl, by rcases hc with rfl | hc; decide; rintro rfl; revert hc; decide⟩
    | _ => exact ⟨_, _, rfl, by decide⟩

theorem readItems_start {f d : Nat} {acc xs : List Written} {r rest : List Char}
    (h : readItems f d acc r = .ok (xs, rest)) : ∃ c t, skipBlank r = c :: t ∧ c ≠ ']' := by
  cases f with
  | zero => simp at h
  | succ f =>
    cases readItems_succ_eq_ok.1 h with
    | last hv => exact readValue_start hv
    | next hv => exact readValue_start hv

theorem two_le_length_quote (s : String) : 2 ≤ (quote s).length := by
  simp [quote, ← String.length_toList]

theorem length_renderMembers_single (k : String) (v : Json) :
    (renderMembers [(k, v)]).length = (quote k).length + 1 + (render v).length := by
  simp [renderMembers, ← String.length_toList]
  omega

theorem length_renderMembers_cons (k : String) (v : Json) (m : String × Json)
    (ms : List (String × Json)) :
    (renderMembers ((k, v) :: m :: ms)).length =
      (quote k).length + 1 + (render v).length + 1 + (renderMembers (m :: ms)).length := by
  simp [renderMembers, ← String.length_toList]
  omega

theorem length_renderItems_cons (x x' : Json) (xs : List Json) :
    (renderItems (x :: x' :: xs)).length = (render x).length + 1 + (renderItems (x' :: xs)).length := by
  simp [renderItems, ← String.length_toList]
  omega

theorem isBlank_of_number_head {c : Char} (hc : c = '-' ∨ c.isDigit) : isBlank c = false := by
  rcases hc with rfl | hc
  · rfl
  · simp only [isBlank, Bool.or_eq_false_iff, beq_eq_false_iff_ne]
    refine ⟨⟨⟨?_, ?_⟩, ?_⟩, ?_⟩ <;> (rintro rfl; revert hc; decide)

theorem length_render_obj (ms : List (String × Json)) :
    (render (.obj ms)).length = (renderMembers ms).length + 2 := by
  simp [render, ← String.length_toList]

theorem length_render_arr (xs : List Json) :
    (render (.arr xs)).length = (renderItems xs).length + 2 := by
  simp [render, ← String.length_toList]

theorem render_obj_toList (ms : List (String × Json)) (y : List Char) :
    (render (.obj ms)).toList ++ y = '{' :: ((renderMembers ms).toList ++ '}' :: y) := by
  simp [render]

theorem render_arr_toList (xs : List Json) (y : List Char) :
    (render (.arr xs)).toList ++ y = '[' :: ((renderItems xs).toList ++ ']' :: y) := by
  simp [render]

theorem renderMembers_toList (k : String) (v : Json) (ms : List (String × Json)) :
    (renderMembers ((k, v) :: ms)).toList = '"' :: (renderMembers ((k, v) :: ms)).toList.tail := by
  cases ms <;> simp [renderMembers, quote]

theorem renderMembers_cons_tail (k : String) (v : Json) (m : String × Json)
    (ms : List (String × Json)) (y : List Char) :
    (renderMembers ((k, v) :: m :: ms)).toList.tail ++ y =
      (String.join (k.toList.map escapeChar)).toList ++ '"' :: ':' ::
        ((render v).toList ++ ',' :: ((renderMembers (m :: ms)).toList ++ y)) := by
  simp [renderMembers, quote]

theorem renderMembers_single_tail (k : String) (v : Json) (y : List Char) :
    (renderMembers [(k, v)]).toList.tail ++ y =
      (String.join (k.toList.map escapeChar)).toList ++ '"' :: ':' :: ((render v).toList ++ y) := by
  simp [renderMembers, quote]

theorem skipBlank_renderMembers (k : String) (v : Json) (ms : List (String × Json))
    (y : List Char) :
    skipBlank ((renderMembers ((k, v) :: ms)).toList ++ y) =
      '"' :: ((renderMembers ((k, v) :: ms)).toList.tail ++ y) := by
  conv_lhs => rw [renderMembers_toList]
  rfl

mutual
/-- The compact text of a value reads back as `written j`, before any text that cannot continue
it, with the fuel that `readFirst` gives for that text and inside any number of containers that
leaves room for its nesting. -/
theorem readValue_render : ∀ (j : Json) (f d : Nat) (y : List Char), Embeds j →
    2 * (render j).length + 2 ≤ f → d + (written j).depth ≤ maxDepth → extendsNumber y = false →
    readValue f d ((render j).toList ++ y) = .ok (written j, y)
  | .null, f, d, y => by
    intro _ hf _ _
    obtain ⟨f, rfl⟩ : ∃ g, f = g + 1 := ⟨f - 1, by omega⟩
    have htext : "null".toList = ['n', 'u', 'l', 'l'] := by simp
    simp only [render, written, htext]
    exact readValue_succ_eq_ok.2 (.literalNull (by simp [literalRest]))
  | .bool true, f, d, y => by
    intro _ hf _ _
    obtain ⟨f, rfl⟩ : ∃ g, f = g + 1 := ⟨f - 1, by omega⟩
    have htext : "true".toList = ['t', 'r', 'u', 'e'] := by simp
    simp only [render, written, htext]
    exact readValue_succ_eq_ok.2 (.literalTrue (by simp [literalRest]))
  | .bool false, f, d, y => by
    intro _ hf _ _
    obtain ⟨f, rfl⟩ : ∃ g, f = g + 1 := ⟨f - 1, by omega⟩
    have htext : "false".toList = ['f', 'a', 'l', 's', 'e'] := by simp
    simp only [render, written, htext]
    exact readValue_succ_eq_ok.2 (.literalFalse (by simp [literalRest]))
  | .num lit, f, d, y => by
    intro hj hf _ hy
    obtain ⟨f, rfl⟩ : ∃ g, f = g + 1 := ⟨f - 1, by omega⟩
    simp only [Embeds] at hj
    obtain ⟨c, t, ht, hc⟩ := readNumber_head hj
    have hn := (readNumber_ok hj).2 y (fun _ => hy)
    simp only [render, written]
    rw [ht] at hn ⊢
    refine readValue_succ_eq_ok.2 ?_
    rw [List.cons_append, skipBlank_of_not_blank _ (isBlank_of_number_head hc)]
    exact .number hc hn
  | .str s, f, d, y => by
    intro _ hf _ _
    obtain ⟨f, rfl⟩ : ∃ g, f = g + 1 := ⟨f - 1, by omega⟩
    have htext : (quote s).toList ++ y =
        '"' :: ((String.join (s.toList.map escapeChar)).toList ++ '"' :: y) := by
      simp [quote_toList]
    have hthunk : consumed ((quote s).toList ++ y) y = Thunk.pure (quote s) := by
      rw [consumed_pure, String.ofList_toList]
    simp only [render, written]
    rw [← hthunk, htext]
    exact readValue_succ_eq_ok.2 (.string (readString_quoted s y))
  | .arr [], f, d, y => by
    intro _ hf hd _
    obtain ⟨f, rfl⟩ : ∃ g, f = g + 1 := ⟨f - 1, by omega⟩
    simp only [written, Written.depth, writtenItems, Written.itemsDepth] at hd
    have hthunk := consumed_pure (render (.arr [])).toList y
    rw [String.ofList_toList, render_arr_toList] at hthunk
    simp only [written, writtenItems]
    rw [← hthunk, render_arr_toList]
    exact readValue_succ_eq_ok.2 (.emptyArray (by omega) rfl)
  | .arr (x :: xs), f, d, y => by
    intro hj hf hd _
    obtain ⟨f, rfl⟩ : ∃ g, f = g + 1 := ⟨f - 1, by omega⟩
    simp only [Embeds] at hj
    rw [length_render_arr] at hf
    simp only [written, Written.depth] at hd
    have hi := readItems_render x xs f (d + 1) [] y hj (by omega) (by omega)
    obtain ⟨c, t, hct, hc⟩ := readItems_start hi
    have hthunk := consumed_pure (render (.arr (x :: xs))).toList y
    rw [String.ofList_toList, render_arr_toList] at hthunk
    simp only [written]
    rw [← hthunk, render_arr_toList]
    refine readValue_succ_eq_ok.2 (.array (by omega) (by simp [hct]) (by simp [hct, hc]) ?_)
    simpa using hi
  | .obj [], f, d, y => by
    intro _ hf hd _
    obtain ⟨f, rfl⟩ : ∃ g, f = g + 1 := ⟨f - 1, by omega⟩
    simp only [written, Written.depth, writtenMembers, Written.membersDepth] at hd
    have hthunk := consumed_pure (render (.obj [])).toList y
    rw [String.ofList_toList, render_obj_toList] at hthunk
    simp only [written, writtenMembers]
    rw [← hthunk, render_obj_toList]
    exact readValue_succ_eq_ok.2 (.emptyObject (by omega) rfl)
  | .obj ((k, v) :: ms), f, d, y => by
    intro hj hf hd _
    obtain ⟨f, rfl⟩ : ∃ g, f = g + 1 := ⟨f - 1, by omega⟩
    simp only [Embeds] at hj
    rw [length_render_obj] at hf
    simp only [written, Written.depth] at hd
    have hm := readMembers_render k v ms f (d + 1) [] y hj (by omega) (by omega)
    have hthunk := consumed_pure (render (.obj ((k, v) :: ms))).toList y
    rw [String.ofList_toList, render_obj_toList] at hthunk
    simp only [written]
    rw [← hthunk, render_obj_toList, renderMembers_toList, List.cons_append]
    refine readValue_succ_eq_ok.2 (.object (by omega) rfl ?_)
    simpa using hm
  | .raw e, f, d, y => by
    intro hj hf hd hy
    obtain ⟨w, hw, htext⟩ := hj
    simp only [written, hw] at hd ⊢
    exact readValue_of_readWhole hw htext (by simpa [render] using hf) hd hy
termination_by j => sizeOf j

theorem readItems_render : ∀ (x : Json) (xs : List Json) (f d : Nat) (acc : List Written)
    (y : List Char), ItemsEmbed (x :: xs) → 2 * (renderItems (x :: xs)).length + 3 ≤ f →
    d + Written.itemsDepth (writtenItems (x :: xs)) ≤ maxDepth →
    readItems f d acc ((renderItems (x :: xs)).toList ++ ']' :: y) =
      .ok (acc.reverse ++ writtenItems (x :: xs), y)
  | x, [], f, d, acc, y => by
    intro hj hf hd
    obtain ⟨f, rfl⟩ : ∃ g, f = g + 1 := ⟨f - 1, by omega⟩
    simp only [ItemsEmbed] at hj
    simp only [renderItems] at hf
    simp only [writtenItems, Written.itemsDepth] at hd
    have hv := readValue_render x f d (']' :: y) hj.1 (by omega) (by omega) rfl
    have hres : acc.reverse ++ writtenItems [x] = (written x :: acc).reverse := by
      simp [writtenItems]
    rw [hres, renderItems]
    exact readItems_succ_eq_ok.2 (.last hv rfl)
  | x, x' :: xs, f, d, acc, y => by
    intro hj hf hd
    obtain ⟨f, rfl⟩ : ∃ g, f = g + 1 := ⟨f - 1, by omega⟩
    simp only [ItemsEmbed] at hj
    rw [length_renderItems_cons] at hf
    simp only [writtenItems, Written.itemsDepth] at hd
    have hv := readValue_render x f d (',' :: ((renderItems (x' :: xs)).toList ++ ']' :: y)) hj.1
      (by omega) (by omega) rfl
    have hi := readItems_render x' xs f d (written x :: acc) y hj.2 (by omega)
      (by simp only [writtenItems, Written.itemsDepth] at hd ⊢; omega)
    have hres : (written x :: acc).reverse ++ writtenItems (x' :: xs) =
        acc.reverse ++ writtenItems (x :: x' :: xs) := by
      simp [writtenItems]
    rw [← hres]
    have htext : (renderItems (x :: x' :: xs)).toList ++ ']' :: y =
        (render x).toList ++ ',' :: ((renderItems (x' :: xs)).toList ++ ']' :: y) := by
      simp [renderItems]
    rw [htext]
    exact readItems_succ_eq_ok.2 (.next hv rfl hi)
termination_by x xs => sizeOf (x :: xs)

theorem readMembers_render : ∀ (k : String) (v : Json) (ms : List (String × Json)) (f d : Nat)
    (acc : List (String × Written)) (y : List Char), MembersEmbed ((k, v) :: ms) →
    2 * (renderMembers ((k, v) :: ms)).length + 3 ≤ f →
    d + Written.membersDepth (writtenMembers ((k, v) :: ms)) ≤ maxDepth →
    readMembers f d acc ((renderMembers ((k, v) :: ms)).toList.tail ++ '}' :: y) =
      .ok (acc.reverse ++ writtenMembers ((k, v) :: ms), y)
  | k, v, [], f, d, acc, y => by
    intro hj hf hd
    obtain ⟨f, rfl⟩ : ∃ g, f = g + 1 := ⟨f - 1, by omega⟩
    simp only [MembersEmbed] at hj
    rw [length_renderMembers_single] at hf
    have hq := two_le_length_quote k
    simp only [writtenMembers, Written.membersDepth] at hd
    have hv := readValue_render v f d ('}' :: y) hj.1 (by omega) (by omega) rfl
    have hres : acc.reverse ++ writtenMembers [(k, v)] = ((k, written v) :: acc).reverse := by
      simp [writtenMembers]
    rw [hres, renderMembers_single_tail]
    exact readMembers_succ_eq_ok.2 (.last (readString_quoted k _) rfl hv rfl)
  | k, v, (k', v') :: ms, f, d, acc, y => by
    intro hj hf hd
    obtain ⟨f, rfl⟩ : ∃ g, f = g + 1 := ⟨f - 1, by omega⟩
    simp only [MembersEmbed] at hj
    rw [length_renderMembers_cons] at hf
    have hq := two_le_length_quote k
    simp only [writtenMembers, Written.membersDepth] at hd
    have hv := readValue_render v f d (',' :: ((renderMembers ((k', v') :: ms)).toList ++ '}' :: y))
      hj.1 (by omega) (by omega) rfl
    have hm := readMembers_render k' v' ms f d ((k, written v) :: acc) y hj.2 (by omega)
      (by simp only [writtenMembers, Written.membersDepth] at hd ⊢; omega)
    have hres : ((k, written v) :: acc).reverse ++ writtenMembers ((k', v') :: ms) =
        acc.reverse ++ writtenMembers ((k, v) :: (k', v') :: ms) := by
      simp [writtenMembers]
    rw [← hres, renderMembers_cons_tail]
    exact readMembers_succ_eq_ok.2
      (.next (readString_quoted k _) rfl hv rfl (skipBlank_renderMembers k' v' ms _) hm)
termination_by k v ms => sizeOf ((k, v) :: ms)
end

theorem skipBlank_render_obj (ms : List (String × Json)) :
    skipBlank (render (.obj ms)).toList = (render (.obj ms)).toList := by
  have := render_obj_toList ms []
  rw [List.append_nil] at this
  rw [this]
  rfl

theorem readFirst_render_obj (ms : List (String × Json)) (hj : Embeds (.obj ms))
    (hd : (written (.obj ms)).depth ≤ maxDepth) :
    readFirst (render (.obj ms)).toList = .ok (written (.obj ms), []) := by
  apply readFirst_of_container (by simp [written, Written.isContainer])
  rw [skipBlank_render_obj]
  simpa using readValue_render (.obj ms) _ 0 [] hj (by rw [String.length_toList]) (by simpa using hd) rfl

/-! ## Fragments that cannot be read -/

mutual
/-- A value whose compact text holds, after members that read back, a stored fragment that
cannot be read inside the containers around it; `d` counts those containers. -/
def Breaks : Nat → Json → Prop
  | d, .raw e => ∀ f y w r, readValue f d (e.toList ++ y) ≠ .ok (w, r)
  | d, .obj ms => MembersBreak (d + 1) ms
  | _, _ => False

/-- Members whose compact text breaks: one breaks after members that read back. -/
def MembersBreak : Nat → List (String × Json) → Prop
  | _, [] => False
  | d, (_, v) :: ms =>
    Breaks d v ∨ (Embeds v ∧ d + (written v).depth ≤ maxDepth ∧ MembersBreak d ms)
end

theorem key_colon {k k0 : String} {x r1 r2 : List Char}
    (hk : readString ((String.join (k.toList.map escapeChar)).toList ++ '"' :: ':' :: x) =
      .ok (k0, r1))
    (hc : skipBlank r1 = ':' :: r2) : k0 = k ∧ r2 = x := by
  rw [readString_quoted] at hk
  obtain ⟨rfl, rfl⟩ := Prod.mk.inj (Except.ok.inj hk)
  exact ⟨rfl, (List.cons.inj hc).2.symm⟩

/-- A reader that succeeds gives one answer, whatever fuel it was given. -/
theorem readValue_unique {f f' d : Nat} {cs : List Char} {x x' : Written × List Char}
    (h : readValue f d cs = .ok x) (h' : readValue f' d cs = .ok x') : x = x' := by
  rcases Nat.le_total f f' with hle | hle
  · have := readValue_fuel_le hle h
    rw [this] at h'
    exact Except.ok.inj h'
  · have := readValue_fuel_le hle h'
    rw [this] at h
    exact (Except.ok.inj h).symm

mutual
theorem readValue_render_breaks : ∀ (j : Json) (d f : Nat) (y : List Char) (w : Written)
    (r : List Char), Breaks d j → readValue f d ((render j).toList ++ y) ≠ .ok (w, r)
  | .raw e, d, f, y, w, r => by
    intro hb
    exact hb f y w r
  | .obj [], d, f, y, w, r => by
    intro hb
    exact hb.elim
  | .obj ((k, v) :: ms), d, f, y, w, r => by
    intro hb h
    cases f with
    | zero => simp at h
    | succ f =>
      rw [render_obj_toList, readValue_succ_eq_ok] at h
      cases h with
      | emptyObject _ hs => simp [skipBlank_renderMembers] at hs
      | number hc => revert hc; decide
      | object _ hs hm =>
        rw [skipBlank_renderMembers, List.cons.injEq] at hs
        rw [← hs.2] at hm
        exact readMembers_render_breaks k v ms (d + 1) f [] y _ _ hb hm
  | .null, _, _, _, _, _ => fun hb => hb.elim
  | .bool _, _, _, _, _, _ => fun hb => hb.elim
  | .num _, _, _, _, _, _ => fun hb => hb.elim
  | .str _, _, _, _, _, _ => fun hb => hb.elim
  | .arr _, _, _, _, _, _ => fun hb => hb.elim
termination_by j => sizeOf j

theorem readMembers_render_breaks : ∀ (k : String) (v : Json) (ms : List (String × Json))
    (d f : Nat) (acc : List (String × Written)) (y : List Char) (ms' : List (String × Written))
    (r : List Char), MembersBreak d ((k, v) :: ms) →
    readMembers f d acc ((renderMembers ((k, v) :: ms)).toList.tail ++ '}' :: y) ≠ .ok (ms', r)
  | k, v, ms, d, f, acc, y, ms', r => by
    intro hb h
    cases f with
    | zero => simp at h
    | succ f =>
      obtain ⟨z, htext, hz, hlast, hnext⟩ : ∃ z,
          (renderMembers ((k, v) :: ms)).toList.tail ++ '}' :: y =
            (String.join (k.toList.map escapeChar)).toList ++ '"' :: ':' ::
              ((render v).toList ++ z) ∧
          extendsNumber z = false ∧ (∀ r4, skipBlank z = '}' :: r4 → ms = []) ∧
          ∀ r4, skipBlank z = ',' :: r4 → ∃ k' v' ms'', ms = (k', v') :: ms'' ∧
            r4 = (renderMembers ms).toList ++ '}' :: y := by
        cases ms with
        | nil =>
          exact ⟨'}' :: y, by rw [renderMembers_single_tail], rfl, (fun _ _ => rfl),
            fun r4 h => by cases h⟩
        | cons m ms =>
          obtain ⟨k', v'⟩ := m
          refine ⟨_, by rw [renderMembers_cons_tail], rfl, (fun r4 h => by cases h),
            fun r4 h => ⟨k', v', ms, rfl, ?_⟩⟩
          exact (List.cons.inj h).2.symm
      rw [htext] at h
      cases readMembers_succ_eq_ok.1 h with
      | last hk hc hv hb' =>
        obtain ⟨rfl, rfl⟩ := key_colon hk hc
        rcases hb with hbv | ⟨hev, hdv, hbms⟩
        · exact readValue_render_breaks v d f z _ _ hbv hv
        · have hw := readValue_unique hv
            (readValue_render v (max f (2 * (render v).length + 2)) d z hev (Nat.le_max_right _ _)
              hdv hz)
          cases hw
          obtain rfl := hlast _ hb'
          exact hbms.elim
      | next hk hc hv hb' hq hn =>
        obtain ⟨rfl, rfl⟩ := key_colon hk hc
        rcases hb with hbv | ⟨hev, hdv, hbms⟩
        · exact readValue_render_breaks v d f z _ _ hbv hv
        · have hw := readValue_unique hv
            (readValue_render v (max f (2 * (render v).length + 2)) d z hev (Nat.le_max_right _ _)
              hdv hz)
          cases hw
          obtain ⟨k', v', ms'', hms, rfl⟩ := hnext _ hb'
          rw [hms] at hbms hq
          rw [skipBlank_renderMembers, List.cons.injEq] at hq
          rw [← hq.2] at hn
          exact readMembers_render_breaks k' v' ms'' d f _ y ms' r hbms hn
termination_by k v ms => sizeOf ((k, v) :: ms)
decreasing_by
  all_goals
    try rw [hms]
    simp only [List.cons.sizeOf_spec, Prod.mk.sizeOf_spec]
    omega
end

theorem readFirst_render_breaks (ms : List (String × Json)) (hb : Breaks 0 (.obj ms))
    (x : Written × List Char) : readFirst (render (.obj ms)).toList ≠ .ok x := by
  intro h
  have hv := readFirst_eq_ok h
  rw [skipBlank_render_obj] at hv
  exact readValue_render_breaks (.obj ms) 0 _ [] x.1 x.2 hb (by simpa using hv)

end Foreman.Json
