import Foreman.App.CommandLine
import Foreman.Proofs.Config.RoundTrip

/-!
# A worker's command line reads back

The supervisor writes a worker's arguments with `workerArgv`, the worker reads them with
`Invocation.read`. A flag written without `=` takes the next argument whatever it is, so the
configuration path and the record file come back as written, empty or starting with `-`
(`read_workerArgv`). The terminating time goes as RFC 3339 at its own offset and reads back as
the same stamp when its year has four digits and its offset is whole minutes under a day
(`read_rfc3339At`); that rests on the calendar, where `daysFromCivil` counts the valid date
`civilFromDays` gives back to its day. Main statement: `workerArgv_reads_back`.
-/

namespace Foreman

set_option autoImplicit false

namespace Calendar

/-- A day of a 400-year era, counted from its first March 1st, falls in a year of the era and
a day of that March-based year; the 366th day only ends a leap year. -/
theorem era_day_split (doe : Int) (h0 : 0 ≤ doe) (h1 : doe < 146097) :
    let yoe := (doe - doe / 1460 + doe / 36524 - doe / 146096) / 365
    let doy := doe - (365 * yoe + yoe / 4 - yoe / 100)
    0 ≤ yoe ∧ yoe < 400 ∧ 0 ≤ doy ∧
      (doy < 365 ∨ doy = 365 ∧ (yoe + 1) % 4 = 0 ∧ ((yoe + 1) % 100 ≠ 0 ∨ yoe = 399)) := by
  intro yoe doy
  by_cases hend : doe = 146096
  · have hyoe : yoe = 399 := by simp only [yoe, hend]; omega
    have hdoy : doy = 365 := by simp only [doy, hyoe, hend]; omega
    omega
  -- centuries `c`, four-year blocks `q` and years `k`, each block's last year a day longer
  obtain ⟨c, q, k, d, hdoe, hb⟩ : ∃ c q k d, doe = 36524 * c + 1461 * q + 365 * k + d ∧
      0 ≤ c ∧ c < 4 ∧ 0 ≤ q ∧ 0 ≤ k ∧ 0 ≤ d ∧ d < 365 ∧ 1461 * q + 365 * k + d < 36524 ∧
      365 * k + d < 1461 :=
    ⟨doe / 36524, doe % 36524 / 1461, doe % 36524 % 1461 / 365, doe % 36524 % 1461 % 365,
      by omega, by omega⟩
  have hyoe : yoe = 100 * c + 4 * q + min k 3 := by
    have h1460 : doe / 1460 = 25 * c + q + (24 * c + q + 365 * k + d) / 1460 := by omega
    have h36524 : doe / 36524 = c := by omega
    have h146096 : doe / 146096 = 0 := by omega
    simp only [yoe, h1460, h36524, h146096]
    -- `doe / 1460` runs one ahead only late in a block's last year
    by_cases hlate : 1460 ≤ 24 * c + q + 365 * k + d
    · rw [show (24 * c + q + 365 * k + d) / 1460 = 1 by omega]; omega
    · rw [show (24 * c + q + 365 * k + d) / 1460 = 0 by omega]; omega
  have h4 : yoe / 4 = 25 * c + q := by omega
  have h100 : yoe / 100 = c := by omega
  have hdoy : doy = doe - (365 * yoe + (25 * c + q) - c) := by simp only [doy, h4, h100]
  omega

theorem year_day_split (doy : Int) (h0 : 0 ≤ doy) (h1 : doy ≤ 365) :
    let mp := (5 * doy + 2) / 153
    0 ≤ mp ∧ mp < 12 ∧ (153 * mp + 2) / 5 ≤ doy ∧ doy < (153 * (mp + 1) + 2) / 5 := by
  intro mp
  omega

theorem civilFromDays_valid (z : Int) :
    1 ≤ (civilFromDays z).2.1 ∧ (civilFromDays z).2.1 ≤ 12 ∧ 1 ≤ (civilFromDays z).2.2 ∧
      (civilFromDays z).2.2 ≤ daysIn (civilFromDays z).1 (civilFromDays z).2.1 := by
  have hdoe : 0 ≤ (z + 719468) % 146097 ∧ (z + 719468) % 146097 < 146097 := by omega
  have hera := era_day_split _ hdoe.1 hdoe.2
  simp only [civilFromDays]
  simp only at hera
  generalize (z + 719468) % 146097 = doe at *
  generalize (doe - doe / 1460 + doe / 36524 - doe / 146096) / 365 = yoe at *
  generalize doe - (365 * yoe + yoe / 4 - yoe / 100) = doy at *
  obtain ⟨hy0, hy1, hd0, hd1⟩ := hera
  obtain ⟨hm0, hm1, hs0, hs1⟩ := year_day_split doy hd0 (by omega)
  generalize (5 * doy + 2) / 153 = mp at *
  generalize (z + 719468) / 146097 = era
  obtain rfl | rfl | rfl | rfl | rfl | rfl | rfl | rfl | rfl | rfl | rfl | rfl :
      mp = 0 ∨ mp = 1 ∨ mp = 2 ∨ mp = 3 ∨ mp = 4 ∨ mp = 5 ∨ mp = 6 ∨ mp = 7 ∨ mp = 8 ∨ mp = 9 ∨
        mp = 10 ∨ mp = 11 := by omega
  all_goals simp [daysIn, isLeap]
  all_goals omega

theorem daysFromCivil_of_split (era yoe doy : Int) (hy0 : 0 ≤ yoe) (hy1 : yoe < 400)
    (hd0 : 0 ≤ doy) (hd1 : doy ≤ 365) :
    let mp := (5 * doy + 2) / 153
    let d := doy - (153 * mp + 2) / 5 + 1
    let m := if mp < 10 then mp + 3 else mp - 9
    let y := yoe + era * 400
    daysFromCivil (if m ≤ 2 then y + 1 else y) m.toNat d.toNat =
      era * 146097 + (365 * yoe + yoe / 4 - yoe / 100 + doy) - 719468 := by
  intro mp d m y
  obtain ⟨hm0, hm1, hs0, hs1⟩ := year_day_split doy hd0 hd1
  have hD : (d.toNat : Int) = doy - (153 * mp + 2) / 5 + 1 := Int.toNat_of_nonneg (by omega)
  have hera : y / 400 = era := by omega
  have hyoe : y % 400 = yoe := by omega
  simp only [daysFromCivil, hD]
  by_cases hmarch : mp < 10
  · rw [show m = mp + 3 from if_pos hmarch, if_neg (by omega), if_neg (by omega), if_pos (by omega),
      Int.toNat_of_nonneg (by omega), hera, hyoe]
    omega
  · rw [show m = mp - 9 from if_neg hmarch, if_pos (by omega), if_pos (by omega), if_neg (by omega),
      Int.toNat_of_nonneg (by omega), Int.add_sub_cancel, hera, hyoe]
    omega

theorem daysFromCivil_civilFromDays (z : Int) :
    daysFromCivil (civilFromDays z).1 (civilFromDays z).2.1 (civilFromDays z).2.2 = z := by
  have hdoe : 0 ≤ (z + 719468) % 146097 ∧ (z + 719468) % 146097 < 146097 := by omega
  obtain ⟨hy0, hy1, hd0, hd1⟩ := era_day_split _ hdoe.1 hdoe.2
  have key := daysFromCivil_of_split ((z + 719468) / 146097) _ _ hy0 hy1 hd0 (by omega)
  simp only at key
  simp only [civilFromDays]
  rw [key]
  omega

theorem daysFromCivil_add (y : Int) (m : Nat) (d : Int) :
    daysFromCivil y m 1 + (d - 1) = daysFromCivil y m d := by
  simp only [daysFromCivil]
  omega

theorem normMonth_of_le {y : Int} {m : Nat} (h1 : 1 ≤ m) (h12 : m ≤ 12) : normMonth y m = (y, m) := by
  simp only [normMonth, Prod.mk.injEq]
  omega

theorem daysIn_le (y : Int) (m : Nat) : daysIn y m ≤ 31 := by
  unfold daysIn
  split <;> (try split) <;> omega

end Calendar

/-! ## The wall clock -/

theorem wall_valid (t : Instant) (o : Int) :
    1 ≤ (t.wall o).month ∧ (t.wall o).month ≤ 12 ∧ 1 ≤ (t.wall o).day ∧
      (t.wall o).day ≤ Calendar.daysIn (t.wall o).year (t.wall o).month ∧ (t.wall o).hour < 24 ∧
      (t.wall o).minute < 60 ∧ (t.wall o).second < 60 ∧ (t.wall o).nano < 1000000000 := by
  have hvalid := Calendar.civilFromDays_valid ((t.unix + o) / 86400)
  simp only [Instant.wall, Instant.subsecond, Instant.second]
  generalize Calendar.civilFromDays ((t.unix + o) / 86400) = c at *
  obtain ⟨Y, M, D⟩ := c
  simp only at hvalid ⊢
  omega

theorem wall_toSeconds (t : Instant) (o : Int) :
    Wall.toSeconds (t.wall o).year (t.wall o).month (t.wall o).day (t.wall o).hour
      (t.wall o).minute (t.wall o).second = t.unix + o := by
  have hvalid := Calendar.civilFromDays_valid ((t.unix + o) / 86400)
  have hdays := Calendar.daysFromCivil_civilFromDays ((t.unix + o) / 86400)
  simp only [Instant.wall]
  generalize Calendar.civilFromDays ((t.unix + o) / 86400) = c at *
  obtain ⟨Y, M, D⟩ := c
  simp only at hvalid hdays ⊢
  obtain ⟨hm1, hm12, -, -⟩ := hvalid
  have hsplit := Calendar.daysFromCivil_add Y M D
  simp only [Wall.toSeconds, Calendar.normMonth_of_le hm1 hm12]
  omega

/-! ## Digits written with zeros in front -/

theorem pad_toList (w n : Nat) :
    (TimeText.pad w n).toList = List.replicate (w - (Nat.toDigits 10 n).length) '0' ++ Nat.toDigits 10 n := by
  simp [TimeText.pad, ← String.length_toList, Nat.toList_repr]

theorem pad_two {n : Nat} (h : n < 100) :
    (TimeText.pad 2 n).toList = [Nat.digitChar (n / 10), Nat.digitChar (n % 10)] := by
  rw [pad_toList]
  by_cases hn : n < 10
  · simp [Nat.toDigits_of_lt_base hn, Nat.div_eq_of_lt hn, Nat.mod_eq_of_lt hn]
  · rw [Nat.toDigits_of_base_le (by decide) (by omega), Nat.toDigits_of_lt_base (by omega)]
    simp

theorem digits_pad (w n : Nat) : ∀ c ∈ (TimeText.pad w n).toList, c.isDigit := by
  rw [pad_toList]
  intro c hc
  rcases List.mem_append.1 hc with h | h
  · rw [List.eq_of_mem_replicate h]; decide
  · exact Nat.isDigit_of_mem_toDigits (by decide) (by decide) h

theorem ofDigitChars_pad (w n : Nat) : Nat.ofDigitChars 10 (TimeText.pad w n).toList 0 = n := by
  rw [pad_toList, Nat.ofDigitChars_append, Nat.ofDigitChars_replicate_zero, Nat.mul_zero,
    Nat.ofDigitChars_ten_toDigits]

theorem length_pad {w n : Nat} (h : n < 10 ^ w) (hw : 0 < w) : (TimeText.pad w n).toList.length = w := by
  have := (Nat.length_toDigits_le_iff (n := n) (by decide) hw).2 h
  rw [pad_toList]
  simp
  omega

theorem toNat!_ofList {cs : List Char} (hne : cs ≠ []) (hd : ∀ c ∈ cs, c.isDigit) :
    (String.ofList cs).toNat! = Nat.ofDigitChars 10 cs 0 := by
  apply toNat!_of_toNat?
  rw [String.toNat?_eq_some_ofDigitChars (String.isNat_of_isDigit (by simpa using hne) (by simpa using hd))]
  congr
  simp only [String.toList_ofList, List.filter_eq_self, bne_iff_ne, ne_eq]
  rintro c hc rfl
  exact absurd (hd _ hc) (by decide)

theorem toNat!_pad (w n : Nat) : (TimeText.pad w n).toNat! = n := by
  have hne : (TimeText.pad w n).toList ≠ [] := by simp [pad_toList, Nat.toDigits_ne_nil]
  have := toNat!_ofList hne (digits_pad w n)
  rwa [String.ofList_toList, ofDigitChars_pad] at this

/-! ## Reading the fields back -/

namespace LayoutRead

theorem number_pad_two (fixed : Bool) {n : Nat} (h : n < 100) (r : List Char) :
    number fixed ((TimeText.pad 2 n).toList ++ r) = some ((n : Int), r) := by
  have h1 : n / 10 < 10 := by omega
  have h2 : n % 10 < 10 := Nat.mod_lt _ (by decide)
  rw [pad_two h]
  simp only [List.cons_append, List.nil_append, number, Nat.isDigit_digitChar, decide_eq_true h1,
    decide_eq_true h2, digit, Nat.toNat_digitChar_of_lt_ten h1, Nat.toNat_digitChar_of_lt_ten h2]
  simp
  omega

theorem literal_self {p : List Char} (h : ' ' ∉ p) (v : List Char) : literal p (p ++ v) = .ok v := by
  induction p with
  | nil => simp [literal]
  | cons c p ih =>
    simp only [List.mem_cons, not_or] at h
    rw [List.cons_append, literal]
    · simp [ih h.2]
    · exact h.1 ∘ Eq.symm

theorem field_year (f : Fields) {n : Nat} (h : n ≤ 9999) (r : List Char) :
    field f .year ((TimeText.pad 4 n).toList ++ r) = .ok ({ f with year := n }, r) := by
  have hlen : (TimeText.pad 4 n).toList.length = 4 := length_pad (by omega) (by decide)
  simp [field, List.take_left' hlen, List.drop_left' hlen, hlen, List.all_eq_true.2 fun c hc =>
    digits_pad 4 n c hc, toNat!_pad]

theorem eq_trim_append (l : List Char) (c : Char) :
    l = (l.reverse.dropWhile (· == c)).reverse ++
      List.replicate (l.reverse.takeWhile (· == c)).length c := by
  have hrun : (l.reverse.takeWhile (· == c)).reverse =
      List.replicate (l.reverse.takeWhile (· == c)).length c := by
    rw [List.eq_replicate_iff]
    refine ⟨by simp, fun b hb => ?_⟩
    simpa using List.mem_takeWhile_imp (List.mem_reverse.1 hb)
  rw [← hrun, ← List.reverse_append, List.takeWhile_append_dropWhile, List.reverse_reverse]

theorem nanos_trimmed {ns : Nat} (h0 : 0 < ns) (h : ns < 1000000000) :
    let tr := ((TimeText.pad 9 ns).toList.reverse.dropWhile (· == '0')).reverse
    tr ≠ [] ∧ (∀ c ∈ tr, c.isDigit) ∧ nanos tr = ns := by
  intro tr
  have hsplit := eq_trim_append (TimeText.pad 9 ns).toList '0'
  have hlen : (TimeText.pad 9 ns).toList.length = 9 := length_pad (by omega) (by decide)
  generalize ((TimeText.pad 9 ns).toList.reverse.takeWhile (· == '0')).length = k at hsplit
  change (TimeText.pad 9 ns).toList = tr ++ List.replicate k '0' at hsplit
  have hval : ns = 10 ^ k * Nat.ofDigitChars 10 tr 0 := by
    have := ofDigitChars_pad 9 ns
    rwa [hsplit, Nat.ofDigitChars_append, Nat.ofDigitChars_replicate_zero, eq_comm] at this
  have hne : tr ≠ [] := by
    rintro htr
    simp [htr, Nat.ofDigitChars_nil] at hval
    omega
  have hdig : ∀ c ∈ tr, c.isDigit := fun c hc =>
    digits_pad 9 ns c (hsplit ▸ List.mem_append_left _ hc)
  have hk : tr.length + k = 9 := by
    rw [hsplit] at hlen
    simpa using hlen
  refine ⟨hne, hdig, ?_⟩
  simp only [nanos, List.take_of_length_le (by omega : tr.length ≤ 9), toNat!_ofList hne hdig,
    show 9 - tr.length = k by omega, Nat.pow_eq]
  rw [hval]
  push_cast
  ring

theorem offsetText_head (o : Int) :
    ∃ c r, (Instant.offsetText o).toList = c :: r ∧ (c = 'Z' ∨ c = '+' ∨ c = '-') := by
  unfold Instant.offsetText
  split
  · exact ⟨'Z', [], rfl, .inl rfl⟩
  · split <;> simp

theorem field_fraction (f : Fields) {ns : Nat} (h : ns < 1000000000) {v : List Char}
    (hv : ∃ c r, v = c :: r ∧ (c = 'Z' ∨ c = '+' ∨ c = '-')) :
    field f .fraction ((TimeText.fraction ns).toList ++ v) =
      .ok (if ns = 0 then f else { f with nano := ns }, v) := by
  obtain ⟨c, r, rfl, hc⟩ := hv
  have hcd : c.isDigit = false := by rcases hc with rfl | rfl | rfl <;> rfl
  by_cases h0 : ns = 0
  · subst h0
    cases r <;> rcases hc with rfl | rfl | rfl <;> simp [TimeText.fraction, field]
  obtain ⟨hne, hdig, hnanos⟩ := nanos_trimmed (by omega) h
  obtain ⟨d, tr, htr⟩ := List.exists_cons_of_ne_nil hne
  simp only [TimeText.fraction, beq_iff_eq, h0, if_false, String.toList_append,
    String.toList_ofList] at htr hdig hnanos ⊢
  rw [htr] at hdig hnanos ⊢
  have hd : d.isDigit = true := hdig d (by simp)
  simp [field, hd, List.takeWhile_append_of_pos (fun a (ha : a ∈ tr) => hdig a (by simp [ha])),
    List.dropWhile_append_of_pos (fun a (ha : a ∈ tr) => hdig a (by simp [ha])), hcd, hnanos]

theorem field_offset (f : Fields) {o : Int} (hmin : o % 60 = 0) (hlt : o.natAbs < 86400) :
    field f (.offsetColon true) (Instant.offsetText o).toList =
      .ok (if o = 0 then { f with atUtc := true } else { f with offset := some o }, []) := by
  by_cases h0 : o = 0
  · subst h0
    simp [Instant.offsetText, field]
  obtain ⟨h, hh⟩ : ∃ h, o.natAbs / 60 / 60 = h := ⟨_, rfl⟩
  obtain ⟨m, hm⟩ : ∃ m, o.natAbs / 60 % 60 = m := ⟨_, rfl⟩
  have hnum : ∀ n : Nat, n < 100 → number true [(n / 10).digitChar, (n % 10).digitChar] = some ((n : Int), []) :=
    fun n hn => by simpa [pad_two hn] using number_pad_two true hn []
  have hoff : ((h : Int) * 60 + m) * 60 = o.natAbs := by omega
  have hrange : ¬ (24 < (h : Int)) ∧ ¬ (60 < (m : Int)) := by omega
  have habs := Int.natCast_natAbs o
  simp only [Instant.offsetText, beq_iff_eq, h0, if_false, String.toList_append, hh, hm,
    pad_two (show h < 100 by omega), pad_two (show m < 100 by omega)]
  by_cases hneg : o < 0 <;>
    simp [hneg, field, offsetField, hnum h (by omega), hnum m (by omega), hrange, hoff] <;> omega

end LayoutRead

theorem year_of_nonneg {y : Int} (h : 0 ≤ y) : TimeText.year y = TimeText.pad 4 y.toNat := by
  simp [TimeText.year, Int.not_lt.2 h]

theorem read_rfc3339At (t : Instant) (o : Int)
    (hyear : 0 ≤ (t.wall o).year ∧ (t.wall o).year ≤ 9999) (hmin : o % 60 = 0)
    (hlt : o.natAbs < 86400) :
    Layout.rfc3339.read (t.rfc3339At o) = .ok ⟨t, o⟩ := by
  obtain ⟨hm1, hm12, hd1, hdays, hh, hmi, hs, hns⟩ := wall_valid t o
  have hsec := wall_toSeconds t o
  have hnano : ((t.wall o).nano : Int) = t.nanos - t.unix * Instant.second := by
    simp only [Instant.wall, Instant.subsecond, Instant.unix, Instant.second]
    omega
  simp only [Instant.rfc3339At, Layout.read, Layout.rfc3339, String.toList_append, List.append_assoc,
    year_of_nonneg hyear.1]
  generalize t.wall o = w at *
  have hr : ¬ ((w.month : Int) ≤ 0) ∧ ¬ (12 < (w.month : Int)) ∧ ¬ (24 ≤ (w.hour : Int)) ∧
      ¬ (60 ≤ (w.minute : Int)) ∧ ¬ (60 ≤ (w.second : Int)) := by omega
  simp only [LayoutRead.elems, ↓LayoutRead.field_year _ (show w.year.toNat ≤ 9999 by omega),
    ↓LayoutRead.field_fraction _ hns (LayoutRead.offsetText_head o), ↓LayoutRead.field_offset _ hmin hlt,
    LayoutRead.literal_self (show ' ' ∉ "-".toList by decide),
    LayoutRead.literal_self (show ' ' ∉ "T".toList by decide),
    LayoutRead.literal_self (show ' ' ∉ ":".toList by decide),
    LayoutRead.field, LayoutRead.number_pad_two _ (show w.month < 100 by omega),
    LayoutRead.number_pad_two _ (show w.day < 100 by have := Calendar.daysIn_le w.year w.month; omega),
    LayoutRead.number_pad_two _ (show w.hour < 100 by omega),
    LayoutRead.number_pad_two _ (show w.minute < 100 by omega),
    LayoutRead.number_pad_two _ (show w.second < 100 by omega), hr.1, hr.2.1, hr.2.2.1, hr.2.2.2.1,
    hr.2.2.2.2, decide_false, Bool.or_self, Bool.false_eq_true, if_false]
  have hday : ¬ ((w.day : Int) < 0) ∧ ¬ ((w.month : Int) < 0) := by omega
  obtain ⟨n⟩ := t
  simp only [Instant.unix, Instant.second] at hsec hnano
  by_cases ho : o = 0 <;> by_cases hn : w.nano = 0 <;>
    simp [ho, hn, hday.1, hday.2, hsec, bind, Except.bind, pure, Except.pure,
      Int.toNat_of_nonneg hyear.1, Instant.second] <;>
    rw [if_neg (by omega)] <;> simp <;> omega

/-! ## The flags -/

theorem FlagSet.readArgs_flag_value (fs : FlagSet) (arg : String) {name : String}
    (hof : ArgForm.of arg = .flag name none) (hk : fs.knows name = true) (v : String)
    (rest : List String) (vals : FlagValues) :
    fs.readArgs (arg :: v :: rest) vals = fs.readArgs rest ((name, v) :: vals) := by
  rw [FlagSet.readArgs]
  simp [hof, hk]

theorem read_workerArgv (p : String) (a : WorkerArgs) :
    Invocation.read (workerArgv p a) =
      .ok (.worker p (a.terminatingTime.instant.rfc3339At a.terminatingTime.offset) a.cleanUpInfo) := by
  have hconfig := workerFlags.readArgs_flag_value "-config" rfl rfl
  have hterm := workerFlags.readArgs_flag_value "-terminating-time" rfl rfl
  have hinfo := workerFlags.readArgs_flag_value "-cleanup-info" rfl rfl
  simp only [Invocation.read, workerArgv, workerCommand, beq_self_eq_true, if_true, hconfig, hterm, hinfo]
  rw [FlagSet.readArgs]
  rfl

/-- The worker reads back what the supervisor wrote: the configuration path and the record
file as given, and the terminating time as the very stamp, when its year has four digits and
its offset is whole minutes under a day. The worker therefore takes its own default time
exactly when the stamp is the zero time. -/
theorem workerArgv_reads_back (p s : String) (t : Stamp)
    (hyear : 0 ≤ (t.instant.wall t.offset).year ∧ (t.instant.wall t.offset).year ≤ 9999)
    (hmin : t.offset % 60 = 0) (hlt : t.offset.natAbs < 86400) :
    ∃ term, Invocation.read (workerArgv p ⟨t, s⟩) = .ok (.worker p term s) ∧
      Invocation.terminating term = .ok (some t) := by
  refine ⟨_, read_workerArgv p ⟨t, s⟩, ?_⟩
  have hne : t.instant.rfc3339At t.offset ≠ "" := by
    intro h
    have := congrArg String.length h
    simp [Instant.rfc3339At] at this
  simp [Invocation.terminating, hne, Layout.parse, read_rfc3339At t.instant t.offset hyear hmin hlt,
    Except.map]

/-- A terminating time in Tokyo, with a configuration path that looks like a flag and no
record file. -/
theorem workerArgv_reads_back_tokyo :
    (0 ≤ (Instant.wall ⟨1714566600000000123⟩ 32400).year ∧
        (Instant.wall ⟨1714566600000000123⟩ 32400).year ≤ 9999) ∧ (32400 : Int) % 60 = 0 ∧
      (32400 : Int).natAbs < 86400 ∧
      ∃ term, Invocation.read (workerArgv "-x" ⟨⟨⟨1714566600000000123⟩, 32400⟩, ""⟩) =
          .ok (.worker "-x" term "") ∧
        Invocation.terminating term = .ok (some ⟨⟨1714566600000000123⟩, 32400⟩) :=
  ⟨by decide, by decide, by decide,
    workerArgv_reads_back "-x" "" ⟨⟨1714566600000000123⟩, 32400⟩ (by decide) (by decide) (by decide)⟩

end Foreman
