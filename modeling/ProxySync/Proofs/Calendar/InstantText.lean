import ProxySync.Calendar.Instant
import ProxySync.Proofs.Text.Digits
import ProxySync.Proofs.Text.Trim

/-!
# Written instants read back

The written form of an instant has no blanks, its numbers are padded with
zeros, and its parts are divided by marks that no number reaches into. So
each part reader takes exactly what was written for its part and leaves the
rest (`readCount_run` for numbers, `readYear_run`, `readNano_run`), and the
whole text reads as the instant (`Instant.read_print`): years with a sign,
leap seconds and all three lengths of fractions included.
-/

namespace ProxySync.Calendar

open ProxySync.Text

/-! ## Padded numbers -/

def AllDigits (s : List Char) : Prop := ∀ c ∈ s, isDigit c = true

theorem allDigits_digits (n : Nat) : AllDigits (digits n) := by
  intro c hc
  obtain ⟨d, hd⟩ := digitValue?_of_mem_digits n c hc
  simp [isDigit, hd]

theorem allDigits_padded (width n : Nat) : AllDigits (padded width n) := by
  intro c hc
  rcases List.mem_append.mp hc with hc | hc
  · obtain rfl := List.eq_of_mem_replicate hc
    decide
  · exact allDigits_digits n c hc

theorem foldl_zeros (k : Nat) :
    (digitValues (List.replicate k '0')).foldl (10 * · + ·) 0 = 0 := by
  induction k with
  | zero => rfl
  | succ k ih =>
      have hzero : digitValue? '0' = some 0 := by decide
      simpa [digitValues, List.replicate_succ, hzero] using ih

theorem valueOf_padded (width n : Nat) : valueOf (padded width n) = n := by
  change (digitValues (padded width n)).foldl (10 * · + ·) 0 = n
  rw [padded, digitValues_append, List.foldl_append, foldl_zeros, foldl_digits]

theorem length_padded {width n : Nat} (hw : 0 < width) (hn : n < 10 ^ width) :
    (padded width n).length = width := by
  have := (length_digits_le hw).mpr hn
  simp only [padded, List.length_append, List.length_replicate]
  omega

theorem padded_ne_nil (width n : Nat) : padded width n ≠ [] := by
  simp [padded, digits_ne_nil]

/-- A number with a character of its own in front: where a sign, a mark or a
blank is looked for, none is found. -/
theorem padded_eq_cons (width n : Nat) : ∃ c s, padded width n = c :: s ∧ isDigit c = true := by
  obtain ⟨c, s, hs⟩ := List.exists_cons_of_ne_nil (padded_ne_nil width n)
  exact ⟨c, s, hs, allDigits_padded width n c (by simp [hs])⟩

theorem not_isBlank_of_isDigit {c : Char} (hc : isDigit c = true) : isBlank c = false := by
  obtain ⟨d, hd⟩ := Option.isSome_iff_exists.mp hc
  exact not_isBlank_of_digitValue? hd

/-! ## The part readers on what is written for their part -/

theorem run_bind_ok {α β : Type} {r : PartReader α} {f : α → PartReader β} {s s' : List Char}
    {a : α} (h : r.run s = .ok (a, s')) : (r >>= f).run s = (f a).run s' := by
  rw [StateT.run_bind, h]
  rfl

/-- No number before this text reaches into it. -/
def EndsNumber (rest : List Char) : Prop := ∀ c ∈ rest.head?, isDigit c = false

theorem endsNumber_cons {c : Char} (hc : isDigit c = false) (rest : List Char) :
    EndsNumber (c :: rest) := by
  intro a ha
  obtain rfl := Option.some.inj ha
  exact hc

theorem EndsNumber.takeWhile_eq {rest : List Char} (hr : EndsNumber rest) :
    rest.takeWhile isDigit = [] := by
  cases rest with
  | nil => rfl
  | cons c rest => simp [hr c rfl]

theorem EndsNumber.dropWhile_eq {rest : List Char} (hr : EndsNumber rest) :
    rest.dropWhile isDigit = rest := by
  cases rest with
  | nil => rfl
  | cons c rest => simp [hr c rfl]

/-- Digits are taken up to the width or up to the first character that is
none, whichever is known to come. -/
theorem readCount_run {width : Option Nat} {s rest : List Char} (hs : AllDigits s) (hne : s ≠ [])
    (hwidth : ∀ w ∈ width, s.length ≤ w)
    (hstop : width = some s.length ∨ EndsNumber rest) :
    (readCount width).run (s ++ rest) = .ok (valueOf s, rest) := by
  have hall : (s ++ rest).takeWhile isDigit = s ++ rest.takeWhile isDigit :=
    List.takeWhile_append_of_pos hs
  have hinput : (s ++ rest).isEmpty = false := by simp [hne]
  have hsome : s.isEmpty = false := by simp [hne]
  have hrest : (s ++ rest).drop s.length = rest := List.drop_left ..
  have hget : (get : PartReader (List Char)).run (s ++ rest) = .ok (s ++ rest, s ++ rest) := rfl
  unfold readCount
  rw [run_bind_ok hget, hinput, hall]
  cases width with
  | none =>
      have hr : EndsNumber rest := hstop.resolve_left (by simp)
      rw [hr.takeWhile_eq, List.append_nil]
      simp only [hsome, hrest]
      rfl
  | some w =>
      have htake : (s ++ rest.takeWhile isDigit).take w = s := by
        rcases hstop with hw | hr
        · obtain rfl := Option.some.inj hw
          exact List.take_left ..
        · rw [hr.takeWhile_eq, List.append_nil]
          exact List.take_of_length_le (hwidth w rfl)
      simp only [htake, hsome, hrest]
      rfl

/-- A padded number of exactly the width that is read needs no mark after it. -/
theorem readCount_padded {width n : Nat} (hw : 0 < width) (hn : n < 10 ^ width)
    (rest : List Char) :
    (readCount (some width)).run (padded width n ++ rest) = .ok (n, rest) := by
  have hlen := length_padded hw hn
  have h := @readCount_run (some width) (padded width n) rest (allDigits_padded width n)
    (padded_ne_nil width n) (by simp [hlen]) (.inl (by rw [hlen]))
  rwa [valueOf_padded] at h

theorem skipBlanks_run {c : Char} (hc : isBlank c = false) (s : List Char) :
    skipBlanks.run (c :: s) = .ok ((), c :: s) := by
  have htrim : trimStart (c :: s) = c :: s := by simp [trimStart, hc]
  change Except.ok ((), trimStart (c :: s)) = _
  rw [htrim]

theorem skipBlanks_padded (width n : Nat) (rest : List Char) :
    skipBlanks.run (padded width n ++ rest) = .ok ((), padded width n ++ rest) := by
  obtain ⟨c, s, hs, hc⟩ := padded_eq_cons width n
  rw [hs, List.cons_append]
  exact skipBlanks_run (not_isBlank_of_isDigit hc) _

theorem readMark_run {accepts : Char → Bool} {c : Char} (hc : accepts c = true)
    (rest : List Char) : (readMark accepts).run (c :: rest) = .ok ((), rest) := by
  have hget : (get : PartReader (List Char)).run (c :: rest) = .ok (c :: rest, c :: rest) := rfl
  unfold readMark
  rw [run_bind_ok hget]
  simp only [hc]
  rfl

theorem readRanged_padded {low high n : Nat} (hn : n < 100) (hlow : low ≤ n) (hhigh : n ≤ high)
    (rest : List Char) :
    (readRanged low high).run (padded 2 n ++ rest) = .ok (n, rest) := by
  unfold readRanged
  rw [run_bind_ok (skipBlanks_padded 2 n rest),
    run_bind_ok (readCount_padded (by decide) (by simpa using hn) rest), if_pos ⟨hlow, hhigh⟩]
  rfl

/-- After a sign the digits are taken up to the next mark, however many. -/
theorem readCount_signed (n : Nat) {rest : List Char} (hr : EndsNumber rest) :
    (readCount none).run (padded 4 n ++ rest) = .ok (n, rest) := by
  have h := @readCount_run none (padded 4 n) rest (allDigits_padded 4 n) (padded_ne_nil 4 n)
    (by simp) (.inr hr)
  rwa [valueOf_padded] at h

/-- Years of four digits come without a sign and all others with one, so the
reader knows how many digits to take. -/
theorem readYear_run {year : Int} (hfirst : firstYear ≤ year) (hlast : year ≤ lastYear)
    {rest : List Char} (hr : EndsNumber rest) :
    readYear.run (yearText year ++ rest) = .ok (year, rest) := by
  have hrange : -2147483648 ≤ year ∧ year ≤ 2147483647 := by
    simp only [firstYear, lastYear] at hfirst hlast
    omega
  have hget (s : List Char) : (get : PartReader (List Char)).run s = .ok (s, s) := rfl
  have hset (s t : List Char) : (set s : PartReader Unit).run t = .ok ((), s) := rfl
  unfold readYear yearText
  split
  · next h =>
    have hn : year.natAbs < 10 ^ 4 := by omega
    have hcount := readCount_padded (by decide) hn rest
    rw [run_bind_ok (skipBlanks_padded 4 _ rest), run_bind_ok (hget _)]
    obtain ⟨c, s, hs, hc⟩ := padded_eq_cons 4 year.natAbs
    rw [hs, List.cons_append] at hcount ⊢
    split
    · next heq =>
      obtain ⟨rfl, -⟩ := List.cons.inj heq
      exact absurd hc (by decide)
    · next heq =>
      obtain ⟨rfl, -⟩ := List.cons.inj heq
      exact absurd hc (by decide)
    · rw [run_bind_ok hcount]
      have hyear : (year.natAbs : Int) = year := by omega
      simp only [pure_bind, hyear, if_pos hrange]
      rfl
  · next h =>
    split
    · next hneg =>
      have hyear : -(year.natAbs : Int) = year := by omega
      rw [List.cons_append, run_bind_ok (skipBlanks_run (by decide) _), run_bind_ok (hget _)]
      simp only
      rw [run_bind_ok (hset _ _), run_bind_ok (readCount_signed year.natAbs hr)]
      simp only [pure_bind, hyear, if_pos hrange]
      rfl
    · next hpos =>
      have hyear : (year.natAbs : Int) = year := by omega
      rw [List.cons_append, run_bind_ok (skipBlanks_run (by decide) _), run_bind_ok (hget _)]
      simp only
      rw [run_bind_ok (hset _ _), run_bind_ok (readCount_signed year.natAbs hr)]
      simp only [pure_bind, hyear, if_pos hrange]
      rfl

/-! ## Fractions -/

/-- A fraction of `places` digits with the value `n`. -/
theorem readNano_places {places n : Nat} (hp : 0 < places) (hle : places ≤ 9)
    (hn : n < 10 ^ places) {rest : List Char} (hr : EndsNumber rest) :
    readNano.run ('.' :: padded places n ++ rest) = .ok (n * 10 ^ (9 - places), rest) := by
  have hlen := length_padded hp hn
  have hget (s : List Char) : (get : PartReader (List Char)).run s = .ok (s, s) := rfl
  have hset (s t : List Char) : (set s : PartReader Unit).run t = .ok ((), s) := rfl
  have hmodify : (modify (·.dropWhile isDigit) : PartReader Unit).run rest = .ok ((), rest) := by
    change Except.ok ((), rest.dropWhile isDigit) = _
    rw [hr.dropWhile_eq]
  have hcount := @readCount_run (some 9) (padded places n) rest (allDigits_padded places n)
    (padded_ne_nil places n) (by simp [hlen, hle]) (.inr hr)
  rw [valueOf_padded] at hcount
  unfold readNano
  rw [List.cons_append, run_bind_ok (hget _)]
  simp only
  rw [run_bind_ok (hset _ _), run_bind_ok hcount, run_bind_ok (hget _), run_bind_ok hmodify]
  simp [hlen]
  rfl

theorem readNano_run {nano : Nat} (h : nano < nanosPerSecond) (rest : List Char) :
    readNano.run (fractionText nano ++ 'Z' :: rest) = .ok (nano, 'Z' :: rest) := by
  have hr : EndsNumber ('Z' :: rest) := endsNumber_cons (by decide) rest
  have hget (s : List Char) : (get : PartReader (List Char)).run s = .ok (s, s) := rfl
  have hmax : nano < 1000000000 := h
  unfold fractionText
  split
  · next h0 =>
    subst h0
    unfold readNano
    rw [List.nil_append, run_bind_ok (hget _)]
    rfl
  · split
    · next hmilli =>
      rw [readNano_places (by decide) (by decide) (by omega) hr]
      have : nano / 1000000 * 10 ^ (9 - 3) = nano := by omega
      rw [this]
    · split
      · next hmicro =>
        rw [readNano_places (by decide) (by decide) (by omega) hr]
        have : nano / 1000 * 10 ^ (9 - 6) = nano := by omega
        rw [this]
      · rw [readNano_places (by decide) (by decide) (by omega) hr]
        have : nano * 10 ^ (9 - 9) = nano := by omega
        rw [this]

theorem readOffset_zulu (rest : List Char) : readOffset.run ('Z' :: rest) = .ok (0, rest) := rfl

/-! ## Whole instants -/

theorem Date.of?_self (d : Date) : Date.of? d.year d.month d.day = some d := by
  rw [Date.of?, dif_pos d.valid]

theorem Date.bounds (d : Date) :
    (firstYear ≤ d.year ∧ d.year ≤ lastYear) ∧ (1 ≤ d.month ∧ d.month ≤ 12) ∧
      1 ≤ d.day ∧ d.day ≤ 31 := by
  have h := d.valid
  simp only [isDay, Bool.and_eq_true, decide_eq_true_eq] at h
  have hmonth : daysInMonth d.year d.month ≤ 31 := by
    unfold daysInMonth
    split
    · split <;> omega
    · split <;> omega
  omega

/-- In UTC nothing is moved to another day. -/
theorem Instant.ofLocal?_utc (t : Instant) :
    Instant.ofLocal? t.date t.minute t.second t.nano 0 = .ok t := by
  have hminute := t.minute_lt
  have hpos : ¬ ((t.minute : Int) - 0 < 0) := by omega
  have hday : ¬ (1440 ≤ (t.minute : Int) - 0) := by omega
  have hmod : (((t.minute : Int) - 0) % 1440).toNat = t.minute := by omega
  unfold Instant.ofLocal?
  simp only [if_neg hpos, if_neg hday, hmod]
  simp [t.minute_lt, t.second_le, t.nano_lt]
  rfl

/-- **Written instants read back.** -/
theorem Instant.read_print (t : Instant) : Instant.read t.print = .ok t := by
  obtain ⟨⟨hfirst, hlast⟩, ⟨hmonth, hmonth'⟩, hday, hday'⟩ := t.date.bounds
  have hminute := t.minute_lt
  have hsecond := t.second_le
  have hclock : 60 * (t.minute / 60) + t.minute % 60 = t.minute := Nat.div_add_mod t.minute 60
  have hmark {c : Char} (hc : isDigit c = false) (s : List Char) : EndsNumber (c :: s) :=
    endsNumber_cons hc s
  have hget (s : List Char) : (get : PartReader (List Char)).run s = .ok (s, s) := rfl
  have hrun : readInstant.run t.print = .ok (t, []) := by
    unfold readInstant Instant.print
    simp only [List.append_assoc, List.cons_append]
    rw [run_bind_ok (readYear_run hfirst hlast (hmark (by decide) _)),
      run_bind_ok (skipBlanks_run (by decide) _), run_bind_ok (readMark_run (by decide) _),
      run_bind_ok (readRanged_padded (by omega) hmonth hmonth' _),
      run_bind_ok (skipBlanks_run (by decide) _), run_bind_ok (readMark_run (by decide) _),
      run_bind_ok (readRanged_padded (by omega) hday hday' _),
      run_bind_ok (readMark_run (by decide) _),
      run_bind_ok (readRanged_padded (by omega) (by omega) (by omega) _),
      run_bind_ok (skipBlanks_run (by decide) _), run_bind_ok (readMark_run (by decide) _),
      run_bind_ok (readRanged_padded (by omega) (by omega) (by omega) _),
      run_bind_ok (skipBlanks_run (by decide) _), run_bind_ok (readMark_run (by decide) _),
      run_bind_ok (readRanged_padded (by omega) (by omega) hsecond _),
      run_bind_ok (readNano_run t.nano_lt []), run_bind_ok (skipBlanks_run (by decide) _),
      run_bind_ok (readOffset_zulu []),
      run_bind_ok (show skipBlanks.run [] = .ok ((), []) from rfl),
      run_bind_ok (hget [])]
    simp only [Date.of?_self, hclock, t.ofLocal?_utc]
    rfl
  change (fun x => x.1) <$> readInstant.run t.print = _
  rw [hrun]
  rfl

end ProxySync.Calendar
