import Mathlib.Data.Rat.Floor
import Mathlib.Tactic.FieldSimp
import Mathlib.Tactic.Linarith
import Thermowire.Register
import Thermowire.Text

/-! What the text of a reading says. Texts are read as decimal numbers. Main statement: a reading is shown as its exact
degrees cut off behind two places; texts lie in the order of their readings, and the rated range can be told from
them. -/
namespace Thermowire

section Digits

theorem isDigit_of_mem_digits {width number : Nat} {c : Char} (member : c ∈ digits 10 width number) : c.isDigit := by
  rcases List.mem_append.mp member with padding | significant
  · obtain rfl := List.eq_of_mem_replicate padding
    rfl
  · exact Nat.isDigit_of_mem_toDigits (by decide) (by decide) significant

theorem length_digits {width number : Nat} (positive : 0 < width) (fits : number < 10 ^ width) :
    (digits 10 width number).length = width := by
  have significant := (Nat.length_toDigits_le_iff (by decide : 1 < 10) positive).mpr fits
  rw [digits, List.length_append, List.length_replicate]
  omega

theorem ofDigitChars_digits (width number : Nat) : Nat.ofDigitChars 10 (digits 10 width number) 0 = number := by
  rw [digits, Nat.ofDigitChars_append, Nat.ofDigitChars_replicate_zero, Nat.mul_zero, Nat.ofDigitChars_ten_toDigits]

theorem digits_succ {width : Nat} (positive : 0 < width) (number : Nat) :
    digits 10 (width + 1) number = digits 10 width (number / 10) ++ [(number % 10).digitChar] := by
  rcases Nat.lt_or_ge number 10 with single | several
  · rw [digits, digits, Nat.toDigits_of_lt_base single, Nat.div_eq_of_lt single, Nat.mod_eq_of_lt single,
      Nat.toDigits_zero]
    obtain ⟨width, rfl⟩ := Nat.exists_eq_succ_of_ne_zero (Nat.ne_of_gt positive)
    rw [List.length_singleton, List.length_singleton, Nat.add_sub_cancel, Nat.succ_sub_one, List.replicate_succ']
  · rw [digits, digits, Nat.toDigits_of_base_le (by decide) several, List.length_append, List.length_singleton,
      Nat.add_sub_add_right, List.append_assoc]

theorem fixedPoint_succ {places : Nat} (positive : 0 < places) (units : Nat) :
    fixedPoint (places + 1) units = fixedPoint places (units / 10) ++ [(units % 10).digitChar] := by
  have whole : units / 10 ^ (places + 1) = units / 10 / 10 ^ places := by
    rw [Nat.pow_succ', Nat.div_div_eq_div_mul]
  have tenth : units % 10 ^ (places + 1) / 10 = units / 10 % 10 ^ places := by
    rw [Nat.pow_succ', Nat.mod_mul_right_div_self]
  have last : units % 10 ^ (places + 1) % 10 = units % 10 := by
    rw [Nat.pow_succ', Nat.mod_mul_right_mod]
  change Nat.toDigits 10 (units / 10 ^ (places + 1)) ++ '.' :: digits 10 (places + 1) (units % 10 ^ (places + 1)) =
    (Nat.toDigits 10 (units / 10 / 10 ^ places) ++ '.' :: digits 10 places (units / 10 % 10 ^ places)) ++ _
  rw [digits_succ positive, whole, tenth, last, List.append_assoc]
  rfl

theorem minus_notMem_fixedPoint (places units : Nat) : '-' ∉ fixedPoint places units := by
  intro member
  rcases List.mem_append.mp member with whole | rest
  · exact absurd (Nat.isDigit_of_mem_toDigits (by decide) (by decide) whole) (by decide)
  · rcases List.mem_cons.mp rest with point | places
    · exact absurd point (by decide)
    · exact absurd (isDigit_of_mem_digits places) (by decide)

end Digits

section Decimal

def unsigned? (text : Text) : Option ℚ :=
  let whole := text.takeWhile Char.isDigit
  match text.dropWhile Char.isDigit with
  | '.' :: places =>
    if whole ≠ [] ∧ places ≠ [] ∧ places.all Char.isDigit then
      some (Nat.ofDigitChars 10 whole 0 + Nat.ofDigitChars 10 places 0 / 10 ^ places.length : ℚ)
    else none
  | _ => none

def decimal? : Text → Option ℚ
  | '-' :: text => (unsigned? text).map (-·)
  | text => unsigned? text

theorem unsigned?_fixedPoint {places : Nat} (positive : 0 < places) (units : Nat) :
    unsigned? (fixedPoint places units) = some (units / 10 ^ places : ℚ) := by
  set unit := 10 ^ places with unit_eq
  have bounded : units % unit < 10 ^ places := Nat.mod_lt _ (Nat.pow_pos (by decide))
  have significant : ∀ c ∈ Nat.toDigits 10 (units / unit), c.isDigit :=
    fun c => Nat.isDigit_of_mem_toDigits (by decide) (by decide)
  have shape : fixedPoint places units =
      Nat.toDigits 10 (units / unit) ++ '.' :: digits 10 places (units % unit) := rfl
  have length := length_digits positive bounded
  have behind : digits 10 places (units % unit) ≠ [] := by
    rintro empty
    rw [empty] at length
    exact absurd length (Nat.ne_of_lt positive)
  have split : (units : ℚ) = unit * (units / unit : Nat) + (units % unit : Nat) := by
    exact_mod_cast (Nat.div_add_mod units unit).symm
  rw [unsigned?, shape, List.dropWhile_append_of_pos significant, List.takeWhile_append_of_pos significant,
    List.dropWhile_cons_of_neg (by decide), List.takeWhile_cons_of_neg (by decide), List.append_nil]
  refine (if_pos ⟨Nat.toDigits_ne_nil, behind, List.all_eq_true.mpr fun c => isDigit_of_mem_digits⟩).trans ?_
  rw [length, Nat.ofDigitChars_ten_toDigits, ofDigitChars_digits, Option.some_inj, split, unit_eq]
  push_cast
  field_simp

end Decimal

section Truncation

def towardZero (x : ℚ) : ℤ := if x < 0 then ⌈x⌉ else ⌊x⌋

/-- A number cut off behind some decimal places. -/
def truncated (places : Nat) (x : ℚ) : ℚ := towardZero (x * 10 ^ places) / 10 ^ places

theorem towardZero_lt (x : ℚ) : towardZero x < x + 1 := by
  unfold towardZero
  split
  · exact Int.ceil_lt_add_one x
  · exact lt_of_le_of_lt (Int.floor_le x) (lt_add_one x)

theorem lt_towardZero (x : ℚ) : x - 1 < towardZero x := by
  unfold towardZero
  split
  · exact lt_of_lt_of_le (sub_one_lt x) (Int.le_ceil x)
  · exact Int.sub_one_lt_floor x

theorem towardZero_neg (x : ℚ) : towardZero (-x) = -towardZero x := by
  unfold towardZero
  rcases lt_trichotomy x 0 with below | rfl | above
  · rw [if_neg (by linarith), if_pos below, Int.floor_neg]
  · simp
  · rw [if_pos (by linarith), if_neg (by linarith), Int.ceil_neg]

theorem truncated_neg (places : Nat) (x : ℚ) : truncated places (-x) = -truncated places x := by
  rw [truncated, neg_mul, towardZero_neg, Int.cast_neg, neg_div, truncated]

theorem towardZero_intCast (whole : ℤ) : towardZero whole = whole := by
  rw [towardZero, Int.ceil_intCast, Int.floor_intCast, ite_self]

theorem truncated_intCast (places : Nat) (whole : ℤ) : truncated places whole = whole := by
  have scaled : (whole : ℚ) * 10 ^ places = (whole * 10 ^ places : ℤ) := by push_cast; rfl
  rw [truncated, scaled, towardZero_intCast, ← scaled, mul_div_cancel_right₀ _ (by positivity)]

/-- Two units of the last place are never cut off alike. -/
theorem truncated_lt {places : Nat} {x y : ℚ} (apart : x + 2 / 10 ^ places ≤ y) :
    truncated places x < truncated places y := by
  have unit : (0 : ℚ) < 10 ^ places := by positivity
  have scaled : x * 10 ^ places + 2 ≤ y * 10 ^ places := by
    have product := mul_le_mul_of_nonneg_right apart unit.le
    rwa [add_mul, div_mul_cancel₀ _ unit.ne'] at product
  have between : (towardZero (x * 10 ^ places) : ℚ) < towardZero (y * 10 ^ places) := by
    -- on either side less than one unit is cut off, also where the numbers differ in sign
    have above := towardZero_lt (x * 10 ^ places)
    have below := lt_towardZero (y * 10 ^ places)
    linarith
  exact div_lt_div_of_pos_right between unit

end Truncation

namespace Temperature
variable {t : Temperature}

def degrees (t : Temperature) : ℚ := t.raw.toInt / 16

def shown (t : Temperature) : ℚ := truncated 2 t.degrees

theorem degrees_eq (t : Temperature) :
    t.degrees = if t.raw < 0 then -(t.sixteenths / 16 : ℚ) else t.sixteenths / 16 := by
  have count : (t.sixteenths : ℤ) = |t.raw.toInt| := Int.natCast_natAbs _
  have magnitude : (t.sixteenths : ℚ) = |(t.raw.toInt : ℚ)| := by exact_mod_cast congrArg (Int.cast (R := ℚ)) count
  rw [degrees, magnitude]
  split
  · next below =>
    have negative : (t.raw.toInt : ℚ) < 0 := by exact_mod_cast Int16.lt_iff_toInt_lt.mp below
    rw [abs_of_neg negative, neg_div, neg_neg]
  · next above =>
    have positive : (0 : ℚ) ≤ t.raw.toInt := by exact_mod_cast Int16.le_iff_toInt_le.mp (Int16.not_lt.mp above)
    rw [abs_of_nonneg positive]

theorem sign_raw (t : Temperature) : sign t.raw.toInt = if t.raw < 0 then ['-'] else [] :=
  if_congr (Int16.lt_iff_toInt_lt : t.raw < 0 ↔ _).symm rfl rfl

theorem hundredths_lt_zero_iff : t.hundredths < 0 ↔ t.raw.toInt < 0 := by
  rw [hundredths, Int.tdiv_eq_ediv]
  split
  · omega
  · change _ + 1 < 0 ↔ _
    omega

theorem text_eq (t : Temperature) :
    t.text = String.ofList (sign t.raw.toInt ++ fixedPoint 2 (t.sixteenths * 100 / 16)) := by
  have signs : sign t.hundredths = sign t.raw.toInt := if_congr hundredths_lt_zero_iff rfl rfl
  have size : t.hundredths.natAbs = t.sixteenths * 100 / 16 := by
    rw [hundredths, Int.natAbs_tdiv, Int.natAbs_mul]
    rfl
  rw [text, signs, size]

theorem decimal?_signed (t : Temperature) {places : Nat} (positive : 0 < places) (units : Nat) :
    decimal? (sign t.raw.toInt ++ fixedPoint places units) =
      some (if t.raw < 0 then -(units / 10 ^ places : ℚ) else units / 10 ^ places) := by
  have read := unsigned?_fixedPoint positive units
  rw [sign_raw]
  split
  · exact congrArg (Option.map (-·)) read
  · rw [List.nil_append, decimal?]
    · exact read
    · intro text minus
      exact minus_notMem_fixedPoint places units (minus ▸ List.mem_cons_self)

theorem truncated_sixteenths (count : Nat) : truncated 2 (count / 16) = (count * 100 / 16 : Nat) / 10 ^ 2 := by
  have whole : (count / 16 : ℚ) * 10 ^ 2 = (count * 100 : Nat) / (16 : Nat) := by
    push_cast
    ring
  rw [truncated, whole, towardZero, if_neg (not_lt.mpr (by positivity)), Rat.floor_natCast_div_natCast]
  rfl

theorem decimal?_text (t : Temperature) : decimal? t.text.toList = some t.shown := by
  rw [text_eq, String.toList_ofList, decimal?_signed t (by decide), shown, degrees_eq, Option.some_inj]
  split
  · rw [truncated_neg, truncated_sixteenths]
  · rw [truncated_sixteenths]

theorem decimal?_exactText (t : Temperature) : decimal? t.exactText.toList = some t.degrees := by
  have exact : ((t.sixteenths * 625 : Nat) / 10 ^ 4 : ℚ) = t.sixteenths / 16 := by
    push_cast
    ring
  rw [exactText, String.toList_ofList, decimal?_signed t (by decide), degrees_eq, exact]

/-- Of the four places of the exact text the first two are shown. -/
theorem places_text (t : Temperature) : ∃ degrees first second third fourth,
    t.text.toList = degrees ++ ['.', first, second] ∧
      t.exactText.toList = degrees ++ ['.', first, second, third, fourth] := by
  -- hundredths are counted from sixteenths, and not from the places of the exact text
  have units : t.sixteenths * 625 / 10 / 10 = t.sixteenths * 100 / 16 := by omega
  have bounded : t.sixteenths * 100 / 16 % 10 ^ 2 < 10 ^ 2 := Nat.mod_lt _ (by decide)
  obtain ⟨first, second, places⟩ := List.length_eq_two.mp (length_digits (by decide) bounded)
  have shown : t.text.toList =
      (sign t.raw.toInt ++ Nat.toDigits 10 (t.sixteenths * 100 / 16 / 10 ^ 2)) ++ ['.', first, second] := by
    rw [text_eq, String.toList_ofList, List.append_assoc, ← places]
    rfl
  obtain ⟨third, fourth, exact⟩ : ∃ third fourth, t.exactText.toList = t.text.toList ++ [third, fourth] := by
    refine ⟨(t.sixteenths * 625 / 10 % 10).digitChar, (t.sixteenths * 625 % 10).digitChar, ?_⟩
    rw [exactText, text_eq, String.toList_ofList, String.toList_ofList, fixedPoint_succ (by decide),
      fixedPoint_succ (by decide), units, List.append_assoc, List.append_assoc]
    rfl
  refine ⟨_, first, second, third, fourth, shown, ?_⟩
  rw [exact, shown, List.append_assoc]
  rfl

theorem minus_mem_text : '-' ∈ t.text.toList ↔ t.raw < 0 := by
  rw [text_eq, String.toList_ofList, List.mem_append, or_iff_left (minus_notMem_fixedPoint _ _), sign_raw]
  split
  · next below => exact iff_of_true (List.mem_singleton_self _) below
  · next above => exact iff_of_false List.not_mem_nil above

theorem lt_iff {s t : Temperature} : s < t ↔ s.raw.toInt < t.raw.toInt := Int16.lt_iff_toInt_lt

theorem truncated_sixteenths_lt {code other : ℤ} (less : code < other) :
    truncated 2 (code / 16) < truncated 2 (other / 16) := by
  have step : (code : ℚ) + 1 ≤ other := by exact_mod_cast less
  refine truncated_lt ?_
  linarith

theorem shown_lt_iff {s t : Temperature} : s.shown < t.shown ↔ s < t := by
  have mono : StrictMono fun code : ℤ => truncated 2 (code / 16) := fun _ _ less => truncated_sixteenths_lt less
  exact mono.lt_iff_lt.trans lt_iff.symm

theorem shown_inj {s t : Temperature} : s.shown = t.shown ↔ s.raw = t.raw := by
  refine ⟨fun same => Int16.toInt_inj.mp (Int.le_antisymm ?_ ?_), fun same => congrArg (fun raw => shown ⟨raw⟩) same⟩
  · exact Int.not_lt.mp fun more => (shown_lt_iff.mpr (lt_iff.mpr more)).ne' same
  · exact Int.not_lt.mp fun less => (shown_lt_iff.mpr (lt_iff.mpr less)).ne same

theorem text_inj {s t : Temperature} : s.text = t.text ↔ s.raw = t.raw := by
  refine ⟨fun same => shown_inj.mp ?_, fun same => ?_⟩
  · have read := decimal?_text s
    rw [same, decimal?_text t] at read
    exact (Option.some_inj.mp read).symm
  · exact congrArg (fun raw => text ⟨raw⟩) same

theorem shown_whole (t : Temperature) (whole : ℤ) (code : t.raw.toInt = 16 * whole) : t.shown = whole := by
  have degrees : t.degrees = whole := by
    rw [degrees, code, Int.cast_mul]
    exact mul_div_cancel_left₀ _ (by norm_num)
  rw [shown, degrees, truncated_intCast]

theorem text_ne_negative_zero (t : Temperature) : t.text ≠ "-0.00" := by
  intro same
  have zero : t.shown = 0 := by
    have read := decimal?_text t
    rw [same] at read
    have digits : "-0.00".toList = '-' :: fixedPoint 2 0 := by decide
    rw [digits, decimal?, unsigned?_fixedPoint (by decide)] at read
    simpa using read.symm
  have minus : t.raw < 0 := minus_mem_text.mp (by rw [same]; decide)
  have raw : t.raw = 0 := shown_inj.mp (zero.trans (shown_whole ⟨0⟩ 0 rfl).symm)
  rw [raw] at minus
  exact absurd minus (by decide)

theorem rated_iff : ¬ (t < lowest ∨ highest < t) ↔ -55 ≤ t.shown ∧ t.shown ≤ 125 := by
  have least : lowest.shown = -55 := by exact_mod_cast shown_whole lowest (-55) rfl
  have most : highest.shown = 125 := by exact_mod_cast shown_whole highest 125 rfl
  rw [not_or, ← shown_lt_iff, ← shown_lt_iff, least, most, not_lt, not_lt]

theorem clamp_eq_self_iff : t.clamp = t ↔ ¬ (t < lowest ∨ highest < t) := by
  rw [not_or, clamp]
  split
  · next below =>
    refine iff_of_false ?_ fun inside => inside.1 below
    rintro rfl
    exact absurd below (by decide)
  · next above =>
    split
    · next beyond =>
      refine iff_of_false ?_ fun inside => inside.2 beyond
      rintro rfl
      exact absurd beyond (by decide)
    · next within => exact iff_of_true rfl ⟨above, within⟩

theorem decode_ofRaw (raw : Int16) : (Scratchpad.ofRaw raw).decode =
    if -55 ≤ (mk raw).shown ∧ (mk raw).shown ≤ 125 then .ok ⟨raw⟩ else .error ⟨raw⟩ := by
  rw [Scratchpad.decode, Scratchpad.raw_ofRaw]
  by_cases rated : -55 ≤ (mk raw).shown ∧ (mk raw).shown ≤ 125
  · rw [if_pos rated]
    exact if_neg (rated_iff.mpr rated)
  · rw [if_neg rated]
    exact if_pos (not_not.mp fun inside => rated (rated_iff.mp inside))

/-- What a reading's text tells, where `value` is the number that it is read as. -/
structure Tells (t : Temperature) (value : ℚ) : Prop where
  reads : decimal? t.text.toList = some value
  exact : decimal? t.exactText.toList = some (t.raw.toInt / 16 : ℚ)
  cut : ∃ degrees first second third fourth, t.text.toList = degrees ++ ['.', first, second] ∧
    t.exactText.toList = degrees ++ ['.', first, second, third, fourth]
  rounded : value = truncated 2 (t.raw.toInt / 16)
  minus : '-' ∈ t.text.toList ↔ t.raw < 0
  nonzero : t.text ≠ "-0.00"
  decoded : (Scratchpad.ofRaw t.raw).decode = if -55 ≤ value ∧ value ≤ 125 then .ok t else .error ⟨t.raw⟩
  unclamped : t.clamp = t ↔ -55 ≤ value ∧ value ≤ 125

theorem tells_shown (t : Temperature) : t.Tells t.shown where
  reads := decimal?_text t
  exact := decimal?_exactText t
  cut := places_text t
  rounded := rfl
  minus := minus_mem_text
  nonzero := text_ne_negative_zero t
  decoded := decode_ofRaw t.raw
  unclamped := clamp_eq_self_iff.trans rated_iff

/-- The texts of any two register codes lie in the order of their readings. -/
theorem texts_ordered (a b : Int16) :
    ∃ x y : ℚ, Tells ⟨a⟩ x ∧ Tells ⟨b⟩ y ∧ (x < y ↔ mk a < mk b) ∧ (mk a < mk b ↔ a.toInt < b.toInt) ∧
      (text ⟨a⟩ = text ⟨b⟩ ↔ a = b) := by
  refine ⟨shown ⟨a⟩, shown ⟨b⟩, tells_shown ⟨a⟩, tells_shown ⟨b⟩, ?_, ?_, ?_⟩
  · exact shown_lt_iff
  · exact lt_iff
  · exact text_inj

end Temperature
end Thermowire
