import Thermowire.Proofs.Host.CommandLine
import Thermowire.Proofs.Host.Extension

/-! The options of the host, for any parser that is as documented. Main statement: a line offset is accepted if it is a
number of 32 bits, and the run that it gives depends on the offset and the chip alone. -/
namespace Thermowire.Host

section Numbers
variable {text : Text}

theorem le_ofDigitChars (text : Text) (value : Nat) : value ≤ Nat.ofDigitChars 10 text value := by
  rw [Nat.ofDigitChars_eq_ofDigitChars_zero]
  exact Nat.le_add_right_of_le (Nat.le_mul_of_pos_left value (Nat.pow_pos (by decide)))

theorem readDigits_eq {bound value : Nat} {overflow : NumberError} (digits : ∀ c ∈ text, c.isDigit)
    (bounded : value ≤ bound) :
    readDigits bound overflow text value =
      if Nat.ofDigitChars 10 text value ≤ bound then .ok (Nat.ofDigitChars 10 text value) else .error overflow := by
  induction text generalizing value with
  | nil => exact (if_pos bounded).symm
  | cons digit rest ih =>
    have others : ∀ c ∈ rest, c.isDigit := fun c member => digits c (List.mem_cons_of_mem _ member)
    rw [readDigits, if_pos (digits digit List.mem_cons_self), Nat.ofDigitChars_cons]
    dsimp only
    split
    · next within => exact ih others within
    · next beyond =>
      -- a number that has passed the bound stays behind it
      exact (if_neg fun small => beyond (Nat.le_trans (le_ofDigitChars rest _) small)).symm

theorem readInteger_eq (written : text ≠ []) (digits : ∀ c ∈ text, c.isDigit) :
    readInteger text =
      if Nat.ofDigitChars 10 text 0 ≤ UInt64.size / 2 - 1 then .ok (Nat.ofDigitChars 10 text 0)
      else .error .tooLarge := by
  have unsigned : readInteger text = (readDigits (UInt64.size / 2 - 1) .tooLarge text 0).map Int.ofNat := by
    unfold readInteger
    split
    · exact absurd rfl written
    · exact absurd (digits _ List.mem_cons_self) (by decide)
    · exact absurd (digits _ List.mem_cons_self) (by decide)
    · exact absurd (digits _ List.mem_cons_self) (by decide)
    · exact absurd (digits _ List.mem_cons_self) (by decide)
    · rfl
  rw [unsigned, readDigits_eq digits (Nat.zero_le _)]
  split <;> rfl

theorem fits_ofNat (written : text ≠ []) (digits : ∀ c ∈ text, c.isDigit)
    (small : Nat.ofDigitChars 10 text 0 ≤ 4294967295) : Fits text (.ofNat (Nat.ofDigitChars 10 text 0)) := by
  rw [Fits, readInteger_eq written digits, if_pos (Nat.le_trans small (by decide)),
    UInt32.toNat_ofNat_of_lt' (Nat.lt_succ_of_le small)]

/-- A number of 32 bits is one of 64, and what is beyond those is none. -/
theorem exists_fits_iff (written : text ≠ []) (digits : ∀ c ∈ text, c.isDigit) :
    (∃ number, Fits text number) ↔ Nat.ofDigitChars 10 text 0 ≤ 4294967295 := by
  refine ⟨?_, fun small => ⟨_, fits_ofNat written digits small⟩⟩
  rintro ⟨number, fits⟩
  rw [Fits, readInteger_eq written digits] at fits
  split at fits
  · have same : Nat.ofDigitChars 10 text 0 = number.toNat := Int.ofNat.inj (Except.ok.inj fits)
    rw [same]
    exact Nat.le_of_lt_succ number.toNat_lt
  · cases fits

end Numbers

section Respelling
variable {parse : OptionParser} {declared : Setting → Declaration}

theorem commandLine_singleton (given : Given) : commandLine declared [given] = given.write declared :=
  List.flatMap_singleton ..

theorem commandLine_pair (first second : Given) :
    commandLine declared [first, second] = first.write declared ++ second.write declared :=
  List.flatMap_cons.trans (congrArg _ (commandLine_singleton second))

theorem OptionParser.Documented.interchangeable (documented : parse.Documented) (spelling : Spelling) :
    parse.Interchangeable spelling .longApart := by
  intro declared clear before given after
  have short := documented.short declared clear before given after
  cases spelling with
  | shortAttached => exact (documented.shortAttached declared clear before given after).trans short
  | shortEquals => exact (documented.shortEquals declared clear before given after).trans short
  | shortApart => exact short
  | longEquals => exact documented.longEquals declared clear before given after
  | longApart => rfl

theorem OptionParser.Documented.respell (documented : parse.Documented) (clear : Unambiguous declared)
    (options : List Given) :
    parse declared (commandLine declared options) =
      parse declared (commandLine declared (options.map (·.respell .longApart))) := by
  -- options are respelled from left to right; those that are done stand before the others
  suffices done : ∀ before : List Given, parse declared (commandLine declared (before ++ options)) =
      parse declared (commandLine declared (before ++ options.map (·.respell .longApart))) from done []
  induction options with
  | nil => exact fun _ => rfl
  | cons given rest ih =>
    intro before
    have others := ih (before ++ [given.respell .longApart])
    rw [List.append_assoc, List.append_assoc] at others
    exact (documented.interchangeable given.spelling declared clear before given rest).trans others

end Respelling

section Parsed
variable {parse : OptionParser} {offset name : Text} {number : UInt32}

theorem unambiguous_declaration : Unambiguous Setting.declaration where
  letters := by decide
  names := by decide
  alphabetic setting := by cases setting <;> rfl
  word setting := by
    cases setting with
    | chip => exact ⟨by decide, List.all_eq_true.mp (by decide)⟩
    | line => exact ⟨by decide, List.all_eq_true.mp (by decide)⟩

/-- Options that are given once are read as what they say, however they are spelled. -/
theorem parse_given (documented : parse.Documented) (options : List Given) (once : (options.map Given.setting).Nodup)
    (chip : valueOf Setting.declaration options .chip = some name)
    (line : valueOf Setting.declaration options .line = some offset) (fits : Fits offset number) :
    parse Setting.declaration (commandLine Setting.declaration options) = .ok { chip := name, line := number } :=
  (documented.respell unambiguous_declaration options).trans
    (documented.accepted _ unambiguous_declaration options once _ _ _ chip line fits)

theorem parse_line (documented : parse.Documented) (spellable : Spellable offset) (fits : Fits offset number)
    (spelling : Spelling) :
    parse Setting.declaration (spelling.write 'l' "line".toList offset) = .ok { chip := defaultChip, line := number } := by
  have once : [Setting.line].Nodup := by decide
  have parsed := parse_given documented [⟨.line, offset, spelling, spellable⟩] once rfl rfl fits
  rwa [commandLine_singleton] at parsed

theorem parse_line_refused (documented : parse.Documented) (spellable : Spellable offset)
    (unfit : ¬ ∃ number, Fits offset number) (spelling : Spelling) :
    ∃ exit, parse Setting.declaration (spelling.write 'l' "line".toList offset) = .error exit ∧ exit.code = 2 := by
  let given : Given := ⟨.line, offset, spelling, spellable⟩
  obtain ⟨exit, refused, code⟩ :=
    documented.refused _ unambiguous_declaration [given] given (List.mem_singleton_self _) rfl unfit
  rw [← documented.respell unambiguous_declaration, commandLine_singleton] at refused
  exact ⟨exit, refused, code⟩

theorem parse_line_and_chip (documented : parse.Documented) (offsetSpellable : Spellable offset)
    (fits : Fits offset number) (nameSpellable : Spellable name) (first second : Spelling) :
    let line := first.write 'l' "line".toList offset
    let chip := second.write 'c' "chip".toList name
    parse Setting.declaration (line ++ chip) = .ok { chip := name, line := number } ∧
      parse Setting.declaration (chip ++ line) = .ok { chip := name, line := number } := by
  intro line chip
  let lineGiven : Given := ⟨.line, offset, first, offsetSpellable⟩
  let chipGiven : Given := ⟨.chip, name, second, nameSpellable⟩
  have lineFirst : [Setting.line, Setting.chip].Nodup := by decide
  have chipFirst : [Setting.chip, Setting.line].Nodup := by decide
  have forth := parse_given documented [lineGiven, chipGiven] lineFirst rfl rfl fits
  have back := parse_given documented [chipGiven, lineGiven] chipFirst rfl rfl fits
  rw [commandLine_pair] at forth back
  exact ⟨forth, back⟩

end Parsed

section Events

theorem eventTexts_stage (arguments : Arguments) (stage : Stage) (later : List Moment) :
    eventTexts arguments (.stage stage :: later) = stage.text arguments :: eventTexts arguments later := by
  rw [eventTexts_eq, eventTexts_eq, events, List.filter_cons_of_pos rfl]
  have apart := List.splitBy_append (l := [Moment.stage stage]) (m := later.filter (·.record?.isNone))
    (r := fun a b => a.isPad && b.isPad) (by simp [Moment.isPad])
  exact congrArg (List.map (eventText arguments)) apart

theorem stages_begin (arguments : Arguments) (surroundings : Surroundings) :
    (Stage.upTo surroundings.failing).map (Stage.text arguments) <+: eventTexts arguments (run surroundings).1 := by
  have shown (stages : List Stage) (later : List Moment) : eventTexts arguments (stages.map .stage ++ later) =
      stages.map (Stage.text arguments) ++ eventTexts arguments later := by
    induction stages with
    | nil => rfl
    | cons stage rest ih =>
      rw [List.map_cons, List.cons_append, eventTexts_stage, ih]
      rfl
  obtain ⟨later, moments⟩ : ∃ later, (run surroundings).1 = (Stage.upTo surroundings.failing).map .stage ++ later := by
    unfold run
    split
    · exact ⟨[], (List.append_nil _).symm⟩
    · dsimp only
      split
      · exact ⟨_, rfl⟩
      · exact ⟨_, rfl⟩
  rw [moments, shown]
  exact List.prefix_append ..

theorem head?_upTo (failing : Option Stage) : (Stage.upTo failing).head? = some .openChip := by
  rcases failing with _ | (_ | _ | _ | _) <;> rfl

theorem head?_events {parse : OptionParser} {arguments : List Text} {parsed : Arguments}
    (accepted : parse Setting.declaration arguments = .ok parsed) (shows : HostRecord → Bool)
    (surroundings : Surroundings) :
    (answer parse shows arguments surroundings).events.head? = some ("open " ++ String.ofList parsed.chip) := by
  obtain ⟨later, events⟩ := stages_begin parsed surroundings
  rw [answer_eq accepted, Answer.events, ← events, List.head?_append, List.head?_map, head?_upTo]
  rfl

end Events

theorem spellable_of_digits {offset : Text} (written : offset ≠ []) (digits : ∀ c ∈ offset, c.isDigit) :
    Spellable offset := by
  have first (c : Char) (heads : offset.head? = some c) : c.isDigit := digits c (List.mem_of_mem_head? heads)
  exact ⟨written, fun dash => absurd (first _ dash) (by decide), fun equals => absurd (first _ equals) (by decide)⟩

theorem spellable_defaultChip : Spellable defaultChip := ⟨by decide, by decide, by decide⟩

/-- Where options are read as documented, a line offset of digits is accepted if it is at most 4294967295, however many
zeros lead it, and with the chip it decides the run: neither their spelling nor their order counts. -/
theorem offset_decides {parse : OptionParser} (documented : parse.Documented) {offset : Text} (written : offset ≠ [])
    (digits : ∀ c ∈ offset, c.isDigit) (shows : HostRecord → Bool) (failing : Option Stage) (script : Script)
    (sleeps : Nat) (spelling : Spelling) :
    let number := Nat.ofDigitChars 10 offset 0
    let line (spelling : Spelling) : List Text := spelling.write 'l' "line".toList offset
    let chip (name : Text) (spelling : Spelling) : List Text := spelling.write 'c' "chip".toList name
    let alone := answer parse shows (line spelling) { script, sleeps }
    let told (arguments : List Text) := answer parse shows arguments { failing, script, sleeps }
    ((∃ ending events log, alone = .ran ending events log) ↔ number ≤ 4294967295) ∧
      (4294967295 < number → alone.exitCode = 2 ∧ alone.events = []) ∧
      (number ≤ 4294967295 →
        ["open /dev/gpiochip0", "line " ++ toString number] <+: alone.events ∧
          (∀ name, Spellable name → ∃ same, same.events.head? = some ("open " ++ String.ofList name) ∧
            ∀ first second, told (line first ++ chip name second) = same ∧ told (chip name second ++ line first) = same) ∧
          ∀ first second, told (line spelling) = told (line first ++ chip "/dev/gpiochip0".toList second)) := by
  intro number line chip alone told
  have spellable := spellable_of_digits written digits
  by_cases small : number ≤ 4294967295
  · have fits := fits_ofNat written digits small
    have accepted := parse_line documented spellable fits
    have ran := answer_eq (accepted spelling) shows { script, sleeps }
    refine ⟨iff_of_true ⟨_, _, _, ran⟩ small, fun large => absurd small (Nat.not_le.mpr large), fun _ => ⟨?_, ?_, ?_⟩⟩
    · obtain ⟨later, events⟩ := stages_begin { chip := defaultChip, line := .ofNat number } { script, sleeps }
      have offsetText : toString (UInt32.ofNat number) = toString number :=
        congrArg toString (UInt32.toNat_ofNat_of_lt' (Nat.lt_succ_of_le small))
      change _ <+: (answer _ _ _ _).events
      rw [ran, Answer.events, ← events, ← offsetText]
      exact ⟨_, rfl⟩
    · intro name nameSpellable
      have both := parse_line_and_chip documented spellable fits nameSpellable
      -- all of them are read as the same arguments, and the answer depends on these alone
      refine ⟨told (line .longApart ++ chip name .longApart), head?_events (both _ _).1 shows _, fun first second => ?_⟩
      have same := answer_eq (both .longApart .longApart).1 shows { failing, script, sleeps }
      exact ⟨(answer_eq (both first second).1 shows _).trans same.symm,
        (answer_eq (both first second).2 shows _).trans same.symm⟩
    · intro first second
      have both := parse_line_and_chip documented spellable fits spellable_defaultChip first second
      exact (answer_eq (accepted spelling) shows _).trans (answer_eq both.1 shows _).symm
  · have unfit := mt (exists_fits_iff written digits).mp small
    obtain ⟨exit, refused, code⟩ := parse_line_refused documented spellable unfit spelling
    have same : alone = .exited exit := by
      change answer _ _ _ _ = _
      rw [answer, refused]
    refine ⟨iff_of_false ?_ small, fun _ => ?_, fun within => absurd within small⟩
    · rintro ⟨ending, events, log, ran⟩
      rw [same] at ran
      cases ran
    · rw [same]
      exact ⟨code, rfl⟩

/-- The largest offset behind zeros, and a chip whose name looks like a line option. -/
theorem offset_decides_largest :
    let offset := "0004294967295".toList
    let name := "l5".toList
    let told (arguments : List Text) :=
      answer parseOptions (fun _ => true) arguments { script := ⟨[], [], 0⟩, sleeps := 1 }
    parseOptions.Documented ∧ (offset ≠ [] ∧ ∀ c ∈ offset, c.isDigit) ∧ Spellable name ∧
      Nat.ofDigitChars 10 offset 0 = 4294967295 ∧
      ["open /dev/gpiochip0", "line 4294967295"] <+: (told ["-l0004294967295".toList]).events ∧
      told ["-cl5".toList, "--line=0004294967295".toList] = told ["-l".toList, offset, "--chip".toList, name] := by
  intro offset name told
  have written : offset ≠ [] := by decide
  have digits : ∀ c ∈ offset, c.isDigit := List.all_eq_true.mp (by decide)
  have spellable : Spellable name := ⟨by decide, by decide, by decide⟩
  have number : Nat.ofDigitChars 10 offset 0 = 4294967295 := by decide
  obtain ⟨-, -, within⟩ :=
    offset_decides parseOptions_documented written digits (fun _ => true) none ⟨[], [], 0⟩ 1 .shortAttached
  obtain ⟨events, together, -⟩ := within (Nat.le_of_eq number)
  obtain ⟨same, -, alike⟩ := together name spellable
  rw [number] at events
  refine ⟨parseOptions_documented, ⟨written, digits⟩, spellable, number, events, ?_⟩
  exact (alike .longEquals .shortAttached).2.trans (alike .shortApart .longApart).1.symm

end Thermowire.Host
