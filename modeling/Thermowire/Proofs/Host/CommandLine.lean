import Mathlib.Data.List.TakeWhile
import Thermowire.Host.CommandLine

/-! The parser that the program is run with is as documented. It reads options as the values that they set, one after
the other, however each is spelled. -/
namespace Thermowire.Host

section Line
variable {text : Text} {number : UInt32}

theorem readLine_of_fits (fits : Fits text number) : readLine text = .ok number := by
  rw [readLine, fits]
  exact (if_pos ⟨Int.natCast_nonneg _, number.toNat_lt⟩).trans (congrArg _ (UInt32.ofNat_toNat ..))

theorem readLine_of_not_fits (unfit : ¬ ∃ number, Fits text number) : ∃ error, readLine text = .error error := by
  rw [readLine]
  split
  · exact ⟨_, rfl⟩
  · next value read =>
    refine ⟨.outOfRange value, if_neg fun inside => unfit ⟨.ofNat value.toNat, ?_⟩⟩
    rw [Fits, read, UInt32.toNat_ofNat_of_lt' inside.2, Int.toNat_of_nonneg inside.1]

end Line

section Forms
variable {name value : Text}

theorem Argument.ofText_plain (spellable : Spellable value) : ofText value = .plain value := by
  unfold ofText
  split
  · exact absurd rfl spellable.undashed
  · exact absurd rfl spellable.undashed
  · exact absurd rfl spellable.undashed
  · rfl

theorem Argument.ofText_short {letter : Char} (undashed : letter ≠ '-') (rest : Text) :
    ofText ('-' :: letter :: rest) = .short letter rest := by
  unfold ofText
  split
  · next same =>
    cases same
    exact absurd rfl undashed
  · next same =>
    cases same
    exact absurd rfl undashed
  · next same =>
    cases same
    rfl
  · next other => exact absurd rfl (other letter rest)

theorem Argument.ofText_dashes {text : Text} (written : text ≠ []) :
    ofText ('-' :: '-' :: text) =
      match text.dropWhile (· != '=') with
      | [] => .long text none
      | _ :: value => .long (text.takeWhile (· != '=')) (some value) := by
  obtain ⟨first, others, rfl⟩ := List.exists_cons_of_ne_nil written
  rfl

theorem Argument.ofText_long (written : name ≠ []) (unequal : ∀ c ∈ name, c ≠ '=') :
    ofText ('-' :: '-' :: name) = .long name none ∧
      ∀ value, ofText ('-' :: '-' :: (name ++ '=' :: value)) = .long name (some value) := by
  have passed : ∀ c ∈ name, (c != '=') = true := fun c member => bne_iff_ne.mpr (unequal c member)
  have alone : name.dropWhile (· != '=') = [] := List.dropWhile_eq_nil_iff.mpr passed
  refine ⟨?_, fun value => ?_⟩
  · rw [ofText_dashes written, alone]
  · rw [ofText_dashes (List.append_ne_nil_of_left_ne_nil written _), List.dropWhile_append_of_pos passed,
      List.takeWhile_append_of_pos passed]
    exact congrArg (Argument.long · (some value)) (List.append_nil _)

end Forms

namespace Reading
variable {reading settled after : Reading} {setting : Setting} {value : Text}

theorem settle_of_pending_eq_none (settled : reading.pending = none) : reading.settle = .ok reading := by
  rw [settle, settled]

/-- Setting an option is a wrong use, or it leaves alone what is pending. -/
theorem commit_cases (reading : Reading) (setting : Setting) (value : Text) :
    (∃ error, reading.commit setting value = .error (.usage error)) ∨
      ∃ after, reading.commit setting value = .ok after ∧ after.pending = reading.pending := by
  cases setting with
  | chip =>
    rw [commit]
    split
    · exact .inl ⟨_, rfl⟩
    · exact .inr ⟨_, rfl, rfl⟩
  | line =>
    rw [commit]
    split
    · exact .inl ⟨_, rfl⟩
    · split
      · exact .inr ⟨_, rfl, rfl⟩
      · exact .inl ⟨_, rfl⟩

theorem pending_of_commit (committed : reading.commit setting value = .ok after) : after.pending = reading.pending := by
  rcases reading.commit_cases setting value with ⟨error, same⟩ | ⟨other, same, pending⟩
  · rw [same] at committed
    cases committed
  · rw [same] at committed
    cases committed
    exact pending

theorem pending_of_settle (settles : reading.settle = .ok settled) : settled.pending = none := by
  revert settles
  rw [settle]
  split
  · next none =>
    rintro ⟨⟩
    exact none
  · nofun
  · exact fun committed => pending_of_commit committed

theorem attached_eq (spellable : Spellable value) : attached value = some value := by
  unfold attached
  split
  · exact absurd rfl spellable.nonempty
  · exact absurd rfl spellable.unequal
  · rfl

def commitAll (options : List Given) (reading : Reading) : Except Halt Reading :=
  options.foldlM (fun reading given => reading.commit given.setting given.value) reading

theorem commitAll_respell (options : List Given) (spelling : Spelling) :
    commitAll (options.map (·.respell spelling)) = commitAll options := by
  funext reading
  exact List.foldlM_map ..

section Declared
variable {declared : Setting → Declaration}

theorem readAll_of_short {text rest : Text} {letter : Char} (form : Argument.ofText text = .short letter rest)
    (others : List Text) (reading : Reading) :
    readAll declared (text :: others) reading = reading.readShort declared letter rest >>= readAll declared others := by
  rw [readAll.eq_def]
  dsimp only
  rw [form]

theorem readAll_of_long {text name : Text} {value : Option Text} (form : Argument.ofText text = .long name value)
    (others : List Text) (reading : Reading) :
    readAll declared (text :: others) reading = reading.readLong declared name value >>= readAll declared others := by
  rw [readAll.eq_def]
  dsimp only
  rw [form]

theorem readAll_value (setting : Setting) (spellable : Spellable value) (others : List Text) (reading : Reading) :
    reading.readSetting setting none >>= readAll declared (value :: others) =
      reading.settle >>= fun settled =>
        readAll declared others { settled with pending := some (setting, some value) } := by
  rw [readSetting, bind_assoc]
  refine bind_congr fun settled => ?_
  change readAll declared (value :: others) { settled with pending := some (setting, none) } = _
  rw [readAll.eq_def]
  dsimp only
  rw [Argument.ofText_plain spellable]
  rfl

variable (clear : Unambiguous declared)
include clear

theorem readShort_letter (setting : Setting) (rest : Text) (reading : Reading) :
    reading.readShort declared (declared setting).letter rest = reading.readSetting setting (attached rest) := by
  cases setting with
  | chip => exact if_pos rfl
  | line =>
    have apart : (declared .line).letter ≠ (declared .chip).letter := by
      have letters := clear.letters
      simp only [List.nodup_cons, List.mem_cons] at letters
      exact fun same => letters.2.2.1 (.inl same.symm)
    exact (if_neg apart).trans (if_pos rfl)

theorem readLong_name (setting : Setting) (value : Option Text) (reading : Reading) :
    reading.readLong declared (declared setting).name value = reading.readSetting setting value := by
  cases setting with
  | chip => exact if_pos rfl
  | line =>
    have apart : (declared .line).name ≠ (declared .chip).name := by
      have names := clear.names
      simp only [List.nodup_cons, List.mem_cons] at names
      exact fun same => names.2.2.1 (.inl same.symm)
    exact (if_neg apart).trans (if_pos rfl)

theorem readAll_short (setting : Setting) (rest : Text) (others : List Text) (reading : Reading) :
    readAll declared (('-' :: (declared setting).letter :: rest) :: others) reading =
      reading.readSetting setting (attached rest) >>= readAll declared others := by
  have undashed : (declared setting).letter ≠ '-' := by
    intro dash
    have alphabetic := clear.alphabetic setting
    rw [dash] at alphabetic
    exact absurd alphabetic (by decide)
  rw [readAll_of_short (Argument.ofText_short undashed rest), readShort_letter clear]

theorem readAll_long (setting : Setting) (others : List Text) (reading : Reading) :
    readAll declared (('-' :: '-' :: (declared setting).name) :: others) reading =
        reading.readSetting setting none >>= readAll declared others ∧
      ∀ value, readAll declared (('-' :: '-' :: ((declared setting).name ++ '=' :: value)) :: others) reading =
        reading.readSetting setting (some value) >>= readAll declared others := by
  obtain ⟨written, alphabetic⟩ := clear.word setting
  have unequal : ∀ c ∈ (declared setting).name, c ≠ '=' := by
    rintro _ member rfl
    exact absurd (alphabetic _ member) (by decide)
  refine ⟨?_, fun value => ?_⟩
  · rw [readAll_of_long (Argument.ofText_long written unequal).1, readLong_name clear]
  · rw [readAll_of_long ((Argument.ofText_long written unequal).2 value), readLong_name clear]

/-- An option that is read is set at once, or it is left pending with its value. -/
theorem readAll_given (given : Given) (others : List Text) (reading : Reading) :
    readAll declared (given.write declared ++ others) reading =
        (reading.settle >>= fun settled => settled.commit given.setting given.value >>= readAll declared others) ∨
      readAll declared (given.write declared ++ others) reading =
        (reading.settle >>= fun settled =>
          readAll declared others { settled with pending := some (given.setting, some given.value) }) := by
  obtain ⟨setting, value, spelling, spellable⟩ := given
  have atOnce : reading.readSetting setting (some value) >>= readAll declared others =
      reading.settle >>= fun settled => settled.commit setting value >>= readAll declared others := bind_assoc ..
  have apart : _ = reading.settle >>= fun settled => readAll declared others _ :=
    readAll_value setting spellable others reading
  cases spelling with
  | shortAttached => exact .inl ((readAll_short clear ..).trans ((attached_eq spellable).symm ▸ atOnce))
  | shortEquals => exact .inl ((readAll_short clear ..).trans atOnce)
  | longEquals => exact .inl (((readAll_long clear ..).2 value).trans atOnce)
  | shortApart => exact .inr ((readAll_short clear ..).trans apart)
  | longApart => exact .inr ((readAll_long clear ..).1.trans apart)

/-- An option is set before anything follows, be it at once or when the next one is read. -/
theorem settle_given (given : Given) {others : List Text} {follow : Reading → Except Halt Reading}
    (follows : ∀ reading, readAll declared others reading >>= settle = reading.settle >>= follow) (reading : Reading) :
    readAll declared (given.write declared ++ others) reading >>= settle =
      reading.settle >>= fun settled => settled.commit given.setting given.value >>= follow := by
  have read := readAll_given clear given others reading
  cases settles : reading.settle with
  | error halt =>
    rw [settles] at read
    rcases read with read | read
    · rw [read]
      rfl
    · rw [read]
      rfl
  | ok settled =>
    rw [settles] at read
    change _ = settled.commit given.setting given.value >>= follow
    rcases read with read | read
    · rw [read]
      change (settled.commit given.setting given.value >>= readAll declared others) >>= settle = _
      rw [bind_assoc]
      cases committed : settled.commit given.setting given.value with
      | error halt => rfl
      | ok after =>
        have unpending := (pending_of_commit committed).trans (pending_of_settle settles)
        refine (follows after).trans ?_
        rw [settle_of_pending_eq_none unpending]
    · -- the option that is left pending is set by whatever settles it
      rw [read]
      have unpending : { settled with pending := none } = settled := by rw [← pending_of_settle settles]
      refine (follows _).trans ?_
      change { settled with pending := none }.commit given.setting given.value >>= follow = _
      rw [unpending]

theorem settle_readAll (options : List Given) (reading : Reading) :
    readAll declared (commandLine declared options) reading >>= settle = reading.settle >>= commitAll options := by
  induction options generalizing reading with
  | nil => exact (bind_pure reading.settle).symm
  | cons given rest ih => exact settle_given clear given ih reading

/-- How options are spelled has no part in what they say. -/
theorem readArguments_eq (options : List Given) :
    readArguments declared (commandLine declared options) = commitAll options {} >>= complete declared := by
  have settled := settle_readAll clear options {}
  have read : readArguments declared (commandLine declared options) =
      (readAll declared (commandLine declared options) {} >>= settle) >>= complete declared :=
    (bind_assoc ..).symm
  rw [read, settled]
  rfl

end Declared

section Complete
variable {declared : Setting → Declaration} {number : UInt32}

theorem commit_line (reading : Reading) (unset : reading.line = none) (fits : Fits value number) :
    reading.commit .line value = .ok { reading with line := some number } := by
  rw [commit, unset, readLine_of_fits fits]
  rfl

theorem fallBack_chip (reading : Reading) : reading.fallBack declared .chip =
    .ok { reading with chip := reading.chip.or (declared .chip).fallback } := by
  obtain ⟨chip, line, pending⟩ := reading
  unfold fallBack
  cases (declared .chip).fallback <;> cases chip <;> rfl

theorem fallBack_line (reading : Reading) (line : reading.line = some number ∨
      reading.line = none ∧ ∃ text, (declared .line).fallback = some text ∧ Fits text number) :
    reading.fallBack declared .line = .ok { reading with line := some number } := by
  obtain ⟨chip, line, pending⟩ := reading
  unfold fallBack
  rcases line with rfl | ⟨rfl, text, fallback, fits⟩
  · cases (declared .line).fallback <;> rfl
  · rw [fallback]
    exact commit_line { chip, line := none, pending } rfl fits

theorem complete_eq {name : Text} (reading : Reading) (chip : reading.chip.or (declared .chip).fallback = some name)
    (line : reading.line = some number ∨
      reading.line = none ∧ ∃ text, (declared .line).fallback = some text ∧ Fits text number) :
    reading.complete declared = .ok { chip := name, line := number } := by
  rw [complete, fallBack_chip, chip]
  change (fallBack declared .line { reading with chip := some name } >>= _) = _
  rw [fallBack_line { reading with chip := some name } line]
  rfl

theorem complete_commitAll {options : List Given} {name offset : Text} (once : (options.map Given.setting).Nodup)
    (chip : valueOf declared options .chip = some name) (line : valueOf declared options .line = some offset)
    (fits : Fits offset number) :
    commitAll options {} >>= complete declared = .ok { chip := name, line := number } := by
  rcases options with _ | ⟨⟨setting, value, _, _⟩, _ | ⟨⟨other, value', _, _⟩, _ | ⟨⟨third, _, _, _⟩, rest⟩⟩⟩
  · exact complete_eq {} chip (.inr ⟨rfl, offset, line, fits⟩)
  · cases setting with
    | chip =>
      cases chip
      exact complete_eq _ rfl (.inr ⟨rfl, offset, line, fits⟩)
    | line =>
      cases line
      change (commit {} .line value >>= pure) >>= complete declared = _
      rw [commit_line _ rfl fits]
      exact complete_eq _ chip (.inl rfl)
  · cases setting with
    | chip =>
      cases other with
      | chip => simp at once
      | line =>
        cases chip
        cases line
        change (commit { chip := some value } .line value' >>= pure) >>= complete declared = _
        rw [commit_line _ rfl fits]
        exact complete_eq _ rfl (.inl rfl)
    | line =>
      cases other with
      | chip =>
        cases chip
        cases line
        change (commit {} .line value >>= fun reading => reading.commit .chip value' >>= pure) >>= complete declared = _
        rw [commit_line _ rfl fits]
        exact complete_eq _ rfl (.inl rfl)
      | line => simp at once
  · -- there are but two options to set
    cases setting <;> cases other <;> cases third <;> simp at once

theorem commitAll_of_not_fits {options : List Given} {given : Given} (member : given ∈ options)
    (line : given.setting = .line) (unfit : ¬ ∃ number, Fits given.value number) (reading : Reading) :
    ∃ error, commitAll options reading = .error (.usage error) := by
  induction options generalizing reading with
  | nil => cases member
  | cons first rest ih =>
    change ∃ error, (reading.commit first.setting first.value >>= commitAll rest) = .error (.usage error)
    rcases reading.commit_cases first.setting first.value with ⟨error, refused⟩ | ⟨after, committed, -⟩
    · rw [refused]
      exact ⟨error, rfl⟩
    · rw [committed]
      rcases List.mem_cons.mp member with rfl | later
      · obtain ⟨error, refused⟩ := readLine_of_not_fits unfit
        rw [line, commit, refused] at committed
        split at committed <;> cases committed
      · exact ih later after

end Complete
end Reading

theorem parseOptions_eq {declared : Setting → Declaration} (clear : Unambiguous declared) (options : List Given) :
    parseOptions declared (commandLine declared options) =
      (Reading.commitAll options {} >>= Reading.complete declared).mapError (Halt.exit declared) :=
  congrArg _ (Reading.readArguments_eq clear options)

theorem parseOptions_interchangeable (first second : Spelling) : parseOptions.Interchangeable first second := by
  intro declared clear before given after
  rw [parseOptions_eq clear, parseOptions_eq clear, Reading.commitAll, Reading.commitAll, List.foldlM_append,
    List.foldlM_append]
  rfl

theorem parseOptions_documented : parseOptions.Documented where
  short := parseOptions_interchangeable _ _
  longEquals := parseOptions_interchangeable _ _
  shortEquals := parseOptions_interchangeable _ _
  shortAttached := parseOptions_interchangeable _ _
  accepted declared clear options once chip line number hasChip hasLine fits := by
    rw [parseOptions_eq clear, Reading.commitAll_respell, Reading.complete_commitAll once hasChip hasLine fits]
    rfl
  refused declared clear options given member line unfit := by
    obtain ⟨error, refused⟩ := Reading.commitAll_of_not_fits member line unfit {}
    rw [parseOptions_eq clear, Reading.commitAll_respell, refused]
    exact ⟨_, rfl, rfl⟩

end Thermowire.Host
