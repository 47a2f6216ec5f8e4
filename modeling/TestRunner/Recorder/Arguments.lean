import TestRunner.Getopt
import TestRunner.Server.Length

/-! The command line of the recorder's own program, and the recorder that `main()` makes of it. -/
namespace TestRunner.Recorder

open Getopt Server

variable {X : Type}

def letter (c : Char) : UInt8 := UInt8.ofNat c.toNat

def word (cs : List Char) : List UInt8 := cs.map letter

/-- `filename` is a pointer, null when it is none. -/
structure Args where
  filename : Option (List UInt8)
  recordLength : Int32
  continuous : Bool
  deriving DecidableEq, Repr

def argumentDefaults : Args where
  filename := some (word ['c', 'm', 'd', '_', 'f', 'i', 'l', 'e', '_', 'r', 'e', 'c', 'o', 'r', 'd', 'e', 'r'])
  recordLength := 30
  continuous := false

/-- The option string "hb:cf:" and `long_options`. -/
def options : Table UInt8 where
  dash := letter '-'
  equals := letter '='
  short := [(letter 'h', .no), (letter 'b', .required), (letter 'c', .no), (letter 'f', .required)]
  long := [⟨word ['h', 'e', 'l', 'p'], .no, letter 'h'⟩,
    ⟨word ['f', 'i', 'l', 'e', 'n', 'a', 'm', 'e'], .no, letter 'f'⟩,
    ⟨word ['b', 'u', 'f', 'f', 'e', 'r'], .no, letter 'b'⟩,
    ⟨word ['c', 'o', 'n', 't', 'i', 'n', 'u', 'o', 'u', 's'], .no, letter 'c'⟩]
  undeclared := by decide

def isSpace (c : UInt8) : Bool := c = letter ' ' ∨ (9 ≤ c ∧ c ≤ 13)

def isDigit (c : UInt8) : Bool := letter '0' ≤ c ∧ c ≤ letter '9'

/-- The number that begins a text. -/
def magnitude (text : List UInt8) : Nat :=
  (text.takeWhile isDigit).foldl (fun n c => 10 * n + (c.toNat - (letter '0').toNat)) 0

/-- `strtol` to the base of ten, with a `long` of 64 bits. -/
def strtol (text : List UInt8) : Int :=
  let value : Int := match text.dropWhile isSpace with
    | [] => 0
    | c :: rest => if c = letter '-' then -(magnitude rest)
      else if c = letter '+' then magnitude rest else magnitude (c :: rest)
  max (-2 ^ 63) (min (2 ^ 63 - 1) value)

/-- How the program ends before there is a recorder. -/
inductive Refused where
  | exit (success : Bool)
  | nullPointer
  deriving DecidableEq, Repr

/-- The `switch` of `parse_args`; `strtol` takes no null pointer. -/
def Args.switch (args : Args) : Token UInt8 → Except Refused Args
  | .unknown => .error (.exit false)
  | .option ch optarg =>
    if ch = letter 'f' then .ok { args with filename := optarg }
    else if ch = letter 'b' then
      match optarg with
      | some text => .ok { args with recordLength := Int32.ofInt (strtol text) }
      | none => .error .nullPointer
    else if ch = letter 'c' then .ok { args with continuous := true }
    else .error (.exit (ch = letter 'h'))

/-- The words are those behind the name of the program. -/
def parseArgs (posixlyCorrect : Bool) (words : List (List UInt8)) : Except Refused Args :=
  (options.getoptLong posixlyCorrect words).foldlM Args.switch argumentDefaults

/-- `main()` up to the constructor, which makes a string of the name. -/
def launch (fileTimestamp : Int → String) (host : Host X) (posixlyCorrect : Bool)
    (words : List (List UInt8)) : Except Refused (Config X) := do
  let args ← parseArgs posixlyCorrect words
  match args.filename with
  | some filename => .ok (recorderConfig fileTimestamp filename args.recordLength.toUInt32
      args.continuous host)
  | none => .error .nullPointer

/-- What the options of a command line ask for, the last of a kind, on top of what is set before. -/
def Args.asked (args : Args) (os : List (Opt UInt8)) : Args where
  filename := ((lastOf (letter 'f') os).map id).getD args.filename
  recordLength :=
    ((lastOf (letter 'b') os).map fun a => Int32.ofInt (strtol (a.getD []))).getD args.recordLength
  continuous := ((lastOf (letter 'c') os).map fun _ => true).getD args.continuous

/-- An option that sets something, a length with its number. -/
def Setting (o : Opt UInt8) : Prop :=
  o.1 = letter 'f' ∨ o.1 = letter 'c' ∨ o.1 = letter 'b' ∧ o.2 ≠ none

inductive Switched (args : Args) : Opt UInt8 → Args → Prop where
  | filename (optarg : Option (List UInt8)) :
      Switched args (letter 'f', optarg) { args with filename := optarg }
  | length (text : List UInt8) :
      Switched args (letter 'b', some text) { args with recordLength := Int32.ofInt (strtol text) }
  | continuous (optarg : Option (List UInt8)) :
      Switched args (letter 'c', optarg) { args with continuous := true }

theorem switched {args args' : Args} {o : Opt UInt8} (ok : args.switch o.token = .ok args') :
    Switched args o args' := by
  obtain ⟨ch, optarg⟩ := o
  simp only [Opt.token, Args.switch] at ok
  split at ok
  · rename_i same
    obtain rfl := same
    obtain rfl := Except.ok.inj ok
    exact .filename optarg
  · split at ok
    · rename_i same
      obtain rfl := same
      cases optarg with
      | none => cases ok
      | some text =>
        obtain rfl := Except.ok.inj ok
        exact .length text
    · split at ok
      · rename_i same
        obtain rfl := same
        obtain rfl := Except.ok.inj ok
        exact .continuous optarg
      · cases ok

theorem setting_iff (args : Args) (o : Opt UInt8) :
    (∃ args', args.switch o.token = .ok args') ↔ Setting o := by
  constructor
  · rintro ⟨args', ok⟩
    cases switched ok with
    | filename optarg => exact .inl rfl
    | length text => exact .inr (.inr ⟨rfl, nofun⟩)
    | continuous optarg => exact .inr (.inl rfl)
  · obtain ⟨ch, optarg⟩ := o
    rintro (rfl | rfl | ⟨rfl, given⟩)
    · exact ⟨_, rfl⟩
    · exact ⟨_, rfl⟩
    · obtain ⟨text, rfl⟩ := Option.ne_none_iff_exists'.mp given
      exact ⟨_, rfl⟩

theorem asked_of_switch (args args' : Args) (os : List (Opt UInt8))
    (ran : (os.map Opt.token).foldlM Args.switch args = .ok args') : args' = args.asked os := by
  have filename := foldlM_field Args.filename id (letter 'f')
    (fun s o s' ok => by cases switched ok <;> rfl) ran
  have length := foldlM_field Args.recordLength (fun a => Int32.ofInt (strtol (a.getD []))) (letter 'b')
    (fun s o s' ok => by cases switched ok <;> rfl) ran
  have continuous := foldlM_field Args.continuous (fun _ => true) (letter 'c')
    (fun s o s' ok => by cases switched ok <;> rfl) ran
  cases args'
  simp_all [Args.asked]

section Launched

variable {fileTimestamp : Int → String} {host : Host X} {posixlyCorrect : Bool}
  {words : List (List UInt8)}

theorem parseArgs_iff {args : Args} : parseArgs posixlyCorrect words = .ok args ↔
    ∃ os, CommandLine options posixlyCorrect os words ∧ (∀ o ∈ os, Setting o) ∧
      args = argumentDefaults.asked os :=
  have refuses (args : Args) : ∃ e, args.switch .unknown = .error e := ⟨_, rfl⟩
  loop_ok_iff refuses setting_iff asked_of_switch

theorem launch_iff {cfg : Config X} :
    launch fileTimestamp host posixlyCorrect words = .ok cfg ↔
      ∃ args filename, parseArgs posixlyCorrect words = .ok args ∧ args.filename = some filename ∧
        cfg = recorderConfig fileTimestamp filename args.recordLength.toUInt32 args.continuous host := by
  unfold launch
  cases parsed : parseArgs posixlyCorrect words with
  | error e => simp [bind, Except.bind]
  | ok args => cases named : args.filename <;> simp [bind, Except.bind, named, eq_comm]

/-- An option that is a letter with an argument comes without one under its name only. -/
theorem named_of_found {c : UInt8} (full : List UInt8)
    (declared : options.short.lookup c = some .required)
    (only : ∀ l ∈ options.long, l.val = c → l.name = full)
    (inside : .option c none ∈ options.getoptLong posixlyCorrect words) :
    ∃ name, letter '-' :: letter '-' :: name ∈ words ∧ name ≠ [] ∧ name <+: full := by
  rcases bare_of_found inside with flag | ⟨name, l, here, filled, named, -, val⟩
  · simp [declared] at flag
  · obtain ⟨known, begun⟩ := longOption_of_some named
    exact ⟨name, here, filled, only l known val ▸ begun⟩

theorem switch_null {args : Args} {x : Token UInt8} (null : args.switch x = .error .nullPointer) :
    x = .option (letter 'b') none := by
  cases x with
  | unknown => cases null
  | option ch optarg =>
    simp only [Args.switch] at null
    split at null
    · cases null
    · split at null
      · rename_i same
        cases optarg with
        | none => rw [same]
        | some text => cases null
      · split at null <;> cases null

/-- The program uses a null pointer only if the name of a setting with an argument, or its beginning,
is among the words: in the table these take none. -/
theorem null_pointer_named
    (null : launch fileTimestamp host posixlyCorrect words = .error .nullPointer) :
    ∃ name, letter '-' :: letter '-' :: name ∈ words ∧ name ≠ [] ∧
      (name <+: word ['f', 'i', 'l', 'e', 'n', 'a', 'm', 'e'] ∨
        name <+: word ['b', 'u', 'f', 'f', 'e', 'r']) := by
  unfold launch at null
  cases parsed : parseArgs posixlyCorrect words with
  | error e =>
    obtain rfl : e = .nullPointer := by simpa [parsed, bind, Except.bind] using null
    obtain ⟨x, inside, args, refused⟩ := foldlM_error parsed
    obtain ⟨name, here, filled, begun⟩ := named_of_found (word ['b', 'u', 'f', 'f', 'e', 'r'])
      (by decide) (by decide) (switch_null refused ▸ inside)
    exact ⟨name, here, filled, .inr begun⟩
  | ok args =>
    obtain ⟨os, line, settings, rfl⟩ := parseArgs_iff.mp parsed
    have last : lastOf (letter 'f') os = some none := by
      cases last : lastOf (letter 'f') os with
      | none => simp [parsed, bind, Except.bind, Args.asked, last, argumentDefaults] at null
      | some optarg =>
        cases optarg with
        | none => rfl
        | some filename => simp [parsed, bind, Except.bind, Args.asked, last] at null
    have inside : .option (letter 'f') none ∈ options.getoptLong posixlyCorrect words :=
      getoptLong_eq_iff.mpr line ▸ List.mem_map.mpr ⟨_, lastOf_mem last, rfl⟩
    obtain ⟨name, here, filled, begun⟩ := named_of_found
      (word ['f', 'i', 'l', 'e', 'n', 'a', 'm', 'e']) (by decide) (by decide) inside
    exact ⟨name, here, filled, .inl begun⟩

theorem null_pointer_buffer : ∃ name, letter '-' :: letter '-' :: name ∈ [word ['-', '-', 'b', 'u', 'f']] ∧
    name ≠ [] ∧ (name <+: word ['f', 'i', 'l', 'e', 'n', 'a', 'm', 'e'] ∨
      name <+: word ['b', 'u', 'f', 'f', 'e', 'r']) :=
  @null_pointer_named Unit (fun _ => "t") Registry.keyboardHost false _ rfl

end Launched

theorem letter_toNat {c : Char} (byte : c.toNat < 256) : (letter c).toNat = c.toNat := by
  simp only [letter, UInt8.toNat_ofNat']
  omega

theorem isDigit_letter {c : Char} (digit : c.isDigit = true) :
    (letter c).toNat = c.toNat ∧ isDigit (letter c) = true ∧ isSpace (letter c) = false ∧
      letter c ≠ letter '-' ∧ letter c ≠ letter '+' := by
  have bounds : 48 ≤ c.toNat ∧ c.toNat ≤ 57 := by
    simpa [Char.isDigit, UInt32.le_iff_toNat_le] using digit
  have same : (letter c).toNat = c.toNat := letter_toNat (by omega)
  have other {d : Char} (apart : (letter d).toNat < 48) : letter c ≠ letter d := by
    intro here
    rw [here] at same
    omega
  refine ⟨same, ?_, ?_, other (by decide), other (by decide)⟩
  · have ends : (letter '0').toNat = 48 ∧ (letter '9').toNat = 57 := by decide
    simpa [isDigit, UInt8.le_iff_toNat_le, same, ends] using bounds
  · have space : letter c ≠ letter ' ' := other (by decide)
    simp only [isSpace, space, false_or, decide_eq_false_iff_not, UInt8.le_iff_toNat_le, same]
    rintro ⟨-, low⟩
    simp at low
    omega

theorem magnitude_digits {digits : List Char} (all : ∀ c ∈ digits, c.isDigit = true) :
    magnitude (word digits) = Nat.ofDigitChars 10 digits 0 := by
  have whole : (word digits).takeWhile isDigit = word digits := by
    refine List.takeWhile_eq_self_iff.mpr fun b inside => ?_
    obtain ⟨c, digit, rfl⟩ := List.mem_map.mp inside
    exact (isDigit_letter (all c digit)).2.1
  rw [magnitude, whole, Nat.ofDigitChars_eq_foldl, word, List.foldl_map]
  clear whole
  generalize 0 = sofar
  induction digits generalizing sofar with
  | nil => rfl
  | cons c digits ih =>
    obtain ⟨digit, rest⟩ := List.forall_mem_cons.mp all
    rw [List.foldl_cons, List.foldl_cons, (isDigit_letter digit).1]
    exact ih rest _

theorem strtol_toDigits (n : Nat) :
    strtol (word (Nat.toDigits 10 n)) = (min n (2 ^ 63 - 1) : Nat) := by
  have all : ∀ c ∈ Nat.toDigits 10 n, c.isDigit = true := fun c inside =>
    Nat.isDigit_of_mem_toDigits (by decide) (by decide) inside
  have value := magnitude_digits all
  rw [Nat.ofDigitChars_ten_toDigits] at value
  cases digits : Nat.toDigits 10 n with
  | nil =>
    have some : 0 < (Nat.toDigits 10 n).length := Nat.length_toDigits_pos
    simp [digits] at some
  | cons c rest =>
    obtain ⟨-, -, space, minus, plus⟩ := isDigit_letter (all c (digits ▸ List.mem_cons_self))
    rw [digits] at value
    have start : (word (c :: rest)).dropWhile isSpace = word (c :: rest) := by
      simp [word, space]
    unfold strtol
    rw [start]
    simp only [word, List.map_cons] at value ⊢
    rw [if_neg minus, if_neg plus, value]
    omega

/-- The words that ask for a name, a length and continuous recording. -/
def commandLine (filename : List UInt8) (seconds : Nat) (continuous : Bool) : List (List UInt8) :=
  [word ['-', 'f'], filename] ++ ([word ['-', 'b'], word (Nat.toDigits 10 seconds)] ++
    if continuous then [word ['-', 'c']] else [])

/-- The recorder is the one that is asked for, for any bytes as its name, and the length is the one
that is asked for if and only if its milliseconds fit. -/
theorem command_line_round_trip (fileTimestamp : Int → String) (host : Host X) (posixlyCorrect : Bool)
    (filename : List UInt8) (seconds : Nat) (continuous : Bool) :
    ∃ length, launch fileTimestamp host posixlyCorrect (commandLine filename seconds continuous) =
        .ok (recorderConfig fileTimestamp filename length continuous host) ∧
      ((recorderConfig fileTimestamp filename length continuous host).length = seconds * 1000 ↔
        seconds * 1000 < 2 ^ 32) := by
  let last : List (Opt UInt8) := if continuous then [(letter 'c', none)] else []
  let os : List (Opt UInt8) := [(letter 'f', some filename)] ++
    ([(letter 'b', some (word (Nat.toDigits 10 seconds)))] ++ last)
  have flag : CommandLine options posixlyCorrect last (if continuous then [word ['-', 'c']] else []) := by
    cases continuous with
    | false => exact .nil
    | true => exact .spelled (.letter (by decide)) .nil
  have line : CommandLine options posixlyCorrect os (commandLine filename seconds continuous) :=
    .spelled (.setting (by decide) _) (.spelled (.setting (by decide) _) flag)
  have settings : ∀ o ∈ os, Setting o := by
    cases continuous <;> simp [Setting, os, last]
  have other : letter 'f' ≠ letter 'b' ∧ letter 'f' ≠ letter 'c' ∧ letter 'b' ≠ letter 'c' := by decide
  have asked : argumentDefaults.asked os =
      ⟨some filename, Int32.ofNat (min seconds (2 ^ 63 - 1)), continuous⟩ := by
    rw [← Int32.ofInt_eq_ofNat, ← strtol_toDigits]
    cases continuous <;>
      simp [Args.asked, os, last, lastOf, other, Ne.symm other.1, Ne.symm other.2.1, Ne.symm other.2.2,
        argumentDefaults]
  have parsed : parseArgs posixlyCorrect (commandLine filename seconds continuous) = .ok _ :=
    parseArgs_iff.mpr ⟨os, line, settings, asked.symm⟩
  refine ⟨_, launch_iff.mpr ⟨_, filename, parsed, rfl, rfl⟩, ?_⟩
  rw [recorderConfig_length, milliseconds, Int32.toUInt32_ofNat', UInt32.toNat_ofNat']
  omega

end TestRunner.Recorder
